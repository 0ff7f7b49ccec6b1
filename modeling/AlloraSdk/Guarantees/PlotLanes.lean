import AlloraSdk.Source.Tools.LifecyclePlot

/-!
# The bars of the lifecycle plot

Every window is drawn once, on one of twenty lanes, and two bars of a lane keep
apart unless one of them found every lane taken and fell back to lane 0.
-/

namespace AlloraSdk.Guarantees
open AlloraSdk.Logic AlloraSdk.Source.Tools

section Panel

variable {isWorker : Bool} {heightRange : ℤ} {windows : List Window}

/-- One ends before the other begins, with room between them. -/
def KeepApart (buffer : ℚ) (a b : Bar) : Prop :=
  a.endHeight + buffer ≤ b.startHeight ∨ b.endHeight + buffer ≤ a.startHeight

theorem overlaps_eq_false {buffer : ℚ} {a b : Bar} : overlaps buffer a b = false ↔ KeepApart buffer a b := by
  rw [overlaps, Bool.not_eq_false', Bool.or_eq_true, decide_eq_true_eq, decide_eq_true_eq, KeepApart]

/-- On every lane an earlier bar was in the way, and the bar went to lane 0. -/
structure FellBack (buffer : ℚ) (earlier : List (Bar × ℕ)) (bar : Bar) (lane : ℕ) : Prop where
  bottom : lane = 0
  everywhere : ∀ taken < maxLanes, ∃ p ∈ earlier, p.2 = taken ∧ ¬ KeepApart buffer bar p.1
  crowded : maxLanes ≤ (earlier.map Prod.fst).countP (overlaps buffer bar)

/-- `placeBars` is first fit, with lane 0 for what fits nowhere. -/
theorem placeBars_eq (lanes : List (List Bar)) (bars : List Bar) :
    placeBars isWorker lanes bars =
      (placeAll (overlaps (labelBuffer isWorker)) maxLanes lanes bars).map fun p => (p.1, p.2.getD 0) := by
  induction bars generalizing lanes with
  | nil => rfl
  | cons bar rest ih =>
    rw [placeBars, placeAll, findAvailableLane]
    cases found : firstFit (overlaps (labelBuffer isWorker)) maxLanes lanes bar with
    | none =>
      dsimp only [Option.getD_none]
      rw [ih]
      rfl
    | some place =>
      dsimp only [Option.getD_some]
      rw [ih]
      rfl

/-- A bar, with those before it: its lane is one of twenty, an earlier bar is on
each lane below, and it is no higher than the number of earlier bars in its way. -/
structure Placed (isWorker : Bool) (earlier : List (Bar × ℕ)) (bar : Bar) (lane : ℕ) : Prop where
  within : lane < maxLanes
  dense : ∀ lower < lane, ∃ p ∈ earlier, p.2 = lower
  below : lane ≤ (earlier.map Prod.fst).countP (overlaps (labelBuffer isWorker) bar)

/-- What is drawn for windows. -/
structure PanelClear (isWorker : Bool) (heightRange : ℤ) (windows : List Window) (panel : List (Bar × ℕ)) :
    Prop where
  drawn : panel.map Prod.fst = windows.map (barOf heightRange)
  placed : ∀ before p after, panel = before ++ p :: after → Placed isWorker before p.1 p.2
  clear : ∀ before p middle q after, panel = before ++ p :: (middle ++ q :: after) → p.2 = q.2 →
    KeepApart (labelBuffer isWorker) q.1 p.1 ∨ FellBack (labelBuffer isWorker) before p.1 p.2 ∨
      FellBack (labelBuffer isWorker) (before ++ p :: middle) q.1 q.2

variable {earlier : List (Bar × Option ℕ)} {bar : Bar}

/-- Where the plot puts it. -/
def drawnAt (p : Bar × Option ℕ) : Bar × ℕ := (p.1, p.2.getD 0)

theorem bars_drawnAt (placed : List (Bar × Option ℕ)) : (placed.map drawnAt).map Prod.fst = placed.map Prod.fst := by
  rw [List.map_map]
  rfl

theorem placed_drawnAt {place : Option ℕ}
    (well : WellPlaced (overlaps (labelBuffer isWorker)) maxLanes earlier bar place) :
    Placed isWorker (earlier.map drawnAt) bar (place.getD 0) := by
  cases place with
  | none => exact ⟨by decide, by simp, by simp⟩
  | some lane =>
    obtain ⟨within, -, least⟩ := well
    refine ⟨within, fun lower below => ?_, ?_⟩
    · obtain ⟨y, on, -⟩ := least lower below
      exact ⟨drawnAt (y, some lower), List.mem_map_of_mem (mem_onLane.mp on), rfl⟩
    · rw [bars_drawnAt]
      exact conflicts_below least

/-- A bar that fits nowhere falls back. -/
theorem fellBack_drawnAt (nowhere : FitsNowhere (overlaps (labelBuffer isWorker)) maxLanes (onLane earlier) bar) :
    FellBack (labelBuffer isWorker) (earlier.map drawnAt) bar (drawnAt (bar, none)).2 where
  bottom := rfl
  everywhere := by
    intro lane within
    obtain ⟨y, on, clash⟩ := nowhere lane within
    refine ⟨drawnAt (y, some lane), List.mem_map_of_mem (mem_onLane.mp on), rfl, fun apart => ?_⟩
    exact Bool.false_ne_true ((overlaps_eq_false.mpr apart).symm.trans clash)
  crowded := by
    rw [bars_drawnAt]
    exact conflicts_below nowhere

/-- Two bars on the same lane: the later one was put where the earlier one left
room, unless one of them fitted nowhere. -/
theorem apart_or_fellBack {before middle : List (Bar × Option ℕ)} {p q : Bar × Option ℕ}
    (first : WellPlaced (overlaps (labelBuffer isWorker)) maxLanes before p.1 p.2)
    (second : WellPlaced (overlaps (labelBuffer isWorker)) maxLanes (before ++ p :: middle) q.1 q.2)
    (same : (drawnAt p).2 = (drawnAt q).2) :
    KeepApart (labelBuffer isWorker) q.1 p.1 ∨
      FellBack (labelBuffer isWorker) (before.map drawnAt) p.1 (drawnAt p).2 ∨
      FellBack (labelBuffer isWorker) ((before ++ p :: middle).map drawnAt) q.1 (drawnAt q).2 := by
  obtain ⟨x, place⟩ := p
  obtain ⟨y, place'⟩ := q
  cases place with
  | none => exact .inr (.inl (fellBack_drawnAt first))
  | some lane =>
    cases place' with
    | none => exact .inr (.inr (fellBack_drawnAt second))
    | some lane' =>
      cases same
      exact .inl (overlaps_eq_false.mp (second.free x (mem_onLane.mpr (by simp))))

theorem plotWindowLane_clear (isWorker : Bool) (heightRange : ℤ) (windows : List Window) :
    PanelClear isWorker heightRange windows (plotWindowLane isWorker heightRange windows) := by
  have panel : plotWindowLane isWorker heightRange windows =
      (placeAll (overlaps (labelBuffer isWorker)) maxLanes [] (windows.map (barOf heightRange))).map drawnAt :=
    placeBars_eq [] _
  have empty : laneAt ([] : List (List Bar)) = onLane [] := by
    funext lane
    rfl
  have well (before : List (Bar × Option ℕ)) (p : Bar × Option ℕ) (after : List (Bar × Option ℕ))
      (split : placeAll (overlaps (labelBuffer isWorker)) maxLanes [] (windows.map (barOf heightRange)) =
        before ++ p :: after) : WellPlaced (overlaps (labelBuffer isWorker)) maxLanes before p.1 p.2 :=
    placeAll_wellPlaced empty split
  constructor
  · rw [panel, bars_drawnAt, placeAll_items]
  · intro before p after split
    rw [panel] at split
    obtain ⟨before, rest, placed, rfl, tail⟩ := List.map_eq_append_iff.mp split
    obtain ⟨p, after, rfl, rfl, -⟩ := List.map_eq_cons_iff.mp tail
    exact placed_drawnAt (well before p after placed)
  · intro before p middle q after split same
    rw [panel] at split
    obtain ⟨before, rest, placed, rfl, first⟩ := List.map_eq_append_iff.mp split
    obtain ⟨p, rest, rfl, rfl, second⟩ := List.map_eq_cons_iff.mp first
    obtain ⟨middle, rest, rfl, rfl, third⟩ := List.map_eq_append_iff.mp second
    obtain ⟨q, after, rfl, rfl, -⟩ := List.map_eq_cons_iff.mp third
    have later := well (before ++ p :: middle) q after (by rw [placed]; simp)
    have apart := apart_or_fellBack (well before p _ placed) later same
    rwa [List.map_append, List.map_cons] at apart

end Panel

/-- Both panels, for any windows: every window of the panel's type is drawn once, in
order, on one of twenty lanes with no lane left out below it, no higher than the
number of earlier bars in its way; two bars on one lane keep apart, unless one of
them fell back to lane 0 because every lane was taken. -/
theorem plotted_bars_keep_apart {windows : List Window} {worker reputer : List (Bar × ℕ)}
    (plotted : plotWindows windows = some (worker, reputer)) :
    PanelClear true (heightRangeOf windows) (windows.filter (·.windowType = "worker")) worker ∧
      PanelClear false (heightRangeOf windows) (windows.filter (·.windowType = "reputer")) reputer := by
  unfold plotWindows at plotted
  split at plotted
  · cases plotted
  · cases plotted
    exact ⟨plotWindowLane_clear true _ _, plotWindowLane_clear false _ _⟩

/-! ## A sample -/

def newYear : Timestamp where
  fields := ⟨2026, 1, 1, 0, 0, 0⟩
  valid := by decide

def closedWindow (startHeight endHeight : ℤ) : Window where
  windowType := "worker"
  nonce := startHeight
  startTime := newYear
  endTime := some newYear
  startHeight := startHeight
  endHeight := some endHeight

def threeWindows : List Window := [closedWindow 100 110, closedWindow 105 115, closedWindow 140 150]

/-- The second bar overlaps the first and moves up; the third one is back on lane 0. -/
theorem plotted_bars_keep_apart_sample : ∃ first second third,
    plotWindows threeWindows = some ([(first, 0), (second, 1), (third, 0)], []) ∧
    (KeepApart 20 third first ∨ FellBack 20 [] first 0 ∨ FellBack 20 [(first, 0), (second, 1)] third 0) := by
  have plotted : plotWindows threeWindows = some
      ([(⟨closedWindow 100 110, 100, 10⟩, 0), (⟨closedWindow 105 115, 105, 10⟩, 1),
        (⟨closedWindow 140 150, 140, 10⟩, 0)], []) := by decide +kernel
  obtain ⟨worker, -⟩ := plotted_bars_keep_apart plotted
  exact ⟨_, _, _, plotted, worker.clear [] _ [_] _ [] rfl rfl⟩

end AlloraSdk.Guarantees
