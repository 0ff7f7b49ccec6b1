import Mathlib.Data.List.Nodup
import Mathlib.Data.List.Perm.Subperm
import Mathlib.Data.List.Range

/-!
# First fit

Items come one after the other. Each goes to the first of `limit` lanes where it
conflicts with nothing, and to none when there is no such lane. What is on a lane
is then free of conflicts, an item on lane `k` conflicts with an earlier item of
every lane below, and one that found no lane with `limit` earlier items.
-/

namespace AlloraSdk.Logic

variable {α : Type} {conflicts : α → α → Bool}

/-- The lane of an item, and the lanes with it. -/
def firstFit (conflicts : α → α → Bool) : ℕ → List (List α) → α → Option (ℕ × List (List α))
  | 0, _, _ => none
  | _ + 1, [], x => some (0, [[x]])
  | n + 1, lane :: lanes, x =>
    if lane.any (conflicts x) then
      (firstFit conflicts n lanes x).map fun found => (found.1 + 1, lane :: found.2)
    else some (0, (lane ++ [x]) :: lanes)

def laneAt (lanes : List (List α)) (lane : ℕ) : List α := (lanes[lane]?).getD []

/-- Where `x` went, given what `on` each lane was. -/
structure FitsAt (conflicts : α → α → Bool) (limit : ℕ) (on : ℕ → List α) (x : α) (lane : ℕ) : Prop where
  within : lane < limit
  free : ∀ y ∈ on lane, conflicts x y = false
  least : ∀ lower < lane, ∃ y ∈ on lower, conflicts x y = true

/-- There was no place for `x`. -/
def FitsNowhere (conflicts : α → α → Bool) (limit : ℕ) (on : ℕ → List α) (x : α) : Prop :=
  ∀ lane < limit, ∃ y ∈ on lane, conflicts x y = true

theorem firstFit_some {limit k : ℕ} {lanes lanes' : List (List α)} {x : α}
    (found : firstFit conflicts limit lanes x = some (k, lanes')) :
    FitsAt conflicts limit (laneAt lanes) x k ∧
      ∀ lane, laneAt lanes' lane = if lane = k then laneAt lanes k ++ [x] else laneAt lanes lane := by
  induction limit generalizing lanes k lanes' with
  | zero => simp [firstFit] at found
  | succ n ih =>
    cases lanes with
    | nil =>
      simp only [firstFit, Option.some.injEq, Prod.mk.injEq] at found
      obtain ⟨rfl, rfl⟩ := found
      refine ⟨⟨by omega, by simp [laneAt], by omega⟩, fun lane => ?_⟩
      cases lane with
      | zero => simp [laneAt]
      | succ lane => simp [laneAt]
    | cons first lanes =>
      simp only [firstFit] at found
      split at found
      · rename_i taken
        obtain ⟨⟨j, rest⟩, later, same⟩ := Option.map_eq_some_iff.mp found
        cases same
        obtain ⟨⟨within, free, least⟩, kept⟩ := ih later
        refine ⟨⟨by omega, free, fun lower below => ?_⟩, fun lane => ?_⟩
        · cases lower with
          | zero =>
            obtain ⟨y, member, clash⟩ := List.any_eq_true.mp taken
            exact ⟨y, member, clash⟩
          | succ lower => exact least lower (by omega)
        · cases lane with
          | zero => simp [laneAt]
          | succ lane =>
            have := kept lane
            simp only [laneAt, List.getElem?_cons_succ, Nat.add_right_cancel_iff] at this ⊢
            exact this
      · rename_i untaken
        simp only [Option.some.injEq, Prod.mk.injEq] at found
        obtain ⟨rfl, rfl⟩ := found
        refine ⟨⟨by omega, fun y member => ?_, by omega⟩, fun lane => ?_⟩
        · cases clash : conflicts x y with
          | false => rfl
          | true => exact (untaken (List.any_eq_true.mpr ⟨y, member, clash⟩)).elim
        · cases lane with
          | zero => simp [laneAt]
          | succ lane => simp [laneAt]

theorem firstFit_none {limit : ℕ} {lanes : List (List α)} {x : α}
    (none : firstFit conflicts limit lanes x = none) : FitsNowhere conflicts limit (laneAt lanes) x := by
  induction limit generalizing lanes with
  | zero => intro lane below; omega
  | succ n ih =>
    cases lanes with
    | nil => simp [firstFit] at none
    | cons first lanes =>
      simp only [firstFit] at none
      split at none
      · rename_i taken
        rw [Option.map_eq_none_iff] at none
        intro lane below
        cases lane with
        | zero =>
          obtain ⟨y, member, clash⟩ := List.any_eq_true.mp taken
          exact ⟨y, member, clash⟩
        | succ lane => exact ih none lane (by omega)
      · cases none

/-- Every item, with its lane. -/
def placeAll (conflicts : α → α → Bool) (limit : ℕ) : List (List α) → List α → List (α × Option ℕ)
  | _, [] => []
  | lanes, x :: rest =>
    match firstFit conflicts limit lanes x with
    | some (lane, lanes') => (x, some lane) :: placeAll conflicts limit lanes' rest
    | none => (x, none) :: placeAll conflicts limit lanes rest

def onLane (placed : List (α × Option ℕ)) (lane : ℕ) : List α :=
  placed.filterMap fun p => if p.2 = some lane then some p.1 else none

theorem mem_onLane {placed : List (α × Option ℕ)} {lane : ℕ} {y : α} :
    y ∈ onLane placed lane ↔ (y, some lane) ∈ placed := by
  simp only [onLane, List.mem_filterMap]
  constructor
  · rintro ⟨⟨x, found⟩, member, same⟩
    split at same
    · rename_i on
      cases same
      cases on
      exact member
    · cases same
  · intro member
    exact ⟨_, member, if_pos rfl⟩

theorem onLane_append (first rest : List (α × Option ℕ)) (lane : ℕ) :
    onLane (first ++ rest) lane = onLane first lane ++ onLane rest lane := List.filterMap_append

/-- The place of an item, by those before it. -/
def WellPlaced (conflicts : α → α → Bool) (limit : ℕ) (earlier : List (α × Option ℕ)) (x : α) : Option ℕ → Prop
  | some lane => FitsAt conflicts limit (onLane earlier) x lane
  | none => FitsNowhere conflicts limit (onLane earlier) x

theorem placeAll_items {limit : ℕ} {lanes : List (List α)} {items : List α} :
    (placeAll conflicts limit lanes items).map Prod.fst = items := by
  induction items generalizing lanes with
  | nil => rfl
  | cons x rest ih =>
    rw [placeAll]
    split
    · rw [List.map_cons, ih]
    · rw [List.map_cons, ih]

/-- The first item is placed well, and the lanes are then what was placed so far. -/
theorem placeAll_cons {limit : ℕ} {lanes : List (List α)} {past : List (α × Option ℕ)} (x : α) (rest : List α)
    (occupied : laneAt lanes = onLane past) : ∃ place lanes',
      placeAll conflicts limit lanes (x :: rest) = (x, place) :: placeAll conflicts limit lanes' rest ∧
        WellPlaced conflicts limit past x place ∧ laneAt lanes' = onLane (past ++ [(x, place)]) := by
  cases found : firstFit conflicts limit lanes x with
  | none =>
    refine ⟨none, lanes, by rw [placeAll, found], ?_, ?_⟩
    · rw [WellPlaced, ← occupied]
      exact firstFit_none found
    · funext lane
      rw [onLane_append, occupied]
      exact (List.append_nil _).symm
  | some place =>
    obtain ⟨k, lanes'⟩ := place
    obtain ⟨fits, kept⟩ := firstFit_some found
    refine ⟨some k, lanes', by rw [placeAll, found], ?_, ?_⟩
    · rw [WellPlaced, ← occupied]
      exact fits
    · funext lane
      rw [kept, onLane_append, occupied]
      by_cases same : lane = k
      · simp [same, onLane]
      · simp [same, onLane, Ne.symm same]

theorem placeAll_wellPlaced {limit : ℕ} {lanes : List (List α)} {items : List α}
    {past before after : List (α × Option ℕ)} {p : α × Option ℕ} (occupied : laneAt lanes = onLane past)
    (split : placeAll conflicts limit lanes items = before ++ p :: after) :
    WellPlaced conflicts limit (past ++ before) p.1 p.2 := by
  induction items generalizing lanes past before with
  | nil => simp [placeAll] at split
  | cons x rest ih =>
    obtain ⟨place, lanes', placed, well, occupied'⟩ := placeAll_cons x rest occupied
    rw [placed] at split
    cases before with
    | nil =>
      obtain ⟨same, -⟩ := List.cons.inj split
      rw [List.append_nil, ← same]
      exact well
    | cons q before =>
      obtain ⟨same, later⟩ := List.cons.inj split
      have := ih occupied' later
      rwa [same, List.append_assoc, List.singleton_append] at this

/-- Each lane below holds another earlier item that conflicts. -/
theorem conflicts_below {earlier : List (α × Option ℕ)} {x : α} {lane : ℕ}
    (taken : ∀ lower < lane, ∃ y ∈ onLane earlier lower, conflicts x y = true) :
    lane ≤ (earlier.map Prod.fst).countP (conflicts x) := by
  have subset : (List.range lane).map some ⊆ (earlier.filter fun p => conflicts x p.1).map Prod.snd := by
    intro found member
    obtain ⟨lower, below, rfl⟩ := List.mem_map.mp member
    obtain ⟨y, on, clash⟩ := taken lower (List.mem_range.mp below)
    exact List.mem_map.mpr ⟨(y, some lower), List.mem_filter.mpr ⟨mem_onLane.mp on, clash⟩, rfl⟩
  have distinct : ((List.range lane).map some).Nodup :=
    List.Nodup.map (fun _ _ same => Option.some.inj same) List.nodup_range
  have le := (List.subperm_of_subset distinct subset).length_le
  rw [List.length_map, List.length_range, List.length_map, ← List.countP_eq_length_filter] at le
  rw [List.countP_map]
  exact le

end AlloraSdk.Logic
