import AlloraSdk.Guarantees.OutcomeSoundness
import AlloraSdk.Source.TxManager.Inflight

/-!
# Every unfinished submission is known to `close()`

`close()` clears the whole `_inflight` set after its await, also what was added
during it. As long as it clears nothing unfinished, every unfinished submission
is in the set; and if moreover no submission lets an exception escape and no
`close()` begins while another has still to resolve a cancelled future, a quiet
`close()` leaves no future unresolved.
-/

namespace AlloraSdk.Guarantees
open AlloraSdk.Logic AlloraSdk.Source.TxManager AlloraSdk.Chain

/-- A returning `close()` clears nothing unfinished that it did not await. -/
def ClearsFinished (s : Flights) (index : ℕ) : Prop :=
  ∀ closer, s.closing[index]? = some closer → ∀ id ∈ s.inflight, ∀ p : Detached, s.pendings[id]? = some p →
    p.finished = false → id ∈ closer.pendings

/-- No other `close()` has a cancelled task that is done and a future to resolve. -/
def SettledClosers (s : Flights) : Prop :=
  ∀ closer ∈ s.closing, ∀ id ∈ closer.pendings, ∀ p : Detached, s.pendings[id]? = some p →
    p.finished = true → p.resolved = true

/-- The condition on a step. -/
def Orderly (s : Flights) : FlightMove → Prop
  | .taskEnds id clock => ∀ p : Detached, s.pendings[id]? = some p →
      p.call.maxRetries = 0 ∨ ¬ DeadlineOverflows clock p.call.timeout
  | .closeBegins => SettledClosers s
  | .closeReturns index => ClearsFinished s index
  | _ => True

/-- What holds between the steps of an orderly run. -/
structure Tracked (s : Flights) : Prop where
  known : Known s
  /-- A cancelled submission is resolved, or some `close()` is going to. -/
  awaited : ∀ (id : ℕ) (p : Detached), s.pendings[id]? = some p → p.finished = true ∨ p.cancelling = true →
    p.resolved = true ∨ ∃ closer ∈ s.closing, id ∈ closer.pendings
  alone : ∀ closer ∈ s.closing, closer.quiet = true → s.submitting = 0
  covered : ∀ closer ∈ s.closing, closer.quiet = true → ∀ (id : ℕ) (p : Detached), s.pendings[id]? = some p →
    p.resolved = true ∨ id ∈ closer.pendings

section Steps

variable {m : Manager} {s s' : Flights}

theorem Tracked.start : Tracked Flights.start where
  known := by simp [Known, Flights.start]
  awaited := by simp [Flights.start]
  alone := by simp [Flights.start]
  covered := by simp [Flights.start]

/-- An update that resolves no less, and finishes or cancels only what is resolved
or awaited. -/
theorem Tracked.update (h : Tracked s) {ids : Finset ℕ} {f : Detached → Detached}
    (done : ∀ p, (f p).finished = false → p.finished = false)
    (resolved : ∀ p, p.resolved = true → (f p).resolved = true)
    (settled : ∀ id ∈ ids, ∀ p : Detached, s.pendings[id]? = some p →
      p.finished = true ∨ p.cancelling = true ∨ (f p).resolved = true) : Tracked (s.update ids f) where
  known := by
    intro id p' found running
    obtain ⟨p, there, ⟨-, rfl⟩ | ⟨-, rfl⟩⟩ := of_update found
    · exact h.known id p there (done p running)
    · exact h.known id p' there running
  awaited := by
    intro id p' found ended
    obtain ⟨p, there, ⟨member, rfl⟩ | ⟨-, rfl⟩⟩ := of_update found
    · have before : (f p).resolved = true ∨ p.finished = true ∨ p.cancelling = true := by
        rcases settled id member p there with finished | cancelling | now
        · exact .inr (.inl finished)
        · exact .inr (.inr cancelling)
        · exact .inl now
      rcases before with now | ended
      · exact .inl now
      · exact (h.awaited id p there ended).imp_left (resolved p)
    · exact h.awaited id p' there ended
  alone := h.alone
  covered := by
    intro closer member quiet id p' found
    obtain ⟨p, there, ⟨-, rfl⟩ | ⟨-, rfl⟩⟩ := of_update found
    · exact (h.covered closer member quiet id p there).imp_left (resolved p)
    · exact h.covered closer member quiet id p' there

theorem Tracked.overlap (h : Tracked s) : Tracked s.overlap where
  known := h.known
  awaited := by
    intro id p found ended
    rcases h.awaited id p found ended with resolved | ⟨closer, member, there⟩
    · exact .inl resolved
    · exact .inr ⟨_, List.mem_map_of_mem member, there⟩
  alone := by
    intro closer member quiet
    obtain ⟨old, -, rfl⟩ := List.mem_map.mp member
    cases quiet
  covered := by
    intro closer member quiet
    obtain ⟨old, -, rfl⟩ := List.mem_map.mp member
    cases quiet

/-- A submission is created only when no quiet `close()` waits. -/
theorem Tracked.create (h : Tracked s) (call : Call) (calling : 0 < s.submitting) :
    Tracked (s.create call) where
  known := by
    intro id p found running
    rcases of_create found with there | ⟨rfl, -⟩
    · exact Finset.mem_insert_of_mem (h.known id p there running)
    · exact Finset.mem_insert_self _ _
  awaited := by
    intro id p found ended
    rcases of_create found with there | ⟨-, rfl⟩
    · exact h.awaited id p there ended
    · rcases ended with finished | cancelling
      · cases finished
      · cases cancelling
  alone := by
    intro closer member quiet
    have none := h.alone closer member quiet
    omega
  covered := by
    intro closer member quiet
    have none := h.alone closer member quiet
    omega

theorem Tracked.raises (h : Tracked s) : Tracked { s with submitting := s.submitting - 1 } where
  known := h.known
  awaited := h.awaited
  alone := by
    intro closer member quiet
    have none := h.alone closer member quiet
    simp only
    omega
  covered := h.covered

theorem Tracked.discard (h : Tracked s) {id : ℕ} {p : Detached} (found : s.pendings[id]? = some p)
    (finished : p.finished = true) : Tracked { s with inflight := s.inflight.erase id } where
  known := by
    intro other q there running
    have distinct : other ≠ id := by
      rintro rfl
      rw [found] at there
      obtain rfl := Option.some.inj there
      rw [finished] at running
      cases running
    exact Finset.mem_erase.mpr ⟨distinct, h.known other q there running⟩
  awaited := h.awaited
  alone := h.alone
  covered := h.covered

/-- With no other `close()` in between, whatever is not in flight is resolved. -/
theorem Tracked.resolved_outside (h : Tracked s) (settled : SettledClosers s) {id : ℕ} {p : Detached}
    (found : s.pendings[id]? = some p) (outside : id ∉ s.inflight) : p.resolved = true := by
  have finished : p.finished = true := by
    by_contra running
    exact outside (h.known id p found (by simpa using running))
  rcases h.awaited id p found (.inl finished) with resolved | ⟨closer, member, there⟩
  · exact resolved
  · exact settled closer member id there p found finished

theorem Tracked.beginClose (h : Tracked s) (settled : SettledClosers s) : Tracked s.beginClose := by
  unfold Flights.beginClose
  split
  · exact h
  · constructor
    · intro id p' found running
      obtain ⟨p, there, ⟨-, rfl⟩ | ⟨-, rfl⟩⟩ := of_update found
      · exact h.known id p there running
      · exact h.known id p' there running
    · intro id p' found ended
      obtain ⟨p, there, ⟨member, rfl⟩ | ⟨-, rfl⟩⟩ := of_update found
      · exact .inr ⟨_, List.mem_append_right _ (List.mem_singleton.mpr rfl), member⟩
      · rcases h.awaited id p' there ended with resolved | ⟨closer, member, inside⟩
        · exact .inl resolved
        · exact .inr ⟨closer, List.mem_append_left _ member, inside⟩
    · intro closer member quiet
      rcases List.mem_append.mp member with old | new
      · exact h.alone closer old quiet
      · obtain rfl := List.mem_singleton.mp new
        exact of_decide_eq_true quiet
    · intro closer member quiet id p' found
      obtain ⟨p, there, changed⟩ := of_update found
      have same : p'.resolved = p.resolved := by
        rcases changed with ⟨-, rfl⟩ | ⟨-, rfl⟩ <;> rfl
      rw [same]
      rcases List.mem_append.mp member with old | new
      · exact h.covered closer old quiet id p there
      · obtain rfl := List.mem_singleton.mp new
        by_cases inside : id ∈ s.inflight
        · exact .inr inside
        · exact .inl (h.resolved_outside settled there inside)

theorem Tracked.finishClose (h : Tracked s) {index : ℕ} {closer : Closer}
    (found : s.closing[index]? = some closer)
    (gathered : ∀ id ∈ closer.pendings, ∀ p : Detached, s.pendings[id]? = some p → p.finished = true)
    (clears : ClearsFinished s index) : Tracked (s.finishClose index closer) where
  known := by
    intro id p' there running
    obtain ⟨p, there, changed⟩ := of_update there
    have same : p'.finished = p.finished := by
      rcases changed with ⟨-, rfl⟩ | ⟨-, rfl⟩ <;> rfl
    rw [same] at running
    have member := clears closer found id (h.known id p there running) p there running
    rw [gathered id member p there] at running
    cases running
  awaited := by
    intro id p' there ended
    obtain ⟨p, there, ⟨-, rfl⟩ | ⟨outside, rfl⟩⟩ := of_update there
    · exact .inl rfl
    · rcases h.awaited id p' there ended with resolved | ⟨other, member, inside⟩
      · exact .inl resolved
      · refine .inr ⟨other, ?_, inside⟩
        have distinct : other ≠ closer := by
          rintro rfl
          exact outside inside
        obtain ⟨position, at_position⟩ := List.mem_iff_getElem?.mp member
        apply List.mem_eraseIdx_iff_getElem?.mpr
        refine ⟨position, ?_, at_position⟩
        rintro rfl
        rw [found] at at_position
        exact distinct (Option.some.inj at_position).symm
  alone := fun other member quiet => h.alone other (List.mem_of_mem_eraseIdx member) quiet
  covered := by
    intro other member quiet id p' there
    obtain ⟨p, there, ⟨-, rfl⟩ | ⟨-, rfl⟩⟩ := of_update there
    · exact .inl rfl
    · exact h.covered other (List.mem_of_mem_eraseIdx member) quiet id p' there

/-- One orderly step. -/
theorem Tracked.step (h : Tracked s) {move : FlightMove} (step : FlightStep m s move s')
    (orderly : Orderly s move) : Tracked s' := by
  cases step with
  | submitBegins => exact h.overlap
  | submitRaises calling => exact h.raises
  | submitReturns call calling => exact h.create call calling
  | @taskEnds id clock p price cachedAt trace out t found running run =>
    obtain ⟨outcome, resolved, -⟩ := (outcomeSound_of_deadline (orderly p found) run).once
    apply h.update
    · intro p running
      cases running
    · intro p already
      simp [already]
    · intro id member p there
      simp [resolved]
  | taskCancelled found running cancelling =>
    apply h.update
    · intro p running
      cases running
    · intro p already
      exact already
    · intro other member p there
      obtain rfl := Finset.mem_singleton.mp member
      rw [found] at there
      obtain rfl := Option.some.inj there
      exact .inr (.inl cancelling)
  | doneCallback found finished => exact h.discard found finished
  | waitCancelled id =>
    apply h.update
    · intro p running
      exact running
    · intro p already
      rfl
    · intro id member p there
      exact .inr (.inr rfl)
  | closeBegins => exact h.beginClose orderly
  | closeReturns found gathered => exact h.finishClose found gathered orderly

theorem Tracked.quietReturn (h : Tracked s) {move : FlightMove} (step : FlightStep m s move s')
    (orderly : Orderly s move) (returns : QuietReturn s move) : AllResolved s' := by
  cases returns with
  | atOnce empty quiet =>
    cases step
    intro id p found
    rw [Flights.beginClose, if_pos empty] at found
    exact h.resolved_outside orderly found (by simp [empty])
  | @later index closer found quiet =>
    cases step with
    | @closeReturns _ closer' found' gathered =>
      rw [found] at found'
      obtain rfl := Option.some.inj found'
      intro id p' there
      obtain ⟨p, there, ⟨-, rfl⟩ | ⟨outside, rfl⟩⟩ := of_update there
      · rfl
      · rcases h.covered closer (List.mem_of_getElem? found) quiet id p' there with resolved | inside
        · exact resolved
        · exact (outside inside).elim

/-- What `close()` clears is lost exactly when it is unfinished. -/
theorem clears_iff (h : Known s) {index : ℕ} (step : FlightStep m s (.closeReturns index) s') :
    Known s' ↔ ClearsFinished s index := by
  cases step with
  | @closeReturns _ closer found gathered =>
    constructor
    · intro known other found' id member p there running
      exfalso
      have kept : (s.finishClose index closer).pendings[id]? =
          some (if id ∈ closer.pendings then { p with resolved := true } else p) := by
        have := update_getElem? s closer.pendings (fun p => { p with resolved := true }) id
        rw [there] at this
        exact this
      have lost := known id _ kept (by split <;> exact running)
      cases Finset.notMem_empty id lost
    · intro clears id p' there running
      obtain ⟨p, there, changed⟩ := of_update there
      have same : p'.finished = p.finished := by
        rcases changed with ⟨-, rfl⟩ | ⟨-, rfl⟩ <;> rfl
      rw [same] at running
      have member := clears closer found id (h id p there running) p there running
      rw [gathered id member p there] at running
      cases running

end Steps

/-- In an orderly run every unfinished submission stays in `_inflight`, and a quiet
`close()` returns with every future resolved; a returning `close()` forgets an
unfinished submission exactly when the condition fails. -/
theorem close_knows_all {m : Manager} {moves : List FlightMove} {s : Flights}
    (run : Path (guarded Orderly (FlightStep m)) Flights.start moves s) :
    Known s ∧
    (∀ move s', FlightStep m s move s' → Orderly s move → QuietReturn s move → AllResolved s') ∧
    ∀ index s', FlightStep m s (.closeReturns index) s' → (Known s' ↔ ClearsFinished s index) := by
  have tracked : Tracked s :=
    run.invariant (fun _ _ _ step h => h.step step.2 step.1) Tracked.start
  refine ⟨tracked.known, ?_, ?_⟩
  · intro move s' step orderly returns
    exact tracked.quietReturn step orderly returns
  · intro index s' step
    exact clears_iff tracked.known step

/-- A submission whose task a `close()` cancels and resolves. -/
def closed : List FlightMove :=
  [.submitBegins, .submitReturns (payload 2 none), .closeBegins, .taskCancelled 0, .closeReturns 0]

theorem closed_run : ∃ s, Path (guarded Orderly (FlightStep testnet)) Flights.start closed s ∧
    s.pendings = [⟨payload 2 none, true, true, true⟩] := by
  refine ⟨_, .cons ⟨trivial, .submitBegins⟩ (.cons ⟨trivial, .submitReturns _ (by decide)⟩
    (.cons ⟨?_, .closeBegins⟩ (.cons ⟨trivial, .taskCancelled rfl rfl rfl⟩
      (.cons ⟨?_, .closeReturns rfl ?_⟩ (.nil _))))), rfl⟩
  · intro closer member
    cases member
  · intro closer found id member p there running
    cases Option.some.inj found
    exact member
  · intro id member p there
    obtain rfl : id = 0 := by simpa [Flights.create, Flights.overlap, Flights.start] using member
    cases Option.some.inj there
    rfl

theorem close_knows_all_closed : ∃ s, Path (guarded Orderly (FlightStep testnet)) Flights.start closed s ∧
    Known s := by
  obtain ⟨s, run, -⟩ := closed_run
  exact ⟨s, run, (close_knows_all run).1⟩

/-- A submission made while a `close()` awaits another is forgotten, and the next
`close()` returns at once and leaves it running. A `close()` that begins before
another one resolves what it cancelled leaves that future unresolved. -/
theorem close_forgets :
    (∃ s s', Path (FlightStep testnet) Flights.start
      [.submitBegins, .submitReturns (payload 2 none), .closeBegins, .submitBegins,
        .submitReturns (payload 2 none), .taskCancelled 0, .closeReturns 0] s ∧ ¬ Known s ∧
      FlightStep testnet s .closeBegins s' ∧ QuietReturn s .closeBegins ∧ ¬ AllResolved s') ∧
    ∃ s s', Path (FlightStep testnet) Flights.start
      [.submitBegins, .submitReturns (payload 2 none), .closeBegins, .taskCancelled 0, .doneCallback 0] s ∧
      FlightStep testnet s .closeBegins s' ∧ QuietReturn s .closeBegins ∧ ¬ AllResolved s' := by
  constructor
  · refine ⟨_, _, .cons .submitBegins (.cons (.submitReturns _ (by decide)) (.cons .closeBegins
      (.cons .submitBegins (.cons (.submitReturns _ (by decide)) (.cons (.taskCancelled rfl rfl rfl)
        (.cons (.closeReturns rfl ?_) (.nil _))))))), ?_, .closeBegins, .atOnce rfl rfl, ?_⟩
    · intro id member p there
      obtain rfl : id = 0 := by simpa [Flights.create, Flights.overlap, Flights.start] using member
      cases Option.some.inj there
      rfl
    · intro known
      cases Finset.notMem_empty 1 (known 1 ⟨payload 2 none, false, false, false⟩ rfl rfl)
    · intro resolved
      cases resolved 1 ⟨payload 2 none, false, false, false⟩ rfl
  · refine ⟨_, _, .cons .submitBegins (.cons (.submitReturns _ (by decide)) (.cons .closeBegins
      (.cons (.taskCancelled rfl rfl rfl) (.cons (.doneCallback rfl rfl) (.nil _))))),
      .closeBegins, .atOnce (by decide) rfl, ?_⟩
    intro resolved
    cases resolved 0 ⟨payload 2 none, true, true, false⟩ rfl

end AlloraSdk.Guarantees
