import AlloraSdk.Source.TxManager.Deadline
import AlloraSdk.Chain.Simulation

/-!
# The caller's deadline

Every except clause that may retry compares the clock with the deadline after
its own waits, and the delay before a sequence-mismatch retry is clamped to what
is left. A retry therefore begins in time. A stop at that comparison comes with
an exception in the future.
-/

namespace AlloraSdk.Guarantees
open AlloraSdk.Logic AlloraSdk.Source.TxManager AlloraSdk.Chain

section Bound

variable {m : Manager} {call : Call} {clock : ℕ} {cachedPrice : Option ℚ} {cachedAt : Option ℕ}
  {rounds : List Round} {r : Round}

theorem timed_throughout (run : call.Rounds m clock cachedPrice cachedAt rounds) (member : r ∈ rounds) :
    r.entry.vars.timeout = call.timeout ∧ r.entry.vars.maxRetries = call.maxRetries := by
  refine (run.invariant (fun s => s.vars.timeout = call.timeout ∧ s.vars.maxRetries = call.maxRetries)
    rfl ⟨rfl, rfl⟩ ?_ r member).2
  rintro r - valid unresolved goesOn ⟨timeout, retries⟩
  have once := valid.runs
  rw [goesOn] at once
  obtain ⟨-, retries', timeout', -⟩ := (attemptOnce_outcome unresolved once).continues.1
  exact ⟨timeout'.trans timeout, retries'.trans retries⟩

/-- An attempt that goes on ends by the deadline. -/
theorem goesOn_inTime (run : call.Rounds m clock cachedPrice cachedAt rounds) (member : r ∈ rounds)
    (goesOn : r.control = .ok .continue) : InTime clock call.timeout r.exit.clock := by
  have unresolved := run.unresolved rfl member
  obtain ⟨e, before, u, after, decides⟩ := (run.valid member).decidesFrom unresolved goesOn
  obtain ⟨⟨-, -, timeout, -⟩, decided⟩ := decides.decides (run.valid member) unresolved
  rw [← (timed_throughout run member).1, ← timeout]
  exact decided.retries goesOn

end Bound

/-- In every run with a deadline: no attempt but the first begins after it; the
delay before a sequence-mismatch retry is not asked to end after it; and an
except clause that stops the run with retries left stops it at the deadline or
later, with an exception in the future. -/
theorem deadline_bounds_retries {m : Manager} {call : Call} {clock : ℕ} {cachedPrice : Option ℚ}
    {cachedAt : Option ℕ} {rounds : List Round} {out : Except PyException Unit} {s' : Submission}
    {timeout : ℤ} (run : call.Rounds m clock cachedPrice cachedAt rounds) (ends : EndsIn rounds out s')
    (timed : call.timeout = some timeout) (nonzero : timeout ≠ 0) :
    (∀ r ∈ rounds, r.attempt ≠ 0 → (r.entry.clock : ℤ) ≤ clock + timeout) ∧
      ∀ r ∈ rounds, ∀ e before u after, r.DecidesFrom m clock e before u after →
        (∀ past delay late rest, after = past ++ ⟨.sleep delay, late⟩ :: rest →
          past = [] ∧ ((u.clock + delay : ℕ) : ℤ) ≤ clock + timeout) ∧
        (r.attempt ≠ call.maxRetries → r.control = .ok .stop →
          [r] <:+ rounds ∧ out = .ok () ∧ clock + timeout ≤ (s'.clock : ℤ) ∧
            ∃ err, s'.pending.finalFuture = some (.error err)) := by
  have finite : call.timeout.filter (· ≠ 0) = some timeout := by simp [timed, nonzero]
  constructor
  · intro r member later
    obtain ⟨q, present, goesOn, entry⟩ := Rounds.predecessor run member later
    rw [entry]
    exact goesOn_inTime run present goesOn timeout finite
  · intro r member e before u after decides
    have valid := run.valid member
    obtain ⟨⟨future, retries, kept, -⟩, decided⟩ := decides.decides valid (run.unresolved rfl member)
    obtain ⟨timeout', retries'⟩ := timed_throughout run member
    have deadline := kept.trans timeout'
    constructor
    · intro past delay late rest split
      obtain ⟨first, inTime⟩ := decided.sleeps past delay late rest split
      rw [deadline] at inTime
      exact ⟨first, inTime timeout finite⟩
    · intro left stopped
      obtain ⟨spent | ⟨delta, same, reached⟩, err, failed⟩ := decided.stops stopped
      · exact (left (spent.trans (retries.trans retries'))).elim
      rw [deadline] at same
      obtain rfl := Option.some.inj (same.symm.trans finite)
      obtain ⟨last, returned, rfl⟩ := Rounds.stopped run ends member stopped
      exact ⟨last, returned, reached, err, failed⟩

/-- CheckTx finds every sequence wrong. -/
def mismatching : List Ev → (request : Request) → Reply request :=
  answering (fun _ => response 32 "account sequence mismatch" "") fun _ _ => none

def patientTestnet : Manager := { testnet with accountSequenceRetryDelay := some 5000000 }

def hurried : Call := { payload 5 none with timeout := some 7000000 }

/-- Seven seconds leave the retry after the first delay of five, and clamp the
second to two. -/
theorem deadline_bounds_retries_clamped :
    ∃ first last, hurried.played patientTestnet mismatching = [first, last] ∧
      last.attempt = 1 ∧ last.entry.clock ≤ 7000000 ∧ last.exit.clock = 7000000 ∧
      last.exit.pending.finalFuture.any (fun outcome => !outcome.isOk) = true := by
  have run : hurried.Rounds patientTestnet 0 none none (hurried.played patientTestnet mismatching) :=
    hurried.played_rounds
  have shape : (hurried.played patientTestnet mismatching).map (fun r => (r.attempt,
      r.exit.clock, r.exit.pending.finalFuture.any fun outcome => !outcome.isOk)) =
      [(0, 5000000, false), (1, 7000000, true)] := by decide +kernel
  generalize hurried.played patientTestnet mismatching = rounds at run shape
  obtain ⟨first, rest, rfl, -, shape⟩ := List.map_eq_cons_iff.mp shape
  obtain ⟨last, rest, rfl, here, shape⟩ := List.map_eq_cons_iff.mp shape
  obtain rfl := List.map_eq_nil_iff.mp shape
  simp only [Prod.mk.injEq] at here
  obtain ⟨number, ended, failed⟩ := here
  have inTime := (deadline_bounds_retries run ⟨last, rfl, rfl, rfl⟩ rfl (by decide)).1 last (by simp)
    (by simp [number])
  exact ⟨first, last, rfl, number, by exact_mod_cast inTime, ended, failed⟩

end AlloraSdk.Guarantees
