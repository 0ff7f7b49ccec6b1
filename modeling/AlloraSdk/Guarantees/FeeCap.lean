import AlloraSdk.Source.TxManager.Pricing
import AlloraSdk.Chain.Simulation

/-!
# The fee cap over a whole run

`_calculate_optimal_fee` is the only source of a transaction's fee, and it raises
above `max_fees`. What an attempt broadcasts is therefore within the cap, and the
first attempt whose fee is not ends the run: MaxFeesExceededError is never
retried, whatever the attempts before it left pending.
-/

namespace AlloraSdk.Guarantees
open AlloraSdk.Logic AlloraSdk.Source.TxManager AlloraSdk.Chain

section Cap

variable {m : Manager} {start attempt : ℕ} {s : Submission} {r : Round} {cap : ℕ}

/-- An attempt whose fee exceeds the cap broadcasts nothing and fails the
submission with MaxFeesExceededError. -/
theorem stops_above {price : ℚ} {congestion : Option ℚ} (valid : r.Valid m start)
    (unresolved : r.entry.vars.finalFuture = none) (capped : m.maxFees = some cap)
    (reads : r.Reads m price congestion) (above : (cap : ℤ) < r.fee m price congestion) :
    Txless r.trace ∧ r.control = .ok .stop ∧
      ∃ message, r.exit.vars.finalFuture = some (.error (.maxFeesExceeded message)) := by
  obtain ⟨first, rest, split, txless, priced⟩ := valid.priced_at reads
  have exceeded : rest = [] ∧ ∃ message, r.result = .error (.maxFeesExceeded message) := by
    generalize r.result = result, r.raised.offer = o at priced
    have outside : ¬ ∀ cap, m.maxFees = some cap → r.fee m price congestion ≤ cap :=
      fun within => not_lt.mpr (within cap capped) above
    cases priced with
    | tooExpensive => exact ⟨rfl, _, rfl⟩
    | unbuilt within => exact (outside within).elim
    | unsent within => exact (outside within).elim
    | refused within => exact (outside within).elim
    | accepted within => exact (outside within).elim
  obtain ⟨rfl, message, result⟩ := exceeded
  have caught := valid.caught
  have tried := tryAttempt_outcome unresolved valid.tried
  rw [result] at caught tried
  obtain ⟨resolved, stopped, vars⟩ := setException_runs (tried.unresolved unresolved) caught
  refine ⟨?_, stopped, message, ?_⟩
  · rw [Round.trace, split, List.append_nil]
    exact txless.append valid.handling_txless
  · rw [vars]
    rfl

end Cap

/-- In every run under a cap: every broadcast carries a fee within it, and the
first attempt whose computed fee exceeds it is the last one, broadcasts nothing
and fails the submission with MaxFeesExceededError. -/
theorem fee_cap_holds {m : Manager} {call : Call} {clock cap : ℕ} {cachedPrice : Option ℚ}
    {cachedAt : Option ℕ} {rounds : List Round} {out : Except PyException Unit} {s' : Submission}
    (run : call.Rounds m clock cachedPrice cachedAt rounds) (ends : EndsIn rounds out s')
    (capped : m.maxFees = some cap) :
    (∀ e ∈ traceOf rounds, ∀ tx, e.request = .query (.broadcastTx tx) → tx.fee.amount ≤ cap) ∧
      ∀ r ∈ rounds, ∀ price congestion, r.Reads m price congestion →
        (cap : ℤ) < r.fee m price congestion →
        [r] <:+ rounds ∧ Txless r.trace ∧ out = .ok () ∧
          ∃ message, s'.pending.finalFuture = some (.error (.maxFeesExceeded message)) := by
  constructor
  · intro e member tx broadcast
    obtain ⟨r, present, member⟩ := List.mem_flatMap.mp member
    exact ((run.valid present).carries member (by rw [broadcast]; rfl)).2 cap capped
  · intro r member price congestion reads above
    have unresolved := run.unresolved rfl member
    obtain ⟨txless, stopped, message, failed⟩ := stops_above (run.valid member) unresolved capped reads above
    obtain ⟨last, returned, rfl⟩ := Rounds.stopped run ends member stopped
    exact ⟨last, txless, returned, message, failed⟩

/-- Every broadcast is admitted and never found. -/
def stalling : List Ev → (request : Request) → Reply request :=
  answering (fun tx => response 0 "" (testnet.txHash tx)) fun _ _ => none

def cappedTestnet : Manager := { testnet with maxFees := some 5000000 }

/-- The first attempt pays 4500000; the second would re-broadcast at the same
sequence for 5850000. -/
theorem fee_cap_holds_rebroadcast :
    ∃ r ∈ (payload 3 none).played cappedTestnet stalling,
      r.attempt = 1 ∧ r.entry.pending.sameSeqRebroadcast = true ∧
      [r] <:+ (payload 3 none).played cappedTestnet stalling ∧ Txless r.trace ∧
      ∃ message, r.exit.pending.finalFuture = some (.error (.maxFeesExceeded message)) := by
  have run : (payload 3 none).Rounds cappedTestnet 0 none none ((payload 3 none).played cappedTestnet stalling) :=
    (payload 3 none).played_rounds
  have shape : ((payload 3 none).played cappedTestnet stalling).map (fun r => (r.attempt,
      r.entry.pending.sameSeqRebroadcast, r.entry.cachedGasPrice, r.fee cappedTestnet 10 none,
      r.body.any fun e => !e.request.isQuiet)) =
      [(0, false, none, 4500000, true), (1, true, none, 5850000, true)] := by decide +kernel
  generalize (payload 3 none).played cappedTestnet stalling = rounds at run shape ⊢
  obtain ⟨first, rest, rfl, -, shape⟩ := List.map_eq_cons_iff.mp shape
  obtain ⟨last, rest, rfl, here, shape⟩ := List.map_eq_cons_iff.mp shape
  obtain rfl := List.map_eq_nil_iff.mp shape
  simp only [Prod.mk.injEq] at here
  obtain ⟨number, pending, uncached, fee, begun⟩ := here
  have reads : last.Reads cappedTestnet 10 none :=
    (run.valid (by simp)).reads_static rfl rfl uncached begun
  have ends : EndsIn [first, last] (last.control.map fun _ => ()) last.exit :=
    ⟨last, rfl, rfl, rfl⟩
  have above : ((5000000 : ℕ) : ℤ) < last.fee cappedTestnet 10 none := by
    rw [fee]
    decide
  obtain ⟨final, txless, -, failed⟩ :=
    (fee_cap_holds run ends rfl).2 last (by simp) 10 none reads above
  exact ⟨last, by simp, number, pending, final, txless, failed⟩

end AlloraSdk.Guarantees
