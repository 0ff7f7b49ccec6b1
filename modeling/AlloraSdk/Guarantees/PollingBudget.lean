import AlloraSdk.Source.TxManager.Polling
import AlloraSdk.Chain.Simulation

/-!
# The budget of a confirmation poll

`wait_for_tx` gives every poll what is left of the timeout and sleeps a whole
poll period between two polls, so that it can end one period late but never
waits for an answer past its deadline. A deadline inside a poll reads as "not
found", its own as TxTimeoutError.
-/

namespace AlloraSdk.Guarantees
open AlloraSdk.Logic AlloraSdk.Source.TxManager AlloraSdk.Chain

/-- Whatever the polls answer, and however long each hangs: the polling ends
within `timeout + pollPeriod`, no poll is waited on past the deadline, one that
finds the transaction before it is returned, and the only ends are the response,
TxTimeoutError and a query's own error; the bare deadline of a poll is not one. -/
theorem polling_keeps_its_budget {hash : String} {timeout pollPeriod : ℕ} {s s' : Submission}
    {trace : List Ev} {out : Except PyException TxResponse} (spaced : 0 < pollPeriod)
    (exact : ExactSleeps trace) (run : (waitForTx hash timeout pollPeriod).Runs s trace out s') :
    s'.clock ≤ s.clock + timeout + pollPeriod ∧
      Budgeted (s.clock + timeout) s.clock trace out ∧ out ≠ .error .asyncioTimeout := by
  have enough : s.clock + timeout + pollPeriod < s.clock + (timeout / pollPeriod + 2) * pollPeriod := by
    have covers : timeout < (timeout / pollPeriod + 1) * pollPeriod :=
      Nat.lt_mul_of_div_lt (Nat.lt_succ_self _) spaced
    rw [show timeout / pollPeriod + 2 = timeout / pollPeriod + 1 + 1 from rfl, Nat.succ_mul]
    omega
  obtain ⟨ended, budgeted⟩ := pollForTx_budgeted (le_refl _) (by omega) enough exact
    (Routine.runs_state_bind.mp run)
  exact ⟨ended, budgeted, budgeted.not_asyncioTimeout⟩

/-- The first poll misses after 600 ms, the second hangs. -/
def hanging (past : List Ev) : (request : Request) → Reply request
  | .query (.getTx _ _) => if past = [] then (600000, .ok none) else (5000000, .ok none)
  | request => answering (fun _ => response 0 "" "") (fun _ _ => none) past request

/-- Two polls with a sleep between them; the wait ends at the deadline, in the
middle of the second poll. -/
def hangingPolls : List Ev :=
  [⟨.query (.getTx "TX" (some 1000000)), (600000, .ok none)⟩, ⟨.sleep 300000, (0 : ℕ)⟩,
    ⟨.query (.getTx "TX" (some 100000)), (5000000, .ok none)⟩]

theorem polling_keeps_its_budget_hanging :
    ∃ s', (waitForTx "TX" 1000000 300000).Runs ((payload 1 none).begin 0 none none) hangingPolls
        (.error (.txTimeout "")) s' ∧ s'.clock = 1000000 ∧
      s'.clock ≤ 1300000 ∧ Budgeted 1000000 0 hangingPolls (.error (.txTimeout "")) := by
  have run := Routine.play_runs (replying hanging) (waitForTx "TX" 1000000 300000)
    ((payload 1 none).begin 0 none none) []
  have shape : ((waitForTx "TX" 1000000 300000).play (replying hanging)
      ((payload 1 none).begin 0 none none) []).trace = hangingPolls := by rfl
  have timedOut : ((waitForTx "TX" 1000000 300000).play (replying hanging)
      ((payload 1 none).begin 0 none none) []).value = .error (.txTimeout "") := by rfl
  rw [shape, timedOut] at run
  have exact : ExactSleeps hangingPolls := by simp [ExactSleeps, hangingPolls]
  obtain ⟨ended, budgeted, -⟩ := polling_keeps_its_budget (by decide) exact run
  exact ⟨_, run, rfl, ended, budgeted⟩

end AlloraSdk.Guarantees
