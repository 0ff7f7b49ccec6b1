import AlloraSdk.Source.TxManager.Confirm

/-!
# The time that polling takes

`elapsed` reads off a trace how far it moves the clock. A poll is waited for as
long as the rest of the budget, so that from poll to poll only the sleeps can
leave it (`pollForTx_budgeted`).
-/

namespace AlloraSdk.Source.TxManager
open AlloraSdk.Logic

/-- What an event takes; nobody waits for an answer longer than `wait_for` does. -/
def spent : Ev → ℕ
  | ⟨.query (.getTx _ (some within)), (took, _)⟩ => min took within
  | ⟨.query _, (took, _)⟩ => took
  | ⟨.sleep duration, late⟩ => duration + late
  | ⟨.beginAttempt _ _, _⟩ => 0
  | ⟨.resolve _, _⟩ => 0

def elapsed (trace : List Ev) : ℕ := (trace.map spent).sum

/-- Every sleep ends when it was asked to. -/
def ExactSleeps (trace : List Ev) : Prop := ∀ duration late, (⟨.sleep duration, late⟩ : Ev) ∈ trace → late = 0

@[simp] theorem elapsed_nil : elapsed [] = 0 := rfl

@[simp] theorem elapsed_cons (e : Ev) (trace : List Ev) : elapsed (e :: trace) = spent e + elapsed trace := by
  simp [elapsed]

/-- What `wait_for_tx` may do on a trace that begins at `clock`: every poll is
waited for until the deadline at most, one that finds the transaction before it
is returned, and nothing else than the deadline or a query's own error, which is
no deadline and no "not found", can end the polling. -/
structure Budgeted (deadline clock : ℕ) (trace : List Ev) (out : Except PyException TxResponse) : Prop where
  waits : ∀ before after hash within reply,
    trace = before ++ ⟨.query (.getTx hash within), reply⟩ :: after →
    ∃ window, within = some window ∧ clock + elapsed before + window ≤ deadline
  returns : ∀ before after hash within took resp,
    trace = before ++ ⟨.query (.getTx hash within), (took, .ok (some resp))⟩ :: after →
    clock + elapsed before + took < deadline → out = .ok resp
  ends : (∃ resp, out = .ok resp) ∨ out = .error (.txTimeout "") ∨
    ∃ e, out = .error e ∧ RaisedIn trace e ∧ e.readsNotFound = false

theorem Budgeted.not_asyncioTimeout {deadline clock : ℕ} {trace : List Ev}
    {out : Except PyException TxResponse} (budgeted : Budgeted deadline clock trace out) :
    out ≠ .error .asyncioTimeout := by
  rintro rfl
  obtain ⟨_, same⟩ | same | ⟨e, same, -, final⟩ := budgeted.ends
  · cases same
  · cases same
  · cases same
    simp [PyException.readsNotFound] at final

section Polling

variable {s s' : Submission} {trace : List Ev} {hash : String}

/-- With no time left nothing is asked. -/
theorem Budgeted.timedOut {deadline clock : ℕ} : Budgeted deadline clock [] (.error (.txTimeout "")) where
  waits before after hash within reply split := by simp at split
  returns before after hash within took resp split := by simp at split
  ends := .inr (.inl rfl)

/-- The last poll, waited for until the deadline. -/
theorem Budgeted.last {deadline clock window took : ℕ} {answer : Except PyException (Option TxResponse)}
    {out : Except PyException TxResponse} (left : clock + window = deadline)
    (found : ∀ resp, answer = .ok (some resp) → took < window → out = .ok resp)
    (ends : (∃ resp, out = .ok resp) ∨ out = .error (.txTimeout "") ∨
      ∃ e, out = .error e ∧ answer = .error e ∧ e.readsNotFound = false) :
    Budgeted deadline clock [⟨.query (.getTx hash (some window)), (took, answer)⟩] out where
  waits before after hash within reply split := by
    rcases before with _ | ⟨e, before⟩
    · cases split
      exact ⟨_, rfl, left.le⟩
    · simp at split
  returns before after hash within took resp split inTime := by
    rcases before with _ | ⟨e, before⟩
    · cases split
      rw [elapsed_nil] at inTime
      exact found resp rfl (by omega)
    · simp at split
  ends := by
    refine ends.imp_right (Or.imp_right ?_)
    rintro ⟨e, failed, rfl, final⟩
    exact ⟨e, failed, ⟨_, took, .head _⟩, final⟩

/-- A poll that did not find the transaction in time, a sleep, and the rest. -/
theorem Budgeted.next {deadline clock window took duration late : ℕ}
    {answer : Except PyException (Option TxResponse)} {rest : List Ev}
    {out : Except PyException TxResponse} (left : clock + window = deadline)
    (missed : ∀ resp, answer = .ok (some resp) → window ≤ took)
    (later : Budgeted deadline (clock + min took window + (duration + late)) rest out) :
    Budgeted deadline clock
      (⟨.query (.getTx hash (some window)), (took, answer)⟩ :: ⟨.sleep duration, late⟩ :: rest) out where
  waits before after hash within reply split := by
    rcases before with _ | ⟨e, _ | ⟨e', before⟩⟩
    · cases split
      exact ⟨_, rfl, left.le⟩
    · simp at split
    · simp only [List.cons_append, List.cons.injEq] at split
      obtain ⟨rfl, rfl, split⟩ := split
      obtain ⟨window', same, within⟩ := later.waits before after hash within reply split
      refine ⟨window', same, ?_⟩
      simp only [elapsed_cons, spent]
      omega
  returns before after hash within took' resp split inTime := by
    rcases before with _ | ⟨e, _ | ⟨e', before⟩⟩
    · cases split
      have := missed resp rfl
      rw [elapsed_nil] at inTime
      omega
    · simp at split
    · simp only [List.cons_append, List.cons.injEq] at split
      obtain ⟨rfl, rfl, split⟩ := split
      refine later.returns before after hash within took' resp split ?_
      simp only [elapsed_cons, spent] at inTime
      omega
  ends := by
    refine later.ends.imp_right (Or.imp_right ?_)
    rintro ⟨e, failed, raised, final⟩
    exact ⟨e, failed, raised.mono fun _ member => .tail _ (.tail _ member), final⟩

theorem getTxVerdict_eq_error {answer : Except PyException (Option TxResponse)} {e : PyException}
    (verdict : getTxVerdict answer = .error e) :
    (∀ resp, answer ≠ .ok (some resp)) ∧
      (e = .txNotFound ∨ answer = .error e ∧ e.readsNotFound = false) := by
  rcases answer with raised | _ | resp
  · refine ⟨by simp, ?_⟩
    simp only [getTxVerdict] at verdict
    split at verdict
    · exact .inl (Except.error.inj verdict).symm
    · rename_i final
      cases verdict
      exact .inr ⟨rfl, by simpa using final⟩
  · exact ⟨by simp, .inl (Except.error.inj verdict).symm⟩
  · cases verdict

/-- One poll with a budget: nothing is asked once it is used up, else it is
waited for until then and no longer. -/
theorem waitForGetTx_timed {remaining : ℤ} {out : Except PyException (Except PyException TxResponse)}
    (run : (waitForGetTx hash remaining).Runs s trace out s') :
    (remaining ≤ 0 ∧ trace = [] ∧ s' = s ∧ out = .ok (.error .asyncioTimeout)) ∨
      ∃ (window took : ℕ) (answer : Except PyException (Option TxResponse)), (window : ℤ) = remaining ∧
        trace = [⟨.query (.getTx hash (some window)), (took, answer)⟩] ∧
        s' = s.advance (min took window) ∧
        out = .ok (if took < window then getTxVerdict answer else .error .asyncioTimeout) := by
  unfold waitForGetTx at run
  split at run
  · rename_i usedUp
    obtain ⟨rfl, rfl, rfl⟩ := Routine.runs_pure.mp run
    exact .inl ⟨usedUp, rfl, rfl, rfl⟩
  · obtain ⟨⟨took, answer⟩, _, rfl, rest⟩ := Routine.runs_await_bind.mp run
    have window : (remaining.toNat : ℤ) = remaining := Int.toNat_of_nonneg (by omega)
    split at rest
    · rename_i inTime
      have rest := Routine.runs_update_bind.mp rest
      obtain ⟨rfl, rfl, rfl⟩ := Routine.runs_pure.mp rest
      refine .inr ⟨_, took, answer, window, rfl, ?_, by rw [if_pos inTime]⟩
      rw [min_eq_left inTime.le]
    · rename_i late
      have rest := Routine.runs_update_bind.mp rest
      obtain ⟨rfl, rfl, rfl⟩ := Routine.runs_pure.mp rest
      refine .inr ⟨_, took, answer, window, rfl, ?_, by rw [if_neg late]⟩
      rw [min_eq_right (not_lt.mp late)]

/-- The polls of one call, from any of them on: the clock leaves the budget by
one sleep at most, and the fuel is enough. -/
theorem pollForTx_budgeted {timeout pollPeriod start fuel : ℕ} {out : Except PyException TxResponse}
    (started : start ≤ s.clock) (within : s.clock ≤ start + timeout + pollPeriod)
    (enough : start + timeout + pollPeriod < s.clock + fuel * pollPeriod) (exact : ExactSleeps trace)
    (run : (pollForTx hash timeout pollPeriod start fuel).Runs s trace out s') :
    s'.clock ≤ start + timeout + pollPeriod ∧ Budgeted (start + timeout) s.clock trace out := by
  induction fuel generalizing s trace with
  | zero =>
    rw [Nat.zero_mul, Nat.add_zero] at enough
    exact absurd within (not_le.mpr enough)
  | succ fuel ih =>
    obtain ⟨answer, t, first, rest, rfl, poll, turn⟩ := pollForTx_turn run
    obtain ⟨-, rfl, rfl, same⟩ | ⟨window, took, reply, left, rfl, rfl, same⟩ := waitForGetTx_timed poll
    · cases same
      cases turn with
      | noAnswer => exact ⟨within, .timedOut⟩
      | fatal _ _ answered => exact (answered rfl).elim
    have deadline : s.clock + window = start + timeout := by omega
    have polled : (s.advance (min took window)).clock = s.clock + min took window := rfl
    have bound : (s.advance (min took window)).clock ≤ start + timeout + pollPeriod := by omega
    have answered := Except.ok.inj same
    by_cases inTime : took < window
    · rw [if_pos inTime] at answered
      cases turn with
      | found resp =>
        refine ⟨bound, .last deadline ?_ (.inl ⟨resp, rfl⟩)⟩
        rintro resp' rfl -
        exact answered
      | timeOver =>
        obtain ⟨absent, -⟩ := getTxVerdict_eq_error answered.symm
        exact ⟨bound, .last deadline (fun resp same => (absent resp same).elim) (.inr (.inl rfl))⟩
      | @again late after _ _ timeLeft run =>
        obtain ⟨absent, -⟩ := getTxVerdict_eq_error answered.symm
        obtain rfl := exact pollPeriod late (by simp)
        have later : ExactSleeps after := fun duration late member =>
          exact duration late (by simp [member])
        have woken : ((s.advance (min took window)).advance (pollPeriod + 0)).clock =
            (s.advance (min took window)).clock + pollPeriod := rfl
        rw [Nat.add_mul, Nat.one_mul] at enough
        have bounded := ih (by omega) (by omega) (by omega) later run
        exact ⟨bounded.1, .next deadline (fun resp same => (absent resp same).elim) bounded.2⟩
      | noAnswer =>
        obtain ⟨absent, same | ⟨-, final⟩⟩ := getTxVerdict_eq_error answered.symm
        · cases same
        · simp [PyException.readsNotFound] at final
      | fatal e seen _ =>
        obtain ⟨absent, same | ⟨raised, final⟩⟩ := getTxVerdict_eq_error answered.symm
        · exact (seen same).elim
        · exact ⟨bound, .last deadline (fun resp same => (absent resp same).elim)
            (.inr (.inr ⟨e, rfl, raised, final⟩))⟩
    · rw [if_neg inTime] at answered
      cases answered
      cases turn with
      | noAnswer =>
        exact ⟨bound, .last deadline (fun resp same quick => (inTime quick).elim) (.inr (.inl rfl))⟩
      | fatal _ _ answered => exact (answered rfl).elim

end Polling

end AlloraSdk.Source.TxManager
