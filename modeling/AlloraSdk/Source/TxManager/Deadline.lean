import AlloraSdk.Source.TxManager.Rounds

/-!
# The deadline checks of the except clauses

An except clause that may retry first does its own work (re-queries, the grace
window, the new sequence and gas limit) and then decides between a retry and the
end of the run. `beforeRetry` and `retryOrStop` are these two parts
(`handle_eq`); nothing else decides, so that what is shown of the second part
bounds every way to the next attempt.
-/

namespace AlloraSdk.Source.TxManager
open AlloraSdk.Logic

/-- What an except clause does before it decides; whether the run is over by it. -/
def beforeRetry (m : Manager) : PyException → Act Bool
  | .outOfGas _ _ _ => pure false
  | .insufficientFees _ => pure false
  | .accountSequenceMismatch _ => do
    let landed ← bailIfLanded m
    if landed = .finalized then pure true
    else do
      let s ← Routine.state
      if s.pending.sameSeqRebroadcast then do
        Routine.update (setSameSeqRebroadcast false)
        let outcome ← confirmLandedWithGrace m 3
        match outcome with
        | .finalized => pure true
        | .retryNewSequence => do
          Routine.update (setAccountSeq none)
          seedGasLimit
          pure false
        | .notLanded => do
          Routine.update (setAccountSeq none)
          pure false
      else do
        Routine.update (setAccountSeq none)
        pure false
  | .txTimeout _ => do
    let outcome ← bailIfLanded m
    match outcome with
    | .finalized => pure true
    | .retryNewSequence => do
      Routine.update (setAccountSeq none)
      seedGasLimit
      pure false
    | .notLanded => do
      Routine.update (setSameSeqRebroadcast true)
      pure false
  | .asyncioTimeout => pure false
  | err => do
    setException err
    pure true

/-- The retry-or-stop decision at the end of an except clause. -/
def retryOrStop (m : Manager) (start attempt : ℕ) : PyException → Act Control
  | .outOfGas message wanted used => onOutOfGas m start attempt (.outOfGas message wanted used) wanted
  | .insufficientFees _ => onInsufficientFees start attempt
  | .accountSequenceMismatch _ => retryAfterMismatch m start attempt
  | .txTimeout _ => giveUpOr start attempt (.txTimeout "") (pure .continue)
  | .asyncioTimeout => onQueryTimeout start attempt .asyncioTimeout
  | _ => pure .stop

theorem handle_eq (m : Manager) (start attempt : ℕ) (e : PyException) :
    handle m start attempt e =
      (beforeRetry m e >>= fun finished =>
        if finished then pure .stop else retryOrStop m start attempt e) := by
  cases e
  case accountSequenceMismatch =>
    simp only [handle, onSequenceMismatch, beforeRetry, retryOrStop, bind_assoc]
    refine bind_congr fun landed => ?_
    split
    · simp
    simp only [bind_assoc]
    refine bind_congr fun s => ?_
    split
    · simp only [bind_assoc]
      refine bind_congr fun _ => bind_congr fun outcome => ?_
      cases outcome <;> simp
    · simp
  case txTimeout =>
    simp only [handle, onTxTimeout, beforeRetry, retryOrStop, bind_assoc]
    refine bind_congr fun outcome => ?_
    cases outcome <;> simp
  all_goals simp [handle, beforeRetry, retryOrStop, onError]

/-- The deadline, where there is one, has not passed. -/
def InTime (start : ℕ) (timeout : Option ℤ) (clock : ℕ) : Prop :=
  ∀ delta, timeout.filter (· ≠ 0) = some delta → (clock : ℤ) ≤ start + delta

/-- There is a deadline and it has come. -/
def DeadlineReached (start : ℕ) (timeout : Option ℤ) (clock : ℕ) : Prop :=
  ∃ delta, timeout.filter (· ≠ 0) = some delta ∧ start + delta ≤ (clock : ℤ)

section Decisions

variable {m : Manager} {start attempt : ℕ} {s s' : Submission} {trace : List Ev}

theorem datetimeAdd_ok {delta deadline : ℤ} (sum : datetimeAdd start delta = .ok deadline) :
    deadline = start + delta := by
  unfold datetimeAdd at sum
  split at sum
  · exact (Except.ok.inj sum).symm
  · cases sum

theorem retriesSpent_ok {spent : Bool} (run : (retriesSpent start attempt).Runs s trace (.ok spent) s') :
    trace = [] ∧ s' = s ∧
      if spent then attempt = s.vars.maxRetries ∨ DeadlineReached start s.vars.timeout s.clock
      else InTime start s.vars.timeout s.clock := by
  have run₁ := Routine.runs_state_bind.mp run
  split at run₁
  · rename_i last
    obtain ⟨rfl, same, rfl⟩ := Routine.runs_pure.mp run₁
    cases same
    exact ⟨rfl, rfl, .inl last⟩
  split at run₁
  · rename_i untimed
    obtain ⟨rfl, same, rfl⟩ := Routine.runs_pure.mp run₁
    cases same
    refine ⟨rfl, rfl, fun delta finite => ?_⟩
    cases untimed.symm.trans finite
  · rename_i delta finite
    obtain ⟨e, -, -, same, -⟩ | ⟨deadline, sum, done⟩ := Routine.runs_ofExcept_bind.mp run₁
    · cases same
    obtain ⟨rfl, same, rfl⟩ := Routine.runs_pure.mp done
    obtain rfl := datetimeAdd_ok sum
    obtain rfl := Except.ok.inj same
    refine ⟨rfl, rfl, ?_⟩
    split
    · rename_i past
      exact .inr ⟨delta, finite, (of_decide_eq_true past).le⟩
    · rename_i early
      intro delta' finite'
      obtain rfl := Option.some.inj (finite.symm.trans finite')
      simpa using early

/-- The future that an except clause resolves when it stops, and what it leaves alone. -/
theorem setException_stops {err : PyException} {out : Except PyException Control}
    (unresolved : s.vars.finalFuture = none)
    (run : Routine.Runs (do setException err; pure Control.stop) s trace out s') :
    out = .ok .stop ∧ trace = [⟨.resolve (.error err), ()⟩] ∧ s'.clock = s.clock ∧
      s'.vars = s.vars.resolved (.error err) := by
  obtain ⟨resolved, stopped, vars⟩ := setException_runs unresolved run
  refine ⟨stopped, resolved, ?_, vars⟩
  obtain ⟨_, h, -⟩ | ⟨_, t, first, last, settled, done, rfl⟩ := Routine.runs_bind.mp run
  · cases (settle_runs unresolved h).2.1
  · change s.pending.finalFuture = none at unresolved
    have rest := Routine.runs_state_bind.mp settled
    rw [unresolved] at rest
    obtain ⟨_, _, rfl, h⟩ := Routine.runs_await_bind.mp rest
    obtain ⟨rfl, -, rfl⟩ := Routine.runs_update.mp h
    obtain ⟨-, -, rfl⟩ := Routine.runs_pure.mp done
    rfl

/-- What a decision owes the deadline: a sleep ends by it, a retry begins by it,
and a stop, unless the retries are spent, waits for it and leaves the future
resolved with an exception. -/
structure Decides (start attempt : ℕ) (s : Submission) (trace : List Ev)
    (control : Except PyException Control) (s' : Submission) : Prop where
  sleeps : ∀ before delay late after, trace = before ++ ⟨.sleep delay, late⟩ :: after →
    before = [] ∧ InTime start s.vars.timeout (s.clock + delay)
  retries : control = .ok .continue → InTime start s.vars.timeout s'.clock
  stops : control = .ok .stop → (attempt = s.vars.maxRetries ∨ DeadlineReached start s.vars.timeout s'.clock) ∧
    ∃ err, s'.vars.finalFuture = some (.error err)

/-- An except clause that resolves unless it retries with `next`. -/
theorem giveUpOr_decides {err : PyException} {next : Act Control} {control : Except PyException Control}
    (unresolved : s.vars.finalFuture = none)
    (goesOn : InTime start s.vars.timeout s.clock → next.Runs s trace control s' →
      Decides start attempt s trace control s')
    (run : (giveUpOr start attempt err next).Runs s trace control s') :
    Decides start attempt s trace control s' := by
  obtain ⟨_, h, rfl⟩ | ⟨spent, t, first, last, check, rest, rfl⟩ := Routine.runs_bind.mp run
  · obtain ⟨rfl, -⟩ := retriesSpent_outcome h
    exact ⟨fun before delay late after split => by simp at split, by simp, by simp⟩
  obtain ⟨rfl, rfl, verdict⟩ := retriesSpent_ok check
  cases spent with
  | true =>
    obtain ⟨same, rfl, clock, vars⟩ := setException_stops unresolved rest
    subst same
    refine ⟨fun before delay late after split => ?_, by simp, fun _ => ?_⟩
    · rcases before with _ | ⟨_, before⟩
      · cases split
      · simp at split
    · rw [clock, vars]
      exact ⟨verdict, err, rfl⟩
  | false => exact goesOn verdict rest

theorem Decides.continue (inTime : InTime start s.vars.timeout s.clock) (clock : s'.clock = s.clock) :
    Decides start attempt s [] (.ok .continue) s' where
  sleeps before delay late after split := by simp at split
  retries _ := by rw [clock]; exact inTime
  stops same := by cases same

theorem giveUpOr_retry_decides {err : PyException} {control : Except PyException Control}
    (unresolved : s.vars.finalFuture = none)
    (run : (giveUpOr start attempt err (pure .continue)).Runs s trace control s') :
    Decides start attempt s trace control s' := by
  refine giveUpOr_decides unresolved (fun inTime next => ?_) run
  obtain ⟨rfl, same, rfl⟩ := Routine.runs_pure.mp next
  cases same
  exact .continue inTime rfl

theorem datetimeAdd_map_ok {α : Type} {f : ℤ → α} {delta : ℤ} {value : α}
    (sum : (datetimeAdd start delta).map f = .ok value) : value = f (start + delta) := by
  cases deadline : datetimeAdd start delta with
  | error e =>
    rw [deadline] at sum
    cases sum
  | ok deadline' =>
    rw [deadline] at sum
    rw [← datetimeAdd_ok deadline]
    exact (Except.ok.inj sum).symm

/-- Clamped to the deadline, where there is one. -/
theorem retryDelay_ok {delay asked now : ℕ} {timeout : Option ℤ} {expired : Bool}
    (inTime : InTime start timeout now) (delayed : retryDelay delay start timeout now = .ok (asked, expired)) :
    InTime start timeout (now + asked) ∧ (expired = true → DeadlineReached start timeout (now + asked)) := by
  unfold retryDelay at delayed
  split at delayed
  · rename_i untimed
    cases delayed
    refine ⟨fun delta finite => ?_, by simp⟩
    cases untimed.symm.trans finite
  · rename_i delta finite
    have early := inTime delta finite
    have value := datetimeAdd_map_ok delayed
    dsimp only at value
    split at value
    · rename_i clamped
      cases value
      have whole : ((start + delta - now).toNat : ℤ) = start + delta - now := Int.toNat_of_nonneg (by omega)
      refine ⟨fun delta' finite' => ?_, fun _ => ⟨delta, finite, by push_cast; omega⟩⟩
      obtain rfl := Option.some.inj (finite.symm.trans finite')
      push_cast
      omega
    · rename_i short
      cases value
      refine ⟨fun delta' finite' => ?_, by simp⟩
      obtain rfl := Option.some.inj (finite.symm.trans finite')
      push_cast
      omega

theorem pastDeadline_ok {now : ℕ} {timeout : Option ℤ} {expired past : Bool}
    (checked : pastDeadline expired start timeout now = .ok past) :
    if past then expired = true ∨ DeadlineReached start timeout now else InTime start timeout now := by
  unfold pastDeadline at checked
  split at checked
  · cases checked
    exact .inl rfl
  · rename_i untimed
    cases checked
    intro delta finite
    cases untimed.symm.trans finite
  · rename_i delta finite
    obtain rfl := datetimeAdd_map_ok checked
    split
    · rename_i late
      exact .inr ⟨delta, finite, (of_decide_eq_true late).le⟩
    · rename_i early
      intro delta' finite'
      obtain rfl := Option.some.inj (finite.symm.trans finite')
      simpa using early

theorem DeadlineReached.later {timeout : Option ℤ} {clock clock' : ℕ}
    (reached : DeadlineReached start timeout clock) (later : clock ≤ clock') :
    DeadlineReached start timeout clock' := by
  obtain ⟨delta, finite, past⟩ := reached
  exact ⟨delta, finite, by omega⟩

/-- The retry delay ends in time or stops the run, and is never longer than the time left. -/
theorem awaitSequenceRetryDelay_decides {control : Except PyException Control} (unresolved : s.vars.finalFuture = none)
    (inTime : InTime start s.vars.timeout s.clock)
    (run : (awaitSequenceRetryDelay m start).Runs s trace control s') :
    Decides start attempt s trace control s' := by
  unfold awaitSequenceRetryDelay at run
  split at run
  · obtain ⟨rfl, same, rfl⟩ := Routine.runs_pure.mp run
    cases same
    exact .continue inTime rfl
  have run₁ := Routine.runs_state_bind.mp run
  obtain ⟨e, -, rfl, rfl, rfl⟩ | ⟨⟨asked, expired⟩, delayed, run₂⟩ := Routine.runs_ofExcept_bind.mp run₁
  · exact ⟨fun before delay late after split => by simp at split, by simp, by simp⟩
  obtain ⟨late, rest, rfl, run₃⟩ := sleep_bind_runs.mp run₂
  have run₄ := Routine.runs_state_bind.mp run₃
  obtain ⟨within, expires⟩ := retryDelay_ok inTime delayed
  have asleep : ∀ before delay late' after,
      [(⟨.sleep asked, late⟩ : Ev)] = before ++ ⟨.sleep delay, late'⟩ :: after →
        before = [] ∧ InTime start s.vars.timeout (s.clock + delay) := by
    intro before delay late' after split
    rcases before with _ | ⟨_, before⟩
    · cases split
      exact ⟨rfl, within⟩
    · simp at split
  obtain ⟨e, -, rfl, rfl, rfl⟩ | ⟨past, checked, run₅⟩ := Routine.runs_ofExcept_bind.mp run₄
  · exact ⟨asleep, by simp, by simp⟩
  have verdict := pastDeadline_ok checked
  split at run₅
  · rename_i ended
    rw [if_pos ended] at verdict
    obtain ⟨same, rfl, clock, vars⟩ := setException_stops (by exact unresolved) run₅
    subst same
    refine ⟨fun before delay late' after split => ?_, by simp, fun _ => ?_⟩
    · rcases before with _ | ⟨_, _ | ⟨_, before⟩⟩
      · cases split
        exact ⟨rfl, within⟩
      · cases split
      · simp at split
    · rw [clock, vars]
      refine ⟨.inr ?_, _, rfl⟩
      rcases verdict with expired | reached
      · exact (expires expired).later (by simp only [Submission.advance]; omega)
      · exact reached
  · rename_i goesOn
    rw [if_neg goesOn] at verdict
    obtain ⟨rfl, rfl, rfl⟩ := Routine.runs_pure.mp run₅
    exact ⟨asleep, fun _ => verdict, by simp⟩

/-- The except clauses that may retry all keep the deadline. -/
theorem retryOrStop_decides {e : PyException} {control : Except PyException Control} (unresolved : s.vars.finalFuture = none)
    (kind : e.retriesInPlace = true ∨ e.isMismatch = true ∨ e.isTxTimeout = true)
    (run : (retryOrStop m start attempt e).Runs s trace control s') :
    Decides start attempt s trace control s' := by
  cases e
  case outOfGas =>
    refine giveUpOr_decides unresolved (fun inTime next => ?_) run
    have next := Routine.runs_update_bind.mp (Routine.runs_state_bind.mp next)
    obtain ⟨rfl, same, rfl⟩ := Routine.runs_pure.mp next
    cases same
    exact .continue inTime rfl
  case insufficientFees =>
    have decided := giveUpOr_retry_decides (by exact unresolved) (Routine.runs_update_bind.mp run)
    exact ⟨decided.sleeps, decided.retries, decided.stops⟩
  case accountSequenceMismatch =>
    exact giveUpOr_decides unresolved
      (fun inTime next => awaitSequenceRetryDelay_decides unresolved inTime next) run
  case txTimeout => exact giveUpOr_retry_decides unresolved run
  case asyncioTimeout => exact giveUpOr_retry_decides unresolved run
  all_goals simp [PyException.retriesInPlace, PyException.isMismatch, PyException.isTxTimeout] at kind

theorem Carried.trans {v v' v'' : RetryVars} (first : Carried v v') (next : Carried v' v'') : Carried v v'' :=
  ⟨next.1.trans first.1, next.2.1.trans first.2.1, next.2.2.1.trans first.2.2.1, next.2.2.2.trans first.2.2.2⟩

/-- A clause that goes on with a fresh sequence. -/
theorem refreshed_carried {v : RetryVars} {finished : Bool} (same : s.vars = v)
    (run : (do Routine.update (setAccountSeq none); pure false : Act Bool).Runs s trace (.ok finished) s') :
    Carried v s'.vars := by
  have after := Routine.runs_update_bind.mp run
  obtain ⟨-, -, rfl⟩ := Routine.runs_pure.mp after
  rw [vars_clearAccountSeq, same]
  exact ⟨rfl, rfl, rfl, rfl⟩

/-- A clause that goes on after a failure that was found, with the gas it used. -/
theorem reseeded_carried {v : RetryVars} {finished : Bool} (same : s.vars = v)
    (run : (do Routine.update (setAccountSeq none); seedGasLimit; pure false : Act Bool).Runs s trace
      (.ok finished) s') : Carried v s'.vars := by
  obtain ⟨t, seeded, after⟩ := seedGasLimit_bind (Routine.runs_update_bind.mp run)
  obtain ⟨-, -, rfl⟩ := Routine.runs_pure.mp after
  rw [seeded, vars_clearAccountSeq, same]
  exact ⟨rfl, rfl, rfl, rfl⟩

theorem txTimeout_open {message : String} (unresolved : s.vars.finalFuture = none)
    (run : (beforeRetry m (.txTimeout message)).Runs s trace (.ok false) s') : Carried s.vars s'.vars := by
  obtain ⟨outcome, t, look, rest, -, bail, run₁, -⟩ := bailIfLanded_bind unresolved run
  cases outcome with
  | finalized =>
    obtain ⟨-, same, -⟩ := Routine.runs_pure.mp run₁
    cases same
  | retryNewSequence => exact reseeded_carried (bail.of_not_finalized (by simp)).1 run₁
  | notLanded =>
    have run₂ := Routine.runs_update_bind.mp run₁
    obtain ⟨-, -, rfl⟩ := Routine.runs_pure.mp run₂
    rw [vars_setSameSeqRebroadcast, (bail.of_not_finalized (by simp)).1]
    exact ⟨rfl, rfl, rfl, rfl⟩

theorem mismatch_open {message : String} (unresolved : s.vars.finalFuture = none)
    (run : (beforeRetry m (.accountSequenceMismatch message)).Runs s trace (.ok false) s') :
    Carried s.vars s'.vars := by
  obtain ⟨landed, t, look, rest, -, bail, run₁, -⟩ := bailIfLanded_bind unresolved run
  split at run₁
  · obtain ⟨-, same, -⟩ := Routine.runs_pure.mp run₁
    cases same
  rename_i unfinished
  obtain ⟨vars, -⟩ := bail.of_not_finalized unfinished
  have pending : t.vars.finalFuture = none := by rw [vars]; exact unresolved
  have run₂ := Routine.runs_state_bind.mp run₁
  split at run₂
  · -- after the grace window
    have run₃ := Routine.runs_update_bind.mp run₂
    obtain ⟨outcome, u, window, last, -, grace, run₄, -⟩ := confirmLandedWithGrace_bind (by exact pending) run₃
    rw [vars_setSameSeqRebroadcast, vars] at grace
    have flagged : Carried s.vars (s.vars.flagged false) := ⟨rfl, rfl, rfl, rfl⟩
    cases outcome with
    | finalized =>
      obtain ⟨-, same, -⟩ := Routine.runs_pure.mp run₄
      cases same
    | retryNewSequence => exact flagged.trans (reseeded_carried (grace.of_not_finalized (by simp)).1 run₄)
    | notLanded => exact flagged.trans (refreshed_carried (grace.of_not_finalized (by simp)).1 run₄)
  · exact refreshed_carried vars run₂

/-- Only the clauses that may retry leave the decision open, with the future and
the deadline as they were. -/
theorem beforeRetry_open {e : PyException} (unresolved : s.vars.finalFuture = none)
    (run : (beforeRetry m e).Runs s trace (.ok false) s') :
    (e.retriesInPlace = true ∨ e.isMismatch = true ∨ e.isTxTimeout = true) ∧ Carried s.vars s'.vars := by
  cases e
  case outOfGas =>
    obtain ⟨-, -, rfl⟩ := Routine.runs_pure.mp run
    exact ⟨.inl rfl, rfl, rfl, rfl, rfl⟩
  case insufficientFees =>
    obtain ⟨-, -, rfl⟩ := Routine.runs_pure.mp run
    exact ⟨.inl rfl, rfl, rfl, rfl, rfl⟩
  case asyncioTimeout =>
    obtain ⟨-, -, rfl⟩ := Routine.runs_pure.mp run
    exact ⟨.inl rfl, rfl, rfl, rfl, rfl⟩
  case txTimeout => exact ⟨.inr (.inr rfl), txTimeout_open unresolved run⟩
  case accountSequenceMismatch => exact ⟨.inr (.inl rfl), mismatch_open unresolved run⟩
  all_goals
    obtain ⟨_, _, _, _, -, done, -⟩ := Routine.runs_bind_ok run
    obtain ⟨-, same, -⟩ := Routine.runs_pure.mp done
    cases same

end Decisions

/-! ## The decision of a round -/

/-- The except clause of a round got to its decision, in state `u`. -/
structure Round.DecidesFrom (m : Manager) (start : ℕ) (r : Round) (e : PyException) (before : List Ev)
    (u : Submission) (after : List Ev) : Prop where
  raised : r.result = .error e
  prepared : (beforeRetry m e).Runs r.raised before (.ok false) u
  decided : (retryOrStop m start r.attempt e).Runs u after r.control r.exit
  split : r.handling = before ++ after

section Rounds

variable {m : Manager} {start : ℕ} {r : Round} {e : PyException} {before after : List Ev} {u : Submission}

/-- A round goes on through its decision only. -/
theorem Round.Valid.decidesFrom (valid : r.Valid m start) (unresolved : r.entry.vars.finalFuture = none)
    (goesOn : r.control = .ok .continue) : ∃ e before u after, r.DecidesFrom m start e before u after := by
  obtain ⟨e, raised, -, caught⟩ := valid.handled unresolved goesOn
  rw [handle_eq] at caught
  obtain ⟨finished, u, before, after, prepared, decided, split⟩ := Routine.runs_bind_ok caught
  cases finished with
  | true =>
    obtain ⟨-, same, -⟩ := Routine.runs_pure.mp decided
    cases same
  | false =>
    rw [← goesOn] at decided
    exact ⟨e, before, u, after, raised, prepared, decided, split⟩

theorem Round.DecidesFrom.decides (decides : r.DecidesFrom m start e before u after)
    (valid : r.Valid m start) (unresolved : r.entry.vars.finalFuture = none) :
    Carried r.entry.vars u.vars ∧ Decides start r.attempt u after r.control r.exit := by
  have tried := tryAttempt_outcome unresolved valid.tried
  rw [decides.raised] at tried
  obtain ⟨kind, carried⟩ := beforeRetry_open (tried.unresolved unresolved) decides.prepared
  have whole := tried.carried.trans carried
  exact ⟨whole, retryOrStop_decides (whole.1.trans unresolved) kind decides.decided⟩

end Rounds

end AlloraSdk.Source.TxManager
