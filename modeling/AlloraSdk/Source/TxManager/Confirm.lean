import Mathlib.Tactic.Simps.Basic
import AlloraSdk.Source.TxManager.Broadcast

/-!
# Confirmation by hash

Source: tx_manager.py, `wait_for_tx`, `_get_tx`, `_try_confirm_landed`,
`_bail_if_landed`, `_confirm_landed_with_grace`, `_consume_landed_gas_seed`,
`_resolve_landed` and `PendingTx._set_result` / `_set_exception`.

The effect of each on the retry loop is stated on `RetryVars`, the variables that
decide what the loop does next; the gas limit, the fee multiplier and the price
cache only change the content of a transaction.
-/

namespace AlloraSdk.Source.TxManager
open AlloraSdk.Logic

/-- The exceptions that `_get_tx` turns into TxNotFoundError. A slow poll is
one of them. -/
def PyException.readsNotFound : PyException → Bool
  | .rpcError details => details.any (containsText "not found" · false)
  | .asyncioTimeout => true
  | e => containsText "tx" e.str false && containsText "not found" e.str false

/-- What `_get_tx` makes of the answer. -/
def getTxVerdict : Except PyException (Option TxResponse) → Except PyException TxResponse
  | .ok (some resp) => .ok resp
  | .ok none => .error .txNotFound
  | .error e => if e.readsNotFound then .error .txNotFound else .error e

/-- `asyncio.wait_for(self._get_tx(hash), timeout=remaining)`: with no time left
the query is never sent, and an answer after the deadline is not received. -/
def waitForGetTx (hash : String) (remaining : ℤ) : Act (Except PyException TxResponse) :=
  if remaining ≤ 0 then pure (.error .asyncioTimeout)
  else do
    let reply ← request (.query (.getTx hash (some remaining.toNat)))
    if reply.1 < remaining.toNat then do
      Routine.update (·.advance reply.1)
      pure (getTxVerdict reply.2)
    else do
      Routine.update (·.advance remaining.toNat)
      pure (.error .asyncioTimeout)

/-- The loop of `wait_for_tx`. The clock passes `timeout` before the fuel is
used up; see `pollForTx_fuel`. -/
def pollForTx (hash : String) (timeout pollPeriod start : ℕ) : ℕ → Act TxResponse
  | 0 => throw (.other "out of fuel")
  | fuel + 1 => do
    let s ← Routine.state
    let answer ← waitForGetTx hash (timeout - (s.clock - start))
    match answer with
    | .ok resp => pure resp
    | .error .txNotFound => do
      let s ← Routine.state
      if timeout ≤ s.clock - start then throw (.txTimeout "")
      else do
        sleep pollPeriod
        pollForTx hash timeout pollPeriod start fuel
    | .error .asyncioTimeout => throw (.txTimeout "")
    | .error e => throw e

def waitForTx (hash : String) (timeout pollPeriod : ℕ) : Act TxResponse := do
  let s ← Routine.state
  pollForTx hash timeout pollPeriod s.clock (timeout / pollPeriod + 2)

/-- An effective `_set_result` or `_set_exception`: only the first one is. -/
def settle (outcome : Except PyException TxResponse) : Act Unit := do
  let s ← Routine.state
  match s.pending.finalFuture with
  | some _ => pure ()
  | none => do
    request (.resolve outcome)
    Routine.update fun s => { s with pending := { s.pending with finalFuture := some outcome } }

def setResult (resp : TxResponse) : Act Unit := settle (.ok resp)

def setException (err : PyException) : Act Unit := settle (.error err)

/-- Any error of the re-query is swallowed. -/
def tryConfirmLanded (txHash : String) : Act (Option TxResponse) := do
  let answer ← outcome (.getTx txHash none)
  pure (getTxVerdict answer).toOption

inductive LandedOutcome where
  | finalized | retryNewSequence | notLanded
  deriving DecidableEq, Repr

/-- The outcome of a confirmed-landed transaction: its own failure, if it failed. -/
def landedResult (m : Manager) (resp : TxResponse) : Except PyException TxResponse :=
  match exceptionFromTxResponse m resp with
  | some err => .error err
  | none => .ok resp

def resolveLanded (m : Manager) (resp : TxResponse) : Act Unit := settle (landedResult m resp)

/-- `_RETRYABLE_TX_ERRORS` on a landed transaction, with retries left. -/
def landedRetryably (m : Manager) (resp : TxResponse) (pending : PendingTx) : Bool :=
  (exceptionFromTxResponse m resp).any (·.isRetryable) && decide (pending.attempt < pending.maxRetries)

def setLandedError (err : Option PyException) (s : Submission) : Submission :=
  { s with pending := { s.pending with lastLandedError := err } }

def bailIfLanded (m : Manager) : Act LandedOutcome := do
  Routine.update (setLandedError none)
  let s ← Routine.state
  match s.pending.lastTxHash.filter (· ≠ "") with
  | none => pure .notLanded
  | some hash => do
    let landed ← tryConfirmLanded hash
    match landed with
    | none => pure .notLanded
    | some resp =>
      if landedRetryably m resp s.pending then do
        Routine.update (setLandedError (exceptionFromTxResponse m resp))
        pure .retryNewSequence
      else do
        resolveLanded m resp
        pure .finalized

def confirmLandedWithGrace (m : Manager) : ℕ → Act LandedOutcome
  | 0 => pure .notLanded
  | maxAttempts + 1 => do
    sleep m.queryInterval
    let outcome ← bailIfLanded m
    if outcome = .notLanded then confirmLandedWithGrace m maxAttempts else pure outcome

/-- The retry gas limit seeded from a landed transaction that ran out of gas. -/
def landedGasSeed : Option PyException → Option ℤ
  | some (.outOfGas _ (some wanted) _) => if wanted = 0 then none else some (scaleGas wanted (6 / 5))
  | _ => none

def consumeLandedGasSeed : Act (Option ℤ) := do
  let s ← Routine.state
  Routine.update (setLandedError none)
  pure (landedGasSeed s.pending.lastLandedError)

/-! ## The variables of the retry loop -/

/-- What decides how the retry loop goes on. -/
structure RetryVars where
  typeUrl : String
  msgs : List String
  maxRetries : ℕ
  timeout : Option ℤ
  attempt : ℕ
  lastTxHash : Option String
  nextAccountSeq : Option ℕ
  sameSeqRebroadcast : Bool
  finalFuture : Option (Except PyException TxResponse)

namespace RetryVars

@[simps] def begun (v : RetryVars) (attempt : ℕ) : RetryVars := { v with attempt }

@[simps] def sent (v : RetryVars) (hash : String) (sequence : ℕ) : RetryVars :=
  { v with lastTxHash := some hash, nextAccountSeq := some sequence }

@[simps] def fresh (v : RetryVars) : RetryVars := { v with nextAccountSeq := none }

@[simps] def flagged (v : RetryVars) (flag : Bool) : RetryVars := { v with sameSeqRebroadcast := flag }

@[simps] def resolved (v : RetryVars) (outcome : Except PyException TxResponse) : RetryVars :=
  { v with finalFuture := some outcome }

end RetryVars

def Submission.vars (s : Submission) : RetryVars where
  typeUrl := s.pending.typeUrl
  msgs := s.pending.msgs
  maxRetries := s.pending.maxRetries
  timeout := s.pending.timeout
  attempt := s.pending.attempt
  lastTxHash := s.pending.lastTxHash
  nextAccountSeq := s.nextAccountSeq
  sameSeqRebroadcast := s.pending.sameSeqRebroadcast
  finalFuture := s.pending.finalFuture

theorem Frame.vars {s s' : Submission} (frame : Frame s s') : s'.vars = s.vars := by
  rw [frame.2]
  rfl

@[simp] theorem vars_advance (s : Submission) (elapsed : ℕ) : (s.advance elapsed).vars = s.vars := rfl

@[simp] theorem vars_setLandedError (err : Option PyException) (s : Submission) :
    (setLandedError err s).vars = s.vars := rfl

/-- A GetTx that found its hash in time. -/
def sighting : Ev → Option (String × TxResponse)
  | ⟨.query (.getTx hash none), (_, .ok (some resp))⟩ => some (hash, resp)
  | ⟨.query (.getTx hash (some within)), (took, .ok (some resp))⟩ =>
    if took < within then some (hash, resp) else none
  | _ => none

def Unseen (trace : List Ev) : Prop := ∀ e ∈ trace, sighting e = none

/-- Only sleeps and lookups of the hash. -/
def Looking (lastTxHash : Option String) (trace : List Ev) : Prop :=
  ∀ e ∈ trace, (∃ duration, e.request = .sleep duration) ∨
    ∃ hash within, lastTxHash = some hash ∧ e.request = .query (.getTx hash within)

theorem Unseen.append {first rest : List Ev} (h₁ : Unseen first) (h₂ : Unseen rest) :
    Unseen (first ++ rest) := by
  intro e member
  rcases List.mem_append.mp member with h | h
  · exact h₁ e h
  · exact h₂ e h

theorem Looking.append {lastTxHash : Option String} {first rest : List Ev}
    (h₁ : Looking lastTxHash first) (h₂ : Looking lastTxHash rest) :
    Looking lastTxHash (first ++ rest) := by
  intro e member
  rcases List.mem_append.mp member with h | h
  · exact h₁ e h
  · exact h₂ e h

theorem Unseen.nil : Unseen [] := by simp [Unseen]

theorem Looking.nil (lastTxHash : Option String) : Looking lastTxHash [] := by simp [Looking]

section Specs

variable {m : Manager} {s s' : Submission} {trace : List Ev}

/-- A swallowed lookup that gives a response was answered with it. -/
theorem getTxVerdict_toOption {answer : Except PyException (Option TxResponse)} {resp : TxResponse}
    (found : (getTxVerdict answer).toOption = some resp) : answer = .ok (some resp) := by
  match answer with
  | .ok (some _) => simpa [getTxVerdict, Except.toOption] using found
  | .ok none => simp [getTxVerdict, Except.toOption] at found
  | .error e =>
    simp only [getTxVerdict] at found
    split at found <;> simp [Except.toOption] at found

theorem settle_runs {outcome : Except PyException TxResponse} {out : Except PyException Unit}
    (unresolved : s.vars.finalFuture = none) (run : (settle outcome).Runs s trace out s') :
    trace = [⟨.resolve outcome, ()⟩] ∧ out = .ok () ∧
      s'.vars = s.vars.resolved outcome := by
  change s.pending.finalFuture = none at unresolved
  have rest := Routine.runs_state_bind.mp run
  rw [unresolved] at rest
  obtain ⟨_, _, rfl, h⟩ := Routine.runs_await_bind.mp rest
  obtain ⟨rfl, rfl, rfl⟩ := Routine.runs_update.mp h
  exact ⟨rfl, rfl, rfl⟩

/-! ### wait_for_tx -/

/-- How one poll ends: the query was not sent, came too late, or was answered. -/
theorem waitForGetTx_outcome {hash : String} {remaining : ℤ}
    {out : Except PyException (Except PyException TxResponse)}
    (run : (waitForGetTx hash remaining).Runs s trace out s') :
    Frame s s' ∧ Looking (some hash) trace ∧
      ((∃ last resp, trace = [last] ∧ sighting last = some (hash, resp) ∧ out = .ok (.ok resp)) ∨
        Unseen trace ∧ ∃ e, out = .ok (.error e) ∧
          (e = .asyncioTimeout ∨ e = .txNotFound ∨ RaisedIn trace e)) := by
  unfold waitForGetTx at run
  split at run
  · obtain ⟨rfl, rfl, rfl⟩ := Routine.runs_pure.mp run
    exact ⟨Frame.refl _, .nil _, .inr ⟨.nil, _, rfl, .inl rfl⟩⟩
  · obtain ⟨⟨took, answer⟩, _, rfl, rest⟩ := Routine.runs_await_bind.mp run
    have looking : Looking (some hash)
        [⟨.query (.getTx hash (some remaining.toNat)), (took, answer)⟩] := by
      intro e member
      obtain rfl := List.mem_singleton.mp member
      exact .inr ⟨hash, _, rfl, rfl⟩
    split at rest
    · rename_i inTime
      have rest := Routine.runs_update_bind.mp rest
      obtain ⟨rfl, rfl, rfl⟩ := Routine.runs_pure.mp rest
      refine ⟨Frame.advance _ _, looking, ?_⟩
      match answer with
      | .ok (some resp) =>
        exact .inl ⟨_, resp, rfl, by simpa [sighting] using inTime, rfl⟩
      | .ok none => exact .inr ⟨by simp [Unseen, sighting], _, rfl, .inr (.inl rfl)⟩
      | .error e =>
        refine .inr ⟨by simp [Unseen, sighting], ?_⟩
        by_cases notFound : e.readsNotFound = true
        · exact ⟨.txNotFound, by simp [getTxVerdict, notFound], .inr (.inl rfl)⟩
        · exact ⟨e, by simp [getTxVerdict, notFound], .inr (.inr ⟨_, took, .head _⟩)⟩
    · rename_i late
      have rest := Routine.runs_update_bind.mp rest
      obtain ⟨rfl, rfl, rfl⟩ := Routine.runs_pure.mp rest
      refine ⟨Frame.advance _ _, looking, .inr ⟨?_, _, rfl, .inl rfl⟩⟩
      intro e member
      obtain rfl := List.mem_singleton.mp member
      match answer with
      | .ok (some resp) => simpa [sighting] using late
      | .ok none => rfl
      | .error _ => rfl

/-- What a turn of the polling loop does with the answer to its query, which left
the state `t`. `later` is a run of the turns after it. -/
inductive PollTurn (timeout pollPeriod start : ℕ) (t : Submission)
    (later : Submission → List Ev → Except PyException TxResponse → Submission → Prop) :
    Except PyException TxResponse → List Ev → Except PyException TxResponse → Submission → Prop
  | found (resp : TxResponse) : PollTurn timeout pollPeriod start t later (.ok resp) [] (.ok resp) t
  | timeOver (timeUp : timeout ≤ t.clock - start) :
      PollTurn timeout pollPeriod start t later (.error .txNotFound) [] (.error (.txTimeout "")) t
  | again {late : ℕ} {after : List Ev} {out : Except PyException TxResponse} {s' : Submission}
      (timeLeft : t.clock - start < timeout) (run : later (t.advance (pollPeriod + late)) after out s') :
      PollTurn timeout pollPeriod start t later (.error .txNotFound) (⟨.sleep pollPeriod, late⟩ :: after) out s'
  | noAnswer : PollTurn timeout pollPeriod start t later (.error .asyncioTimeout) [] (.error (.txTimeout "")) t
  | fatal (e : PyException) (seen : e ≠ .txNotFound) (answered : e ≠ .asyncioTimeout) :
      PollTurn timeout pollPeriod start t later (.error e) [] (.error e) t

theorem pollForTx_turn {hash : String} {timeout pollPeriod start fuel : ℕ}
    {out : Except PyException TxResponse}
    (run : (pollForTx hash timeout pollPeriod start (fuel + 1)).Runs s trace out s') :
    ∃ answer t first rest, trace = first ++ rest ∧
      (waitForGetTx hash (timeout - (s.clock - start))).Runs s first (.ok answer) t ∧
      PollTurn timeout pollPeriod start t
        (fun t rest out s' => (pollForTx hash timeout pollPeriod start fuel).Runs t rest out s')
        answer rest out s' := by
  obtain ⟨e, h, -⟩ | ⟨answer, t, first, rest, poll, run₁, rfl⟩ :=
    Routine.runs_bind.mp (Routine.runs_state_bind.mp run)
  · obtain ⟨-, -, ⟨_, _, -, -, same⟩ | ⟨-, _, same, -⟩⟩ := waitForGetTx_outcome h <;> cases same
  refine ⟨answer, t, first, rest, rfl, poll, ?_⟩
  split at run₁
  · obtain ⟨rfl, rfl, rfl⟩ := Routine.runs_pure.mp run₁
    exact .found _
  · have run₂ := Routine.runs_state_bind.mp run₁
    obtain ⟨timeUp, run₂⟩ | ⟨timeLeft, run₂⟩ := Routine.runs_ite.mp run₂
    · obtain ⟨rfl, rfl, rfl⟩ := Routine.runs_throw.mp run₂
      exact .timeOver timeUp
    · obtain ⟨late, after, rfl, run₃⟩ := sleep_bind_runs.mp run₂
      exact .again (not_le.mp timeLeft) run₃
  · obtain ⟨rfl, rfl, rfl⟩ := Routine.runs_throw.mp run₁
    exact .noAnswer
  · rename_i e seen answered
    obtain ⟨rfl, rfl, rfl⟩ := Routine.runs_throw.mp run₁
    exact .fatal e seen answered

theorem pollForTx_outcome {hash : String} {timeout pollPeriod start : ℕ} {fuel : ℕ}
    {out : Except PyException TxResponse}
    (run : (pollForTx hash timeout pollPeriod start fuel).Runs s trace out s') :
    Frame s s' ∧ Looking (some hash) trace ∧
      ((∃ before last resp, trace = before ++ [last] ∧ Unseen before ∧
          sighting last = some (hash, resp) ∧ out = .ok resp) ∨
        Unseen trace ∧ ∃ e, out = .error e ∧ e ≠ .asyncioTimeout ∧
          (e = .txTimeout "" ∨ Interrupted trace e)) := by
  induction fuel generalizing s trace with
  | zero =>
    obtain ⟨rfl, rfl, rfl⟩ := Routine.runs_throw.mp run
    exact ⟨Frame.refl _, .nil _, .inr ⟨.nil, _, rfl, by simp, .inr (.inr (.inr ⟨_, rfl⟩))⟩⟩
  | succ fuel ih =>
    obtain ⟨answer, t, first, rest, rfl, poll, turn⟩ := pollForTx_turn run
    obtain ⟨frame, looking, ⟨last, resp, rfl, sighted, same⟩ | ⟨unseen, e, same, cause⟩⟩ :=
      waitForGetTx_outcome poll
    · cases same
      cases turn with
      | found resp => exact ⟨frame, by simpa using looking, .inl ⟨[], last, resp, rfl, .nil, sighted, rfl⟩⟩
    cases same
    cases turn with
    | timeOver =>
      exact ⟨frame, by simpa using looking, .inr ⟨by simpa using unseen, _, rfl, by simp, .inl rfl⟩⟩
    | @again late after _ _ timeLeft run =>
      obtain ⟨frame', looking', ended⟩ := ih run
      have asleep : Looking (some hash) [⟨.sleep pollPeriod, late⟩] := by
        intro e member
        obtain rfl := List.mem_singleton.mp member
        exact .inl ⟨_, rfl⟩
      have dark : Unseen [(⟨.sleep pollPeriod, late⟩ : Ev)] := by simp [Unseen, sighting]
      refine ⟨frame.trans ((Frame.advance _ _).trans frame'), looking.append (asleep.append looking'), ?_⟩
      obtain ⟨before, last, resp, rfl, hidden, sighted, rfl⟩ | ⟨hidden, e, rfl, distinct, cause'⟩ := ended
      · exact .inl ⟨first ++ (⟨.sleep pollPeriod, late⟩ :: before), last, resp, by simp,
          unseen.append (dark.append hidden), sighted, rfl⟩
      · refine .inr ⟨unseen.append (dark.append hidden), e, rfl, distinct, ?_⟩
        rcases cause' with rfl | raised | h
        · exact .inl rfl
        · exact .inr (.inl (raised.mono fun _ member =>
            List.mem_append_right _ (List.mem_cons_of_mem _ member)))
        · exact .inr (.inr h)
    | noAnswer =>
      exact ⟨frame, by simpa using looking, .inr ⟨by simpa using unseen, _, rfl, by simp, .inl rfl⟩⟩
    | fatal _ seen answered =>
      refine ⟨frame, by simpa using looking, .inr ⟨by simpa using unseen, e, rfl, answered, ?_⟩⟩
      rcases cause with late | absent | raised
      · exact (answered late).elim
      · exact (seen absent).elim
      · exact .inr (.inl (by simpa using raised))

/-- Found by the last poll; or every poll missed, and it timed out or a poll raised. -/
theorem waitForTx_outcome {hash : String} {timeout pollPeriod : ℕ}
    {out : Except PyException TxResponse}
    (run : (waitForTx hash timeout pollPeriod).Runs s trace out s') :
    Frame s s' ∧ Looking (some hash) trace ∧
      ((∃ before last resp, trace = before ++ [last] ∧ Unseen before ∧
          sighting last = some (hash, resp) ∧ out = .ok resp) ∨
        Unseen trace ∧ ∃ e, out = .error e ∧ e ≠ .asyncioTimeout ∧
          (e = .txTimeout "" ∨ Interrupted trace e)) :=
  pollForTx_outcome (Routine.runs_state_bind.mp run)

/-- A poll was answered in time with an exception that does not read "not found". -/
def PollFails (trace : List Ev) (e : PyException) : Prop :=
  ∃ hash within took, (⟨.query (.getTx hash (some within)), (took, .error e)⟩ : Ev) ∈ trace ∧
    took < within ∧ e.readsNotFound = false

theorem PollFails.mono {trace trace' : List Ev} {e : PyException} (fails : PollFails trace e)
    (subset : ∀ event ∈ trace, event ∈ trace') : PollFails trace' e := by
  obtain ⟨hash, within, took, member, early, known⟩ := fails
  exact ⟨hash, within, took, subset _ member, early, known⟩

theorem waitForGetTx_fails {hash : String} {remaining : ℤ} {e : PyException}
    (run : (waitForGetTx hash remaining).Runs s trace (.ok (.error e)) s')
    (seen : e ≠ .txNotFound) (answered : e ≠ .asyncioTimeout) : PollFails trace e := by
  unfold waitForGetTx at run
  split at run
  · cases (Routine.runs_pure.mp run).2.1
    exact (answered rfl).elim
  · obtain ⟨⟨took, answer⟩, _, rfl, rest⟩ := Routine.runs_await_bind.mp run
    split at rest
    · rename_i early
      have rest := Routine.runs_update_bind.mp rest
      obtain ⟨rfl, same, -⟩ := Routine.runs_pure.mp rest
      have verdict : getTxVerdict answer = .error e := (Except.ok.inj same).symm
      unfold getTxVerdict at verdict
      split at verdict
      · cases verdict
      · exact (seen (Except.error.inj verdict).symm).elim
      · split at verdict
        · exact (seen (Except.error.inj verdict).symm).elim
        · rename_i known
          obtain rfl := Except.error.inj verdict
          exact ⟨hash, _, took, .head _, early, Bool.eq_false_iff.mpr known⟩
    · have rest := Routine.runs_update_bind.mp rest
      cases (Routine.runs_pure.mp rest).2.1
      exact (answered rfl).elim

/-- With fuel for the time left, polling raises TxTimeoutError or what a poll raised. -/
theorem pollForTx_error {hash : String} {timeout pollPeriod start fuel : ℕ} {e : PyException}
    (started : start ≤ s.clock)
    (enough : timeout ≤ s.clock - start + fuel * pollPeriod)
    (run : (pollForTx hash timeout pollPeriod start (fuel + 1)).Runs s trace (.error e) s') :
    e = .txTimeout "" ∨ PollFails trace e := by
  induction fuel generalizing s trace with
  | zero =>
    obtain ⟨answer, t, first, rest, rfl, poll, turn⟩ := pollForTx_turn run
    have later : s.clock ≤ t.clock := (waitForGetTx_outcome poll).1.1
    cases turn with
    | timeOver => exact .inl rfl
    | again timeLeft => omega
    | noAnswer => exact .inl rfl
    | fatal _ seen answered =>
      exact .inr ((waitForGetTx_fails poll seen answered).mono fun _ member => List.mem_append_left _ member)
  | succ fuel ih =>
    obtain ⟨answer, t, first, rest, rfl, poll, turn⟩ := pollForTx_turn run
    have later : s.clock ≤ t.clock := (waitForGetTx_outcome poll).1.1
    cases turn with
    | timeOver => exact .inl rfl
    | again timeLeft run =>
      refine (ih ?_ ?_ run).imp_right fun fails => fails.mono fun _ member => ?_
      · simp only [Submission.advance]
        omega
      · rw [Nat.succ_mul] at enough
        simp only [Submission.advance]
        omega
      · exact List.mem_append_right _ (.tail _ member)
    | noAnswer => exact .inl rfl
    | fatal _ seen answered =>
      exact .inr ((waitForGetTx_fails poll seen answered).mono fun _ member => List.mem_append_left _ member)

theorem waitForTx_error {hash : String} {timeout pollPeriod : ℕ} {e : PyException} (spaced : 0 < pollPeriod)
    (run : (waitForTx hash timeout pollPeriod).Runs s trace (.error e) s') :
    e = .txTimeout "" ∨ PollFails trace e := by
  refine pollForTx_error (le_refl _) ?_ (Routine.runs_state_bind.mp run)
  exact (Nat.lt_mul_of_div_lt (Nat.lt_succ_self _) spaced).le.trans (Nat.le_add_left _ _)

/-- More fuel changes nothing once it covers the time left. -/
theorem pollForTx_fuel {hash : String} {timeout pollPeriod start : ℕ} {fuel : ℕ}
    {out : Except PyException TxResponse} (started : start ≤ s.clock)
    (enough : timeout ≤ s.clock - start + fuel * pollPeriod) :
    (pollForTx hash timeout pollPeriod start (fuel + 1)).Runs s trace out s' ↔
      (pollForTx hash timeout pollPeriod start (fuel + 2)).Runs s trace out s' := by
  induction fuel generalizing s trace with
  | zero =>
    -- no time is left, so the query is not sent and the loop ends here
    rw [Nat.zero_mul, Nat.add_zero] at enough
    have late : (timeout : ℤ) - (s.clock - start) ≤ 0 := by omega
    simp only [pollForTx, Routine.runs_state_bind, waitForGetTx, late, if_true,
      Routine.runs_pure_bind]
  | succ fuel ih =>
    refine (Routine.runs_state_bind.trans Routine.runs_bind).trans
      (Iff.trans ?_ (Routine.runs_state_bind.trans Routine.runs_bind).symm)
    refine or_congr_right (exists_congr fun answer => exists_congr fun t => exists_congr fun first =>
      exists_congr fun rest => and_congr_right fun poll => and_congr_left fun _ => ?_)
    have later : s.clock ≤ t.clock := (waitForGetTx_outcome poll).1.1
    rcases answer with (_ | _ | _ | _ | _ | _ | _ | _ | _ | _ | _ | _ | _) | _ <;> try rfl
    simp only [Routine.runs_state_bind, Routine.runs_ite, sleep_bind_runs]
    refine or_congr_right (and_congr_right fun inTime => exists_congr fun late =>
      exists_congr fun after => and_congr_right fun _ => ih ?_ ?_)
    · simp only [Submission.advance]
      omega
    · simp only [Submission.advance]
      rw [Nat.add_mul] at enough
      omega

/-- The fuel of `waitForTx` is never used up. -/
theorem waitForTx_fuel {hash : String} {timeout pollPeriod extra : ℕ}
    {out : Except PyException TxResponse} (spaced : 0 < pollPeriod) :
    (waitForTx hash timeout pollPeriod).Runs s trace out s' ↔
      (pollForTx hash timeout pollPeriod s.clock (timeout / pollPeriod + 2 + extra)).Runs
        s trace out s' := by
  refine Routine.runs_state_bind.trans ?_
  induction extra with
  | zero => rfl
  | succ extra ih =>
    have covers : timeout ≤ (timeout / pollPeriod + 1 + extra) * pollPeriod :=
      (Nat.lt_mul_of_div_lt (Nat.lt_succ_self _) spaced).le.trans
        (Nat.mul_le_mul_right _ (Nat.le_add_right _ _))
    rw [ih, show timeout / pollPeriod + 2 + extra = timeout / pollPeriod + 1 + extra + 1 by omega,
      show timeout / pollPeriod + 2 + (extra + 1) = timeout / pollPeriod + 1 + extra + 2 by omega]
    exact pollForTx_fuel (Nat.le_refl _) (covers.trans (Nat.le_add_left _ _))

/-! ### Landed re-queries -/

/-- One re-query of the last hash that did not find it; nothing is asked when
there is no hash. -/
def Missed (lastTxHash : Option String) (trace : List Ev) : Prop :=
  match lastTxHash.filter (· ≠ "") with
  | none => trace = []
  | some hash => ∃ took answer, trace = [⟨.query (.getTx hash none), (took, answer)⟩] ∧
      ∀ resp, answer ≠ .ok (some resp)

theorem Missed.looking {lastTxHash : Option String} (missed : Missed lastTxHash trace) :
    Looking lastTxHash trace := by
  unfold Missed at missed
  split at missed
  · rw [missed]
    exact .nil _
  · rename_i hash known
    obtain ⟨took, answer, rfl, -⟩ := missed
    intro e member
    obtain rfl := List.mem_singleton.mp member
    exact .inr ⟨hash, none, (Option.filter_eq_some_iff.mp known).1, rfl⟩

theorem Missed.unseen {lastTxHash : Option String} (missed : Missed lastTxHash trace) :
    Unseen trace := by
  unfold Missed at missed
  split at missed
  · rw [missed]
    exact .nil
  · obtain ⟨took, answer, rfl, absent⟩ := missed
    intro e member
    obtain rfl := List.mem_singleton.mp member
    match answer, absent with
    | .ok (some resp), absent => exact (absent resp rfl).elim
    | .ok none, _ => rfl
    | .error _, _ => rfl

/-- What `_bail_if_landed` does, on the variables of the loop. -/
inductive Bail (m : Manager) (v : RetryVars) : List Ev → LandedOutcome → RetryVars → Prop
  | notLanded {trace : List Ev} (missed : Missed v.lastTxHash trace) : Bail m v trace .notLanded v
  | retry {hash : String} {took : ℕ} {resp : TxResponse} {err : PyException}
      (known : v.lastTxHash = some hash) (failed : exceptionFromTxResponse m resp = some err)
      (retryable : err.isRetryable = true) (left : v.attempt < v.maxRetries) :
      Bail m v [⟨.query (.getTx hash none), (took, .ok (some resp))⟩] .retryNewSequence v
  | finalized {hash : String} {took : ℕ} {resp : TxResponse}
      (known : v.lastTxHash = some hash) :
      Bail m v [⟨.query (.getTx hash none), (took, .ok (some resp))⟩,
        ⟨.resolve (landedResult m resp), ()⟩] .finalized
        (v.resolved (landedResult m resp))

theorem Bail.of_notLanded {v v' : RetryVars} (bail : Bail m v trace .notLanded v') :
    Missed v.lastTxHash trace ∧ v' = v := by
  cases bail with
  | notLanded missed => exact ⟨missed, rfl⟩

theorem Bail.of_not_finalized {v v' : RetryVars} {outcome : LandedOutcome}
    (bail : Bail m v trace outcome v') (unresolved : outcome ≠ .finalized) :
    v' = v ∧ Bail m v trace outcome v := by
  cases bail with
  | notLanded missed => exact ⟨rfl, .notLanded missed⟩
  | retry known failed retryable left => exact ⟨rfl, .retry known failed retryable left⟩
  | finalized known => exact (unresolved rfl).elim

theorem Bail.missed_or_retry {v v' : RetryVars} {outcome : LandedOutcome}
    (bail : Bail m v trace outcome v') (unresolved : outcome ≠ .finalized) :
    Missed v.lastTxHash trace ∨ Bail m v trace .retryNewSequence v := by
  cases bail with
  | notLanded missed => exact .inl missed
  | retry known failed retryable left => exact .inr (.retry known failed retryable left)
  | finalized known => exact (unresolved rfl).elim

theorem bailIfLanded_outcome {out : Except PyException LandedOutcome}
    (unresolved : s.vars.finalFuture = none) (run : (bailIfLanded m).Runs s trace out s') :
    ∃ outcome, out = .ok outcome ∧ Bail m s.vars trace outcome s'.vars := by
  have run₁ := Routine.runs_state_bind.mp (Routine.runs_update_bind.mp run)
  split at run₁
  · rename_i unknown
    obtain ⟨rfl, rfl, rfl⟩ := Routine.runs_pure.mp run₁
    refine ⟨_, rfl, .notLanded ?_⟩
    change s.vars.lastTxHash.filter _ = none at unknown
    simp only [Missed, unknown]
  · rename_i hash known
    change s.vars.lastTxHash.filter _ = some hash at known
    simp only [tryConfirmLanded, bind_assoc, pure_bind] at run₁
    obtain ⟨took, answer, rest, rfl, run₂⟩ := outcome_bind_runs.mp run₁
    split at run₂
    · rename_i absent
      obtain ⟨rfl, rfl, rfl⟩ := Routine.runs_pure.mp run₂
      refine ⟨_, rfl, .notLanded ?_⟩
      simp only [Missed, known]
      refine ⟨took, answer, rfl, ?_⟩
      rintro resp rfl
      simp [getTxVerdict, Except.toOption] at absent
    · rename_i resp found
      obtain rfl := getTxVerdict_toOption found
      split at run₂
      · rename_i retryably
        have run₃ := Routine.runs_update_bind.mp run₂
        obtain ⟨rfl, rfl, rfl⟩ := Routine.runs_pure.mp run₃
        obtain ⟨failed, left⟩ := Bool.and_eq_true_iff.mp retryably
        obtain ⟨err, raised, retryable⟩ := (Option.any_eq_true _ _).mp failed
        exact ⟨_, rfl, .retry (Option.filter_eq_some_iff.mp known).1 raised retryable
          (of_decide_eq_true left)⟩
      · have pending : ((setLandedError none s).advance took).vars.finalFuture = none := unresolved
        rw [resolveLanded] at run₂
        obtain ⟨_, h, -⟩ | ⟨_, t, first, last, resolved, done, rfl⟩ := Routine.runs_bind.mp run₂
        · cases (settle_runs pending h).2.1
        · obtain ⟨rfl, -, vars⟩ := settle_runs pending resolved
          obtain ⟨rfl, rfl, rfl⟩ := Routine.runs_pure.mp done
          refine ⟨_, rfl, ?_⟩
          rw [vars]
          exact .finalized (Option.filter_eq_some_iff.mp known).1

/-- A re-query never raises, so that what follows it runs. -/
theorem bailIfLanded_bind {α : Type} {next : LandedOutcome → Act α} {out : Except PyException α}
    (unresolved : s.vars.finalFuture = none) (run : (bailIfLanded m >>= next).Runs s trace out s') :
    ∃ outcome t look rest, (bailIfLanded m).Runs s look (.ok outcome) t ∧ Bail m s.vars look outcome t.vars ∧
      (next outcome).Runs t rest out s' ∧ trace = look ++ rest := by
  obtain ⟨_, raised, -⟩ | ⟨outcome, t, look, rest, bailed, after, parts⟩ := Routine.runs_bind.mp run
  · obtain ⟨_, same, -⟩ := bailIfLanded_outcome unresolved raised
    cases same
  · obtain ⟨_, same, bail⟩ := bailIfLanded_outcome unresolved bailed
    cases same
    exact ⟨outcome, t, look, rest, bailed, bail, after, parts⟩

/-- `checks` re-queries in a row, each after the query interval, all missed. -/
def Graced (m : Manager) (lastTxHash : Option String) : ℕ → List Ev → Prop
  | 0, trace => trace = []
  | checks + 1, trace => ∃ late check rest,
      trace = ⟨.sleep m.queryInterval, late⟩ :: (check ++ rest) ∧ Missed lastTxHash check ∧
        Graced m lastTxHash checks rest

theorem Graced.looking {lastTxHash : Option String} {checks : ℕ}
    (graced : Graced m lastTxHash checks trace) : Looking lastTxHash trace ∧ Unseen trace := by
  induction checks generalizing trace with
  | zero =>
    obtain rfl := graced
    exact ⟨.nil _, .nil⟩
  | succ checks ih =>
    obtain ⟨late, check, rest, rfl, missed, graced⟩ := graced
    constructor
    · intro e member
      rcases List.mem_cons.mp member with rfl | member
      · exact .inl ⟨_, rfl⟩
      · exact (missed.looking.append (ih graced).1) e member
    · intro e member
      rcases List.mem_cons.mp member with rfl | member
      · rfl
      · exact (missed.unseen.append (ih graced).2) e member

/-- What `_confirm_landed_with_grace` does: the whole window passes unseen, or
some check finds the transaction. -/
inductive Grace (m : Manager) (v : RetryVars) (checks : ℕ) :
    List Ev → LandedOutcome → RetryVars → Prop
  | notLanded {trace : List Ev} (graced : Graced m v.lastTxHash checks trace) :
      Grace m v checks trace .notLanded v
  | landed {before check : List Ev} {outcome : LandedOutcome} {v' : RetryVars}
      (looking : Looking v.lastTxHash before) (unseen : Unseen before)
      (bail : Bail m v check outcome v') (found : outcome ≠ .notLanded) :
      Grace m v checks (before ++ check) outcome v'

theorem Grace.of_not_finalized {v v' : RetryVars} {checks : ℕ} {outcome : LandedOutcome}
    (grace : Grace m v checks trace outcome v') (unresolved : outcome ≠ .finalized) :
    v' = v ∧ Grace m v checks trace outcome v := by
  cases grace with
  | notLanded graced => exact ⟨rfl, .notLanded graced⟩
  | landed looking unseen bail found =>
    obtain ⟨same, bail⟩ := bail.of_not_finalized unresolved
    exact ⟨same, .landed looking unseen bail found⟩

/-- A retryable failure of the last hash, as the last event of a re-query. -/
def FoundRetryable (m : Manager) (lastTxHash : Option String) (trace : List Ev) : Prop :=
  ∃ before seen hash resp err, trace = before ++ [seen] ∧ Looking lastTxHash before ∧ Unseen before ∧
    lastTxHash = some hash ∧ sighting seen = some (hash, resp) ∧
    exceptionFromTxResponse m resp = some err ∧ err.isRetryable = true

theorem Bail.retried {v v' : RetryVars} (bail : Bail m v trace .retryNewSequence v') :
    FoundRetryable m v.lastTxHash trace := by
  cases bail with
  | retry known failed retryable left =>
    exact ⟨[], _, _, _, _, rfl, .nil _, .nil, known, rfl, failed, retryable⟩

theorem Grace.graced_or_retried {v v' : RetryVars} {checks : ℕ} {outcome : LandedOutcome}
    (grace : Grace m v checks trace outcome v') (unresolved : outcome ≠ .finalized) :
    Graced m v.lastTxHash checks trace ∨ FoundRetryable m v.lastTxHash trace := by
  cases grace with
  | notLanded graced => exact .inl graced
  | landed looking unseen bail found =>
    cases outcome with
    | finalized => exact (unresolved rfl).elim
    | notLanded => exact (found rfl).elim
    | retryNewSequence =>
      obtain ⟨first, seen, hash, resp, err, rfl, looking', unseen', h⟩ := bail.retried
      exact .inr ⟨_, seen, hash, resp, err, (List.append_assoc ..).symm, looking.append looking',
        unseen.append unseen', h⟩

theorem confirmLandedWithGrace_outcome {checks : ℕ} {out : Except PyException LandedOutcome}
    (unresolved : s.vars.finalFuture = none)
    (run : (confirmLandedWithGrace m checks).Runs s trace out s') :
    ∃ outcome, out = .ok outcome ∧ Grace m s.vars checks trace outcome s'.vars := by
  induction checks generalizing s trace with
  | zero =>
    obtain ⟨rfl, rfl, rfl⟩ := Routine.runs_pure.mp run
    exact ⟨_, rfl, .notLanded rfl⟩
  | succ checks ih =>
    obtain ⟨late, after, rfl, run₁⟩ := sleep_bind_runs.mp run
    have pending : (s.advance (m.queryInterval + late)).vars.finalFuture = none := unresolved
    obtain ⟨found, t, check, rest, -, bail, run₂, rfl⟩ := bailIfLanded_bind pending run₁
    rw [vars_advance] at bail
    have asleep : Looking s.vars.lastTxHash [⟨.sleep m.queryInterval, late⟩] ∧
        Unseen [(⟨.sleep m.queryInterval, late⟩ : Ev)] := by
      simp [Looking, Unseen, sighting]
    split at run₂
    · rename_i missed
      subst missed
      obtain ⟨missed, vars⟩ : Missed s.vars.lastTxHash check ∧ t.vars = s.vars := bail.of_notLanded
      obtain ⟨outcome, rfl, grace⟩ := ih (by rw [vars]; exact unresolved) run₂
      rw [vars] at grace
      refine ⟨outcome, rfl, ?_⟩
      generalize s'.vars = v' at grace ⊢
      cases grace with
      | notLanded graced => exact .notLanded ⟨late, check, rest, rfl, missed, graced⟩
      | @landed before last _ _ looking unseen bail found =>
        have split : (⟨.sleep m.queryInterval, late⟩ :: (check ++ (before ++ last)) : List Ev) =
            ([⟨.sleep m.queryInterval, late⟩] ++ check ++ before) ++ last := by simp
        rw [split]
        exact .landed ((asleep.1.append missed.looking).append looking)
          ((asleep.2.append missed.unseen).append unseen) bail found
    · rename_i found
      obtain ⟨rfl, rfl, rfl⟩ := Routine.runs_pure.mp run₂
      refine ⟨_, rfl, ?_⟩
      rw [List.append_nil]
      exact .landed asleep.1 asleep.2 bail found

theorem confirmLandedWithGrace_bind {α : Type} {checks : ℕ} {next : LandedOutcome → Act α}
    {out : Except PyException α} (unresolved : s.vars.finalFuture = none)
    (run : (confirmLandedWithGrace m checks >>= next).Runs s trace out s') :
    ∃ outcome t window rest, (confirmLandedWithGrace m checks).Runs s window (.ok outcome) t ∧
      Grace m s.vars checks window outcome t.vars ∧ (next outcome).Runs t rest out s' ∧ trace = window ++ rest := by
  obtain ⟨_, raised, -⟩ | ⟨outcome, t, window, rest, graced, after, parts⟩ := Routine.runs_bind.mp run
  · obtain ⟨_, same, -⟩ := confirmLandedWithGrace_outcome unresolved raised
    cases same
  · obtain ⟨_, same, grace⟩ := confirmLandedWithGrace_outcome unresolved graced
    cases same
    exact ⟨outcome, t, window, rest, graced, grace, after, parts⟩

end Specs

end AlloraSdk.Source.TxManager
