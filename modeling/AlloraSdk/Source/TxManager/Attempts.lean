import AlloraSdk.Source.TxManager.Confirm

/-!
# The retry loop

Source: tx_manager.py, `_attempt_submissions` and `_await_sequence_retry_delay`.

One definition for each except clause. `Attempt` says once what an attempt can
do, as the events it leaves and the loop variables it ends with; every property
of a run is proved from it through `attemptLoop_rule`.
-/

namespace AlloraSdk.Source.TxManager
open AlloraSdk.Logic

/-- `datetime.min` and `datetime.max`, in microseconds from the epoch. -/
def datetimeMin : ℤ := -62135596800000000

def datetimeMax : ℤ := 253402300799999999

/-- `datetime + timedelta`. -/
def datetimeAdd (start delta : ℤ) : Except PyException ℤ :=
  if datetimeMin ≤ start + delta ∧ start + delta ≤ datetimeMax then .ok (start + delta)
  else .error (.overflowError "date value out of range")

inductive Control where
  | stop | continue
  deriving DecidableEq, Repr

/-- `attempt == pending.max_retries or (pending.timeout and start + pending.timeout < datetime.now())`. -/
def retriesSpent (start attempt : ℕ) : Act Bool := do
  let s ← Routine.state
  if attempt = s.pending.maxRetries then pure true
  else match s.pending.timeout.filter (· ≠ 0) with
  | none => pure false
  | some timeout => do
    let deadline ← Routine.ofExcept (datetimeAdd start timeout)
    pure (decide (deadline < s.clock))

/-- Resolve with `err` when the retries are spent; else go on with `next`. -/
def giveUpOr (start attempt : ℕ) (err : PyException) (next : Act Control) : Act Control := do
  let spent ← retriesSpent start attempt
  if spent then do
    setException err
    pure .stop
  else next

def onOutOfGas (m : Manager) (start attempt : ℕ) (err : PyException) (gasWanted : Option ℤ) :
    Act Control :=
  giveUpOr start attempt err do
    let s ← Routine.state
    let suggestedLimit :=
      match gasWanted.filter (· ≠ 0) with
      | some wanted => scaleGas wanted (6 / 5)
      | none =>
        match s.pending.lastGasLimit with
        | some last => scaleGas last (13 / 10)
        | none =>
          match s.currentGasLimit with
          | some current => scaleGas current (13 / 10)
          | none => scaleGas (estimateGas m s.pending.typeUrl) (3 / 2)
    Routine.update fun s => { s with currentGasLimit := some suggestedLimit }
    pure .continue

def onInsufficientFees (start attempt : ℕ) : Act Control := do
  Routine.update fun s => { s with
    cachedGasPrice := none
    gasPriceCacheTime := none
    feeMultiplier := 1 + attempt * (1 / 2) }
  giveUpOr start attempt
    (.insufficientFees "Transaction failed after multiple attempts due to insufficient fees")
    (pure .continue)

/-- The delay of `_await_sequence_retry_delay` and whether it reaches the deadline. -/
def retryDelay (delay : ℕ) (start : ℕ) (timeout : Option ℤ) (now : ℕ) :
    Except PyException (ℕ × Bool) :=
  match timeout.filter (· ≠ 0) with
  | none => .ok (delay, false)
  | some timeout =>
    (datetimeAdd start timeout).map fun deadline : ℤ =>
      let remaining := deadline - now
      if remaining ≤ delay then (remaining.toNat, true) else (delay, false)

/-- `expired or (pending.timeout and start + pending.timeout < datetime.now())`. -/
def pastDeadline (expired : Bool) (start : ℕ) (timeout : Option ℤ) (now : ℕ) :
    Except PyException Bool :=
  match expired, timeout.filter (· ≠ 0) with
  | true, _ => .ok true
  | false, none => .ok false
  | false, some timeout => (datetimeAdd start timeout).map fun deadline : ℤ => decide (deadline < now)

def awaitSequenceRetryDelay (m : Manager) (start : ℕ) : Act Control :=
  match m.accountSequenceRetryDelay with
  | none => pure .continue
  | some delay => do
    let s ← Routine.state
    let (delay, expired) ← Routine.ofExcept (retryDelay delay start s.pending.timeout s.clock)
    sleep delay
    let s ← Routine.state
    let pastEnd ← Routine.ofExcept (pastDeadline expired start s.pending.timeout s.clock)
    if pastEnd then do
      setException (.accountSequenceMismatch
        "Transaction deadline exceeded after account sequence retry delay")
      pure .stop
    else pure .continue

def retryAfterMismatch (m : Manager) (start attempt : ℕ) : Act Control :=
  giveUpOr start attempt
    (.accountSequenceMismatch
      "Transaction failed after multiple attempts due to repeated account sequence mismatches")
    (awaitSequenceRetryDelay m start)

/-- `seeded = self._consume_landed_gas_seed(pending)` and its use. -/
def seedGasLimit : Act Unit := do
  let seeded ← consumeLandedGasSeed
  match seeded with
  | some limit => Routine.update fun s => { s with currentGasLimit := some limit }
  | none => pure ()

def setAccountSeq (accountSeq : Option ℕ) (s : Submission) : Submission :=
  { s with nextAccountSeq := accountSeq }

def setSameSeqRebroadcast (flag : Bool) (s : Submission) : Submission :=
  { s with pending := { s.pending with sameSeqRebroadcast := flag } }

def onSequenceMismatch (m : Manager) (start attempt : ℕ) : Act Control := do
  let landed ← bailIfLanded m
  if landed = .finalized then pure .stop
  else do
    let s ← Routine.state
    if s.pending.sameSeqRebroadcast then do
      Routine.update (setSameSeqRebroadcast false)
      let outcome ← confirmLandedWithGrace m 3
      match outcome with
      | .finalized => pure .stop
      | .retryNewSequence => do
        Routine.update (setAccountSeq none)
        seedGasLimit
        retryAfterMismatch m start attempt
      | .notLanded => do
        -- unconfirmed after the grace window: fresh sequence as a last resort
        Routine.update (setAccountSeq none)
        retryAfterMismatch m start attempt
    else do
      Routine.update (setAccountSeq none)
      retryAfterMismatch m start attempt

def onTxTimeout (m : Manager) (start attempt : ℕ) : Act Control := do
  let outcome ← bailIfLanded m
  match outcome with
  | .finalized => pure .stop
  | .retryNewSequence => do
    Routine.update (setAccountSeq none)
    seedGasLimit
    giveUpOr start attempt (.txTimeout "") (pure .continue)
  | .notLanded => do
    Routine.update (setSameSeqRebroadcast true)
    giveUpOr start attempt (.txTimeout "") (pure .continue)

def onQueryTimeout (start attempt : ℕ) (err : PyException) : Act Control :=
  giveUpOr start attempt (.txTimeout ("query deadline exceeded before broadcast: " ++ err.str))
    (pure .continue)

/-- The final `except Exception`; MaxFeesExceededError has the same effect. -/
def onError (err : PyException) : Act Control := do
  setException err
  pure .stop

def handle (m : Manager) (start attempt : ℕ) : PyException → Act Control
  | .outOfGas message wanted used =>
    onOutOfGas m start attempt (.outOfGas message wanted used) wanted
  | .insufficientFees _ => onInsufficientFees start attempt
  | .accountSequenceMismatch _ => onSequenceMismatch m start attempt
  | .txTimeout _ => onTxTimeout m start attempt
  | .asyncioTimeout => onQueryTimeout start attempt .asyncioTimeout
  | err => onError err

def gasMultiplier (attempt : ℕ) : ℚ := 1 + attempt * (3 / 10)

/-- The known properties of the last broadcast. -/
def recordSent (sent : Sent) (s : Submission) : Submission :=
  { s with
    pending := { s.pending with
      lastTxHash := some sent.txHash, lastGasLimit := some sent.gasLimit, lastFee := some sent.fee }
    currentGasLimit := some sent.gasLimit
    nextAccountSeq := some sent.sequence }

def setAttempt (attempt : ℕ) (s : Submission) : Submission :=
  { s with pending := { s.pending with attempt } }

/-- The `try` from the return of `_build_and_broadcast` on. -/
def confirmSent (m : Manager) (sent : Sent) : Act Control := do
  Routine.update (recordSent sent)
  let resp ← waitForTx sent.txHash 30000000 2000000
  Routine.update (setAccountSeq (some (sent.sequence + 1)))
  Routine.ofExcept (raiseForStatus m resp)
  setResult resp
  pure .stop

/-- The `try` from the call of `_build_and_broadcast` on. -/
def sendAttempt (m : Manager) (attempt : ℕ) : Act Control := do
  let s ← Routine.state
  request (.beginAttempt attempt s.nextAccountSeq)
  let sent ← buildAndBroadcast m s.pending.typeUrl s.pending.msgs s.currentGasLimit
    s.feeMultiplier (gasMultiplier attempt) s.nextAccountSeq
  confirmSent m sent

def tryAttempt (m : Manager) (attempt : ℕ) : Act Control := do
  preFlightChecks m
  Routine.update (setAttempt attempt)
  sendAttempt m attempt

def attemptOnce (m : Manager) (start attempt : ℕ) : Act Control :=
  tryCatch (tryAttempt m attempt) (handle m start attempt)

def attemptLoop (m : Manager) (start : ℕ) : ℕ → ℕ → Act Unit
  | 0, _ => setException (.txTimeout "Transaction failed after maximum retries")
  | left + 1, attempt => do
    let control ← attemptOnce m start attempt
    match control with
    | .stop => pure ()
    | .continue => attemptLoop m start left (attempt + 1)

def attemptSubmissions (m : Manager) (gasLimit : Option ℤ) (accountSeq : Option ℕ) : Act Unit := do
  let s ← Routine.state
  Routine.update fun s => { s with
    feeMultiplier := feeMultipliers s.pending.feeTier
    currentGasLimit := gasLimit
    nextAccountSeq := accountSeq }
  attemptLoop m s.clock (s.pending.maxRetries + 1) 0

theorem vars_clearAccountSeq (s : Submission) : (setAccountSeq none s).vars = s.vars.fresh := rfl

theorem vars_setSameSeqRebroadcast (flag : Bool) (s : Submission) :
    (setSameSeqRebroadcast flag s).vars = s.vars.flagged flag := rfl

theorem vars_setAccountSeq (accountSeq : Option ℕ) (s : Submission) :
    (setAccountSeq accountSeq s).vars = { s.vars with nextAccountSeq := accountSeq } := rfl

theorem vars_setAttempt (attempt : ℕ) (s : Submission) :
    (setAttempt attempt s).vars = s.vars.begun attempt := rfl

theorem vars_recordSent (sent : Sent) (s : Submission) :
    (recordSent sent s).vars = s.vars.sent sent.txHash sent.sequence := rfl

/-- The arguments of one submission, as `submit_transaction` hands them to the
detached task. -/
structure Call where
  typeUrl : String
  msgs : List String
  feeTier : FeeTier
  maxRetries : ℕ
  timeout : Option ℤ
  gasLimit : Option ℤ
  accountSeq : Option ℕ

/-- The state in which the task starts: a new PendingTx; the clock and the price
cache are as earlier submissions left them. -/
def Call.begin (call : Call) (clock : ℕ) (cachedGasPrice : Option ℚ)
    (gasPriceCacheTime : Option ℕ) : Submission where
  clock := clock
  cachedGasPrice := cachedGasPrice
  gasPriceCacheTime := gasPriceCacheTime
  pending := .new call.typeUrl call.msgs call.feeTier call.maxRetries call.timeout
  currentGasLimit := none
  nextAccountSeq := none
  feeMultiplier := 1

def Call.submit (m : Manager) (call : Call) : Act Unit :=
  attemptSubmissions m call.gasLimit call.accountSeq

/-- The loop variables before the first attempt. -/
@[simps] def Call.vars (call : Call) : RetryVars where
  typeUrl := call.typeUrl
  msgs := call.msgs
  maxRetries := call.maxRetries
  timeout := call.timeout
  attempt := 0
  lastTxHash := none
  nextAccountSeq := call.accountSeq
  sameSeqRebroadcast := false
  finalFuture := none

/-! ## What an attempt can do -/

/-- The deadline of a run is no `datetime`. -/
def DeadlineOverflows (start : ℕ) (timeout : Option ℤ) : Prop :=
  ∃ delta, timeout.filter (· ≠ 0) = some delta ∧
    ¬ (datetimeMin ≤ start + delta ∧ start + delta ≤ datetimeMax)

/-- `attempt == pending.max_retries`, or there is a deadline to be past. -/
def Exhausted (attempt : ℕ) (v : RetryVars) : Prop :=
  attempt = v.maxRetries ∨ v.timeout.filter (· ≠ 0) ≠ none

def outOfRange : PyException := .overflowError "date value out of range"

/-- `giveUpOr`: retries are spent, retries are left, or the deadline overflows. -/
inductive GiveUp (start attempt : ℕ) (err : PyException) (v : RetryVars) :
    List Ev → Except PyException Control → RetryVars → Prop
  | spent (exhausted : Exhausted attempt v) : GiveUp start attempt err v [⟨.resolve (.error err), ()⟩] (.ok .stop)
      (v.resolved (.error err))
  | again (left : attempt ≠ v.maxRetries) : GiveUp start attempt err v [] (.ok .continue) v
  | overflow (left : attempt ≠ v.maxRetries) (bad : DeadlineOverflows start v.timeout) :
      GiveUp start attempt err v [] (.error outOfRange) v

/-- `retryAfterMismatch`: as `GiveUp`, with the delay before the retry. -/
inductive Mismatch (start attempt : ℕ) (v : RetryVars) :
    List Ev → Except PyException Control → RetryVars → Prop
  | spent {message : String} (exhausted : Exhausted attempt v) : Mismatch start attempt v
      [⟨.resolve (.error (.accountSequenceMismatch message)), ()⟩] (.ok .stop)
      (v.resolved (.error (.accountSequenceMismatch message)))
  | again (left : attempt ≠ v.maxRetries) : Mismatch start attempt v [] (.ok .continue) v
  | delayed {delay late : ℕ} (left : attempt ≠ v.maxRetries) :
      Mismatch start attempt v [⟨.sleep delay, late⟩] (.ok .continue) v
  | expired {delay late : ℕ} {message : String} (timed : v.timeout.filter (· ≠ 0) ≠ none) :
      Mismatch start attempt v
      [⟨.sleep delay, late⟩, ⟨.resolve (.error (.accountSequenceMismatch message)), ()⟩] (.ok .stop)
      (v.resolved (.error (.accountSequenceMismatch message)))
  | overflow {trace : List Ev} (left : attempt ≠ v.maxRetries)
      (bad : DeadlineOverflows start v.timeout) (quiet : trace = [] ∨ ∃ delay late, trace = [⟨.sleep delay, late⟩]) :
      Mismatch start attempt v trace (.error outOfRange) v

/-- What the except clauses do. -/
inductive Handled (m : Manager) (start attempt : ℕ) (v : RetryVars) :
    PyException → List Ev → Except PyException Control → RetryVars → Prop
  | inPlace {e err : PyException} {trace : List Ev} {out : Except PyException Control}
      {v' : RetryVars} (kind : e.retriesInPlace = true)
      (named : err = e ∨ err.isRetryable = true ∨ err.isTxTimeout = true)
      (tail : GiveUp start attempt err v trace out v')
      (late : e = .asyncioTimeout → err.isTxTimeout = true) : Handled m start attempt v e trace out v'
  | fatal {e : PyException} (kind : e.retriesInPlace = false) (mismatch : e.isMismatch = false)
      (timeout : e.isTxTimeout = false) :
      Handled m start attempt v e [⟨.resolve (.error e), ()⟩] (.ok .stop) (v.resolved (.error e))
  | landed {e : PyException} {trace : List Ev} {v' : RetryVars}
      (kind : e.isMismatch = true ∨ e.isTxTimeout = true)
      (bail : Bail m v trace .finalized v') :
      Handled m start attempt v e trace (.ok .stop) v'
  | timeoutLanded {e : PyException} {look trace : List Ev} {out : Except PyException Control}
      {v' : RetryVars} (kind : e.isTxTimeout = true) (bail : Bail m v look .retryNewSequence v)
      (tail : GiveUp start attempt (.txTimeout "") v.fresh trace out v') :
      Handled m start attempt v e (look ++ trace) out v'
  | timeoutUnseen {e : PyException} {look trace : List Ev} {out : Except PyException Control}
      {v' : RetryVars} (kind : e.isTxTimeout = true) (bail : Bail m v look .notLanded v)
      (tail : GiveUp start attempt (.txTimeout "") (v.flagged true) trace out v') :
      Handled m start attempt v e (look ++ trace) out v'
  | mismatch {e : PyException} {look trace : List Ev} {outcome : LandedOutcome}
      {out : Except PyException Control} {v' : RetryVars} (kind : e.isMismatch = true)
      (bail : Bail m v look outcome v) (unfinished : outcome ≠ .finalized)
      (plain : v.sameSeqRebroadcast = false)
      (tail : Mismatch start attempt v.fresh trace out v') :
      Handled m start attempt v e (look ++ trace) out v'
  | graceLanded {e : PyException} {look window : List Ev} {first : LandedOutcome}
      {v' : RetryVars} (kind : e.isMismatch = true)
      (bail : Bail m v look first v) (unfinished : first ≠ .finalized) (flagged : v.sameSeqRebroadcast = true)
      (grace : Grace m (v.flagged false) 3 window .finalized v') :
      Handled m start attempt v e (look ++ window) (.ok .stop) v'
  | grace {e : PyException} {look window trace : List Ev} {first outcome : LandedOutcome}
      {out : Except PyException Control} {v' : RetryVars} (kind : e.isMismatch = true)
      (bail : Bail m v look first v) (unfinished : first ≠ .finalized)
      (flagged : v.sameSeqRebroadcast = true)
      (grace : Grace m (v.flagged false) 3 window outcome (v.flagged false))
      (unfinished' : outcome ≠ .finalized)
      (tail : Mismatch start attempt (v.flagged false).fresh trace out v') :
      Handled m start attempt v e (look ++ window ++ trace) out v'

/-- The end of the `try` for a confirmed response. -/
inductive Status (m : Manager) (v : RetryVars) (resp : TxResponse) :
    List Ev → Except PyException Control → RetryVars → Prop
  | success (passed : resp.code = 0) :
      Status m v resp [⟨.resolve (.ok resp), ()⟩] (.ok .stop) (v.resolved (.ok resp))
  | failure {e : PyException} (failed : exceptionFromTxResponse m resp = some e) :
      Status m v resp [] (.error e) v

/-- The confirmation of an accepted broadcast. -/
inductive Confirmed (m : Manager) (v : RetryVars) (hash : String) (sequence : ℕ) :
    List Ev → Except PyException Control → RetryVars → Prop
  | missed {polls : List Ev} {e : PyException}
      (looking : Looking (some hash) polls) (unseen : Unseen polls)
      (early : e ≠ .asyncioTimeout) (cause : e = .txTimeout "" ∨ Interrupted polls e)
      (asked : ∃ reply rest, polls = ⟨.query (.getTx hash (some 30000000)), reply⟩ :: rest)
      (failed : e = .txTimeout "" ∨ PollFails polls e) :
      Confirmed m v hash sequence polls (.error e) (v.sent hash sequence)
  | found {polls last : List Ev} {seen : Ev} {resp : TxResponse}
      {out : Except PyException Control} {v' : RetryVars}
      (looking : Looking (some hash) (polls ++ [seen])) (unseen : Unseen polls)
      (sighted : sighting seen = some (hash, resp))
      (status : Status m (v.sent hash (sequence + 1)) resp last out v') :
      Confirmed m v hash sequence (polls ++ seen :: last) out v'

/-- From the call of `_build_and_broadcast` on: nothing is sent, the broadcast
is answered with an exception, or it is accepted and confirmed. -/
inductive Sending (m : Manager) (v : RetryVars) :
    List Ev → Except PyException Control → RetryVars → Prop
  | unsent {build : List Ev} {e : PyException} (quiet : QuietTrace build)
      (failed : BuildFails m build e) : Sending m v build (.error e) v
  | refused {build : List Ev} {tx : Tx} {took : ℕ}
      {answer : Except PyException (Option TxResponse)} {e : PyException}
      (quiet : QuietTrace build) (content : tx.msgs = v.msgs)
      (sequence : ResolvesTo v.nextAccountSeq build tx.sequence)
      (verdict : broadcastVerdict m tx answer = .error e) :
      Sending m v (build ++ [⟨.query (.broadcastTx tx), (took, answer)⟩]) (.error e) v
  | accepted {build rest : List Ev} {tx : Tx} {took : ℕ}
      {answer : Except PyException (Option TxResponse)} {hash : String}
      {out : Except PyException Control} {v' : RetryVars}
      (quiet : QuietTrace build) (content : tx.msgs = v.msgs)
      (sequence : ResolvesTo v.nextAccountSeq build tx.sequence)
      (verdict : broadcastVerdict m tx answer = .ok hash)
      (confirmed : Confirmed m v hash tx.sequence rest out v') :
      Sending m v (build ++ ⟨.query (.broadcastTx tx), (took, answer)⟩ :: rest) out v'

/-- How the `try` of an attempt ends. -/
inductive Tried (m : Manager) (attempt : ℕ) (v : RetryVars) :
    List Ev → Except PyException Control → RetryVars → Prop
  | preFlight {before : List Ev} {message : String} (quiet : QuietTrace before)
      (low : LowBalance m before message) :
      Tried m attempt v before (.error (.insufficientBalance message)) v
  | begun {before rest : List Ev} {out : Except PyException Control} {v' : RetryVars}
      (quiet : QuietTrace before) (sending : Sending m (v.begun attempt) rest out v') :
      Tried m attempt v (before ++ ⟨.beginAttempt attempt v.nextAccountSeq, ()⟩ :: rest) out v'

/-- One attempt: its `try`, and the except clause when that raises. -/
inductive Attempt (m : Manager) (start attempt : ℕ) (v : RetryVars) :
    List Ev → Except PyException Control → RetryVars → Prop
  | success {trace : List Ev} {control : Control} {v' : RetryVars}
      (tried : Tried m attempt v trace (.ok control) v') :
      Attempt m start attempt v trace (.ok control) v'
  | caught {trace handling : List Ev} {e : PyException} {out : Except PyException Control}
      {raised v' : RetryVars} (tried : Tried m attempt v trace (.error e) raised)
      (handled : Handled m start attempt raised e handling out v') :
      Attempt m start attempt v (trace ++ handling) out v'

/-! ## … and that it does nothing else -/

section Outcomes

variable {m : Manager} {start attempt : ℕ} {s s' : Submission} {trace : List Ev}

theorem datetimeAdd_error {delta : ℤ} {e : PyException} (bad : datetimeAdd start delta = .error e) :
    e = outOfRange ∧ ¬ (datetimeMin ≤ start + delta ∧ start + delta ≤ datetimeMax) := by
  unfold datetimeAdd at bad
  split at bad
  · cases bad
  · rename_i outside
    exact ⟨(Except.error.inj bad).symm, outside⟩

theorem retriesSpent_outcome {out : Except PyException Bool}
    (run : (retriesSpent start attempt).Runs s trace out s') :
    trace = [] ∧ s' = s ∧ (out = .ok true ∧ Exhausted attempt s.vars ∨ attempt ≠ s.vars.maxRetries ∧
      (out = .ok false ∨ out = .error outOfRange ∧ DeadlineOverflows start s.vars.timeout)) := by
  have run₁ := Routine.runs_state_bind.mp run
  split at run₁
  · rename_i last
    obtain ⟨rfl, rfl, rfl⟩ := Routine.runs_pure.mp run₁
    exact ⟨rfl, rfl, .inl ⟨rfl, .inl last⟩⟩
  rename_i left
  split at run₁
  · obtain ⟨rfl, rfl, rfl⟩ := Routine.runs_pure.mp run₁
    exact ⟨rfl, rfl, .inr ⟨left, .inl rfl⟩⟩
  · rename_i timeout finite
    obtain ⟨e, bad, rfl, rfl, rfl⟩ | ⟨deadline, -, done⟩ := Routine.runs_ofExcept_bind.mp run₁
    · obtain ⟨rfl, outside⟩ := datetimeAdd_error bad
      exact ⟨rfl, rfl, .inr ⟨left, .inr ⟨rfl, timeout, finite, outside⟩⟩⟩
    · obtain ⟨rfl, rfl, rfl⟩ := Routine.runs_pure.mp done
      refine ⟨rfl, rfl, ?_⟩
      cases decide (deadline < s'.clock)
      · exact .inr ⟨left, .inl rfl⟩
      · have timed : s'.vars.timeout.filter (· ≠ 0) ≠ none := by
          rw [show s'.vars.timeout.filter (· ≠ 0) = some timeout from finite]
          simp
        exact .inl ⟨rfl, .inr timed⟩

theorem setException_runs {err : PyException} {out : Except PyException Control}
    (unresolved : s.vars.finalFuture = none)
    (run : Routine.Runs (do setException err; pure Control.stop) s trace out s') :
    trace = [⟨.resolve (.error err), ()⟩] ∧ out = .ok .stop ∧ s'.vars = s.vars.resolved (.error err) := by
  obtain ⟨_, h, -⟩ | ⟨_, t, first, last, set, done, rfl⟩ := Routine.runs_bind.mp run
  · cases (settle_runs unresolved h).2.1
  · obtain ⟨rfl, -, vars⟩ := settle_runs unresolved set
    obtain ⟨rfl, rfl, rfl⟩ := Routine.runs_pure.mp done
    exact ⟨rfl, rfl, vars⟩

theorem giveUpOr_outcome {err : PyException} {next : Act Control} {out : Except PyException Control}
    (unresolved : s.vars.finalFuture = none)
    (run : (giveUpOr start attempt err next).Runs s trace out s') :
    GiveUp start attempt err s.vars trace out s'.vars ∧ out ≠ .ok .continue ∨
      attempt ≠ s.vars.maxRetries ∧ next.Runs s trace out s' := by
  obtain ⟨_, h, rfl⟩ | ⟨spent, t, first, last, check, rest, rfl⟩ := Routine.runs_bind.mp run
  · obtain ⟨rfl, rfl, ⟨same, -⟩ | ⟨left, same | ⟨same, bad⟩⟩⟩ := retriesSpent_outcome h
    · cases same
    · cases same
    · cases same
      exact .inl ⟨.overflow left bad, by simp⟩
  · obtain ⟨rfl, rfl, ⟨same, exhausted⟩ | ⟨left, same | ⟨same, -⟩⟩⟩ := retriesSpent_outcome check
    · cases same
      obtain ⟨rfl, rfl, vars⟩ := setException_runs unresolved rest
      rw [vars]
      exact .inl ⟨.spent exhausted, by simp⟩
    · cases same
      exact .inr ⟨left, rest⟩
    · cases same

/-- With a silent continuation. -/
theorem giveUpOr_silent {err : PyException} {next : Act Control} {out : Except PyException Control}
    (unresolved : s.vars.finalFuture = none)
    (silent : ∀ {trace out s'}, next.Runs s trace out s' →
      trace = [] ∧ out = .ok .continue ∧ s'.vars = s.vars)
    (run : (giveUpOr start attempt err next).Runs s trace out s') :
    GiveUp start attempt err s.vars trace out s'.vars := by
  obtain ⟨tail, -⟩ | ⟨left, rest⟩ := giveUpOr_outcome unresolved run
  · exact tail
  · obtain ⟨rfl, rfl, vars⟩ := silent rest
    rw [vars]
    exact .again left

theorem pure_continue_silent {out : Except PyException Control}
    (run : (pure Control.continue : Act Control).Runs s trace out s') :
    trace = [] ∧ out = .ok .continue ∧ s'.vars = s.vars := by
  obtain ⟨rfl, rfl, rfl⟩ := Routine.runs_pure.mp run
  exact ⟨rfl, rfl, rfl⟩

theorem onOutOfGas_outcome {err : PyException} {wanted : Option ℤ} {out : Except PyException Control}
    (unresolved : s.vars.finalFuture = none)
    (run : (onOutOfGas m start attempt err wanted).Runs s trace out s') :
    GiveUp start attempt err s.vars trace out s'.vars := by
  refine giveUpOr_silent unresolved ?_ run
  intro trace out s' rest
  have rest := Routine.runs_update_bind.mp (Routine.runs_state_bind.mp rest)
  obtain ⟨rfl, rfl, rfl⟩ := Routine.runs_pure.mp rest
  exact ⟨rfl, rfl, rfl⟩

theorem onInsufficientFees_outcome {out : Except PyException Control}
    (unresolved : s.vars.finalFuture = none)
    (run : (onInsufficientFees start attempt).Runs s trace out s') :
    GiveUp start attempt
      (.insufficientFees "Transaction failed after multiple attempts due to insufficient fees")
      s.vars trace out s'.vars := by
  have run₁ := Routine.runs_update_bind.mp run
  have tail := giveUpOr_silent (by exact unresolved) pure_continue_silent run₁
  exact tail

theorem datetimeAdd_map_error {α : Type} {f : ℤ → α} {timeout : Option ℤ} {delta : ℤ}
    {e : PyException} (finite : timeout.filter (· ≠ 0) = some delta)
    (bad : (datetimeAdd start delta).map f = .error e) :
    e = outOfRange ∧ DeadlineOverflows start timeout := by
  cases sum : datetimeAdd start delta with
  | error e' =>
    rw [sum] at bad
    obtain rfl := Except.error.inj bad
    obtain ⟨rfl, outside⟩ := datetimeAdd_error sum
    exact ⟨rfl, delta, finite, outside⟩
  | ok deadline =>
    rw [sum] at bad
    cases bad

theorem retryDelay_error {delay now : ℕ} {timeout : Option ℤ} {e : PyException}
    (bad : retryDelay delay start timeout now = .error e) :
    e = outOfRange ∧ DeadlineOverflows start timeout := by
  unfold retryDelay at bad
  split at bad
  · cases bad
  · rename_i delta finite
    exact datetimeAdd_map_error finite bad

theorem pastDeadline_error {expired : Bool} {now : ℕ} {timeout : Option ℤ} {e : PyException}
    (bad : pastDeadline expired start timeout now = .error e) :
    e = outOfRange ∧ DeadlineOverflows start timeout := by
  unfold pastDeadline at bad
  split at bad
  · cases bad
  · cases bad
  · rename_i delta finite
    exact datetimeAdd_map_error finite bad

theorem retryDelay_untimed {delay now : ℕ} {timeout : Option ℤ}
    (untimed : timeout.filter (· ≠ 0) = none) : retryDelay delay start timeout now = .ok (delay, false) := by
  simp only [retryDelay, untimed]

theorem pastDeadline_untimed {now : ℕ} {timeout : Option ℤ} (untimed : timeout.filter (· ≠ 0) = none) :
    pastDeadline false start timeout now = .ok false := by
  simp only [pastDeadline, untimed]

theorem awaitSequenceRetryDelay_outcome {out : Except PyException Control}
    (unresolved : s.vars.finalFuture = none) (left : attempt ≠ s.vars.maxRetries)
    (run : (awaitSequenceRetryDelay m start).Runs s trace out s') :
    Mismatch start attempt s.vars trace out s'.vars := by
  unfold awaitSequenceRetryDelay at run
  split at run
  · obtain ⟨rfl, rfl, rfl⟩ := Routine.runs_pure.mp run
    exact .again left
  have run₁ := Routine.runs_state_bind.mp run
  obtain ⟨e, bad, rfl, rfl, rfl⟩ | ⟨⟨delay, expired⟩, delayed, run₂⟩ :=
    Routine.runs_ofExcept_bind.mp run₁
  · obtain ⟨rfl, overflows⟩ := retryDelay_error bad
    exact .overflow left overflows (.inl rfl)
  obtain ⟨late, rest, rfl, run₃⟩ := sleep_bind_runs.mp run₂
  have run₄ := Routine.runs_state_bind.mp run₃
  obtain ⟨e, bad, rfl, rfl, rfl⟩ | ⟨pastEnd, checked, run₅⟩ :=
    Routine.runs_ofExcept_bind.mp run₄
  · obtain ⟨rfl, overflows⟩ := pastDeadline_error bad
    exact .overflow left overflows (.inr ⟨delay, late, rfl⟩)
  split at run₅
  · rename_i ended
    obtain ⟨rfl, rfl, vars⟩ := setException_runs (by exact unresolved) run₅
    rw [vars]
    refine .expired fun untimed => ?_
    obtain ⟨rfl, rfl⟩ := Prod.mk.inj (Except.ok.inj (delayed.symm.trans (retryDelay_untimed untimed)))
    rw [ended] at checked
    cases checked.symm.trans (pastDeadline_untimed untimed)
  · obtain ⟨rfl, rfl, rfl⟩ := Routine.runs_pure.mp run₅
    exact .delayed left

theorem retryAfterMismatch_outcome {out : Except PyException Control}
    (unresolved : s.vars.finalFuture = none)
    (run : (retryAfterMismatch m start attempt).Runs s trace out s') :
    Mismatch start attempt s.vars trace out s'.vars := by
  obtain ⟨tail, stopped⟩ | ⟨left, rest⟩ := giveUpOr_outcome unresolved run
  · generalize s'.vars = v' at tail ⊢
    cases tail with
    | spent exhausted => exact .spent exhausted
    | again left => exact (stopped rfl).elim
    | overflow left bad => exact .overflow left bad (.inl rfl)
  · exact awaitSequenceRetryDelay_outcome unresolved left rest

theorem seedGasLimit_bind {α : Type} {next : Unit → Act α} {out : Except PyException α}
    (run : (seedGasLimit >>= next).Runs s trace out s') :
    ∃ t, t.vars = s.vars ∧ (next ()).Runs t trace out s' := by
  simp only [seedGasLimit, consumeLandedGasSeed, bind_assoc, pure_bind] at run
  have run₁ := Routine.runs_update_bind.mp (Routine.runs_state_bind.mp run)
  split at run₁
  · exact ⟨_, by rfl, Routine.runs_update_bind.mp run₁⟩
  · exact ⟨_, by rfl, Routine.runs_pure_bind.mp run₁⟩

theorem onSequenceMismatch_outcome {message : String} {out : Except PyException Control}
    (unresolved : s.vars.finalFuture = none)
    (run : (onSequenceMismatch m start attempt).Runs s trace out s') :
    Handled m start attempt s.vars (.accountSequenceMismatch message) trace out s'.vars := by
  obtain ⟨landed, t, look, rest, -, bail, run₁, rfl⟩ := bailIfLanded_bind unresolved run
  split at run₁
  · rename_i finalized
    subst finalized
    obtain ⟨rfl, rfl, rfl⟩ := Routine.runs_pure.mp run₁
    rw [List.append_nil]
    exact .landed (.inl rfl) bail
  rename_i unfinished
  obtain ⟨vars, bail⟩ := bail.of_not_finalized unfinished
  have pending : t.vars.finalFuture = none := by rw [vars]; exact unresolved
  have run₂ := Routine.runs_state_bind.mp run₁
  split at run₂
  · rename_i flagged
    replace flagged : s.vars.sameSeqRebroadcast = true := by rw [← vars]; exact flagged
    have run₃ := Routine.runs_update_bind.mp run₂
    obtain ⟨outcome, u, window, last, -, grace, run₄, rfl⟩ := confirmLandedWithGrace_bind (by exact pending) run₃
    rw [vars_setSameSeqRebroadcast, vars] at grace
    obtain rfl | unconfirmed := eq_or_ne outcome .finalized
    · obtain ⟨rfl, rfl, rfl⟩ := Routine.runs_pure.mp run₄
      rw [List.append_nil]
      exact .graceLanded rfl bail unfinished flagged grace
    obtain ⟨same, grace⟩ := grace.of_not_finalized unconfirmed
    -- with or without a gas seed, the retry starts from a fresh sequence
    have retries : ∃ w, w.vars = (s.vars.flagged false).fresh ∧
        (retryAfterMismatch m start attempt).Runs w last out s' := by
      cases outcome with
      | finalized => exact absurd rfl unconfirmed
      | retryNewSequence =>
        obtain ⟨w, seeded, run₅⟩ := seedGasLimit_bind (Routine.runs_update_bind.mp run₄)
        exact ⟨w, by rw [seeded, vars_clearAccountSeq, same], run₅⟩
      | notLanded => exact ⟨_, by rw [vars_clearAccountSeq, same], Routine.runs_update_bind.mp run₄⟩
    obtain ⟨w, loopVars, run₅⟩ := retries
    have tail := retryAfterMismatch_outcome (by rw [loopVars]; exact unresolved) run₅
    rw [loopVars] at tail
    rw [← List.append_assoc]
    exact .grace rfl bail unfinished flagged grace unconfirmed tail
  · rename_i plain
    replace plain : s.vars.sameSeqRebroadcast = false := by
      rw [← vars]
      exact Bool.eq_false_iff.mpr plain
    have run₃ := Routine.runs_update_bind.mp run₂
    have loopVars : (setAccountSeq none t).vars = s.vars.fresh := by rw [vars_clearAccountSeq, vars]
    have tail := retryAfterMismatch_outcome (by rw [loopVars]; exact unresolved) run₃
    rw [loopVars] at tail
    exact .mismatch rfl bail unfinished plain tail

theorem onTxTimeout_outcome {message : String} {out : Except PyException Control}
    (unresolved : s.vars.finalFuture = none)
    (run : (onTxTimeout m start attempt).Runs s trace out s') :
    Handled m start attempt s.vars (.txTimeout message) trace out s'.vars := by
  obtain ⟨outcome, t, look, rest, -, bail, run₁, rfl⟩ := bailIfLanded_bind unresolved run
  cases outcome with
  | finalized =>
    obtain ⟨rfl, rfl, rfl⟩ := Routine.runs_pure.mp run₁
    rw [List.append_nil]
    exact .landed (.inr rfl) bail
  | retryNewSequence =>
    obtain ⟨same, bail⟩ := bail.of_not_finalized (by simp)
    obtain ⟨w, seeded, run₂⟩ := seedGasLimit_bind (Routine.runs_update_bind.mp run₁)
    have loopVars : w.vars = s.vars.fresh := by rw [seeded, vars_clearAccountSeq, same]
    have tail := giveUpOr_silent (by rw [loopVars]; exact unresolved) pure_continue_silent run₂
    rw [loopVars] at tail
    exact .timeoutLanded rfl bail tail
  | notLanded =>
    obtain ⟨same, bail⟩ := bail.of_not_finalized (by simp)
    have run₂ := Routine.runs_update_bind.mp run₁
    have loopVars : (setSameSeqRebroadcast true t).vars = s.vars.flagged true := by
      rw [vars_setSameSeqRebroadcast, same]
    have tail := giveUpOr_silent (by rw [loopVars]; exact unresolved) pure_continue_silent run₂
    rw [loopVars] at tail
    exact .timeoutUnseen rfl bail tail

theorem handle_outcome {e : PyException} {out : Except PyException Control}
    (unresolved : s.vars.finalFuture = none)
    (run : (handle m start attempt e).Runs s trace out s') :
    Handled m start attempt s.vars e trace out s'.vars := by
  cases e
  case outOfGas => exact .inPlace rfl (.inl rfl) (onOutOfGas_outcome unresolved run) nofun
  case insufficientFees =>
    exact .inPlace rfl (.inr (.inl rfl)) (onInsufficientFees_outcome unresolved run) nofun
  case accountSequenceMismatch => exact onSequenceMismatch_outcome unresolved run
  case txTimeout => exact onTxTimeout_outcome unresolved run
  case asyncioTimeout =>
    have tail := giveUpOr_silent unresolved pure_continue_silent run
    exact .inPlace rfl (.inr (.inr rfl)) tail fun _ => rfl
  all_goals
    obtain ⟨rfl, rfl, vars⟩ := setException_runs unresolved run
    rw [vars]
    exact .fatal rfl rfl rfl

/-- The first poll is always sent. -/
theorem waitForTx_asks {hash : String} {timeout pollPeriod : ℕ} {out : Except PyException TxResponse}
    (positive : 0 < timeout) (run : (waitForTx hash timeout pollPeriod).Runs s trace out s') :
    ∃ reply rest, trace = ⟨.query (.getTx hash (some timeout)), reply⟩ :: rest := by
  have run₁ := Routine.runs_state_bind.mp (Routine.runs_state_bind.mp run)
  have remaining : ¬ (timeout : ℤ) - (s.clock - s.clock) ≤ 0 := by omega
  have whole : ((timeout : ℤ) - (s.clock - s.clock)).toNat = timeout := by omega
  rw [waitForGetTx, if_neg remaining, whole, bind_assoc] at run₁
  obtain ⟨reply, rest, rfl, -⟩ := Routine.runs_await_bind.mp run₁
  exact ⟨reply, rest, rfl⟩

theorem confirmSent_outcome {sent : Sent} {out : Except PyException Control}
    (unresolved : s.vars.finalFuture = none)
    (run : (confirmSent m sent).Runs s trace out s') :
    Confirmed m s.vars sent.txHash sent.sequence trace out s'.vars := by
  have run₁ := Routine.runs_update_bind.mp run
  obtain ⟨e, h, rfl⟩ | ⟨resp, t, polls, rest, waited, run₂, rfl⟩ := Routine.runs_bind.mp run₁
  · obtain ⟨frame, looking, ⟨_, _, _, -, -, -, same⟩ | ⟨unseen, _, same, early, cause⟩⟩ :=
      waitForTx_outcome h <;> cases same
    rw [frame.vars, vars_recordSent]
    exact .missed looking unseen early cause (waitForTx_asks (by decide) h)
      (waitForTx_error (by decide) h)
  · obtain ⟨frame, looking, ⟨polls, seen, _, rfl, unseen, sighted, same⟩ | ⟨-, _, same, -⟩⟩ :=
      waitForTx_outcome waited <;> cases same
    have run₃ := Routine.runs_update_bind.mp run₂
    have loopVars : (setAccountSeq (some (sent.sequence + 1)) t).vars =
        s.vars.sent sent.txHash (sent.sequence + 1) := by
      rw [vars_setAccountSeq, frame.vars, vars_recordSent]
      rfl
    rw [List.append_assoc]
    refine .found looking unseen sighted ?_
    obtain ⟨e, raised, rfl, rfl, rfl⟩ | ⟨_, passed, run₄⟩ := Routine.runs_ofExcept_bind.mp run₃
    · rw [loopVars]
      exact .failure (raiseForStatus_error.mp raised)
    · obtain ⟨_, h, -⟩ | ⟨_, u, first, last, set, done, rfl⟩ := Routine.runs_bind.mp run₄
      · cases (settle_runs (by rw [loopVars]; exact unresolved) h).2.1
      · obtain ⟨rfl, -, vars⟩ := settle_runs (by rw [loopVars]; exact unresolved) set
        obtain ⟨rfl, rfl, rfl⟩ := Routine.runs_pure.mp done
        rw [vars, loopVars]
        exact .success (raiseForStatus_ok.mp passed)

theorem sendAttempt_outcome {out : Except PyException Control}
    (unresolved : s.vars.finalFuture = none)
    (run : (sendAttempt m attempt).Runs s trace out s') :
    ∃ rest, trace = ⟨.beginAttempt attempt s.vars.nextAccountSeq, ()⟩ :: rest ∧
      Sending m s.vars rest out s'.vars := by
  obtain ⟨_, rest, rfl, run₁⟩ := Routine.runs_await_bind.mp (Routine.runs_state_bind.mp run)
  refine ⟨rest, rfl, ?_⟩
  obtain ⟨e, h, rfl⟩ | ⟨sent, t, build, after, built, run₂, rfl⟩ := Routine.runs_bind.mp run₁
  · obtain ⟨frame, ⟨_, same, failed, quiet⟩ |
      ⟨build, tx, took, answer, rfl, quiet, -, content, sequence, same⟩⟩ := buildAndBroadcast_outcome h
    · cases same
      rw [frame.vars]
      exact .unsent quiet failed
    · rw [frame.vars]
      cases verdict : broadcastVerdict m tx answer with
      | ok hash => simp [verdict, Except.map] at same
      | error e' =>
        obtain rfl : e = e' := by simpa [verdict, Except.map] using same
        exact .refused quiet content sequence verdict
  obtain ⟨frame, ⟨_, same, -⟩ |
    ⟨build, tx, took, answer, rfl, quiet, -, content, sequence, same⟩⟩ := buildAndBroadcast_outcome built
  · cases same
  cases verdict : broadcastVerdict m tx answer with
  | error e' => simp [verdict, Except.map] at same
  | ok hash =>
    obtain rfl : sent = _ := by simpa only [verdict, Except.map, Except.ok.injEq] using same
    have confirmed := confirmSent_outcome (by rw [frame.vars]; exact unresolved) run₂
    rw [frame.vars] at confirmed
    rw [List.append_assoc]
    exact .accepted quiet content sequence verdict confirmed

theorem tryAttempt_outcome {out : Except PyException Control}
    (unresolved : s.vars.finalFuture = none)
    (run : (tryAttempt m attempt).Runs s trace out s') :
    Tried m attempt s.vars trace out s'.vars := by
  obtain ⟨e, h, rfl⟩ | ⟨_, t, before, rest, checks, run₁, rfl⟩ := Routine.runs_bind.mp run
  · obtain same | ⟨message, same, low⟩ := preFlightChecks_outcome h <;> cases same
    rw [(preFlightChecks_quiet m h).2.vars]
    exact .preFlight (preFlightChecks_quiet m h).1 low
  obtain ⟨quiet, frame⟩ := preFlightChecks_quiet m checks
  have loopVars : (setAttempt attempt t).vars = s.vars.begun attempt := by
    rw [vars_setAttempt, frame.vars]
  obtain ⟨rest, rfl, sending⟩ :=
    sendAttempt_outcome (by rw [loopVars]; exact unresolved) (Routine.runs_update_bind.mp run₁)
  rw [loopVars] at sending ⊢
  exact .begun quiet sending

theorem Tried.unresolved {v v' : RetryVars} {e : PyException}
    (tried : Tried m attempt v trace (.error e) v') (unresolved : v.finalFuture = none) :
    v'.finalFuture = none := by
  cases tried with
  | preFlight quiet => exact unresolved
  | begun quiet sending =>
    cases sending with
    | unsent => exact unresolved
    | refused => exact unresolved
    | accepted quiet' content sequence verdict confirmed =>
      cases confirmed with
      | missed => exact unresolved
      | found looking unseen sighted status =>
        cases status with
        | failure => exact unresolved

/-- Every run of an attempt is one of the listed ones. -/
theorem attemptOnce_outcome {out : Except PyException Control}
    (unresolved : s.vars.finalFuture = none)
    (run : (attemptOnce m start attempt).Runs s trace out s') :
    Attempt m start attempt s.vars trace out s'.vars := by
  obtain ⟨control, h, rfl⟩ | ⟨e, t, first, rest, h, handling, rfl⟩ := Routine.runs_tryCatch.mp run
  · exact .success (tryAttempt_outcome unresolved h)
  · have tried := tryAttempt_outcome unresolved h
    exact .caught tried (handle_outcome (tried.unresolved unresolved) handling)

end Outcomes

/-! ## Continuing -/

section Continues

variable {m : Manager} {start attempt : ℕ} {trace : List Ev} {v v' : RetryVars}

theorem GiveUp.continues {err : PyException}
    (tail : GiveUp start attempt err v trace (.ok .continue) v') :
    trace = [] ∧ v' = v ∧ attempt ≠ v.maxRetries := by
  cases tail with
  | again left => exact ⟨rfl, rfl, left⟩

theorem Mismatch.continues (tail : Mismatch start attempt v trace (.ok .continue) v') :
    (∀ e ∈ trace, ∃ delay, e.request = .sleep delay) ∧ v' = v ∧ attempt ≠ v.maxRetries := by
  cases tail with
  | again left => exact ⟨by simp, rfl, left⟩
  | delayed left => exact ⟨by simp, rfl, left⟩

/-- After an exception that is no mismatch and no timeout, a run goes on only if it
retries in place. -/
theorem Handled.of_plain {e : PyException} (handled : Handled m start attempt v e trace (.ok .continue) v')
    (mismatch : e.isMismatch = false) (timeout : e.isTxTimeout = false) :
    e.retriesInPlace = true ∧ trace = [] ∧ v' = v := by
  cases handled with
  | inPlace kind named tail =>
    obtain ⟨quiet, same, -⟩ := tail.continues
    exact ⟨kind, quiet, same⟩
  | timeoutLanded kind => simp [timeout] at kind
  | timeoutUnseen kind => simp [timeout] at kind
  | mismatch kind => simp [mismatch] at kind
  | grace kind => simp [mismatch] at kind

/-- An exception that retries in place is handled by `giveUpOr`; a query deadline
is given up as TxTimeoutError. -/
theorem Handled.of_inPlace {e : PyException} {out : Except PyException Control}
    (handled : Handled m start attempt v e trace out v') (inPlace : e.retriesInPlace = true) :
    ∃ err, GiveUp start attempt err v trace out v' ∧ (e = .asyncioTimeout → err.isTxTimeout = true) := by
  have timeout : e.isTxTimeout ≠ true := fun kind => by simp [PyException.inPlace_of_txTimeout kind] at inPlace
  have mismatch : e.isMismatch ≠ true := fun kind => by simp [PyException.inPlace_of_mismatch kind] at inPlace
  cases handled with
  | inPlace kind named tail late => exact ⟨_, tail, late⟩
  | fatal kind => simp [inPlace] at kind
  | landed kind => exact (kind.elim mismatch timeout).elim
  | timeoutLanded kind => exact (timeout kind).elim
  | timeoutUnseen kind => exact (timeout kind).elim
  | mismatch kind => exact (mismatch kind).elim
  | graceLanded kind => exact (mismatch kind).elim
  | grace kind => exact (mismatch kind).elim

theorem Handled.of_txTimeout {e : PyException} (handled : Handled m start attempt v e trace (.ok .continue) v')
    (timeout : e.isTxTimeout = true) :
    (Bail m v trace .retryNewSequence v ∧ v' = v.fresh) ∨ (Bail m v trace .notLanded v ∧ v' = v.flagged true) := by
  cases handled with
  | inPlace kind => simp [PyException.inPlace_of_txTimeout timeout] at kind
  | mismatch kind => simp [PyException.mismatch_of_txTimeout timeout] at kind
  | grace kind => simp [PyException.mismatch_of_txTimeout timeout] at kind
  | timeoutLanded kind bail tail =>
    obtain ⟨rfl, same, -⟩ := tail.continues
    rw [List.append_nil]
    exact .inl ⟨bail, same⟩
  | timeoutUnseen kind bail tail =>
    obtain ⟨rfl, same, -⟩ := tail.continues
    rw [List.append_nil]
    exact .inr ⟨bail, same⟩

/-- How a run goes on after a sequence mismatch: at once, or after the grace
polls when the same sequence was sent again. -/
inductive Refreshed (m : Manager) (start attempt : ℕ) (v : RetryVars) : List Ev → RetryVars → Prop
  | plain {trace : List Ev} (unflagged : v.sameSeqRebroadcast = false) : Refreshed m start attempt v trace v.fresh
  | grace {look window trace : List Ev} {first outcome : LandedOutcome} (flagged : v.sameSeqRebroadcast = true)
      (bail : Bail m v look first v) (unfinished : first ≠ .finalized)
      (grace : Grace m (v.flagged false) 3 window outcome (v.flagged false))
      (unfinished' : outcome ≠ .finalized)
      (tail : Mismatch start attempt (v.flagged false).fresh trace (.ok .continue) (v.flagged false).fresh) :
      Refreshed m start attempt v (look ++ window ++ trace) (v.flagged false).fresh

theorem Handled.of_mismatch {e : PyException} (handled : Handled m start attempt v e trace (.ok .continue) v')
    (mismatch : e.isMismatch = true) : Refreshed m start attempt v trace v' := by
  cases handled with
  | inPlace kind => simp [PyException.inPlace_of_mismatch mismatch] at kind
  | timeoutLanded kind => simp [PyException.txTimeout_of_mismatch mismatch] at kind
  | timeoutUnseen kind => simp [PyException.txTimeout_of_mismatch mismatch] at kind
  | mismatch _ bail unfinished plain tail =>
    obtain ⟨-, rfl, -⟩ := tail.continues
    exact .plain plain
  | grace _ bail unfinished flagged grace unfinished' tail =>
    obtain ⟨-, rfl, -⟩ := tail.continues
    exact .grace flagged bail unfinished grace unfinished' tail

/-- The parameters of the submission, and its open future. -/
def Carried (v v' : RetryVars) : Prop :=
  v'.finalFuture = v.finalFuture ∧ v'.maxRetries = v.maxRetries ∧ v'.timeout = v.timeout ∧
    v'.msgs = v.msgs

theorem Handled.continues {e : PyException}
    (handled : Handled m start attempt v e trace (.ok .continue) v') :
    Carried v v' ∧ attempt ≠ v.maxRetries := by
  cases handled with
  | inPlace kind named tail =>
    obtain ⟨-, rfl, left⟩ := tail.continues
    exact ⟨⟨rfl, rfl, rfl, rfl⟩, left⟩
  | timeoutLanded kind bail tail =>
    obtain ⟨-, rfl, left⟩ := tail.continues
    exact ⟨⟨rfl, rfl, rfl, rfl⟩, left⟩
  | timeoutUnseen kind bail tail =>
    obtain ⟨-, rfl, left⟩ := tail.continues
    exact ⟨⟨rfl, rfl, rfl, rfl⟩, left⟩
  | mismatch kind bail unfinished plain tail =>
    obtain ⟨-, rfl, left⟩ := tail.continues
    exact ⟨⟨rfl, rfl, rfl, rfl⟩, left⟩
  | grace kind bail unfinished flagged grace unfinished' tail =>
    obtain ⟨-, rfl, left⟩ := tail.continues
    exact ⟨⟨rfl, rfl, rfl, rfl⟩, left⟩

theorem Tried.carried {e : PyException} (tried : Tried m attempt v trace (.error e) v') :
    Carried v v' := by
  cases tried with
  | preFlight quiet => exact ⟨rfl, rfl, rfl, rfl⟩
  | begun quiet sending =>
    cases sending with
    | unsent => exact ⟨rfl, rfl, rfl, rfl⟩
    | refused => exact ⟨rfl, rfl, rfl, rfl⟩
    | accepted quiet' content sequence verdict confirmed =>
      cases confirmed with
      | missed => exact ⟨rfl, rfl, rfl, rfl⟩
      | found looking unseen sighted status =>
        cases status with
        | failure => exact ⟨rfl, rfl, rfl, rfl⟩

theorem Tried.not_continue (tried : Tried m attempt v trace (.ok .continue) v') : False := by
  cases tried with
  | begun quiet sending =>
    cases sending with
    | accepted quiet' content sequence verdict confirmed =>
      cases confirmed with
      | found looking unseen sighted status => cases status

/-- An attempt that goes on was not the last one. -/
theorem Attempt.continues (run : Attempt m start attempt v trace (.ok .continue) v') :
    Carried v v' ∧ attempt ≠ v.maxRetries := by
  cases run with
  | success tried => exact tried.not_continue.elim
  | caught tried handled =>
    obtain ⟨future, retries, timeout, msgs⟩ := tried.carried
    obtain ⟨⟨future', retries', timeout', msgs'⟩, left⟩ := handled.continues
    exact ⟨⟨future'.trans future, retries'.trans retries, timeout'.trans timeout, msgs'.trans msgs⟩,
      retries ▸ left⟩

/-! An exception escapes an attempt only where the deadline is computed. -/

theorem GiveUp.escapes {err e : PyException} (tail : GiveUp start attempt err v trace (.error e) v') :
    attempt ≠ v.maxRetries ∧ DeadlineOverflows start v.timeout := by
  cases tail with
  | overflow left bad => exact ⟨left, bad⟩

theorem Mismatch.escapes {e : PyException} (tail : Mismatch start attempt v trace (.error e) v') :
    attempt ≠ v.maxRetries ∧ DeadlineOverflows start v.timeout := by
  cases tail with
  | overflow left bad quiet => exact ⟨left, bad⟩

theorem Handled.escapes {e e' : PyException}
    (handled : Handled m start attempt v e trace (.error e') v') :
    attempt ≠ v.maxRetries ∧ DeadlineOverflows start v.timeout := by
  cases handled with
  | inPlace kind named tail => exact tail.escapes
  | timeoutLanded kind bail tail => exact tail.escapes
  | timeoutUnseen kind bail tail => exact tail.escapes
  | mismatch kind bail unfinished plain tail => exact tail.escapes
  | grace kind bail unfinished flagged grace unfinished' tail => exact tail.escapes

theorem Attempt.escapes {e : PyException} (run : Attempt m start attempt v trace (.error e) v') :
    attempt ≠ v.maxRetries ∧ DeadlineOverflows start v.timeout := by
  cases run with
  | caught tried handled =>
    obtain ⟨-, retries, timeout, -⟩ := tried.carried
    obtain ⟨left, bad⟩ := handled.escapes
    exact ⟨retries ▸ left, timeout ▸ bad⟩

end Continues

/-! ## The whole loop -/

/-- An environment answers the requests of a run, one transition for each event.
What holds before the first attempt and is kept by every attempt that goes on
holds before the one that ends the run. -/
theorem attemptLoop_rule {χ : Type} {m : Manager} {start : ℕ} {env : χ → Ev → χ → Prop}
    {inv : ℕ → RetryVars → χ → Prop} {post : Except PyException Unit → RetryVars → χ → Prop}
    (again : ∀ {attempt v w trace v' w'}, inv attempt v w → v.finalFuture = none →
      Attempt m start attempt v trace (.ok .continue) v' → Path env w trace w' →
      inv (attempt + 1) v' w')
    (stopped : ∀ {attempt v w trace v' w'}, inv attempt v w → v.finalFuture = none →
      Attempt m start attempt v trace (.ok .stop) v' → Path env w trace w' → post (.ok ()) v' w')
    (escaped : ∀ {attempt v w trace e v' w'}, inv attempt v w → v.finalFuture = none →
      Attempt m start attempt v trace (.error e) v' → Path env w trace w' → post (.error e) v' w')
    {left attempt : ℕ} {s s' : Submission} {trace : List Ev} {out : Except PyException Unit}
    {w w' : χ} (unresolved : s.vars.finalFuture = none)
    (rest : attempt + left = s.vars.maxRetries + 1) (remaining : 0 < left)
    (run : (attemptLoop m start left attempt).Runs s trace out s')
    (path : Path env w trace w') (initial : inv attempt s.vars w) : post out s'.vars w' := by
  induction left generalizing attempt s trace w with
  | zero => exact (Nat.lt_irrefl 0 remaining).elim
  | succ left ih =>
    obtain ⟨e, h, rfl⟩ | ⟨control, t, first, last, once, run₁, rfl⟩ := Routine.runs_bind.mp run
    · exact escaped initial unresolved (attemptOnce_outcome unresolved h) path
    have attempted := attemptOnce_outcome unresolved once
    obtain ⟨w₁, path₁, path₂⟩ := path_append.mp path
    cases control with
    | stop =>
      obtain ⟨rfl, rfl, rfl⟩ := Routine.runs_pure.mp run₁
      obtain rfl := path_nil.mp path₂
      exact stopped initial unresolved attempted path₁
    | «continue» =>
      obtain ⟨⟨future, retries, -, -⟩, notLast⟩ := attempted.continues
      exact ih (future.trans unresolved) (by omega) (by omega) run₁ path₂
        (again initial unresolved attempted path₁)

/-- The same rule for a whole submission. -/
theorem Call.rule {χ : Type} {m : Manager} (call : Call) {env : χ → Ev → χ → Prop}
    (inv : ℕ → RetryVars → χ → Prop) (post : Except PyException Unit → RetryVars → χ → Prop)
    {clock : ℕ} {price : Option ℚ} {cachedAt : Option ℕ} {s' : Submission} {trace : List Ev}
    {out : Except PyException Unit} {w w' : χ}
    (run : (call.submit m).Runs (call.begin clock price cachedAt) trace out s')
    (path : Path env w trace w') (initial : inv 0 call.vars w)
    (again : ∀ {attempt v w trace v' w'}, inv attempt v w → v.finalFuture = none →
      Attempt m clock attempt v trace (.ok .continue) v' → Path env w trace w' →
      inv (attempt + 1) v' w')
    (stopped : ∀ {attempt v w trace v' w'}, inv attempt v w → v.finalFuture = none →
      Attempt m clock attempt v trace (.ok .stop) v' → Path env w trace w' → post (.ok ()) v' w')
    (escaped : ∀ {attempt v w trace e v' w'}, inv attempt v w → v.finalFuture = none →
      Attempt m clock attempt v trace (.error e) v' → Path env w trace w' → post (.error e) v' w') :
    post out s'.vars w' := by
  have run₁ := Routine.runs_update_bind.mp (Routine.runs_state_bind.mp run)
  exact attemptLoop_rule again stopped escaped (by rfl) (by exact Nat.zero_add _)
    (Nat.succ_pos _) run₁ path initial

end AlloraSdk.Source.TxManager
