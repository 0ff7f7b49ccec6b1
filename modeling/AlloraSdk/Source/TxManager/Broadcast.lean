import AlloraSdk.Source.TxManager.Fees

/-!
# Build, sign and broadcast

Source: tx_manager.py, `_classify_error_from_message`,
`_exception_from_tx_response`, `_fee_granter_hint` and `_build_and_broadcast`.

A SYNC broadcast has three answers: the hash to confirm, the classified CheckTx
rejection, or no verdict. A deadline counts as the first, under the hash of the
bytes that were sent (`broadcastVerdict`).
-/

namespace AlloraSdk.Source.TxManager
open AlloraSdk.Logic

inductive ErrorClass where
  | outOfGas | accountSequenceMismatch | insufficientFees | txError
  deriving DecidableEq, Repr

def classifyErrorFromMessage (errorMsg : String) : ErrorClass :=
  if containsText "out of gas" errorMsg true then .outOfGas
  else if containsText "account sequence mismatch" errorMsg true then .accountSequenceMismatch
  else if containsText "insufficient fees" errorMsg true then .insufficientFees
  else .txError

def feeGranterHint (m : Manager) : String :=
  match m.feeGranter with
  | none => ""
  | some granter =>
    " (fee granter " ++ granter ++ " is configured — verify the grant to " ++ m.walletAddress ++
      " still exists and its spend limit is not exhausted)"

/-- A gas field of the response; 0 reads as absent. -/
def gasField (gas : ℤ) : Option ℤ := if gas = 0 then none else some gas

def exceptionFromTxResponse (m : Manager) (resp : TxResponse) : Option PyException :=
  if resp.code = 0 then none
  else match classifyErrorFromMessage resp.rawLog with
  | .outOfGas =>
    some (.outOfGas ("Transaction ran out of gas: " ++ resp.rawLog)
      (gasField resp.gasWanted) (gasField resp.gasUsed))
  | .accountSequenceMismatch =>
    some (.accountSequenceMismatch ("Sequence mismatch: " ++ resp.rawLog))
  | .insufficientFees =>
    some (.insufficientFees ("insufficient fees" ++ feeGranterHint m ++ ": " ++ resp.rawLog))
  | .txError => some (.txError resp.codespace resp.code resp.rawLog (some resp.txhash))

/-- `isinstance(err, _RETRYABLE_TX_ERRORS)`. -/
def PyException.isRetryable : PyException → Bool
  | .outOfGas _ _ _ | .accountSequenceMismatch _ | .insufficientFees _ => true
  | _ => false

/-- Exceptions whose handler retries with the sequence unchanged. -/
def PyException.retriesInPlace : PyException → Bool
  | .outOfGas _ _ _ | .insufficientFees _ | .asyncioTimeout => true
  | _ => false

def PyException.isMismatch : PyException → Bool
  | .accountSequenceMismatch _ => true
  | _ => false

def PyException.isTxTimeout : PyException → Bool
  | .txTimeout _ => true
  | _ => false

def raiseForStatus (m : Manager) (resp : TxResponse) : Except PyException Unit :=
  match exceptionFromTxResponse m resp with
  | some err => .error err
  | none => .ok ()

/-- The tuple (hash, gas, fee, seq) of `_build_and_broadcast`. -/
structure Sent where
  txHash : String
  gasLimit : ℤ
  fee : Coin
  sequence : ℕ
  deriving DecidableEq, Repr

/-- What the answer to the SYNC broadcast means: the hash to confirm, or the
exception that is raised. After a deadline the outcome is unknown, CheckTx may
already have admitted the transaction. -/
def broadcastVerdict (m : Manager) (tx : Tx) :
    Except PyException (Option TxResponse) → Except PyException String
  | .error .asyncioTimeout => .ok (m.txHash tx)
  | .error e => .error e
  | .ok none => .error (.other "broadcast_tx returned None - check network connectivity")
  | .ok (some resp) =>
    match exceptionFromTxResponse m resp with
    | some err => .error err
    | none => .ok resp.txhash

/-- The part of `_build_and_broadcast` up to the signed transaction. -/
def buildTx (m : Manager) (typeUrl : String) (msgs : List String)
    (gasLimit : Option ℤ) (feeMultiplier gasMultiplier : ℚ) (accountSeq : Option ℕ) :
    Act Tx := do
  let gasLimit := scaleGas (gasLimit.getD (estimateGas m typeUrl)) gasMultiplier
  let fee ← calculateOptimalFee m gasLimit feeMultiplier
  let info ← ask (.accountInfo m.walletAddress)
  match info with
  | none => throw (.other "account_info query response is none")
  | some info => do
    let tx : Tx :=
      { typeUrl, msgs, gasLimit, fee, granter := m.feeGranter,
        sequence := accountSeq.getD info.sequence,
        accountNumber := info.accountNumber, chainId := m.config.chainId }
    ask (.sign tx)
    pure tx

def buildAndBroadcast (m : Manager) (typeUrl : String) (msgs : List String)
    (gasLimit : Option ℤ) (feeMultiplier gasMultiplier : ℚ) (accountSeq : Option ℕ) :
    Act Sent := do
  let tx ← buildTx m typeUrl msgs gasLimit feeMultiplier gasMultiplier accountSeq
  let answer ← outcome (.broadcastTx tx)
  let txHash ← Routine.ofExcept (broadcastVerdict m tx answer)
  pure { txHash, gasLimit := tx.gasLimit, fee := tx.fee, sequence := tx.sequence }

/-! ## Classification -/

theorem exceptionFromTxResponse_eq_none {m : Manager} {resp : TxResponse} :
    exceptionFromTxResponse m resp = none ↔ resp.code = 0 := by
  unfold exceptionFromTxResponse
  split
  · simpa
  · rename_i failed
    simp only [failed, iff_false]
    split <;> simp

/-- A non-zero code is reported as one of the module's four transaction errors,
with the node's log at the end of its message. -/
theorem exceptionFromTxResponse_cases {m : Manager} {resp : TxResponse} {err : PyException}
    (raised : exceptionFromTxResponse m resp = some err) :
    err.isRetryable = true ∨
      err = .txError resp.codespace resp.code resp.rawLog (some resp.txhash) := by
  unfold exceptionFromTxResponse at raised
  split at raised
  · cases raised
  · split at raised <;> obtain rfl := Option.some.inj raised
    · exact .inl rfl
    · exact .inl rfl
    · exact .inl rfl
    · exact .inr rfl

/-- A client's exception never enters the handlers of the module's own timeouts
and mismatches; only its deadline is retried. -/
theorem PyException.kind_of_client {e : PyException} (client : e.isClientError = true) :
    e.isMismatch = false ∧ e.isTxTimeout = false ∧
      (e ≠ .asyncioTimeout → e.retriesInPlace = false) := by
  cases e <;> simp_all [isClientError, isMismatch, isTxTimeout, retriesInPlace]

theorem PyException.inPlace_of_txTimeout {e : PyException} (kind : e.isTxTimeout = true) :
    e.retriesInPlace = false := by
  cases e <;> first | rfl | cases kind

theorem PyException.mismatch_of_txTimeout {e : PyException} (kind : e.isTxTimeout = true) :
    e.isMismatch = false := by
  cases e <;> first | rfl | cases kind

theorem PyException.inPlace_of_mismatch {e : PyException} (kind : e.isMismatch = true) :
    e.retriesInPlace = false := by
  cases e <;> first | rfl | cases kind

theorem PyException.txTimeout_of_mismatch {e : PyException} (kind : e.isMismatch = true) :
    e.isTxTimeout = false := by
  cases e <;> first | rfl | cases kind

theorem kind_of_exception {m : Manager} {resp : TxResponse} {err : PyException}
    (raised : exceptionFromTxResponse m resp = some err) :
    (err.isMismatch = true ↔ classifyErrorFromMessage resp.rawLog = .accountSequenceMismatch) ∧
      err.isTxTimeout = false := by
  unfold exceptionFromTxResponse at raised
  split at raised
  · cases raised
  · split at raised <;> obtain rfl := Option.some.inj raised <;> rename_i log <;>
      simp [PyException.isMismatch, PyException.isTxTimeout, log]

theorem code_ne_zero_of_exception {m : Manager} {resp : TxResponse} {err : PyException}
    (raised : exceptionFromTxResponse m resp = some err) : resp.code ≠ 0 := by
  intro accepted
  simp [exceptionFromTxResponse_eq_none.mpr accepted] at raised

/-- A broadcast goes on under the hash of the response, or of the bytes that were
sent when no response came in time. -/
theorem broadcastVerdict_ok {m : Manager} {tx : Tx} {answer : Except PyException (Option TxResponse)}
    {hash : String} (verdict : broadcastVerdict m tx answer = .ok hash) :
    (∃ resp, answer = .ok (some resp) ∧ resp.code = 0 ∧ hash = resp.txhash) ∨
      answer = .error .asyncioTimeout ∧ hash = m.txHash tx := by
  unfold broadcastVerdict at verdict
  split at verdict
  · exact .inr ⟨rfl, (Except.ok.inj verdict).symm⟩
  · cases verdict
  · cases verdict
  · rename_i resp
    split at verdict
    · cases verdict
    · rename_i passed
      exact .inl ⟨resp, rfl, exceptionFromTxResponse_eq_none.mp passed, (Except.ok.inj verdict).symm⟩

/-- It stops at a rejection, at a missing response, or at another exception of the
client. -/
theorem broadcastVerdict_error {m : Manager} {tx : Tx} {answer : Except PyException (Option TxResponse)}
    {e : PyException} (verdict : broadcastVerdict m tx answer = .error e) :
    (∃ resp, answer = .ok (some resp) ∧ exceptionFromTxResponse m resp = some e) ∨
      (answer = .ok none ∧ e = .other "broadcast_tx returned None - check network connectivity") ∨
      answer = .error e ∧ e ≠ .asyncioTimeout := by
  unfold broadcastVerdict at verdict
  split at verdict
  · cases verdict
  · rename_i err late
    obtain rfl := Except.error.inj verdict
    exact .inr (.inr ⟨rfl, late⟩)
  · exact .inr (.inl ⟨rfl, (Except.error.inj verdict).symm⟩)
  · rename_i resp
    split at verdict
    · rename_i err raised
      obtain rfl := Except.error.inj verdict
      exact .inl ⟨resp, rfl, raised⟩
    · cases verdict

theorem raiseForStatus_error {m : Manager} {resp : TxResponse} {err : PyException} :
    raiseForStatus m resp = .error err ↔ exceptionFromTxResponse m resp = some err := by
  unfold raiseForStatus
  split <;> simp_all

theorem raiseForStatus_ok {m : Manager} {resp : TxResponse} :
    raiseForStatus m resp = .ok () ↔ resp.code = 0 := by
  refine Iff.trans ?_ (exceptionFromTxResponse_eq_none : exceptionFromTxResponse m resp = none ↔ _)
  unfold raiseForStatus
  split <;> simp_all

/-! ## Broadcast -/

/-- The sequence a transaction is signed with: the caller's, or one that the
node reported on the way. -/
def ResolvesTo (accountSeq : Option ℕ) (trace : List Ev) (sequence : ℕ) : Prop :=
  match accountSeq with
  | some explicit => sequence = explicit
  | none => ∃ address took info, (⟨.query (.accountInfo address), (took, .ok (some info))⟩ : Ev) ∈ trace ∧
      info.sequence = sequence

/-- Why a routine stopped short: a query raised, the fee cap, or its own check. -/
def Interrupted (trace : List Ev) (e : PyException) : Prop :=
  RaisedIn trace e ∨ (∃ message, e = .maxFeesExceeded message) ∨ ∃ message, e = .other message

/-- Why `_build_and_broadcast` stops before it broadcasts. -/
inductive BuildFails (m : Manager) (trace : List Ev) : PyException → Prop
  | tooExpensive {message : String} {cap : ℕ} (capped : m.maxFees = some cap) :
      BuildFails m trace (.maxFeesExceeded message)
  | account {took : ℕ} {e : PyException}
      (raised : (⟨.query (.accountInfo m.walletAddress), (took, .error e)⟩ : Ev) ∈ trace) :
      BuildFails m trace e
  | noAccount {took : ℕ}
      (missing : (⟨.query (.accountInfo m.walletAddress), (took, .ok none)⟩ : Ev) ∈ trace) :
      BuildFails m trace (.other "account_info query response is none")
  | sign {tx : Tx} {took : ℕ} {e : PyException}
      (raised : (⟨.query (.sign tx), (took, .error e)⟩ : Ev) ∈ trace) : BuildFails m trace e

theorem BuildFails.interrupted {m : Manager} {trace : List Ev} {e : PyException}
    (failed : BuildFails m trace e) : Interrupted trace e := by
  cases failed with
  | tooExpensive => exact .inr (.inl ⟨_, rfl⟩)
  | account raised => exact .inl ⟨_, _, raised⟩
  | noAccount => exact .inr (.inr ⟨_, rfl⟩)
  | sign raised => exact .inl ⟨_, _, raised⟩

section Outcome

variable {m : Manager} {typeUrl : String} {msgs : List String} {gasLimit : Option ℤ}
  {feeMultiplier gasMultiplier : ℚ} {accountSeq : Option ℕ} {s s' : Submission} {trace : List Ev}

theorem buildTx_quiet : Quietly (buildTx m typeUrl msgs gasLimit feeMultiplier gasMultiplier accountSeq) := by
  refine .bind (calculateOptimalFee_quiet m _ _) fun fee => .bind (.ask rfl) fun info => ?_
  split
  · exact .throw _
  · exact .bind (.ask rfl) fun _ => .pure _

theorem buildTx_outcome {out : Except PyException Tx}
    (run : (buildTx m typeUrl msgs gasLimit feeMultiplier gasMultiplier accountSeq).Runs
      s trace out s') :
    (∃ e, out = .error e ∧ BuildFails m trace e) ∨
      ∃ tx, out = .ok tx ∧ tx.typeUrl = typeUrl ∧ tx.msgs = msgs ∧
        ResolvesTo accountSeq trace tx.sequence := by
  obtain ⟨e, h, rfl⟩ | ⟨fee, t₁, feeTrace, _, fees, run₁, rfl⟩ := Routine.runs_bind.mp run
  · obtain ⟨_, same, -⟩ | ⟨message, _, capped, same⟩ := calculateOptimalFee_outcome h
    · cases same
    · cases same
      exact .inl ⟨_, rfl, .tooExpensive capped⟩
  obtain ⟨e, h, rfl⟩ | ⟨info, t₂, _, _, account, run₂, rfl⟩ := Routine.runs_bind.mp run₁
  · obtain ⟨took, rfl, rfl⟩ := ask_runs.mp h
    exact .inl ⟨e, rfl, .account (List.mem_append_right _ (.head _))⟩
  obtain ⟨took, rfl, rfl⟩ := ask_runs.mp account
  cases info with
  | none =>
    obtain ⟨rfl, rfl, rfl⟩ := Routine.runs_throw.mp run₂
    exact .inl ⟨_, rfl, .noAccount (List.mem_append_right _ (.head _))⟩
  | some info =>
    obtain ⟨e, h, rfl⟩ | ⟨_, t₃, _, _, signed, run₃, rfl⟩ := Routine.runs_bind.mp run₂
    · obtain ⟨took', rfl, rfl⟩ := ask_runs.mp h
      exact .inl ⟨e, rfl, .sign (List.mem_append_right _ (List.mem_append_right _ (.head _)))⟩
    obtain ⟨rfl, rfl, rfl⟩ := Routine.runs_pure.mp run₃
    refine .inr ⟨_, rfl, rfl, rfl, ?_⟩
    cases accountSeq with
    | some explicit => rfl
    | none => exact ⟨m.walletAddress, took, info, by simp, rfl⟩

/-- Either nothing was broadcast, or the last event is the broadcast of one
transaction and its answer is the verdict. -/
theorem buildAndBroadcast_outcome {out : Except PyException Sent}
    (run : (buildAndBroadcast m typeUrl msgs gasLimit feeMultiplier gasMultiplier accountSeq).Runs
      s trace out s') :
    Frame s s' ∧
    ((∃ e, out = .error e ∧ BuildFails m trace e ∧ QuietTrace trace) ∨
    ∃ before tx took answer, trace = before ++ [⟨.query (.broadcastTx tx), (took, answer)⟩] ∧
      QuietTrace before ∧ tx.typeUrl = typeUrl ∧ tx.msgs = msgs ∧
      ResolvesTo accountSeq before tx.sequence ∧
      out = (broadcastVerdict m tx answer).map fun txHash =>
        { txHash, gasLimit := tx.gasLimit, fee := tx.fee, sequence := tx.sequence }) := by
  obtain ⟨e, h, rfl⟩ | ⟨tx, t, before, _, build, run₁, rfl⟩ := Routine.runs_bind.mp run
  · have quiet := buildTx_quiet h
    obtain ⟨_, same, failed⟩ | ⟨_, same, -⟩ := buildTx_outcome h
    · cases same
      exact ⟨quiet.2, .inl ⟨e, rfl, failed, quiet.1⟩⟩
    · cases same
  have quiet := buildTx_quiet build
  obtain ⟨_, same, -⟩ | ⟨_, same, url, content, resolved⟩ := buildTx_outcome build
  · cases same
  cases same
  obtain ⟨took, answer, _, rfl, run₂⟩ := outcome_bind_runs.mp run₁
  have frame : Frame s (t.advance took) := quiet.2.trans (Frame.advance t took)
  obtain ⟨e, h, rfl⟩ | ⟨txHash, t₂, _, _, verdict, last, rfl⟩ := Routine.runs_bind.mp run₂
  · obtain ⟨rfl, verdict, rfl⟩ := Routine.runs_ofExcept.mp h
    exact ⟨frame, .inr ⟨before, tx, took, answer, rfl, quiet.1, url, content, resolved, by rw [← verdict]; rfl⟩⟩
  · obtain ⟨rfl, same, rfl⟩ := Routine.runs_ofExcept.mp verdict
    obtain ⟨rfl, rfl, rfl⟩ := Routine.runs_pure.mp last
    exact ⟨frame, .inr ⟨before, tx, took, answer, rfl, quiet.1, url, content, resolved, by rw [← same]; rfl⟩⟩

end Outcome

end AlloraSdk.Source.TxManager
