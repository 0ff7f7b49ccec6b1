import Mathlib.Data.List.Infix
import Mathlib.Data.Rat.Defs
import AlloraSdk.Logic.Coroutine

/-!
# Transaction manager: data, exceptions and requests

Source: src/allora_sdk/rpc_client/tx_manager.py (PendingTx, TxManager.__init__
and the exception classes) and config.py (AlloraNetworkConfig).

Times and durations are microseconds, the resolution of `datetime`. The float
multipliers are exact rationals. The clock is part of the task's state: every
reply says how long it took and every sleep how late it woke, so the clock
never runs backwards and a sleep never ends early.
The wallet, the signer and the node are the environment: whatever they answer
or raise is a reply. Signed bytes enter only through the hash `txHash` of the
transaction they encode.
-/

namespace AlloraSdk.Source.TxManager
open AlloraSdk.Logic

inductive FeeTier where
  | eco | standard | priority
  deriving DecidableEq, Repr

structure Coin where
  amount : ℤ
  denom : String
  deriving DecidableEq, Repr

/-- The exceptions that reach the handlers of `_attempt_submissions`: the
module's own classes, and what a client library raises. -/
inductive PyException where
  | txError (codespace : String) (code : ℕ) (message : String) (txHash : Option String)
  | insufficientBalance (message : String)
  | outOfGas (message : String) (gasWanted gasUsed : Option ℤ)
  | insufficientFees (message : String)
  | accountSequenceMismatch (message : String)
  | maxFeesExceeded (message : String)
  | txNotFound
  | txTimeout (message : String)
  | asyncioTimeout
  | rpcError (details : Option String)
  | runtimeError (message : String)
  | overflowError (message : String)
  | other (message : String)
  deriving DecidableEq, Repr

/-- Classes that the node clients and the signer raise. The module's own
classes are raised by the module only. -/
def PyException.isClientError : PyException → Bool
  | .asyncioTimeout | .rpcError _ | .runtimeError _ | .other _ => true
  | _ => false

/-- `str(e)`. -/
def PyException.str : PyException → String
  | .txError codespace code message txHash =>
    let txInfo := match txHash with
      | some hash => if hash = "" then "simulation" else "tx_hash=" ++ hash
      | none => "simulation"
    "TxError: codespace=" ++ codespace ++ " code=" ++ toString code ++ " " ++ txInfo ++ " " ++ message
  | .insufficientBalance message | .outOfGas message _ _ | .insufficientFees message
  | .accountSequenceMismatch message | .maxFeesExceeded message | .txTimeout message
  | .runtimeError message | .overflowError message | .other message => message
  | .txNotFound | .asyncioTimeout => ""
  | .rpcError details => details.getD ""

/-- `cosmos.base.abci.v1beta1.TxResponse`, as far as the manager reads it. A
gas field of 0 is the unset field. -/
structure TxResponse where
  code : ℕ
  codespace : String
  rawLog : String
  txhash : String
  gasWanted : ℤ
  gasUsed : ℤ
  deriving DecidableEq, Repr

/-- The content of a signed transaction. -/
structure Tx where
  typeUrl : String
  msgs : List String
  gasLimit : ℤ
  fee : Coin
  granter : Option String
  sequence : ℕ
  accountNumber : ℕ
  chainId : String
  deriving DecidableEq, Repr

structure AccountInfo where
  sequence : ℕ
  accountNumber : ℕ
  deriving DecidableEq, Repr

inductive Query where
  | account (address : String)
  | balance (address denom : String)
  | gasPrice (denom : String)
  | feemarketState
  | feemarketParams
  | accountInfo (address : String)
  | sign (tx : Tx)
  | broadcastTx (tx : Tx)
  /-- `within` is the time `asyncio.wait_for` leaves the query, when there is one. -/
  | getTx (hash : String) (within : Option ℕ)
  deriving DecidableEq, Repr

/-- What a query returns when it does not raise. `none` stands for a missing
message; the price is the `Dec` amount, `none` when it is no decimal. -/
abbrev Query.Answer : Query → Type
  | .account _ => Unit
  | .balance _ _ => Option ℕ
  | .gasPrice _ => Option (Option ℚ)
  | .feemarketState => Option (List ℕ)
  | .feemarketParams => Option ℕ
  | .accountInfo _ => Option AccountInfo
  | .sign _ => Unit
  | .broadcastTx _ => Option TxResponse
  | .getTx _ _ => Option TxResponse

/-- `beginAttempt` and `resolve` ask nothing: they mark in the run the call of
`_build_and_broadcast` with its `account_seq`, and an effective
`_set_result` / `_set_exception`. -/
inductive Request where
  | query (query : Query)
  | sleep (duration : ℕ)
  | beginAttempt (attempt : ℕ) (accountSeq : Option ℕ)
  | resolve (outcome : Except PyException TxResponse)

abbrev Reply : Request → Type
  | .query query => ℕ × Except PyException query.Answer
  | .sleep _ => ℕ
  | .beginAttempt _ _ => Unit
  | .resolve _ => Unit

abbrev Ev := Event Request Reply

structure NetworkConfig where
  chainId : String
  feeDenom : String
  feeMinimumGasPrice : ℚ
  useDynamicGasPrice : Bool
  dynamicGasPriceDefaultMultiplier : ℚ
  gasPriceCacheTtl : ℕ
  congestionAwareFees : Bool
  deriving DecidableEq, Repr

/-- The fields of TxManager that the submission loop reads and never writes.
`txHash` is `sha256(tx_bytes).hexdigest().upper()` of the signed transaction. -/
structure Manager where
  walletAddress : String
  feeGranter : Option String
  maxFees : Option ℕ
  accountSequenceRetryDelay : Option ℕ
  gasAdjustment : ℚ
  baseGas : Option ℕ
  hasFeemarket : Bool
  config : NetworkConfig
  queryInterval : ℕ
  queryTimeout : ℕ
  txHash : Tx → String
  showCoin : Coin → String

structure PendingTx where
  typeUrl : String
  msgs : List String
  feeTier : FeeTier
  maxRetries : ℕ
  timeout : Option ℤ
  lastTxHash : Option String
  lastGasLimit : Option ℤ
  lastFee : Option Coin
  lastLandedError : Option PyException
  attempt : ℕ
  sameSeqRebroadcast : Bool
  finalFuture : Option (Except PyException TxResponse)

/-- PendingTx.__init__. -/
def PendingTx.new (typeUrl : String) (msgs : List String) (feeTier : FeeTier)
    (maxRetries : ℕ) (timeout : Option ℤ) : PendingTx where
  typeUrl := typeUrl
  msgs := msgs
  feeTier := feeTier
  maxRetries := maxRetries
  timeout := timeout
  lastTxHash := none
  lastGasLimit := none
  lastFee := none
  lastLandedError := none
  attempt := 0
  sameSeqRebroadcast := false
  finalFuture := none

/-- The state of one submission task: the clock, the manager's price cache, the
PendingTx and the locals of `_attempt_submissions`. -/
structure Submission where
  clock : ℕ
  cachedGasPrice : Option ℚ
  gasPriceCacheTime : Option ℕ
  pending : PendingTx
  currentGasLimit : Option ℤ
  nextAccountSeq : Option ℕ
  feeMultiplier : ℚ

/-- Time passes. -/
def Submission.advance (s : Submission) (elapsed : ℕ) : Submission :=
  { s with clock := s.clock + elapsed }

abbrev Act := Routine PyException Submission Request Reply

def request (r : Request) : Act (Reply r) := Routine.await r

/-- Await a query inside a `try`: its time passes; what it returned or raised. -/
def outcome (query : Query) : Act (Except PyException query.Answer) := do
  let reply ← request (.query query)
  Routine.update (·.advance reply.1)
  pure reply.2

/-- Await a query. -/
def ask (query : Query) : Act query.Answer := do
  let answer ← outcome query
  Routine.ofExcept answer

/-- `asyncio.sleep`. -/
def sleep (duration : ℕ) : Act Unit := do
  let late ← request (.sleep duration)
  Routine.update (·.advance (duration + late))

/-- `needle in hay`, on the lower-cased text when `lower` is set. -/
def containsText (needle hay : String) (lower : Bool) : Bool :=
  decide (needle.toList <:+: if lower then hay.toList.map Char.toLower else hay.toList)

/-- `int(q)`: truncation toward zero. -/
def truncate (q : ℚ) : ℤ := q.num.tdiv q.den

/-- `int(n * q)`. -/
def scaleGas (n : ℤ) (q : ℚ) : ℤ := truncate (n * q)

/-- Some query of `trace` raised `e`. -/
def RaisedIn (trace : List Ev) (e : PyException) : Prop :=
  ∃ query took, (⟨.query query, (took, .error e)⟩ : Ev) ∈ trace

theorem RaisedIn.mono {trace trace' : List Ev} {e : PyException} (raised : RaisedIn trace e)
    (subset : ∀ event ∈ trace, event ∈ trace') : RaisedIn trace' e := by
  obtain ⟨query, took, member⟩ := raised
  exact ⟨query, took, subset _ member⟩

section Runs

variable {s s' : Submission} {trace : List Ev}

theorem outcome_bind_runs {α : Type} {query : Query} {f : Except PyException query.Answer → Act α}
    {out : Except PyException α} :
    (outcome query >>= f).Runs s trace out s' ↔ ∃ took answer rest,
      trace = ⟨.query query, (took, answer)⟩ :: rest ∧
      (f answer).Runs (s.advance took) rest out s' := by
  simp only [outcome, request, bind_assoc, pure_bind, Routine.runs_await_bind,
    Routine.runs_update_bind]
  constructor
  · rintro ⟨⟨took, answer⟩, rest, rfl, h⟩
    exact ⟨took, answer, rest, rfl, h⟩
  · rintro ⟨took, answer, rest, rfl, h⟩
    exact ⟨(took, answer), rest, rfl, h⟩

theorem ask_runs {query : Query} {out : Except PyException query.Answer} :
    (ask query).Runs s trace out s' ↔ ∃ took, trace = [⟨.query query, (took, out)⟩] ∧
      s' = s.advance took := by
  simp only [ask, outcome_bind_runs, Routine.runs_ofExcept]
  constructor
  · rintro ⟨took, answer, _, rfl, rfl, rfl, rfl⟩
    exact ⟨took, rfl, rfl⟩
  · rintro ⟨took, rfl, rfl⟩
    exact ⟨took, out, [], rfl, rfl, rfl, rfl⟩

theorem sleep_bind_runs {α : Type} {duration : ℕ} {f : Unit → Act α}
    {out : Except PyException α} :
    (sleep duration >>= f).Runs s trace out s' ↔ ∃ late rest,
      trace = ⟨.sleep duration, late⟩ :: rest ∧
      (f ()).Runs (s.advance (duration + late)) rest out s' := by
  simp only [sleep, request, bind_assoc, Routine.runs_await_bind, Routine.runs_update_bind]

end Runs

end AlloraSdk.Source.TxManager
