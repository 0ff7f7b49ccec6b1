import AlloraSdk.Source.TxManager.Broadcast

/-!
# Gas simulation

Source: tx_manager.py, `simulate_transaction` and
`_exception_from_simulation_error`.

The wallet, the message encoder and the node are the environment. The loop is
`while True`; `fuel` bounds its turns, and `none` is what remains when it runs
out.
-/

namespace AlloraSdk.Source.TxManager
open AlloraSdk.Logic

/-- `error.code().value`, as far as `_exception_from_simulation_error` can tell
its forms apart. -/
inductive StatusValue where
  | tuple (items : List ℕ)
  | number (value : ℕ)
  | notANumber
  deriving DecidableEq, Repr

/-- A `grpc.RpcError`. `details` and `code` are what the methods of these names
return, `none` when the class has no such method; `text` is `str(error)`. -/
structure RpcError where
  details : Option (Option String)
  text : String
  code : Option StatusValue
  deriving DecidableEq, Repr

/-- Any other exception of a client library. -/
structure ForeignError where
  error : PyException
  client : error.isClientError = true
  not_rpc : ∀ details, error ≠ .rpcError details

/-- `grpc.RpcError` is the one class that the retry loop catches. -/
inductive SimulationFailure where
  | rpc (error : RpcError)
  | raised (error : ForeignError)

/-- The exception as a caller sees it that does not catch it. -/
def SimulationFailure.exception : SimulationFailure → PyException
  | .rpc error => .rpcError (error.details.getD none)
  | .raised foreign => foreign.error

/-- The transaction that is simulated. Its signature is empty. -/
structure SimulatedTx where
  typeUrl : String
  msgs : List String
  gasLimit : ℤ
  fee : Coin
  granter : Option String
  sequence : ℕ
  deriving DecidableEq, Repr

structure GasInfo where
  gasUsed : ℕ
  deriving DecidableEq, Repr

structure SimulateResponse where
  gasInfo : Option GasInfo
  deriving DecidableEq, Repr

inductive SimulationQuery where
  | accountInfo (address : String)
  | createAnyMessages (typeUrl : String) (msgs : List String)
  | seal (tx : SimulatedTx)
  | simulate (tx : SimulatedTx)
  deriving DecidableEq, Repr

abbrev SimulationQuery.Answer : SimulationQuery → Type
  | .accountInfo _ => Option AccountInfo
  | .createAnyMessages _ _ => Unit
  | .seal _ => Unit
  | .simulate _ => Option SimulateResponse

abbrev SimulationReply (query : SimulationQuery) : Type := Except SimulationFailure query.Answer

abbrev SimulationEvent := Event SimulationQuery SimulationReply

abbrev SimulationAct := Routine PyException Unit SimulationQuery SimulationReply

/-- Await a query outside the `try`. -/
def simulationAsk (query : SimulationQuery) : SimulationAct query.Answer := do
  let reply ← Routine.await query
  Routine.ofExcept (reply.mapError SimulationFailure.exception)

/-- `error_details or str(error)`. -/
def RpcError.errorMsg (error : RpcError) : String :=
  match error.details.getD (some error.text) with
  | some details => if details = "" then error.text else details
  | none => error.text

def RpcError.codeValue (error : RpcError) : ℕ :=
  match error.code with
  | some (.tuple (first :: _)) => first
  | some (.number value) => value
  | some (.tuple []) | some .notANumber | none => 1

def exceptionFromSimulationError (m : Manager) (error : RpcError) : PyException :=
  match classifyErrorFromMessage error.errorMsg with
  | .outOfGas => .outOfGas ("Simulation ran out of gas: " ++ error.errorMsg) none none
  | .accountSequenceMismatch =>
    .accountSequenceMismatch ("Sequence mismatch during simulation: " ++ error.errorMsg)
  | .insufficientFees =>
    .insufficientFees ("Insufficient fees during simulation" ++ feeGranterHint m ++ ": " ++ error.errorMsg)
  | .txError => .txError "simulation" error.codeValue error.errorMsg none

def PyException.isOutOfGas : PyException → Bool
  | .outOfGas _ _ _ => true
  | _ => false

/-- What a reply without an exception gives: the estimate, or the complaint
about a missing `gas_info`. -/
def simulatedGas (m : Manager) (response : Option SimulateResponse) : Except PyException ℤ :=
  match response.bind (·.gasInfo) with
  | some info => .ok (scaleGas info.gasUsed m.gasAdjustment)
  | none => .error (.other "Simulation response is None or missing gas_info")

/-- `max(base_gas_limit, 200000)`. -/
def initialGasLimit (m : Manager) (typeUrl : String) : ℤ := max (estimateGas m typeUrl) 200000

def maxSimulationGas (m : Manager) (typeUrl : String) : ℤ := max (initialGasLimit m typeUrl * 5) 2000000

/-- `min(max_simulation_gas, int(current_gas_limit * 1.5))`. -/
def nextGasLimit (maxGas currentGasLimit : ℤ) : ℤ := min maxGas (scaleGas currentGasLimit (3 / 2))

/-- The retry loop. `tx` is the transaction for a gas limit. -/
def simulationLoop (m : Manager) (tx : ℤ → SimulatedTx) (maxGas : ℤ) : ℕ → ℤ → SimulationAct (Option ℤ)
  | 0, _ => pure none
  | fuel + 1, currentGasLimit => do
    simulationAsk (.seal (tx currentGasLimit))
    let reply ← Routine.await (.simulate (tx currentGasLimit))
    match reply with
    | .ok response => Routine.ofExcept ((simulatedGas m response).map some)
    | .error (.raised foreign) => throw foreign.error
    | .error (.rpc error) =>
      let err := exceptionFromSimulationError m error
      if err.isOutOfGas = true ∧ currentGasLimit < maxGas then
        simulationLoop m tx maxGas fuel (nextGasLimit maxGas currentGasLimit)
      else throw err

/-- `simulate_transaction`; `wallet` says whether one is configured. -/
def simulateTransaction (m : Manager) (wallet : Bool) (fuel : ℕ) (typeUrl : String)
    (msgs : List String) : SimulationAct (Option ℤ) :=
  if wallet = false then
    throw (.other "No wallet configured. Initialize client with private key or mnemonic.")
  else do
    let info ← simulationAsk (.accountInfo m.walletAddress)
    match info with
    | none => throw (.other "account_info query response is none")
    | some info => do
      simulationAsk (.createAnyMessages typeUrl msgs)
      let tx (gasLimit : ℤ) : SimulatedTx :=
        { typeUrl, msgs, gasLimit, fee := { amount := 1, denom := m.config.feeDenom },
          granter := m.feeGranter, sequence := info.sequence }
      simulationLoop m tx (maxSimulationGas m typeUrl) fuel (initialGasLimit m typeUrl)

/-! ## Runs -/

section Runs

variable {s s' : Unit} {trace : List SimulationEvent}

theorem simulationAsk_bind_runs {α : Type} {query : SimulationQuery}
    {f : query.Answer → SimulationAct α} {out : Except PyException α} :
    (simulationAsk query >>= f).Runs s trace out s' ↔
      (∃ failure, trace = [⟨query, .error failure⟩] ∧ out = .error failure.exception ∧ s' = s) ∨
      ∃ answer rest, trace = ⟨query, .ok answer⟩ :: rest ∧ (f answer).Runs s rest out s' := by
  simp only [simulationAsk, bind_assoc, Routine.runs_await_bind, Routine.runs_ofExcept_bind]
  constructor
  · rintro ⟨failure | answer, rest, rfl, ⟨_, same, rfl, rfl, last⟩ | ⟨_, same, run⟩⟩ <;> cases same
    · exact .inl ⟨failure, rfl, rfl, last⟩
    · exact .inr ⟨answer, rest, rfl, run⟩
  · rintro (⟨failure, rfl, rfl, last⟩ | ⟨answer, rest, rfl, run⟩)
    · exact ⟨.error failure, [], rfl, .inl ⟨_, rfl, rfl, rfl, last⟩⟩
    · exact ⟨.ok answer, rest, rfl, .inr ⟨answer, rfl, run⟩⟩

/-- A foreign exception is never the module's own out-of-gas error. -/
theorem ForeignError.not_outOfGas (foreign : ForeignError) : foreign.error.isOutOfGas = false := by
  obtain ⟨error, client, -⟩ := foreign
  cases error <;> first | rfl | cases client

/-- What one turn of the loop can do: it ends the loop with its last reply, or
goes on at the next limit after an out-of-gas reply below the bound. -/
inductive Turn (m : Manager) (tx : SimulatedTx) (maxGas : ℤ) (next : List SimulationEvent →
    Except PyException (Option ℤ) → Prop) : List SimulationEvent → Except PyException (Option ℤ) → Prop
  | unsealed (failure : SimulationFailure) :
      Turn m tx maxGas next [⟨.seal tx, .error failure⟩] (.error failure.exception)
  | answered (response : Option SimulateResponse) :
      Turn m tx maxGas next [⟨.seal tx, .ok ()⟩, ⟨.simulate tx, .ok response⟩]
        ((simulatedGas m response).map some)
  | foreign (foreign : ForeignError) :
      Turn m tx maxGas next [⟨.seal tx, .ok ()⟩, ⟨.simulate tx, .error (.raised foreign)⟩]
        (.error foreign.error)
  | rejected (error : RpcError)
      (final : (exceptionFromSimulationError m error).isOutOfGas = true → maxGas ≤ tx.gasLimit) :
      Turn m tx maxGas next [⟨.seal tx, .ok ()⟩, ⟨.simulate tx, .error (.rpc error)⟩]
        (.error (exceptionFromSimulationError m error))
  | again (error : RpcError) (outOfGas : (exceptionFromSimulationError m error).isOutOfGas = true)
      (below : tx.gasLimit < maxGas) {rest : List SimulationEvent}
      {out : Except PyException (Option ℤ)} (later : next rest out) :
      Turn m tx maxGas next
        (⟨.seal tx, .ok ()⟩ :: ⟨.simulate tx, .error (.rpc error)⟩ :: rest) out

theorem simulationLoop_turn {m : Manager} {tx : ℤ → SimulatedTx} {maxGas : ℤ} {fuel : ℕ}
    {limit : ℤ} {out : Except PyException (Option ℤ)} (gas : (tx limit).gasLimit = limit)
    (run : (simulationLoop m tx maxGas (fuel + 1) limit).Runs s trace out s') :
    Turn m (tx limit) maxGas
      (fun rest out => (simulationLoop m tx maxGas fuel (nextGasLimit maxGas limit)).Runs s rest out s')
      trace out := by
  obtain ⟨failure, rfl, rfl, -⟩ | ⟨⟨⟩, _, rfl, sealed⟩ := simulationAsk_bind_runs.mp run
  · exact .unsealed failure
  obtain ⟨reply, rest, rfl, replied⟩ := Routine.runs_await_bind.mp sealed
  match reply with
  | .ok response =>
    obtain ⟨rfl, rfl, -⟩ := Routine.runs_ofExcept.mp replied
    exact .answered response
  | .error (.raised foreign) =>
    obtain ⟨rfl, rfl, -⟩ := Routine.runs_throw.mp replied
    exact .foreign foreign
  | .error (.rpc error) =>
    obtain ⟨⟨outOfGas, below⟩, later⟩ | ⟨stops, final⟩ := Routine.runs_ite.mp replied
    · exact .again error outOfGas (gas.symm ▸ below) later
    · obtain ⟨rfl, rfl, -⟩ := Routine.runs_throw.mp final
      refine .rejected error fun outOfGas => ?_
      rw [gas]
      exact not_lt.mp fun below => stops ⟨outOfGas, below⟩

end Runs

end AlloraSdk.Source.TxManager
