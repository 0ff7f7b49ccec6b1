import AlloraSdk.Chain.Simulation
import AlloraSdk.Source.TxManager.Offers
import AlloraSdk.Source.TxManager.Simulate

/-!
# The simulation loop ends and never gives up early

The limit grows by half until it meets the bound, and the bound is at most ten
times the first limit. Truncation costs less than the growth above one unit:
`limit - 1` grows by at least a half, so six steps are enough from 200000 on
(`Climbs`).
-/

namespace AlloraSdk.Guarantees
open AlloraSdk.Logic AlloraSdk.Source.TxManager AlloraSdk.Chain

/-! ## Growth of the limit -/

/-- `n` steps of growth reach `maxGas` from `limit`. -/
def Climbs (n : ℕ) (limit maxGas : ℤ) : Prop := 2 ^ n * (maxGas - 1) ≤ 3 ^ n * (limit - 1)

section Growth

variable {n : ℕ} {limit maxGas : ℤ}

theorem scaleGas_half_more (nonneg : 0 ≤ limit) : scaleGas limit (3 / 2) = limit * 3 / 2 := by
  have factor : (0 : ℚ) ≤ limit := by exact_mod_cast nonneg
  have product : (limit : ℚ) * (3 / 2) = ((limit * 3 : ℤ) : ℚ) / (2 : ℕ) := by
    push_cast
    ring
  rw [scaleGas, truncate_of_nonneg (by positivity), product, Rat.floor_intCast_div_natCast]
  rfl

theorem nextGasLimit_eq (nonneg : 0 ≤ limit) : nextGasLimit maxGas limit = min maxGas (limit * 3 / 2) := by
  rw [nextGasLimit, scaleGas_half_more nonneg]

theorem lt_nextGasLimit (two_le : 2 ≤ limit) (below : limit < maxGas) :
    limit < nextGasLimit maxGas limit := by
  rw [nextGasLimit_eq (by omega)]
  omega

theorem nextGasLimit_le : nextGasLimit maxGas limit ≤ maxGas := min_le_left _ _

theorem Climbs.zero (climbs : Climbs 0 limit maxGas) : maxGas ≤ limit := by
  simpa [Climbs] using climbs

theorem Climbs.next (climbs : Climbs (n + 1) limit maxGas) (two_le : 2 ≤ limit)
    (below : limit < maxGas) : Climbs n (nextGasLimit maxGas limit) maxGas := by
  rw [nextGasLimit_eq (by omega)]
  rcases le_total maxGas (limit * 3 / 2) with reached | short
  · rw [min_eq_left reached]
    have powers : (2 : ℤ) ^ n ≤ 3 ^ n := pow_le_pow_left₀ (by norm_num) (by norm_num) n
    exact mul_le_mul_of_nonneg_right powers (by omega)
  · rw [min_eq_right short]
    have grown : 3 * (limit - 1) ≤ 2 * (limit * 3 / 2 - 1) := by omega
    have doubled : 2 * (2 ^ n * (maxGas - 1)) ≤ 2 * (3 ^ n * (limit * 3 / 2 - 1)) :=
      calc 2 * (2 ^ n * (maxGas - 1)) = 2 ^ (n + 1) * (maxGas - 1) := by ring
        _ ≤ 3 ^ (n + 1) * (limit - 1) := climbs
        _ = 3 ^ n * (3 * (limit - 1)) := by ring
        _ ≤ 3 ^ n * (2 * (limit * 3 / 2 - 1)) := mul_le_mul_of_nonneg_left grown (by positivity)
        _ = 2 * (3 ^ n * (limit * 3 / 2 - 1)) := by ring
    exact le_of_mul_le_mul_left doubled (by norm_num)

theorem initialGasLimit_climbs (m : Manager) (typeUrl : String) :
    Climbs 6 (initialGasLimit m typeUrl) (maxSimulationGas m typeUrl) := by
  have floor : 200000 ≤ initialGasLimit m typeUrl := le_max_right _ _
  unfold Climbs maxSimulationGas
  omega

end Growth

/-! ## The limits of a run -/

/-- The gas limit that an event simulates. -/
def simulatedLimit (event : SimulationEvent) : Option ℤ :=
  match event.request with
  | .simulate tx => some tx.gasLimit
  | .accountInfo _ | .createAnyMessages _ _ | .seal _ => none

def simulatedLimits (trace : List SimulationEvent) : List ℤ := trace.filterMap simulatedLimit

/-- At most `n + 1` limits, strictly increasing between `limit` and `maxGas`. -/
structure Ascent (n : ℕ) (limit maxGas : ℤ) (limits : List ℤ) : Prop where
  few : limits.length ≤ n + 1
  increasing : limits.Pairwise (· < ·)
  bounded : ∀ l ∈ limits, limit ≤ l ∧ l ≤ maxGas

section Ascent

variable {n : ℕ} {limit maxGas : ℤ}

theorem Ascent.nil : Ascent n limit maxGas [] := ⟨by simp, .nil, by simp⟩

theorem Ascent.single (below : limit ≤ maxGas) : Ascent n limit maxGas [limit] :=
  ⟨by simp, List.pairwise_singleton _ _, by simp [below]⟩

theorem Ascent.cons {next : ℤ} {limits : List ℤ} (ascent : Ascent n next maxGas limits)
    (grows : limit < next) (below : limit ≤ maxGas) :
    Ascent (n + 1) limit maxGas (limit :: limits) where
  few := by simpa using ascent.few
  increasing := List.pairwise_cons.mpr
    ⟨fun l member => grows.trans_le (ascent.bounded l member).1, ascent.increasing⟩
  bounded := by
    intro l member
    rcases List.mem_cons.mp member with rfl | later
    · exact ⟨le_rfl, below⟩
    · exact ⟨grows.le.trans (ascent.bounded l later).1, (ascent.bounded l later).2⟩

end Ascent

/-! ## What a reply says -/

/-- The text of an error: its details, or its own text when it has none. -/
inductive Says (error : RpcError) : String → Prop
  | details {details : String} (given : error.details = some (some details)) (nonempty : details ≠ "") :
      Says error details
  | own (missing : ∀ details, error.details = some (some details) → details = "") : Says error error.text

/-- The phrase stands in the text, in whatever case. -/
def Mentions (phrase text : String) : Prop := phrase.toList <:+: text.toList.map Char.toLower

def RanOutOfGas (error : RpcError) : Prop := ∃ text, Says error text ∧ Mentions "out of gas" text

/-- The exception that an error of the node stands for, by its text. -/
inductive Conveys (m : Manager) (error : RpcError) : PyException → Prop
  | outOfGas {text : String} (told : Says error text) (gas : Mentions "out of gas" text) :
      Conveys m error (.outOfGas ("Simulation ran out of gas: " ++ text) none none)
  | sequence {text : String} (told : Says error text) (gas : ¬ Mentions "out of gas" text)
      (mismatch : Mentions "account sequence mismatch" text) :
      Conveys m error (.accountSequenceMismatch ("Sequence mismatch during simulation: " ++ text))
  | fees {text : String} (told : Says error text) (gas : ¬ Mentions "out of gas" text)
      (mismatch : ¬ Mentions "account sequence mismatch" text) (fees : Mentions "insufficient fees" text) :
      Conveys m error
        (.insufficientFees ("Insufficient fees during simulation" ++ feeGranterHint m ++ ": " ++ text))
  | other {text : String} (told : Says error text) (gas : ¬ Mentions "out of gas" text)
      (mismatch : ¬ Mentions "account sequence mismatch" text) (fees : ¬ Mentions "insufficient fees" text) :
      Conveys m error (.txError "simulation" error.codeValue text none)

section Reply

variable {m : Manager} {error : RpcError} {text : String}

theorem says_errorMsg : Says error error.errorMsg := by
  unfold RpcError.errorMsg
  match given : error.details with
  | none =>
    have missing : ∀ other, error.details = some (some other) → other = "" := by
      intro other same
      cases given.symm.trans same
    simpa using Says.own missing
  | some none =>
    have missing : ∀ other, error.details = some (some other) → other = "" := by
      intro other same
      cases given.symm.trans same
    simpa using Says.own missing
  | some (some details) =>
    by_cases empty : details = ""
    · have missing : ∀ other, error.details = some (some other) → other = "" := by
        intro other same
        cases given.symm.trans same
        exact empty
      simpa [empty] using Says.own missing
    · simpa [empty] using Says.details given empty

theorem errorMsg_of_text (told : Says error text) : error.errorMsg = text := by
  cases told with
  | details given nonempty => simp [RpcError.errorMsg, given, nonempty]
  | own missing =>
    unfold RpcError.errorMsg
    match given : error.details with
    | none => simp
    | some none => simp
    | some (some details) => simp [missing details given]

theorem containsText_lower {phrase : String} : containsText phrase text true = true ↔ Mentions phrase text := by
  simp [containsText, Mentions]

theorem exceptionFromSimulationError_conveys : Conveys m error (exceptionFromSimulationError m error) := by
  unfold exceptionFromSimulationError classifyErrorFromMessage
  by_cases gas : containsText "out of gas" error.errorMsg true = true
  · rw [if_pos gas]
    exact .outOfGas says_errorMsg (containsText_lower.mp gas)
  have noGas := fun mentions => gas (containsText_lower.mpr mentions)
  rw [if_neg gas]
  by_cases mismatch : containsText "account sequence mismatch" error.errorMsg true = true
  · rw [if_pos mismatch]
    exact .sequence says_errorMsg noGas (containsText_lower.mp mismatch)
  have noMismatch := fun mentions => mismatch (containsText_lower.mpr mentions)
  rw [if_neg mismatch]
  by_cases fees : containsText "insufficient fees" error.errorMsg true = true
  · rw [if_pos fees]
    exact .fees says_errorMsg noGas noMismatch (containsText_lower.mp fees)
  · rw [if_neg fees]
    exact .other says_errorMsg noGas noMismatch fun mentions => fees (containsText_lower.mpr mentions)

/-- Only an out-of-gas reply conveys the out-of-gas error. -/
theorem Conveys.isOutOfGas {e : PyException} (conveys : Conveys m error e) :
    e.isOutOfGas = true ↔ RanOutOfGas error := by
  have same {text text' : String} (told : Says error text) (told' : Says error text') : text' = text :=
    (errorMsg_of_text told').symm.trans (errorMsg_of_text told)
  cases conveys with
  | outOfGas told gas => exact ⟨fun _ => ⟨_, told, gas⟩, fun _ => rfl⟩
  | sequence told gas mismatch =>
    refine ⟨by simp [PyException.isOutOfGas], fun ⟨_, told', gas'⟩ => ?_⟩
    exact (gas (same told told' ▸ gas')).elim
  | fees told gas mismatch fees =>
    refine ⟨by simp [PyException.isOutOfGas], fun ⟨_, told', gas'⟩ => ?_⟩
    exact (gas (same told told' ▸ gas')).elim
  | other told gas mismatch fees =>
    refine ⟨by simp [PyException.isOutOfGas], fun ⟨_, told', gas'⟩ => ?_⟩
    exact (gas (same told told' ▸ gas')).elim

end Reply

/-! ## What settles a run -/

/-- An event after which the call goes on: a reply of the wallet's account, of the
encoder or of the seal, or an out-of-gas reply below the bound. -/
inductive GoesOn (maxGas : ℤ) : SimulationEvent → Prop
  | account {address : String} {info : AccountInfo} : GoesOn maxGas ⟨.accountInfo address, .ok (some info)⟩
  | encoded {typeUrl : String} {msgs : List String} : GoesOn maxGas ⟨.createAnyMessages typeUrl msgs, .ok ()⟩
  | sealed {tx : SimulatedTx} : GoesOn maxGas ⟨.seal tx, .ok ()⟩
  | outOfGas {tx : SimulatedTx} {error : RpcError} (gas : RanOutOfGas error) (below : tx.gasLimit < maxGas) :
      GoesOn maxGas ⟨.simulate tx, .error (.rpc error)⟩

/-- An event that settles the call, with the outcome. An error of the node does,
unless it ran out of gas below the bound. -/
inductive EndsWith (m : Manager) (maxGas : ℤ) : SimulationEvent → Except PyException ℤ → Prop
  | estimate {tx : SimulatedTx} {info : GasInfo} :
      EndsWith m maxGas ⟨.simulate tx, .ok (some ⟨some info⟩)⟩ (.ok (scaleGas info.gasUsed m.gasAdjustment))
  | noGasInfo {tx : SimulatedTx} {response : Option SimulateResponse}
      (missing : ∀ info, response ≠ some ⟨some info⟩) :
      EndsWith m maxGas ⟨.simulate tx, .ok response⟩
        (.error (.other "Simulation response is None or missing gas_info"))
  | rejected {tx : SimulatedTx} {error : RpcError} {e : PyException} (other : ¬ RanOutOfGas error)
      (conveys : Conveys m error e) : EndsWith m maxGas ⟨.simulate tx, .error (.rpc error)⟩ (.error e)
  | outOfGas {tx : SimulatedTx} {error : RpcError} {e : PyException} (gas : RanOutOfGas error)
      (atBound : tx.gasLimit = maxGas) (conveys : Conveys m error e) :
      EndsWith m maxGas ⟨.simulate tx, .error (.rpc error)⟩ (.error e)
  | unknownAccount {address : String} :
      EndsWith m maxGas ⟨.accountInfo address, .ok none⟩ (.error (.other "account_info query response is none"))
  | foreign {tx : SimulatedTx} {foreign : ForeignError} :
      EndsWith m maxGas ⟨.simulate tx, .error (.raised foreign)⟩ (.error foreign.error)
  | failed {query : SimulationQuery} {failure : SimulationFailure} (early : ∀ tx, query ≠ .simulate tx) :
      EndsWith m maxGas ⟨query, .error failure⟩ (.error failure.exception)

/-- Only the last event ends the run, and the outcome is what it says. -/
def Settles (m : Manager) (maxGas : ℤ) (trace : List SimulationEvent)
    (out : Except PyException (Option ℤ)) : Prop :=
  ∃ before last result, trace = before ++ [last] ∧ (∀ event ∈ before, GoesOn maxGas event) ∧
    EndsWith m maxGas last result ∧ out = result.map some

section Settles

variable {m : Manager} {maxGas : ℤ} {trace : List SimulationEvent}

theorem Settles.last {last : SimulationEvent} {result : Except PyException ℤ}
    {out : Except PyException (Option ℤ)} (final : EndsWith m maxGas last result)
    (same : out = result.map some) : Settles m maxGas [last] out :=
  ⟨[], last, result, rfl, by simp, final, same⟩

theorem Settles.cons {event : SimulationEvent} {out : Except PyException (Option ℤ)}
    (goesOn : GoesOn maxGas event) (settles : Settles m maxGas trace out) :
    Settles m maxGas (event :: trace) out := by
  obtain ⟨before, last, result, rfl, quiet, final, rfl⟩ := settles
  refine ⟨event :: before, last, result, rfl, ?_, final, rfl⟩
  intro other member
  rcases List.mem_cons.mp member with rfl | later
  · exact goesOn
  · exact quiet other later

theorem simulatedGas_ends {tx : SimulatedTx} (response : Option SimulateResponse) :
    EndsWith m maxGas ⟨.simulate tx, .ok response⟩ (simulatedGas m response) := by
  match response with
  | some ⟨some info⟩ => exact .estimate
  | some ⟨none⟩ => exact .noGasInfo (by simp)
  | none => exact .noGasInfo (by simp)

/-- An exception of a client library is never the out-of-gas error. -/
theorem failure_not_outOfGas (failure : SimulationFailure) : failure.exception.isOutOfGas = false := by
  cases failure with
  | rpc error => rfl
  | raised foreign => exact foreign.not_outOfGas

/-- The out-of-gas error ends a run only at the bound. -/
theorem EndsWith.outOfGas_atBound {event : SimulationEvent} {e : PyException}
    (final : EndsWith m maxGas event (.error e)) (outOfGas : e.isOutOfGas = true) :
    ∃ tx error, event = ⟨.simulate tx, .error (.rpc error)⟩ ∧ tx.gasLimit = maxGas ∧ RanOutOfGas error ∧
      Conveys m error e := by
  cases final with
  | noGasInfo missing => cases outOfGas
  | rejected other conveys => exact (other (conveys.isOutOfGas.mp outOfGas)).elim
  | outOfGas gas atBound conveys => exact ⟨_, _, rfl, atBound, gas, conveys⟩
  | unknownAccount => cases outOfGas
  | foreign =>
    rw [ForeignError.not_outOfGas] at outOfGas
    cases outOfGas
  | failed early =>
    rw [failure_not_outOfGas] at outOfGas
    cases outOfGas

end Settles

section Loop

variable {m : Manager} {tx : ℤ → SimulatedTx} {maxGas : ℤ} {s s' : Unit}
  {trace : List SimulationEvent} {out : Except PyException (Option ℤ)}

/-- Induction on the turns: each out-of-gas reply below the bound uses one of the
steps of growth that are left, and none is left at the bound. -/
theorem simulationLoop_settles (gas : ∀ limit, (tx limit).gasLimit = limit) {n fuel : ℕ} {limit : ℤ}
    (two_le : 2 ≤ limit) (below : limit ≤ maxGas) (climbs : Climbs n limit maxGas)
    (enough : n < fuel) (run : (simulationLoop m tx maxGas fuel limit).Runs s trace out s') :
    Settles m maxGas trace out ∧ Ascent n limit maxGas (simulatedLimits trace) := by
  induction fuel generalizing n limit trace with
  | zero => omega
  | succ fuel ih =>
    have single : Ascent n limit maxGas [(tx limit).gasLimit] := by
      rw [gas]
      exact .single below
    cases simulationLoop_turn (gas limit) run with
    | unsealed failure => exact ⟨.last (.failed (by simp)) rfl, .nil⟩
    | answered response => exact ⟨.cons .sealed (.last (simulatedGas_ends response) rfl), single⟩
    | foreign foreign => exact ⟨.cons .sealed (.last .foreign rfl), single⟩
    | rejected error final =>
      refine ⟨.cons .sealed ?_, single⟩
      have conveys : Conveys m error (exceptionFromSimulationError m error) := exceptionFromSimulationError_conveys
      by_cases outOfGas : RanOutOfGas error
      · have reached := final (conveys.isOutOfGas.mpr outOfGas)
        rw [gas] at reached
        exact .last (.outOfGas outOfGas ((gas limit).trans (le_antisymm below reached)) conveys) rfl
      · exact .last (.rejected outOfGas conveys) rfl
    | again error outOfGas under later =>
      rw [gas] at under
      cases n with
      | zero => exact absurd climbs.zero (by omega)
      | succ n =>
        have grows := lt_nextGasLimit two_le under
        obtain ⟨settles, ascent⟩ := ih (by omega) nextGasLimit_le (climbs.next two_le under)
          (by omega) later
        have ran := exceptionFromSimulationError_conveys.isOutOfGas.mp outOfGas
        have goesOn : GoesOn maxGas ⟨.simulate (tx limit), .error (.rpc error)⟩ :=
          .outOfGas ran (by rw [gas]; exact under)
        refine ⟨.cons .sealed (.cons goesOn settles), ?_⟩
        change Ascent (n + 1) limit maxGas ((tx limit).gasLimit :: simulatedLimits _)
        rw [gas]
        exact ascent.cons grows below

end Loop

section Call

variable {m : Manager} {wallet : Bool} {typeUrl : String} {msgs : List String}
  {trace : List SimulationEvent} {out : Except PyException (Option ℤ)}

/-- A call without a wallet asks nothing. -/
def NoWallet (wallet : Bool) (trace : List SimulationEvent) (out : Except PyException (Option ℤ)) : Prop :=
  wallet = false ∧ trace = [] ∧
    out = .error (.other "No wallet configured. Initialize client with private key or mnemonic.")

theorem simulateTransaction_settles {fuel : ℕ} (enough : 7 ≤ fuel)
    (run : (simulateTransaction m wallet fuel typeUrl msgs).Runs () trace out ()) :
    (NoWallet wallet trace out ∨ Settles m (maxSimulationGas m typeUrl) trace out) ∧
      Ascent 6 (initialGasLimit m typeUrl) (maxSimulationGas m typeUrl) (simulatedLimits trace) := by
  obtain ⟨missing, run⟩ | ⟨-, run⟩ := Routine.runs_ite.mp run
  · obtain ⟨rfl, rfl, -⟩ := Routine.runs_throw.mp run
    exact ⟨.inl ⟨missing, rfl, rfl⟩, .nil⟩
  obtain ⟨failure, rfl, rfl, -⟩ | ⟨info, rest, rfl, known⟩ := simulationAsk_bind_runs.mp run
  · exact ⟨.inr (.last (.failed (by simp)) rfl), .nil⟩
  cases info with
  | none =>
    obtain ⟨rfl, rfl, -⟩ := Routine.runs_throw.mp known
    exact ⟨.inr (.last .unknownAccount rfl), .nil⟩
  | some info =>
    obtain ⟨failure, rfl, rfl, -⟩ | ⟨⟨⟩, later, rfl, loop⟩ := simulationAsk_bind_runs.mp known
    · exact ⟨.inr (.cons .account (.last (.failed (by simp)) rfl)), .nil⟩
    have floor : 200000 ≤ initialGasLimit m typeUrl := le_max_right _ _
    have bound : initialGasLimit m typeUrl ≤ maxSimulationGas m typeUrl :=
      le_max_of_le_left (by omega)
    obtain ⟨settles, ascent⟩ := simulationLoop_settles (fun _ => rfl) (by omega) bound
      (initialGasLimit_climbs m typeUrl) (by omega) loop
    exact ⟨.inr (.cons .account (.cons .encoded settles)), ascent⟩

/-- Every run of `simulate_transaction` makes at most seven simulate calls, at
strictly increasing limits up to the bound, and ends. Before its last event there
are only replies that settle nothing, of the simulate calls out-of-gas replies
below the bound; the last one settles it, with the exception that its text stands
for. `OutOfGasError` is raised only for an out-of-gas reply at the bound, and what
is returned is the adjusted gas of the last reply. -/
theorem simulate_ends_at_verdict_or_bound {fuel : ℕ} (enough : 7 ≤ fuel)
    (run : (simulateTransaction m wallet fuel typeUrl msgs).Runs () trace out ()) :
    (simulatedLimits trace).length ≤ 7 ∧ (simulatedLimits trace).Pairwise (· < ·) ∧
      (∀ limit ∈ simulatedLimits trace, limit ≤ maxSimulationGas m typeUrl) ∧
      (NoWallet wallet trace out ∨ Settles m (maxSimulationGas m typeUrl) trace out) ∧
      (∀ e, out = .error e → e.isOutOfGas = true →
        ∃ before tx error, trace = before ++ [⟨.simulate tx, .error (.rpc error)⟩] ∧
          tx.gasLimit = maxSimulationGas m typeUrl ∧ RanOutOfGas error ∧ Conveys m error e) ∧
      ∀ gas, out = .ok gas → ∃ before tx info,
        trace = before ++ [⟨.simulate tx, .ok (some ⟨some info⟩)⟩] ∧
          gas = some (scaleGas info.gasUsed m.gasAdjustment) := by
  obtain ⟨settles, ascent⟩ := simulateTransaction_settles enough run
  refine ⟨ascent.few, ascent.increasing, fun l member => (ascent.bounded l member).2, settles, ?_, ?_⟩
  · rintro e rfl outOfGas
    obtain ⟨-, -, same⟩ | ⟨before, last, result, rfl, -, final, same⟩ := settles
    · cases same
      cases outOfGas
    · cases result <;> cases same
      obtain ⟨tx, error, rfl, atBound, gas, conveys⟩ := final.outOfGas_atBound outOfGas
      exact ⟨before, tx, error, rfl, atBound, gas, conveys⟩
  · rintro gas rfl
    obtain ⟨-, -, same⟩ | ⟨before, last, result, rfl, -, final, same⟩ := settles
    · cases same
    · cases result <;> cases same
      cases final
      exact ⟨before, _, _, rfl, rfl⟩

end Call

/-- A node that knows the account and answers every simulation with one error. -/
def failingNode (details : String) (world : Unit) (query : SimulationQuery) : SimulationReply query × Unit :=
  match query with
  | .accountInfo _ => (.ok (some { sequence := 7, accountNumber := 1 }), world)
  | .createAnyMessages _ _ => (.ok (), world)
  | .seal _ => (.ok (), world)
  | .simulate _ =>
    (.error (.rpc { details := some (some details), text := "<AioRpcError>", code := some (.tuple [11, 0]) }), world)

/-- The simulation of one message against such a node. -/
def failingRun (details : String) :
    Coroutine.Played Unit SimulationQuery SimulationReply Unit (Except PyException (Option ℤ)) :=
  (simulateTransaction testnet true 7 "/cosmos.staking.v1beta1.MsgDelegate" []).run.play (failingNode details) () ()

theorem failingRun_runs (details : String) :
    (simulateTransaction testnet true 7 "/cosmos.staking.v1beta1.MsgDelegate" []).Runs ()
      (failingRun details).trace (failingRun details).value () :=
  Coroutine.play_runs (failingNode details) _ () ()

/-- Out of gas seven times, up to the bound; a refusal for fees ends the run at once. -/
theorem outOfGasRun_climbs_to_bound :
    simulatedLimits (failingRun "out of gas in location: ReadFlat").trace =
      [200000, 300000, 450000, 675000, 1012500, 1518750, 2000000] ∧
    (∃ before tx error, (failingRun "out of gas in location: ReadFlat").trace =
      before ++ [⟨.simulate tx, .error (.rpc error)⟩] ∧ tx.gasLimit = 2000000 ∧ RanOutOfGas error) ∧
    simulatedLimits (failingRun "Insufficient fees").trace = [200000] ∧
    Settles testnet 2000000 (failingRun "Insufficient fees").trace
      (.error (.insufficientFees "Insufficient fees during simulation: Insufficient fees")) := by
  have limits : simulatedLimits (failingRun "out of gas in location: ReadFlat").trace =
      [200000, 300000, 450000, 675000, 1012500, 1518750, 2000000] := by decide +kernel
  have raised : (failingRun "out of gas in location: ReadFlat").value =
      .error (.outOfGas "Simulation ran out of gas: out of gas in location: ReadFlat" none none) := by
    decide +kernel
  have bound : maxSimulationGas testnet "/cosmos.staking.v1beta1.MsgDelegate" = 2000000 := by decide +kernel
  have refused : (failingRun "Insufficient fees").value =
      .error (.insufficientFees "Insufficient fees during simulation: Insufficient fees") := by decide +kernel
  obtain ⟨-, -, -, -, outOfGas, -⟩ := simulate_ends_at_verdict_or_bound (le_refl 7)
    (failingRun_runs "out of gas in location: ReadFlat")
  obtain ⟨before, tx, error, same, atBound, gas, -⟩ := outOfGas _ raised rfl
  obtain ⟨-, -, -, settles, -⟩ := simulate_ends_at_verdict_or_bound (le_refl 7)
    (failingRun_runs "Insufficient fees")
  rw [refused, bound] at settles
  refine ⟨limits, ⟨before, tx, error, same, atBound.trans bound, gas⟩, by decide +kernel, ?_⟩
  obtain ⟨missing, -⟩ | settles := settles
  · cases missing
  · exact settles

end AlloraSdk.Guarantees
