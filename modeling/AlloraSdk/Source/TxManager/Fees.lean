import Mathlib.Tactic.Linarith
import AlloraSdk.Source.TxManager.Messages

/-!
# Gas estimate, gas price, fee and pre-flight checks

Source: tx_manager.py, `_estimate_gas`, `_get_current_gas_price`,
`_check_network_congestion`, `_calculate_optimal_fee` and `_pre_flight_checks`.

None of them touches the PendingTx or the locals of the retry loop, broadcasts,
or looks a transaction up (`Quietly`); the only exceptions they let out are
`MaxFeesExceededError` and `InsufficientBalanceError`.
-/

namespace AlloraSdk.Source.TxManager
open AlloraSdk.Logic

/-- `_default_gas_limits`. -/
def defaultGasLimits : List (String × ℕ) :=
  [("/emissions.v10.InsertWorkerPayloadRequest", 250000),
   ("/emissions.v10.CreateNewTopicRequest", 300000),
   ("/emissions.v10.FundTopicRequest", 150000),
   ("/emissions.v10.BulkAddToTopicWorkerWhitelistRequest", 200000),
   ("/emissions.v10.BulkAddToTopicReputerWhitelistRequest", 200000),
   ("/cosmos.bank.v1beta1.MsgSend", 250000),
   ("/cosmos.staking.v1beta1.MsgDelegate", 100000),
   ("/cosmos.staking.v1beta1.MsgUndelegate", 100000)]

/-- `_fee_multipliers`. -/
def feeMultipliers : FeeTier → ℚ
  | .eco => 1
  | .standard => 3 / 2
  | .priority => 5 / 2

def estimateGas (m : Manager) (typeUrl : String) : ℤ :=
  match m.baseGas with
  | some baseGas => scaleGas baseGas m.gasAdjustment
  | none => scaleGas ((defaultGasLimits.lookup typeUrl).getD 200000 : ℕ) m.gasAdjustment

/-- The feemarket query of `_get_current_gas_price`; every exception falls back
to the static price, and a price without an amount does too. -/
def fetchGasPrice (m : Manager) : Act ℚ :=
  if m.config.useDynamicGasPrice && m.hasFeemarket then
    tryCatch (do
      let price ← ask (.gasPrice m.config.feeDenom)
      match price with
      | none => pure m.config.feeMinimumGasPrice
      | some none => throw (.other "InvalidOperation")
      | some (some amount) => do
        -- DecCoin.amount is a Dec: 18 decimal places
        let adjustedPrice := amount / 10 ^ 18 * m.config.dynamicGasPriceDefaultMultiplier
        Routine.update fun s =>
          { s with cachedGasPrice := some adjustedPrice, gasPriceCacheTime := some s.clock }
        pure adjustedPrice)
      fun _ => pure m.config.feeMinimumGasPrice
  else pure m.config.feeMinimumGasPrice

def getCurrentGasPrice (m : Manager) : Act ℚ := do
  let s ← Routine.state
  match s.cachedGasPrice, s.gasPriceCacheTime with
  | some price, some cachedAt =>
    if s.clock - cachedAt < m.config.gasPriceCacheTtl then pure price else fetchGasPrice m
  | _, _ => fetchGasPrice m

def checkNetworkCongestion (m : Manager) : Act (Option ℚ) :=
  if !m.config.congestionAwareFees || !m.hasFeemarket then pure none
  else
    tryCatch (do
      let state ← ask .feemarketState
      match state with
      | none => pure none
      | some window =>
        if window = [] then pure none
        else do
          let params ← ask .feemarketParams
          match params with
          | none => pure none
          | some maxUtilization =>
            if maxUtilization = 0 then pure none
            else
              let avgUtilization : ℚ := window.sum / window.length
              let utilizationRatio := avgUtilization / maxUtilization
              if 9 / 10 < utilizationRatio then pure (some 2)
              else if 8 / 10 < utilizationRatio then pure (some (3 / 2))
              else pure (some 1))
      fun _ => pure none

/-- The multiplier that `_calculate_optimal_fee` applies for a congestion check. -/
def congestionFactor : Option ℚ → ℚ
  | some congestion => if 1 < congestion then congestion else 1
  | none => 1

def calculateOptimalFee (m : Manager) (gasLimit : ℤ) (feeMultiplier : ℚ) : Act Coin := do
  let basePrice ← getCurrentGasPrice m
  let congestion ← checkNetworkCongestion m
  let feeAmount := truncate (gasLimit * (basePrice * feeMultiplier * congestionFactor congestion))
  match m.maxFees with
  | none => pure ⟨feeAmount, m.config.feeDenom⟩
  | some maxFees =>
    if (maxFees : ℤ) < feeAmount then
      throw (.maxFeesExceeded
        ("Computed fee " ++ toString feeAmount ++ m.config.feeDenom ++ " exceeds max_fees cap " ++
          toString maxFees ++ m.config.feeDenom ++ " (gas_limit=" ++ toString gasLimit ++ ")"))
    else pure ⟨feeAmount, m.config.feeDenom⟩

/-- The worst-case fee that the balance is checked against. -/
def preFlightFee (m : Manager) : ℤ :=
  truncate (300000 * m.config.feeMinimumGasPrice * feeMultipliers .priority)

/-- With a fee granter no balance is a gate; both are only read for the log. -/
def preFlightChecks (m : Manager) : Act Unit :=
  tryCatch (do
    ask (.account m.walletAddress)
    match m.feeGranter with
    | some granter => do
      let _ ← ask (.balance granter m.config.feeDenom)
      let _ ← ask (.balance m.walletAddress m.config.feeDenom)
      pure ()
    | none => do
      let balance ← ask (.balance m.walletAddress m.config.feeDenom)
      match balance with
      | none => pure ()
      | some amount =>
        if (amount : ℤ) < preFlightFee m then
          throw (.insufficientBalance
            ("Insufficient balance: need at least " ++ toString (preFlightFee m) ++ " " ++
              m.config.feeDenom ++ ", have " ++ m.showCoin ⟨amount, m.config.feeDenom⟩ ++
              ". Please fund your wallet."))
        else pure ())
    fun e => match e with
      | .insufficientBalance message => throw (.insufficientBalance message)
      | _ => pure ()

/-! ## What they leave alone -/

/-- Only the clock and the price cache may have moved. -/
def Frame (s s' : Submission) : Prop :=
  s.clock ≤ s'.clock ∧ s' = { s with
    clock := s'.clock
    cachedGasPrice := s'.cachedGasPrice
    gasPriceCacheTime := s'.gasPriceCacheTime }

theorem Frame.refl (s : Submission) : Frame s s := ⟨Nat.le_refl _, rfl⟩

theorem Frame.trans {s t u : Submission} (first : Frame s t) (second : Frame t u) : Frame s u := by
  refine ⟨Nat.le_trans first.1 second.1, ?_⟩
  rw [second.2, first.2]

theorem Frame.advance (s : Submission) (elapsed : ℕ) : Frame s (s.advance elapsed) :=
  ⟨Nat.le_add_right _ _, rfl⟩

theorem Frame.pending {s s' : Submission} (frame : Frame s s') : s'.pending = s.pending := by
  rw [frame.2]

theorem Frame.currentGasLimit {s s' : Submission} (frame : Frame s s') :
    s'.currentGasLimit = s.currentGasLimit := by
  rw [frame.2]

theorem Frame.nextAccountSeq {s s' : Submission} (frame : Frame s s') :
    s'.nextAccountSeq = s.nextAccountSeq := by
  rw [frame.2]

theorem Frame.feeMultiplier {s s' : Submission} (frame : Frame s s') :
    s'.feeMultiplier = s.feeMultiplier := by
  rw [frame.2]

/-- Requests that neither broadcast, look a transaction up, sleep nor mark. -/
def Request.isQuiet : Request → Bool
  | .query (.broadcastTx _) | .query (.getTx _ _) => false
  | .query _ => true
  | _ => false

def QuietTrace (trace : List Ev) : Prop := ∀ e ∈ trace, e.request.isQuiet = true

theorem QuietTrace.append {first rest : List Ev} (h₁ : QuietTrace first) (h₂ : QuietTrace rest) :
    QuietTrace (first ++ rest) := by
  intro e member
  rcases List.mem_append.mp member with h | h
  · exact h₁ e h
  · exact h₂ e h

/-- `m` asks quiet requests only and keeps the frame, whether it returns or raises. -/
def Quietly {α : Type} (m : Act α) : Prop :=
  ∀ ⦃s : Submission⦄ ⦃trace : List Ev⦄ ⦃out : Except PyException α⦄ ⦃s' : Submission⦄,
    m.Runs s trace out s' → QuietTrace trace ∧ Frame s s'

section Quietly

variable {α β : Type}

theorem Quietly.pure (value : α) : Quietly (pure value : Act α) := by
  intro s trace out s' run
  obtain ⟨rfl, rfl, rfl⟩ := Routine.runs_pure.mp run
  exact ⟨by simp [QuietTrace], Frame.refl _⟩

theorem Quietly.throw (e : PyException) : Quietly (throw e : Act α) := by
  intro s trace out s' run
  obtain ⟨rfl, rfl, rfl⟩ := Routine.runs_throw.mp run
  exact ⟨by simp [QuietTrace], Frame.refl _⟩

theorem Quietly.state : Quietly (Routine.state : Act Submission) := by
  intro s trace out s' run
  obtain ⟨rfl, rfl, rfl⟩ := Routine.runs_state.mp run
  exact ⟨by simp [QuietTrace], Frame.refl _⟩

theorem Quietly.update {f : Submission → Submission} (frame : ∀ s, Frame s (f s)) :
    Quietly (Routine.update f : Act Unit) := by
  intro s trace out s' run
  obtain ⟨rfl, rfl, rfl⟩ := Routine.runs_update.mp run
  exact ⟨by simp [QuietTrace], frame s⟩

theorem Quietly.ask {query : Query} (quiet : (Request.query query).isQuiet = true) :
    Quietly (ask query) := by
  intro s trace out s' run
  obtain ⟨took, rfl, rfl⟩ := ask_runs.mp run
  exact ⟨by simp [QuietTrace, quiet], Frame.advance _ _⟩

theorem Quietly.bind {m : Act α} {f : α → Act β} (first : Quietly m)
    (rest : ∀ value, Quietly (f value)) : Quietly (m >>= f) := by
  intro s trace out s' run
  obtain ⟨e, h, rfl⟩ | ⟨a, t, left, right, h₁, h₂, rfl⟩ := Routine.runs_bind.mp run
  · exact first h
  · exact ⟨(first h₁).1.append (rest a h₂).1, (first h₁).2.trans (rest a h₂).2⟩

theorem Quietly.tryCatch {m : Act α} {handler : PyException → Act α} (body : Quietly m)
    (caught : ∀ e, Quietly (handler e)) : Quietly (tryCatch m handler) := by
  intro s trace out s' run
  obtain ⟨a, h, rfl⟩ | ⟨e, t, left, right, h₁, h₂, rfl⟩ := Routine.runs_tryCatch.mp run
  · exact body h
  · exact ⟨(body h₁).1.append (caught e h₂).1, (body h₁).2.trans (caught e h₂).2⟩

theorem fetchGasPrice_quiet (m : Manager) : Quietly (fetchGasPrice m) := by
  unfold fetchGasPrice
  split
  · refine .tryCatch (.bind (.ask rfl) fun price => ?_) fun _ => .pure _
    split
    · exact .pure _
    · exact .throw _
    · exact .bind (.update fun s => ⟨Nat.le_refl _, rfl⟩) fun _ => .pure _
  · exact .pure _

theorem getCurrentGasPrice_quiet (m : Manager) : Quietly (getCurrentGasPrice m) := by
  refine .bind .state fun s => ?_
  split
  · split
    · exact .pure _
    · exact fetchGasPrice_quiet m
  · exact fetchGasPrice_quiet m

theorem checkNetworkCongestion_quiet (m : Manager) : Quietly (checkNetworkCongestion m) := by
  unfold checkNetworkCongestion
  split
  · exact .pure _
  · refine .tryCatch (.bind (.ask rfl) fun state => ?_) fun _ => .pure _
    split
    · exact .pure _
    · split
      · exact .pure _
      · refine .bind (.ask rfl) fun params => ?_
        split
        · exact .pure _
        · split
          · exact .pure _
          · dsimp only
            split
            · exact .pure _
            · split <;> exact .pure _

theorem calculateOptimalFee_quiet (m : Manager) (gasLimit : ℤ) (feeMultiplier : ℚ) :
    Quietly (calculateOptimalFee m gasLimit feeMultiplier) := by
  refine .bind (getCurrentGasPrice_quiet m) fun price => .bind (checkNetworkCongestion_quiet m) fun c => ?_
  dsimp only
  split
  · exact .pure _
  · split
    · exact .throw _
    · exact .pure _

theorem preFlightChecks_quiet (m : Manager) : Quietly (preFlightChecks m) := by
  refine .tryCatch (.bind (.ask rfl) fun _ => ?_) fun e => ?_
  · split
    · exact .bind (.ask rfl) fun _ => .bind (.ask rfl) fun _ => .pure _
    · refine .bind (.ask rfl) fun balance => ?_
      split
      · exact .pure _
      · split
        · exact .throw _
        · exact .pure _
  · split
    · exact .throw _
    · exact .pure _

end Quietly

/-! ## What they raise -/

theorem fetchGasPrice_neverRaises (m : Manager) : Routine.NeverRaises (fetchGasPrice m) := by
  unfold fetchGasPrice
  split
  · exact .tryCatch fun _ => .pure _
  · exact .pure _

theorem getCurrentGasPrice_neverRaises (m : Manager) : Routine.NeverRaises (getCurrentGasPrice m) := by
  refine .bind .state fun s => ?_
  split
  · split
    · exact .pure _
    · exact fetchGasPrice_neverRaises m
  · exact fetchGasPrice_neverRaises m

theorem checkNetworkCongestion_neverRaises (m : Manager) :
    Routine.NeverRaises (checkNetworkCongestion m) := by
  unfold checkNetworkCongestion
  split
  · exact .pure _
  · exact .tryCatch fun _ => .pure _

/-- The fee is within the cap when there is one, or the cap is the exception. -/
theorem calculateOptimalFee_outcome {m : Manager} {gasLimit : ℤ} {feeMultiplier : ℚ}
    {s s' : Submission} {trace : List Ev} {out : Except PyException Coin}
    (run : (calculateOptimalFee m gasLimit feeMultiplier).Runs s trace out s') :
    (∃ fee, out = .ok fee ∧ ∀ cap, m.maxFees = some cap → fee.amount ≤ cap) ∨
      ∃ message cap, m.maxFees = some cap ∧ out = .error (.maxFeesExceeded message) := by
  obtain ⟨_, h, -⟩ | ⟨price, t, _, _, -, h, -⟩ := Routine.runs_bind.mp run
  · exact (getCurrentGasPrice_neverRaises m h).elim
  obtain ⟨_, h, -⟩ | ⟨congestion, t', _, _, -, h, -⟩ := Routine.runs_bind.mp h
  · exact (checkNetworkCongestion_neverRaises m h).elim
  revert h
  dsimp only
  split
  · rename_i uncapped
    intro h
    obtain ⟨-, rfl, -⟩ := Routine.runs_pure.mp h
    exact .inl ⟨_, rfl, fun cap capped => by simp [uncapped] at capped⟩
  · rename_i maxFees capped
    split
    · intro h
      obtain ⟨-, rfl, -⟩ := Routine.runs_throw.mp h
      exact .inr ⟨_, maxFees, capped, rfl⟩
    · rename_i within
      intro h
      obtain ⟨-, rfl, -⟩ := Routine.runs_pure.mp h
      refine .inl ⟨_, rfl, fun cap same => ?_⟩
      obtain rfl : maxFees = cap := by simpa [capped] using same
      exact not_lt.mp within

/-- Why a pre-flight check fails: a reported balance is below the worst-case fee,
or a query raised the exception itself. -/
def LowBalance (m : Manager) (trace : List Ev) (message : String) : Prop :=
  (m.feeGranter = none ∧ ∃ took amount,
    (⟨.query (.balance m.walletAddress m.config.feeDenom), (took, .ok (some amount))⟩ : Ev) ∈ trace ∧
      (amount : ℤ) < preFlightFee m) ∨
    RaisedIn trace (.insufficientBalance message)

theorem ask_raised {query : Query} {s s' : Submission} {trace : List Ev} {e : PyException}
    (run : (ask query).Runs s trace (.error e) s') : RaisedIn trace e := by
  obtain ⟨took, rfl, rfl⟩ := ask_runs.mp run
  exact ⟨query, took, .head _⟩

/-- A pre-flight check passes or reports the balance; a failed query passes. -/
theorem preFlightChecks_outcome {m : Manager} {s s' : Submission} {trace : List Ev}
    {out : Except PyException Unit} (run : (preFlightChecks m).Runs s trace out s') :
    out = .ok () ∨ ∃ message, out = .error (.insufficientBalance message) ∧ LowBalance m trace message := by
  obtain ⟨_, -, rfl⟩ | ⟨e, t, body, _, h₁, h, rfl⟩ := Routine.runs_tryCatch.mp run
  · exact .inl rfl
  cases e
  case insufficientBalance message =>
    obtain ⟨rfl, rfl, rfl⟩ := Routine.runs_throw.mp h
    rw [List.append_nil]
    refine .inr ⟨message, rfl, ?_⟩
    obtain ⟨_, h₂, same⟩ | ⟨_, t₁, account, rest, -, h₂, rfl⟩ := Routine.runs_bind.mp h₁
    · cases same
      exact .inr (ask_raised h₂)
    split at h₂
    · obtain ⟨_, h₃, same⟩ | ⟨_, t₂, granted, rest, -, h₃, rfl⟩ := Routine.runs_bind.mp h₂
      · cases same
        exact .inr ((ask_raised h₃).mono fun _ member => by simp [member])
      obtain ⟨_, h₄, same⟩ | ⟨_, t₃, own, rest, -, h₄, rfl⟩ := Routine.runs_bind.mp h₃
      · cases same
        exact .inr ((ask_raised h₄).mono fun _ member => by simp [member])
      · cases (Routine.runs_pure.mp h₄).2.1
    · rename_i unfunded
      obtain ⟨_, h₃, same⟩ | ⟨balance, t₂, read, rest, asked, h₃, rfl⟩ := Routine.runs_bind.mp h₂
      · cases same
        exact .inr ((ask_raised h₃).mono fun _ member => by simp [member])
      obtain ⟨took, rfl, rfl⟩ := ask_runs.mp asked
      cases balance with
      | none => cases (Routine.runs_pure.mp h₃).2.1
      | some amount =>
        simp only at h₃
        split at h₃
        · rename_i low
          exact .inl ⟨unfunded, took, amount, by simp, low⟩
        · cases (Routine.runs_pure.mp h₃).2.1
  all_goals
    obtain ⟨-, rfl, -⟩ := Routine.runs_pure.mp h
    exact .inl rfl

end AlloraSdk.Source.TxManager
