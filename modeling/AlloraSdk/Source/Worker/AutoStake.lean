import AlloraSdk.Source.TxManager.Messages
import AlloraSdk.Source.Utils.PyNumbers

/-!
# Auto-staking of rewards

Source: worker/autostake.py, and `handle_rewards_settled` and `initialize` of
worker/inferer.py and worker/forecaster.py.

`process_autostake_rewards_settled` decides synchronously whether an event is
due (`dueDelegation`); then it awaits the wallet's balance and the delegation.
-/

namespace AlloraSdk.Source.Worker
open AlloraSdk.Logic AlloraSdk.Source.TxManager AlloraSdk.Source.Utils

inductive AutoStakeTargetType where
  | reputer | validator
  deriving DecidableEq, Repr

inductive AutoStakeRole where
  | inferer | forecaster
  deriving DecidableEq, Repr

structure AutoStakeConfig where
  targetType : AutoStakeTargetType
  targetAddress : String
  feeTier : Option FeeTier
  feeReserveUallo : ℤ
  deriving DecidableEq, Repr

/-- `actorType` is the `name` of the enum, or the text itself. -/
structure EventRewardsSettled where
  actorType : String
  topicId : ℤ
  blockHeight : ℤ
  blockHeightTx : Option ℤ
  addresses : List String
  rewards : List String
  deriving DecidableEq, Repr

structure AutoStakeKey where
  role : AutoStakeRole
  topicId : ℤ
  targetType : AutoStakeTargetType
  targetAddress : String
  blockHeightTx : ℤ
  blockHeight : ℤ
  rewardUallo : ℤ
  deriving DecidableEq, Repr

/-- What the use case remembers; the 2-tuple is the older form. -/
inductive RememberedKey where
  | legacy (blockHeight rewardUallo : ℤ)
  | key (key : AutoStakeKey)
  deriving DecidableEq, Repr

/-- The fields of the use case that its handler reads. -/
structure AutoStaker where
  role : AutoStakeRole
  topicId : ℤ
  walletAddr : String
  autostake : Option AutoStakeConfig
  feeTier : FeeTier
  feeDenom : String
  /-- `client.staking.query` is not available over REST. -/
  hasStakingQuery : Bool

/-- A delegation transaction, and the key of the event it is for. -/
structure Delegation where
  key : AutoStakeKey
  sender : String
  amount : ℤ
  feeTier : FeeTier
  deriving DecidableEq, Repr

def expectedActorTypes : AutoStakeRole → List String
  | .inferer => ["ACTOR_TYPE_INFERER_UNSPECIFIED"]
  | .forecaster => ["ACTOR_TYPE_FORECASTER"]

def removePrefix (start text : List Char) : List Char :=
  if start.isPrefixOf text then text.drop start.length else text

def normalizeActorType (actorType : String) : String :=
  let bare := stripChars (· = '"') (stripChars isPySpace actorType.toList)
  let name := removePrefix "ActorType.".toList bare
  if name ≠ [] ∧ ¬ "ACTOR_TYPE_".toList.isPrefixOf name then
    "ACTOR_TYPE_" ++ String.ofList name
  else String.ofList name

/-- `int(raw)`, else the truncated `Decimal`. -/
def readReward (raw : String) : Option ℤ :=
  match pyInt raw.toList with
  | some reward => some reward
  | none => (parseDecimal raw.toList).map Decimal.truncate

def extractRewardAmountUallo (event : EventRewardsSettled) (walletAddr : String) : Option ℤ :=
  if walletAddr ∈ event.addresses then
    match event.rewards[event.addresses.idxOf walletAddr]? with
    | some raw => readReward raw
    | none => none
  else none

def computeStakeAmountUallo (rewardUallo feeReserveUallo : ℤ) : ℤ :=
  max 0 (rewardUallo - max 0 feeReserveUallo)

def makeAutostakeKey (role : AutoStakeRole) (topicId : ℤ) (targetType : AutoStakeTargetType)
    (targetAddress : String) (blockHeight : ℤ) (blockHeightTx : Option ℤ) (rewardUallo : ℤ) :
    AutoStakeKey where
  role := role
  topicId := topicId
  targetType := targetType
  targetAddress := targetAddress
  blockHeightTx := blockHeightTx.getD 0
  blockHeight := blockHeight
  rewardUallo := rewardUallo

def keysMatch : Option RememberedKey → AutoStakeKey → Bool
  | none, _ => false
  | some (.legacy blockHeight rewardUallo), new =>
    blockHeight = new.blockHeight ∧ rewardUallo = new.rewardUallo
  | some (.key last), new => last = new

namespace AutoStaker

variable (staker : AutoStaker)

/-- The key of an event that is this wallet's reward in this topic. -/
def keyOf (event : EventRewardsSettled) : Option AutoStakeKey :=
  match staker.autostake with
  | none => none
  | some autostake =>
    if normalizeActorType event.actorType ∉ expectedActorTypes staker.role then none
    else if event.topicId ≠ staker.topicId then none
    else match extractRewardAmountUallo event staker.walletAddr with
      | none => none
      | some rewardUallo =>
        if rewardUallo ≤ 0 then none
        else some (makeAutostakeKey staker.role staker.topicId autostake.targetType
          autostake.targetAddress event.blockHeight event.blockHeightTx rewardUallo)

/-- The delegation that an event is due, as far as it can be told without
awaiting anything. -/
def dueDelegation (lastAutostakeKey : Option RememberedKey) (event : EventRewardsSettled) :
    Option Delegation :=
  match staker.autostake, staker.keyOf event with
  | some autostake, some key =>
    if keysMatch lastAutostakeKey key then none
    else
      let amount := computeStakeAmountUallo key.rewardUallo autostake.feeReserveUallo
      if amount ≤ 0 then none
      else some ⟨key, staker.walletAddr, amount, autostake.feeTier.getD staker.feeTier⟩
  | _, _ => none

end AutoStaker

/-- `before` is the delegation that the balance is queried for. -/
inductive AutoStakeRequest where
  | balance (address denom : String) (before : Delegation)
  | delegate (delegation : Delegation)
  deriving DecidableEq, Repr

/-- The balance is the amount's text, when there is one. -/
abbrev AutoStakeReply : AutoStakeRequest → Type
  | .balance _ _ _ => Except PyException (Option String)
  | .delegate _ => Except PyException TxResponse

abbrev Stake := Coroutine (Option RememberedKey) AutoStakeRequest AutoStakeReply

/-- A balance that cannot be read does not stop the delegation. -/
def insufficient (amount : ℤ) : Except PyException (Option String) → Bool
  | .ok none => 0 < amount
  | .ok (some text) => (pyInt text.toList).any fun available => available < amount
  | .error _ => false

/-- From the balance query on. -/
def delegateReward (staker : AutoStaker) (delegation : Delegation) : Stake (Option AutoStakeKey) := do
  let balance ← .await (.balance staker.walletAddr staker.feeDenom delegation) .ret
  if insufficient delegation.amount balance then pure none
  else do
    -- the transaction's outcome is only logged
    let _ ← .await (.delegate delegation) .ret
    pure (some delegation.key)

def processAutostakeRewardsSettled (staker : AutoStaker) (event : EventRewardsSettled)
    (lastAutostakeKey : Option RememberedKey) : Stake (Option AutoStakeKey) :=
  match staker.dueDelegation lastAutostakeKey event with
  | none => pure none
  | some delegation => delegateReward staker delegation

def handleRewardsSettled (staker : AutoStaker) (event : EventRewardsSettled) : Stake Unit :=
  .read fun lastAutostakeKey => do
    let newKey ← processAutostakeRewardsSettled staker event lastAutostakeKey
    match newKey with
    | some key => .write (some (.key key)) (.ret ())
    | none => pure ()

/-! ## Initialization -/

inductive InitializeRequest where
  | isReputerRegistered (topicId : ℤ) (address : String)
  | validator (address : String)
  | isWorkerRegistered (topicId : ℤ) (address : String)
  /-- `register` and `tx.wait()`. -/
  | register (topicId : ℤ) (address : String)
  deriving DecidableEq, Repr

/-- A validator query says whether there is one. -/
abbrev InitializeReply : InitializeRequest → Type
  | .isReputerRegistered _ _ => Except PyException Bool
  | .validator _ => Except PyException Bool
  | .isWorkerRegistered _ _ => Except PyException Bool
  | .register _ _ => Except PyException TxResponse

abbrev Initialize := Routine PyException Unit InitializeRequest InitializeReply

def validateAutostakeConfig (staker : AutoStaker) : Initialize Unit :=
  match staker.autostake with
  | none => pure ()
  | some ⟨.reputer, address, _, _⟩ => do
    let answer ← Routine.await (InitializeRequest.isReputerRegistered staker.topicId address)
    let registered ← Routine.ofExcept answer
    if registered then pure ()
    else throw (.other ("Autostake reputer '" ++ address ++ "' is not registered in topic " ++
      toString staker.topicId ++
      ". Please ensure the reputer address is correct and registered before starting the worker."))
  | some ⟨.validator, address, _, _⟩ =>
    if staker.hasStakingQuery then do
      let answer ← Routine.await (InitializeRequest.validator address)
      match answer with
      | .ok true => pure ()
      | .ok false => throw (.other ("Autostake validator '" ++ address ++
          "' not found on-chain. Please verify the validator operator address (allovaloper1...) is correct."))
      | .error err => throw (.other ("Failed to verify autostake validator '" ++ address ++ "': " ++ err.str))
    else pure ()

/-- True when it registered. -/
def initializeUseCase (staker : AutoStaker) : Initialize Bool := do
  validateAutostakeConfig staker
  let answer ← Routine.await (InitializeRequest.isWorkerRegistered staker.topicId staker.walletAddr)
  let registered ← Routine.ofExcept answer
  if registered then pure false
  else do
    let outcome ← Routine.await (InitializeRequest.register staker.topicId staker.walletAddr)
    let _ ← Routine.ofExcept outcome
    pure true

end AlloraSdk.Source.Worker
