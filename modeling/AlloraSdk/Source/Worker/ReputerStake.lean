import AlloraSdk.Source.TxManager.Messages
import AlloraSdk.Source.Utils.PyNumbers

/-!
# The reputer's registration and its stake

Source: worker/reputer.py, `initialize` and `_maybe_stake`.

A transaction and the wait for it are one request. The amount of `add_stake` is
sent as its decimal text.
-/

namespace AlloraSdk.Source.Worker
open AlloraSdk.Logic AlloraSdk.Source.TxManager AlloraSdk.Source.Utils

inductive StakeRequest where
  | isReputerRegistered (topicId : ℕ) (address : String)
  | register (topicId : ℕ) (owner sender : String) (feeTier : FeeTier)
  | stakeInSelf (topicId : ℕ) (reputer : String)
  | addStake (topicId : ℕ) (amount : ℤ) (feeTier : FeeTier)
  deriving DecidableEq, Repr

/-- The query of the stake returns its amount as text. -/
abbrev StakeReply : StakeRequest → Type
  | .isReputerRegistered _ _ => Except PyException Bool
  | .register _ _ _ _ => Except PyException TxResponse
  | .stakeInSelf _ _ => Except PyException String
  | .addStake _ _ _ => Except PyException TxResponse

abbrev StakeEvent := Event StakeRequest StakeReply

abbrev StakeAct := Routine PyException Unit StakeRequest StakeReply

abbrev stakeRequest (request : StakeRequest) : StakeAct (StakeReply request) := Routine.await request

/-- The fields of a Reputer that its staking reads. -/
structure Staker where
  address : String
  topicId : ℕ
  minStakeUallo : Option ℤ
  feeTier : FeeTier

/-- `int(amount) if amount else 0`. -/
def readStake (amount : String) : Except PyException ℤ :=
  if amount = "" then .ok 0
  else match pyInt amount.toList with
    | some value => .ok value
    | none => .error (.other ("invalid literal for int() with base 10: '" ++ amount ++ "'"))

namespace Staker

variable (staker : Staker)

def currentStake : StakeAct ℤ := do
  let answer ← stakeRequest (.stakeInSelf staker.topicId staker.address)
  let amount ← Routine.ofExcept answer
  Routine.ofExcept (readStake amount)

/-- A failure is logged, whether the code says it or an exception. -/
def addStake (delta : ℤ) : StakeAct Unit := do
  let _ ← stakeRequest (.addStake staker.topicId delta staker.feeTier)
  pure ()

def topUp (minStake : ℤ) : StakeAct Unit := do
  let queried ← Routine.attempt staker.currentStake
  match queried with
  | .error _ => pure ()
  | .ok current => if minStake ≤ current then pure () else staker.addStake (minStake - current)

def maybeStake : StakeAct Unit :=
  match staker.minStakeUallo with
  | none => pure ()
  | some minStake => if minStake = 0 then pure () else staker.topUp minStake

def registerIfNeeded : StakeAct Unit := do
  let answer ← stakeRequest (.isReputerRegistered staker.topicId staker.address)
  let registered ← Routine.ofExcept answer
  if registered then pure ()
  else do
    let outcome ← stakeRequest (.register staker.topicId staker.address staker.address staker.feeTier)
    let _ ← Routine.ofExcept outcome
    pure ()

def initializeReputer : StakeAct Bool := do
  staker.registerIfNeeded
  tryCatch staker.maybeStake fun _ => pure ()
  pure true

end Staker

end AlloraSdk.Source.Worker
