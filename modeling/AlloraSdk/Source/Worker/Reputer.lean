import AlloraSdk.Source.Utils.PyDict
import AlloraSdk.Source.Worker.UseCases

/-!
# The reputer use case: one nonce

Source: worker/reputer.py, `submit` and `_compute_loss_bundle`, and
rpc_client/client_emissions.py, `insert_reputer_payload`.

Floats are of a type `φ`, with `float` on text; a loss is one of the values that
`canonicalize_dec` takes.
-/

namespace AlloraSdk.Source.Worker
open AlloraSdk.Logic AlloraSdk.Source.TxManager AlloraSdk.Source.Utils

structure LabeledValue where
  labelName : String
  value : String
  deriving DecidableEq, Repr

/-- The values of one worker, or of the network without or with one. -/
structure AttributedValues where
  worker : String
  values : List LabeledValue
  deriving DecidableEq, Repr

structure OneOutInfererForecaster where
  forecaster : String
  withheldInferer : String
  combinedInference : List LabeledValue
  deriving DecidableEq, Repr

structure NetworkInferenceBundle where
  nonce : ℤ
  combinedValue : List LabeledValue
  naiveValue : List LabeledValue
  infererValues : List AttributedValues
  forecasterValues : List AttributedValues
  oneOutInfererValues : List AttributedValues
  oneOutForecasterValues : List AttributedValues
  oneInForecasterValues : List AttributedValues
  oneOutInfererForecasterValues : List OneOutInfererForecaster
  deriving DecidableEq, Repr

/-- A loss, and the worker it is attributed to. -/
abbrev AttributedLoss := String × String

structure InputValueBundle where
  topicId : ℕ
  reputer : String
  reputerNonce : ℤ
  combinedValue : String
  naiveValue : String
  infererValues : List AttributedLoss
  forecasterValues : List AttributedLoss
  oneOutInfererValues : List AttributedLoss
  oneOutForecasterValues : List AttributedLoss
  oneInForecasterValues : List AttributedLoss
  oneOutInfererForecasterValues : List (String × List AttributedLoss)
  deriving DecidableEq, Repr

inductive ReputerRequest (φ : Type) where
  | networkInferences (nonce : ℤ)
  /-- `self.reputer_fn(run_context, predicted)`. -/
  | loss (nonce : ℤ) (predicted : List (String × φ))
  /-- `insert_reputer_payload` and `pending.wait()`. -/
  | transact (bundle : InputValueBundle) (accountSeq : ℕ)
  | maybeStake

abbrev ReputerReply (φ : Type) : ReputerRequest φ → Type
  | .networkInferences _ => Except PyException (Option NetworkInferenceBundle)
  | .loss _ _ => Except PyException DecInput
  | .transact _ _ => Except PyException TxResponse
  | .maybeStake => Except PyException Unit

abbrev ReputerEv (φ : Type) := Event (ReputerRequest φ) (ReputerReply φ)

abbrev ReputerAct (φ : Type) := Routine PyException Unit (ReputerRequest φ) (ReputerReply φ)

structure Reputer (φ : Type) where
  topicId : ℕ
  address : String
  hasReputerFn : Bool
  /-- `float(text)`; nothing for a ValueError. -/
  float : String → Option φ
  reprValues : List LabeledValue → String
  repr : DecInput → String

namespace Reputer

variable {φ : Type} (reputer : Reputer φ)

/-- `{v.label_name: float(v.value) for v in values}`. -/
def predicted (values : List LabeledValue) : Except PyException (List (String × φ)) :=
  match values.foldlM (fun (dict : PyDict φ) v => (reputer.float v.value).map (dict.set v.labelName)) .empty with
  | some dict => .ok dict.entries
  | none => .error (.other ("invalid numeric value for loss computation: " ++ reputer.reprValues values))

def computeLoss (nonce : ℤ) (values : List LabeledValue) : ReputerAct φ String := do
  let predicted ← Routine.ofExcept (reputer.predicted values)
  let loss ← Routine.await (.loss nonce predicted) >>= Routine.ofExcept
  Routine.ofExcept (canonicalizeDec reputer.repr loss)

def attributedLosses (nonce : ℤ) : List AttributedValues → ReputerAct φ (List AttributedLoss)
  | [] => pure []
  | x :: rest => do
    let loss ← reputer.computeLoss nonce x.values
    let losses ← attributedLosses nonce rest
    pure ((x.worker, loss) :: losses)

/-- Grouped by forecaster. -/
def oneOutLosses (nonce : ℤ) : PyDict (PyDict String) → List OneOutInfererForecaster →
    ReputerAct φ (PyDict (PyDict String))
  | ooifs, [] => pure ooifs
  | ooifs, ooif :: rest => do
    let loss ← reputer.computeLoss nonce ooif.combinedInference
    let inferers := (ooifs.get? ooif.forecaster).getD .empty
    oneOutLosses nonce (ooifs.set ooif.forecaster (inferers.set ooif.withheldInferer loss)) rest

def computeLossBundle (inferences : NetworkInferenceBundle) : ReputerAct φ InputValueBundle :=
  if reputer.hasReputerFn then do
    let combined ← reputer.computeLoss inferences.nonce inferences.combinedValue
    let naive ← reputer.computeLoss inferences.nonce inferences.naiveValue
    let inferers ← reputer.attributedLosses inferences.nonce inferences.infererValues
    let forecasters ← reputer.attributedLosses inferences.nonce inferences.forecasterValues
    let oneOutInferers ← reputer.attributedLosses inferences.nonce inferences.oneOutInfererValues
    let oneOutForecasters ← reputer.attributedLosses inferences.nonce inferences.oneOutForecasterValues
    let oneInForecasters ← reputer.attributedLosses inferences.nonce inferences.oneInForecasterValues
    let ooifs ← reputer.oneOutLosses inferences.nonce .empty inferences.oneOutInfererForecasterValues
    pure ⟨reputer.topicId, "", 0, combined, naive, inferers, forecasters, oneOutInferers, oneOutForecasters,
      oneInForecasters, ooifs.entries.map fun entry => (entry.1, entry.2.entries)⟩
  else throw (.other "no reputer_fn configured")

/-- `reputer` and `reputer_request_nonce` are set before the bundle is signed. -/
def transact (nonce : ℤ) (accountSeq : ℕ) (bundle : InputValueBundle) : ReputerAct φ TxResponse :=
  Routine.await (.transact { bundle with reputer := reputer.address, reputerNonce := nonce } accountSeq) >>=
    Routine.ofExcept

/-- The optional stake top-up; its failures are logged. -/
def maybeStake : ReputerAct φ Unit :=
  tryCatch (Routine.await .maybeStake >>= Routine.ofExcept) fun _ => pure ()

/-- From the loss bundle on. -/
def submitBundle (nonce : ℤ) (accountSeq : ℕ) (bundle : InputValueBundle) : ReputerAct φ SubmitResult := do
  let sent ← Routine.attempt (reputer.transact nonce accountSeq bundle)
  match sent with
  | .error err => pure (submitFailure err)
  | .ok resp => do
    maybeStake
    pure (.done resp)

def networkInferences (nonce : ℤ) : ReputerAct φ (Except PyException (Option NetworkInferenceBundle)) :=
  Routine.await (ReputerRequest.networkInferences nonce)

def submit (nonce : ℤ) (accountSeq : ℕ) : ReputerAct φ SubmitResult := do
  let answer ← networkInferences nonce
  match answer with
  | .error err => pure (.failed err)
  | .ok none => pure (.failed (.other ("No network inferences found at block " ++ toString nonce)))
  | .ok (some inferences) => do
    let computed ← Routine.attempt (reputer.computeLossBundle inferences)
    match computed with
    | .error err => pure (.failed err)
    | .ok bundle => reputer.submitBundle nonce accountSeq bundle

end Reputer

end AlloraSdk.Source.Worker
