import AlloraSdk.Source.Utils.DecCanonical
import AlloraSdk.Source.Worker.Cycle

/-!
# The worker use cases: one nonce

Source: worker/inferer.py and worker/forecaster.py, `submit`, and
rpc_client/client_emissions.py, `insert_worker_payload`.

A use case awaits the user's callback, its sanity check and the transaction.
Numbers are of a type `α`, with `canonicalize_dec` on them and on text.
-/

namespace AlloraSdk.Source.Worker
open AlloraSdk.Logic AlloraSdk.Source.TxManager AlloraSdk.Source.Utils

/-- What an inferer's callback returns. -/
inductive Prediction (α : Type) where
  | dict (values : List (String × α))
  | scalar (value : α)

/-- The content of an InsertWorkerPayloadRequest that depends on the nonce. -/
structure WorkerPayload where
  topicId : ℕ
  nonce : ℤ
  inference : Option (List (String × String))
  forecast : Option (List (String × String))
  deriving DecidableEq, Repr

/-- What `float` does with a value: it returns, it raises ValueError or TypeError, or
it raises something else. -/
inductive FloatOutcome where
  | converted
  | refused
  | raised (err : PyException)
  deriving DecidableEq, Repr

/-- Numbers, of which text is one form. -/
structure Decimals (α : Type) where
  ofText : String → α
  canonicalizeDec : α → Except PyException String
  float : α → FloatOutcome

/-- The least absolute value that rounds to 2 ^ 1024. -/
def floatOverflow : ℕ := 2 ^ 1024 - 2 ^ 970

/-- `float(value)`. -/
def pythonFloat : DecInput → FloatOutcome
  | .decimal (.special true) => .refused
  | .decimal _ | .float _ => .converted
  | .int n => if floatOverflow ≤ n.natAbs then .raised (.other "int too large to convert to float") else .converted
  | .str text => if isFloatText text.toList then .converted else .refused
  | .other _ isFloat => if isFloat then .converted else .refused

/-- The values that `canonicalize_dec` takes. -/
def pythonDecimals (repr : DecInput → String) : Decimals DecInput := ⟨.str, canonicalizeDec repr, pythonFloat⟩

inductive UseCaseRequest where
  | predict (nonce : ℤ)
  | forecast (nonce : ℤ)
  /-- `_sanity_check_submission` swallows its exceptions. -/
  | sanityCheck
  /-- `submit_transaction` and `pending.wait()`. -/
  | transact (payload : WorkerPayload) (accountSeq : ℕ)
  deriving DecidableEq, Repr

abbrev UseCaseReply (α : Type) : UseCaseRequest → Type
  | .predict _ => Except PyException (Prediction α)
  | .forecast _ => Except PyException (List (String × α))
  | .sanityCheck => Unit
  | .transact _ _ => Except PyException TxResponse

abbrev UseCaseEv (α : Type) := Event UseCaseRequest (UseCaseReply α)

abbrev UseCase (α : Type) := Routine PyException Unit UseCaseRequest (UseCaseReply α)

section Payload

variable {α : Type}

/-- The elements of a dict, each value canonical. -/
def canonicalElements (dec : Decimals α) (values : List (String × α)) :
    Except PyException (List (String × String)) :=
  values.mapM fun entry => do
    let value ← dec.canonicalizeDec entry.2
    pure (entry.1, value)

/-- `insert_worker_payload` up to its transaction. Forecast values are
canonicalized here once more. -/
def insertWorkerPayload (dec : Decimals α) (topicId : ℕ) (nonce : ℤ)
    (inferenceValue : Option (List (String × String))) (forecastElements : List (String × String)) :
    Except PyException WorkerPayload :=
  if inferenceValue = none ∧ forecastElements = [] then
    .error (.other "At least one of inference_value or forecast_elements must be provided.")
  else if forecastElements = [] then .ok ⟨topicId, nonce, inferenceValue, none⟩
  else do
    let elements ← canonicalElements dec
      (forecastElements.map fun entry => (entry.1, dec.ofText entry.2))
    pure ⟨topicId, nonce, inferenceValue, some elements⟩

/-- `err.code in (68, 75, 78)`, or the message says so. -/
def isAlreadySubmitted (code : ℕ) (message : String) : Bool :=
  code ∈ [68, 75, 78] || containsText "already submitted" message true

/-- The `except` branches of `submit`. -/
def submitFailure : PyException → SubmitResult
  | .txError codespace code message txHash =>
    if isAlreadySubmitted code message then .alreadySubmitted code
    else .failed (.txError codespace code message txHash)
  | err => .failed err

/-- What `submit` returns when its transaction ends. -/
def settled : Except PyException TxResponse → SubmitResult
  | .ok resp => .done resp
  | .error err => submitFailure err

/-- `insert_worker_payload` and `pending.wait()`. -/
def transact (payload : Except PyException WorkerPayload) (accountSeq : ℕ) : UseCase α SubmitResult := do
  let payload ← Routine.ofExcept payload
  let outcome ← Routine.await (.transact payload accountSeq)
  let resp ← Routine.ofExcept outcome
  pure (.done resp)

def predict (nonce : ℤ) : UseCase α (Except PyException (Prediction α)) :=
  Routine.await (UseCaseRequest.predict nonce)

def forecast (nonce : ℤ) : UseCase α (Except PyException (List (String × α))) :=
  Routine.await (UseCaseRequest.forecast nonce)

end Payload

structure Inferer (α : Type) where
  topicId : ℕ
  dec : Decimals α
  hasPredictFn : Bool
  sanityCheckEnabled : Bool

namespace Inferer

variable {α : Type} (inferer : Inferer α)

def labeledValues : Prediction α → Except PyException (List (String × String))
  | .dict values => canonicalElements inferer.dec values
  | .scalar value => canonicalElements inferer.dec [("y", value)]

/-- What `float(prediction)` does, where the sanity check needs it. -/
def checkedFloat : Prediction α → Option FloatOutcome
  | .dict _ => none
  | .scalar value => if inferer.sanityCheckEnabled then some (inferer.dec.float value) else none

def sanityCheck (prediction : Prediction α) : UseCase α Unit :=
  match inferer.checkedFloat prediction with
  | none => pure ()
  | some .converted => Routine.await UseCaseRequest.sanityCheck
  | some .refused => pure ()
  -- past `except (ValueError, TypeError)`
  | some (.raised err) => throw err

/-- The labeled values, or the exception that is raised on the way to them. -/
def converted (prediction : Prediction α) : Except PyException (List (String × String)) :=
  match inferer.checkedFloat prediction with
  | some (.raised err) => .error err
  | some .converted | some .refused | none => inferer.labeledValues prediction

def submit (nonce : ℤ) (accountSeq : ℕ) : UseCase α SubmitResult :=
  if inferer.hasPredictFn then do
    let answer ← Worker.predict nonce
    match answer with
    | .error err => pure (.failed err)
    | .ok prediction => do
      inferer.sanityCheck prediction
      -- no `try` around the conversions: an unusable value escapes
      let values ← Routine.ofExcept (inferer.labeledValues prediction)
      tryCatch (transact (insertWorkerPayload inferer.dec inferer.topicId nonce (some values) [])
        accountSeq) fun err => pure (submitFailure err)
  else pure (.failed (.other "no predict fn configured"))

/-- The payload that a callback's answer leads to. -/
def payload (nonce : ℤ) (answer : Except PyException (Prediction α)) : Except PyException WorkerPayload :=
  if inferer.hasPredictFn then do
    let prediction ← answer
    let values ← inferer.converted prediction
    insertWorkerPayload inferer.dec inferer.topicId nonce (some values) []
  else .error (.other "no predict fn configured")

end Inferer

structure Forecaster (α : Type) where
  topicId : ℕ
  dec : Decimals α
  hasForecastFn : Bool

namespace Forecaster

variable {α : Type} (forecaster : Forecaster α)

/-- `sorted(forecasts_raw.items(), key=lambda kv: kv[0])`. -/
def sortedItems (forecasts : List (String × α)) : List (String × α) :=
  forecasts.mergeSort fun first second => decide (first.1 ≤ second.1)

def elementsPayload (nonce : ℤ) (forecasts : List (String × α)) : Except PyException WorkerPayload := do
  let elements ← canonicalElements forecaster.dec (sortedItems forecasts)
  insertWorkerPayload forecaster.dec forecaster.topicId nonce none elements

def submit (nonce : ℤ) (accountSeq : ℕ) : UseCase α SubmitResult :=
  if forecaster.hasForecastFn then do
    let answer ← Worker.forecast nonce
    match answer with
    | .error err => pure (.failed err)
    | .ok forecasts =>
      tryCatch (if forecasts.isEmpty then pure (.failed (.other "Empty forecasts dict"))
        else transact (forecaster.elementsPayload nonce forecasts) accountSeq)
        fun err => pure (submitFailure err)
  else pure (.failed (.other "no forecast fn configured"))

/-- The payload that a callback's answer leads to. -/
def payload (nonce : ℤ) (answer : Except PyException (List (String × α))) :
    Except PyException WorkerPayload :=
  if forecaster.hasForecastFn then do
    let forecasts ← answer
    if forecasts.isEmpty then .error (.other "Empty forecasts dict")
    else forecaster.elementsPayload nonce forecasts
  else .error (.other "no forecast fn configured")

end Forecaster

/-! ## The two roles -/

inductive Role (α : Type) where
  | inferer (config : Inferer α)
  | forecaster (config : Forecaster α)

def Role.submit {α : Type} (nonce : ℤ) (accountSeq : ℕ) : Role α → UseCase α SubmitResult
  | .inferer config => config.submit nonce accountSeq
  | .forecaster config => config.submit nonce accountSeq

/-- What the user's callback does with each nonce. -/
structure Callbacks (α : Type) where
  predict : ℤ → Except PyException (Prediction α)
  forecast : ℤ → Except PyException (List (String × α))

def Callbacks.Answer {α : Type} (callbacks : Callbacks α) : UseCaseEv α → Prop
  | ⟨.predict nonce, answer⟩ => answer = callbacks.predict nonce
  | ⟨.forecast nonce, answer⟩ => answer = callbacks.forecast nonce
  | _ => True

def Role.payload {α : Type} (callbacks : Callbacks α) (nonce : ℤ) :
    Role α → Except PyException WorkerPayload
  | .inferer config => config.payload nonce (callbacks.predict nonce)
  | .forecaster config => config.payload nonce (callbacks.forecast nonce)

def UseCaseRequest.isTransact : UseCaseRequest → Bool
  | .transact _ _ => true
  | _ => false

/-- No transaction is started. -/
def Unsent {α : Type} (trace : List (UseCaseEv α)) : Prop :=
  ∀ e ∈ trace, e.request.isTransact = false

section Outcomes

variable {α : Type} {nonce : ℤ} {accountSeq : ℕ} {trace : List (UseCaseEv α)}
  {out : Except PyException SubmitResult}

theorem bind_eq_ok {β γ : Type} {x : Except PyException β} {f : β → Except PyException γ} {c : γ}
    (same : (x >>= f) = .ok c) : ∃ b, x = .ok b ∧ f b = .ok c := by
  cases x with
  | error err => cases same
  | ok b => exact ⟨b, rfl, same⟩

theorem bind_eq_error {β γ : Type} {x : Except PyException β} {f : β → Except PyException γ} {e : PyException}
    (same : (x >>= f) = .error e) : x = .error e ∨ ∃ b, x = .ok b ∧ f b = .error e := by
  cases x with
  | error err =>
    cases same
    exact .inl rfl
  | ok b => exact .inr ⟨b, rfl, same⟩

theorem insertWorkerPayload_nonce {dec : Decimals α} {topicId : ℕ}
    {inferenceValue : Option (List (String × String))} {forecastElements : List (String × String)}
    {payload : WorkerPayload}
    (built : insertWorkerPayload dec topicId nonce inferenceValue forecastElements = .ok payload) :
    payload.nonce = nonce := by
  unfold insertWorkerPayload at built
  split at built
  · cases built
  split at built
  · cases built
    rfl
  · obtain ⟨elements, -, made⟩ := bind_eq_ok built
    cases made
    rfl

/-- One role's run for one nonce: it stops before its transaction, or it returns
what the transaction came to. -/
inductive Submitted (payload : Except PyException WorkerPayload) (accountSeq : ℕ) :
    List (UseCaseEv α) → Except PyException SubmitResult → Prop
  | unsent {trace : List (UseCaseEv α)} {out : Except PyException SubmitResult} {err : PyException}
      (failed : payload = .error err) (quiet : Unsent trace) (undone : ∀ resp, out ≠ .ok (.done resp)) :
      Submitted payload accountSeq trace out
  | sent {before : List (UseCaseEv α)} {content : WorkerPayload} {outcome : Except PyException TxResponse}
      (built : payload = .ok content) (quiet : Unsent before) :
      Submitted payload accountSeq (before ++ [⟨.transact content accountSeq, outcome⟩])
        (.ok (settled outcome))

theorem Submitted.prepend {payload : Except PyException WorkerPayload} {first : List (UseCaseEv α)}
    (submitted : Submitted payload accountSeq trace out) (quiet : Unsent first) :
    Submitted payload accountSeq (first ++ trace) out := by
  have joined {rest : List (UseCaseEv α)} (later : Unsent rest) : Unsent (first ++ rest) := by
    intro e member
    rcases List.mem_append.mp member with member | member
    · exact quiet e member
    · exact later e member
  cases submitted with
  | unsent failed later undone => exact .unsent failed (joined later) undone
  | sent built later =>
    rw [← List.append_assoc]
    exact .sent built (joined later)

theorem submitFailure_ne_done {err : PyException} {resp : TxResponse} : submitFailure err ≠ .done resp := by
  unfold submitFailure
  split
  · split <;> simp
  · simp

theorem Unsent.nil : Unsent ([] : List (UseCaseEv α)) := by simp [Unsent]

theorem transact_error {err : PyException} {s s' : Unit}
    (run : (transact (.error err) accountSeq : UseCase α SubmitResult).Runs s trace out s') :
    trace = [] ∧ out = .error err := by
  obtain ⟨e, same, rfl, rfl, -⟩ | ⟨_, same, -⟩ := Routine.runs_ofExcept_bind.mp run
  · cases same
    exact ⟨rfl, rfl⟩
  · cases same

theorem transact_ok {payload : WorkerPayload} {s s' : Unit}
    (run : (transact (.ok payload) accountSeq : UseCase α SubmitResult).Runs s trace out s') :
    ∃ outcome, trace = [⟨.transact payload accountSeq, outcome⟩] ∧ out = outcome.map .done := by
  obtain ⟨_, same, -⟩ | ⟨_, same, run₁⟩ := Routine.runs_ofExcept_bind.mp run <;> cases same
  obtain ⟨outcome, rest, rfl, run₂⟩ := Routine.runs_await_bind.mp run₁
  obtain ⟨e, rfl, rfl, rfl, -⟩ | ⟨resp, rfl, run₃⟩ := Routine.runs_ofExcept_bind.mp run₂
  · exact ⟨.error e, rfl, rfl⟩
  · obtain ⟨rfl, rfl, -⟩ := Routine.runs_pure.mp run₃
    exact ⟨.ok resp, rfl, rfl⟩

/-- The transaction inside its `try`: a payload that cannot be built is not sent,
and what comes of one that is sent is the result. -/
theorem tryTransact_runs {payload : Except PyException WorkerPayload} {s s' : Unit}
    (run : (tryCatch (transact payload accountSeq) fun err => pure (submitFailure err)).Runs s trace out s') :
    (∃ err, payload = .error err ∧ trace = [] ∧ out = .ok (submitFailure err)) ∨
      ∃ sent outcome, payload = .ok sent ∧ trace = [⟨.transact sent accountSeq, outcome⟩] ∧
        out = .ok (settled outcome) := by
  cases payload with
  | error err =>
    obtain ⟨_, body, -⟩ | ⟨e, t, first, rest, body, handler, rfl⟩ := Routine.runs_tryCatch.mp run
    · cases (transact_error body).2
    · obtain ⟨rfl, same⟩ := transact_error body
      cases same
      obtain ⟨rfl, rfl, -⟩ := Routine.runs_pure.mp handler
      exact .inl ⟨err, rfl, rfl, rfl⟩
  | ok payload =>
    obtain ⟨_, body, rfl⟩ | ⟨e, t, first, rest, body, handler, rfl⟩ := Routine.runs_tryCatch.mp run
    · obtain ⟨outcome, rfl, same⟩ := transact_ok body
      cases outcome with
      | error err => cases same
      | ok resp =>
        cases same
        exact .inr ⟨payload, .ok resp, rfl, rfl, rfl⟩
    · obtain ⟨outcome, rfl, same⟩ := transact_ok body
      obtain ⟨rfl, rfl, -⟩ := Routine.runs_pure.mp handler
      cases outcome with
      | error err =>
        cases same
        exact .inr ⟨payload, .error e, rfl, rfl, rfl⟩
      | ok resp => cases same

theorem tryTransact_outcome {payload : Except PyException WorkerPayload} {s s' : Unit}
    (run : (tryCatch (transact payload accountSeq) fun err => pure (submitFailure err)).Runs s trace out s') :
    Submitted payload accountSeq trace out := by
  obtain ⟨err, rfl, rfl, rfl⟩ | ⟨sent, outcome, rfl, rfl, rfl⟩ := tryTransact_runs run
  · exact .unsent rfl .nil fun resp same => submitFailure_ne_done (Except.ok.inj same)
  · exact Submitted.sent rfl .nil

/-- The answer to a callback is part of the run. -/
def Answered (callbacks : Callbacks α) (trace : List (UseCaseEv α)) : Prop :=
  ∀ e ∈ trace, callbacks.Answer e

/-- A prediction is checked by one call, or not at all, or escapes before that. -/
theorem Inferer.sanityCheck_runs {inferer : Inferer α} {prediction : Prediction α} {s s' : Unit}
    {out : Except PyException Unit} (run : (inferer.sanityCheck prediction).Runs s trace out s') :
    (trace = [] ∨ trace = [⟨.sanityCheck, ()⟩]) ∧ out = .ok () ∧
      inferer.converted prediction = inferer.labeledValues prediction ∨
    ∃ err, trace = [] ∧ out = .error err ∧ inferer.converted prediction = .error err := by
  unfold Inferer.sanityCheck at run
  unfold Inferer.converted
  cases check : inferer.checkedFloat prediction with
  | none =>
    simp only [check] at run
    obtain ⟨rfl, rfl, -⟩ := Routine.runs_pure.mp run
    exact .inl ⟨.inl rfl, rfl, rfl⟩
  | some outcome =>
    cases outcome with
    | converted =>
      simp only [check] at run
      obtain ⟨reply, rfl, rfl, -⟩ := Routine.runs_await.mp run
      exact .inl ⟨.inr rfl, rfl, rfl⟩
    | refused =>
      simp only [check] at run
      obtain ⟨rfl, rfl, -⟩ := Routine.runs_pure.mp run
      exact .inl ⟨.inl rfl, rfl, rfl⟩
    | raised err =>
      simp only [check] at run
      obtain ⟨rfl, rfl, -⟩ := Routine.runs_throw.mp run
      exact .inr ⟨err, rfl, rfl, rfl⟩

/-- What an inferer's attempt can do. -/
inductive Inferer.Attempted (inferer : Inferer α) (nonce : ℤ) (accountSeq : ℕ) :
    List (UseCaseEv α) → Except PyException SubmitResult → Prop
  | unconfigured (missing : ¬ inferer.hasPredictFn = true) :
      Attempted inferer nonce accountSeq [] (.ok (.failed (.other "no predict fn configured")))
  | raised (configured : inferer.hasPredictFn = true) (err : PyException) :
      Attempted inferer nonce accountSeq [⟨.predict nonce, .error err⟩] (.ok (.failed err))
  | unusable (configured : inferer.hasPredictFn = true) {prediction : Prediction α} {checks : List (UseCaseEv α)}
      {err : PyException} (checked : checks = [] ∨ checks = [⟨.sanityCheck, ()⟩])
      (refused : inferer.converted prediction = .error err) :
      Attempted inferer nonce accountSeq (⟨.predict nonce, .ok prediction⟩ :: checks) (.error err)
  | tried (configured : inferer.hasPredictFn = true) {prediction : Prediction α} {checks rest : List (UseCaseEv α)}
      {values : List (String × String)} {out : Except PyException SubmitResult}
      (checked : checks = [] ∨ checks = [⟨.sanityCheck, ()⟩])
      (usable : inferer.converted prediction = .ok values)
      (run : (tryCatch (transact (insertWorkerPayload inferer.dec inferer.topicId nonce (some values) []) accountSeq)
        fun err => pure (submitFailure err)).Runs () rest out ()) :
      Attempted inferer nonce accountSeq (⟨.predict nonce, .ok prediction⟩ :: (checks ++ rest)) out

theorem Inferer.submit_attempted {inferer : Inferer α} {s s' : Unit}
    (run : (inferer.submit nonce accountSeq).Runs s trace out s') :
    inferer.Attempted nonce accountSeq trace out := by
  unfold Inferer.submit at run
  split at run
  · rename_i configured
    obtain ⟨answer, rest, rfl, run₁⟩ := Routine.runs_await_bind.mp run
    cases answer with
    | error err =>
      obtain ⟨rfl, rfl, -⟩ := Routine.runs_pure.mp run₁
      exact .raised configured err
    | ok prediction =>
      obtain ⟨err, checked, rfl⟩ | ⟨_, t, checks, last, checked, run₂, rfl⟩ := Routine.runs_bind.mp run₁
      · obtain ⟨-, same, -⟩ | ⟨_, rfl, same, refused⟩ := Inferer.sanityCheck_runs checked
        · cases same
        · cases same
          exact .unusable configured (.inl rfl) refused
      obtain ⟨called, -, same⟩ | ⟨_, -, raised, -⟩ := Inferer.sanityCheck_runs checked
      · obtain ⟨err, refused, rfl, rfl, -⟩ | ⟨values, usable, run₃⟩ := Routine.runs_ofExcept_bind.mp run₂
        · rw [List.append_nil]
          exact .unusable configured called (same.trans refused)
        · exact .tried configured called (same.trans usable) run₃
      · cases raised
  · rename_i missing
    obtain ⟨rfl, rfl, -⟩ := Routine.runs_pure.mp run
    exact .unconfigured missing

theorem Inferer.payload_ok {inferer : Inferer α} (configured : inferer.hasPredictFn = true)
    {prediction : Prediction α} : inferer.payload nonce (.ok prediction) = inferer.converted prediction >>=
      fun values => insertWorkerPayload inferer.dec inferer.topicId nonce (some values) [] :=
  if_pos configured

theorem Inferer.submit_outcome {inferer : Inferer α} {callbacks : Callbacks α} {s s' : Unit}
    (run : (inferer.submit nonce accountSeq).Runs s trace out s') (answered : Answered callbacks trace) :
    Submitted (inferer.payload nonce (callbacks.predict nonce)) accountSeq trace out := by
  have quiet {prediction : Prediction α} {checks : List (UseCaseEv α)}
      (checked : checks = [] ∨ checks = [⟨.sanityCheck, ()⟩]) :
      Unsent (⟨.predict nonce, .ok prediction⟩ :: checks : List (UseCaseEv α)) := by
    rcases checked with rfl | rfl <;> simp [Unsent, UseCaseRequest.isTransact]
  cases Inferer.submit_attempted run with
  | unconfigured missing => exact .unsent (if_neg missing) .nil (by simp)
  | raised configured err =>
    have answer : .error err = callbacks.predict nonce := answered _ (.head _)
    rw [← answer]
    exact .unsent (if_pos configured) (by simp [Unsent, UseCaseRequest.isTransact]) (by simp)
  | @unusable configured prediction checks err checked refused =>
    have answer : .ok prediction = callbacks.predict nonce := answered _ (.head _)
    have failed : inferer.payload nonce (.ok prediction) = .error err := by
      rw [Inferer.payload_ok configured, refused]
      rfl
    rw [← answer]
    exact .unsent failed (quiet checked) (by simp)
  | @tried configured prediction checks rest values out checked usable run =>
    have answer : .ok prediction = callbacks.predict nonce := answered _ (.head _)
    have built : inferer.payload nonce (.ok prediction) =
        insertWorkerPayload inferer.dec inferer.topicId nonce (some values) [] := by
      rw [Inferer.payload_ok configured, usable]
      rfl
    rw [← answer, built, ← List.cons_append]
    exact (tryTransact_outcome run).prepend (quiet checked)

/-- What a forecaster's attempt can do. -/
inductive Forecaster.Attempted (forecaster : Forecaster α) (nonce : ℤ) (accountSeq : ℕ) :
    List (UseCaseEv α) → Except PyException SubmitResult → Prop
  | unconfigured (missing : ¬ forecaster.hasForecastFn = true) :
      Attempted forecaster nonce accountSeq [] (.ok (.failed (.other "no forecast fn configured")))
  | raised (configured : forecaster.hasForecastFn = true) (err : PyException) :
      Attempted forecaster nonce accountSeq [⟨.forecast nonce, .error err⟩] (.ok (.failed err))
  | empty (configured : forecaster.hasForecastFn = true) {forecasts : List (String × α)}
      (vacant : forecasts.isEmpty = true) :
      Attempted forecaster nonce accountSeq [⟨.forecast nonce, .ok forecasts⟩]
        (.ok (.failed (.other "Empty forecasts dict")))
  | tried (configured : forecaster.hasForecastFn = true) {forecasts : List (String × α)} {rest : List (UseCaseEv α)}
      {out : Except PyException SubmitResult} (filled : ¬ forecasts.isEmpty = true)
      (run : (tryCatch (transact (forecaster.elementsPayload nonce forecasts) accountSeq)
        fun err => pure (submitFailure err)).Runs () rest out ()) :
      Attempted forecaster nonce accountSeq (⟨.forecast nonce, .ok forecasts⟩ :: rest) out

theorem Forecaster.submit_attempted {forecaster : Forecaster α} {s s' : Unit}
    (run : (forecaster.submit nonce accountSeq).Runs s trace out s') :
    forecaster.Attempted nonce accountSeq trace out := by
  unfold Forecaster.submit at run
  split at run
  · rename_i configured
    obtain ⟨answer, rest, rfl, run₁⟩ := Routine.runs_await_bind.mp run
    cases answer with
    | error err =>
      obtain ⟨rfl, rfl, -⟩ := Routine.runs_pure.mp run₁
      exact .raised configured err
    | ok forecasts =>
      by_cases empty : forecasts.isEmpty = true
      · simp only [if_pos empty] at run₁
        obtain ⟨_, body, rfl⟩ | ⟨e, t, first, last, body, -, -⟩ := Routine.runs_tryCatch.mp run₁
        · obtain ⟨rfl, same, -⟩ := Routine.runs_pure.mp body
          cases same
          exact .empty configured empty
        · cases (Routine.runs_pure.mp body).2.1
      · simp only [if_neg empty] at run₁
        exact .tried configured empty run₁
  · rename_i missing
    obtain ⟨rfl, rfl, -⟩ := Routine.runs_pure.mp run
    exact .unconfigured missing

theorem Forecaster.submit_outcome {forecaster : Forecaster α} {callbacks : Callbacks α} {s s' : Unit}
    (run : (forecaster.submit nonce accountSeq).Runs s trace out s') (answered : Answered callbacks trace) :
    Submitted (forecaster.payload nonce (callbacks.forecast nonce)) accountSeq trace out := by
  have quiet (answer : Except PyException (List (String × α))) :
      Unsent [(⟨.forecast nonce, answer⟩ : UseCaseEv α)] := by
    simp [Unsent, UseCaseRequest.isTransact]
  cases Forecaster.submit_attempted run with
  | unconfigured missing => exact .unsent (if_neg missing) .nil (by simp)
  | raised configured err =>
    have answer : .error err = callbacks.forecast nonce := answered _ (.head _)
    rw [← answer]
    exact .unsent (if_pos configured) (quiet _) (by simp)
  | @empty configured forecasts vacant =>
    have answer : .ok forecasts = callbacks.forecast nonce := answered _ (.head _)
    rw [← answer]
    exact .unsent ((if_pos configured).trans (if_pos vacant)) (quiet _) (by simp)
  | @tried configured forecasts rest out filled run =>
    have answer : .ok forecasts = callbacks.forecast nonce := answered _ (.head _)
    have built : forecaster.payload nonce (.ok forecasts) = forecaster.elementsPayload nonce forecasts :=
      (if_pos configured).trans (if_neg filled)
    rw [← answer, built]
    exact (tryTransact_outcome run).prepend (quiet _)

/-- Either role starts its transaction exactly when it has a payload. -/
theorem Role.submit_outcome {role : Role α} {callbacks : Callbacks α} {s s' : Unit}
    (run : (role.submit nonce accountSeq).Runs s trace out s') (answered : Answered callbacks trace) :
    Submitted (role.payload callbacks nonce) accountSeq trace out := by
  cases role with
  | inferer config => exact Inferer.submit_outcome run answered
  | forecaster config => exact Forecaster.submit_outcome run answered

theorem Inferer.payload_nonce {inferer : Inferer α} {answer : Except PyException (Prediction α)}
    {payload : WorkerPayload} (built : inferer.payload nonce answer = .ok payload) :
    payload.nonce = nonce := by
  unfold Inferer.payload at built
  split at built
  · obtain ⟨prediction, -, converted⟩ := bind_eq_ok built
    obtain ⟨values, -, inserted⟩ := bind_eq_ok converted
    exact insertWorkerPayload_nonce inserted
  · cases built

theorem Forecaster.payload_nonce {forecaster : Forecaster α}
    {answer : Except PyException (List (String × α))} {payload : WorkerPayload}
    (built : forecaster.payload nonce answer = .ok payload) : payload.nonce = nonce := by
  unfold Forecaster.payload at built
  split at built
  · obtain ⟨forecasts, -, checked⟩ := bind_eq_ok built
    split at checked
    · cases checked
    · obtain ⟨elements, -, inserted⟩ := bind_eq_ok checked
      exact insertWorkerPayload_nonce inserted
  · cases built

/-- A payload carries the nonce it was made for. -/
theorem Role.payload_nonce {role : Role α} {callbacks : Callbacks α} {payload : WorkerPayload}
    (built : role.payload callbacks nonce = .ok payload) : payload.nonce = nonce := by
  cases role with
  | inferer config => exact Inferer.payload_nonce built
  | forecaster config => exact Forecaster.payload_nonce built

end Outcomes

end AlloraSdk.Source.Worker
