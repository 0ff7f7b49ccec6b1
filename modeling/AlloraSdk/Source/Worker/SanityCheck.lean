import AlloraSdk.Source.Worker.Reputer

/-!
# The inferer's sanity check

Source: worker/inferer.py, `_sanity_check_submission`.

Floats are of a type `φ`, with `float` on text. The z-score of
`_sanity_check_with_values` only reaches the log: its call is the request
`checkWithValues`, which may raise.
-/

namespace AlloraSdk.Source.Worker
open AlloraSdk.Logic AlloraSdk.Source.TxManager

/-- `time.monotonic()`, in microseconds, and `_sanity_cache`. -/
structure SanityState (φ : Type) where
  clock : ℕ
  sanityCache : Option (ℕ × List φ)

inductive SanityRequest (φ : Type) where
  | latestNetworkInferences (topicId : ℕ)
  | checkWithValues (prediction : φ) (values : List φ)

/-- How long the query took and its outcome; what the comparison raised. -/
abbrev SanityReply {φ : Type} : SanityRequest φ → Type
  | .latestNetworkInferences _ => ℕ × Except PyException (Option NetworkInferenceBundle)
  | .checkWithValues _ _ => Except PyException Unit

abbrev SanityEvent (φ : Type) := Event (SanityRequest φ) SanityReply

abbrev SanityAct (φ : Type) := Routine PyException (SanityState φ) (SanityRequest φ) SanityReply

abbrev sanityRequest {φ : Type} (request : SanityRequest φ) : SanityAct φ (SanityReply request) :=
  Routine.await request

structure SanityChecker (φ : Type) where
  topicId : ℕ
  /-- `throttle_interval_seconds`, in microseconds. -/
  throttleInterval : ℕ
  /-- `float(text)`; nothing for a ValueError. -/
  float : String → Option φ

namespace SanityChecker

variable {φ : Type} (checker : SanityChecker φ)

/-- The first value of every inferer; what is no number is skipped. -/
def infererValues (bundle : NetworkInferenceBundle) : List φ :=
  bundle.infererValues.filterMap fun wi =>
    match wi.values with
    | [] => none
    | first :: _ => checker.float first.value

/-- The values of a response, of which an empty one has none. -/
def responseValues : Option NetworkInferenceBundle → List φ
  | some bundle => checker.infererValues bundle
  | none => []

/-- `now` is from before the query, and so is the time in the cache. -/
def fetchValues (now : ℕ) : SanityAct φ (List φ) := do
  let reply ← sanityRequest (.latestNetworkInferences checker.topicId)
  Routine.update fun s => { s with clock := s.clock + reply.1 }
  let response ← Routine.ofExcept reply.2
  Routine.update fun s => { s with sanityCache := some (now, checker.responseValues response) }
  pure (checker.responseValues response)

def inferersForCheck : SanityAct φ (List φ) := do
  let s ← Routine.state
  match s.sanityCache with
  | some (fetched, values) =>
    if s.clock - fetched < checker.throttleInterval then pure values else checker.fetchValues s.clock
  | none => checker.fetchValues s.clock

/-- The body of the `try`. -/
def compareSubmission (prediction : φ) : SanityAct φ Unit := do
  let values ← checker.inferersForCheck
  if 3 ≤ values.length then do
    let raised ← sanityRequest (.checkWithValues prediction values)
    Routine.ofExcept raised
  else pure ()

def sanityCheckSubmission (prediction : φ) : SanityAct φ Unit :=
  tryCatch (checker.compareSubmission prediction) fun _ => pure ()

end SanityChecker

end AlloraSdk.Source.Worker
