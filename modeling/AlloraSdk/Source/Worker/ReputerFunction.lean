import AlloraSdk.Source.Worker.Reputer

/-!
# A reputer function with a cached ground truth

Source: worker/utils.py, `make_reputer_function`.

`gt_fn` is the environment; a ground truth is of any type `τ`. Losses are floats,
so `loss_fn` and the logarithm are parameters.
-/

namespace AlloraSdk.Source.Worker
open AlloraSdk.Logic AlloraSdk.Source.TxManager AlloraSdk.Source.Utils

/-- The topic and the nonce of a RunContext. -/
abbrev CacheKey := ℕ × ℤ

/-- `gt_fn(context)`. -/
structure GroundTruthQuery where
  key : CacheKey
  deriving DecidableEq, Repr

abbrev GroundTruthReply (τ : Type) (_ : GroundTruthQuery) : Type := Except PyException τ

/-- `gt_cache`. -/
abbrev GroundTruthCache (τ : Type) := Option (CacheKey × τ)

abbrev ReputerFnAct (τ : Type) :=
  Routine PyException (GroundTruthCache τ) GroundTruthQuery (GroundTruthReply τ)

/-- The arguments of `make_reputer_function` besides `gt_fn`. -/
structure ReputerFunction (τ φ : Type) where
  /-- `loss_fn` of a scalar, or of a dict when `multi_output`. -/
  lossFn : τ → φ ⊕ List (String × φ) → Except PyException DecInput
  logLoss : Bool
  multiOutput : Bool
  /-- `math.log10(loss + 1e-100)`. -/
  log10 : DecInput → Except PyException DecInput

namespace ReputerFunction

variable {τ φ : Type} (rep : ReputerFunction τ φ)

/-- The only value of a scalar inference. -/
def unpack (inference : List (String × φ)) : Except PyException (φ ⊕ List (String × φ)) :=
  if rep.multiOutput then .ok (.inr inference)
  else match inference with
    | [(label, value)] => if label = "y" then .ok (.inl value) else notScalar
    | _ => notScalar
where
  notScalar : Except PyException (φ ⊕ List (String × φ)) :=
    .error (.other "Expected scalar, got vector valued network inference")

/-- From the ground truth on. -/
def lossOf (gt : τ) (inference : List (String × φ)) : Except PyException DecInput := do
  let value ← rep.unpack inference
  let loss ← rep.lossFn gt value
  if rep.logLoss then rep.log10 loss else .ok loss

def fetchGroundTruth (cacheKey : CacheKey) : ReputerFnAct τ τ := do
  let reply ← Routine.await ⟨cacheKey⟩
  let gt ← Routine.ofExcept reply
  Routine.update fun _ => some (cacheKey, gt)
  pure gt

def groundTruth (cacheKey : CacheKey) : ReputerFnAct τ τ := do
  let gtCache ← Routine.state
  match gtCache with
  | some (key, gt) => if key = cacheKey then pure gt else fetchGroundTruth cacheKey
  | none => fetchGroundTruth cacheKey

def repFunc (cacheKey : CacheKey) (inference : List (String × φ)) : ReputerFnAct τ DecInput := do
  let gt ← groundTruth cacheKey
  Routine.ofExcept (rep.lossOf gt inference)

/-! ## Runs -/

/-- What one call can do: use the cache, call `gt_fn` and remember its truth, or
raise its exception. -/
inductive Call (cacheKey : CacheKey) (inference : List (String × φ)) :
    GroundTruthCache τ → List (Event GroundTruthQuery (GroundTruthReply τ)) →
      Except PyException DecInput → GroundTruthCache τ → Prop
  | hit (gt : τ) :
      Call cacheKey inference (some (cacheKey, gt)) [] (rep.lossOf gt inference) (some (cacheKey, gt))
  | fetched {cache : GroundTruthCache τ} (missed : ∀ gt, cache ≠ some (cacheKey, gt)) (gt : τ) :
      Call cacheKey inference cache [⟨⟨cacheKey⟩, .ok gt⟩] (rep.lossOf gt inference)
        (some (cacheKey, gt))
  | failed {cache : GroundTruthCache τ} (missed : ∀ gt, cache ≠ some (cacheKey, gt))
      (err : PyException) : Call cacheKey inference cache [⟨⟨cacheKey⟩, .error err⟩] (.error err) cache

variable {rep} {cacheKey : CacheKey} {inference : List (String × φ)} {cache cache' : GroundTruthCache τ}
  {asked : List (Event GroundTruthQuery (GroundTruthReply τ))} {out : Except PyException DecInput}

theorem fetch_call (missed : ∀ gt, cache ≠ some (cacheKey, gt))
    (run : (fetchGroundTruth cacheKey >>= fun gt => Routine.ofExcept (rep.lossOf gt inference)).Runs
      cache asked out cache') : rep.Call cacheKey inference cache asked out cache' := by
  simp only [fetchGroundTruth, bind_assoc] at run
  obtain ⟨reply, rest, rfl, replied⟩ := Routine.runs_await_bind.mp run
  obtain ⟨err, rfl, rfl, rfl, rfl⟩ | ⟨gt, rfl, stored⟩ := Routine.runs_ofExcept_bind.mp replied
  · exact .failed missed err
  · rw [Routine.runs_update_bind, Routine.runs_pure_bind] at stored
    obtain ⟨rfl, rfl, rfl⟩ := Routine.runs_ofExcept.mp stored
    exact .fetched missed gt

theorem repFunc_call (run : (rep.repFunc cacheKey inference).Runs cache asked out cache') :
    rep.Call cacheKey inference cache asked out cache' := by
  rw [repFunc, groundTruth, bind_assoc, Routine.runs_state_bind] at run
  match cache with
  | none => exact fetch_call (by simp) run
  | some (key, gt) =>
    by_cases same : key = cacheKey
    · subst same
      simp only [↓reduceIte, Routine.runs_pure_bind] at run
      obtain ⟨rfl, rfl, rfl⟩ := Routine.runs_ofExcept.mp run
      exact .hit gt
    · simp only [if_neg same] at run
      exact fetch_call (by simp [same]) run

end ReputerFunction

end AlloraSdk.Source.Worker
