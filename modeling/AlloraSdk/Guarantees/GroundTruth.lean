import AlloraSdk.Guarantees.LossBundle
import AlloraSdk.Source.Worker.ReputerFunction

/-!
# One ground truth for each bundle

A reputer whose loss function is the one that `make_reputer_function` returns:
the cache outlives a submission, and every loss of a bundle comes from the same
ground truth, which was fetched for the bundle's own topic and nonce.
-/

namespace AlloraSdk.Guarantees
open AlloraSdk.Logic AlloraSdk.Source.TxManager AlloraSdk.Source.Utils AlloraSdk.Source.Worker

/-- What the loss function keeps, and its calls of `gt_fn` so far. -/
structure GroundTruths (τ : Type) where
  cache : GroundTruthCache τ
  asked : List (Event GroundTruthQuery (GroundTruthReply τ))

/-- `rep_func` answers the loss requests of a reputer for `topicId`. -/
inductive Answers {τ φ : Type} (rep : ReputerFunction τ φ) (topicId : ℕ) :
    GroundTruths τ → ReputerEv φ → GroundTruths τ → Prop
  | loss {c : GroundTruths τ} {nonce : ℤ} {predicted : List (String × φ)}
      {asked : List (Event GroundTruthQuery (GroundTruthReply τ))} {reply : Except PyException DecInput}
      {cache : GroundTruthCache τ}
      (run : (rep.repFunc (topicId, nonce) predicted).Runs c.cache asked reply cache) :
      Answers rep topicId c ⟨.loss nonce predicted, reply⟩ ⟨cache, c.asked ++ asked⟩
  | other {c : GroundTruths τ} {event : ReputerEv φ}
      (unrelated : ∀ nonce predicted, event.request ≠ .loss nonce predicted) :
      Answers rep topicId c event c

/-- A loss that was computed. -/
def Computed {φ : Type} (nonce : ℤ) (event : ReputerEv φ) : Prop :=
  ∃ predicted loss, event = ⟨.loss nonce predicted, .ok loss⟩

/-- A loss that could not be computed. -/
def LossFailed {φ : Type} (nonce : ℤ) (event : ReputerEv φ) : Prop :=
  ∃ predicted err, event = ⟨.loss nonce predicted, .error err⟩

section Bundle

variable {τ φ : Type} {rep : ReputerFunction τ φ} {topicId : ℕ} {nonce : ℤ} {c c' : GroundTruths τ}
  {reputer : Reputer φ} {trace : List (ReputerEv φ)}

theorem Answers.call {predicted : List (String × φ)} {reply : Except PyException DecInput}
    (answered : Answers rep topicId c ⟨.loss nonce predicted, reply⟩ c') :
    ∃ asked, rep.Call (topicId, nonce) predicted c.cache asked reply c'.cache ∧
      c'.asked = c.asked ++ asked := by
  cases answered with
  | loss run => exact ⟨_, ReputerFunction.repFunc_call run, rfl⟩
  | other unrelated => exact absurd rfl (unrelated nonce predicted)

/-- Losses of one nonce, of which only the last may have failed. -/
def StopsAtFailure (nonce : ℤ) (trace : List (ReputerEv φ)) : Prop :=
  (∀ event ∈ trace, Computed nonce event) ∨
    ∃ before final, trace = before ++ [final] ∧ (∀ event ∈ before, Computed nonce event) ∧
      LossFailed nonce final

theorem StopsAtFailure.calls (stops : StopsAtFailure nonce trace) :
    ∀ event ∈ trace, Computed nonce event ∨ LossFailed nonce event := by
  intro event member
  rcases stops with computed | ⟨before, final, rfl, computed, failed⟩
  · exact .inl (computed event member)
  · rcases List.mem_append.mp member with earlier | last
    · exact .inl (computed event earlier)
    · rw [List.mem_singleton.mp last]
      exact .inr failed

end Bundle

/-! ## A reputer's whole history -/

/-- What `gt_fn` returned, by its key. -/
def truthOf {τ : Type} : Event GroundTruthQuery (GroundTruthReply τ) → Option (CacheKey × τ)
  | ⟨query, .ok gt⟩ => some (query.key, gt)
  | ⟨_, .error _⟩ => none

def GroundTruths.truths {τ : Type} (c : GroundTruths τ) : List (CacheKey × τ) := c.asked.filterMap truthOf

/-- The cache is the latest truth, and no truth is fetched again right after it was. -/
structure Latest {τ : Type} (c : GroundTruths τ) : Prop where
  cached : c.cache = c.truths.getLast?
  changes : (c.truths.map Prod.fst).IsChain (· ≠ ·)

/-- A submission, with what was asked and the outcome. -/
structure Submission (φ : Type) where
  nonce : ℤ
  accountSeq : ℕ
  trace : List (ReputerEv φ)
  out : Except PyException SubmitResult

section History

variable {τ φ : Type} {rep : ReputerFunction τ φ} {topicId : ℕ} {c c' : GroundTruths τ}
  {reputer : Reputer φ}

theorem Latest.step {event : ReputerEv φ} (latest : Latest c) (answered : Answers rep topicId c event c') :
    Latest c' := by
  cases answered with
  | other unrelated => exact latest
  | @loss nonce predicted asked reply cache run =>
    obtain ⟨cached, changes⟩ := latest
    generalize before_def : c.cache = before at run
    rw [before_def] at cached
    cases ReputerFunction.repFunc_call run with
    | hit gt => exact ⟨by simpa [GroundTruths.truths] using cached, by simpa [GroundTruths.truths] using changes⟩
    | failed missed err =>
      have same : GroundTruths.truths ⟨cache, c.asked ++ [⟨⟨(topicId, nonce)⟩, .error err⟩]⟩ = c.truths := by
        simp [GroundTruths.truths, truthOf]
      exact ⟨by rw [same]; exact cached, by rw [same]; exact changes⟩
    | fetched missed gt =>
      have grown : GroundTruths.truths ⟨some ((topicId, nonce), gt),
          c.asked ++ [⟨⟨(topicId, nonce)⟩, .ok gt⟩]⟩ = c.truths ++ [((topicId, nonce), gt)] := by
        simp [GroundTruths.truths, truthOf]
      constructor
      · rw [grown, List.getLast?_concat]
      · rw [grown, List.map_append, List.isChain_append]
        refine ⟨changes, .singleton _, ?_⟩
        intro key last key' only
        rw [List.getLast?_map, ← cached] at last
        obtain ⟨⟨key, old⟩, held, rfl⟩ := Option.map_eq_some_iff.mp last
        obtain rfl : (topicId, nonce) = key' := by simpa using only
        rintro rfl
        exact missed old held

theorem Latest.run {trace : List (ReputerEv φ)} (latest : Latest c)
    (path : Path (Answers rep topicId) c trace c') : Latest c' :=
  path.invariant (fun _ _ _ answered latest => latest.step answered) latest

/-- The cached truth was asked for. -/
theorem Latest.fetched {key : CacheKey} {gt : τ} (latest : Latest c) (held : c.cache = some (key, gt)) :
    ⟨⟨key⟩, .ok gt⟩ ∈ c.asked := by
  rw [latest.cached] at held
  obtain ⟨⟨query, reply⟩, member, read⟩ := List.mem_filterMap.mp (List.mem_of_getLast? held)
  cases reply with
  | error err => cases read
  | ok gt' =>
    obtain ⟨rfl, rfl⟩ : query.key = key ∧ gt' = gt := by simpa [truthOf] using read
    exact member

end History

/-! ## A sample -/

end AlloraSdk.Guarantees
