import AlloraSdk.Guarantees.SequentialNonces
import AlloraSdk.Source.Worker.Endings
import AlloraSdk.Source.Worker.Memory

/-!
# A nonce is recorded as done exactly when its outcome is definite

The worker records a nonce by the class of what its use case returns: everything
but a TxTimeoutError, and nothing for an exception that escapes. So the outcome
is judged right except in two ways: a deadline that a use case returns as
asyncio.TimeoutError is recorded, and a prediction that `canonicalize_dec`
refuses escapes from the inferer and is not.
-/

namespace AlloraSdk.Guarantees
open AlloraSdk.Logic AlloraSdk.Source.TxManager AlloraSdk.Source.Worker AlloraSdk.Source.Utils

/-- The attempt ended with a timeout. -/
def TimedOut : Except PyException SubmitResult → Prop
  | .ok (.failed e) => isTimeout e = true
  | .error e => isTimeout e = true
  | _ => False

/-- The answer makes the nested `submit` record the nonce. -/
def isRecorded : Except PyException SubmitResult → Bool
  | .ok result => result.isFinal
  | .error _ => false

/-- An attempt of one of the three roles: the exceptions its steps raised, whether
a prediction was unusable, and what came of it. -/
inductive AttemptOf (nonce : ℤ) (accountSeq : ℕ) :
    List PyException → Prop → Except PyException SubmitResult → Prop
  | worker {repr : DecInput → String} {role : Role DecInput} {trace : List (UseCaseEv DecInput)}
      {answer : Except PyException SubmitResult} (python : role.dec = pythonDecimals repr)
      (run : (role.submit nonce accountSeq).Runs () trace answer ()) :
      AttemptOf nonce accountSeq (trace.filterMap useCaseRaised) (Unusable role trace) answer
  | reputer {φ : Type} {reputer : Reputer φ} {trace : List (ReputerEv φ)}
      {answer : Except PyException SubmitResult} (run : (reputer.submit nonce accountSeq).Runs () trace answer ()) :
      AttemptOf nonce accountSeq (trace.filterMap reputerRaised) False answer

section Classification

theorem submitFailure_cases (e : PyException) :
    submitFailure e = .failed e ∨
      (∃ code, submitFailure e = .alreadySubmitted code) ∧ isTimeout e = false := by
  unfold submitFailure
  cases e with
  | txError codespace code message txHash =>
    by_cases already : isAlreadySubmitted code message = true
    · exact .inr ⟨⟨code, if_pos already⟩, rfl⟩
    · exact .inl (if_neg already)
  | _ => exact .inl rfl

/-- A returned exception is judged right unless it is asyncio.TimeoutError. -/
theorem failed_judged (e : PyException) :
    (isRecorded (.ok (.failed e)) = true ↔ ¬ TimedOut (.ok (.failed e))) ↔ e ≠ .asyncioTimeout := by
  cases e <;> simp [isRecorded, SubmitResult.isFinal, TimedOut, isTimeout]

theorem shown_judged {e : PyException} {result : SubmitResult}
    (shows : result = .failed e ∨ result = submitFailure e) :
    (isRecorded (.ok result) = true ↔ ¬ TimedOut (.ok result)) ↔ e ≠ .asyncioTimeout := by
  have failed := failed_judged e
  rcases shows with rfl | rfl
  · exact failed
  · rcases submitFailure_cases e with same | ⟨⟨code, same⟩, plain⟩
    · rw [same]
      exact failed
    · rw [same]
      constructor
      · rintro - rfl
        cases plain
      · intro
        simp [isRecorded, SubmitResult.isFinal, TimedOut]

/-- By what was raised and what escaped. -/
theorem ended_judged {raised : List PyException} {answer : Except PyException SubmitResult}
    (ended : Ended raised answer) :
    (isRecorded answer = true ↔ ¬ TimedOut answer) ↔
      .asyncioTimeout ∉ raised ∧ ¬ ∃ e, answer = .error e := by
  cases ended with
  | @raised e result shows =>
    rw [shown_judged shows]
    simp [eq_comm]
  | @own e result plain shows =>
    rw [shown_judged shows]
    have other : e ≠ .asyncioTimeout := by
      rintro rfl
      cases plain
    simp [other]
  | done resp => simp [isRecorded, SubmitResult.isFinal, TimedOut]
  | escaped plain => simp [isRecorded, TimedOut, plain]

theorem AttemptOf.judged {nonce : ℤ} {accountSeq : ℕ} {raised : List PyException} {unusable : Prop}
    {answer : Except PyException SubmitResult} (attempt : AttemptOf nonce accountSeq raised unusable answer) :
    (isRecorded answer = true ↔ ¬ TimedOut answer) ↔ .asyncioTimeout ∉ raised ∧ ¬ unusable := by
  cases attempt with
  | worker python run =>
    obtain ⟨ended, escapes⟩ := Role.submit_ended python run
    rw [ended_judged ended, escapes]
  | reputer run =>
    obtain ⟨ended, returned⟩ := Reputer.submit_ended run
    rw [ended_judged ended]
    simp [returned]

end Classification

section Worker

variable {nonce : ℤ} {accountSeq : ℕ} {s : WorkerState}

/-- After the answer of the use case, the set has the nonce as the answer says. -/
def RecordedNext (nonce : ℤ) (accountSeq : ℕ) (past : List (Entry WorkerState CycleRequest CycleReply))
    (s : WorkerState) (_ : CycleRequest) : Prop :=
  ∀ s₀ took answer, past = [⟨s₀, .submit nonce accountSeq, some (took, answer)⟩] →
    (nonce ∈ s.submittedNonces ↔ isRecorded answer = true)

theorem not_mem_prune (fresh : nonce ∉ s.submittedNonces) : nonce ∉ s.prune.submittedNonces := by
  intro member
  obtain ⟨time, there, -⟩ := TimestampOrderedSet.mem_prune.mp member
  exact fresh (TimestampOrderedSet.mem_iff.mpr ⟨time, there⟩)

theorem submit_records (fresh : nonce ∉ s.submittedNonces) :
    Routine.Ensures (RecordedNext nonce accountSeq) (fun _ _ _ => True) (submit nonce accountSeq) [] s := by
  constructor
  · intro s₀ took answer same
    cases same
  rintro ⟨took, answer⟩
  have onward : ∀ (entry : Entry WorkerState CycleRequest CycleReply) more t request,
      RecordedNext nonce accountSeq
        ([⟨s, .submit nonce accountSeq, some (took, answer)⟩, entry] ++ more) t request := by
    intro entry more t request s₀ took' answer' same
    cases same
  cases answer with
  | error e =>
    constructor
    · intro s₀ took' answer' same
      cases same
      exact iff_of_false (not_mem_prune (s := s.advance took) fresh) (by simp [isRecorded])
    · intro reply
      exact Coroutine.Ensures.of_forall _ (onward _)
  | ok result =>
    change Routine.Ensures (RecordedNext nonce accountSeq) (fun _ _ _ => True) (do
      if result.isFinal then
        Routine.update fun s => { s with submittedNonces := s.submittedNonces.add nonce s.clock }
      tryCatch afterSubmit fun _ => pure ()
      finishSubmit result) [⟨s, .submit nonce accountSeq, some (took, .ok result)⟩] (s.advance took)
    by_cases counts : result.isFinal = true
    · simp only [counts, if_true]
      constructor
      · intro s₀ took' answer' same
        cases same
        exact iff_of_true (TimestampOrderedSet.mem_add.mpr (.inl rfl)) counts
      · intro reply
        exact Coroutine.Ensures.of_forall _ (onward _)
    · simp only [counts]
      constructor
      · intro s₀ took' answer' same
        cases same
        exact iff_of_false fresh counts
      · intro reply
        exact Coroutine.Ensures.of_forall _ (onward _)

theorem recorded_next {took : ℕ} {answer : Except PyException SubmitResult} {s' : WorkerState}
    {next : CycleEntry} {rest : List CycleEntry} {out : Option (Except PyException Unit)}
    (fresh : nonce ∉ s.submittedNonces) (run : Routine.Journal (submit nonce accountSeq) s
      (⟨s, .submit nonce accountSeq, some (took, answer)⟩ :: next :: rest) out s') :
    nonce ∈ next.state.submittedNonces ↔ isRecorded answer = true := by
  obtain ⟨sound, -⟩ := Coroutine.Ensures.journal (submit_records fresh) run
  exact sound [⟨s, .submit nonce accountSeq, some (took, answer)⟩] next rest rfl s took answer rfl

end Worker

/-- Of any role and whatever fails: by the time of the worker's next request the
nonce is recorded exactly when the attempt did not time out, if and only if no
step raised asyncio.TimeoutError and no inferer's prediction was refused. -/
theorem nonce_recorded_iff {nonce : ℤ} {accountSeq took : ℕ} {raised : List PyException} {unusable : Prop}
    {answer : Except PyException SubmitResult} {s s' : WorkerState} {next : CycleEntry}
    {rest : List CycleEntry} {out : Option (Except PyException Unit)}
    (attempt : AttemptOf nonce accountSeq raised unusable answer) (fresh : nonce ∉ s.submittedNonces)
    (run : Routine.Journal (submit nonce accountSeq) s
      (⟨s, .submit nonce accountSeq, some (took, answer)⟩ :: next :: rest) out s') :
    (nonce ∈ next.state.submittedNonces ↔ ¬ TimedOut answer) ↔
      .asyncioTimeout ∉ raised ∧ ¬ unusable := by
  rw [recorded_next fresh run]
  exact attempt.judged

/-! ## One attempt of each kind -/

/-- The use case answers `answer`, and the rest of the submission is answered too. -/
def answerSubmit (answer : Except PyException SubmitResult) (w : Unit) :
    (request : CycleRequest) → CycleReply request × Unit
  | .submit _ _ => ((0, answer), w)
  | request => answerOpen ∅ w request

/-- The journal of such a submission at nonce 5. -/
theorem submit_journal (answer : Except PyException SubmitResult) :
    ∃ next rest out s', Routine.Journal (submit 5 3) ⟨0, .empty⟩
      (⟨⟨0, .empty⟩, .submit 5 3, some (0, answer)⟩ :: next :: rest) out s' := by
  have kept := Coroutine.keep_journal (answerSubmit answer) (submit 5 3).run ⟨0, .empty⟩ ()
  cases answer with
  | error e => exact ⟨_, _, _, _, kept⟩
  | ok result =>
    cases result with
    | failed e => cases e <;> exact ⟨_, _, _, _, kept⟩
    | _ => exact ⟨_, _, _, _, kept⟩

/-- A float whose text `canonicalize_dec` refuses. -/
def nan : DecInput := .float "nan"

def pyRepr : DecInput → String
  | .decimal _ => "Decimal('NaN')"
  | .float text => text
  | .int n => toString n
  | .str text => text
  | .other typeName _ => typeName

def plainInferer : Inferer DecInput := ⟨1, pythonDecimals pyRepr, true, false⟩

theorem plainInferer_dec : (Role.inferer plainInferer).dec = pythonDecimals pyRepr := rfl

def lossReputer : Reputer Unit := ⟨1, "allo1wallet", true, fun _ => some (), fun _ => "[]", pyRepr⟩

def landed : TxResponse := ⟨0, "", "", "AA", 0, 0⟩

/-- The callback predicts 1.5 and the transaction lands. -/
def answerAttempt (w : Unit) : (request : UseCaseRequest) → UseCaseReply DecInput request × Unit
  | .predict _ => (.ok (.scalar (.str "1.5")), w)
  | .forecast _ => (.ok [], w)
  | .sanityCheck => ((), w)
  | .transact _ _ => (.ok landed, w)

theorem inferer_lands : ∃ unusable, AttemptOf 5 3 [] unusable (.ok (.done landed)) := by
  have run := Routine.play_runs answerAttempt (plainInferer.submit 5 3) () ()
  exact ⟨_, .worker plainInferer_dec run⟩

theorem nonce_recorded_iff_landed : ∃ unusable next rest out s',
    Routine.Journal (submit 5 3) ⟨0, .empty⟩
      (⟨⟨0, .empty⟩, .submit 5 3, some (0, .ok (.done landed))⟩ :: next :: rest) out s' ∧
    ((5 ∈ next.state.submittedNonces ↔ ¬ TimedOut (.ok (.done landed))) ↔
      .asyncioTimeout ∉ ([] : List PyException) ∧ ¬ unusable) := by
  obtain ⟨unusable, attempt⟩ := inferer_lands
  obtain ⟨next, rest, out, s', run⟩ := submit_journal (.ok (.done landed))
  exact ⟨unusable, next, rest, out, s', run, nonce_recorded_iff attempt (by decide) run⟩

theorem reputer_deadline : AttemptOf 5 3 [.asyncioTimeout] False (.ok (.failed .asyncioTimeout)) := by
  have run : (lossReputer.submit 5 3).Runs () [⟨.networkInferences 5, .error .asyncioTimeout⟩]
      (.ok (.failed .asyncioTimeout)) () :=
    Routine.runs_await_bind.mpr ⟨_, [], rfl, Routine.runs_pure.mpr ⟨rfl, rfl, rfl⟩⟩
  exact .reputer run

theorem inferer_nan : ∃ unusable e, AttemptOf 5 3 [] unusable (.error e) ∧ isTimeout e = false := by
  have refused : plainInferer.labeledValues (.scalar nan) =
      .error (.other "non-finite decimal not allowed: nan") := by decide +kernel
  have run : (plainInferer.submit 5 3).Runs () [⟨.predict 5, .ok (.scalar nan)⟩]
      (.error (.other "non-finite decimal not allowed: nan")) () :=
    Routine.runs_await_bind.mpr ⟨_, [], rfl, Routine.runs_bind.mpr (.inr ⟨(), (), [], [],
      Routine.runs_pure.mpr ⟨rfl, rfl, rfl⟩,
      Routine.runs_ofExcept_bind.mpr (.inl ⟨_, refused, rfl, rfl, rfl⟩), rfl⟩)⟩
  exact ⟨_, _, .worker plainInferer_dec run, rfl⟩

/-- The deadline of a reputer's query is recorded as done; an inferer's NaN is not,
though no deadline was involved. -/
theorem nonce_misrecorded :
    (∃ answer next rest out s', AttemptOf 5 3 [.asyncioTimeout] False answer ∧ TimedOut answer ∧
      Routine.Journal (submit 5 3) ⟨0, .empty⟩
        (⟨⟨0, .empty⟩, .submit 5 3, some (0, answer)⟩ :: next :: rest) out s' ∧
      5 ∈ next.state.submittedNonces) ∧
    ∃ unusable answer next rest out s', AttemptOf 5 3 [] unusable answer ∧ ¬ TimedOut answer ∧
      Routine.Journal (submit 5 3) ⟨0, .empty⟩
        (⟨⟨0, .empty⟩, .submit 5 3, some (0, answer)⟩ :: next :: rest) out s' ∧
      5 ∉ next.state.submittedNonces := by
  constructor
  · obtain ⟨next, rest, out, s', run⟩ := submit_journal (.ok (.failed .asyncioTimeout))
    exact ⟨_, next, rest, out, s', reputer_deadline, rfl, run, (recorded_next (by decide) run).mpr rfl⟩
  · obtain ⟨unusable, e, attempt, plain⟩ := inferer_nan
    obtain ⟨next, rest, out, s', run⟩ := submit_journal (.error e)
    refine ⟨unusable, _, next, rest, out, s', attempt, by simp [TimedOut, plain], run, ?_⟩
    rw [recorded_next (by decide) run]
    simp [isRecorded]

end AlloraSdk.Guarantees
