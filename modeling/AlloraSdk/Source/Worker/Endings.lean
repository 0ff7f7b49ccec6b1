import AlloraSdk.Source.Worker.Reputer

/-!
# How an attempt at a nonce ends

An exception that a step raises ends the attempt, and comes back as a value. Else
the attempt ends with an exception of its own, which is no timeout, or with a
response. Only an inferer lets an exception escape: that of the conversion of its
prediction.
-/

namespace AlloraSdk.Source.Worker
open AlloraSdk.Logic AlloraSdk.Source.TxManager AlloraSdk.Source.Utils

/-- A TxTimeoutError, or the deadline of a query. -/
def isTimeout : PyException → Bool
  | .txTimeout _ | .asyncioTimeout => true
  | _ => false

/-- What a step of an inferer or a forecaster raised. -/
def useCaseRaised {α : Type} : UseCaseEv α → Option PyException
  | ⟨.predict _, .error e⟩ => some e
  | ⟨.forecast _, .error e⟩ => some e
  | ⟨.transact _ _, .error e⟩ => some e
  | _ => none

/-- What a step of a reputer raised; the stake top-up is not part of the attempt. -/
def reputerRaised {φ : Type} : ReputerEv φ → Option PyException
  | ⟨.networkInferences _, .error e⟩ => some e
  | ⟨.loss _ _, .error e⟩ => some e
  | ⟨.transact _ _, .error e⟩ => some e
  | _ => none

/-- The exceptions that the steps raised, and how the attempt ended. -/
inductive Ended : List PyException → Except PyException SubmitResult → Prop
  | raised {e : PyException} {result : SubmitResult} (shows : result = .failed e ∨ result = submitFailure e) :
      Ended [e] (.ok result)
  | own {e : PyException} {result : SubmitResult} (plain : isTimeout e = false)
      (shows : result = .failed e ∨ result = submitFailure e) : Ended [] (.ok result)
  | done (resp : TxResponse) : Ended [] (.ok (.done resp))
  | escaped {e : PyException} (plain : isTimeout e = false) : Ended [] (.error e)

def returnedPrediction {α : Type} : UseCaseEv α → Option (Prediction α)
  | ⟨.predict _, .ok prediction⟩ => some prediction
  | _ => none

/-- A prediction that an inferer cannot convert: a number alone that `float` does not
hold, when the sanity check asks for it, or a value that `canonicalize_dec` refuses. -/
inductive Inconvertible (inferer : Inferer DecInput) : Prediction DecInput → Prop
  | overflow {n : ℤ} (checks : inferer.sanityCheckEnabled = true) (large : floatOverflow ≤ n.natAbs) :
      Inconvertible inferer (.scalar (.int n))
  | refused {prediction : Prediction DecInput} {err : PyException}
      (refused : inferer.labeledValues prediction = .error err) : Inconvertible inferer prediction

/-- The callback of an inferer returned such a prediction. -/
def Unusable (role : Role DecInput) (trace : List (UseCaseEv DecInput)) : Prop :=
  match role with
  | .inferer config => ∃ prediction ∈ trace.filterMap returnedPrediction, Inconvertible config prediction
  | .forecaster _ => False

section Conversion

variable {repr : DecInput → String}

theorem canonicalizeDec_plain {value : DecInput} {e : PyException}
    (refused : canonicalizeDec repr value = .error e) : isTimeout e = false := by
  unfold canonicalizeDec toDecimal at refused
  cases value with
  | decimal d =>
    cases d <;> cases refused
    rfl
  | int n => cases refused
  | other typeName isFloat =>
    cases refused
    rfl
  | float text | str text =>
    dsimp only at refused
    cases read : decimalOfText text.toList with
    | error err =>
      rw [read] at refused
      cases refused
      rfl
    | ok d =>
      rw [read] at refused
      cases d <;> cases refused
      rfl

theorem canonicalElements_plain {values : List (String × DecInput)} {e : PyException}
    (refused : canonicalElements (pythonDecimals repr) values = .error e) : isTimeout e = false := by
  unfold canonicalElements at refused
  induction values with
  | nil => cases refused
  | cons entry values ih =>
    rw [List.mapM_cons] at refused
    rcases bind_eq_error refused with first | ⟨pair, -, refused⟩
    · rcases bind_eq_error first with refused | ⟨text, -, named⟩
      · exact canonicalizeDec_plain refused
      · cases named
    · rcases bind_eq_error refused with rest | ⟨elements, -, joined⟩
      · exact ih rest
      · cases joined

theorem insertWorkerPayload_plain {topicId : ℕ} {nonce : ℤ} {inference : Option (List (String × String))}
    {elements : List (String × String)} {e : PyException}
    (refused : insertWorkerPayload (pythonDecimals repr) topicId nonce inference elements = .error e) :
    isTimeout e = false := by
  unfold insertWorkerPayload at refused
  split at refused
  · cases refused
    rfl
  · split at refused
    · cases refused
    · rcases bind_eq_error refused with converted | ⟨elements, -, made⟩
      · exact canonicalElements_plain converted
      · cases made

theorem labeledValues_plain {inferer : Inferer DecInput} (python : inferer.dec = pythonDecimals repr)
    {prediction : Prediction DecInput} {e : PyException}
    (refused : inferer.labeledValues prediction = .error e) : isTimeout e = false := by
  cases prediction with
  | dict values =>
    simp only [Inferer.labeledValues, python] at refused
    exact canonicalElements_plain refused
  | scalar value =>
    simp only [Inferer.labeledValues, python] at refused
    exact canonicalElements_plain refused

/-- An int that `float` does not hold, or the labeled values. -/
theorem converted_cases {inferer : Inferer DecInput} (python : inferer.dec = pythonDecimals repr)
    (prediction : Prediction DecInput) :
    (∃ n, inferer.sanityCheckEnabled = true ∧ floatOverflow ≤ n.natAbs ∧ prediction = .scalar (.int n) ∧
      inferer.converted prediction = .error (.other "int too large to convert to float")) ∨
    inferer.converted prediction = inferer.labeledValues prediction := by
  unfold Inferer.converted Inferer.checkedFloat
  cases prediction with
  | dict values => exact .inr rfl
  | scalar value =>
    by_cases checks : inferer.sanityCheckEnabled = true
    · simp only [if_pos checks, python]
      cases value with
      | int n =>
        by_cases large : floatOverflow ≤ n.natAbs
        · exact .inl ⟨n, checks, large, rfl, by simp only [pythonDecimals, pythonFloat, if_pos large]⟩
        · exact .inr (by simp only [pythonDecimals, pythonFloat, if_neg large])
      | decimal d =>
        cases d with
        | finite d => exact .inr rfl
        | special signaling => cases signaling <;> exact .inr rfl
      | float text => exact .inr rfl
      | str text =>
        cases reads : isFloatText text.toList <;> exact .inr (by simp only [pythonDecimals, pythonFloat, reads]; rfl)
      | other typeName isFloat => cases isFloat <;> exact .inr rfl
    · exact .inr (by simp only [if_neg checks])

theorem converted_plain {inferer : Inferer DecInput} (python : inferer.dec = pythonDecimals repr)
    {prediction : Prediction DecInput} {e : PyException}
    (refused : inferer.converted prediction = .error e) : isTimeout e = false := by
  obtain ⟨n, -, -, -, same⟩ | same := converted_cases python prediction
  · cases same.symm.trans refused
    rfl
  · exact labeledValues_plain python (same.symm.trans refused)

theorem inconvertible_iff {inferer : Inferer DecInput} (python : inferer.dec = pythonDecimals repr)
    {prediction : Prediction DecInput} :
    Inconvertible inferer prediction ↔ ∃ err, inferer.converted prediction = .error err := by
  constructor
  · rintro (⟨checks, large⟩ | ⟨refused⟩)
    · refine ⟨.other "int too large to convert to float", ?_⟩
      simp only [Inferer.converted, Inferer.checkedFloat, if_pos checks, python, pythonDecimals, pythonFloat,
        if_pos large]
    · obtain ⟨n, -, -, -, same⟩ | same := converted_cases python prediction
      · exact ⟨_, same⟩
      · exact ⟨_, same.trans refused⟩
  · rintro ⟨err, refused⟩
    obtain ⟨n, checks, large, rfl, -⟩ | same := converted_cases python prediction
    · exact .overflow checks large
    · exact .refused (same.symm.trans refused)

end Conversion

section Roles

variable {repr : DecInput → String} {nonce : ℤ} {accountSeq : ℕ} {s s' : Unit}

/-- The transaction inside its `try`. -/
theorem tryTransact_ended {payload : Except PyException WorkerPayload} {trace : List (UseCaseEv DecInput)}
    {out : Except PyException SubmitResult} (plain : ∀ e, payload = .error e → isTimeout e = false)
    (run : (tryCatch (transact payload accountSeq) fun err => pure (submitFailure err)).Runs s trace out s') :
    Ended (trace.filterMap useCaseRaised) out ∧ (∀ e, out ≠ .error e) ∧
      trace.filterMap returnedPrediction = [] := by
  obtain ⟨err, rfl, rfl, rfl⟩ | ⟨sent, outcome, rfl, rfl, rfl⟩ := tryTransact_runs run
  · exact ⟨.own (plain err rfl) (.inr rfl), by simp, rfl⟩
  · cases outcome with
    | error err => exact ⟨.raised (.inr rfl), by simp, rfl⟩
    | ok resp => exact ⟨.done resp, by simp, rfl⟩

/-- An inferer's attempt; the conversion stands outside every `try`. -/
theorem Inferer.submit_ended {inferer : Inferer DecInput} (python : inferer.dec = pythonDecimals repr)
    {trace : List (UseCaseEv DecInput)} {out : Except PyException SubmitResult}
    (run : (inferer.submit nonce accountSeq).Runs s trace out s') :
    Ended (trace.filterMap useCaseRaised) out ∧
      ((∃ e, out = .error e) ↔ Unusable (.inferer inferer) trace) := by
  cases Inferer.submit_attempted run with
  | unconfigured missing => exact ⟨.own rfl (.inl rfl), by simp [Unusable]⟩
  | raised configured err => exact ⟨.raised (.inl rfl), by simp [Unusable, returnedPrediction]⟩
  | unusable configured checked refused =>
    have ended := Ended.escaped (converted_plain python refused)
    have bad := (inconvertible_iff python).mpr ⟨_, refused⟩
    rcases checked with rfl | rfl
    · exact ⟨ended, by simp [Unusable, returnedPrediction, bad]⟩
    · exact ⟨ended, by simp [Unusable, returnedPrediction, bad]⟩
  | @tried configured prediction checks rest values out checked usable run =>
    have plain : ∀ e, insertWorkerPayload inferer.dec inferer.topicId nonce (some values) [] = .error e →
        isTimeout e = false := by
      rw [python]
      exact fun e refused => insertWorkerPayload_plain refused
    obtain ⟨ended, returned, unasked⟩ := tryTransact_ended plain run
    have quiet : checks.filterMap useCaseRaised = [] ∧ checks.filterMap returnedPrediction = [] := by
      rcases checked with rfl | rfl <;> exact ⟨rfl, rfl⟩
    have raised : (⟨.predict nonce, .ok prediction⟩ :: (checks ++ rest)).filterMap useCaseRaised =
        rest.filterMap useCaseRaised := by
      rw [List.filterMap_cons_none rfl, List.filterMap_append, quiet.1, List.nil_append]
    have predictions : (⟨.predict nonce, .ok prediction⟩ :: (checks ++ rest)).filterMap returnedPrediction =
        [prediction] := by
      have head : returnedPrediction (⟨.predict nonce, .ok prediction⟩ : UseCaseEv DecInput) =
        some prediction := rfl
      rw [List.filterMap_cons_some head, List.filterMap_append, quiet.2, unasked, List.nil_append]
    have good : ¬ Inconvertible inferer prediction := by
      rw [inconvertible_iff python, usable]
      simp
    simp only [Unusable, raised, predictions]
    exact ⟨ended, by simp [returned, good]⟩

/-- A forecaster's attempt. -/
theorem Forecaster.submit_ended {forecaster : Forecaster DecInput}
    (python : forecaster.dec = pythonDecimals repr) {trace : List (UseCaseEv DecInput)}
    {out : Except PyException SubmitResult} (run : (forecaster.submit nonce accountSeq).Runs s trace out s') :
    Ended (trace.filterMap useCaseRaised) out ∧
      ((∃ e, out = .error e) ↔ Unusable (.forecaster forecaster) trace) := by
  cases Forecaster.submit_attempted run with
  | unconfigured missing => exact ⟨.own rfl (.inl rfl), by simp [Unusable]⟩
  | raised configured err => exact ⟨.raised (.inl rfl), by simp [Unusable]⟩
  | empty configured vacant => exact ⟨.own rfl (.inl rfl), by simp [Unusable]⟩
  | @tried configured forecasts rest out filled run =>
    have plain : ∀ e, forecaster.elementsPayload nonce forecasts = .error e → isTimeout e = false := by
      intro e refused
      unfold Forecaster.elementsPayload at refused
      rw [python] at refused
      rcases bind_eq_error refused with converted | ⟨elements, -, refused⟩
      · exact canonicalElements_plain converted
      · exact insertWorkerPayload_plain refused
    obtain ⟨ended, returned, -⟩ := tryTransact_ended plain run
    exact ⟨ended, by simp [Unusable, returned]⟩

/-- The numbers of a role. -/
def Role.dec {α : Type} : Role α → Decimals α
  | .inferer config => config.dec
  | .forecaster config => config.dec

theorem Role.submit_ended {role : Role DecInput} (python : role.dec = pythonDecimals repr)
    {trace : List (UseCaseEv DecInput)} {out : Except PyException SubmitResult}
    (run : (role.submit nonce accountSeq).Runs s trace out s') :
    Ended (trace.filterMap useCaseRaised) out ∧ ((∃ e, out = .error e) ↔ Unusable role trace) := by
  cases role with
  | inferer config => exact Inferer.submit_ended python run
  | forecaster config => exact Forecaster.submit_ended python run

end Roles

section Reputer

variable {φ : Type} {reputer : Reputer φ} {nonce : ℤ} {accountSeq : ℕ}

theorem Reputer.computeLoss_propagates (nonce : ℤ) (values : List LabeledValue) :
    Routine.Propagates reputerRaised (fun e => isTimeout e = false) (reputer.computeLoss nonce values) := by
  refine .bind (.ofExcept ?_) fun predicted => .bind (.demand ?_ ?_) fun loss => .ofExcept ?_
  · intro e refused
    unfold Reputer.predicted at refused
    split at refused
    · cases refused
    · cases refused
      rfl
  · rintro reply e rfl
    rfl
  · rintro reply loss rfl
    rfl
  · exact fun e refused => canonicalizeDec_plain refused

theorem Reputer.attributedLosses_propagates (nonce : ℤ) (values : List AttributedValues) :
    Routine.Propagates reputerRaised (fun e => isTimeout e = false) (reputer.attributedLosses nonce values) := by
  induction values with
  | nil => exact .pure _
  | cons x rest ih =>
    exact .bind (Reputer.computeLoss_propagates nonce x.values) fun loss => .bind ih fun losses => .pure _

theorem Reputer.oneOutLosses_propagates (nonce : ℤ) (ooifs : PyDict (PyDict String))
    (values : List OneOutInfererForecaster) :
    Routine.Propagates reputerRaised (fun e => isTimeout e = false) (reputer.oneOutLosses nonce ooifs values) := by
  induction values generalizing ooifs with
  | nil => exact .pure _
  | cons x rest ih =>
    exact .bind (Reputer.computeLoss_propagates nonce x.combinedInference) fun loss => ih _

theorem Reputer.computeLossBundle_propagates (inferences : NetworkInferenceBundle) :
    Routine.Propagates reputerRaised (fun e => isTimeout e = false) (reputer.computeLossBundle inferences) := by
  unfold Reputer.computeLossBundle
  split
  · refine .bind (Reputer.computeLoss_propagates ..) fun combined => .bind (Reputer.computeLoss_propagates ..)
      fun naive => ?_
    refine .bind (Reputer.attributedLosses_propagates ..) fun inferers =>
      .bind (Reputer.attributedLosses_propagates ..) fun forecasters => ?_
    refine .bind (Reputer.attributedLosses_propagates ..) fun oneOutInferers =>
      .bind (Reputer.attributedLosses_propagates ..) fun oneOutForecasters => ?_
    exact .bind (Reputer.attributedLosses_propagates ..) fun oneInForecasters =>
      .bind (Reputer.oneOutLosses_propagates ..) fun ooifs => .pure _
  · exact .throw rfl

theorem Reputer.transact_propagates (nonce : ℤ) (accountSeq : ℕ) (bundle : InputValueBundle) :
    Routine.Propagates reputerRaised (fun e => isTimeout e = false) (reputer.transact nonce accountSeq bundle) := by
  apply Routine.Propagates.demand
  · rintro reply e rfl
    rfl
  · rintro reply resp rfl
    rfl

theorem Reputer.maybeStake_quiet {trace : List (ReputerEv φ)} {s s' : Unit} {out : Except PyException Unit}
    (run : (Reputer.maybeStake : ReputerAct φ Unit).Runs s trace out s') :
    trace.filterMap reputerRaised = [] ∧ out = .ok () := by
  have asked : ∀ {s trace out s'}, (Routine.await .maybeStake >>= Routine.ofExcept : ReputerAct φ Unit).Runs
      s trace out s' → trace.filterMap reputerRaised = [] := by
    intro s trace out s' run
    obtain ⟨reply, rest, rfl, run₁⟩ := Routine.runs_await_bind.mp run
    obtain ⟨rfl, -, -⟩ := Routine.runs_ofExcept.mp run₁
    rfl
  obtain ⟨_, body, rfl⟩ | ⟨e, t, first, last, body, handler, rfl⟩ := Routine.runs_tryCatch.mp run
  · exact ⟨asked body, rfl⟩
  · obtain ⟨rfl, rfl, -⟩ := Routine.runs_pure.mp handler
    rw [List.append_nil]
    exact ⟨asked body, rfl⟩

theorem Reputer.submitBundle_ended {bundle : InputValueBundle} {trace : List (ReputerEv φ)} {s s' : Unit}
    {out : Except PyException SubmitResult}
    (run : (reputer.submitBundle nonce accountSeq bundle).Runs s trace out s') :
    Ended (trace.filterMap reputerRaised) out ∧ ∀ e, out ≠ .error e := by
  obtain ⟨outcome, t, first, last, ran, run₁, rfl⟩ := Routine.runs_attempt_bind.mp run
  obtain ⟨quiet, failed⟩ := Reputer.transact_propagates nonce accountSeq bundle ran
  rw [List.filterMap_append]
  cases outcome with
  | error err =>
    obtain ⟨rfl, rfl, -⟩ := Routine.runs_pure.mp run₁
    rcases failed err rfl with raised | ⟨none, plain⟩
    · rw [raised]
      exact ⟨.raised (.inr rfl), by simp⟩
    · rw [none]
      exact ⟨.own plain (.inr rfl), by simp⟩
  | ok resp =>
    rw [quiet resp rfl]
    obtain ⟨_, staked, -⟩ | ⟨_, u, before, after, staked, run₂, rfl⟩ := Routine.runs_bind.mp run₁
    · cases (Reputer.maybeStake_quiet staked).2
    · obtain ⟨rfl, rfl, -⟩ := Routine.runs_pure.mp run₂
      rw [List.append_nil, (Reputer.maybeStake_quiet staked).1]
      exact ⟨.done resp, by simp⟩

/-- A reputer's attempt: nothing escapes. -/
theorem Reputer.submit_ended {trace : List (ReputerEv φ)} {s s' : Unit}
    {out : Except PyException SubmitResult} (run : (reputer.submit nonce accountSeq).Runs s trace out s') :
    Ended (trace.filterMap reputerRaised) out ∧ ∀ e, out ≠ .error e := by
  obtain ⟨answer, rest, rfl, run₁⟩ := Routine.runs_await_bind.mp run
  cases answer with
  | error err =>
    obtain ⟨rfl, rfl, -⟩ := Routine.runs_pure.mp run₁
    exact ⟨.raised (.inl rfl), by simp⟩
  | ok found =>
    have raised : ((⟨.networkInferences nonce, .ok found⟩ :: rest : List (ReputerEv φ))).filterMap
        reputerRaised = rest.filterMap reputerRaised := List.filterMap_cons_none rfl
    rw [raised]
    cases found with
    | none =>
      obtain ⟨rfl, rfl, -⟩ := Routine.runs_pure.mp run₁
      exact ⟨.own rfl (.inl rfl), by simp⟩
    | some inferences =>
      obtain ⟨outcome, t, first, last, ran, run₂, rfl⟩ := Routine.runs_attempt_bind.mp run₁
      obtain ⟨quiet, failed⟩ := Reputer.computeLossBundle_propagates inferences ran
      rw [List.filterMap_append]
      cases outcome with
      | error err =>
        obtain ⟨rfl, rfl, -⟩ := Routine.runs_pure.mp run₂
        rcases failed err rfl with raised | ⟨none, plain⟩
        · rw [raised]
          exact ⟨.raised (.inl rfl), by simp⟩
        · rw [none]
          exact ⟨.own plain (.inl rfl), by simp⟩
      | ok bundle =>
        rw [quiet bundle rfl, List.nil_append]
        exact Reputer.submitBundle_ended run₂

end Reputer

end AlloraSdk.Source.Worker
