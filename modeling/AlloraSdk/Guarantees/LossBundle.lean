import AlloraSdk.Source.Worker.Reputer

/-!
# The loss bundle

`_compute_loss_bundle` asks the loss function once for every entry of the
network inferences, in order. A bundle that it returns holds the canonical loss of
each entry beside the entry's own worker; the one-out inferer-forecaster losses
are regrouped by forecaster, and flattened they are the entries again.
-/

namespace AlloraSdk.Guarantees
open AlloraSdk.Logic AlloraSdk.Source.TxManager AlloraSdk.Source.Utils AlloraSdk.Source.Worker

/-- The finite decimal that a loss denotes; nothing for NaN, an infinity, text that is
no decimal and a value of another type. -/
def lossValue : DecInput → Option Decimal
  | .decimal (.finite d) => some d
  | .decimal (.special _) | .other _ _ => none
  | .int n => some ⟨n < 0, n.natAbs, 0⟩
  | .float text | .str text =>
    match decimalOfText text.toList with
    | .ok (.finite d) => some d
    | _ => none

/-- The number of every label of the values, the last one where a label comes more
than once. -/
structure Reads {φ : Type} (float : String → Option φ) (values : List LabeledValue)
    (predicted : List (String × φ)) : Prop where
  numeric : ∀ v ∈ values, float v.value ≠ none
  distinct : (predicted.map Prod.fst).Nodup
  last : ∀ label x, (label, x) ∈ predicted ↔ ∃ before v after, values = before ++ v :: after ∧
    v.labelName = label ∧ float v.value = some x ∧ ∀ w ∈ after, w.labelName ≠ label

section Predicted

variable {φ : Type} {float : String → Option φ}

/-- Values one after the other: what was read before stays unless a later label
overwrites it. -/
theorem foldlM_reads {values : List LabeledValue} {dict result : PyDict φ}
    (folded : values.foldlM (fun (dict : PyDict φ) v => (float v.value).map (dict.set v.labelName)) dict =
      some result) :
    (∀ v ∈ values, float v.value ≠ none) ∧ ∀ label x, (label, x) ∈ result.entries ↔
      (∃ before v after, values = before ++ v :: after ∧ v.labelName = label ∧ float v.value = some x ∧
        ∀ w ∈ after, w.labelName ≠ label) ∨
      (label, x) ∈ dict.entries ∧ ∀ w ∈ values, w.labelName ≠ label := by
  induction values generalizing dict with
  | nil =>
    cases folded
    exact ⟨by simp, by simp⟩
  | cons v values ih =>
    rw [List.foldlM_cons] at folded
    cases read : float v.value with
    | none =>
      rw [read] at folded
      cases folded
    | some y =>
      rw [read] at folded
      obtain ⟨numeric, last⟩ := ih folded
      refine ⟨?_, fun label x => ?_⟩
      · intro w member
        rcases List.mem_cons.mp member with rfl | later
        · simp [read]
        · exact numeric w later
      rw [last, PyDict.mem_set, ite_prop_iff_or]
      constructor
      · rintro (⟨before, w, after, rfl, named, number, final⟩ | ⟨⟨rfl, rfl⟩ | ⟨other, held⟩, untouched⟩)
        · exact .inl ⟨v :: before, w, after, rfl, named, number, final⟩
        · exact .inl ⟨[], v, values, rfl, rfl, read, untouched⟩
        · refine .inr ⟨held, fun w member => ?_⟩
          rcases List.mem_cons.mp member with rfl | later
          · exact Ne.symm other
          · exact untouched w later
      · rintro (⟨before, w, after, split, named, number, final⟩ | ⟨held, untouched⟩)
        · cases before with
          | nil =>
            obtain ⟨rfl, rfl⟩ := List.cons_eq_cons.mp split
            exact .inr ⟨.inl ⟨named.symm, Option.some.inj (number.symm.trans read)⟩, final⟩
          | cons u before =>
            obtain ⟨rfl, rfl⟩ := List.cons_eq_cons.mp split
            exact .inl ⟨before, w, after, rfl, named, number, final⟩
        · exact .inr ⟨.inr ⟨Ne.symm (untouched v (.head _)), held⟩, fun w later => untouched w (.tail _ later)⟩

theorem predicted_reads {reputer : Reputer φ} {values : List LabeledValue} {predicted : List (String × φ)}
    (read : reputer.predicted values = .ok predicted) : Reads reputer.float values predicted := by
  unfold Reputer.predicted at read
  split at read
  · rename_i dict folded
    cases read
    obtain ⟨numeric, last⟩ := foldlM_reads folded
    exact ⟨numeric, dict.distinct, fun label x => by simp [last, PyDict.empty]⟩
  · cases read

end Predicted

section Entries

variable {φ : Type} {reputer : Reputer φ} {nonce : ℤ}

theorem canonicalizeDec_eq_ok {repr : DecInput → String} {loss : DecInput} {text : String} :
    canonicalizeDec repr loss = .ok text ↔
      ∃ d, lossValue loss = some d ∧ text = String.ofList (formatDecimal d) := by
  have finite : ∀ d : Decimal, (.ok (String.ofList (formatDecimal d)) : Except PyException String) = .ok text ↔
      ∃ d', some d = some d' ∧ text = String.ofList (formatDecimal d') := by
    intro d
    simp [eq_comm]
  have special : ∀ e : PyException, (.error e : Except PyException String) = .ok text ↔
      ∃ d, (none : Option Decimal) = some d ∧ text = String.ofList (formatDecimal d) := by
    intro e
    simp
  cases loss with
  | decimal value =>
    cases value with
    | finite d => exact finite d
    | special signaling => exact special _
  | int n => exact finite ⟨n < 0, n.natAbs, 0⟩
  | other typeName isFloat => exact special _
  | float content | str content =>
    cases read : decimalOfText content.toList with
    | error err => simp [canonicalizeDec, toDecimal, lossValue, read, bind, Except.bind, Except.mapError]
    | ok value =>
      simp only [canonicalizeDec, toDecimal, lossValue, read]
      cases value with
      | finite d => exact finite d
      | special signaling => exact special _

/-- The values of an entry, the call of the loss function with their numbers, and the
text of the loss that it returned. -/
def Evaluates (reputer : Reputer φ) (nonce : ℤ) (values : List LabeledValue) (e : ReputerEv φ)
    (text : String) : Prop :=
  ∃ predicted loss d, Reads reputer.float values predicted ∧ e = ⟨.loss nonce predicted, .ok loss⟩ ∧
    lossValue loss = some d ∧ text = String.ofList (formatDecimal d)

/-- One call and one loss for each entry, in order. -/
inductive EvaluatesAll (reputer : Reputer φ) (nonce : ℤ) :
    List (List LabeledValue) → List (ReputerEv φ) → List String → Prop
  | nil : EvaluatesAll reputer nonce [] [] []
  | cons {values : List LabeledValue} {e : ReputerEv φ} {text : String} {inputs : List (List LabeledValue)}
      {trace : List (ReputerEv φ)} {texts : List String} (first : Evaluates reputer nonce values e text)
      (rest : EvaluatesAll reputer nonce inputs trace texts) :
      EvaluatesAll reputer nonce (values :: inputs) (e :: trace) (text :: texts)

theorem EvaluatesAll.append {inputs inputs' : List (List LabeledValue)} {trace trace' : List (ReputerEv φ)}
    {texts texts' : List String} (first : EvaluatesAll reputer nonce inputs trace texts)
    (rest : EvaluatesAll reputer nonce inputs' trace' texts') :
    EvaluatesAll reputer nonce (inputs ++ inputs') (trace ++ trace') (texts ++ texts') := by
  induction first with
  | nil => exact rest
  | cons first _ ih => exact .cons first ih

theorem EvaluatesAll.input {inputs : List (List LabeledValue)} {trace : List (ReputerEv φ)}
    {texts : List String} {values : List LabeledValue} (all : EvaluatesAll reputer nonce inputs trace texts)
    (member : values ∈ inputs) : ∀ v ∈ values, reputer.float v.value ≠ none := by
  induction all with
  | nil => cases member
  | cons first _ ih =>
    rcases List.mem_cons.mp member with rfl | member
    · obtain ⟨predicted, -, -, reads, -⟩ := first
      exact reads.numeric
    · exact ih member

theorem EvaluatesAll.event {inputs : List (List LabeledValue)} {trace : List (ReputerEv φ)}
    {texts : List String} {e : ReputerEv φ} (all : EvaluatesAll reputer nonce inputs trace texts)
    (member : e ∈ trace) : ∃ predicted loss, e = ⟨.loss nonce predicted, .ok loss⟩ ∧ lossValue loss ≠ none := by
  induction all with
  | nil => cases member
  | cons first _ ih =>
    rcases List.mem_cons.mp member with rfl | member
    · obtain ⟨predicted, loss, d, -, rfl, finite, -⟩ := first
      exact ⟨predicted, loss, rfl, by simp [finite]⟩
    · exact ih member

theorem computeLoss_evaluates {values : List LabeledValue} {trace : List (ReputerEv φ)} {text : String}
    {s s' : Unit} (run : (reputer.computeLoss nonce values).Runs s trace (.ok text) s') :
    ∃ e, trace = [e] ∧ Evaluates reputer nonce values e text := by
  obtain ⟨e, -, -, same, -⟩ | ⟨predicted, numeric, run₁⟩ := Routine.runs_ofExcept_bind.mp run
  · cases same
  rw [bind_assoc] at run₁
  obtain ⟨reply, rest, rfl, run₂⟩ := Routine.runs_await_bind.mp run₁
  obtain ⟨e, -, -, same, -⟩ | ⟨loss, returned, run₃⟩ := Routine.runs_ofExcept_bind.mp run₂
  · cases same
  obtain ⟨rfl, canonical, -⟩ := Routine.runs_ofExcept.mp run₃
  obtain ⟨d, finite, rfl⟩ := canonicalizeDec_eq_ok.mp canonical.symm
  exact ⟨_, rfl, predicted, loss, d, predicted_reads numeric, by rw [returned], finite, rfl⟩

/-- Each worker, in order, with the loss of its own values. -/
structure Attributed (reputer : Reputer φ) (nonce : ℤ) (entries : List AttributedValues)
    (trace : List (ReputerEv φ)) (losses : List AttributedLoss) : Prop where
  workers : losses.map Prod.fst = entries.map (·.worker)
  evaluated : EvaluatesAll reputer nonce (entries.map (·.values)) trace (losses.map Prod.snd)

theorem attributedLosses_attributed {entries : List AttributedValues} {trace : List (ReputerEv φ)}
    {losses : List AttributedLoss} {s s' : Unit}
    (run : (reputer.attributedLosses nonce entries).Runs s trace (.ok losses) s') :
    Attributed reputer nonce entries trace losses := by
  induction entries generalizing s trace losses with
  | nil =>
    obtain ⟨rfl, same, -⟩ := Routine.runs_pure.mp run
    cases same
    exact ⟨rfl, .nil⟩
  | cons entry entries ih =>
    obtain ⟨text, t, first, rest, evaluated, run₁, rfl⟩ := Routine.runs_bind_ok run
    obtain ⟨later, u, middle, last, others, run₂, rfl⟩ := Routine.runs_bind_ok run₁
    obtain ⟨rfl, same, -⟩ := Routine.runs_pure.mp run₂
    cases same
    obtain ⟨e, rfl, evaluates⟩ := computeLoss_evaluates evaluated
    obtain ⟨workers, all⟩ := ih others
    rw [List.append_nil]
    exact ⟨congrArg (entry.worker :: ·) workers, .cons evaluates all⟩

end Entries

/-! ## The regrouped losses -/

/-- The losses of the one-out inferer-forecaster entries, each with its pair. -/
def flattened (groups : List (String × List AttributedLoss)) : List ((String × String) × String) :=
  groups.flatMap fun group => group.2.map fun loss => ((group.1, loss.1), loss.2)

def pairOf (entry : OneOutInfererForecaster) : String × String := (entry.forecaster, entry.withheldInferer)

def groupsOf (ooifs : PyDict (PyDict String)) : List (String × List AttributedLoss) :=
  ooifs.entries.map fun entry => (entry.1, entry.2.entries)

theorem flattened_append (front back : List (String × List AttributedLoss)) :
    flattened (front ++ back) = flattened front ++ flattened back :=
  List.flatMap_append

/-- A loss that is filed under a new pair is one more loss. -/
theorem flattened_set {ooifs : PyDict (PyDict String)} {forecaster inferer loss : String}
    (absent : (forecaster, inferer) ∉ (flattened (groupsOf ooifs)).map Prod.fst) :
    (flattened (groupsOf (ooifs.set forecaster
      (((ooifs.get? forecaster).getD .empty).set inferer loss)))).Perm
      (((forecaster, inferer), loss) :: flattened (groupsOf ooifs)) := by
  cases known : ooifs.get? forecaster with
  | none =>
    have new : forecaster ∉ ooifs.keys := by
      intro present
      obtain ⟨inferers, member⟩ := PyDict.mem_keys.mp present
      rw [PyDict.get?_eq_some.mpr member] at known
      cases known
    have single : ((none : Option (PyDict String)).getD .empty |>.set inferer loss).entries = [(inferer, loss)] :=
      PyDict.set_of_absent (by simp [PyDict.keys, PyDict.empty])
    rw [groupsOf, PyDict.set_of_absent new, List.map_append, flattened_append]
    simp only [List.map_cons, List.map_nil, single]
    exact List.perm_append_singleton _ _
  | some inferers =>
    obtain ⟨front, back, split⟩ := List.append_of_mem (PyDict.get?_eq_some.mp known)
    have new : inferer ∉ inferers.keys := by
      intro present
      obtain ⟨loss', member⟩ := PyDict.mem_keys.mp present
      refine absent (List.mem_map.mpr ⟨((forecaster, inferer), loss'), ?_, rfl⟩)
      refine List.mem_flatMap.mpr ⟨(forecaster, inferers.entries), ?_, List.mem_map.mpr ⟨_, member, rfl⟩⟩
      exact List.mem_map.mpr ⟨(forecaster, inferers), by simp [split], rfl⟩
    have grown : (inferers.set inferer loss).entries = inferers.entries ++ [(inferer, loss)] :=
      PyDict.set_of_absent new
    have grouped : groupsOf (ooifs.set forecaster (inferers.set inferer loss)) =
        front.map (fun entry => (entry.1, entry.2.entries)) ++
          (forecaster, inferers.entries ++ [(inferer, loss)]) ::
            back.map fun entry => (entry.1, entry.2.entries) := by
      rw [groupsOf, PyDict.set_of_present split, List.map_append, List.map_cons, grown]
    have before : groupsOf ooifs = front.map (fun entry => (entry.1, entry.2.entries)) ++
        (forecaster, inferers.entries) :: back.map fun entry => (entry.1, entry.2.entries) := by
      rw [groupsOf, split, List.map_append, List.map_cons]
    rw [Option.getD_some, grouped, before, flattened_append, flattened_append]
    simp only [flattened, List.flatMap_cons, List.map_append, List.map_cons, List.map_nil]
    simp only [List.append_assoc, List.cons_append, List.nil_append]
    rw [← List.append_assoc, ← List.append_assoc]
    exact List.perm_middle

/-- One loss for each entry, of its own combined inference. With distinct pairs,
what is filed is these losses in some order. -/
structure Filed {φ : Type} (reputer : Reputer φ) (nonce : ℤ) (entries : List OneOutInfererForecaster)
    (trace : List (ReputerEv φ)) (filed : List ((String × String) × String)) : Prop where
  losses : ∃ losses : List ((String × String) × String), losses.map Prod.fst = entries.map pairOf ∧
    EvaluatesAll reputer nonce (entries.map (·.combinedInference)) trace (losses.map Prod.snd) ∧
    ((entries.map pairOf).Nodup → filed.Perm losses)

theorem oneOutLosses_filed {φ : Type} {reputer : Reputer φ} {nonce : ℤ}
    {entries : List OneOutInfererForecaster} {ooifs filed : PyDict (PyDict String)}
    {trace : List (ReputerEv φ)} {s s' : Unit}
    (run : (reputer.oneOutLosses nonce ooifs entries).Runs s trace (.ok filed) s') :
    ∃ losses : List ((String × String) × String), losses.map Prod.fst = entries.map pairOf ∧
      EvaluatesAll reputer nonce (entries.map (·.combinedInference)) trace (losses.map Prod.snd) ∧
      ((entries.map pairOf).Nodup →
        (∀ entry ∈ entries, pairOf entry ∉ (flattened (groupsOf ooifs)).map Prod.fst) →
        (flattened (groupsOf filed)).Perm (flattened (groupsOf ooifs) ++ losses)) := by
  induction entries generalizing ooifs trace s with
  | nil =>
    obtain ⟨rfl, same, -⟩ := Routine.runs_pure.mp run
    cases same
    exact ⟨[], rfl, .nil, fun _ _ => by simp⟩
  | cons entry entries ih =>
    obtain ⟨text, t, first, rest, evaluated, run₁, rfl⟩ := Routine.runs_bind_ok run
    obtain ⟨e, rfl, evaluates⟩ := computeLoss_evaluates evaluated
    obtain ⟨losses, pairs, all, files⟩ := ih run₁
    refine ⟨(pairOf entry, text) :: losses, congrArg (pairOf entry :: ·) pairs, .cons evaluates all, ?_⟩
    intro distinct new
    obtain ⟨unlike, distinct⟩ := List.nodup_cons.mp distinct
    have more := @flattened_set ooifs entry.forecaster entry.withheldInferer text (new entry (.head _))
    refine (files distinct fun later member known => ?_).trans
      ((more.append_right losses).trans List.perm_middle.symm)
    rw [(more.map Prod.fst).mem_iff] at known
    rcases List.mem_cons.mp known with same | known
    · exact unlike (List.mem_map.mpr ⟨later, member, same⟩)
    · exact new later (.tail _ member) known

/-! ## The bundle -/

/-- The values of every entry, in the order in which their losses are computed. -/
def inputsOf (inferences : NetworkInferenceBundle) : List (List LabeledValue) :=
  inferences.combinedValue :: inferences.naiveValue ::
    (inferences.infererValues.map (·.values) ++ (inferences.forecasterValues.map (·.values) ++
      (inferences.oneOutInfererValues.map (·.values) ++ (inferences.oneOutForecasterValues.map (·.values) ++
        (inferences.oneInForecasterValues.map (·.values) ++
          inferences.oneOutInfererForecasterValues.map (·.combinedInference))))))

/-- The calls of the loss function for each part of the inferences. -/
structure LossCalls (φ : Type) where
  combined : ReputerEv φ
  naive : ReputerEv φ
  inferers : List (ReputerEv φ)
  forecasters : List (ReputerEv φ)
  oneOutInferers : List (ReputerEv φ)
  oneOutForecasters : List (ReputerEv φ)
  oneInForecasters : List (ReputerEv φ)
  oneOutInfererForecasters : List (ReputerEv φ)

def LossCalls.trace {φ : Type} (calls : LossCalls φ) : List (ReputerEv φ) :=
  calls.combined :: calls.naive :: (calls.inferers ++ (calls.forecasters ++ (calls.oneOutInferers ++
    (calls.oneOutForecasters ++ (calls.oneInForecasters ++ calls.oneOutInfererForecasters)))))

/-- Every entry's loss is in the bundle, at the entry's place. -/
structure LosesNothing {φ : Type} (reputer : Reputer φ) (inferences : NetworkInferenceBundle)
    (calls : LossCalls φ) (bundle : InputValueBundle) : Prop where
  combined : Evaluates reputer inferences.nonce inferences.combinedValue calls.combined bundle.combinedValue
  naive : Evaluates reputer inferences.nonce inferences.naiveValue calls.naive bundle.naiveValue
  inferers : Attributed reputer inferences.nonce inferences.infererValues calls.inferers bundle.infererValues
  forecasters : Attributed reputer inferences.nonce inferences.forecasterValues calls.forecasters
    bundle.forecasterValues
  oneOutInferers : Attributed reputer inferences.nonce inferences.oneOutInfererValues calls.oneOutInferers
    bundle.oneOutInfererValues
  oneOutForecasters : Attributed reputer inferences.nonce inferences.oneOutForecasterValues
    calls.oneOutForecasters bundle.oneOutForecasterValues
  oneInForecasters : Attributed reputer inferences.nonce inferences.oneInForecasterValues
    calls.oneInForecasters bundle.oneInForecasterValues
  oneOutInfererForecasters : Filed reputer inferences.nonce inferences.oneOutInfererForecasterValues
    calls.oneOutInfererForecasters (flattened bundle.oneOutInfererForecasterValues)

section Bundle

variable {φ : Type} {reputer : Reputer φ} {inferences : NetworkInferenceBundle} {trace : List (ReputerEv φ)}
  {s s' : Unit}

theorem computeLossBundle_losesNothing {bundle : InputValueBundle}
    (run : (reputer.computeLossBundle inferences).Runs s trace (.ok bundle) s') :
    ∃ calls, trace = calls.trace ∧ LosesNothing reputer inferences calls bundle := by
  unfold Reputer.computeLossBundle at run
  split at run
  · obtain ⟨_, _, _, _, combined, run₁, rfl⟩ := Routine.runs_bind_ok run
    obtain ⟨_, _, _, _, naive, run₂, rfl⟩ := Routine.runs_bind_ok run₁
    obtain ⟨_, _, _, _, inferers, run₃, rfl⟩ := Routine.runs_bind_ok run₂
    obtain ⟨_, _, _, _, forecasters, run₄, rfl⟩ := Routine.runs_bind_ok run₃
    obtain ⟨_, _, _, _, oneOutInferers, run₅, rfl⟩ := Routine.runs_bind_ok run₄
    obtain ⟨_, _, _, _, oneOutForecasters, run₆, rfl⟩ := Routine.runs_bind_ok run₅
    obtain ⟨_, _, _, _, oneInForecasters, run₇, rfl⟩ := Routine.runs_bind_ok run₆
    obtain ⟨_, _, _, _, filed, run₈, rfl⟩ := Routine.runs_bind_ok run₇
    obtain ⟨rfl, same, -⟩ := Routine.runs_pure.mp run₈
    cases same
    obtain ⟨e, rfl, first⟩ := computeLoss_evaluates combined
    obtain ⟨e', rfl, second⟩ := computeLoss_evaluates naive
    obtain ⟨losses, pairs, all, files⟩ := oneOutLosses_filed filed
    have covers := fun distinct => files distinct (by simp [groupsOf, PyDict.empty, flattened])
    refine ⟨⟨e, e', _, _, _, _, _, _⟩, ?_, first, second, attributedLosses_attributed inferers,
      attributedLosses_attributed forecasters, attributedLosses_attributed oneOutInferers,
      attributedLosses_attributed oneOutForecasters, attributedLosses_attributed oneInForecasters,
      losses, pairs, all, ?_⟩
    · simp [LossCalls.trace]
    · simpa [flattened, groupsOf, PyDict.empty] using covers
  · cases (Routine.runs_throw.mp run).2.1

/-- A successful bundle needs all the values to be numeric and all the losses to
be finite decimals. -/
theorem LosesNothing.evaluatesAll {calls : LossCalls φ} {bundle : InputValueBundle}
    (loses : LosesNothing reputer inferences calls bundle) :
    ∃ texts, EvaluatesAll reputer inferences.nonce (inputsOf inferences) calls.trace texts := by
  obtain ⟨losses, -, oneOuts, -⟩ := loses.oneOutInfererForecasters.losses
  exact ⟨_, .cons loses.combined (.cons loses.naive (loses.inferers.evaluated.append
    (loses.forecasters.evaluated.append (loses.oneOutInferers.evaluated.append
      (loses.oneOutForecasters.evaluated.append (loses.oneInForecasters.evaluated.append oneOuts))))))⟩

/-- Some value is no number, or some loss that came back is no finite decimal. -/
def UnusableBundle (reputer : Reputer φ) (inferences : NetworkInferenceBundle) (trace : List (ReputerEv φ)) : Prop :=
  (∃ values ∈ inputsOf inferences, ∃ v ∈ values, reputer.float v.value = none) ∨
    ∃ nonce predicted loss, ⟨.loss nonce predicted, .ok loss⟩ ∈ trace ∧ lossValue loss = none

theorem computeLossBundle_usable {bundle : InputValueBundle}
    (run : (reputer.computeLossBundle inferences).Runs s trace (.ok bundle) s') :
    ¬ UnusableBundle reputer inferences trace := by
  obtain ⟨calls, rfl, loses⟩ := computeLossBundle_losesNothing run
  obtain ⟨texts, all⟩ := loses.evaluatesAll
  rintro (⟨values, input, v, member, text⟩ | ⟨nonce, predicted, loss, event, infinite⟩)
  · exact all.input input v member text
  · obtain ⟨predicted', loss', same, finite⟩ := all.event event
    cases same
    exact finite infinite

def IsLossCall : ReputerRequest φ → Prop
  | .loss _ _ => True
  | _ => False

theorem computeLoss_asks (nonce : ℤ) (values : List LabeledValue) :
    (reputer.computeLoss nonce values).Asks IsLossCall :=
  .bind (.ofExcept _) fun _ => .bind (.bind (.await trivial) fun _ => .ofExcept _) fun _ => .ofExcept _

theorem attributedLosses_asks (nonce : ℤ) (entries : List AttributedValues) :
    (reputer.attributedLosses nonce entries).Asks IsLossCall := by
  induction entries with
  | nil => exact .pure _
  | cons entry entries ih => exact .bind (computeLoss_asks _ _) fun _ => .bind ih fun _ => .pure _

theorem oneOutLosses_asks (nonce : ℤ) (ooifs : PyDict (PyDict String)) (entries : List OneOutInfererForecaster) :
    (reputer.oneOutLosses nonce ooifs entries).Asks IsLossCall := by
  induction entries generalizing ooifs with
  | nil => exact .pure _
  | cons entry entries ih => exact .bind (computeLoss_asks _ _) fun _ => ih _

theorem computeLossBundle_asks (inferences : NetworkInferenceBundle) :
    (reputer.computeLossBundle inferences).Asks IsLossCall := by
  unfold Reputer.computeLossBundle
  split
  · exact .bind (computeLoss_asks _ _) fun _ => .bind (computeLoss_asks _ _) fun _ =>
      .bind (attributedLosses_asks _ _) fun _ => .bind (attributedLosses_asks _ _) fun _ =>
      .bind (attributedLosses_asks _ _) fun _ => .bind (attributedLosses_asks _ _) fun _ =>
      .bind (attributedLosses_asks _ _) fun _ => .bind (oneOutLosses_asks _ _ _) fun _ => .pure _
  · exact .throw _

/-- The losses are all computed before the payload is sent. -/
theorem submitBundle_asks (nonce : ℤ) (accountSeq : ℕ) (bundle : InputValueBundle) :
    (reputer.submitBundle nonce accountSeq bundle).Asks fun request => ¬ IsLossCall request := by
  refine .bind (.attempt (.bind (.await (by simp [IsLossCall])) fun _ => .ofExcept _)) fun sent => ?_
  split
  · exact .pure _
  · exact .bind (.tryCatch (.bind (.await (by simp [IsLossCall])) fun _ => .ofExcept _) fun _ => .pure _)
      fun _ => .pure _

end Bundle

/-- The payload is sent. -/
def IsTransact {φ : Type} : ReputerRequest φ → Prop
  | .transact _ _ => True
  | _ => False

/-- Whatever the inferences and the loss function: a bundle that is computed holds
every entry's own canonical loss, the one-out inferer-forecaster pairs exactly once
when they are distinct; and when a value is no number or a loss no finite decimal,
nothing is computed and `submit` sends no payload. -/
theorem loss_bundle_loses_nothing {φ : Type} (reputer : Reputer φ) (inferences : NetworkInferenceBundle) :
    (∀ s trace out s', (reputer.computeLossBundle inferences).Runs s trace out s' →
      (∀ bundle, out = .ok bundle → ∃ calls, trace = calls.trace ∧ LosesNothing reputer inferences calls bundle) ∧
      (UnusableBundle reputer inferences trace → ∃ e, out = .error e)) ∧
    ∀ nonce accountSeq s rest out s',
      (reputer.submit nonce accountSeq).Runs s (⟨.networkInferences nonce, .ok (some inferences)⟩ :: rest) out s' →
      UnusableBundle reputer inferences rest → ∀ e ∈ rest, ¬ IsTransact e.request := by
  constructor
  · intro s trace out s' run
    cases out with
    | error e => exact ⟨by simp, fun _ => ⟨e, rfl⟩⟩
    | ok bundle =>
      refine ⟨fun bundle' same => ?_, fun bad => (computeLossBundle_usable run bad).elim⟩
      cases same
      exact computeLossBundle_losesNothing run
  · intro nonce accountSeq s rest out s' run bad e member sends
    obtain ⟨answer, after, same, run₁⟩ := Routine.runs_await_bind.mp run
    cases same
    obtain ⟨outcome, t, first, last, ran, run₂, rfl⟩ := Routine.runs_attempt_bind.mp run₁
    cases outcome with
    | error err =>
      obtain ⟨rfl, -, -⟩ := Routine.runs_pure.mp run₂
      rw [List.append_nil] at member
      have calls := computeLossBundle_asks inferences ran e member
      cases request : e.request <;> simp [request, IsTransact, IsLossCall] at sends calls
    | ok bundle =>
      refine computeLossBundle_usable ran (bad.imp_right ?_)
      rintro ⟨nonce', predicted, loss, event, infinite⟩
      refine ⟨nonce', predicted, loss, ?_, infinite⟩
      rcases List.mem_append.mp event with event | event
      · exact event
      · exact (submitBundle_asks nonce accountSeq bundle run₂ _ event trivial).elim

/-- The loss is the sum of the numbers, counted by the length of their text. -/
def summingLosses (world : Unit) : (request : ReputerRequest ℕ) → ReputerReply ℕ request × Unit
  | .networkInferences _ => (.ok none, world)
  | .loss _ predicted => (.ok (.int ((predicted.map fun entry => entry.2).sum : ℕ)), world)
  | .transact _ _ => (.error .txNotFound, world)
  | .maybeStake => (.ok (), world)

def lengthReputer : Reputer ℕ where
  topicId := 1
  address := "allo1reputer"
  hasReputerFn := true
  float text := some text.length
  reprValues _ := "values"
  repr _ := "loss"

/-- The pairs of two forecasters, interleaved, and a label that comes twice. -/
def interleaved : NetworkInferenceBundle where
  nonce := 7
  combinedValue := [⟨"y", "1"⟩, ⟨"z", "22"⟩, ⟨"y", "333"⟩]
  naiveValue := [⟨"y", "2"⟩]
  infererValues := [⟨"i1", [⟨"y", "33"⟩]⟩]
  forecasterValues := []
  oneOutInfererValues := []
  oneOutForecasterValues := []
  oneInForecasterValues := []
  oneOutInfererForecasterValues :=
    [⟨"f1", "i1", [⟨"y", "444"⟩]⟩, ⟨"f2", "i1", [⟨"y", "5555"⟩]⟩, ⟨"f1", "i2", [⟨"y", "66666"⟩]⟩]

theorem loss_bundle_loses_nothing_interleaved :
    ∃ trace bundle calls, (lengthReputer.computeLossBundle interleaved).Runs () trace (.ok bundle) () ∧
      (bundle.combinedValue, bundle.naiveValue, bundle.infererValues) = ("5", "1", [("i1", "2")]) ∧
      bundle.oneOutInfererForecasterValues = [("f1", [("i1", "3"), ("i2", "5")]), ("f2", [("i1", "4")])] ∧
      trace = calls.trace ∧ LosesNothing lengthReputer interleaved calls bundle := by
  have run := Routine.play_runs summingLosses (lengthReputer.computeLossBundle interleaved) () ()
  have computed : (((lengthReputer.computeLossBundle interleaved).play summingLosses () ()).value.map
      fun bundle => ((bundle.combinedValue, bundle.naiveValue, bundle.infererValues),
        bundle.oneOutInfererForecasterValues)) =
        .ok (("5", "1", [("i1", "2")]), [("f1", [("i1", "3"), ("i2", "5")]), ("f2", [("i1", "4")])]) := by
    decide +kernel
  generalize (lengthReputer.computeLossBundle interleaved).play summingLosses () () = played at run computed
  cases value : played.value with
  | error e =>
    rw [value] at computed
    cases computed
  | ok bundle =>
    rw [value] at run computed
    obtain ⟨calls, split, loses⟩ :=
      ((loss_bundle_loses_nothing lengthReputer interleaved).1 _ _ _ _ run).1 bundle rfl
    obtain ⟨losses, groups⟩ := Prod.mk.injEq .. |>.mp (Except.ok.inj computed)
    exact ⟨_, bundle, calls, run, losses, groups, split, loses⟩

end AlloraSdk.Guarantees
