import AlloraSdk.Guarantees.MarshalInverse
import AlloraSdk.Source.Events.Filters

/-!
# The matching of conditions, on events and on messages

On a field of one value both matchers compare that value. On a repeated field the
untyped one compares the attribute's text, and the typed one its elements, to a
list with the condition's value in it: so neither finds the element.
-/

namespace AlloraSdk.Guarantees
open AlloraSdk.Source.Utils AlloraSdk.Source.Events AlloraSdk.Chain

/-- The value of a condition on a repeated field, as an element; nothing where `int` raises. -/
def elementValue (elem : FieldType) (value : String) : Option Json :=
  coerceValueToType (some elem) (some (stripQuotes value))

section Coercion

variable {type elem : FieldType} {value : Json} {text : String}

theorem coerce_decimalText {n : ℤ} (readable : Readable n) (bare : stripQuotes text = decimalText n) :
    coerceValueToType (some .int) (some text) = some (.int n) := by
  simp only [coerceValueToType, coerceToField, bare, isDigitText_decimalText, if_true, pyInt_decimalText readable, Option.map_some]

/-- Of a field with one value, the text is coerced to the value. -/
theorem coerce_scalar (encodes : Encodes type value text) (survives : Survives type value text)
    (scalar : ∀ elem, type ≠ .list elem) : coerceValueToType (some type) (some text) = some value := by
  cases encodes with
  | @str value body literal =>
    simp only [coerceValueToType, coerceToField]
    rw [show inQuotes body = inQuotes value from survives, stripQuotes_inQuotes]
  | int64 n readable => exact coerce_decimalText readable (stripQuotes_inQuotes _)
  | int32 n readable => exact coerce_decimalText readable (stripQuotes_eq_self.mpr (decimalText_bare n))
  | true => simp [coerceValueToType, coerceToField, show stripQuotes "true" = "true" by decide]
  | false => simp [coerceValueToType, coerceToField, show stripQuotes "false" = "false" by decide]
  | strings array => exact (scalar _ rfl).elim
  | ints each array => exact (scalar _ rfl).elim

/-- A list's text is no number. -/
theorem isDigitText_bracket (body : List Char) : isDigitText (String.ofList ('[' :: body)) = false := by
  unfold isDigitText
  rw [String.toList_ofList]
  rfl

/-- Of a repeated field, the text stays, in a list of its own. -/
theorem coerce_repeated (encodes : Encodes (.list elem) value text) :
    coerceValueToType (some (.list elem)) (some text) = some (.arr [.str text]) := by
  have bare : ∀ body : List Char, stripQuotes (String.ofList ('[' :: body)) = String.ofList ('[' :: body) :=
    fun body => stripQuotes_eq_self.mpr (not_isQuoted_of_head (by decide))
  cases encodes with
  | strings array => simp only [coerceValueToType, coerceToField, bare, Option.map_some]
  | ints each array =>
    simp only [coerceValueToType, coerceToField, bare, isDigitText_bracket, Bool.false_eq_true, if_false, Option.map_some]

/-- The chain's fields are of types that the coercion knows. -/
theorem encodes_coercible (encodes : Encodes type value text) : type.coercible = true := by
  cases encodes <;> rfl

end Coercion

section Comparison

variable {classes : EventClasses} {operator : Operator} {text : String} {items : List Json} {v : Json}

/-- An element does not compare to a list. -/
theorem compareBy_list (scalar : (∃ text, v = .str text) ∨ ∃ n, v = .int n) (others : List Json) :
    compareBy operator v (.arr others) = false := by
  rcases scalar with ⟨text, rfl⟩ | ⟨n, rfl⟩ <;> cases operator <;>
    simp [compareBy, pyEq, pyCompare, pyContains, asInt]

theorem pyCompare_singletons : pyCompare (.arr [.str text]) (.arr [v]) = pyCompare (.str text) v := by
  cases v with
  | str other =>
    simp only [pyCompare, pyCompareItems, pyEq, Json.str.injEq, decide_eq_true_eq]
    split
    · rename_i same
      have equal : compare text other = .eq := by
        rw [same]
        exact Std.ReflCmp.compare_self
      rw [equal]
    · rfl
  | _ => simp [pyCompare, pyCompareItems, pyEq]

/-- Lists of one element compare as these do, and neither is in the other. -/
theorem compareBy_singletons : compareBy operator (.arr [.str text]) (.arr [v]) =
    if operator = .contains then false else compareBy operator (.str text) v := by
  cases operator with
  | eq => simp [compareBy, pyEq, pyEqItems]
  | contains => simp [compareBy, pyContains, pyEq]
  | «exists» => rfl
  | lt => simp [compareBy, pyCompare_singletons]
  | le => simp [compareBy, pyCompare_singletons]
  | gt => simp [compareBy, pyCompare_singletons]
  | ge => simp [compareBy, pyCompare_singletons]

end Comparison

section Verdicts

variable {classes : EventClasses} {cls : MessageClass} {fields : List EncodedField} {field : EncodedField}
  {event : Json} {eventName : String} {message : Message} {cond : EventAttributeCondition}

theorem mapM_valueUnder {attrs : List Json} (carried : List.Forall₂ EncodedField.Carried fields attrs)
    (name : String) : attrs.mapM (valueUnder name) =
      some (fields.map fun field => if field.name = name then [some field.text] else []) := by
  induction carried with
  | nil => rfl
  | @cons field attr fields attrs head tail ih =>
    obtain ⟨key, value⟩ := head
    have read : valueUnder name attr = some (if field.name = name then [some field.text] else []) := by
      simp [valueUnder, key, value, attributeText]
    rw [List.mapM_cons, ih, read]
    rfl

/-- The attribute of a field is the only one with its key. -/
theorem flatten_field (distinct : (fields.map EncodedField.name).Nodup) (member : field ∈ fields) :
    (fields.map fun other => if other.name = field.name then [some other.text] else []).flatten =
      [some field.text] := by
  induction fields with
  | nil => cases member
  | cons first rest ih =>
    obtain ⟨fresh, distinct⟩ := List.nodup_cons.mp distinct
    rcases List.mem_cons.mp member with rfl | later
    · have others : (rest.map fun other => if other.name = field.name then [some other.text] else []).flatten = [] := by
        rw [List.flatten_eq_nil_iff]
        intro values listed
        obtain ⟨other, among, rfl⟩ := List.mem_map.mp listed
        rw [if_neg]
        intro same
        exact fresh (same ▸ List.mem_map_of_mem among)
      rw [List.map_cons, List.flatten_cons, if_pos rfl, others]
      rfl
    · have other : first.name ≠ field.name := by
        intro same
        exact fresh (same ▸ List.mem_map_of_mem later)
      rw [List.map_cons, List.flatten_cons, if_neg other, List.nil_append]
      exact ih distinct later

theorem valuesOf_field (encoded : TypedEvent classes cls fields event) (member : field ∈ fields) :
    valuesOf event field.name = some [some field.text] := by
  obtain ⟨attrs, listed, carried⟩ := encoded.carried
  have nonempty : attrs ≠ [] := by
    rintro rfl
    cases carried
    cases member
  have truthy : (Json.arr attrs).truthy = true := by simp [Json.truthy, nonempty]
  have read := mapM_valueUnder carried field.name
  simp only [valuesOf, listed, Option.bind_eq_bind, Option.bind_some, truthy, if_true, Json.items, read]
  exact congrArg some (flatten_field (typedEvent_names encoded).2 member)

/-- The registered class of an event is the one that it is an instance of. -/
theorem class_of_name (encoded : TypedEvent classes cls fields event)
    (named : event.get "type" = some (some (.str eventName))) : classes.getEventClass eventName = some cls := by
  obtain ⟨eventType, -, typed, registered⟩ := encoded.typed
  rw [named] at typed
  cases typed
  exact registered

/-- The untyped verdict on a condition. -/
theorem meetsUntyped_field (encoded : TypedEvent classes cls fields event) (member : field ∈ fields)
    (named : event.get "type" = some (some (.str eventName))) (onField : field.name = cond.attributeName)
    {left : Json} (coerced : coerceValueToType (some field.type) (some field.text) = some left) :
    meetsUntyped classes event eventName cond = if cond.operator = .exists then some true
      else (coerceValueToType (some field.type) (some cond.value)).map (compareBy cond.operator left) := by
  have annotated : classes.fieldType cls cond.attributeName = some field.type := by
    rw [← onField]
    exact typedEvent_annotated encoded field member
  have values : valuesOf event cond.attributeName = some [some field.text] := by
    rw [← onField]
    exact valuesOf_field encoded member
  have known : (some field.type).filter (fun type => !type.coercible) = none := by
    simp [Option.filter, encodes_coercible field.encodes]
  unfold meetsUntyped
  simp only [class_of_name encoded named, annotated, values, Option.bind_eq_bind, Option.bind_some, known,
    List.mapM_cons, List.mapM_nil, coerced]
  by_cases existence : cond.operator = .exists
  · simp [existence]
  · cases coerceValueToType (some field.type) (some cond.value) with
    | none => simp [existence]
    | some right => simp [existence, evaluateOperator]

/-- The typed verdict on a condition on a field with one value. -/
theorem meetsTyped_scalar (annotated : classes.fieldType cls cond.attributeName = some field.type)
    (decoded : message.fields.lookup cond.attributeName = some field.value)
    (scalar : ∀ elem, field.type ≠ .list elem) :
    meetsTyped classes message cls cond = if cond.operator = .exists then some true
      else (coerceValueToType (some field.type) (some cond.value)).map (compareBy cond.operator field.value) := by
  have encodes := field.encodes
  have known : (some field.type).filter (fun type => !type.coercible) = none := by
    simp [Option.filter, encodes_coercible encodes]
  unfold meetsTyped Message.getattr
  simp only [decoded, annotated, Option.getD_some, known]
  generalize field.type = type at encodes scalar
  generalize field.value = value at encodes
  generalize field.text = text at encodes
  by_cases existence : cond.operator = .exists
  · cases encodes <;> simp [existence]
  · rw [if_neg existence, if_neg existence]
    congr 1
    funext right
    unfold evaluateOperator
    rw [if_neg existence]
    cases encodes with
    | strings array => exact (scalar _ rfl).elim
    | ints each array => exact (scalar _ rfl).elim
    | _ => rfl

/-- The typed verdict on a condition on a repeated field: that it exists. -/
theorem meetsTyped_repeated {elem : FieldType} {items : List Json} {text : String}
    (encodes : Encodes (.list elem) (.arr items) text)
    (annotated : classes.fieldType cls cond.attributeName = some (.list elem))
    (decoded : message.fields.lookup cond.attributeName = some (.arr items))
    (scalar : ∀ item ∈ items, (∃ text, item = .str text) ∨ ∃ n, item = .int n) :
    meetsTyped classes message cls cond = if cond.operator = .exists then some true
      else (elementValue elem cond.value).map fun _ => false := by
  have known : (some (FieldType.list elem)).filter (fun type => !type.coercible) = none := by
    simp [Option.filter, encodes_coercible encodes]
  unfold meetsTyped Message.getattr
  simp only [decoded, annotated, Option.getD_some, known]
  by_cases existence : cond.operator = .exists
  · simp [existence]
  · rw [if_neg existence, if_neg existence]
    simp only [coerceValueToType, coerceToField, elementValue, Option.map_some, Option.map_map]
    congr 1
    funext v
    simp only [Function.comp_apply, evaluateOperator, if_neg existence]
    rw [List.any_eq_false]
    intro item member
    rw [compareBy_list (scalar item member)]
    exact Bool.false_ne_true

/-- The untyped verdict on a condition on a repeated field. -/
theorem meetsUntyped_repeated {elem : FieldType} {text : String} :
    (coerceValueToType (some (.list elem)) (some cond.value)).map (compareBy cond.operator (.arr [.str text])) =
      (elementValue elem cond.value).map fun v =>
        if cond.operator = .contains then false else compareBy cond.operator (.str text) v := by
  simp only [coerceValueToType, coerceToField, elementValue, Option.map_some, Option.map_map]
  congr 1
  funext v
  exact compareBy_singletons

theorem allM_singleton {α : Type} (test : α → Option Bool) (x : α) : allM test [x] = test x := by
  unfold allM
  cases test x with
  | none => rfl
  | some met => cases met <;> rfl

/-- Two tests that agree, and raise nowhere, agree on whether all pass. -/
theorem allM_agree {α : Type} {test test' : α → Option Bool} {xs : List α}
    (each : ∀ x ∈ xs, ∃ verdict, test x = some verdict ∧ test' x = some verdict) :
    ∃ verdict, allM test xs = some verdict ∧ allM test' xs = some verdict := by
  induction xs with
  | nil => exact ⟨true, rfl, rfl⟩
  | cons x rest ih =>
    obtain ⟨verdict, met, met'⟩ := each x (.head _)
    cases verdict with
    | true => simpa [allM, met, met'] using ih fun y member => each y (.tail _ member)
    | false => exact ⟨false, by simp [allM, met], by simp [allM, met']⟩

/-- The elements of a repeated field are strings or numbers. -/
theorem repeated_items {elem : FieldType} (repeated : field.type = .list elem) :
    ∃ items, field.value = .arr items := by
  have encodes := field.encodes
  rw [repeated] at encodes
  generalize field.value = value at encodes
  generalize field.text = text at encodes
  cases encodes with
  | strings array => exact ⟨_, rfl⟩
  | ints each array => exact ⟨_, rfl⟩

theorem elements_scalar {elem : FieldType} {items : List Json} {text : String}
    (encodes : Encodes (.list elem) (.arr items) text) :
    ∀ item ∈ items, (∃ text, item = .str text) ∨ ∃ n, item = .int n := by
  intro item member
  cases encodes with
  | strings array =>
    obtain ⟨value, -, rfl⟩ := List.mem_map.mp member
    exact .inl ⟨value, rfl⟩
  | ints each array =>
    obtain ⟨value, -, rfl⟩ := List.mem_map.mp member
    exact .inr ⟨value, rfl⟩

end Verdicts

/-! ## Agreement -/

/-- On an event and its message the matchers agree, and a condition for equality
or containment on a repeated field holds when an element equals its value. -/
structure MatchersAgree (classes : EventClasses) (cls : MessageClass) (fields : List EncodedField) (event : Json)
    (eventName : String) (message : Message) (conds : List EventAttributeCondition) : Prop where
  same : ∃ verdict, eventMatchesConditionsUntyped classes event eventName conds = some verdict ∧
    eventMatchesConditionsTyped classes message cls conds = some verdict
  elements : ∀ cond ∈ conds, ∀ field ∈ fields, field.name = cond.attributeName → ∀ elem items v,
    field.type = .list elem → field.value = .arr items → elementValue elem cond.value = some v →
    cond.operator = .eq ∨ cond.operator = .contains →
    (eventMatchesConditionsUntyped classes event eventName [cond] = some true ↔ ∃ item ∈ items, pyEq item v = true) ∧
      (eventMatchesConditionsTyped classes message cls [cond] = some true ↔ ∃ item ∈ items, pyEq item v = true)

/-- The condition asks for existence, or `int` takes its value. -/
def Accepted (field : EncodedField) (cond : EventAttributeCondition) : Prop :=
  cond.operator ≠ .exists → Convertible field.type cond.value

/-- On a repeated field, and unless it asks for existence, the condition holds in
no reading: for no element, and not for the text of the attribute. -/
def Unmatched (field : EncodedField) (cond : EventAttributeCondition) : Prop :=
  ∀ elem items v, field.type = .list elem → field.value = .arr items → cond.operator ≠ .exists →
    elementValue elem cond.value = some v →
    (cond.operator = .eq ∨ cond.operator = .contains → ∀ item ∈ items, pyEq item v = false) ∧
    (cond.operator ≠ .contains → compareBy cond.operator (.str field.text) v = false)

section Agreement

variable {classes : EventClasses} {cls : MessageClass} {fields : List EncodedField} {field : EncodedField}
  {event : Json} {eventName : String} {message : Message} {cond : EventAttributeCondition}

/-- The two verdicts on one condition. -/
structure Verdicts (classes : EventClasses) (cls : MessageClass) (event : Json) (eventName : String)
    (message : Message) (field : EncodedField) (cond : EventAttributeCondition) : Prop where
  existence : cond.operator = .exists →
    meetsUntyped classes event eventName cond = some true ∧ meetsTyped classes message cls cond = some true
  refused : cond.operator ≠ .exists → ¬ Convertible field.type cond.value →
    meetsUntyped classes event eventName cond = none ∧ meetsTyped classes message cls cond = none
  scalar : cond.operator ≠ .exists → (∀ elem, field.type ≠ .list elem) → ∀ v,
    coerceValueToType (some field.type) (some cond.value) = some v →
    meetsUntyped classes event eventName cond = some (compareBy cond.operator field.value v) ∧
      meetsTyped classes message cls cond = some (compareBy cond.operator field.value v)
  repeated : cond.operator ≠ .exists → ∀ elem items v, field.type = .list elem → field.value = .arr items →
    elementValue elem cond.value = some v →
    meetsUntyped classes event eventName cond = some (if cond.operator = .contains then false
        else compareBy cond.operator (.str field.text) v) ∧
      meetsTyped classes message cls cond = some false

theorem verdicts (encoded : TypedEvent classes cls fields event)
    (plain : ∀ field ∈ fields, Survives field.type field.value field.text)
    (named : event.get "type" = some (some (.str eventName)))
    (decoded : ∀ field ∈ fields, message.fields.lookup field.name = some field.value) (member : field ∈ fields)
    (onField : field.name = cond.attributeName) : Verdicts classes cls event eventName message field cond := by
  have annotated : classes.fieldType cls cond.attributeName = some field.type := by
    rw [← onField]
    exact typedEvent_annotated encoded field member
  have value : message.fields.lookup cond.attributeName = some field.value := by
    rw [← onField]
    exact decoded field member
  have convertible := @coerce_isSome_iff field.type cond.value
  by_cases repeated : ∃ elem, field.type = .list elem
  · obtain ⟨elem, repeated⟩ := repeated
    obtain ⟨items, listed⟩ := repeated_items repeated
    have encodes := field.encodes
    rw [repeated, listed] at encodes
    have coerced : coerceValueToType (some field.type) (some field.text) = some (.arr [.str field.text]) := by
      rw [repeated]
      exact coerce_repeated encodes
    have untyped := meetsUntyped_field encoded member named onField coerced
    rw [repeated, meetsUntyped_repeated] at untyped
    have typed := meetsTyped_repeated encodes (repeated ▸ annotated) (listed ▸ value) (elements_scalar encodes)
    refine ⟨?_, ?_, ?_, ?_⟩
    · intro existence
      rw [untyped, typed, if_pos existence, if_pos existence]
      exact ⟨rfl, rfl⟩
    · intro asks refused
      have none : elementValue elem cond.value = none := by
        rw [← Option.not_isSome_iff_eq_none]
        intro some_value
        rw [repeated] at refused
        have converts : Convertible elem (stripQuotes cond.value) := coerce_isSome_iff.mp some_value
        exact refused converts
      rw [untyped, typed, if_neg asks, if_neg asks, none]
      exact ⟨rfl, rfl⟩
    · intro _ scalar
      exact (scalar elem repeated).elim
    · intro asks elem' items' v same same' coerced
      rw [repeated] at same
      rw [listed] at same'
      cases same
      cases same'
      rw [untyped, typed, if_neg asks, if_neg asks, coerced]
      exact ⟨rfl, rfl⟩
  · have scalar : ∀ elem, field.type ≠ .list elem := fun elem same => repeated ⟨elem, same⟩
    have untyped := meetsUntyped_field encoded member named onField
      (coerce_scalar field.encodes (plain field member) scalar)
    have typed := meetsTyped_scalar annotated value scalar
    refine ⟨?_, ?_, ?_, ?_⟩
    · intro existence
      rw [untyped, typed, if_pos existence]
      exact ⟨rfl, rfl⟩
    · intro asks refused
      have none : coerceValueToType (some field.type) (some cond.value) = none := by
        rw [← Option.not_isSome_iff_eq_none, convertible]
        exact refused
      rw [untyped, typed, if_neg asks, none]
      exact ⟨rfl, rfl⟩
    · intro asks _ v coerced
      rw [untyped, typed, if_neg asks, coerced]
      exact ⟨rfl, rfl⟩
    · intro _ elem items v same
      exact (scalar elem same).elim

/-- A condition whose readings agree is accepted and unmatched, and the other way round. -/
theorem agree_iff_unmatched (given : Verdicts classes cls event eventName message field cond) :
    ((∃ verdict, meetsUntyped classes event eventName cond = some verdict ∧
        meetsTyped classes message cls cond = some verdict) ∧
      ∀ elem items v, field.type = .list elem → field.value = .arr items → elementValue elem cond.value = some v →
        cond.operator = .eq ∨ cond.operator = .contains →
        (meetsUntyped classes event eventName cond = some true ↔ ∃ item ∈ items, pyEq item v = true) ∧
          (meetsTyped classes message cls cond = some true ↔ ∃ item ∈ items, pyEq item v = true)) ↔
      Accepted field cond ∧ Unmatched field cond := by
  constructor
  · rintro ⟨⟨verdict, untyped, typed⟩, elements⟩
    constructor
    · intro asks
      by_contra refused
      rw [(given.refused asks refused).1] at untyped
      cases untyped
    · intro elem items v repeated listed asks coerced
      obtain ⟨text, never⟩ := given.repeated asks elem items v repeated listed coerced
      constructor
      · intro quantified item member
        have found := (elements elem items v repeated listed coerced quantified).2
        rw [never] at found
        by_contra equals
        exact absurd (found.mpr ⟨item, member, by simpa using equals⟩) (by simp)
      · intro compares
        rw [text, if_neg compares] at untyped
        rw [never] at typed
        rw [Option.some.inj untyped, ← Option.some.inj typed]
  · rintro ⟨accepted, unmatched⟩
    by_cases asks : cond.operator = .exists
    · refine ⟨⟨true, given.existence asks⟩, ?_⟩
      rintro elem items v - - - (other | other) <;> rw [asks] at other <;> cases other
    have converts := accepted asks
    by_cases repeated : ∃ elem, field.type = .list elem
    · obtain ⟨elem, repeated⟩ := repeated
      obtain ⟨items, listed⟩ := repeated_items repeated
      obtain ⟨v, coerced⟩ : ∃ v, elementValue elem cond.value = some v := by
        rw [repeated] at converts
        exact Option.isSome_iff_exists.mp (coerce_isSome_iff.mpr converts)
      obtain ⟨text, never⟩ := given.repeated asks elem items v repeated listed coerced
      obtain ⟨none, bare⟩ := unmatched elem items v repeated listed asks coerced
      have untyped : meetsUntyped classes event eventName cond = some false := by
        rw [text]
        split
        · rfl
        · rename_i compares
          rw [bare compares]
      refine ⟨⟨false, untyped, never⟩, ?_⟩
      intro elem' items' v' repeated' listed' coerced' quantified
      rw [repeated] at repeated'
      rw [listed] at listed'
      cases repeated'
      cases listed'
      rw [coerced] at coerced'
      cases coerced'
      have absent : ¬ ∃ item ∈ items, pyEq item v = true := by
        rintro ⟨item, member, equals⟩
        rw [none quantified item member] at equals
        cases equals
      rw [untyped, never]
      exact ⟨iff_of_false (by simp) absent, iff_of_false (by simp) absent⟩
    · have scalar : ∀ elem, field.type ≠ .list elem := fun elem same => repeated ⟨elem, same⟩
      obtain ⟨v, coerced⟩ := Option.isSome_iff_exists.mp (coerce_isSome_iff.mpr converts)
      refine ⟨⟨_, given.scalar asks scalar v coerced⟩, ?_⟩
      intro elem items v same
      exact (scalar elem same).elim

end Agreement

/-- On the events of a registered class, all lists of some conditions on its
fields are matched as they should be if and only if each asks for existence, or
has a value that `int` does not refuse and, on a repeated field, holds in no reading. -/
theorem matchers_agree_iff {classes : EventClasses} {cls : MessageClass} {fields : List EncodedField} {event : Json}
    {eventName : String} {message : Message} {conds : List EventAttributeCondition}
    (encoded : TypedEvent classes cls fields event) (constructs : ConstructsBy classes cls)
    (plain : ∀ field ∈ fields, Survives field.type field.value field.text)
    (named : event.get "type" = some (some (.str eventName)))
    (marshalled : classes.marshalEvent event = some (some message))
    (onFields : ∀ cond ∈ conds, ∃ field ∈ fields, field.name = cond.attributeName) :
    (∀ some_conds, some_conds ⊆ conds → MatchersAgree classes cls fields event eventName message some_conds) ↔
      ∀ cond ∈ conds, ∀ field ∈ fields, field.name = cond.attributeName →
        Accepted field cond ∧ Unmatched field cond := by
  have decoded : ∀ field ∈ fields, message.fields.lookup field.name = some field.value := by
    obtain ⟨message', marshalled', -, values⟩ := decodes_of_survives encoded constructs plain
    rw [marshalled] at marshalled'
    obtain rfl := Option.some.inj (Option.some.inj marshalled')
    exact values
  constructor
  · intro agrees cond member field among onField
    have alone := agrees [cond] (by simpa using member)
    have given := verdicts encoded plain named decoded among onField
    refine (agree_iff_unmatched given).mp ⟨?_, ?_⟩
    · have same := alone.same
      rwa [eventMatchesConditionsUntyped, eventMatchesConditionsTyped, allM_singleton, allM_singleton] at same
    · intro elem items v repeated listed coerced quantified
      have elements := alone.elements cond (.head _) field among onField elem items v repeated listed coerced quantified
      rwa [eventMatchesConditionsUntyped, eventMatchesConditionsTyped, allM_singleton, allM_singleton] at elements
  · intro unmatched some_conds among_conds
    have each : ∀ cond ∈ some_conds, ∀ field ∈ fields, field.name = cond.attributeName → _ :=
      fun cond member field among onField =>
        (agree_iff_unmatched (verdicts encoded plain named decoded among onField)).mpr
          (unmatched cond (among_conds member) field among onField)
    refine ⟨?_, ?_⟩
    · refine allM_agree fun cond member => ?_
      obtain ⟨field, among, onField⟩ := onFields cond (among_conds member)
      exact (each cond member field among onField).1
    · intro cond member field among onField elem items v repeated listed coerced quantified
      rw [eventMatchesConditionsUntyped, eventMatchesConditionsTyped, allM_singleton, allM_singleton]
      exact (each cond member field among onField).2 elem items v repeated listed coerced quantified

/-! ## A list of two addresses -/

def twoAddresses : Json := scoresEvent "forecast" "\"allo1a\", \"allo1b\"".toList

def twoAddressesMessage : Message :=
  ⟨scoresSet, [("addresses", .arr [.str "allo1a", .str "allo1b"]), ("topic_id", .int 42), ("label", .str "forecast")]⟩

theorem forecast_literal : Json.loads (inQuotes "forecast") = some (.str "forecast") := by decide +kernel

theorem twoAddresses_listed :
    Json.loads (String.ofList ('[' :: ("\"allo1a\", \"allo1b\"".toList ++ [']']))) =
      some (.arr (["allo1a", "allo1b"].map .str)) := by decide +kernel

def twoAddressesFields : List EncodedField :=
  scoresFields "forecast" "forecast" ["allo1a", "allo1b"] "\"allo1a\", \"allo1b\"".toList forecast_literal
    twoAddresses_listed

theorem twoAddresses_typed : TypedEvent scoresClasses scoresSet twoAddressesFields twoAddresses :=
  scoresEvent_typed _ _

theorem twoAddresses_marshalled : scoresClasses.marshalEvent twoAddresses = some (some twoAddressesMessage) := by
  decide +kernel

theorem twoAddresses_plain : ∀ field ∈ twoAddressesFields, Survives field.type field.value field.text := by
  intro field member
  simp only [twoAddressesFields, scoresFields, List.mem_cons, List.not_mem_nil, or_false] at member
  rcases member with rfl | rfl | rfl
  · intro value listed
    have known : value = "allo1a" ∨ value = "allo1b" := by simpa using listed
    apply stripQuotes_eq_self.mp
    rcases known with rfl | rfl <;> decide
  · trivial
  · rfl

theorem matchers_agree_scalars :
    MatchersAgree scoresClasses scoresSet twoAddressesFields twoAddresses "emissions.v10.EventScoresSet"
      twoAddressesMessage [⟨"topic_id", .eq, "42"⟩, ⟨"label", .contains, "cast"⟩] := by
  refine (matchers_agree_iff twoAddresses_typed scoresClasses_constructs twoAddresses_plain rfl
    twoAddresses_marshalled ?_).mpr ?_ _ (List.Subset.refl _)
  · intro cond member
    simp only [List.mem_cons, List.not_mem_nil, or_false] at member
    rcases member with rfl | rfl
    · exact ⟨_, .tail _ (.head _), rfl⟩
    · exact ⟨_, .tail _ (.tail _ (.head _)), rfl⟩
  · intro cond asked field member onField
    simp only [List.mem_cons, List.not_mem_nil, or_false] at asked
    simp only [twoAddressesFields, scoresFields, List.mem_cons, List.not_mem_nil, or_false] at member
    rcases member with rfl | rfl | rfl
    · rcases asked with rfl | rfl <;> exact absurd onField (by decide)
    · obtain rfl : cond = ⟨"topic_id", .eq, "42"⟩ := by
        rcases asked with rfl | rfl
        · rfl
        · exact absurd onField (by decide)
      refine ⟨fun _ _ => ⟨42, by decide +kernel⟩, ?_⟩
      intro elem items v repeated
      cases repeated
    · refine ⟨fun _ => trivial, ?_⟩
      intro elem items v repeated
      cases repeated

/-- The verdicts on the addresses. -/
theorem addresses_verdicts (operator : Operator) (value : String) (asks : operator ≠ .exists) :
    eventMatchesConditionsUntyped scoresClasses twoAddresses "emissions.v10.EventScoresSet"
        [⟨"addresses", operator, value⟩] =
      some (if operator = .contains then false
        else compareBy operator (.str "[\"allo1a\", \"allo1b\"]") (.str (stripQuotes (stripQuotes value)))) ∧
    eventMatchesConditionsTyped scoresClasses twoAddressesMessage scoresSet [⟨"addresses", operator, value⟩] =
      some false := by
  have given : Verdicts scoresClasses scoresSet twoAddresses "emissions.v10.EventScoresSet" twoAddressesMessage _
      ⟨"addresses", operator, value⟩ :=
    verdicts twoAddresses_typed twoAddresses_plain rfl (by decide +kernel) (.head _) rfl
  obtain ⟨untyped, typed⟩ := given.repeated asks .str _ (.str (stripQuotes (stripQuotes value))) rfl rfl rfl
  rw [eventMatchesConditionsUntyped, eventMatchesConditionsTyped, allM_singleton, allM_singleton]
  exact ⟨untyped, typed⟩

/-- Neither matcher finds an address that the list contains, an order on the list
holds of its text only, and a superscript two makes both raise. -/
theorem repeated_unmatched :
    (eventMatchesConditionsUntyped scoresClasses twoAddresses "emissions.v10.EventScoresSet"
        [⟨"addresses", .contains, "allo1a"⟩] = some false ∧
      eventMatchesConditionsTyped scoresClasses twoAddressesMessage scoresSet
        [⟨"addresses", .contains, "allo1a"⟩] = some false) ∧
    (eventMatchesConditionsUntyped scoresClasses twoAddresses "emissions.v10.EventScoresSet"
        [⟨"addresses", .lt, "allo1c"⟩] = some true ∧
      eventMatchesConditionsTyped scoresClasses twoAddressesMessage scoresSet
        [⟨"addresses", .lt, "allo1c"⟩] = some false) ∧
    (eventMatchesConditionsUntyped scoresClasses twoAddresses "emissions.v10.EventScoresSet"
        [⟨"topic_id", .eq, "²"⟩] = none ∧
      eventMatchesConditionsTyped scoresClasses twoAddressesMessage scoresSet [⟨"topic_id", .eq, "²"⟩] = none) := by
  have contains := addresses_verdicts .contains "allo1a" (by decide)
  have less := addresses_verdicts .lt "allo1c" (by decide)
  have before : compareBy .lt (.str "[\"allo1a\", \"allo1b\"]") (.str (stripQuotes (stripQuotes "allo1c"))) = true := by
    decide +kernel
  rw [if_neg (by decide), before] at less
  exact ⟨contains, less, by decide +kernel, by decide +kernel⟩

end AlloraSdk.Guarantees
