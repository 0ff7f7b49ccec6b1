import AlloraSdk.Chain.TypedEvents
import AlloraSdk.Source.Utils.DecCanonical

/-!
# Marshalling undoes the chain's encoding, but for escapes and quotes

The decoder strips the quotes of a string literal by position and leaves its
escapes, and strips the quotes of a string of a list that JSON has already
decoded. So the fields come back exactly when no string literal has an escape
and no string of a list is itself in quotes.
-/

namespace AlloraSdk.Guarantees
open AlloraSdk.Source.Utils AlloraSdk.Source.Events AlloraSdk.Chain

/-- A string that starts and ends with a double quote. -/
def IsQuoted (text : String) : Prop := ∃ body, text = inQuotes body

/-- The attribute tells its field to the decoder. -/
def Survives : FieldType → Json → String → Prop
  | .str, .str value, text => text = inQuotes value
  | .list .str, .arr items, _ => ∀ value, .str value ∈ items → ¬ IsQuoted value
  | _, _, _ => True

section Scalars

theorem inQuotes_injective {a b : String} (same : inQuotes a = inQuotes b) : a = b := by
  have lists := String.ofList_injective same
  have bodies := List.append_cancel_right (List.cons_eq_cons.mp lists).2
  exact String.toList_inj.mp bodies

theorem stripQuotes_inQuotes (body : String) : stripQuotes (inQuotes body) = body := by
  simp [stripQuotes, inQuotes]

/-- What is in no quotes stays. -/
theorem stripQuotes_eq_self {text : String} : stripQuotes text = text ↔ ¬ IsQuoted text := by
  constructor
  · rintro same ⟨body, rfl⟩
    rw [stripQuotes_inQuotes] at same
    have lengths := congrArg (fun t => t.toList.length) same
    simp [inQuotes] at lengths
    omega
  · intro bare
    unfold stripQuotes
    split
    · rename_i rest shape
      split
      · rename_i last
        exfalso
        apply bare
        refine ⟨String.ofList rest.dropLast, ?_⟩
        apply String.toList_inj.mp
        have joined := List.dropLast_append_getLast? _ last
        rw [shape, inQuotes, String.toList_ofList, String.toList_ofList, joined]
      · rfl
    · rfl

theorem not_isQuoted_of_head {c : Char} {rest : List Char} (other : c ≠ '\x22') :
    ¬ IsQuoted (String.ofList (c :: rest)) := by
  rintro ⟨body, same⟩
  have lists := String.ofList_injective same
  exact other (List.cons_eq_cons.mp lists).1

theorem isPyDigit_of_isDigit {c : Char} (digit : c.isDigit = true) : isPyDigit c = true := by
  have bounds := isDigit_bounds digit
  simp [isPyDigit, decimalDigit, show c.toNat < 128 by omega, digit]

theorem isNumberSpace_of_plain {c : Char} (plain : isPySpace c = false) : isNumberSpace c = false := by
  simp [isNumberSpace, plain]

theorem decimalText_chars (n : ℤ) : (decimalText n).toList =
    (if decide (n < 0) then ['-'] else []) ++ Nat.toDigits 10 n.natAbs := by
  simp [decimalText]

theorem signed_natAbs (n : ℤ) : signed (decide (n < 0)) n.natAbs = n := by
  unfold signed
  split
  · rename_i negative
    have := of_decide_eq_true negative
    omega
  · rename_i positive
    have := of_decide_eq_false (Bool.eq_false_iff.mpr positive)
    omega

theorem isDigitText_decimalText (n : ℤ) : isDigitText (decimalText n) = true := by
  have digits := digits_toDigits n.natAbs
  have tested : (!(Nat.toDigits 10 n.natAbs).isEmpty && (Nat.toDigits 10 n.natAbs).all isPyDigit) = true := by
    rw [Bool.and_eq_true]
    exact ⟨by simp, List.all_eq_true.mpr fun c member => isPyDigit_of_isDigit (digits c member)⟩
  unfold isDigitText
  rw [decimalText_chars]
  cases decide (n < 0) with
  | true => exact tested
  | false =>
    simp only [Bool.false_eq_true, if_false, List.nil_append]
    split
    · rename_i rest shape
      have digit := digits '-' (by rw [shape]; exact List.mem_cons_self ..)
      cases digit
    · exact tested

/-- `int` reads the text of an integer. -/
theorem pyInt_decimalText {n : ℤ} (readable : Readable n) : pyInt (decimalText n).toList = some n := by
  have digits := digits_toDigits n.natAbs
  have plain : ∀ c ∈ (decimalText n).toList, isPySpace c = false ∧ toAscii c = c ∧ c ≠ '_' := by
    intro c member
    apply isDecimalChar_plain
    rw [decimalText_chars] at member
    rcases List.mem_append.mp member with sign | digit
    · split at sign
      · obtain rfl := List.mem_singleton.mp sign
        decide
      · cases sign
    · simp [isDecimalChar, digits c digit]
  have stripped : stripChars isNumberSpace (decimalText n).toList = (decimalText n).toList :=
    stripChars_eq_self fun c member => isNumberSpace_of_plain (plain c member).1
  have ascii : (decimalText n).toList.map toAscii = (decimalText n).toList :=
    (List.map_congr_left fun c member => (plain c member).2.1).trans (List.map_id _)
  have first : ∃ c rest, Nat.toDigits 10 n.natAbs = c :: rest ∧ c.isDigit = true := by
    obtain ⟨c, rest, shape⟩ := List.exists_cons_of_ne_nil (Nat.toDigits_ne_nil (n := n.natAbs) (b := 10))
    exact ⟨c, rest, shape, digits c (by rw [shape]; exact List.mem_cons_self ..)⟩
  have sign : splitSign (decimalText n).toList = (decide (n < 0), Nat.toDigits 10 n.natAbs) := by
    rw [decimalText_chars]
    exact splitSign_written _ first
  have whole : (Nat.toDigits 10 n.natAbs).splitOn '_' = [Nat.toDigits 10 n.natAbs] := by
    apply List.splitOn_eq_singleton
    intro member
    cases digits '_' member
  unfold pyInt
  simp only [stripped, ascii, sign, whole, List.all_cons, List.all_nil, List.flatten_cons, List.flatten_nil,
    List.append_nil, digitsValue_toDigits, Option.map_some, signed_natAbs]
  rw [if_pos ⟨by simp, readable⟩]

theorem parse_decimalText (classes : EventClasses) {n : ℤ} (readable : Readable n) {text : String}
    (bare : stripQuotes text = decimalText n) : classes.parse .int (.str text) = some (.int n) := by
  simp only [EventClasses.parse, bare, isDigitText_decimalText, if_true, pyInt_decimalText readable, Option.map_some]

theorem decimalText_bare (n : ℤ) : ¬ IsQuoted (decimalText n) := by
  unfold decimalText
  by_cases negative : n < 0
  · rw [if_pos negative]
    exact not_isQuoted_of_head (by decide)
  · rw [if_neg negative, List.nil_append]
    obtain ⟨c, rest, shape⟩ := List.exists_cons_of_ne_nil (Nat.toDigits_ne_nil (n := n.natAbs) (b := 10))
    have digit := digits_toDigits n.natAbs c (by rw [shape]; exact List.mem_cons_self ..)
    rw [shape]
    apply not_isQuoted_of_head
    rintro rfl
    cases digit

end Scalars

section Fields

variable (classes : EventClasses)

/-- An array is read by JSON, and then element by element. -/
theorem parse_array {elem : FieldType} {body : List Char} {items : List Json}
    (array : Json.loads (String.ofList ('[' :: (body ++ [']']))) = some (.arr items)) :
    classes.parse (.list elem) (.str (String.ofList ('[' :: (body ++ [']'])))) =
      (items.mapM (classes.parse elem)).map .arr := by
  have bare := stripQuotes_eq_self.mpr (@not_isQuoted_of_head '[' (body ++ [']']) (by decide))
  simp only [EventClasses.parse, bare]
  have brackets : (String.ofList ('[' :: (body ++ [']']))).toList.head? = some '[' ∧
      (String.ofList ('[' :: (body ++ [']']))).toList.getLast? = some ']' := by
    rw [String.toList_ofList, ← List.cons_append, List.getLast?_concat]
    exact ⟨rfl, rfl⟩
  rw [if_pos brackets, array]

theorem parse_strings (values : List String) :
    (values.map Json.str).mapM (classes.parse .str) = some (values.map fun value => .str (stripQuotes value)) := by
  induction values with
  | nil => rfl
  | cons value values ih =>
    rw [List.map_cons, List.mapM_cons, ih]
    rfl

theorem parse_ints {values : List ℤ} {items : List Json} (each : List.Forall₂ EncodesInt values items) :
    items.mapM (classes.parse .int) = some (values.map .int) := by
  induction each with
  | nil => rfl
  | @cons value item values items head tail ih =>
    have parsed : classes.parse .int item = some (.int value) := by
      cases head with
      | quoted readable => exact parse_decimalText classes readable (stripQuotes_eq_self.mpr (decimalText_bare value))
      | bare => rfl
    rw [List.mapM_cons, ih, parsed]
    rfl

/-- What the decoder reads of an attribute, and that it is the field's value
exactly when the attribute tells it. -/
theorem parse_encoded {type : FieldType} {value : Json} {text : String} (encodes : Encodes type value text) :
    ∃ read, classes.parse type (.str text) = some read ∧ (read = value ↔ Survives type value text) := by
  cases encodes with
  | @str value body literal =>
    refine ⟨.str body, ?_, ?_⟩
    · simp only [EventClasses.parse, stripQuotes_inQuotes]
    · constructor
      · intro same
        cases same
        rfl
      · intro same
        rw [inQuotes_injective same]
  | int64 n readable =>
    exact ⟨.int n, parse_decimalText classes readable (stripQuotes_inQuotes _), ⟨fun _ => trivial, fun _ => rfl⟩⟩
  | int32 n readable =>
    exact ⟨.int n, parse_decimalText classes readable (stripQuotes_eq_self.mpr (decimalText_bare n)),
      ⟨fun _ => trivial, fun _ => rfl⟩⟩
  | true => exact ⟨.bool true, rfl, ⟨fun _ => trivial, fun _ => rfl⟩⟩
  | false => exact ⟨.bool false, rfl, ⟨fun _ => trivial, fun _ => rfl⟩⟩
  | @strings values body array =>
    refine ⟨.arr (values.map fun value => .str (stripQuotes value)), ?_, ?_⟩
    · rw [parse_array classes array, parse_strings]
      rfl
    · simp only [Survives, Json.arr.injEq, List.map_inj_left, Json.str.injEq, List.mem_map,
        exists_eq_right, stripQuotes_eq_self]
  | @ints values items body each array =>
    refine ⟨.arr (values.map .int), ?_, ⟨fun _ => trivial, fun _ => rfl⟩⟩
    rw [parse_array classes array, parse_ints classes each]
    rfl

theorem lookup_of_mem {α β : Type} [BEq α] [LawfulBEq α] {pairs : List (α × β)} {key : α} {value : β}
    (distinct : (pairs.map Prod.fst).Nodup) (member : (key, value) ∈ pairs) : pairs.lookup key = some value := by
  induction pairs with
  | nil => cases member
  | cons first pairs ih =>
    obtain ⟨other, distinct⟩ := List.nodup_cons.mp distinct
    rcases List.mem_cons.mp member with rfl | member
    · simp
    · have different : key ≠ first.1 := by
        rintro rfl
        exact other (List.mem_map.mpr ⟨_, member, rfl⟩)
      rw [List.lookup_cons, beq_false_of_ne different]
      exact ih distinct member

/-- A new field goes to the end. -/
theorem setField_new {key : String} {value : Json} {fields : List (String × Json)}
    (fresh : key ∉ fields.map Prod.fst) :
    EventClasses.setField key value fields = fields ++ [(key, value)] := by
  unfold EventClasses.setField
  rw [if_neg]
  intro there
  obtain ⟨field, member, same⟩ := List.any_eq_true.mp there
  exact fresh (List.mem_map.mpr ⟨field, member, of_decide_eq_true same⟩)

variable {cls : MessageClass}

/-- One attribute: its field gets what its parser reads. -/
theorem parseAttribute_carried {field : EncodedField} {attr : Json} {read : Json}
    {done : List (String × Json)} (carried : field.Carried attr)
    (annotated : classes.fieldType cls field.name = some field.type)
    (parsed : classes.parse field.type (.str field.text) = some read)
    (fresh : field.name ∉ done.map Prod.fst) :
    classes.parseAttribute cls done attr = some (done ++ [(field.name, read)]) := by
  obtain ⟨key, value⟩ := carried
  unfold EventClasses.parseAttribute
  simp only [key, value, Option.bind_eq_bind, Option.bind_some, annotated, parsed, Option.getD_some]
  rw [if_neg (by simp [field.named]), setField_new fresh]
  rfl

/-- All attributes: the fields in their order, each with what its parser reads. -/
theorem parseAttributes_carried {fields : List EncodedField} {attrs : List Json}
    (carried : List.Forall₂ EncodedField.Carried fields attrs)
    (annotated : ∀ field ∈ fields, classes.fieldType cls field.name = some field.type)
    {read : EncodedField → Json}
    (parsed : ∀ field ∈ fields, classes.parse field.type (.str field.text) = some (read field))
    (distinct : (fields.map EncodedField.name).Nodup) {done : List (String × Json)}
    (fresh : ∀ field ∈ fields, field.name ∉ done.map Prod.fst) :
    attrs.foldlM (classes.parseAttribute cls) done =
      some (done ++ fields.map fun field => (field.name, read field)) := by
  induction carried generalizing done with
  | nil => simp
  | @cons field attr fields attrs head tail ih =>
    obtain ⟨other, distinct⟩ := List.nodup_cons.mp distinct
    rw [List.foldlM_cons, parseAttribute_carried classes head (annotated field (List.mem_cons_self ..))
      (parsed field (List.mem_cons_self ..)) (fresh field (List.mem_cons_self ..))]
    have later : ∀ f ∈ fields, f.name ∉ (done ++ [(field.name, read field)]).map Prod.fst := by
      intro f member there
      rw [List.map_append, List.mem_append] at there
      rcases there with old | new
      · exact fresh f (List.mem_cons_of_mem _ member) old
      · have same : f.name = field.name := by simpa using new
        exact other (List.mem_map.mpr ⟨f, member, same⟩)
    have rest := ih (fun f member => annotated f (List.mem_cons_of_mem _ member))
      (fun f member => parsed f (List.mem_cons_of_mem _ member)) distinct
      later
    simpa using rest

end Fields

/-- The message of an event has the values of its fields. -/
def Decodes (classes : EventClasses) (cls : MessageClass) (event : Json) (fields : List EncodedField) : Prop :=
  ∃ message, classes.marshalEvent event = some (some message) ∧ message.cls = cls ∧
    ∀ field ∈ fields, message.fields.lookup field.name = some field.value

section Event

variable {classes : EventClasses} {cls : MessageClass} {fields : List EncodedField} {event : Json}

theorem typedEvent_names (encoded : TypedEvent classes cls fields event) :
    (fields.map EncodedField.name).Perm ((classes.annotations cls).map Prod.fst) ∧
      (fields.map EncodedField.name).Nodup := by
  have names : (fields.map EncodedField.name).Perm ((classes.annotations cls).map Prod.fst) := by
    have firsts := encoded.complete.map Prod.fst
    rwa [List.map_map] at firsts
  exact ⟨names, names.nodup_iff.mpr encoded.distinct⟩

theorem typedEvent_annotated (encoded : TypedEvent classes cls fields event) :
    ∀ field ∈ fields, classes.fieldType cls field.name = some field.type := by
  intro field member
  have there := encoded.complete.subset (List.mem_map_of_mem member)
  exact lookup_of_mem encoded.distinct there

/-- The message has what the parsers read of the attributes. -/
theorem marshal_reads (encoded : TypedEvent classes cls fields event) (constructs : ConstructsBy classes cls)
    {read : EncodedField → Json}
    (parsed : ∀ field ∈ fields, classes.parse field.type (.str field.text) = some (read field)) :
    ∃ message, classes.marshalEvent event = some (some message) ∧ message.cls = cls ∧
      ∀ field ∈ fields, message.fields.lookup field.name = some (read field) := by
  obtain ⟨names, distinct⟩ := typedEvent_names encoded
  obtain ⟨eventType, some_type, typed, registered⟩ := encoded.typed
  obtain ⟨attrs, listed, carried⟩ := encoded.carried
  have none_done : ∀ field ∈ fields, field.name ∉ ([] : List (String × Json)).map Prod.fst := by simp
  have folded := parseAttributes_carried classes carried (typedEvent_annotated encoded) parsed distinct none_done
  obtain ⟨message, made, ofClass, same⟩ := constructs (fields.map fun field => (field.name, read field)) (by
    rw [List.map_map]
    exact names)
  refine ⟨message, ?_, ofClass, fun field member => ?_⟩
  · unfold EventClasses.marshalEvent
    simp only [typed, listed, Option.bind_eq_bind, Option.bind_some, if_neg some_type, registered,
      Option.getD_some, Json.items, folded, List.nil_append, made]
    rfl
  · rw [same]
    have firsts : ((fields.map fun field => (field.name, read field)).map Prod.fst).Nodup := by
      rw [List.map_map]
      exact distinct
    exact lookup_of_mem firsts (List.mem_map_of_mem member)

/-- Where the attributes tell their fields, the message has them. -/
theorem decodes_of_survives (encoded : TypedEvent classes cls fields event) (constructs : ConstructsBy classes cls)
    (survives : ∀ field ∈ fields, Survives field.type field.value field.text) : Decodes classes cls event fields := by
  refine marshal_reads encoded constructs fun field member => ?_
  obtain ⟨read, parsed, tells⟩ := parse_encoded classes field.encodes
  rw [parsed, tells.mpr (survives field member)]

end Event

/-- Marshalling gives every field back if and only if every attribute tells its
field: no string is written with an escape, and no string of a list is in quotes. -/
theorem marshal_inverse_iff {classes : EventClasses} {cls : MessageClass} {fields : List EncodedField}
    {event : Json} (encoded : TypedEvent classes cls fields event) (constructs : ConstructsBy classes cls) :
    Decodes classes cls event fields ↔ ∀ field ∈ fields, Survives field.type field.value field.text := by
  have readable : ∀ field : EncodedField, ∃ read, classes.parse field.type (.str field.text) = some read ∧
      (read = field.value ↔ Survives field.type field.value field.text) :=
    fun field => parse_encoded classes field.encodes
  choose read parsed tells using readable
  refine ⟨?_, decodes_of_survives encoded constructs⟩
  obtain ⟨message, marshalled, -, values⟩ := marshal_reads encoded constructs fun field _ => parsed field
  rintro ⟨message', marshalled', -, given⟩ field member
  rw [marshalled] at marshalled'
  obtain rfl := Option.some.inj (Option.some.inj marshalled')
  have given' := given field member
  rw [values field member] at given'
  exact (tells field).mp (Option.some.inj given')

/-! ## Strings with escapes and with quotes -/

def scoresSet : MessageClass := ⟨"emissions.v10", "EventScoresSet"⟩

def scoresClasses : EventClasses where
  eventMap := [("emissions.v10.EventScoresSet", scoresSet)]
  annotations _ := [("topic_id", .int), ("label", .str), ("addresses", .list .str)]
  construct cls values := some ⟨cls, values⟩
  str _ := ""
  parseOther _ _ := none
  compareOther _ _ _ _ := false
  strOf _ := ""

theorem scoresClasses_constructs : ConstructsBy scoresClasses scoresSet :=
  fun values _ => ⟨⟨scoresSet, values⟩, rfl, rfl, fun _ => rfl⟩

/-- The fields of an event whose label is written as `body` in quotes, and whose
addresses are written as `array` in brackets. -/
def scoresFields (label body : String) (addresses : List String) (array : List Char)
    (literal : Json.loads (inQuotes body) = some (.str label))
    (listed : Json.loads (String.ofList ('[' :: (array ++ [']']))) = some (.arr (addresses.map .str))) :
    List EncodedField :=
  [⟨"addresses", .list .str, _, _, by decide, .strings listed⟩,
    ⟨"topic_id", .int, .int 42, _, by decide, .int64 42 (by decide +kernel)⟩, ⟨"label", .str, _, _, by decide, .str literal⟩]

def scoresEvent (body : String) (array : List Char) : Json :=
  .obj [("type", .str "emissions.v10.EventScoresSet"), ("attributes", .arr
    [.obj [("key", .str "addresses"), ("value", .str (String.ofList ('[' :: (array ++ [']']))))],
      .obj [("key", .str "topic_id"), ("value", .str (inQuotes (decimalText 42)))],
      .obj [("key", .str "label"), ("value", .str (inQuotes body)), ("index", .bool true)]])]

theorem scoresEvent_typed {label body : String} {addresses : List String} {array : List Char}
    (literal : Json.loads (inQuotes body) = some (.str label))
    (listed : Json.loads (String.ofList ('[' :: (array ++ [']']))) = some (.arr (addresses.map .str))) :
    TypedEvent scoresClasses scoresSet (scoresFields label body addresses array literal listed)
      (scoresEvent body array) where
  typed := ⟨"emissions.v10.EventScoresSet", by decide, rfl, rfl⟩
  carried := ⟨_, rfl, .cons ⟨rfl, rfl⟩ (.cons ⟨rfl, rfl⟩ (.cons ⟨rfl, rfl⟩ .nil))⟩
  complete := by
    change List.Perm [("addresses", FieldType.list .str), ("topic_id", .int), ("label", .str)]
      [("topic_id", .int), ("label", .str), ("addresses", .list .str)]
    decide
  distinct := by decide

theorem marshal_inverse_plain : Decodes scoresClasses scoresSet
    (scoresEvent "forecast [a]" "\"allo1a\", \"allo1b\"".toList)
    (scoresFields "forecast [a]" "forecast [a]" ["allo1a", "allo1b"] "\"allo1a\", \"allo1b\"".toList
      (by decide +kernel) (by decide +kernel)) := by
  apply (marshal_inverse_iff (scoresEvent_typed _ _) scoresClasses_constructs).mpr
  intro field member
  simp only [scoresFields, List.mem_cons, List.not_mem_nil, or_false] at member
  rcases member with rfl | rfl | rfl
  · intro value listed
    have known : value = "allo1a" ∨ value = "allo1b" := by simpa using listed
    apply stripQuotes_eq_self.mp
    rcases known with rfl | rfl <;> decide
  · trivial
  · rfl

/-- A label with a quote comes back with its escape, and an address in quotes
comes back without them. -/
theorem marshal_not_inverse :
    ¬ Decodes scoresClasses scoresSet (scoresEvent "a\\\"b" [])
      (scoresFields "a\"b" "a\\\"b" [] [] (by decide +kernel) (by decide +kernel)) ∧
    ¬ Decodes scoresClasses scoresSet (scoresEvent "" "\"\\\"a\\\"\"".toList)
      (scoresFields "" "" ["\"a\""] "\"\\\"a\\\"\"".toList (by decide +kernel) (by decide +kernel)) := by
  constructor
  · rintro ⟨message, marshalled, -, given⟩
    have read : scoresClasses.marshalEvent (scoresEvent "a\\\"b" []) = some (some ⟨scoresSet,
        [("addresses", .arr []), ("topic_id", .int 42), ("label", .str "a\\\"b")]⟩) := by decide +kernel
    rw [read] at marshalled
    cases marshalled
    have label := given _ (List.mem_cons_of_mem _ (List.mem_cons_of_mem _ (List.mem_cons_self ..)))
    revert label
    decide
  · rintro ⟨message, marshalled, -, given⟩
    have read : scoresClasses.marshalEvent (scoresEvent "" "\"\\\"a\\\"\"".toList) = some (some ⟨scoresSet,
        [("addresses", .arr [.str "a"]), ("topic_id", .int 42), ("label", .str "")]⟩) := by decide +kernel
    rw [read] at marshalled
    cases marshalled
    have addresses := given _ (List.mem_cons_self ..)
    revert addresses
    decide

end AlloraSdk.Guarantees
