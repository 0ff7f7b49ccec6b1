import AlloraSdk.Source.Events.Marshal

/-!
# Typed events as the chain emits them

One attribute a field, its value the JSON encoding of the field. How a string is
escaped is left open: a literal of a string is any JSON text in quotes that
`json.loads` reads as it.
-/

namespace AlloraSdk.Chain
open AlloraSdk.Source.Utils AlloraSdk.Source.Events

/-- A decimal integer. -/
def decimalText (n : ℤ) : String :=
  String.ofList ((if n < 0 then ['-'] else []) ++ Nat.toDigits 10 n.natAbs)

def inQuotes (text : String) : String := String.ofList ('\x22' :: (text.toList ++ ['\x22']))

/-- No longer than `int` reads; 64-bit integers have up to 20 digits. -/
def Readable (n : ℤ) : Prop := numDigits n.natAbs ≤ maxStrDigits

instance (n : ℤ) : Decidable (Readable n) := inferInstanceAs (Decidable (_ ≤ _))

/-- 64-bit integers are quoted, 32-bit integers are bare. -/
inductive EncodesInt (n : ℤ) : Json → Prop
  | quoted (readable : Readable n) : EncodesInt n (.str (decimalText n))
  | bare : EncodesInt n (.int n)

/-- The text of an attribute, by the type of its field and the field's value. -/
inductive Encodes : FieldType → Json → String → Prop
  | str {value body : String} (literal : Json.loads (inQuotes body) = some (.str value)) :
      Encodes .str (.str value) (inQuotes body)
  | int64 (n : ℤ) (readable : Readable n) : Encodes .int (.int n) (inQuotes (decimalText n))
  | int32 (n : ℤ) (readable : Readable n) : Encodes .int (.int n) (decimalText n)
  | true : Encodes .bool (.bool true) "true"
  | false : Encodes .bool (.bool false) "false"
  | strings {values : List String} {body : List Char}
      (array : Json.loads (String.ofList ('[' :: (body ++ [']']))) = some (.arr (values.map .str))) :
      Encodes (.list .str) (.arr (values.map .str)) (String.ofList ('[' :: (body ++ [']'])))
  | ints {values : List ℤ} {items : List Json} {body : List Char}
      (each : List.Forall₂ EncodesInt values items)
      (array : Json.loads (String.ofList ('[' :: (body ++ [']']))) = some (.arr items)) :
      Encodes (.list .int) (.arr (values.map .int)) (String.ofList ('[' :: (body ++ [']'])))

/-- A field with its value and the attribute that carries it. -/
structure EncodedField where
  name : String
  type : FieldType
  value : Json
  text : String
  named : name ≠ ""
  encodes : Encodes type value text

/-- The attribute, whatever else is in it. -/
def EncodedField.Carried (field : EncodedField) (attr : Json) : Prop :=
  attr.get "key" = some (some (.str field.name)) ∧ attr.get "value" = some (some (.str field.text))

/-- An event of a registered class: every field of the class once, in any order. -/
structure TypedEvent (classes : EventClasses) (cls : MessageClass) (fields : List EncodedField)
    (event : Json) : Prop where
  typed : ∃ eventType, eventType ≠ "" ∧ event.get "type" = some (some (.str eventType)) ∧
    classes.getEventClass eventType = some cls
  carried : ∃ attrs, event.get "attributes" = some (some (.arr attrs)) ∧
    List.Forall₂ EncodedField.Carried fields attrs
  complete : (fields.map fun field => (field.name, field.type)).Perm (classes.annotations cls)
  /-- Annotations are a dict. -/
  distinct : ((classes.annotations cls).map Prod.fst).Nodup

/-- The constructor of a message class takes the values of its fields. -/
def ConstructsBy (classes : EventClasses) (cls : MessageClass) : Prop :=
  ∀ values : List (String × Json), (values.map Prod.fst).Perm ((classes.annotations cls).map Prod.fst) →
    ∃ message, classes.construct cls values = some message ∧ message.cls = cls ∧
      ∀ name, message.fields.lookup name = values.lookup name

end AlloraSdk.Chain
