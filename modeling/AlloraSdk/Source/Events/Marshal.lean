import AlloraSdk.Source.Utils.Json

/-!
# Events as messages

Source: rpc_client/event_utils.py. The message classes are generated, so their
annotations and constructors are parameters, and so is the parsing of fields of
other types than these (floats, nested messages).
-/

namespace AlloraSdk.Source.Events
open AlloraSdk.Source.Utils

inductive FieldType where
  | int
  | bool
  | str
  | list (elem : FieldType)
  | other (name : String)
  deriving DecidableEq, Repr

structure MessageClass where
  module : String
  name : String
  deriving DecidableEq, Repr

/-- An instance of a message class. A nested message is a dict. -/
structure Message where
  cls : MessageClass
  fields : List (String × Json)
  deriving DecidableEq, Repr

structure EventClasses where
  /-- `EventRegistry._event_map`. -/
  eventMap : List (String × MessageClass)
  annotations : MessageClass → List (String × FieldType)
  /-- `event_class(**field_values)`, unless it raises. -/
  construct : MessageClass → List (String × Json) → Option Message
  /-- `str(message)`. -/
  str : Message → String
  parseOther : String → Json → Option Json
  /-- A condition on a field of another type: the operator, the field, the value. -/
  compareOther : FieldType → String → Json → String → Bool
  /-- `str` of a list or a dict. -/
  strOf : Json → String

/-- Without the quotes around it. -/
def stripQuotes (text : String) : String :=
  match text.toList with
  | '\x22' :: rest => if rest.getLast? = some '\x22' then String.ofList rest.dropLast else text
  | _ => text

/-- `s.isdigit() or (s.startswith('-') and s[1:].isdigit())`; `int` refuses some
of these texts, such as a superscript two. -/
def isDigitText (text : String) : Bool :=
  match text.toList with
  | '-' :: digits => !digits.isEmpty && digits.all isPyDigit
  | digits => !digits.isEmpty && digits.all isPyDigit

namespace EventClasses

variable (classes : EventClasses)

def getEventClass (eventType : String) : Option MessageClass := classes.eventMap.lookup eventType

def fieldType (cls : MessageClass) (name : String) : Option FieldType := (classes.annotations cls).lookup name

/-- `str(value)`. -/
def pyStr : Json → String
  | .null => "None"
  | .bool value => if value then "True" else "False"
  | .int value => toString value
  | .str text => text
  | value => classes.strOf value

/-- `_build_parser`; nothing where the parser raises. -/
def parse : FieldType → Json → Option Json
  | .list elem, .str text =>
    let bare := stripQuotes text
    let parsed :=
      if bare.toList.head? = some '[' ∧ bare.toList.getLast? = some ']' then Json.loads bare
      else some (.arr [.str bare])
    match parsed with
    | some (.arr items) => (items.mapM (parse elem)).map .arr
    | _ => none
  | .list elem, .arr items => (items.mapM (parse elem)).map .arr
  | .list elem, value => (parse elem value).map fun item => .arr [item]
  | .int, .int value => some (.int value)
  | .int, .bool value => some (.bool value)
  | .int, .str text =>
    let bare := stripQuotes text
    if isDigitText bare then (pyInt bare.toList).map .int else none
  | .int, _ => none
  | .bool, .bool value => some (.bool value)
  | .bool, .str text =>
    if text = "true" then some (.bool true) else if text = "false" then some (.bool false) else none
  | .bool, _ => none
  | .str, .str text => some (.str (stripQuotes text))
  | .str, value => some (.str (classes.pyStr value))
  | .other name, value => classes.parseOther name value

/-- `field_values[key] = value`. -/
def setField (key : String) (value : Json) (fields : List (String × Json)) : List (String × Json) :=
  if fields.any fun field => field.1 = key then
    fields.map fun field => if field.1 = key then (key, value) else field
  else fields ++ [(key, value)]

/-- One attribute of `_parse_attributes`, not strict; on an attribute that is not
a dict it raises. -/
def parseAttribute (cls : MessageClass) (fields : List (String × Json)) (attr : Json) :
    Option (List (String × Json)) := do
  let key ← attr.get "key"
  let raw ← attr.get "value"
  match key, raw with
  | some (.str key), some raw =>
    if key = "" ∨ raw = .null then pure fields
    else match classes.fieldType cls key with
      | none => pure fields
      -- the raw value stays where the parser raises
      | some expected => pure (setField key ((classes.parse expected raw).getD raw) fields)
  | _, _ => pure fields

/-- `marshal_event`: `none` where it raises, `some none` where there is no message. -/
def marshalEvent (event : Json) : Option (Option Message) := do
  let eventType ← event.get "type"
  match eventType with
  | some (.str eventType) =>
    match if eventType = "" then none else classes.getEventClass eventType with
    | none => pure none
    | some cls => do
      let attributes ← event.get "attributes"
      let attributes ← (attributes.getD (.arr [])).items
      let fields ← attributes.foldlM (classes.parseAttribute cls) []
      pure (classes.construct cls fields)
  | _ => pure none

end EventClasses

end AlloraSdk.Source.Events
