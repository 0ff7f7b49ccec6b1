import Mathlib.Data.List.Infix
import AlloraSdk.Source.Events.Marshal

/-!
# Event filters

Source: rpc_client/client_websocket_events.py, `EventAttributeCondition`,
`EventFilter` and the matching of conditions. An attribute's value is text, or
missing.
-/

namespace AlloraSdk.Source.Events
open AlloraSdk.Source.Utils

inductive Operator where
  | eq | lt | le | gt | ge | contains | exists
  deriving DecidableEq, Repr

def Operator.text : Operator → String
  | .eq => "="
  | .lt => "<"
  | .le => "<="
  | .gt => ">"
  | .ge => ">="
  | .contains => "CONTAINS"
  | .exists => "EXISTS"

structure EventAttributeCondition where
  attributeName : String
  operator : Operator
  value : String
  deriving DecidableEq, Repr

def EventAttributeCondition.toQueryCondition (cond : EventAttributeCondition) : String :=
  if cond.operator = .exists then cond.attributeName ++ " EXISTS"
  else cond.attributeName ++ " " ++ cond.operator.text ++ " '" ++ cond.value ++ "'"

structure EventFilter where
  conditions : List String
  deriving DecidableEq, Repr

namespace EventFilter

def empty : EventFilter := ⟨[]⟩

def custom (filter : EventFilter) (query : String) : EventFilter := ⟨filter.conditions ++ [query]⟩

def eventType (filter : EventFilter) (eventType : String) : EventFilter :=
  filter.custom ("tm.event='" ++ eventType ++ "'")

def sender (filter : EventFilter) (address : String) : EventFilter :=
  filter.custom ("message.sender='" ++ address ++ "'")

def toQuery (filter : EventFilter) : String :=
  if filter.conditions.isEmpty then "tm.event='NewBlock'" else " AND ".intercalate filter.conditions

def newBlocks : EventFilter := empty.eventType "NewBlock"

/-- The heartbeat's. -/
def newBlockHeaders : EventFilter := empty.eventType "NewBlockHeader"

def transactions : EventFilter := empty.eventType "Tx"

/-- Of both `subscribe_new_block_events`. -/
def newBlockEvents (eventName : String) (conditions : List EventAttributeCondition) : EventFilter :=
  conditions.foldl (fun filter cond => filter.custom (eventName ++ "." ++ cond.toQueryCondition))
    (empty.eventType "NewBlockEvents")

end EventFilter

/-! ## Values and operators -/

/-- The types that the coercion knows; on other ones (floats) the comparison is a
parameter. -/
def FieldType.coercible : FieldType → Bool
  | .list elem => elem.coercible
  | .other _ => false
  | _ => true

/-- Of an attribute's value, or a condition's; nothing where `int` raises. -/
def coerceToField : FieldType → Option String → Option Json
  | .list elem, value => (coerceToField elem (value.map stripQuotes)).map fun item => .arr [item]
  | .int, some value =>
    let v := stripQuotes value
    if isDigitText v then (pyInt v.toList).map .int else some (.str v)
  | .bool, some value =>
    let v := stripQuotes value
    if v = "true" then some (.bool true) else if v = "false" then some (.bool false) else some (.str v)
  | .str, some value => some (.str (stripQuotes value))
  | .other _, some value => some (.str (stripQuotes value))
  | .str, none => some (.str "None")
  | .int, none | .bool, none | .other _, none => some .null

/-- Without a type the text stays. -/
def coerceValueToType (expected : Option FieldType) (value : Option String) : Option Json :=
  match expected with
  | some type => coerceToField type value
  | none => some ((value.map fun text => Json.str (stripQuotes text)).getD .null)

/-- `int` takes the text, where that passes the digit test. -/
def Convertible : FieldType → String → Prop
  | .int, value => isDigitText (stripQuotes value) = true → ∃ n, pyInt (stripQuotes value).toList = some n
  | .list elem, value => Convertible elem (stripQuotes value)
  | _, _ => True

/-- The coercion raises only where `int` does. -/
theorem coerce_isSome_iff {type : FieldType} {value : String} :
    (coerceValueToType (some type) (some value)).isSome ↔ Convertible type value := by
  induction type generalizing value with
  | int =>
    simp only [coerceValueToType, coerceToField, Convertible]
    split
    · rename_i tested
      simp [tested, Option.isSome_iff_exists]
    · rename_i untested
      simp [untested]
  | bool =>
    simp only [coerceValueToType, coerceToField, Convertible]
    split
    · simp
    · split <;> simp
  | str => simp [coerceValueToType, coerceToField, Convertible]
  | list elem ih =>
    simp only [coerceValueToType, coerceToField, Convertible, Option.isSome_map, Option.map_some]
    exact ih
  | other name => simp [coerceValueToType, coerceToField, Convertible]

/-- The number that a bool or an int is. -/
def asInt : Json → Option ℤ
  | .int value => some value
  | .bool value => some value.toNat
  | _ => none

mutual

/-- `a == b`. -/
def pyEq : Json → Json → Bool
  | .null, b => b = .null
  | .bool a, b => asInt b = some (a.toNat : ℤ)
  | .int a, b => asInt b = some a
  | .str a, b => b = .str a
  | .arr a, b => match b with
    | .arr b => pyEqItems a b
    | _ => false
  | .obj a, b => b = .obj a

def pyEqItems : List Json → List Json → Bool
  | [], [] => true
  | x :: xs, y :: ys => pyEq x y && pyEqItems xs ys
  | _, _ => false

end

mutual

/-- How `a` compares to a `b` it is comparable to. -/
def pyCompare : Json → Json → Option Ordering
  | .bool a, b => (asInt b).map (compare (a.toNat : ℤ))
  | .int a, b => (asInt b).map (compare a)
  | .str a, b => match b with
    | .str b => some (compare a b)
    | _ => none
  | .arr a, b => match b with
    | .arr b => pyCompareItems a b
    | _ => none
  | _, _ => none

/-- By the first items that differ, or by length. -/
def pyCompareItems : List Json → List Json → Option Ordering
  | [], [] => some .eq
  | [], _ :: _ => some .lt
  | _ :: _, [] => some .gt
  | x :: xs, y :: ys => if pyEq x y then pyCompareItems xs ys else pyCompare x y

end

/-- `b in a`, for text and lists. -/
def pyContains : Json → Json → Bool
  | .arr items, b => items.any fun item => pyEq b item
  | .str a, .str b => decide (b.toList <:+: a.toList)
  | _, _ => false

/-- `_cmp`; values that cannot be compared are not. -/
def compareBy (operator : Operator) (a b : Json) : Bool :=
  match operator with
  | .eq => pyEq a b
  | .lt => pyCompare a b = some .lt
  | .le => (pyCompare a b).any Ordering.isLE
  | .gt => pyCompare a b = some .gt
  | .ge => (pyCompare a b).any Ordering.isGE
  | .contains => pyContains a b
  | .exists => false

def evaluateOperator (left : Json) (operator : Operator) (right : Json) : Bool :=
  if operator = .exists then left ≠ .null
  else match left with
    | .arr items => items.any fun item => compareBy operator item right
    | left => compareBy operator left right

/-! ## Matching -/

def attributeText : Json → Option String
  | .str text => some text
  | _ => none

/-- The value of an attribute, when it has the key. -/
def valueUnder (key : String) (attr : Json) : Option (List (Option String)) := do
  let name ← attr.get "key"
  let value ← attr.get "value"
  pure (if name = some (.str key) then [value.bind attributeText] else [])

/-- `values_by_key`, of one key; where an attribute is not a dict it raises. -/
def valuesOf (event : Json) (key : String) : Option (List (Option String)) := do
  let attributes ← event.get "attributes"
  let attributes ← match attributes with
    | some attributes => if attributes.truthy then attributes.items else some []
    | none => some []
  let values ← attributes.mapM (valueUnder key)
  pure values.flatten

/-- Whether all pass a test that may raise; the first that fails ends it. -/
def allM {α : Type} (test : α → Option Bool) : List α → Option Bool
  | [] => some true
  | x :: rest => do if ← test x then allM test rest else pure false

/-- One condition of `_event_matches_conditions_untyped`. -/
def meetsUntyped (classes : EventClasses) (event : Json) (eventName : String)
    (cond : EventAttributeCondition) : Option Bool := do
  let expected := (classes.getEventClass eventName).bind fun cls => classes.fieldType cls cond.attributeName
  let rawValues ← valuesOf event cond.attributeName
  if rawValues.isEmpty then pure false
  else if cond.operator = .exists then pure true
  else match expected.filter fun type => !type.coercible with
    | some type =>
      let texts := rawValues.map fun raw => (raw.map Json.str).getD .null
      pure (classes.compareOther type cond.operator.text (.arr texts) cond.value)
    | none => do
      let coerced ← rawValues.mapM (coerceValueToType expected)
      let right ← coerceValueToType expected (some cond.value)
      pure (evaluateOperator (.arr coerced) cond.operator right)

def eventMatchesConditionsUntyped (classes : EventClasses) (event : Json) (eventName : String)
    (conditions : List EventAttributeCondition) : Option Bool :=
  allM (meetsUntyped classes event eventName) conditions

/-- `getattr(event_obj, name, None)`. -/
def Message.getattr (message : Message) (name : String) : Json := (message.fields.lookup name).getD .null

def meetsTyped (classes : EventClasses) (message : Message) (cls : MessageClass)
    (cond : EventAttributeCondition) : Option Bool :=
  let left := message.getattr cond.attributeName
  let expected := classes.fieldType cls cond.attributeName
  if cond.operator = .exists then some (left ≠ .null)
  else match expected.filter fun type => !type.coercible with
    | some type => some (classes.compareOther type cond.operator.text left cond.value)
    | none => (coerceValueToType expected (some cond.value)).map (evaluateOperator left cond.operator)

def eventMatchesConditionsTyped (classes : EventClasses) (message : Message) (cls : MessageClass)
    (conditions : List EventAttributeCondition) : Option Bool :=
  allM (meetsTyped classes message cls) conditions

end AlloraSdk.Source.Events
