import Mathlib.Data.List.Sort
import AlloraSdk.Source.Utils.PyNumbers

/-!
# JSON values

What `json.loads` returns, and `json.loads` and `json.dumps` themselves. Numbers
with a fraction or an exponent are not represented.
-/

namespace AlloraSdk.Source.Utils

/-- The values of Python that JSON has: None, bool, int, str, list and dict. -/
inductive Json where
  | null
  | bool (value : Bool)
  | int (value : ℤ)
  | str (text : String)
  | arr (items : List Json)
  | obj (fields : List (String × Json))
  deriving Repr

namespace Json

section Decidable

mutual

def decEq : (a b : Json) → Decidable (a = b)
  | .null, b => match b with
    | .null => isTrue rfl
    | .bool _ | .int _ | .str _ | .arr _ | .obj _ => isFalse nofun
  | .bool a, b => match b with
    | .bool b => decidable_of_iff (a = b) (by simp)
    | .null | .int _ | .str _ | .arr _ | .obj _ => isFalse nofun
  | .int a, b => match b with
    | .int b => decidable_of_iff (a = b) (by simp)
    | .null | .bool _ | .str _ | .arr _ | .obj _ => isFalse nofun
  | .str a, b => match b with
    | .str b => decidable_of_iff (a = b) (by simp)
    | .null | .bool _ | .int _ | .arr _ | .obj _ => isFalse nofun
  | .arr a, b => match b with
    | .arr b => @decidable_of_iff _ (a = b) (by simp) (decEqItems a b)
    | .null | .bool _ | .int _ | .str _ | .obj _ => isFalse nofun
  | .obj a, b => match b with
    | .obj b => @decidable_of_iff _ (a = b) (by simp) (decEqFields a b)
    | .null | .bool _ | .int _ | .str _ | .arr _ => isFalse nofun

def decEqItems : (a b : List Json) → Decidable (a = b)
  | [], [] => isTrue rfl
  | [], _ :: _ | _ :: _, [] => isFalse nofun
  | x :: xs, y :: ys =>
    @decidable_of_iff _ (x = y ∧ xs = ys) (by simp)
      (@instDecidableAnd _ _ (decEq x y) (decEqItems xs ys))

def decEqFields : (a b : List (String × Json)) → Decidable (a = b)
  | [], [] => isTrue rfl
  | [], _ :: _ | _ :: _, [] => isFalse nofun
  | (k, x) :: xs, (l, y) :: ys =>
    @decidable_of_iff _ ((k = l ∧ x = y) ∧ xs = ys) (by simp)
      (@instDecidableAnd _ _ (@instDecidableAnd _ _ inferInstance (decEq x y)) (decEqFields xs ys))

end

instance : DecidableEq Json := decEq

end Decidable

/-- `value.get(key)`; on anything but a dict it raises. -/
def get (key : String) : Json → Option (Option Json)
  | .obj fields => some (fields.lookup key)
  | _ => none

def items : Json → Option (List Json)
  | .arr items => some items
  | _ => none

/-- `bool(value)`. -/
def truthy : Json → Bool
  | .null => false
  | .bool value => value
  | .int value => value ≠ 0
  | .str text => text ≠ ""
  | .arr items => !items.isEmpty
  | .obj fields => !fields.isEmpty

/-! ## `json.dumps(value, sort_keys=True)` -/

def hexDigit (n : ℕ) : Char :=
  Char.ofNat (if n < 10 then 48 + n else 87 + n)

def unicodeEscape (unit : ℕ) : List Char :=
  ['\\', 'u', hexDigit (unit / 4096 % 16), hexDigit (unit / 256 % 16), hexDigit (unit / 16 % 16),
    hexDigit (unit % 16)]

/-- `ensure_ascii`: what is not printable ASCII is escaped by its UTF-16 units. -/
def escapeChar (c : Char) : List Char :=
  if c = '\\' then ['\\', '\\']
  else if c.toNat = 34 then ['\\', Char.ofNat 34]
  else if c = '\n' then ['\\', 'n']
  else if c = '\r' then ['\\', 'r']
  else if c = '\t' then ['\\', 't']
  else if c.toNat = 12 then ['\\', 'f']
  else if c.toNat = 8 then ['\\', 'b']
  else if 32 ≤ c.toNat ∧ c.toNat ≤ 126 then [c]
  else if c.toNat < 65536 then unicodeEscape c.toNat
  else
    let above := c.toNat - 65536
    unicodeEscape (55296 + above / 1024) ++ unicodeEscape (56320 + above % 1024)

def quote (text : String) : String :=
  "\"" ++ String.ofList (text.toList.flatMap escapeChar) ++ "\""

mutual

/-- The text, of any integers. -/
def render : Json → String
  | .null => "null"
  | .bool value => if value then "true" else "false"
  | .int value => toString value
  | .str text => quote text
  | .arr items => "[" ++ ", ".intercalate (renderItems items) ++ "]"
  | .obj fields =>
    let sorted := (renderFields fields).insertionSort fun first second => first.1 ≤ second.1
    "\x7b" ++ ", ".intercalate (sorted.map fun field => quote field.1 ++ ": " ++ field.2) ++ "\x7d"

def renderItems : List Json → List String
  | [] => []
  | item :: rest => item.render :: renderItems rest

def renderFields : List (String × Json) → List (String × String)
  | [] => []
  | (key, value) :: rest => (key, value.render) :: renderFields rest

end

mutual

/-- No integer in it is beyond the limit. -/
def writable : Json → Bool
  | .int value => decide (numDigits value.natAbs ≤ maxStrDigits)
  | .arr items => writableItems items
  | .obj fields => writableFields fields
  | .null | .bool _ | .str _ => true

def writableItems : List Json → Bool
  | [] => true
  | item :: rest => item.writable && writableItems rest

def writableFields : List (String × Json) → Bool
  | [] => true
  | (_, value) :: rest => value.writable && writableFields rest

end

/-- It raises for an integer beyond the limit. -/
def dumps (value : Json) : Option String := if value.writable then some value.render else none

/-! ## `json.loads` -/

def skipSpace (text : List Char) : List Char :=
  text.dropWhile fun c => c = ' ' ∨ c = '\t' ∨ c = '\n' ∨ c = '\r'

def hexValue (c : Char) : Option ℕ :=
  if '0' ≤ c ∧ c ≤ '9' then some (c.toNat - 48)
  else if 'a' ≤ c ∧ c ≤ 'f' then some (c.toNat - 87)
  else if 'A' ≤ c ∧ c ≤ 'F' then some (c.toNat - 55)
  else none

def hexUnit (a b c d : Char) : Option ℕ := do
  let a ← hexValue a
  let b ← hexValue b
  let c ← hexValue c
  let d ← hexValue d
  pure (4096 * a + 256 * b + 16 * c + d)

def simpleEscape (c : Char) : Option Char :=
  if c.toNat = 34 ∨ c = '\\' ∨ c = '/' then some c
  else if c = 'b' then some (Char.ofNat 8)
  else if c = 'f' then some (Char.ofNat 12)
  else if c = 'n' then some '\n'
  else if c = 'r' then some '\r'
  else if c = 't' then some '\t'
  else none

/-- The text up to the closing quote, and what follows it. Lone surrogates are not
represented. -/
def scanString : List Char → Option (List Char × List Char)
  | [] => none
  | '\\' :: 'u' :: a :: b :: c :: d :: '\\' :: 'u' :: e :: f :: g :: h :: rest => do
    let unit ← hexUnit a b c d
    if 55296 ≤ unit ∧ unit < 56320 then
      let low ← hexUnit e f g h
      if 56320 ≤ low ∧ low < 57344 then
        let (text, rest) ← scanString rest
        pure (Char.ofNat (65536 + 1024 * (unit - 55296) + (low - 56320)) :: text, rest)
      else none
    else if 56320 ≤ unit ∧ unit < 57344 then none
    else
      let (text, rest) ← scanString ('\\' :: 'u' :: e :: f :: g :: h :: rest)
      pure (Char.ofNat unit :: text, rest)
  | '\\' :: 'u' :: a :: b :: c :: d :: rest => do
    let unit ← hexUnit a b c d
    if 55296 ≤ unit ∧ unit < 57344 then none
    else
      let (text, rest) ← scanString rest
      pure (Char.ofNat unit :: text, rest)
  | '\\' :: c :: rest => do
    let escaped ← simpleEscape c
    let (text, rest) ← scanString rest
    pure (escaped :: text, rest)
  | c :: rest =>
    if c.toNat = 34 then some ([], rest)
    else if c.toNat < 32 then none
    else do
      let (text, rest) ← scanString rest
      pure (c :: text, rest)

/-- No leading zeros, and no more digits than `int` takes. -/
def scanInt (text : List Char) : Option (ℤ × List Char) :=
  let negative := text.head? = some '-'
  let body := if negative then text.tail else text
  let digits := body.takeWhile Char.isDigit
  let rest := body.dropWhile Char.isDigit
  if digits.head? = some '0' ∧ digits.length ≠ 1 then none
  else if rest.head?.any fun c => c = '.' ∨ c = 'e' ∨ c = 'E' then none
  else if maxStrDigits < digits.length then none
  else (digitsValue digits).map fun value => (signed negative value, rest)

def dropPrefix (start text : List Char) : Option (List Char) :=
  if start.isPrefixOf text then some (text.drop start.length) else none

mutual

/-- A value at the start of the text; `fuel` bounds the nesting and the number of
members. -/
def scanValue : ℕ → List Char → Option (Json × List Char)
  | 0, _ => none
  | fuel + 1, text =>
    match text with
    | '[' :: rest =>
      match skipSpace rest with
      | ']' :: rest => some (.arr [], rest)
      | rest => (scanItems fuel rest).map fun (items, rest) => (.arr items, rest)
    | '\x7b' :: rest =>
      match skipSpace rest with
      | '\x7d' :: rest => some (.obj [], rest)
      | rest => (scanFields fuel rest).map fun (fields, rest) => (.obj fields, rest)
    | '\x22' :: rest => (scanString rest).map fun (text, rest) => (.str (String.ofList text), rest)
    | 'n' :: _ => (dropPrefix "null".toList text).map fun rest => (.null, rest)
    | 't' :: _ => (dropPrefix "true".toList text).map fun rest => (.bool true, rest)
    | 'f' :: _ => (dropPrefix "false".toList text).map fun rest => (.bool false, rest)
    | text => (scanInt text).map fun (value, rest) => (.int value, rest)

def scanItems : ℕ → List Char → Option (List Json × List Char)
  | 0, _ => none
  | fuel + 1, text => do
    let (item, rest) ← scanValue fuel (skipSpace text)
    match skipSpace rest with
    | ',' :: rest =>
      let (items, rest) ← scanItems fuel rest
      pure (item :: items, rest)
    | ']' :: rest => pure ([item], rest)
    | _ => none

def scanFields : ℕ → List Char → Option (List (String × Json) × List Char)
  | 0, _ => none
  | fuel + 1, text =>
    match skipSpace text with
    | '\x22' :: rest => do
      let (key, rest) ← scanString rest
      match skipSpace rest with
      | ':' :: rest =>
        let (value, rest) ← scanValue fuel (skipSpace rest)
        match skipSpace rest with
        | ',' :: rest =>
          let (fields, rest) ← scanFields fuel rest
          -- a later member of the same name wins
          pure (if fields.any fun field => field.1 = String.ofList key then fields
            else (String.ofList key, value) :: fields, rest)
        | '\x7d' :: rest => pure ([(String.ofList key, value)], rest)
        | _ => none
      | _ => none
    | _ => none

end

/-- Every step consumes a character, so the length is enough fuel. -/
def loads (text : String) : Option Json := do
  let (value, rest) ← scanValue (2 * text.length + 1) (skipSpace text.toList)
  if (skipSpace rest).isEmpty then pure value else none

example : (loads "[\"a\", \x7b\"k\": [1, -20, null]\x7d]").bind dumps =
    some "[\"a\", \x7b\"k\": [1, -20, null]\x7d]" := by
  decide +kernel

end Json

end AlloraSdk.Source.Utils
