import Mathlib.Algebra.Ring.Nat
import Mathlib.Data.Int.Notation

/-!
# Python's `int`, `float` and `Decimal` on text

The grammars of the standard library. Digits and spaces are those of Unicode, in
the tables of version 14. A `Decimal` that is not finite is not represented:
`parseDecimal` has no value for it.
-/

namespace AlloraSdk.Source.Utils

/-! ## Characters -/

def unicodeSpaces : List ℕ :=
  [0x85, 0xA0, 0x1680, 0x2000, 0x2001, 0x2002, 0x2003, 0x2004, 0x2005, 0x2006, 0x2007, 0x2008, 0x2009, 0x200A,
    0x2028, 0x2029, 0x202F, 0x205F, 0x3000]

/-- `str.isspace` of a character. -/
def isPySpace (c : Char) : Bool :=
  (9 ≤ c.toNat && c.toNat ≤ 13) || (28 ≤ c.toNat && c.toNat ≤ 32) ||
    (128 ≤ c.toNat && decide (c.toNat ∈ unicodeSpaces))

/-- What `int` and `float` strip: of the separators of ASCII only the blanks. -/
def isNumberSpace (c : Char) : Bool := isPySpace c && !(28 ≤ c.toNat && c.toNat ≤ 31)

/-- The zeros of the decimal digits beyond ASCII; nine digits follow each. -/
def decimalZeros : List ℕ := [
    0x660, 0x6F0, 0x7C0, 0x966, 0x9E6, 0xA66, 0xAE6, 0xB66, 0xBE6, 0xC66, 0xCE6, 0xD66, 0xDE6, 0xE50,
    0xED0, 0xF20, 0x1040, 0x1090, 0x17E0, 0x1810, 0x1946, 0x19D0, 0x1A80, 0x1A90, 0x1B50, 0x1BB0,
    0x1C40, 0x1C50, 0xA620, 0xA8D0, 0xA900, 0xA9D0, 0xA9F0, 0xAA50, 0xABF0, 0xFF10, 0x104A0, 0x10D30,
    0x11066, 0x110F0, 0x11136, 0x111D0, 0x112F0, 0x11450, 0x114D0, 0x11650, 0x116C0, 0x11730, 0x118E0,
    0x11950, 0x11C50, 0x11D50, 0x11DA0, 0x16A60, 0x16AC0, 0x16B50, 0x1D7CE, 0x1D7D8, 0x1D7E2, 0x1D7EC,
    0x1D7F6, 0x1E140, 0x1E2F0, 0x1E950, 0x1FBF0]

/-- The other characters that are digits, such as a superscript two. -/
def digitRanges : List (ℕ × ℕ) := [
    (0xB2, 0xB3), (0xB9, 0xB9), (0x1369, 0x1371), (0x19DA, 0x19DA), (0x2070, 0x2070), (0x2074, 0x2079),
    (0x2080, 0x2089), (0x2460, 0x2468), (0x2474, 0x247C), (0x2488, 0x2490), (0x24EA, 0x24EA),
    (0x24F5, 0x24FD), (0x24FF, 0x24FF), (0x2776, 0x277E), (0x2780, 0x2788), (0x278A, 0x2792),
    (0x10A40, 0x10A43), (0x10E60, 0x10E68), (0x11052, 0x1105A), (0x1F100, 0x1F10A)]

/-- `unicodedata.decimal`. -/
def decimalDigit (c : Char) : Option ℕ :=
  if c.toNat < 128 then if c.isDigit then some (c.toNat - '0'.toNat) else none
  else (decimalZeros.find? fun first => first ≤ c.toNat && c.toNat ≤ first + 9).map fun first => c.toNat - first

/-- `str.isdigit` of a character. -/
def isPyDigit (c : Char) : Bool :=
  (decimalDigit c).isSome || digitRanges.any fun range => range.1 ≤ c.toNat && c.toNat ≤ range.2

/-- A decimal digit as the one of ASCII, as numbers are read. -/
def toAscii (c : Char) : Char :=
  if c.toNat < 128 then c
  else match decimalDigit c with
    | some digit => Char.ofNat ('0'.toNat + digit)
    | none => c

/-! ## Numbers -/

/-- `str.strip` of the characters in `p`. -/
def stripChars (p : Char → Bool) (text : List Char) : List Char :=
  ((text.dropWhile p).reverse.dropWhile p).reverse

def splitSign : List Char → Bool × List Char
  | '-' :: rest => (true, rest)
  | '+' :: rest => (false, rest)
  | text => (false, text)

def signed (negative : Bool) (n : ℕ) : ℤ := if negative then -n else n

/-- The value of a nonempty run of digits. -/
def digitsValue (digits : List Char) : Option ℕ :=
  if digits ≠ [] ∧ digits.all Char.isDigit then
    some (digits.foldl (fun n digit => 10 * n + (digit.toNat - '0'.toNat)) 0)
  else none

/-- `sys.int_info.default_max_str_digits`. -/
def maxStrDigits : ℕ := 4300

/-- `int(text)`; single underscores may stand between digits, of which there is a
limited number. -/
def pyInt (text : List Char) : Option ℤ :=
  let body := splitSign ((stripChars isNumberSpace text).map toAscii)
  let groups := body.2.splitOn '_'
  if (groups.all fun group => group ≠ []) ∧ groups.flatten.length ≤ maxStrDigits then
    (digitsValue groups.flatten).map (signed body.1)
  else none

/-- A finite `Decimal`: `(-1)^negative * coefficient * 10^exponent`. -/
structure Decimal where
  negative : Bool
  coefficient : ℕ
  exponent : ℤ
  deriving DecidableEq, Repr

/-- Sign, digits with a point and a power of ten, as `float` and `Decimal` read them. -/
def parseNumber (text : List Char) : Option Decimal := do
  let body := splitSign text
  let mantissa := body.2.takeWhile fun c => c ≠ 'e' && c ≠ 'E'
  let whole := mantissa.takeWhile (· ≠ '.')
  let fraction := mantissa.drop (whole.length + 1)
  let coefficient ← digitsValue (whole ++ fraction)
  let exponent ← match body.2.drop mantissa.length with
    | [] => some 0
    | _ :: digits => (digitsValue (splitSign digits).2).map (signed (splitSign digits).1)
  pure ⟨body.1, coefficient, exponent - fraction.length⟩

/-- What `Decimal(text)` reads: underscores are dropped. -/
def decimalChars (text : List Char) : List Char :=
  ((stripChars isPySpace text).map toAscii).filter (· ≠ '_')

/-- The number that a text has in the grammar of `Decimal`. -/
def parseDecimal (text : List Char) : Option Decimal := parseNumber (decimalChars text)

/-- Every underscore stands between two digits. -/
def underscoresInside : List Char → Bool
  | [] => true
  | '_' :: _ => false
  | [_] => true
  | c :: '_' :: d :: rest => c.isDigit && d.isDigit && underscoresInside (d :: rest)
  | _ :: d :: rest => underscoresInside (d :: rest)

/-- `float(text)` gives a float. -/
def isFloatText (text : List Char) : Bool :=
  let chars := (stripChars isNumberSpace text).map toAscii
  let plain := chars.filter (· ≠ '_')
  underscoresInside chars &&
    ((parseNumber plain).isSome ||
      (splitSign plain).2.map Char.toLower ∈ ["inf".toList, "infinity".toList, "nan".toList])

/-- `int(d.to_integral_value(rounding=ROUND_DOWN))`. -/
def Decimal.truncate (d : Decimal) : ℤ :=
  signed d.negative
    (if 0 ≤ d.exponent then d.coefficient * 10 ^ d.exponent.toNat
    else d.coefficient / 10 ^ (-d.exponent).toNat)

def numDigits (n : ℕ) : ℕ := (Nat.toDigits 10 n).length

/-- The exponents that a `Decimal` can have, whatever its context. -/
def Decimal.inRange (d : Decimal) : Bool :=
  -1999999999999999997 ≤ d.exponent && d.exponent + numDigits d.coefficient - 1 ≤ 999999999999999999

end AlloraSdk.Source.Utils
