import AlloraSdk.Source.Utils.DecimalContext

/-!
# ALLO and uALLO

Source: utils/format.py, `allo_to_uallo` and `uallo_to_allo`.

A `Decimal` made from text is exact; the power, the product and the quotient are
taken in the default context.
-/

namespace AlloraSdk.Source.Utils
open AlloraSdk.Source.TxManager

/-- `Decimal(str(n))`. -/
def decimalOfInt (n : ℤ) : Except PyException Decimal :=
  if maxStrDigits < numDigits n.natAbs then
    .error (.other ("Exceeds the limit (4300 digits) for integer string conversion; " ++
      "use sys.set_int_max_str_digits() to increase the limit"))
  else .ok ⟨n < 0, n.natAbs, 0⟩

/-- `Decimal(text)`. -/
def decimalOrInvalid (text : String) : Except PyException DecValue :=
  (decimalOfText text.toList).mapError .other

/-- `Decimal(10) ** decimals`. -/
def tenTo (decimals : ℕ) : Except PyException Decimal := Decimal.pow defaultContext ⟨false, 10, 0⟩ decimals

def alloDecimal : DecInput → Except PyException DecValue
  | .str text => decimalOrInvalid text
  | .float text => decimalOrInvalid text
  | .int n => (decimalOfInt n).map .finite
  | .decimal d => .ok d
  | .other _ _ => .error (.other "allo must be of type str, Decimal, float, or int")

/-- Of a value that is not finite, the conversion to `int` raises at the latest. -/
def alloToUallo (allo : DecInput) : Except PyException ℤ := do
  match ← alloDecimal allo with
  | .special _ => .error (.other "cannot convert a value that is not finite to integer")
  | .finite d => do
    let scale ← tenTo 18
    let uallo ← d.mul defaultContext scale
    pure uallo.truncate

/-- For an integer amount. -/
def ualloToAllo (uallo : ℤ) (decimals : ℕ) : Except PyException Decimal := do
  let amount ← decimalOfInt uallo
  let divisor ← tenTo decimals
  amount.div defaultContext divisor

end AlloraSdk.Source.Utils
