import Mathlib.Data.List.TakeDrop
import Mathlib.Tactic.Ring
import AlloraSdk.Source.TxManager.Messages
import AlloraSdk.Source.Utils.PyNumbers

/-!
# The canonical text of a decimal

Source: rpc_client/dec_canonical.py.

The text is what the chain signs over. Every digit of the coefficient is written,
and the place of the point or the power of ten tells the exponent, so the grammar
of `Decimal` reads the same triple back (`parseDecimal_formatDecimal`).
-/

namespace AlloraSdk.Source.Utils
open AlloraSdk.Source.TxManager

/-- A `Decimal`, or NaN and the infinities; of the NaN `sNaN` is the signaling one. -/
inductive DecValue where
  | finite (d : Decimal)
  | special (signaling : Bool)
  deriving DecidableEq, Repr

/-- A value to canonicalize; of a float its `str`, and of an object of another type
its name and whether `float` takes it. -/
inductive DecInput where
  | decimal (value : DecValue)
  | float (text : String)
  | int (value : ℤ)
  | str (text : String)
  | other (typeName : String) (isFloat : Bool)
  deriving DecidableEq, Repr

/-- The value is one that Python can hold. -/
def DecInput.representable : DecInput → Bool
  | .decimal (.finite d) => d.inRange
  | .int n => (⟨n < 0, n.natAbs, 0⟩ : Decimal).inRange
  | .decimal (.special _) | .float _ | .str _ | .other _ _ => true

/-- A value of a Python program. -/
structure PyNumber where
  value : DecInput
  representable : value.representable = true

/-- `Infinity`, `Inf`, `NaN` and `sNaN`, the latter two with digits. -/
def specialOfChars (chars : List Char) : Option DecValue :=
  let body := (splitSign chars).2.map Char.toLower
  let word := body.takeWhile fun c => !c.isDigit
  let digits := body.drop word.length
  if (word == "inf".toList || word == "infinity".toList) && digits.isEmpty then some (.special false)
  else if word == "nan".toList && digits.all Char.isDigit then some (.special false)
  else if word == "snan".toList && digits.all Char.isDigit then some (.special true)
  else none

/-- `Decimal(text)`, or the `str` of the InvalidOperation that it raises: for a text
that is no number, or for an exponent out of range. -/
def decimalOfText (text : List Char) : Except String DecValue :=
  match parseDecimal text with
  | some d => if d.inRange then .ok (.finite d) else .error "[<class 'decimal.InvalidOperation'>]"
  | none =>
    match specialOfChars (decimalChars text) with
    | some value => .ok value
    | none => .error "[<class 'decimal.ConversionSyntax'>]"

/-- `_to_decimal`. -/
def toDecimal (repr : DecInput → String) (value : DecInput) : Except PyException DecValue :=
  match value with
  | .decimal d => .ok d
  | .float text => (decimalOfText text.toList).mapError fun err =>
    .other ("cannot canonicalize float " ++ repr value ++ ": " ++ err)
  | .int n => .ok (.finite ⟨n < 0, n.natAbs, 0⟩)
  | .str text => (decimalOfText text.toList).mapError fun err =>
    .other ("cannot parse decimal string " ++ repr value ++ ": " ++ err)
  | .other typeName _ => .error (.other ("unsupported type for canonicalize_dec: " ++ typeName))

def adjExponentLimit : ℤ := -6

def lowestZeroNegCoeff : ℤ := -2000

/-- Decimal-point form, no exponent. -/
def fmtF (digits : List Char) (exponent : ℤ) : List Char :=
  if 0 ≤ exponent then digits ++ List.replicate exponent.toNat '0'
  else
    let left := -exponent - digits.length
    if 0 ≤ left then '0' :: '.' :: (List.replicate left.toNat '0' ++ digits)
    else
      let offset := (-left).toNat
      digits.take offset ++ '.' :: digits.drop offset

/-- Scientific form with uppercase E and explicit sign. -/
def fmtE (digits : List Char) (exponent : ℤ) : List Char :=
  let adj := exponent + digits.length - 1
  let body := digits.take 1 ++ if 1 < digits.length then '.' :: digits.drop 1 else []
  if adj < 0 then body ++ 'E' :: '-' :: Nat.toDigits 10 (-adj).toNat
  else body ++ 'E' :: '+' :: Nat.toDigits 10 adj.toNat

/-- `canonicalize_dec` of a finite decimal. -/
def formatDecimal (d : Decimal) : List Char :=
  let digits := Nat.toDigits 10 d.coefficient
  let isZero := digits.all (· = '0')
  let digitLen : ℤ :=
    if isZero ∧ d.exponent < 0 ∧ lowestZeroNegCoeff ≤ d.exponent then digits.length + -d.exponent
    else digits.length
  let adj := d.exponent + digitLen - 1
  let sign := if d.negative then ['-'] else []
  if d.exponent ≤ 0 ∧ adjExponentLimit ≤ adj then sign ++ fmtF digits d.exponent
  else sign ++ fmtE digits d.exponent

def canonicalizeDec (repr : DecInput → String) (value : DecInput) : Except PyException String := do
  match ← toDecimal repr value with
  | .special _ => .error (.other ("non-finite decimal not allowed: " ++ repr value))
  | .finite d => .ok (String.ofList (formatDecimal d))

theorem mapError_eq_ok {ε ε' β : Type} {f : ε → ε'} {x : Except ε β} {b : β} (same : x.mapError f = .ok b) :
    x = .ok b := by
  cases x with
  | error err => cases same
  | ok a =>
    cases same
    rfl

/-! ## Reading what was written -/

section Scan

variable {p : Char → Bool}

theorem dropWhile_eq_self {text : List Char} (none : ∀ c ∈ text, p c = false) : text.dropWhile p = text := by
  cases text with
  | nil => rfl
  | cons c rest => rw [List.dropWhile_cons_of_neg]; simp [none c (List.mem_cons_self ..)]

theorem stripChars_eq_self {text : List Char} (none : ∀ c ∈ text, p c = false) :
    stripChars p text = text := by
  unfold stripChars
  rw [dropWhile_eq_self none, dropWhile_eq_self, List.reverse_reverse]
  intro c member
  exact none c (List.mem_reverse.mp member)

/-- A scan stops at the first character that is not its own. -/
theorem takeWhile_append_stop {first rest : List Char} {c : Char} (own : ∀ c ∈ first, p c = true)
    (stop : p c = false) : (first ++ c :: rest).takeWhile p = first := by
  rw [List.takeWhile_append_of_pos own, List.takeWhile_cons_of_neg (by simp [stop]), List.append_nil]

theorem takeWhile_eq_self {text : List Char} (own : ∀ c ∈ text, p c = true) : text.takeWhile p = text := by
  have all : (text ++ []).takeWhile p = text ++ [].takeWhile p := List.takeWhile_append_of_pos own
  simpa using all

end Scan

def Digits (text : List Char) : Prop := ∀ c ∈ text, c.isDigit = true

theorem Digits.append {first rest : List Char} (h : Digits first) (h' : Digits rest) :
    Digits (first ++ rest) := by
  intro c member
  rcases List.mem_append.mp member with member | member
  · exact h c member
  · exact h' c member

theorem digits_toDigits (n : ℕ) : Digits (Nat.toDigits 10 n) :=
  fun _ member => Nat.isDigit_of_mem_toDigits (by decide) (by decide) member

theorem digits_zeros (n : ℕ) : Digits (List.replicate n '0') := by
  intro c member
  rw [List.eq_of_mem_replicate member]
  rfl

theorem digitsValue_of_digits {text : List Char} (digits : Digits text) (some_digit : text ≠ []) :
    digitsValue text = some (Nat.ofDigitChars 10 text 0) := by
  unfold digitsValue
  rw [if_pos ⟨some_digit, List.all_eq_true.mpr digits⟩, Nat.ofDigitChars_eq_foldl]

theorem digitsValue_toDigits (n : ℕ) : digitsValue (Nat.toDigits 10 n) = some n := by
  rw [digitsValue_of_digits (digits_toDigits n) Nat.toDigits_ne_nil, Nat.ofDigitChars_ten_toDigits]

/-- The range of the digits. -/
theorem isDigit_bounds {c : Char} (digit : c.isDigit = true) : 48 ≤ c.toNat ∧ c.toNat ≤ 57 := by
  simp only [Char.isDigit, Bool.and_eq_true, decide_eq_true_eq, ge_iff_le, UInt32.le_iff_toNat_le] at digit
  exact digit

/-- The characters of a written decimal. -/
def isDecimalChar (c : Char) : Bool := c.isDigit || c ∈ ['-', '+', '.', 'E']

theorem isDecimalChar_plain {c : Char} (h : isDecimalChar c = true) :
    isPySpace c = false ∧ toAscii c = c ∧ c ≠ '_' := by
  unfold isDecimalChar at h
  rcases Bool.or_eq_true_iff.mp h with digit | sign
  · have bounds := isDigit_bounds digit
    refine ⟨?_, if_pos (by omega), ?_⟩
    · simp only [isPySpace, Bool.or_eq_false_iff, Bool.and_eq_false_iff, decide_eq_false_iff_not]
      exact ⟨⟨.inr (by omega), .inr (by omega)⟩, .inl (by omega)⟩
    · rintro rfl
      revert bounds
      decide
  · have known : c = '-' ∨ c = '+' ∨ c = '.' ∨ c = 'E' := by simpa using sign
    rcases known with rfl | rfl | rfl | rfl <;> decide

/-- The mantissa of a written decimal. -/
inductive Mantissa (whole fraction : List Char) : List Char → Prop
  | plain (short : fraction = []) : Mantissa whole fraction whole
  | pointed : Mantissa whole fraction (whole ++ '.' :: fraction)

/-- The power of ten after it. -/
inductive Power : ℤ → List Char → Prop
  | none : Power 0 []
  | up (n : ℕ) : Power n ('E' :: '+' :: Nat.toDigits 10 n)
  | down (n : ℕ) : Power (-n) ('E' :: '-' :: Nat.toDigits 10 n)

section Grammar

variable {whole fraction mantissa tail : List Char} {shift : ℤ}

theorem not_isDigit_of {c d : Char} (digit : c.isDigit = true) (other : d.isDigit = false) : c ≠ d := by
  rintro rfl
  rw [digit] at other
  cases other

theorem Mantissa.chars (shape : Mantissa whole fraction mantissa) (digits : Digits (whole ++ fraction)) :
    ∀ c ∈ mantissa, c.isDigit = true ∨ c = '.' := by
  intro c member
  cases shape with
  | plain => exact .inl (digits c (List.mem_append_left _ member))
  | pointed =>
    rcases List.mem_append.mp member with member | member
    · exact .inl (digits c (List.mem_append_left _ member))
    · rcases List.mem_cons.mp member with rfl | member
      · exact .inr rfl
      · exact .inl (digits c (List.mem_append_right _ member))

/-- The point splits the mantissa. -/
theorem Mantissa.split (shape : Mantissa whole fraction mantissa) (digits : Digits whole) :
    mantissa.takeWhile (· ≠ '.') = whole ∧ mantissa.drop (whole.length + 1) = fraction := by
  have own : ∀ c ∈ whole, decide (c ≠ '.') = true := by
    intro c member
    exact decide_eq_true (not_isDigit_of (digits c member) rfl)
  cases shape with
  | plain short =>
    subst short
    exact ⟨takeWhile_eq_self own, List.drop_eq_nil_of_le (Nat.le_succ _)⟩
  | pointed =>
    refine ⟨takeWhile_append_stop own rfl, ?_⟩
    rw [List.drop_length_add_append]
    rfl

theorem Power.chars (power : Power shift tail) : ∀ c ∈ tail, isDecimalChar c = true := by
  have digit : ∀ n : ℕ, ∀ c ∈ Nat.toDigits 10 n, isDecimalChar c = true := by
    intro n c member
    simp [isDecimalChar, digits_toDigits n c member]
  intro c member
  cases power with
  | none => cases member
  | up n | down n =>
    rcases List.mem_cons.mp member with rfl | member
    · rfl
    · rcases List.mem_cons.mp member with rfl | member
      · rfl
      · exact digit n c member

/-- The mantissa ends where the power begins. -/
theorem Power.split (power : Power shift tail) (chars : ∀ c ∈ mantissa, c.isDigit = true ∨ c = '.') :
    (mantissa ++ tail).takeWhile (fun c => c ≠ 'e' && c ≠ 'E') = mantissa := by
  have own : ∀ c ∈ mantissa, (decide (c ≠ 'e') && decide (c ≠ 'E')) = true := by
    intro c member
    rcases chars c member with digit | rfl
    · have small := not_isDigit_of (d := 'e') digit rfl
      have large := not_isDigit_of (d := 'E') digit rfl
      simp [small, large]
    · rfl
  cases power with
  | none =>
    rw [List.append_nil]
    exact takeWhile_eq_self own
  | up n => exact takeWhile_append_stop own rfl
  | down n => exact takeWhile_append_stop own rfl

theorem splitSign_written (negative : Bool) {text : List Char} (digit : ∃ c rest, text = c :: rest ∧ c.isDigit = true) :
    splitSign ((if negative then ['-'] else []) ++ text) = (negative, text) := by
  obtain ⟨c, rest, rfl, digit⟩ := digit
  cases negative with
  | true => rfl
  | false =>
    have minus := not_isDigit_of (d := '-') digit rfl
    have plus := not_isDigit_of (d := '+') digit rfl
    simp only [Bool.false_eq_true, if_false, List.nil_append]
    unfold splitSign
    split
    · rename_i same
      exact (minus (List.cons_eq_cons.mp same).1).elim
    · rename_i same
      exact (plus (List.cons_eq_cons.mp same).1).elim
    · rfl

/-- The grammar reads sign, digits, point and power. -/
theorem parseDecimal_written (negative : Bool) (digits : Digits (whole ++ fraction)) (some_digit : whole ≠ [])
    (shape : Mantissa whole fraction mantissa) (power : Power shift tail) :
    parseDecimal ((if negative then ['-'] else []) ++ (mantissa ++ tail)) =
      some ⟨negative, Nat.ofDigitChars 10 (whole ++ fraction) 0, shift - fraction.length⟩ := by
  have wholeDigits : Digits whole := fun c member => digits c (List.mem_append_left _ member)
  have chars := shape.chars digits
  obtain ⟨before, after⟩ := shape.split wholeDigits
  have plain : ∀ c ∈ (if negative then ['-'] else []) ++ (mantissa ++ tail),
      isPySpace c = false ∧ toAscii c = c ∧ c ≠ '_' := by
    intro c member
    apply isDecimalChar_plain
    rcases List.mem_append.mp member with sign | member
    · cases negative with
      | true => rw [List.mem_singleton.mp sign]; rfl
      | false => cases sign
    · rcases List.mem_append.mp member with member | member
      · rcases chars c member with digit | rfl
        · simp [isDecimalChar, digit]
        · rfl
      · exact power.chars c member
  have unstripped := stripChars_eq_self fun c member => (plain c member).1
  have ascii : ((if negative then ['-'] else []) ++ (mantissa ++ tail)).map toAscii =
      (if negative then ['-'] else []) ++ (mantissa ++ tail) :=
    (List.map_congr_left fun c member => (plain c member).2.1).trans (List.map_id _)
  have unfiltered : ((if negative then ['-'] else []) ++ (mantissa ++ tail)).filter (· ≠ '_') =
      (if negative then ['-'] else []) ++ (mantissa ++ tail) :=
    List.filter_eq_self.mpr fun c member => decide_eq_true (plain c member).2.2
  have first : ∃ c rest, mantissa ++ tail = c :: rest ∧ c.isDigit = true := by
    obtain ⟨c, rest, rfl⟩ := List.exists_cons_of_ne_nil some_digit
    have digit := wholeDigits c (List.mem_cons_self ..)
    cases shape with
    | plain => exact ⟨c, _, rfl, digit⟩
    | pointed => exact ⟨c, _, rfl, digit⟩
  have value := digitsValue_of_digits digits (List.append_ne_nil_of_left_ne_nil some_digit fraction)
  unfold parseDecimal decimalChars parseNumber
  simp only [unstripped, ascii, unfiltered, splitSign_written negative first, power.split chars, before, after,
    List.drop_append_length, value]
  cases power with
  | none => rfl
  | up n => simp [splitSign, digitsValue_toDigits, signed]
  | down n => simp [splitSign, digitsValue_toDigits, signed]

end Grammar

/-! ## The two forms -/

section Forms

variable {digits : List Char} {exponent : ℤ}

theorem ofDigitChars_zeros (n : ℕ) (digits : List Char) :
    Nat.ofDigitChars 10 ('0' :: (List.replicate n '0' ++ digits)) 0 = Nat.ofDigitChars 10 digits 0 := by
  rw [← List.cons_append, ← List.replicate_succ, Nat.ofDigitChars_append, Nat.ofDigitChars_replicate_zero,
    Nat.mul_zero]

/-- With a point, or as a whole number, the exponent is the number of digits
after the point. -/
theorem parseDecimal_fmtF (negative : Bool) (all : Digits digits) (some_digit : digits ≠ [])
    (small : exponent ≤ 0) :
    parseDecimal ((if negative then ['-'] else []) ++ fmtF digits exponent) =
      some ⟨negative, Nat.ofDigitChars 10 digits 0, exponent⟩ := by
  unfold fmtF
  by_cases whole : 0 ≤ exponent
  · have zero : exponent = 0 := by omega
    have every : Digits (digits ++ []) := by simpa using all
    have read := parseDecimal_written negative every some_digit (.plain rfl) Power.none
    simpa [zero] using read
  · rw [if_neg whole]
    by_cases wide : 0 ≤ -exponent - (digits.length : ℤ)
    · -- the coefficient starts after the point
      have every : Digits (['0'] ++ (List.replicate (-exponent - (digits.length : ℤ)).toNat '0' ++ digits)) :=
        (digits_zeros 1).append ((digits_zeros _).append all)
      have read := parseDecimal_written negative every (by simp) .pointed Power.none
      have length : (0 : ℤ) - (List.replicate (-exponent - (digits.length : ℤ)).toNat '0' ++ digits).length =
          exponent := by
        rw [List.length_append, List.length_replicate]
        omega
      rw [length, List.append_nil, List.singleton_append, List.singleton_append, ofDigitChars_zeros] at read
      simpa only [if_pos wide] using read
    · -- the point stands inside the coefficient
      have positive : 0 < (-(-exponent - (digits.length : ℤ))).toNat := by omega
      have inside : (-(-exponent - (digits.length : ℤ))).toNat ≤ digits.length := by omega
      have joined := List.take_append_drop (-(-exponent - (digits.length : ℤ))).toNat digits
      have every : Digits (digits.take (-(-exponent - (digits.length : ℤ))).toNat ++
          digits.drop (-(-exponent - (digits.length : ℤ))).toNat) := by
        rw [joined]
        exact all
      have read := parseDecimal_written negative every (by simp [some_digit]; omega) .pointed Power.none
      have length : (0 : ℤ) - (digits.drop (-(-exponent - (digits.length : ℤ))).toNat).length = exponent := by
        rw [List.length_drop]
        omega
      rw [length, joined, List.append_nil] at read
      simpa only [if_neg wide] using read

/-- In scientific form the power counts from the first digit. -/
theorem parseDecimal_fmtE (negative : Bool) (all : Digits digits) (some_digit : digits ≠ []) :
    parseDecimal ((if negative then ['-'] else []) ++ fmtE digits exponent) =
      some ⟨negative, Nat.ofDigitChars 10 digits 0, exponent⟩ := by
  obtain ⟨c, rest, rfl⟩ := List.exists_cons_of_ne_nil some_digit
  have shape : Mantissa [c] rest ([c] ++ if 1 < (c :: rest).length then '.' :: rest else []) := by
    cases rest with
    | nil => exact .plain rfl
    | cons d rest =>
      rw [if_pos (by simp)]
      exact .pointed
  have read : ∀ {shift : ℤ} {tail : List Char}, Power shift tail → shift - rest.length = exponent →
      parseDecimal ((if negative then ['-'] else []) ++
        (([c] ++ if 1 < (c :: rest).length then '.' :: rest else []) ++ tail)) =
        some ⟨negative, Nat.ofDigitChars 10 (c :: rest) 0, exponent⟩ := by
    intro shift tail power same
    have written := parseDecimal_written negative all (List.cons_ne_nil c []) shape power
    rwa [same] at written
  have length : ((c :: rest).length : ℤ) = rest.length + 1 := by simp
  unfold fmtE
  by_cases below : exponent + ((c :: rest).length : ℤ) - 1 < 0
  · simp only [if_pos below]
    refine read (.down _) ?_
    omega
  · simp only [if_neg below]
    refine read (.up _) ?_
    omega

end Forms

/-- The grammar undoes the canonical text. -/
theorem parseDecimal_formatDecimal (d : Decimal) : parseDecimal (formatDecimal d) = some d := by
  have all := digits_toDigits d.coefficient
  have some_digit : Nat.toDigits 10 d.coefficient ≠ [] := Nat.toDigits_ne_nil
  have value : (⟨d.negative, Nat.ofDigitChars 10 (Nat.toDigits 10 d.coefficient) 0, d.exponent⟩ : Decimal) = d := by
    rw [Nat.ofDigitChars_ten_toDigits]
  simp only [formatDecimal]
  generalize d.exponent + _ - 1 = adj
  split
  · rename_i plain
    rw [parseDecimal_fmtF d.negative all some_digit plain.1, value]
  · rw [parseDecimal_fmtE d.negative all some_digit, value]

end AlloraSdk.Source.Utils
