import AlloraSdk.Source.Utils.DecCanonical
import AlloraSdk.Source.Worker.UseCases

/-!
# Canonical decimals are exact

`canonicalize_dec` writes sign, coefficient and exponent so that `Decimal` reads
the same triple back: trailing zeros, negative zero and zeros of any exponent
included. A value that is canonicalized twice, by the forecaster and by the
emissions client, is signed with the same bytes.
-/

namespace AlloraSdk.Guarantees
open AlloraSdk.Source.TxManager AlloraSdk.Source.Utils AlloraSdk.Source.Worker

section Text

variable {repr : DecInput → String}

theorem canonicalizeDec_finite (d : Decimal) :
    canonicalizeDec repr (.decimal (.finite d)) = .ok (String.ofList (formatDecimal d)) :=
  rfl

theorem decimalOfText_inRange {text : List Char} {d : Decimal} (read : decimalOfText text = .ok (.finite d)) :
    d.inRange = true := by
  unfold decimalOfText at read
  split at read
  · split at read
    · cases read
      assumption
    · cases read
  · split at read
    · rename_i value special
      cases read
      unfold specialOfChars at special
      dsimp only at special
      split at special
      · cases special
      · split at special
        · cases special
        · split at special <;> cases special
    · cases read

theorem toDecimal_inRange {value : DecInput} {d : Decimal} (held : value.representable = true)
    (read : toDecimal repr value = .ok (.finite d)) : d.inRange = true := by
  cases value with
  | decimal value =>
    cases read
    exact held
  | int n =>
    cases read
    exact held
  | float text | str text => exact decimalOfText_inRange (mapError_eq_ok read)
  | other typeName isFloat => cases read

/-- Whatever is canonicalized is a finite decimal. -/
theorem canonicalizeDec_ok {value : DecInput} {text : String} (held : value.representable = true)
    (written : canonicalizeDec repr value = .ok text) :
    ∃ d : Decimal, d.inRange = true ∧ text = String.ofList (formatDecimal d) := by
  obtain ⟨d, read, formatted⟩ := bind_eq_ok written
  cases d with
  | special => cases formatted
  | finite d =>
    cases formatted
    exact ⟨d, toDecimal_inRange held read, rfl⟩

/-- `Decimal` reads a canonical text. -/
theorem decimalOfText_formatDecimal {d : Decimal} (held : d.inRange = true) :
    decimalOfText (formatDecimal d) = .ok (.finite d) := by
  simp only [decimalOfText, parseDecimal_formatDecimal, if_pos held]

theorem formatDecimal_injective {d d' : Decimal} (same : formatDecimal d = formatDecimal d') : d = d' := by
  have read := parseDecimal_formatDecimal d
  rw [same, parseDecimal_formatDecimal d'] at read
  exact (Option.some.inj read).symm

/-- The canonical text is canonical. -/
theorem canonicalizeDec_twice {value : DecInput} {text : String} (held : value.representable = true)
    (written : canonicalizeDec repr value = .ok text) : canonicalizeDec repr (.str text) = .ok text := by
  obtain ⟨d, inRange, rfl⟩ := canonicalizeDec_ok held written
  have read : toDecimal repr (.str (String.ofList (formatDecimal d))) = .ok (.finite d) := by
    simp only [toDecimal, String.toList_ofList, decimalOfText_formatDecimal inRange]
    rfl
  unfold canonicalizeDec
  rw [read]
  rfl

/-- The values of a dict as they are canonicalized. -/
def dictValues (values : List (String × PyNumber)) : List (String × DecInput) :=
  values.map fun entry => (entry.1, entry.2.value)

/-- Elements that were canonicalized once stay as they are. -/
theorem canonicalElements_twice {values : List (String × PyNumber)} {elements : List (String × String)}
    (written : canonicalElements (pythonDecimals repr) (dictValues values) = .ok elements) :
    canonicalElements (pythonDecimals repr)
      (elements.map fun entry => (entry.1, (pythonDecimals repr).ofText entry.2)) = .ok elements := by
  unfold canonicalElements at written ⊢
  induction values generalizing elements with
  | nil =>
    cases written
    rfl
  | cons entry values ih =>
    rw [dictValues, List.map_cons, List.mapM_cons] at written
    obtain ⟨first, canonical, written⟩ := bind_eq_ok written
    obtain ⟨text, same, named⟩ := bind_eq_ok canonical
    cases named
    obtain ⟨rest, later, written⟩ := bind_eq_ok written
    cases written
    have again : (pythonDecimals repr).canonicalizeDec ((pythonDecimals repr).ofText text) = .ok text :=
      canonicalizeDec_twice entry.2.representable same
    rw [List.map_cons, List.mapM_cons, again]
    simp only [ih later]
    rfl

end Text

/-- The text of a finite decimal is read back as the same sign, coefficient and
exponent, by the grammar and by `Decimal` within its range, so no two share a text;
canonicalizing a canonical text changes nothing, and neither does the emissions
client to the forecaster's elements. -/
theorem canonical_decimals_exact (repr : DecInput → String) :
    (∀ d : Decimal, ∃ text, canonicalizeDec repr (.decimal (.finite d)) = .ok text ∧
      parseDecimal text.toList = some d ∧
      (d.inRange = true → decimalOfText text.toList = .ok (.finite d))) ∧
    (∀ d d' : Decimal, canonicalizeDec repr (.decimal (.finite d)) =
      canonicalizeDec repr (.decimal (.finite d')) → d = d') ∧
    (∀ (value : PyNumber) text, canonicalizeDec repr value.value = .ok text →
      canonicalizeDec repr (.str text) = .ok text) ∧
    ∀ (values : List (String × PyNumber)) elements topicId nonce,
      canonicalElements (pythonDecimals repr) (dictValues values) = .ok elements → elements ≠ [] →
      insertWorkerPayload (pythonDecimals repr) topicId nonce none elements =
        .ok ⟨topicId, nonce, none, some elements⟩ := by
  refine ⟨?_, ?_, ?_, ?_⟩
  · intro d
    refine ⟨_, canonicalizeDec_finite d, ?_⟩
    rw [String.toList_ofList]
    exact ⟨parseDecimal_formatDecimal d, decimalOfText_formatDecimal⟩
  · intro d d' same
    rw [canonicalizeDec_finite, canonicalizeDec_finite] at same
    apply formatDecimal_injective
    have texts := congrArg String.toList (Except.ok.inj same)
    simpa only [String.toList_ofList] using texts
  · intro value text written
    exact canonicalizeDec_twice value.representable written
  · intro values elements topicId nonce written some_element
    unfold insertWorkerPayload
    rw [if_neg (by simp [some_element]), if_neg some_element, canonicalElements_twice written]
    rfl

/-- Padded zeros and the others, the last plain exponent, trailing zeros. -/
example : [⟨true, 0, -2⟩, ⟨false, 0, -2001⟩, ⟨false, 0, 5⟩, ⟨false, 123, -8⟩, ⟨false, 123, -9⟩, ⟨true, 100, 1⟩].map
    (fun d : Decimal => String.ofList (formatDecimal d)) =
      ["-0.00", "0E-2001", "0E+5", "0.00000123", "1.23E-7", "-1.00E+3"] := by decide +kernel

end AlloraSdk.Guarantees
