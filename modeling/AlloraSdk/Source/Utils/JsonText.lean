import AlloraSdk.Source.Utils.Json
import AlloraSdk.Source.Utils.DecCanonical

/-!
# Reading back what `json.dumps` wrote

Each part of a JSON text is read back before whatever follows it: escapes and
strings, integers, and then values.
-/

namespace AlloraSdk.Source.Utils.Json

/-! ## Strings -/

theorem hexValue_hexDigit : ∀ n < 16, hexValue (hexDigit n) = some n := by decide

theorem hexUnit_digits {unit : ℕ} (small : unit < 65536) :
    hexUnit (hexDigit (unit / 4096 % 16)) (hexDigit (unit / 256 % 16)) (hexDigit (unit / 16 % 16))
      (hexDigit (unit % 16)) = some unit := by
  have value : 4096 * (unit / 4096 % 16) + 256 * (unit / 256 % 16) + 16 * (unit / 16 % 16) + unit % 16 = unit := by
    omega
  simp [hexUnit, hexValue_hexDigit _ (Nat.mod_lt _ (by decide : 0 < 16)), value]

/-- A character and the text after it. -/
def consChar (c : Char) (read : List Char × List Char) : List Char × List Char := (c :: read.1, read.2)

theorem scanString_unicode {unit : ℕ} (small : unit < 65536) (scalar : unit < 55296 ∨ 57344 ≤ unit)
    (rest : List Char) :
    scanString (unicodeEscape unit ++ rest) = (scanString rest).map (consChar (Char.ofNat unit)) := by
  have read := hexUnit_digits small
  have high : ¬ (55296 ≤ unit ∧ unit < 56320) := by omega
  have low : ¬ (56320 ≤ unit ∧ unit < 57344) := by omega
  have lone : ¬ (55296 ≤ unit ∧ unit < 57344) := by omega
  simp only [unicodeEscape, List.cons_append, List.nil_append]
  rw [scanString.eq_def]
  split
  · rename_i same
    cases same
  · rename_i same
    cases same
    simp only [read, high, low, Option.bind_eq_bind, Option.bind_some, if_false]
    cases scanString (_ :: _) <;> rfl
  · rename_i same
    cases same
    simp only [read, lone, Option.bind_eq_bind, Option.bind_some, if_false]
    cases scanString _ <;> rfl
  · rename_i apart same
    cases same
    exact (apart _ _ _ _ _ rfl rfl).elim
  · rename_i apart same
    cases same
    exact (apart _ _ rfl rfl).elim

/-- Two escapes for one character beyond the first plane. -/
theorem scanString_pair {above : ℕ} (small : above < 1048576) (rest : List Char) :
    scanString (unicodeEscape (55296 + above / 1024) ++ (unicodeEscape (56320 + above % 1024) ++ rest)) =
      (scanString rest).map (consChar (Char.ofNat (65536 + above))) := by
  have readHigh := hexUnit_digits (by omega : 55296 + above / 1024 < 65536)
  have readLow := hexUnit_digits (by omega : 56320 + above % 1024 < 65536)
  have high : 55296 ≤ 55296 + above / 1024 ∧ 55296 + above / 1024 < 56320 := by omega
  have low : 56320 ≤ 56320 + above % 1024 ∧ 56320 + above % 1024 < 57344 := by omega
  have value : 65536 + 1024 * (55296 + above / 1024 - 55296) + (56320 + above % 1024 - 56320) = 65536 + above := by
    omega
  simp only [unicodeEscape, List.cons_append, List.nil_append]
  rw [scanString.eq_2]
  simp only [readHigh, readLow, if_pos high, if_pos low, value, Option.bind_eq_bind, Option.bind_some]
  cases scanString rest <;> rfl

theorem scanString_simple {c escaped : Char} (known : simpleEscape c = some escaped) (rest : List Char) :
    scanString ('\\' :: c :: rest) = (scanString rest).map (consChar escaped) := by
  have other : c ≠ 'u' := by
    rintro rfl
    cases known
  rw [scanString.eq_def]
  split
  · rename_i same
    cases same
  · rename_i same
    cases same
    exact (other rfl).elim
  · rename_i same
    cases same
    exact (other rfl).elim
  · rename_i same
    cases same
    simp only [known, Option.bind_eq_bind, Option.bind_some]
    cases scanString rest <;> rfl
  · rename_i apart same
    cases same
    exact (apart _ _ rfl rfl).elim

theorem scanString_plain {c : Char} (printable : 32 ≤ c.toNat) (notQuote : c.toNat ≠ 34) (notEscape : c ≠ '\\')
    (rest : List Char) : scanString (c :: rest) = (scanString rest).map (consChar c) := by
  have visible : ¬ c.toNat < 32 := by omega
  rw [scanString.eq_def]
  split
  · rename_i same
    cases same
  · rename_i same
    cases same
    exact (notEscape rfl).elim
  · rename_i same
    cases same
    exact (notEscape rfl).elim
  · rename_i same
    cases same
    exact (notEscape rfl).elim
  · rename_i same
    cases same
    simp only [notQuote, visible, if_false, Option.bind_eq_bind]
    cases scanString rest <;> rfl

/-- Each escaped character is read back. -/
theorem scanString_escapeChar (c : Char) (rest : List Char) :
    scanString (escapeChar c ++ rest) = (scanString rest).map (consChar c) := by
  unfold escapeChar
  split
  · rename_i same
    subst same
    exact scanString_simple rfl rest
  split
  · rename_i quote
    have same : c = Char.ofNat 34 := by rw [← quote, Char.ofNat_toNat]
    subst same
    exact scanString_simple rfl rest
  split
  · rename_i same
    subst same
    exact scanString_simple rfl rest
  split
  · rename_i same
    subst same
    exact scanString_simple rfl rest
  split
  · rename_i same
    subst same
    exact scanString_simple rfl rest
  split
  · rename_i feed
    have same : c = Char.ofNat 12 := by rw [← feed, Char.ofNat_toNat]
    subst same
    exact scanString_simple rfl rest
  split
  · rename_i back
    have same : c = Char.ofNat 8 := by rw [← back, Char.ofNat_toNat]
    subst same
    exact scanString_simple rfl rest
  split
  · rename_i notEscape notQuote _ _ _ _ _ printable
    exact scanString_plain printable.1 notQuote notEscape rest
  have valid : c.toNat < 55296 ∨ 57343 < c.toNat ∧ c.toNat < 1114112 := c.valid
  split
  · rename_i small
    have read := scanString_unicode small (by omega) rest
    rwa [Char.ofNat_toNat] at read
  · rename_i large
    have read := scanString_pair (by omega : c.toNat - 65536 < 1048576) rest
    have value : 65536 + (c.toNat - 65536) = c.toNat := by omega
    rw [value, Char.ofNat_toNat] at read
    rw [List.append_assoc]
    exact read

theorem scanString_quoted (text : List Char) (rest : List Char) :
    scanString (text.flatMap escapeChar ++ '\x22' :: rest) = some (text, rest) := by
  induction text with
  | nil => simp [scanString]
  | cons c text ih =>
    rw [List.flatMap_cons, List.append_assoc, scanString_escapeChar, ih]
    rfl

/-! ## Integers -/

/-- What may follow a value. -/
def Ends (rest : List Char) : Prop := rest.head?.all fun c => c = ',' ∨ c = ']' ∨ c = '\x7d'

/-- The text of an integer. -/
def intChars (value : ℤ) : List Char :=
  if value < 0 then '-' :: Nat.toDigits 10 value.natAbs else Nat.toDigits 10 value.natAbs

theorem toString_int (value : ℤ) : (toString value).toList = intChars value := by
  cases value with
  | ofNat n =>
    change (Nat.repr n).toList = _
    simp [intChars, Nat.toList_repr]
  | negSucc n =>
    change ("-" ++ Nat.repr (n + 1)).toList = _
    simp [intChars, Nat.toList_repr]

theorem digitChar_ne_zero : ∀ n < 10, n ≠ 0 → Nat.digitChar n ≠ '0' := by decide

/-- No leading zero. -/
theorem head_toDigits {n : ℕ} (nonzero : n ≠ 0) : (Nat.toDigits 10 n).head? ≠ some '0' := by
  induction n using Nat.strongRecOn with
  | _ n ih =>
    by_cases small : n < 10
    · simpa [Nat.toDigits_of_lt_base small] using digitChar_ne_zero n small nonzero
    · have shape := Nat.toDigits_of_base_le (by decide : 1 < 10) (Nat.le_of_not_lt small)
      have shorter := ih (n / 10) (by omega) (by omega)
      rw [shape, List.head?_append_of_ne_nil _ Nat.toDigits_ne_nil]
      exact shorter

theorem not_digit_of_ends {c : Char} {rest : List Char} (ends : Ends (c :: rest)) :
    c.isDigit = false ∧ ¬ (c = '.' ∨ c = 'e' ∨ c = 'E') := by
  have three : c = ',' ∨ c = ']' ∨ c = '\x7d' := by simpa [Ends] using ends
  rcases three with rfl | rfl | rfl <;> decide

/-- Digits stop where a value ends. -/
theorem digits_of_ends {digits rest : List Char} (all : Digits digits) (ends : Ends rest) :
    (digits ++ rest).takeWhile Char.isDigit = digits ∧ (digits ++ rest).dropWhile Char.isDigit = rest := by
  cases rest with
  | nil =>
    have dropped : (digits ++ []).dropWhile Char.isDigit = [].dropWhile Char.isDigit :=
      List.dropWhile_append_of_pos all
    exact ⟨by simpa using takeWhile_eq_self all, dropped⟩
  | cons c rest =>
    have stop := (not_digit_of_ends ends).1
    refine ⟨takeWhile_append_stop all stop, ?_⟩
    rw [List.dropWhile_append_of_pos all, List.dropWhile_cons_of_neg (by simp [stop])]

/-- The part of `scanInt` behind the sign. -/
theorem digits_read {n : ℕ} {rest : List Char} (ends : Ends rest) :
    ¬ ((Nat.toDigits 10 n).head? = some '0' ∧ (Nat.toDigits 10 n).length ≠ 1) ∧
      ¬ (rest.head?.any fun c => c = '.' ∨ c = 'e' ∨ c = 'E') = true := by
  constructor
  · rintro ⟨zero, long⟩
    by_cases nonzero : n = 0
    · subst nonzero
      exact long rfl
    · exact head_toDigits nonzero zero
  · cases rest with
    | nil => simp
    | cons c rest => simpa using (not_digit_of_ends ends).2

theorem scanInt_intChars {value : ℤ} {rest : List Char} (short : numDigits value.natAbs ≤ maxStrDigits)
    (ends : Ends rest) :
    scanInt (intChars value ++ rest) = some (value, rest) := by
  obtain ⟨noLeadingZero, noFraction⟩ := digits_read (n := value.natAbs) ends
  obtain ⟨taken, dropped⟩ := digits_of_ends (digits_toDigits value.natAbs) ends
  have taken_all : ¬ maxStrDigits < (Nat.toDigits 10 value.natAbs).length := Nat.not_lt.mpr short
  unfold intChars
  by_cases negative : value < 0
  · have back : -(value.natAbs : ℤ) = value := by omega
    simp only [if_pos negative, List.cons_append, scanInt, List.head?_cons, if_true, List.tail_cons, taken, dropped,
      if_neg noLeadingZero, noFraction, if_neg taken_all, digitsValue_toDigits, Option.map_some, signed, decide_true,
      back]
    simp
  · have back : (value.natAbs : ℤ) = value := by omega
    have minus : (Nat.toDigits 10 value.natAbs).head? ≠ some '-' := by
      intro minus
      have digit := digits_toDigits value.natAbs '-' (List.mem_of_head? minus)
      cases digit
    have unsigned : ¬ (Nat.toDigits 10 value.natAbs ++ rest).head? = some '-' := by
      rwa [List.head?_append_of_ne_nil _ Nat.toDigits_ne_nil]
    simp only [if_neg negative, scanInt, if_neg unsigned, taken, dropped, if_neg noLeadingZero, noFraction,
      if_neg taken_all, digitsValue_toDigits, Option.map_some, signed, back]
    simp [minus]

/-! ## Values -/

/-- `sort_keys`, in every dict of a value. -/
def sortFields {α : Type} (fields : List (String × α)) : List (String × α) :=
  fields.insertionSort fun first second => first.1 ≤ second.1

mutual

/-- A value with the keys of every dict in order. -/
def canonical : Json → Json
  | .null => .null
  | .bool value => .bool value
  | .int value => .int value
  | .str text => .str text
  | .arr items => .arr (canonicalItems items)
  | .obj fields => .obj (sortFields (canonicalFields fields))

def canonicalItems : List Json → List Json
  | [] => []
  | item :: rest => item.canonical :: canonicalItems rest

def canonicalFields : List (String × Json) → List (String × Json)
  | [] => []
  | (key, value) :: rest => (key, value.canonical) :: canonicalFields rest

end

mutual

/-- The keys of every dict are distinct, and no integer is beyond the limit. -/
def Loadable : Json → Prop
  | .arr items => LoadableItems items
  | .obj fields => (fields.map Prod.fst).Nodup ∧ LoadableFields fields
  | .int value => numDigits value.natAbs ≤ maxStrDigits
  | .null | .bool _ | .str _ => True

def LoadableItems : List Json → Prop
  | [] => True
  | item :: rest => item.Loadable ∧ LoadableItems rest

def LoadableFields : List (String × Json) → Prop
  | [] => True
  | (_, value) :: rest => value.Loadable ∧ LoadableFields rest

end

theorem canonicalItems_eq (items : List Json) : canonicalItems items = items.map canonical := by
  induction items with
  | nil => rfl
  | cons item rest ih => simp [canonicalItems, ih]

theorem canonicalFields_eq (fields : List (String × Json)) :
    canonicalFields fields = fields.map fun field => (field.1, field.2.canonical) := by
  induction fields with
  | nil => rfl
  | cons field rest ih => simp [canonicalFields, ih]

theorem renderItems_eq (items : List Json) : renderItems items = items.map render := by
  induction items with
  | nil => rfl
  | cons item rest ih => simp [renderItems, ih]

theorem renderFields_eq (fields : List (String × Json)) :
    renderFields fields = fields.map fun field => (field.1, field.2.render) := by
  induction fields with
  | nil => rfl
  | cons field rest ih => simp [renderFields, ih]

theorem loadableItems_iff {items : List Json} : LoadableItems items ↔ ∀ item ∈ items, item.Loadable := by
  induction items with
  | nil => simp [LoadableItems]
  | cons item rest ih => simp [LoadableItems, ih]

theorem loadableFields_iff {fields : List (String × Json)} :
    LoadableFields fields ↔ ∀ field ∈ fields, field.2.Loadable := by
  induction fields with
  | nil => simp [LoadableFields]
  | cons field rest ih => simp [LoadableFields, ih]

/-- Sorting looks at the keys only. -/
theorem sortFields_map {α β : Type} (f : α → β) (fields : List (String × α)) :
    sortFields (fields.map fun field => (field.1, f field.2)) =
      (sortFields fields).map fun field => (field.1, f field.2) :=
  (List.map_insertionSort (fun (first second : String × α) => first.1 ≤ second.1)
    (fun (first second : String × β) => first.1 ≤ second.1) (fun field => (field.1, f field.2)) fields
    fun _ _ _ _ => Iff.rfl).symm

theorem mem_sortFields {α : Type} {fields : List (String × α)} {field : String × α} :
    field ∈ sortFields fields ↔ field ∈ fields :=
  (List.perm_insertionSort _ fields).mem_iff

theorem keys_sortFields {α : Type} {fields : List (String × α)} (distinct : (fields.map Prod.fst).Nodup) :
    ((sortFields fields).map Prod.fst).Nodup :=
  (((List.perm_insertionSort _ fields).map Prod.fst).nodup_iff).mpr distinct

/-! ### The text of a value, in parts -/

/-- The characters of a value. -/
def chars (value : Json) : List Char := value.render.toList

def separated : List (List Char) → List Char
  | [] => []
  | [part] => part
  | part :: next :: rest => part ++ ',' :: ' ' :: separated (next :: rest)

theorem separated_eq (parts : List (List Char)) : [',', ' '].intercalate parts = separated parts := by
  induction parts with
  | nil => rfl
  | cons part rest ih =>
    cases rest with
    | nil => simp [separated]
    | cons next rest =>
      rw [separated, ← ih]
      simp [List.intercalate]

def fieldChars (field : String × Json) : List Char :=
  '\x22' :: (field.1.toList.flatMap escapeChar ++ '\x22' :: ':' :: ' ' :: field.2.chars)

theorem chars_int (value : ℤ) : (Json.int value).chars = intChars value := by
  rw [chars, render]
  exact toString_int value

theorem chars_str (text : String) : (Json.str text).chars = '\x22' :: (text.toList.flatMap escapeChar ++ ['\x22']) := by
  simp [chars, render, quote]

theorem chars_arr (items : List Json) : (Json.arr items).chars = '[' :: (separated (items.map chars) ++ [']']) := by
  simp [chars, render, ← separated_eq, renderItems_eq, Function.comp_def]
  rfl

theorem chars_obj (fields : List (String × Json)) :
    (Json.obj fields).chars = '\x7b' :: (separated ((sortFields fields).map fieldChars) ++ ['\x7d']) := by
  have texts : (renderFields fields).insertionSort (fun first second => first.1 ≤ second.1) =
      (sortFields fields).map fun field => (field.1, field.2.render) := by
    rw [renderFields_eq]
    exact sortFields_map render fields
  simp [chars, render, texts, ← separated_eq, Function.comp_def, quote]
  rfl

/-! ### Reading it back -/

/-- No value starts with space or with the end of an array. -/
def startsValue (c : Char) : Bool := c ≠ ' ' ∧ c ≠ '\t' ∧ c ≠ '\n' ∧ c ≠ '\r' ∧ c ≠ ']'

theorem startsValue_digit {c : Char} (digit : c.isDigit = true) : startsValue c = true := by
  simp only [startsValue, decide_eq_true_eq]
  refine ⟨?_, ?_, ?_, ?_, ?_⟩ <;> rintro rfl <;> cases digit

theorem chars_head (value : Json) : ∃ c rest, value.chars = c :: rest ∧ startsValue c = true := by
  cases value with
  | null => exact ⟨'n', _, rfl, rfl⟩
  | bool value =>
    cases value with
    | true => exact ⟨'t', _, rfl, rfl⟩
    | false => exact ⟨'f', _, rfl, rfl⟩
  | int value =>
    rw [chars_int, intChars]
    split
    · exact ⟨'-', _, rfl, rfl⟩
    · obtain ⟨c, rest, shape⟩ := List.exists_cons_of_ne_nil (Nat.toDigits_ne_nil (n := value.natAbs) (b := 10))
      exact ⟨c, rest, shape, startsValue_digit (digits_toDigits value.natAbs c (by simp [shape]))⟩
  | str text => exact ⟨_, _, chars_str text, rfl⟩
  | arr items => exact ⟨_, _, chars_arr items, rfl⟩
  | obj fields => exact ⟨_, _, chars_obj fields, rfl⟩

theorem skipSpace_cons {c : Char} (starts : startsValue c = true) (rest : List Char) :
    skipSpace (c :: rest) = c :: rest := by
  simp only [startsValue, decide_eq_true_eq] at starts
  apply List.dropWhile_cons_of_neg
  simp [starts.1, starts.2.1, starts.2.2.1, starts.2.2.2.1]

theorem skipSpace_chars (value : Json) (rest : List Char) : skipSpace (value.chars ++ rest) = value.chars ++ rest := by
  obtain ⟨c, text, shape, starts⟩ := chars_head value
  rw [shape, List.cons_append, skipSpace_cons starts]

@[simp] theorem skipSpace_space (text : List Char) : skipSpace (' ' :: text) = skipSpace text :=
  List.dropWhile_cons_of_pos (by decide)

@[simp] theorem skipSpace_comma (text : List Char) : skipSpace (',' :: text) = ',' :: text := skipSpace_cons rfl text
@[simp] theorem skipSpace_colon (text : List Char) : skipSpace (':' :: text) = ':' :: text := skipSpace_cons rfl text
@[simp] theorem skipSpace_quote (text : List Char) : skipSpace ('\x22' :: text) = '\x22' :: text :=
  skipSpace_cons rfl text

@[simp] theorem skipSpace_bracket (text : List Char) : skipSpace (']' :: text) = ']' :: text :=
  List.dropWhile_cons_of_neg (by decide)

@[simp] theorem skipSpace_brace (text : List Char) : skipSpace ('\x7d' :: text) = '\x7d' :: text := skipSpace_cons rfl text

/-- A value is read back before whatever ends it. -/
def ReadsBack (value : Json) : Prop :=
  ∀ fuel rest, 2 * value.chars.length ≤ fuel → Ends rest →
    scanValue fuel (value.chars ++ rest) = some (value.canonical, rest)

theorem scanItems_separated (items : List Json) (nonempty : items ≠ []) (read : ∀ item ∈ items, ReadsBack item)
    (fuel : ℕ) (rest : List Char) (enough : 2 * (separated (items.map chars)).length < fuel) :
    scanItems fuel (separated (items.map chars) ++ ']' :: rest) = some (items.map canonical, rest) := by
  induction items generalizing fuel with
  | nil => exact (nonempty rfl).elim
  | cons item tail ih =>
    obtain ⟨fuel, rfl⟩ : ∃ n, fuel = n + 1 := ⟨fuel - 1, by omega⟩
    cases tail with
    | nil =>
      simp only [List.map_cons, List.map_nil, separated] at enough ⊢
      have here := read item (List.mem_cons_self ..) fuel (']' :: rest) (by omega) rfl
      simp only [scanItems, skipSpace_chars, here, Option.bind_eq_bind, Option.bind_some, skipSpace_bracket]
      rfl
    | cons next tail =>
      simp only [List.map_cons, separated, List.append_assoc, List.length_append, List.cons_append,
        List.length_cons] at enough ih ⊢
      have here := read item (List.mem_cons_self ..) fuel
        (',' :: ' ' :: (separated (next.chars :: tail.map chars) ++ ']' :: rest)) (by omega) rfl
      have later := ih (by simp) (fun item member => read item (List.mem_cons_of_mem _ member)) fuel (by omega)
      have spaced : scanItems fuel (' ' :: (separated (next.chars :: tail.map chars) ++ ']' :: rest)) =
          scanItems fuel (separated (next.chars :: tail.map chars) ++ ']' :: rest) := by
        cases fuel <;> simp [scanItems]
      simp only [scanItems, skipSpace_chars, here, Option.bind_eq_bind, Option.bind_some, skipSpace_comma, spaced,
        later]
      rfl

theorem scanFields_separated (fields : List (String × Json)) (nonempty : fields ≠ [])
    (distinct : (fields.map Prod.fst).Nodup) (read : ∀ field ∈ fields, ReadsBack field.2) (fuel : ℕ)
    (rest : List Char) (enough : 2 * (separated (fields.map fieldChars)).length < fuel) :
    scanFields fuel (separated (fields.map fieldChars) ++ '\x7d' :: rest) =
      some (fields.map fun field => (field.1, field.2.canonical), rest) := by
  induction fields generalizing fuel with
  | nil => exact (nonempty rfl).elim
  | cons field tail ih =>
    obtain ⟨fuel, rfl⟩ : ∃ n, fuel = n + 1 := ⟨fuel - 1, by omega⟩
    cases tail with
    | nil =>
      simp only [List.map_cons, List.map_nil, separated, fieldChars, List.length_cons, List.length_append,
        List.cons_append, List.append_assoc] at enough ⊢
      have here := read field (List.mem_cons_self ..) fuel ('\x7d' :: rest) (by omega) rfl
      simp only [scanFields, skipSpace_quote, scanString_quoted, Option.bind_eq_bind, Option.bind_some,
        skipSpace_colon, skipSpace_space, skipSpace_chars, here, skipSpace_brace, String.ofList_toList]
      rfl
    | cons next tail =>
      have apart : ¬ (((next :: tail).map fun field => (field.1, field.2.canonical)).any fun other =>
          other.1 = field.1) = true := by
        have absent := (List.nodup_cons.mp distinct).1
        intro found
        obtain ⟨other, member, same⟩ := List.any_eq_true.mp found
        obtain ⟨original, listed, rfl⟩ := List.mem_map.mp member
        exact absent (List.mem_map.mpr ⟨original, listed, of_decide_eq_true same⟩)
      have split : fieldChars field ++ ',' :: ' ' :: (separated ((next :: tail).map fieldChars) ++ '\x7d' :: rest) =
          '\x22' :: (field.1.toList.flatMap escapeChar ++ '\x22' :: ':' :: ' ' :: (field.2.chars ++
            ',' :: ' ' :: (separated ((next :: tail).map fieldChars) ++ '\x7d' :: rest))) := by
        simp [fieldChars]
      have size : 2 * field.2.chars.length ≤ fuel ∧ 2 * (separated ((next :: tail).map fieldChars)).length < fuel := by
        simp only [List.map_cons, separated, fieldChars, List.length_append, List.length_cons] at enough ⊢
        omega
      have here := read field (List.mem_cons_self ..) fuel
        (',' :: ' ' :: (separated ((next :: tail).map fieldChars) ++ '\x7d' :: rest)) size.1 rfl
      have later := ih (by simp) (List.nodup_cons.mp distinct).2
        (fun field member => read field (List.mem_cons_of_mem _ member)) fuel size.2
      have spaced : scanFields fuel (' ' :: (separated ((next :: tail).map fieldChars) ++ '\x7d' :: rest)) =
          scanFields fuel (separated ((next :: tail).map fieldChars) ++ '\x7d' :: rest) := by
        cases fuel <;> simp [scanFields]
      have shape : separated ((field :: next :: tail).map fieldChars) ++ '\x7d' :: rest =
          fieldChars field ++ ',' :: ' ' :: (separated ((next :: tail).map fieldChars) ++ '\x7d' :: rest) := by
        simp [separated]
      rw [shape, split]
      simp only [scanFields, skipSpace_quote, scanString_quoted, Option.bind_eq_bind, Option.bind_some,
        skipSpace_colon, skipSpace_space, skipSpace_chars, here, skipSpace_comma, spaced, later,
        String.ofList_toList, if_neg apart]
      rfl

theorem scanValue_arr {items : List Json} (read : ∀ item ∈ items, ReadsBack item) : ReadsBack (.arr items) := by
  intro fuel rest enough ends
  rw [chars_arr] at enough ⊢
  simp only [List.length_cons, List.length_append, List.length_nil] at enough
  obtain ⟨fuel, rfl⟩ : ∃ n, fuel = n + 1 := ⟨fuel - 1, by omega⟩
  rw [canonical, canonicalItems_eq]
  cases items with
  | nil => simp [scanValue, separated]
  | cons item tail =>
    have body := scanItems_separated (item :: tail) (by simp) read fuel rest (by omega)
    obtain ⟨c, text, shape, starts⟩ : ∃ c text, separated ((item :: tail).map chars) ++ ']' :: rest = c :: text ∧
        startsValue c = true := by
      obtain ⟨c, text, shape, starts⟩ := chars_head item
      cases tail with
      | nil => exact ⟨c, _, by simp [separated, shape]; rfl, starts⟩
      | cons next tail => exact ⟨c, _, by simp [separated, shape]; rfl, starts⟩
    rw [shape] at body
    simp only [List.cons_append, List.append_assoc, List.nil_append, shape, scanValue, skipSpace_cons starts]
    split
    · rename_i closed
      obtain ⟨rfl, -⟩ := List.cons_eq_cons.mp closed
      cases starts
    · rw [body]
      rfl

theorem scanValue_obj {fields : List (String × Json)} (distinct : (fields.map Prod.fst).Nodup)
    (read : ∀ field ∈ fields, ReadsBack field.2) : ReadsBack (.obj fields) := by
  intro fuel rest enough ends
  rw [chars_obj] at enough ⊢
  simp only [List.length_cons, List.length_append, List.length_nil] at enough
  obtain ⟨fuel, rfl⟩ : ∃ n, fuel = n + 1 := ⟨fuel - 1, by omega⟩
  rw [canonical, canonicalFields_eq, sortFields_map]
  cases sorted : sortFields fields with
  | nil => simp [scanValue, separated]
  | cons field tail =>
    have distinct' := keys_sortFields distinct
    have read' : ∀ field ∈ sortFields fields, ReadsBack field.2 :=
      fun field member => read field (mem_sortFields.mp member)
    rw [sorted] at enough distinct' read'
    have body := scanFields_separated (field :: tail) (by simp) distinct' read' fuel rest (by omega)
    obtain ⟨text, shape⟩ : ∃ text, separated ((field :: tail).map fieldChars) ++ '\x7d' :: rest = '\x22' :: text := by
      cases tail with
      | nil => exact ⟨_, by simp [separated, fieldChars]; rfl⟩
      | cons next tail => exact ⟨_, by simp [separated, fieldChars]; rfl⟩
    rw [shape] at body
    simp only [List.cons_append, List.append_assoc, List.nil_append, shape, scanValue, skipSpace_quote]
    split
    · rename_i closed
      cases closed
    · rw [body]
      rfl

theorem scanValue_int {value : ℤ} (short : numDigits value.natAbs ≤ maxStrDigits) : ReadsBack (.int value) := by
  intro fuel rest enough ends
  have read := scanInt_intChars short ends
  obtain ⟨c, text, shape, first⟩ : ∃ c text, intChars value ++ rest = c :: text ∧ (c = '-' ∨ c.isDigit = true) := by
    unfold intChars
    split
    · exact ⟨'-', _, rfl, .inl rfl⟩
    · obtain ⟨c, digits, shape⟩ := List.exists_cons_of_ne_nil (Nat.toDigits_ne_nil (n := value.natAbs) (b := 10))
      exact ⟨c, _, by rw [shape]; rfl, .inr (digits_toDigits value.natAbs c (by simp [shape]))⟩
  rw [chars_int] at enough ⊢
  obtain ⟨fuel, rfl⟩ : ∃ n, fuel = n + 1 := by
    refine ⟨fuel - 1, ?_⟩
    have some_char : intChars value ≠ [] := by
      unfold intChars
      split
      · simp
      · exact Nat.toDigits_ne_nil
    have := List.length_pos_iff.mpr some_char
    omega
  rw [shape] at read ⊢
  have other (d : Char) (notMinus : d ≠ '-') (notDigit : d.isDigit = false) (tail : List Char)
      (same : c :: text = d :: tail) : False := by
    obtain ⟨rfl, -⟩ := List.cons_eq_cons.mp same
    cases first with
    | inl minus => exact notMinus minus
    | inr digit => simp [notDigit] at digit
  rw [scanValue.eq_8 _ fuel (other '[' (by decide) rfl) (other '\x7b' (by decide) rfl) (other '\x22' (by decide) rfl)
    (other 'n' (by decide) rfl) (other 't' (by decide) rfl) (other 'f' (by decide) rfl), read]
  rfl

theorem dropPrefix_append (word rest : List Char) : dropPrefix word (word ++ rest) = some rest := by
  have starts : word.isPrefixOf (word ++ rest) = true := List.isPrefixOf_iff_prefix.mpr (List.prefix_append ..)
  rw [dropPrefix, if_pos starts, List.drop_left]

theorem scanValue_str (text : String) : ReadsBack (.str text) := by
  intro fuel rest enough ends
  rw [chars_str] at enough ⊢
  simp only [List.length_cons] at enough
  obtain ⟨fuel, rfl⟩ : ∃ n, fuel = n + 1 := ⟨fuel - 1, by omega⟩
  simp only [List.cons_append, List.append_assoc, List.nil_append, scanValue, scanString_quoted]
  simp [canonical]

theorem scanValue_word {value : Json} (word : value = .null ∨ ∃ flag, value = .bool flag) : ReadsBack value := by
  intro fuel rest enough ends
  have long : 4 ≤ value.chars.length := by
    rcases word with rfl | ⟨flag, rfl⟩
    · decide
    · cases flag <;> decide
  obtain ⟨fuel, rfl⟩ : ∃ n, fuel = n + 1 := ⟨fuel - 1, by omega⟩
  rcases word with rfl | ⟨flag, rfl⟩
  · exact congrArg (Option.map fun rest => (Json.null, rest)) (dropPrefix_append "null".toList rest)
  · cases flag with
    | true => exact congrArg (Option.map fun rest => (Json.bool true, rest)) (dropPrefix_append "true".toList rest)
    | false => exact congrArg (Option.map fun rest => (Json.bool false, rest)) (dropPrefix_append "false".toList rest)

/-- `json.loads` reads back every value that `json.dumps` wrote, whatever follows it. -/
theorem scanValue_chars (value : Json) (loadable : value.Loadable) : ReadsBack value := by
  match value with
  | .null => exact scanValue_word (.inl rfl)
  | .bool flag => exact scanValue_word (.inr ⟨flag, rfl⟩)
  | .int value => exact scanValue_int loadable
  | .str text => exact scanValue_str text
  | .arr items =>
    rw [Loadable, loadableItems_iff] at loadable
    exact scanValue_arr fun item member => scanValue_chars item (loadable item member)
  | .obj fields =>
    rw [Loadable, loadableFields_iff] at loadable
    exact scanValue_obj loadable.1 fun field member => scanValue_chars field.2 (loadable.2 field member)
termination_by sizeOf value
decreasing_by
  · have smaller := List.sizeOf_lt_of_mem member
    simp only [Json.arr.sizeOf_spec]
    omega
  · have smaller := List.sizeOf_lt_of_mem member
    obtain ⟨key, value⟩ := field
    simp only [Json.obj.sizeOf_spec, Prod.mk.sizeOf_spec] at smaller ⊢
    omega

/-! ## Whole texts -/

theorem loads_chars {value : Json} (loadable : value.Loadable) : loads value.render = some value.canonical := by
  have length : value.render.length = value.chars.length := (String.length_toList).symm
  have read := scanValue_chars value loadable (2 * value.render.length + 1) [] (by omega) rfl
  have start := skipSpace_chars value []
  rw [List.append_nil] at read start
  rw [loads]
  change (scanValue _ (skipSpace value.chars) >>= _) = _
  rw [start, read]
  rfl

section Sorted

variable {fields fields' : List (String × Json)}

theorem sortFields_sorted {α : Type} (fields : List (String × α)) :
    (sortFields fields).Pairwise fun first second => first.1 ≤ second.1 :=
  List.pairwise_insertionSort _ fields

theorem sortFields_idem {α : Type} (fields : List (String × α)) : sortFields (sortFields fields) = sortFields fields :=
  (sortFields_sorted fields).insertionSort_eq

/-- The order of the members of a dict does not matter. -/
theorem canonical_perm (same : fields.Perm fields') (distinct : (fields.map Prod.fst).Nodup) :
    (Json.obj fields).canonical = (Json.obj fields').canonical := by
  have sorted : sortFields fields = sortFields fields' := by
    apply List.Perm.eq_of_pairwise _ (sortFields_sorted fields) (sortFields_sorted fields')
    · exact (List.perm_insertionSort _ fields).trans (same.trans (List.perm_insertionSort _ fields').symm)
    · intro first second left right lower upper
      have keys : first.1 = second.1 := String.le_antisymm lower upper
      have right' : second ∈ fields := same.mem_iff.mpr (mem_sortFields.mp right)
      exact List.inj_on_of_nodup_map distinct (mem_sortFields.mp left) right' keys
  rw [canonical, canonical, canonicalFields_eq, canonicalFields_eq, sortFields_map, sortFields_map, sorted]

end Sorted

/-- Sorting the keys first does not change the text. -/
theorem render_canonical (value : Json) : value.canonical.render = value.render := by
  match value with
  | .null | .bool _ | .int _ | .str _ => rfl
  | .arr items =>
    have each : ∀ item ∈ items, item.canonical.render = item.render := fun item member => render_canonical item
    have texts : items.map (render ∘ canonical) = items.map render := List.map_congr_left each
    rw [canonical, render, render, canonicalItems_eq, renderItems_eq, renderItems_eq, List.map_map, texts]
  | .obj fields =>
    have each : ∀ field ∈ fields, (field.1, field.2.canonical.render) = (field.1, field.2.render) :=
      fun field member => by rw [render_canonical field.2]
    have texts : sortFields (renderFields (sortFields (canonicalFields fields))) = sortFields (renderFields fields) := by
      calc sortFields (renderFields (sortFields (canonicalFields fields)))
          = sortFields (sortFields ((canonicalFields fields).map fun field => (field.1, field.2.render))) := by
            rw [renderFields_eq, ← sortFields_map render]
        _ = sortFields (fields.map fun field => (field.1, field.2.canonical.render)) := by
            rw [sortFields_idem, canonicalFields_eq, List.map_map]
            rfl
        _ = sortFields (renderFields fields) := by
            rw [List.map_congr_left each, renderFields_eq]
    have written (members : List (String × Json)) : (Json.obj members).render =
        "\x7b" ++ ", ".intercalate ((sortFields (renderFields members)).map fun field =>
          quote field.1 ++ ": " ++ field.2) ++ "\x7d" := by
      rw [render]
      rfl
    rw [canonical, written, written, texts]
termination_by sizeOf value
decreasing_by
  · have smaller := List.sizeOf_lt_of_mem member
    simp only [Json.arr.sizeOf_spec]
    omega
  · have smaller := List.sizeOf_lt_of_mem member
    obtain ⟨key, value⟩ := field
    simp only [Json.obj.sizeOf_spec, Prod.mk.sizeOf_spec] at smaller ⊢
    omega

/-- Two texts are the same when the values are, up to the order of members. -/
theorem render_eq_iff {a b : Json} (loadable : a.Loadable) (loadable' : b.Loadable) :
    a.render = b.render ↔ a.canonical = b.canonical := by
  constructor
  · intro same
    have read := loads_chars loadable
    rw [same, loads_chars loadable'] at read
    exact (Option.some.inj read).symm
  · intro same
    rw [← render_canonical a, same, render_canonical]

theorem writableItems_of_loadable {items : List Json} (each : ∀ item ∈ items, item.writable = true) :
    writableItems items = true := by
  induction items with
  | nil => rfl
  | cons item rest ih =>
    rw [writableItems, each item (.head _), ih fun other member => each other (.tail _ member)]
    rfl

theorem writableFields_of_loadable {fields : List (String × Json)} (each : ∀ field ∈ fields, field.2.writable = true) :
    writableFields fields = true := by
  induction fields with
  | nil => rfl
  | cons field rest ih =>
    rw [writableFields, each field (.head _), ih fun other member => each other (.tail _ member)]
    rfl

theorem writable_of_loadable {value : Json} (loadable : value.Loadable) : value.writable = true := by
  match value with
  | .null | .bool _ | .str _ => rfl
  | .int value => exact decide_eq_true loadable
  | .arr items =>
    rw [Loadable, loadableItems_iff] at loadable
    exact writableItems_of_loadable fun item member => writable_of_loadable (loadable item member)
  | .obj fields =>
    rw [Loadable, loadableFields_iff] at loadable
    exact writableFields_of_loadable fun field member => writable_of_loadable (loadable.2 field member)
termination_by sizeOf value
decreasing_by
  · have smaller := List.sizeOf_lt_of_mem member
    simp only [Json.arr.sizeOf_spec]
    omega
  · have smaller := List.sizeOf_lt_of_mem member
    obtain ⟨key, value⟩ := field
    simp only [Json.obj.sizeOf_spec, Prod.mk.sizeOf_spec] at smaller ⊢
    omega

theorem dumps_of_loadable {value : Json} (loadable : value.Loadable) : value.dumps = some value.render :=
  if_pos (writable_of_loadable loadable)

/-! ## What `json.loads` returns -/

theorem foldl_digits_lt {digits : List Char} (all : Digits digits) (start : ℕ) :
    digits.foldl (fun n digit => 10 * n + (digit.toNat - '0'.toNat)) start < (start + 1) * 10 ^ digits.length := by
  induction digits generalizing start with
  | nil => simp
  | cons digit rest ih =>
    have bounds := isDigit_bounds (all digit (.head _))
    have next : 10 * start + (digit.toNat - '0'.toNat) + 1 ≤ (start + 1) * 10 := by
      have zero : '0'.toNat = 48 := rfl
      omega
    calc (digit :: rest).foldl (fun n digit => 10 * n + (digit.toNat - '0'.toNat)) start
        < (10 * start + (digit.toNat - '0'.toNat) + 1) * 10 ^ rest.length := ih (fun c member => all c (.tail _ member)) _
      _ ≤ (start + 1) * 10 * 10 ^ rest.length := Nat.mul_le_mul_right _ next
      _ = (start + 1) * 10 ^ (digit :: rest).length := by rw [List.length_cons, Nat.pow_succ', Nat.mul_assoc]

/-- An integer has no more digits than its text. -/
theorem short_of_scanInt {text rest : List Char} {value : ℤ} (read : scanInt text = some (value, rest)) :
    numDigits value.natAbs ≤ maxStrDigits := by
  unfold scanInt at read
  dsimp only at read
  generalize (if text.head? = some '-' then text.tail else text) = body at read
  split at read
  · cases read
  split at read
  · cases read
  split at read
  · cases read
  rename_i short
  obtain ⟨n, valued, same⟩ := Option.map_eq_some_iff.mp read
  cases same
  unfold digitsValue at valued
  split at valued
  · rename_i digits
    cases valued
    have bound := foldl_digits_lt (List.all_eq_true.mp digits.2) 0
    rw [Nat.zero_add, Nat.one_mul] at bound
    have abs : ∀ (negative : Bool) (n : ℕ), (signed negative n).natAbs = n := by
      intro negative n
      cases negative <;> simp [signed]
    rw [abs, numDigits, Nat.length_toDigits_le_iff (by decide) (by decide)]
    exact bound.trans_le (Nat.pow_le_pow_right (by decide) (Nat.not_lt.mp short))
  · cases valued


theorem items_loadable {fuel : ℕ} (values : ∀ text value rest, scanValue fuel text = some (value, rest) → value.Loadable)
    (later : ∀ text items rest, scanItems fuel text = some (items, rest) → LoadableItems items)
    (text : List Char) (items : List Json) (rest : List Char)
    (read : scanItems (fuel + 1) text = some (items, rest)) : LoadableItems items := by
  simp only [scanItems, Option.bind_eq_bind, Option.bind_eq_some_iff] at read
  obtain ⟨⟨value, after⟩, first, read⟩ := read
  have loadable := values _ _ _ first
  split at read
  · obtain ⟨⟨others, last⟩, next, read⟩ := Option.bind_eq_some_iff.mp read
    cases read
    exact ⟨loadable, later _ _ _ next⟩
  · cases read
    exact ⟨loadable, trivial⟩
  · cases read

/-- A later member of the same name replaces an earlier one. -/
theorem fields_loadable {fuel : ℕ} (values : ∀ text value rest, scanValue fuel text = some (value, rest) → value.Loadable)
    (later : ∀ text fields rest, scanFields fuel text = some (fields, rest) →
      (fields.map Prod.fst).Nodup ∧ LoadableFields fields)
    (text : List Char) (fields : List (String × Json)) (rest : List Char)
    (read : scanFields (fuel + 1) text = some (fields, rest)) :
    (fields.map Prod.fst).Nodup ∧ LoadableFields fields := by
  simp only [scanFields] at read
  split at read
  · simp only [Option.bind_eq_bind, Option.bind_eq_some_iff] at read
    obtain ⟨⟨key, afterKey⟩, -, read⟩ := read
    split at read
    · simp only [Option.bind_eq_some_iff] at read
      obtain ⟨⟨value, afterValue⟩, first, read⟩ := read
      have loadable := values _ _ _ first
      split at read
      · obtain ⟨⟨others, last⟩, next, read⟩ := Option.bind_eq_some_iff.mp read
        obtain ⟨keys, members⟩ := later _ _ _ next
        cases read
        dsimp only
        split
        · exact ⟨keys, members⟩
        · rename_i absent
          refine ⟨List.nodup_cons.mpr ⟨?_, keys⟩, loadable, members⟩
          intro listed
          obtain ⟨other, member, same⟩ := List.mem_map.mp listed
          exact absent (List.any_eq_true.mpr ⟨other, member, decide_eq_true same⟩)
      · cases read
        exact ⟨List.nodup_singleton _, loadable, trivial⟩
      · cases read
    · cases read
  · cases read

theorem scan_loadable (fuel : ℕ) :
    (∀ text value rest, scanValue fuel text = some (value, rest) → value.Loadable) ∧
      (∀ text items rest, scanItems fuel text = some (items, rest) → LoadableItems items) ∧
      ∀ text fields rest, scanFields fuel text = some (fields, rest) →
        (fields.map Prod.fst).Nodup ∧ LoadableFields fields := by
  induction fuel with
  | zero => exact ⟨nofun, nofun, nofun⟩
  | succ fuel ih =>
    obtain ⟨values, items, fields⟩ := ih
    refine ⟨?_, items_loadable values items, fields_loadable values fields⟩
    intro text value rest read
    simp only [scanValue] at read
    split at read
    · split at read
      · cases read
        trivial
      · obtain ⟨⟨members, last⟩, inner, same⟩ := Option.map_eq_some_iff.mp read
        cases same
        exact items _ _ _ inner
    · split at read
      · cases read
        exact ⟨List.nodup_nil, trivial⟩
      · obtain ⟨⟨members, last⟩, inner, same⟩ := Option.map_eq_some_iff.mp read
        cases same
        exact fields _ _ _ inner
    all_goals
      obtain ⟨_, scanned, same⟩ := Option.map_eq_some_iff.mp read
      cases same
      first
        | trivial
        | exact short_of_scanInt scanned

/-- The keys of what `json.loads` returns are distinct, and its integers within the limit. -/
theorem loadable_of_loads {text : String} {value : Json} (read : loads text = some value) : value.Loadable := by
  simp only [loads, Option.bind_eq_bind, Option.bind_eq_some_iff] at read
  obtain ⟨⟨parsed, rest⟩, scanned, read⟩ := read
  split at read
  · cases read
    exact (scan_loadable _).1 _ _ _ scanned
  · cases read

end AlloraSdk.Source.Utils.Json
