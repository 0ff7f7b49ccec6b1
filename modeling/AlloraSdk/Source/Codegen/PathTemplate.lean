import AlloraSdk.Source.Codegen.RestClient

/-!
# What the generator makes of a path template

A template is literal text with variables in braces: a path of field names, and
perhaps the segments that it may match. Only a variable of one name is found and
replaced; of the others, one with a pattern does not compile, and one with dots is
evaluated as it stands.
-/

namespace AlloraSdk.Source.Codegen

inductive PathPart where
  | literal (c : Char)
  | field (path : List Text) (pattern : Option Text)
  deriving DecidableEq, Repr

/-- What stands between the braces. -/
def variableBody (path : List Text) (pattern : Option Text) : Text :=
  ['.'].intercalate path ++ pattern.elim [] ('=' :: ·)

/-- Letters, digits and underscores. -/
def IsName (text : Text) : Prop := text ≠ [] ∧ ∀ c ∈ text, isWord c = true

instance : DecidablePred IsName := fun text =>
  decidable_of_iff ((!text.isEmpty && text.all isWord) = true) (by simp [IsName])

namespace PathPart

def render : PathPart → Text
  | .literal c => [c]
  | .field path pattern => inBraces (variableBody path pattern)

/-- Text of a URL that needs no escape in a string; segments that are no format of
an f-string. -/
def WellFormed : PathPart → Prop
  | .literal c => c ∉ ['{', '}', '\x22', '\\', '\n']
  | .field path pattern => path ≠ [] ∧ (∀ name ∈ path, IsName name) ∧
      ∀ segments ∈ pattern, '{' ∉ segments ∧ '}' ∉ segments ∧
        segments.head? ∉ [none, some '=', some '!', some ':']

instance : DecidablePred WellFormed
  | .literal _ => inferInstanceAs (Decidable (_ ∉ _))
  | .field _ _ => inferInstanceAs (Decidable (_ ∧ _ ∧ _))

end PathPart

structure PathTemplate where
  parts : List PathPart
  formed : ∀ part ∈ parts, part.WellFormed

def renderParts (parts : List PathPart) : Text := parts.flatMap PathPart.render

/-- The name of a variable that is one name. -/
def simpleName : PathPart → Option Text
  | .literal _ => none
  | .field [] _ => none
  | .field [name] none => some name
  | .field [_] (some _) => none
  | .field (_ :: _ :: _) _ => none

section Characters

theorem not_isWord {c : Char} (word : isWord c = true) : c ≠ '{' ∧ c ≠ '}' ∧ c ≠ '.' ∧ c ≠ '=' := by
  refine ⟨?_, ?_, ?_, ?_⟩ <;> rintro rfl <;> exact absurd word (by decide)

variable {text rest word : Text}

theorem findParams_none (clean : '{' ∉ text) : findParams none (text ++ rest) = findParams none rest := by
  induction text with
  | nil => rfl
  | cons c text ih =>
    have here : c ≠ '{' := fun same => clean (same ▸ .head _)
    rw [List.cons_append, findParams, if_neg here]
    exact ih fun member => clean (.tail _ member)

theorem findParams_word (letters : ∀ c ∈ text, isWord c = true) :
    findParams (some word) (text ++ rest) = findParams (some (word ++ text)) rest := by
  induction text generalizing word with
  | nil => rw [List.nil_append, List.append_nil]
  | cons c text ih =>
    rw [List.cons_append, findParams, if_pos (letters c (.head _)), ih fun c member => letters c (.tail _ member)]
    rw [List.append_assoc, List.singleton_append]

theorem replaceAll_skip (old new xs ys : Text) : replaceAll old new xs.length (xs ++ ys) = replaceAll old new 0 ys := by
  induction xs with
  | nil => rfl
  | cons x xs ih => exact ih

theorem replaceAll_pass {old new : Text} (clean : '{' ∉ text) :
    replaceAll ('{' :: old) new 0 (text ++ rest) = text ++ replaceAll ('{' :: old) new 0 rest := by
  induction text with
  | nil => rfl
  | cons c text ih =>
    have here : c ≠ '{' := fun same => clean (same ▸ .head _)
    have other : ('{' :: old).isPrefixOf (c :: (text ++ rest)) = false := by
      simp [List.isPrefixOf, Ne.symm here]
    rw [List.cons_append, replaceAll, other, if_neg Bool.false_ne_true, List.cons_append]
    exact congrArg _ (ih fun member => clean (.tail _ member))

/-- Up to the closing brace. -/
theorem prefix_brace {xs ys : Text} (clean : '}' ∉ xs) (clean' : '}' ∉ ys) :
    xs ++ ['}'] <+: ys ++ '}' :: rest ↔ xs = ys := by
  induction xs generalizing ys with
  | nil =>
    cases ys with
    | nil => simp
    | cons y ys =>
      have here : y ≠ '}' := fun same => clean' (same ▸ .head _)
      simp [Ne.symm here]
  | cons x xs ih =>
    have here : x ≠ '}' := fun same => clean (same ▸ .head _)
    cases ys with
    | nil => simp [here]
    | cons y ys =>
      rw [List.cons_append, List.cons_append, List.cons_prefix_cons, List.cons.injEq,
        ih (fun member => clean (.tail _ member)) fun member => clean' (.tail _ member)]

theorem parseFString_text (clean : '}' ∉ text) :
    parseFString (some word) (text ++ rest) = parseFString (some (word ++ text)) rest := by
  induction text generalizing word with
  | nil => rw [List.nil_append, List.append_nil]
  | cons c text ih =>
    have here : c ≠ '}' := fun same => clean (same ▸ .head _)
    rw [List.cons_append, parseFString, if_neg here, ih fun member => clean (.tail _ member)]
    rw [List.append_assoc, List.singleton_append]

end Characters

/-! ## Names -/

section Names

theorem isWord_toLower {c : Char} (word : isWord c = true) : isWord c.toLower = true := by
  unfold Char.toLower
  split
  · rename_i upper
    have low : 65 ≤ c.toNat := by simpa [UInt32.le_iff_toNat_le] using upper.1
    have high : c.toNat ≤ 90 := by simpa [UInt32.le_iff_toNat_le] using upper.2
    refine Bool.or_eq_true_iff.mpr (.inl (Bool.or_eq_true_iff.mpr (.inl (Bool.or_eq_true_iff.mpr (.inr ?_)))))
    refine Bool.and_eq_true_iff.mpr ⟨decide_eq_true ?_, decide_eq_true ?_⟩
    all_goals
      simp [UInt32.le_iff_toNat_le, UInt32.toNat_add]
      omega
  · exact word

theorem mem_splitCapitalized {run : Bool} {text : Text} : ∀ c ∈ splitCapitalized run text, c = '_' ∨ c ∈ text := by
  fun_induction splitCapitalized run text with
  | case1 => simp
  | case2 run c rest lower ih => grind
  | case3 run c other upper lower more here ih => grind
  | case4 run c other upper lower more here ih => grind
  | case5 run c other last ih => grind
  | case6 run c other => grind

theorem mem_splitLowerUpper {text : Text} : ∀ c ∈ splitLowerUpper text, c = '_' ∨ c ∈ text := by
  fun_induction splitLowerUpper text with
  | case1 => simp
  | case2 c => simp
  | case3 c upper rest here ih => grind
  | case4 c upper rest here ih => grind

theorem splitCapitalized_ne {run : Bool} {text : Text} (nonempty : text ≠ []) : splitCapitalized run text ≠ [] := by
  fun_cases splitCapitalized run text <;> simp_all

theorem splitLowerUpper_ne {text : Text} (nonempty : text ≠ []) : splitLowerUpper text ≠ [] := by
  fun_cases splitLowerUpper text <;> simp_all

theorem camelToSnake_isName {text : Text} (name : IsName text) : IsName (camelToSnake text) := by
  obtain ⟨nonempty, letters⟩ := name
  refine ⟨fun empty => ?_, fun c member => ?_⟩
  · exact splitLowerUpper_ne (splitCapitalized_ne nonempty) (List.map_eq_nil_iff.mp empty)
  · obtain ⟨d, from_split, rfl⟩ := List.mem_map.mp member
    rcases mem_splitLowerUpper d from_split with rfl | inner
    · decide
    · rcases mem_splitCapitalized d inner with rfl | original
      · decide
      · exact isWord_toLower (letters d original)

end Names

/-! ## Variables -/

section Variables

variable {path : List Text} {pattern : Option Text} {part : PathPart} {name rest : Text}

/-- A variable is one name, or a name and then a dot or an equals sign. -/
theorem variableBody_cases (formed : (PathPart.field path pattern).WellFormed) :
    (∃ name, path = [name] ∧ pattern = none ∧ IsName name) ∨
      simpleName (.field path pattern) = none ∧ ∃ name d tail, (∀ c ∈ name, isWord c = true) ∧
        (d = '.' ∨ d = '=') ∧ variableBody path pattern = name ++ d :: tail := by
  obtain ⟨nonempty, names, -⟩ := formed
  cases path with
  | nil => exact absurd rfl nonempty
  | cons name more =>
    have letters := (names name (.head _)).2
    cases more with
    | nil =>
      cases pattern with
      | none => exact .inl ⟨name, rfl, rfl, names name (.head _)⟩
      | some segments => exact .inr ⟨rfl, name, '=', segments, letters, .inr rfl, by simp [variableBody]⟩
    | cons next more =>
      refine .inr ⟨rfl, name, '.', ['.'].intercalate (next :: more) ++ pattern.elim [] ('=' :: ·), letters,
        .inl rfl, ?_⟩
      simp [variableBody, List.intercalate]

theorem mem_intercalate {c : Char} (member : c ∈ ['.'].intercalate path) : c = '.' ∨ ∃ name ∈ path, c ∈ name := by
  induction path with
  | nil => simp [List.intercalate] at member
  | cons name path ih =>
    cases path with
    | nil => exact .inr ⟨name, .head _, by simpa [List.intercalate] using member⟩
    | cons next path =>
      have parts : c ∈ name ∨ c = '.' ∨ c ∈ ['.'].intercalate (next :: path) := by
        simpa [List.intercalate] using member
      rcases parts with here | dot | later
      · exact .inr ⟨name, .head _, here⟩
      · exact .inl dot
      · exact (ih later).imp id fun ⟨name, among, inside⟩ => ⟨name, .tail _ among, inside⟩

theorem variableBody_clean (formed : (PathPart.field path pattern).WellFormed) :
    '{' ∉ variableBody path pattern ∧ '}' ∉ variableBody path pattern := by
  obtain ⟨-, names, segments⟩ := formed
  have inside : ∀ c ∈ ['.'].intercalate path, c ≠ '{' ∧ c ≠ '}' := by
    intro c member
    rcases mem_intercalate member with rfl | ⟨name, among, letter⟩
    · decide
    · exact ⟨(not_isWord ((names name among).2 c letter)).1, (not_isWord ((names name among).2 c letter)).2.1⟩
  have outside : '{' ∉ pattern.elim [] ('=' :: ·) ∧ '}' ∉ pattern.elim [] ('=' :: ·) := by
    cases pattern with
    | none => simp
    | some segs => simpa using ⟨(segments segs rfl).1, (segments segs rfl).2.1⟩
  refine ⟨fun member => ?_, fun member => ?_⟩
  · exact (List.mem_append.mp member).elim (fun here => (inside _ here).1 rfl) outside.1
  · exact (List.mem_append.mp member).elim (fun here => (inside _ here).2 rfl) outside.2

/-- The variables of one name, in their order. -/
theorem findParams_part (formed : part.WellFormed) :
    findParams none (part.render ++ rest) = (simpleName part).toList ++ findParams none rest := by
  cases part with
  | literal c =>
    refine findParams_none fun member => ?_
    exact formed (List.mem_singleton.mp member ▸ .head _)
  | field path pattern =>
    have clean := (variableBody_clean formed).1
    rcases variableBody_cases formed with
      ⟨name, rfl, rfl, nonempty, letters⟩ | ⟨compound, name, d, tail, letters, sep, body⟩
    · have text : variableBody [name] none = name := by simp [variableBody, List.intercalate]
      simp only [PathPart.render, inBraces, text, List.cons_append, findParams, if_pos, List.append_assoc]
      rw [findParams_word letters]
      simp [findParams, nonempty, simpleName, show isWord '}' = false from rfl]
    · rw [body] at clean
      have after : '{' ∉ tail := fun member => clean (List.mem_append_right _ (.tail _ member))
      have mark : isWord d = false ∧ d ≠ '}' ∧ d ≠ '{' := by
        rcases sep with rfl | rfl <;> decide
      simp only [PathPart.render, inBraces, body, List.cons_append, findParams, if_pos, List.append_assoc]
      rw [findParams_word letters, List.nil_append, findParams, mark.1, if_neg Bool.false_ne_true,
        if_neg fun both => mark.2.1 both.1, if_neg mark.2.2, findParams_none after, compound]
      exact findParams_none (by decide)

theorem findParams_renderParts {parts : List PathPart} (formed : ∀ part ∈ parts, part.WellFormed) :
    findParams none (renderParts parts) = parts.filterMap simpleName := by
  induction parts with
  | nil => rfl
  | cons part parts ih =>
    have rest := ih fun part member => formed part (.tail _ member)
    unfold renderParts at rest ⊢
    rw [List.flatMap_cons, findParams_part (formed part (.head _)), rest, List.filterMap_cons]
    cases simpleName part <;> rfl

end Variables

/-! ## The replacement -/

/-- `{param}` after its name was replaced. -/
def replacePart (param : Text) (part : PathPart) : PathPart :=
  if simpleName part = some param then .field ["message".toList, camelToSnake param] none else part

def preparePart (part : PathPart) : PathPart :=
  match simpleName part with
  | some param => .field ["message".toList, camelToSnake param] none
  | none => part

section Replacement

variable {part : PathPart} {parts : List PathPart} {param rest : Text} {params : List Text}

theorem messageField_eq : messageField param = ['.'].intercalate ["message".toList, camelToSnake param] := by
  have dot : "message.".toList = "message".toList ++ ['.'] := by simp
  have whole : messageField param = "message.".toList ++ camelToSnake param := rfl
  rw [whole, dot, List.intercalate_cons_cons, List.intercalate_singleton]

theorem simpleName_some (simple : simpleName part = some param) : part = .field [param] none := by
  match part, simple with
  | .field [name] none, simple => rw [Option.some.inj simple]

theorem replaceAll_other {old new body : Text} (clean : '}' ∉ old) (clean' : '}' ∉ body) (safe : '{' ∉ body)
    (other : old ≠ body) :
    replaceAll (inBraces old) new 0 (inBraces body ++ rest) = inBraces body ++ replaceAll (inBraces old) new 0 rest := by
  have differs : (inBraces old).isPrefixOf ('{' :: (body ++ ['}'] ++ rest)) = false := by
    rw [Bool.eq_false_iff, ne_eq, List.isPrefixOf_iff_prefix, inBraces, List.cons_prefix_cons, List.append_assoc]
    exact fun both => other ((prefix_brace clean clean').mp both.2)
  have text : '{' ∉ body ++ ['}'] := fun member =>
    (List.mem_append.mp member).elim safe fun last => absurd last (by decide)
  have whole : inBraces body = '{' :: (body ++ ['}']) := rfl
  rw [whole, List.cons_append, replaceAll, differs, if_neg Bool.false_ne_true]
  exact congrArg (List.cons '{') (replaceAll_pass text)

theorem replaceAll_match {old new : Text} :
    replaceAll (inBraces old) new 0 (inBraces old ++ rest) = new ++ replaceAll (inBraces old) new 0 rest := by
  have begins : (inBraces old).isPrefixOf ('{' :: (old ++ ['}'] ++ rest)) = true := by
    rw [List.isPrefixOf_iff_prefix, ← List.cons_append]
    exact List.prefix_append _ _
  have skipped : replaceAll (inBraces old) new (old ++ ['}']).length (old ++ ['}'] ++ rest) =
      replaceAll (inBraces old) new 0 rest := replaceAll_skip _ _ _ _
  nth_rewrite 2 [inBraces]
  rw [List.cons_append, replaceAll, begins, if_pos rfl]
  exact congrArg _ skipped

theorem replaceAll_part (formed : part.WellFormed) (name : IsName param) :
    replaceAll (inBraces param) (inBraces (messageField param)) 0 (part.render ++ rest) =
      (replacePart param part).render ++ replaceAll (inBraces param) (inBraces (messageField param)) 0 rest := by
  cases part with
  | literal c =>
    refine replaceAll_pass fun member => ?_
    exact formed (List.mem_singleton.mp member ▸ .head _)
  | field path pattern =>
    by_cases simple : simpleName (.field path pattern) = some param
    · have same := simpleName_some simple
      have shown : (PathPart.field [param] none).render = inBraces param := by
        simp [PathPart.render, variableBody, List.intercalate]
      have shown' : (replacePart param (PathPart.field [param] none)).render = inBraces (messageField param) := by
        have named : simpleName (.field [param] none) = some param := rfl
        rw [replacePart, if_pos named, messageField_eq, PathPart.render, variableBody, Option.elim_none, List.append_nil]
      rw [same, shown, shown']
      exact replaceAll_match
    · have kept : replacePart param (.field path pattern) = .field path pattern := if_neg simple
      have clean := variableBody_clean formed
      have last : '}' ∉ param := fun member => (not_isWord (name.2 _ member)).2.1 rfl
      rw [kept]
      refine replaceAll_other last clean.2 clean.1 fun same => ?_
      rcases variableBody_cases formed with ⟨other, rfl, rfl, -⟩ | ⟨-, first, d, more, -, mark, body⟩
      · exact simple (by simpa [variableBody, List.intercalate, simpleName] using same.symm)
      · have letter : isWord d = true := name.2 d (by simp [same, body])
        rcases mark with rfl | rfl
        · exact absurd letter (by decide)
        · exact absurd letter (by decide)

theorem replacePart_formed (formed : part.WellFormed) (name : IsName param) : (replacePart param part).WellFormed := by
  unfold replacePart
  split
  · refine ⟨List.cons_ne_nil _ _, fun other among => ?_, fun segments absent => nomatch absent⟩
    rcases List.mem_cons.mp among with rfl | among
    · decide
    · rw [List.mem_singleton.mp among]
      exact camelToSnake_isName name
  · exact formed

theorem replaceAll_renderParts (formed : ∀ part ∈ parts, part.WellFormed) (name : IsName param) :
    replaceAll (inBraces param) (inBraces (messageField param)) 0 (renderParts parts) =
      renderParts (parts.map (replacePart param)) := by
  induction parts with
  | nil => rfl
  | cons part parts ih =>
    have rest := ih fun part member => formed part (.tail _ member)
    unfold renderParts at rest ⊢
    rw [List.flatMap_cons, replaceAll_part (formed part (.head _)) name, rest, List.map_cons, List.flatMap_cons]

/-- Replacing one parameter after the other. -/
theorem replaced_parts (formed : ∀ part ∈ parts, part.WellFormed) (names : ∀ param ∈ params, IsName param) :
    params.foldl (fun path param => replaceAll (inBraces param) (inBraces (messageField param)) 0 path)
        (renderParts parts) =
      renderParts (parts.map fun part => params.foldl (fun part param => replacePart param part) part) := by
  induction params generalizing parts with
  | nil => simp
  | cons param params ih =>
    rw [List.foldl_cons, replaceAll_renderParts formed (names param (.head _)),
      ih ?_ fun p member => names p (.tail _ member)]
    · rw [List.map_map]
      rfl
    · intro part member
      obtain ⟨original, among, rfl⟩ := List.mem_map.mp member
      exact replacePart_formed (formed original among) (names param (.head _))

/-- A part that is no simple variable stays as it is, also the result of a replacement. -/
theorem foldl_replacePart_none (compound : simpleName part = none) :
    params.foldl (fun part param => replacePart param part) part = part := by
  induction params with
  | nil => rfl
  | cons param params ih =>
    have kept : replacePart param part = part := if_neg (by rw [compound]; nofun)
    rw [List.foldl_cons, kept, ih]

theorem foldl_replacePart (listed : ∀ param, simpleName part = some param → param ∈ params) :
    params.foldl (fun part param => replacePart param part) part = preparePart part := by
  induction params with
  | nil =>
    have compound : simpleName part = none := Option.eq_none_iff_forall_not_mem.mpr fun param simple =>
      absurd (listed param simple) List.not_mem_nil
    rw [List.foldl_nil, preparePart, compound]
  | cons param params ih =>
    rw [List.foldl_cons]
    by_cases simple : simpleName part = some param
    · rw [replacePart, if_pos simple, preparePart, simple]
      exact foldl_replacePart_none rfl
    · rw [replacePart, if_neg simple]
      refine ih fun other same => ?_
      rcases List.mem_cons.mp (listed other same) with rfl | later
      · exact absurd same simple
      · exact later

theorem simpleName_isName (formed : part.WellFormed) (simple : simpleName part = some param) : IsName param := by
  rw [simpleName_some simple] at formed
  exact formed.2.1 param (.head _)

/-- The URL of the generated method. -/
theorem urlPath_of (formed : ∀ part ∈ parts, part.WellFormed) {binding : HttpBinding}
    (path : binding.path = renderParts parts) (found : binding.pathParams = parts.filterMap simpleName) :
    urlPath binding = renderParts (parts.map preparePart) := by
  unfold urlPath
  rw [path, found, replaced_parts formed ?_]
  · refine congrArg renderParts (List.map_congr_left fun part member => ?_)
    exact foldl_replacePart fun param simple => List.mem_filterMap.mpr ⟨part, member, simple⟩
  · intro param member
    obtain ⟨part, among, simple⟩ := List.mem_filterMap.mp member
    exact simpleName_isName (formed part among) simple

theorem preparePart_formed (formed : part.WellFormed) : (preparePart part).WellFormed := by
  unfold preparePart
  cases simple : simpleName part with
  | none => exact formed
  | some param => simpa [replacePart, simple] using replacePart_formed formed (simpleName_isName formed simple)

end Replacement

/-! ## The f-string -/

def pieceOf : PathPart → Option Piece
  | .literal c => some (.char c)
  | .field path none => some (.expression path)
  | .field _ (some _) => none

section Strings

variable {part : PathPart} {path names : List Text} {text rest : Text}

theorem parseExpression_names (nonempty : path ≠ []) (all : ∀ name ∈ path, IsName name) :
    parseExpression (['.'].intercalate path) = some path := by
  have dots : ∀ name ∈ path, '.' ∉ name := fun name member dot => (not_isWord ((all name member).2 _ dot)).2.2.1 rfl
  have good : path.all (fun name => !name.isEmpty && name.all isWord) = true := by
    simp only [List.all_eq_true, Bool.and_eq_true, Bool.not_eq_true', List.isEmpty_eq_false_iff]
    exact all
  unfold parseExpression
  rw [List.splitOn_intercalate '.' dots nonempty]
  exact if_pos good

theorem parseExpression_letters (parsed : parseExpression text = some names) :
    ∀ c ∈ text, c = '.' ∨ isWord c = true := by
  intro c member
  have joined : ['.'].intercalate (text.splitOn '.') = text := List.intercalate_splitOn '.'
  rw [← joined] at member
  rcases mem_intercalate member with dot | ⟨name, among, letter⟩
  · exact .inl dot
  · change (if ((text.splitOn '.').all fun name => !name.isEmpty && name.all isWord) = true
      then some (text.splitOn '.') else none) = some names at parsed
    cases good : (text.splitOn '.').all fun name => !name.isEmpty && name.all isWord with
    | false => simp [good] at parsed
    | true =>
      rw [good, if_pos rfl, Option.some.injEq] at parsed
      have valid := List.all_eq_true.mp good name (parsed.symm ▸ among)
      exact .inr (List.all_eq_true.mp (Bool.and_eq_true_iff.mp valid).2 c letter)

theorem parseFString_part (formed : part.WellFormed) :
    parseFString none (part.render ++ rest) =
      (pieceOf part).bind fun piece => (parseFString none rest).map (piece :: ·) := by
  cases part with
  | literal c =>
    have other : c ≠ '{' ∧ c ≠ '}' := by
      refine ⟨?_, ?_⟩ <;> rintro rfl
      · exact formed (by simp)
      · exact formed (by simp)
    simp [PathPart.render, parseFString, other, pieceOf]
  | field path pattern =>
    have clean := (variableBody_clean formed).2
    rw [PathPart.render, inBraces, List.cons_append, parseFString, if_pos rfl, List.append_assoc,
      parseFString_text clean, List.nil_append, List.singleton_append, parseFString, if_pos rfl]
    cases pattern with
    | none =>
      have parsed := parseExpression_names formed.1 formed.2.1
      simp only [variableBody, Option.elim, List.append_nil, parsed, pieceOf, bind, Option.bind, pure]
      cases parseFString none rest <;> rfl
    | some segments =>
      have failed : parseExpression (variableBody path (some segments)) = none := by
        refine Option.eq_none_iff_forall_not_mem.mpr fun names parsed => ?_
        have letter := parseExpression_letters parsed '=' (by simp [variableBody])
        exact absurd letter (by decide)
      rw [failed]
      rfl

end Strings

end AlloraSdk.Source.Codegen
