import Mathlib.Data.List.ChainOfFn
import Mathlib.Data.List.TakeWhile

/-!
# Matching a fixed pattern at the start of a text

A matcher reads characters from the front of a text and returns what it read.
It never backtracks: it says the same as a regular expression whose
alternatives differ in their first character and whose runs of digits end at a
literal that is no digit.
-/

namespace AlloraSdk.Logic

abbrev Matcher (α : Type) := StateT (List Char) Option α

namespace Matcher

def literal (expected : List Char) : Matcher Unit :=
  StateT.mk fun text => (text.dropPrefix? expected).map fun rest => ((), rest)

/-- A literal inside a group. -/
def keep (expected : List Char) : Matcher (List Char) := do
  literal expected
  pure expected

/-- One of the characters in brackets. -/
def oneOf (choices : List Char) : Matcher Char :=
  StateT.mk fun
    | [] => none
    | c :: rest => if choices.contains c then some (c, rest) else none

/-- `\d\x7bn\x7d`. -/
def digits (n : ℕ) : Matcher (List Char) :=
  StateT.mk fun text =>
    if n ≤ text.length ∧ (text.take n).all Char.isDigit then some (text.take n, text.drop n) else none

/-- `\d+`. -/
def digitRun : Matcher (List Char) :=
  StateT.mk fun text =>
    if text.takeWhile Char.isDigit = [] then none
    else some (text.takeWhile Char.isDigit, text.dropWhile Char.isDigit)

section Runs

variable {expected read rest : List Char} {c : Char}

@[simp] theorem literal_run : (literal expected).run (expected ++ rest) = some ((), rest) := by
  simp [literal, List.dropPrefix?_append_of_beq]

@[simp] theorem literal_char_run : (literal [c]).run (c :: rest) = some ((), rest) :=
  literal_run

/-- A literal reads itself and nothing else. -/
theorem literal_run_eq_none (differs : ∀ rest, read ≠ expected ++ rest) :
    (literal expected).run read = none := by
  cases found : read.dropPrefix? expected with
  | none => simp [literal, found]
  | some rest =>
    obtain ⟨front, same, equal⟩ := List.dropPrefix?_eq_some_iff.mp found
    exact absurd (eq_of_beq equal ▸ same) (differs rest)

/-- Past a common front, one character that differs is enough. -/
theorem literal_run_differs (front : List Char) {d : Char} (differs : c ≠ d) :
    (literal (front ++ c :: expected)).run (front ++ d :: rest) = none := by
  refine literal_run_eq_none fun tail same => ?_
  rw [List.append_assoc, List.append_cancel_left_eq] at same
  exact differs (List.cons_eq_cons.mp same).1.symm

@[simp] theorem keep_run : (keep expected).run (expected ++ rest) = some (expected, rest) := by
  simp [keep]

theorem keep_run_differs {d : Char} (differs : c ≠ d) : (keep (c :: expected)).run (d :: rest) = none := by
  have literal : (literal (c :: expected)).run (d :: rest) = none :=
    literal_run_differs [] differs
  simp [keep, literal]

theorem oneOf_run {choices : List Char} (chosen : choices.contains c = true) :
    (oneOf choices).run (c :: rest) = some (c, rest) := by
  simp only [oneOf, StateT.run_mk, chosen, if_true]

theorem digits_run {n : ℕ} (own : ∀ c ∈ read, c.isDigit = true) (length : read.length = n) :
    (digits n).run (read ++ rest) = some (read, rest) := by
  have taken : (read ++ rest).take n = read := by rw [← length, List.take_left]
  have left : (read ++ rest).drop n = rest := by rw [← length, List.drop_left]
  simp only [digits, StateT.run_mk, taken, left]
  exact if_pos ⟨by simp [length], List.all_eq_true.mpr own⟩

theorem digitRun_run (own : ∀ c ∈ read, c.isDigit = true) (nonempty : read ≠ [])
    (stop : c.isDigit = false) : digitRun.run (read ++ c :: rest) = some (read, c :: rest) := by
  have taken : (read ++ c :: rest).takeWhile Char.isDigit = read := by
    rw [List.takeWhile_append_of_pos own, List.takeWhile_cons_of_neg (by simp [stop]), List.append_nil]
  have left : (read ++ c :: rest).dropWhile Char.isDigit = c :: rest := by
    rw [List.dropWhile_append_of_pos own, List.dropWhile_cons_of_neg (by simp [stop])]
  simp only [digitRun, StateT.run_mk, taken, left]
  exact if_neg nonempty

theorem either_run_left {α : Type} {first second : Matcher α} {text : List Char} {result : α × List Char}
    (found : first.run text = some result) : (first <|> second).run text = some result := by
  change (first.run text <|> second.run text) = some result
  rw [found]
  rfl

theorem either_run_right {α : Type} {first second : Matcher α} {text : List Char}
    (absent : first.run text = none) : (first <|> second).run text = second.run text := by
  change (first.run text <|> second.run text) = second.run text
  rw [absent]
  rfl

end Runs

/-! ## What was read -/

section Reads

variable {α β : Type} {m : Matcher α} {text rest : List Char} {value : α} {j k : ℕ}

theorem literal_reads {expected : List Char} {value : Unit}
    (found : (literal expected).run text = some (value, rest)) : text = expected ++ rest := by
  cases dropped : text.dropPrefix? expected with
  | none => simp [literal, dropped] at found
  | some left =>
    obtain ⟨front, rfl, equal⟩ := List.dropPrefix?_eq_some_iff.mp dropped
    obtain rfl := eq_of_beq equal
    simp only [literal_run, Option.some.injEq, Prod.mk.injEq] at found
    rw [found.2]

theorem digitRun_reads {read : List Char} (found : digitRun.run text = some (read, rest)) :
    text = read ++ rest ∧ ∀ c ∈ read, c.isDigit = true := by
  simp only [digitRun, StateT.run_mk] at found
  split at found
  · cases found
  · cases found
    exact ⟨(List.takeWhile_append_dropWhile).symm, fun c member => List.mem_takeWhile_imp member⟩

/-- `m` reads `k` characters from the front of the text. -/
def Consumes (m : Matcher α) (k : ℕ) : Prop :=
  ∀ text value rest, m.run text = some (value, rest) → ∃ front, text = front ++ rest ∧ front.length = k

theorem consumes_pure (value : α) : Consumes (pure value : Matcher α) 0 := by
  intro text value' rest found
  cases found
  exact ⟨[], rfl, rfl⟩

theorem consumes_literal (expected : List Char) : Consumes (literal expected) expected.length :=
  fun _ _ _ found => ⟨expected, literal_reads found, rfl⟩

theorem consumes_digits (n : ℕ) : Consumes (digits n) n := by
  intro text value rest found
  simp only [digits, StateT.run_mk] at found
  split at found
  · rename_i enough
    cases found
    exact ⟨text.take n, (List.take_append_drop n text).symm, List.length_take_of_le enough.1⟩
  · cases found

theorem Consumes.bind {f : α → Matcher β} (first : Consumes m j) (second : ∀ a, Consumes (f a) k) :
    Consumes (m >>= f) (j + k) := by
  intro text value rest found
  rw [StateT.run_bind] at found
  obtain ⟨⟨a, middle⟩, one, two⟩ := Option.bind_eq_some_iff.mp found
  obtain ⟨front, rfl, length⟩ := first _ _ _ one
  obtain ⟨front', rfl, length'⟩ := second a _ _ _ two
  exact ⟨front ++ front', (List.append_assoc ..).symm, by rw [List.length_append, length, length']⟩

end Reads

end Matcher

end AlloraSdk.Logic
