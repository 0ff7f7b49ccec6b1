import Mathlib.Data.List.Nodup

/-!
# A dict with text keys

Entries in the order of their first insertion. An assignment to a key that is
there keeps its place.
-/

namespace AlloraSdk.Source.Utils

structure PyDict (α : Type) where
  entries : List (String × α)
  distinct : (entries.map Prod.fst).Nodup

namespace PyDict

variable {α : Type} {dict : PyDict α} {key other : String} {value value' : α}

def empty : PyDict α := ⟨[], List.nodup_nil⟩

def keys (dict : PyDict α) : List String := dict.entries.map Prod.fst

def get? (dict : PyDict α) (key : String) : Option α := dict.entries.lookup key

/-- Change the values, and not the keys. -/
def map (dict : PyDict α) (f : String → α → α) : PyDict α where
  entries := dict.entries.map fun entry => (entry.1, f entry.1 entry.2)
  distinct := by
    rw [List.map_map]
    exact dict.distinct

/-- `dict[key] = f(dict[key])`, when it is there. -/
def modify (dict : PyDict α) (key : String) (f : α → α) : PyDict α :=
  dict.map fun other value => if other = key then f value else value

/-- `dict.pop(key, None)`. -/
def pop (dict : PyDict α) (key : String) : PyDict α where
  entries := dict.entries.filter fun entry => decide (entry.1 ≠ key)
  distinct := dict.distinct.sublist (List.filter_sublist.map _)

def filter (dict : PyDict α) (keep : α → Bool) : PyDict α where
  entries := dict.entries.filter fun entry => keep entry.2
  distinct := dict.distinct.sublist (List.filter_sublist.map _)

def append (dict : PyDict α) (key : String) (value : α) (absent : key ∉ dict.keys) : PyDict α where
  entries := dict.entries ++ [(key, value)]
  distinct := by
    rw [List.map_append, List.nodup_append]
    refine ⟨dict.distinct, by simp, ?_⟩
    intro old member new same
    simp only [List.map_cons, List.map_nil, List.mem_singleton] at same
    rw [same]
    exact fun equal => absent (equal ▸ member)

/-- `dict[key] = value`. -/
def set (dict : PyDict α) (key : String) (value : α) : PyDict α :=
  if present : key ∈ dict.keys then dict.modify key fun _ => value else dict.append key value present

theorem mem_keys : key ∈ dict.keys ↔ ∃ value, (key, value) ∈ dict.entries := by
  simp [keys]

/-- A key has one value. -/
theorem value_unique (first : (key, value) ∈ dict.entries) (second : (key, value') ∈ dict.entries) :
    value = value' := by
  obtain ⟨entries, distinct⟩ := dict
  induction entries with
  | nil => cases first
  | cons entry rest ih =>
    obtain ⟨absent, tail⟩ := List.nodup_cons.mp distinct
    rcases List.mem_cons.mp first with same | later
    · subst same
      rcases List.mem_cons.mp second with same | later
      · cases same
        rfl
      · exact absurd (List.mem_map_of_mem later) absent
    · rcases List.mem_cons.mp second with same | later'
      · subst same
        exact absurd (List.mem_map_of_mem later) absent
      · exact ih tail later later'

theorem get?_eq_some : dict.get? key = some value ↔ (key, value) ∈ dict.entries := by
  constructor
  · intro found
    obtain ⟨front, back, same, -⟩ := List.lookup_eq_some_iff.mp found
    rw [same]
    exact List.mem_append_right _ (.head _)
  · intro member
    cases found : dict.get? key with
    | none =>
      have missing := List.lookup_eq_none_iff.mp found _ member
      simp at missing
    | some value' =>
      obtain ⟨front, back, same, -⟩ := List.lookup_eq_some_iff.mp found
      have there : (key, value') ∈ dict.entries := by
        rw [same]
        exact List.mem_append_right _ (.head _)
      rw [value_unique member there]

theorem mem_pop : (other, value) ∈ (dict.pop key).entries ↔ (other, value) ∈ dict.entries ∧ other ≠ key := by
  simp [pop]

theorem mem_modify {f : α → α} : (other, value) ∈ (dict.modify key f).entries ↔
    ∃ old, (other, old) ∈ dict.entries ∧ value = if other = key then f old else old := by
  simp only [modify, map, List.mem_map, Prod.mk.injEq, Prod.exists]
  constructor
  · rintro ⟨_, old, member, rfl, rfl⟩
    exact ⟨old, member, rfl⟩
  · rintro ⟨old, member, rfl⟩
    exact ⟨other, old, member, rfl, rfl⟩

theorem exists_modify {f : α → α} {P : α → Prop} :
    (∃ value, (other, value) ∈ (dict.modify key f).entries ∧ P value) ↔
      ∃ old, (other, old) ∈ dict.entries ∧ P (if other = key then f old else old) := by
  simp only [mem_modify]
  constructor
  · rintro ⟨_, ⟨old, member, rfl⟩, holds⟩
    exact ⟨old, member, holds⟩
  · rintro ⟨old, member, holds⟩
    exact ⟨_, ⟨old, member, rfl⟩, holds⟩

theorem mem_set : (other, value) ∈ (dict.set key value').entries ↔
    if other = key then value = value' else (other, value) ∈ dict.entries := by
  unfold set
  by_cases present : key ∈ dict.keys
  · rw [dif_pos present, mem_modify]
    by_cases same : other = key
    · subst same
      obtain ⟨old, member⟩ := mem_keys.mp present
      rw [if_pos rfl]
      exact ⟨fun ⟨_, _, equal⟩ => by simpa using equal, fun equal => ⟨old, member, by simpa using equal⟩⟩
    · simp [same]
  · rw [dif_neg present]
    by_cases same : other = key
    · subst same
      have absent : (other, value) ∉ dict.entries := fun member => present (mem_keys.mpr ⟨value, member⟩)
      simp [append, absent]
    · simp [append, same]

theorem mem_keys_set : other ∈ (dict.set key value').keys ↔ other = key ∨ other ∈ dict.keys := by
  simp only [mem_keys, mem_set]
  by_cases same : other = key
  · simp [same]
  · simp [same]

/-- A new key is the last one. -/
theorem set_of_absent (absent : key ∉ dict.keys) :
    (dict.set key value).entries = dict.entries ++ [(key, value)] := by
  rw [set, dif_neg absent]
  rfl

/-- A key that is there keeps its place, and the others their values. -/
theorem set_of_present {front back : List (String × α)} (split : dict.entries = front ++ (key, value) :: back) :
    (dict.set key value').entries = front ++ (key, value') :: back := by
  have present : key ∈ dict.keys := mem_keys.mpr ⟨value, by simp [split]⟩
  have distinct := dict.distinct
  rw [split, List.map_append, List.map_cons, List.nodup_middle, List.nodup_cons, ← List.map_append] at distinct
  have others : ∀ entries : List (String × α), (∀ entry ∈ entries, entry ∈ front ++ back) →
      (entries.map fun entry => (entry.1, if entry.1 = key then value' else entry.2)) = entries := by
    intro entries among
    refine (List.map_congr_left fun entry member => ?_).trans (List.map_id entries)
    have known : entry.1 ∈ (front ++ back).map Prod.fst := List.mem_map_of_mem (among entry member)
    have other : entry.1 ≠ key := fun same => distinct.1 (same ▸ known)
    rw [if_neg other]
    rfl
  rw [set, dif_pos present]
  change dict.entries.map (fun entry => (entry.1, if entry.1 = key then value' else entry.2)) = _
  rw [split, List.map_append, List.map_cons, others front fun _ => List.mem_append_left back,
    others back fun _ => List.mem_append_right front, if_pos rfl]

end PyDict

end AlloraSdk.Source.Utils
