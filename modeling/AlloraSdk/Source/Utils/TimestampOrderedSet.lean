import Mathlib.Data.List.Nodup
import Mathlib.Data.Int.Notation

/-!
# A set ordered by insertion time

Source: utils/timestamp_ordered_set.py. An OrderedDict of values with their
timestamps, in microseconds.
-/

namespace AlloraSdk.Source.Utils

structure TimestampOrderedSet where
  data : List (ℤ × ℤ)
  /-- The keys of a dict. -/
  distinct : (data.map Prod.fst).Nodup

namespace TimestampOrderedSet

def empty : TimestampOrderedSet where
  data := []
  distinct := by simp

/-- `del self._data[value]`, when it is there. -/
def discard (set : TimestampOrderedSet) (value : ℤ) : TimestampOrderedSet where
  data := set.data.filter fun entry => decide (entry.1 ≠ value)
  distinct := set.distinct.sublist (List.filter_sublist.map _)

/-- Add a value, or move it to the end with the new timestamp. -/
def add (set : TimestampOrderedSet) (value timestamp : ℤ) : TimestampOrderedSet where
  data := (set.discard value).data ++ [(value, timestamp)]
  distinct := by
    rw [List.map_append, List.nodup_append]
    refine ⟨(set.discard value).distinct, by simp, ?_⟩
    intro old member new same
    obtain ⟨entry, kept, rfl⟩ := List.mem_map.mp member
    have other := of_decide_eq_true (List.mem_filter.mp kept).2
    simp only [List.map_cons, List.map_nil, List.mem_singleton] at same
    rwa [same]

def contains (set : TimestampOrderedSet) (value : ℤ) : Bool := set.data.any fun entry => entry.1 = value

instance : Membership ℤ TimestampOrderedSet := ⟨fun set value => set.contains value = true⟩

instance (value : ℤ) (set : TimestampOrderedSet) : Decidable (value ∈ set) :=
  inferInstanceAs (Decidable (set.contains value = true))

def prune (set : TimestampOrderedSet) (cutoff : ℤ) : TimestampOrderedSet where
  data := set.data.filter fun entry => decide (cutoff ≤ entry.2)
  distinct := set.distinct.sublist (List.filter_sublist.map _)

def pruneOlderThan (set : TimestampOrderedSet) (now age : ℤ) : TimestampOrderedSet :=
  set.prune (now - age)

/-- What `prune` returns. -/
def prunedCount (set : TimestampOrderedSet) (cutoff : ℤ) : ℕ :=
  set.data.countP fun entry => decide (entry.2 < cutoff)

/-- `none` for a KeyError. -/
def remove (set : TimestampOrderedSet) (value : ℤ) : Option TimestampOrderedSet :=
  if value ∈ set then some (set.discard value) else none

def clear (_set : TimestampOrderedSet) : TimestampOrderedSet := empty

def getTimestamp (set : TimestampOrderedSet) (value : ℤ) : Option ℤ :=
  (set.data.find? fun entry => entry.1 = value).map Prod.snd

/-- A timestamp and its value, as `oldest` and `newest` have them. -/
def oldest (set : TimestampOrderedSet) : Option (ℤ × ℤ) := set.data.head?.map Prod.swap

def newest (set : TimestampOrderedSet) : Option (ℤ × ℤ) := set.data.getLast?.map Prod.swap

/-- `len(self)`. -/
def length (set : TimestampOrderedSet) : ℕ := set.data.length

theorem mem_iff {set : TimestampOrderedSet} {value : ℤ} :
    value ∈ set ↔ ∃ timestamp, (value, timestamp) ∈ set.data := by
  change set.contains value = true ↔ _
  simp [contains]

theorem mem_add {set : TimestampOrderedSet} {value timestamp other : ℤ} :
    other ∈ set.add value timestamp ↔ other = value ∨ other ∈ set := by
  simp only [mem_iff, add, discard, List.mem_append, List.mem_filter, List.mem_singleton]
  by_cases same : other = value
  · simp [same]
  · simp [same]

theorem mem_data_add {set : TimestampOrderedSet} {value timestamp other time : ℤ} :
    (other, time) ∈ (set.add value timestamp).data ↔
      (other ≠ value ∧ (other, time) ∈ set.data) ∨ (other = value ∧ time = timestamp) := by
  simp [add, discard, and_comm]

theorem mem_data_prune {set : TimestampOrderedSet} {value time cutoff : ℤ} :
    (value, time) ∈ (set.prune cutoff).data ↔ (value, time) ∈ set.data ∧ cutoff ≤ time := by
  simp [prune]

/-- Pruning keeps exactly what is young enough. -/
theorem mem_prune {set : TimestampOrderedSet} {value cutoff : ℤ} :
    value ∈ set.prune cutoff ↔ ∃ timestamp, (value, timestamp) ∈ set.data ∧ cutoff ≤ timestamp := by
  simp [mem_iff, prune]

end TimestampOrderedSet

end AlloraSdk.Source.Utils
