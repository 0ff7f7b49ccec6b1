import AlloraSdk.Logic.Survivors
import AlloraSdk.Source.Utils.TimestampOrderedSet

/-!
# The timestamped set is its history

What a TimestampOrderedSet holds after any operations, from the operations
alone: the last timestamp of every value that was not removed since, in the
order of these last additions. Under a clock that never goes back the set is
sorted, so pruning cuts off its front.
-/

namespace AlloraSdk.Guarantees
open AlloraSdk.Logic AlloraSdk.Source.Utils

/-- The methods that change the set. -/
inductive SetOp where
  | add (value timestamp : ℤ)
  | discard (value : ℤ)
  /-- Leaves the set alone when it raises. -/
  | remove (value : ℤ)
  | clear
  | prune (cutoff : ℤ)
  | pruneOlderThan (now age : ℤ)
  deriving DecidableEq, Repr

def SetOp.apply (set : TimestampOrderedSet) : SetOp → TimestampOrderedSet
  | .add value timestamp => set.add value timestamp
  | .discard value => set.discard value
  | .remove value => (set.remove value).getD set
  | .clear => set.clear
  | .prune cutoff => set.prune cutoff
  | .pruneOlderThan now age => set.pruneOlderThan now age

/-- Whether an entry outlives the operation. -/
def SetOp.spares : SetOp → ℤ × ℤ → Bool
  | .add value _, entry | .discard value, entry | .remove value, entry => decide (entry.1 ≠ value)
  | .clear, _ => false
  | .prune cutoff, entry => decide (cutoff ≤ entry.2)
  | .pruneOlderThan now age, entry => decide (now - age ≤ entry.2)

def SetOp.added : SetOp → List (ℤ × ℤ)
  | .add value timestamp => [(value, timestamp)]
  | .discard _ | .remove _ | .clear | .prune _ | .pruneOlderThan _ _ => []

/-- The set after some operations on an empty one. -/
def setAfter (ops : List SetOp) : TimestampOrderedSet := ops.foldl SetOp.apply .empty

/-- The last addition of the value had this timestamp, and the value was not
removed since. -/
def LastAdded (ops : List SetOp) (value timestamp : ℤ) : Prop :=
  ∃ before later, ops = before ++ .add value timestamp :: later ∧
    ∀ op ∈ later, op.spares (value, timestamp) = true

section History

variable {set : TimestampOrderedSet} {ops : List SetOp}

/-- A `remove` that raises has nothing to drop. -/
theorem discard_absent {value : ℤ} (absent : ¬ value ∈ set) : (set.discard value).data = set.data := by
  apply List.filter_eq_self.mpr
  intro entry member
  apply decide_eq_true
  rintro rfl
  exact absent (TimestampOrderedSet.mem_iff.mpr ⟨entry.2, member⟩)

theorem apply_data (set : TimestampOrderedSet) (op : SetOp) :
    (op.apply set).data = amend SetOp.spares SetOp.added set.data op := by
  cases op with
  | add value timestamp => rfl
  | discard value => exact (List.append_nil _).symm
  | remove value =>
    have dropped : (SetOp.apply set (.remove value)).data = (set.discard value).data := by
      rw [SetOp.apply, TimestampOrderedSet.remove]
      split
      · rfl
      · rename_i absent
        exact (discard_absent absent).symm
    exact dropped.trans (List.append_nil _).symm
  | clear => simp [SetOp.apply, TimestampOrderedSet.clear, TimestampOrderedSet.empty, amend, SetOp.spares, SetOp.added]
  | prune cutoff => exact (List.append_nil _).symm
  | pruneOlderThan now age => exact (List.append_nil _).symm

theorem setAfter_data (ops : List SetOp) : (setAfter ops).data = survivors SetOp.spares SetOp.added ops := by
  have replayed (set : TimestampOrderedSet) :
      (ops.foldl SetOp.apply set).data = ops.foldl (amend SetOp.spares SetOp.added) set.data := by
    induction ops generalizing set with
    | nil => rfl
    | cons op ops ih => rw [List.foldl_cons, List.foldl_cons, ih, apply_data]
  rw [setAfter, replayed, foldl_amend]
  simp [TimestampOrderedSet.empty]

theorem mem_setAfter_data {value timestamp : ℤ} :
    (value, timestamp) ∈ (setAfter ops).data ↔ LastAdded ops value timestamp := by
  rw [setAfter_data, mem_survivors]
  constructor
  · rintro ⟨before, op, later, rfl, here, spared⟩
    cases op with
    | add value' timestamp' =>
      obtain ⟨rfl, rfl⟩ : value = value' ∧ timestamp = timestamp' := by simpa [SetOp.added] using here
      exact ⟨before, later, rfl, spared⟩
    | _ => cases here
  · rintro ⟨before, later, rfl, spared⟩
    exact ⟨before, _, later, rfl, by simp [SetOp.added], spared⟩

/-- A dict has one entry for each key. -/
theorem getTimestamp_eq_some {value timestamp : ℤ} :
    set.getTimestamp value = some timestamp ↔ (value, timestamp) ∈ set.data := by
  rw [TimestampOrderedSet.getTimestamp, Option.map_eq_some_iff]
  constructor
  · rintro ⟨entry, found, rfl⟩
    have same : entry.1 = value := by simpa using List.find?_some found
    rw [← same]
    exact List.mem_of_find?_eq_some found
  · intro member
    cases found : set.data.find? fun entry => entry.1 = value with
    | none => simpa using List.find?_eq_none.mp found _ member
    | some entry =>
      have same : entry.1 = value := by simpa using List.find?_some found
      have unique := List.inj_on_of_nodup_map set.distinct (List.mem_of_find?_eq_some found) member same
      exact ⟨entry, rfl, by rw [unique]⟩

/-- After any operations, the set has exactly the values whose last addition was
not removed since, each with the timestamp of that addition and in the order of
these additions; `get_timestamp` and `in` read just that. -/
theorem set_is_its_history (ops : List SetOp) :
    (setAfter ops).data = survivors SetOp.spares SetOp.added ops ∧
      (∀ value timestamp, (setAfter ops).getTimestamp value = some timestamp ↔ LastAdded ops value timestamp) ∧
      (∀ value, value ∈ setAfter ops ↔ ∃ timestamp, LastAdded ops value timestamp) ∧
      ∀ value timestamp timestamp', LastAdded ops value timestamp → LastAdded ops value timestamp' →
        timestamp = timestamp' := by
  have stamped (value timestamp : ℤ) :
      (setAfter ops).getTimestamp value = some timestamp ↔ LastAdded ops value timestamp :=
    getTimestamp_eq_some.trans mem_setAfter_data
  refine ⟨setAfter_data ops, stamped, fun value => ?_, fun value t t' first second => ?_⟩
  · simp only [TimestampOrderedSet.mem_iff, mem_setAfter_data]
  · rw [← stamped] at first second
    exact Option.some.inj (first.symm.trans second)

end History

/-! ## A clock that never goes back -/

/-- The timestamps of the additions, in order. -/
def addedTimes (ops : List SetOp) : List ℤ := (ops.flatMap SetOp.added).map Prod.snd

section Clock

variable {ops : List SetOp}

theorem setAfter_sorted (forward : (addedTimes ops).Pairwise (· ≤ ·)) :
    (setAfter ops).data.Pairwise fun earlier later => earlier.2 ≤ later.2 := by
  rw [setAfter_data]
  exact (List.pairwise_map.mp forward).sublist (survivors_sublist _ _ ops)

/-- Of a sorted list, what is old stands in front. -/
theorem filter_eq_drop {entries : List (ℤ × ℤ)} (cutoff : ℤ)
    (sorted : entries.Pairwise fun earlier later => earlier.2 ≤ later.2) :
    (entries.filter fun entry => decide (cutoff ≤ entry.2)) =
      entries.drop (entries.countP fun entry => decide (entry.2 < cutoff)) := by
  induction entries with
  | nil => rfl
  | cons entry entries ih =>
    obtain ⟨first, rest⟩ := List.pairwise_cons.mp sorted
    by_cases old : entry.2 < cutoff
    · rw [List.filter_cons_of_neg (by simpa using old), List.countP_cons_of_pos (by simpa using old),
        List.drop_succ_cons, ih rest]
    · have young : ∀ other ∈ entry :: entries, cutoff ≤ other.2 := by
        intro other member
        rcases List.mem_cons.mp member with rfl | later
        · omega
        · have := first other later
          omega
      have none_old : (entry :: entries).countP (fun entry => decide (entry.2 < cutoff)) = 0 := by
        apply List.countP_eq_zero.mpr
        intro other member
        have := young other member
        simp only [decide_eq_true_eq]
        omega
      rw [none_old, List.drop_zero]
      apply List.filter_eq_self.mpr
      intro other member
      exact decide_eq_true (young other member)

theorem setAfter_ne_nil : (setAfter ops).data ≠ [] ↔ ∃ value timestamp, LastAdded ops value timestamp := by
  constructor
  · intro occupied
    obtain ⟨⟨value, timestamp⟩, member⟩ := List.exists_mem_of_ne_nil _ occupied
    exact ⟨value, timestamp, mem_setAfter_data.mp member⟩
  · rintro ⟨value, timestamp, added⟩
    exact List.ne_nil_of_mem (mem_setAfter_data.mpr added)

theorem oldest_isSome :
    (setAfter ops).oldest.isSome = true ↔ ∃ value timestamp, LastAdded ops value timestamp := by
  rw [← setAfter_ne_nil, TimestampOrderedSet.oldest, Option.isSome_map, List.isSome_head?]

theorem newest_isSome :
    (setAfter ops).newest.isSome = true ↔ ∃ value timestamp, LastAdded ops value timestamp := by
  rw [← setAfter_ne_nil, TimestampOrderedSet.newest, Option.isSome_map, List.getLast?_isSome]

/-- Under a clock that never goes back, `oldest` and `newest` have the least and
the greatest timestamp, and are none only of an empty set; `prune` cuts off as
many entries as it reports, from the front. -/
theorem pruning_cuts_the_front (forward : (addedTimes ops).Pairwise (· ≤ ·)) (cutoff : ℤ) :
    ((setAfter ops).prune cutoff).data = (setAfter ops).data.drop ((setAfter ops).prunedCount cutoff) ∧
      ((setAfter ops).prune cutoff).length + (setAfter ops).prunedCount cutoff = (setAfter ops).length ∧
      (∀ least value, (setAfter ops).oldest = some (least, value) → LastAdded ops value least ∧
        ∀ value' timestamp, LastAdded ops value' timestamp → least ≤ timestamp) ∧
      (∀ greatest value, (setAfter ops).newest = some (greatest, value) → LastAdded ops value greatest ∧
        ∀ value' timestamp, LastAdded ops value' timestamp → timestamp ≤ greatest) ∧
      ((setAfter ops).oldest.isSome = true ↔ ∃ value timestamp, LastAdded ops value timestamp) ∧
      ((setAfter ops).newest.isSome = true ↔ ∃ value timestamp, LastAdded ops value timestamp) := by
  have sorted := setAfter_sorted forward
  have cut : ((setAfter ops).prune cutoff).data =
      (setAfter ops).data.drop ((setAfter ops).prunedCount cutoff) := filter_eq_drop cutoff sorted
  refine ⟨cut, ?_, fun least value first => ?_, fun greatest value last => ?_, oldest_isSome, newest_isSome⟩
  · have fits : (setAfter ops).prunedCount cutoff ≤ (setAfter ops).data.length := List.countP_le_length
    rw [TimestampOrderedSet.length, cut, List.length_drop, TimestampOrderedSet.length]
    omega
  · obtain ⟨⟨value, least⟩, head, ⟨⟩⟩ := Option.map_eq_some_iff.mp first
    obtain ⟨rest, split⟩ := List.head?_eq_some_iff.mp head
    refine ⟨mem_setAfter_data.mp (List.mem_of_head? head), fun value' timestamp added => ?_⟩
    have member := mem_setAfter_data.mpr added
    rw [split] at member sorted
    rcases List.mem_cons.mp member with same | later
    · cases same
      exact Int.le_refl _
    · exact (List.pairwise_cons.mp sorted).1 _ later
  · obtain ⟨⟨value, greatest⟩, final, ⟨⟩⟩ := Option.map_eq_some_iff.mp last
    obtain ⟨front, split⟩ := List.getLast?_eq_some_iff.mp final
    refine ⟨mem_setAfter_data.mp (List.mem_of_getLast? final), fun value' timestamp added => ?_⟩
    have member := mem_setAfter_data.mpr added
    rw [split] at member sorted
    rcases List.mem_append.mp member with earlier | same
    · exact (List.pairwise_append.mp sorted).2.2 _ earlier _ (List.mem_singleton_self _)
    · cases List.mem_singleton.mp same
      exact Int.le_refl _

/-- Two values, the first of them added once more. -/
def renewed : List SetOp := [.add 5 100, .add 6 110, .discard 9, .add 5 120, .remove 8]

theorem renewed_pruned : (setAfter renewed).data = [(6, 110), (5, 120)] ∧
    ((setAfter renewed).prune 115).data = [(5, 120)] ∧
    ∀ value timestamp, LastAdded renewed value timestamp → 110 ≤ timestamp := by
  have forward : (addedTimes renewed).Pairwise (· ≤ ·) := by decide
  obtain ⟨-, -, oldest, -⟩ := pruning_cuts_the_front forward 115
  exact ⟨by decide, by decide, (oldest 110 6 (by decide)).2⟩

end Clock

end AlloraSdk.Guarantees
