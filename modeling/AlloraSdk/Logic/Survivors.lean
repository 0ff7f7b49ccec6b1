import Mathlib.Data.List.Basic

/-!
# Logs with removal

Each operation drops the entries it does not spare and adds some at the end.
What is left after many of them, in closed form: of every operation the entries
that all later ones spare, in the order of the operations.
-/

namespace AlloraSdk.Logic

variable {ι β : Type} (spares : ι → β → Bool) (added : ι → List β)

/-- The entries after one operation. -/
def amend (entries : List β) (op : ι) : List β := entries.filter (spares op) ++ added op

def survivors : List ι → List β
  | [] => []
  | op :: later => (added op).filter (fun b => later.all (spares · b)) ++ survivors later

theorem foldl_amend (ops : List ι) (entries : List β) :
    ops.foldl (amend spares added) entries =
      entries.filter (fun b => ops.all (spares · b)) ++ survivors spares added ops := by
  induction ops generalizing entries with
  | nil => simp [survivors]
  | cons op ops ih =>
    rw [List.foldl_cons, ih, amend, List.filter_append, List.filter_filter, survivors, List.append_assoc]
    simp [Bool.and_comm]

/-- Nothing but removals apart from what was added. -/
theorem survivors_sublist (ops : List ι) :
    (survivors spares added ops).Sublist (ops.flatMap added) := by
  induction ops with
  | nil => exact .slnil
  | cons op ops ih => exact List.filter_sublist.append ih

variable {spares added}

theorem mem_survivors {ops : List ι} {b : β} :
    b ∈ survivors spares added ops ↔ ∃ before op later, ops = before ++ op :: later ∧ b ∈ added op ∧
      ∀ op' ∈ later, spares op' b = true := by
  induction ops with
  | nil => simp [survivors]
  | cons op ops ih =>
    rw [survivors, List.mem_append, List.mem_filter, ih]
    constructor
    · rintro (⟨here, spared⟩ | ⟨before, op', later, rfl, here, spared⟩)
      · exact ⟨[], op, ops, rfl, here, by simpa using spared⟩
      · exact ⟨op :: before, op', later, rfl, here, spared⟩
    · rintro ⟨before, op', later, split, here, spared⟩
      cases before with
      | nil =>
        obtain ⟨rfl, rfl⟩ := List.cons_eq_cons.mp split
        exact .inl ⟨here, by simpa using spared⟩
      | cons first before =>
        obtain ⟨rfl, rfl⟩ := List.cons_eq_cons.mp split
        exact .inr ⟨before, op', later, rfl, here, spared⟩

end AlloraSdk.Logic
