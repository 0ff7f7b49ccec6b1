import Mathlib.Data.List.Nodup
import Mathlib.Logic.Relation
import Mathlib.Order.Nat

/-!
# One account of a sequenced ledger

Transactions of one account carry a sequence. A transaction is admitted while
its sequence is the committed one; an admitted transaction may be included as
long as that stays so, and its inclusion, with any result code, consumes the
sequence. Other senders of the account consume sequences too.

`Ledger` carries its own bookkeeping, so no step has to re-prove it. A result
code of 0 is a success.
-/

namespace AlloraSdk.Logic

variable {τ : Type}

structure Ledger (sequence : τ → ℕ) where
  committed : ℕ
  /-- Everything admitted so far. -/
  pool : List τ
  /-- The inclusions with their result codes, oldest first. -/
  included : List (τ × ℕ)
  pool_le : ∀ tx ∈ pool, sequence tx ≤ committed
  included_lt : ∀ entry ∈ included, sequence entry.1 < committed
  included_pool : ∀ entry ∈ included, entry.1 ∈ pool
  distinct : (included.map fun entry => sequence entry.1).Nodup

namespace Ledger

variable {sequence : τ → ℕ}

def start (committed : ℕ) : Ledger sequence where
  committed := committed
  pool := []
  included := []
  pool_le := by simp
  included_lt := by simp
  included_pool := by simp
  distinct := by simp

/-- Admission of a transaction that is due. -/
def enter (ledger : Ledger sequence) (tx : τ) (due : sequence tx = ledger.committed) :
    Ledger sequence where
  committed := ledger.committed
  pool := ledger.pool ++ [tx]
  included := ledger.included
  pool_le := by
    intro other member
    rcases List.mem_append.mp member with old | new
    · exact ledger.pool_le other old
    · rw [List.mem_singleton.mp new]
      exact due.le
  included_lt := ledger.included_lt
  included_pool := fun entry member => List.mem_append_left _ (ledger.included_pool entry member)
  distinct := ledger.distinct

/-- Inclusion of an admitted transaction that is due. -/
def commit (ledger : Ledger sequence) (tx : τ) (code : ℕ) (member : tx ∈ ledger.pool)
    (due : sequence tx = ledger.committed) : Ledger sequence where
  committed := ledger.committed + 1
  pool := ledger.pool
  included := ledger.included ++ [(tx, code)]
  pool_le := fun other old => Nat.le_succ_of_le (ledger.pool_le other old)
  included_lt := by
    intro entry belongs
    rcases List.mem_append.mp belongs with old | new
    · exact Nat.lt_succ_of_lt (ledger.included_lt entry old)
    · rw [List.mem_singleton.mp new, due]
      exact Nat.lt_succ_self _
  included_pool := by
    intro entry belongs
    rcases List.mem_append.mp belongs with old | new
    · exact ledger.included_pool entry old
    · rw [List.mem_singleton.mp new]
      exact member
  distinct := by
    rw [List.map_append, List.nodup_append]
    refine ⟨ledger.distinct, by simp, ?_⟩
    intro used before last new
    obtain ⟨entry, old, rfl⟩ := List.mem_map.mp before
    have below := ledger.included_lt entry old
    simp only [List.map_cons, List.map_nil, List.mem_singleton] at new
    omega

/-- Another sender of the account consumed the sequence. -/
def foreign (ledger : Ledger sequence) : Ledger sequence where
  committed := ledger.committed + 1
  pool := ledger.pool
  included := ledger.included
  pool_le := fun other old => Nat.le_succ_of_le (ledger.pool_le other old)
  included_lt := fun entry old => Nat.lt_succ_of_lt (ledger.included_lt entry old)
  included_pool := ledger.included_pool
  distinct := ledger.distinct

/-- What the chain does by itself. -/
inductive Advance : Ledger sequence → Ledger sequence → Prop
  | commit (ledger : Ledger sequence) (tx : τ) (code : ℕ) (member : tx ∈ ledger.pool)
      (due : sequence tx = ledger.committed) : Advance ledger (ledger.commit tx code member due)
  | foreign (ledger : Ledger sequence) : Advance ledger ledger.foreign

abbrev Steps : Ledger sequence → Ledger sequence → Prop := Relation.ReflTransGen Advance

/-- Included with success. -/
def Won (ledger : Ledger sequence) (tx : τ) : Prop := (tx, 0) ∈ ledger.included

/-- Can still be included. -/
def Live (ledger : Ledger sequence) (tx : τ) : Prop :=
  tx ∈ ledger.pool ∧ ledger.committed ≤ sequence tx

/-- Has been, or can still be, included with success. -/
def Open (ledger : Ledger sequence) (tx : τ) : Prop := ledger.Live tx ∨ ledger.Won tx

/-- The successful inclusions. -/
def wins (ledger : Ledger sequence) : List (τ × ℕ) := ledger.included.filter (·.2 = 0)

variable {ledger ledger' : Ledger sequence} {tx tx' : τ} {code : ℕ}

theorem Live.due (live : ledger.Live tx) : sequence tx = ledger.committed :=
  Nat.le_antisymm (ledger.pool_le tx live.1) live.2

theorem Won.lt (won : ledger.Won tx) : sequence tx < ledger.committed := ledger.included_lt _ won

/-- A sequence is consumed by one inclusion only. -/
theorem included_unique (entry : (tx, code) ∈ ledger.included) {code' : ℕ}
    (entry' : (tx', code') ∈ ledger.included) (same : sequence tx = sequence tx') :
    tx = tx' ∧ code = code' := by
  have inj := List.inj_on_of_nodup_map ledger.distinct entry entry' same
  exact Prod.mk.injEq .. ▸ inj

/-- Whatever else has the sequence of a failed inclusion cannot succeed. -/
theorem not_open_of_failed (entry : (tx, code) ∈ ledger.included) (failed : code ≠ 0)
    (same : sequence tx' = sequence tx) : ¬ ledger.Open tx' := by
  rintro (live | won)
  · have below := ledger.included_lt _ entry
    have above := live.2
    simp only at below
    omega
  · exact failed (included_unique entry won same.symm).2

/-- Once the committed sequence has moved on, only an inclusion can have succeeded. -/
theorem Open.won (candidate : ledger.Open tx) (passed : sequence tx ≠ ledger.committed) :
    ledger.Won tx := by
  rcases candidate with live | won
  · exact (passed live.due).elim
  · exact won

/-- Admission opens the admitted transaction only. -/
theorem open_enter {due : sequence tx = ledger.committed} (candidate : (ledger.enter tx due).Open tx') :
    tx' = tx ∨ ledger.Open tx' := by
  rcases candidate with ⟨member, above⟩ | won
  · rcases List.mem_append.mp member with old | new
    · exact .inr (.inl ⟨old, above⟩)
    · exact .inl (List.mem_singleton.mp new)
  · exact .inr (.inr won)

theorem Advance.committed_le (advance : Advance ledger ledger') :
    ledger.committed ≤ ledger'.committed := by
  cases advance with
  | commit => exact Nat.le_succ _
  | foreign => exact Nat.le_succ _

theorem Advance.pool_eq (advance : Advance ledger ledger') : ledger'.pool = ledger.pool := by
  cases advance <;> rfl

theorem Advance.included_subset (advance : Advance ledger ledger') {entry : τ × ℕ}
    (member : entry ∈ ledger.included) : entry ∈ ledger'.included := by
  cases advance with
  | commit => exact List.mem_append_left _ member
  | foreign => exact member

/-- The chain opens nothing by itself. -/
theorem Advance.open_before (advance : Advance ledger ledger') (candidate : ledger'.Open tx) :
    ledger.Open tx := by
  rcases candidate with ⟨member, above⟩ | won
  · exact .inl ⟨advance.pool_eq ▸ member, Nat.le_trans advance.committed_le above⟩
  · cases advance with
    | commit other code member due =>
      rcases List.mem_append.mp won with old | new
      · exact .inr old
      · obtain ⟨rfl, -⟩ := Prod.mk.injEq .. ▸ List.mem_singleton.mp new
        exact .inl ⟨member, due.ge⟩
    | foreign => exact .inr won

theorem Steps.committed_le (steps : Steps ledger ledger') : ledger.committed ≤ ledger'.committed := by
  induction steps with
  | refl => exact Nat.le_refl _
  | tail _ advance ih => exact Nat.le_trans ih advance.committed_le

theorem Steps.pool_eq (steps : Steps ledger ledger') : ledger'.pool = ledger.pool := by
  induction steps with
  | refl => rfl
  | tail _ advance ih => exact advance.pool_eq.trans ih

theorem Steps.included_subset (steps : Steps ledger ledger') {entry : τ × ℕ}
    (member : entry ∈ ledger.included) : entry ∈ ledger'.included := by
  induction steps with
  | refl => exact member
  | tail _ advance ih => exact advance.included_subset ih

theorem Steps.open_before (steps : Steps ledger ledger') (candidate : ledger'.Open tx) :
    ledger.Open tx := by
  induction steps with
  | refl => exact candidate
  | tail _ advance ih => exact ih (advance.open_before candidate)

/-- Candidates of one sequence cannot both succeed. -/
theorem wins_le_one {s : ℕ} (single : ∀ tx, ledger.Open tx → sequence tx = s) :
    ledger.wins.length ≤ 1 := by
  have sequences : (ledger.wins.map fun entry => sequence entry.1).Nodup :=
    ledger.distinct.sublist (List.filter_sublist.map _)
  have constant : ∀ used ∈ ledger.wins.map (fun entry => sequence entry.1), used = s := by
    intro used member
    obtain ⟨⟨tx, code⟩, win, rfl⟩ := List.mem_map.mp member
    obtain ⟨belongs, success⟩ := List.mem_filter.mp win
    obtain rfl : code = 0 := of_decide_eq_true success
    exact single tx (.inr belongs)
  rw [List.eq_replicate_of_mem constant] at sequences
  simpa using List.nodup_replicate.mp sequences

end Ledger

end AlloraSdk.Logic
