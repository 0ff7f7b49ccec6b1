import AlloraSdk.Guarantees.FeeEscalation

/-!
# The fee and the minimum gas price

The multipliers of the fee never fall below 1, but `int()` drops the fraction of
the product. The fee of a broadcast covers its gas limit at the current price
exactly when the multipliers leave room for a whole amount.
-/

namespace AlloraSdk.Guarantees
open AlloraSdk.Logic AlloraSdk.Source.TxManager AlloraSdk.Chain

/-- A whole amount lies between `x` and `y`, both included; below zero, where
truncation rounds up, none lies in the gap that `y` leaves under `x`. -/
def CoversWhole (x y : ℚ) : Prop :=
  if 0 ≤ y then ∃ n : ℤ, x ≤ n ∧ (n : ℚ) ≤ y else ∀ n : ℤ, y ≤ n → x ≤ n

theorem le_truncate_iff {x y : ℚ} : x ≤ truncate y ↔ CoversWhole x y := by
  unfold CoversWhole
  split
  · rename_i nonneg
    rw [truncate_of_nonneg nonneg]
    constructor
    · intro covered
      exact ⟨⌊y⌋, covered, Int.floor_le y⟩
    · rintro ⟨n, above, below⟩
      exact above.trans (by exact_mod_cast Int.le_floor.mpr below)
  · rename_i negative
    rw [truncate_of_nonpos (not_le.mp negative).le]
    constructor
    · intro covered n above
      exact covered.trans (by exact_mod_cast Int.ceil_le.mpr above)
    · intro covered
      exact covered ⌈y⌉ (Int.le_ceil y)

theorem one_le_congestionFactor (congestion : Option ℚ) : 1 ≤ congestionFactor congestion := by
  unfold congestionFactor
  split
  · split
    · rename_i above
      exact above.le
    · exact le_refl 1
  · exact le_refl 1

theorem one_le_feeMultipliers (tier : FeeTier) : 1 ≤ feeMultipliers tier := by
  cases tier <;> norm_num [feeMultipliers]

/-- No except clause lowers the fee multiplier below 1. -/
theorem Offer.one_le_after {m : Manager} {attempt : ℕ} {flagged : Bool} {handling : List Ev} {o : Offer}
    {e : PyException} (atLeast : 1 ≤ o.feeMultiplier) :
    1 ≤ (o.after m attempt flagged handling e).feeMultiplier := by
  have seeded : ∀ limit, 1 ≤ (o.seeded limit).feeMultiplier := by
    intro limit
    cases limit <;> exact atLeast
  cases e
  case insufficientFees =>
    have : (0 : ℚ) ≤ attempt := Nat.cast_nonneg _
    change 1 ≤ 1 + (attempt : ℚ) * (1 / 2)
    linarith
  case txTimeout => exact seeded _
  case accountSequenceMismatch =>
    simp only [Offer.after]
    split
    · exact seeded _
    · exact atLeast
  all_goals exact atLeast

/-- In every attempt, through every reset, the fee multiplier is at least 1. -/
theorem one_le_feeMultiplier {m : Manager} {call : Call} {clock : ℕ} {cachedPrice : Option ℚ}
    {cachedAt : Option ℕ} {rounds : List Round} {r : Round}
    (run : call.Rounds m clock cachedPrice cachedAt rounds) (member : r ∈ rounds) :
    1 ≤ r.entry.feeMultiplier := by
  refine (run.invariant (fun s => 1 ≤ s.offer.feeMultiplier) rfl (one_le_feeMultipliers call.feeTier)
    ?_ r member).2
  rintro r - valid unresolved goesOn atLeast
  obtain ⟨e, -, exit⟩ := valid.exit_offer unresolved goesOn
  rw [exit]
  refine Offer.one_le_after ?_
  split
  · exact atLeast
  · exact atLeast

def broadcastTx? : Ev → Option Tx
  | ⟨.query (.broadcastTx tx), _⟩ => some tx
  | _ => none

/-- What the attempt hands to the node. -/
def broadcastsOf (r : Round) : List Tx := r.trace.filterMap broadcastTx?

/-- Every broadcast of every run pays its gas limit at the price that its attempt
read, exactly when a whole amount lies between that product and the product with
the multipliers, which never shrink it. -/
theorem minimum_price_paid_iff {m : Manager} {call : Call} {clock : ℕ} {cachedPrice : Option ℚ}
    {cachedAt : Option ℕ} {rounds : List Round} {r : Round} {tx : Tx}
    (run : call.Rounds m clock cachedPrice cachedAt rounds) (member : r ∈ rounds)
    (broadcast : tx ∈ broadcastsOf r) :
    ∃ price congestion, r.Reads m price congestion ∧
      1 ≤ r.entry.feeMultiplier * congestionFactor congestion ∧
      (tx.gasLimit * price ≤ tx.fee.amount ↔
        CoversWhole (tx.gasLimit * price)
          (tx.gasLimit * price * (r.entry.feeMultiplier * congestionFactor congestion))) := by
  have valid := run.valid member
  obtain ⟨e, present, sends⟩ := List.mem_filterMap.mp broadcast
  have carried : e.request.tx? = some tx := by
    unfold broadcastTx? at sends
    split at sends
    · exact sends
    · cases sends
  have absent : ∀ {events : List Ev}, Txless events → e ∉ events := by
    intro events txless present
    rw [txless e present] at carried
    cases carried
  have body : e ∈ r.body :=
    (List.mem_append.mp present).resolve_right (absent valid.handling_txless)
  obtain ⟨-, -, -, txless, -⟩ | ⟨price, congestion, first, rest, t, split, txless, reads, priced⟩ :=
    valid.priced
  · exact (absent txless body).elim
  rw [split] at body
  have later := (List.mem_append.mp body).resolve_left (absent txless)
  obtain ⟨limit, amount, -⟩ := priced.carries later carried
  refine ⟨price, congestion, ⟨first, rest, t, split, reads⟩, ?_, ?_⟩
  · exact one_le_mul_of_one_le_of_one_le (one_le_feeMultiplier run member) (one_le_congestionFactor congestion)
  · have product : r.fee m price congestion =
        truncate (tx.gasLimit * price * (r.entry.feeMultiplier * congestionFactor congestion)) := by
      rw [Round.fee, Offer.fee, limit]
      change truncate (r.gasLimit m * (price * r.entry.feeMultiplier * congestionFactor congestion)) = _
      congr 1
      ring
    rw [amount, product]
    exact le_truncate_iff

/-- A static price of 1/64. -/
def fractional : Manager := { testnet with config := { testnet.config with feeMinimumGasPrice := 1 / 64 } }

/-- On the standard tier the product is 7031.25, and 7031 covers 4687.5. -/
theorem minimum_price_paid_iff_standard :
    ∃ r tx, (payload 0 none).played fractional stalling = [r] ∧ broadcastsOf r = [tx] ∧ tx.fee.amount = 7031 ∧
      ∃ price congestion, r.Reads fractional price congestion ∧
        (tx.gasLimit * price ≤ tx.fee.amount ↔
          CoversWhole (tx.gasLimit * price)
            (tx.gasLimit * price * (r.entry.feeMultiplier * congestionFactor congestion))) := by
  have run : (payload 0 none).Rounds fractional 0 none none ((payload 0 none).played fractional stalling) :=
    (payload 0 none).played_rounds
  have shape : ((payload 0 none).played fractional stalling).map (fun r =>
      (broadcastsOf r).map fun tx => tx.fee.amount) = [[7031]] := by decide +kernel
  generalize (payload 0 none).played fractional stalling = rounds at run shape ⊢
  obtain ⟨r, rest, rfl, sent, shape⟩ := List.map_eq_cons_iff.mp shape
  obtain rfl := List.map_eq_nil_iff.mp shape
  obtain ⟨tx, others, broadcasts, amount, none⟩ := List.map_eq_cons_iff.mp sent
  obtain rfl := List.map_eq_nil_iff.mp none
  obtain ⟨price, congestion, reads, -, covered⟩ :=
    minimum_price_paid_iff run (.head _) (by rw [broadcasts]; exact .head _)
  exact ⟨r, tx, rfl, broadcasts, amount, price, congestion, reads, covered⟩

/-- On the eco tier 300000 units of gas at 1/64 cost 4687.5, and the fee is 4687. -/
theorem minimum_price_underpaid :
    ¬ ∀ {rounds : List Round} {r : Round} {tx : Tx} {price : ℚ} {congestion : Option ℚ},
      economical.Rounds fractional 0 none none rounds → r ∈ rounds →
      tx ∈ broadcastsOf r → r.Reads fractional price congestion → 0 < price →
      tx.gasLimit * price ≤ tx.fee.amount := by
  intro claim
  have run : economical.Rounds fractional 0 none none (economical.played fractional stalling) :=
    economical.played_rounds
  have shape : (economical.played fractional stalling).map (fun r => (r.entry.cachedGasPrice,
      r.body.any fun e => !e.request.isQuiet, (broadcastsOf r).map fun tx => (tx.gasLimit, tx.fee.amount))) =
      [(none, true, [(300000, 4687)]), (none, true, [(390000, 6093)])] := by decide +kernel
  generalize economical.played fractional stalling = rounds at run shape
  obtain ⟨r, rest, rfl, first, -⟩ := List.map_eq_cons_iff.mp shape
  simp only [Prod.mk.injEq] at first
  obtain ⟨uncached, begun, sent⟩ := first
  obtain ⟨tx, others, broadcasts, content, -⟩ := List.map_eq_cons_iff.mp sent
  obtain ⟨limit, amount⟩ := Prod.mk.inj content
  have reads : r.Reads fractional (1 / 64) none :=
    (run.valid (.head _)).reads_static rfl rfl uncached begun
  have paid := claim run (.head _) (by rw [broadcasts]; exact .head _) reads (by norm_num)
  rw [limit, amount] at paid
  norm_num at paid

end AlloraSdk.Guarantees
