import AlloraSdk.Guarantees.FeeCap

/-!
# The fee after an insufficient-fees rejection

The InsufficientFeesError handler replaces the fee multiplier by
`1 + attempt / 2`, whatever it was, while the gas ladder raises the limit. The
first rejection of a run therefore replaces the multiplier of the tier: on the
standard tier 3/2 becomes 1 after attempt 0, and the limit grows by 3/10 only.
-/

namespace AlloraSdk.Guarantees
open AlloraSdk.Logic AlloraSdk.Source.TxManager AlloraSdk.Chain

/-- A whole amount lies above `x`, and `y` reaches it; below zero, where
truncation rounds up, `y` leaves it behind. -/
def ReachesUnit (x y : ℚ) : Prop :=
  (∃ n : ℤ, 0 < n ∧ x < n ∧ (n : ℚ) ≤ y) ∨ ∃ n : ℤ, n < 0 ∧ x ≤ n ∧ (n : ℚ) < y

theorem truncate_of_nonpos {q : ℚ} (nonpos : q ≤ 0) : truncate q = ⌈q⌉ := by
  have flipped : truncate (-q) = ⌊-q⌋ := truncate_of_nonneg (neg_nonneg.mpr nonpos)
  rw [truncate_neg, Int.floor_neg, neg_inj] at flipped
  exact flipped

theorem reachesUnit_of_truncate {x y : ℚ} (less : truncate x < truncate y) : ReachesUnit x y := by
  by_cases positive : 0 < truncate y
  · left
    have above : 0 ≤ y := by
      by_contra below
      rw [truncate_of_nonpos (not_le.mp below).le] at positive
      exact below (Int.ceil_pos.mp positive).le
    refine ⟨truncate y, positive, ?_, by rw [truncate_of_nonneg above]; exact Int.floor_le y⟩
    rcases le_total 0 x with nonneg | nonpos
    · rw [truncate_of_nonneg nonneg] at less
      exact Int.floor_lt.mp less
    · have : (0 : ℚ) < truncate y := by exact_mod_cast positive
      exact nonpos.trans_lt this
  · right
    have negative : truncate x < 0 := less.trans_le (not_lt.mp positive)
    have below : x ≤ 0 := by
      by_contra above
      exact absurd negative (not_lt.mpr (truncate_nonneg (not_le.mp above).le))
    rw [truncate_of_nonpos below] at less negative
    refine ⟨⌈x⌉, negative, Int.le_ceil x, ?_⟩
    rcases le_total 0 y with nonneg | nonpos
    · have : (⌈x⌉ : ℚ) < 0 := by exact_mod_cast negative
      exact this.trans_le nonneg
    · rw [truncate_of_nonpos nonpos] at less
      exact Int.lt_ceil.mp less

theorem truncate_lt_of_reachesUnit {x y : ℚ} (reaches : ReachesUnit x y) : truncate x < truncate y := by
  obtain ⟨n, positive, above, reached⟩ | ⟨n, negative, below, passed⟩ := reaches
  · have positive' : (0 : ℚ) < n := by exact_mod_cast positive
    have upper : n ≤ truncate y := by
      rw [truncate_of_nonneg (positive'.le.trans reached)]
      exact Int.le_floor.mpr reached
    refine lt_of_lt_of_le ?_ upper
    rcases le_total 0 x with nonneg | nonpos
    · rw [truncate_of_nonneg nonneg]
      exact Int.floor_lt.mpr above
    · rw [truncate_of_nonpos nonpos]
      exact (Int.ceil_le.mpr (by simpa using nonpos)).trans_lt positive
  · have negative' : (n : ℚ) < 0 := by exact_mod_cast negative
    have lower : truncate x ≤ n := by
      rw [truncate_of_nonpos (below.trans negative'.le)]
      exact Int.ceil_le.mpr below
    refine lower.trans_lt ?_
    rcases le_total 0 y with nonneg | nonpos
    · exact negative.trans_le (truncate_nonneg nonneg)
    · rw [truncate_of_nonpos nonpos]
      exact Int.lt_ceil.mpr passed

theorem truncate_lt_iff {x y : ℚ} : truncate x < truncate y ↔ ReachesUnit x y :=
  ⟨reachesUnit_of_truncate, truncate_lt_of_reachesUnit⟩

/-- The limit that the next attempt builds with: a broadcast that was accepted
has replaced the limit in force by its own. -/
def nextLimit (m : Manager) (r : Round) : ℤ :=
  scaleGas (if r.accepted m then r.gasLimit m else r.entry.offer.gasBase m) (gasMultiplier (r.attempt + 1))

/-- The multiplier in force times the gas limit, and the reset multiplier times
the next one, at the price of one unit of gas. -/
def Escalates (m : Manager) (r : Round) (unit : ℚ) : Prop :=
  ReachesUnit (unit * (r.gasLimit m * r.entry.feeMultiplier))
    (unit * (nextLimit m r * (1 + r.attempt * (1 / 2))))

/-- Every transaction that the attempt builds offers this fee. -/
def Offers (r : Round) (fee : ℤ) : Prop :=
  ∀ e ∈ r.body, ∀ tx, e.request.tx? = some tx → tx.fee.amount = fee

theorem offers_fee {m : Manager} {start : ℕ} {r : Round} {price : ℚ} {congestion : Option ℚ}
    (valid : r.Valid m start) (reads : r.Reads m price congestion) :
    Offers r (r.fee m price congestion) := by
  intro e member tx built
  obtain ⟨first, rest, split, txless, priced⟩ := valid.priced_at reads
  rw [split] at member
  rcases List.mem_append.mp member with before | after
  · rw [txless e before] at built
    cases built
  · exact (priced.carries after built).2.1

/-- An attempt rejected for insufficient fees is followed by one that offers a
higher fee exactly when the two ladders outgrow the multiplier they replace. -/
theorem fee_escalates_iff {m : Manager} {call : Call} {clock : ℕ} {cachedPrice : Option ℚ}
    {cachedAt : Option ℕ} {rounds : List Round} {r q : Round} {message : String} {price : ℚ}
    {congestion congestion' : Option ℚ} (run : call.Rounds m clock cachedPrice cachedAt rounds)
    (successive : [r, q] <:+: rounds) (rejected : r.result = .error (.insufficientFees message))
    (reads : r.Reads m price congestion) (reads' : q.Reads m price congestion')
    (steady : congestionFactor congestion' = congestionFactor congestion) :
    Offers r (r.fee m price congestion) ∧ Offers q (q.fee m price congestion') ∧
      (r.fee m price congestion < q.fee m price congestion' ↔
        Escalates m r (price * congestionFactor congestion)) := by
  obtain ⟨before, after, rfl⟩ := successive
  simp only [List.append_assoc, List.cons_append, List.nil_append] at run
  have member : r ∈ before ++ r :: q :: after := by simp
  have member' : q ∈ before ++ r :: q :: after := by simp
  refine ⟨offers_fee (run.valid member) reads, offers_fee (run.valid member') reads', ?_⟩
  obtain ⟨goesOn, number, entry⟩ := run.successive
  obtain ⟨e, result, offer⟩ := (run.valid member).exit_offer (run.unresolved rfl member) goesOn
  rw [rejected] at result
  cases result
  have multiplier : q.entry.offer.feeMultiplier = 1 + r.attempt * (1 / 2) := by
    rw [entry, offer]
    rfl
  have limit : q.gasLimit m = nextLimit m r := by
    rw [Round.gasLimit, nextLimit, Offer.gasLimit, number, entry, offer]
    split <;> rfl
  have before : r.gasLimit m * (price * r.entry.feeMultiplier * congestionFactor congestion) =
      price * congestionFactor congestion * (r.gasLimit m * r.entry.feeMultiplier) := by ring
  have after : q.gasLimit m * (price * q.entry.offer.feeMultiplier * congestionFactor congestion') =
      price * congestionFactor congestion * (nextLimit m r * (1 + r.attempt * (1 / 2))) := by
    rw [limit, multiplier, steady]
    ring
  calc r.fee m price congestion < q.fee m price congestion'
      ↔ truncate (r.gasLimit m * (price * r.entry.feeMultiplier * congestionFactor congestion)) <
          truncate (q.gasLimit m * (price * q.entry.offer.feeMultiplier * congestionFactor congestion')) :=
        Iff.rfl
    _ ↔ Escalates m r (price * congestionFactor congestion) := by
        rw [before, after]
        exact truncate_lt_iff

/-- CheckTx finds the fee of the first attempt too low. -/
def underpriced : List Ev → (request : Request) → Reply request :=
  answering (fun tx => if tx.gasLimit = 300000 then response 13 "insufficient fees" "" else
    response 0 "" (testnet.txHash tx)) fun _ _ => none

def economical : Call := { payload 1 none with feeTier := .eco }

theorem fee_escalates_iff_eco :
    ∃ r q, economical.played testnet underpriced = [r, q] ∧
      Offers r 3000000 ∧ Offers q 3900000 ∧
      Escalates testnet r (10 * congestionFactor none) := by
  have run : economical.Rounds testnet 0 none none (economical.played testnet underpriced) :=
    economical.played_rounds
  have shape : (economical.played testnet underpriced).map (fun r => (r.result,
      r.entry.cachedGasPrice, r.fee testnet 10 none, r.body.any fun e => !e.request.isQuiet)) =
      [(.error (.insufficientFees "insufficient fees: insufficient fees"), none, 3000000, true),
        (.error (.txTimeout ""), none, 3900000, true)] := by decide +kernel
  generalize economical.played testnet underpriced = rounds at run shape ⊢
  obtain ⟨r, rest, rfl, first, shape⟩ := List.map_eq_cons_iff.mp shape
  obtain ⟨q, rest, rfl, second, shape⟩ := List.map_eq_cons_iff.mp shape
  obtain rfl := List.map_eq_nil_iff.mp shape
  simp only [Prod.mk.injEq] at first second
  obtain ⟨rejected, uncached, fee, begun⟩ := first
  obtain ⟨-, uncached', fee', begun'⟩ := second
  have raised : r.fee testnet 10 none < q.fee testnet 10 none := by
    rw [fee, fee']
    decide
  obtain ⟨offers, offers', escalates⟩ := fee_escalates_iff run ⟨[], [], rfl⟩ rejected
    ((run.valid (by simp)).reads_static rfl rfl uncached begun)
    ((run.valid (by simp)).reads_static rfl rfl uncached' begun') rfl
  exact ⟨r, q, rfl, fee ▸ offers, fee' ▸ offers', escalates.mp raised⟩

/-- On the standard tier the second attempt offers 3900000 after 4500000. -/
theorem fee_falls :
    ¬ ∀ {rounds : List Round} {r q : Round} {message : String} {price : ℚ}
        {congestion congestion' : Option ℚ},
      (payload 1 none).Rounds testnet 0 none none rounds → [r, q] <:+: rounds →
      r.result = .error (.insufficientFees message) →
      r.Reads testnet price congestion → q.Reads testnet price congestion' →
      congestionFactor congestion' = congestionFactor congestion →
      r.fee testnet price congestion < q.fee testnet price congestion' := by
  intro claim
  have run : (payload 1 none).Rounds testnet 0 none none ((payload 1 none).played testnet underpriced) :=
    (payload 1 none).played_rounds
  have shape : ((payload 1 none).played testnet underpriced).map (fun r => (r.result,
      r.entry.cachedGasPrice, r.fee testnet 10 none, r.body.any fun e => !e.request.isQuiet)) =
      [(.error (.insufficientFees "insufficient fees: insufficient fees"), none, 4500000, true),
        (.error (.txTimeout ""), none, 3900000, true)] := by decide +kernel
  generalize (payload 1 none).played testnet underpriced = rounds at run shape
  obtain ⟨r, rest, rfl, first, shape⟩ := List.map_eq_cons_iff.mp shape
  obtain ⟨q, rest, rfl, second, shape⟩ := List.map_eq_cons_iff.mp shape
  obtain rfl := List.map_eq_nil_iff.mp shape
  simp only [Prod.mk.injEq] at first second
  obtain ⟨rejected, uncached, fee, begun⟩ := first
  obtain ⟨-, uncached', fee', begun'⟩ := second
  have raised : r.fee testnet 10 none < q.fee testnet 10 none :=
    claim run ⟨[], [], rfl⟩ rejected
      ((run.valid (by simp)).reads_static rfl rfl uncached begun)
      ((run.valid (by simp)).reads_static rfl rfl uncached' begun') rfl
  rw [fee, fee'] at raised
  exact absurd raised (by decide)

end AlloraSdk.Guarantees
