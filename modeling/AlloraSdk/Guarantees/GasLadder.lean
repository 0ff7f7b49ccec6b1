import AlloraSdk.Guarantees.FeeCap

/-!
# The gas ladder

Attempt `k` scales the limit in force by `1 + 3k/10`. The limit in force is the
estimate until a broadcast is accepted, and that broadcast's own limit from then
on, which the ladder has already raised: the ladder compounds over every
accepted attempt but the first.
-/

namespace AlloraSdk.Guarantees
open AlloraSdk.Logic AlloraSdk.Source.TxManager AlloraSdk.Chain

/-! ## Scaling by at least one -/

/-- Strictly further from zero than `g`, on its side. -/
def Beyond (g b : ℤ) : Prop := 0 ≤ g ∧ g < b ∨ g ≤ 0 ∧ b < g

section Beyond

variable {g b : ℤ} {q : ℚ}

theorem scaleGas_lt (nonneg : 0 ≤ g) (less : g < b) (atLeast : 1 ≤ q) :
    scaleGas g q < scaleGas b q := by
  have factor : (0 : ℚ) ≤ g := by exact_mod_cast nonneg
  have step : (g : ℚ) + 1 ≤ b := by exact_mod_cast less
  have product : (0 : ℚ) ≤ g * q := mul_nonneg factor (zero_le_one.trans atLeast)
  have grown : (g : ℚ) * q + 1 ≤ b * q := by nlinarith
  rw [scaleGas, scaleGas, truncate_of_nonneg product, truncate_of_nonneg (by linarith)]
  calc ⌊(g : ℚ) * q⌋ < ⌊(g : ℚ) * q⌋ + 1 := Int.lt_succ _
    _ = ⌊(g : ℚ) * q + 1⌋ := (Int.floor_add_one _).symm
    _ ≤ ⌊(b : ℚ) * q⌋ := Int.floor_le_floor grown

theorem Beyond.scaled (beyond : Beyond g b) (atLeast : 1 ≤ q) : Beyond g (scaleGas b q) := by
  rcases beyond with ⟨nonneg, less⟩ | ⟨nonpos, less⟩
  · exact .inl ⟨nonneg, less.trans_le (le_scaleGas (nonneg.trans less.le) atLeast)⟩
  · refine .inr ⟨nonpos, ?_⟩
    have flipped : -b ≤ scaleGas (-b) q := le_scaleGas (by omega) atLeast
    rw [scaleGas_neg] at flipped
    omega

theorem Beyond.scaled_ne (beyond : Beyond g b) (atLeast : 1 ≤ q) : scaleGas b q ≠ scaleGas g q := by
  rcases beyond with ⟨nonneg, less⟩ | ⟨nonpos, less⟩
  · exact (scaleGas_lt nonneg less atLeast).ne'
  · have flipped : scaleGas (-g) q < scaleGas (-b) q := scaleGas_lt (by omega) (by omega) atLeast
    rw [scaleGas_neg, scaleGas_neg] at flipped
    omega

theorem scaleGas_eq_or_beyond (atLeast : 1 ≤ q) : scaleGas g q = g ∨ Beyond g (scaleGas g q) := by
  rcases le_total 0 g with nonneg | nonpos
  · rcases (le_scaleGas nonneg atLeast).eq_or_lt with same | less
    · exact .inl same.symm
    · exact .inr (.inl ⟨nonneg, less⟩)
  · have flipped : -g ≤ scaleGas (-g) q := le_scaleGas (by omega) atLeast
    rw [scaleGas_neg] at flipped
    rcases flipped.eq_or_lt with same | less
    · exact .inl (by omega)
    · exact .inr (.inr ⟨nonpos, by omega⟩)

/-- The ladder of attempt `attempt` leaves a limit alone when 3/10 of it for each
attempt stay below one unit. -/
theorem scaleGas_gasMultiplier_eq {attempt : ℕ} :
    scaleGas g (gasMultiplier attempt) = g ↔ 3 * attempt * g.natAbs < 10 := by
  have nat : ∀ n : ℕ, scaleGas n (gasMultiplier attempt) = n ↔ 3 * attempt * n < 10 := by
    intro n
    have product : (0 : ℚ) ≤ (n : ℤ) * gasMultiplier attempt :=
      mul_nonneg (by positivity) (gasMultiplier_nonneg attempt)
    have expanded : ((n : ℤ) : ℚ) * gasMultiplier attempt = n + 3 * attempt * n / 10 := by
      rw [gasMultiplier]
      push_cast
      ring
    rw [scaleGas, truncate_of_nonneg product, Int.floor_eq_iff, expanded]
    push_cast
    constructor
    · rintro ⟨-, upper⟩
      have : (3 * attempt * n : ℚ) < 10 := by linarith
      exact_mod_cast this
    · intro small
      have : (3 * attempt * n : ℚ) < 10 := by exact_mod_cast small
      constructor
      · have : (0 : ℚ) ≤ 3 * attempt * n / 10 := by positivity
        linarith
      · linarith
  obtain ⟨n, rfl | rfl⟩ := Int.eq_nat_or_neg g
  · rw [nat, Int.natAbs_natCast]
  · rw [scaleGas_neg, neg_inj, nat, Int.natAbs_neg, Int.natAbs_natCast]

end Beyond

/-! ## Out of gas -/

/-- The attempt ends with an out-of-gas error, or its except clause finds a
transaction that ran out of gas on chain. -/
def RunsOutOfGas (m : Manager) (r : Round) : Prop :=
  (∃ message wanted used, r.result = .error (.outOfGas message wanted used)) ∨
    ∃ e ∈ r.handling, ∃ hash resp message wanted used, sighting e = some (hash, resp) ∧
      exceptionFromTxResponse m resp = some (.outOfGas message wanted used)

/-- The estimate of a submission, simulated or static. -/
def estimate (m : Manager) (call : Call) : ℤ := call.gasLimit.getD (estimateGas m call.typeUrl)

section Step

variable {m : Manager} {start attempt : ℕ} {s : Submission} {r : Round} {rounds : List Round} {g : ℤ}

/-- Without an out-of-gas error, only an accepted broadcast moves the limit in
force: to its own. -/
theorem base_of_sufficient (valid : r.Valid m start) (unresolved : r.entry.vars.finalFuture = none)
    (goesOn : r.control = .ok .continue) (enough : ¬ RunsOutOfGas m r) :
    r.exit.offer.gasBase m = if r.accepted m then r.gasLimit m else r.entry.offer.gasBase m := by
  obtain ⟨e, result, offer⟩ := valid.exit_offer unresolved goesOn
  have unseeded : seedOf m r.handling = none := by
    cases seed : seedOf m r.handling with
    | none => rfl
    | some limit =>
      obtain ⟨e, member, hash, resp, message, wanted, used, seen, raised, -⟩ := seedOf_eq_some seed
      exact (enough (.inr ⟨e, member, hash, resp, message, _, used, seen, raised⟩)).elim
  have kept : ∀ o : Offer, (o.after m r.attempt r.entry.pending.sameSeqRebroadcast r.handling e).gasBase m =
      o.gasBase m := by
    intro o
    cases e with
    | outOfGas message wanted used => exact (enough (.inl ⟨message, wanted, used, result⟩)).elim
    | txTimeout => rw [Offer.after, unseeded]; rfl
    | accountSequenceMismatch => rw [Offer.after, unseeded]; split <;> rfl
    | _ => rfl
  rw [offer, kept]
  split <;> rfl

end Step

/-! ## The ladder over a run -/

/-- Every transaction built in attempt `k` has the limit `int(g (1 + 3k/10))`. -/
def OnLadder (g : ℤ) (rounds : List Round) : Prop :=
  ∀ r ∈ rounds, ∀ tx ∈ r.built, tx.gasLimit = scaleGas g (gasMultiplier r.attempt)

/-- An attempt whose broadcast was accepted, and after which another transaction
is built, did not raise the estimate `g`. -/
def Uncompounded (m : Manager) (g : ℤ) (rounds : List Round) : Prop :=
  ∀ r q, [r, q].Sublist rounds → r.accepted m = true → q.built ≠ [] →
    3 * r.attempt * g.natAbs < 10

section Ladder

variable {m : Manager} {start attempt : ℕ} {s : Submission} {r : Round} {rounds later : List Round} {g : ℤ}

theorem uncompounded_cons : Uncompounded m g (r :: later) ↔
    (r.accepted m = true → (∃ q ∈ later, q.built ≠ []) → 3 * r.attempt * g.natAbs < 10) ∧
      Uncompounded m g later := by
  constructor
  · intro all
    refine ⟨?_, fun a b pair => all a b (pair.cons r)⟩
    rintro accepted ⟨q, member, built⟩
    exact all r q (List.cons_sublist_cons.mpr (List.singleton_sublist.mpr member)) accepted built
  · rintro ⟨head, tail⟩ a b pair accepted built
    cases pair with
    | cons _ pair => exact tail a b pair accepted built
    | cons_cons _ pair => exact head accepted ⟨b, List.singleton_sublist.mp pair, built⟩

/-- From the estimate on: as long as nothing compounds, every limit is on the ladder. -/
theorem onLadder_of_uncompounded (run : Rounds m start attempt s rounds)
    (unresolved : s.vars.finalFuture = none) (enough : ∀ r ∈ rounds, ¬ RunsOutOfGas m r)
    (base : s.offer.gasBase m = g) (sound : Uncompounded m g rounds) : OnLadder g rounds := by
  induction run with
  | last number entry valid ends =>
    intro r member tx built
    obtain rfl := List.mem_singleton.mp member
    rw [valid.built_gasLimit built, Round.gasLimit, Offer.gasLimit, entry, base]
  | @next attempt s first later number entry valid goesOn rest ih =>
    subst entry
    obtain ⟨head, tail⟩ := uncompounded_cons.mp sound
    have first_limit : first.gasLimit m = scaleGas g (gasMultiplier first.attempt) := by
      rw [Round.gasLimit, Offer.gasLimit, base]
    intro r member tx built
    rcases List.mem_cons.mp member with rfl | member
    · rw [valid.built_gasLimit built, first_limit]
    have handed : first.exit.offer.gasBase m = g := by
      rw [base_of_sufficient valid unresolved goesOn (enough first (.head _))]
      by_cases accepted : first.accepted m = true
      · rw [if_pos accepted, first_limit]
        exact scaleGas_gasMultiplier_eq.mpr (head accepted ⟨r, member, List.ne_nil_of_mem built⟩)
      · rw [if_neg accepted, base]
    exact ih (valid.goesOn_unresolved unresolved goesOn) (fun q there => enough q (.tail _ there)) handed
      tail r member tx built

/-- From a limit beyond the estimate on, no limit is on the ladder. -/
theorem offLadder_of_beyond (run : Rounds m start attempt s rounds)
    (unresolved : s.vars.finalFuture = none) (enough : ∀ r ∈ rounds, ¬ RunsOutOfGas m r)
    (beyond : Beyond g (s.offer.gasBase m)) :
    ∀ r ∈ rounds, ∀ tx ∈ r.built, tx.gasLimit ≠ scaleGas g (gasMultiplier r.attempt) := by
  induction run with
  | last number entry valid ends =>
    intro r member tx built
    obtain rfl := List.mem_singleton.mp member
    rw [valid.built_gasLimit built, Round.gasLimit, Offer.gasLimit, entry]
    exact beyond.scaled_ne (one_le_gasMultiplier _)
  | @next attempt s first later number entry valid goesOn rest ih =>
    subst entry
    intro r member tx built
    rcases List.mem_cons.mp member with rfl | member
    · rw [valid.built_gasLimit built, Round.gasLimit, Offer.gasLimit]
      exact beyond.scaled_ne (one_le_gasMultiplier _)
    have handed : Beyond g (first.exit.offer.gasBase m) := by
      rw [base_of_sufficient valid unresolved goesOn (enough first (.head _))]
      split
      · exact beyond.scaled (one_le_gasMultiplier _)
      · exact beyond
    exact ih (valid.goesOn_unresolved unresolved goesOn) (fun q there => enough q (.tail _ there)) handed
      r member tx built

theorem uncompounded_of_onLadder (run : Rounds m start attempt s rounds)
    (unresolved : s.vars.finalFuture = none) (enough : ∀ r ∈ rounds, ¬ RunsOutOfGas m r)
    (base : s.offer.gasBase m = g) (ladder : OnLadder g rounds) : Uncompounded m g rounds := by
  induction run with
  | last number entry valid ends =>
    intro r q pair
    cases pair with
    | cons _ pair => cases pair
    | cons_cons _ pair => cases pair
  | @next attempt s first later number entry valid goesOn rest ih =>
    subst entry
    have pending := valid.goesOn_unresolved unresolved goesOn
    have enough' : ∀ r ∈ later, ¬ RunsOutOfGas m r := fun q there => enough q (.tail _ there)
    have ladder' : OnLadder g later := fun q there => ladder q (.tail _ there)
    have handed := base_of_sufficient valid unresolved goesOn (enough first (.head _))
    have first_limit : first.gasLimit m = scaleGas g (gasMultiplier first.attempt) := by
      rw [Round.gasLimit, Offer.gasLimit, base]
    by_cases accepted : first.accepted m = true
    · rw [if_pos accepted, first_limit] at handed
      rcases scaleGas_eq_or_beyond (g := g) (one_le_gasMultiplier first.attempt) with same | beyond
      · rw [same] at handed
        exact uncompounded_cons.mpr
          ⟨fun _ _ => scaleGas_gasMultiplier_eq.mp same, ih pending enough' handed ladder'⟩
      · -- nothing can be built any more
        have off := offLadder_of_beyond rest pending enough' (handed ▸ beyond)
        refine uncompounded_cons.mpr ⟨?_, ?_⟩
        · rintro - ⟨q, there, builds⟩
          obtain ⟨tx, built⟩ := List.exists_mem_of_ne_nil _ builds
          exact (off q there tx built (ladder' q there tx built)).elim
        · intro r q pair _ builds
          obtain ⟨tx, built⟩ := List.exists_mem_of_ne_nil _ builds
          have there : q ∈ later := pair.subset (by simp)
          exact (off q there tx built (ladder' q there tx built)).elim
    · rw [if_neg accepted, base] at handed
      exact uncompounded_cons.mpr
        ⟨fun taken => (accepted taken).elim, ih pending enough' handed ladder'⟩

end Ladder

/-- In a run without out-of-gas results, attempt `k` builds with the limit
`int(g (1 + 3k/10))` throughout exactly when no attempt that raised the estimate
is accepted and followed by another transaction. -/
theorem gas_ladder_iff {m : Manager} {call : Call} {clock : ℕ} {cachedPrice : Option ℚ}
    {cachedAt : Option ℕ} {rounds : List Round} (run : call.Rounds m clock cachedPrice cachedAt rounds)
    (enough : ∀ r ∈ rounds, ¬ RunsOutOfGas m r) :
    OnLadder (estimate m call) rounds ↔ Uncompounded m (estimate m call) rounds :=
  ⟨uncompounded_of_onLadder run rfl enough rfl, onLadder_of_uncompounded run rfl enough rfl⟩

theorem enough_of_decided {m : Manager} {r : Round} {e : PyException} (result : r.result = .error e)
    (kind : ∀ message wanted used, e ≠ .outOfGas message wanted used)
    (unseen : r.handling.all (fun e => (sighting e).isNone) = true) : ¬ RunsOutOfGas m r := by
  rintro (⟨message, wanted, used, failed⟩ | ⟨e, member, hash, resp, -, -, -, seen, -⟩)
  · rw [result] at failed
    exact kind message wanted used (Except.error.inj failed)
  · have hidden := List.all_eq_true.mp unseen e member
    rw [seen] at hidden
    cases hidden

/-- The first broadcast times out and the second is refused: the third builds
with 480000. -/
def refusedOnce : List Ev → (request : Request) → Reply request :=
  answering (fun tx => if tx.gasLimit = 390000 then response 13 "insufficient fees" "" else
    response 0 "" (testnet.txHash tx)) fun _ _ => none

theorem gas_ladder_iff_refusedOnce :
    ((payload 2 none).played testnet refusedOnce).length = 3 ∧
      OnLadder 300000 ((payload 2 none).played testnet refusedOnce) := by
  have run : (payload 2 none).Rounds testnet 0 none none ((payload 2 none).played testnet refusedOnce) :=
    (payload 2 none).played_rounds
  have shape : ((payload 2 none).played testnet refusedOnce).map (fun r => (r.attempt, r.result,
      r.accepted testnet, r.handling.all fun e => (sighting e).isNone)) =
      [(0, .error (.txTimeout ""), true, true),
        (1, .error (.insufficientFees "insufficient fees: insufficient fees"), false, true),
        (2, .error (.txTimeout ""), true, true)] := by decide +kernel
  generalize (payload 2 none).played testnet refusedOnce = rounds at run shape ⊢
  obtain ⟨a, rest, rfl, first, shape⟩ := List.map_eq_cons_iff.mp shape
  obtain ⟨b, rest, rfl, second, shape⟩ := List.map_eq_cons_iff.mp shape
  obtain ⟨c, rest, rfl, third, shape⟩ := List.map_eq_cons_iff.mp shape
  obtain rfl := List.map_eq_nil_iff.mp shape
  simp only [Prod.mk.injEq] at first second third
  have enough : ∀ r ∈ [a, b, c], ¬ RunsOutOfGas testnet r := by
    simp only [List.forall_mem_cons, List.not_mem_nil, false_implies, implies_true, and_true]
    exact ⟨enough_of_decided first.2.1 (by simp) first.2.2.2,
      enough_of_decided second.2.1 (by simp) second.2.2.2,
      enough_of_decided third.2.1 (by simp) third.2.2.2⟩
  have estimated : estimate testnet (payload 2 none) = 300000 := by decide +kernel
  have uncompounded : Uncompounded testnet (estimate testnet (payload 2 none)) [a, b, c] := by
    rw [uncompounded_cons, uncompounded_cons, uncompounded_cons, first.1, second.2.2.1]
    refine ⟨fun _ _ => by simp, fun taken => (by cases taken), fun _ later => (by simp at later), ?_⟩
    intro r q pair
    cases pair
  exact ⟨rfl, estimated ▸ (gas_ladder_iff run enough).mpr uncompounded⟩

/-- Three accepted broadcasts: the third builds with 624000, not 480000. -/
theorem gas_ladder_compounds :
    ¬ ∀ {rounds : List Round}, (payload 2 none).Rounds testnet 0 none none rounds →
      (∀ r ∈ rounds, ¬ RunsOutOfGas testnet r) →
      OnLadder (estimate testnet (payload 2 none)) rounds := by
  intro claim
  have run : (payload 2 none).Rounds testnet 0 none none ((payload 2 none).played testnet stalling) :=
    (payload 2 none).played_rounds
  have shape : ((payload 2 none).played testnet stalling).map (fun r => (r.attempt, r.result,
      r.built.map (·.gasLimit), r.handling.all fun e => (sighting e).isNone)) =
      [(0, .error (.txTimeout ""), [300000], true), (1, .error (.txTimeout ""), [390000], true),
        (2, .error (.txTimeout ""), [624000], true)] := by decide +kernel
  generalize (payload 2 none).played testnet stalling = rounds at run shape
  obtain ⟨a, rest, rfl, first, shape⟩ := List.map_eq_cons_iff.mp shape
  obtain ⟨b, rest, rfl, second, shape⟩ := List.map_eq_cons_iff.mp shape
  obtain ⟨c, rest, rfl, third, shape⟩ := List.map_eq_cons_iff.mp shape
  obtain rfl := List.map_eq_nil_iff.mp shape
  simp only [Prod.mk.injEq] at first second third
  have enough : ∀ r ∈ [a, b, c], ¬ RunsOutOfGas testnet r := by
    simp only [List.forall_mem_cons, List.not_mem_nil, false_implies, implies_true, and_true]
    exact ⟨enough_of_decided first.2.1 (by simp) first.2.2.2,
      enough_of_decided second.2.1 (by simp) second.2.2.2,
      enough_of_decided third.2.1 (by simp) third.2.2.2⟩
  obtain ⟨tx, rest, built, limit, -⟩ := List.map_eq_cons_iff.mp third.2.2.1
  have rung := claim run enough c (by simp) tx (by rw [built]; exact .head _)
  rw [limit, third.1] at rung
  exact absurd rung (by decide +kernel)

/-! ## From one attempt to the next -/

/-- Every out-of-gas error reports the gas limit of the transaction that failed,
or nothing. An except clause looks the last accepted broadcast up. -/
structure ReportsOwnGas (m : Manager) (r : Round) : Prop where
  raised : ∀ message wanted used, r.result = .error (.outOfGas message wanted used) →
    wanted = none ∨ wanted = some (r.gasLimit m)
  landed : ∀ e ∈ r.handling, ∀ hash resp message wanted used, sighting e = some (hash, resp) →
    exceptionFromTxResponse m resp = some (.outOfGas message wanted used) →
    wanted = none ∨ wanted = if r.accepted m then some (r.gasLimit m) else r.entry.pending.lastGasLimit

/-- The attempt was not accepted, and its except clause starts again from the
limit of an older broadcast: after an out-of-gas error that reports nothing, or
from the landed transaction. -/
inductive FallsBack (m : Manager) (r : Round) : ℤ → Prop
  | unreported {last : ℤ} {message : String} {used : Option ℤ} (refused : r.accepted m = false)
      (known : r.entry.pending.lastGasLimit = some last)
      (result : r.result = .error (.outOfGas message none used)) :
      FallsBack m r (scaleGas last (13 / 10))
  | landed {last : ℤ} {e : PyException} (refused : r.accepted m = false)
      (known : r.entry.pending.lastGasLimit = some last) (result : r.result = .error e)
      (looks : e.isTxTimeout = true ∨ e.isMismatch = true ∧ r.entry.pending.sameSeqRebroadcast = true)
      (seeded : seedOf m r.handling ≠ none) : FallsBack m r (scaleGas last (6 / 5))

/-- The limits that an offer is computed from are not negative. -/
structure NonNegative (m : Manager) (o : Offer) : Prop where
  base : 0 ≤ o.gasBase m
  last : ∀ l, o.lastGasLimit = some l → 0 ≤ l

section Fallback

variable {m : Manager} {start : ℕ} {r : Round}

theorem after_lastGasLimit {attempt : ℕ} {flagged : Bool} {handling : List Ev} {o : Offer}
    {e : PyException} : (o.after m attempt flagged handling e).lastGasLimit = o.lastGasLimit := by
  have seeded : ∀ limit, (o.seeded limit).lastGasLimit = o.lastGasLimit := by
    intro limit
    cases limit <;> rfl
  cases e with
  | txTimeout => exact seeded _
  | accountSequenceMismatch =>
    cases flagged
    · rfl
    · exact seeded _
  | _ => rfl

/-- A limit from which the next attempt does not build lower. -/
theorem next_limit_ge {b : ℤ} (nonneg : 0 ≤ r.entry.offer.gasBase m)
    (enough : r.entry.offer.gasBase m ≤ b ∨ r.gasLimit m ≤ b) :
    r.gasLimit m ≤ scaleGas b (gasMultiplier (r.attempt + 1)) := by
  rcases enough with grown | reached
  · exact scaleGas_mono nonneg (gasMultiplier_nonneg _) grown (gasMultiplier_le_succ _)
  · have limit : 0 ≤ r.gasLimit m := scaleGas_nonneg nonneg (gasMultiplier_nonneg _)
    exact reached.trans (le_scaleGas (limit.trans reached) (one_le_gasMultiplier _))

theorem estimateGas_nonneg (adjusted : 0 < m.gasAdjustment) (typeUrl : String) :
    0 ≤ estimateGas m typeUrl := by
  unfold estimateGas
  split <;> exact scaleGas_nonneg (Int.natCast_nonneg _) adjusted.le

/-- The limit in force after the attempt: not below what the attempt built
with, or that of an older broadcast. -/
def Follows (m : Manager) (r : Round) (b : ℤ) : Prop :=
  (r.entry.offer.gasBase m ≤ b ∨ r.gasLimit m ≤ b) ∧ (∀ b', ¬ FallsBack m r b') ∨
    FallsBack m r b ∧ ∀ b', FallsBack m r b' → b' = b

theorem FallsBack.unique {b b' : ℤ} (falls : FallsBack m r b) (falls' : FallsBack m r b') : b' = b := by
  cases falls with
  | unreported refused known result =>
    cases falls' with
    | unreported refused' known' result' =>
      rw [known] at known'
      cases known'
      rfl
    | landed refused' known' result' looks =>
      rw [result] at result'
      cases result'
      rcases looks with kind | ⟨kind, -⟩ <;> cases kind
  | landed refused known result looks =>
    cases falls' with
    | unreported refused' known' result' =>
      rw [result] at result'
      cases result'
      rcases looks with kind | ⟨kind, -⟩ <;> cases kind
    | landed refused' known' =>
      rw [known] at known'
      cases known'
      rfl

/-- The offer that the except clause starts from. -/
theorem base_le_tried (nonneg : 0 ≤ r.entry.offer.gasBase m) : r.entry.offer.gasBase m ≤
    (if r.accepted m then r.entry.offer.sent (r.gasLimit m) else r.entry.offer).gasBase m := by
  split
  · exact le_scaleGas nonneg (one_le_gasMultiplier _)
  · exact le_rfl

theorem not_fallsBack_of_accepted (accepted : r.accepted m = true) (b : ℤ) : ¬ FallsBack m r b := by
  intro falls
  cases falls with
  | unreported refused => rw [accepted] at refused; cases refused
  | landed refused => rw [accepted] at refused; cases refused

theorem not_fallsBack_of_result {e : PyException} (result : r.result = .error e)
    (reported : ∀ message used, e ≠ .outOfGas message none used)
    (unseeded : e.isTxTimeout = true ∨ e.isMismatch = true ∧ r.entry.pending.sameSeqRebroadcast = true →
      seedOf m r.handling = none) (b : ℤ) : ¬ FallsBack m r b := by
  intro falls
  cases falls with
  | unreported refused known result' =>
    rw [result] at result'
    exact reported _ _ (Except.error.inj result')
  | landed refused known result' looks seeded =>
    rw [result] at result'
    cases result'
    exact seeded (unseeded looks)

theorem suggested_nonneg {o : Offer} {wanted : Option ℤ} (nonneg : NonNegative m o)
    (estimated : 0 ≤ estimateGas m o.typeUrl) (reported : ∀ w, wanted = some w → 0 ≤ w) :
    0 ≤ o.suggested m wanted := by
  unfold Offer.suggested
  split
  · rename_i w present
    exact scaleGas_nonneg (reported w (Option.filter_eq_some_iff.mp present).1) (by norm_num)
  split
  · rename_i last known
    exact scaleGas_nonneg (nonneg.last last known) (by norm_num)
  split
  · rename_i current inForce
    have base := nonneg.base
    rw [Offer.gasBase, inForce] at base
    exact scaleGas_nonneg base (by norm_num)
  · exact scaleGas_nonneg estimated (by norm_num)

/-- Without a report and without an accepted broadcast, the limit in force is raised. -/
theorem base_le_suggested {o : Offer} (nonneg : 0 ≤ o.gasBase m) (unknown : o.lastGasLimit = none) :
    o.gasBase m ≤ o.suggested m none := by
  cases inForce : o.currentGasLimit with
  | some current =>
    have base : o.gasBase m = current := by rw [Offer.gasBase, inForce, Option.getD_some]
    have next : o.suggested m none = scaleGas current (13 / 10) := by simp [Offer.suggested, unknown, inForce]
    rw [base] at nonneg ⊢
    rw [next]
    exact le_scaleGas nonneg (by norm_num)
  | none =>
    have base : o.gasBase m = estimateGas m o.typeUrl := by rw [Offer.gasBase, inForce, Option.getD_none]
    have next : o.suggested m none = scaleGas (estimateGas m o.typeUrl) (3 / 2) := by
      simp [Offer.suggested, unknown, inForce]
    rw [base] at nonneg ⊢
    rw [next]
    exact le_scaleGas nonneg (by norm_num)

theorem NonNegative.limit (nonneg : NonNegative m r.entry.offer) : 0 ≤ r.gasLimit m :=
  scaleGas_nonneg nonneg.base (gasMultiplier_nonneg _)

theorem NonNegative.tried (nonneg : NonNegative m r.entry.offer) :
    NonNegative m (if r.accepted m then r.entry.offer.sent (r.gasLimit m) else r.entry.offer) := by
  split
  · refine ⟨nonneg.limit, ?_⟩
    rintro l ⟨⟩
    exact nonneg.limit
  · exact nonneg

theorem follows_suggested {message : String} {wanted used : Option ℤ}
    (nonneg : NonNegative m r.entry.offer) (estimated : 0 ≤ estimateGas m r.entry.pending.typeUrl)
    (result : r.result = .error (.outOfGas message wanted used))
    (reports : wanted = none ∨ wanted = some (r.gasLimit m)) :
    Follows m r ((if r.accepted m then r.entry.offer.sent (r.gasLimit m)
      else r.entry.offer).suggested m wanted) := by
  rcases reports with rfl | rfl
  · by_cases accepted : r.accepted m = true
    · rw [if_pos accepted]
      have raised : r.gasLimit m ≤ scaleGas (r.gasLimit m) (13 / 10) := le_scaleGas nonneg.limit (by norm_num)
      exact .inl ⟨.inr raised, not_fallsBack_of_accepted accepted⟩
    · rw [if_neg accepted]
      cases known : r.entry.offer.lastGasLimit with
      | some last =>
        have falls : FallsBack m r (scaleGas last (13 / 10)) :=
          .unreported (Bool.eq_false_iff.mpr accepted) known result
        have base : r.entry.offer.suggested m none = scaleGas last (13 / 10) := by
          simp [Offer.suggested, known]
        rw [base]
        exact .inr ⟨falls, fun _ => falls.unique⟩
      | none =>
        refine .inl ⟨.inl (base_le_suggested nonneg.base known), fun b falls => ?_⟩
        cases falls with
        | unreported refused known' => cases known.symm.trans known'
        | landed refused known' => cases known.symm.trans known'
  · have nothing : ∀ b, ¬ FallsBack m r b :=
      not_fallsBack_of_result result (by simp) (by simp [PyException.isTxTimeout, PyException.isMismatch])
    by_cases zero : r.gasLimit m = 0
    · refine .inl ⟨.inr ?_, nothing⟩
      have estimated' : 0 ≤ estimateGas m
          (if r.accepted m then r.entry.offer.sent (r.gasLimit m) else r.entry.offer).typeUrl := by
        split <;> exact estimated
      rw [zero]
      refine suggested_nonneg (zero ▸ nonneg.tried) (zero ▸ estimated') ?_
      rintro w ⟨⟩
      exact le_rfl
    · have base : ∀ o : Offer, o.suggested m (some (r.gasLimit m)) = scaleGas (r.gasLimit m) (6 / 5) := by
        intro o
        simp [Offer.suggested, Option.filter, zero]
      rw [base]
      exact .inl ⟨.inr (le_scaleGas nonneg.limit (by norm_num)), nothing⟩

theorem follows_seeded {e : PyException} (nonneg : NonNegative m r.entry.offer)
    (result : r.result = .error e)
    (looks : e.isTxTimeout = true ∨ e.isMismatch = true ∧ r.entry.pending.sameSeqRebroadcast = true)
    (reports : ReportsOwnGas m r) :
    Follows m r (((if r.accepted m then r.entry.offer.sent (r.gasLimit m)
      else r.entry.offer).seeded (seedOf m r.handling)).gasBase m) := by
  have outside : ∀ message used, e ≠ .outOfGas message none used := by
    rintro message used rfl
    rcases looks with kind | ⟨kind, -⟩ <;> cases kind
  cases seed : seedOf m r.handling with
  | none =>
    exact .inl ⟨.inl (base_le_tried nonneg.base),
      not_fallsBack_of_result result outside fun _ => seed⟩
  | some limit =>
    obtain ⟨ev, member, hash, resp, message, wanted, used, seen, failed, rfl⟩ := seedOf_eq_some seed
    have own := (reports.landed ev member hash resp message _ used seen failed).resolve_left (by simp)
    have base : ∀ o : Offer, (o.seeded (some (scaleGas wanted (6 / 5)))).gasBase m = scaleGas wanted (6 / 5) :=
      fun _ => rfl
    rw [base]
    by_cases accepted : r.accepted m = true
    · rw [if_pos accepted] at own
      obtain rfl := Option.some.inj own
      exact .inl ⟨.inr (le_scaleGas nonneg.limit (by norm_num)), not_fallsBack_of_accepted accepted⟩
    · rw [if_neg accepted] at own
      have falls : FallsBack m r (scaleGas wanted (6 / 5)) :=
        .landed (Bool.eq_false_iff.mpr accepted) own.symm result looks (by simp [seed])
      exact .inr ⟨falls, fun _ => falls.unique⟩

/-- Every except clause that goes on leaves such a limit in force. -/
theorem exit_follows (valid : r.Valid m start) (unresolved : r.entry.vars.finalFuture = none)
    (goesOn : r.control = .ok .continue) (reports : ReportsOwnGas m r) (adjusted : 0 < m.gasAdjustment)
    (nonneg : NonNegative m r.entry.offer) : Follows m r (r.exit.offer.gasBase m) := by
  obtain ⟨e, result, offer⟩ := valid.exit_offer unresolved goesOn
  rw [offer]
  have kept : (∀ b, ¬ FallsBack m r b) → Follows m r
      ((if r.accepted m then r.entry.offer.sent (r.gasLimit m) else r.entry.offer).gasBase m) :=
    fun nothing => .inl ⟨.inl (base_le_tried nonneg.base), nothing⟩
  cases e with
  | outOfGas message wanted used =>
    exact follows_suggested nonneg (estimateGas_nonneg adjusted _) result (reports.raised message wanted used result)
  | txTimeout => exact follows_seeded nonneg result (.inl rfl) reports
  | accountSequenceMismatch =>
    cases flag : r.entry.pending.sameSeqRebroadcast with
    | true => exact follows_seeded nonneg result (.inr ⟨rfl, flag⟩) reports
    | false =>
      refine kept (not_fallsBack_of_result result (by simp) ?_)
      rintro (kind | ⟨-, flagged⟩)
      · cases kind
      · rw [flag] at flagged
        cases flagged
  | _ => exact kept (not_fallsBack_of_result result (by simp) (by simp [PyException.isTxTimeout, PyException.isMismatch]))

end Fallback

section Descent

variable {m : Manager} {start : ℕ} {r : Round}

theorem FallsBack.nonneg {b : ℤ} (falls : FallsBack m r b) (nonneg : NonNegative m r.entry.offer) : 0 ≤ b := by
  cases falls with
  | unreported refused known => exact scaleGas_nonneg (nonneg.last _ known) (by norm_num)
  | landed refused known => exact scaleGas_nonneg (nonneg.last _ known) (by norm_num)

theorem Follows.nonneg {b : ℤ} (follows : Follows m r b) (nonneg : NonNegative m r.entry.offer) : 0 ≤ b := by
  obtain ⟨raised | reached, -⟩ | ⟨falls, -⟩ := follows
  · exact nonneg.base.trans raised
  · exact nonneg.limit.trans reached
  · exact falls.nonneg nonneg

/-- What an attempt hands on stays non-negative. -/
theorem exit_nonNegative (valid : r.Valid m start) (unresolved : r.entry.vars.finalFuture = none)
    (goesOn : r.control = .ok .continue) (reports : ReportsOwnGas m r) (adjusted : 0 < m.gasAdjustment)
    (nonneg : NonNegative m r.entry.offer) : NonNegative m r.exit.offer := by
  constructor
  · exact (exit_follows valid unresolved goesOn reports adjusted nonneg).nonneg nonneg
  · obtain ⟨e, -, offer⟩ := valid.exit_offer unresolved goesOn
    rw [offer, after_lastGasLimit]
    exact nonneg.tried.last

theorem entered_nonNegative {call : Call} {clock : ℕ} {cachedPrice : Option ℚ} {cachedAt : Option ℕ}
    (adjusted : 0 < m.gasAdjustment) (positive : ∀ g, call.gasLimit = some g → 0 < g) :
    NonNegative m (call.entered clock cachedPrice cachedAt).offer := by
  constructor
  · change 0 ≤ call.gasLimit.getD (estimateGas m call.typeUrl)
    cases given : call.gasLimit with
    | some g => exact (positive g given).le
    | none => exact estimateGas_nonneg adjusted _
  · rintro l ⟨⟩

end Descent

/-- Two attempts in a row that build: the second limit is below the first only
where the except clause between them falls back on an older broadcast that the
limit in force has outgrown. -/
theorem gas_limit_rises_iff {m : Manager} {call : Call} {clock : ℕ} {cachedPrice : Option ℚ}
    {cachedAt : Option ℕ} {rounds : List Round} {r q : Round} {tx tx' : Tx}
    (run : call.Rounds m clock cachedPrice cachedAt rounds) (adjusted : 0 < m.gasAdjustment)
    (positive : ∀ g, call.gasLimit = some g → 0 < g) (reports : ∀ r ∈ rounds, ReportsOwnGas m r)
    (successive : [r, q] <:+: rounds) (built : tx ∈ r.built) (built' : tx' ∈ q.built) :
    tx.gasLimit ≤ tx'.gasLimit ↔
      ∀ b, FallsBack m r b → r.gasLimit m ≤ scaleGas b (gasMultiplier (r.attempt + 1)) := by
  have sound := run.invariant (fun s => NonNegative m s.offer) rfl (entered_nonNegative adjusted positive)
    fun r member valid pending goesOn nonneg =>
      exit_nonNegative valid pending goesOn (reports r member) adjusted nonneg
  obtain ⟨before, after, rfl⟩ := successive
  simp only [List.append_assoc, List.cons_append, List.nil_append] at run sound reports
  have member : r ∈ before ++ r :: q :: after := by simp
  obtain ⟨goesOn, number, entry⟩ := run.successive
  obtain ⟨pending, nonneg⟩ := sound r member
  have follows := exit_follows (run.valid member) pending goesOn (reports r member) adjusted nonneg
  have next : tx'.gasLimit = scaleGas (r.exit.offer.gasBase m) (gasMultiplier (r.attempt + 1)) := by
    rw [(run.valid (by simp)).built_gasLimit built', Round.gasLimit, Offer.gasLimit, number, entry]
  rw [(run.valid member).built_gasLimit built, next]
  obtain ⟨enough, nothing⟩ | ⟨falls, only⟩ := follows
  · exact iff_of_true (next_limit_ge nonneg.base enough) fun b falls => (nothing b falls).elim
  · constructor
    · intro rises b falls'
      rw [only b falls']
      exact rises
    · intro all
      exact all _ falls

/-- The first broadcast is accepted and never found. CheckTx finds the next two
out of gas, and reports the limit of the first of them only. -/
def reportingOnce : List Ev → (request : Request) → Reply request :=
  answering (fun tx =>
    if tx.gasLimit = 390000 then { response 11 "out of gas" "" with gasWanted := 390000 }
    else if tx.gasLimit = 748800 then response 11 "out of gas" ""
    else response 0 "" (testnet.txHash tx)) fun _ _ => none

theorem reports_of_decided {m : Manager} {r : Round} {e : PyException} (result : r.result = .error e)
    (own : ∀ message wanted used, e = .outOfGas message wanted used →
      wanted = none ∨ wanted = some (r.gasLimit m))
    (unseen : r.handling.all (fun e => (sighting e).isNone) = true) : ReportsOwnGas m r := by
  constructor
  · intro message wanted used failed
    rw [result] at failed
    exact own message wanted used (Except.error.inj failed)
  · intro ev member hash resp message wanted used seen
    have hidden := List.all_eq_true.mp unseen ev member
    rw [seen] at hidden
    cases hidden

theorem reportingOnce_rounds : ∃ a b c d : Round,
    (payload 3 none).played testnet reportingOnce = [a, b, c, d] ∧
    (∀ r ∈ [a, b, c, d], ReportsOwnGas testnet r) ∧
    b.result = .error (.outOfGas "Transaction ran out of gas: out of gas" (some 390000) none) ∧
    (∃ tx ∈ b.built, tx.gasLimit = 390000) ∧ (∃ tx ∈ c.built, tx.gasLimit = 748800) ∧
    ∃ tx ∈ d.built, tx.gasLimit = 741000 := by
  have shape : ((payload 3 none).played testnet reportingOnce).map (fun r => (r.result,
      r.gasLimit testnet, r.built.map (·.gasLimit), r.handling.all fun e => (sighting e).isNone)) =
      [(.error (.txTimeout ""), 300000, [300000], true),
        (.error (.outOfGas "Transaction ran out of gas: out of gas" (some 390000) none), 390000,
          [390000], true),
        (.error (.outOfGas "Transaction ran out of gas: out of gas" none none), 748800, [748800], true),
        (.error (.txTimeout ""), 741000, [741000], true)] := by decide +kernel
  obtain ⟨a, rest, same, first, shape⟩ := List.map_eq_cons_iff.mp shape
  obtain ⟨b, rest, rfl, second, shape⟩ := List.map_eq_cons_iff.mp shape
  obtain ⟨c, rest, rfl, third, shape⟩ := List.map_eq_cons_iff.mp shape
  obtain ⟨d, rest, rfl, fourth, shape⟩ := List.map_eq_cons_iff.mp shape
  obtain rfl := List.map_eq_nil_iff.mp shape
  simp only [Prod.mk.injEq] at first second third fourth
  have builds : ∀ {r : Round} {limit : ℤ}, r.built.map (·.gasLimit) = [limit] →
      ∃ tx ∈ r.built, tx.gasLimit = limit := by
    intro r limit built
    obtain ⟨tx, rest, built, same, -⟩ := List.map_eq_cons_iff.mp built
    exact ⟨tx, by rw [built]; exact .head _, same⟩
  refine ⟨a, b, c, d, same, ?_, second.1, builds second.2.2.1, builds third.2.2.1, builds fourth.2.2.1⟩
  simp only [List.forall_mem_cons, List.not_mem_nil, false_implies, implies_true, and_true]
  refine ⟨reports_of_decided first.1 (by simp) first.2.2.2, reports_of_decided second.1 ?_ second.2.2.2,
    reports_of_decided third.1 ?_ third.2.2.2, reports_of_decided fourth.1 (by simp) fourth.2.2.2⟩
  · rintro message wanted used ⟨⟩
    exact .inr (by rw [second.2.1])
  · rintro message wanted used ⟨⟩
    exact .inl rfl

theorem gas_limit_rises_iff_reported :
    ∃ r q : Round, [r, q] <:+: (payload 3 none).played testnet reportingOnce ∧
      r.result = .error (.outOfGas "Transaction ran out of gas: out of gas" (some 390000) none) ∧
      ∃ tx ∈ r.built, ∃ tx' ∈ q.built, tx.gasLimit ≤ tx'.gasLimit := by
  have run : (payload 3 none).Rounds testnet 0 none none ((payload 3 none).played testnet reportingOnce) :=
    (payload 3 none).played_rounds
  obtain ⟨a, b, c, d, same, reports, result, ⟨tx, built, -⟩, ⟨tx', built', -⟩, -⟩ := reportingOnce_rounds
  rw [same] at run ⊢
  have nothing : ∀ base, ¬ FallsBack testnet b base :=
    not_fallsBack_of_result result (by simp) (by simp [PyException.isTxTimeout, PyException.isMismatch])
  refine ⟨b, c, ⟨[a], [d], rfl⟩, result, tx, built, tx', built', ?_⟩
  exact (gas_limit_rises_iff run (by decide +kernel) (by rintro g ⟨⟩) reports ⟨[a], [d], rfl⟩ built
    built').mpr fun base falls => (nothing base falls).elim

/-- Out of gas at 748800 without a report, the last attempt falls back on the
first one's 300000 and builds with 741000. -/
theorem gas_limit_falls :
    ¬ ∀ {rounds : List Round} {r q : Round} {tx tx' : Tx},
      (payload 3 none).Rounds testnet 0 none none rounds → (∀ r ∈ rounds, ReportsOwnGas testnet r) →
      [r, q] <:+: rounds → tx ∈ r.built → tx' ∈ q.built → tx.gasLimit ≤ tx'.gasLimit := by
  intro claim
  have run : (payload 3 none).Rounds testnet 0 none none ((payload 3 none).played testnet reportingOnce) :=
    (payload 3 none).played_rounds
  obtain ⟨a, b, c, d, same, reports, -, -, ⟨tx, built, limit⟩, tx', built', limit'⟩ := reportingOnce_rounds
  rw [same] at run
  have rises := claim run reports ⟨[a, b], [], rfl⟩ built built'
  rw [limit, limit'] at rises
  exact absurd rises (by decide)

end AlloraSdk.Guarantees
