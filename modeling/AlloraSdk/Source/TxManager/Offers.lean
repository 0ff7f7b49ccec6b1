import Mathlib.Data.Rat.Floor
import Mathlib.Tactic.Positivity
import AlloraSdk.Source.TxManager.Rounds

/-!
# The gas limit and the fee of an attempt

What `_attempt_submissions` keeps from one attempt to the next for the gas limit
and the fee is an `Offer`: the limit in force, the limit of the last accepted
broadcast and the fee multiplier. `Offer.after` says how an except clause
changes it.
-/

namespace AlloraSdk.Source.TxManager
open AlloraSdk.Logic

/-! ## Truncation -/

theorem truncate_of_nonneg {q : ℚ} (nonneg : 0 ≤ q) : truncate q = ⌊q⌋ := by
  rw [truncate, Rat.floor_def', Int.tdiv_eq_ediv_of_nonneg (Rat.num_nonneg.mpr nonneg)]

theorem truncate_neg (q : ℚ) : truncate (-q) = -truncate q := by
  rw [truncate, truncate, Rat.num_neg_eq_neg_num, Rat.den_neg_eq_den, Int.neg_tdiv]

theorem truncate_nonneg {q : ℚ} (nonneg : 0 ≤ q) : 0 ≤ truncate q := by
  rw [truncate_of_nonneg nonneg]
  exact Int.floor_nonneg.mpr nonneg

theorem truncate_mono {p q : ℚ} (nonneg : 0 ≤ p) (le : p ≤ q) : truncate p ≤ truncate q := by
  rw [truncate_of_nonneg nonneg, truncate_of_nonneg (nonneg.trans le)]
  exact Int.floor_le_floor le

theorem scaleGas_neg (n : ℤ) (q : ℚ) : scaleGas (-n) q = -scaleGas n q := by
  rw [scaleGas, scaleGas, ← truncate_neg]
  push_cast
  rw [neg_mul]

theorem scaleGas_one (n : ℤ) : scaleGas n 1 = n := by
  simp [scaleGas, truncate]

theorem scaleGas_nonneg {n : ℤ} {q : ℚ} (n_nonneg : 0 ≤ n) (q_nonneg : 0 ≤ q) :
    0 ≤ scaleGas n q := by
  have factor : (0 : ℚ) ≤ n := by exact_mod_cast n_nonneg
  exact truncate_nonneg (mul_nonneg factor q_nonneg)

theorem scaleGas_mono {n n' : ℤ} {q q' : ℚ} (n_nonneg : 0 ≤ n) (q_nonneg : 0 ≤ q) (n_le : n ≤ n')
    (q_le : q ≤ q') : scaleGas n q ≤ scaleGas n' q' := by
  have factor : (0 : ℚ) ≤ n := by exact_mod_cast n_nonneg
  have grown : (n : ℚ) ≤ n' := by exact_mod_cast n_le
  exact truncate_mono (mul_nonneg factor q_nonneg)
    (mul_le_mul grown q_le q_nonneg (factor.trans grown))

/-- A multiplier of at least one does not lower a limit. -/
theorem le_scaleGas {n : ℤ} {q : ℚ} (nonneg : 0 ≤ n) (atLeast : 1 ≤ q) : n ≤ scaleGas n q :=
  calc n = scaleGas n 1 := (scaleGas_one n).symm
    _ ≤ scaleGas n q := scaleGas_mono nonneg zero_le_one le_rfl atLeast

theorem one_le_gasMultiplier (attempt : ℕ) : 1 ≤ gasMultiplier attempt := by
  unfold gasMultiplier
  have : (0 : ℚ) ≤ attempt := Nat.cast_nonneg _
  linarith

theorem gasMultiplier_nonneg (attempt : ℕ) : 0 ≤ gasMultiplier attempt :=
  zero_le_one.trans (one_le_gasMultiplier attempt)

theorem gasMultiplier_le_succ (attempt : ℕ) : gasMultiplier attempt ≤ gasMultiplier (attempt + 1) := by
  unfold gasMultiplier
  push_cast
  linarith

/-! ## Offers -/

/-- What the gas limit and the fee of the next attempt are computed from. -/
@[ext] structure Offer where
  typeUrl : String
  currentGasLimit : Option ℤ
  lastGasLimit : Option ℤ
  feeMultiplier : ℚ

def Submission.offer (s : Submission) : Offer where
  typeUrl := s.pending.typeUrl
  currentGasLimit := s.currentGasLimit
  lastGasLimit := s.pending.lastGasLimit
  feeMultiplier := s.feeMultiplier

namespace Offer

/-- The limit that the multiplier of the attempt is applied to. -/
def gasBase (m : Manager) (o : Offer) : ℤ := o.currentGasLimit.getD (estimateGas m o.typeUrl)

/-- The gas limit of the transaction that attempt number `attempt` builds. -/
def gasLimit (m : Manager) (o : Offer) (attempt : ℕ) : ℤ :=
  scaleGas (o.gasBase m) (gasMultiplier attempt)

/-- The fee of that transaction, at a gas price and a congestion multiplier. -/
def fee (m : Manager) (o : Offer) (attempt : ℕ) (price : ℚ) (congestion : Option ℚ) : ℤ :=
  truncate (o.gasLimit m attempt * (price * o.feeMultiplier * congestionFactor congestion))

/-- After a broadcast with this limit was accepted. -/
@[simps] def sent (o : Offer) (limit : ℤ) : Offer :=
  { o with currentGasLimit := some limit, lastGasLimit := some limit }

/-- The limit that the OutOfGasError handler suggests. -/
def suggested (m : Manager) (o : Offer) (gasWanted : Option ℤ) : ℤ :=
  match gasWanted.filter (· ≠ 0) with
  | some wanted => scaleGas wanted (6 / 5)
  | none =>
    match o.lastGasLimit with
    | some last => scaleGas last (13 / 10)
    | none =>
      match o.currentGasLimit with
      | some current => scaleGas current (13 / 10)
      | none => scaleGas (estimateGas m o.typeUrl) (3 / 2)

def seeded (o : Offer) : Option ℤ → Offer
  | some limit => { o with currentGasLimit := some limit }
  | none => o

end Offer

/-- What a lookup of a hash found. -/
def lookedUp : Ev → Option (Option (String × TxResponse))
  | ⟨.query (.getTx hash within), reply⟩ => some (sighting ⟨.query (.getTx hash within), reply⟩)
  | _ => none

/-- What the last lookup of `trace` found. -/
def lastLookup (trace : List Ev) : Option (String × TxResponse) :=
  (trace.filterMap lookedUp).getLast?.join

/-- The limit seeded from the transaction that the last lookup found landed. -/
def seedOf (m : Manager) (trace : List Ev) : Option ℤ :=
  (lastLookup trace).bind fun found => landedGasSeed (exceptionFromTxResponse m found.2)

/-- The except clause for `e`, when it goes on: what it makes of an offer.
`flagged` is `_same_seq_rebroadcast`, `handling` the events of the clause. -/
def Offer.after (m : Manager) (attempt : ℕ) (flagged : Bool) (handling : List Ev) (o : Offer) :
    PyException → Offer
  | .outOfGas _ wanted _ => { o with currentGasLimit := some (o.suggested m wanted) }
  | .insufficientFees _ => { o with feeMultiplier := 1 + attempt * (1 / 2) }
  | .txTimeout _ => o.seeded (seedOf m handling)
  | .accountSequenceMismatch _ => if flagged then o.seeded (seedOf m handling) else o
  | _ => o

/-! ## Lookups -/

theorem lastLookup_append {first rest : List Ev} (silent : rest.filterMap lookedUp = []) :
    lastLookup (first ++ rest) = lastLookup first := by
  rw [lastLookup, lastLookup, List.filterMap_append, silent, List.append_nil]

theorem lastLookup_of_lookup {first rest : List Ev} (looks : rest.filterMap lookedUp ≠ []) :
    lastLookup (first ++ rest) = lastLookup rest := by
  rw [lastLookup, lastLookup, List.filterMap_append, List.getLast?_append_of_ne_nil _ looks]

theorem lastLookup_snoc {first : List Ev} {e : Ev} {found : Option (String × TxResponse)}
    (look : lookedUp e = some found) : lastLookup (first ++ [e]) = found := by
  simp [lastLookup, look]

theorem lookedUp_unseen {e : Ev} {found : Option (String × TxResponse)} (unseen : sighting e = none)
    (look : lookedUp e = some found) : found = none := by
  unfold lookedUp at look
  split at look
  · rw [unseen] at look
    exact (Option.some.inj look).symm
  · cases look

theorem lastLookup_mem {trace : List Ev} {found : String × TxResponse}
    (last : lastLookup trace = some found) : ∃ e ∈ trace, sighting e = some found := by
  have member := List.mem_of_getLast? (Option.join_eq_some_iff.mp last)
  obtain ⟨e, present, look⟩ := List.mem_filterMap.mp member
  refine ⟨e, present, ?_⟩
  unfold lookedUp at look
  split at look
  · exact Option.some.inj look
  · cases look

theorem lastLookup_unseen {trace : List Ev} (unseen : Unseen trace) : lastLookup trace = none := by
  have every : ∀ found ∈ trace.filterMap lookedUp, found = none := by
    intro found member
    obtain ⟨e, present, look⟩ := List.mem_filterMap.mp member
    exact lookedUp_unseen (unseen e present) look
  rw [lastLookup]
  cases last : (trace.filterMap lookedUp).getLast? with
  | none => rfl
  | some found => rw [every found (List.mem_of_getLast? last)]; rfl

theorem seedOf_append {m : Manager} {first rest : List Ev} (silent : rest.filterMap lookedUp = []) :
    seedOf m (first ++ rest) = seedOf m first := by
  rw [seedOf, lastLookup_append silent, seedOf]

theorem seedOf_unseen {m : Manager} {trace : List Ev} (unseen : Unseen trace) :
    seedOf m trace = none := by
  rw [seedOf, lastLookup_unseen unseen, Option.bind_none]

/-- Only an out-of-gas transaction seeds a limit. -/
theorem seedOf_eq_some {m : Manager} {trace : List Ev} {limit : ℤ} (seed : seedOf m trace = some limit) :
    ∃ e ∈ trace, ∃ hash resp message wanted used, sighting e = some (hash, resp) ∧
      exceptionFromTxResponse m resp = some (.outOfGas message (some wanted) used) ∧
      limit = scaleGas wanted (6 / 5) := by
  obtain ⟨⟨hash, resp⟩, last, landed⟩ := Option.bind_eq_some_iff.mp seed
  obtain ⟨e, member, seen⟩ := lastLookup_mem last
  unfold landedGasSeed at landed
  split at landed
  · rename_i message wanted used raised
    split at landed
    · cases landed
    · exact ⟨e, member, hash, resp, message, wanted, used, seen, raised, (Option.some.inj landed).symm⟩
  · cases landed

theorem lookups_of_sleeps {trace : List Ev} (sleeps : ∀ e ∈ trace, ∃ delay, e.request = .sleep delay) :
    trace.filterMap lookedUp = [] := by
  refine List.filterMap_eq_nil_iff.mpr fun e member => ?_
  obtain ⟨delay, same⟩ := sleeps e member
  unfold lookedUp
  split
  · cases same
  · rfl

/-! ## What leaves the offer alone -/

section Keeps

theorem outcome_keeps (query : Query) : Routine.Keeps Submission.offer (outcome query) :=
  .bind (.await _) fun _ => .bind (.update fun _ => rfl) fun _ => .pure _

theorem sleep_keeps (duration : ℕ) : Routine.Keeps Submission.offer (sleep duration) :=
  .bind (.await _) fun _ => .update fun _ => rfl

theorem settle_keeps (result : Except PyException TxResponse) :
    Routine.Keeps Submission.offer (settle result) := by
  refine .bind .state fun s => ?_
  split
  · exact .pure _
  · exact .bind (.await _) fun _ => .update fun _ => rfl

theorem bailIfLanded_keeps (m : Manager) : Routine.Keeps Submission.offer (bailIfLanded m) := by
  refine .bind (.update fun _ => rfl) fun _ => .bind .state fun s => ?_
  split
  · exact .pure _
  · refine .bind (.bind (outcome_keeps _) fun _ => .pure _) fun landed => ?_
    split
    · exact .pure _
    · split
      · exact .bind (.update fun _ => rfl) fun _ => .pure _
      · exact .bind (settle_keeps _) fun _ => .pure _

theorem confirmLandedWithGrace_keeps (m : Manager) (checks : ℕ) :
    Routine.Keeps Submission.offer (confirmLandedWithGrace m checks) := by
  induction checks with
  | zero => exact .pure _
  | succ checks ih =>
    refine .bind (sleep_keeps _) fun _ => .bind (bailIfLanded_keeps m) fun outcome => ?_
    split
    · exact ih
    · exact .pure _

theorem giveUpOr_keeps {start attempt : ℕ} {err : PyException} {next : Act Control}
    (rest : Routine.Keeps Submission.offer next) :
    Routine.Keeps Submission.offer (giveUpOr start attempt err next) := by
  refine .bind (.bind .state fun s => ?_) fun spent => ?_
  · split
    · exact .pure _
    · split
      · exact .pure _
      · exact .bind (.ofExcept _) fun _ => .pure _
  · split
    · exact .bind (settle_keeps _) fun _ => .pure _
    · exact rest

theorem retryAfterMismatch_keeps (m : Manager) (start attempt : ℕ) :
    Routine.Keeps Submission.offer (retryAfterMismatch m start attempt) := by
  refine giveUpOr_keeps ?_
  unfold awaitSequenceRetryDelay
  split
  · exact .pure _
  · refine .bind .state fun s => .bind (.ofExcept _) fun delayed => .bind (sleep_keeps _) fun _ =>
      .bind .state fun t => .bind (.ofExcept _) fun pastEnd => ?_
    split
    · exact .bind (settle_keeps _) fun _ => .pure _
    · exact .pure _

end Keeps

/-! ## The except clauses -/

section Clauses

variable {m : Manager} {start attempt : ℕ} {s s' : Submission} {trace : List Ev}

/-- The error that `_bail_if_landed` leaves for the seed is the one it looked up. -/
theorem bailIfLanded_retry (run : (bailIfLanded m).Runs s trace (.ok .retryNewSequence) s') :
    ∃ hash took resp, s.vars.lastTxHash.filter (· ≠ "") = some hash ∧
      trace = [⟨.query (.getTx hash none), (took, .ok (some resp))⟩] ∧
      s'.pending.lastLandedError = exceptionFromTxResponse m resp := by
  have run₁ := Routine.runs_state_bind.mp (Routine.runs_update_bind.mp run)
  split at run₁
  · cases (Routine.runs_pure.mp run₁).2.1
  rename_i hash known
  simp only [tryConfirmLanded, bind_assoc, pure_bind] at run₁
  obtain ⟨took, answer, rest, rfl, run₂⟩ := outcome_bind_runs.mp run₁
  split at run₂
  · cases (Routine.runs_pure.mp run₂).2.1
  rename_i resp found
  obtain rfl := getTxVerdict_toOption found
  split at run₂
  · have run₃ := Routine.runs_update_bind.mp run₂
    obtain ⟨rfl, -, rfl⟩ := Routine.runs_pure.mp run₃
    exact ⟨hash, took, resp, known, rfl, rfl⟩
  · obtain ⟨_, h, same⟩ | ⟨_, t, first, last, -, done, -⟩ := Routine.runs_bind.mp run₂
    · cases same
    · cases (Routine.runs_pure.mp done).2.1

theorem confirmLandedWithGrace_retry {checks : ℕ}
    (run : (confirmLandedWithGrace m checks).Runs s trace (.ok .retryNewSequence) s') :
    ∃ before hash took resp, trace = before ++ [⟨.query (.getTx hash none), (took, .ok (some resp))⟩] ∧
      s'.pending.lastLandedError = exceptionFromTxResponse m resp := by
  induction checks generalizing s trace with
  | zero => cases (Routine.runs_pure.mp run).2.1
  | succ checks ih =>
    obtain ⟨late, after, rfl, run₁⟩ := sleep_bind_runs.mp run
    obtain ⟨found, t, check, rest, bailed, run₂, rfl⟩ := Routine.runs_bind_ok run₁
    split at run₂
    · obtain ⟨before, hash, took, resp, rfl, landed⟩ := ih run₂
      exact ⟨⟨.sleep m.queryInterval, late⟩ :: (check ++ before), hash, took, resp, by simp, landed⟩
    · obtain ⟨rfl, same, rfl⟩ := Routine.runs_pure.mp run₂
      cases same
      obtain ⟨hash, took, resp, -, rfl, landed⟩ := bailIfLanded_retry bailed
      exact ⟨[⟨.sleep m.queryInterval, late⟩], hash, took, resp, by simp, landed⟩

/-- A grace window that passes unseen does look the hash up. -/
theorem Graced.looks {lastTxHash : Option String} {checks : ℕ} {hash : String}
    (known : lastTxHash.filter (· ≠ "") = some hash) (graced : Graced m lastTxHash (checks + 1) trace) :
    trace.filterMap lookedUp ≠ [] := by
  obtain ⟨late, check, rest, rfl, missed, -⟩ := graced
  unfold Missed at missed
  rw [known] at missed
  obtain ⟨took, answer, rfl, -⟩ := missed
  simp [lookedUp]

/-- A lookup that is followed by an unseen window seeds nothing. -/
theorem seedOf_graced {look window : List Ev} {outcome : LandedOutcome} {v v' : RetryVars}
    (bailed : (bailIfLanded m).Runs s look (.ok outcome) s')
    (bail : Bail m s.vars look outcome v) (unfinished : outcome ≠ .finalized)
    (last : v'.lastTxHash = s.vars.lastTxHash) (grace : Grace m v' 3 window .notLanded v') :
    seedOf m (look ++ window) = none := by
  have graced : Graced m s.vars.lastTxHash 3 window := by
    rw [← last]
    cases grace with
    | notLanded graced => exact graced
    | landed looking unseen bail found => exact (found rfl).elim
  have unseen : Unseen window := graced.looking.2
  cases outcome with
  | finalized => exact (unfinished rfl).elim
  | notLanded => exact seedOf_unseen (bail.of_notLanded.1.unseen.append unseen)
  | retryNewSequence =>
    obtain ⟨hash, took, resp, known, -, -⟩ := bailIfLanded_retry bailed
    rw [seedOf, lastLookup_of_lookup (graced.looks known), lastLookup_unseen unseen, Option.bind_none]

theorem seedOf_landed {before : List Ev} {hash : String} {took : ℕ} {resp : TxResponse} :
    seedOf m (before ++ [⟨.query (.getTx hash none), (took, .ok (some resp))⟩]) =
      landedGasSeed (exceptionFromTxResponse m resp) := by
  have look : lookedUp ⟨.query (.getTx hash none), (took, .ok (some resp))⟩ = some (some (hash, resp)) := rfl
  rw [seedOf, lastLookup_snoc look]
  rfl

theorem giveUpOr_continues {err : PyException} {next : Act Control}
    (unresolved : s.vars.finalFuture = none)
    (run : (giveUpOr start attempt err next).Runs s trace (.ok .continue) s') :
    next.Runs s trace (.ok .continue) s' := by
  obtain ⟨-, stopped⟩ | ⟨-, rest⟩ := giveUpOr_outcome unresolved run
  · exact (stopped rfl).elim
  · exact rest

theorem seedGasLimit_offer {α : Type} {next : Unit → Act α} {out : Except PyException α}
    (run : (seedGasLimit >>= next).Runs s trace out s') :
    ∃ t, t.offer = s.offer.seeded (landedGasSeed s.pending.lastLandedError) ∧ t.vars = s.vars ∧
      (next ()).Runs t trace out s' := by
  simp only [seedGasLimit, consumeLandedGasSeed, bind_assoc, pure_bind] at run
  have run₁ := Routine.runs_update_bind.mp (Routine.runs_state_bind.mp run)
  split at run₁
  · rename_i limit seed
    rw [seed]
    exact ⟨_, by rfl, by rfl, Routine.runs_update_bind.mp run₁⟩
  · rename_i seedless
    rw [seedless]
    exact ⟨_, by rfl, by rfl, Routine.runs_pure_bind.mp run₁⟩

theorem retryAfterMismatch_continues (unresolved : s.vars.finalFuture = none)
    (run : (retryAfterMismatch m start attempt).Runs s trace (.ok .continue) s') :
    trace.filterMap lookedUp = [] ∧ s'.offer = s.offer :=
  ⟨lookups_of_sleeps (retryAfterMismatch_outcome unresolved run).continues.1,
    retryAfterMismatch_keeps m start attempt run⟩

theorem onOutOfGas_offer {message : String} {wanted used : Option ℤ}
    (unresolved : s.vars.finalFuture = none)
    (run : (onOutOfGas m start attempt (.outOfGas message wanted used) wanted).Runs s trace
      (.ok .continue) s') :
    s'.offer = { s.offer with currentGasLimit := some (s.offer.suggested m wanted) } := by
  have run₁ := Routine.runs_update_bind.mp (Routine.runs_state_bind.mp (giveUpOr_continues unresolved run))
  obtain ⟨-, -, rfl⟩ := Routine.runs_pure.mp run₁
  rfl

theorem onInsufficientFees_offer (unresolved : s.vars.finalFuture = none)
    (run : (onInsufficientFees start attempt).Runs s trace (.ok .continue) s') :
    s'.offer = { s.offer with feeMultiplier := 1 + attempt * (1 / 2) } := by
  have run₁ := giveUpOr_continues (by exact unresolved) (Routine.runs_update_bind.mp run)
  obtain ⟨-, -, rfl⟩ := Routine.runs_pure.mp run₁
  rfl

theorem onTxTimeout_offer (unresolved : s.vars.finalFuture = none)
    (run : (onTxTimeout m start attempt).Runs s trace (.ok .continue) s') :
    s'.offer = s.offer.seeded (seedOf m trace) := by
  obtain ⟨outcome, t, look, rest, bailed, bail, run₁, rfl⟩ := bailIfLanded_bind unresolved run
  have kept : t.offer = s.offer := bailIfLanded_keeps m bailed
  cases outcome with
  | finalized => cases (Routine.runs_pure.mp run₁).2.1
  | retryNewSequence =>
    obtain ⟨same, -⟩ := bail.of_not_finalized (by simp)
    obtain ⟨w, seeded, vars, run₂⟩ := seedGasLimit_offer (Routine.runs_update_bind.mp run₁)
    have pending : w.vars.finalFuture = none := by
      rw [vars, vars_clearAccountSeq, same]
      exact unresolved
    obtain ⟨rfl, -, rfl⟩ := Routine.runs_pure.mp (giveUpOr_continues pending run₂)
    obtain ⟨hash, took, resp, -, rfl, landed⟩ := bailIfLanded_retry bailed
    have seed : seedOf m ([] ++ [⟨.query (.getTx hash none), (took, .ok (some resp))⟩] ++ []) =
        landedGasSeed (exceptionFromTxResponse m resp) := by
      rw [List.append_nil, seedOf_landed]
    rw [← List.nil_append [_], seed, seeded, ← landed, ← kept]
    rfl
  | notLanded =>
    obtain ⟨same, -⟩ := bail.of_not_finalized (by simp)
    have run₂ := Routine.runs_update_bind.mp run₁
    have pending : (setSameSeqRebroadcast true t).vars.finalFuture = none := by
      rw [vars_setSameSeqRebroadcast, same]
      exact unresolved
    obtain ⟨rfl, -, rfl⟩ := Routine.runs_pure.mp (giveUpOr_continues pending run₂)
    rw [List.append_nil, seedOf_unseen bail.of_notLanded.1.unseen]
    exact kept

theorem onSequenceMismatch_offer (unresolved : s.vars.finalFuture = none)
    (run : (onSequenceMismatch m start attempt).Runs s trace (.ok .continue) s') :
    s'.offer = if s.pending.sameSeqRebroadcast then s.offer.seeded (seedOf m trace) else s.offer := by
  obtain ⟨landed, t, look, rest, bailed, bail, run₁, rfl⟩ := bailIfLanded_bind unresolved run
  have kept : t.offer = s.offer := bailIfLanded_keeps m bailed
  split at run₁
  · cases (Routine.runs_pure.mp run₁).2.1
  rename_i unfinished
  obtain ⟨vars, -⟩ := bail.of_not_finalized unfinished
  have pending : t.vars.finalFuture = none := by rw [vars]; exact unresolved
  have flag : t.pending.sameSeqRebroadcast = s.pending.sameSeqRebroadcast :=
    congrArg RetryVars.sameSeqRebroadcast vars
  have run₂ := Routine.runs_state_bind.mp run₁
  rw [flag] at run₂
  split at run₂
  · rename_i flagged
    rw [if_pos flagged]
    have run₃ := Routine.runs_update_bind.mp run₂
    obtain ⟨outcome, u, window, last, graced, grace, run₄, rfl⟩ :=
      confirmLandedWithGrace_bind (by exact pending) run₃
    have kept' : u.offer = s.offer := (confirmLandedWithGrace_keeps m 3 graced).trans kept
    cases outcome with
    | finalized => cases (Routine.runs_pure.mp run₄).2.1
    | retryNewSequence =>
      obtain ⟨same, -⟩ := grace.of_not_finalized (by simp)
      obtain ⟨w, seeded, vars', run₅⟩ := seedGasLimit_offer (Routine.runs_update_bind.mp run₄)
      have pending' : w.vars.finalFuture = none := by
        rw [vars', vars_clearAccountSeq, same]
        exact pending
      obtain ⟨silent, kept''⟩ := retryAfterMismatch_continues pending' run₅
      obtain ⟨before, hash, took, resp, rfl, landed⟩ := confirmLandedWithGrace_retry graced
      rw [← List.append_assoc, seedOf_append silent, ← List.append_assoc, seedOf_landed, kept'', seeded,
        ← landed, ← kept']
      rfl
    | notLanded =>
      obtain ⟨same, grace⟩ := grace.of_not_finalized (by simp)
      have run₅ := Routine.runs_update_bind.mp run₄
      have pending' : (setAccountSeq none u).vars.finalFuture = none := by
        rw [vars_clearAccountSeq, same]
        exact pending
      obtain ⟨silent, kept''⟩ := retryAfterMismatch_continues pending' run₅
      have sameHash : (setSameSeqRebroadcast false t).vars.lastTxHash = s.vars.lastTxHash := by
        rw [vars_setSameSeqRebroadcast, RetryVars.flagged_lastTxHash, vars]
      rw [← List.append_assoc, seedOf_append silent, seedOf_graced bailed bail unfinished sameHash grace]
      exact kept''.trans kept'
  · rename_i plain
    rw [if_neg plain]
    have run₃ := Routine.runs_update_bind.mp run₂
    have pending' : (setAccountSeq none t).vars.finalFuture = none := by
      rw [vars_clearAccountSeq]
      exact pending
    exact (retryAfterMismatch_continues pending' run₃).2.trans kept

/-- How an except clause that goes on changes the offer. -/
theorem handle_offer {e : PyException} (unresolved : s.vars.finalFuture = none)
    (run : (handle m start attempt e).Runs s trace (.ok .continue) s') :
    s'.offer = s.offer.after m attempt s.pending.sameSeqRebroadcast trace e := by
  cases e
  case outOfGas => exact onOutOfGas_offer unresolved run
  case insufficientFees => exact onInsufficientFees_offer unresolved run
  case accountSequenceMismatch => exact onSequenceMismatch_offer unresolved run
  case txTimeout => exact onTxTimeout_offer unresolved run
  case asyncioTimeout =>
    obtain ⟨-, -, rfl⟩ := Routine.runs_pure.mp (giveUpOr_continues unresolved run)
    rfl
  all_goals cases (setException_runs unresolved run).2.1

end Clauses

end AlloraSdk.Source.TxManager
