import AlloraSdk.Chain.Simulation
import AlloraSdk.Chain.Tracking

/-!
# At-most-once execution of a submission

A submission may broadcast one operation several times. It is executed at most
once as long as everything that has succeeded or still can sits at one sequence:
the one the next attempt uses. A fresh sequence leaves that sequence behind, and
the run remembers only its latest accepted hash; `FreshSafe` is what it then has
to rely on.
-/

namespace AlloraSdk.Guarantees
open AlloraSdk.Logic AlloraSdk.Source.TxManager AlloraSdk.Chain

/-- When an attempt asks for a fresh sequence, no broadcast of the run other than
the latest accepted one is included with code 0. -/
def FreshSafe (m : Manager) (w : Node) (e : Ev) : Prop :=
  ∀ ⦃attempt⦄, e.request = .beginAttempt attempt none →
    ∀ tx, w.ledger.Won tx → ∃ b, latestAccepted m w.past = some b ∧ b.tx = tx

def OneSequence (w : Node) : Prop := ∃ s, ∀ tx, w.ledger.Open tx → tx.sequence = s

/-- What the loop keeps: a transaction that has succeeded or still can is at the
sequence of the latest accepted broadcast, where the next attempt will collide
with it; after the grace window, it has succeeded and was forgotten. -/
structure Single (m : Manager) (v : RetryVars) (w : Node) : Prop where
  tracked : Tracked m v.lastTxHash w
  latest : ∀ tx, w.ledger.Open tx → ∃ b, latestAccepted m w.past = some b ∧
    b.tx.sequence = tx.sequence
  collides : ∀ tx, w.ledger.Open tx →
    (v.nextAccountSeq = some tx.sequence ∧ v.sameSeqRebroadcast = true) ∨
      v.nextAccountSeq = none ∧ w.ledger.Won tx ∧
        ∀ b, latestAccepted m w.past = some b → b.tx ≠ tx

/-- What an exception of the `try` leaves for its handler. -/
inductive Raised (m : Manager) (v : RetryVars) (e : PyException) (w : Node) : Prop
  | kept (mismatch : e.isMismatch = false) (timeout : e.isTxTimeout = false) (single : Single m v w)
  | rejected (kind : e.isMismatch = true) (tracked : Tracked m v.lastTxHash w)
      (won : ∀ tx, w.ledger.Open tx → w.ledger.Won tx ∧ v.sameSeqRebroadcast = true ∧
        ∃ b, latestAccepted m w.past = some b ∧ b.tx.sequence = tx.sequence)
  | closed (tracked : Tracked m v.lastTxHash w) (closed : ∀ tx, ¬ w.ledger.Open tx)
  | timedOut (kind : e.isTxTimeout = true) (tracked : Tracked m v.lastTxHash w)
      (sent : ∀ tx, w.ledger.Open tx → v.nextAccountSeq = some tx.sequence ∧
        ∃ b, latestAccepted m w.past = some b ∧ b.tx.sequence = tx.sequence)
  | fatal (inPlace : e.retriesInPlace = false) (mismatch : e.isMismatch = false)
      (timeout : e.isTxTimeout = false) (one : OneSequence w)

section Steps

variable {m : Manager} {start attempt : ℕ} {v v' : RetryVars} {trace : List Ev} {w w' : Node}

theorem oneSequence_of_latest
    (latest : ∀ tx, w.ledger.Open tx → ∃ b, latestAccepted m w.past = some b ∧
      b.tx.sequence = tx.sequence) : OneSequence w := by
  cases known : latestAccepted m w.past with
  | none =>
    refine ⟨0, fun tx candidate => ?_⟩
    obtain ⟨b, last, -⟩ := latest tx candidate
    rw [known] at last
    cases last
  | some b =>
    refine ⟨b.tx.sequence, fun tx candidate => ?_⟩
    obtain ⟨b', last, same⟩ := latest tx candidate
    rw [known] at last
    cases last
    exact same.symm

theorem Raised.oneSequence {e : PyException} (raised : Raised m v e w) : OneSequence w := by
  cases raised with
  | kept mismatch timeout single => exact oneSequence_of_latest single.latest
  | rejected kind tracked won => exact oneSequence_of_latest fun tx candidate => (won tx candidate).2.2
  | closed tracked closed => exact ⟨0, fun tx candidate => (closed tx candidate).elim⟩
  | timedOut kind tracked sent => exact oneSequence_of_latest fun tx candidate => (sent tx candidate).2
  | fatal inPlace mismatch timeout one => exact one

theorem OneSequence.passive (one : OneSequence w) (passive : Passive trace)
    (path : Path (Node.Step m (Prompt m)) w trace w') : OneSequence w' := by
  obtain ⟨s, same⟩ := one
  exact ⟨s, fun tx candidate => same tx ((passive_path passive path).1.open_before candidate)⟩

theorem Single.passive (single : Single m v w) (passive : Passive trace)
    (path : Path (Node.Step m (Prompt m)) w trace w') : Single m v w' := by
  have moved := (passive_path passive path).1
  have last := latestAccepted_passive passive path
  constructor
  · exact single.tracked.passive passive path
  · intro tx candidate
    rw [last]
    exact single.latest tx (moved.open_before candidate)
  · intro tx candidate
    rw [last]
    rcases single.collides tx (moved.open_before candidate) with collides | ⟨fresh, won, forgotten⟩
    · exact .inl collides
    · exact .inr ⟨fresh, moved.included_subset won, forgotten⟩

/-- With nothing left that could succeed, any further attempt is safe. -/
theorem single_of_closed (tracked : Tracked m v.lastTxHash w)
    (closed : ∀ tx, ¬ w.ledger.Open tx) : Single m v w :=
  ⟨tracked, fun tx candidate => (closed tx candidate).elim,
    fun tx candidate => (closed tx candidate).elim⟩

theorem prompt_finds (ledger : Ledger Tx.sequence) (e : Ev) (h : Prompt m ledger e) :
    FindsIncluded m ledger e := h.1

/-- No handler lets a second sequence succeed. -/
theorem handled_step {e : PyException} {out : Except PyException Control}
    (raised : Raised m v e w) (handled : Handled m start attempt v e trace out v')
    (path : Path (Node.Step m (Prompt m)) w trace w') :
    OneSequence w' ∧ (out = .ok .continue → Single m v' w') := by
  have passive := (followUp_of_handled handled).passive
  refine ⟨raised.oneSequence.passive passive path, ?_⟩
  rintro rfl
  have moved := (passive_path passive path).1
  have last := latestAccepted_passive passive path
  have same := lastTxHash_of_handled handled
  -- a handler that learns that nothing can succeed any more is done
  have done : Tracked m v.lastTxHash w → (∀ tx, ¬ w'.ledger.Open tx) → Single m v' w' :=
    fun tracked closed => single_of_closed (same ▸ tracked.passive passive path) closed
  cases raised with
  | closed tracked closed =>
    exact done tracked fun tx candidate => closed tx (moved.open_before candidate)
  | kept mismatch timeout single =>
    obtain ⟨-, rfl, rfl⟩ := handled.of_plain mismatch timeout
    exact single.passive passive path
  | fatal inPlace mismatch timeout one =>
    have kind := (handled.of_plain mismatch timeout).1
    simp [inPlace] at kind
  | timedOut kind tracked sent =>
    rcases handled.of_txTimeout kind with ⟨bail, rfl⟩ | ⟨bail, rfl⟩
    · refine done tracked fun tx candidate => ?_
      obtain ⟨-, b, latest, at_⟩ := sent tx (moved.open_before candidate)
      exact tracked.bail_failed prompt_finds bail path latest at_.symm candidate
    · constructor
      · exact tracked.passive passive path
      · intro tx candidate
        rw [last]
        exact (sent tx (moved.open_before candidate)).2
      · intro tx candidate
        exact .inl ⟨(sent tx (moved.open_before candidate)).1, rfl⟩
  | rejected kind tracked won =>
    cases handled.of_mismatch kind with
    | plain unflagged =>
      refine done tracked fun tx candidate => ?_
      have flagged := (won tx (moved.open_before candidate)).2.1
      simp [unflagged] at flagged
    | grace flagged bail unfinished grace unfinished' tail =>
      obtain ⟨w₂, looked, rest⟩ := path_append.mp path
      obtain ⟨w₁, first, window⟩ := path_append.mp looked
      constructor
      · exact same ▸ tracked.passive passive path
      · intro tx candidate
        rw [last]
        exact (won tx (moved.open_before candidate)).2.2
      · intro tx candidate
        have candidate₂ := (passive_path (followUp_of_mismatch tail).passive rest).1.open_before candidate
        have candidate₁ := (passive_path (followUp_of_grace grace).passive window).1.open_before candidate₂
        obtain ⟨success, -, b, latest, at_⟩ := won tx (moved.open_before candidate)
        refine .inr ⟨rfl, moved.included_subset success, fun b' latest' => ?_⟩
        obtain rfl : b = b' := Option.some.inj (latest.symm.trans (last ▸ latest'))
        rintro rfl
        rcases bail.missed_or_retry unfinished with missed | retry
        · exact tracked.missed (fun _ _ h => h) missed first latest success
        · exact tracked.bail_failed prompt_finds retry first latest rfl candidate₁

/-- At the call of `_build_and_broadcast` the guard has ruled the forgotten
successes out. -/
structure Ready (m : Manager) (v : RetryVars) (w : Node) : Prop where
  tracked : Tracked m v.lastTxHash w
  collides : ∀ tx, w.ledger.Open tx → v.nextAccountSeq = some tx.sequence ∧
    v.sameSeqRebroadcast = true ∧
    ∃ b, latestAccepted m w.past = some b ∧ b.tx.sequence = tx.sequence

theorem Ready.single (ready : Ready m v w) : Single m v w :=
  ⟨ready.tracked, fun tx candidate => (ready.collides tx candidate).2.2, fun tx candidate =>
    .inl ⟨(ready.collides tx candidate).1, (ready.collides tx candidate).2.1⟩⟩

theorem Ready.passive (ready : Ready m v w) (passive : Passive trace)
    (path : Path (Node.Step m (Prompt m)) w trace w') : Ready m v w' := by
  refine ⟨ready.tracked.passive passive path, fun tx candidate => ?_⟩
  rw [latestAccepted_passive passive path]
  exact ready.collides tx ((passive_path passive path).1.open_before candidate)

theorem ready_of_single (single : Single m v w)
    (step : guarded (FreshSafe m) (Node.Step m (Prompt m)) w
      ⟨.beginAttempt attempt v.nextAccountSeq, ()⟩ w') : Ready m (v.begun attempt) w' := by
  have path : Path (Node.Step m (Prompt m)) w [⟨.beginAttempt attempt v.nextAccountSeq, ()⟩] w' :=
    .cons step.2 (.nil w')
  have passive : Passive [(⟨.beginAttempt attempt v.nextAccountSeq, ()⟩ : Ev)] := by
    simp [Passive, Request.isPassive]
  have moved := (passive_path passive path).1
  refine ⟨single.tracked.passive passive path, fun tx candidate => ?_⟩
  have before := moved.open_before candidate
  rw [latestAccepted_passive passive path]
  rcases single.collides tx before with ⟨next, flagged⟩ | ⟨fresh, won, forgotten⟩
  · exact ⟨next, flagged, single.latest tx before⟩
  · obtain ⟨b, latest, same⟩ := step.1 (congrArg (Request.beginAttempt attempt) fresh) tx won
    exact (forgotten b latest same).elim

/-- The sequence of the broadcast is that of everything that could succeed. -/
theorem Ready.sequence (ready : Ready m v w) {build : List Ev} {tx other : Tx}
    (resolved : ResolvesTo v.nextAccountSeq build tx.sequence) (candidate : w.ledger.Open other) :
    other.sequence = tx.sequence := by
  rw [(ready.collides other candidate).1] at resolved
  exact resolved.symm

/-- A refused broadcast leaves the ledger as the chain moved it; one without a
response ends the run. -/
theorem refused_step (ready : Ready m v w) {tx : Tx} {took : ℕ} {build : List Ev}
    {answer : Except PyException (Option TxResponse)} {e : PyException}
    (resolved : ResolvesTo v.nextAccountSeq build tx.sequence)
    (verdict : broadcastVerdict m tx answer = .error e)
    (step : Node.Step m (Prompt m) w ⟨.query (.broadcastTx tx), (took, answer)⟩ w') :
    Raised m v e w' := by
  have last := latestAccepted_refused verdict step
  obtain ⟨settled, moved, answered, -⟩ := step.answered
  rcases answered.broadcast with ⟨resp, rfl, passed, -⟩ | ⟨resp, rfl, failed, honest, after⟩ |
    ⟨lost, -, after⟩
  · obtain ⟨_, same, raised⟩ | ⟨same, -⟩ | ⟨same, -⟩ := broadcastVerdict_error verdict <;> cases same
    exact absurd passed (code_ne_zero_of_exception raised)
  · have kept : Ready m v w' := by
      refine ⟨ready.tracked.kept (.cons step (.nil _)) last (after ▸ moved.pool_eq), fun other candidate => ?_⟩
      rw [last]
      exact ready.collides other (moved.open_before (after ▸ candidate))
    have raised : exceptionFromTxResponse m resp = some e := by
      obtain ⟨_, same, raised⟩ | ⟨same, -⟩ | ⟨same, -⟩ := broadcastVerdict_error verdict <;> cases same
      exact raised
    obtain ⟨mismatch, timeout⟩ := kind_of_exception raised
    by_cases kind : e.isMismatch = true
    · have passed : tx.sequence ≠ w'.ledger.committed := after ▸ honest.mp (mismatch.mp kind)
      refine .rejected kind kept.tracked fun other candidate => ?_
      obtain ⟨-, flagged, latest⟩ := kept.collides other candidate
      exact ⟨candidate.won (kept.sequence resolved candidate ▸ passed), flagged, latest⟩
    · exact .kept (Bool.eq_false_iff.mpr kind) timeout kept.single
  · have kind : e.retriesInPlace = false ∧ e.isMismatch = false ∧ e.isTxTimeout = false := by
      obtain ⟨resp, same, -⟩ | ⟨-, rfl⟩ | ⟨rfl, late⟩ := broadcastVerdict_error verdict
      · exact (lost resp same).elim
      · exact ⟨rfl, rfl, rfl⟩
      · obtain ⟨mismatch, timeout, inPlace⟩ := PyException.kind_of_client (step.clients rfl)
        exact ⟨inPlace late, mismatch, timeout⟩
    refine .fatal kind.1 kind.2.1 kind.2.2 ⟨tx.sequence, fun other candidate => ?_⟩
    rcases after with ⟨due, after⟩ | after <;> rw [after] at candidate
    · rcases Ledger.open_enter candidate with rfl | old
      · rfl
      · exact ready.sequence resolved (moved.open_before old)
    · exact ready.sequence resolved (moved.open_before candidate)

theorem confirmed_step {hash : String} {tx : Tx} {out : Except PyException Control}
    (tracked : Tracked m (some hash) w) (latest : latestAccepted m w.past = some ⟨hash, tx⟩)
    (one : ∀ other, w.ledger.Open other → other.sequence = tx.sequence)
    (confirmed : Confirmed m v hash tx.sequence trace out v')
    (path : Path (Node.Step m (Prompt m)) w trace w') :
    OneSequence w' ∧ ∀ e, out = .error e → Raised m v' e w' := by
  have oneSequence : OneSequence w := ⟨tx.sequence, one⟩
  cases confirmed with
  | missed looking unseen early cause =>
    have passive := passive_of_looking looking
    have ended := oneSequence.passive passive path
    refine ⟨ended, ?_⟩
    rintro e same
    obtain rfl := Except.error.inj same
    rcases cause with rfl | interrupted
    · refine .timedOut rfl (tracked.passive passive path) fun other candidate => ?_
      have at_ := one other ((passive_path passive path).1.open_before candidate)
      exact ⟨congrArg some at_.symm, ⟨hash, tx⟩, latestAccepted_passive passive path ▸ latest, at_.symm⟩
    · obtain ⟨mismatch, timeout, inPlace⟩ := kind_of_interrupted (path_clientErrors path) interrupted
      exact .fatal (inPlace early) mismatch timeout ended
  | @found polls last seen resp _ _ looking unseen sighted status =>
    obtain ⟨w₁, polled, rest⟩ := path_append.mp path
    obtain ⟨w₂, step, rest⟩ := path_cons.mp rest
    have passive := passive_of_looking looking
    have polling : Passive polls := fun e member => passive e (List.mem_append_left _ member)
    have seeing : Path (Node.Step m (Prompt m)) w (polls ++ [seen]) w₂ :=
      path_append.mpr ⟨w₁, polled, .cons step (.nil w₂)⟩
    cases status with
    | success passed =>
      refine ⟨(oneSequence.passive passive seeing).passive ?_ rest, fun e same => by cases same⟩
      simp [Passive, Request.isPassive]
    | failure failed =>
      obtain rfl := path_nil.mp rest
      refine ⟨oneSequence.passive passive seeing, fun e same => ?_⟩
      refine .closed (tracked.passive passive seeing) fun other candidate => ?_
      have at_ := one other ((passive_path passive seeing).1.open_before candidate)
      exact (tracked.passive polling polled).failed prompt_finds rfl sighted
        (code_ne_zero_of_exception failed) step
        (latestAccepted_passive polling polled ▸ latest) at_ candidate

theorem sending_step {out : Except PyException Control} (ready : Ready m v w)
    (sending : Sending m v trace out v') (path : Path (Node.Step m (Prompt m)) w trace w') :
    OneSequence w' ∧ ∀ e, out = .error e → Raised m v' e w' := by
  cases sending with
  | unsent quiet failed =>
    have kept := ready.passive (passive_of_quiet quiet) path
    obtain ⟨mismatch, timeout, -⟩ := kind_of_interrupted (path_clientErrors path) failed.interrupted
    refine ⟨oneSequence_of_latest kept.single.latest, fun e same => ?_⟩
    obtain rfl := Except.error.inj same
    exact .kept mismatch timeout kept.single
  | refused quiet content resolved verdict =>
    obtain ⟨w₁, built, rest⟩ := path_append.mp path
    obtain ⟨w₂, step, rest⟩ := path_cons.mp rest
    obtain rfl := path_nil.mp rest
    have raised := refused_step (ready.passive (passive_of_quiet quiet) built) resolved verdict step
    refine ⟨raised.oneSequence, fun e same => ?_⟩
    obtain rfl := Except.error.inj same
    exact raised
  | accepted quiet content resolved verdict confirmed =>
    obtain ⟨w₁, built, rest⟩ := path_append.mp path
    obtain ⟨w₂, step, rest⟩ := path_cons.mp rest
    have ready₁ := ready.passive (passive_of_quiet quiet) built
    obtain ⟨tracked, opened⟩ := ready₁.tracked.accepted verdict step
    refine confirmed_step tracked (latestAccepted_accepted verdict step) ?_ confirmed rest
    intro other candidate
    rcases opened other candidate with rfl | old
    · rfl
    · exact ready₁.sequence resolved old

theorem tried_step {out : Except PyException Control} (single : Single m v w)
    (tried : Tried m attempt v trace out v')
    (path : Path (guarded (FreshSafe m) (Node.Step m (Prompt m))) w trace w') :
    OneSequence w' ∧ ∀ e, out = .error e → Raised m v' e w' := by
  cases tried with
  | preFlight quiet =>
    have kept := single.passive (passive_of_quiet quiet) path.unguarded
    refine ⟨oneSequence_of_latest kept.latest, fun e same => ?_⟩
    obtain rfl := Except.error.inj same
    exact .kept rfl rfl kept
  | begun quiet sending =>
    obtain ⟨w₁, before, rest⟩ := path_append.mp path
    obtain ⟨w₂, step, rest⟩ := path_cons.mp rest
    have ready := ready_of_single (single.passive (passive_of_quiet quiet) before.unguarded) step
    exact sending_step ready sending rest.unguarded

theorem attempt_step {out : Except PyException Control} (single : Single m v w)
    (run : Attempt m start attempt v trace out v')
    (path : Path (guarded (FreshSafe m) (Node.Step m (Prompt m))) w trace w') :
    OneSequence w' ∧ (out = .ok .continue → Single m v' w') := by
  cases run with
  | success tried =>
    refine ⟨(tried_step single tried path).1, ?_⟩
    rintro same
    cases same
    exact tried.not_continue.elim
  | caught tried handled =>
    obtain ⟨w₁, body, handling⟩ := path_append.mp path
    exact handled_step ((tried_step single tried body).2 _ rfl) handled handling.unguarded

end Steps

/-- A submission, run against any chain that answers it, is executed at most
once, now and later, if `FreshSafe` holds whenever an attempt asks for a fresh
sequence. -/
theorem at_most_once {m : Manager} {call : Call} {clock committed : ℕ} {price : Option ℚ}
    {cachedAt : Option ℕ} {s' : Submission} {trace : List Ev} {out : Except PyException Unit}
    {w' : Node} {later : Ledger Tx.sequence}
    (run : (call.submit m).Runs (call.begin clock price cachedAt) trace out s')
    (path : Path (guarded (FreshSafe m) (Node.Step m (Prompt m))) ⟨.start committed, []⟩ trace w')
    (moved : Ledger.Steps w'.ledger later) : later.wins.length ≤ 1 := by
  have initial : Single m call.vars ⟨.start committed, []⟩ := by
    refine single_of_closed ⟨rfl, ?_, ?_, ?_, ?_⟩ ?_ <;> simp [latestAccepted, acceptedIn, Ledger.Open,
      Ledger.Live, Ledger.Won, Ledger.start]
  have ended : OneSequence w' :=
    call.rule (fun _ v w => Single m v w) (fun _ _ w => OneSequence w) run path initial
      (fun single _ attempt path => (attempt_step single attempt path).2 rfl)
      (fun single _ attempt path => (attempt_step single attempt path).1)
      (fun single _ attempt path => (attempt_step single attempt path).1)
  obtain ⟨s, same⟩ := ended
  exact Ledger.wins_le_one fun tx candidate => same tx (moved.open_before candidate)

/-- Two broadcasts collide at sequence 0; the second one is included. -/
def collision : Schedule where
  moves := fun _ request => match request with
    | .query (.getTx "TX390000/0" (some _)) => [.commit 1 0]
    | _ => []
  fate := fun _ _ => .accept
  lookup := fun _ _ => none

set_option maxRecDepth 10000 in
theorem at_most_once_collision :
    (played testnet collision (payload 3 (some 0))).world.ledger.pool.length = 2 ∧
      (played testnet collision (payload 3 (some 0))).world.ledger.wins.length ≤ 1 := by
  have explicit : ((played testnet collision (payload 3 (some 0))).trace.all fun e =>
      match e.request with
      | .beginAttempt _ none => false
      | _ => true) = true := by decide +kernel
  refine ⟨by decide +kernel, at_most_once (played_run _ _ _) (Path.guard (simulate_path ?_ ?_ _ _ _) ?_) .refl⟩
  · simp [collision]
  · exact respond_prompt fun _ _ => rfl
  · intro e member w attempt fresh
    have h := List.all_eq_true.mp explicit e member
    rw [fresh] at h
    cases h

/-- Two broadcasts are accepted at sequence 0, and the first one is included
after the run has forgotten its hash. -/
def forgotten : Schedule where
  moves := fun _ request => match request with
    | .beginAttempt 2 _ => [.commit 0 0]
    | .query (.getTx _ (some _)) => [.commit 2 0]
    | _ => []
  fate := fun _ _ => .accept
  lookup := fun _ _ => none

/-- Without `FreshSafe` an operation is executed twice. -/
theorem executed_twice :
    ¬ ∀ {s' : Submission} {trace : List Ev} {out : Except PyException Unit} {w' : Node}
        {later : Ledger Tx.sequence},
      ((payload 3 none).submit testnet).Runs ((payload 3 none).begin 0 none none) trace out s' →
      Path (Node.Step testnet (Prompt testnet)) ⟨.start 0, []⟩ trace w' →
      Ledger.Steps w'.ledger later → later.wins.length ≤ 1 := by
  intro claim
  have once := claim (played_run testnet forgotten (payload 3 none))
    (simulate_path (by simp [forgotten]) (respond_prompt fun _ _ => rfl) _ _ _) .refl
  have twice : (played testnet forgotten (payload 3 none)).world.ledger.wins.length = 2 := by
    decide +kernel
  exact absurd (twice ▸ once) (by decide)

end AlloraSdk.Guarantees
