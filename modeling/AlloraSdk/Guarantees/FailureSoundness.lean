import AlloraSdk.Chain.Simulation
import AlloraSdk.Chain.Tracking
import AlloraSdk.Source.TxManager.Pricing

/-!
# Failure soundness of a submission

An exception other than TxTimeoutError is final for the caller. While an accepted
broadcast can still turn out a success, a retry takes its sequence, collides with
it, and looks it up; so nothing is lost as long as no reply cuts this short. What
the replies must spare is `Spares`; that no except clause then ends the run too
early is proved from the clauses.
-/

namespace AlloraSdk.Guarantees
open AlloraSdk.Logic AlloraSdk.Source.TxManager AlloraSdk.Chain

/-- The node says that it does not know the hash. A deadline does not. -/
def saysNotFound : Except PyException (Option TxResponse) → Bool
  | .ok none => true
  | .ok (some _) => false
  | .error .asyncioTimeout => false
  | .error e => e.readsNotFound

/-- GetTx finds only what is included; for an included hash it returns the
transaction or fails transiently. -/
def Transient (m : Manager) (ledger : Ledger Tx.sequence) (e : Ev) : Prop :=
  FindsIncluded m ledger e ∧
    ∀ ⦃hash within took answer⦄, e = ⟨.query (.getTx hash within), (took, answer)⟩ →
      (∃ entry ∈ ledger.included, m.txHash entry.1 = hash) → saysNotFound answer = false

/-! ## The condition on the replies -/

/-- Some accepted broadcast has succeeded or still can. -/
def Undecided (m : Manager) (w : Node) : Prop := ∃ b ∈ acceptedIn m w.past, w.ledger.Open b.tx

/-- So it is, or the transaction of an accepted broadcast is sent again. -/
def Exposed (m : Manager) (w : Node) (e : Ev) : Prop :=
  ∃ b ∈ acceptedIn m w.past, w.ledger.Open b.tx ∨ e.request = .query (.broadcastTx b.tx)

def begins : Ev → Option ℕ
  | ⟨.beginAttempt attempt _, _⟩ => some attempt
  | _ => none

def currentAttempt (past : List Ev) : Option ℕ := (past.filterMap begins).getLast?

/-- CheckTx turned the transaction down for its sequence. -/
def turnsDown (m : Manager) (tx : Tx) (answer : Except PyException (Option TxResponse)) : Bool :=
  match broadcastVerdict m tx answer with
  | .error e => e.isMismatch
  | .ok _ => false

def unansweredAfter (m : Manager) (count : Option ℕ) : Ev → Option ℕ
  | ⟨.query (.broadcastTx tx), (_, answer)⟩ => if turnsDown m tx answer then some 0 else none
  | ⟨.query (.getTx _ none), (_, .error e)⟩ =>
    if saysNotFound (.error e) then count else count.map (· + 1)
  | _ => count

/-- Once the latest broadcast was turned down for its sequence: how many
re-queries have failed since. -/
def unanswered (m : Manager) (past : List Ev) : Option ℕ := past.foldl (unansweredAfter m) none

/-- Of the accepted broadcasts, only the latest is included with code 0. -/
def OnlyLatestWon (m : Manager) (w : Node) : Prop :=
  ∀ b ∈ acceptedIn m w.past, w.ledger.Won b.tx → ∃ last, latestAccepted m w.past = some last ∧ last.tx = b.tx

/-- What a reply must not do while an accepted broadcast is at stake. -/
structure Spares (m : Manager) (call : Call) (rounds : List Round) (w : Node) (e : Ev) : Prop where
  /-- A poll fails with "not found" only, or runs into its deadline. -/
  poll : ∀ ⦃hash within took err⦄, e = ⟨.query (.getTx hash (some within)), (took, .error err)⟩ →
    took < within → err.readsNotFound = true
  /-- Before the broadcast, an attempt fails at most at a query's deadline. -/
  funded : ∀ ⦃took amount⦄, m.feeGranter = none →
    e = ⟨.query (.balance m.walletAddress m.config.feeDenom), (took, .ok (some amount))⟩ →
    preFlightFee m ≤ amount
  affordable : ∀ ⦃attempt sequence⦄, e.request = .beginAttempt attempt sequence →
    ∀ r ∈ rounds, r.attempt = attempt → ∀ price congestion, r.Reads m price congestion →
      ∀ cap, m.maxFees = some cap → r.fee m price congestion ≤ cap
  account : ∀ ⦃address took answer⦄, e = ⟨.query (.accountInfo address), (took, answer)⟩ →
    answer = .error .asyncioTimeout ∨ ∃ info, answer = .ok (some info)
  signed : ∀ ⦃tx took err⦄, e = ⟨.query (.sign tx), (took, .error err)⟩ → err = .asyncioTimeout
  /-- A broadcast is turned down for its sequence only, or for gas or fees with
  an attempt left. -/
  verdict : ∀ ⦃tx took answer err⦄, e = ⟨.query (.broadcastTx tx), (took, answer)⟩ →
    broadcastVerdict m tx answer = .error err →
    err.isMismatch = true ∨ err.retriesInPlace = true ∧
      ∃ attempt, currentAttempt w.past = some attempt ∧ ¬ Exhausted attempt call.vars
  /-- Once it was turned down for its sequence, the re-queries can learn what
  became of the accepted broadcast: it is the one that they ask for, and one of
  the four is answered. -/
  requery : ∀ ⦃hash took answer count⦄, e = ⟨.query (.getTx hash none), (took, answer)⟩ →
    unanswered m w.past = some count → OnlyLatestWon m w ∧ unanswered m (w.past ++ [e]) ≠ some 4

def Sparing (m : Manager) (call : Call) (rounds : List Round) (w : Node) (e : Ev) : Prop :=
  Exposed m w e → Spares m call rounds w e

/-- A step of the node whose reply spares the accepted broadcasts. -/
abbrev SparingStep (m : Manager) (call : Call) (rounds : List Round) : Node → Ev → Node → Prop :=
  guarded (Sparing m call rounds) (Node.Step m (Transient m))

/-! ## What a step leaves undecided -/

section Frames

variable {m : Manager} {call : Call} {rounds : List Round} {lookup : Ledger Tx.sequence → Ev → Prop}
  {lastTxHash : Option String} {trace : List Ev} {w w' : Node}

theorem transient_finds (ledger : Ledger Tx.sequence) (e : Ev) (h : Transient m ledger e) :
    FindsIncluded m ledger e := h.1

theorem Undecided.before (undecided : Undecided m w') (passive : Passive trace)
    (path : Path (Node.Step m lookup) w trace w') : Undecided m w := by
  obtain ⟨b, member, candidate⟩ := undecided
  rw [passive_path_accepted passive path] at member
  exact ⟨b, member, (passive_path passive path).1.open_before candidate⟩

theorem Undecided.exposed (undecided : Undecided m w) (e : Ev) : Exposed m w e := by
  obtain ⟨b, member, candidate⟩ := undecided
  exact ⟨b, member, .inl candidate⟩

/-- Every reply before an open end spared it. -/
theorem spared_at (passive : Passive trace) (path : Path (SparingStep m call rounds) w trace w')
    (undecided : Undecided m w') {e : Ev} (member : e ∈ trace) : ∃ w₁, Spares m call rounds w₁ e := by
  obtain ⟨before, after, rfl⟩ := List.append_of_mem member
  obtain ⟨w₁, -, rest⟩ := path_append.mp path
  have open_there := undecided.before (fun e member => passive e (List.mem_append_right _ member)) rest.unguarded
  obtain ⟨w₂, step, -⟩ := path_cons.mp rest
  exact ⟨w₁, step.1 (open_there.exposed e)⟩

theorem currentAttempt_begun {past : List Ev} {attempt : ℕ} {sequence : Option ℕ} :
    currentAttempt (past ++ [⟨.beginAttempt attempt sequence, ()⟩]) = some attempt := by
  simp [currentAttempt, begins]

theorem currentAttempt_quiet {past build : List Ev} {attempt : ℕ} (begun : currentAttempt past = some attempt)
    (quiet : QuietTrace build) : currentAttempt (past ++ build) = some attempt := by
  have silent : build.filterMap begins = [] := by
    refine List.filterMap_eq_nil_iff.mpr fun e member => ?_
    have h := quiet e member
    obtain ⟨request, reply⟩ := e
    cases request with
    | beginAttempt => cases h
    | _ => rfl
  rw [currentAttempt, List.filterMap_append, silent, List.append_nil]
  exact begun

/-- Only a re-query changes the count between broadcasts. -/
theorem unansweredAfter_passive {e : Ev} (passive : Request.isPassive e.request = true)
    (other : ∀ hash, e.request ≠ .query (.getTx hash none)) (count : Option ℕ) :
    unansweredAfter m count e = count := by
  obtain ⟨request, reply⟩ := e
  cases request with
  | query query =>
    cases query with
    | broadcastTx => cases passive
    | getTx hash within =>
      cases within with
      | none => exact (other hash rfl).elim
      | some => rfl
    | _ => rfl
  | _ => rfl

theorem unanswered_snoc (past : List Ev) (e : Ev) :
    unanswered m (past ++ [e]) = unansweredAfter m (unanswered m past) e := by
  simp [unanswered]

/-- Not all four re-queries fail while something is open. -/
theorem unanswered_ne (passive : Passive trace) (path : Path (SparingStep m call rounds) w trace w')
    (undecided : Undecided m w') (before : unanswered m w.past ≠ some 4) : unanswered m w'.past ≠ some 4 := by
  induction path with
  | nil => exact before
  | @cons w w₁ w₂ e events head tail ih =>
    have rest : Passive events := fun e member => passive e (.tail _ member)
    refine ih rest undecided ?_
    have here := passive e (.head _)
    have spares := head.1
    rw [head.2.recorded]
    by_cases asked : ∃ hash, e.request = .query (.getTx hash none)
    · obtain ⟨hash, same⟩ := asked
      have reaches := undecided.before passive (Path.cons head tail).unguarded
      obtain ⟨request, reply⟩ := e
      obtain rfl : request = .query (.getTx hash none) := same
      obtain ⟨took, answer⟩ := reply
      cases known : unanswered m w.past with
      | none =>
        rw [unanswered_snoc, known]
        cases answer with
        | error e =>
          simp only [unansweredAfter]
          split <;> simp
        | ok found => simp [unansweredAfter]
      | some count => exact ((spares (reaches.exposed _)).requery rfl known).2
    · rw [unanswered_snoc, unansweredAfter_passive here fun hash same => asked ⟨hash, same⟩]
      exact before

/-- The node does not disown what is included, so a re-query that misses it failed. -/
theorem missed_unanswered (tracked : Chain.Tracked m lastTxHash w) (missed : Missed lastTxHash trace)
    (path : Path (Node.Step m (Transient m)) w trace w') {last : Broadcast}
    (latest : latestAccepted m w.past = some last) (won : w.ledger.Won last.tx) :
    unanswered m w'.past = (unanswered m w.past).map (· + 1) := by
  unfold Missed at missed
  rw [tracked.requery latest] at missed
  obtain ⟨took, answer, rfl, absent⟩ := missed
  obtain ⟨w₁, step, rest⟩ := path_cons.mp path
  obtain rfl := path_nil.mp rest
  obtain ⟨settled, moved, -, looked⟩ := step.answered
  have known := looked.2 rfl ⟨_, moved.included_subset won, (tracked.hashed last latest).symm⟩
  rw [step.recorded, unanswered_snoc]
  cases answer with
  | error e => simp [unansweredAfter, known]
  | ok found =>
    cases found with
    | none => cases known
    | some resp => exact (absent resp rfl).elim

theorem graced_unanswered {checks : ℕ} (tracked : Chain.Tracked m lastTxHash w)
    (graced : Graced m lastTxHash checks trace) (path : Path (Node.Step m (Transient m)) w trace w') {last : Broadcast}
    (latest : latestAccepted m w.past = some last) (won : w.ledger.Won last.tx) :
    unanswered m w'.past = (unanswered m w.past).map (· + checks) := by
  induction checks generalizing w trace with
  | zero =>
    obtain rfl := graced
    obtain rfl := path_nil.mp path
    simp
  | succ checks ih =>
    obtain ⟨late, check, rest, rfl, missed, graced⟩ := graced
    obtain ⟨w₁, slept, path⟩ := path_cons.mp path
    obtain ⟨w₂, looked, path⟩ := path_append.mp path
    have asleep : Path (Node.Step m (Transient m)) w [⟨.sleep m.queryInterval, late⟩] w₁ := .cons slept (.nil w₁)
    have passive : Passive [(⟨.sleep m.queryInterval, late⟩ : Ev)] := by simp [Passive, Request.isPassive]
    have tracked₁ := tracked.passive passive asleep
    have latest₁ := (latestAccepted_passive passive asleep).trans latest
    have won₁ := (passive_path passive asleep).1.included_subset won
    have looking := passive_of_looking missed.looking
    have step := missed_unanswered tracked₁ missed looked latest₁ won₁
    have later := ih (tracked₁.passive looking looked) graced path
      ((latestAccepted_passive looking looked).trans latest₁)
      ((passive_path looking looked).1.included_subset won₁)
    have same : unanswered m w₁.past = unanswered m w.past := by
      rw [slept.recorded, unanswered_snoc]
      rfl
    rw [later, step, same, Option.map_map]
    congr 1
    funext count
    simp only [Function.comp_apply]
    omega

end Frames

/-! ## What an exception leaves for its handler -/

/-- The latest accepted broadcast is at this sequence. -/
def AtLatest (m : Manager) (w : Node) (sequence : ℕ) : Prop :=
  ∃ last, latestAccepted m w.past = some last ∧ last.tx.sequence = sequence

/-- What the loop keeps: an accepted broadcast that is open is at the sequence
that the next attempt takes again. -/
structure Accounted (m : Manager) (v : RetryVars) (w : Node) : Prop where
  tracked : Chain.Tracked m v.lastTxHash w
  collides : ∀ b ∈ acceptedIn m w.past, w.ledger.Open b.tx →
    v.nextAccountSeq = some b.tx.sequence ∧ v.sameSeqRebroadcast = true ∧ AtLatest m w b.tx.sequence

inductive Fails (m : Manager) (attempt : ℕ) (v : RetryVars) (e : PyException) (w : Node) : Prop
  | kept (mismatch : e.isMismatch = false) (timeout : e.isTxTimeout = false) (accounted : Accounted m v w)
      (retried : Undecided m w → e = .asyncioTimeout ∨ e.retriesInPlace = true ∧ ¬ Exhausted attempt v)
  | rejected (kind : e.isMismatch = true) (tracked : Chain.Tracked m v.lastTxHash w)
      (turned : unanswered m w.past = some 0)
      (won : ∀ b ∈ acceptedIn m w.past, w.ledger.Open b.tx →
        w.ledger.Won b.tx ∧ v.sameSeqRebroadcast = true ∧ AtLatest m w b.tx.sequence)
  | decided (tracked : Chain.Tracked m v.lastTxHash w) (decided : ¬ Undecided m w)
  | timedOut (kind : e.isTxTimeout = true) (tracked : Chain.Tracked m v.lastTxHash w)
      (sent : ∀ b ∈ acceptedIn m w.past, w.ledger.Open b.tx →
        v.nextAccountSeq = some b.tx.sequence ∧ AtLatest m w b.tx.sequence)
  | fatal (inPlace : e.retriesInPlace = false) (mismatch : e.isMismatch = false)
      (timeout : e.isTxTimeout = false) (decided : ¬ Undecided m w)

section Steps

variable {m : Manager} {call : Call} {rounds : List Round} {start attempt : ℕ} {v v' : RetryVars}
  {trace : List Ev} {w w' : Node}

theorem accounted_of_decided (tracked : Chain.Tracked m v.lastTxHash w) (decided : ¬ Undecided m w) :
    Accounted m v w :=
  ⟨tracked, fun b member candidate => (decided ⟨b, member, candidate⟩).elim⟩

theorem AtLatest.passive {sequence : ℕ} (at_ : AtLatest m w sequence) (passive : Passive trace)
    (path : Path (Node.Step m (Transient m)) w trace w') : AtLatest m w' sequence := by
  obtain ⟨last, latest, same⟩ := at_
  exact ⟨last, (latestAccepted_passive passive path).trans latest, same⟩

theorem Accounted.passive (accounted : Accounted m v w) (passive : Passive trace)
    (path : Path (Node.Step m (Transient m)) w trace w') : Accounted m v w' := by
  refine ⟨accounted.tracked.passive passive path, fun b member candidate => ?_⟩
  rw [passive_path_accepted passive path] at member
  obtain ⟨next, flagged, latest⟩ :=
    accounted.collides b member ((passive_path passive path).1.open_before candidate)
  exact ⟨next, flagged, latest.passive passive path⟩

/-- A landed failure that ends the run closes everything at its sequence. -/
theorem decided_of_finalized (tracked : Chain.Tracked m v.lastTxHash w) (bail : Bail m v trace .finalized v')
    (path : Path (Node.Step m (Transient m)) w trace w')
    (latest : ∀ b ∈ acceptedIn m w.past, w.ledger.Open b.tx → AtLatest m w b.tx.sequence)
    {err : PyException} (failed : v'.finalFuture = some (.error err)) : ¬ Undecided m w' := by
  have passive := (followUp_of_bail bail).passive
  rintro ⟨b, member, candidate⟩
  rw [passive_path_accepted passive path] at member
  obtain ⟨last, known, same⟩ := latest b member ((passive_path passive path).1.open_before candidate)
  cases bail with
  | @finalized hash took resp remembered =>
    obtain ⟨w₁, step, rest⟩ := path_cons.mp path
    have resolving : Passive [(⟨.resolve (landedResult m resp), ()⟩ : Ev)] := by
      simp [Passive, Request.isPassive]
    have raised : resp.code ≠ 0 := by
      intro passed
      have landed : landedResult m resp = .error err := Option.some.inj failed
      rw [landedResult, exceptionFromTxResponse_eq_none.mpr passed] at landed
      cases landed
    exact tracked.failed transient_finds remembered rfl raised step known same.symm
      ((passive_path resolving rest).1.open_before candidate)

/-- After a collision, the re-queries that miss say that the latest accepted
broadcast is not included; nothing else is. -/
theorem decided_of_collision {look window : List Ev} {first outcome : LandedOutcome} {w₁ w₂ : Node}
    (tracked : Chain.Tracked m v.lastTxHash w) (turned : unanswered m w.past = some 0)
    (won : ∀ b ∈ acceptedIn m w.past, w.ledger.Open b.tx → w.ledger.Won b.tx ∧ AtLatest m w b.tx.sequence)
    (bail : Bail m v look first v) (unfinished : first ≠ .finalized)
    (grace : Grace m (v.flagged false) 3 window outcome (v.flagged false)) (unfinished' : outcome ≠ .finalized)
    (looked : Path (SparingStep m call rounds) w look w₁)
    (waited : Path (SparingStep m call rounds) w₁ window w₂) : ¬ Undecided m w₂ := by
  intro undecided
  have lookPassive := (followUp_of_bail bail).passive
  have windowPassive := (followUp_of_grace grace).passive
  have undecided₁ := undecided.before windowPassive waited.unguarded
  have undecided₀ := undecided₁.before lookPassive looked.unguarded
  have whole : Path (SparingStep m call rounds) w (look ++ window) w₂ := path_append.mpr ⟨w₁, looked, waited⟩
  have few := unanswered_ne (lookPassive.append windowPassive) whole undecided (by simp [turned])
  obtain ⟨b, member, candidate⟩ := undecided
  rw [passive_path_accepted windowPassive waited.unguarded, passive_path_accepted lookPassive looked.unguarded]
    at member
  have candidate₁ := (passive_path windowPassive waited.unguarded).1.open_before candidate
  obtain ⟨success, last, latest, same⟩ := won b member
    ((passive_path lookPassive looked.unguarded).1.open_before candidate₁)
  have tracked₁ := tracked.passive lookPassive looked.unguarded
  have latest₁ := (latestAccepted_passive lookPassive looked.unguarded).trans latest
  rcases bail.missed_or_retry unfinished with missed | retry
  · -- the guard of the first re-query: the one that is included is the one asked for
    have only : OnlyLatestWon m w := by
      have asked := missed
      unfold Missed at asked
      rw [tracked.requery latest] at asked
      obtain ⟨took, answer, rfl, -⟩ := asked
      obtain ⟨w₃, step, -⟩ := path_cons.mp looked
      exact ((step.1 (undecided₀.exposed _)).requery rfl turned).1
    obtain ⟨last', latest', sent⟩ := only b member success
    obtain rfl : last = last' := Option.some.inj (latest.symm.trans latest')
    have included : w.ledger.Won last.tx := sent ▸ success
    have counted := missed_unanswered tracked missed looked.unguarded latest included
    rcases grace.graced_or_retried unfinished' with graced | retried
    · have included₁ := (passive_path lookPassive looked.unguarded).1.included_subset included
      have total := graced_unanswered tracked₁ graced waited.unguarded latest₁ included₁
      rw [counted, turned] at total
      exact few total
    · obtain ⟨before, seen, hash, resp, err, rfl, looking, -, known, sight, failed, -⟩ := retried
      obtain ⟨w₃, passed, rest⟩ := path_append.mp waited.unguarded
      obtain ⟨w₄, step, rest⟩ := path_cons.mp rest
      obtain rfl := path_nil.mp rest
      have passive := passive_of_looking looking
      exact (tracked₁.passive passive passed).failed transient_finds known sight
        (code_ne_zero_of_exception failed) step ((latestAccepted_passive passive passed).trans latest₁)
        same.symm candidate
  · exact tracked.bail_failed transient_finds retry looked.unguarded latest same.symm candidate₁

/-- An except clause ends the run with an exception other than TxTimeoutError only
when nothing is open any more, and else goes on at the sequence of what is. -/
theorem handled_accounts {e : PyException} {out : Except PyException Control} (fails : Fails m attempt v e w)
    (unresolved : v.finalFuture = none) (handled : Handled m start attempt v e trace out v')
    (path : Path (SparingStep m call rounds) w trace w') :
    (out = .ok .continue → Accounted m v' w') ∧
      ∀ err, v'.finalFuture = some (.error err) → err.isTxTimeout = false → ¬ Undecided m w' := by
  have passive := (followUp_of_handled handled).passive
  have remembers := lastTxHash_of_handled handled
  -- when nothing is open before the clause, nothing is after it
  have settled : Chain.Tracked m v.lastTxHash w → ¬ Undecided m w → (out = .ok .continue → Accounted m v' w') ∧
      ∀ err, v'.finalFuture = some (.error err) → err.isTxTimeout = false → ¬ Undecided m w' := by
    intro tracked decided
    have after : ¬ Undecided m w' := fun undecided => decided (undecided.before passive path.unguarded)
    exact ⟨fun _ => accounted_of_decided (remembers ▸ tracked.passive passive path.unguarded) after,
      fun _ _ _ => after⟩
  cases fails with
  | decided tracked decided => exact settled tracked decided
  | fatal inPlace mismatch timeout decided =>
    constructor
    · rintro rfl
      have kind := (handled.of_plain mismatch timeout).1
      simp [inPlace] at kind
    · exact fun _ _ _ undecided => decided (undecided.before passive path.unguarded)
  | kept mismatch timeout accounted retried =>
    by_cases undecided : Undecided m w
    · have inPlace : e.retriesInPlace = true := by
        rcases retried undecided with rfl | ⟨kind, -⟩
        · rfl
        · exact kind
      obtain ⟨err, tail, late⟩ := handled.of_inPlace inPlace
      cases tail with
      | spent exhausted =>
        refine ⟨nofun, ?_⟩
        rintro _ ⟨⟩ final
        rcases retried undecided with same | ⟨-, left⟩
        · simp [late same] at final
        · exact (left exhausted).elim
      | again left =>
        obtain rfl := path_nil.mp path
        exact ⟨fun _ => accounted, fun err failed => by simp [unresolved] at failed⟩
      | overflow left bad => exact ⟨nofun, fun err failed => by simp [unresolved] at failed⟩
    · exact settled accounted.tracked undecided
  | timedOut kind tracked sent =>
    cases handled with
    | inPlace kind' => simp [PyException.inPlace_of_txTimeout kind] at kind'
    | fatal _ _ timeout => simp [kind] at timeout
    | mismatch kind' => simp [PyException.mismatch_of_txTimeout kind] at kind'
    | graceLanded kind' => simp [PyException.mismatch_of_txTimeout kind] at kind'
    | grace kind' => simp [PyException.mismatch_of_txTimeout kind] at kind'
    | landed _ bail =>
      refine ⟨nofun, fun err failed _ => ?_⟩
      exact decided_of_finalized tracked bail path.unguarded (fun b member candidate => (sent b member candidate).2)
        failed
    | timeoutLanded _ bail tail =>
      obtain ⟨w₁, looked, rest⟩ := path_append.mp path
      have decided₁ : ¬ Undecided m w₁ := by
        rintro ⟨b, member, candidate⟩
        have looking := (followUp_of_bail bail).passive
        rw [passive_path_accepted looking looked.unguarded] at member
        obtain ⟨-, last, latest, same⟩ :=
          sent b member ((passive_path looking looked.unguarded).1.open_before candidate)
        exact tracked.bail_failed transient_finds bail looked.unguarded latest same.symm candidate
      have after : ¬ Undecided m w' := fun undecided =>
        decided₁ (undecided.before (followUp_of_giveUp tail).passive rest.unguarded)
      exact ⟨fun _ => accounted_of_decided (remembers ▸ tracked.passive passive path.unguarded) after,
        fun _ _ _ => after⟩
    | timeoutUnseen _ bail tail =>
      cases tail with
      | spent exhausted =>
        refine ⟨nofun, ?_⟩
        rintro _ ⟨⟩ final
        cases final
      | again left =>
        refine ⟨fun _ => ⟨tracked.passive passive path.unguarded, fun b member candidate => ?_⟩,
          fun err failed => by simp [unresolved] at failed⟩
        rw [passive_path_accepted passive path.unguarded] at member
        obtain ⟨next, latest⟩ := sent b member ((passive_path passive path.unguarded).1.open_before candidate)
        exact ⟨next, rfl, latest.passive passive path.unguarded⟩
      | overflow left bad => exact ⟨nofun, fun err failed => by simp [unresolved] at failed⟩
  | rejected kind tracked turned won =>
    cases handled with
    | inPlace kind' => simp [PyException.inPlace_of_mismatch kind] at kind'
    | fatal _ mismatch => simp [kind] at mismatch
    | timeoutLanded kind' => simp [PyException.txTimeout_of_mismatch kind] at kind'
    | timeoutUnseen kind' => simp [PyException.txTimeout_of_mismatch kind] at kind'
    | landed _ bail =>
      refine ⟨nofun, fun err failed _ => ?_⟩
      exact decided_of_finalized tracked bail path.unguarded
        (fun b member candidate => (won b member candidate).2.2) failed
    | mismatch _ bail unfinished plain tail =>
      refine settled tracked ?_
      rintro ⟨b, member, candidate⟩
      have flagged := (won b member candidate).2.1
      simp [plain] at flagged
    | graceLanded _ bail unfinished flagged grace =>
      refine ⟨nofun, fun err failed _ => ?_⟩
      obtain ⟨w₁, looked, waited⟩ := path_append.mp path
      have looking := (followUp_of_bail bail).passive
      cases grace with
      | landed before unseen bail' found =>
        obtain ⟨w₂, passed, last⟩ := path_append.mp waited
        have waiting := looking.append (passive_of_looking before)
        have reach := path_append.mpr ⟨w₁, looked.unguarded, passed.unguarded⟩
        have tracked₂ : Chain.Tracked m (v.flagged false).lastTxHash w₂ := tracked.passive waiting reach
        refine decided_of_finalized tracked₂ bail' last.unguarded ?_ failed
        intro b member candidate
        rw [passive_path_accepted waiting reach] at member
        exact (won b member ((passive_path waiting reach).1.open_before candidate)).2.2.passive waiting reach
    | grace _ bail unfinished flagged grace unfinished' tail =>
      obtain ⟨w₂, looked, rest⟩ := path_append.mp path
      obtain ⟨w₁, first, window⟩ := path_append.mp looked
      have decided₂ := decided_of_collision tracked turned
        (fun b member candidate => ⟨(won b member candidate).1, (won b member candidate).2.2⟩)
        bail unfinished grace unfinished' first window
      have after : ¬ Undecided m w' := fun undecided =>
        decided₂ (undecided.before (followUp_of_mismatch tail).passive rest.unguarded)
      exact ⟨fun _ => accounted_of_decided (remembers ▸ tracked.passive passive path.unguarded) after,
        fun _ _ _ => after⟩

/-! ## What the `try` leaves -/

/-- The parameters of the submission, as the loop variables keep them. -/
def Params (call : Call) (v : RetryVars) : Prop := v.maxRetries = call.maxRetries ∧ v.timeout = call.timeout

/-- A broadcast that was not accepted. -/
theorem refused_fails {tx : Tx} {took : ℕ} {build : List Ev} {answer : Except PyException (Option TxResponse)}
    {e : PyException} (accounted : Accounted m v w) (params : Params call v)
    (begun : currentAttempt w.past = some attempt) (resolved : ResolvesTo v.nextAccountSeq build tx.sequence)
    (verdict : broadcastVerdict m tx answer = .error e)
    (step : SparingStep m call rounds w ⟨.query (.broadcastTx tx), (took, answer)⟩ w') : Fails m attempt v e w' := by
  obtain ⟨spares, step⟩ := step
  have last := latestAccepted_refused verdict step
  have taken : acceptedIn m w'.past = acceptedIn m w.past := by
    rw [step.recorded, acceptedIn_append]
    simp [acceptedIn, accepted, verdict]
  -- the guard speaks when something is open after the answer
  have exposed : Undecided m w' → Exposed m w ⟨.query (.broadcastTx tx), (took, answer)⟩ := by
    rintro ⟨b, member, candidate⟩
    obtain ⟨settled, moved, answered, -⟩ := step.answered
    refine ⟨b, taken ▸ member, ?_⟩
    have entered : (∃ due, w'.ledger = settled.enter tx due) ∨ w'.ledger = settled := by
      rcases answered.broadcast with ⟨_, _, _, _, _, after⟩ | ⟨_, _, _, _, after⟩ | ⟨_, _, after⟩
      · exact .inl after
      · exact .inr after
      · exact after
    rcases entered with ⟨due, after⟩ | after <;> rw [after] at candidate
    · rcases Ledger.open_enter candidate with same | old
      · exact .inr (by rw [same])
      · exact .inl (moved.open_before old)
    · exact .inl (moved.open_before candidate)
  have spared : Undecided m w' → e.isMismatch = true ∨ e.retriesInPlace = true ∧ ¬ Exhausted attempt v := by
    intro undecided
    refine ((spares (exposed undecided)).verdict rfl verdict).imp_right ?_
    rintro ⟨inPlace, number, known, left⟩
    refine ⟨inPlace, ?_⟩
    obtain rfl : attempt = number := Option.some.inj (begun.symm.trans known)
    rintro (spent | timed)
    · exact left (.inl (spent.trans params.1))
    · exact left (.inr (by simpa [params.2] using timed))
  obtain ⟨settled, moved, answered, -⟩ := step.answered
  rcases answered.broadcast with ⟨resp, rfl, passed, -⟩ | ⟨resp, rfl, failed, honest, after⟩ | ⟨lost, -, -⟩
  · obtain ⟨_, same, raised⟩ | ⟨same, -⟩ | ⟨same, -⟩ := broadcastVerdict_error verdict <;> cases same
    exact absurd passed (code_ne_zero_of_exception raised)
  · have kept : Accounted m v w' := by
      refine ⟨accounted.tracked.kept (.cons step (.nil _)) last (after ▸ moved.pool_eq), ?_⟩
      intro b member candidate
      obtain ⟨next, flagged, known, latest, same⟩ :=
        accounted.collides b (taken ▸ member) (moved.open_before (after ▸ candidate))
      exact ⟨next, flagged, known, last.trans latest, same⟩
    have raised : exceptionFromTxResponse m resp = some e := by
      obtain ⟨_, same, raised⟩ | ⟨same, -⟩ | ⟨same, -⟩ := broadcastVerdict_error verdict <;> cases same
      exact raised
    obtain ⟨mismatch, timeout⟩ := kind_of_exception raised
    by_cases kind : e.isMismatch = true
    · have elsewhere : tx.sequence ≠ w'.ledger.committed := after ▸ honest.mp (mismatch.mp kind)
      refine .rejected kind kept.tracked ?_ fun b member candidate => ?_
      · rw [step.recorded, unanswered_snoc]
        simp [unansweredAfter, turnsDown, verdict, kind]
      · obtain ⟨next, flagged, latest⟩ := kept.collides b member candidate
        rw [next] at resolved
        exact ⟨candidate.won (resolved ▸ elsewhere), flagged, latest⟩
    · exact .kept (Bool.eq_false_iff.mpr kind) timeout kept fun undecided => (spared undecided).elim
        (fun mismatch => (kind mismatch).elim) .inr
  · have kind : e.retriesInPlace = false ∧ e.isMismatch = false ∧ e.isTxTimeout = false := by
      obtain ⟨resp, same, -⟩ | ⟨-, rfl⟩ | ⟨rfl, late⟩ := broadcastVerdict_error verdict
      · exact (lost resp same).elim
      · exact ⟨rfl, rfl, rfl⟩
      · obtain ⟨mismatch, timeout, inPlace⟩ := PyException.kind_of_client (step.clients rfl)
        exact ⟨inPlace late, mismatch, timeout⟩
    refine .fatal kind.1 kind.2.1 kind.2.2 fun undecided => ?_
    rcases spared undecided with mismatch | ⟨inPlace, -⟩
    · simp [kind.2.1] at mismatch
    · simp [kind.1] at inPlace

/-- The confirmation of an accepted broadcast. -/
theorem confirmed_fails {hash : String} {tx : Tx} {out : Except PyException Control}
    (tracked : Chain.Tracked m (some hash) w) (latest : latestAccepted m w.past = some ⟨hash, tx⟩)
    (one : ∀ b ∈ acceptedIn m w.past, w.ledger.Open b.tx → b.tx.sequence = tx.sequence)
    (confirmed : Confirmed m v hash tx.sequence trace out v')
    (path : Path (SparingStep m call rounds) w trace w') :
    (∀ e, out = .error e → Fails m attempt v' e w') ∧
      ∀ control, out = .ok control → ∀ err, v'.finalFuture ≠ some (.error err) := by
  cases confirmed with
  | @missed _ e looking unseen early cause asked failed =>
    have passive := passive_of_looking looking
    refine ⟨?_, nofun⟩
    rintro _ ⟨⟩
    rcases failed with rfl | ⟨asked, within, took, member, inTime, unknown⟩
    · refine .timedOut rfl (tracked.passive passive path.unguarded) fun b member candidate => ?_
      rw [passive_path_accepted passive path.unguarded] at member
      have same := one b member ((passive_path passive path.unguarded).1.open_before candidate)
      exact ⟨congrArg some same.symm, ⟨hash, tx⟩, (latestAccepted_passive passive path.unguarded).trans latest,
        same.symm⟩
    · obtain ⟨mismatch, timeout, inPlace⟩ := PyException.kind_of_client
        (path_clientErrors path.unguarded _ member rfl)
      refine .fatal (inPlace early) mismatch timeout fun undecided => ?_
      obtain ⟨w₁, spares⟩ := spared_at passive path undecided member
      simp [spares.poll rfl inTime] at unknown
  | @found polls last seen resp _ _ looking unseen sighted status =>
    obtain ⟨w₁, polled, rest⟩ := path_append.mp path.unguarded
    obtain ⟨w₂, step, rest⟩ := path_cons.mp rest
    have passive := passive_of_looking looking
    have polling : Passive polls := fun e member => passive e (List.mem_append_left _ member)
    have seeing : Path (Node.Step m (Transient m)) w (polls ++ [seen]) w₂ :=
      path_append.mpr ⟨w₁, polled, .cons step (.nil w₂)⟩
    cases status with
    | success passed => exact ⟨nofun, fun control same err failed => by cases failed⟩
    | failure failed =>
      obtain rfl := path_nil.mp rest
      refine ⟨fun e same => .decided (tracked.passive passive seeing) ?_, nofun⟩
      rintro ⟨b, member, candidate⟩
      rw [passive_path_accepted passive seeing] at member
      have at_ := one b member ((passive_path passive seeing).1.open_before candidate)
      exact (tracked.passive polling polled).failed transient_finds rfl sighted
        (code_ne_zero_of_exception failed) step ((latestAccepted_passive polling polled).trans latest) at_ candidate

theorem sending_fails {out : Except PyException Control} (accounted : Accounted m v w) (params : Params call v)
    (begun : currentAttempt w.past = some attempt)
    (dear : ∀ message, out = .error (.maxFeesExceeded message) → QuietTrace trace → ¬ Undecided m w)
    (sending : Sending m v trace out v') (path : Path (SparingStep m call rounds) w trace w') :
    (∀ e, out = .error e → Fails m attempt v' e w') ∧
      ∀ control, out = .ok control → ∀ err, v'.finalFuture ≠ some (.error err) := by
  cases sending with
  | @unsent _ e quiet failed =>
    have passive := passive_of_quiet quiet
    have clients := path_clientErrors path.unguarded
    obtain ⟨mismatch, timeout, -⟩ := kind_of_interrupted clients failed.interrupted
    refine ⟨?_, nofun⟩
    rintro _ ⟨⟩
    refine .kept mismatch timeout (accounted.passive passive path.unguarded) fun undecided => .inl ?_
    cases failed with
    | tooExpensive capped =>
      exact (dear _ rfl quiet (undecided.before passive path.unguarded)).elim
    | account raised =>
      obtain ⟨w₁, spares⟩ := spared_at passive path undecided raised
      obtain same | ⟨info, same⟩ := spares.account rfl <;> cases same
      rfl
    | noAccount missing =>
      obtain ⟨w₁, spares⟩ := spared_at passive path undecided missing
      obtain same | ⟨info, same⟩ := spares.account rfl <;> cases same
    | sign raised =>
      obtain ⟨w₁, spares⟩ := spared_at passive path undecided raised
      exact spares.signed rfl
  | @refused build tx took answer e quiet content resolved verdict =>
    obtain ⟨w₁, built, rest⟩ := path_append.mp path
    obtain ⟨w₂, step, rest⟩ := path_cons.mp rest
    obtain rfl := path_nil.mp rest
    refine ⟨?_, nofun⟩
    rintro _ ⟨⟩
    have there : currentAttempt w₁.past = some attempt := by
      rw [path_past built.unguarded]
      exact currentAttempt_quiet begun quiet
    exact refused_fails (accounted.passive (passive_of_quiet quiet) built.unguarded) params there resolved verdict step
  | @accepted build rest tx took answer hash out v' quiet content resolved verdict confirmed =>
    obtain ⟨w₁, built, rest⟩ := path_append.mp path
    obtain ⟨w₂, step, rest⟩ := path_cons.mp rest
    have accounted₁ := accounted.passive (passive_of_quiet quiet) built.unguarded
    obtain ⟨tracked, opened⟩ := accounted₁.tracked.accepted verdict step.2
    refine confirmed_fails tracked (latestAccepted_accepted verdict step.2) ?_ confirmed rest
    intro b member candidate
    rcases opened b.tx candidate with same | old
    · rw [same]
    · rw [step.2.recorded, acceptedIn_append] at member
      rcases List.mem_append.mp member with before | last
      · obtain ⟨next, -⟩ := accounted₁.collides b before old
        rw [next] at resolved
        exact resolved.symm
      · obtain ⟨e, same, taken⟩ := List.mem_filterMap.mp last
        obtain rfl := List.mem_singleton.mp same
        simp only [accepted, verdict] at taken
        rw [← Option.some.inj taken]

/-- The `try` of a round. -/
theorem tried_fails {r : Round} (valid : r.Valid m start) (member : r ∈ rounds)
    (unresolved : r.entry.vars.finalFuture = none) (params : Params call r.entry.vars)
    (accounted : Accounted m r.entry.vars w) (path : Path (SparingStep m call rounds) w r.body w') :
    (∀ e, r.result = .error e → Fails m r.attempt r.raised.vars e w') ∧
      ∀ control, r.result = .ok control → ∀ err, r.raised.vars.finalFuture ≠ some (.error err) := by
  have tried := tryAttempt_outcome unresolved valid.tried
  have dear : ∀ message, r.result = .error (.maxFeesExceeded message) →
      ¬ RaisedIn r.body (.maxFeesExceeded message) →
      (∀ e ∈ r.body, ∀ tx, e.request ≠ .query (.broadcastTx tx)) →
      ∃ price congestion cap, r.Reads m price congestion ∧ m.maxFees = some cap ∧
        (cap : ℤ) < r.fee m price congestion := fun message result => valid.above_cap result
  generalize r.result = out, r.raised.vars = v' at tried dear ⊢
  generalize body : r.body = trace at tried dear path
  cases tried with
  | preFlight quiet low =>
    have passive := passive_of_quiet quiet
    refine ⟨?_, nofun⟩
    rintro _ ⟨⟩
    refine .kept rfl rfl (accounted.passive passive path.unguarded) fun undecided => ?_
    rcases low with ⟨unfunded, took, amount, reported, low⟩ | ⟨query, took, raised⟩
    · obtain ⟨w₁, spares⟩ := spared_at passive path undecided reported
      exact (not_lt.mpr (spares.funded unfunded rfl) low).elim
    · cases path_clientErrors path.unguarded _ raised rfl
  | @begun before rest out v' quiet sending =>
    obtain ⟨w₁, checked, path₁⟩ := path_append.mp path
    obtain ⟨w₂, step, path₂⟩ := path_cons.mp path₁
    have passive := passive_of_quiet quiet
    have mark : Passive [(⟨.beginAttempt r.attempt r.entry.vars.nextAccountSeq, ()⟩ : Ev)] := by
      simp [Passive, Request.isPassive]
    have marked : Path (Node.Step m (Transient m)) w₁
        [⟨.beginAttempt r.attempt r.entry.vars.nextAccountSeq, ()⟩] w₂ := .cons step.2 (.nil w₂)
    have accounted₂ := (accounted.passive passive checked.unguarded).passive mark marked
    have here : currentAttempt w₂.past = some r.attempt := by
      rw [step.2.recorded]
      exact currentAttempt_begun
    have ready : Accounted m (r.entry.vars.begun r.attempt) w₂ := ⟨accounted₂.tracked, accounted₂.collides⟩
    have params₂ : Params call (r.entry.vars.begun r.attempt) := params
    refine sending_fails ready params₂ here ?_ sending path₂
    intro message same quiet' undecided
    have unsent : ∀ e ∈ before ++ ⟨.beginAttempt r.attempt r.entry.vars.nextAccountSeq, ()⟩ :: rest,
        ∀ tx, e.request ≠ .query (.broadcastTx tx) := by
      intro e present tx broadcast
      rcases List.mem_append.mp present with before | after
      · have kind := quiet e before
        rw [broadcast] at kind
        cases kind
      · rcases List.mem_cons.mp after with rfl | after
        · cases broadcast
        · have kind := quiet' e after
          rw [broadcast] at kind
          cases kind
    have unraised : ¬ RaisedIn (before ++ ⟨.beginAttempt r.attempt r.entry.vars.nextAccountSeq, ()⟩ :: rest)
        (.maxFeesExceeded message) := by
      rintro ⟨query, took, raised⟩
      cases path_clientErrors path.unguarded _ raised rfl
    obtain ⟨price, congestion, cap, reads, capped, above⟩ := dear message same unraised unsent
    have spares := step.1 ((undecided.before mark marked).exposed _)
    exact not_lt.mpr (spares.affordable rfl r member rfl price congestion reads cap capped) above

/-- One attempt. -/
theorem round_accounts {r : Round} (valid : r.Valid m start) (member : r ∈ rounds)
    (unresolved : r.entry.vars.finalFuture = none) (params : Params call r.entry.vars)
    (accounted : Accounted m r.entry.vars w) (path : Path (SparingStep m call rounds) w r.trace w') :
    (r.control = .ok .continue → Accounted m r.exit.vars w') ∧
      ∀ err, r.exit.vars.finalFuture = some (.error err) → err.isTxTimeout = false → ¬ Undecided m w' := by
  obtain ⟨w₁, body, handling⟩ := path_append.mp path
  obtain ⟨raises, returns⟩ := tried_fails valid member unresolved params accounted body
  have tried := tryAttempt_outcome unresolved valid.tried
  have caught := valid.caught
  cases result : r.result with
  | ok control =>
    rw [result] at caught tried
    obtain ⟨-, control', exit⟩ := caught
    constructor
    · intro same
      obtain rfl : control = .continue := Except.ok.inj (control'.symm.trans same)
      exact tried.not_continue.elim
    · intro err failed
      rw [exit] at failed
      exact (returns control result err failed).elim
  | error e =>
    rw [result] at caught tried
    have open_still := tried.unresolved unresolved
    exact handled_accounts (raises e result) open_still (handle_outcome open_still caught) handling

end Steps

/-! ## Whole runs -/

section Runs

variable {m : Manager} {call : Call} {rounds : List Round} {start attempt : ℕ} {w w' : Node}

theorem rounds_decided {later : List Round} {s s' : Submission} {out : Except PyException Unit} {err : PyException}
    (run : Rounds m start attempt s later) (subset : ∀ r ∈ later, r ∈ rounds)
    (unresolved : s.vars.finalFuture = none) (params : Params call s.vars) (accounted : Accounted m s.vars w)
    (path : Path (SparingStep m call rounds) w (traceOf later) w') (ends : EndsIn later out s')
    (failed : s'.vars.finalFuture = some (.error err)) (final : err.isTxTimeout = false) : ¬ Undecided m w' := by
  induction run generalizing w with
  | @last attempt s r number entry valid stops =>
    subst entry
    obtain ⟨final', same, -, rfl⟩ := ends
    obtain rfl : r = final' := by simpa using same
    rw [show traceOf [r] = r.trace by simp [traceOf]] at path
    exact (round_accounts valid (subset r (.head _)) unresolved params accounted path).2 err failed final
  | @next attempt s r later number entry valid goesOn rest ih =>
    subst entry
    rw [show traceOf (r :: later) = r.trace ++ traceOf later by simp [traceOf]] at path
    obtain ⟨w₁, first, path₁⟩ := path_append.mp path
    have once := valid.runs
    rw [goesOn] at once
    obtain ⟨⟨future, retries, timeout, -⟩, -⟩ := (attemptOnce_outcome unresolved once).continues
    refine ih (fun q present => subset q (.tail _ present)) (future.trans unresolved)
      ⟨retries.trans params.1, timeout.trans params.2⟩
      ((round_accounts valid (subset r (.head _)) unresolved params accounted first).1 goesOn) path₁ ?_
    obtain ⟨final', same, ended⟩ := ends
    exact ⟨final', by rwa [List.getLast?_cons_of_ne_nil rest.ne_nil] at same, ended⟩

end Runs

/-- A run that fails for good leaves no accepted broadcast behind that has
succeeded or still can, if the replies spared its accepted broadcasts. -/
theorem failure_sound {m : Manager} {call : Call} {clock committed : ℕ} {price : Option ℚ}
    {cachedAt : Option ℕ} {rounds : List Round} {s' : Submission} {out : Except PyException Unit}
    {w' : Node} {later : Ledger Tx.sequence} {err : PyException}
    (run : call.Rounds m clock price cachedAt rounds) (ends : EndsIn rounds out s')
    (path : Path (SparingStep m call rounds) ⟨.start committed, []⟩ (traceOf rounds) w')
    (moved : Ledger.Steps w'.ledger later)
    (failed : s'.pending.finalFuture = some (.error err)) (final : err.isTxTimeout = false) :
    ∀ b ∈ acceptedIn m w'.past, ¬ later.Open b.tx := by
  have initial : Accounted m (call.entered clock price cachedAt).vars ⟨.start committed, []⟩ := by
    refine accounted_of_decided ⟨rfl, ?_, ?_, ?_, ?_⟩ ?_ <;>
      simp [latestAccepted, acceptedIn, Undecided, Ledger.start]
  have decided := rounds_decided run (fun _ member => member) rfl ⟨rfl, rfl⟩ initial path ends failed final
  exact fun b member candidate => decided ⟨b, member, moved.open_before candidate⟩

/-- Scheduled lookups that fail transiently obey the rule. -/
theorem respond_transient {m : Manager} {schedule : Schedule}
    (transient : ∀ past hash e, schedule.lookup past hash = some e → saysNotFound (.error e) = false)
    (ledger : Ledger Tx.sequence) (past : List Ev) (request : Request) :
    Transient m ledger ⟨request, (respond m schedule past ledger request).1⟩ := by
  refine ⟨respond_finds ledger past request, ?_⟩
  rintro hash within took answer same ⟨entry, member, named⟩
  obtain ⟨rfl, same⟩ := Event.mk.inj same
  have same := eq_of_heq same
  simp only [respond, answerGetTx] at same
  split at same
  · rename_i e scheduled
    cases same
    exact transient _ _ _ scheduled
  · split at same
    · cases same
      rfl
    · rename_i missing
      have absent := List.find?_eq_none.mp missing entry member
      simp [named] at absent

/-- The transaction runs out of gas on chain. -/
def outOfGas : Schedule where
  moves := fun _ request => match request with
    | .query (.getTx _ _) => [.commit 0 5]
    | _ => []
  fate := fun _ _ => .accept
  lookup := fun _ _ => none

/-- Polls are answered, there is no re-query, and nothing fails before a broadcast
that is accepted. -/
def untroubled (m : Manager) : Ev → Bool
  | ⟨.query (.getTx _ within), (_, answer)⟩ => within.isSome && answer.isOk
  | ⟨.query (.balance _ _), (_, answer)⟩ => answer.toOption.join.isNone
  | ⟨.query (.accountInfo _), (_, answer)⟩ => answer.toOption.join.isSome
  | ⟨.query (.sign _), (_, answer)⟩ => answer.isOk
  | ⟨.query (.broadcastTx tx), (_, answer)⟩ => (broadcastVerdict m tx answer).isOk
  | _ => true

theorem spares_of_untroubled {m : Manager} {call : Call} {rounds : List Round} {w : Node} {e : Ev}
    (uncapped : m.maxFees = none) (calm : untroubled m e = true) : Spares m call rounds w e := by
  constructor
  · rintro hash within took err rfl
    simp [untroubled] at calm
    cases calm
  · rintro took amount - rfl
    simp [untroubled, Except.toOption] at calm
  · rintro attempt sequence - r - - price congestion - cap capped
    rw [uncapped] at capped
    cases capped
  · rintro address took (e | _ | info) rfl
    · cases calm
    · cases calm
    · exact .inr ⟨info, rfl⟩
  · rintro tx took err rfl
    cases calm
  · rintro tx took answer err rfl verdict
    simp only [untroubled, verdict] at calm
    cases calm
  · rintro hash took answer count rfl
    cases calm

theorem failure_sound_outOfGas :
    (acceptedIn testnet (played testnet outOfGas (payload 0 none)).world.past).length = 1 ∧
      ∀ b ∈ acceptedIn testnet (played testnet outOfGas (payload 0 none)).world.past,
        ¬ (played testnet outOfGas (payload 0 none)).world.ledger.Open b.tx := by
  have silent : ∀ past hash e, outOfGas.lookup past hash ≠ some e := by
    rintro past hash e ⟨⟩
  have path : Path (Node.Step testnet (Transient testnet)) ⟨.start 0, []⟩
      (played testnet outOfGas (payload 0 none)).trace (played testnet outOfGas (payload 0 none)).world :=
    simulate_path (fun past hash e h => (silent past hash e h).elim)
      (respond_transient fun past hash e h => (silent past hash e h).elim) _ _ _
  have calm : (played testnet outOfGas (payload 0 none)).trace.all (untroubled testnet) = true := by
    decide +kernel
  have failed : (played testnet outOfGas (payload 0 none)).state.pending.finalFuture =
      some (.error (.outOfGas "Transaction ran out of gas: out of gas" none none)) := by
    decide +kernel
  obtain ⟨rounds, run, same, ends⟩ := Call.submit_runs_iff.mp (played_run testnet outOfGas (payload 0 none))
  have spared : Path (SparingStep testnet (payload 0 none) rounds) ⟨.start 0, []⟩ (traceOf rounds)
      (played testnet outOfGas (payload 0 none)).world := by
    rw [← same]
    exact path.guard fun e member w _ => spares_of_untroubled rfl (List.all_eq_true.mp calm e member)
  exact ⟨by decide +kernel, failure_sound run ends spared .refl failed rfl⟩

/-- The transaction is admitted, and every lookup fails with an RpcError. -/
def unavailable : Schedule where
  moves := fun _ _ => []
  fate := fun _ _ => .accept
  lookup := fun _ _ => some (.rpcError (some "unavailable"))

/-- The first failed poll is final, while the transaction can still be included. -/
theorem fails_undecided :
    ¬ ∀ {s' : Submission} {trace : List Ev} {out : Except PyException Unit} {w' : Node}
        {err : PyException},
      ((payload 2 none).submit testnet).Runs ((payload 2 none).begin 0 none none) trace out s' →
      Path (Node.Step testnet (Transient testnet)) ⟨.start 0, []⟩ trace w' →
      s'.pending.finalFuture = some (.error err) → err.isTxTimeout = false →
      ∀ b ∈ acceptedIn testnet w'.past, ¬ w'.ledger.Open b.tx := by
  intro claim
  have client : ∀ past hash e, unavailable.lookup past hash = some e → e.isClientError = true := by
    rintro past hash e ⟨⟩
    rfl
  have transient : ∀ past hash e, unavailable.lookup past hash = some e →
      saysNotFound (.error e) = false := by
    rintro past hash e ⟨⟩
    decide
  have failed : (played testnet unavailable (payload 2 none)).state.pending.finalFuture =
      some (.error (.rpcError (some "unavailable"))) := by decide +kernel
  have live : ((acceptedIn testnet (played testnet unavailable (payload 2 none)).world.past).any
      fun b => decide (b.tx ∈ (played testnet unavailable (payload 2 none)).world.ledger.pool) &&
        decide ((played testnet unavailable (payload 2 none)).world.ledger.committed ≤ b.tx.sequence)) =
      true := by decide +kernel
  obtain ⟨b, taken, live⟩ := List.any_eq_true.mp live
  obtain ⟨member, above⟩ := Bool.and_eq_true_iff.mp live
  exact claim (played_run _ _ _) (simulate_path client (respond_transient transient) _ _ _) failed rfl
    b taken (.inl ⟨of_decide_eq_true member, of_decide_eq_true above⟩)

end AlloraSdk.Guarantees
