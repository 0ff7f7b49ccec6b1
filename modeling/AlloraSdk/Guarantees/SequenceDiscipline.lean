import AlloraSdk.Chain.Simulation
import AlloraSdk.Chain.Tracking
import AlloraSdk.Source.TxManager.Resolution

/-!
# Sequence discipline of the retry loop

Stated on the events of a run alone, whatever the node replies. A sequence that
was observed included does not come back, unless the node itself reports one that
is not above it; and the loop leaves the sequence of an accepted broadcast only
after it saw it fail on chain, or after a mismatch rejection and a whole grace
window in vain.
-/

namespace AlloraSdk.Guarantees
open AlloraSdk.Logic AlloraSdk.Source.TxManager AlloraSdk.Chain

/-- The call of `_build_and_broadcast`: the attempt and its `account_seq`. -/
def attemptMark : Ev → Option (ℕ × Option ℕ)
  | ⟨.beginAttempt attempt accountSeq, _⟩ => some (attempt, accountSeq)
  | _ => none

/-- The latest accepted broadcast that reported the hash. -/
def holder (m : Manager) (past : List Ev) (hash : String) : Option Broadcast :=
  (acceptedIn m past).reverse.find? fun b => b.hash = hash

/-- A broadcast with the sequence was observed included, before `after`. -/
def Observed (m : Manager) (past : List Ev) (sequence : ℕ) (after : List Ev) : Prop :=
  ∃ before look hash resp b, past = before ++ look :: after ∧ sighting look = some (hash, resp) ∧
    holder m before hash = some b ∧ b.tx.sequence = sequence

/-- Does the current attempt ask for a fresh sequence? -/
def asksFresh (fresh : Bool) (e : Ev) : Bool :=
  match attemptMark e with
  | some (_, accountSeq) => accountSeq.isNone
  | none => fresh

def reported : Ev → Option ℕ
  | ⟨.query (.accountInfo _), (_, .ok (some info))⟩ => some info.sequence
  | _ => none

/-- The sequences that attempts which asked for a fresh one were told. -/
def freshReports (fresh : Bool) : List Ev → List ℕ
  | [] => []
  | e :: rest =>
    (if fresh then (reported e).toList else []) ++ freshReports (asksFresh fresh e) rest

/-- A CheckTx rejection for the sequence. -/
def isRejection (m : Manager) : Ev → Bool
  | ⟨.query (.broadcastTx tx), (_, answer)⟩ =>
    match broadcastVerdict m tx answer with
    | .error e => e.isMismatch
    | .ok _ => false
  | _ => false

/-- `b` (or a later accepted broadcast of its sequence) was observed included with
a retryable failure, in the events `taken :: after` from its acceptance on. -/
def SeenFailed (m : Manager) (taken : Ev) (after : List Ev) (b : Broadcast) : Prop :=
  ∃ mid look rest hash resp err b', after = mid ++ look :: rest ∧
    sighting look = some (hash, resp) ∧ exceptionFromTxResponse m resp = some err ∧
    err.isRetryable = true ∧ b' ∈ acceptedIn m (taken :: mid) ∧ b'.hash = hash ∧
    b'.tx.sequence = b.tx.sequence

/-- A mismatch rejection came after the acceptance, and the latest accepted hash
was then looked up in vain through the grace window. -/
def WaitedInVain (m : Manager) (before : List Ev) (taken : Ev) (after : List Ev) : Prop :=
  ∃ mid rejection gap window rest, after = mid ++ rejection :: (gap ++ window ++ rest) ∧
    isRejection m rejection = true ∧
    Graced m ((latestAccepted m (before ++ taken :: mid)).map (·.hash)) 3 window

def Settled (m : Manager) (before : List Ev) (taken : Ev) (after : List Ev) (b : Broadcast) : Prop :=
  SeenFailed m taken after b ∨ WaitedInVain m before taken after

/-! ## Growing histories -/

section Histories

variable {m : Manager} {past rest : List Ev}

theorem split_append {before after : List Ev} {e : Ev} (same : past ++ rest = before ++ e :: after) :
    (∃ between, past = before ++ e :: between ∧ after = between ++ rest) ∨
      ∃ between, before = past ++ between ∧ rest = between ++ e :: after := by
  rcases List.append_eq_append_iff.mp same with ⟨between, rfl, rfl⟩ | ⟨between, rfl, tail⟩
  · exact .inr ⟨between, rfl, rfl⟩
  · cases between with
    | nil => exact .inr ⟨[], by simp, by simpa using tail.symm⟩
    | cons head between =>
      obtain ⟨rfl, rfl⟩ := List.cons_eq_cons.mp tail
      exact .inl ⟨between, rfl, rfl⟩

theorem split_snoc {before after : List Ev} {last e : Ev} (same : past ++ [last] = before ++ e :: after) :
    (∃ between, past = before ++ e :: between ∧ after = between ++ [last]) ∨
      before = past ∧ e = last ∧ after = [] := by
  rcases split_append same with h | ⟨between, rfl, tail⟩
  · exact .inl h
  · cases between with
    | nil =>
      obtain ⟨rfl, rfl⟩ := List.cons_eq_cons.mp tail
      exact .inr ⟨by simp, rfl, rfl⟩
    | cons head between => simp at tail

theorem Settled.append {before after : List Ev} {e : Ev} {b : Broadcast}
    (settled : Settled m before e after b) : Settled m before e (after ++ rest) b := by
  rcases settled with ⟨mid, look, tail, hash, resp, err, b', rfl, h⟩ |
    ⟨mid, rejection, gap, window, tail, rfl, h⟩
  · exact .inl ⟨mid, look, tail ++ rest, hash, resp, err, b', by simp, h⟩
  · exact .inr ⟨mid, rejection, gap, window, tail ++ rest, by simp, h⟩

theorem freshReports_append (fresh : Bool) (after : List Ev) :
    freshReports fresh (after ++ rest) =
      freshReports fresh after ++ freshReports (after.foldl asksFresh fresh) rest := by
  induction after generalizing fresh with
  | nil => rfl
  | cons e after ih => simp [freshReports, ih]

/-- Every accepted broadcast is settled, or still at the sequence `s`. -/
def Pending (m : Manager) (past : List Ev) (s : ℕ) : Prop :=
  ∀ ⦃before taken after b⦄, past = before ++ taken :: after → accepted m taken = some b →
    b.tx.sequence = s ∨ Settled m before taken after b

def AllSettled (m : Manager) (past : List Ev) : Prop :=
  ∀ ⦃before taken after b⦄, past = before ++ taken :: after → accepted m taken = some b →
    Settled m before taken after b

/-- `n` is above every sequence observed included, or the node reported one that is not. -/
def Above (m : Manager) (past : List Ev) (n : ℕ) : Prop :=
  ∀ ⦃s after⦄, Observed m past s after → s < n ∨ ∃ r ∈ freshReports false after, r ≤ s

/-- Neither an accepted broadcast nor a sighting. -/
def Dull (m : Manager) (trace : List Ev) : Prop :=
  ∀ e ∈ trace, accepted m e = none ∧ sighting e = none

theorem Pending.append {s : ℕ} (pending : Pending m past s) (none : acceptedIn m rest = []) :
    Pending m (past ++ rest) s := by
  intro before taken after b split takes
  rcases split_append split with ⟨between, rfl, rfl⟩ | ⟨between, rfl, rfl⟩
  · exact (pending rfl takes).imp_right Settled.append
  · have absent := List.filterMap_eq_nil_iff.mp none taken (by simp)
    rw [takes] at absent
    cases absent

theorem AllSettled.append (settled : AllSettled m past) (none : acceptedIn m rest = []) :
    AllSettled m (past ++ rest) := by
  intro before taken after b split takes
  rcases split_append split with ⟨between, rfl, rfl⟩ | ⟨between, rfl, rfl⟩
  · exact (settled rfl takes).append
  · have absent := List.filterMap_eq_nil_iff.mp none taken (by simp)
    rw [takes] at absent
    cases absent

theorem Above.append {n : ℕ} (above : Above m past n) (unseen : Unseen rest) :
    Above m (past ++ rest) n := by
  rintro s after ⟨before, look, hash, resp, b, split, sight, held, at_⟩
  rcases split_append split with ⟨between, rfl, rfl⟩ | ⟨between, rfl, rfl⟩
  · rcases above ⟨before, look, hash, resp, b, rfl, sight, held, at_⟩ with below | ⟨r, member, le⟩
    · exact .inl below
    · refine .inr ⟨r, ?_, le⟩
      rw [freshReports_append]
      exact List.mem_append_left _ member
  · have absent := unseen look (by simp)
    rw [sight] at absent
    cases absent

theorem Dull.unseen (dull : Dull m rest) : Unseen rest := fun e member => (dull e member).2

theorem Dull.accepted (dull : Dull m rest) : acceptedIn m rest = [] :=
  List.filterMap_eq_nil_iff.mpr fun e member => (dull e member).1

theorem Dull.append {first : List Ev} (h₁ : Dull m first) (h₂ : Dull m rest) :
    Dull m (first ++ rest) := by
  intro e member
  rcases List.mem_append.mp member with h | h
  · exact h₁ e h
  · exact h₂ e h

theorem dull_of_quiet (quiet : QuietTrace rest) : Dull m rest := by
  intro e member
  refine ⟨accepted_of_passive (passive_of_quiet quiet e member), ?_⟩
  have h := quiet e member
  obtain ⟨request, reply⟩ := e
  cases request with
  | query query => cases query <;> first | rfl | cases h
  | _ => rfl

theorem dull_of_looking {lastTxHash : Option String} (looking : Looking lastTxHash rest)
    (unseen : Unseen rest) : Dull m rest := fun e member =>
  ⟨accepted_of_passive (passive_of_looking looking e member), unseen e member⟩

theorem Pending.accept {s : ℕ} (pending : Pending m past s) {e : Ev} {b : Broadcast}
    (takes : accepted m e = some b) (at_ : b.tx.sequence = s) : Pending m (past ++ [e]) s := by
  intro before taken after b' split takes'
  rcases split_snoc split with ⟨between, rfl, rfl⟩ | ⟨rfl, rfl, rfl⟩
  · exact (pending rfl takes').imp_right Settled.append
  · rw [takes] at takes'
    cases takes'
    exact .inl at_

theorem accepted_of_sighting {look : Ev} {seen : String × TxResponse}
    (sight : sighting look = some seen) : accepted m look = none := by
  obtain ⟨request, reply⟩ := look
  cases request with
  | query query => cases query <;> first | rfl | simp [sighting] at sight
  | _ => rfl

theorem accepted_of_rejection {e : Ev} (rejected : isRejection m e = true) : accepted m e = none := by
  obtain ⟨request, reply⟩ := e
  cases request with
  | query query =>
    cases query with
    | broadcastTx tx =>
      obtain ⟨took, answer⟩ := reply
      simp only [isRejection] at rejected
      split at rejected
      · rename_i verdict
        simp only [accepted, verdict]
      · cases rejected
    | _ => rfl
  | _ => rfl

theorem acceptedIn_rejection {e : Ev} (rejected : isRejection m e = true) : acceptedIn m [e] = [] := by
  simp [acceptedIn, accepted_of_rejection rejected]

theorem mem_of_latest {before between : List Ev} {taken : Ev} {b b' : Broadcast}
    (latest : latestAccepted m (before ++ taken :: between) = some b)
    (takes : accepted m taken = some b') : b ∈ acceptedIn m (taken :: between) := by
  have parts : acceptedIn m (taken :: between) = b' :: acceptedIn m between := by
    simp [acceptedIn, takes]
  rw [latestAccepted, acceptedIn_append, parts, List.getLast?_append_of_ne_nil _ (by simp)] at latest
  exact parts ▸ List.mem_of_getLast? latest

/-- The retryable failure of the latest broadcast settles all that were pending. -/
theorem Pending.failed {s : ℕ} (pending : Pending m past s) {look : Ev} {b : Broadcast}
    {resp : TxResponse} {err : PyException} (latest : latestAccepted m past = some b)
    (at_ : b.tx.sequence = s) (sight : sighting look = some (b.hash, resp))
    (failed : exceptionFromTxResponse m resp = some err) (retryable : err.isRetryable = true) :
    AllSettled m (past ++ [look]) := by
  intro before taken after b' split takes
  rcases split_snoc split with ⟨between, rfl, rfl⟩ | ⟨rfl, rfl, rfl⟩
  · rcases pending rfl takes with same | settled
    · exact .inl ⟨between, look, [], b.hash, resp, err, b, rfl, sight, failed, retryable,
        mem_of_latest latest takes, rfl, at_.trans same.symm⟩
    · exact settled.append
  · rw [accepted_of_sighting sight] at takes
    cases takes

/-- A mismatch rejection and a grace window in vain settle all that were pending. -/
theorem Pending.waited {s : ℕ} (pending : Pending m past s) {rejection : Ev} {gap window : List Ev}
    (rejected : isRejection m rejection = true) (gapless : acceptedIn m gap = [])
    (graced : Graced m ((latestAccepted m past).map (·.hash)) 3 window) :
    AllSettled m (past ++ rejection :: (gap ++ window)) := by
  intro before taken after b split takes
  rcases split_append split with ⟨between, rfl, rfl⟩ | ⟨between, rfl, tail⟩
  · rcases pending rfl takes with same | settled
    · exact .inr ⟨between, rejection, gap, window, [], by simp, rejected, graced⟩
    · exact settled.append
  · have absent : acceptedIn m (rejection :: (gap ++ window)) = [] := by
      simp only [acceptedIn, List.filterMap_cons, accepted_of_rejection rejected]
      change acceptedIn m (gap ++ window) = []
      rw [acceptedIn_append, gapless, (passive_of_looking graced.looking.1).acceptedIn]
      rfl
    rw [tail] at absent
    have none := List.filterMap_eq_nil_iff.mp absent taken (by simp)
    rw [takes] at none
    cases none

theorem holder_latest {b : Broadcast} (latest : latestAccepted m past = some b) :
    holder m past b.hash = some b := by
  rw [latestAccepted, ← List.head?_reverse] at latest
  obtain ⟨older, reversed⟩ := List.head?_eq_some_iff.mp latest
  simp [holder, reversed]

/-- Seeing the latest broadcast included puts the next sequence above it. -/
theorem Above.seen {n : ℕ} (above : Above m past n) {look : Ev} {b : Broadcast} {resp : TxResponse}
    (latest : latestAccepted m past = some b) (at_ : b.tx.sequence = n)
    (sight : sighting look = some (b.hash, resp)) : Above m (past ++ [look]) (n + 1) := by
  rintro s after ⟨before, look', hash, resp', b', split, sight', held, rfl⟩
  rcases split_snoc split with ⟨between, rfl, rfl⟩ | ⟨rfl, rfl, rfl⟩
  · rcases above ⟨before, look', hash, resp', b', rfl, sight', held, rfl⟩ with below | ⟨r, member, le⟩
    · exact .inl (Nat.lt_succ_of_lt below)
    · refine .inr ⟨r, ?_, le⟩
      rw [freshReports_append]
      exact List.mem_append_left _ member
  · obtain ⟨rfl, -⟩ : b.hash = hash ∧ resp = resp' := by simpa [sight] using sight'
    rw [holder_latest latest] at held
    cases held
    exact .inl (by omega)

end Histories

/-! ## The invariant of the loop -/

/-- An accepted broadcast that is not settled is at the sequence that the next
attempt uses, and a rejection of that attempt is taken for proof that it landed. -/
def AtStake (m : Manager) (v : RetryVars) (past : List Ev) : Prop :=
  ∃ s, v.nextAccountSeq = some s ∧ v.sameSeqRebroadcast = true ∧ Pending m past s ∧
    ∀ b, latestAccepted m past = some b → b.tx.sequence = s

structure Disciplined (m : Manager) (v : RetryVars) (past : List Ev) : Prop where
  known : v.lastTxHash = (latestAccepted m past).map (·.hash)
  above : ∀ n, v.nextAccountSeq = some n → Above m past n
  pending : AllSettled m past ∨ AtStake m v past

/-- What an exception of the `try` leaves for its handler. -/
inductive Caught (m : Manager) (v : RetryVars) (e : PyException) (past : List Ev) : Prop
  | kept (mismatch : e.isMismatch = false) (timeout : e.isTxTimeout = false)
      (disciplined : Disciplined m v past)
  | rejected {before : List Ev} {rejection : Ev} (kind : e.isMismatch = true)
      (split : past = before ++ [rejection]) (rejects : isRejection m rejection = true)
      (disciplined : Disciplined m v before)
  | settled (timeout : e.isTxTimeout = false) (disciplined : Disciplined m v past)
      (all : AllSettled m past)
  | timedOut {s : ℕ} (kind : e.isTxTimeout = true)
      (known : v.lastTxHash = (latestAccepted m past).map (·.hash))
      (next : v.nextAccountSeq = some s) (above : Above m past s) (pending : Pending m past s)
      (latest : ∀ b, latestAccepted m past = some b → b.tx.sequence = s)
  | fatal (inPlace : e.retriesInPlace = false) (mismatch : e.isMismatch = false)
      (timeout : e.isTxTimeout = false)

section Steps

variable {m : Manager} {start attempt : ℕ} {v v' : RetryVars} {trace past : List Ev}

/-- What a re-query finds to have failed settles what was pending. -/
theorem Pending.foundRetryable {s : ℕ} (pending : Pending m past s)
    (known : v.lastTxHash = (latestAccepted m past).map (·.hash))
    (latest : ∀ b, latestAccepted m past = some b → b.tx.sequence = s)
    (found : FoundRetryable m v.lastTxHash trace) : AllSettled m (past ++ trace) := by
  obtain ⟨before, seen, hash, resp, err, rfl, looking, unseen, same, sight, failed, retryable⟩ := found
  have none := (dull_of_looking looking unseen : Dull m before).accepted
  obtain ⟨b, last, rfl⟩ := Option.map_eq_some_iff.mp (known.symm.trans same)
  rw [← List.append_assoc]
  exact (pending.append none).failed ((latestAccepted_append none).trans last) (latest b last) sight
    failed retryable

/-- With everything settled, a handler that asks for a fresh sequence is in order. -/
theorem disciplined_fresh (known : v.lastTxHash = (latestAccepted m past).map (·.hash))
    (fresh : v.nextAccountSeq = none) (all : AllSettled m past) : Disciplined m v past :=
  ⟨known, fun n same => by simp [fresh] at same, .inl all⟩

/-- After a rejection the grace window settles what was pending, whether it ends
in vain or finds a retryable failure. -/
theorem Disciplined.graced (disciplined : Disciplined m v past) {rejection : Ev} {look window : List Ev}
    {outcome : LandedOutcome} (rejects : isRejection m rejection = true)
    (gapless : acceptedIn m look = [])
    (grace : Grace m (v.flagged false) 3 window outcome (v.flagged false))
    (unfinished : outcome ≠ .finalized) : AllSettled m (past ++ [rejection] ++ (look ++ window)) := by
  have rejected := acceptedIn_rejection rejects
  rcases disciplined.pending with all | ⟨s, -, -, pending, latest⟩
  · refine (all.append rejected).append ?_
    rw [acceptedIn_append, gapless, (followUp_of_grace grace).passive.acceptedIn]
    rfl
  rcases grace.graced_or_retried unfinished with graced | found
  · rw [RetryVars.flagged_lastTxHash, disciplined.known] at graced
    have settled : AllSettled m (past ++ rejection :: (look ++ window)) :=
      pending.waited rejects gapless graced
    rw [List.append_assoc]
    exact settled
  · rw [RetryVars.flagged_lastTxHash] at found
    have kept : latestAccepted m (past ++ [rejection] ++ look) = latestAccepted m past := by
      rw [latestAccepted_append gapless, latestAccepted_append rejected]
    rw [← List.append_assoc]
    refine ((pending.append rejected).append gapless).foundRetryable ?_ ?_ found
    · rw [kept]
      exact disciplined.known
    · rw [kept]
      exact latest

theorem caught_handled {e : PyException} (caught : Caught m v e past)
    (handled : Handled m start attempt v e trace (.ok .continue) v') :
    Disciplined m v' (past ++ trace) := by
  have none : acceptedIn m trace = [] := (followUp_of_handled handled).passive.acceptedIn
  have same := lastTxHash_of_handled handled
  have last : latestAccepted m (past ++ trace) = latestAccepted m past := latestAccepted_append none
  cases caught with
  | fatal inPlace mismatch timeout =>
    have kind := (handled.of_plain mismatch timeout).1
    simp [inPlace] at kind
  | kept mismatch timeout disciplined =>
    obtain ⟨-, rfl, rfl⟩ := handled.of_plain mismatch timeout
    rwa [List.append_nil]
  | settled timeout disciplined all =>
    have known : v'.lastTxHash = (latestAccepted m (past ++ trace)).map (·.hash) := by
      rw [same, last]
      exact disciplined.known
    cases mismatch : e.isMismatch with
    | false =>
      obtain ⟨-, rfl, rfl⟩ := handled.of_plain mismatch timeout
      rwa [List.append_nil]
    | true =>
      cases handled.of_mismatch mismatch with
      | plain unflagged => exact disciplined_fresh known rfl (all.append none)
      | grace flagged bail unfinished grace => exact disciplined_fresh known rfl (all.append none)
  | timedOut kind known next above pending latest =>
    rcases handled.of_txTimeout kind with ⟨bail, rfl⟩ | ⟨bail, rfl⟩
    · refine disciplined_fresh ?_ rfl (pending.foundRetryable known latest bail.retried)
      rw [last]
      exact known
    · have missed := bail.of_notLanded.1
      have dull : Dull m _ := dull_of_looking missed.looking missed.unseen
      constructor
      · rw [last]
        exact known
      · intro n following
        obtain rfl := Option.some.inj (next.symm.trans following)
        exact above.append dull.unseen
      · refine .inr ⟨_, next, rfl, pending.append none, fun b taken => latest b ?_⟩
        rwa [last] at taken
  | @rejected before rejection kind split rejects disciplined =>
    subst split
    have known : v'.lastTxHash = (latestAccepted m (before ++ [rejection] ++ trace)).map (·.hash) := by
      rw [same, last, latestAccepted_append (acceptedIn_rejection rejects)]
      exact disciplined.known
    cases handled.of_mismatch kind with
    | plain unflagged =>
      refine disciplined_fresh known rfl (AllSettled.append ?_ none)
      rcases disciplined.pending with all | ⟨s, next, flagged, -⟩
      · exact all.append (acceptedIn_rejection rejects)
      · rw [unflagged] at flagged
        cases flagged
    | grace flagged bail unfinished grace unfinished' tail =>
      refine disciplined_fresh known rfl ?_
      rw [← List.append_assoc]
      exact (disciplined.graced rejects (followUp_of_bail bail).passive.acceptedIn grace
        unfinished').append (followUp_of_mismatch tail).passive.acceptedIn

/-! ### Attempts -/

theorem Disciplined.append (disciplined : Disciplined m v past) (dull : Dull m trace) :
    Disciplined m v (past ++ trace) := by
  have last : latestAccepted m (past ++ trace) = latestAccepted m past :=
    latestAccepted_append dull.accepted
  constructor
  · rw [last]
    exact disciplined.known
  · exact fun n same => (disciplined.above n same).append dull.unseen
  · refine disciplined.pending.imp (·.append dull.accepted) ?_
    rintro ⟨s, next, flagged, pending, latest⟩
    exact ⟨s, next, flagged, pending.append dull.accepted, fun b taken => latest b (last ▸ taken)⟩

theorem dull_mark {e : Ev} {hint : ℕ × Option ℕ} (begins : attemptMark e = some hint) : Dull m [e] := by
  intro e' member
  obtain rfl := List.mem_singleton.mp member
  obtain ⟨request, reply⟩ := e'
  cases request with
  | beginAttempt => exact ⟨rfl, rfl⟩
  | _ => cases begins

theorem attemptMark_of_quiet {e : Ev} (quiet : e.request.isQuiet = true) : attemptMark e = none := by
  obtain ⟨request, reply⟩ := e
  cases request with
  | beginAttempt => cases quiet
  | _ => rfl

/-- A sequence that the node reports on the way of an attempt that asks for a
fresh one is among `freshReports`. -/
theorem mem_freshReports {build : List Ev} (quiet : QuietTrace build) {e : Ev} (member : e ∈ build)
    {r : ℕ} (reports : reported e = some r) : r ∈ freshReports true build := by
  induction build with
  | nil => cases member
  | cons head build ih =>
    have still : asksFresh true head = true := by
      rw [asksFresh, attemptMark_of_quiet (quiet head (.head _))]
    rw [freshReports, if_pos rfl, still]
    rcases List.mem_cons.mp member with rfl | member
    · simp [reports]
    · exact List.mem_append_right _ (ih (fun e' h => quiet e' (List.mem_cons_of_mem _ h)) member)

/-- The sequence that an attempt resolves to: nothing pending is elsewhere, and
what it may repeat the node reported. -/
theorem Disciplined.sequence (disciplined : Disciplined m v past) (attempt : ℕ) {build : List Ev}
    {sequence : ℕ} (quiet : QuietTrace build)
    (resolved : ResolvesTo v.nextAccountSeq build sequence) : Pending m past sequence ∧
      Above m (past ++ ⟨.beginAttempt attempt v.nextAccountSeq, ()⟩ :: build) sequence := by
  have unseen : Unseen (⟨.beginAttempt attempt v.nextAccountSeq, ()⟩ :: build) :=
    ((dull_mark rfl).append (dull_of_quiet quiet) : Dull m (_ :: build)).unseen
  cases next : v.nextAccountSeq with
  | some explicit =>
    rw [next] at resolved unseen
    obtain rfl : sequence = explicit := resolved
    refine ⟨?_, (disciplined.above sequence next).append unseen⟩
    rcases disciplined.pending with all | ⟨s, same, -, pending, -⟩
    · exact fun before taken after b split takes => .inr (all split takes)
    · obtain rfl := Option.some.inj (next.symm.trans same)
      exact pending
  | none =>
    rw [next] at resolved unseen
    obtain ⟨address, took, info, member, rfl⟩ := resolved
    constructor
    · rcases disciplined.pending with all | ⟨s, same, -⟩
      · exact fun before taken after b split takes => .inr (all split takes)
      · rw [next] at same
        cases same
    · rintro s after ⟨before, look, hash, resp, b, split, sight, -, -⟩
      have report := mem_freshReports quiet member rfl
      rcases split_append split with ⟨between, rfl, rfl⟩ | ⟨between, rfl, tail⟩
      · refine (Nat.lt_or_ge s info.sequence).imp_right fun le => ⟨info.sequence, ?_, le⟩
        rw [freshReports_append]
        exact List.mem_append_right _ (List.mem_append_right _ report)
      · have absent := unseen look (tail ▸ by simp)
        rw [sight] at absent
        cases absent

theorem caught_refused {tx : Tx} {took : ℕ} {answer : Except PyException (Option TxResponse)}
    {e : PyException} (disciplined : Disciplined m v past)
    (client : ClientErrors ⟨.query (.broadcastTx tx), (took, answer)⟩)
    (verdict : broadcastVerdict m tx answer = .error e) :
    Caught m v e (past ++ [⟨.query (.broadcastTx tx), (took, answer)⟩]) := by
  by_cases kind : e.isMismatch = true
  · refine .rejected kind rfl ?_ disciplined
    simp only [isRejection, verdict, kind]
  · have timeout : e.isTxTimeout = false := by
      obtain ⟨resp, rfl, raised⟩ | ⟨-, rfl⟩ | ⟨rfl, -⟩ := broadcastVerdict_error verdict
      · exact (kind_of_exception raised).2
      · rfl
      · exact (PyException.kind_of_client (client rfl)).2.1
    refine .kept (Bool.eq_false_iff.mpr kind) timeout (disciplined.append ?_)
    intro e' member
    obtain rfl := List.mem_singleton.mp member
    exact ⟨by simp only [accepted, verdict], rfl⟩

theorem caught_confirmed {b : Broadcast} {e : PyException} (clients : ∀ e ∈ trace, ClientErrors e)
    (latest : latestAccepted m past = some b) (above : Above m past b.tx.sequence)
    (pending : Pending m past b.tx.sequence)
    (confirmed : Confirmed m v b.hash b.tx.sequence trace (.error e) v') :
    Caught m v' e (past ++ trace) := by
  have at_ : ∀ {polls : List Ev}, Passive polls → latestAccepted m (past ++ polls) = some b :=
    fun passive => (latestAccepted_append passive.acceptedIn).trans latest
  cases confirmed with
  | missed looking unseen early cause =>
    have passive := passive_of_looking looking
    rcases cause with rfl | interrupted
    · refine .timedOut rfl ?_ rfl (above.append unseen) (pending.append passive.acceptedIn) ?_
      · rw [at_ passive]
        rfl
      · intro b' same
        rw [← Option.some.inj ((at_ passive).symm.trans same)]
    · obtain ⟨mismatch, timeout, inPlace⟩ := kind_of_interrupted clients interrupted
      exact .fatal (inPlace early) mismatch timeout
  | @found polls last seen resp _ _ looking unseen sighted status =>
    cases status with
    | failure failed =>
      have polling : Passive polls := fun e member =>
        passive_of_looking looking e (List.mem_append_left _ member)
      have timeout := (kind_of_exception failed).2
      rw [List.append_cons, List.append_nil]
      by_cases retryable : e.isRetryable = true
      · have all : AllSettled m (past ++ (polls ++ [seen])) := by
          rw [← List.append_assoc]
          exact (pending.append polling.acceptedIn).failed (at_ polling) rfl sighted failed retryable
        refine .settled timeout ⟨?_, ?_, .inl all⟩ all
        · rw [at_ (passive_of_looking looking)]
          rfl
        · rintro n same
          obtain rfl := Option.some.inj same
          rw [← List.append_assoc]
          exact (above.append unseen).seen (at_ polling) rfl sighted
      · rcases exceptionFromTxResponse_cases failed with h | rfl
        · exact (retryable h).elim
        · exact .fatal rfl rfl rfl

theorem caught_sending {e : PyException} (clients : ∀ e ∈ trace, ClientErrors e)
    (disciplined : Disciplined m v past) (sending : Sending m (v.begun attempt) trace (.error e) v') :
    Caught m v' e (past ++ ⟨.beginAttempt attempt v.nextAccountSeq, ()⟩ :: trace) := by
  have marked : Dull m [⟨.beginAttempt attempt v.nextAccountSeq, ()⟩] := dull_mark rfl
  have begun : Disciplined m (v.begun attempt) past := ⟨disciplined.known, disciplined.above, disciplined.pending⟩
  cases sending with
  | unsent quiet failed =>
    obtain ⟨mismatch, timeout, -⟩ := kind_of_interrupted clients failed.interrupted
    exact .kept mismatch timeout (begun.append (marked.append (dull_of_quiet quiet)))
  | refused quiet content resolved verdict =>
    have kept := begun.append (marked.append (dull_of_quiet quiet))
    have caught := caught_refused kept (clients _ (List.mem_append_right _ (.head _))) verdict
    rwa [List.append_assoc, List.append_assoc] at caught
  | @accepted build rest tx took answer hash _ _ quiet content resolved verdict confirmed =>
    obtain ⟨pending, above⟩ := begun.sequence attempt quiet resolved
    have dull : Dull m (⟨.beginAttempt attempt v.nextAccountSeq, ()⟩ :: build) :=
      marked.append (dull_of_quiet quiet)
    have takes : accepted m ⟨.query (.broadcastTx tx), (took, answer)⟩ = some ⟨hash, tx⟩ := by
      simp only [accepted, verdict]
    have latest : latestAccepted m (past ++ ⟨.beginAttempt attempt v.nextAccountSeq, ()⟩ :: build ++
        [⟨.query (.broadcastTx tx), (took, answer)⟩]) = some ⟨hash, tx⟩ :=
      latestAccepted_snoc takes
    have unseen : Unseen [(⟨.query (.broadcastTx tx), (took, answer)⟩ : Ev)] := by
      simp [Unseen, sighting]
    have caught := caught_confirmed (fun e member => clients e (by simp [member]))
      latest (above.append unseen) ((pending.append dull.accepted).accept takes rfl) confirmed
    simpa using caught

theorem caught_tried {e : PyException} (clients : ∀ e ∈ trace, ClientErrors e)
    (disciplined : Disciplined m v past) (tried : Tried m attempt v trace (.error e) v') :
    Caught m v' e (past ++ trace) := by
  cases tried with
  | preFlight quiet => exact .kept rfl rfl (disciplined.append (dull_of_quiet quiet))
  | begun quiet sending =>
    rw [← List.append_assoc]
    exact caught_sending (fun e member => clients e (by simp [member]))
      (disciplined.append (dull_of_quiet quiet)) sending

/-! ### Marks -/

/-- What an attempt may ask for, after the events so far. -/
structure Permitted (m : Manager) (past : List Ev) (hint : Option ℕ) : Prop where
  included : ∀ ⦃s after⦄, hint = some s → Observed m past s after → ∃ r ∈ freshReports false after, r ≤ s
  accepted : ∀ ⦃before taken after b⦄, past = before ++ taken :: after → accepted m taken = some b →
    hint = some b.tx.sequence ∨ Settled m before taken after b

theorem Disciplined.permitted (disciplined : Disciplined m v past) : Permitted m past v.nextAccountSeq := by
  constructor
  · intro s after next observed
    exact (disciplined.above s next observed).resolve_left (Nat.lt_irrefl s)
  · intro before taken after b split takes
    rcases disciplined.pending with all | ⟨s, next, -, pending, -⟩
    · exact .inr (all split takes)
    · refine (pending split takes).imp_left fun same => ?_
      rw [next, same]

/-- Every attempt of `trace`, after `past`, asked for what it may. -/
def Permits (m : Manager) (past trace : List Ev) : Prop :=
  ∀ ⦃before mark after attempt hint⦄, trace = before ++ mark :: after →
    attemptMark mark = some (attempt, hint) → Permitted m (past ++ before) hint

theorem permits_unmarked (unmarked : ∀ e ∈ trace, attemptMark e = none) : Permits m past trace := by
  rintro before mark after attempt hint rfl begins
  have absent := unmarked mark (by simp)
  rw [begins] at absent
  cases absent

theorem Permits.append {rest : List Ev} (h₁ : Permits m past trace) (h₂ : Permits m (past ++ trace) rest) :
    Permits m past (trace ++ rest) := by
  intro before mark after attempt hint split begins
  rcases split_append split with ⟨between, rfl, rfl⟩ | ⟨between, rfl, rfl⟩
  · exact h₁ rfl begins
  · rw [← List.append_assoc]
    exact h₂ rfl begins

theorem permits_quiet (quiet : QuietTrace trace) : Permits m past trace :=
  permits_unmarked fun e member => attemptMark_of_quiet (quiet e member)

theorem permits_followUp (followUp : FollowUp trace) : Permits m past trace := by
  refine permits_unmarked fun e member => ?_
  have h := followUp e member
  obtain ⟨request, reply⟩ := e
  cases request with
  | beginAttempt => cases h
  | _ => rfl

theorem permits_mark (permitted : Permitted m past v.nextAccountSeq) :
    Permits m past [⟨.beginAttempt attempt v.nextAccountSeq, ()⟩] := by
  intro before mark after attempt' hint split begins
  cases before with
  | nil =>
    obtain ⟨rfl, -⟩ := List.cons_eq_cons.mp split
    obtain ⟨rfl, rfl⟩ : attempt = attempt' ∧ v.nextAccountSeq = hint := by
      simpa [attemptMark] using begins
    simpa using permitted
  | cons head before => simp at split

theorem permits_sending {out : Except PyException Control} (sending : Sending m v trace out v') :
    Permits m past trace := by
  cases sending with
  | unsent quiet => exact permits_quiet quiet
  | refused quiet => exact (permits_quiet quiet).append (permits_unmarked (by simp [attemptMark]))
  | accepted quiet content resolved verdict confirmed =>
    rw [List.append_cons]
    exact ((permits_quiet quiet).append (permits_unmarked (by simp [attemptMark]))).append
      (permits_followUp (followUp_of_confirmed confirmed))

theorem permits_tried {out : Except PyException Control} (disciplined : Disciplined m v past)
    (tried : Tried m attempt v trace out v') : Permits m past trace := by
  cases tried with
  | preFlight quiet => exact permits_quiet quiet
  | begun quiet sending =>
    rw [List.append_cons]
    exact ((permits_quiet quiet).append
      (permits_mark (disciplined.append (dull_of_quiet quiet)).permitted)).append
      (permits_sending sending)

theorem attempt_disciplined {out : Except PyException Control} (clients : ∀ e ∈ trace, ClientErrors e)
    (disciplined : Disciplined m v past) (run : Attempt m start attempt v trace out v') :
    Permits m past trace ∧ (out = .ok .continue → Disciplined m v' (past ++ trace)) := by
  cases run with
  | success tried =>
    refine ⟨permits_tried disciplined tried, ?_⟩
    rintro same
    cases same
    exact tried.not_continue.elim
  | @caught body handling e _ raised _ tried handled =>
    refine ⟨(permits_tried disciplined tried).append
      (permits_followUp (followUp_of_handled handled)), ?_⟩
    rintro rfl
    rw [← List.append_assoc]
    exact caught_handled
      (caught_tried (fun e member => clients e (List.mem_append_left _ member)) disciplined tried) handled

end Steps

/-- Every attempt of every run asks for a sequence that it may ask for. -/
theorem sequence_discipline {m : Manager} {call : Call} {clock : ℕ} {price : Option ℚ}
    {cachedAt : Option ℕ} {s' : Submission} {trace : List Ev} {out : Except PyException Unit}
    (run : (call.submit m).Runs (call.begin clock price cachedAt) trace out s')
    (clients : ∀ e ∈ trace, ClientErrors e) : Permits m [] trace := by
  have step : ∀ {attempt v past events out v'},
      ((∀ e ∈ past, ClientErrors e) → Disciplined m v past ∧ Permits m [] past) →
      Attempt m clock attempt v events out v' → (∀ e ∈ past ++ events, ClientErrors e) →
      (out = .ok .continue → Disciplined m v' (past ++ events)) ∧ Permits m [] (past ++ events) := by
    intro attempt v past events out v' before run clients
    obtain ⟨disciplined, permits⟩ := before fun e member => clients e (List.mem_append_left _ member)
    obtain ⟨marked, kept⟩ :=
      attempt_disciplined (fun e member => clients e (List.mem_append_right _ member)) disciplined run
    exact ⟨kept, permits.append marked⟩
  refine call.rule
    (fun _ v past => (∀ e ∈ past, ClientErrors e) → Disciplined m v past ∧ Permits m [] past)
    (fun _ _ past => (∀ e ∈ past, ClientErrors e) → Permits m [] past)
    run (path_recording.mpr (List.nil_append trace).symm) (fun _ => ⟨?_, ?_⟩) ?_ ?_ ?_ clients
  · refine ⟨rfl, fun n _ s after observed => ?_, .inl fun before taken after b split => ?_⟩
    · obtain ⟨before, look, -, -, -, split, -⟩ := observed
      simp at split
    · simp at split
  · intro before mark after attempt hint split
    simp at split
  · intro attempt v past events v' past' before _ run path clients
    obtain rfl := path_recording.mp path
    exact ⟨(step before run clients).1 rfl, (step before run clients).2⟩
  · intro attempt v past events v' past' before _ run path clients
    obtain rfl := path_recording.mp path
    exact (step before run clients).2
  · intro attempt v past events e v' past' before _ run path clients
    obtain rfl := path_recording.mp path
    exact (step before run clients).2

/-! ## Where the exceptions are needed -/

def inOrder : Ev → Bool
  | ⟨.query _, (_, .error err)⟩ => err.isClientError
  | _ => true

theorem clientErrors_of_inOrder {trace : List Ev} (checked : trace.all inOrder = true) :
    ∀ e ∈ trace, ClientErrors e := by
  rintro e member query took err rfl
  exact List.all_eq_true.mp checked _ member

/-- A node whose account query is at 5 all the time, by what CheckTx says to that
sequence and how a poll goes. -/
def staleNode (admitted : Tx → TxResponse) (poll : List Ev → String → Option TxResponse)
    (past : List Ev) : (request : Request) → Reply request
  | .query (.account _) => (0, .ok ())
  | .query (.balance _ _) => (0, .ok none)
  | .query (.gasPrice _) => (0, .ok none)
  | .query .feemarketState => (0, .ok none)
  | .query .feemarketParams => (0, .ok none)
  | .query (.accountInfo _) => (0, .ok (some ⟨5, 1⟩))
  | .query (.sign _) => (0, .ok ())
  | .query (.broadcastTx tx) =>
    if tx.sequence = 5 ∧ (acceptedIn testnet past).all (fun b => b.hash ≠ "") then
      (0, .ok (some (admitted tx)))
    else (0, .ok (some (response 32 "account sequence mismatch" "")))
  | .query (.getTx hash (some within)) =>
    match poll past hash with
    | some resp => (0, .ok (some resp))
    | none => (within, .ok none)
  | .query (.getTx _ none) => (0, .ok none)
  | .sleep _ => (0 : ℕ)
  | .beginAttempt _ _ => ()
  | .resolve _ => ()

/-- The first broadcast runs out of gas on chain, the next one is turned down,
and lookups of the third find nothing. -/
def stale : List Ev → (request : Request) → Reply request :=
  staleNode (fun tx => response 0 "" (testnet.txHash tx)) fun past hash =>
    if (acceptedIn testnet past).length = 1 then some (response 5 "out of gas" hash) else none

/-- The response to the accepted broadcast has no hash. -/
def nameless : List Ev → (request : Request) → Reply request :=
  staleNode (fun _ => response 0 "" "") fun _ _ => none

def replayed (reply : List Ev → (request : Request) → Reply request) :
    Coroutine.Played Submission Request Reply (List Ev) (Except PyException Unit) :=
  ((payload 3 none).submit testnet).play (replying reply) ((payload 3 none).begin 0 none none) []

theorem replayed_run (reply : List Ev → (request : Request) → Reply request) :
    ((payload 3 none).submit testnet).Runs ((payload 3 none).begin 0 none none)
      (replayed reply).trace (replayed reply).value (replayed reply).state :=
  Routine.play_runs _ _ _ _

theorem sequence_discipline_stale :
    (replayed stale).trace.filterMap attemptMark = [(0, none), (1, some 6), (2, none), (3, some 5)] ∧
      Permits testnet [] (replayed stale).trace :=
  ⟨by decide +kernel,
    sequence_discipline (replayed_run stale) (clientErrors_of_inOrder (by decide +kernel))⟩

/-- A sequence that was observed included does not come back. -/
def NeverReturns (m : Manager) (past : List Ev) (hint : Option ℕ) : Prop :=
  ∀ s, hint = some s → ∀ after, ¬ Observed m past s after

/-- Lookups of the hash, each after the query interval, that did not find it. -/
def Requeried (m : Manager) (hash : String) : ℕ → List Ev → Prop
  | 0, trace => trace = []
  | checks + 1, trace => ∃ late took answer rest,
      trace = ⟨.sleep m.queryInterval, late⟩ :: ⟨.query (.getTx hash none), (took, answer)⟩ :: rest ∧
        (∀ resp, answer ≠ .ok (some resp)) ∧ Requeried m hash checks rest

/-- The sequence of an accepted broadcast is left only after it was seen to fail,
or after three lookups of the latest hash. -/
def LeavesSettled (m : Manager) (past : List Ev) (hint : Option ℕ) : Prop :=
  ∀ ⦃before taken after b⦄, past = before ++ taken :: after → accepted m taken = some b →
    hint = some b.tx.sequence ∨ SeenFailed m taken after b ∨
      ∃ mid rejection gap window rest latest, after = mid ++ rejection :: (gap ++ window ++ rest) ∧
        isRejection m rejection = true ∧
        latestAccepted m (before ++ taken :: mid) = some latest ∧ Requeried m latest.hash 3 window

def unobserved (m : Manager) (past : List Ev) (sequence : ℕ) : Bool :=
  alongPast (fun before look => match sighting look with
    | some (hash, _) => (holder m before hash).all fun b => decide (b.tx.sequence ≠ sequence)
    | none => true) [] past

theorem unobserved_of_neverReturns {m : Manager} {past : List Ev} {sequence : ℕ}
    (never : NeverReturns m past (some sequence)) : unobserved m past sequence = true := by
  refine alongPast_iff.mpr fun before look after split => ?_
  split
  · rename_i hash resp sight
    rw [List.nil_append, Option.all_eq_true]
    intro b held
    exact decide_eq_true fun at_ =>
      never sequence rfl after ⟨before, look, hash, resp, b, split, sight, held, at_⟩
  · rfl

def isRequery : Ev → Bool
  | ⟨.query (.getTx _ none), _⟩ => true
  | _ => false

/-- Some lookup was made, or every accepted broadcast is at the sequence. -/
def looked (m : Manager) (past : List Ev) (hint : Option ℕ) : Bool :=
  past.any (fun e => isRequery e || (sighting e).isSome) ||
    (acceptedIn m past).all fun b => decide (hint = some b.tx.sequence)

theorem looked_of_leavesSettled {m : Manager} {past : List Ev} {hint : Option ℕ}
    (leaves : LeavesSettled m past hint) : looked m past hint = true := by
  by_cases moved : ∃ b ∈ acceptedIn m past, hint ≠ some b.tx.sequence
  · obtain ⟨b, member, moved⟩ := moved
    obtain ⟨taken, member, takes⟩ := List.mem_filterMap.mp member
    obtain ⟨before, after, rfl⟩ := List.append_of_mem member
    refine Bool.or_eq_true_iff.mpr (.inl (List.any_eq_true.mpr ?_))
    rcases leaves rfl takes with same | ⟨mid, look, rest, hash, resp, _, _, rfl, sight, -⟩ |
      ⟨mid, rejection, gap, window, rest, latest, rfl, -, -, late, took, answer, _, rfl, -, -⟩
    · exact (moved same).elim
    · exact ⟨look, by simp, by simp [sight]⟩
    · exact ⟨⟨.query (.getTx latest.hash none), (took, answer)⟩, by simp, by simp [isRequery]⟩
  · refine Bool.or_eq_true_iff.mpr (.inr (List.all_eq_true.mpr fun b member => decide_eq_true ?_))
    by_contra other
    exact moved ⟨b, member, other⟩

def unobservedAt (m : Manager) (before : List Ev) (mark : Ev) : Bool :=
  match attemptMark mark with
  | some (_, some s) => unobserved m before s
  | _ => true

def lookedAt (m : Manager) (before : List Ev) (mark : Ev) : Bool :=
  match attemptMark mark with
  | some (_, hint) => looked m before hint
  | none => true

/-- Sequence 5 was observed included and comes back; and the sequence of a
broadcast without a hash is left without a lookup. -/
theorem sequence_undisciplined :
    (¬ ∀ {s' : Submission} {trace : List Ev} {out : Except PyException Unit}
        {before after : List Ev} {mark : Ev} {attempt : ℕ} {hint : Option ℕ},
      ((payload 3 none).submit testnet).Runs ((payload 3 none).begin 0 none none) trace out s' →
      (∀ e ∈ trace, ClientErrors e) → trace = before ++ mark :: after →
      attemptMark mark = some (attempt, hint) → NeverReturns testnet before hint) ∧
    ¬ ∀ {s' : Submission} {trace : List Ev} {out : Except PyException Unit}
        {before after : List Ev} {mark : Ev} {attempt : ℕ} {hint : Option ℕ},
      ((payload 3 none).submit testnet).Runs ((payload 3 none).begin 0 none none) trace out s' →
      (∀ e ∈ trace, ClientErrors e) → trace = before ++ mark :: after →
      attemptMark mark = some (attempt, hint) → LeavesSettled testnet before hint := by
  constructor
  · intro claim
    have never : alongPast (unobservedAt testnet) [] (replayed stale).trace = true := by
      refine alongPast_iff.mpr fun before mark after split => ?_
      unfold unobservedAt
      split
      · rename_i attempt s begins
        exact unobserved_of_neverReturns (claim (replayed_run stale)
          (clientErrors_of_inOrder (by decide +kernel)) split begins)
      · rfl
    exact absurd never (by decide +kernel)
  · intro claim
    have asked : alongPast (lookedAt testnet) [] (replayed nameless).trace = true := by
      refine alongPast_iff.mpr fun before mark after split => ?_
      unfold lookedAt
      split
      · rename_i attempt hint begins
        exact looked_of_leavesSettled (claim (replayed_run nameless)
          (clientErrors_of_inOrder (by decide +kernel)) split begins)
      · rfl
    exact absurd asked (by decide +kernel)

end AlloraSdk.Guarantees
