import AlloraSdk.Chain.Simulation
import AlloraSdk.Chain.Tracking
import AlloraSdk.Source.TxManager.Resolution

/-!
# Outcome soundness of a submission

The submission is a detached task, so its future must be resolved on every path.
It is, exactly once, unless the deadline `start + timeout` is computed and is no
`datetime`: that is the one exception the handlers themselves can raise.
-/

namespace AlloraSdk.Guarantees
open AlloraSdk.Logic AlloraSdk.Source.TxManager AlloraSdk.Chain

def broadcasts (trace : List Ev) : ℕ := trace.countP fun e => !Request.isPassive e.request

def resolution : Ev → Option (Except PyException TxResponse)
  | ⟨.resolve outcome, _⟩ => some outcome
  | _ => none

def resolutions (trace : List Ev) : List (Except PyException TxResponse) := trace.filterMap resolution

/-- The run returns within its broadcasts and resolves its future once; a result
is what GetTx returned for the hash of the latest accepted broadcast. -/
structure OutcomeSound (m : Manager) (maxRetries : ℕ) (trace : List Ev) (out : Except PyException Unit)
    (s' : Submission) : Prop where
  returns : out = .ok ()
  bounded : broadcasts trace ≤ maxRetries + 1
  once : ∃ outcome, s'.pending.finalFuture = some outcome ∧ resolutions trace = [outcome]
  result : ∀ resp, s'.pending.finalFuture = some (.ok resp) → resp.code = 0 ∧
    ∃ b look, latestAccepted m trace = some b ∧ look ∈ trace ∧ sighting look = some (b.hash, resp)

/-! ## What an attempt adds -/

section Steps

variable {m : Manager} {start attempt : ℕ} {v v' : RetryVars} {trace past : List Ev}
  {out : Except PyException Control}

theorem broadcasts_append (first rest : List Ev) :
    broadcasts (first ++ rest) = broadcasts first + broadcasts rest :=
  List.countP_append

theorem broadcasts_passive (passive : Passive trace) : broadcasts trace = 0 := by
  refine List.countP_eq_zero.mpr fun e member => ?_
  simp [passive e member]

/-- The run remembers the hash of its latest accepted broadcast. -/
def Remembers (m : Manager) (v : RetryVars) (past : List Ev) : Prop :=
  v.lastTxHash = (latestAccepted m past).map (·.hash)

theorem Remembers.append (remembers : Remembers m v past) (none : acceptedIn m trace = [])
    (same : v'.lastTxHash = v.lastTxHash) : Remembers m v' (past ++ trace) := by
  rw [Remembers, same, latestAccepted_append none]
  exact remembers

theorem passive_mark (attempt : ℕ) (hint : Option ℕ) :
    Passive [(⟨.beginAttempt attempt hint, ()⟩ : Ev)] := by
  simp [Passive, Request.isPassive]

theorem sending_counts (sending : Sending m v trace out v') (remembers : Remembers m v past) :
    broadcasts trace ≤ 1 ∧ Remembers m v' (past ++ trace) := by
  cases sending with
  | unsent quiet interrupted =>
    have passive := passive_of_quiet quiet
    exact ⟨(broadcasts_passive passive).le.trans (Nat.zero_le 1), remembers.append passive.acceptedIn rfl⟩
  | refused quiet content resolved verdict =>
    rw [broadcasts_append, broadcasts_passive (passive_of_quiet quiet)]
    refine ⟨by simp [broadcasts, Request.isPassive], remembers.append ?_ rfl⟩
    rw [acceptedIn_append, (passive_of_quiet quiet).acceptedIn]
    simp [acceptedIn, accepted, verdict]
  | @accepted build rest tx took answer hash _ _ quiet content resolved verdict confirmed =>
    have follows := (followUp_of_confirmed confirmed).passive
    constructor
    · rw [List.append_cons, broadcasts_append, broadcasts_append,
        broadcasts_passive (passive_of_quiet quiet), broadcasts_passive follows]
      simp [broadcasts, Request.isPassive]
    · have takes : accepted m ⟨.query (.broadcastTx tx), (took, answer)⟩ = some ⟨hash, tx⟩ := by
        simp only [accepted, verdict]
      rw [Remembers, lastTxHash_of_confirmed confirmed, List.append_cons, ← List.append_assoc,
        latestAccepted_append follows.acceptedIn, ← List.append_assoc, latestAccepted_snoc takes]
      rfl

theorem tried_counts (tried : Tried m attempt v trace out v') (remembers : Remembers m v past) :
    broadcasts trace ≤ 1 ∧ Remembers m v' (past ++ trace) := by
  cases tried with
  | preFlight quiet =>
    have passive := passive_of_quiet quiet
    exact ⟨(broadcasts_passive passive).le.trans (Nat.zero_le 1), remembers.append passive.acceptedIn rfl⟩
  | @begun before rest _ _ quiet sending =>
    have passive : Passive (before ++ [⟨.beginAttempt attempt v.nextAccountSeq, ()⟩]) :=
      (passive_of_quiet quiet).append (passive_mark _ _)
    have begun : Remembers m (v.begun attempt) (past ++ _) := remembers.append passive.acceptedIn rfl
    obtain ⟨bounded, remembered⟩ := sending_counts sending begun
    rw [List.append_cons, broadcasts_append, broadcasts_passive passive, Nat.zero_add,
      ← List.append_assoc]
    exact ⟨bounded, remembered⟩

theorem attempt_counts (run : Attempt m start attempt v trace out v') (remembers : Remembers m v past) :
    broadcasts trace ≤ 1 ∧ Remembers m v' (past ++ trace) := by
  cases run with
  | success tried => exact tried_counts tried remembers
  | caught tried handled =>
    obtain ⟨bounded, remembered⟩ := tried_counts tried remembers
    have passive := (followUp_of_handled handled).passive
    rw [broadcasts_append, broadcasts_passive passive, Nat.add_zero, ← List.append_assoc]
    exact ⟨bounded, remembered.append passive.acceptedIn (lastTxHash_of_handled handled)⟩

end Steps

theorem resolutions_of_unresolving {trace : List Ev} (unresolving : Unresolving trace) :
    resolutions trace = [] := by
  refine List.filterMap_eq_nil_iff.mpr fun e member => ?_
  have h := unresolving e member
  obtain ⟨request, reply⟩ := e
  cases request with
  | resolve outcome => exact (h outcome rfl).elim
  | _ => rfl

/-- A run stays within its broadcasts, remembers its latest accepted one, and
lets nothing but an overflowing deadline escape. -/
theorem submission_counts {m : Manager} {call : Call} {clock : ℕ} {price : Option ℚ}
    {cachedAt : Option ℕ} {s' : Submission} {trace : List Ev} {out : Except PyException Unit}
    (run : (call.submit m).Runs (call.begin clock price cachedAt) trace out s') :
    (broadcasts trace ≤ call.maxRetries + 1 ∧ Remembers m s'.vars trace) ∧
      ∀ e, out = .error e → call.maxRetries ≠ 0 ∧ DeadlineOverflows clock call.timeout := by
  refine call.rule
    (fun attempt v past => (attempt ≤ call.maxRetries ∧ v.maxRetries = call.maxRetries ∧
      v.timeout = call.timeout) ∧ broadcasts past ≤ attempt ∧ Remembers m v past)
    (fun out v past => (broadcasts past ≤ call.maxRetries + 1 ∧ Remembers m v past) ∧
      ∀ e, out = .error e → call.maxRetries ≠ 0 ∧ DeadlineOverflows clock call.timeout)
    run (path_recording.mpr (List.nil_append trace).symm) ⟨⟨Nat.zero_le _, rfl, rfl⟩, Nat.zero_le _, rfl⟩
    ?_ ?_ ?_
  · rintro attempt v past events v' past' ⟨⟨within, retries, timeout⟩, bounded, remembers⟩ - run path
    obtain rfl := path_recording.mp path
    obtain ⟨⟨-, retries', timeout', -⟩, left⟩ := run.continues
    obtain ⟨one, remembered⟩ := attempt_counts run remembers
    rw [broadcasts_append]
    exact ⟨⟨by omega, retries'.trans retries, timeout'.trans timeout⟩, by omega, remembered⟩
  · rintro attempt v past events v' past' ⟨⟨within, -, -⟩, bounded, remembers⟩ - run path
    obtain rfl := path_recording.mp path
    obtain ⟨one, remembered⟩ := attempt_counts run remembers
    rw [broadcasts_append]
    exact ⟨⟨by omega, remembered⟩, fun e same => by cases same⟩
  · rintro attempt v past events e v' past' ⟨⟨within, retries, timeout⟩, bounded, remembers⟩ - run path
    obtain rfl := path_recording.mp path
    obtain ⟨one, remembered⟩ := attempt_counts run remembers
    obtain ⟨left, overflows⟩ := run.escapes
    rw [broadcasts_append]
    exact ⟨⟨by omega, remembered⟩, fun _ _ => ⟨by omega, timeout ▸ overflows⟩⟩

theorem outcomeSound_of_deadline {m : Manager} {call : Call} {clock : ℕ} {price : Option ℚ}
    {cachedAt : Option ℕ} {s' : Submission} {trace : List Ev} {out : Except PyException Unit}
    (deadline : call.maxRetries = 0 ∨ ¬ DeadlineOverflows clock call.timeout)
    (run : (call.submit m).Runs (call.begin clock price cachedAt) trace out s') :
    OutcomeSound m call.maxRetries trace out s' := by
  obtain ⟨⟨bounded, remembers⟩, escapes⟩ := submission_counts run
  obtain ⟨before, outcome, rfl, unresolving, rfl, resolved, justified⟩ | ⟨e, rfl, -, -⟩ :=
    call.resolution run
  · have once : resolutions (before ++ [⟨.resolve outcome, ()⟩]) = [outcome] := by
      rw [resolutions, List.filterMap_append]
      exact congrArg (· ++ [outcome]) (resolutions_of_unresolving unresolving)
    refine ⟨rfl, bounded, ⟨outcome, resolved, once⟩, fun resp result => ?_⟩
    obtain rfl : outcome = .ok resp := Option.some.inj (resolved.symm.trans result)
    obtain ⟨passed, earlier, look, hash, rfl, sight, known⟩ := justified resp rfl
    obtain ⟨b, latest, rfl⟩ := Option.map_eq_some_iff.mp (remembers.symm.trans known)
    exact ⟨passed, b, look, latest, by simp, sight⟩
  · obtain ⟨retries, overflows⟩ := escapes e rfl
    exact (deadline.elim retries (· overflows)).elim

/-! ## The deadline that is no datetime -/

/-- With a retry left, an overflowing deadline escapes from the handler. -/
theorem giveUpOr_overflows {start attempt : ℕ} {err : PyException} {next : Act Control} {s : Submission}
    (left : attempt ≠ s.pending.maxRetries) (overflows : DeadlineOverflows start s.pending.timeout) :
    (giveUpOr start attempt err next).Runs s [] (.error outOfRange) s := by
  obtain ⟨delta, finite, outside⟩ := overflows
  refine Routine.runs_bind.mpr (.inl ⟨outOfRange, Routine.runs_state_bind.mpr ?_, rfl⟩)
  rw [if_neg left, finite]
  exact Routine.runs_ofExcept_bind.mpr (.inl ⟨outOfRange, if_neg outside, rfl, rfl, rfl⟩)

/-- A node that lets every query run into its deadline. -/
def deaf : List Ev → (request : Request) → Reply request
  | _, .query _ => (0, .error .asyncioTimeout)
  | _, .sleep _ => (0 : ℕ)
  | _, .beginAttempt _ _ => ()
  | _, .resolve _ => ()

def payloadBy (maxRetries : ℕ) (timeout : Option ℤ) : Call := { payload maxRetries none with timeout }

/-- The exception reaches the first attempt's handler before anything is sent. -/
theorem escapes_unresolved {maxRetries clock : ℕ} {timeout : Option ℤ} (retries : maxRetries ≠ 0)
    (overflows : DeadlineOverflows clock timeout) :
    ∃ trace s', ((payloadBy maxRetries timeout).submit testnet).Runs
      ((payloadBy maxRetries timeout).begin clock none none) trace (.error outOfRange) s' := by
  let s : Submission := { (payloadBy maxRetries timeout).begin clock none none with
    feeMultiplier := feeMultipliers .standard }
  let first := (tryAttempt testnet 0).play (replying deaf) s []
  have tried : (tryAttempt testnet 0).Runs s first.trace (.error .asyncioTimeout) first.state :=
    Routine.play_runs (replying deaf) (tryAttempt testnet 0) s []
  have handled : (handle testnet clock 0 .asyncioTimeout).Runs first.state [] (.error outOfRange)
      first.state := giveUpOr_overflows retries.symm overflows
  refine ⟨first.trace ++ [], first.state, Routine.runs_state_bind.mpr (Routine.runs_update_bind.mpr ?_)⟩
  refine Routine.runs_bind.mpr (.inl ⟨outOfRange, ?_, rfl⟩)
  exact Routine.runs_tryCatch.mpr (.inr ⟨_, _, _, _, tried, handled, rfl⟩)

/-- Whatever the manager, the hint and the replies, every submission with these
retries and this timeout, started at `clock`, ends soundly if and only if it has
no retry or its deadline is a `datetime`. -/
theorem outcome_sound_iff (maxRetries clock : ℕ) (timeout : Option ℤ) :
    (∀ {m : Manager} {call : Call} {price : Option ℚ} {cachedAt : Option ℕ} {s' : Submission}
        {trace : List Ev} {out : Except PyException Unit},
      call.maxRetries = maxRetries → call.timeout = timeout →
      (call.submit m).Runs (call.begin clock price cachedAt) trace out s' →
      OutcomeSound m maxRetries trace out s') ↔
    maxRetries = 0 ∨ ¬ DeadlineOverflows clock timeout := by
  constructor
  · intro sound
    by_contra bad
    obtain ⟨retries, overflows⟩ := not_or.mp bad
    obtain ⟨trace, s', run⟩ := escapes_unresolved retries (not_not.mp overflows)
    cases (sound rfl rfl run).returns
  · rintro condition m call price cachedAt s' trace out rfl rfl run
    exact outcomeSound_of_deadline condition run

/-- `datetime.now() + timedelta.max` overflows: the first deadline error of the
node escapes and the future stays unresolved. -/
theorem outcome_unsound :
    ¬ ∀ {s' : Submission} {trace : List Ev} {out : Except PyException Unit},
      ((payloadBy 2 (some 86399999999999999999)).submit testnet).Runs
        ((payloadBy 2 (some 86399999999999999999)).begin 0 none none) trace out s' →
      OutcomeSound testnet 2 trace out s' := by
  intro sound
  have overflows : DeadlineOverflows 0 (some 86399999999999999999) :=
    ⟨86399999999999999999, by decide, by decide⟩
  obtain ⟨trace, s', run⟩ := escapes_unresolved (by decide : 2 ≠ 0) overflows
  cases (sound run).returns

end AlloraSdk.Guarantees
