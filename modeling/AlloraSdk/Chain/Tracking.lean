import AlloraSdk.Chain.Node

/-!
# The last broadcast and the ledger

The run remembers one hash. `Tracked` ties it to the latest accepted broadcast;
then a lookup that finds the hash tells what became of that broadcast, and of
everything else at its sequence.
-/

namespace AlloraSdk.Chain
open AlloraSdk.Logic AlloraSdk.Source.TxManager

variable {m : Manager} {v v' : RetryVars} {trace : List Ev}

/-! ## Handlers only look, sleep and resolve -/

def Request.isFollowUp : Request → Bool
  | .query (.getTx _ _) | .sleep _ | .resolve _ => true
  | _ => false

def FollowUp (trace : List Ev) : Prop := ∀ e ∈ trace, Request.isFollowUp e.request = true

theorem FollowUp.append {first rest : List Ev} (h₁ : FollowUp first) (h₂ : FollowUp rest) :
    FollowUp (first ++ rest) := by
  intro e member
  rcases List.mem_append.mp member with h | h
  · exact h₁ e h
  · exact h₂ e h

theorem FollowUp.passive (followUp : FollowUp trace) : Passive trace := by
  intro e member
  have h := followUp e member
  obtain ⟨request, reply⟩ := e
  cases request with
  | query query => cases query <;> first | rfl | cases h
  | _ => rfl

theorem followUp_of_looking {lastTxHash : Option String} (looking : Looking lastTxHash trace) :
    FollowUp trace := by
  intro e member
  rcases looking e member with ⟨_, sleeps⟩ | ⟨_, _, -, queries⟩
  · rw [sleeps]
    rfl
  · rw [queries]
    rfl

theorem followUp_of_bail {outcome : LandedOutcome} (bail : Bail m v trace outcome v') :
    FollowUp trace := by
  cases bail with
  | notLanded missed => exact followUp_of_looking missed.looking
  | retry => simp [FollowUp, Request.isFollowUp]
  | finalized => simp [FollowUp, Request.isFollowUp]

theorem followUp_of_grace {checks : ℕ} {outcome : LandedOutcome}
    (grace : Grace m v checks trace outcome v') : FollowUp trace := by
  cases grace with
  | notLanded graced => exact followUp_of_looking graced.looking.1
  | landed looking unseen bail found =>
    exact (followUp_of_looking looking).append (followUp_of_bail bail)

theorem followUp_of_giveUp {start attempt : ℕ} {err : PyException} {out : Except PyException Control}
    (tail : GiveUp start attempt err v trace out v') : FollowUp trace := by
  cases tail <;> simp [FollowUp, Request.isFollowUp]

theorem followUp_of_mismatch {start attempt : ℕ} {out : Except PyException Control}
    (tail : Mismatch start attempt v trace out v') : FollowUp trace := by
  cases tail with
  | overflow left bad quiet =>
    rcases quiet with rfl | ⟨delay, late, rfl⟩ <;> simp [FollowUp, Request.isFollowUp]
  | _ => simp [FollowUp, Request.isFollowUp]

theorem followUp_of_handled {start attempt : ℕ} {e : PyException} {out : Except PyException Control}
    (handled : Handled m start attempt v e trace out v') : FollowUp trace := by
  cases handled with
  | inPlace kind named tail => exact followUp_of_giveUp tail
  | fatal => simp [FollowUp, Request.isFollowUp]
  | landed kind bail => exact followUp_of_bail bail
  | timeoutLanded kind bail tail => exact (followUp_of_bail bail).append (followUp_of_giveUp tail)
  | timeoutUnseen kind bail tail => exact (followUp_of_bail bail).append (followUp_of_giveUp tail)
  | mismatch kind bail unfinished plain tail =>
    exact (followUp_of_bail bail).append (followUp_of_mismatch tail)
  | graceLanded kind bail unfinished flagged grace =>
    exact (followUp_of_bail bail).append (followUp_of_grace grace)
  | grace kind bail unfinished flagged grace unfinished' tail =>
    exact ((followUp_of_bail bail).append (followUp_of_grace grace)).append (followUp_of_mismatch tail)

theorem followUp_of_confirmed {hash : String} {sequence : ℕ} {out : Except PyException Control}
    (confirmed : Confirmed m v hash sequence trace out v') : FollowUp trace := by
  cases confirmed with
  | missed looking => exact followUp_of_looking looking
  | found looking unseen sighted status =>
    rw [List.append_cons]
    refine (followUp_of_looking looking).append ?_
    cases status <;> simp [FollowUp, Request.isFollowUp]

/-! ## The remembered hash -/

theorem lastTxHash_of_bail {outcome : LandedOutcome} (bail : Bail m v trace outcome v') :
    v'.lastTxHash = v.lastTxHash := by
  cases bail <;> rfl

theorem lastTxHash_of_giveUp {start attempt : ℕ} {err : PyException} {out : Except PyException Control}
    (tail : GiveUp start attempt err v trace out v') : v'.lastTxHash = v.lastTxHash := by
  cases tail <;> rfl

theorem lastTxHash_of_mismatch {start attempt : ℕ} {out : Except PyException Control}
    (tail : Mismatch start attempt v trace out v') : v'.lastTxHash = v.lastTxHash := by
  cases tail <;> rfl

/-- Handling an exception does not change the remembered hash. -/
theorem lastTxHash_of_handled {start attempt : ℕ} {e : PyException} {out : Except PyException Control}
    (handled : Handled m start attempt v e trace out v') : v'.lastTxHash = v.lastTxHash := by
  cases handled with
  | inPlace kind named tail => exact (lastTxHash_of_giveUp tail :)
  | fatal => rfl
  | landed kind bail => exact (lastTxHash_of_bail bail :)
  | timeoutLanded kind bail tail => exact (lastTxHash_of_giveUp tail :)
  | timeoutUnseen kind bail tail => exact (lastTxHash_of_giveUp tail :)
  | mismatch kind bail unfinished plain tail => exact (lastTxHash_of_mismatch tail :)
  | graceLanded kind bail unfinished flagged grace =>
    cases grace with
    | landed looking unseen bail found => exact (lastTxHash_of_bail bail :)
  | grace kind bail unfinished flagged grace unfinished' tail => exact (lastTxHash_of_mismatch tail :)

theorem lastTxHash_of_confirmed {hash : String} {sequence : ℕ} {out : Except PyException Control}
    (confirmed : Confirmed m v hash sequence trace out v') : v'.lastTxHash = some hash := by
  cases confirmed with
  | missed => rfl
  | found looking unseen sighted status => cases status <;> rfl

/-- The run remembers the hash of its latest accepted broadcast, which nothing
else admitted shares. -/
structure Tracked (m : Manager) (lastTxHash : Option String) (w : Node) : Prop where
  known : lastTxHash = (latestAccepted m w.past).map (·.hash)
  named : ∀ b, latestAccepted m w.past = some b → b.hash ≠ ""
  hashed : ∀ b, latestAccepted m w.past = some b → b.hash = m.txHash b.tx
  fresh : ∀ b, latestAccepted m w.past = some b →
    ∀ other ∈ w.ledger.pool, m.txHash other = b.hash → other = b.tx
  sent : ∀ tx ∈ w.ledger.pool, tx ∈ sentIn w.past

section Tracked

variable {lookup : Ledger Tx.sequence → Ev → Prop} {lastTxHash : Option String} {w w' : Node}

theorem Tracked.kept (tracked : Tracked m lastTxHash w)
    (path : Path (Node.Step m lookup) w trace w')
    (latest : latestAccepted m w'.past = latestAccepted m w.past)
    (pool : w'.ledger.pool = w.ledger.pool) : Tracked m lastTxHash w' := by
  constructor
  · rw [latest]
    exact tracked.known
  · rw [latest]
    exact tracked.named
  · rw [latest]
    exact tracked.hashed
  · rw [latest, pool]
    exact tracked.fresh
  · rw [path_past path, sentIn_append, pool]
    exact fun tx member => List.mem_append_left _ (tracked.sent tx member)

theorem latestAccepted_passive (passive : Passive trace)
    (path : Path (Node.Step m lookup) w trace w') :
    latestAccepted m w'.past = latestAccepted m w.past :=
  congrArg List.getLast? (passive_path_accepted passive path)

theorem Tracked.passive (tracked : Tracked m lastTxHash w) (passive : Passive trace)
    (path : Path (Node.Step m lookup) w trace w') : Tracked m lastTxHash w' :=
  tracked.kept path (latestAccepted_passive passive path) (passive_path passive path).1.pool_eq

theorem latestAccepted_refused {tx : Tx} {took : ℕ} {answer : Except PyException (Option TxResponse)}
    {e : PyException} (verdict : broadcastVerdict m tx answer = .error e)
    (step : Node.Step m lookup w ⟨.query (.broadcastTx tx), (took, answer)⟩ w') :
    latestAccepted m w'.past = latestAccepted m w.past := by
  rw [step.recorded, latestAccepted, acceptedIn_append]
  simp [acceptedIn, accepted, verdict, latestAccepted]

theorem latestAccepted_accepted {tx : Tx} {took : ℕ} {answer : Except PyException (Option TxResponse)}
    {hash : String} (verdict : broadcastVerdict m tx answer = .ok hash)
    (step : Node.Step m lookup w ⟨.query (.broadcastTx tx), (took, answer)⟩ w') :
    latestAccepted m w'.past = some ⟨hash, tx⟩ := by
  rw [step.recorded]
  refine latestAccepted_snoc ?_
  simp only [accepted, verdict]

theorem sent_of_accepted {tx : Tx} {took : ℕ} {answer : Except PyException (Option TxResponse)}
    {hash : String} (verdict : broadcastVerdict m tx answer = .ok hash) :
    sent ⟨.query (.broadcastTx tx), (took, answer)⟩ = some tx := by
  obtain ⟨resp, rfl, passed, -⟩ | ⟨rfl, -⟩ := broadcastVerdict_ok verdict
  · exact if_pos passed
  · rfl

/-- The answer to an accepted broadcast: its hash, and the ledger after it. -/
theorem accepted_step {tx : Tx} {took : ℕ} {answer : Except PyException (Option TxResponse)}
    {hash : String} (verdict : broadcastVerdict m tx answer = .ok hash)
    (step : Node.Step m lookup w ⟨.query (.broadcastTx tx), (took, answer)⟩ w') :
    hash = m.txHash tx ∧ HashFresh m w.past tx ∧ ∃ settled, Ledger.Steps w.ledger settled ∧
      ((∃ due, w'.ledger = settled.enter tx due) ∨ w'.ledger = settled) := by
  obtain ⟨settled, moved, answered, -⟩ := step.answered
  rcases answered.broadcast with ⟨resp, rfl, passed, named, hashing, after⟩ |
    ⟨resp, rfl, failed, -, -⟩ | ⟨lost, hashing, after⟩
  · obtain ⟨_, same, -, rfl⟩ | ⟨same, -⟩ := broadcastVerdict_ok verdict <;> cases same
    exact ⟨named, hashing, settled, moved, .inl after⟩
  · obtain ⟨_, same, passed, -⟩ | ⟨same, -⟩ := broadcastVerdict_ok verdict <;> cases same
    exact (failed passed).elim
  · refine ⟨?_, hashing, settled, moved, after⟩
    obtain ⟨resp, same, -⟩ | ⟨-, rfl⟩ := broadcastVerdict_ok verdict
    · exact (lost resp same).elim
    · rfl

/-- An accepted broadcast is the one the run tracks from then on; everything else
that could succeed could before. -/
theorem Tracked.accepted (tracked : Tracked m lastTxHash w) {tx : Tx} {took : ℕ}
    {answer : Except PyException (Option TxResponse)} {hash : String}
    (verdict : broadcastVerdict m tx answer = .ok hash)
    (step : Node.Step m lookup w ⟨.query (.broadcastTx tx), (took, answer)⟩ w') :
    Tracked m (some hash) w' ∧ ∀ other, w'.ledger.Open other → other = tx ∨ w.ledger.Open other := by
  have latest := latestAccepted_accepted verdict step
  obtain ⟨named, hashing, settled, moved, after⟩ := accepted_step verdict step
  have pool : ∀ other ∈ w'.ledger.pool, other = tx ∨ other ∈ w.ledger.pool := by
    intro other member
    rw [← moved.pool_eq]
    rcases after with ⟨due, after⟩ | after <;> rw [after] at member
    · exact (List.mem_append.mp member).symm.imp_left List.mem_singleton.mp
    · exact .inr member
  constructor
  · constructor
    · rw [latest]
      rfl
    · rintro b same
      obtain rfl := Option.some.inj (latest.symm.trans same)
      exact named ▸ hashing.named
    · rintro b same
      obtain rfl := Option.some.inj (latest.symm.trans same)
      exact named
    · rintro b same other member shared
      obtain rfl := Option.some.inj (latest.symm.trans same)
      rcases pool other member with rfl | old
      · rfl
      · exact hashing.fresh other (tracked.sent other old) (shared.trans named)
    · intro other member
      rw [step.recorded, sentIn_append]
      rcases pool other member with rfl | old
      · exact List.mem_append_right _ (List.mem_filterMap.mpr ⟨_, .head _, sent_of_accepted verdict⟩)
      · exact List.mem_append_left _ (tracked.sent other old)
  · intro other candidate
    rcases after with ⟨due, after⟩ | after <;> rw [after] at candidate
    · exact (Ledger.open_enter candidate).imp_right moved.open_before
    · exact .inr (moved.open_before candidate)

/-- A lookup that found the remembered hash found the latest accepted broadcast. -/
theorem Tracked.sighted (tracked : Tracked m lastTxHash w)
    (finds : ∀ ledger e, lookup ledger e → FindsIncluded m ledger e) {seen : Ev}
    {hash : String} {resp : TxResponse} (known : lastTxHash = some hash)
    (sight : sighting seen = some (hash, resp)) (step : Node.Step m lookup w seen w') :
    ∃ b, latestAccepted m w.past = some b ∧ (b.tx, resp.code) ∈ w'.ledger.included := by
  have passive : Request.isPassive seen.request = true := by
    obtain ⟨request, reply⟩ := seen
    cases request with
    | query query => cases query <;> first | rfl | simp [sighting] at sight
    | _ => rfl
  obtain ⟨settled, moved, answer, found⟩ := step.answered
  obtain ⟨tx, entry, hashes⟩ := finds settled seen found sight
  obtain ⟨b, latest, rfl⟩ := Option.map_eq_some_iff.mp (tracked.known.symm.trans known)
  have same : tx = b.tx := by
    refine tracked.fresh b latest tx ?_ hashes
    rw [← moved.pool_eq]
    exact settled.included_pool _ entry
  rw [answer.unmoved passive]
  exact ⟨b, latest, same ▸ entry⟩

/-- A landed failure: nothing at the latest sequence can succeed any more. -/
theorem Tracked.failed (tracked : Tracked m lastTxHash w)
    (finds : ∀ ledger e, lookup ledger e → FindsIncluded m ledger e) {seen : Ev}
    {hash : String} {resp : TxResponse} (known : lastTxHash = some hash)
    (sight : sighting seen = some (hash, resp)) (failed : resp.code ≠ 0)
    (step : Node.Step m lookup w seen w') {b : Broadcast} (latest : latestAccepted m w.past = some b)
    {tx : Tx} (same : tx.sequence = b.tx.sequence) : ¬ w'.ledger.Open tx := by
  obtain ⟨b', latest', entry⟩ := tracked.sighted finds known sight step
  obtain rfl : b = b' := Option.some.inj (latest.symm.trans latest')
  exact Ledger.not_open_of_failed entry failed same

theorem Tracked.requery (tracked : Tracked m lastTxHash w) {b : Broadcast}
    (latest : latestAccepted m w.past = some b) : lastTxHash.filter (· ≠ "") = some b.hash := by
  rw [tracked.known, latest]
  simp [tracked.named b latest]

/-- A prompt node is not asked in vain for a transaction that is included. -/
theorem Tracked.missed (tracked : Tracked m lastTxHash w)
    (prompt : ∀ ledger e, lookup ledger e → Prompt m ledger e) (missed : Missed lastTxHash trace)
    (path : Path (Node.Step m lookup) w trace w') {b : Broadcast}
    (latest : latestAccepted m w.past = some b) : ¬ w.ledger.Won b.tx := by
  intro won
  unfold Missed at missed
  rw [tracked.requery latest] at missed
  obtain ⟨took, answer, rfl, absent⟩ := missed
  obtain ⟨w₁, step, -⟩ := path_cons.mp path
  obtain ⟨settled, moved, -, looked⟩ := step.answered
  obtain ⟨resp, sight⟩ := (prompt settled _ looked).2 rfl (by simp)
    ⟨_, moved.included_subset won, (tracked.hashed b latest).symm⟩
  match answer, absent, sight with
  | .ok (some resp'), absent, _ => exact absent resp' rfl
  | .ok none, _, sight => cases sight
  | .error _, _, sight => cases sight

/-- A retryable landed failure, found by a re-query. -/
theorem Tracked.bail_failed (tracked : Tracked m v.lastTxHash w)
    (finds : ∀ ledger e, lookup ledger e → FindsIncluded m ledger e)
    (bail : Bail m v trace .retryNewSequence v') (path : Path (Node.Step m lookup) w trace w')
    {b : Broadcast} (latest : latestAccepted m w.past = some b) {tx : Tx}
    (same : tx.sequence = b.tx.sequence) : ¬ w'.ledger.Open tx := by
  cases bail with
  | retry known failed retryable left =>
    obtain ⟨w₁, step, rest⟩ := path_cons.mp path
    obtain rfl := path_nil.mp rest
    exact tracked.failed finds known rfl (code_ne_zero_of_exception failed) step latest same

end Tracked

end AlloraSdk.Chain
