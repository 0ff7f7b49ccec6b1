import AlloraSdk.Chain.Tracking

/-!
# The ideal chain

The wallet is the only sender. A broadcast is accepted exactly at the committed
sequence, included at once with code 0 and found from then on; `account_info`
returns the committed sequence; the pre-flight checks pass.

On this chain a submission lands with any hint: a wrong one costs the first
attempt, whose mismatch clears it.
-/

namespace AlloraSdk.Chain
open AlloraSdk.Logic AlloraSdk.Source.TxManager

structure Ideal where
  committed : ℕ
  included : List Tx

def Ideal.extend (w : Ideal) (tx : Tx) : Ideal := ⟨w.committed + 1, w.included ++ [tx]⟩

/-- GetTx answers at once, and finds exactly what is included. -/
def Finds (m : Manager) (w : Ideal) (hash : String) (within : Option ℕ) (took : ℕ)
    (answer : Except PyException (Option TxResponse)) : Prop :=
  ((∃ tx ∈ w.included, m.txHash tx = hash) → (∀ limit, within = some limit → 0 < limit → took < limit) ∧
    ∃ resp, answer = .ok (some resp) ∧ resp.code = 0 ∧ resp.txhash = hash) ∧
  ((¬ ∃ tx ∈ w.included, m.txHash tx = hash) → ∀ resp, answer ≠ .ok (some resp))

/-- What the queries return; the fee and account queries may fail. -/
def Truthful (m : Manager) (w : Ideal) : Ev → Prop
  | ⟨.query (.balance _ _), (_, .ok (some amount))⟩ => m.feeGranter = none → preFlightFee m ≤ amount
  | ⟨.query (.accountInfo _), (_, answer)⟩ => ∃ info, answer = .ok (some info) ∧ info.sequence = w.committed
  | ⟨.query (.sign _), (_, answer)⟩ => answer = .ok ()
  | ⟨.query (.getTx hash within), (took, answer)⟩ => Finds m w hash within took answer
  | _ => True

inductive Ideal.Step (m : Manager) (w : Ideal) : Ev → Ideal → Prop
  | accepted {tx : Tx} {took : ℕ} {resp : TxResponse} (due : tx.sequence = w.committed)
      (passed : resp.code = 0) (named : resp.txhash = m.txHash tx) :
      Step m w ⟨.query (.broadcastTx tx), (took, .ok (some resp))⟩ (w.extend tx)
  | rejected {tx : Tx} {took : ℕ} {resp : TxResponse} (stale : tx.sequence ≠ w.committed)
      (failed : resp.code ≠ 0)
      (mismatch : classifyErrorFromMessage resp.rawLog = .accountSequenceMismatch) :
      Step m w ⟨.query (.broadcastTx tx), (took, .ok (some resp))⟩ w
  | passive {e : Ev} (passive : Request.isPassive e.request = true) (truthful : Truthful m w e)
      (clients : ClientErrors e) : Step m w e w

/-- The submission's operation is included once, and its future has the
transaction's response. -/
def Lands (m : Manager) (msgs : List String) (w w' : Ideal)
    (future : Option (Except PyException TxResponse)) : Prop :=
  ∃ tx resp, w' = w.extend tx ∧ tx.sequence = w.committed ∧ tx.msgs = msgs ∧ future = some (.ok resp) ∧
    resp.code = 0 ∧ resp.txhash = m.txHash tx

section Steps

variable {m : Manager} {w w' : Ideal} {trace : List Ev}

theorem Ideal.Step.of_passive {e : Ev} (step : Ideal.Step m w e w')
    (passive : Request.isPassive e.request = true) : w' = w ∧ Truthful m w e ∧ ClientErrors e := by
  cases step with
  | accepted => cases passive
  | rejected => cases passive
  | passive _ truthful clients => exact ⟨rfl, truthful, clients⟩

/-- Between broadcasts nothing changes, and every reply is truthful. -/
theorem passive_ideal (passive : Passive trace) (path : Path (Ideal.Step m) w trace w') :
    w' = w ∧ ∀ e ∈ trace, Truthful m w e ∧ ClientErrors e := by
  induction path with
  | nil w =>
    refine ⟨rfl, fun e member => ?_⟩
    cases member
  | @cons w w₁ w₂ e events head tail ih =>
    obtain ⟨rfl, truthful, clients⟩ := head.of_passive (passive e (.head _))
    obtain ⟨rfl, rest⟩ := ih fun e' member => passive e' (List.mem_cons_of_mem _ member)
    refine ⟨rfl, fun e' member => ?_⟩
    rcases List.mem_cons.mp member with rfl | member
    · exact ⟨truthful, clients⟩
    · exact rest e' member

/-- What can follow a broadcast. -/
theorem Ideal.Step.broadcast {tx : Tx} {took : ℕ} {answer : Except PyException (Option TxResponse)}
    (step : Ideal.Step m w ⟨.query (.broadcastTx tx), (took, answer)⟩ w') :
    (tx.sequence = w.committed ∧ w' = w.extend tx ∧ broadcastVerdict m tx answer = .ok (m.txHash tx)) ∨
      (tx.sequence ≠ w.committed ∧ w' = w ∧
        ∃ e, broadcastVerdict m tx answer = .error e ∧ e.isMismatch = true) := by
  cases step with
  | accepted due passed named =>
    refine .inl ⟨due, rfl, ?_⟩
    simp only [broadcastVerdict, exceptionFromTxResponse_eq_none.mpr passed, named]
  | @rejected _ _ resp stale failed mismatch =>
    refine .inr ⟨stale, rfl, ?_⟩
    obtain ⟨e, raised⟩ : ∃ e, exceptionFromTxResponse m resp = some e := by
      refine Option.ne_none_iff_exists'.mp fun absent => ?_
      exact failed (exceptionFromTxResponse_eq_none.mp absent)
    exact ⟨e, by simp only [broadcastVerdict, raised], (kind_of_exception raised).1.mpr mismatch⟩
  | passive passive => cases passive

/-- A timely lookup of an included transaction sees it succeed. -/
theorem sighting_of_finds {e : Ev} {tx : Tx} {within : Option ℕ} (member : tx ∈ w.included)
    (positive : ∀ limit, within = some limit → 0 < limit) (asks : e.request = .query (.getTx (m.txHash tx) within)) (truthful : Truthful m w e) :
    ∃ resp, sighting e = some (m.txHash tx, resp) ∧ resp.code = 0 ∧ resp.txhash = m.txHash tx := by
  obtain ⟨request, reply⟩ := e
  obtain rfl : request = .query (.getTx (m.txHash tx) within) := asks
  obtain ⟨took, answer⟩ := reply
  obtain ⟨inTime, resp, rfl, passed, named⟩ := truthful.1 ⟨tx, member, rfl⟩
  refine ⟨resp, ?_, passed, named⟩
  cases within with
  | none => rfl
  | some limit => simp only [sighting, inTime limit rfl (positive limit rfl), if_true]

/-- A response to a lookup is that of an included transaction. -/
theorem Truthful.found {hash : String} {within : Option ℕ} {took : ℕ} {resp : TxResponse}
    (truthful : Truthful m w ⟨.query (.getTx hash within), (took, .ok (some resp))⟩) :
    resp.code = 0 ∧ resp.txhash = hash := by
  by_cases included : ∃ tx ∈ w.included, m.txHash tx = hash
  · obtain ⟨-, resp, same, passed, named⟩ := truthful.1 included
    cases same
    exact ⟨passed, named⟩
  · exact (truthful.2 included _ rfl).elim

theorem sighting_truthful {e : Ev} {hash : String} {resp : TxResponse}
    (sight : sighting e = some (hash, resp)) (truthful : Truthful m w e) :
    resp.code = 0 ∧ resp.txhash = hash := by
  unfold sighting at sight
  split at sight
  · rename_i asked took found
    obtain ⟨rfl, rfl⟩ : asked = hash ∧ found = resp := by simpa using sight
    exact truthful.found
  · rename_i asked limit took found
    split at sight
    · obtain ⟨rfl, rfl⟩ : asked = hash ∧ found = resp := by simpa using sight
      exact truthful.found
    · cases sight
  · cases sight

/-! ## One submission -/

variable {start attempt : ℕ} {v v' : RetryVars} {out : Except PyException Control}

theorem raised_client {e : PyException} (honest : ∀ e ∈ trace, Truthful m w e ∧ ClientErrors e)
    (raised : RaisedIn trace e) : e.isClientError = true := by
  obtain ⟨query, took, member⟩ := raised
  exact (honest _ member).2 rfl

/-- The balance passes the pre-flight check. -/
theorem not_lowBalance {message : String} (honest : ∀ e ∈ trace, Truthful m w e ∧ ClientErrors e) :
    ¬ LowBalance m trace message := by
  rintro (⟨unfunded, took, amount, member, low⟩ | raised)
  · have enough := (honest _ member).1 unfunded
    omega
  · cases raised_client honest raised

/-- Nothing keeps a transaction from being built. -/
theorem not_buildFails {e : PyException} (uncapped : m.maxFees = none)
    (honest : ∀ e ∈ trace, Truthful m w e ∧ ClientErrors e) : ¬ BuildFails m trace e := by
  intro failed
  cases failed with
  | tooExpensive capped => rw [uncapped] at capped; cases capped
  | account raised =>
    obtain ⟨info, same, -⟩ := (honest _ raised).1
    cases same
  | noAccount missing =>
    obtain ⟨info, same, -⟩ := (honest _ missing).1
    cases same
  | sign raised => cases (honest _ raised).1

/-- An attempt without an explicit sequence is signed with the committed one. -/
theorem resolves_committed {sequence : ℕ} (honest : ∀ e ∈ trace, Truthful m w e ∧ ClientErrors e)
    (resolved : ResolvesTo none trace sequence) : sequence = w.committed := by
  obtain ⟨address, took, info, member, rfl⟩ := resolved
  obtain ⟨info', same, committed⟩ := (honest _ member).1
  cases same
  exact committed

/-- An accepted broadcast is confirmed by its first poll. -/
theorem confirmed_lands {tx : Tx} (member : tx ∈ w.included)
    (confirmed : Confirmed m v (m.txHash tx) tx.sequence trace out v')
    (path : Path (Ideal.Step m) w trace w') :
    w' = w ∧ ∃ resp, out = .ok .stop ∧ v'.finalFuture = some (.ok resp) ∧ resp.code = 0 ∧
      resp.txhash = m.txHash tx := by
  obtain ⟨rfl, honest⟩ := passive_ideal (followUp_of_confirmed confirmed).passive path
  refine ⟨rfl, ?_⟩
  cases confirmed with
  | missed looking unseen early cause asked =>
    obtain ⟨reply, rest, rfl⟩ := asked
    obtain ⟨resp, sight, -⟩ := sighting_of_finds member (by simp) rfl (honest _ (.head _)).1
    rw [unseen _ (.head _)] at sight
    cases sight
  | @found polls last seen resp _ _ looking unseen sighted status =>
    obtain ⟨passed, named⟩ := sighting_truthful sighted (honest seen (by simp)).1
    cases status with
    | success => exact ⟨resp, rfl, rfl, passed, named⟩
    | failure failed => exact (code_ne_zero_of_exception failed passed).elim

/-- The `try` lands, or its explicit sequence is turned down. -/
theorem tried_lands (uncapped : m.maxFees = none) (tried : Tried m attempt v trace out v')
    (path : Path (Ideal.Step m) w trace w') :
    (out = .ok .stop ∧ Lands m v.msgs w w' v'.finalFuture) ∨
      ∃ s e, v.nextAccountSeq = some s ∧ s ≠ w.committed ∧ out = .error e ∧ e.isMismatch = true ∧
        v' = v.begun attempt ∧ w' = w := by
  cases tried with
  | preFlight quiet low =>
    exact (not_lowBalance (passive_ideal (passive_of_quiet quiet) path).2 low).elim
  | begun quiet sending =>
    obtain ⟨w₁, before, path₁⟩ := path_append.mp path
    obtain ⟨rfl, -⟩ := passive_ideal (passive_of_quiet quiet) before
    obtain ⟨w₂, mark, path₂⟩ := path_cons.mp path₁
    obtain ⟨rfl, -, -⟩ := mark.of_passive rfl
    cases sending with
    | unsent quiet failed =>
      exact (not_buildFails uncapped (passive_ideal (passive_of_quiet quiet) path₂).2 failed).elim
    | refused quiet content resolved verdict =>
      obtain ⟨w₃, build, path₃⟩ := path_append.mp path₂
      obtain ⟨rfl, honest⟩ := passive_ideal (passive_of_quiet quiet) build
      obtain ⟨w₄, step, path₄⟩ := path_cons.mp path₃
      obtain rfl := path_nil.mp path₄
      rcases step.broadcast with ⟨-, -, landed⟩ | ⟨stale, rfl, e, refused, mismatch⟩
      · rw [landed] at verdict
        cases verdict
      · rw [refused] at verdict
        cases verdict
        change ResolvesTo v.nextAccountSeq _ _ at resolved
        cases next : v.nextAccountSeq with
        | none =>
          rw [next] at resolved
          exact (stale (resolves_committed honest resolved)).elim
        | some s =>
          rw [next] at resolved
          exact .inr ⟨s, _, rfl, fun same => stale (resolved.trans same), rfl, mismatch, rfl, rfl⟩
    | @accepted build rest tx took answer hash _ _ quiet content resolved verdict confirmed =>
      obtain ⟨w₃, built, path₃⟩ := path_append.mp path₂
      obtain ⟨rfl, honest⟩ := passive_ideal (passive_of_quiet quiet) built
      obtain ⟨w₄, step, path₄⟩ := path_cons.mp path₃
      rcases step.broadcast with ⟨due, rfl, landed⟩ | ⟨-, -, e, refused, -⟩
      · rw [landed] at verdict
        cases verdict
        have member : tx ∈ (w₃.extend tx).included := List.mem_append_right _ (.head _)
        obtain ⟨rfl, resp, rfl, resolved, passed, named⟩ := confirmed_lands member confirmed path₄
        exact .inl ⟨rfl, tx, resp, rfl, due, content, resolved, passed, named⟩
      · rw [refused] at verdict
        cases verdict

/-- A mismatch before anything was accepted clears the hint, if a retry is left. -/
theorem mismatch_clears {e : PyException} (kind : e.isMismatch = true) (unsent : v.lastTxHash = none)
    (plain : v.sameSeqRebroadcast = false) (left : attempt ≠ v.maxRetries)
    (untimed : v.timeout.filter (· ≠ 0) = none)
    (handled : Handled m start attempt v e trace out v') : out = .ok .continue ∧ v' = v.fresh := by
  cases handled with
  | inPlace kind' => simp [PyException.inPlace_of_mismatch kind] at kind'
  | fatal _ mismatch => simp [kind] at mismatch
  | landed _ bail =>
    cases bail with
    | finalized known => simp [unsent] at known
  | timeoutLanded kind' => simp [PyException.txTimeout_of_mismatch kind] at kind'
  | timeoutUnseen kind' => simp [PyException.txTimeout_of_mismatch kind] at kind'
  | mismatch _ bail unfinished plain' tail =>
    cases tail with
    | spent exhausted => exact (exhausted.elim left fun timed => timed untimed).elim
    | again => exact ⟨rfl, rfl⟩
    | delayed => exact ⟨rfl, rfl⟩
    | expired timed => exact (timed untimed).elim
    | overflow left' bad quiet =>
      obtain ⟨delta, finite, -⟩ := bad
      cases untimed.symm.trans finite
  | graceLanded _ _ _ flagged => rw [plain] at flagged; cases flagged
  | grace _ _ _ flagged => rw [plain] at flagged; cases flagged

end Steps

/-- Before an attempt: nothing has happened, and after the first attempt the hint
is gone. -/
structure Untouched (call : Call) (w₀ : Ideal) (attempt : ℕ) (v : RetryVars) (w : Ideal) : Prop where
  world : w = w₀
  unsent : v.lastTxHash = none
  plain : v.sameSeqRebroadcast = false
  retries : v.maxRetries = call.maxRetries
  timeout : v.timeout = call.timeout
  msgs : v.msgs = call.msgs
  cleared : attempt = 0 ∨ v.nextAccountSeq = none

theorem attempt_lands {m : Manager} {call : Call} {w₀ w w' : Ideal} {start attempt : ℕ} {v v' : RetryVars}
    {trace : List Ev} {out : Except PyException Control} (uncapped : m.maxFees = none)
    (retries : 1 ≤ call.maxRetries) (untimed : call.timeout.filter (· ≠ 0) = none)
    (untouched : Untouched call w₀ attempt v w) (run : Attempt m start attempt v trace out v')
    (path : Path (Ideal.Step m) w trace w') :
    (out = .ok .stop ∧ Lands m call.msgs w₀ w' v'.finalFuture) ∨
      (out = .ok .continue ∧ Untouched call w₀ (attempt + 1) v' w') := by
  obtain ⟨rfl, unsent, plain, retries', timeout, msgs, cleared⟩ := untouched
  cases run with
  | success tried =>
    rcases tried_lands uncapped tried path with ⟨stopped, lands⟩ | ⟨_, _, -, -, same, -⟩
    · exact .inl ⟨stopped, msgs ▸ lands⟩
    · cases same
  | caught tried handled =>
    obtain ⟨w₁, body, handling⟩ := path_append.mp path
    rcases tried_lands uncapped tried body with ⟨same, -⟩ | ⟨s, e, next, -, same, kind, rfl, rfl⟩
    · cases same
    · cases same
      obtain rfl : attempt = 0 := by
        rcases cleared with first | fresh
        · exact first
        · rw [next] at fresh
          cases fresh
      have unsent₁ : (v.begun 0).lastTxHash = none := unsent
      have left : 0 ≠ (v.begun 0).maxRetries := by
        rw [RetryVars.begun_maxRetries, retries']
        omega
      have untimed₁ : (v.begun 0).timeout.filter (· ≠ 0) = none := by
        rw [RetryVars.begun_timeout, timeout, untimed]
      obtain ⟨rfl, rfl⟩ := mismatch_clears kind unsent₁ plain left untimed₁ handled
      obtain ⟨rfl, -⟩ := passive_ideal (followUp_of_handled handled).passive handling
      exact .inr ⟨rfl, rfl, unsent, plain, retries', timeout, msgs, .inr rfl⟩

/-- On the ideal chain a submission with a retry, without a timeout or a fee cap,
lands whatever its hint. -/
theorem submission_lands {m : Manager} {call : Call} {clock : ℕ} {price : Option ℚ} {cachedAt : Option ℕ}
    {s' : Submission} {trace : List Ev} {out : Except PyException Unit} {w w' : Ideal}
    (uncapped : m.maxFees = none) (retries : 1 ≤ call.maxRetries)
    (untimed : call.timeout.filter (· ≠ 0) = none)
    (run : (call.submit m).Runs (call.begin clock price cachedAt) trace out s')
    (path : Path (Ideal.Step m) w trace w') :
    out = .ok () ∧ Lands m call.msgs w w' s'.pending.finalFuture := by
  refine call.rule (fun attempt v w₁ => Untouched call w attempt v w₁)
    (fun out v w₁ => out = .ok () ∧ Lands m call.msgs w w₁ v.finalFuture) run path
    ⟨rfl, rfl, rfl, rfl, rfl, rfl, .inl rfl⟩ ?_ ?_ ?_
  · intro attempt v w₁ events v' w₂ untouched _ run path
    rcases attempt_lands uncapped retries untimed untouched run path with ⟨same, -⟩ | ⟨-, kept⟩
    · cases same
    · exact kept
  · intro attempt v w₁ events v' w₂ untouched _ run path
    rcases attempt_lands uncapped retries untimed untouched run path with ⟨-, lands⟩ | ⟨same, -⟩
    · exact ⟨rfl, lands⟩
    · cases same
  · intro attempt v w₁ events e v' w₂ untouched _ run path
    rcases attempt_lands uncapped retries untimed untouched run path with ⟨same, -⟩ | ⟨same, -⟩ <;> cases same

end AlloraSdk.Chain
