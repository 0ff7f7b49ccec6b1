import AlloraSdk.Logic.SequencedLedger
import AlloraSdk.Source.TxManager.Attempts

/-!
# The node behind a submission

The wallet's account as a sequenced ledger, answering the requests of one run of
`_attempt_submissions`. Before it answers, the chain may move by itself any
number of times (`Ledger.Steps`), so a run meets every interleaving of the two.

CheckTx admits a transaction only at the committed sequence; a rejection says
"account sequence mismatch" exactly when the sequence is another one. A
broadcast without a response may have been admitted or not. How far GetTx can be
trusted is a parameter (`lookup`).
-/

namespace AlloraSdk.Chain
open AlloraSdk.Logic AlloraSdk.Source.TxManager

/-- A transaction that was accepted, or whose broadcast hit its deadline, under
the hash by which the run looks it up. -/
structure Broadcast where
  hash : String
  tx : Tx
  deriving DecidableEq, Repr

def accepted (m : Manager) : Ev → Option Broadcast
  | ⟨.query (.broadcastTx tx), (_, answer)⟩ =>
    match broadcastVerdict m tx answer with
    | .ok hash => some ⟨hash, tx⟩
    | .error _ => none
  | _ => none

def acceptedIn (m : Manager) (past : List Ev) : List Broadcast := past.filterMap (accepted m)

def latestAccepted (m : Manager) (past : List Ev) : Option Broadcast := (acceptedIn m past).getLast?

/-- A transaction that CheckTx did not turn down. -/
def sent : Ev → Option Tx
  | ⟨.query (.broadcastTx tx), (_, .ok (some resp))⟩ => if resp.code = 0 then some tx else none
  | ⟨.query (.broadcastTx tx), _⟩ => some tx
  | _ => none

def sentIn (past : List Ev) : List Tx := past.filterMap sent

/-- The account's ledger, and the events of the run so far. -/
structure Node where
  ledger : Ledger Tx.sequence
  past : List Ev

/-- Queries that do not touch the ledger, sleeps and marks. -/
def Request.isPassive : Request → Bool
  | .query (.broadcastTx _) => false
  | _ => true

/-- No two transactions of the run that were not turned down share a hash, and no hash is empty. -/
structure HashFresh (m : Manager) (past : List Ev) (tx : Tx) : Prop where
  named : m.txHash tx ≠ ""
  fresh : ∀ other ∈ sentIn past, m.txHash other = m.txHash tx → other = tx

/-- The ledger's part in an answer. -/
inductive Answers (m : Manager) (past : List Ev) (ledger : Ledger Tx.sequence) :
    Ev → Ledger Tx.sequence → Prop
  | admitted {tx : Tx} {took : ℕ} {resp : TxResponse} (hashing : HashFresh m past tx)
      (due : tx.sequence = ledger.committed) (passed : resp.code = 0)
      (hash : resp.txhash = m.txHash tx) :
      Answers m past ledger ⟨.query (.broadcastTx tx), (took, .ok (some resp))⟩ (ledger.enter tx due)
  | rejected {tx : Tx} {took : ℕ} {resp : TxResponse} (failed : resp.code ≠ 0)
      (honest : classifyErrorFromMessage resp.rawLog = .accountSequenceMismatch ↔
        tx.sequence ≠ ledger.committed) :
      Answers m past ledger ⟨.query (.broadcastTx tx), (took, .ok (some resp))⟩ ledger
  | lostAdmitted {tx : Tx} {took : ℕ} {answer : Except PyException (Option TxResponse)}
      (lost : ∀ resp, answer ≠ .ok (some resp)) (hashing : HashFresh m past tx)
      (due : tx.sequence = ledger.committed) :
      Answers m past ledger ⟨.query (.broadcastTx tx), (took, answer)⟩ (ledger.enter tx due)
  | lostDropped {tx : Tx} {took : ℕ} {answer : Except PyException (Option TxResponse)}
      (lost : ∀ resp, answer ≠ .ok (some resp)) (hashing : HashFresh m past tx) :
      Answers m past ledger ⟨.query (.broadcastTx tx), (took, answer)⟩ ledger
  | passive {e : Ev} (passive : Request.isPassive e.request = true) : Answers m past ledger e ledger

/-- The clients raise their own exceptions only, not the module's. -/
def ClientErrors (e : Ev) : Prop :=
  ∀ ⦃query took err⦄, e = ⟨.query query, (took, .error err)⟩ → err.isClientError = true

/-- One event: the chain moves, then answers. -/
structure Node.Step (m : Manager) (lookup : Ledger Tx.sequence → Ev → Prop)
    (w : Node) (e : Ev) (w' : Node) : Prop where
  answered : ∃ settled, Ledger.Steps w.ledger settled ∧ Answers m w.past settled e w'.ledger ∧
    lookup settled e
  clients : ClientErrors e
  recorded : w'.past = w.past ++ [e]

/-- GetTx finds only what is included, and reports its result code. -/
def FindsIncluded (m : Manager) (ledger : Ledger Tx.sequence) (e : Ev) : Prop :=
  ∀ ⦃hash resp⦄, sighting e = some (hash, resp) →
    ∃ tx, (tx, resp.code) ∈ ledger.included ∧ m.txHash tx = hash

/-- GetTx answers truthfully and at once for every included hash. -/
def Prompt (m : Manager) (ledger : Ledger Tx.sequence) (e : Ev) : Prop :=
  FindsIncluded m ledger e ∧
    ∀ ⦃hash within⦄, e.request = .query (.getTx hash within) → within ≠ some 0 →
      (∃ entry ∈ ledger.included, m.txHash entry.1 = hash) → ∃ resp, sighting e = some (hash, resp)

section Lemmas

variable {m : Manager} {lookup : Ledger Tx.sequence → Ev → Prop}

theorem acceptedIn_append (past rest : List Ev) :
    acceptedIn m (past ++ rest) = acceptedIn m past ++ acceptedIn m rest :=
  List.filterMap_append

theorem latestAccepted_append {past rest : List Ev} (none : acceptedIn m rest = []) :
    latestAccepted m (past ++ rest) = latestAccepted m past := by
  rw [latestAccepted, acceptedIn_append, none, List.append_nil]
  rfl

theorem latestAccepted_snoc {past : List Ev} {e : Ev} {b : Broadcast} (takes : accepted m e = some b) :
    latestAccepted m (past ++ [e]) = some b := by
  simp [latestAccepted, acceptedIn, takes]

/-- No broadcast in it. -/
def Passive (trace : List Ev) : Prop := ∀ e ∈ trace, Request.isPassive e.request = true

theorem Passive.append {first rest : List Ev} (h₁ : Passive first) (h₂ : Passive rest) :
    Passive (first ++ rest) := by
  intro e member
  rcases List.mem_append.mp member with h | h
  · exact h₁ e h
  · exact h₂ e h

theorem sentIn_append (past rest : List Ev) : sentIn (past ++ rest) = sentIn past ++ sentIn rest :=
  List.filterMap_append

theorem accepted_of_passive {e : Ev} (passive : Request.isPassive e.request = true) :
    accepted m e = none := by
  obtain ⟨request, reply⟩ := e
  cases request with
  | query query => cases query <;> first | rfl | cases passive
  | sleep => rfl
  | beginAttempt => rfl
  | resolve => rfl

theorem sent_of_passive {e : Ev} (passive : Request.isPassive e.request = true) : sent e = none := by
  obtain ⟨request, reply⟩ := e
  cases request with
  | query query => cases query <;> first | rfl | cases passive
  | sleep => rfl
  | beginAttempt => rfl
  | resolve => rfl

theorem sent_of_lost (tx : Tx) (took : ℕ) {answer : Except PyException (Option TxResponse)}
    (lost : ∀ resp, answer ≠ .ok (some resp)) :
    sent ⟨.query (.broadcastTx tx), (took, answer)⟩ = some tx := by
  match answer, lost with
  | .ok (some resp), lost => exact (lost resp rfl).elim
  | .ok none, _ => rfl
  | .error _, _ => rfl

theorem Passive.acceptedIn {trace : List Ev} (passive : Passive trace) : acceptedIn m trace = [] := by
  refine List.filterMap_eq_nil_iff.mpr fun e member => ?_
  exact accepted_of_passive (passive e member)

theorem passive_of_quiet {trace : List Ev} (quiet : QuietTrace trace) : Passive trace := by
  intro e member
  have h := quiet e member
  obtain ⟨request, reply⟩ := e
  cases request with
  | query query => cases query <;> first | rfl | cases h
  | sleep => rfl
  | beginAttempt => rfl
  | resolve => rfl

theorem passive_of_looking {lastTxHash : Option String} {trace : List Ev}
    (looking : Looking lastTxHash trace) : Passive trace := by
  intro e member
  rcases looking e member with ⟨_, sleeps⟩ | ⟨_, _, -, queries⟩
  · rw [sleeps]
    rfl
  · rw [queries]
    rfl

theorem Answers.unmoved {past : List Ev} {ledger ledger' : Ledger Tx.sequence} {e : Ev}
    (answer : Answers m past ledger e ledger') (passive : Request.isPassive e.request = true) :
    ledger' = ledger := by
  cases answer with
  | passive => rfl
  | _ => cases passive

/-- The three answers to a broadcast. -/
theorem Answers.broadcast {past : List Ev} {ledger ledger' : Ledger Tx.sequence} {tx : Tx} {took : ℕ}
    {answer : Except PyException (Option TxResponse)}
    (answered : Answers m past ledger ⟨.query (.broadcastTx tx), (took, answer)⟩ ledger') :
    (∃ resp, answer = .ok (some resp) ∧ resp.code = 0 ∧ resp.txhash = m.txHash tx ∧
        HashFresh m past tx ∧ ∃ due, ledger' = ledger.enter tx due) ∨
      (∃ resp, answer = .ok (some resp) ∧ resp.code ≠ 0 ∧
        (classifyErrorFromMessage resp.rawLog = .accountSequenceMismatch ↔
          tx.sequence ≠ ledger.committed) ∧ ledger' = ledger) ∨
      (∀ resp, answer ≠ .ok (some resp)) ∧ HashFresh m past tx ∧
        ((∃ due, ledger' = ledger.enter tx due) ∨ ledger' = ledger) := by
  cases answered with
  | admitted hashing due passed hash => exact .inl ⟨_, rfl, passed, hash, hashing, due, rfl⟩
  | rejected failed honest => exact .inr (.inl ⟨_, rfl, failed, honest, rfl⟩)
  | lostAdmitted lost hashing due => exact .inr (.inr ⟨lost, hashing, .inl ⟨due, rfl⟩⟩)
  | lostDropped lost hashing => exact .inr (.inr ⟨lost, hashing, .inr rfl⟩)
  | passive passive => cases passive

/-- A step moves the ledger by itself, then admits at most the transaction it sent. -/
theorem Node.Step.effect {w w' : Node} {e : Ev} (step : Node.Step m lookup w e w') :
    ∃ settled, Ledger.Steps w.ledger settled ∧ lookup settled e ∧
      (∀ tx, sent e = some tx → HashFresh m w.past tx) ∧
      (w'.ledger = settled ∨ ∃ tx due, sent e = some tx ∧ w'.ledger = settled.enter tx due) := by
  obtain ⟨⟨settled, moved, answered, looked⟩, -, -⟩ := step
  refine ⟨settled, moved, looked, ?_⟩
  generalize w'.ledger = after at answered
  cases answered with
  | @admitted tx took resp hashing due passed hash =>
    have sends : sent ⟨.query (.broadcastTx tx), (took, .ok (some resp))⟩ = some tx := if_pos passed
    exact ⟨fun other same => Option.some.inj (sends.symm.trans same) ▸ hashing, .inr ⟨tx, due, sends, rfl⟩⟩
  | @rejected tx took resp failed honest =>
    have sends : sent ⟨.query (.broadcastTx tx), (took, .ok (some resp))⟩ = none := if_neg failed
    exact ⟨fun other same => by simp [sends] at same, .inl rfl⟩
  | @lostAdmitted tx took answer lost hashing due =>
    have sends := sent_of_lost tx took lost
    exact ⟨fun other same => Option.some.inj (sends.symm.trans same) ▸ hashing, .inr ⟨tx, due, sends, rfl⟩⟩
  | @lostDropped tx took answer lost hashing =>
    have sends := sent_of_lost tx took lost
    exact ⟨fun other same => Option.some.inj (sends.symm.trans same) ▸ hashing, .inl rfl⟩
  | passive passive =>
    refine ⟨fun tx same => ?_, .inl rfl⟩
    rw [sent_of_passive passive] at same
    cases same

/-- Between broadcasts the ledger only moves by itself. -/
theorem passive_path {w w' : Node} {trace : List Ev} (passive : Passive trace)
    (path : Path (Node.Step m lookup) w trace w') :
    Ledger.Steps w.ledger w'.ledger ∧ w'.past = w.past ++ trace := by
  induction path with
  | nil => exact ⟨.refl, by simp⟩
  | @cons w w₁ w₂ e events head tail ih =>
    obtain ⟨steps, past⟩ := ih fun e member => passive e (List.mem_cons_of_mem _ member)
    obtain ⟨settled, moved, answer, -⟩ := head.answered
    have unmoved := answer.unmoved (passive e (.head _))
    refine ⟨?_, by rw [past, head.recorded]; simp⟩
    rw [unmoved] at steps
    exact moved.trans steps

theorem passive_path_accepted {w w' : Node} {trace : List Ev} (passive : Passive trace)
    (path : Path (Node.Step m lookup) w trace w') : acceptedIn m w'.past = acceptedIn m w.past := by
  rw [(passive_path passive path).2, acceptedIn_append, passive.acceptedIn, List.append_nil]

theorem path_past {w w' : Node} {trace : List Ev} (path : Path (Node.Step m lookup) w trace w') :
    w'.past = w.past ++ trace := by
  induction path with
  | nil => simp
  | cons head tail ih => rw [ih, head.recorded]; simp

theorem path_clientErrors {w w' : Node} {trace : List Ev} (path : Path (Node.Step m lookup) w trace w') :
    ∀ e ∈ trace, ClientErrors e := by
  induction path with
  | nil => simp
  | cons head tail ih => exact List.forall_mem_cons.mpr ⟨head.clients, ih⟩

/-- What interrupts a call is an exception of a client, or one of the module's
that no handler retries. -/
theorem kind_of_interrupted {trace : List Ev} {e : PyException} (clients : ∀ e ∈ trace, ClientErrors e)
    (interrupted : Interrupted trace e) : e.isMismatch = false ∧ e.isTxTimeout = false ∧
      (e ≠ .asyncioTimeout → e.retriesInPlace = false) := by
  rcases interrupted with ⟨query, took, member⟩ | ⟨message, rfl⟩ | ⟨message, rfl⟩
  · exact PyException.kind_of_client (clients _ member rfl)
  · exact ⟨rfl, rfl, fun _ => rfl⟩
  · exact ⟨rfl, rfl, fun _ => rfl⟩

end Lemmas

end AlloraSdk.Chain
