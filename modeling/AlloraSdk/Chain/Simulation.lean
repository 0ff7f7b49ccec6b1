import AlloraSdk.Chain.Node

/-!
# An executable node

A node that follows a schedule: what the chain does before each answer, what
becomes of a broadcast that is due, and what a lookup raises. Whatever the
schedule, it obeys the laws of `Node.Step`, so every play of a submission
against it is a run along a path.
-/

namespace AlloraSdk.Chain
open AlloraSdk.Logic AlloraSdk.Source.TxManager

/-- One move of the chain: include the pool's transaction at an index, or
another sender's. -/
inductive Move where
  | commit (index code : ℕ)
  | foreign
  deriving DecidableEq, Repr

def Move.apply (ledger : Ledger Tx.sequence) : Move → Ledger Tx.sequence
  | .commit index code =>
    if member : index < ledger.pool.length then
      if due : ledger.pool[index].sequence = ledger.committed then
        ledger.commit ledger.pool[index] code (List.getElem_mem member) due
      else ledger
    else ledger
  | .foreign => ledger.foreign

theorem Move.apply_steps (ledger : Ledger Tx.sequence) (move : Move) :
    Ledger.Steps ledger (move.apply ledger) := by
  cases move with
  | commit index code =>
    simp only [apply]
    split
    · split
      · exact .single (.commit ..)
      · exact .refl
    · exact .refl
  | foreign => exact .single (.foreign ledger)

theorem moves_steps (ledger : Ledger Tx.sequence) (moves : List Move) :
    Ledger.Steps ledger (moves.foldl Move.apply ledger) := by
  induction moves generalizing ledger with
  | nil => exact .refl
  | cons move moves ih => exact (move.apply_steps ledger).trans (ih _)

/-- What becomes of a broadcast that is due. -/
inductive Fate where
  | accept
  | deadlineAdmitted
  | deadlineDropped
  | reject (log : String)
  deriving DecidableEq, Repr

/-- The schedule, by the events so far. -/
structure Schedule where
  moves : List Ev → Request → List Move
  fate : List Ev → Tx → Fate
  lookup : List Ev → String → Option PyException

def response (code : ℕ) (log hash : String) : TxResponse where
  code := code
  codespace := "sdk"
  rawLog := log
  txhash := hash
  gasWanted := 0
  gasUsed := 0

def hashFresh (m : Manager) (past : List Ev) (tx : Tx) : Bool :=
  decide (m.txHash tx ≠ "") &&
    (sentIn past).all fun other => decide (m.txHash other = m.txHash tx → other = tx)

theorem hashFresh_iff {m : Manager} {past : List Ev} {tx : Tx} :
    hashFresh m past tx = true ↔ HashFresh m past tx := by
  simp only [hashFresh, Bool.and_eq_true, decide_eq_true_eq, List.all_eq_true]
  exact ⟨fun h => ⟨h.1, h.2⟩, fun h => ⟨h.1, h.2⟩⟩

/-- CheckTx and the mempool. -/
def answerBroadcast (m : Manager) (schedule : Schedule) (past : List Ev)
    (ledger : Ledger Tx.sequence) (tx : Tx) :
    Except PyException (Option TxResponse) × Ledger Tx.sequence :=
  if due : tx.sequence = ledger.committed then
    if hashFresh m past tx then
      match schedule.fate past tx with
      | .accept => (.ok (some (response 0 "" (m.txHash tx))), ledger.enter tx due)
      | .deadlineAdmitted => (.error .asyncioTimeout, ledger.enter tx due)
      | .deadlineDropped => (.error .asyncioTimeout, ledger)
      | .reject log =>
        if classifyErrorFromMessage log = .accountSequenceMismatch then
          (.ok (some (response 5 "" "")), ledger)
        else (.ok (some (response 5 log "")), ledger)
    else (.ok (some (response 5 "" "")), ledger)
  else (.ok (some (response 32 "account sequence mismatch" "")), ledger)

/-- A scheduled exception, or what is included; a poll that finds nothing uses
up its time. -/
def answerGetTx (m : Manager) (schedule : Schedule) (past : List Ev)
    (ledger : Ledger Tx.sequence) (hash : String) (within : Option ℕ) :
    ℕ × Except PyException (Option TxResponse) :=
  match schedule.lookup past hash with
  | some e => (0, .error e)
  | none =>
    match ledger.included.find? (fun entry => m.txHash entry.1 = hash) with
    | some entry => (0, .ok (some (response entry.2 "out of gas" hash)))
    | none => (within.getD 0, .ok none)

/-- The reply to a request, and the ledger after it. -/
def respond (m : Manager) (schedule : Schedule) (past : List Ev) (ledger : Ledger Tx.sequence) :
    (request : Request) → Reply request × Ledger Tx.sequence
  | .query (.account _) => ((0, .ok ()), ledger)
  | .query (.balance _ _) => ((0, .ok none), ledger)
  | .query (.gasPrice _) => ((0, .ok none), ledger)
  | .query .feemarketState => ((0, .ok none), ledger)
  | .query .feemarketParams => ((0, .ok none), ledger)
  | .query (.accountInfo _) => ((0, .ok (some ⟨ledger.committed, 1⟩)), ledger)
  | .query (.sign _) => ((0, .ok ()), ledger)
  | .query (.broadcastTx tx) =>
    let answer := answerBroadcast m schedule past ledger tx
    ((0, answer.1), answer.2)
  | .query (.getTx hash within) => (answerGetTx m schedule past ledger hash within, ledger)
  | .sleep _ => ((0 : ℕ), ledger)
  | .beginAttempt _ _ => ((), ledger)
  | .resolve _ => ((), ledger)

def simulate (m : Manager) (schedule : Schedule) (w : Node) (request : Request) :
    Reply request × Node :=
  let moved := (schedule.moves w.past request).foldl Move.apply w.ledger
  let answer := respond m schedule w.past moved request
  (answer.1, ⟨answer.2, w.past ++ [⟨request, answer.1⟩]⟩)

theorem answerBroadcast_answers {m : Manager} {schedule : Schedule} {past : List Ev}
    {ledger : Ledger Tx.sequence} {tx : Tx} :
    Answers m past ledger ⟨.query (.broadcastTx tx), (0, (answerBroadcast m schedule past ledger tx).1)⟩
      (answerBroadcast m schedule past ledger tx).2 := by
  unfold answerBroadcast
  split
  · rename_i due
    split
    · rename_i hashing
      have hashing := hashFresh_iff.mp hashing
      split
      · exact .admitted hashing due rfl rfl
      · exact .lostAdmitted (by simp) hashing due
      · exact .lostDropped (by simp) hashing
      · split
        · exact .rejected (by simp [response]) (by simp [response, due]; decide)
        · rename_i log other
          exact .rejected (by simp [response]) (by simpa [response, due] using other)
    · exact .rejected (by simp [response]) (by simp [response, due]; decide)
  · rename_i stale
    exact .rejected (by simp [response]) (by simp only [response, stale, ne_eq, not_false_eq_true]; decide)

theorem answerBroadcast_error {m : Manager} {schedule : Schedule} {past : List Ev}
    {ledger : Ledger Tx.sequence} {tx : Tx} {err : PyException}
    (raised : (answerBroadcast m schedule past ledger tx).1 = .error err) :
    err = .asyncioTimeout := by
  unfold answerBroadcast at raised
  split at raised
  · split at raised
    · split at raised
      · cases raised
      · exact (Except.error.inj raised).symm
      · exact (Except.error.inj raised).symm
      · split at raised <;> cases raised
    · cases raised
  · cases raised

theorem answerGetTx_error {m : Manager} {schedule : Schedule} {past : List Ev}
    {ledger : Ledger Tx.sequence} {hash : String} {within : Option ℕ} {took : ℕ} {err : PyException}
    (raised : answerGetTx m schedule past ledger hash within = (took, .error err)) :
    schedule.lookup past hash = some err := by
  unfold answerGetTx at raised
  split at raised
  · rename_i scheduled
    cases raised
    exact scheduled
  · split at raised <;> cases raised

/-- The simulated node obeys the laws, for any lookup rule that its own lookups obey. -/
theorem simulate_step {m : Manager} {schedule : Schedule} {lookup : Ledger Tx.sequence → Ev → Prop}
    (clients : ∀ past hash e, schedule.lookup past hash = some e → e.isClientError = true)
    (lookups : ∀ ledger past request,
      lookup ledger ⟨request, (respond m schedule past ledger request).1⟩)
    (w : Node) (request : Request) :
    Node.Step m lookup w ⟨request, (simulate m schedule w request).1⟩
      (simulate m schedule w request).2 := by
  refine ⟨⟨_, moves_steps w.ledger (schedule.moves w.past request), ?_, lookups _ w.past request⟩, ?_, rfl⟩
  · cases request with
    | query query =>
      cases query with
      | broadcastTx tx => exact answerBroadcast_answers
      | _ => exact .passive rfl
    | _ => exact .passive rfl
  · intro query took err same
    obtain ⟨asked, same⟩ := Event.mk.inj same
    subst asked
    have same := eq_of_heq same
    cases query with
    | broadcastTx tx =>
      rw [answerBroadcast_error (congrArg Prod.snd same)]
      rfl
    | getTx hash within => exact clients _ _ _ (answerGetTx_error same)
    | _ => cases same

/-- What a lookup of the simulated node finds is included. -/
theorem respond_finds {m : Manager} {schedule : Schedule} (ledger : Ledger Tx.sequence)
    (past : List Ev) (request : Request) :
    FindsIncluded m ledger ⟨request, (respond m schedule past ledger request).1⟩ := by
  intro hash resp sight
  cases request with
  | query query =>
    cases query with
    | getTx asked within =>
      have included : ∀ entry,
          ledger.included.find? (fun entry => decide (m.txHash entry.1 = asked)) = some entry →
          (entry.1, entry.2) ∈ ledger.included ∧ m.txHash entry.1 = asked := fun entry found =>
        ⟨List.mem_of_find?_eq_some found, of_decide_eq_true (List.find?_some found :)⟩
      simp only [respond, answerGetTx] at sight
      split at sight
      · cases within <;> simp [sighting] at sight
      · split at sight
        · rename_i entry found
          obtain ⟨member, named⟩ := included entry found
          cases within with
          | none =>
            obtain ⟨rfl, rfl⟩ : asked = hash ∧ _ = resp := by simpa [sighting] using sight
            exact ⟨entry.1, member, named⟩
          | some within =>
            obtain ⟨-, rfl, rfl⟩ : 0 < within ∧ asked = hash ∧ _ = resp := by
              simpa [sighting] using sight
            exact ⟨entry.1, member, named⟩
        · cases within <;> simp [sighting] at sight
    | _ => cases sight
  | _ => cases sight

/-- Without scheduled exceptions the simulated GetTx is prompt. -/
theorem respond_prompt {m : Manager} {schedule : Schedule}
    (prompt : ∀ past hash, schedule.lookup past hash = none) (ledger : Ledger Tx.sequence)
    (past : List Ev) (request : Request) :
    Prompt m ledger ⟨request, (respond m schedule past ledger request).1⟩ := by
  refine ⟨respond_finds ledger past request, ?_⟩
  rintro hash within rfl inTime ⟨entry, member, named⟩
  simp only [respond, answerGetTx, prompt]
  split
  · rename_i found first
    cases within with
    | none => exact ⟨_, rfl⟩
    | some within =>
      have positive : 0 < within := Nat.pos_of_ne_zero fun h => inTime (congrArg some h)
      exact ⟨response found.2 "out of gas" hash, by simp only [sighting, positive, if_true]⟩
  · rename_i missing
    have absent := List.find?_eq_none.mp missing entry member
    simp [named] at absent

/-- A submission played against the simulated node runs along a path. -/
theorem simulate_path {m : Manager} {schedule : Schedule} {lookup : Ledger Tx.sequence → Ev → Prop}
    (clients : ∀ past hash e, schedule.lookup past hash = some e → e.isClientError = true)
    (lookups : ∀ ledger past request,
      lookup ledger ⟨request, (respond m schedule past ledger request).1⟩)
    {α : Type} (act : Act α) (s : Submission) (w : Node) :
    Path (Node.Step m lookup) w (act.play (simulate m schedule) s w).trace
      (act.play (simulate m schedule) s w).world :=
  Coroutine.play_path (simulate_step clients lookups) act.run s w

/-! ## A sample manager -/

/-- A manager with static fees; its hashes name the content that varies in a run. -/
def testnet : Manager where
  walletAddress := "allo1wallet"
  feeGranter := none
  maxFees := none
  accountSequenceRetryDelay := none
  gasAdjustment := 6 / 5
  baseGas := none
  hasFeemarket := false
  config :=
    { chainId := "allora-testnet-1", feeDenom := "uallo", feeMinimumGasPrice := 10
      useDynamicGasPrice := false, dynamicGasPriceDefaultMultiplier := 1
      gasPriceCacheTtl := 5000000, congestionAwareFees := false }
  queryInterval := 2000000
  queryTimeout := 10000000
  txHash := fun tx => "TX" ++ toString tx.gasLimit ++ "/" ++ toString tx.sequence
  showCoin := fun coin => toString coin.amount ++ coin.denom

def payload (maxRetries : ℕ) (accountSeq : Option ℕ) : Call where
  typeUrl := "/emissions.v10.InsertWorkerPayloadRequest"
  msgs := ["payload"]
  feeTier := .standard
  maxRetries := maxRetries
  timeout := none
  gasLimit := none
  accountSeq := accountSeq

/-- A node without a ledger, for what depends on its answers only: what CheckTx
says of a transaction, and what a lookup of its hash finds. -/
def answering (checkTx : Tx → TxResponse) (found : List Ev → String → Option TxResponse)
    (past : List Ev) : (request : Request) → Reply request
  | .query (.account _) => (0, .ok ())
  | .query (.balance _ _) => (0, .ok none)
  | .query (.gasPrice _) => (0, .ok none)
  | .query .feemarketState => (0, .ok none)
  | .query .feemarketParams => (0, .ok none)
  | .query (.accountInfo _) => (0, .ok (some ⟨0, 0⟩))
  | .query (.sign _) => (0, .ok ())
  | .query (.broadcastTx tx) => (0, .ok (some (checkTx tx)))
  | .query (.getTx hash within) =>
    match found past hash with
    | some resp => (0, .ok (some resp))
    | none => (within.getD 0, .ok none)
  | .sleep _ => 0
  | .beginAttempt _ _ => ()
  | .resolve _ => ()

/-- A submission played against a schedule from an empty ledger. -/
def played (m : Manager) (schedule : Schedule) (call : Call) :
    Coroutine.Played Submission Request Reply Node (Except PyException Unit) :=
  (call.submit m).play (simulate m schedule) (call.begin 0 none none) ⟨.start 0, []⟩

theorem played_run (m : Manager) (schedule : Schedule) (call : Call) :
    (call.submit m).Runs (call.begin 0 none none) (played m schedule call).trace
      (played m schedule call).value (played m schedule call).state :=
  Routine.play_runs _ _ _ _

end AlloraSdk.Chain
