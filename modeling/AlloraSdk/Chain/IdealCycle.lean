import AlloraSdk.Chain.Ideal
import AlloraSdk.Chain.Simulation
import AlloraSdk.Source.Worker.UseCases

/-!
# A worker's cycle on the ideal chain

Three layers of runs: a cycle awaits its use case, the use case awaits its
transaction, and the transaction is a submission on the ideal chain. A step of
an outer layer is a whole run of the inner one.

The ideal chain is also a program (`Ideal.answer`), and so are the layers over
it; every play against them is a run along a path.
-/

namespace AlloraSdk.Chain
open AlloraSdk.Logic AlloraSdk.Source.TxManager AlloraSdk.Source.Worker

/-- A submission of `payload`: with a retry and without a timeout. -/
structure Carries (encode : WorkerPayload → String) (payload : WorkerPayload) (accountSeq : ℕ)
    (call : Call) : Prop where
  msgs : call.msgs = [encode payload]
  hint : call.accountSeq = some accountSeq
  retries : 1 ≤ call.maxRetries
  untimed : call.timeout.filter (· ≠ 0) = none

/-- The transaction that a nonce landed, and its response. -/
structure Landing where
  nonce : ℤ
  tx : Tx
  resp : TxResponse

/-- What the layers share: the manager, the bytes of a payload, the role and its
callback. -/
structure Setup (α : Type) where
  manager : Manager
  encode : WorkerPayload → String
  role : Role α
  callbacks : Callbacks α
  uncapped : manager.maxFees = none

namespace Setup

variable {α : Type} (setup : Setup α)

inductive UseCaseStep (w : Ideal) : UseCaseEv α → Ideal → Prop
  | unsent {e : UseCaseEv α} (quiet : e.request.isTransact = false) (answer : setup.callbacks.Answer e) :
      UseCaseStep w e w
  | transact {payload : WorkerPayload} {accountSeq clock : ℕ} {price : Option ℚ} {cachedAt : Option ℕ}
      {call : Call} {trace : List Ev} {out : Except PyException Unit} {s : Submission}
      {outcome : Except PyException TxResponse} {w' : Ideal}
      (carries : Carries setup.encode payload accountSeq call)
      (run : (call.submit setup.manager).Runs (call.begin clock price cachedAt) trace out s)
      (path : Path (Ideal.Step setup.manager) w trace w')
      (resolved : s.pending.finalFuture = some outcome) :
      UseCaseStep w ⟨.transact payload accountSeq, outcome⟩ w'

inductive CycleStep (w : Ideal) : CycleEv → Ideal → Prop
  | accountInfo {address : String} {took : ℕ} {info : AccountInfo} (current : info.sequence = w.committed) :
      CycleStep w ⟨.accountInfo address, (took, .ok (some info))⟩ w
  | submit {nonce : ℤ} {accountSeq took : ℕ} {trace : List (UseCaseEv α)}
      {answer : Except PyException SubmitResult} {w' : Ideal}
      (run : (setup.role.submit nonce accountSeq).Runs () trace answer ())
      (path : Path setup.UseCaseStep w trace w') :
      CycleStep w ⟨.submit nonce accountSeq, (took, answer)⟩ w'
  | running : CycleStep w ⟨.running, true⟩ w
  | bookkeeping {e : CycleEv} (kind : e.request.isBookkeeping = true) (other : e.request ≠ .running) :
      CycleStep w e w

/-- The transaction carries the nonce's payload and was included with code 0. -/
structure Landed (landing : Landing) : Prop where
  content : ∃ payload, setup.role.payload setup.callbacks landing.nonce = .ok payload ∧
    landing.tx.msgs = [setup.encode payload]
  passed : landing.resp.code = 0
  named : landing.resp.txhash = setup.manager.txHash landing.tx

section Steps

variable {setup} {w w' : Ideal}

theorem CycleStep.of_bookkeeping {e : CycleEv} (step : setup.CycleStep w e w')
    (kind : e.request.isBookkeeping = true) : w' = w := by
  cases step with
  | accountInfo => rfl
  | submit => cases kind
  | running => rfl
  | bookkeeping => rfl

theorem bookkeeping_path {trace : List CycleEv} (bookkeeping : Bookkeeping trace)
    (path : Path setup.CycleStep w trace w') : w' = w := by
  induction path with
  | nil w => rfl
  | cons head tail ih =>
    obtain rfl := head.of_bookkeeping (bookkeeping _ (.head _))
    exact ih fun e member => bookkeeping e (.tail _ member)

theorem unsent_path {trace : List (UseCaseEv α)} (quiet : Unsent trace)
    (path : Path setup.UseCaseStep w trace w') : w' = w := by
  induction path with
  | nil w => rfl
  | cons head tail ih =>
    have unsent := quiet _ (.head _)
    cases head with
    | unsent => exact ih fun e member => quiet e (.tail _ member)
    | transact => cases unsent

theorem answered_path {trace : List (UseCaseEv α)} (path : Path setup.UseCaseStep w trace w') :
    Answered setup.callbacks trace := by
  induction path with
  | nil w => intro e member; cases member
  | cons head tail ih =>
    intro e member
    rcases List.mem_cons.mp member with rfl | member
    · cases head with
      | unsent quiet answer => exact answer
      | transact => trivial
    · exact ih e member

/-- The use case lands its nonce, or stops before its transaction. -/
theorem submit_lands {nonce : ℤ} {accountSeq : ℕ} {trace : List (UseCaseEv α)}
    {answer : Except PyException SubmitResult}
    (run : (setup.role.submit nonce accountSeq).Runs () trace answer ())
    (path : Path setup.UseCaseStep w trace w') :
    (∃ err, setup.role.payload setup.callbacks nonce = .error err ∧ w' = w) ∨
      ∃ landing : Landing, setup.Landed landing ∧ landing.nonce = nonce ∧ w' = w.extend landing.tx ∧
        landing.tx.sequence = w.committed ∧ answer = .ok (.done landing.resp) := by
  cases Role.submit_outcome run (answered_path path) with
  | unsent failed quiet => exact .inl ⟨_, failed, unsent_path quiet path⟩
  | @sent before payload outcome built quiet =>
    obtain ⟨w₁, path₁, last⟩ := path_append.mp path
    obtain rfl := unsent_path quiet path₁
    obtain ⟨w₂, step, finished⟩ := path_cons.mp last
    obtain rfl := path_nil.mp finished
    cases step with
    | unsent quiet => cases quiet
    | transact carries run path resolved =>
      obtain ⟨-, tx, resp, extended, due, content, future, passed, named⟩ :=
        submission_lands setup.uncapped carries.retries carries.untimed run path
      obtain rfl : outcome = .ok resp := Option.some.inj (resolved.symm.trans future)
      exact .inr ⟨⟨nonce, tx, resp⟩, ⟨⟨payload, built, content.trans carries.msgs⟩, passed, named⟩,
        rfl, extended, due, rfl⟩

theorem CycleStep.running_true {running : Bool} (step : setup.CycleStep w ⟨.running, running⟩ w') :
    running = true ∧ w' = w := by
  cases step with
  | running => exact ⟨rfl, rfl⟩
  | bookkeeping kind other => exact (other rfl).elim

theorem CycleStep.account_current {address : String} {took : ℕ} {answer : Except PyException (Option AccountInfo)}
    (step : setup.CycleStep w ⟨.accountInfo address, (took, answer)⟩ w') :
    ∃ info, answer = .ok (some info) ∧ info.sequence = w.committed ∧ w' = w := by
  cases step with
  | accountInfo current => exact ⟨_, rfl, current, rfl⟩
  | bookkeeping kind => cases kind

theorem CycleStep.lands {nonce : ℤ} {accountSeq took : ℕ} {answer : Except PyException SubmitResult}
    (step : setup.CycleStep w ⟨.submit nonce accountSeq, (took, answer)⟩ w') :
    (∃ err, setup.role.payload setup.callbacks nonce = .error err ∧ w' = w) ∨
      ∃ landing : Landing, setup.Landed landing ∧ landing.nonce = nonce ∧ w' = w.extend landing.tx ∧
        landing.tx.sequence = w.committed ∧ answer = .ok (.done landing.resp) := by
  cases step with
  | submit run path => exact submit_lands run path
  | bookkeeping kind => cases kind

end Steps

end Setup

/-! ## The chain and the layers as programs -/

def answerIdeal (m : Manager) (w : Ideal) : (request : Request) → Reply request × Ideal
  | .query (.account _) => ((0, .ok ()), w)
  | .query (.balance _ _) => ((0, .ok (some (preFlightFee m).toNat)), w)
  | .query (.gasPrice _) => ((0, .ok none), w)
  | .query .feemarketState => ((0, .ok none), w)
  | .query .feemarketParams => ((0, .ok none), w)
  | .query (.accountInfo _) => ((0, .ok (some ⟨w.committed, 1⟩)), w)
  | .query (.sign _) => ((0, .ok ()), w)
  | .query (.broadcastTx tx) =>
    if tx.sequence = w.committed then ((0, .ok (some (response 0 "" (m.txHash tx)))), w.extend tx)
    else ((0, .ok (some (response 32 "account sequence mismatch" ""))), w)
  | .query (.getTx hash _) =>
    if w.included.any fun tx => m.txHash tx = hash then ((0, .ok (some (response 0 "" hash))), w)
    else ((0, .ok none), w)
  | .sleep _ => ((0 : ℕ), w)
  | .beginAttempt _ _ => ((), w)
  | .resolve _ => ((), w)

/-- The program obeys the laws of the ideal chain, whatever it is asked. -/
theorem answerIdeal_step (m : Manager) (w : Ideal) (request : Request) :
    Ideal.Step m w ⟨request, (answerIdeal m w request).1⟩ (answerIdeal m w request).2 := by
  have noError {query : Query} {took : ℕ} {answer : query.Answer} :
      ClientErrors ⟨.query query, (took, .ok answer)⟩ := by
    rintro _ _ _ ⟨⟩
  cases request with
  | query query =>
    cases query with
    | broadcastTx tx =>
      by_cases due : tx.sequence = w.committed
      · simp only [answerIdeal, if_pos due]
        exact .accepted due rfl rfl
      · simp only [answerIdeal, if_neg due]
        exact .rejected due (by decide) (by decide +kernel)
    | getTx hash within =>
      by_cases known : ∃ tx ∈ w.included, m.txHash tx = hash
      · have found : (w.included.any fun tx => m.txHash tx = hash) = true := by simpa using known
        simp only [answerIdeal, if_pos found]
        exact .passive rfl ⟨fun _ => ⟨fun _ _ positive => positive, _, rfl, rfl, rfl⟩,
          fun absent => (absent known).elim⟩ noError
      · have missing : ¬ (w.included.any fun tx => m.txHash tx = hash) = true := by simpa using known
        simp only [answerIdeal, if_neg missing]
        refine .passive rfl ⟨fun found => (known found).elim, fun _ resp same => ?_⟩ noError
        cases same
    | balance => exact .passive rfl (fun _ => Int.self_le_toNat _) noError
    | accountInfo => exact .passive rfl ⟨_, rfl, rfl⟩ noError
    | sign => exact .passive rfl rfl noError
    | _ => exact .passive rfl trivial noError
  | _ => exact .passive rfl trivial (by rintro _ _ _ ⟨⟩)

/-- `insert_worker_payload` leaves `max_retries` and `timeout` at their defaults. -/
def insertCall (encode : WorkerPayload → String) (payload : WorkerPayload) (accountSeq : ℕ) : Call where
  typeUrl := "/emissions.v10.InsertWorkerPayloadRequest"
  msgs := [encode payload]
  feeTier := .standard
  maxRetries := 2
  timeout := none
  gasLimit := none
  accountSeq := some accountSeq

theorem insertCall_carries {encode : WorkerPayload → String} {payload : WorkerPayload} {accountSeq : ℕ} :
    Carries encode payload accountSeq (insertCall encode payload accountSeq) :=
  ⟨rfl, rfl, Nat.le_succ 1, rfl⟩

namespace Setup

variable {α : Type} (setup : Setup α)

/-- A submission of the payload played on the ideal chain. -/
def playCall (w : Ideal) (payload : WorkerPayload) (accountSeq : ℕ) :
    Coroutine.Played Submission Request Reply Ideal (Except PyException Unit) :=
  let call := insertCall setup.encode payload accountSeq
  (call.submit setup.manager).play (answerIdeal setup.manager) (call.begin 0 none none) w

theorem playCall_run (w : Ideal) (payload : WorkerPayload) (accountSeq : ℕ) :
    ((insertCall setup.encode payload accountSeq).submit setup.manager).Runs
      ((insertCall setup.encode payload accountSeq).begin 0 none none)
      (setup.playCall w payload accountSeq).trace (setup.playCall w payload accountSeq).value
      (setup.playCall w payload accountSeq).state :=
  Routine.play_runs _ _ _ _

theorem playCall_path (w : Ideal) (payload : WorkerPayload) (accountSeq : ℕ) :
    Path (Ideal.Step setup.manager) w (setup.playCall w payload accountSeq).trace
      (setup.playCall w payload accountSeq).world :=
  Coroutine.play_path (answerIdeal_step setup.manager) _ _ _

theorem playCall_resolves (w : Ideal) (payload : WorkerPayload) (accountSeq : ℕ) :
    ∃ resp, (setup.playCall w payload accountSeq).state.pending.finalFuture = some (.ok resp) := by
  have carries : Carries setup.encode payload accountSeq _ := insertCall_carries
  obtain ⟨-, tx, resp, -, -, -, future, -⟩ := submission_lands setup.uncapped carries.retries
    carries.untimed (setup.playCall_run w payload accountSeq) (setup.playCall_path w payload accountSeq)
  exact ⟨resp, future⟩

def answerUseCase (w : Ideal) : (request : UseCaseRequest) → UseCaseReply α request × Ideal
  | .predict nonce => (setup.callbacks.predict nonce, w)
  | .forecast nonce => (setup.callbacks.forecast nonce, w)
  | .sanityCheck => ((), w)
  | .transact payload accountSeq =>
    ((setup.playCall w payload accountSeq).state.pending.finalFuture.getD (.error .asyncioTimeout),
      (setup.playCall w payload accountSeq).world)

theorem answerUseCase_step (w : Ideal) (request : UseCaseRequest) :
    setup.UseCaseStep w ⟨request, (setup.answerUseCase w request).1⟩ (setup.answerUseCase w request).2 := by
  cases request with
  | transact payload accountSeq =>
    obtain ⟨resp, future⟩ := setup.playCall_resolves w payload accountSeq
    refine .transact insertCall_carries (setup.playCall_run w payload accountSeq)
      (setup.playCall_path w payload accountSeq) ?_
    simp only [answerUseCase, future, Option.getD_some]
  | sanityCheck => exact .unsent rfl trivial
  | _ => exact .unsent rfl rfl

def playUseCase (w : Ideal) (nonce : ℤ) (accountSeq : ℕ) :
    Coroutine.Played Unit UseCaseRequest (UseCaseReply α) Ideal (Except PyException SubmitResult) :=
  (setup.role.submit nonce accountSeq).play setup.answerUseCase () w

def answerCycle (w : Ideal) : (request : CycleRequest) → CycleReply request × Ideal
  | .ctxCancelled => (false, w)
  | .workerIsWhitelisted => ((0, .ok true), w)
  | .stop => ((), w)
  | .getUnfulfilledNonces => ((0, .ok ∅), w)
  | .accountInfo _ => ((0, .ok (some ⟨w.committed, 1⟩)), w)
  | .running => (true, w)
  | .submit nonce accountSeq =>
    ((0, (setup.playUseCase w nonce accountSeq).value), (setup.playUseCase w nonce accountSeq).world)
  | .balance => ((0, .ok none), w)
  | .logBalance => ((0, .ok ()), w)
  | .maybeFaucetRequest => ((0, .ok ()), w)
  | .listening => (false, w)
  | .put _ => ((), w)

theorem answerCycle_step (w : Ideal) (request : CycleRequest) :
    setup.CycleStep w ⟨request, (setup.answerCycle w request).1⟩ (setup.answerCycle w request).2 := by
  cases request with
  | accountInfo => exact .accountInfo rfl
  | running => exact .running
  | submit nonce accountSeq =>
    exact .submit (Routine.play_runs setup.answerUseCase _ () w)
      (Coroutine.play_path setup.answerUseCase_step _ () w)
  | _ => exact .bookkeeping rfl (by simp)

end Setup

end AlloraSdk.Chain
