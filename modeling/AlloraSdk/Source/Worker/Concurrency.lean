import AlloraSdk.Logic.Tasks
import AlloraSdk.Source.Worker.AutoStake
import AlloraSdk.Source.Worker.UseCases

/-!
# The tasks of a running worker

Source: worker/worker.py, `run` (the guarded `initialize`), `_maybe_submit`,
`_handle_submission_window_opened_event` and the rewards subscription, and
tx_manager.py, `PendingTx.wait`.

Polls, window events and rewards events run as tasks of one event loop. Every
await may be answered by nothing: the task is cancelled there, by shutdown or,
inside a cycle, by the submit-hold timeout. A cancelled `wait` cancels the
future it waits on, so a transaction is in progress exactly while it is awaited.
-/

namespace AlloraSdk.Source.Worker
open AlloraSdk.Logic AlloraSdk.Source.TxManager AlloraSdk.Source.Utils

structure AlloraWorker (α : Type) where
  settings : Settings
  role : Role α
  staker : AutoStaker

/-- `_submit_lock`, the use case's `_last_autostake_key`, and what cycles use. -/
structure WorkerShared where
  locked : Bool
  lastAutostakeKey : Option RememberedKey
  worker : WorkerState

inductive WorkerRequest where
  | ensureInitialized
  /-- `async with self._submit_lock`. -/
  | acquire
  | cycle (request : CycleRequest)
  /-- How long the use case took. -/
  | elapsed
  | useCase (request : UseCaseRequest)
  | initializing (request : InitializeRequest)
  | autoStake (request : AutoStakeRequest)
  deriving DecidableEq

abbrev WorkerReply (α : Type) : WorkerRequest → Type
  | .ensureInitialized => Option (Except PyException Unit)
  | .acquire => Option Unit
  | .cycle request => Option (CycleReply request)
  | .elapsed => Option ℕ
  | .useCase request => Option (UseCaseReply α request)
  | .initializing request => Option (InitializeReply request)
  | .autoStake request => Option (AutoStakeReply request)

/-- From the call of `submit_transaction` to the resolution of its PendingTx. -/
def WorkerRequest.isTransaction : WorkerRequest → Bool
  | .useCase (.transact _ _) => true
  | .initializing (.register _ _) => true
  | .autoStake (.delegate _) => true
  | _ => false

/-- The rewards handler's own transaction. -/
def WorkerRequest.isDelegate : WorkerRequest → Bool
  | .autoStake (.delegate _) => true
  | _ => false

inductive WorkerTask where
  | initializing
  | poll
  | windowOpened (nonce : ℤ)
  | rewardsSettled (event : EventRewardsSettled)

abbrev Task (α β : Type) := Coroutine WorkerShared WorkerRequest (WorkerReply α) β

/-- What the `finally` of `submit` does when a request inside its `try` is
cancelled. What it puts into the queue is not modelled. -/
def cleanUpCycle : CycleRequest → WorkerState → WorkerState
  | .submit _ _ | .balance | .logBalance | .maybeFaucetRequest => WorkerState.prune
  | _ => id

section Programs

variable {α : Type}

/-- A request of a cycle; the use case runs as part of it. -/
def handleCycle (worker : AlloraWorker α) : (request : CycleRequest) → Task α (Option (CycleReply request))
  | .submit nonce accountSeq =>
    ((worker.role.submit nonce accountSeq).run.interpret (fun _ => ()) (fun _ s => s)
      (fun request => .await (.useCase request) .ret) (fun _ => id)).bind fun
      | none => .ret none
      | some answer => .await .elapsed fun
        | none => .ret none
        | some took => .ret (some (took, answer))
  | .ctxCancelled => .await (.cycle .ctxCancelled) .ret
  | .workerIsWhitelisted => .await (.cycle .workerIsWhitelisted) .ret
  | .stop => .await (.cycle .stop) .ret
  | .getUnfulfilledNonces => .await (.cycle .getUnfulfilledNonces) .ret
  | .accountInfo address => .await (.cycle (.accountInfo address)) .ret
  | .running => .await (.cycle .running) .ret
  | .balance => .await (.cycle .balance) .ret
  | .logBalance => .await (.cycle .logBalance) .ret
  | .maybeFaucetRequest => .await (.cycle .maybeFaucetRequest) .ret
  | .listening => .await (.cycle .listening) .ret
  | .put result => .await (.cycle (.put result)) .ret

def cycleBody (worker : AlloraWorker α) (nonce : Option ℤ) : Task α Unit :=
  ((maybeSubmitImpl worker.settings nonce).run.interpret WorkerShared.worker
    (fun w s => { s with worker := w }) (handleCycle worker) cleanUpCycle).bind fun _ => .ret ()

def initializeBody (worker : AlloraWorker α) : Task α Unit :=
  ((initializeUseCase worker.staker).run.interpret (fun _ => ()) (fun _ s => s)
    (fun request => .await (.initializing request) .ret) (fun _ => id)).bind fun _ => .ret ()

/-- `async with self._submit_lock`: released however the body ends. -/
def holdingLock (body : Task α Unit) : Task α Unit :=
  .await .acquire fun
    | none => .ret ()
    | some () => .read fun s => .write { s with locked := true } (body.bind fun _ =>
        .read fun s => .write { s with locked := false } (.ret ()))

def maybeSubmit (worker : AlloraWorker α) (nonce : Option ℤ) : Task α Unit :=
  .await .ensureInitialized fun
    | some (.ok ()) => .await (.cycle .ctxCancelled) fun
      | some false => holdingLock (cycleBody worker nonce)
      | _ => .ret ()
    | _ => .ret ()

def rewardsSettled (worker : AlloraWorker α) (event : EventRewardsSettled) : Task α Unit :=
  ((handleRewardsSettled worker.staker event).interpret WorkerShared.lastAutostakeKey
    (fun key s => { s with lastAutostakeKey := key })
    (fun request => .await (.autoStake request) .ret) (fun _ => id)).bind fun _ => .ret ()

def taskProgram (worker : AlloraWorker α) : WorkerTask → Task α Unit
  | .initializing => holdingLock (initializeBody worker)
  | .poll => maybeSubmit worker none
  | .windowOpened nonce => maybeSubmit worker (some nonce)
  | .rewardsSettled event => rewardsSettled worker event

/-- A waiter gets the lock only when it is free. -/
def lockAllows (s : WorkerShared) : Event WorkerRequest (WorkerReply α) → Bool
  | ⟨.acquire, some ()⟩ => !s.locked
  | _ => true

def workerSystem (worker : AlloraWorker α) :
    System WorkerTask WorkerShared WorkerRequest (WorkerReply α) where
  program := taskProgram worker
  enabled := lockAllows

end Programs

/-! ## What a segment of a task can do -/

def WorkerRequest.isOutside : WorkerRequest → Bool
  | .ensureInitialized | .acquire | .cycle .ctxCancelled => true
  | _ => false

def WorkerRequest.isInside : WorkerRequest → Bool
  | .cycle _ | .elapsed | .useCase _ | .initializing _ => true
  | _ => false

/-- Where a task waits: outside the lock, holding it, or in the rewards handler
on the balance or on its delegation. -/
inductive Phase where
  | outside (request : WorkerRequest) (kind : request.isOutside = true)
  | inside (request : WorkerRequest) (kind : request.isInside = true)
  | checking (delegation : Delegation)
  | delegating (delegation : Delegation)
  | finished

def Phase.isInside : Phase → Bool
  | .inside _ _ => true
  | _ => false

def Phase.isDelegating : Phase → Bool
  | .delegating _ => true
  | _ => false

def WorkerTask.isGuarded : WorkerTask → Bool
  | .rewardsSettled _ => false
  | _ => true

section Segments

variable {α : Type} (worker : AlloraWorker α)

def Phase.request : Phase → Option WorkerRequest
  | .outside request _ | .inside request _ => some request
  | .checking delegation =>
    some (.autoStake (.balance worker.staker.walletAddr worker.staker.feeDenom delegation))
  | .delegating delegation => some (.autoStake (.delegate delegation))
  | .finished => none

abbrev WorkerOrigin (α : Type) := Origin WorkerTask Phase WorkerShared WorkerRequest (WorkerReply α)

inductive Segment : WorkerOrigin α → WorkerShared → Phase → Prop
  | begins {task : WorkerTask} {s : WorkerShared} {request : WorkerRequest} (guarded : task.isGuarded = true)
      (kind : request.isOutside = true) : Segment (.spawned task s) s (.outside request kind)
  | undue {event : EventRewardsSettled} {s : WorkerShared}
      (none : worker.staker.dueDelegation s.lastAutostakeKey event = none) :
      Segment (.spawned (.rewardsSettled event) s) s .finished
  | due {event : EventRewardsSettled} {s : WorkerShared} {delegation : Delegation}
      (some : worker.staker.dueDelegation s.lastAutostakeKey event = some delegation) :
      Segment (.spawned (.rewardsSettled event) s) s (.checking delegation)
  | waits {request request' : WorkerRequest} {at_request : request.isOutside = true}
      {e : Event WorkerRequest (WorkerReply α)} {s : WorkerShared} (kind : request'.isOutside = true) :
      Segment (.resumed (.outside request at_request) e s) s (.outside request' kind)
  | leaves {request : WorkerRequest} {at_request : request.isOutside = true}
      {e : Event WorkerRequest (WorkerReply α)} {s : WorkerShared} :
      Segment (.resumed (.outside request at_request) e s) s .finished
  | enters {s s' : WorkerShared} {request : WorkerRequest} (locked : s'.locked = true)
      (kept : s'.lastAutostakeKey = s.lastAutostakeKey) (kind : request.isInside = true) :
      Segment (.resumed (.outside .acquire rfl) ⟨.acquire, some ()⟩ s) s' (.inside request kind)
  | passes {s s' : WorkerShared} (unlocked : s'.locked = false)
      (kept : s'.lastAutostakeKey = s.lastAutostakeKey) :
      Segment (.resumed (.outside .acquire rfl) ⟨.acquire, some ()⟩ s) s' .finished
  | works {s s' : WorkerShared} {request request' : WorkerRequest} {at_request : request.isInside = true}
      {e : Event WorkerRequest (WorkerReply α)} (locked : s'.locked = s.locked)
      (kept : s'.lastAutostakeKey = s.lastAutostakeKey) (kind : request'.isInside = true) :
      Segment (.resumed (.inside request at_request) e s) s' (.inside request' kind)
  | releases {s s' : WorkerShared} {request : WorkerRequest} {at_request : request.isInside = true}
      {e : Event WorkerRequest (WorkerReply α)} (unlocked : s'.locked = false)
      (kept : s'.lastAutostakeKey = s.lastAutostakeKey) :
      Segment (.resumed (.inside request at_request) e s) s' .finished
  | declines {delegation : Delegation} {e : Event WorkerRequest (WorkerReply α)} {s : WorkerShared} :
      Segment (.resumed (.checking delegation) e s) s .finished
  | delegates {delegation : Delegation} {address denom : String} {answer : Except PyException (Option String)}
      {s : WorkerShared} (sufficient : insufficient delegation.amount answer = false) :
      Segment (.resumed (.checking delegation)
        ⟨.autoStake (.balance address denom delegation), some answer⟩ s) s (.delegating delegation)
  | remembers {delegation : Delegation} {outcome : Except PyException TxResponse} {s : WorkerShared} :
      Segment (.resumed (.delegating delegation) ⟨.autoStake (.delegate delegation), some outcome⟩ s)
        { s with lastAutostakeKey := some (.key delegation.key) } .finished
  | abandons {delegation : Delegation} {s : WorkerShared} :
      Segment (.resumed (.delegating delegation) ⟨.autoStake (.delegate delegation), none⟩ s) s .finished

def workerProtocol : Protocol WorkerTask Phase WorkerShared WorkerRequest (WorkerReply α) where
  request := Phase.request worker
  moves := Segment worker

@[simp] theorem workerProtocol_request (ph : Phase) : (workerProtocol worker).request ph = ph.request worker := rfl

/-- A segment that holds the lock. -/
inductive Held : WorkerOrigin α → WorkerShared → Prop
  | entered {s t : WorkerShared} (locked : t.locked = true)
      (kept : t.lastAutostakeKey = s.lastAutostakeKey) :
      Held (.resumed (.outside .acquire rfl) ⟨.acquire, some ()⟩ s) t
  | within {request : WorkerRequest} {at_request : request.isInside = true}
      {e : Event WorkerRequest (WorkerReply α)} {s t : WorkerShared} (locked : t.locked = s.locked)
      (kept : t.lastAutostakeKey = s.lastAutostakeKey) : Held (.resumed (.inside request at_request) e s) t

variable {worker} {origin : WorkerOrigin α} {t : WorkerShared}

theorem Held.written (held : Held origin t) (w : WorkerState) : Held origin { t with worker := w } := by
  cases held with
  | entered locked kept => exact .entered locked kept
  | within locked kept => exact .within locked kept

/-- It may await anything but the lock. -/
theorem Held.moves (held : Held origin t) {request : WorkerRequest} (kind : request.isInside = true) :
    Segment worker origin t (.inside request kind) := by
  cases held with
  | entered locked kept => exact .enters locked kept kind
  | within locked kept => exact .works locked kept kind

theorem Held.awaits (held : Held origin t) {request : WorkerRequest} (kind : request.isInside = true) :
    (Coroutine.await request Coroutine.ret : Task α (WorkerReply α request)).Follows
      (workerProtocol worker) lockAllows (fun _ => Held) origin t :=
  ⟨.inside request kind, held.moves kind, rfl, fun _ _ _ => .within rfl rfl⟩

theorem handleCycle_follows (request : CycleRequest) (held : Held origin t) :
    (handleCycle worker request).Follows (workerProtocol worker) lockAllows (fun _ => Held) origin t := by
  cases request with
  | submit nonce accountSeq =>
    refine Coroutine.Follows.bind ((Coroutine.Follows.interpret
      (fun request _ _ held => held.awaits rfl) (fun _ _ _ held => held) _ held).mono ?_)
    intro answer o s held
    cases answer with
    | none => exact held
    | some answer =>
      refine ⟨.inside .elapsed rfl, held.moves rfl, rfl, fun took s₁ _ => ?_⟩
      cases took with
      | none => exact .within rfl rfl
      | some took => exact .within rfl rfl
  | _ => exact held.awaits rfl

theorem cycleBody_follows (nonce : Option ℤ) (held : Held origin t) :
    (cycleBody worker nonce).Follows (workerProtocol worker) lockAllows (fun _ => Held) origin t := by
  refine Coroutine.Follows.bind ((Coroutine.Follows.interpret
    (fun request _ _ held => handleCycle_follows request held)
    (fun _ _ w held => held.written w) _ held).mono ?_)
  exact fun _ _ _ held => held

theorem initializeBody_follows (held : Held origin t) :
    (initializeBody worker).Follows (workerProtocol worker) lockAllows (fun _ => Held) origin t := by
  refine Coroutine.Follows.bind ((Coroutine.Follows.interpret
    (fun request _ _ held => held.awaits rfl) (fun _ _ _ held => held) _ held).mono ?_)
  exact fun _ _ _ held => held

/-- Between acquiring and releasing the lock a body runs as `Held` says. -/
theorem holdingLock_follows {body : Task α Unit}
    (inside : ∀ {o : WorkerOrigin α} {t : WorkerShared}, Held o t →
      body.Follows (workerProtocol worker) lockAllows (fun _ => Held) o t)
    (arrives : Segment worker origin t (.outside .acquire rfl)) :
    (holdingLock body).Follows (workerProtocol worker) lockAllows (workerProtocol worker).Ends origin t := by
  refine ⟨.outside .acquire rfl, arrives, rfl, fun granted s _ => ?_⟩
  cases granted with
  | none => exact ⟨.finished, .leaves, rfl⟩
  | some granted =>
    have entered : Held (.resumed (.outside .acquire rfl) ⟨.acquire, some ()⟩ s)
        ({ s with locked := true } : WorkerShared) := Held.entered (α := α) rfl rfl
    refine Coroutine.Follows.bind ((inside entered).mono ?_)
    intro _ o s' held
    refine ⟨.finished, ?_, rfl⟩
    cases held with
    | entered locked kept => exact .passes rfl kept
    | within locked kept => exact .releases rfl kept

theorem maybeSubmit_follows (nonce : Option ℤ)
    (arrives : ∀ (request : WorkerRequest) (kind : request.isOutside = true),
      Segment worker origin t (.outside request kind)) :
    (maybeSubmit worker nonce).Follows (workerProtocol worker) lockAllows (workerProtocol worker).Ends origin t := by
  refine ⟨.outside .ensureInitialized rfl, arrives _ rfl, rfl, fun initialized s _ => ?_⟩
  rcases initialized with _ | (err | _)
  · exact ⟨.finished, .leaves, rfl⟩
  · exact ⟨.finished, .leaves, rfl⟩
  refine ⟨.outside (.cycle .ctxCancelled) rfl, .waits rfl, rfl, fun cancelled s₁ _ => ?_⟩
  rcases cancelled with _ | (_ | _)
  · exact ⟨.finished, .leaves, rfl⟩
  · exact holdingLock_follows (cycleBody_follows nonce) (.waits rfl)
  · exact ⟨.finished, .leaves, rfl⟩

theorem rewardsSettled_follows (event : EventRewardsSettled) (s : WorkerShared) :
    (rewardsSettled worker event).Follows (workerProtocol worker) lockAllows (workerProtocol worker).Ends
      (.spawned (.rewardsSettled event) s) s := by
  simp only [rewardsSettled, handleRewardsSettled, processAutostakeRewardsSettled, Coroutine.interpret,
    Coroutine.bind, Coroutine.Follows]
  cases due : worker.staker.dueDelegation s.lastAutostakeKey event with
  | none => exact ⟨.finished, .undue due, rfl⟩
  | some delegation =>
    simp only [delegateReward, Coroutine.bind_eq, Coroutine.bind, Coroutine.interpret, Coroutine.Follows]
    refine ⟨.checking delegation, .due due, rfl, fun balance s₁ _ => ?_⟩
    cases balance with
    | none => exact ⟨.finished, .declines, rfl⟩
    | some answer =>
      cases low : insufficient delegation.amount answer with
      | true =>
        simp only [low, if_true, Coroutine.pure_eq, Coroutine.bind, Coroutine.interpret, Coroutine.Follows]
        exact ⟨.finished, .declines, rfl⟩
      | false =>
        simp only [low, Bool.false_eq_true, if_false, Coroutine.pure_eq, Coroutine.bind, Coroutine.interpret,
          Coroutine.Follows]
        refine ⟨.delegating delegation, .delegates low, rfl, fun outcome s₂ _ => ?_⟩
        cases outcome with
        | none => exact ⟨.finished, .abandons, rfl⟩
        | some outcome => exact ⟨.finished, .remembers, rfl⟩

/-- Every task of the worker runs in such segments. -/
theorem workerProtocol_governs (worker : AlloraWorker α) :
    (workerProtocol worker).Governs (workerSystem worker) := by
  intro task s
  cases task with
  | initializing => exact holdingLock_follows initializeBody_follows (.begins rfl rfl)
  | poll => exact maybeSubmit_follows none fun request kind => .begins rfl kind
  | windowOpened nonce => exact maybeSubmit_follows (some nonce) fun request kind => .begins rfl kind
  | rewardsSettled event => exact rewardsSettled_follows event s

end Segments

end AlloraSdk.Source.Worker
