import Mathlib.Logic.Function.Basic
import Mathlib.Data.Nat.Notation
import AlloraSdk.Logic.Coroutine

/-!
# The run loop of a worker

Source: worker/worker.py, `run`, `_run_with_context`, `_monitor_cancellation`,
`_polling_worker`, `_handle_submission_window_opened_event`, `_cleanup` and
`stop`; utils/context.py, `Context`.

Calls of `run`, the tasks they create and the handlers of window events are
interleaved at their awaits: an action is what one of them does between two
awaits. Contexts and queues are objects, named by the call of `run` that made
them; `self._ctx` and `self._queue` are references to them, read again at every
use.
-/

namespace AlloraSdk.Source.Worker
open AlloraSdk.Logic

/-- What is put on `self._queue`. -/
inductive QueueItem (ρ : Type) where
  | result (value : ρ)
  | stopQueue
  deriving DecidableEq, Repr

def QueueItem.result? {ρ : Type} : QueueItem ρ → Option ρ
  | .result value => some value
  | .stopQueue => none

/-- Where a call of `run` is suspended. -/
inductive Place where
  | notStarted
  /-- Behind the lock, or in `use_case.initialize()`. -/
  | initializing
  /-- `_subscribe_websocket_events`, with so many subscriptions to go. -/
  | subscribing (left : ℕ)
  /-- `asyncio.wait_for(self._queue.get(), timeout=1.0)`. -/
  | getting (queue : ℕ)
  /-- `yield result`. -/
  | yielding
  /-- `_cleanup`: the detached startup retry is cancelled and awaited. -/
  | endingRetry
  /-- `_cleanup`: `unsubscribe` of the subscription at an index. -/
  | unsubscribing (index : ℕ)
  /-- `ctx.cleanup()`: the cancelled tasks are awaited. -/
  | gathering
  /-- Whether `_cleanup` went through. -/
  | ended (cleaned : Bool)
  deriving DecidableEq, Repr

/-- `_polling_worker`. -/
inductive Poller where
  | notCreated
  | created
  | submitting
  | sleeping
  | done
  deriving DecidableEq, Repr

/-- `_monitor_cancellation`. -/
inductive Monitor where
  | notCreated
  | waiting
  | done
  deriving DecidableEq, Repr

/-- A call of `run` with its context, its queue and its tasks. `put` and
`yielded` record everything that was put on the queue and was yielded. -/
structure RunCall (ρ : Type) where
  timeout : Bool := false
  cancelled : Bool := false
  queue : List (QueueItem ρ) := []
  put : List (QueueItem ρ) := []
  yielded : List ρ := []
  place : Place := .notStarted
  poller : Poller := .notCreated
  monitor : Monitor := .notCreated
  /-- `task.cancel()` was called on the tasks of the context. -/
  tasksCancelled : Bool := false

def RunCall.enqueue {ρ : Type} (r : RunCall ρ) (item : QueueItem ρ) : RunCall ρ :=
  { r with queue := r.queue ++ [item], put := r.put ++ [item] }

/-- The poller at its `while not ctx.is_cancelled()`. -/
def RunCall.test {ρ : Type} (r : RunCall ρ) : RunCall ρ :=
  { r with poller := if r.cancelled then .done else .submitting }

def RunCall.pollerOver {ρ : Type} (r : RunCall ρ) : Bool := r.poller = .notCreated ∨ r.poller = .done

def RunCall.monitorOver {ρ : Type} (r : RunCall ρ) : Bool := r.monitor = .notCreated ∨ r.monitor = .done

/-- The fields of the worker that its run loop uses. `handlers` are the handlers
of window events that passed their check, each with the context it read.
`opened` and `closed` record every subscription made, and every `unsubscribe`;
`raised`, what calls of `run` raised instead of running. -/
structure RunWorker (ρ : Type) where
  calls : ℕ → RunCall ρ := fun _ => {}
  started : ℕ := 0
  ctx : Option ℕ := none
  queue : Option ℕ := none
  subscriptionIds : List ℕ := []
  handlers : List ℕ := []
  opened : List ℕ := []
  closed : List ℕ := []
  raised : List String := []

/-- What ends the body of `run` early. -/
inductive Interrupt where
  /-- CancelledError or KeyboardInterrupt. -/
  | cancelled
  /-- `async_timeout.timeout(timeout)`. -/
  | timeout
  /-- The consumer closes the generator. -/
  | closed
  /-- `use_case.initialize()` or a subscription raised. -/
  | failed
  deriving DecidableEq, Repr

/-- The timeout covers `_run_with_context` only; a generator is closed at a `yield`. -/
def Interrupt.reaches (timeout : Bool) : Interrupt → Place → Bool
  | .cancelled, .initializing | .cancelled, .subscribing _ | .cancelled, .getting _ => true
  | .timeout, .subscribing _ | .timeout, .getting _ => timeout
  | .closed, .yielding => true
  | .failed, .initializing | .failed, .subscribing _ => true
  | _, _ => false

inductive RunAction (ρ : Type) where
  /-- `run`, from the end of `_ensure_initialized` on. -/
  | run (timeout : Bool)
  | initialized (call : ℕ)
  | subscribed (call id : ℕ)
  | received (call : ℕ)
  | receiveTimeout (call : ℕ)
  | resumed (call : ℕ)
  | interrupted (call : ℕ) (why : Interrupt)
  | retryEnded (call : ℕ)
  | unsubscribed (call : ℕ)
  | gathered (call : ℕ)
  /-- A CancelledError inside `_cleanup`. -/
  | cleanupCancelled (call : ℕ)
  | pollerStarts (call : ℕ)
  | pollerPuts (call : ℕ) (result : ρ)
  | cycleEnds (call : ℕ)
  /-- The cycle raised WorkerNotWhitelistedError, or was cancelled. -/
  | cycleStops (call : ℕ)
  | pollerWakes (call : ℕ)
  | pollerCancelled (call : ℕ)
  | monitorWakes (call : ℕ)
  | monitorCancelled (call : ℕ)
  | windowOpened
  | handlerPuts (index : ℕ) (result : ρ)
  | handlerEnds (index : ℕ)
  | stop
  /-- SIGINT or SIGTERM: the handler of the last `run` cancels its context. -/
  | signal
  deriving DecidableEq, Repr

namespace RunWorker

variable {ρ : Type}

def modify (w : RunWorker ρ) (call : ℕ) (f : RunCall ρ → RunCall ρ) : RunWorker ρ :=
  { w with calls := Function.update w.calls call (f (w.calls call)) }

section Fields

variable (w : RunWorker ρ) (call : ℕ) (f : RunCall ρ → RunCall ρ)

@[simp] theorem modify_started : (w.modify call f).started = w.started := rfl
@[simp] theorem modify_ctx : (w.modify call f).ctx = w.ctx := rfl
@[simp] theorem modify_queue : (w.modify call f).queue = w.queue := rfl
@[simp] theorem modify_subscriptionIds : (w.modify call f).subscriptionIds = w.subscriptionIds := rfl
@[simp] theorem modify_opened : (w.modify call f).opened = w.opened := rfl
@[simp] theorem modify_closed : (w.modify call f).closed = w.closed := rfl
@[simp] theorem modify_same : (w.modify call f).calls call = f (w.calls call) := Function.update_self ..

theorem modify_other {other : ℕ} (different : other ≠ call) : (w.modify call f).calls other = w.calls other :=
  Function.update_of_ne different ..

end Fields

def moveTo (w : RunWorker ρ) (call : ℕ) (place : Place) : RunWorker ρ :=
  w.modify call fun r => { r with place := place }

/-- `ctx.cancel()`. -/
def cancel (w : RunWorker ρ) (call : ℕ) : RunWorker ρ :=
  w.modify call fun r => { r with cancelled := true }

/-- `stop`. -/
def stop (w : RunWorker ρ) : RunWorker ρ :=
  match w.ctx with
  | some call => w.cancel call
  | none => w

/-- Onto `self._queue`, when there is one. -/
def enqueue (w : RunWorker ρ) (item : QueueItem ρ) : RunWorker ρ :=
  match w.queue with
  | some queue => w.modify queue (·.enqueue item)
  | none => w

/-- The end of a submission made for a context. -/
def put (w : RunWorker ρ) (ctx : ℕ) (result : ρ) : RunWorker ρ :=
  if (w.calls ctx).cancelled then w else w.enqueue (.result result)

/-- The start of `_cleanup`. -/
def cleanup (w : RunWorker ρ) (call : ℕ) : RunWorker ρ := w.moveTo call .endingRetry

/-- The head of `while not ctx.is_cancelled()`. -/
def loop (w : RunWorker ρ) (call : ℕ) : RunWorker ρ :=
  if (w.calls call).cancelled then w.cleanup call
  else match w.queue with
    | none => w.cleanup call
    | some queue => w.moveTo call (.getting queue)

/-- `self._queue = None` and `self._ctx = None`. -/
def finish (w : RunWorker ρ) (call : ℕ) : RunWorker ρ :=
  { w.moveTo call (.ended true) with ctx := none, queue := none }

/-- `ctx.cleanup()`. -/
def cleanupTasks (w : RunWorker ρ) (call : ℕ) : RunWorker ρ :=
  if (w.calls call).poller = .notCreated ∧ (w.calls call).monitor = .notCreated then w.finish call
  else w.modify call fun r => { r with tasksCancelled := true, place := .gathering }

/-- `for id in self._subscription_ids`, from an index on. -/
def unsubscribeFrom (w : RunWorker ρ) (call index : ℕ) : RunWorker ρ :=
  if index < w.subscriptionIds.length then w.moveTo call (.unsubscribing index)
  else { w with subscriptionIds := [] }.cleanupTasks call

/-- A new context and a new queue. -/
def begin (w : RunWorker ρ) (timeout : Bool) : RunWorker ρ :=
  { w.modify w.started fun r => { r with timeout := timeout, place := .initializing } with
    started := w.started + 1, ctx := some w.started, queue := some w.started }

/-- Subscriptions made by `_subscribe_websocket_events`: two for opened windows,
two for closed ones, and one for rewards where the use case stakes them. -/
def subscriptions (autostake : Bool) : ℕ := if autostake then 5 else 4

/-- The next item of the queue that the call waits on. -/
def receive (w : RunWorker ρ) (call queue : ℕ) : Option (RunWorker ρ) :=
  match (w.calls queue).queue with
  | [] => none
  | item :: rest =>
    let taken := w.modify queue fun r => { r with queue := rest }
    match item with
    | .result result =>
      some (taken.modify call fun r => { r with yielded := r.yielded ++ [result], place := .yielding })
    | .stopQueue => some (taken.cleanup call)

/-- One action; none where it cannot happen. A second `run` on an uncancelled
context raises, and nothing else. -/
def step (autostake : Bool) (w : RunWorker ρ) : RunAction ρ → Option (RunWorker ρ)
  | .run timeout =>
    match w.ctx with
    | none => some (w.begin timeout)
    | some ctx =>
      if (w.calls ctx).cancelled then some (w.begin timeout)
      else some { w with raised := w.raised ++ ["Worker is already running"] }
  | .initialized call =>
    if (w.calls call).place = .initializing then
      some (w.modify call fun r => { r with poller := .created, place := .subscribing (subscriptions autostake) })
    else none
  | .subscribed call id =>
    match (w.calls call).place with
    | .subscribing left =>
      let noted := { w with subscriptionIds := w.subscriptionIds ++ [id], opened := w.opened ++ [id] }
      if 1 < left then some (noted.moveTo call (.subscribing (left - 1)))
      else some ((noted.modify call fun r => { r with monitor := .waiting }).loop call)
    | _ => none
  | .received call =>
    match (w.calls call).place with
    | .getting queue => w.receive call queue
    | _ => none
  | .receiveTimeout call =>
    match (w.calls call).place with
    | .getting _ => some (w.loop call)
    | _ => none
  | .resumed call => if (w.calls call).place = .yielding then some (w.loop call) else none
  | .interrupted call why =>
    if why.reaches (w.calls call).timeout (w.calls call).place then
      if why = .cancelled then some ((w.cancel call).cleanup call) else some (w.cleanup call)
    else none
  | .retryEnded call => if (w.calls call).place = .endingRetry then some (w.unsubscribeFrom call 0) else none
  | .unsubscribed call =>
    match (w.calls call).place with
    | .unsubscribing index =>
      some ({ w with closed := w.closed ++ w.subscriptionIds[index]?.toList }.unsubscribeFrom call (index + 1))
    | _ => none
  | .gathered call =>
    if (w.calls call).place = .gathering ∧ (w.calls call).pollerOver ∧ (w.calls call).monitorOver then
      some (w.finish call)
    else none
  | .cleanupCancelled call =>
    match (w.calls call).place with
    | .unsubscribing _ | .gathering => some (w.moveTo call (.ended false))
    | _ => none
  | .pollerStarts call => if (w.calls call).poller = .created then some (w.modify call RunCall.test) else none
  | .pollerPuts call result =>
    if (w.calls call).poller = .submitting then some (w.put call result) else none
  | .cycleEnds call =>
    if (w.calls call).poller = .submitting then some (w.modify call fun r => { r with poller := .sleeping })
    else none
  | .cycleStops call =>
    if (w.calls call).poller = .submitting then some (w.stop.modify call fun r => { r with poller := .done })
    else none
  | .pollerWakes call => if (w.calls call).poller = .sleeping then some (w.modify call RunCall.test) else none
  | .pollerCancelled call =>
    if (w.calls call).tasksCancelled ∧ ((w.calls call).poller = .created ∨ (w.calls call).poller = .sleeping) then
      some (w.modify call fun r => { r with poller := .done })
    else none
  | .monitorWakes call =>
    if (w.calls call).cancelled ∧ (w.calls call).monitor = .waiting then
      some ((w.enqueue .stopQueue).modify call fun r => { r with monitor := .done })
    else none
  | .monitorCancelled call =>
    if (w.calls call).tasksCancelled ∧ (w.calls call).monitor = .waiting then
      some (w.modify call fun r => { r with monitor := .done })
    else none
  | .windowOpened =>
    match w.ctx with
    | none => some w
    | some ctx => if (w.calls ctx).cancelled then some w else some { w with handlers := w.handlers ++ [ctx] }
  | .handlerPuts index result =>
    match w.handlers[index]? with
    | some ctx => some (w.put ctx result)
    | none => none
  | .handlerEnds index =>
    if index < w.handlers.length then some { w with handlers := w.handlers.eraseIdx index } else none
  | .stop => some w.stop
  | .signal => if 0 < w.started then some (w.cancel (w.started - 1)) else none

def Step (autostake : Bool) (w : RunWorker ρ) (action : RunAction ρ) (w' : RunWorker ρ) : Prop :=
  w.step autostake action = some w'

/-- What an action did, with what it found. -/
inductive Took (autostake : Bool) (w : RunWorker ρ) : RunAction ρ → RunWorker ρ → Prop
  | begins (timeout : Bool) (free : ∀ ctx, w.ctx = some ctx → (w.calls ctx).cancelled = true) :
      Took autostake w (.run timeout) (w.begin timeout)
  | refused {ctx : ℕ} (timeout : Bool) (found : w.ctx = some ctx) (live : (w.calls ctx).cancelled = false) :
      Took autostake w (.run timeout) { w with raised := w.raised ++ ["Worker is already running"] }
  | initialized {call : ℕ} (place : (w.calls call).place = .initializing) :
      Took autostake w (.initialized call)
        (w.modify call fun r => { r with poller := .created, place := .subscribing (subscriptions autostake) })
  | subscribed {call id left : ℕ} (place : (w.calls call).place = .subscribing left) (more : 1 < left) :
      Took autostake w (.subscribed call id)
        ({ w with subscriptionIds := w.subscriptionIds ++ [id], opened := w.opened ++ [id] }.moveTo call
          (.subscribing (left - 1)))
  | lastSubscribed {call id left : ℕ} (place : (w.calls call).place = .subscribing left) (last : ¬ 1 < left) :
      Took autostake w (.subscribed call id)
        (({ w with subscriptionIds := w.subscriptionIds ++ [id], opened := w.opened ++ [id] }.modify call
          fun r => { r with monitor := .waiting }).loop call)
  | received {call queue : ℕ} {w' : RunWorker ρ} (place : (w.calls call).place = .getting queue)
      (taken : w.receive call queue = some w') : Took autostake w (.received call) w'
  | receiveTimeout {call queue : ℕ} (place : (w.calls call).place = .getting queue) :
      Took autostake w (.receiveTimeout call) (w.loop call)
  | resumed {call : ℕ} (place : (w.calls call).place = .yielding) : Took autostake w (.resumed call) (w.loop call)
  | interrupted {call : ℕ} {why : Interrupt}
      (reaches : why.reaches (w.calls call).timeout (w.calls call).place = true) (running : why ≠ .cancelled) :
      Took autostake w (.interrupted call why) (w.cleanup call)
  | cancelled {call : ℕ} (reaches : Interrupt.cancelled.reaches (w.calls call).timeout (w.calls call).place = true) :
      Took autostake w (.interrupted call .cancelled) ((w.cancel call).cleanup call)
  | retryEnded {call : ℕ} (place : (w.calls call).place = .endingRetry) :
      Took autostake w (.retryEnded call) (w.unsubscribeFrom call 0)
  | unsubscribed {call index : ℕ} (place : (w.calls call).place = .unsubscribing index) :
      Took autostake w (.unsubscribed call)
        ({ w with closed := w.closed ++ w.subscriptionIds[index]?.toList }.unsubscribeFrom call (index + 1))
  | gathered {call : ℕ} (place : (w.calls call).place = .gathering) (poller : (w.calls call).pollerOver = true)
      (monitor : (w.calls call).monitorOver = true) : Took autostake w (.gathered call) (w.finish call)
  | cleanupCancelled {call : ℕ} : Took autostake w (.cleanupCancelled call) (w.moveTo call (.ended false))
  | pollerStarts {call : ℕ} (alive : (w.calls call).poller = .created) :
      Took autostake w (.pollerStarts call) (w.modify call RunCall.test)
  | pollerPuts {call : ℕ} {result : ρ} (alive : (w.calls call).poller = .submitting) :
      Took autostake w (.pollerPuts call result) (w.put call result)
  | cycleEnds {call : ℕ} (alive : (w.calls call).poller = .submitting) :
      Took autostake w (.cycleEnds call) (w.modify call fun r => { r with poller := .sleeping })
  | cycleStops {call : ℕ} (alive : (w.calls call).poller = .submitting) :
      Took autostake w (.cycleStops call) (w.stop.modify call fun r => { r with poller := .done })
  | pollerWakes {call : ℕ} (alive : (w.calls call).poller = .sleeping) :
      Took autostake w (.pollerWakes call) (w.modify call RunCall.test)
  | pollerCancelled {call : ℕ} (alive : (w.calls call).poller = .created ∨ (w.calls call).poller = .sleeping) :
      Took autostake w (.pollerCancelled call) (w.modify call fun r => { r with poller := .done })
  | monitorWakes {call : ℕ} (cancelled : (w.calls call).cancelled = true)
      (alive : (w.calls call).monitor = .waiting) :
      Took autostake w (.monitorWakes call) ((w.enqueue .stopQueue).modify call fun r => { r with monitor := .done })
  | monitorCancelled {call : ℕ} (alive : (w.calls call).monitor = .waiting) :
      Took autostake w (.monitorCancelled call) (w.modify call fun r => { r with monitor := .done })
  | windowMissed : Took autostake w .windowOpened w
  | windowOpened {ctx : ℕ} (found : w.ctx = some ctx) :
      Took autostake w .windowOpened { w with handlers := w.handlers ++ [ctx] }
  | handlerPuts {index ctx : ℕ} {result : ρ} (found : w.handlers[index]? = some ctx) :
      Took autostake w (.handlerPuts index result) (w.put ctx result)
  | handlerEnds {index : ℕ} : Took autostake w (.handlerEnds index) { w with handlers := w.handlers.eraseIdx index }
  | stop : Took autostake w .stop w.stop
  | signal : Took autostake w .signal (w.cancel (w.started - 1))

theorem step_took {autostake : Bool} {w' : RunWorker ρ} {action : RunAction ρ}
    (taken : w.step autostake action = some w') : Took autostake w action w' := by
  cases action with
  | run timeout =>
    simp only [step] at taken
    split at taken
    · rename_i idle
      obtain rfl := Option.some.inj taken
      exact .begins timeout fun ctx found => by simp [idle] at found
    · rename_i ctx found
      split at taken
      · rename_i cancelled
        obtain rfl := Option.some.inj taken
        exact .begins timeout fun other same => Option.some.inj (found.symm.trans same) ▸ cancelled
      · rename_i live
        obtain rfl := Option.some.inj taken
        exact .refused timeout found (Bool.eq_false_iff.mpr live)
  | initialized call =>
    obtain ⟨place, ⟨⟩⟩ := Option.ite_none_right_eq_some.mp taken
    exact .initialized place
  | subscribed call id =>
    simp only [step] at taken
    split at taken
    · rename_i left place
      split at taken <;> obtain rfl := Option.some.inj taken <;> rename_i left'
      · exact .subscribed place left'
      · exact .lastSubscribed place left'
    · cases taken
  | received call =>
    simp only [step] at taken
    split at taken
    · rename_i queue place
      exact .received place taken
    · cases taken
  | receiveTimeout call =>
    simp only [step] at taken
    split at taken
    · rename_i queue place
      obtain rfl := Option.some.inj taken
      exact .receiveTimeout place
    · cases taken
  | resumed call =>
    obtain ⟨place, ⟨⟩⟩ := Option.ite_none_right_eq_some.mp taken
    exact .resumed place
  | interrupted call why =>
    rcases eq_or_ne why .cancelled with rfl | running
    · obtain ⟨reaches, ⟨⟩⟩ := Option.ite_none_right_eq_some.mp taken
      exact .cancelled reaches
    · simp only [step, if_neg running] at taken
      obtain ⟨reaches, ⟨⟩⟩ := Option.ite_none_right_eq_some.mp taken
      exact .interrupted reaches running
  | retryEnded call =>
    obtain ⟨place, ⟨⟩⟩ := Option.ite_none_right_eq_some.mp taken
    exact .retryEnded place
  | unsubscribed call =>
    simp only [step] at taken
    split at taken
    · rename_i index place
      obtain rfl := Option.some.inj taken
      exact .unsubscribed place
    · cases taken
  | gathered call =>
    obtain ⟨⟨place, poller, monitor⟩, ⟨⟩⟩ := Option.ite_none_right_eq_some.mp taken
    exact .gathered place poller monitor
  | cleanupCancelled call =>
    simp only [step] at taken
    split at taken
    · obtain rfl := Option.some.inj taken
      exact .cleanupCancelled
    · obtain rfl := Option.some.inj taken
      exact .cleanupCancelled
    · cases taken
  | pollerStarts call =>
    obtain ⟨alive, ⟨⟩⟩ := Option.ite_none_right_eq_some.mp taken
    exact .pollerStarts alive
  | pollerPuts call result =>
    obtain ⟨alive, ⟨⟩⟩ := Option.ite_none_right_eq_some.mp taken
    exact .pollerPuts alive
  | cycleEnds call =>
    obtain ⟨alive, ⟨⟩⟩ := Option.ite_none_right_eq_some.mp taken
    exact .cycleEnds alive
  | cycleStops call =>
    obtain ⟨alive, ⟨⟩⟩ := Option.ite_none_right_eq_some.mp taken
    exact .cycleStops alive
  | pollerWakes call =>
    obtain ⟨alive, ⟨⟩⟩ := Option.ite_none_right_eq_some.mp taken
    exact .pollerWakes alive
  | pollerCancelled call =>
    obtain ⟨⟨-, alive⟩, ⟨⟩⟩ := Option.ite_none_right_eq_some.mp taken
    exact .pollerCancelled alive
  | monitorWakes call =>
    obtain ⟨⟨cancelled, alive⟩, ⟨⟩⟩ := Option.ite_none_right_eq_some.mp taken
    exact .monitorWakes cancelled alive
  | monitorCancelled call =>
    obtain ⟨⟨-, alive⟩, ⟨⟩⟩ := Option.ite_none_right_eq_some.mp taken
    exact .monitorCancelled alive
  | windowOpened =>
    simp only [step] at taken
    split at taken
    · obtain rfl := Option.some.inj taken
      exact .windowMissed
    · rename_i ctx found
      split at taken <;> obtain rfl := Option.some.inj taken
      · exact .windowMissed
      · exact .windowOpened found
  | handlerPuts index result =>
    simp only [step] at taken
    split at taken
    · rename_i ctx found
      obtain rfl := Option.some.inj taken
      exact .handlerPuts found
    · cases taken
  | handlerEnds index =>
    obtain ⟨-, ⟨⟩⟩ := Option.ite_none_right_eq_some.mp taken
    exact .handlerEnds
  | stop =>
    obtain rfl := Option.some.inj taken
    exact .stop
  | signal =>
    obtain ⟨-, ⟨⟩⟩ := Option.ite_none_right_eq_some.mp taken
    exact .signal

end RunWorker

end AlloraSdk.Source.Worker
