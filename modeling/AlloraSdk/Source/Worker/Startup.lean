import Mathlib.Data.Finset.Basic
import AlloraSdk.Logic.Outline
import AlloraSdk.Source.TxManager.Messages

/-!
# Start-up of a worker

Source: worker/worker.py, `_ensure_initialized` to `_derive_polling_interval`,
`_log_balance`, `_maybe_faucet_request`, the start of `run` and `_cleanup`.

A start-up step is its call back into `_ensure_initialized` and, as one await,
the rest of its own work, in which no start-up flag is touched. An await that is
cancelled raises CancelledError in the task. The topic is kept for its window
only; the banner's use of it is part of the banner's work.
-/

namespace AlloraSdk.Source.Worker
open AlloraSdk.Logic AlloraSdk.Source.TxManager

/-- `except Exception` catches the first; CancelledError and SystemExit pass. -/
inductive StartupError where
  | exception
  | cancelled
  | systemExit
  deriving DecidableEq

inductive StartupStep where
  | banner
  | balance
  | faucet
  deriving DecidableEq

/-- Who called `_ensure_initialized`: a task, or one of its start-up steps. -/
inductive Caller where
  | task
  | step (step : StartupStep)
  deriving DecidableEq

def Caller.isStep : Caller → Bool
  | .task => false
  | .step _ => true

inductive StartupRequest where
  /-- `async with self._init_lock`. -/
  | acquire (caller : Caller)
  | raiseForChainIdMismatch (caller : Caller)
  | getTopic (caller : Caller)
  | work (caller : Caller) (step : StartupStep)
  /-- The event loop starts the detached task. -/
  | starts (retry : ℕ)
  /-- `await task` in `_cleanup`. -/
  | ends (retry : ℕ)
  deriving DecidableEq

/-- A topic is its submission window. -/
abbrev StartupReply : StartupRequest → Type
  | .acquire _ => Except StartupError Unit
  | .raiseForChainIdMismatch _ => Except StartupError String
  | .getTopic _ => Except StartupError (Option ℤ)
  | .work _ _ => Except StartupError Unit
  | .starts _ => Except StartupError Unit
  | .ends _ => Except StartupError Unit

/-- A detached task of `_spawn_startup_step_retry`, with the tasks that run it and
that cancelled it. -/
structure RetryTask where
  startedBy : Option ℕ
  done : Bool
  cancelledBy : Option ℕ
  caller : Caller

/-- The last three fields are history, and read by no program: the steps that
returned, whether `_run_startup_steps_once` was entered before the worker was
initialized, and the number of detached tasks when `_cleanup` set its flag, if it
did since the last `run()`. -/
structure StartupState where
  initialized : Bool
  chainId : Option String
  pollingInterval : ℤ
  pollingIntervalDerived : Bool
  /-- `_init_lock`, with the task that holds it. -/
  initLock : Option ℕ
  startupTasks : Finset ℕ
  optionalStepsCompleted : Finset StartupStep
  optionalStepsAttempted : Bool
  /-- `_optional_steps_running`, with the task that set it. -/
  optionalStepsRunning : Option ℕ
  optionalStepsDone : Bool
  startupRetryTask : Option ℕ
  shuttingDown : Bool
  detached : List RetryTask
  succeeded : Finset StartupStep
  early : Bool
  retriesAtShutdown : Option ℕ

abbrev Startup := Routine StartupError StartupState StartupRequest StartupReply

structure StartupSettings where
  explicitPollingInterval : Option ℤ
  blockDurationSecs : ℚ
  /-- How deep the calls may nest. -/
  recursionLimit : ℕ

def defaultPollingIntervalSecs : ℤ := 120
def pollsPerWindow : ℚ := 3
def minPollingIntervalSecs : ℤ := 5

def startupSteps : List StartupStep := [.banner, .balance, .faucet]

namespace StartupState

def start (w : StartupSettings) : StartupState where
  initialized := false
  chainId := none
  pollingInterval := w.explicitPollingInterval.getD defaultPollingIntervalSecs
  pollingIntervalDerived := false
  initLock := none
  startupTasks := ∅
  optionalStepsCompleted := ∅
  optionalStepsAttempted := false
  optionalStepsRunning := none
  optionalStepsDone := false
  startupRetryTask := none
  shuttingDown := false
  detached := []
  succeeded := ∅
  early := false
  retriesAtShutdown := none

def setRetry (s : StartupState) (id : ℕ) (f : RetryTask → RetryTask) : StartupState :=
  { s with detached := s.detached.modify id f }

def retryDone (s : StartupState) (id : ℕ) : Bool := s.detached[id]?.all RetryTask.done

/-- The `create_task` of `_spawn_startup_step_retry`. -/
def createRetry (s : StartupState) (caller : Caller) : StartupState :=
  { s with
    startupRetryTask := some s.detached.length
    detached := s.detached ++ [⟨none, false, none, caller⟩] }

end StartupState

section Programs

variable (w : StartupSettings) (me : ℕ)

def exceptException {α : Type} (body handler : Startup α) : Startup α :=
  tryCatch body fun e => if e = .exception then handler else throw e

def holdingInitLock (caller : Caller) (body : Startup Unit) : Startup Unit := do
  Routine.await (.acquire caller) >>= Routine.ofExcept
  Routine.update fun s => { s with initLock := some me }
  Routine.tryFinally body (Routine.update fun s => { s with initLock := none })

/-- `int(window_secs / POLLS_PER_WINDOW)`, between the bounds. -/
def intervalOfWindow (windowBlocks : ℤ) : ℤ :=
  max minPollingIntervalSecs
    (min (truncate (windowBlocks * w.blockDurationSecs / pollsPerWindow)) defaultPollingIntervalSecs)

def derivePollingInterval (caller : Caller) : Startup Unit := do
  let topic ← exceptException (Routine.await (.getTopic caller) >>= Routine.ofExcept) (pure none)
  if w.explicitPollingInterval.isSome then
    Routine.update fun s => { s with pollingIntervalDerived := true }
  else if topic.getD 0 ≤ 0 then
    pure ()
  else
    Routine.update fun s =>
      { s with pollingInterval := intervalOfWindow w (topic.getD 0), pollingIntervalDerived := true }

/-- The first caller. -/
def resolveUninitialized (caller : Caller) : Startup Unit := do
  if (← Routine.state).initialized then
    pure ()
  else
    let chainId ← Routine.await (.raiseForChainIdMismatch caller) >>= Routine.ofExcept
    Routine.update fun s => { s with chainId := some chainId }
    derivePollingInterval w caller
    Routine.update fun s => { s with initialized := true }

/-- A caller that finds the interval still to be derived. -/
def resolveUnderived (caller : Caller) : Startup Unit := do
  if (← Routine.state).pollingIntervalDerived then pure () else derivePollingInterval w caller

def resolveChainEssentials (caller : Caller) : Startup Unit := do
  let s ← Routine.state
  if ¬ s.initialized then
    holdingInitLock me caller (resolveUninitialized w caller)
  else if ¬ s.pollingIntervalDerived then
    holdingInitLock me caller (resolveUnderived w caller)
  else
    pure ()

/-- `_log_balance` and `_maybe_faucet_request` begin with it, `_show_banner` does not. -/
def ensureStepInitialized (callback : Caller → Startup Unit) (step : StartupStep) : Startup Unit := do
  if step = .banner ∨ (← Routine.state).initialized then pure () else callback (.step step)

/-- When a step returns, it has succeeded. -/
def startupStep (callback : Caller → Startup Unit) (caller : Caller) (step : StartupStep) : Startup Unit := do
  ensureStepInitialized callback step
  Routine.await (.work caller step) >>= Routine.ofExcept
  Routine.update fun s => { s with succeeded := insert step s.succeeded }

/-- One turn of the loop. -/
def runStep (callback : Caller → Startup Unit) (caller : Caller) (step : StartupStep) : Startup Unit := do
  if step ∈ (← Routine.state).optionalStepsCompleted then
    pure ()
  else
    let completed ← exceptException (startupStep callback caller step >>= fun _ => pure true) (pure false)
    if completed then
      Routine.update fun s => { s with optionalStepsCompleted := insert step s.optionalStepsCompleted }
    else
      pure ()

def runSteps (callback : Caller → Startup Unit) (caller : Caller) : List StartupStep → Startup Unit
  | [] => pure ()
  | step :: rest => do
    runStep callback caller step
    runSteps callback caller rest

def allCompleted (s : StartupState) : Bool :=
  startupSteps.all fun step => step ∈ s.optionalStepsCompleted

def runStartupSteps (callback : Caller → Startup Unit) (caller : Caller) : Startup Unit := do
  let s ← Routine.state
  if s.optionalStepsDone ∨ s.optionalStepsRunning.isSome then
    pure ()
  else
    Routine.update fun s => { s with optionalStepsRunning := some me }
    Routine.tryFinally (do
        runSteps callback caller startupSteps
        Routine.update fun s => { s with optionalStepsDone := allCompleted s })
      (Routine.update fun s => { s with optionalStepsRunning := none })

def spawnStartupStepRetry (caller : Caller) : Startup Unit := do
  let s ← Routine.state
  if s.shuttingDown then
    pure ()
  else if s.startupRetryTask.any fun id => ¬ s.retryDone id then
    pure ()
  else
    Routine.update fun s => s.createRetry caller

def runStartupStepsOnce (callback : Caller → Startup Unit) (caller : Caller) : Startup Unit := do
  let s ← Routine.state
  if s.optionalStepsDone ∨ s.optionalStepsRunning.isSome then
    pure ()
  else if s.optionalStepsAttempted then
    spawnStartupStepRetry caller
  else
    Routine.update fun s => { s with optionalStepsAttempted := true }
    runStartupSteps me callback caller

/-- Calls nested too deep raise RecursionError. -/
def ensureInitialized : ℕ → Caller → Startup Unit
  | 0, _ => throw .exception
  | limit + 1, caller => do
    let s ← Routine.state
    if me ∈ s.startupTasks then
      pure ()
    else if s.initialized ∧ s.optionalStepsDone ∧ s.pollingIntervalDerived then
      pure ()
    else
      Routine.update fun s => { s with startupTasks := insert me s.startupTasks }
      Routine.tryFinally (do
          resolveChainEssentials w me caller
          runStartupStepsOnce me (ensureInitialized limit) caller)
        (Routine.update fun s => { s with startupTasks := s.startupTasks.erase me })

/-- The detached task. -/
def retryProgram (id : ℕ) : Startup Unit := do
  let begun : Except StartupError Unit ← Routine.await (StartupRequest.starts id)
  match begun with
  | .error e =>
    Routine.update fun s => s.setRetry id fun d => { d with done := true }
    throw e
  | .ok () =>
    Routine.update fun s => s.setRetry id fun d => { d with startedBy := some me }
    Routine.tryFinally (runStartupSteps me (ensureInitialized w me w.recursionLimit) .task)
      (Routine.update fun s => s.setRetry id fun d => { d with done := true })

/-- CancelledError and every Exception of the task are dropped. -/
def cancelRetry (id : ℕ) : Startup Unit := do
  Routine.update fun s => s.setRetry id fun d => { d with cancelledBy := some me }
  let result : Except StartupError Unit ← Routine.await (StartupRequest.ends id)
  match result with
  | .error .systemExit => throw .systemExit
  | _ => pure ()

def stopRetry : Startup Unit := do
  let s ← Routine.state
  match s.startupRetryTask with
  | none => pure ()
  | some id => if s.retryDone id then pure () else cancelRetry me id

/-- `_cleanup`, up to its last use of the retry task. -/
def cleanup : Startup Unit := do
  Routine.update fun s =>
    { s with shuttingDown := true, retriesAtShutdown := some (s.retriesAtShutdown.getD s.detached.length) }
  stopRetry me
  Routine.update fun s => { s with startupRetryTask := none }

/-- `run()`, up to its first `_ensure_initialized`. -/
def run : Startup Unit := do
  Routine.update fun s => { s with shuttingDown := false, retriesAtShutdown := none }
  ensureInitialized w me (w.recursionLimit + 1) .task

/-- A task that calls `_run_startup_steps_once` itself. -/
def enterStartupSteps : Startup Unit := do
  Routine.update fun s => { s with early := s.early || !s.initialized }
  runStartupStepsOnce me (ensureInitialized w me w.recursionLimit) .task

end Programs

/-- The calls, each a task of its own with its number. -/
inductive StartupTask where
  | ensureInitialized (me : ℕ)
  | runStartupStepsOnce (me : ℕ)
  | cleanup (me : ℕ)
  | run (me : ℕ)
  | retry (me id : ℕ)
  deriving DecidableEq

def StartupTask.number : StartupTask → ℕ
  | .ensureInitialized me | .runStartupStepsOnce me | .cleanup me | .run me | .retry me _ => me

def startupRoutine (w : StartupSettings) : StartupTask → Startup Unit
  | .ensureInitialized me => ensureInitialized w me (w.recursionLimit + 1) .task
  | .runStartupStepsOnce me => enterStartupSteps w me
  | .cleanup me => cleanup me
  | .run me => run w me
  | .retry me id => retryProgram w me id

/-- The lock is given to a waiter when it is free; a detached task starts once,
after it was created, and is awaited until it is done. -/
def startupAllows (s : StartupState) : Event StartupRequest StartupReply → Bool
  | ⟨.acquire _, .ok ()⟩ => s.initLock.isNone
  | ⟨.starts id, _⟩ => s.detached[id]?.any fun d => d.startedBy.isNone ∧ ¬ d.done
  | ⟨.ends id, _⟩ => s.retryDone id
  | _ => true

def startupSystem (w : StartupSettings) : System StartupTask StartupState StartupRequest StartupReply where
  program task := (startupRoutine w task).run >>= fun _ => pure ()
  enabled := startupAllows

end AlloraSdk.Source.Worker
