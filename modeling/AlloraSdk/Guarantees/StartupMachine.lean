import AlloraSdk.Source.Worker.StartupOutline

/-!
# The start-up of a worker

In every interleaving of the calls, with every failure and cancellation: the
chain id is checked before the worker counts as initialized, the essentials are
resolved by one task at a time, the steps run in one pass at a time and never
again once they succeeded, and what a pass leaves lets the next caller try what
is missing. Only a task that enters `_run_startup_steps_once` before the worker
is initialized makes a step wait for the lock.
-/

namespace AlloraSdk.Guarantees
open AlloraSdk.Logic AlloraSdk.Source.Worker

abbrev StartupPool := Pool StartupState StartupRequest StartupReply

def Awaits (p : StartupPool) (n : ℕ) (request : StartupRequest) : Prop :=
  p.tasks[n]?.bind Paused.request = some request

/-- Inside the chain-id and polling-interval resolution. -/
def Resolving : StartupRequest → Prop
  | .raiseForChainIdMismatch _ | .getTopic _ => True
  | _ => False

/-- Inside a call that a start-up step makes back. -/
def CalledBack : StartupRequest → Prop
  | .acquire caller | .raiseForChainIdMismatch caller | .getTopic caller | .work caller _ => caller.isStep = true
  | _ => False

/-- Inside a pass over the start-up steps. -/
def RunningSteps : StartupRequest → Prop
  | .work _ _ => True
  | request => CalledBack request

def NoneInside (p : StartupPool) (inside : StartupRequest → Prop) : Prop :=
  ∀ n request, Awaits p n request → ¬ inside request

/-- At most one task is inside. -/
def OneInside (p : StartupPool) (inside : StartupRequest → Prop) : Prop :=
  ∀ n m request request', Awaits p n request → Awaits p m request' → inside request → inside request' → n = m

/-- No `_cleanup` is in progress, and none came last. -/
def OutsideShutdown (p : StartupPool) : Prop :=
  p.state.shuttingDown = false ∧ ∀ n id, ¬ Awaits p n (.ends id)

/-- What a call does up to its first await. -/
def segment (call : Startup Unit) (s : StartupState) : Paused StartupState StartupRequest StartupReply × StartupState :=
  Coroutine.settle (call.run >>= fun _ => pure ()) s

/-- The call begins with a missing step, or leaves them to a detached task that
has yet to start and that nobody cancelled. -/
def AttemptsSteps (s : StartupState) (first : Paused StartupState StartupRequest StartupReply × StartupState) : Prop :=
  (∃ step, step ∉ s.optionalStepsCompleted ∧ first.1.request = some (.work .task step)) ∨
    ∃ (id : ℕ) (d : RetryTask), first.2.startupRetryTask = some id ∧ first.2.detached[id]? = some d ∧
      d.startedBy = none ∧ d.done = false ∧ d.cancelledBy = none

/-- The call waits for the lock, and asks for what is missing when it gets it. -/
def AttemptsEssentials (s : StartupState) (first : Paused StartupState StartupRequest StartupReply × StartupState) :
    Prop :=
  ∃ next, first.1 = .waiting (.acquire .task) next ∧ ∀ t : StartupState,
    (s.initialized = false → t.initialized = false →
      ((next (.ok ())).settle t).1.request = some (.raiseForChainIdMismatch .task)) ∧
    (s.initialized = true → t.pollingIntervalDerived = false →
      ((next (.ok ())).settle t).1.request = some (.getTopic .task))

/-- A later caller attempts what is missing. -/
structure Retries (w : StartupSettings) (p : StartupPool) : Prop where
  released : NoneInside p Resolving → p.state.initLock = none
  cleared : NoneInside p RunningSteps → p.state.optionalStepsRunning = none
  essentials : p.state.initialized = false ∨ p.state.pollingIntervalDerived = false →
    AttemptsEssentials p.state (segment (startupRoutine w (.ensureInitialized p.tasks.length)) p.state)
  /-- With its essentials at hand, a caller goes on to the steps. -/
  reached : p.state.initialized = true → p.state.pollingIntervalDerived = true → NoneInside p RunningSteps →
    p.state.optionalStepsDone = false → OutsideShutdown p →
    AttemptsSteps p.state (segment (startupRoutine w (.ensureInitialized p.tasks.length)) p.state)
  steps : p.state.initialized = true → NoneInside p RunningSteps → p.state.optionalStepsDone = false →
    OutsideShutdown p → ∀ me callback,
      AttemptsSteps p.state (segment (runStartupStepsOnce me callback .task) p.state)
  /-- What a detached task runs. -/
  detached : p.state.initialized = true → NoneInside p RunningSteps → p.state.optionalStepsDone = false →
    ∀ me callback, ∃ step, step ∉ p.state.optionalStepsCompleted ∧
      (segment (runStartupSteps me callback .task) p.state).1.request = some (.work .task step)

structure StartupSound (w : StartupSettings) (p : StartupPool) : Prop where
  checked : p.state.initialized = true → p.state.chainId.isSome = true
  oneResolves : OneInside p Resolving
  onePass : OneInside p RunningSteps
  notAgain : ∀ n caller step, Awaits p n (.work caller step) → step ∉ p.state.succeeded
  noCallBack : p.state.early = false → NoneInside p CalledBack
  noSecondPass : ∀ d ∈ p.state.detached, d.caller = .task
  retries : Retries w p
  frozen : ∀ n, p.state.retriesAtShutdown = some n → p.state.shuttingDown = true ∧ p.state.detached.length = n

section Valid

variable {w : StartupSettings} {p : StartupPool} {n : ℕ} {request : StartupRequest}

abbrev StartupValid (w : StartupSettings) (p : StartupPool) : Prop := startupOutline.Valid (startupSystem w) p

theorem holds_of_awaits (valid : StartupValid w p) (awaits : Awaits p n request) :
    StartupHolds n (some request) p.state := by
  have holds := valid.holds n
  rw [awaits] at holds
  exact holds

theorem locked_of_resolving (valid : StartupValid w p) (awaits : Awaits p n request) (inside : Resolving request) :
    p.state.initLock = some n := by
  have holds := holds_of_awaits valid awaits
  cases request with
  | raiseForChainIdMismatch caller => exact holds.1.locked.mpr rfl
  | getTopic caller => exact holds.1.locked.mpr rfl
  | acquire caller => exact inside.elim
  | work caller step => exact inside.elim
  | starts id => exact inside.elim
  | ends id => exact inside.elim

theorem running_of_inside (valid : StartupValid w p) (awaits : Awaits p n request)
    (inside : RunningSteps request) : p.state.optionalStepsRunning = some n := by
  have holds := holds_of_awaits valid awaits
  cases request with
  | acquire caller => exact holds.1.passing.mpr inside
  | raiseForChainIdMismatch caller => exact holds.1.passing.mpr inside
  | getTopic caller => exact holds.1.passing.mpr inside
  | work caller step => exact holds.1.passing.mpr rfl
  | starts id => exact inside.elim
  | ends id => exact inside.elim

/-- Whoever has the lock is at an await inside it. -/
theorem resolving_of_locked (valid : StartupValid w p) (locked : p.state.initLock = some n) :
    ∃ request, Awaits p n request ∧ Resolving request := by
  have holds := valid.holds n
  cases awaits : p.tasks[n]?.bind Paused.request with
  | none =>
    rw [awaits] at holds
    cases holds.1.locked.mp locked
  | some request =>
    rw [awaits] at holds
    refine ⟨request, awaits, ?_⟩
    cases request with
    | raiseForChainIdMismatch caller => trivial
    | getTopic caller => trivial
    | acquire caller => cases holds.1.locked.mp locked
    | work caller step => cases holds.1.locked.mp locked
    | starts id => cases At.locked holds |>.mp locked
    | ends id => cases At.locked holds |>.mp locked

theorem inside_of_running (valid : StartupValid w p) (running : p.state.optionalStepsRunning = some n) :
    ∃ request, Awaits p n request ∧ RunningSteps request := by
  have holds := valid.holds n
  cases awaits : p.tasks[n]?.bind Paused.request with
  | none =>
    rw [awaits] at holds
    cases holds.1.passing.mp running
  | some request =>
    rw [awaits] at holds
    refine ⟨request, awaits, ?_⟩
    cases request with
    | acquire caller => exact holds.1.passing.mp running
    | raiseForChainIdMismatch caller => exact holds.1.passing.mp running
    | getTopic caller => exact holds.1.passing.mp running
    | work caller step => trivial
    | starts id => cases At.passing holds |>.mp running
    | ends id => cases At.passing holds |>.mp running

/-- Where a task stands that runs a detached task, or cancelled one. -/
theorem at_of_valid (valid : StartupValid w p) (n : ℕ) :
    ∃ holds runs cleaning, At n holds runs cleaning p.state ∧ (runs = true → p.state.optionalStepsRunning = some n) ∧
      ∀ id, cleaning = some id → Awaits p n (.ends id) := by
  have holds := valid.holds n
  cases awaits : p.tasks[n]?.bind Paused.request with
  | none =>
    rw [awaits] at holds
    exact ⟨_, _, _, holds.1, holds.1.passing.mpr, fun _ same => by cases same⟩
  | some request =>
    rw [awaits] at holds
    cases request with
    | acquire caller => exact ⟨_, _, _, holds.1, holds.1.passing.mpr, fun _ same => by cases same⟩
    | raiseForChainIdMismatch caller => exact ⟨_, _, _, holds.1, holds.1.passing.mpr, fun _ same => by cases same⟩
    | getTopic caller => exact ⟨_, _, _, holds.1, holds.1.passing.mpr, fun _ same => by cases same⟩
    | work caller step => exact ⟨_, _, _, holds.1, holds.1.passing.mpr, fun _ same => by cases same⟩
    | starts id => exact ⟨_, _, _, holds, (At.passing holds).mpr, fun _ same => by cases same⟩
    | ends id => exact ⟨_, _, _, holds, (At.passing holds).mpr, fun _ same => Option.some.inj same ▸ awaits⟩

theorem cleared_of_none (valid : StartupValid w p) (idle : NoneInside p RunningSteps) :
    p.state.optionalStepsRunning = none := by
  cases running : p.state.optionalStepsRunning with
  | none => rfl
  | some n =>
    obtain ⟨request, awaits, inside⟩ := inside_of_running valid running
    exact (idle n request awaits inside).elim

theorem released_of_none (valid : StartupValid w p) (idle : NoneInside p Resolving) : p.state.initLock = none := by
  cases locked : p.state.initLock with
  | none => rfl
  | some n =>
    obtain ⟨request, awaits, inside⟩ := resolving_of_locked valid locked
    exact (idle n request awaits inside).elim

/-- A detached task that is not done, outside every pass and shutdown, has yet to start. -/
theorem waiting_of_undone (valid : StartupValid w p) (idle : NoneInside p RunningSteps)
    (outside : OutsideShutdown p) {id : ℕ} {d : RetryTask} (found : p.state.detached[id]? = some d)
    (undone : d.done = false) : d.startedBy = none ∧ d.cancelledBy = none := by
  constructor
  · cases started : d.startedBy with
    | none => rfl
    | some n =>
      obtain ⟨_, runs, _, at_, running, -⟩ := at_of_valid valid n
      have mine := running (at_.retries id ⟨d, found, started, undone⟩)
      rw [cleared_of_none valid idle] at mine
      cases mine
  · cases cancelled : d.cancelledBy with
    | none => rfl
    | some n =>
      obtain ⟨_, _, cleaning, at_, -, awaits⟩ := at_of_valid valid n
      exact (outside.2 n id (awaits id (at_.cleanups id ⟨d, found, cancelled, undone⟩))).elim

end Valid

/-! ## What a later caller does -/

section Segments

variable {w : StartupSettings} {p : StartupPool} {s : StartupState} {me : ℕ} {callback : Caller → Startup Unit}

theorem segment_of_runs {call : Startup Unit} {t : StartupState} {out : Except StartupError Unit}
    (run : Routine.Runs call s [] out t) : segment call s = (.done, t) := by
  refine Coroutine.settle_of_runs (a := ()) (Coroutine.runs_bind.mpr ⟨out, t, [], [], run, ?_, rfl⟩)
  exact Coroutine.runs_ret.mpr ⟨rfl, rfl, rfl⟩

theorem segment_of_firstAwait {call : Startup Unit} {t : StartupState} {request : StartupRequest}
    (awaits : call.run.firstAwait s = some (request, t)) :
    (segment call s).1.request = some request ∧ (segment call s).2 = t :=
  Coroutine.settle_firstAwait (Coroutine.firstAwait_bind awaits)

theorem runStep_awaits {step : StartupStep} (initialized : s.initialized = true)
    (missing : step ∉ s.optionalStepsCompleted) :
    (runStep callback .task step).run.firstAwait s = some (.work .task step, s) := by
  have first : (startupStep callback .task step).run.firstAwait s = some (.work .task step, s) := by
    unfold startupStep ensureStepInitialized
    change Coroutine.firstAwait ((if step = .banner ∨ s.initialized = true then pure ()
      else callback (.step step) : Startup Unit) >>= _).run s = _
    rw [if_pos (.inr initialized)]
    rfl
  unfold runStep
  refine Routine.firstAwait_state.trans ?_
  rw [if_neg missing]
  exact Routine.firstAwait_bind (Routine.firstAwait_tryCatch (Routine.firstAwait_bind first))

theorem runSteps_awaits {steps : List StartupStep} (initialized : s.initialized = true)
    (missing : ∃ step ∈ steps, step ∉ s.optionalStepsCompleted) :
    ∃ step, step ∉ s.optionalStepsCompleted ∧
      (runSteps callback .task steps).run.firstAwait s = some (.work .task step, s) := by
  induction steps with
  | nil =>
    obtain ⟨step, member, -⟩ := missing
    cases member
  | cons head rest ih =>
    by_cases completed : head ∈ s.optionalStepsCompleted
    · have later : ∃ step ∈ rest, step ∉ s.optionalStepsCompleted := by
        obtain ⟨step, member, fresh⟩ := missing
        rcases List.mem_cons.mp member with rfl | member
        · exact (fresh completed).elim
        · exact ⟨step, member, fresh⟩
      obtain ⟨step, fresh, awaits⟩ := ih later
      refine ⟨step, fresh, ?_⟩
      unfold runSteps runStep
      change Coroutine.firstAwait ((if head ∈ s.optionalStepsCompleted then pure () else _ : Startup Unit) >>=
        fun _ => runSteps callback .task rest).run s = _
      rw [if_pos completed]
      exact awaits
    · refine ⟨head, completed, ?_⟩
      unfold runSteps
      exact Routine.firstAwait_bind (runStep_awaits initialized completed)

/-- A pass that begins awaits a missing step. -/
theorem runStartupSteps_awaits (me : ℕ) (callback : Caller → Startup Unit) (initialized : s.initialized = true) (idle : s.optionalStepsRunning = none)
    (undone : s.optionalStepsDone = false) (accounted : s.optionalStepsDone = allCompleted s) :
    ∃ step t, step ∉ s.optionalStepsCompleted ∧
      (runStartupSteps me callback .task).run.firstAwait s = some (.work .task step, t) := by
  have missing : ∃ step ∈ startupSteps, step ∉ s.optionalStepsCompleted := by
    by_contra none
    have all : allCompleted s = true := by
      rw [allCompleted_iff]
      intro step
      by_contra fresh
      exact none ⟨step, by cases step <;> simp [startupSteps], fresh⟩
    rw [accounted, all] at undone
    cases undone
  have free : ¬ (s.optionalStepsDone = true ∨ s.optionalStepsRunning.isSome = true) := by
    simp [undone, idle]
  obtain ⟨step, fresh, awaits⟩ := @runSteps_awaits { s with optionalStepsRunning := some me } callback startupSteps
    initialized missing
  refine ⟨step, { s with optionalStepsRunning := some me }, fresh, ?_⟩
  unfold runStartupSteps
  refine Routine.firstAwait_state.trans ?_
  rw [if_neg free]
  refine Routine.firstAwait_update.trans ?_
  exact Routine.firstAwait_tryFinally (Routine.firstAwait_bind awaits)

/-- What `_run_startup_steps_once` does outside shutdown: it begins the first pass,
or returns and leaves a detached task behind. -/
theorem runStartupStepsOnce_begins (me : ℕ) (callback : Caller → Startup Unit) (initialized : s.initialized = true)
    (idle : s.optionalStepsRunning = none) (undone : s.optionalStepsDone = false)
    (accounted : s.optionalStepsDone = allCompleted s) (open_ : s.shuttingDown = false) :
    (∃ step t, step ∉ s.optionalStepsCompleted ∧
        (runStartupStepsOnce me callback .task).run.firstAwait s = some (.work .task step, t)) ∨
      ∃ (t : StartupState) (id : ℕ) (d : RetryTask),
        Routine.Runs (runStartupStepsOnce me callback .task) s [] (.ok ()) t ∧
        t.startupRetryTask = some id ∧ t.detached[id]? = some d ∧ d.done = false ∧
        (t = s ∨ d.startedBy = none ∧ d.cancelledBy = none) := by
  have free : ¬ (s.optionalStepsDone = true ∨ s.optionalStepsRunning.isSome = true) := by
    simp [undone, idle]
  by_cases attempted : s.optionalStepsAttempted = true
  · right
    unfold runStartupStepsOnce spawnStartupStepRetry
    simp only [Routine.runs_state_bind, if_neg free, if_pos attempted, open_, Bool.false_eq_true, if_false]
    by_cases alive : (s.startupRetryTask.any fun id => decide (¬ s.retryDone id = true)) = true
    · obtain ⟨id, handle, running⟩ := (Option.any_eq_true _ _).mp alive
      have running : s.retryDone id = false := by simpa using running
      obtain ⟨d, found, undone⟩ : ∃ d, s.detached[id]? = some d ∧ d.done = false := by
        unfold StartupState.retryDone at running
        cases found : s.detached[id]? with
        | none =>
          rw [found] at running
          cases running
        | some d =>
          rw [found] at running
          exact ⟨d, rfl, running⟩
      refine ⟨s, id, d, ?_, handle, found, undone, .inl rfl⟩
      rw [if_pos alive]
      exact Routine.runs_pure.mpr ⟨rfl, rfl, rfl⟩
    · refine ⟨s.createRetry .task, s.detached.length, ⟨none, false, none, .task⟩, ?_, rfl, ?_, rfl, .inr ⟨rfl, rfl⟩⟩
      · rw [if_neg alive]
        exact Routine.runs_update.mpr ⟨rfl, rfl, rfl⟩
      · simp [StartupState.createRetry]
  · left
    obtain ⟨step, t, fresh, awaits⟩ := @runStartupSteps_awaits { s with optionalStepsAttempted := true } me callback
      initialized idle undone accounted
    refine ⟨step, t, fresh, ?_⟩
    unfold runStartupStepsOnce
    refine Routine.firstAwait_state.trans ?_
    rw [if_neg free, if_neg attempted]
    exact Routine.firstAwait_update.trans awaits

/-- A call to `_ensure_initialized` that finds the essentials resolved. -/
theorem ensureInitialized_begins (limit : ℕ) (unlisted : me ∉ s.startupTasks) (initialized : s.initialized = true)
    (derived : s.pollingIntervalDerived = true) (undone : s.optionalStepsDone = false) :
    ∃ t : StartupState, t = { s with startupTasks := insert me s.startupTasks } ∧
      (∀ first, (runStartupStepsOnce me (ensureInitialized w me limit) .task).run.firstAwait t = some first →
        (ensureInitialized w me (limit + 1) .task).run.firstAwait s = some first) ∧
      ∀ u, Routine.Runs (runStartupStepsOnce me (ensureInitialized w me limit) .task) t [] (.ok ()) u →
        Routine.Runs (ensureInitialized w me (limit + 1) .task) s [] (.ok ())
          { u with startupTasks := u.startupTasks.erase me } := by
  have incomplete : ¬ (s.initialized = true ∧ s.optionalStepsDone = true ∧ s.pollingIntervalDerived = true) := by
    simp [undone]
  refine ⟨_, rfl, ?_, ?_⟩
  · intro first awaits
    unfold ensureInitialized
    refine Routine.firstAwait_state.trans ?_
    rw [if_neg unlisted, if_neg incomplete]
    refine Routine.firstAwait_update.trans (Routine.firstAwait_tryFinally ?_)
    unfold resolveChainEssentials
    change Coroutine.firstAwait ((if ¬ s.initialized = true then _ else if ¬ s.pollingIntervalDerived = true then _
      else pure () : Startup Unit) >>= _).run _ = _
    rw [if_neg (not_not.mpr initialized), if_neg (not_not.mpr derived)]
    exact Routine.firstAwait_pure.trans awaits
  · intro u run
    unfold ensureInitialized
    refine Routine.runs_state_bind.mpr ?_
    rw [if_neg unlisted, if_neg incomplete]
    refine Routine.runs_update_bind.mpr ?_
    have body : Routine.Runs (resolveChainEssentials w me .task >>= fun _ =>
        runStartupStepsOnce me (ensureInitialized w me limit) .task)
        { s with startupTasks := insert me s.startupTasks } [] (.ok ()) u := by
      have resolved : Routine.Runs (resolveChainEssentials w me .task)
          { s with startupTasks := insert me s.startupTasks } [] (.ok ())
          { s with startupTasks := insert me s.startupTasks } := by
        unfold resolveChainEssentials
        refine Routine.runs_state_bind.mpr ?_
        rw [if_neg (not_not.mpr initialized), if_neg (not_not.mpr derived)]
        exact Routine.runs_pure.mpr ⟨rfl, rfl, rfl⟩
      exact Routine.runs_bind.mpr (.inr ⟨(), _, [], [], resolved, run, rfl⟩)
    exact Routine.runs_tryFinally body (Routine.runs_update.mpr ⟨rfl, rfl, rfl⟩)

/-- It waits for the lock, and when it gets it in a state with `P`, asks the request. -/
def AsksUnderLock {α : Type} (P : StartupState → Prop) (request : StartupRequest) (m : Startup α)
    (s s' : StartupState) : Prop :=
  ∃ next, Coroutine.Waits m.run s (.acquire .task) next s' ∧
    ∀ t, P t → ∃ u, Coroutine.firstAwait (next (.ok ())) t = some (request, u)

variable {P : StartupState → Prop} {request : StartupRequest} {s' : StartupState}

theorem AsksUnderLock.bind {α β : Type} {m : Startup α} (asks : AsksUnderLock P request m s s')
    (f : α → Startup β) : AsksUnderLock P request (m >>= f) s s' := by
  obtain ⟨next, waits, after⟩ := asks
  refine ⟨_, waits.bind _, fun t h => ?_⟩
  obtain ⟨u, awaits⟩ := after t h
  exact ⟨u, Coroutine.firstAwait_bind awaits⟩

theorem AsksUnderLock.tryFinally {m : Startup Unit} (asks : AsksUnderLock P request m s s')
    (last : Startup Unit) : AsksUnderLock P request (m.tryFinally last) s s' := by
  obtain ⟨next, waits, after⟩ := asks
  refine ⟨_, (waits.bind _).bind _, fun t h => ?_⟩
  obtain ⟨u, awaits⟩ := after t h
  exact ⟨u, Coroutine.firstAwait_bind (Coroutine.firstAwait_bind awaits)⟩

theorem holdingInitLock_asks {body : Startup Unit}
    (asks : ∀ t, P t → ∃ u, body.run.firstAwait { t with initLock := some me } = some (request, u)) :
    AsksUnderLock P request (holdingInitLock me .task body) s s := by
  unfold holdingInitLock
  refine ⟨_, Coroutine.Waits.await _ _ s, fun t h => ?_⟩
  obtain ⟨u, awaits⟩ := asks t h
  exact ⟨u, Routine.firstAwait_update.trans (Routine.firstAwait_tryFinally awaits)⟩

theorem resolveUninitialized_asks {t : StartupState} (uninitialized : t.initialized = false) :
    ∃ u, (resolveUninitialized w .task).run.firstAwait t = some (.raiseForChainIdMismatch .task, u) := by
  refine ⟨t, ?_⟩
  unfold resolveUninitialized
  refine Routine.firstAwait_state.trans ?_
  rw [if_neg (by simp [uninitialized])]
  rfl

theorem resolveUnderived_asks {t : StartupState} (underived : t.pollingIntervalDerived = false) :
    ∃ u, (resolveUnderived w .task).run.firstAwait t = some (.getTopic .task, u) := by
  refine ⟨t, ?_⟩
  unfold resolveUnderived
  refine Routine.firstAwait_state.trans ?_
  rw [if_neg (by simp [underived])]
  rfl

/-- A call with something essential missing. -/
theorem ensureInitialized_asks (limit : ℕ) (unlisted : me ∉ s.startupTasks)
    (asks : ∀ t : StartupState, t.initialized = s.initialized →
      t.pollingIntervalDerived = s.pollingIntervalDerived →
      AsksUnderLock P request (resolveChainEssentials w me .task) t t)
    (missing : s.initialized = false ∨ s.pollingIntervalDerived = false) :
    AsksUnderLock P request (ensureInitialized w me (limit + 1) .task) s
      { s with startupTasks := insert me s.startupTasks } := by
  have incomplete : ¬ (s.initialized = true ∧ s.optionalStepsDone = true ∧ s.pollingIntervalDerived = true) := by
    rcases missing with uninitialized | underived
    · simp [uninitialized]
    · simp [underived]
  obtain ⟨next, waits, after⟩ :=
    ((asks { s with startupTasks := insert me s.startupTasks } rfl rfl).bind fun _ =>
      runStartupStepsOnce me (ensureInitialized w me limit) .task).tryFinally
        (Routine.update fun s => { s with startupTasks := s.startupTasks.erase me })
  refine ⟨next, ?_, after⟩
  unfold ensureInitialized
  refine Coroutine.Waits.read ?_
  change Coroutine.Waits (if me ∈ s.startupTasks then pure () else if s.initialized = true ∧
    s.optionalStepsDone = true ∧ s.pollingIntervalDerived = true then pure () else _ : Startup Unit).run _ _ _ _
  rw [if_neg unlisted, if_neg incomplete]
  exact Coroutine.Waits.read (Coroutine.Waits.write waits)

theorem attemptsEssentials (unlisted : me ∉ s.startupTasks)
    (missing : s.initialized = false ∨ s.pollingIntervalDerived = false) :
    AttemptsEssentials s (segment (startupRoutine w (.ensureInitialized me)) s) := by
  have attempts : ∀ {P : StartupState → Prop} {request : StartupRequest},
      AsksUnderLock P request (ensureInitialized w me (w.recursionLimit + 1) .task) s
        { s with startupTasks := insert me s.startupTasks } →
      ∃ next, (segment (startupRoutine w (.ensureInitialized me)) s).1 = .waiting (.acquire .task) next ∧
        ∀ t, P t → ((next (.ok ())).settle t).1.request = some request := by
    rintro P request ⟨next, waits, after⟩
    refine ⟨_, congrArg Prod.fst (waits.bind fun _ => pure ()).settle, fun t h => ?_⟩
    obtain ⟨u, awaits⟩ := after t h
    exact (Coroutine.settle_firstAwait (Coroutine.firstAwait_bind awaits)).1
  cases initialized : s.initialized with
  | false =>
    have asks : ∀ t : StartupState, t.initialized = s.initialized →
        t.pollingIntervalDerived = s.pollingIntervalDerived →
        AsksUnderLock (fun t => t.initialized = false) (.raiseForChainIdMismatch .task)
          (resolveChainEssentials w me .task) t t := by
      intro t same _
      obtain ⟨next, waits, after⟩ := @holdingInitLock_asks t me (fun t => t.initialized = false)
        (.raiseForChainIdMismatch .task) (resolveUninitialized w .task) fun t h => resolveUninitialized_asks h
      refine ⟨next, ?_, after⟩
      unfold resolveChainEssentials
      refine Coroutine.Waits.read ?_
      change Coroutine.Waits (if ¬ t.initialized = true then holdingInitLock me .task (resolveUninitialized w .task)
        else _ : Startup Unit).run _ _ _ _
      rw [if_pos (by rw [same, initialized]; simp)]
      exact waits
    obtain ⟨next, waits, after⟩ := attempts (ensureInitialized_asks w.recursionLimit unlisted asks missing)
    exact ⟨next, waits, fun t => ⟨fun _ => after t, fun other => absurd (other.symm.trans initialized) (by decide)⟩⟩
  | true =>
    have underived : s.pollingIntervalDerived = false := by
      rcases missing with uninitialized | underived
      · rw [initialized] at uninitialized
        cases uninitialized
      · exact underived
    have asks : ∀ t : StartupState, t.initialized = s.initialized →
        t.pollingIntervalDerived = s.pollingIntervalDerived →
        AsksUnderLock (fun t => t.pollingIntervalDerived = false) (.getTopic .task)
          (resolveChainEssentials w me .task) t t := by
      intro t same same'
      obtain ⟨next, waits, after⟩ := @holdingInitLock_asks t me (fun t => t.pollingIntervalDerived = false)
        (.getTopic .task) (resolveUnderived w .task) fun t h => resolveUnderived_asks h
      refine ⟨next, ?_, after⟩
      unfold resolveChainEssentials
      refine Coroutine.Waits.read ?_
      change Coroutine.Waits (if ¬ t.initialized = true then _ else if ¬ t.pollingIntervalDerived = true then
        holdingInitLock me .task (resolveUnderived w .task) else _ : Startup Unit).run _ _ _ _
      rw [if_neg (by rw [same, initialized]; simp), if_pos (by rw [same', underived]; simp)]
      exact waits
    obtain ⟨next, waits, after⟩ := attempts (ensureInitialized_asks w.recursionLimit unlisted asks missing)
    exact ⟨next, waits, fun t => ⟨fun other => absurd (other.symm.trans initialized) (by decide), fun _ => after t⟩⟩

end Segments

section Reachable

variable {w : StartupSettings} {p : StartupPool}

/-- The next task is not listed. -/
theorem next_unlisted (valid : StartupValid w p) : p.tasks.length ∉ p.state.startupTasks := by
  have holds := valid.holds p.tasks.length
  rw [List.getElem?_eq_none le_rfl] at holds
  exact holds.2

/-- The task of a handle that is not done has yet to start. -/
theorem waiting_handle (valid : StartupValid w p) (idle : NoneInside p RunningSteps) (outside : OutsideShutdown p)
    {t : StartupState} {id : ℕ} {d : RetryTask} (found : t.detached[id]? = some d) (undone : d.done = false)
    (known : t = p.state ∨ d.startedBy = none ∧ d.cancelledBy = none) :
    d.startedBy = none ∧ d.cancelledBy = none := by
  rcases known with rfl | new
  · exact waiting_of_undone valid idle outside found undone
  · exact new

theorem attemptsSteps (valid : StartupValid w p) (initialized : p.state.initialized = true)
    (idle : NoneInside p RunningSteps) (undone : p.state.optionalStepsDone = false)
    (outside : OutsideShutdown p) (me : ℕ) (callback : Caller → Startup Unit) :
    AttemptsSteps p.state (segment (runStartupStepsOnce me callback .task) p.state) := by
  have running := cleared_of_none valid idle
  rcases runStartupStepsOnce_begins me callback initialized running undone (valid.inv.accounted running)
    outside.1 with ⟨step, t, fresh, awaits⟩ | ⟨t, id, d, run, handle, found, alive, known⟩
  · exact .inl ⟨step, fresh, (segment_of_firstAwait awaits).1⟩
  · obtain ⟨unstarted, uncancelled⟩ := waiting_handle valid idle outside found alive known
    rw [segment_of_runs run]
    exact .inr ⟨id, d, handle, found, unstarted, alive, uncancelled⟩

theorem reachesSteps (valid : StartupValid w p) (initialized : p.state.initialized = true)
    (derived : p.state.pollingIntervalDerived = true) (idle : NoneInside p RunningSteps)
    (undone : p.state.optionalStepsDone = false) (outside : OutsideShutdown p) :
    AttemptsSteps p.state (segment (startupRoutine w (.ensureInitialized p.tasks.length)) p.state) := by
  have running := cleared_of_none valid idle
  have unlisted := next_unlisted valid
  obtain ⟨s, listed, onAwait, onReturn⟩ :=
    ensureInitialized_begins w.recursionLimit unlisted initialized derived undone
  have accounted := valid.inv.accounted running
  have begins := @runStartupStepsOnce_begins s p.tasks.length (ensureInitialized w p.tasks.length w.recursionLimit)
  subst listed
  rcases begins initialized running undone accounted outside.1 with
    ⟨step, t, fresh, awaits⟩ | ⟨t, id, d, run, handle, found, alive, known⟩
  · exact .inl ⟨step, fresh, (segment_of_firstAwait (onAwait _ awaits)).1⟩
  · have known' : { t with startupTasks := p.state.startupTasks } = p.state ∨
        d.startedBy = none ∧ d.cancelledBy = none := by
      rcases known with rfl | new
      · exact .inl rfl
      · exact .inr new
    obtain ⟨unstarted, uncancelled⟩ :=
      @waiting_handle w p valid idle outside { t with startupTasks := p.state.startupTasks } id d found alive known'
    refine .inr ⟨id, d, ?_⟩
    have ended := segment_of_runs (onReturn t run)
    change segment (startupRoutine w (.ensureInitialized p.tasks.length)) p.state = _ at ended
    rw [ended]
    exact ⟨handle, found, unstarted, alive, uncancelled⟩

theorem retries_of_valid (valid : StartupValid w p) : Retries w p where
  released := released_of_none valid
  cleared := cleared_of_none valid
  essentials := attemptsEssentials (next_unlisted valid)
  reached := reachesSteps valid
  steps := attemptsSteps valid
  detached := by
    intro initialized idle undone me callback
    have running := cleared_of_none valid idle
    obtain ⟨step, t, fresh, awaits⟩ :=
      runStartupSteps_awaits me callback initialized running undone (valid.inv.accounted running)
    exact ⟨step, fresh, (segment_of_firstAwait awaits).1⟩

theorem called_early (valid : StartupValid w p) {n : ℕ} {request : StartupRequest} (awaits : Awaits p n request)
    (calledBack : CalledBack request) : p.state.early = true := by
  have holds := holds_of_awaits valid awaits
  have deep : ∀ caller : Caller, caller.isStep = true → Deep caller p.state → p.state.early = true := by
    intro caller isStep deep
    cases caller with
    | task => cases isStep
    | step step => exact (deep step rfl).1
  cases request with
  | acquire caller => exact deep caller calledBack holds.2
  | raiseForChainIdMismatch caller => exact deep caller calledBack holds.2
  | getTopic caller => exact deep caller calledBack holds.2
  | work caller step =>
    obtain ⟨-, rfl, -⟩ := holds
    cases calledBack
  | starts id => exact calledBack.elim
  | ends id => exact calledBack.elim

end Reachable

/-- The start-up machine is sound in every state that the calls reach. -/
theorem startup_sound {w : StartupSettings} {p : StartupPool}
    {moves : List (Move StartupTask StartupRequest StartupReply)}
    (path : Path (guarded (Outline.Numbered StartupTask.number) (startupSystem w).Step)
      (.start (StartupState.start w)) moves p) : StartupSound w p := by
  have coherent : Coherent (StartupState.start w) := by
    constructor <;> simp [StartupState.start, allCompleted, startupSteps]
  have idle : ∀ n, StartupHolds n none (StartupState.start w) := by
    intro n
    refine ⟨?_, by simp [StartupState.start]⟩
    constructor <;> simp [StartupState.start, Alive]
  have valid : StartupValid w p := Outline.Valid.reachable (startupSystem_proves w) coherent idle path
  constructor
  · exact valid.inv.checked
  · intro n m request request' awaits awaits' inside inside'
    have first := locked_of_resolving valid awaits inside
    have second := locked_of_resolving valid awaits' inside'
    exact Option.some.inj (first.symm.trans second)
  · intro n m request request' awaits awaits' inside inside'
    have first := running_of_inside valid awaits inside
    have second := running_of_inside valid awaits' inside'
    exact Option.some.inj (first.symm.trans second)
  · intro n caller step awaits member
    obtain ⟨-, -, covered, missing⟩ := holds_of_awaits valid awaits
    exact missing (covered member)
  · intro early n request awaits calledBack
    rw [called_early valid awaits calledBack] at early
    cases early
  · exact valid.inv.origin
  · exact retries_of_valid valid
  · exact valid.inv.frozen

/-! ## A cancelled pass, and a pass that begins too early -/

abbrev StartupMove := Move StartupTask StartupRequest StartupReply

def numbersTasks (snapshot : Snapshot StartupState StartupRequest) : StartupMove → Bool
  | .spawn task => task.number == snapshot.waits.length
  | .resume _ _ => true

theorem numbered_path {w : StartupSettings} {p p' : StartupPool} {moves : List StartupMove}
    (path : Path (guarded (fun p move => numbersTasks p.snapshot move = true) (startupSystem w).Step) p moves p') :
    Path (guarded (Outline.Numbered StartupTask.number) (startupSystem w).Step) p moves p' := by
  refine path.mono ?_
  rintro q move q' ⟨numbers, step⟩
  refine ⟨?_, step⟩
  cases move with
  | spawn task => simpa [numbersTasks, Pool.snapshot, Outline.Numbered] using numbers
  | resume index event => trivial

theorem awaits_of_waits {p : StartupPool} {waits : List (Option StartupRequest)} {n : ℕ}
    {request : StartupRequest} (same : p.tasks.map Paused.request = waits)
    (found : waits[n]? = some (some request)) : Awaits p n request := by
  rw [← same, List.getElem?_map] at found
  obtain ⟨task, there, awaits⟩ := Option.map_eq_some_iff.mp found
  unfold Awaits
  rw [there]
  exact awaits

def plainStartup : StartupSettings := ⟨none, 5, 100⟩

/-- The balance query fails and the faucet is cancelled; the next caller leaves the
two to a detached task, which `_cleanup` then cancels. -/
def cancelledFaucet : List StartupMove :=
  [.spawn (.ensureInitialized 0), .resume 0 ⟨.acquire .task, .ok ()⟩,
    .resume 0 ⟨.raiseForChainIdMismatch .task, .ok "allora-testnet-1"⟩,
    .resume 0 ⟨.getTopic .task, .ok (some 60)⟩, .resume 0 ⟨.work .task .banner, .ok ()⟩,
    .resume 0 ⟨.work .task .balance, .error .exception⟩, .resume 0 ⟨.work .task .faucet, .error .cancelled⟩,
    .spawn (.ensureInitialized 1), .spawn (.retry 2 0), .resume 2 ⟨.starts 0, .ok ()⟩, .spawn (.cleanup 3)]

theorem startup_sound_cancelled :
    ∃ p, Path (guarded (Outline.Numbered StartupTask.number) (startupSystem plainStartup).Step)
        (.start (StartupState.start plainStartup)) cancelledFaucet p ∧
      Awaits p 2 (.work .task .balance) ∧ Awaits p 3 (.ends 0) ∧ StartupSound plainStartup p := by
  obtain ⟨p, path, waits⟩ := (startupSystem plainStartup).reaches_of_run numbersTasks
    (.start (StartupState.start plainStartup)) cancelledFaucet
    (fun snapshot => snapshot.waits = [none, none, some (.work .task .balance), some (.ends 0)]) (by decide +kernel)
  have numbered := numbered_path path
  have same := of_decide_eq_true waits
  exact ⟨p, numbered, awaits_of_waits same rfl, awaits_of_waits same rfl, startup_sound numbered⟩

/-- `_run_startup_steps_once` while another task checks the chain id. -/
def earlySteps : List StartupMove :=
  [.spawn (.ensureInitialized 0), .resume 0 ⟨.acquire .task, .ok ()⟩, .spawn (.runStartupStepsOnce 1),
    .resume 1 ⟨.work .task .banner, .ok ()⟩]

/-- The step calls back and waits for the lock that the other task holds. -/
theorem step_waits_for_lock :
    ∃ p, Path (guarded (Outline.Numbered StartupTask.number) (startupSystem plainStartup).Step)
        (.start (StartupState.start plainStartup)) earlySteps p ∧
      Awaits p 0 (.raiseForChainIdMismatch .task) ∧ ¬ NoneInside p CalledBack := by
  obtain ⟨p, path, waits⟩ := (startupSystem plainStartup).reaches_of_run numbersTasks
    (.start (StartupState.start plainStartup)) earlySteps
    (fun snapshot => snapshot.waits = [some (.raiseForChainIdMismatch .task), some (.acquire (.step .balance))])
    (by decide +kernel)
  have same := of_decide_eq_true waits
  refine ⟨p, numbered_path path, awaits_of_waits same rfl, fun none => ?_⟩
  exact none 1 _ (awaits_of_waits same rfl) rfl

end AlloraSdk.Guarantees
