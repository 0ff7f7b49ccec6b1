import AlloraSdk.Source.Worker.Startup

/-!
# What each start-up task relies on

The lock and the running flag are set by one task at a time, which is then at an
await inside them; the flag is cleared, and the lock released, however that await
ends.
-/

namespace AlloraSdk.Source.Worker
open AlloraSdk.Logic

/-- Detached task `id` is not done, and `n` is the task that `who` names. -/
def Alive (who : RetryTask → Option ℕ) (n id : ℕ) (s : StartupState) : Prop :=
  ∃ d, s.detached[id]? = some d ∧ who d = some n ∧ d.done = false

/-- What holds of the flags between any two steps. -/
structure Coherent (s : StartupState) : Prop where
  checked : s.initialized = true → s.chainId.isSome = true
  resolved : s.optionalStepsAttempted = true → s.early = true ∨ s.initialized = true
  retried : s.detached ≠ [] → s.optionalStepsAttempted = true
  passing : s.optionalStepsRunning.isSome = true → s.optionalStepsAttempted = true
  settled : s.optionalStepsRunning = none → s.succeeded ⊆ s.optionalStepsCompleted
  accounted : s.optionalStepsRunning = none → s.optionalStepsDone = allCompleted s
  frozen : ∀ n, s.retriesAtShutdown = some n → s.shuttingDown = true ∧ s.detached.length = n
  origin : ∀ d ∈ s.detached, d.caller = .task

/-- The task has, or has not, the lock and the running flag, and awaits the
detached task that it cancelled. -/
structure At (n : ℕ) (holds runs : Bool) (cleaning : Option ℕ) (s : StartupState) : Prop where
  locked : s.initLock = some n ↔ holds = true
  passing : s.optionalStepsRunning = some n ↔ runs = true
  retries : ∀ id, Alive RetryTask.startedBy n id s → runs = true
  cleanups : ∀ id, Alive RetryTask.cancelledBy n id s → cleaning = some id

/-- A step has called back. -/
def Deep (caller : Caller) (s : StartupState) : Prop :=
  ∀ step, caller = .step step →
    s.early = true ∧ s.succeeded ⊆ s.optionalStepsCompleted ∧ step ∉ s.optionalStepsCompleted

def StartupHolds (n : ℕ) : Option StartupRequest → StartupState → Prop
  | none, s => At n false false none s ∧ n ∉ s.startupTasks
  | some (.acquire caller), s => At n false caller.isStep none s ∧ Deep caller s
  | some (.raiseForChainIdMismatch caller), s => At n true caller.isStep none s ∧ Deep caller s
  | some (.getTopic caller), s => At n true caller.isStep none s ∧ Deep caller s
  | some (.work caller step), s => At n false true none s ∧ caller = .task ∧
      s.succeeded ⊆ s.optionalStepsCompleted ∧ step ∉ s.optionalStepsCompleted
  | some (.starts _), s => At n false false none s
  | some (.ends id), s => At n false false (some id) s

/-- What task `n` has to itself is as it was. -/
structure View (n : ℕ) (s t : StartupState) : Prop where
  tasks : n ∈ t.startupTasks ↔ n ∈ s.startupTasks
  lock : t.initLock = some n ↔ s.initLock = some n
  running : t.optionalStepsRunning = some n ↔ s.optionalStepsRunning = some n
  initialized : s.initialized = true → t.initialized = true
  chainId : s.chainId.isSome = true → t.chainId.isSome = true
  early : s.early = true → t.early = true
  started : ∀ id, Alive RetryTask.startedBy n id t → Alive RetryTask.startedBy n id s
  cancelled : ∀ id, Alive RetryTask.cancelledBy n id t → Alive RetryTask.cancelledBy n id s

/-- And so are the steps, if it is running them. -/
structure Relied (n : ℕ) (s t : StartupState) : Prop extends View n s t where
  steps : s.optionalStepsRunning = some n → t.succeeded = s.succeeded ∧
    t.optionalStepsCompleted = s.optionalStepsCompleted ∧ t.optionalStepsDone = s.optionalStepsDone

section Relations

variable {n : ℕ} {s t u : StartupState} {holds runs : Bool} {cleaning : Option ℕ}

theorem View.refl (n : ℕ) (s : StartupState) : View n s s where
  tasks := Iff.rfl
  lock := Iff.rfl
  running := Iff.rfl
  initialized := id
  chainId := id
  early := id
  started := fun _ => id
  cancelled := fun _ => id

theorem View.trans (first : View n s t) (second : View n t u) : View n s u where
  tasks := second.tasks.trans first.tasks
  lock := second.lock.trans first.lock
  running := second.running.trans first.running
  initialized := fun h => second.initialized (first.initialized h)
  chainId := fun h => second.chainId (first.chainId h)
  early := fun h => second.early (first.early h)
  started := fun id alive => first.started id (second.started id alive)
  cancelled := fun id alive => first.cancelled id (second.cancelled id alive)

theorem Relied.refl (n : ℕ) (s : StartupState) : Relied n s s where
  toView := .refl n s
  steps := fun _ => ⟨rfl, rfl, rfl⟩

theorem Relied.trans (first : Relied n s t) (second : Relied n t u) : Relied n s u where
  toView := first.toView.trans second.toView
  steps := by
    intro running
    obtain ⟨succeeded, completed, done⟩ := first.steps running
    obtain ⟨succeeded', completed', done'⟩ := second.steps (first.running.mpr running)
    exact ⟨succeeded'.trans succeeded, completed'.trans completed, done'.trans done⟩

theorem At.view (h : At n holds runs cleaning s) (view : View n s t) : At n holds runs cleaning t where
  locked := view.lock.trans h.locked
  passing := view.running.trans h.passing
  retries := fun id alive => h.retries id (view.started id alive)
  cleanups := fun id alive => h.cleanups id (view.cancelled id alive)

theorem Deep.relied {caller : Caller} (h : Deep caller s) (at_ : At n holds caller.isStep cleaning s)
    (relied : Relied n s t) : Deep caller t := by
  rintro step rfl
  obtain ⟨early, covered, missing⟩ := h step rfl
  obtain ⟨succeeded, completed, -⟩ := relied.steps (at_.passing.mpr rfl)
  rw [succeeded, completed]
  exact ⟨relied.early early, covered, missing⟩

theorem StartupHolds.stable {request : Option StartupRequest} (h : StartupHolds n request s)
    (relied : Relied n s t) : StartupHolds n request t := by
  cases request with
  | none => exact ⟨h.1.view relied.toView, fun member => h.2 (relied.tasks.mp member)⟩
  | some request =>
    cases request with
    | acquire caller => exact ⟨h.1.view relied.toView, h.2.relied h.1 relied⟩
    | raiseForChainIdMismatch caller => exact ⟨h.1.view relied.toView, h.2.relied h.1 relied⟩
    | getTopic caller => exact ⟨h.1.view relied.toView, h.2.relied h.1 relied⟩
    | work caller step =>
      obtain ⟨at_, task, covered, missing⟩ := h
      obtain ⟨succeeded, completed, -⟩ := relied.steps (at_.passing.mpr rfl)
      refine ⟨at_.view relied.toView, task, ?_⟩
      rw [succeeded, completed]
      exact ⟨covered, missing⟩
    | starts id => exact h.view relied.toView
    | ends id => exact h.view relied.toView

end Relations

def startupOutline : Outline StartupState StartupRequest where
  inv := Coherent
  holds := StartupHolds
  rely := Relied
  refl := .refl
  trans := fun _ _ _ _ => .trans
  stable := fun _ _ _ _ => .stable

abbrev StartupProved {α : Type} (me : ℕ) (post : Except StartupError α → StartupState → Prop) (m : Startup α)
    (s : StartupState) : Prop :=
  Routine.Proved startupOutline startupAllows me post m s

/-! ## The essentials -/

section Essentials

variable (w : StartupSettings) {me : ℕ} {caller : Caller} {s t u : StartupState}

/-- A write to nothing that a task has to itself. -/
theorem updates {f : StartupState → StartupState} {post : Except StartupError Unit → StartupState → Prop}
    (coherent : Coherent (f s)) (relied : ∀ n, Relied n s (f s)) (h : post (.ok ()) (f s)) :
    StartupProved me post (Routine.update f) s :=
  Routine.Proved.update ⟨coherent, fun n _ => relied n⟩ h

theorem derivePollingInterval_proved (at_ : At me true caller.isStep none s) (deep : Deep caller s) :
    StartupProved me (fun _ t => Coherent t ∧ Relied me s t) (derivePollingInterval w caller) s := by
  have asked : StartupProved me (fun _ t => Coherent t ∧ Relied me s t)
      (Routine.await (.getTopic caller) >>= Routine.ofExcept) s :=
    Routine.Proved.demand ⟨at_, deep⟩ fun _ _ coherent relied _ => ⟨coherent, relied⟩
  have topic : StartupProved me (fun _ t => Coherent t ∧ Relied me s t)
      (exceptException (Routine.await (.getTopic caller) >>= Routine.ofExcept) (pure none)) s := by
    refine Routine.Proved.tryCatch asked (fun _ _ h => h) ?_
    intro e t h
    split
    · exact Routine.Proved.pure h
    · exact Routine.Proved.throw h
  unfold derivePollingInterval
  refine Routine.Proved.bind topic (fun _ _ h => h) ?_
  rintro window t ⟨coherent, relied⟩
  have derived : ∀ n interval, Relied n t { t with pollingInterval := interval, pollingIntervalDerived := true } :=
    fun _ _ => ⟨⟨Iff.rfl, Iff.rfl, Iff.rfl, id, id, id, fun _ => id, fun _ => id⟩, fun _ => ⟨rfl, rfl, rfl⟩⟩
  split
  · apply updates
    · exact { coherent with }
    · exact fun n => derived n _
    · exact ⟨{ coherent with }, relied.trans (derived me _)⟩
  · split
    · exact Routine.Proved.pure ⟨coherent, relied⟩
    · apply updates
      · exact { coherent with }
      · exact fun n => derived n _
      · exact ⟨{ coherent with }, relied.trans (derived me _)⟩

/-- Who returns from it finds the worker initialized. -/
def Resolves (me : ℕ) (s : StartupState) (outcome : Except StartupError Unit) (t : StartupState) : Prop :=
  Coherent t ∧ Relied me s t ∧ (outcome = .ok () → t.initialized = true)

theorem resolveUninitialized_proved (coherent : Coherent s) (at_ : At me true caller.isStep none s)
    (deep : Deep caller s) : StartupProved me (Resolves me s) (resolveUninitialized w caller) s := by
  unfold resolveUninitialized
  apply Routine.Proved.stateBind
  by_cases initialized : s.initialized = true
  · rw [if_pos initialized]
    exact Routine.Proved.pure ⟨coherent, .refl me s, fun _ => initialized⟩
  rw [if_neg initialized]
  have checked : StartupProved me (fun _ t => Coherent t ∧ Relied me s t)
      (Routine.await (.raiseForChainIdMismatch caller) >>= Routine.ofExcept) s :=
    Routine.Proved.demand ⟨at_, deep⟩ fun _ _ coherent relied _ => ⟨coherent, relied⟩
  refine Routine.Proved.bind checked ?_ ?_
  · rintro e t ⟨coherent, relied⟩
    exact ⟨coherent, relied, fun same => by cases same⟩
  rintro chainId t ⟨coherent, relied⟩
  have remembered : ∀ n, Relied n t { t with chainId := some chainId } :=
    fun _ => ⟨⟨Iff.rfl, Iff.rfl, Iff.rfl, id, fun _ => rfl, id, fun _ => id, fun _ => id⟩, fun _ => ⟨rfl, rfl, rfl⟩⟩
  have since := relied.trans (remembered me)
  refine Routine.Proved.updateBind ⟨{ coherent with checked := fun _ => rfl }, fun n _ => remembered n⟩ ?_
  have derived := derivePollingInterval_proved w (at_.view since.toView) (deep.relied at_ since)
  refine Routine.Proved.bind derived ?_ ?_
  · rintro e u ⟨coherent, relied⟩
    exact ⟨coherent, since.trans relied, fun same => by cases same⟩
  rintro _ u ⟨coherent, relied⟩
  have ready : ∀ n, Relied n u { u with initialized := true } :=
    fun _ => ⟨⟨Iff.rfl, Iff.rfl, Iff.rfl, fun _ => rfl, id, id, fun _ => id, fun _ => id⟩, fun _ => ⟨rfl, rfl, rfl⟩⟩
  have known : Coherent { u with initialized := true } :=
    { coherent with
      checked := fun _ => relied.chainId rfl
      resolved := fun _ => .inr rfl }
  exact updates known ready ⟨known, since.trans (relied.trans (ready me)), fun _ => rfl⟩

theorem resolveUnderived_proved (coherent : Coherent s) (at_ : At me true caller.isStep none s)
    (deep : Deep caller s) (initialized : s.initialized = true) :
    StartupProved me (Resolves me s) (resolveUnderived w caller) s := by
  unfold resolveUnderived
  apply Routine.Proved.stateBind
  split
  · exact Routine.Proved.pure ⟨coherent, .refl me s, fun _ => initialized⟩
  · refine Coroutine.Proved.mono (derivePollingInterval_proved w at_ deep) ?_
    rintro outcome t ⟨coherent, relied⟩
    exact ⟨coherent, relied, fun _ => relied.initialized initialized⟩

theorem lock_harmless (coherent : Coherent s) (free : s.initLock = none) :
    startupOutline.Harmless me s { s with initLock := some me } where
  inv := { coherent with }
  others := fun n other =>
    { View.refl n s with
      lock := by simp [free, other.symm]
      steps := fun _ => ⟨rfl, rfl, rfl⟩ }

theorem unlock_harmless (coherent : Coherent s) (own : s.initLock = some me) :
    startupOutline.Harmless me s { s with initLock := none } where
  inv := { coherent with }
  others := fun n other =>
    { View.refl n s with
      lock := by simp [own, other.symm]
      steps := fun _ => ⟨rfl, rfl, rfl⟩ }

/-- What the task did while it had the lock, seen without it. -/
theorem Relied.throughLock (inside : Relied me { s with initLock := some me } t)
    (unlocked : s.initLock ≠ some me) : Relied me s { t with initLock := none } :=
  { inside with lock := by simp [unlocked] }

/-- The lock is taken when it is free, and released however the body ends. -/
theorem holdingInitLock_proved {body : Startup Unit} (at_ : At me false caller.isStep none s)
    (deep : Deep caller s)
    (inside : ∀ t, Coherent t → At me true caller.isStep none t → Deep caller t →
      (s.initialized = true → t.initialized = true) → StartupProved me (Resolves me t) body t) :
    StartupProved me (Resolves me s) (holdingInitLock me caller body) s := by
  have unlocked : s.initLock ≠ some me := fun same => by cases at_.locked.mp same
  unfold holdingInitLock
  have acquired : StartupProved me (fun result t => Coherent t ∧ Relied me s t ∧
      (result = .ok () → t.initLock = none)) (Routine.await (.acquire caller) >>= Routine.ofExcept) s := by
    refine Routine.Proved.demand ⟨at_, deep⟩ ?_
    intro reply t coherent relied allowed
    refine ⟨coherent, relied, ?_⟩
    rintro rfl
    exact Option.isNone_iff_eq_none.mp allowed
  refine Routine.Proved.bind acquired ?_ ?_
  · rintro e t ⟨coherent, relied, -⟩
    exact ⟨coherent, relied, fun same => by cases same⟩
  rintro _ t ⟨coherent, relied, free⟩
  have locked := free rfl
  have before := at_.view relied.toView
  have deeper := deep.relied at_ relied
  refine Routine.Proved.updateBind (lock_harmless coherent locked) ?_
  have holder : At me true caller.isStep none { t with initLock := some me } :=
    { before with locked := by simp }
  have within := inside { t with initLock := some me } { coherent with } holder deeper relied.initialized
  refine Routine.Proved.tryFinally within ?_
  rintro outcome u ⟨coherent, kept, resolves⟩
  have own : u.initLock = some me := kept.lock.mpr rfl
  have free' : t.initLock ≠ some me := fun same => by cases before.locked.mp same
  exact Routine.Proved.update (unlock_harmless coherent own)
    ⟨rfl, { coherent with }, relied.trans (kept.throughLock free'), resolves⟩

theorem resolveChainEssentials_proved (coherent : Coherent s) (at_ : At me false caller.isStep none s)
    (deep : Deep caller s) : StartupProved me (Resolves me s) (resolveChainEssentials w me caller) s := by
  unfold resolveChainEssentials
  apply Routine.Proved.stateBind
  split
  · exact holdingInitLock_proved at_ deep fun t coherent holder deep _ =>
      resolveUninitialized_proved w coherent holder deep
  · rename_i initialized
    have initialized : s.initialized = true := by simpa using initialized
    split
    · exact holdingInitLock_proved at_ deep fun t coherent holder deep later =>
        resolveUnderived_proved w coherent holder deep (later initialized)
    · exact Routine.Proved.pure ⟨coherent, .refl me s, fun _ => initialized⟩

end Essentials

/-! ## The start-up steps -/

section Steps

variable (w : StartupSettings) {me : ℕ} {caller : Caller} {s t u : StartupState} {step : StartupStep}
  {callback : Caller → Startup Unit}

/-- Inside a pass. -/
structure InPass (me : ℕ) (s : StartupState) : Prop where
  coherent : Coherent s
  at_ : At me false true none s
  covered : s.succeeded ⊆ s.optionalStepsCompleted
  undone : s.optionalStepsDone = false

theorem InPass.relied (h : InPass me s) (relied : Relied me s t) (coherent : Coherent t) : InPass me t := by
  obtain ⟨succeeded, completed, done⟩ := relied.steps (h.at_.passing.mpr rfl)
  refine ⟨coherent, h.at_.view relied.toView, ?_, done.trans h.undone⟩
  rw [succeeded, completed]
  exact h.covered

theorem InPass.running (h : InPass me s) : s.optionalStepsRunning = some me := h.at_.passing.mpr rfl

/-- A call back from a step of an initialized worker does not happen; in every
other pass it disturbs nothing. -/
def CallsBack (me : ℕ) (callback : Caller → Startup Unit) : Prop :=
  ∀ (step : StartupStep) (s : StartupState), InPass me s → step ∉ s.optionalStepsCompleted → s.early = true →
    StartupProved me (fun _ t => Coherent t ∧ Relied me s t) (callback (.step step)) s

/-- Only the running task writes what the steps are about. -/
theorem pass_harmless (coherent : Coherent t) (running : s.optionalStepsRunning = some me)
    (view : ∀ n, View n s t) : startupOutline.Harmless me s t where
  inv := coherent
  others := fun n other =>
    { view n with
      steps := by
        intro runs
        rw [running] at runs
        exact (other (Option.some.inj runs).symm).elim }

/-- What a step leaves: all it may have changed is that it has succeeded. -/
structure StepEnds (me : ℕ) (step : StartupStep) (s : StartupState) (ok : Bool) (t : StartupState) : Prop where
  coherent : Coherent t
  view : View me s t
  covered : t.succeeded ⊆ if ok then insert step t.optionalStepsCompleted else t.optionalStepsCompleted
  completed : t.optionalStepsCompleted = s.optionalStepsCompleted
  undone : t.optionalStepsDone = false

theorem startupStep_proved (calls : CallsBack me callback) (h : InPass me s)
    (missing : step ∉ s.optionalStepsCompleted) :
    StartupProved me (fun outcome t => StepEnds me step s outcome.isOk t) (startupStep callback .task step) s := by
  unfold startupStep
  have called : StartupProved me (fun _ t => Coherent t ∧ Relied me s t) (ensureStepInitialized callback step) s := by
    unfold ensureStepInitialized
    apply Routine.Proved.stateBind
    split
    · exact Routine.Proved.pure ⟨h.coherent, .refl me s⟩
    · rename_i uninitialized
      have attempted := h.coherent.passing (by rw [h.running]; rfl)
      rcases h.coherent.resolved attempted with early | initialized
      · exact calls step s h missing early
      · exact (uninitialized (.inr initialized)).elim
  refine Routine.Proved.bind called ?_ ?_
  · rintro e t ⟨coherent, relied⟩
    have now := h.relied relied coherent
    obtain ⟨-, completed, -⟩ := relied.steps h.running
    exact ⟨coherent, relied.toView, now.covered, completed, now.undone⟩
  rintro _ t ⟨coherent, relied⟩
  have now := h.relied relied coherent
  obtain ⟨-, completed, -⟩ := relied.steps h.running
  have worked : StartupProved me (fun _ u => Coherent u ∧ Relied me t u)
      (Routine.await (.work .task step) >>= Routine.ofExcept) t := by
    refine Routine.Proved.demand ⟨now.at_, rfl, now.covered, ?_⟩ fun _ _ coherent relied _ => ⟨coherent, relied⟩
    rw [completed]
    exact missing
  refine Routine.Proved.bind worked ?_ ?_
  · rintro e u ⟨coherent, kept⟩
    have last := now.relied kept coherent
    obtain ⟨-, completed', -⟩ := kept.steps now.running
    exact ⟨coherent, relied.toView.trans kept.toView, last.covered, completed'.trans completed, last.undone⟩
  rintro _ u ⟨coherent, kept⟩
  have last := now.relied kept coherent
  obtain ⟨-, completed', -⟩ := kept.steps now.running
  have records : Coherent { u with succeeded := insert step u.succeeded } :=
    { coherent with
      settled := fun none => by rw [show u.optionalStepsRunning = some me from last.running] at none; cases none }
  refine Routine.Proved.update (pass_harmless records last.running fun n => { View.refl n u with }) ?_
  refine ⟨records, (relied.toView.trans kept.toView).trans { View.refl me u with }, ?_,
    completed'.trans completed, last.undone⟩
  exact Finset.insert_subset_insert step last.covered

/-- What a pass leaves, up to the flags it sets at its end: if it raised, some
step is still missing. -/
structure PassEnds (me : ℕ) (s : StartupState) (outcome : Except StartupError Unit) (t : StartupState) : Prop where
  pass : InPass me t
  view : View me s t
  missing : outcome ≠ .ok () → ∃ step, step ∉ t.optionalStepsCompleted

theorem runStep_proved (calls : CallsBack me callback) (h : InPass me s) :
    StartupProved me (PassEnds me s) (runStep callback .task step) s := by
  unfold runStep
  apply Routine.Proved.stateBind
  by_cases member : step ∈ s.optionalStepsCompleted
  · rw [if_pos member]
    exact Routine.Proved.pure ⟨h, .refl me s, fun raised => absurd rfl raised⟩
  rw [if_neg member]
  have stepped : StartupProved me (fun outcome t => StepEnds me step s outcome.isOk t ∧
      (outcome.isOk = true → outcome = .ok true)) (startupStep callback .task step >>= fun _ => pure true) s := by
    refine Routine.Proved.bind (startupStep_proved calls h member) ?_ ?_
    · intro e t ends
      exact ⟨ends, fun ok => by cases ok⟩
    · intro _ t ends
      exact Routine.Proved.pure ⟨ends, fun _ => rfl⟩
  have caught : StartupProved me (fun outcome t => match outcome with
      | .ok completed => StepEnds me step s completed t
      | .error _ => StepEnds me step s false t)
      (exceptException (startupStep callback .task step >>= fun _ => pure true) (pure false)) s := by
    refine Routine.Proved.tryCatch stepped ?_ ?_
    · rintro completed t ⟨ends, returned⟩
      obtain ⟨⟩ := returned rfl
      exact ends
    · rintro e t ⟨ends, -⟩
      split
      · exact Routine.Proved.pure ends
      · exact Routine.Proved.throw ends
  have inside : ∀ t, StepEnds me step s false t → InPass me t := fun t ends =>
    ⟨ends.coherent, h.at_.view ends.view, ends.covered, ends.undone⟩
  refine Routine.Proved.bind caught ?_ ?_
  · intro e t ends
    refine ⟨inside t ends, ends.view, fun _ => ⟨step, ?_⟩⟩
    rw [ends.completed]
    exact member
  intro completed t ends
  cases completed with
  | false => exact Routine.Proved.pure ⟨inside t ends, ends.view, fun raised => absurd rfl raised⟩
  | true =>
    have running := (h.at_.view ends.view).passing.mpr rfl
    have records : Coherent { t with optionalStepsCompleted := insert step t.optionalStepsCompleted } :=
      { ends.coherent with
        settled := fun none => by rw [show t.optionalStepsRunning = some me from running] at none; cases none
        accounted := fun none => by rw [show t.optionalStepsRunning = some me from running] at none; cases none }
    have view : ∀ n, View n t { t with optionalStepsCompleted := insert step t.optionalStepsCompleted } :=
      fun n => { View.refl n t with }
    have through := ends.view.trans (view me)
    exact Routine.Proved.update (pass_harmless records running view)
      ⟨⟨records, h.at_.view through, ends.covered, ends.undone⟩, through, fun raised => absurd rfl raised⟩

theorem runSteps_proved (calls : CallsBack me callback) {steps : List StartupStep} (h : InPass me s) :
    StartupProved me (PassEnds me s) (runSteps callback .task steps) s := by
  induction steps generalizing s with
  | nil => exact Routine.Proved.pure ⟨h, .refl me s, fun raised => absurd rfl raised⟩
  | cons step rest ih =>
    unfold runSteps
    refine Routine.Proved.bind (runStep_proved calls h) ?_ ?_
    · intro e t ends
      exact ⟨ends.pass, ends.view, fun _ => ends.missing (by simp)⟩
    · intro _ t ends
      refine Coroutine.Proved.mono (ih ends.pass) ?_
      intro outcome u later
      exact ⟨later.pass, ends.view.trans later.view, later.missing⟩

theorem allCompleted_iff : allCompleted s = true ↔ ∀ step, step ∈ s.optionalStepsCompleted := by
  simp only [allCompleted, startupSteps, List.all_cons, List.all_nil, Bool.and_true, Bool.and_eq_true,
    decide_eq_true_eq]
  constructor
  · rintro ⟨banner, balance, faucet⟩ step
    cases step with
    | banner => exact banner
    | balance => exact balance
    | faucet => exact faucet
  · intro all
    exact ⟨all _, all _, all _⟩

/-- A pass just before it clears the running flag. -/
structure PassDone (me : ℕ) (s t : StartupState) : Prop where
  coherent : Coherent t
  view : View me s t
  covered : t.succeeded ⊆ t.optionalStepsCompleted
  accounted : t.optionalStepsDone = allCompleted t

theorem passBody_proved (calls : CallsBack me callback) (h : InPass me s) :
    StartupProved me (fun _ => PassDone me s) (do
      runSteps callback .task startupSteps
      Routine.update fun s => { s with optionalStepsDone := allCompleted s }) s := by
  refine Routine.Proved.bind (runSteps_proved calls h) ?_ ?_
  · intro e t ends
    obtain ⟨step, missing⟩ := ends.missing (by simp)
    have incomplete : allCompleted t = false := by
      rw [Bool.eq_false_iff]
      exact fun all => missing (allCompleted_iff.mp all step)
    exact ⟨ends.pass.coherent, ends.view, ends.pass.covered, ends.pass.undone.trans incomplete.symm⟩
  · intro _ t ends
    have counted : Coherent { t with optionalStepsDone := allCompleted t } :=
      { ends.pass.coherent with
        accounted := fun none => by rw [show t.optionalStepsRunning = some me from ends.pass.running] at none; cases none }
    have view : ∀ n, View n t { t with optionalStepsDone := allCompleted t } := fun n => { View.refl n t with }
    exact Routine.Proved.update (pass_harmless counted ends.pass.running view)
      ⟨counted, ends.view.trans (view me), ends.pass.covered, rfl⟩

theorem PassDone.clears (done : PassDone me { s with optionalStepsRunning := some me } t)
    (free : s.optionalStepsRunning = none) :
    startupOutline.Harmless me t { t with optionalStepsRunning := none } ∧
      Coherent { t with optionalStepsRunning := none } ∧ Relied me s { t with optionalStepsRunning := none } := by
  have running : t.optionalStepsRunning = some me := done.view.running.mpr rfl
  have coherent : Coherent { t with optionalStepsRunning := none } :=
    { done.coherent with
      passing := fun some => by cases some
      settled := fun _ => done.covered
      accounted := fun _ => done.accounted }
  refine ⟨⟨coherent, fun n other => ?_⟩, coherent, ?_⟩
  · exact { View.refl n t with
      running := by simp [running, other.symm]
      steps := fun _ => ⟨rfl, rfl, rfl⟩ }
  · exact { done.view with
      running := by simp [free]
      steps := fun mine => by rw [free] at mine; cases mine }

/-- A pass takes the flag when nobody has it, and gives it back however it ends. -/
theorem runStartupSteps_proved (calls : CallsBack me callback) (coherent : Coherent s)
    (unlocked : s.initLock ≠ some me) (attempted : s.optionalStepsAttempted = true)
    (cleaned : ∀ id, ¬ Alive RetryTask.cancelledBy me id s) :
    StartupProved me (fun _ t => Coherent t ∧ Relied me s t) (runStartupSteps me callback .task) s := by
  unfold runStartupSteps
  apply Routine.Proved.stateBind
  by_cases busy : s.optionalStepsDone = true ∨ s.optionalStepsRunning.isSome = true
  · rw [if_pos busy]
    exact Routine.Proved.pure ⟨coherent, .refl me s⟩
  rw [if_neg busy]
  obtain ⟨undone, free⟩ := not_or.mp busy
  have undone : s.optionalStepsDone = false := by simpa using undone
  have free : s.optionalStepsRunning = none := by simpa using free
  have runs : Coherent { s with optionalStepsRunning := some me } :=
    { coherent with
      passing := fun _ => attempted
      settled := fun none => by cases none
      accounted := fun none => by cases none }
  have starts : startupOutline.Harmless me s { s with optionalStepsRunning := some me } :=
    ⟨runs, fun n other =>
      { View.refl n s with
        running := by simp [free, other.symm]
        steps := fun _ => ⟨rfl, rfl, rfl⟩ }⟩
  have inside : InPass me { s with optionalStepsRunning := some me } :=
    { coherent := runs
      at_ :=
        { locked := iff_of_false unlocked (by simp)
          passing := by simp
          retries := fun _ _ => rfl
          cleanups := fun id alive => (cleaned id alive).elim }
      covered := coherent.settled free
      undone := undone }
  refine Routine.Proved.updateBind starts ?_
  refine Routine.Proved.tryFinally (passBody_proved calls inside) ?_
  intro outcome t done
  obtain ⟨harmless, coherent, relied⟩ := done.clears free
  exact Routine.Proved.update harmless ⟨rfl, coherent, relied⟩

theorem spawnStartupStepRetry_proved (coherent : Coherent s) (attempted : s.optionalStepsAttempted = true) :
    StartupProved me (fun _ t => Coherent t ∧ Relied me s t) (spawnStartupStepRetry .task) s := by
  unfold spawnStartupStepRetry
  apply Routine.Proved.stateBind
  split
  · exact Routine.Proved.pure ⟨coherent, .refl me s⟩
  rename_i open_
  split
  · exact Routine.Proved.pure ⟨coherent, .refl me s⟩
  have created : Coherent (s.createRetry .task) :=
    { coherent with
      retried := fun _ => attempted
      frozen := fun n noted => (open_ (coherent.frozen n noted).1).elim
      origin := by
        intro d member
        rcases List.mem_append.mp member with old | new
        · exact coherent.origin d old
        · obtain rfl := List.mem_singleton.mp new
          rfl }
  have unnamed : ∀ (who : RetryTask → Option ℕ) (n id : ℕ), who ⟨none, false, none, .task⟩ = none →
      Alive who n id (s.createRetry .task) → Alive who n id s := by
    rintro who n id unnamed ⟨d, found, named, undone⟩
    simp only [StartupState.createRetry, List.getElem?_append] at found
    split at found
    · exact ⟨d, found, named, undone⟩
    · obtain rfl := List.mem_singleton.mp (List.mem_of_getElem? found)
      rw [unnamed] at named
      cases named
  have relied : ∀ n, Relied n s (s.createRetry .task) := fun n =>
    { View.refl n s with
      started := fun id => unnamed _ n id rfl
      cancelled := fun id => unnamed _ n id rfl
      steps := fun _ => ⟨rfl, rfl, rfl⟩ }
  exact updates created relied ⟨created, relied me⟩

theorem runStartupStepsOnce_proved (calls : CallsBack me callback) (coherent : Coherent s)
    (at_ : At me false false none s) (resolved : s.early = true ∨ s.initialized = true) :
    StartupProved me (fun _ t => Coherent t ∧ Relied me s t) (runStartupStepsOnce me callback .task) s := by
  have unlocked : s.initLock ≠ some me := fun same => by cases at_.locked.mp same
  have cleaned : ∀ id, ¬ Alive RetryTask.cancelledBy me id s := fun id alive => by cases at_.cleanups id alive
  unfold runStartupStepsOnce
  apply Routine.Proved.stateBind
  split
  · exact Routine.Proved.pure ⟨coherent, .refl me s⟩
  split
  · rename_i attempted
    exact spawnStartupStepRetry_proved coherent attempted
  have attempts : Coherent { s with optionalStepsAttempted := true } :=
    { coherent with
      resolved := fun _ => resolved
      retried := fun _ => rfl
      passing := fun _ => rfl }
  have same : ∀ n, Relied n s { s with optionalStepsAttempted := true } := fun n =>
    { View.refl n s with steps := fun _ => ⟨rfl, rfl, rfl⟩ }
  refine Routine.Proved.updateBind ⟨attempts, fun n _ => same n⟩ ?_
  refine Coroutine.Proved.mono (runStartupSteps_proved calls attempts unlocked rfl cleaned) ?_
  rintro outcome t ⟨coherent, relied⟩
  exact ⟨coherent, (same me).trans relied⟩

end Steps

/-! ## The calls -/

section Calls

variable (w : StartupSettings) {me limit : ℕ} {caller : Caller} {s t u : StartupState}

theorem enlist_relied (n : ℕ) (other : n ≠ me) :
    Relied n s { s with startupTasks := insert me s.startupTasks } :=
  { View.refl n s with
    tasks := by simp [other]
    steps := fun _ => ⟨rfl, rfl, rfl⟩ }

theorem discard_relied (n : ℕ) (other : n ≠ me) :
    Relied n s { s with startupTasks := s.startupTasks.erase me } :=
  { View.refl n s with
    tasks := by simp [other]
    steps := fun _ => ⟨rfl, rfl, rfl⟩ }

/-- What the task did while it was listed. -/
theorem Relied.throughList (inside : Relied me { s with startupTasks := insert me s.startupTasks } t)
    (unlisted : me ∉ s.startupTasks) : Relied me s { t with startupTasks := t.startupTasks.erase me } :=
  { inside with tasks := by simp [unlisted] }

/-- The `try … finally` of `_ensure_initialized`. -/
theorem listed_proved {body : Startup Unit} (coherent : Coherent s) (unlisted : me ∉ s.startupTasks)
    (inside : StartupProved me
      (fun _ t => Coherent t ∧ Relied me { s with startupTasks := insert me s.startupTasks } t) body
      { s with startupTasks := insert me s.startupTasks }) :
    StartupProved me (fun _ t => Coherent t ∧ Relied me s t) (do
      Routine.update fun s => { s with startupTasks := insert me s.startupTasks }
      Routine.tryFinally body
        (Routine.update fun s => { s with startupTasks := s.startupTasks.erase me })) s := by
  refine Routine.Proved.updateBind ⟨{ coherent with }, enlist_relied⟩ ?_
  refine Routine.Proved.tryFinally inside ?_
  rintro outcome t ⟨coherent, relied⟩
  exact Routine.Proved.update ⟨{ coherent with }, discard_relied⟩
    ⟨rfl, { coherent with }, relied.throughList unlisted⟩

/-- A call back finds the pass running, so it starts no other. -/
theorem ensureInitialized_callsBack : CallsBack me (ensureInitialized w me limit) := by
  intro step s h missing early
  cases limit with
  | zero => exact Routine.Proved.throw ⟨h.coherent, .refl me s⟩
  | succ limit =>
    unfold ensureInitialized
    apply Routine.Proved.stateBind
    split
    · exact Routine.Proved.pure ⟨h.coherent, .refl me s⟩
    rename_i unlisted
    split
    · exact Routine.Proved.pure ⟨h.coherent, .refl me s⟩
    refine listed_proved h.coherent unlisted ?_
    have deep : Deep (.step step) s := by
      rintro _ ⟨⟩
      exact ⟨early, h.covered, missing⟩
    have essentials : StartupProved me (Resolves me { s with startupTasks := insert me s.startupTasks })
        (resolveChainEssentials w me (.step step)) { s with startupTasks := insert me s.startupTasks } :=
      resolveChainEssentials_proved w { h.coherent with } { h.at_ with } deep
    refine Routine.Proved.bind essentials ?_ ?_
    · rintro e t ⟨coherent, relied, -⟩
      exact ⟨coherent, relied⟩
    rintro _ t ⟨coherent, relied, -⟩
    have running : t.optionalStepsRunning = some me := relied.running.mpr h.running
    unfold runStartupStepsOnce
    apply Routine.Proved.stateBind
    rw [if_pos (.inr (by rw [running]; rfl))]
    exact Routine.Proved.pure ⟨coherent, relied⟩

theorem ensureInitialized_proved (coherent : Coherent s) (at_ : At me false false none s) :
    StartupProved me (fun _ t => Coherent t ∧ Relied me s t) (ensureInitialized w me limit .task) s := by
  cases limit with
  | zero => exact Routine.Proved.throw ⟨coherent, .refl me s⟩
  | succ limit =>
    unfold ensureInitialized
    apply Routine.Proved.stateBind
    split
    · exact Routine.Proved.pure ⟨coherent, .refl me s⟩
    rename_i unlisted
    split
    · exact Routine.Proved.pure ⟨coherent, .refl me s⟩
    refine listed_proved coherent unlisted ?_
    have shallow : ∀ s, Deep .task s := fun s step same => by cases same
    have essentials : StartupProved me (Resolves me { s with startupTasks := insert me s.startupTasks })
        (resolveChainEssentials w me .task) { s with startupTasks := insert me s.startupTasks } :=
      resolveChainEssentials_proved w { coherent with } { at_ with } (shallow _)
    refine Routine.Proved.bind essentials ?_ ?_
    · rintro e t ⟨coherent, relied, -⟩
      exact ⟨coherent, relied⟩
    rintro _ t ⟨coherent, relied, resolved⟩
    have outside : At me false false none { s with startupTasks := insert me s.startupTasks } := { at_ with }
    refine Coroutine.Proved.mono (runStartupStepsOnce_proved (ensureInitialized_callsBack w) coherent
      (outside.view relied.toView) (.inr (resolved rfl))) ?_
    rintro outcome u ⟨coherent, later⟩
    exact ⟨coherent, relied.trans later⟩

theorem enterStartupSteps_proved (coherent : Coherent s) (at_ : At me false false none s) :
    StartupProved me (fun _ t => Coherent t ∧ Relied me s t) (enterStartupSteps w me) s := by
  have marks : Coherent { s with early := s.early || !s.initialized } :=
    { coherent with
      resolved := by
        intro attempted
        rcases coherent.resolved attempted with early | initialized
        · exact .inl (by simp [early])
        · exact .inr initialized }
  have same : ∀ n, Relied n s { s with early := s.early || !s.initialized } := fun n =>
    { View.refl n s with
      early := fun early => by simp [early]
      steps := fun _ => ⟨rfl, rfl, rfl⟩ }
  unfold enterStartupSteps
  refine Routine.Proved.updateBind ⟨marks, fun n _ => same n⟩ ?_
  have resolved : (s.early || !s.initialized) = true ∨ s.initialized = true := by
    cases s.initialized <;> simp
  refine Coroutine.Proved.mono (runStartupStepsOnce_proved (ensureInitialized_callsBack w) marks
    (at_.view (same me).toView) resolved) ?_
  rintro outcome t ⟨coherent, relied⟩
  exact ⟨coherent, (same me).trans relied⟩

theorem run_proved (coherent : Coherent s) (at_ : At me false false none s) :
    StartupProved me (fun _ t => Coherent t ∧ Relied me s t) (run w me) s := by
  have opened : Coherent { s with shuttingDown := false, retriesAtShutdown := none } :=
    { coherent with frozen := fun n noted => by cases noted }
  have same : ∀ n, Relied n s { s with shuttingDown := false, retriesAtShutdown := none } := fun n =>
    { View.refl n s with steps := fun _ => ⟨rfl, rfl, rfl⟩ }
  unfold run
  refine Routine.Proved.updateBind ⟨opened, fun n _ => same n⟩ ?_
  refine Coroutine.Proved.mono (ensureInitialized_proved w opened (at_.view (same me).toView)) ?_
  rintro outcome t ⟨coherent, relied⟩
  exact ⟨coherent, (same me).trans relied⟩

end Calls

/-! ## Detached tasks and `_cleanup` -/

section Detached

variable (w : StartupSettings) {me id : ℕ} {s t u : StartupState} {f : RetryTask → RetryTask}

theorem setRetry_getElem? (other : ℕ) :
    (s.setRetry id f).detached[other]? = if id = other then s.detached[other]?.map f else s.detached[other]? := by
  simp only [StartupState.setRetry, List.getElem?_modify]
  split <;> simp

/-- What a task is to the detached ones, after one of them changed. -/
theorem alive_of_setRetry {who : RetryTask → Option ℕ} {n other : ℕ}
    (same : ∀ d : RetryTask, who (f d) = some n → (f d).done = false → who d = some n ∧ d.done = false)
    (alive : Alive who n other (s.setRetry id f)) : Alive who n other s := by
  obtain ⟨d, found, named, undone⟩ := alive
  rw [setRetry_getElem?] at found
  split at found
  · obtain ⟨d', there, rfl⟩ := Option.map_eq_some_iff.mp found
    obtain ⟨named', undone'⟩ := same d' named undone
    exact ⟨d', there, named', undone'⟩
  · exact ⟨d, found, named, undone⟩

theorem Coherent.setRetry (coherent : Coherent s) (kept : ∀ d : RetryTask, (f d).caller = d.caller) :
    Coherent (s.setRetry id f) where
  checked := coherent.checked
  resolved := coherent.resolved
  retried := by
    intro some
    refine coherent.retried fun none => some ?_
    simp [StartupState.setRetry, none]
  passing := coherent.passing
  settled := coherent.settled
  accounted := coherent.accounted
  frozen := by
    intro n noted
    obtain ⟨shutting, length⟩ := coherent.frozen n noted
    exact ⟨shutting, by rw [← length]; simp [StartupState.setRetry]⟩
  origin := by
    intro d member
    obtain ⟨other, found⟩ := List.getElem?_of_mem member
    rw [setRetry_getElem?] at found
    split at found
    · obtain ⟨d', there, rfl⟩ := Option.map_eq_some_iff.mp found
      rw [kept]
      exact coherent.origin d' (List.mem_of_getElem? there)
    · exact coherent.origin d (List.mem_of_getElem? found)

theorem relied_setRetry {n : ℕ}
    (started : ∀ d : RetryTask, (f d).startedBy = some n → (f d).done = false →
      d.startedBy = some n ∧ d.done = false)
    (cancelled : ∀ d : RetryTask, (f d).cancelledBy = some n → (f d).done = false →
      d.cancelledBy = some n ∧ d.done = false) : Relied n s (s.setRetry id f) :=
  { View.refl n s with
    started := fun _ alive => alive_of_setRetry started alive
    cancelled := fun _ alive => alive_of_setRetry cancelled alive
    steps := fun _ => ⟨rfl, rfl, rfl⟩ }

/-- A detached task that is done is nobody's any more. -/
theorem relied_done (n : ℕ) : Relied n s (s.setRetry id fun d => { d with done := true }) :=
  relied_setRetry (fun _ _ undone => by cases undone) (fun _ _ undone => by cases undone)

theorem not_alive_done {who : RetryTask → Option ℕ} {n : ℕ} :
    ¬ Alive who n id (s.setRetry id fun d => { d with done := true }) := by
  rintro ⟨d, found, -, undone⟩
  rw [setRetry_getElem?, if_pos rfl] at found
  obtain ⟨d', -, rfl⟩ := Option.map_eq_some_iff.mp found
  cases undone

/-- The detached task from its first segment on. -/
theorem startedRetry_proved (coherent : Coherent s) (at_ : At me false false none s)
    (unlisted : me ∉ s.startupTasks) (created : s.detached ≠ []) :
    StartupProved me (fun _ => StartupHolds me none) (do
      Routine.update fun s => s.setRetry id fun d => { d with startedBy := some me }
      Routine.tryFinally (runStartupSteps me (ensureInitialized w me w.recursionLimit) .task)
        (Routine.update fun s => s.setRetry id fun d => { d with done := true })) s := by
  have marked : Coherent (s.setRetry id fun d => { d with startedBy := some me }) := coherent.setRetry fun _ => rfl
  have cancels : ∀ n other, Alive RetryTask.cancelledBy n other (s.setRetry id fun d => { d with startedBy := some me }) →
      Alive RetryTask.cancelledBy n other s := fun _ _ => alive_of_setRetry fun _ named undone => ⟨named, undone⟩
  have mine : ∀ other, Alive RetryTask.startedBy me other (s.setRetry id fun d => { d with startedBy := some me }) →
      other = id := by
    rintro other ⟨d, found, named, undone⟩
    rw [setRetry_getElem?] at found
    by_contra different
    rw [if_neg (Ne.symm different)] at found
    cases at_.retries other ⟨d, found, named, undone⟩
  have others : ∀ n, n ≠ me → Relied n s (s.setRetry id fun d => { d with startedBy := some me }) := fun n other =>
    relied_setRetry (fun d named undone => absurd (Option.some.inj named).symm other)
      (fun d named undone => ⟨named, undone⟩)
  have unlocked : s.initLock ≠ some me := fun same => by cases at_.locked.mp same
  refine Routine.Proved.updateBind ⟨marked, others⟩ ?_
  have pass : StartupProved me
      (fun _ t => Coherent t ∧ Relied me (s.setRetry id fun d => { d with startedBy := some me }) t)
      (runStartupSteps me (ensureInitialized w me w.recursionLimit) .task)
      (s.setRetry id fun d => { d with startedBy := some me }) :=
    runStartupSteps_proved (ensureInitialized_callsBack w) marked unlocked (coherent.retried created)
      fun other alive => by cases at_.cleanups other (cancels me other alive)
  refine Routine.Proved.tryFinally pass ?_
  rintro outcome t ⟨coherent, relied⟩
  have ended : ∀ n, Relied n t (t.setRetry id fun d => { d with done := true }) := relied_done
  refine Routine.Proved.update ⟨coherent.setRetry fun _ => rfl, fun n _ => ended n⟩ ⟨rfl, ?_, ?_⟩
  · exact
      { locked := (ended me).lock.trans (relied.lock.trans at_.locked)
        passing := (ended me).running.trans (relied.running.trans at_.passing)
        retries := by
          intro other alive
          obtain rfl := mine other (relied.started other ((ended me).started other alive))
          exact (not_alive_done alive).elim
        cleanups := fun other alive =>
          at_.cleanups other (cancels me other (relied.cancelled other ((ended me).cancelled other alive))) }
  · exact fun member => unlisted (relied.tasks.mp ((ended me).tasks.mp member))

theorem retryProgram_proved (at_ : At me false false none s) (unlisted : me ∉ s.startupTasks) :
    StartupProved me (fun _ => StartupHolds me none) (retryProgram w me id) s := by
  unfold retryProgram
  have waits : StartupProved me (fun result t => (∃ reply, result = .ok reply) ∧ Coherent t ∧ Relied me s t ∧
      ∃ d, t.detached[id]? = some d ∧ d.startedBy = none) (Routine.await (StartupRequest.starts id)) s := by
    refine Routine.Proved.await at_ fun reply t coherent relied allowed => ⟨⟨reply, rfl⟩, coherent, relied, ?_⟩
    obtain ⟨d, found, waiting⟩ := (Option.any_eq_true _ _).mp allowed
    refine ⟨d, found, ?_⟩
    have both : d.startedBy = none ∧ d.done = false := by simpa using waiting
    exact both.1
  refine Routine.Proved.bind waits ?_ ?_
  · rintro e t ⟨⟨reply, same⟩, -⟩
    cases same
  rintro begun t ⟨-, coherent, relied, d, found, unstarted⟩
  have before := at_.view relied.toView
  have absent : me ∉ t.startupTasks := fun member => unlisted (relied.tasks.mp member)
  cases begun with
  | error e =>
    have ended : Relied me t (t.setRetry id fun d => { d with done := true }) := relied_done me
    refine Routine.Proved.updateBind ⟨coherent.setRetry fun _ => rfl, fun n _ => relied_done n⟩ ?_
    exact Routine.Proved.throw ⟨before.view ended.toView, fun member => absent (ended.tasks.mp member)⟩
  | ok begun =>
    have created : t.detached ≠ [] := fun none => by rw [none] at found; cases found
    exact startedRetry_proved w coherent before absent created

/-- `_cleanup` awaits the task it cancelled until it is done. -/
theorem cancelRetry_proved (coherent : Coherent s) (at_ : At me false false none s)
    (unlisted : me ∉ s.startupTasks) :
    StartupProved me (fun _ t => Coherent t ∧ StartupHolds me none t) (cancelRetry me id) s := by
  have marked : Coherent (s.setRetry id fun d => { d with cancelledBy := some me }) := coherent.setRetry fun _ => rfl
  have others : ∀ n, n ≠ me → Relied n s (s.setRetry id fun d => { d with cancelledBy := some me }) := fun n other =>
    relied_setRetry (fun d named undone => ⟨named, undone⟩)
      (fun d named undone => absurd (Option.some.inj named).symm other)
  have starts : ∀ other, Alive RetryTask.startedBy me other (s.setRetry id fun d => { d with cancelledBy := some me }) →
      Alive RetryTask.startedBy me other s := fun _ => alive_of_setRetry fun _ named undone => ⟨named, undone⟩
  have waiting : At me false false (some id) (s.setRetry id fun d => { d with cancelledBy := some me }) :=
    { locked := at_.locked
      passing := at_.passing
      retries := fun other alive => at_.retries other (starts other alive)
      cleanups := by
        rintro other ⟨d, found, named, undone⟩
        rw [setRetry_getElem?] at found
        by_cases same : id = other
        · rw [same]
        · rw [if_neg same] at found
          cases at_.cleanups other ⟨d, found, named, undone⟩ }
  unfold cancelRetry
  refine Routine.Proved.updateBind ⟨marked, others⟩ ?_
  have ended : StartupProved me (fun result t => (∃ reply, result = .ok reply) ∧ Coherent t ∧ StartupHolds me none t)
      (Routine.await (StartupRequest.ends id)) (s.setRetry id fun d => { d with cancelledBy := some me }) := by
    refine Routine.Proved.await waiting fun reply t coherent relied allowed => ⟨⟨reply, rfl⟩, coherent, ?_, ?_⟩
    · have still := waiting.view relied.toView
      refine { still with cleanups := ?_ }
      rintro other alive
      obtain rfl := Option.some.inj (still.cleanups other alive)
      obtain ⟨d, found, -, undone⟩ := alive
      have done : d.done = true := by
        have all : t.retryDone id = true := allowed
        simpa [StartupState.retryDone, found] using all
      rw [undone] at done
      cases done
    · exact fun member => unlisted (relied.tasks.mp member)
  refine Routine.Proved.bind ended ?_ ?_
  · rintro e t ⟨⟨reply, same⟩, -⟩
    cases same
  rintro result t ⟨-, coherent, rests⟩
  split
  · exact Routine.Proved.throw ⟨coherent, rests⟩
  · exact Routine.Proved.pure ⟨coherent, rests⟩

theorem cleanup_proved (coherent : Coherent s) (rests : StartupHolds me none s) :
    StartupProved me (fun _ => StartupHolds me none) (cleanup me) s := by
  have shuts : Coherent { s with
      shuttingDown := true, retriesAtShutdown := some (s.retriesAtShutdown.getD s.detached.length) } :=
    { coherent with
      frozen := by
        intro n noted
        refine ⟨rfl, ?_⟩
        obtain rfl := Option.some.inj noted
        cases before : s.retriesAtShutdown with
        | none => rfl
        | some n => exact (coherent.frozen n before).2 }
  have same : ∀ n, Relied n s { s with
      shuttingDown := true, retriesAtShutdown := some (s.retriesAtShutdown.getD s.detached.length) } := fun n =>
    { View.refl n s with steps := fun _ => ⟨rfl, rfl, rfl⟩ }
  have rests' := rests.stable (same me)
  unfold cleanup
  refine Routine.Proved.updateBind ⟨shuts, fun n _ => same n⟩ ?_
  have stopped : StartupProved me (fun _ t => Coherent t ∧ StartupHolds me none t) (stopRetry me)
      { s with
        shuttingDown := true, retriesAtShutdown := some (s.retriesAtShutdown.getD s.detached.length) } := by
    unfold stopRetry
    apply Routine.Proved.stateBind
    split
    · exact Routine.Proved.pure ⟨shuts, rests'⟩
    split
    · exact Routine.Proved.pure ⟨shuts, rests'⟩
    · exact cancelRetry_proved shuts rests'.1 rests'.2
  refine Routine.Proved.bind stopped (fun _ _ ends => ends.2) ?_
  rintro _ t ⟨coherent, rests⟩
  have same : ∀ n, Relied n t { t with startupRetryTask := none } := fun n =>
    { View.refl n t with steps := fun _ => ⟨rfl, rfl, rfl⟩ }
  exact updates { coherent with } same (rests.stable (same me))

/-- Every call keeps to the outline. -/
theorem startupSystem_proves : startupOutline.Proves (startupSystem w) StartupTask.number := by
  intro task s coherent rests
  have ends : ∀ {m : Startup Unit}, StartupProved task.number (fun _ t => Coherent t ∧ Relied task.number s t) m s →
      StartupProved task.number (fun _ => StartupHolds task.number none) m s := fun proved =>
    Coroutine.Proved.mono proved fun _ t after => StartupHolds.stable rests after.2
  have routine : StartupProved task.number (fun _ => StartupHolds task.number none) (startupRoutine w task) s := by
    cases task with
    | ensureInitialized me => exact ends (ensureInitialized_proved w coherent rests.1)
    | runStartupStepsOnce me => exact ends (enterStartupSteps_proved w coherent rests.1)
    | cleanup me => exact cleanup_proved coherent rests
    | run me => exact ends (run_proved w coherent rests.1)
    | retry me id => exact retryProgram_proved w rests.1 rests.2
  exact Coroutine.Proved.bind routine fun _ _ after => after

end Detached

end AlloraSdk.Source.Worker
