import AlloraSdk.Guarantees.RunLoop

/-!
# How a run of a worker shuts down

After `stop` or a signal: at most one more result is yielded, and the call
returns after a bounded number of its own actions, with no deadlock between its
body, its poller and its monitor.
-/

namespace AlloraSdk.Guarantees
open AlloraSdk.Logic AlloraSdk.Source.Worker

variable {ρ : Type} {autostake : Bool} {w w' : RunWorker ρ}

/-! ## After a cancellation -/

section Cancelled

variable {call : ℕ}

/-- A call that waits for an item may still get one. -/
def room : Place → ℕ
  | .getting _ => 1
  | _ => 0

/-- What a call has yielded, and may still yield after its cancellation. -/
def yieldBound (r : RunCall ρ) : ℕ := r.yielded.length + room r.place

/-- Once cancelled, a call stays so, and what it may yield does not grow. -/
def Winds (r r' : RunCall ρ) : Prop :=
  r.cancelled = true → r'.cancelled = true ∧ yieldBound r' ≤ yieldBound r

theorem Winds.refl (r : RunCall ρ) : Winds r r := fun cancelled => ⟨cancelled, Nat.le_refl _⟩

theorem Winds.trans {r₁ r₂ r₃ : RunCall ρ} (first : Winds r₁ r₂) (rest : Winds r₂ r₃) : Winds r₁ r₃ := by
  intro cancelled
  obtain ⟨still, bound⟩ := first cancelled
  obtain ⟨last, bound'⟩ := rest still
  exact ⟨last, Nat.le_trans bound' bound⟩

/-- A change that starts no wait for an item and yields nothing. -/
theorem winds_of_same {r r' : RunCall ρ} (cancelled : r.cancelled = true → r'.cancelled = true)
    (yielded : r'.yielded = r.yielded) (place : room r'.place ≤ room r.place) : Winds r r' := by
  intro was
  refine ⟨cancelled was, ?_⟩
  simp only [yieldBound, yielded]
  omega

theorem modify_winds (f : RunCall ρ → RunCall ρ) (calls : w'.calls = (w.modify call f).calls)
    (changed : Winds (w.calls call) (f (w.calls call))) (other : ℕ) : Winds (w.calls other) (w'.calls other) := by
  rw [calls]
  by_cases same : other = call
  · subst same
    simpa using changed
  · rw [RunWorker.modify_other w call f same]
    exact .refl _

theorem cancel_winds (other : ℕ) : Winds (w.calls other) ((w.cancel call).calls other) :=
  modify_winds _ rfl (winds_of_same (fun _ => rfl) rfl (Nat.le_refl _)) other

theorem stop_winds (other : ℕ) : Winds (w.calls other) (w.stop.calls other) := by
  unfold RunWorker.stop
  split
  · exact cancel_winds other
  · exact .refl _

theorem enqueue_winds {item : QueueItem ρ} (other : ℕ) : Winds (w.calls other) ((w.enqueue item).calls other) := by
  unfold RunWorker.enqueue
  split
  · exact modify_winds _ rfl (winds_of_same id rfl (Nat.le_refl _)) other
  · exact .refl _

theorem put_winds {ctx : ℕ} {value : ρ} (other : ℕ) : Winds (w.calls other) ((w.put ctx value).calls other) := by
  unfold RunWorker.put
  split
  · exact .refl _
  · exact enqueue_winds other

theorem cleanup_winds (other : ℕ) : Winds (w.calls other) ((w.cleanup call).calls other) :=
  modify_winds (fun r => { r with place := .endingRetry }) rfl (winds_of_same id rfl (Nat.zero_le _)) other

/-- A cancelled call leaves the loop at its head. -/
theorem loop_winds (other : ℕ) : Winds (w.calls other) ((w.loop call).calls other) := by
  unfold RunWorker.loop
  split
  · exact cleanup_winds other
  · rename_i uncancelled
    split
    · exact cleanup_winds other
    · exact modify_winds _ rfl (fun cancelled => (uncancelled cancelled).elim) other

theorem finish_winds (other : ℕ) : Winds (w.calls other) ((w.finish call).calls other) :=
  modify_winds (fun r => { r with place := .ended true }) rfl (winds_of_same id rfl (Nat.zero_le _)) other

theorem unsubscribeFrom_winds {index : ℕ} (other : ℕ) :
    Winds (w.calls other) ((w.unsubscribeFrom call index).calls other) := by
  unfold RunWorker.unsubscribeFrom
  split
  · exact modify_winds _ rfl (winds_of_same id rfl (Nat.zero_le _)) other
  · unfold RunWorker.cleanupTasks
    split
    · exact modify_winds (fun r => { r with place := .ended true }) rfl (winds_of_same id rfl (Nat.zero_le _)) other
    · exact modify_winds (fun r => { r with tasksCancelled := true, place := .gathering }) rfl
        (winds_of_same id rfl (Nat.zero_le _)) other

/-- The item that was waited for uses up the room. -/
theorem receive_winds {queue : ℕ} (place : (w.calls call).place = .getting queue)
    (taken : w.receive call queue = some w') (other : ℕ) : Winds (w.calls other) (w'.calls other) := by
  unfold RunWorker.receive at taken
  split at taken
  · cases taken
  · rename_i item rest waiting
    have dequeued : ∀ j, Winds (w.calls j) ((w.modify queue fun r => { r with queue := rest }).calls j) :=
      modify_winds _ rfl (winds_of_same id rfl (Nat.le_refl _))
    split at taken
    · obtain rfl := Option.some.inj taken
      rename_i value
      refine (dequeued other).trans (modify_winds _ rfl ?_ other)
      intro cancelled
      refine ⟨cancelled, ?_⟩
      have still : ((w.modify queue fun r => { r with queue := rest }).calls call).place = .getting queue := by
        by_cases same : call = queue
        · subst same
          simpa using place
        · rw [RunWorker.modify_other w queue _ same]
          exact place
      simp [yieldBound, still, room]
    · obtain rfl := Option.some.inj taken
      exact (dequeued other).trans (cleanup_winds other)

theorem begin_winds {timeout : Bool} (other : ℕ) : Winds (w.calls other) ((w.begin timeout).calls other) :=
  modify_winds (fun r => { r with timeout := timeout, place := .initializing }) rfl
    (winds_of_same id rfl (Nat.zero_le _)) other

theorem lastSubscribed_winds {subscription : ℕ} (other : ℕ) : Winds (w.calls other)
    ((({ w with subscriptionIds := w.subscriptionIds ++ [subscription], opened := w.opened ++ [subscription] }.modify call
      fun r => { r with monitor := .waiting }).loop call).calls other) := by
  refine Winds.trans ?_ (loop_winds other)
  exact modify_winds (fun r => { r with monitor := .waiting }) rfl (winds_of_same id rfl (Nat.le_refl _)) other

theorem step_winds {action : RunAction ρ} (taken : w.step autostake action = some w') (other : ℕ) :
    Winds (w.calls other) (w'.calls other) := by
  cases RunWorker.step_took taken with
  | begins => exact begin_winds other
  | initialized => exact modify_winds _ rfl (winds_of_same id rfl (Nat.zero_le _)) other
  | @subscribed call _ left =>
    exact modify_winds (fun r => { r with place := .subscribing (left - 1) }) rfl
      (winds_of_same id rfl (Nat.zero_le _)) other
  | lastSubscribed => exact lastSubscribed_winds other
  | received place received => exact receive_winds place received other
  | receiveTimeout | resumed => exact loop_winds other
  | interrupted => exact cleanup_winds other
  | cancelled => exact (cancel_winds other).trans (cleanup_winds other)
  | retryEnded => exact unsubscribeFrom_winds other
  | @unsubscribed call index =>
    exact unsubscribeFrom_winds (w := { w with closed := w.closed ++ w.subscriptionIds[index]?.toList }) other
  | gathered => exact finish_winds other
  | cleanupCancelled =>
    exact modify_winds (fun r => { r with place := .ended false }) rfl (winds_of_same id rfl (Nat.zero_le _)) other
  | pollerStarts | cycleEnds | pollerWakes | pollerCancelled | monitorCancelled =>
    exact modify_winds _ rfl (winds_of_same id rfl (Nat.le_refl _)) other
  | cycleStops => exact (stop_winds other).trans (modify_winds _ rfl (winds_of_same id rfl (Nat.le_refl _)) other)
  | monitorWakes =>
    exact (enqueue_winds other).trans (modify_winds _ rfl (winds_of_same id rfl (Nat.le_refl _)) other)
  | pollerPuts | handlerPuts => exact put_winds other
  | refused | windowMissed | windowOpened | handlerEnds => exact .refl _
  | stop => exact stop_winds other
  | signal => exact cancel_winds other

/-- Whatever happens after a cancellation, at most one more result is yielded,
and none by a call that does not wait for an item. -/
theorem cancelled_yields_at_most_one {actions : List (RunAction ρ)} (cancelled : (w.calls call).cancelled = true)
    (path : Path (RunWorker.Step autostake) w actions w') :
    (w'.calls call).yielded.length ≤ (w.calls call).yielded.length + 1 ∧
      ((∀ queue, (w.calls call).place ≠ .getting queue) →
        (w'.calls call).yielded.length ≤ (w.calls call).yielded.length) := by
  have winds : Winds (w.calls call) (w'.calls call) := by
    have preserved : ∀ v action v', RunWorker.Step autostake v action v' →
        Winds (w.calls call) (v.calls call) → Winds (w.calls call) (v'.calls call) :=
      fun v action v' step before => before.trans (step_winds step call)
    exact path.invariant preserved (.refl _)
  obtain ⟨-, bound⟩ := winds cancelled
  simp only [yieldBound] at bound
  constructor
  · have one : room (w.calls call).place ≤ 1 := by
      cases (w.calls call).place <;> simp [room]
    omega
  · intro notGetting
    have none : room (w.calls call).place = 0 := by
      cases place : (w.calls call).place with
      | getting queue => exact (notGetting queue place).elim
      | _ => rfl
    omega

/-- The worker of the sample run stops while the first call waits for an item. -/
theorem cancelled_yields_at_most_one_sample : ∃ w w' : RunWorker ℕ, (w.calls 0).yielded = [100] ∧
    Path (RunWorker.Step false) w [.monitorWakes 0, .received 0, .resumed 0] w' ∧
      (w'.calls 0).yielded.length ≤ (w.calls 0).yielded.length + 1 := by
  obtain ⟨w, -, passed⟩ := follow_reaches false (sampleRun.take 12 ++ [.handlerPuts 0 101, .stop]) (fun w =>
    (w.calls 0).yielded = [100] ∧ (w.calls 0).cancelled ∧
      (follow false w [.monitorWakes 0, .received 0, .resumed 0]).isSome) rfl
  obtain ⟨yielded, cancelled, followed⟩ := of_decide_eq_true passed
  obtain ⟨w', followed⟩ := Option.isSome_iff_exists.mp followed
  have path := (follow_path followed).unguarded
  exact ⟨w, w', yielded, path, (cancelled_yields_at_most_one cancelled path).1⟩

/-! ### How the shutdown ends -/

def pollerWork : Poller → ℕ
  | .notCreated | .done => 0
  | .created | .sleeping => 1
  | .submitting => 2

def monitorWork : Monitor → ℕ
  | .waiting => 1
  | .notCreated | .done => 0

/-- Actions that a cancelled call takes at most, with so many subscriptions. -/
def placeWork (subscribed : ℕ) : Place → ℕ
  | .notStarted | .ended _ => 0
  | .gathering => 1
  | .unsubscribing index => 2 + (subscribed - index)
  | .endingRetry => 3 + subscribed
  | .yielding => 4 + subscribed
  | .getting _ => 5 + subscribed
  -- a subscription adds one to close, and the last one starts the monitor
  | .subscribing left => 6 + 2 * left + subscribed
  | .initializing => 19 + subscribed

def callWork (subscribed : ℕ) (r : RunCall ρ) : ℕ :=
  placeWork subscribed r.place + pollerWork r.poller + monitorWork r.monitor

def workLeft (w : RunWorker ρ) (call : ℕ) : ℕ := callWork w.subscriptionIds.length (w.calls call)

/-- An action of the call or of its tasks, other than a result put on a queue. -/
def advances (call : ℕ) : RunAction ρ → Bool
  | .initialized other | .subscribed other _ | .received other | .receiveTimeout other | .resumed other
  | .interrupted other _ | .retryEnded other | .unsubscribed other | .gathered other | .pollerStarts other
  | .cycleEnds other | .cycleStops other | .pollerWakes other | .pollerCancelled other | .monitorWakes other
  | .monitorCancelled other => other = call
  | _ => false

section Work

variable (n : ℕ)

@[simp] theorem placeWork_ended (cleaned : Bool) : placeWork n (.ended cleaned) = 0 := rfl
@[simp] theorem placeWork_gathering : placeWork n .gathering = 1 := rfl
@[simp] theorem placeWork_unsubscribing (index : ℕ) : placeWork n (.unsubscribing index) = 2 + (n - index) := rfl
@[simp] theorem placeWork_endingRetry : placeWork n .endingRetry = 3 + n := rfl
@[simp] theorem placeWork_yielding : placeWork n .yielding = 4 + n := rfl
@[simp] theorem placeWork_getting (queue : ℕ) : placeWork n (.getting queue) = 5 + n := rfl
@[simp] theorem placeWork_subscribing (left : ℕ) : placeWork n (.subscribing left) = 6 + 2 * left + n := rfl
@[simp] theorem placeWork_initializing : placeWork n .initializing = 19 + n := rfl

end Work

/-- At the head of the loop a cancelled call goes to its cleanup. -/
theorem loop_cancelled (cancelled : (w.calls call).cancelled = true) : w.loop call = w.cleanup call := by
  simp [RunWorker.loop, cancelled]

theorem cleanup_work : workLeft (w.cleanup call) call =
    3 + w.subscriptionIds.length + pollerWork (w.calls call).poller + monitorWork (w.calls call).monitor := by
  simp [workLeft, callWork, RunWorker.cleanup, RunWorker.moveTo]

theorem unsubscribeFrom_work {index : ℕ} (tasks : 1 < placeWork w.subscriptionIds.length (w.calls call).place)
    (closing : index < w.subscriptionIds.length →
      2 + (w.subscriptionIds.length - index) < placeWork w.subscriptionIds.length (w.calls call).place) :
    workLeft (w.unsubscribeFrom call index) call < workLeft w call := by
  unfold RunWorker.unsubscribeFrom
  split
  · simp only [workLeft, callWork, RunWorker.moveTo, RunWorker.modify_same, RunWorker.modify_subscriptionIds,
      placeWork_unsubscribing]
    omega
  · unfold RunWorker.cleanupTasks
    split
    · simp only [workLeft, callWork, RunWorker.finish, RunWorker.moveTo, RunWorker.modify_same, placeWork_ended]
      omega
    · simp only [workLeft, callWork, RunWorker.modify_same, placeWork_gathering]
      omega

theorem receive_work {queue : ℕ} (coherent : RunCoherent w) (here : w.ctx = some call)
    (place : (w.calls call).place = .getting queue) (taken : w.receive call queue = some w') :
    workLeft w' call < workLeft w call := by
  obtain rfl : queue = call := (coherent.current call here).ownQueue queue place
  unfold RunWorker.receive at taken
  split at taken
  · cases taken
  · split at taken
    · obtain rfl := Option.some.inj taken
      simp only [workLeft, callWork, RunWorker.modify_same, RunWorker.modify_subscriptionIds, place,
        placeWork_yielding, placeWork_getting]
      omega
    · obtain rfl := Option.some.inj taken
      simp only [workLeft, callWork, RunWorker.cleanup, RunWorker.moveTo, RunWorker.modify_same,
        RunWorker.modify_subscriptionIds, place, placeWork_endingRetry, placeWork_getting]
      omega

/-- Another action of the current call, or of its tasks. -/
theorem work_of_calls {f : RunCall ρ → RunCall ρ} (calls : w'.calls = (w.modify call f).calls)
    (subscribed : w'.subscriptionIds = w.subscriptionIds)
    (less : callWork w.subscriptionIds.length (f (w.calls call)) < callWork w.subscriptionIds.length (w.calls call)) :
    workLeft w' call < workLeft w call := by
  simpa only [workLeft, calls, RunWorker.modify_same, subscribed] using less

theorem reaches_work (n : ℕ) {why : Interrupt} {timeout : Bool} {place : Place}
    (reaches : why.reaches timeout place = true) : 3 + n < placeWork n place := by
  cases place with
  | notStarted | endingRetry | unsubscribing | gathering | ended => cases why <;> cases reaches
  | initializing | subscribing | getting | yielding => simp <;> omega

theorem modify_field {β : Type} {g : RunCall ρ → β} {target : ℕ} {f : RunCall ρ → RunCall ρ}
    (same : ∀ r, g (f r) = g r) : g ((w.modify target f).calls call) = g (w.calls call) := by
  by_cases here : call = target
  · subst here
    simp [same]
  · rw [RunWorker.modify_other w target f here]

theorem cancel_work (target : ℕ) : workLeft (w.cancel target) call = workLeft w call :=
  modify_field fun _ => rfl

theorem stop_work : workLeft w.stop call = workLeft w call := by
  unfold RunWorker.stop
  split
  · exact cancel_work _
  · rfl

theorem stop_poller : (w.stop.calls call).poller = (w.calls call).poller := by
  unfold RunWorker.stop
  split
  · exact modify_field (g := RunCall.poller) fun _ => rfl
  · rfl

theorem enqueue_monitor (item : QueueItem ρ) : ((w.enqueue item).calls call).monitor = (w.calls call).monitor := by
  unfold RunWorker.enqueue
  split
  · exact modify_field (g := RunCall.monitor) fun _ => rfl
  · rfl

theorem enqueue_work (item : QueueItem ρ) : workLeft (w.enqueue item) call = workLeft w call := by
  unfold RunWorker.enqueue
  split
  · exact modify_field fun _ => rfl
  · rfl

theorem put_work (ctx : ℕ) (value : ρ) : workLeft (w.put ctx value) call = workLeft w call := by
  unfold RunWorker.put
  split
  · rfl
  · exact enqueue_work _

/-- The end of the loop leaves the cleanup and the tasks. -/
theorem cleanup_works (reached : 3 + w.subscriptionIds.length < placeWork w.subscriptionIds.length (w.calls call).place) :
    workLeft (w.cleanup call) call < workLeft w call := by
  rw [cleanup_work]
  simp only [workLeft, callWork]
  omega

/-- A poller that starts or wakes finds its call cancelled. -/
theorem test_work (cancelled : (w.calls call).cancelled = true) (alive : 0 < pollerWork (w.calls call).poller) :
    workLeft (w.modify call RunCall.test) call < workLeft w call := by
  apply work_of_calls rfl rfl
  have finished : pollerWork (RunCall.test (w.calls call)).poller = 0 := by simp [RunCall.test, cancelled, pollerWork]
  simp only [callWork, finished]
  simp only [RunCall.test]
  omega

theorem poller_work {poller : Poller} (less : pollerWork poller < pollerWork (w.calls call).poller) :
    workLeft (w.modify call fun r => { r with poller := poller }) call < workLeft w call := by
  apply work_of_calls rfl rfl
  simp only [callWork]
  omega

theorem monitor_work (alive : (w.calls call).monitor = .waiting) :
    workLeft (w.modify call fun r => { r with monitor := .done }) call < workLeft w call := by
  apply work_of_calls rfl rfl
  simp only [callWork, alive, monitorWork]
  omega

theorem initialized_work (place : (w.calls call).place = .initializing) :
    workLeft (w.modify call fun r =>
      { r with poller := .created, place := .subscribing (RunWorker.subscriptions autostake) }) call <
        workLeft w call := by
  apply work_of_calls rfl rfl
  have few : RunWorker.subscriptions autostake ≤ 5 := by cases autostake <;> decide
  simp only [callWork, place, placeWork_subscribing, placeWork_initializing, pollerWork]
  omega

theorem subscribed_work {id left : ℕ} (place : (w.calls call).place = .subscribing left) (more : 1 < left) :
    workLeft ({ w with subscriptionIds := w.subscriptionIds ++ [id], opened := w.opened ++ [id] }.moveTo call
      (.subscribing (left - 1))) call < workLeft w call := by
  simp only [workLeft, callWork, RunWorker.moveTo, RunWorker.modify_same, RunWorker.modify_subscriptionIds,
    place, placeWork_subscribing, List.length_append, List.length_singleton]
  omega

theorem lastSubscribed_work {id left : ℕ} (cancelled : (w.calls call).cancelled = true)
    (place : (w.calls call).place = .subscribing left) :
    workLeft (({ w with subscriptionIds := w.subscriptionIds ++ [id], opened := w.opened ++ [id] }.modify call
      fun r => { r with monitor := .waiting }).loop call) call < workLeft w call := by
  rw [loop_cancelled (by simpa using cancelled), cleanup_work]
  simp only [workLeft, callWork, RunWorker.modify_same, RunWorker.modify_subscriptionIds, place,
    placeWork_subscribing, List.length_append, List.length_singleton, monitorWork]
  omega

theorem gathered_work (place : (w.calls call).place = .gathering) :
    workLeft (w.finish call) call < workLeft w call := by
  simp only [workLeft, callWork, RunWorker.finish, RunWorker.moveTo, RunWorker.modify_same,
    RunWorker.modify_subscriptionIds, place, placeWork_ended, placeWork_gathering]
  omega

theorem unsubscribed_work {index : ℕ} (place : (w.calls call).place = .unsubscribing index) :
    workLeft ({ w with closed := w.closed ++ w.subscriptionIds[index]?.toList }.unsubscribeFrom call (index + 1))
      call < workLeft w call := by
  refine unsubscribeFrom_work (w := { w with closed := w.closed ++ w.subscriptionIds[index]?.toList }) ?_ ?_
  · simp only [place, placeWork_unsubscribing]
    omega
  · simp only [place, placeWork_unsubscribing]
    omega

/-- Every action of a cancelled call or of its tasks is one less to do. -/
theorem advance_work {action : RunAction ρ} (coherent : RunCoherent w) (cancelled : (w.calls call).cancelled = true)
    (own : advances call action = true) (taken : w.step autostake action = some w') :
    workLeft w' call < workLeft w call := by
  cases RunWorker.step_took taken with
  | @initialized other place =>
    obtain rfl : other = call := of_decide_eq_true own
    exact initialized_work place
  | @subscribed other id left place more =>
    obtain rfl : other = call := of_decide_eq_true own
    exact subscribed_work place more
  | @lastSubscribed other id left place =>
    obtain rfl : other = call := of_decide_eq_true own
    exact lastSubscribed_work cancelled place
  | @received other queue w' place received =>
    obtain rfl : other = call := of_decide_eq_true own
    have here : w.ctx = some other := ctx_of_place coherent (by simp [place]) (by simp [place])
    exact receive_work coherent here place received
  | @receiveTimeout other queue place =>
    obtain rfl : other = call := of_decide_eq_true own
    rw [loop_cancelled cancelled]
    exact cleanup_works (by rw [place, placeWork_getting]; omega)
  | @resumed other place =>
    obtain rfl : other = call := of_decide_eq_true own
    rw [loop_cancelled cancelled]
    exact cleanup_works (by rw [place, placeWork_yielding]; omega)
  | @interrupted other why reaches =>
    obtain rfl : other = call := of_decide_eq_true own
    exact cleanup_works (reaches_work _ reaches)
  | @cancelled other reaches =>
    obtain rfl : other = call := of_decide_eq_true own
    refine Nat.lt_of_lt_of_eq (cleanup_works ?_) (cancel_work other)
    simpa [RunWorker.cancel] using reaches_work _ reaches
  | @retryEnded other place =>
    obtain rfl : other = call := of_decide_eq_true own
    apply unsubscribeFrom_work <;> rw [place, placeWork_endingRetry] <;> omega
  | @unsubscribed other index place =>
    obtain rfl : other = call := of_decide_eq_true own
    exact unsubscribed_work place
  | @gathered other place =>
    obtain rfl : other = call := of_decide_eq_true own
    exact gathered_work place
  | @pollerStarts other alive =>
    obtain rfl : other = call := of_decide_eq_true own
    exact test_work cancelled (by simp [alive, pollerWork])
  | @pollerWakes other alive =>
    obtain rfl : other = call := of_decide_eq_true own
    exact test_work cancelled (by simp [alive, pollerWork])
  | @cycleEnds other alive =>
    obtain rfl : other = call := of_decide_eq_true own
    exact poller_work (by simp [alive, pollerWork])
  | @cycleStops other alive =>
    obtain rfl : other = call := of_decide_eq_true own
    refine Nat.lt_of_lt_of_eq (poller_work ?_) stop_work
    simp [stop_poller, alive, pollerWork]
  | @pollerCancelled other alive =>
    obtain rfl : other = call := of_decide_eq_true own
    apply poller_work
    rcases alive with created | sleeping
    · simp [created, pollerWork]
    · simp [sleeping, pollerWork]
  | @monitorWakes other _ alive =>
    obtain rfl : other = call := of_decide_eq_true own
    refine Nat.lt_of_lt_of_eq (monitor_work ?_) (enqueue_work .stopQueue)
    exact (enqueue_monitor _).trans alive
  | @monitorCancelled other alive =>
    obtain rfl : other = call := of_decide_eq_true own
    exact monitor_work alive
  | begins | refused | cleanupCancelled | pollerPuts | windowMissed | windowOpened | handlerPuts | handlerEnds | stop
  | signal => cases own

/-- Only the call of `self._ctx` and its tasks advance. -/
theorem current_of_advances {action : RunAction ρ} (coherent : RunCoherent w) (own : advances call action = true)
    (taken : w.step autostake action = some w') : w.ctx = some call := by
  have of_place {place : Place} (found : (w.calls call).place = place) (begun : place ≠ .notStarted)
      (unfinished : place ≠ .ended true) : w.ctx = some call :=
    ctx_of_place coherent (found ▸ begun) (found ▸ unfinished)
  have of_poller {poller : Poller} (found : (w.calls call).poller = poller) (created : poller ≠ .notCreated)
      (alive : poller ≠ .done) : w.ctx = some call :=
    ctx_of_poller coherent (by simp [RunCall.pollerOver, found, created, alive])
  have of_monitor (found : (w.calls call).monitor = .waiting) : w.ctx = some call :=
    ctx_of_monitor coherent (by simp [RunCall.monitorOver, found])
  cases RunWorker.step_took taken with
  | @initialized other place | @resumed other place | @retryEnded other place | @gathered other place =>
    obtain rfl : other = call := of_decide_eq_true own
    exact of_place place (by simp) (by simp)
  | @subscribed other _ _ place | @lastSubscribed other _ _ place =>
    obtain rfl : other = call := of_decide_eq_true own
    exact of_place place (by simp) (by simp)
  | @received other _ _ place | @receiveTimeout other _ place | @unsubscribed other _ place =>
    obtain rfl : other = call := of_decide_eq_true own
    exact of_place place (by simp) (by simp)
  | @interrupted other _ reaches | @cancelled other reaches =>
    obtain rfl : other = call := of_decide_eq_true own
    obtain ⟨begun, unfinished, -⟩ := reaches_body reaches
    exact ctx_of_place coherent begun unfinished
  | @pollerStarts other alive | @cycleEnds other alive | @cycleStops other alive | @pollerWakes other alive =>
    obtain rfl : other = call := of_decide_eq_true own
    exact of_poller alive (by simp) (by simp)
  | @pollerCancelled other alive =>
    obtain rfl : other = call := of_decide_eq_true own
    rcases alive with created | sleeping
    · exact of_poller created (by simp) (by simp)
    · exact of_poller sleeping (by simp) (by simp)
  | @monitorWakes other _ alive | @monitorCancelled other alive =>
    obtain rfl : other = call := of_decide_eq_true own
    exact of_monitor alive
  | begins | refused | cleanupCancelled | pollerPuts | windowMissed | windowOpened | handlerPuts | handlerEnds | stop
  | signal => cases own

/-- An action of no call: what the rest of the worker does. -/
theorem frame_work {action : RunAction ρ} (coherent : RunCoherent w) (disciplined : orderly w action = true)
    (here : w.ctx = some call) (cancelled : (w.calls call).cancelled = true)
    (taken : w.step autostake action = some w') :
    workLeft w' call + (advances call action).toNat ≤ workLeft w call := by
  by_cases own : advances call action = true
  · have less := advance_work coherent cancelled own taken
    rw [own, Bool.toNat_true]
    omega
  have nobody : ∀ other, advances other action = true → False := by
    intro other acts
    obtain rfl : call = other := Option.some.inj (here.symm.trans (current_of_advances coherent acts taken))
    exact own acts
  rw [(Bool.not_eq_true _).mp own, Bool.toNat_false, Nat.add_zero]
  cases RunWorker.step_took taken with
  | begins | refused => simp [orderly, here, cancelled] at disciplined
  | cleanupCancelled => cases disciplined
  | pollerPuts | handlerPuts => exact Nat.le_of_eq (put_work _ _)
  | windowMissed | windowOpened | handlerEnds => exact Nat.le_refl _
  | stop => exact Nat.le_of_eq stop_work
  | signal => exact Nat.le_of_eq (cancel_work _)
  | @initialized other | @subscribed other | @lastSubscribed other | @received other | @receiveTimeout other
  | @resumed other | @interrupted other | @cancelled other | @retryEnded other | @unsubscribed other
  | @gathered other | @pollerStarts other | @cycleEnds other | @cycleStops other | @pollerWakes other
  | @pollerCancelled other | @monitorWakes other | @monitorCancelled other =>
    exact (nobody other (by simp [advances])).elim

/-- `self._ctx`, and how many calls have begun. -/
def registers (w : RunWorker ρ) : Option ℕ × ℕ := (w.ctx, w.started)

@[simp] theorem modify_registers (f : RunCall ρ → RunCall ρ) : registers (w.modify call f) = registers w := rfl

@[simp] theorem stop_registers : registers w.stop = registers w := by
  unfold RunWorker.stop
  split <;> rfl

@[simp] theorem enqueue_registers (item : QueueItem ρ) : registers (w.enqueue item) = registers w := by
  unfold RunWorker.enqueue
  split <;> rfl

@[simp] theorem put_registers (ctx : ℕ) (value : ρ) : registers (w.put ctx value) = registers w := by
  unfold RunWorker.put
  split
  · rfl
  · exact enqueue_registers _

@[simp] theorem loop_registers : registers (w.loop call) = registers w := by
  unfold RunWorker.loop
  split
  · rfl
  · split <;> rfl

/-- The end of `_cleanup` clears `self._ctx`. -/
theorem unsubscribeFrom_registers {index : ℕ} : registers (w.unsubscribeFrom call index) = registers w ∨
    registers (w.unsubscribeFrom call index) = (none, w.started) := by
  unfold RunWorker.unsubscribeFrom
  split
  · exact .inl rfl
  · unfold RunWorker.cleanupTasks
    split
    · exact .inr rfl
    · exact .inl rfl

theorem receive_registers {queue : ℕ} (taken : w.receive call queue = some w') : registers w' = registers w := by
  unfold RunWorker.receive at taken
  split at taken
  · cases taken
  · split at taken <;> obtain rfl := Option.some.inj taken <;> rfl

/-- What an action may do to `self._ctx`. -/
theorem step_registers {action : RunAction ρ} (taken : w.step autostake action = some w') :
    registers w' = registers w ∨ registers w' = (none, w.started) ∨
      registers w' = (some w.started, w.started + 1) := by
  cases RunWorker.step_took taken with
  | begins => exact .inr (.inr rfl)
  | gathered => exact .inr (.inl rfl)
  | retryEnded | unsubscribed => exact unsubscribeFrom_registers.imp_right .inl
  | received _ received => exact .inl (receive_registers received)
  | lastSubscribed | receiveTimeout | resumed => exact .inl loop_registers
  | cycleStops | stop => exact .inl stop_registers
  | monitorWakes => exact .inl (enqueue_registers _)
  | pollerPuts | handlerPuts => exact .inl (put_registers _ _)
  | refused | initialized | subscribed | interrupted | cancelled | cleanupCancelled | pollerStarts | cycleEnds
  | pollerWakes | pollerCancelled | monitorCancelled | windowMissed | windowOpened | handlerEnds | signal =>
    exact .inl rfl

/-- A cancelled call with so much left to do, or one that has returned. -/
structure Ending (call bound : ℕ) (w : RunWorker ρ) : Prop where
  coherent : RunCoherent w
  begun : call < w.started
  cancelled : w.ctx = some call → (w.calls call).cancelled = true ∧ workLeft w call ≤ bound

theorem Ending.step {bound : ℕ} {action : RunAction ρ} (ending : Ending call bound w)
    (disciplined : orderly w action = true) (taken : w.step autostake action = some w') :
    ∃ bound', Ending call bound' w' ∧ bound' + (advances call action).toNat ≤ bound := by
  have coherent' := step_coherent ending.coherent disciplined taken
  have registered := step_registers taken
  simp only [registers, Prod.mk.injEq] at registered
  have begun' : call < w'.started := by
    have begun := ending.begun
    omega
  by_cases here : w.ctx = some call
  · obtain ⟨cancelled, least⟩ := ending.cancelled here
    have less := frame_work ending.coherent disciplined here cancelled taken
    have still := (step_winds taken call cancelled).1
    exact ⟨workLeft w' call, ⟨coherent', begun', fun _ => ⟨still, Nat.le_refl _⟩⟩, Nat.le_trans less least⟩
  · have passive : advances call action = false := by
      refine (Bool.not_eq_true _).mp fun own => ?_
      exact here (current_of_advances ending.coherent own taken)
    refine ⟨bound, ⟨coherent', begun', ?_⟩, by simp [passive]⟩
    intro found
    have begun := ending.begun
    rcases registered with ⟨same, -⟩ | ⟨cleared, -⟩ | ⟨new, -⟩
    · exact (here (same ▸ found)).elim
    · simp [cleared] at found
    · have : w.started = call := Option.some.inj (new.symm.trans found)
      omega

theorem Ending.run {bound : ℕ} {actions : List (RunAction ρ)} (ending : Ending call bound w)
    (path : Path (OrderlyStep autostake) w actions w') :
    Ending call bound w' ∧ actions.countP (advances call) ≤ bound := by
  induction path generalizing bound with
  | nil w => exact ⟨ending, Nat.zero_le _⟩
  | @cons w w₁ w₂ action actions head tail ih =>
    obtain ⟨bound', ending₁, less⟩ := ending.step head.1 head.2
    obtain ⟨ending₂, counted⟩ := ih ending₁
    constructor
    · refine ⟨ending₂.coherent, ending₂.begun, fun here => ?_⟩
      obtain ⟨cancelled, least⟩ := ending₂.cancelled here
      exact ⟨cancelled, by omega⟩
    · rw [List.countP_cons]
      cases own : advances call action <;> simp [own] at less ⊢ <;> omega

end Cancelled

end AlloraSdk.Guarantees
