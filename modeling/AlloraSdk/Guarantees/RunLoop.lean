import AlloraSdk.Source.Worker.RunLoop

/-!
# What a run of a worker yields, and what it leaves behind

In every interleaving of the calls of `run`, their pollers and monitors and the
handlers of window events: a call yields the results put on its queue in their
order, each once; no other call stops it; and when it has cleaned up, its tasks
are over and its subscriptions closed. Once its context is cancelled, it yields
at most one more result.
-/

namespace AlloraSdk.Guarantees
open AlloraSdk.Logic AlloraSdk.Source.Worker

variable {ρ : Type} {autostake : Bool} {w w' : RunWorker ρ}

/-- The results among the items of a queue. -/
def results (items : List (QueueItem ρ)) : List ρ := items.filterMap QueueItem.result?

@[simp] theorem results_nil : results ([] : List (QueueItem ρ)) = [] := rfl

@[simp] theorem results_result (value : ρ) (rest : List (QueueItem ρ)) :
    results (.result value :: rest) = value :: results rest := rfl

@[simp] theorem results_stopQueue (rest : List (QueueItem ρ)) : results (.stopQueue :: rest) = results rest := rfl

theorem results_append (first rest : List (QueueItem ρ)) :
    results (first ++ rest) = results first ++ results rest :=
  List.filterMap_append

/-- Nothing of a call is left running. -/
structure CallOver (r : RunCall ρ) : Prop where
  place : r.place = .notStarted ∨ r.place = .ended true
  poller : r.pollerOver = true
  monitor : r.monitorOver = true

/-- What a call yielded and what waits on its queue is what was put there; it is
stopped for its own context only. -/
structure Delivers (r : RunCall ρ) : Prop where
  inOrder : r.yielded ++ results r.queue = results r.put
  ownStop : .stopQueue ∈ r.put → r.cancelled = true

/-- How many of the subscriptions `_cleanup` has closed. -/
def closedUpTo : Place → ℕ
  | .unsubscribing index => index
  | _ => 0

/-- A place of the call that `self._ctx` belongs to. -/
structure CurrentCall (w : RunWorker ρ) (call : ℕ) (place : Place) : Prop where
  begun : place ≠ .notStarted
  unfinished : ∀ cleaned, place ≠ .ended cleaned
  ownQueue : ∀ queue, place = .getting queue → queue = call
  ledger : w.closed ++ w.subscriptionIds.drop (closedUpTo place) = w.opened
  closed : place = .gathering → w.subscriptionIds = []

structure RunCoherent (w : RunWorker ρ) : Prop where
  delivers : ∀ call, Delivers (w.calls call)
  queue : w.queue = w.ctx
  others : ∀ call, w.ctx ≠ some call → CallOver (w.calls call)
  current : ∀ call, w.ctx = some call → CurrentCall w call (w.calls call).place
  idle : w.ctx = none → w.subscriptionIds = [] ∧ w.closed = w.opened
  numbered : ∀ call, w.started ≤ call → (w.calls call).place = .notStarted

/-- No `run` between a cancellation and the end of its cleanup, and no cleanup
that is itself cancelled. -/
def orderly (w : RunWorker ρ) : RunAction ρ → Bool
  | .run _ => w.ctx.all fun call => !(w.calls call).cancelled
  | .cleanupCancelled _ => false
  | _ => true

/-- An orderly action of the worker. -/
abbrev OrderlyStep (autostake : Bool) : RunWorker ρ → RunAction ρ → RunWorker ρ → Prop :=
  guarded (fun w action => orderly w action = true) (RunWorker.Step autostake)

section Preserved

variable {call : ℕ} {f : RunCall ρ → RunCall ρ}

/-- Only the call of `self._ctx` is anywhere else. -/
theorem ctx_of_place (coherent : RunCoherent w) (begun : (w.calls call).place ≠ .notStarted)
    (unfinished : (w.calls call).place ≠ .ended true) : w.ctx = some call := by
  by_contra other
  cases (coherent.others call other).place with
  | inl absent => exact begun absent
  | inr ended => exact unfinished ended

theorem ctx_of_poller (coherent : RunCoherent w) (alive : (w.calls call).pollerOver = false) :
    w.ctx = some call := by
  by_contra other
  simp [(coherent.others call other).poller] at alive

theorem ctx_of_monitor (coherent : RunCoherent w) (alive : (w.calls call).monitorOver = false) :
    w.ctx = some call := by
  by_contra other
  simp [(coherent.others call other).monitor] at alive

/-- A change to one call that keeps its part. -/
theorem modify_coherent (coherent : RunCoherent w) (delivers : Delivers (f (w.calls call)))
    (elsewhere : w.ctx ≠ some call → CallOver (f (w.calls call)) ∧ (f (w.calls call)).place = (w.calls call).place)
    (current : w.ctx = some call → CurrentCall w call (f (w.calls call)).place) : RunCoherent (w.modify call f) where
  delivers other := by
    by_cases same : other = call
    · subst same
      simpa using delivers
    · rw [RunWorker.modify_other w call f same]
      exact coherent.delivers other
  queue := coherent.queue
  others other different := by
    by_cases same : other = call
    · subst same
      simpa using (elsewhere different).1
    · rw [RunWorker.modify_other w call f same]
      exact coherent.others other different
  current other here := by
    by_cases same : other = call
    · subst same
      have kept := current here
      rw [RunWorker.modify_same]
      exact ⟨kept.begun, kept.unfinished, kept.ownQueue, kept.ledger, kept.closed⟩
    · rw [RunWorker.modify_other w call f same]
      have kept := coherent.current other here
      exact ⟨kept.begun, kept.unfinished, kept.ownQueue, kept.ledger, kept.closed⟩
  idle := coherent.idle
  numbered other late := by
    by_cases same : other = call
    · subst same
      have absent := coherent.numbered other late
      have notHere : w.ctx ≠ some other := fun here => (coherent.current other here).begun absent
      rw [RunWorker.modify_same, (elsewhere notHere).2]
      exact absent
    · rw [RunWorker.modify_other w call f same]
      exact coherent.numbered other late

theorem enqueue_delivers {r : RunCall ρ} {item : QueueItem ρ} (delivers : Delivers r)
    (own : item = .stopQueue → r.cancelled = true) : Delivers (r.enqueue item) where
  inOrder := by
    simp only [RunCall.enqueue, results_append, ← List.append_assoc, delivers.inOrder]
  ownStop member := by
    rcases List.mem_append.mp member with before | last
    · exact delivers.ownStop before
    · exact own (List.mem_singleton.mp last).symm

theorem cancel_coherent (coherent : RunCoherent w) (call : ℕ) : RunCoherent (w.cancel call) := by
  apply modify_coherent coherent
  · exact ⟨(coherent.delivers call).inOrder, fun _ => rfl⟩
  · intro other
    have others := coherent.others call other
    exact ⟨⟨others.place, others.poller, others.monitor⟩, rfl⟩
  · exact coherent.current call

theorem stop_coherent (coherent : RunCoherent w) : RunCoherent w.stop := by
  unfold RunWorker.stop
  split
  · exact cancel_coherent coherent _
  · exact coherent

theorem enqueue_coherent {item : QueueItem ρ} (coherent : RunCoherent w)
    (own : item = .stopQueue → ∀ call, w.ctx = some call → (w.calls call).cancelled = true) :
    RunCoherent (w.enqueue item) := by
  unfold RunWorker.enqueue
  split
  · rename_i queue found
    have here : w.ctx = some queue := coherent.queue.symm.trans found
    apply modify_coherent coherent
    · exact enqueue_delivers (coherent.delivers queue) fun same => own same queue here
    · intro other
      exact (other here).elim
    · exact coherent.current queue
  · exact coherent

theorem put_coherent (coherent : RunCoherent w) (ctx : ℕ) (value : ρ) : RunCoherent (w.put ctx value) := by
  unfold RunWorker.put
  split
  · exact coherent
  · exact enqueue_coherent coherent fun same => by cases same

theorem records_coherent (coherent : RunCoherent w) (handlers : List ℕ) (raised : List String) :
    RunCoherent { w with handlers := handlers, raised := raised } where
  delivers := coherent.delivers
  queue := coherent.queue
  others := coherent.others
  current call found := by
    have kept := coherent.current call found
    exact ⟨kept.begun, kept.unfinished, kept.ownQueue, kept.ledger, kept.closed⟩
  idle := coherent.idle
  numbered := coherent.numbered

/-- The current call moves between places of its body, or into `_cleanup`. -/
theorem moveTo_coherent {place : Place} (coherent : RunCoherent w) (here : w.ctx = some call)
    (current : CurrentCall w call place) : RunCoherent (w.moveTo call place) := by
  apply modify_coherent coherent
  · exact ⟨(coherent.delivers call).inOrder, (coherent.delivers call).ownStop⟩
  · intro other
    exact (other here).elim
  · exact fun _ => current

/-- Before the subscriptions are closed, the ledger asks the same everywhere. -/
theorem current_of_open {w₁ : RunWorker ρ} {place place' : Place} (current : CurrentCall w call place)
    (same : w₁.closed ++ w₁.subscriptionIds = w.closed ++ w.subscriptionIds ∧ w₁.opened = w.opened) (none_closed : closedUpTo place = 0)
    (still_none : closedUpTo place' = 0) (begun : place' ≠ .notStarted) (unfinished : ∀ cleaned, place' ≠ .ended cleaned)
    (ownQueue : ∀ queue, place' = .getting queue → queue = call) (waits : place' ≠ .gathering) :
    CurrentCall w₁ call place' := by
  refine ⟨begun, unfinished, ownQueue, ?_, fun same => (waits same).elim⟩
  have ledger := current.ledger
  rw [none_closed] at ledger
  rw [still_none, List.drop_zero, same.1, same.2]
  exact ledger

theorem cleanup_coherent (coherent : RunCoherent w) (here : w.ctx = some call)
    (open_still : closedUpTo (w.calls call).place = 0) : RunCoherent (w.cleanup call) := by
  apply moveTo_coherent coherent here
  exact current_of_open (coherent.current call here) ⟨rfl, rfl⟩ open_still rfl nofun nofun nofun nofun

theorem loop_coherent (coherent : RunCoherent w) (here : w.ctx = some call)
    (open_still : closedUpTo (w.calls call).place = 0) : RunCoherent (w.loop call) := by
  unfold RunWorker.loop
  split
  · exact cleanup_coherent coherent here open_still
  · split
    · exact cleanup_coherent coherent here open_still
    · rename_i queue found
      have own : queue = call := Option.some.inj (found.symm.trans (coherent.queue.trans here))
      apply moveTo_coherent coherent here
      refine current_of_open (coherent.current call here) ⟨rfl, rfl⟩ open_still rfl ?_ ?_ ?_ ?_
      · exact nofun
      · exact nofun
      · intro other same
        cases same
        exact own
      · exact nofun

/-- `self._ctx = None` when nothing of the call is left. -/
theorem finish_coherent (coherent : RunCoherent w) (here : w.ctx = some call) (poller : (w.calls call).pollerOver = true)
    (monitor : (w.calls call).monitorOver = true) (closed : w.subscriptionIds = []) : RunCoherent (w.finish call) where
  delivers other := by
    by_cases same : other = call
    · subst same
      simpa [RunWorker.finish, RunWorker.moveTo] using
        (⟨(coherent.delivers other).inOrder, (coherent.delivers other).ownStop⟩ :
          Delivers { w.calls other with place := .ended true })
    · simpa [RunWorker.finish, RunWorker.moveTo, RunWorker.modify_other w call _ same] using coherent.delivers other
  queue := rfl
  others other _ := by
    by_cases same : other = call
    · subst same
      simpa [RunWorker.finish, RunWorker.moveTo] using
        (⟨.inr rfl, poller, monitor⟩ : CallOver { w.calls other with place := .ended true })
    · have different : w.ctx ≠ some other := fun found => same (Option.some.inj (found.symm.trans here))
      simpa [RunWorker.finish, RunWorker.moveTo, RunWorker.modify_other w call _ same] using
        coherent.others other different
  current other found := by cases found
  idle _ := by
    refine ⟨closed, ?_⟩
    have ledger := (coherent.current call here).ledger
    rw [closed, List.drop_nil, List.append_nil] at ledger
    exact ledger
  numbered other late := by
    have apart : other ≠ call := fun same => (coherent.current call here).begun (coherent.numbered call (same ▸ late))
    simpa [RunWorker.finish, RunWorker.moveTo, RunWorker.modify_other w call _ apart] using coherent.numbered other late

theorem cleanupTasks_coherent (coherent : RunCoherent w) (here : w.ctx = some call) (closed : w.subscriptionIds = []) :
    RunCoherent (w.cleanupTasks call) := by
  unfold RunWorker.cleanupTasks
  split
  · rename_i absent
    apply finish_coherent coherent here _ _ closed
    · simp [RunCall.pollerOver, absent.1]
    · simp [RunCall.monitorOver, absent.2]
  · apply modify_coherent coherent
    · exact ⟨(coherent.delivers call).inOrder, (coherent.delivers call).ownStop⟩
    · intro other
      exact (other here).elim
    · intro _
      have ledger := (coherent.current call here).ledger
      rw [closed, List.drop_nil, List.append_nil] at ledger
      exact ⟨nofun, nofun, nofun, by simp [closed, ledger], fun _ => closed⟩

/-- A change to the current call and to the fields of the worker, as long as the
ledger fits. -/
theorem change_coherent {w₁ : RunWorker ρ} (coherent : RunCoherent w) (here : w.ctx = some call)
    (calls : w₁.calls = (w.modify call f).calls)
    (fields : w₁.ctx = w.ctx ∧ w₁.queue = w.queue ∧ w₁.started = w.started) (delivers : Delivers (f (w.calls call))) (current : CurrentCall w₁ call (f (w.calls call)).place) :
    RunCoherent w₁ where
  delivers other := by
    rw [calls]
    by_cases same : other = call
    · subst same
      simpa using delivers
    · rw [RunWorker.modify_other w call f same]
      exact coherent.delivers other
  queue := by rw [fields.2.1, fields.1, coherent.queue]
  others other different := by
    have apart : other ≠ call := fun same => different (same ▸ fields.1.trans here)
    rw [calls, RunWorker.modify_other w call f apart]
    exact coherent.others other (fields.1 ▸ different)
  current other found := by
    obtain rfl : call = other := Option.some.inj (here.symm.trans (fields.1.symm.trans found))
    rw [calls, RunWorker.modify_same]
    exact current
  idle absent := by
    rw [fields.1, here] at absent
    cases absent
  numbered other late := by
    rw [fields.2.2] at late
    have apart : other ≠ call := fun same => (coherent.current call here).begun (coherent.numbered call (same ▸ late))
    rw [calls, RunWorker.modify_other w call f apart]
    exact coherent.numbered other late

/-- The loop over the subscriptions, when those before `index` are closed. -/
theorem unsubscribeFrom_coherent {index : ℕ} {closed : List ℕ} (coherent : RunCoherent w) (here : w.ctx = some call)
    (ledger : closed ++ w.subscriptionIds.drop index = w.opened) :
    RunCoherent ({ w with closed := closed }.unsubscribeFrom call index) := by
  have before := coherent.current call here
  have delivers := coherent.delivers call
  unfold RunWorker.unsubscribeFrom
  split
  · refine change_coherent (f := fun r => { r with place := .unsubscribing index }) coherent here rfl ⟨rfl, rfl, rfl⟩ ?_ ?_
    · exact ⟨delivers.inOrder, delivers.ownStop⟩
    · exact ⟨nofun, nofun, nofun, ledger, nofun⟩
  · rename_i last
    have all_closed : closed = w.opened := by
      rw [List.drop_of_length_le (by simpa using last), List.append_nil] at ledger
      exact ledger
    refine cleanupTasks_coherent ?_ here rfl
    refine change_coherent (f := id) coherent here (Function.update_eq_self ..).symm ⟨rfl, rfl, rfl⟩ delivers ?_
    exact ⟨before.begun, before.unfinished, before.ownQueue, by simp [all_closed], fun _ => rfl⟩

theorem receive_coherent {queue : ℕ} (coherent : RunCoherent w) (place : (w.calls call).place = .getting queue)
    (taken : w.receive call queue = some w') : RunCoherent w' := by
  have here : w.ctx = some call := ctx_of_place coherent (by simp [place]) (by simp [place])
  have before := coherent.current call here
  obtain rfl : queue = call := before.ownQueue queue place
  have delivers := coherent.delivers queue
  have open_still : closedUpTo (w.calls queue).place = 0 := by simp [place, closedUpTo]
  unfold RunWorker.receive at taken
  split at taken
  · cases taken
  · rename_i item rest waiting
    have inOrder := delivers.inOrder
    rw [waiting] at inOrder
    split at taken
    · obtain rfl := Option.some.inj taken
      rename_i value
      refine change_coherent (f := fun r =>
        { r with queue := rest, yielded := r.yielded ++ [value], place := .yielding }) coherent here ?_ ⟨rfl, rfl, rfl⟩ ?_ ?_
      · simp [RunWorker.modify]
      · exact ⟨by simpa using inOrder, delivers.ownStop⟩
      · refine current_of_open before ⟨rfl, rfl⟩ open_still rfl ?_ ?_ ?_ ?_ <;> exact nofun
    · obtain rfl := Option.some.inj taken
      refine change_coherent (f := fun r => { r with queue := rest, place := .endingRetry }) coherent here ?_ ⟨rfl, rfl, rfl⟩ ?_ ?_
      · simp [RunWorker.cleanup, RunWorker.moveTo, RunWorker.modify]
      · exact ⟨by simpa using inOrder, delivers.ownStop⟩
      · refine current_of_open before ⟨rfl, rfl⟩ open_still rfl ?_ ?_ ?_ ?_ <;> exact nofun

/-- A task of the current call goes on. -/
theorem task_coherent (coherent : RunCoherent w) (here : w.ctx = some call)
    (delivers : Delivers (f (w.calls call))) (place : (f (w.calls call)).place = (w.calls call).place) :
    RunCoherent (w.modify call f) := by
  apply modify_coherent coherent delivers
  · intro other
    exact (other here).elim
  · intro _
    exact place ▸ coherent.current call here

theorem begin_coherent (coherent : RunCoherent w) (idle : w.ctx = none) (timeout : Bool) : RunCoherent (w.begin timeout) := by
  have delivers := coherent.delivers w.started
  obtain ⟨closed, all_closed⟩ := coherent.idle idle
  constructor
  · intro other
    by_cases same : other = w.started
    · subst same
      simpa [RunWorker.begin] using (⟨delivers.inOrder, delivers.ownStop⟩ :
        Delivers { w.calls w.started with timeout := timeout, place := .initializing })
    · simpa [RunWorker.begin, RunWorker.modify_other w w.started _ same] using coherent.delivers other
  · rfl
  · intro other different
    have apart : other ≠ w.started := fun same => different (congrArg some same.symm)
    simpa [RunWorker.begin, RunWorker.modify_other w w.started _ apart] using
      coherent.others other (by simp [idle])
  · intro other found
    obtain rfl : w.started = other := Option.some.inj found
    simp only [RunWorker.begin, RunWorker.modify_same]
    exact ⟨nofun, nofun, nofun, by simp [closedUpTo, closed, all_closed], nofun⟩
  · intro absent
    cases absent
  · intro other late
    have apart : other ≠ w.started := Nat.ne_of_gt late
    simpa [RunWorker.begin, RunWorker.modify_other w w.started _ apart] using
      coherent.numbered other (Nat.le_of_succ_le late)

/-- An interrupt reaches the body of `run`, before `_cleanup`. -/
theorem reaches_body {why : Interrupt} {timeout : Bool} {place : Place} (reaches : why.reaches timeout place = true) :
    place ≠ .notStarted ∧ place ≠ .ended true ∧ closedUpTo place = 0 := by
  cases place with
  | notStarted | endingRetry | unsubscribing | gathering | ended => cases why <;> cases reaches
  | initializing | subscribing | getting | yielding => exact ⟨nofun, nofun, rfl⟩

theorem interrupted_coherent {why : Interrupt} (coherent : RunCoherent w)
    (reaches : why.reaches (w.calls call).timeout (w.calls call).place = true) : RunCoherent (w.cleanup call) := by
  obtain ⟨begun, unfinished, open_still⟩ := reaches_body reaches
  exact cleanup_coherent coherent (ctx_of_place coherent begun unfinished) open_still

theorem cancelled_coherent {why : Interrupt} (coherent : RunCoherent w)
    (reaches : why.reaches (w.calls call).timeout (w.calls call).place = true) :
    RunCoherent ((w.cancel call).cleanup call) := by
  obtain ⟨begun, unfinished, open_still⟩ := reaches_body reaches
  have here := ctx_of_place coherent begun unfinished
  exact cleanup_coherent (cancel_coherent coherent call) here (by simpa [RunWorker.cancel] using open_still)

theorem initialized_coherent (coherent : RunCoherent w) (place : (w.calls call).place = .initializing) :
    RunCoherent (w.modify call fun r =>
      { r with poller := .created, place := .subscribing (RunWorker.subscriptions autostake) }) := by
  have here : w.ctx = some call := ctx_of_place coherent (by simp [place]) (by simp [place])
  have delivers := coherent.delivers call
  refine change_coherent coherent here rfl ⟨rfl, rfl, rfl⟩ ⟨delivers.inOrder, delivers.ownStop⟩ ?_
  refine current_of_open (coherent.current call here) ⟨rfl, rfl⟩ (by simp [place, closedUpTo]) rfl ?_ ?_ ?_ ?_ <;>
    exact nofun

section Subscribing

variable {id left : ℕ}

/-- A subscription that was made is open. -/
theorem opened_ledger (coherent : RunCoherent w) (here : w.ctx = some call)
    (place : (w.calls call).place = .subscribing left) :
    w.closed ++ (w.subscriptionIds ++ [id]) = w.opened ++ [id] := by
  have kept := (coherent.current call here).ledger
  simp only [place, closedUpTo, List.drop_zero] at kept
  rw [← kept, List.append_assoc]

theorem subscribed_coherent (coherent : RunCoherent w) (place : (w.calls call).place = .subscribing left) :
    RunCoherent ({ w with subscriptionIds := w.subscriptionIds ++ [id], opened := w.opened ++ [id] }.moveTo call
      (.subscribing (left - 1))) := by
  have here : w.ctx = some call := ctx_of_place coherent (by simp [place]) (by simp [place])
  have delivers := coherent.delivers call
  refine change_coherent (f := fun r => { r with place := .subscribing (left - 1) }) coherent here rfl ⟨rfl, rfl, rfl⟩ ?_ ?_
  · exact ⟨delivers.inOrder, delivers.ownStop⟩
  · exact ⟨nofun, nofun, nofun, opened_ledger coherent here place, nofun⟩

theorem lastSubscribed_coherent (coherent : RunCoherent w) (place : (w.calls call).place = .subscribing left) :
    RunCoherent (({ w with subscriptionIds := w.subscriptionIds ++ [id], opened := w.opened ++ [id] }.modify call
      fun r => { r with monitor := .waiting }).loop call) := by
  have here : w.ctx = some call := ctx_of_place coherent (by simp [place]) (by simp [place])
  have delivers := coherent.delivers call
  refine loop_coherent ?_ here (by simp [place, closedUpTo])
  refine change_coherent (f := fun r => { r with monitor := .waiting }) coherent here rfl ⟨rfl, rfl, rfl⟩ ?_ ?_
  · exact ⟨delivers.inOrder, delivers.ownStop⟩
  · simp only [place]
    exact ⟨nofun, nofun, nofun, opened_ledger coherent here place, nofun⟩

end Subscribing

/-- The loop goes on after a result, or when none came in time. -/
theorem again_coherent (coherent : RunCoherent w) {place : Place} (found : (w.calls call).place = place)
    (body : place ≠ .notStarted ∧ place ≠ .ended true ∧ closedUpTo place = 0) : RunCoherent (w.loop call) := by
  obtain ⟨begun, unfinished, open_still⟩ := body
  exact loop_coherent coherent (ctx_of_place coherent (found ▸ begun) (found ▸ unfinished)) (found ▸ open_still)

theorem retryEnded_coherent (coherent : RunCoherent w) (place : (w.calls call).place = .endingRetry) :
    RunCoherent (w.unsubscribeFrom call 0) := by
  have here : w.ctx = some call := ctx_of_place coherent (by simp [place]) (by simp [place])
  have ledger := (coherent.current call here).ledger
  rw [place] at ledger
  exact unsubscribeFrom_coherent coherent here ledger

theorem unsubscribed_coherent {index : ℕ} (coherent : RunCoherent w)
    (place : (w.calls call).place = .unsubscribing index) :
    RunCoherent ({ w with closed := w.closed ++ w.subscriptionIds[index]?.toList }.unsubscribeFrom call (index + 1)) := by
  have here : w.ctx = some call := ctx_of_place coherent (by simp [place]) (by simp [place])
  have ledger := (coherent.current call here).ledger
  rw [place, closedUpTo, List.drop_eq_getElem?_toList_append] at ledger
  apply unsubscribeFrom_coherent coherent here
  rw [List.append_assoc]
  exact ledger

theorem gathered_coherent (coherent : RunCoherent w) (place : (w.calls call).place = .gathering)
    (poller : (w.calls call).pollerOver = true) (monitor : (w.calls call).monitorOver = true) :
    RunCoherent (w.finish call) := by
  have here : w.ctx = some call := ctx_of_place coherent (by simp [place]) (by simp [place])
  exact finish_coherent coherent here poller monitor ((coherent.current call here).closed place)

/-- A step of the poller that puts nothing. -/
theorem poller_coherent (coherent : RunCoherent w) (alive : (w.calls call).pollerOver = false)
    (delivers : Delivers (w.calls call) → Delivers (f (w.calls call)))
    (place : (f (w.calls call)).place = (w.calls call).place) : RunCoherent (w.modify call f) :=
  task_coherent coherent (ctx_of_poller coherent alive) (delivers (coherent.delivers call)) place

theorem cycleStops_coherent (coherent : RunCoherent w) (alive : (w.calls call).pollerOver = false) :
    RunCoherent (w.stop.modify call fun r => { r with poller := .done }) := by
  have here := ctx_of_poller coherent alive
  have stopped := stop_coherent coherent
  have delivers := stopped.delivers call
  refine task_coherent stopped ?_ ⟨delivers.inOrder, delivers.ownStop⟩ rfl
  simp [RunWorker.stop, here, RunWorker.cancel]

theorem monitorWakes_coherent (coherent : RunCoherent w) (cancelled : (w.calls call).cancelled = true)
    (alive : (w.calls call).monitor = .waiting) :
    RunCoherent ((w.enqueue .stopQueue).modify call fun r => { r with monitor := .done }) := by
  have here : w.ctx = some call := ctx_of_monitor coherent (by simp [RunCall.monitorOver, alive])
  have stopped : RunCoherent (w.enqueue .stopQueue) := by
    apply enqueue_coherent coherent
    intro _ other found
    obtain rfl : call = other := Option.some.inj (here.symm.trans found)
    exact cancelled
  have delivers := stopped.delivers call
  refine task_coherent stopped ?_ ⟨delivers.inOrder, delivers.ownStop⟩ rfl
  simp only [RunWorker.enqueue, coherent.queue, here, RunWorker.modify_ctx]

theorem monitorCancelled_coherent (coherent : RunCoherent w) (alive : (w.calls call).monitor = .waiting) :
    RunCoherent (w.modify call fun r => { r with monitor := .done }) := by
  have here : w.ctx = some call := ctx_of_monitor coherent (by simp [RunCall.monitorOver, alive])
  have delivers := coherent.delivers call
  exact task_coherent coherent here ⟨delivers.inOrder, delivers.ownStop⟩ rfl

/-- A call begins when no other has begun that has not been cleaned up. -/
theorem begins_coherent {timeout : Bool} (coherent : RunCoherent w) (disciplined : orderly w (.run timeout) = true)
    (free : ∀ ctx, w.ctx = some ctx → (w.calls ctx).cancelled = true) : RunCoherent (w.begin timeout) := by
  refine begin_coherent coherent ?_ timeout
  cases found : w.ctx with
  | none => rfl
  | some ctx =>
    have live : (w.calls ctx).cancelled = false := by simpa [orderly, found] using disciplined
    simp [free ctx found] at live

/-- Every action that the discipline allows keeps the invariant. -/
theorem step_coherent {action : RunAction ρ} (coherent : RunCoherent w) (disciplined : orderly w action = true)
    (taken : w.step autostake action = some w') : RunCoherent w' := by
  cases RunWorker.step_took taken with
  | begins timeout free => exact begins_coherent coherent disciplined free
  | refused => exact records_coherent coherent _ _
  | initialized place => exact initialized_coherent coherent place
  | subscribed place => exact subscribed_coherent coherent place
  | lastSubscribed place => exact lastSubscribed_coherent coherent place
  | received place received => exact receive_coherent coherent place received
  | receiveTimeout place => exact again_coherent coherent place ⟨nofun, nofun, rfl⟩
  | resumed place => exact again_coherent coherent place ⟨nofun, nofun, rfl⟩
  | interrupted reaches => exact interrupted_coherent coherent reaches
  | cancelled reaches => exact cancelled_coherent coherent reaches
  | retryEnded place => exact retryEnded_coherent coherent place
  | unsubscribed place => exact unsubscribed_coherent coherent place
  | gathered place poller monitor => exact gathered_coherent coherent place poller monitor
  | cleanupCancelled => cases disciplined
  | pollerStarts alive =>
    refine poller_coherent coherent (by simp [RunCall.pollerOver, alive]) ?_ rfl
    exact fun delivers => ⟨delivers.inOrder, delivers.ownStop⟩
  | pollerPuts => exact put_coherent coherent _ _
  | cycleEnds alive =>
    refine poller_coherent coherent (by simp [RunCall.pollerOver, alive]) ?_ rfl
    exact fun delivers => ⟨delivers.inOrder, delivers.ownStop⟩
  | cycleStops alive => exact cycleStops_coherent coherent (by simp [RunCall.pollerOver, alive])
  | pollerWakes alive =>
    refine poller_coherent coherent (by simp [RunCall.pollerOver, alive]) ?_ rfl
    exact fun delivers => ⟨delivers.inOrder, delivers.ownStop⟩
  | pollerCancelled alive =>
    refine poller_coherent coherent ?_ (fun delivers => ⟨delivers.inOrder, delivers.ownStop⟩) rfl
    rcases alive with alive | alive <;> simp [RunCall.pollerOver, alive]
  | monitorWakes cancelled alive => exact monitorWakes_coherent coherent cancelled alive
  | monitorCancelled alive => exact monitorCancelled_coherent coherent alive
  | windowMissed => exact coherent
  | windowOpened => exact records_coherent coherent _ _
  | handlerPuts => exact put_coherent coherent _ _
  | handlerEnds => exact records_coherent coherent _ _
  | stop => exact stop_coherent coherent
  | signal => exact cancel_coherent coherent _

end Preserved

/-! ## Whole runs -/

section Runs

variable {actions : List (RunAction ρ)} {call : ℕ}

/-- Take orderly actions one after the other. -/
def follow (autostake : Bool) : RunWorker ρ → List (RunAction ρ) → Option (RunWorker ρ)
  | w, [] => some w
  | w, action :: rest =>
    if orderly w action then (w.step autostake action).bind fun w₁ => follow autostake w₁ rest else none

theorem follow_path {w w' : RunWorker ρ} (followed : follow autostake w actions = some w') :
    Path (OrderlyStep autostake) w actions w' := by
  induction actions generalizing w with
  | nil =>
    obtain rfl := Option.some.inj followed
    exact .nil w
  | cons action rest ih =>
    unfold follow at followed
    split at followed
    · rename_i passed
      obtain ⟨w₁, taken, followed'⟩ := Option.bind_eq_some_iff.mp followed
      exact .cons ⟨passed, taken⟩ (ih followed')
    · cases followed

theorem follow_reaches (autostake : Bool) (actions : List (RunAction ρ)) (test : RunWorker ρ → Bool)
    (passed : (follow autostake {} actions).any test = true) :
    ∃ w, Path (OrderlyStep autostake) {} actions w ∧ test w = true := by
  obtain ⟨w, followed, tested⟩ := (Option.any_eq_true _ _).mp passed
  exact ⟨w, follow_path followed, tested⟩

/-- One call, from its start to the stop of its worker and its cleanup: two
results are yielded, and a third waits when it stops. -/
def sampleRun : List (RunAction ℕ) :=
  [.run false, .initialized 0, .subscribed 0 10, .pollerStarts 0, .subscribed 0 11, .subscribed 0 12, .subscribed 0 13,
    .pollerPuts 0 100, .windowOpened, .handlerPuts 0 101, .received 0, .resumed 0, .received 0, .handlerPuts 0 102,
    .stop, .monitorWakes 0, .resumed 0, .retryEnded 0, .unsubscribed 0, .unsubscribed 0, .cycleEnds 0,
    .unsubscribed 0, .unsubscribed 0, .pollerWakes 0, .gathered 0]

end Runs

end AlloraSdk.Guarantees
