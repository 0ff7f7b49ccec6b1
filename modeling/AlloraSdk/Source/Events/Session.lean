import AlloraSdk.Logic.Tasks
import AlloraSdk.Source.Events.Subscriptions

/-!
# A session of the websocket client

Source: rpc_client/client_websocket_events.py, the segments between two awaits of
`subscribe`, `subscribe_new_block_events`, `subscribe_new_block_events_typed`,
`unsubscribe`, `_connect`, `_event_loop` and `_handle_message` that change the
subscriptions, their callbacks or what the dedupe remembers. An interleaving of
the client's tasks is a list of such steps. `stop` is left out.
-/

namespace AlloraSdk.Source.Events
open AlloraSdk.Logic AlloraSdk.Source.Utils

inductive SessionStep where
  /-- Time passes. -/
  | tick (elapsed : ℕ)
  /-- The connection gets a `close_code`. -/
  | closed
  /-- The event loop gives the connection up. -/
  | disconnected
  /-- `connect_fn` returned: `_connect` takes its snapshot of the subscriptions. -/
  | connected
  /-- `_connect` has sent a subscription. -/
  | sent (id : String)
  /-- One of the three subscribe calls, with its stem for made-up ids. -/
  | subscribe (stem : String) (given : Option String) (query : String) (subscriptionType : SubscriptionType)
      (callback : Callback)
  /-- `unsubscribe`, after its request was sent. -/
  | unsubscribed (id : String)
  /-- A message is handled, up to the callbacks. -/
  | frame (data : Option Json)

namespace SubscriberState

/-- After `__init__`. -/
def start : SubscriberState where
  running := false
  starting := false
  websocket := none
  closed := []
  connections := 0
  subscriptions := .empty
  callbacks := .empty
  recentEventKeys := .empty
  subscriptionIdCounter := 0
  clock := 0

variable (s : SubscriberState)

/-- The caller's id, unless it is None or empty. -/
def chooseId (stem : String) (given : Option String) : String × SubscriberState :=
  match given.filter (· ≠ "") with
  | some id => (id, s)
  | none =>
    (stem ++ toString (s.subscriptionIdCounter + 1), { s with subscriptionIdCounter := s.subscriptionIdCounter + 1 })

def register (id query : String) (subscriptionType : SubscriptionType) (callback : Callback) : SubscriberState :=
  { s with
    subscriptions := s.subscriptions.set id ⟨query, subscriptionType, false, false⟩
    callbacks := s.callbacks.set id ((s.callbacks.get? id).getD [] ++ [callback]) }

/-- Every subscription is to be sent again, and confirmed. -/
def establish : SubscriberState :=
  { s with
    websocket := some s.connections
    connections := s.connections + 1
    subscriptions := s.subscriptions.map fun _ info => { info with active := false, sent := false } }

def remove (id : String) : SubscriberState :=
  { s with subscriptions := s.subscriptions.pop id, callbacks := s.callbacks.pop id }

end SubscriberState

namespace AlloraWebsocketSubscriber

variable (client : AlloraWebsocketSubscriber)

def step (s : SubscriberState) : SessionStep → SubscriberState
  | .tick elapsed => { s with clock := s.clock + elapsed }
  | .closed => { s with closed := s.websocket.toList ++ s.closed }
  | .disconnected => { s with websocket := none }
  | .connected => s.establish
  | .sent id => { s with subscriptions := s.subscriptions.modify id fun info => { info with sent := true } }
  | .subscribe stem given query subscriptionType callback =>
    let chosen := s.chooseId stem given
    chosen.2.register chosen.1 query subscriptionType callback
  | .unsubscribed id => s.remove id
  | .frame data => ((client.handleMessage data).settle s).2

def after (s : SubscriberState) (steps : List SessionStep) : SubscriberState := steps.foldl client.step s

end AlloraWebsocketSubscriber

/-- The frame without event data: the id it answers, and whether it confirms. -/
def controlOf (data : Option Json) : Option (String × Bool) :=
  match data.bind readFrame with
  | some (.confirmed (.str id)) => some (id, true)
  | some (.rejected (.str id)) => some (id, false)
  | _ => none

def Dispatchable (s : SubscriberState) (id : String) : Prop :=
  ∃ info, (id, info) ∈ s.subscriptions.entries ∧ info.active = true

instance {s : SubscriberState} {id : String} : Decidable (Dispatchable s id) :=
  decidable_of_iff (∃ entry ∈ s.subscriptions.entries, entry.1 = id ∧ entry.2.active = true) (by
    simp [Dispatchable])

/-- What `_dispatch_to_subscription` is called with. -/
def dispatched (s : SubscriberState) (data : Option Json) : Option (String × Json × Option ℤ) :=
  match data.bind readFrame with
  | some (.events (some (.str id)) events blockHeight) =>
    if id = "" then none
    else match s.subscriptions.get? id with
      | some info => if info.active then some (id, events, blockHeight) else none
      | none => none
  | _ => none

section Frames

variable {client : AlloraWebsocketSubscriber} {s : SubscriberState} {data : Option Json} {id : String}

/-- A message is dispatched, or answers a request, or does nothing. -/
theorem settle_handleMessage : (client.handleMessage data).settle s =
    match dispatched s data, controlOf data with
    | some (id, events, blockHeight), _ => (client.dispatchToSubscription id events blockHeight).settle s
    | none, some (id, active) => (.done, s.setActive (.str id) active)
    | none, none => (.done, s) := by
  unfold AlloraWebsocketSubscriber.handleMessage dispatched controlOf
  cases data.bind readFrame with
  | none => rfl
  | some frame =>
    cases frame with
    | heartbeat => rfl
    | nothing => rfl
    | confirmed id => cases id <;> rfl
    | rejected id => cases id <;> rfl
    | events target events blockHeight =>
      rcases target with _ | id
      · rfl
      · cases id with
        | str id =>
          by_cases empty : id = ""
          · simp [AlloraWebsocketSubscriber.dispatchEvents, empty, Coroutine.settle]
          · cases found : s.subscriptions.get? id with
            | none => simp [AlloraWebsocketSubscriber.dispatchEvents, empty, Coroutine.settle, found]
            | some info =>
              cases active : info.active <;>
                simp [AlloraWebsocketSubscriber.dispatchEvents, empty, Coroutine.settle, found, active]
        | _ => rfl

/-- An event frame is dispatched when its subscription is active. -/
theorem dispatched_iff {events : Json} {blockHeight : Option ℤ} : dispatched s data = some (id, events, blockHeight) ↔
    data.bind readFrame = some (.events (some (.str id)) events blockHeight) ∧ id ≠ "" ∧ Dispatchable s id := by
  unfold dispatched
  constructor
  · intro dispatches
    split at dispatches
    · rename_i frame
      split at dispatches
      · cases dispatches
      rename_i named
      split at dispatches
      · rename_i info found
        split at dispatches
        · rename_i active
          cases dispatches
          exact ⟨frame, named, info, PyDict.get?_eq_some.mp found, active⟩
        · cases dispatches
      · cases dispatches
    · cases dispatches
  · rintro ⟨frame, named, info, member, active⟩
    rw [frame]
    dsimp only
    rw [if_neg named, PyDict.get?_eq_some.mpr member]
    dsimp only
    rw [if_pos active]

theorem controlOf_none_of_dispatched {target : String × Json × Option ℤ} (dispatches : dispatched s data = some target) :
    controlOf data = none := by
  unfold dispatched at dispatches
  unfold controlOf
  split at dispatches
  · rename_i frame
    rw [frame]
  · cases dispatches

/-- The callbacks and the dedupe leave the subscriptions alone. -/
theorem settle_executeCallbacks {callbacks : List Callback} {values : List EventValue} {blockHeight : Option ℤ} :
    ((client.executeCallbacks callbacks values blockHeight id).settle s).2 =
      { s with recentEventKeys := s.recentEventKeys.set id (uniqueEvents (eventKey client.classes blockHeight) s.clock
        (pruneRecent client.dedupeTtl s.clock ((s.recentEventKeys.get? id).getD .empty)) values).1 } := by
  unfold AlloraWebsocketSubscriber.executeCallbacks
  simp only [Coroutine.settle]
  split <;> rfl

/-- What `_execute_callbacks` is called with. -/
def handed (client : AlloraWebsocketSubscriber) (s : SubscriberState) (id : String) (eventData : Json) :
    Option (List Callback × List EventValue) :=
  match eventData.items, s.subscriptions.get? id, s.callbacks.get? id with
  | some (event :: rest), some info, some (callback :: others) =>
    match selectEvents client.classes info.subscriptionType (event :: rest) with
    | some (first :: matching) => some (callback :: others, first :: matching)
    | _ => none
  | _, _, _ => none

theorem settle_dispatchToSubscription {eventData : Json} {blockHeight : Option ℤ} :
    (client.dispatchToSubscription id eventData blockHeight).settle s =
      match handed client s id eventData with
      | some (callbacks, values) => (client.executeCallbacks callbacks values blockHeight id).settle s
      | none => (.done, s) := by
  unfold AlloraWebsocketSubscriber.dispatchToSubscription handed
  simp only [Coroutine.settle]
  generalize eventData.items = items
  generalize s.subscriptions.get? id = info
  generalize s.callbacks.get? id = callbacks
  rcases items with _ | _ | ⟨event, rest⟩
  · rfl
  · rfl
  rcases info with _ | info
  · rfl
  rcases callbacks with _ | _ | ⟨callback, others⟩
  · rfl
  · rfl
  dsimp only
  generalize selectEvents client.classes info.subscriptionType (event :: rest) = values
  rcases values with _ | _ | ⟨first, matching⟩
  · rfl
  · rfl
  · rfl

/-- What an event frame passes to the callbacks: the subscription, the height, the
callbacks and the events. -/
def delivery (client : AlloraWebsocketSubscriber) (s : SubscriberState) (data : Option Json) :
    Option (String × Option ℤ × List Callback × List EventValue) := do
  let (id, events, blockHeight) ← dispatched s data
  let (callbacks, values) ← handed client s id events
  pure (id, blockHeight, callbacks, values)

/-- A frame changes the flag that it answers, or the keys that it records. -/
theorem settle_frame : (client.handleMessage data).settle s =
    match delivery client s data, controlOf data with
    | some (id, blockHeight, callbacks, values), _ => (client.executeCallbacks callbacks values blockHeight id).settle s
    | none, some (id, active) => (.done, s.setActive (.str id) active)
    | none, none => (.done, s) := by
  rw [settle_handleMessage]
  unfold delivery
  cases dispatches : dispatched s data with
  | none => cases controlOf data <;> rfl
  | some target =>
    obtain ⟨id, events, blockHeight⟩ := target
    have none := controlOf_none_of_dispatched dispatches
    simp only [settle_dispatchToSubscription, Option.bind_eq_bind, Option.bind_some, none]
    cases handed client s id events with
    | none => rfl
    | some given => rfl

end Frames

section Steps

variable {client : AlloraWebsocketSubscriber} {s : SubscriberState} {id : String}

theorem frame_subscriptions (data : Option Json) : (client.step s (.frame data)).subscriptions =
    match controlOf data with
    | some (other, active) => s.subscriptions.modify other fun info => { info with active := active }
    | none => s.subscriptions := by
  change ((client.handleMessage data).settle s).2.subscriptions = _
  rw [settle_frame]
  cases delivers : delivery client s data with
  | none => cases controlOf data <;> rfl
  | some given =>
    obtain ⟨target, dispatches, -⟩ := Option.bind_eq_some_iff.mp delivers
    rw [controlOf_none_of_dispatched dispatches]
    simp only [settle_executeCallbacks]

theorem after_append (s : SubscriberState) (first second : List SessionStep) :
    client.after s (first ++ second) = client.after (client.after s first) second := by
  simp [AlloraWebsocketSubscriber.after]

theorem after_snoc (s : SubscriberState) (steps : List SessionStep) (step : SessionStep) :
    client.after s (steps ++ [step]) = client.step (client.after s steps) step := by
  simp [AlloraWebsocketSubscriber.after]

/-- A subscribe call that registers `id`. -/
def Names (id : String) (s : SubscriberState) : SessionStep → Prop
  | .subscribe stem given _ _ _ => (s.chooseId stem given).1 = id
  | _ => False

/-- What a step does to the flag of a subscription. -/
theorem dispatchable_step (step : SessionStep) : Dispatchable (client.step s step) id ↔
    match step with
    | .connected => False
    | .unsubscribed other => other ≠ id ∧ Dispatchable s id
    | .frame data =>
      match controlOf data with
      | some (other, active) => if other = id then active = true ∧ id ∈ s.subscriptions.keys else Dispatchable s id
      | none => Dispatchable s id
    | step => ¬ Names id s step ∧ Dispatchable s id := by
  cases step with
  | tick elapsed => simp [Names, Dispatchable, AlloraWebsocketSubscriber.step]
  | closed => simp [Names, Dispatchable, AlloraWebsocketSubscriber.step]
  | disconnected => simp [Names, Dispatchable, AlloraWebsocketSubscriber.step]
  | connected =>
    simp only [Dispatchable, AlloraWebsocketSubscriber.step, SubscriberState.establish, PyDict.map, List.mem_map,
      iff_false]
    rintro ⟨info, ⟨entry, -, same⟩, active⟩
    cases same
    cases active
  | sent other =>
    simp only [Dispatchable, AlloraWebsocketSubscriber.step, Names, not_false_eq_true, true_and]
    rw [PyDict.exists_modify]
    refine exists_congr fun info => and_congr_right fun _ => ?_
    split <;> rfl
  | subscribe stem given query subscriptionType callback =>
    have same : (s.chooseId stem given).2.subscriptions = s.subscriptions := by
      unfold SubscriberState.chooseId
      split <;> rfl
    simp only [Dispatchable, AlloraWebsocketSubscriber.step, SubscriberState.register, PyDict.mem_set, same, Names]
    by_cases here : id = (s.chooseId stem given).1
    · simp [here]
    · simp [here, Ne.symm here]
  | unsubscribed other =>
    simp only [Dispatchable, AlloraWebsocketSubscriber.step, SubscriberState.remove, PyDict.mem_pop]
    constructor
    · rintro ⟨info, ⟨member, distinct⟩, active⟩
      exact ⟨Ne.symm distinct, info, member, active⟩
    · rintro ⟨distinct, info, member, active⟩
      exact ⟨info, ⟨member, Ne.symm distinct⟩, active⟩
  | frame data =>
    simp only [Dispatchable, frame_subscriptions]
    cases controlOf data with
    | none => rfl
    | some answer =>
      obtain ⟨other, active⟩ := answer
      rw [PyDict.exists_modify]
      by_cases here : other = id
      · subst here
        simp only [if_true]
        rw [PyDict.mem_keys, exists_and_right, and_comm]
      · simp only [here, Ne.symm here, if_false]

end Steps

end AlloraSdk.Source.Events
