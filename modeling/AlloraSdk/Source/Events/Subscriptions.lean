import AlloraSdk.Logic.Coroutine
import AlloraSdk.Source.Utils.PyDict
import AlloraSdk.Source.Events.Filters

/-!
# Subscriptions and the dispatch of their events

Source: rpc_client/client_websocket_events.py, `__init__`, `_handle_message`,
`_dispatch_events`, `_dispatch_to_subscription` and the three event handlers.

Nobody awaits anything while holding `_state_lock`, so it is never waited for.
Times are microseconds, of one clock. Connections and callables are told apart by
number.
-/

namespace AlloraSdk.Source.Events
open AlloraSdk.Logic AlloraSdk.Source.Utils

/-- The parameters of the constructor, as it checks them. -/
structure AlloraWebsocketSubscriber where
  eventRecvTimeout : ℕ
  /-- `max_event_silence_secs or None`. -/
  maxEventSilence : Option ℕ
  heartbeat : Bool
  reconnectDelay : ℕ
  dedupeTtl : ℕ
  classes : EventClasses
  receives : 0 < eventRecvTimeout
  patient : ∀ silence ∈ maxEventSilence, eventRecvTimeout < silence

abbrev Callback := ℕ

inductive SubscriptionType where
  | tendermintQuery
  | newBlockEvents (eventName : String) (conditions : List EventAttributeCondition)
  | typedNewBlockEvents (eventName : String) (eventClass : MessageClass)
      (conditions : List EventAttributeCondition)
  deriving DecidableEq, Repr

structure SubscriptionInfo where
  query : String
  subscriptionType : SubscriptionType
  active : Bool
  sent : Bool
  deriving DecidableEq, Repr

structure SubscriberState where
  running : Bool
  /-- The task of the event loop was created and has not begun. -/
  starting : Bool
  websocket : Option ℕ
  /-- The connections that have a `close_code`. -/
  closed : List ℕ
  /-- How many connections there were. -/
  connections : ℕ
  subscriptions : PyDict SubscriptionInfo
  callbacks : PyDict (List Callback)
  recentEventKeys : PyDict (PyDict ℕ)
  subscriptionIdCounter : ℕ
  clock : ℕ

/-- What a callback is called with. -/
inductive EventValue where
  | json (event : Json)
  | message (message : Message)
  deriving DecidableEq, Repr

structure Job where
  callback : Callback
  event : EventValue
  blockHeight : Option ℤ
  deriving DecidableEq, Repr

inductive RpcMethod where
  | subscribe | unsubscribe
  deriving DecidableEq, Repr

/-- The heartbeat's JSON-RPC id is the integer 0. -/
inductive RequestId where
  | heartbeat
  | caller (id : String)
  deriving DecidableEq, Repr

structure RpcRequest where
  method : RpcMethod
  id : RequestId
  query : String
  deriving DecidableEq, Repr

inductive RecvOutcome where
  /-- The message's JSON value, when it has one. -/
  | message (data : Option Json)
  | timeout
  | connectionClosed
  | failed
  deriving DecidableEq, Repr

inductive PingOutcome where
  | pinged | connectionClosed | failed
  deriving DecidableEq, Repr

inductive SubscriberRequest where
  | connect
  | send (connection : ℕ) (request : RpcRequest)
  | recv (connection : ℕ)
  | ping (connection : ℕ)
  | close (connection : ℕ)
  | sleep (duration : ℕ)
  /-- The callbacks of one frame. -/
  | gather (jobs : List Job)
  deriving DecidableEq, Repr

/-- `connect_fn` and `send` succeed or raise. -/
abbrev SubscriberReply : SubscriberRequest → Type
  | .connect => Bool
  | .send _ _ => Bool
  | .recv _ => RecvOutcome
  | .ping _ => PingOutcome
  | .close _ => Unit
  | .sleep _ => Unit
  | .gather _ => Unit

abbrev Client := Coroutine SubscriberState SubscriberRequest SubscriberReply

/-! ## Frames -/

inductive Frame where
  | heartbeat
  | confirmed (id : Json)
  | rejected (id : Json)
  | events (id : Option Json) (events : Json) (blockHeight : Option ℤ)
  | nothing
  deriving DecidableEq, Repr

/-- `int(height)`. -/
def heightOf : Json → Option ℤ
  | .str text => pyInt text.toList
  | .int height => some height
  | .bool value => some value.toNat
  | _ => none

/-- `data.get("result", {}).get("data")`. -/
def resultData (data : Json) : Option (Option Json) := do
  let result ← data.get "result"
  (result.getD (.obj [])).get "data"

/-- The value of a NewBlockEventsDataFrame. -/
def newBlockEventsValue : Json → Option (String × Json)
  | .obj fields =>
    match fields.lookup "type", fields.lookup "value" with
    | some (.str "tendermint/event/NewBlockEvents"), some (.obj value) =>
      match value.lookup "height", value.lookup "events" with
      | some (.str height), some (.arr events) => some (height, .arr events)
      | _, _ => none
    | _, _ => none
  | _ => none

/-- `JSONRPCResponse.model_validate`: `none` where it raises; within, the value of
a NewBlockEvents result, or another result. -/
def validateResponse (data : Json) : Option (Option (String × Json)) :=
  match data with
  | .obj fields =>
    match fields.lookup "jsonrpc", fields.lookup "id" with
    | some (.str _), some (.str _) =>
      match (fields.lookup "result").getD .null with
      | .null => some none
      | .obj result =>
        match result.lookup "query", result.lookup "data" with
        | some (.str _), some inner => some (newBlockEventsValue inner)
        | _, _ => some none
      | _ => none
    | _, _ => none
  | _ => none

/-- The fallback when the structured parsing raises. -/
def extractManually (data : Json) : Option Frame := do
  let inner ← resultData data
  let value ← (inner.getD (.obj [])).get "value"
  let events ← (value.getD (.obj [])).get "events"
  let height ← (value.getD (.obj [])).get "height"
  let id ← data.get "id"
  match events with
  | none | some .null => pure .nothing
  | some events => pure (.events id events (height.bind fun text => if text.truthy then heightOf text else none))

/-- The structured parsing of a frame with event data, and its fallback. -/
def readEvents (data : Json) (id : Option Json) : Option Frame :=
  match validateResponse data with
  | some (some (height, events)) =>
    if height = "" then some (.events id events none)
    else match pyInt height.toList with
      | some height => some (.events id events (some height))
      | none => extractManually data
  -- only NewBlockEvents results have the right type
  | some none => some .nothing
  | none => extractManually data

/-- Read a frame; `none` where an exception ends it. -/
def readFrame (data : Json) : Option Frame := do
  let id ← data.get "id"
  if id = some (.int 0) ∨ id = some (.bool false) then pure .heartbeat
  else
    let error ← data.get "error"
    let inner ← resultData data
    match inner, id with
    | none, some id | some .null, some id => pure (if error.isSome then .rejected id else .confirmed id)
    | _, _ => readEvents data id

/-- A frame with event data answers no request. -/
theorem readEvents_quiet {data : Json} {target : Option Json} {frame : Frame}
    (read : readEvents data target = some frame) :
    frame = .nothing ∨ ∃ id events blockHeight, frame = .events id events blockHeight := by
  have manual : extractManually data = some frame →
      frame = .nothing ∨ ∃ id events blockHeight, frame = .events id events blockHeight := by
    intro read
    unfold extractManually at read
    simp only [Option.bind_eq_bind, Option.bind_eq_some_iff, Option.pure_def] at read
    obtain ⟨inner, -, value, -, events, -, height, -, id, -, read⟩ := read
    split at read
    · exact .inl (Option.some.inj read).symm
    · exact .inl (Option.some.inj read).symm
    · exact .inr ⟨_, _, _, (Option.some.inj read).symm⟩
  unfold readEvents at read
  split at read
  · split at read
    · exact .inr ⟨_, _, _, (Option.some.inj read).symm⟩
    · split at read
      · exact .inr ⟨_, _, _, (Option.some.inj read).symm⟩
      · exact manual read
  · exact .inl (Option.some.inj read).symm
  · exact manual read

/-! ## Matching and dedupe -/

/-- `e.get("type") == event_name`. -/
def typeIs (eventName : String) (event : Json) : Option Bool :=
  (event.get "type").map fun type => type = some (.str eventName)

/-- The elements that a test which may raise keeps. -/
def keepM {α : Type} (test : α → Option Bool) : List α → Option (List α)
  | [] => some []
  | x :: rest => do
    let kept ← test x
    let others ← keepM test rest
    pure (if kept then x :: others else others)

/-- The events that a subscription's handler passes on. -/
def selectEvents (classes : EventClasses) (subscriptionType : SubscriptionType) (eventData : List Json) :
    Option (List EventValue) :=
  match subscriptionType with
  | .tendermintQuery => some (eventData.map .json)
  | .newBlockEvents eventName conditions =>
    if eventName = "" then some []
    else do
      let named ← keepM (typeIs eventName) eventData
      let matching ← if conditions.isEmpty then some named
        else keepM (fun event => eventMatchesConditionsUntyped classes event eventName conditions) named
      pure (matching.map .json)
  | .typedNewBlockEvents eventName eventClass conditions =>
    if eventName = "" then some []
    else do
      let named ← keepM (typeIs eventName) eventData
      let marshaled ← named.mapM classes.marshalEvent
      let matching ← keepM (fun message => eventMatchesConditionsTyped classes message eventClass conditions)
        marshaled.reduceOption
      pure (matching.map .message)

/-- `_event_key`; where `json.dumps` raises, it is the `str` of the event. -/
def contentKey (classes : EventClasses) : EventValue → String
  | .json (.obj fields) => (Json.obj fields).dumps.getD (classes.pyStr (.obj fields))
  | .json event => classes.pyStr event
  | .message message => classes.str message

def eventKey (classes : EventClasses) (blockHeight : Option ℤ) (event : EventValue) : String :=
  (match blockHeight with
    | none => "None"
    | some height => toString height) ++ ":" ++ contentKey classes event

/-- The keys that are not older than the dedupe interval. -/
def pruneRecent (dedupeTtl now : ℕ) (recent : PyDict ℕ) : PyDict ℕ :=
  recent.filter fun seen => decide ((now : ℤ) - dedupeTtl ≤ seen)

/-- Record the new keys, and keep the first event of each. -/
def uniqueEvents (key : EventValue → String) (now : ℕ) : PyDict ℕ → List EventValue → PyDict ℕ × List EventValue
  | recent, [] => (recent, [])
  | recent, event :: rest =>
    if key event ∈ recent.keys then uniqueEvents key now recent rest
    else
      let later := uniqueEvents key now (recent.set (key event) now) rest
      (later.1, event :: later.2)

section Unique

variable {key : EventValue → String} {now : ℕ} {recent : PyDict ℕ} {events : List EventValue}

theorem mem_uniqueEvents {event : EventValue} (kept : event ∈ (uniqueEvents key now recent events).2) :
    event ∈ events := by
  induction events generalizing recent with
  | nil => cases kept
  | cons first rest ih =>
    unfold uniqueEvents at kept
    split at kept
    · exact .tail _ (ih kept)
    · rcases List.mem_cons.mp kept with same | later
      · exact same ▸ .head _
      · exact .tail _ (ih later)

/-- One event is kept of each content that is not recent. -/
theorem countP_uniqueEvents (content : String) :
    (uniqueEvents key now recent events).2.countP (fun event => key event = content) =
      if content ∉ recent.keys ∧ content ∈ events.map key then 1 else 0 := by
  induction events generalizing recent with
  | nil => simp [uniqueEvents]
  | cons first rest ih =>
    unfold uniqueEvents
    by_cases seen : key first ∈ recent.keys
    · rw [if_pos seen, ih]
      by_cases same : content = key first
      · simp [same, seen]
      · simp [same]
    · rw [if_neg seen, List.countP_cons, ih]
      by_cases same : content = key first
      · simp [same, seen, PyDict.mem_keys_set]
      · simp [same, Ne.symm same, PyDict.mem_keys_set]

end Unique

/-! ## The message handler -/

namespace AlloraWebsocketSubscriber

variable (client : AlloraWebsocketSubscriber)

/-- What became of the callbacks' exceptions is only logged. -/
def executeCallbacks (callbacks : List Callback) (events : List EventValue) (blockHeight : Option ℤ)
    (id : String) : Client Unit :=
  .read fun s =>
    let recent := pruneRecent client.dedupeTtl s.clock ((s.recentEventKeys.get? id).getD .empty)
    let kept := uniqueEvents (eventKey client.classes blockHeight) s.clock recent events
    let jobs := callbacks.flatMap fun callback => kept.2.map fun event => ⟨callback, event, blockHeight⟩
    .write { s with recentEventKeys := s.recentEventKeys.set id kept.1 }
      (if jobs.isEmpty then .ret () else .await (.gather jobs) .ret)

def dispatchToSubscription (id : String) (eventData : Json) (blockHeight : Option ℤ) : Client Unit :=
  .read fun s =>
    match eventData.items, s.subscriptions.get? id, s.callbacks.get? id with
    | some (event :: rest), some info, some (callback :: others) =>
      match selectEvents client.classes info.subscriptionType (event :: rest) with
      | some (first :: matching) =>
        client.executeCallbacks (callback :: others) (first :: matching) blockHeight id
      | _ => .ret ()
    | _, _, _ => .ret ()

def dispatchEvents (eventData : Json) (target : Option Json) (blockHeight : Option ℤ) : Client Unit :=
  match target with
  | some (.str id) =>
    if id = "" then .ret ()
    else .read fun s =>
      match s.subscriptions.get? id with
      | some info => if info.active then client.dispatchToSubscription id eventData blockHeight else .ret ()
      | none => .ret ()
  | _ => .ret ()

end AlloraWebsocketSubscriber

def SubscriberState.setActive (s : SubscriberState) (id : Json) (active : Bool) : SubscriberState :=
  match id with
  | .str id => { s with subscriptions := s.subscriptions.modify id fun info => { info with active := active } }
  | _ => s

/-- An exception in the handler is only logged. -/
def AlloraWebsocketSubscriber.handleMessage (client : AlloraWebsocketSubscriber) (data : Option Json) :
    Client Unit :=
  match data.bind readFrame with
  | some (.confirmed id) => .read fun s => .write (s.setActive id true) (.ret ())
  | some (.rejected id) => .read fun s => .write (s.setActive id false) (.ret ())
  | some (.events id events blockHeight) => client.dispatchEvents events id blockHeight
  | some .heartbeat | some .nothing | none => .ret ()

end AlloraSdk.Source.Events
