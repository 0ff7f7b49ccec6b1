import AlloraSdk.Logic.Outline
import AlloraSdk.Source.Events.Subscriptions

/-!
# The connection of the websocket client, and its calls

Source: rpc_client/client_websocket_events.py, `subscribe`, `unsubscribe`,
`subscribe_new_block_events`, `subscribe_new_block_events_typed`, `_connect` and
`_event_loop`.

Of the client's state this is the part that the connection is about, and of a
subscription its query; what a message does is in `Subscriptions`. No block under
`_state_lock` contains an await, and only the event loop takes `_connect_lock`, so
neither is ever waited for. `stop` is left out.
-/

namespace AlloraSdk.Source.Events
open AlloraSdk.Logic AlloraSdk.Source.Utils

/-- A subscription as it is requested. -/
abbrev Registration := RequestId × String

/-- The last five fields are history: the task of the event loop, every request
with the connection it was sent on, what `_connect` has still to send, the tasks
that await an unsubscribe request, and the ids that were subscribed under. -/
structure ConnectionState where
  running : Bool
  /-- The task of the event loop was created and has not begun. -/
  starting : Bool
  websocket : Option ℕ
  /-- The connections that have a `close_code`. -/
  closed : List ℕ
  /-- How many connections there were. -/
  connections : ℕ
  subscriptions : PyDict String
  subscriptionIdCounter : ℕ
  loop : Option ℕ
  wire : List (ℕ × RpcRequest)
  pending : List Registration
  leaving : List (ℕ × Registration)
  used : List String

/-- What ended a `recv`; a timeout, with whether the silence has lasted too long. -/
inductive Received where
  | message
  | timeout (silent : Bool)
  | connectionClosed
  | failed
  deriving DecidableEq

inductive ConnectionRequest where
  /-- The task of the event loop begins. -/
  | starts
  | connect
  | send (connection : ℕ) (request : RpcRequest)
  | recv (connection : ℕ)
  /-- `_handle_message`, with the callbacks that it awaits. -/
  | handleMessage
  | ping (connection : ℕ)
  | close (connection : ℕ)
  | sleep
  deriving DecidableEq

/-- `connect_fn` and `send` succeed or raise. -/
abbrev ConnectionReply : ConnectionRequest → Type
  | .starts => Unit
  | .connect => Bool
  | .send _ _ => Bool
  | .recv _ => Received
  | .handleMessage => Unit
  | .ping _ => PingOutcome
  | .close _ => Unit
  | .sleep => Unit

/-- The ValueErrors of the subscribe calls. -/
inductive SubscribeError where
  | heartbeatQuery
  | unknownEventClass
  deriving DecidableEq

abbrev Connecting := Routine SubscribeError ConnectionState ConnectionRequest ConnectionReply

namespace ConnectionState

def start : ConnectionState where
  running := false
  starting := false
  websocket := none
  closed := []
  connections := 0
  subscriptions := .empty
  subscriptionIdCounter := 0
  loop := none
  wire := []
  pending := []
  leaving := []
  used := []

variable (s : ConnectionState)

/-- `self.websocket and not self.websocket.close_code`. -/
def connection : Option ℕ := s.websocket.filter fun c => decide (c ∉ s.closed)

def registrations : List Registration := s.subscriptions.entries.map fun entry => (.caller entry.1, entry.2)

def sentOn (c : ℕ) : List RpcRequest := (s.wire.filter fun sent => sent.1 = c).map Prod.snd

/-- `_ensure_started` and `start`. -/
def ensureStarted : ConnectionState :=
  if s.running then s else { s with running := true, starting := true }

def register (id query : String) : ConnectionState :=
  { s with subscriptions := s.subscriptions.set id query, used := id :: s.used }

def subscribed (c : ℕ) (r : Registration) : ConnectionState :=
  { s with wire := s.wire ++ [(c, ⟨.subscribe, r.1, r.2⟩)] }

def unsubscribed (me c : ℕ) (r : Registration) : ConnectionState :=
  { s with wire := s.wire ++ [(c, ⟨.unsubscribe, r.1, r.2⟩)], leaving := (me, r) :: s.leaving }

def drop (me : ℕ) (id : String) : ConnectionState :=
  { s with subscriptions := s.subscriptions.pop id, leaving := s.leaving.filter fun entry => entry.1 ≠ me }

def sending (rest : List Registration) : ConnectionState := { s with pending := rest }

def begin (me : ℕ) : ConnectionState := { s with starting := false, loop := some me }

/-- A connection gets its `close_code`. -/
def lose : ConnectionState := { s with closed := s.websocket.toList ++ s.closed }

def disconnect : ConnectionState := { s with websocket := none }

/-- The heartbeat's subscription, when it is enabled. -/
def heartbeats (client : AlloraWebsocketSubscriber) : List Registration :=
  if client.heartbeat then [(.heartbeat, EventFilter.newBlockHeaders.toQuery)] else []

/-- The new connection, with the snapshot of what is to be sent on it. -/
def establish (client : AlloraWebsocketSubscriber) : ConnectionState :=
  { s with
    websocket := some s.connections
    connections := s.connections + 1
    pending := heartbeats client ++ s.registrations }

end ConnectionState

section Programs

variable (client : AlloraWebsocketSubscriber) (me : ℕ)

/-- The caller's id, unless it is None or empty. -/
def chooseId (stem : String) (given : Option String) : Connecting String :=
  match given.filter (· ≠ "") with
  | some id => pure id
  | none => do
    Routine.update fun s => { s with subscriptionIdCounter := s.subscriptionIdCounter + 1 }
    return stem ++ toString (← Routine.state).subscriptionIdCounter

def subscribe (filter : EventFilter) (given : Option String) : Connecting Unit := do
  if client.heartbeat ∧ filter.toQuery = EventFilter.newBlockHeaders.toQuery then
    throw .heartbeatQuery
  else
    Routine.update ConnectionState.ensureStarted
    let id ← chooseId "sub_" given
    Routine.update fun s => s.register id filter.toQuery

/-- Registered, and sent at once if connected. -/
def registerAndSend (id query : String) : Connecting Unit := do
  match (← Routine.state).connection with
  | none => Routine.update fun s => s.register id query
  | some c =>
    Routine.update fun s => (s.register id query).subscribed c (.caller id, query)
    let _ ← Routine.await (ConnectionRequest.send c ⟨.subscribe, .caller id, query⟩)

/-- Both `subscribe_new_block_events`, which differ in the ids they make up and in
that a class may have no event name. -/
def subscribeBlockEvents (stem : String) (eventName : Option String) (conditions : List EventAttributeCondition)
    (given : Option String) : Connecting Unit := do
  Routine.update ConnectionState.ensureStarted
  let id ← chooseId stem given
  match eventName with
  | none => throw .unknownEventClass
  | some name => registerAndSend id (EventFilter.newBlockEvents name conditions).toQuery

def subscribeNewBlockEvents (eventName : String) (conditions : List EventAttributeCondition)
    (given : Option String) : Connecting Unit :=
  subscribeBlockEvents "block_events_" (some eventName) conditions given

def subscribeNewBlockEventsTyped (eventName : Option String) (conditions : List EventAttributeCondition)
    (given : Option String) : Connecting Unit :=
  subscribeBlockEvents "typed_block_events_" eventName conditions given

/-- `_unsubscribe`. -/
def sendUnsubscribe (r : Registration) : Connecting Unit := do
  match (← Routine.state).connection with
  | none => pure ()
  | some c =>
    Routine.update fun s => s.unsubscribed me c r
    let _ ← Routine.await (ConnectionRequest.send c ⟨.unsubscribe, r.1, r.2⟩)

def unsubscribe (id : String) : Connecting Unit := do
  match (← Routine.state).subscriptions.get? id with
  | none => pure ()
  | some query =>
    sendUnsubscribe me (.caller id, query)
    Routine.update fun s => s.drop me id

/-- `_send_subscription`, of the first of what is still to be sent. -/
def sendSubscription (r : Registration) (rest : List Registration) : Connecting Unit := do
  match (← Routine.state).connection with
  | none => Routine.update fun s => s.sending rest
  | some c =>
    Routine.update fun s => (s.subscribed c r).sending rest
    let _ ← Routine.await (ConnectionRequest.send c ⟨.subscribe, r.1, r.2⟩)

def sendSubscriptions : List Registration → Connecting Unit
  | [] => pure ()
  | r :: rest => do
    sendSubscription r rest
    sendSubscriptions rest

/-- `_connect`, for so many attempts. -/
def connect : ℕ → Connecting Unit
  | 0 => pure ()
  | attempts + 1 => do
    if (← Routine.state).running then
      let opened : Bool ← Routine.await ConnectionRequest.connect
      if opened then
        Routine.update fun s => s.establish client
        sendSubscriptions (← Routine.state).pending
      else
        Routine.await ConnectionRequest.sleep
        connect attempts
    else
      pure ()

/-- The watchdog may close the connection; a ping finds out whether it is alive. -/
def onTimeout (c : ℕ) (silent : Bool) : Connecting Unit := do
  if silent ∧ client.maxEventSilence.isSome then
    Routine.await (ConnectionRequest.close c)
    Routine.update ConnectionState.disconnect
  else if c ∈ (← Routine.state).closed then
    pure ()
  else
    let outcome : PingOutcome ← Routine.await (ConnectionRequest.ping c)
    match outcome with
    | .pinged => pure ()
    | .connectionClosed =>
      Routine.update ConnectionState.disconnect
      Routine.await ConnectionRequest.sleep
    | .failed => Routine.await ConnectionRequest.sleep

def receive (c : ℕ) : Connecting Unit := do
  let outcome : Received ← Routine.await (ConnectionRequest.recv c)
  match outcome with
  | .message => Routine.await ConnectionRequest.handleMessage
  | .timeout silent => onTimeout client c silent
  | .connectionClosed =>
    Routine.update ConnectionState.disconnect
    Routine.await ConnectionRequest.sleep
  | .failed => Routine.await ConnectionRequest.sleep

def loopTurn (attempts : ℕ) : Connecting Unit := do
  let s ← Routine.state
  if s.running then
    match s.connection with
    | none => connect client attempts
    | some c => receive client c
  else
    pure ()

/-- So many turns of `_event_loop`. -/
def loopTurns (attempts : ℕ) : ℕ → Connecting Unit
  | 0 => pure ()
  | turns + 1 => do
    loopTurn client attempts
    loopTurns attempts turns

def eventLoop (attempts turns : ℕ) : Connecting Unit := do
  Routine.await ConnectionRequest.starts
  Routine.update fun s => s.begin me
  loopTurns client attempts turns

end Programs

/-- The calls of the client, its event loop, and the loss of a connection. The
first number is the task's. -/
inductive ClientTask where
  | subscribe (me : ℕ) (filter : EventFilter) (given : Option String)
  | subscribeNewBlockEvents (me : ℕ) (eventName : String) (conditions : List EventAttributeCondition)
      (given : Option String)
  | subscribeNewBlockEventsTyped (me : ℕ) (eventName : Option String)
      (conditions : List EventAttributeCondition) (given : Option String)
  | unsubscribe (me : ℕ) (id : String)
  | connectionLost (me : ℕ)
  | eventLoop (me attempts turns : ℕ)

def ClientTask.number : ClientTask → ℕ
  | .subscribe me _ _ | .subscribeNewBlockEvents me _ _ _ | .subscribeNewBlockEventsTyped me _ _ _
  | .unsubscribe me _ | .connectionLost me | .eventLoop me _ _ => me

def clientRoutine (client : AlloraWebsocketSubscriber) : ClientTask → Connecting Unit
  | .subscribe _ filter given => subscribe client filter given
  | .subscribeNewBlockEvents _ eventName conditions given => subscribeNewBlockEvents eventName conditions given
  | .subscribeNewBlockEventsTyped _ eventName conditions given =>
    subscribeNewBlockEventsTyped eventName conditions given
  | .unsubscribe me id => unsubscribe me id
  | .connectionLost _ => Routine.update ConnectionState.lose
  | .eventLoop me attempts turns => eventLoop client me attempts turns

/-- The event loop begins once, when its task was created. -/
def connectionAllows (s : ConnectionState) : Event ConnectionRequest ConnectionReply → Bool
  | ⟨.starts, _⟩ => s.starting
  | _ => true

def clientSystem (client : AlloraWebsocketSubscriber) :
    System ClientTask ConnectionState ConnectionRequest ConnectionReply where
  program task := (clientRoutine client task).run >>= fun _ => pure ()
  enabled := connectionAllows

/-- The subscribe requests that no later unsubscribe request cancelled. -/
def standing (requests : List RpcRequest) : List Registration :=
  requests.foldl (fun standing request => match request.method with
    | .subscribe => standing ++ [(request.id, request.query)]
    | .unsubscribe => standing.filter fun r => r ≠ (request.id, request.query)) []

end AlloraSdk.Source.Events
