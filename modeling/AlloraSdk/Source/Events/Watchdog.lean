import AlloraSdk.Logic.Journal
import AlloraSdk.Source.Events.Subscriptions

/-!
# The silence watchdog

Source: rpc_client/client_websocket_events.py, `_event_loop`, with the part of
`_connect` that its clock sees.

Every answer says when it came and what the loop then finds of the client: the
other tasks may have stopped it, and the connection may have got a `close_code`.
-/

namespace AlloraSdk.Source.Events
open AlloraSdk.Logic AlloraSdk.Source.Utils

structure WatchState where
  running : Bool
  /-- `self.websocket` is not None. -/
  websocket : Bool
  /-- `self.websocket.close_code`. -/
  closed : Bool
  lastMsg : ℕ

structure Answered (α : Type) where
  time : ℕ
  running : Bool
  closed : Bool
  outcome : α

inductive WatchRequest where
  /-- `time.monotonic()`. -/
  | monotonic
  | connect
  /-- `_connect` sends the subscriptions. -/
  | subscribe
  | recv
  /-- With the callbacks that it awaits. -/
  | handleMessage
  | ping
  | close
  | sleep
  deriving DecidableEq

abbrev WatchReply : WatchRequest → Type
  | .monotonic => ℕ
  | .connect => Answered Bool
  | .recv => Answered RecvOutcome
  | .ping => Answered PingOutcome
  | .subscribe | .handleMessage | .close | .sleep => Answered Unit

abbrev Watching := Routine Empty WatchState WatchRequest WatchReply

namespace WatchState

variable (s : WatchState)

/-- A connection that has a `close_code` keeps it. -/
def observe {α : Type} (a : Answered α) : WatchState :=
  { s with running := a.running, closed := s.closed || a.closed }

def establish (a : Answered Bool) : WatchState :=
  { s with running := a.running, websocket := true, closed := a.closed }

def disconnect : WatchState := { s with websocket := false }

/-- `not self.websocket or self.websocket.close_code` is false. -/
def connected : Bool := s.websocket && !s.closed

end WatchState

section Loop

variable (client : AlloraWebsocketSubscriber)

/-- `last_msg = time.monotonic()`. -/
def mark : Watching Unit := do
  let now : ℕ ← Routine.await WatchRequest.monotonic
  Routine.update fun s => { s with lastMsg := now }

def pause : Watching Unit := do
  let a : Answered Unit ← Routine.await WatchRequest.sleep
  Routine.update fun s => s.observe a

/-- `silent >= self._max_event_silence_secs`, unless the watchdog is disabled. -/
def silentFor (now lastMsg : ℕ) : Bool :=
  client.maxEventSilence.any fun silence : ℕ => decide ((silence : ℤ) ≤ (now : ℤ) - lastMsg)

def probe : Watching Unit := do
  let a : Answered PingOutcome ← Routine.await WatchRequest.ping
  Routine.update fun s => s.observe a
  match a.outcome with
  | .pinged => pure ()
  | .connectionClosed => do
    Routine.update WatchState.disconnect
    if (← Routine.state).running then pause else pure ()
  | .failed => pause

def timedOut : Watching Unit := do
  let now : ℕ ← Routine.await WatchRequest.monotonic
  let s ← Routine.state
  if silentFor client now s.lastMsg then
    let a : Answered Unit ← Routine.await WatchRequest.close
    Routine.update fun s => (s.observe a).disconnect
  else if s.closed then
    pure ()
  else
    probe

end Loop

/-! ## What the journal of the loop shows -/

abbrev WatchEntry := Entry WatchState WatchRequest WatchReply

def replyTime : (request : WatchRequest) → WatchReply request → ℕ
  | .monotonic, now => now
  | .connect, a => a.time
  | .recv, a => a.time
  | .ping, a => a.time
  | .subscribe, a | .handleMessage, a | .close, a | .sleep, a => a.time

def entryTime (e : WatchEntry) : Option ℕ := e.reply.map (replyTime e.request)

/-- The clock does not go back. -/
def Ordered (log : List WatchEntry) : Prop := (log.filterMap entryTime).Pairwise (· ≤ ·)

/-- When a message arrived or a connection came up. -/
def signOfLife : WatchEntry → Option ℕ
  | ⟨_, .recv, some ⟨time, _, _, .message _⟩⟩ => some time
  | ⟨_, .connect, some ⟨time, _, _, true⟩⟩ => some time
  | _ => none

def aliveUntil (bound : ℕ) (log : List WatchEntry) : Prop :=
  ∀ e ∈ log, ∀ time, signOfLife e = some time → time ≤ bound

/-- The clock was read last, and showed the silence since every sign of life. -/
def SilentUntilNow (client : AlloraWebsocketSubscriber) (past : List WatchEntry) : Prop :=
  ∃ silence ∈ client.maxEventSilence, ∃ earlier last now, past = earlier ++ [last] ∧ entryTime last = some now ∧
    ∀ e ∈ earlier, ∀ time, signOfLife e = some time → time + silence ≤ now

/-- Of every request, a close is justified. -/
def ClosesWhenSilent (client : AlloraWebsocketSubscriber) (past : List WatchEntry) (_ : WatchState)
    (request : WatchRequest) : Prop :=
  request = .close → Ordered past → SilentUntilNow client past

/-- `last_msg` is no older than the last sign of life. -/
def LastMsgFresh (past : List WatchEntry) (s : WatchState) : Prop := Ordered past → aliveUntil s.lastMsg past

section Invariant

open Routine

variable {client : AlloraWebsocketSubscriber} {past : List WatchEntry} {s t : WatchState}

theorem Ordered.before {more : List WatchEntry} (ordered : Ordered (past ++ more)) : Ordered past := by
  unfold Ordered at ordered
  rw [List.filterMap_append] at ordered
  exact (List.pairwise_append.mp ordered).1

/-- An entry without a sign of life. -/
theorem LastMsgFresh.quiet {e : WatchEntry} (fresh : LastMsgFresh past s) (quiet : signOfLife e = none)
    (same : t.lastMsg = s.lastMsg) : LastMsgFresh (past ++ [e]) t := by
  intro ordered earlier member time alive
  rw [same]
  rcases List.mem_append.mp member with old | new
  · exact fresh ordered.before earlier old time alive
  · obtain rfl := List.mem_singleton.mp new
    rw [quiet] at alive
    cases alive

/-- The loop keeps `last_msg` fresh. -/
abbrev Keeps (client : AlloraWebsocketSubscriber) (m : Watching Unit) (past : List WatchEntry) (s : WatchState) :
    Prop :=
  Routine.Ensures (ClosesWhenSilent client) (fun _ => LastMsgFresh) m past s

end Invariant

end AlloraSdk.Source.Events
