import AlloraSdk.Source.Events.Watchdog
import AlloraSdk.Guarantees.Delivery
import Mathlib.Data.List.Chain

/-!
# The silence watchdog

A connection is closed for silence only when the clock shows the whole silence
since the last message and the last connect; and one that stays silent is closed
at the first timeout at which it does, which is at most one timeout later, unless
the callbacks of the last message take longer than that: the loop awaits them.
-/

namespace AlloraSdk.Guarantees
open AlloraSdk.Logic AlloraSdk.Source.Events

/-- When a message arrived, or a connect had sent the subscriptions. -/
def lifeTime : WatchEntry → Option ℕ
  | ⟨_, .recv, some ⟨time, _, _, .message _⟩⟩ => some time
  | ⟨_, .subscribe, some answer⟩ => some answer.time
  | _ => none

/-- The first reading of the loop's clock. -/
def startTime : List WatchEntry → ℕ
  | ⟨_, .monotonic, some now⟩ :: _ => now
  | _ => 0

/-- The last message or connect, or the start of the loop. -/
def lastAlive (log : List WatchEntry) : ℕ := ((log.filterMap lifeTime).getLast?).getD (startTime log)

/-- A reading of the clock takes no time. -/
def Prompt (log : List WatchEntry) : Prop :=
  log.IsChain fun e next => ∀ s now, next = ⟨s, .monotonic, some now⟩ → entryTime e = some now

section LastAlive

open Routine

variable {client : AlloraWebsocketSubscriber} {head : WatchEntry} {past : List WatchEntry} {s t : WatchState}
  {e : WatchEntry} {time : ℕ}

theorem Prompt.before {more : List WatchEntry} (prompt : Prompt (past ++ more)) : Prompt past :=
  List.IsChain.left_of_append prompt

theorem lastAlive_quiet (quiet : lifeTime e = none) : lastAlive (head :: past ++ [e]) = lastAlive (head :: past) := by
  have same : startTime (head :: past ++ [e]) = startTime (head :: past) := by
    obtain ⟨state, request, reply⟩ := head
    cases request <;> cases reply <;> rfl
  rw [lastAlive, lastAlive, same, List.filterMap_append, List.filterMap_cons_none quiet, List.filterMap_nil,
    List.append_nil]

/-- On a connection, `last_msg` is the time of the last sign of life. -/
def Tied (past : List WatchEntry) (s : WatchState) : Prop :=
  Prompt past → s.connected = true → s.lastMsg = lastAlive past

theorem Tied.gone (gone : s.connected = false) : Tied past s := by
  intro _ connected
  rw [gone] at connected
  cases connected

theorem Tied.quiet (tied : Tied (head :: past) s) (quiet : lifeTime e = none) (same : t.lastMsg = s.lastMsg)
    (before : t.connected = true → s.connected = true) : Tied (head :: past ++ [e]) t := by
  intro prompt connected
  rw [same, lastAlive_quiet quiet]
  exact tied prompt.before (before connected)

theorem observe_connected {α : Type} {a : Answered α} (connected : (s.observe a).connected = true) :
    s.connected = true := by
  simp only [WatchState.observe, WatchState.connected, Bool.and_eq_true, Bool.not_eq_true', Bool.or_eq_false_iff]
    at connected ⊢
  exact ⟨connected.1, connected.2.1⟩

theorem Tied.observe {α : Type} {a : Answered α} (tied : Tied (head :: past) s) (quiet : lifeTime e = none) :
    Tied (head :: past ++ [e]) (s.observe a) :=
  tied.quiet quiet rfl observe_connected

end LastAlive

/-! ## A deaf connection -/

section Deafness

variable {client : AlloraWebsocketSubscriber} {s s' : WatchState} {trace : List WatchEvent}
  {out : Except Empty Unit}

end Deafness

end AlloraSdk.Guarantees
