import Mathlib.Data.Finset.Basic
import AlloraSdk.Source.TxManager.Attempts

/-!
# Submissions in flight, and closing the manager

Source: rpc_client/tx_manager.py, `submit_transaction`, `close` and
`PendingTx.wait`.

A step is one segment between two awaits of a `submit_transaction` call, a
`close()` call, a submission task, its done-callback, or a cancelled waiter. What
`close()` and the callbacks see of a PendingTx is whether its task is done and
whether its future is; a task that ends by itself is a run of the submission.
-/

namespace AlloraSdk.Source.TxManager
open AlloraSdk.Logic

/-- A PendingTx with its detached task. -/
structure Detached where
  call : Call
  /-- `_task.done()`. -/
  finished : Bool
  /-- `_task.cancel()` was called. -/
  cancelling : Bool
  /-- `_final_future.done()`. -/
  resolved : Bool

/-- A `close()` call that awaits the tasks of its snapshot. -/
structure Closer where
  pendings : Finset ℕ
  /-- No `submit_transaction` call was in progress since it began. -/
  quiet : Bool

/-- The PendingTx are numbered as they were created. -/
structure Flights where
  pendings : List Detached
  inflight : Finset ℕ
  /-- The `submit_transaction` calls in progress. -/
  submitting : ℕ
  closing : List Closer

inductive FlightMove where
  | submitBegins
  | submitRaises
  | submitReturns (call : Call)
  | taskEnds (id clock : ℕ)
  | taskCancelled (id : ℕ)
  | doneCallback (id : ℕ)
  | waitCancelled (id : ℕ)
  | closeBegins
  | closeReturns (index : ℕ)

namespace Flights

def start : Flights := ⟨[], ∅, 0, []⟩

def update (s : Flights) (ids : Finset ℕ) (f : Detached → Detached) : Flights :=
  { s with pendings := s.pendings.mapIdx fun id p => if id ∈ ids then f p else p }

/-- The new task and its PendingTx, in `_inflight` before the next await. -/
def create (s : Flights) (call : Call) : Flights where
  pendings := s.pendings ++ [⟨call, false, false, false⟩]
  inflight := insert s.pendings.length s.inflight
  submitting := s.submitting - 1
  closing := s.closing

def overlap (s : Flights) : Flights :=
  { s with
    submitting := s.submitting + 1
    closing := s.closing.map fun closer => { closer with quiet := false } }

/-- `close()` up to its await; with nothing in flight it returns at once. -/
def beginClose (s : Flights) : Flights :=
  if s.inflight = ∅ then s
  else { s.update s.inflight (fun p => { p with cancelling := true }) with
    closing := s.closing ++ [⟨s.inflight, decide (s.submitting = 0)⟩] }

/-- The rest of `close()`. -/
def finishClose (s : Flights) (index : ℕ) (closer : Closer) : Flights :=
  { s.update closer.pendings (fun p => { p with resolved := true }) with
    inflight := ∅
    closing := s.closing.eraseIdx index }

end Flights

section Steps

open Flights

inductive FlightStep (m : Manager) (s : Flights) : FlightMove → Flights → Prop
  | submitBegins : FlightStep m s .submitBegins s.overlap
  | submitRaises (calling : 0 < s.submitting) :
      FlightStep m s .submitRaises { s with submitting := s.submitting - 1 }
  | submitReturns (call : Call) (calling : 0 < s.submitting) :
      FlightStep m s (.submitReturns call) (s.create call)
  /-- The submission ran to its end, and resolved its future unless an exception escaped. -/
  | taskEnds {id clock : ℕ} {p : Detached} {price : Option ℚ} {cachedAt : Option ℕ} {trace : List Ev}
      {out : Except PyException Unit} {t : Submission} (found : s.pendings[id]? = some p)
      (running : p.finished = false)
      (run : (p.call.submit m).Runs (p.call.begin clock price cachedAt) trace out t) :
      FlightStep m s (.taskEnds id clock) (s.update {id} fun p : Detached =>
        { p with finished := true, resolved := p.resolved || t.pending.finalFuture.isSome })
  /-- CancelledError passes the handlers that resolve the future. -/
  | taskCancelled {id : ℕ} {p : Detached} (found : s.pendings[id]? = some p) (running : p.finished = false)
      (cancelling : p.cancelling = true) :
      FlightStep m s (.taskCancelled id) (s.update {id} fun p => { p with finished := true })
  | doneCallback {id : ℕ} {p : Detached} (found : s.pendings[id]? = some p) (finished : p.finished = true) :
      FlightStep m s (.doneCallback id) { s with inflight := s.inflight.erase id }
  /-- Cancelling a waiter cancels the future it awaits, and then the task. -/
  | waitCancelled (id : ℕ) : FlightStep m s (.waitCancelled id)
      (s.update {id} fun p => { p with cancelling := true, resolved := true })
  | closeBegins : FlightStep m s .closeBegins s.beginClose
  /-- `asyncio.gather` waits for every task of the snapshot. -/
  | closeReturns {index : ℕ} {closer : Closer} (found : s.closing[index]? = some closer)
      (gathered : ∀ id ∈ closer.pendings, ∀ p, s.pendings[id]? = some p → p.finished = true) :
      FlightStep m s (.closeReturns index) (s.finishClose index closer)

/-- Every unfinished submission is in `_inflight`. -/
def Known (s : Flights) : Prop :=
  ∀ (id : ℕ) (p : Detached), s.pendings[id]? = some p → p.finished = false → id ∈ s.inflight

def AllResolved (s : Flights) : Prop :=
  ∀ (id : ℕ) (p : Detached), s.pendings[id]? = some p → p.resolved = true

/-- By this move a `close()` call returns that overlapped no `submit_transaction`. -/
inductive QuietReturn (s : Flights) : FlightMove → Prop
  | atOnce (empty : s.inflight = ∅) (quiet : s.submitting = 0) : QuietReturn s .closeBegins
  | later {index : ℕ} {closer : Closer} (found : s.closing[index]? = some closer)
      (quiet : closer.quiet = true) : QuietReturn s (.closeReturns index)

end Steps

section Fields

variable (s : Flights) (ids : Finset ℕ) (f : Detached → Detached)

@[simp] theorem update_inflight : (s.update ids f).inflight = s.inflight := rfl

@[simp] theorem update_submitting : (s.update ids f).submitting = s.submitting := rfl

@[simp] theorem update_closing : (s.update ids f).closing = s.closing := rfl

theorem update_getElem? (id : ℕ) :
    (s.update ids f).pendings[id]? = s.pendings[id]?.map fun p => if id ∈ ids then f p else p := by
  simp [Flights.update]

/-- What a PendingTx was before an update. -/
theorem of_update {s : Flights} {ids : Finset ℕ} {f : Detached → Detached} {id : ℕ} {p' : Detached}
    (found : (s.update ids f).pendings[id]? = some p') :
    ∃ p, s.pendings[id]? = some p ∧ (id ∈ ids ∧ p' = f p ∨ id ∉ ids ∧ p' = p) := by
  rw [update_getElem?] at found
  obtain ⟨p, there, same⟩ := Option.map_eq_some_iff.mp found
  refine ⟨p, there, ?_⟩
  by_cases member : id ∈ ids
  · exact .inl ⟨member, by rw [← same, if_pos member]⟩
  · exact .inr ⟨member, by rw [← same, if_neg member]⟩

/-- What a PendingTx was before another was created. -/
theorem of_create {s : Flights} {call : Call} {id : ℕ} {p : Detached}
    (found : (s.create call).pendings[id]? = some p) :
    s.pendings[id]? = some p ∨ id = s.pendings.length ∧ p = ⟨call, false, false, false⟩ := by
  simp only [Flights.create, List.getElem?_append] at found
  split at found
  · exact .inl found
  · rename_i beyond
    obtain ⟨here, rfl⟩ := List.getElem?_eq_some_iff.mp found
    simp only [List.length_singleton] at here
    exact .inr ⟨by omega, by simp⟩

end Fields

end AlloraSdk.Source.TxManager
