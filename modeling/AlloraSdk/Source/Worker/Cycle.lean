import Mathlib.Data.Finset.Sort
import Mathlib.Data.Finset.Max
import Mathlib.Data.Finset.Option
import AlloraSdk.Source.TxManager.Messages
import AlloraSdk.Source.Utils.TimestampOrderedSet

/-!
# One submission cycle of a worker

Source: worker/worker.py, `_maybe_submit_impl` and `_select_sequential_nonce`.

The cycle awaits its use case, the node and the queue. The flags of the context
and the queue belong to other tasks, so they are read as requests too. Sets of
nonces are finite sets; the clock is in microseconds.
-/

namespace AlloraSdk.Source.Worker
open AlloraSdk.Logic AlloraSdk.Source.TxManager AlloraSdk.Source.Utils

/-- What `use_case.submit` returns: a WorkerResult, an exception as a value (with
AlreadySubmittedError, a TxError, apart), or nothing. -/
inductive SubmitResult where
  | done (txResult : TxResponse)
  | alreadySubmitted (code : ℕ)
  | failed (err : PyException)
  | nothing
  deriving DecidableEq, Repr

/-- The outcomes after which the nonce counts as submitted. -/
def SubmitResult.isFinal : SubmitResult → Bool
  | .done _ | .alreadySubmitted _ => true
  | .failed (.txTimeout _) => false
  | .failed _ => true
  | .nothing => false

inductive CycleRequest where
  /-- `ctx.is_cancelled()` at the start. -/
  | ctxCancelled
  | workerIsWhitelisted
  | stop
  | getUnfulfilledNonces
  | accountInfo (address : String)
  /-- `self._ctx` is there and not cancelled. -/
  | running
  | submit (nonce : ℤ) (accountSeq : ℕ)
  | balance
  | logBalance
  | maybeFaucetRequest
  /-- `not ctx.is_cancelled() and self._queue is not None`. -/
  | listening
  | put (result : SubmitResult)
  deriving DecidableEq

/-- A query takes time and may raise. -/
abbrev Timed (α : Type) := ℕ × Except PyException α

abbrev CycleReply : CycleRequest → Type
  | .ctxCancelled => Bool
  | .workerIsWhitelisted => Timed Bool
  | .stop => Unit
  | .getUnfulfilledNonces => Timed (Finset ℤ)
  | .accountInfo _ => Timed (Option AccountInfo)
  | .running => Bool
  | .submit _ _ => Timed SubmitResult
  | .balance => Timed (Option Unit)
  | .logBalance => Timed Unit
  | .maybeFaucetRequest => Timed Unit
  | .listening => Bool
  | .put _ => Unit

abbrev CycleEv := Event CycleRequest CycleReply

/-- `self.max_unfulfilled_nonces` and what the use case says of its nonces. -/
structure Settings where
  address : String
  maxUnfulfilledNonces : ℕ
  requiresSequentialNonces : Bool
  /-- `max(1, max_unfulfilled_nonces)`. -/
  positive : 0 < maxUnfulfilledNonces

theorem Settings.ten_positive : 0 < 10 := Nat.succ_pos 9

structure WorkerState where
  clock : ℕ
  submittedNonces : TimestampOrderedSet

def WorkerState.advance (s : WorkerState) (elapsed : ℕ) : WorkerState :=
  { s with clock := s.clock + elapsed }

/-- 24 hours. -/
def retention : ℤ := 24 * 60 * 60 * 1000000

/-- `self.submitted_nonces.prune_older_than(24 * 60 * 60)`. -/
def WorkerState.prune (s : WorkerState) : WorkerState :=
  { s with submittedNonces := s.submittedNonces.pruneOlderThan s.clock retention }

abbrev Cycle := Routine PyException WorkerState CycleRequest CycleReply

def await (request : CycleRequest) : Cycle (CycleReply request) := Routine.await request

/-- The answer to a query, after its time has passed. -/
def answered {α : Type} (reply : Timed α) : Cycle (Except PyException α) := do
  Routine.update (·.advance reply.1)
  pure reply.2

/-- Await the answer of a query. -/
def demand {α : Type} (reply : Timed α) : Cycle α := do
  let answer ← answered reply
  Routine.ofExcept answer

/-- Only the oldest open nonce is eligible, and only before it was submitted. -/
def selectSequentialNonce (submitted : TimestampOrderedSet) (openNonces : Finset ℤ)
    (eventNonce : Option ℤ) : Finset ℤ :=
  let candidates := openNonces ∪ eventNonce.toFinset
  if found : candidates.Nonempty then
    let oldest := candidates.min' found
    if oldest ∈ submitted then ∅ else {oldest}
  else ∅

def newNonces (submitted : TimestampOrderedSet) (openNonces : Finset ℤ) (eventNonce : Option ℤ) :
    Finset ℤ :=
  (openNonces ∪ eventNonce.toFinset).filter (· ∉ submitted)

def eligible (settings : Settings) (submitted : TimestampOrderedSet) (openNonces : Finset ℤ)
    (eventNonce : Option ℤ) : Finset ℤ :=
  if settings.requiresSequentialNonces then selectSequentialNonce submitted openNonces eventNonce
  else newNonces submitted openNonces eventNonce

/-- Sorted, and only the latest when there are too many. -/
def latestNonces (settings : Settings) (nonces : Finset ℤ) : List ℤ :=
  let sorted := nonces.sort (· ≤ ·)
  if settings.maxUnfulfilledNonces < sorted.length then
    sorted.drop (sorted.length - settings.maxUnfulfilledNonces)
  else sorted

/-- The balance check, log and faucet after a submission. -/
def afterSubmit : Cycle Unit := do
  let reply ← await .balance
  let balance ← demand reply
  match balance with
  | none => pure ()
  | some _ => do
    let logged ← await .logBalance
    demand logged
    let requested ← await .maybeFaucetRequest
    demand requested

/-- The `finally` of `submit`. -/
def finishSubmit (result : SubmitResult) : Cycle Unit := do
  Routine.update WorkerState.prune
  let listening ← await .listening
  if listening ∧ result ≠ .nothing then await (.put result) else pure ()

/-- The nested `submit`. No Exception leaves it. -/
def submit (nonce : ℤ) (accountSeq : ℕ) : Cycle Unit := do
  let reply ← await (.submit nonce accountSeq)
  let answer ← answered reply
  match answer with
  | .error _ => finishSubmit .nothing
  | .ok result => do
    if result.isFinal then
      Routine.update fun s => { s with submittedNonces := s.submittedNonces.add nonce s.clock }
    tryCatch afterSubmit fun _ => pure ()
    finishSubmit result

/-- `for i, nonce in enumerate(new_nonces)`. -/
def submitSerially (baseSequence : ℕ) : ℕ → List ℤ → Cycle Unit
  | _, [] => pure ()
  | i, nonce :: rest => do
    let running ← await .running
    if running then do
      submit nonce (baseSequence + i)
      submitSerially baseSequence (i + 1) rest
    else pure ()

/-- From the account query on. -/
def submitNonces (settings : Settings) (nonces : List ℤ) : Cycle Unit := do
  let reply ← await (.accountInfo settings.address)
  let info ← demand reply
  match info with
  | none => pure ()
  | some info => submitSerially info.sequence 0 nonces

def submitEligible (settings : Settings) (eventNonce : Option ℤ) (openNonces : Finset ℤ) : Cycle Unit := do
  let s ← Routine.state
  submitNonces settings
    (latestNonces settings (eligible settings s.submittedNonces openNonces eventNonce))

def maybeSubmitImpl (settings : Settings) (eventNonce : Option ℤ) : Cycle Unit := do
  let cancelled ← await .ctxCancelled
  if cancelled then pure () else do
    let reply ← await .workerIsWhitelisted
    let canSubmit ← demand reply
    if canSubmit then do
      let reply ← await .getUnfulfilledNonces
      let nonces ← answered reply
      match nonces, settings.requiresSequentialNonces with
      | .ok nonces, _ => submitEligible settings eventNonce nonces
      | .error _, false => submitEligible settings eventNonce ∅
      -- the open nonces are unknown, so an older one may be open
      | .error _, true => pure ()
    else await .stop

/-! ## The submissions of a cycle -/

/-- A call of `use_case.submit`. -/
def submitCall : CycleEv → Option (ℤ × ℕ)
  | ⟨.submit nonce accountSeq, _⟩ => some (nonce, accountSeq)
  | _ => none

def submits (trace : List CycleEv) : List (ℤ × ℕ) := trace.filterMap submitCall

theorem submits_append (first rest : List CycleEv) :
    submits (first ++ rest) = submits first ++ submits rest :=
  List.filterMap_append

/-- What the cycle does around a submission: no call of the use case and no
account query. -/
def CycleRequest.isBookkeeping : CycleRequest → Bool
  | .submit _ _ | .accountInfo _ => false
  | _ => true

def Bookkeeping (trace : List CycleEv) : Prop := ∀ e ∈ trace, e.request.isBookkeeping = true

theorem Bookkeeping.submits {trace : List CycleEv} (bookkeeping : Bookkeeping trace) :
    submits trace = [] := by
  refine List.filterMap_eq_nil_iff.mpr fun e member => ?_
  have h := bookkeeping e member
  obtain ⟨request, reply⟩ := e
  cases request with
  | submit => cases h
  | _ => rfl

/-- One turn of the serial loop. -/
theorem submits_turn {running : Bool} {nonce : ℤ} {accountSeq : ℕ}
    {reply : CycleReply (.submit nonce accountSeq)} {books last : List CycleEv}
    (bookkeeping : Bookkeeping books) :
    submits (⟨.running, running⟩ :: (⟨.submit nonce accountSeq, reply⟩ :: books ++ last)) =
      (nonce, accountSeq) :: submits last := by
  change (nonce, accountSeq) :: submits (books ++ last) = _
  rw [submits_append, bookkeeping.submits, List.nil_append]

section Outcomes

variable {settings : Settings} {s s' : WorkerState} {trace : List CycleEv}

theorem answered_bind {α β : Type} {reply : Timed α} {f : Except PyException α → Cycle β}
    {out : Except PyException β} :
    (answered reply >>= f).Runs s trace out s' ↔ (f reply.2).Runs (s.advance reply.1) trace out s' := by
  simp only [answered, bind_assoc, pure_bind]
  exact Routine.runs_update_bind

theorem demand_bind {α β : Type} {reply : Timed α} {f : α → Cycle β} {out : Except PyException β} :
    (demand reply >>= f).Runs s trace out s' ↔
      (∃ e, reply.2 = .error e ∧ trace = [] ∧ out = .error e ∧ s' = s.advance reply.1) ∨
        ∃ a, reply.2 = .ok a ∧ (f a).Runs (s.advance reply.1) trace out s' := by
  simp only [demand, bind_assoc, answered_bind]
  exact Routine.runs_ofExcept_bind

theorem answered_asks {α : Type} {p : CycleRequest → Prop} (reply : Timed α) :
    Routine.Asks p (answered reply) :=
  .bind (.update _) fun _ => .pure _

theorem demand_asks {α : Type} {p : CycleRequest → Prop} (reply : Timed α) :
    Routine.Asks p (demand reply) :=
  .bind (answered_asks reply) fun _ => .ofExcept _

theorem afterSubmit_asks : Routine.Asks (·.isBookkeeping = true) afterSubmit := by
  refine .bind (.await rfl) fun reply => .bind (demand_asks reply) fun balance => ?_
  split
  · exact .pure _
  · exact .bind (.await rfl) fun logged => .bind (demand_asks logged) fun _ =>
      .bind (.await rfl) fun requested => demand_asks requested

theorem finishSubmit_asks (result : SubmitResult) :
    Routine.Asks (·.isBookkeeping = true) (finishSubmit result) := by
  refine .bind (.update _) fun _ => .bind (.await rfl) fun listening => ?_
  split
  · exact .await rfl
  · exact .pure _

theorem finishSubmit_neverRaises (result : SubmitResult) : Routine.NeverRaises (finishSubmit result) := by
  refine .bind (.update _) fun _ => .bind (.await _) fun listening => ?_
  split
  · exact .await _
  · exact .pure _

/-- One call of the use case, then bookkeeping; nothing is raised. -/
theorem submit_outcome {nonce : ℤ} {accountSeq : ℕ} {out : Except PyException Unit}
    (run : (submit nonce accountSeq).Runs s trace out s') :
    out = .ok () ∧ ∃ reply rest, trace = ⟨.submit nonce accountSeq, reply⟩ :: rest ∧ Bookkeeping rest := by
  obtain ⟨reply, rest, rfl, run₁⟩ := Routine.runs_await_bind.mp run
  have run₂ := answered_bind.mp run₁
  split at run₂
  · obtain ⟨_, rfl⟩ := (finishSubmit_neverRaises .nothing).returns run₂
    exact ⟨rfl, reply, rest, rfl, finishSubmit_asks .nothing run₂⟩
  · rename_i result returned
    have total : Routine.NeverRaises (do
        tryCatch afterSubmit fun _ => pure ()
        finishSubmit result) :=
      .bind (.tryCatch fun _ => .pure _) fun _ => finishSubmit_neverRaises result
    have asks : Routine.Asks (·.isBookkeeping = true) (do
        tryCatch afterSubmit fun _ => pure ()
        finishSubmit result) :=
      .bind (.tryCatch afterSubmit_asks fun _ => .pure _) fun _ => finishSubmit_asks result
    split at run₂
    · have run₃ := Routine.runs_update_bind.mp run₂
      obtain ⟨_, rfl⟩ := total.returns run₃
      exact ⟨rfl, reply, rest, rfl, asks run₃⟩
    · have run₃ := Routine.runs_pure_bind.mp run₂
      obtain ⟨_, rfl⟩ := total.returns run₃
      exact ⟨rfl, reply, rest, rfl, asks run₃⟩

/-- The serial loop calls the use case for a prefix of its nonces, in order. -/
theorem submitSerially_outcome {baseSequence i : ℕ} {nonces : List ℤ} {out : Except PyException Unit}
    (run : (submitSerially baseSequence i nonces).Runs s trace out s') :
    out = .ok () ∧ submits trace <+: (nonces.zipIdx i).map fun call => (call.1, baseSequence + call.2) := by
  induction nonces generalizing i s trace with
  | nil =>
    obtain ⟨rfl, rfl, rfl⟩ := Routine.runs_pure.mp run
    exact ⟨rfl, List.nil_prefix⟩
  | cons nonce rest ih =>
    obtain ⟨running, after, rfl, run₁⟩ := Routine.runs_await_bind.mp run
    split at run₁
    · obtain ⟨_, h, -⟩ | ⟨_, t, first, last, h₁, h₂, rfl⟩ := Routine.runs_bind.mp run₁
      · cases (submit_outcome h).1
      obtain ⟨-, reply, books, rfl, bookkeeping⟩ := submit_outcome h₁
      obtain ⟨rfl, prefixes⟩ := ih h₂
      refine ⟨rfl, ?_⟩
      rw [submits_turn bookkeeping, List.zipIdx_cons, List.map_cons]
      exact (List.prefix_cons_inj _).mpr prefixes
    · obtain ⟨rfl, rfl, rfl⟩ := Routine.runs_pure.mp run₁
      exact ⟨rfl, List.nil_prefix⟩

theorem submitNonces_outcome {nonces : List ℤ} {out : Except PyException Unit}
    (run : (submitNonces settings nonces).Runs s trace out s') :
    ∃ baseSequence, submits trace <+:
      (nonces.zipIdx 0).map fun call => (call.1, baseSequence + call.2) := by
  obtain ⟨reply, rest, rfl, run₁⟩ := Routine.runs_await_bind.mp run
  obtain ⟨e, -, rfl, -⟩ | ⟨info, -, run₂⟩ := demand_bind.mp run₁
  · exact ⟨0, List.nil_prefix⟩
  split at run₂
  · obtain ⟨rfl, -⟩ := Routine.runs_pure.mp run₂
    exact ⟨0, List.nil_prefix⟩
  · exact ⟨_, (submitSerially_outcome run₂).2⟩

/-- A cycle that calls its use case knows what is open: from its query, or as
nothing when that failed and nonces need no order. -/
theorem maybeSubmitImpl_outcome {eventNonce : Option ℤ} {out : Except PyException Unit}
    (run : (maybeSubmitImpl settings eventNonce).Runs s trace out s') :
    submits trace = [] ∨ ∃ before took answer openNonces t rest,
      trace = before ++ ⟨.getUnfulfilledNonces, (took, answer)⟩ :: rest ∧ submits before = [] ∧
        (answer = .ok openNonces ∨ openNonces = ∅ ∧ settings.requiresSequentialNonces = false) ∧
        t.submittedNonces = s.submittedNonces ∧
        (submitNonces settings
          (latestNonces settings (eligible settings t.submittedNonces openNonces eventNonce))).Runs
          t rest out s' := by
  obtain ⟨cancelled, rest₁, rfl, run₁⟩ := Routine.runs_await_bind.mp run
  split at run₁
  · obtain ⟨rfl, -⟩ := Routine.runs_pure.mp run₁
    exact .inl rfl
  obtain ⟨listed, rest₂, rfl, run₂⟩ := Routine.runs_await_bind.mp run₁
  obtain ⟨e, -, rfl, -⟩ | ⟨canSubmit, -, run₃⟩ := demand_bind.mp run₂
  · exact .inl rfl
  split at run₃
  · obtain ⟨⟨took, answer⟩, rest₃, rfl, run₄⟩ := Routine.runs_await_bind.mp run₃
    have run₅ := answered_bind.mp run₄
    have shape : (⟨.ctxCancelled, cancelled⟩ :: ⟨.workerIsWhitelisted, listed⟩ ::
        ⟨.getUnfulfilledNonces, (took, answer)⟩ :: rest₃ : List CycleEv) =
        [⟨.ctxCancelled, cancelled⟩, ⟨.workerIsWhitelisted, listed⟩] ++
          ⟨.getUnfulfilledNonces, (took, answer)⟩ :: rest₃ := rfl
    rw [shape]
    split at run₅
    · rename_i nonces same
      exact .inr ⟨_, took, answer, nonces, (s.advance listed.1).advance took, rest₃, rfl, rfl,
        .inl same, rfl, Routine.runs_state_bind.mp run₅⟩
    · rename_i e same unordered
      exact .inr ⟨_, took, answer, ∅, (s.advance listed.1).advance took, rest₃, rfl, rfl,
        .inr ⟨rfl, unordered⟩, rfl, Routine.runs_state_bind.mp run₅⟩
    · obtain ⟨rfl, -⟩ := Routine.runs_pure.mp run₅
      exact .inl rfl
  · obtain ⟨_, rfl, -⟩ := Routine.runs_await.mp run₃
    exact .inl rfl

end Outcomes

end AlloraSdk.Source.Worker
