import AlloraSdk.Guarantees.SequentialNonces
import AlloraSdk.Source.Worker.Memory

/-!
# A recorded nonce is left alone for a day

Cycles of polls and events run one after the other under `_submit_lock`, with
time in between; the hold timeout or a cancellation may cut one off wherever it
waits. Whatever is answered, a nonce is recorded with the clock of an answer that
counts and not submitted again within a day of it, no cycle submits a nonce
twice, and a nonce whose attempts timed out is not recorded.
-/

namespace AlloraSdk.Guarantees
open AlloraSdk.Logic AlloraSdk.Source.TxManager AlloraSdk.Source.Worker AlloraSdk.Source.Utils

/-- The requests inside the `try` of the nested `submit`. -/
def insideTry : CycleRequest → Bool
  | .submit _ _ | .balance | .logBalance | .maybeFaucetRequest => true
  | _ => false

/-- What an exception that is no Exception leaves behind: its way out of
`submit` goes through the `finally`. -/
def cutAt (request : CycleRequest) (s : WorkerState) : WorkerState :=
  if insideTry request then s.prune else s

/-- A cycle that ran to its end, or was cut off after it waited for some time. -/
inductive Lived (settings : Settings) (eventNonce : Option ℤ) (s : WorkerState) :
    List CycleEntry → WorkerState → Prop
  | finished {log : List CycleEntry} {out : Except PyException Unit} {s' : WorkerState}
      (run : Routine.Journal (maybeSubmitImpl settings eventNonce) s log (some out) s') :
      Lived settings eventNonce s log s'
  | cut {before : List CycleEntry} {request : CycleRequest} {t : WorkerState} (elapsed : ℕ)
      (run : Routine.Journal (maybeSubmitImpl settings eventNonce) s
        (before ++ [⟨t, request, none⟩]) none t) :
      Lived settings eventNonce s (before ++ [⟨t, request, none⟩]) (cutAt request (t.advance elapsed))

/-- The cycles of a worker, each with its event's nonce and its journal. -/
inductive Life (settings : Settings) : WorkerState → List (Option ℤ × List CycleEntry) → WorkerState → Prop
  | nil (s : WorkerState) : Life settings s [] s
  | cons {s t s' : WorkerState} {eventNonce : Option ℤ} {log : List CycleEntry}
      {rest : List (Option ℤ × List CycleEntry)} (idle : ℕ)
      (cycle : Lived settings eventNonce (s.advance idle) log t) (later : Life settings t rest s') :
      Life settings s ((eventNonce, log) :: rest) s'

/-- Everything the worker asked, in order. -/
def journal (cycles : List (Option ℤ × List CycleEntry)) : List CycleEntry := cycles.flatMap Prod.snd

/-- The nonces that a cycle calls its use case for, answered or not. -/
def called : CycleRequest → Option ℤ
  | .submit nonce _ => some nonce
  | _ => none

def calledNonces (log : List CycleEntry) : List ℤ := (log.map Entry.request).filterMap called

/-- Every attempt at the nonce that ended was a TxTimeoutError. -/
def OnlyTimeouts (past : List CycleEntry) (nonce : ℤ) : Prop :=
  ∀ e ∈ past, ∀ answer, attempt e = some (nonce, answer) → ∃ err, answer = .ok (.failed (.txTimeout err))

section Cycle

variable {settings : Settings} {eventNonce : Option ℤ} {s s' : WorkerState} {past log : List CycleEntry}

/-- One cycle: what holds at each of its requests, and when it is through. -/
theorem Lived.sound (lived : Lived settings eventNonce s log s') (h : Source.Worker.Remembers past s) :
    (∀ before e after, log = before ++ e :: after → Sound (past ++ before) e.state e.request) ∧
      Source.Worker.Remembers (past ++ log) s' := by
  have ensured : Routine.Ensures Sound (fun _ => Handling []) (maybeSubmitImpl settings eventNonce) past s :=
    maybeSubmitImpl_ensures ⟨h, by simp⟩
  cases lived with
  | finished run =>
    obtain ⟨sound, returned⟩ := Coroutine.Ensures.journal ensured run
    exact ⟨sound, (returned _ rfl).remembers⟩
  | @cut before request t elapsed run =>
    obtain ⟨sound, -⟩ := Coroutine.Ensures.journal ensured run
    refine ⟨sound, ?_⟩
    have quiet : definite (⟨t, request, none⟩ : CycleEntry) = none := by
      cases request <;> rfl
    have last := ((sound before _ [] rfl).remembers.ask quiet).advance elapsed
    rw [List.append_assoc] at last
    unfold cutAt
    split
    · exact last.prune
    · exact last

/-- The calls of a complete run, by its requests. -/
theorem submits_called (trace : List CycleEv) :
    (submits trace).map Prod.fst = (trace.map Event.request).filterMap called := by
  induction trace with
  | nil => rfl
  | cons e trace ih =>
    obtain ⟨request, reply⟩ := e
    cases request with
    | submit nonce accountSeq => exact congrArg (nonce :: ·) ih
    | _ => exact ih

/-- No cycle calls its use case twice for a nonce. -/
theorem Lived.distinct (lived : Lived settings eventNonce s log s') : (calledNonces log).Nodup := by
  have inhabited : ∀ request, Nonempty (CycleReply request) := fun request => ⟨(answerOpen ∅ () request).1⟩
  obtain ⟨out, t, run⟩ : ∃ out t, Routine.Journal (maybeSubmitImpl settings eventNonce) s log out t := by
    cases lived with
    | finished run => exact ⟨_, _, run⟩
    | cut elapsed run => exact ⟨_, _, run⟩
  obtain ⟨trace, result, t', complete, begins⟩ := Coroutine.Journal.completes inhabited run
  have part : (calledNonces log).Sublist ((submits trace).map Prod.fst) := by
    rw [submits_called]
    exact begins.sublist.filterMap _
  refine List.Nodup.sublist part ?_
  rcases maybeSubmitImpl_outcome complete with none | ⟨before, took, answer, openNonces, u, rest, rfl, early,
    -, -, submission⟩
  · rw [none]
    exact List.nodup_nil
  · obtain ⟨baseSequence, serial⟩ := submitNonces_outcome submission
    have same : submits (before ++ ⟨.getUnfulfilledNonces, (took, answer)⟩ :: rest) = submits rest := by
      rw [submits_append, early]
      rfl
    rw [same]
    have chosen := (serial.map Prod.fst).sublist
    rw [List.map_map] at chosen
    refine List.Nodup.sublist chosen ?_
    have firsts : List.map (Prod.fst ∘ fun call : ℤ × ℕ => (call.1, baseSequence + call.2)) =
        List.map Prod.fst := rfl
    rw [firsts, List.zipIdx_map_fst]
    exact latestNonces_nodup _ _

theorem not_recorded_of_timeouts (h : Source.Worker.Remembers past s) {nonce : ℤ} (timeouts : OnlyTimeouts past nonce) :
    nonce ∉ s.submittedNonces := by
  intro recorded
  obtain ⟨e, member, result, attempted, counts⟩ := h.earned recorded
  obtain ⟨err, same⟩ := timeouts e member _ attempted
  cases same
  cases counts

end Cycle

section Lives

variable {settings : Settings} {s s' : WorkerState} {past : List CycleEntry}
  {cycles : List (Option ℤ × List CycleEntry)}

theorem Life.sound (life : Life settings s cycles s') (h : Source.Worker.Remembers past s) :
    (∀ before e after, journal cycles = before ++ e :: after →
      Sound (past ++ before) e.state e.request) ∧ Source.Worker.Remembers (past ++ journal cycles) s' := by
  induction life generalizing past with
  | nil s =>
    constructor
    · intro before e after split
      exact (List.append_ne_nil_of_right_ne_nil before (List.cons_ne_nil e after) split.symm).elim
    · simpa [journal] using h
  | @cons s t s' eventNonce log rest idle cycle later ih =>
    obtain ⟨sound, after⟩ := cycle.sound (h.advance idle)
    obtain ⟨sound', after'⟩ := ih after
    have shape : journal ((eventNonce, log) :: rest) = log ++ journal rest := rfl
    rw [shape]
    constructor
    · intro before e tail split
      rcases List.append_eq_append_iff.mp split with ⟨more, rfl, there⟩ | ⟨more, rfl, there⟩
      · have := sound' more e tail there
        rwa [List.append_assoc] at this
      · cases more with
        | nil =>
          have := sound' [] e tail there.symm
          simpa using this
        | cons first more =>
          obtain ⟨rfl, -⟩ := List.cons_eq_cons.mp there
          exact sound before e more rfl
    · rwa [List.append_assoc] at after'

theorem Life.distinct (life : Life settings s cycles s') :
    ∀ cycle ∈ cycles, (calledNonces cycle.2).Nodup := by
  induction life with
  | nil s =>
    intro cycle member
    cases member
  | cons idle lived later ih =>
    intro cycle member
    rcases List.mem_cons.mp member with rfl | member
    · exact lived.distinct
    · exact ih cycle member

end Lives

/-- What is recorded is the nonce of an answer that counts, with the clock of that
answer. Whenever a nonce is submitted, every record of it and every such answer is
more than a day old. A cycle submits no nonce twice. A nonce whose attempts so far
were timeouts is not recorded, and eligible when it is known to be open. -/
theorem no_resubmission {settings : Settings} {clock : ℕ} {s' : WorkerState}
    {cycles : List (Option ℤ × List CycleEntry)} (life : Life settings ⟨clock, .empty⟩ cycles s') :
    (∀ before e after, journal cycles = before ++ e :: after →
      ∀ nonce time, (nonce, time) ∈ e.state.submittedNonces.data →
        ∃ answered ∈ before, definite answered = some (nonce, time)) ∧
    (∀ before e after, journal cycles = before ++ e :: after →
      ∀ nonce accountSeq, e.request = .submit nonce accountSeq →
        ∀ earlier ∈ before, ∀ time,
          (nonce, time) ∈ earlier.state.submittedNonces.data ∨ definite earlier = some (nonce, time) →
          time + retention < e.state.clock) ∧
    (∀ cycle ∈ cycles, (calledNonces cycle.2).Nodup) ∧
    (∀ before e after, journal cycles = before ++ e :: after →
      ∀ nonce, OnlyTimeouts before nonce → nonce ∉ e.state.submittedNonces ∧
        ∀ openNonces eventNonce, nonce ∈ openNonces ∨ eventNonce = some nonce →
          (settings.requiresSequentialNonces = true →
            ∀ n, n ∈ openNonces ∨ eventNonce = some n → nonce ≤ n) →
          nonce ∈ eligible settings e.state.submittedNonces openNonces eventNonce) ∧
    ∀ nonce, OnlyTimeouts (journal cycles) nonce → nonce ∉ s'.submittedNonces := by
  obtain ⟨sound, after⟩ := life.sound (Source.Worker.Remembers.start clock)
  simp only [List.nil_append] at sound after
  refine ⟨?_, ?_, ?_, ?_, ?_⟩
  · intro before e tail split nonce time recorded
    exact (sound before e tail split).remembers.recorded nonce time recorded
  · intro before e tail split nonce accountSeq submission earlier member time known
    have here := sound before e tail split
    have lasts : Lasts e.state nonce time := by
      rcases known with recorded | counts
      · exact here.remembers.kept earlier member nonce time recorded
      · exact here.remembers.held earlier member nonce time counts
    rcases lasts with ⟨later, -, there⟩ | old
    · have fresh := here.unsubmitted nonce accountSeq submission
      exact (fresh (TimestampOrderedSet.mem_iff.mpr ⟨later, there⟩)).elim
    · exact old
  · exact life.distinct
  · intro before e tail split nonce timeouts
    have fresh := not_recorded_of_timeouts (sound before e tail split).remembers timeouts
    exact ⟨fresh, fun openNonces eventNonce known oldest => mem_eligible known fresh oldest⟩
  · intro nonce timeouts
    exact not_recorded_of_timeouts after timeouts

/-! ## Nonces around the day's boundary -/

def inferer : Settings := ⟨"allo1wallet", 10, false, Settings.ten_positive⟩

/-- As `answerOpen`, but nonce 7 times out. -/
def answerTimeout (openNonces : Finset ℤ) (w : Unit) : (request : CycleRequest) → CycleReply request × Unit
  | .submit nonce _ =>
    ((3, .ok (if nonce = 7 then .failed (.txTimeout "") else .done ⟨0, "", "", "AA", 0, 0⟩)), w)
  | request => answerOpen openNonces w request

def logAt (start : WorkerState) (eventNonce : Option ℤ) (openNonces : Finset ℤ) : List CycleEntry :=
  Coroutine.keep (answerTimeout openNonces) (maybeSubmitImpl inferer eventNonce).run start ()

def afterCycle (start : WorkerState) (eventNonce : Option ℤ) (openNonces : Finset ℤ) : WorkerState :=
  (Coroutine.play (answerTimeout openNonces) (maybeSubmitImpl inferer eventNonce).run start ()).state

theorem logAt_lived (start : WorkerState) (eventNonce : Option ℤ) (openNonces : Finset ℤ) :
    Lived inferer eventNonce start (logAt start eventNonce openNonces)
      (afterCycle start eventNonce openNonces) :=
  .finished (Coroutine.keep_journal _ _ _ _)

/-- The states after an event for nonce 5, a poll a day later, an event for 7 a
second after that while the poll sees nothing, and another event for 7. -/
def firstDay : WorkerState := afterCycle ⟨0, .empty⟩ (some 5) ∅

def secondDay : WorkerState := afterCycle (firstDay.advance 86400000000) none {5}

def thirdDay : WorkerState := afterCycle (secondDay.advance 1000000) (some 7) ∅

def retried : WorkerState := afterCycle thirdDay (some 7) ∅

/-- Nonce 5 is left alone until its record was pruned; 7 is tried again at once. -/
def days : List (Option ℤ × List CycleEntry) :=
  [(some 5, logAt ⟨0, .empty⟩ (some 5) ∅), (none, logAt (firstDay.advance 86400000000) none {5}),
    (some 7, logAt (secondDay.advance 1000000) (some 7) ∅), (some 7, logAt thirdDay (some 7) ∅),
    (none, logAt retried none {5})]

theorem days_life : Life inferer ⟨0, .empty⟩ days (afterCycle retried none {5}) :=
  .cons 0 (logAt_lived _ _ _) (.cons 86400000000 (logAt_lived _ _ _)
    (.cons 1000000 (logAt_lived _ _ _) (.cons 0 (logAt_lived _ _ _)
      (.cons 0 (logAt_lived _ _ _) (.nil _)))))

/-- Nonce 5 was answered at time 3, and both later records are those of answers. -/
theorem no_resubmission_days :
    days.map (fun cycle => calledNonces cycle.2) = [[5], [], [7], [7], [5]] ∧
      (journal days).filterMap definite = [(5, 3), (5, 86401000012)] ∧
      ∀ before e after, journal days = before ++ e :: after →
        ∀ nonce accountSeq, e.request = .submit nonce accountSeq →
          ∀ earlier ∈ before, ∀ time,
            (nonce, time) ∈ earlier.state.submittedNonces.data ∨ definite earlier = some (nonce, time) →
            time + retention < e.state.clock :=
  ⟨by decide +kernel, by decide +kernel, (no_resubmission days_life).2.1⟩

end AlloraSdk.Guarantees
