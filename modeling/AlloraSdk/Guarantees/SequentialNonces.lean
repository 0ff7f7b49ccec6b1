import AlloraSdk.Source.Worker.Cycle

/-!
# Sequential nonces are submitted strictly oldest-first

A use case that requires sequential nonces is called at most once a cycle, with
the oldest nonce the cycle knows to be open, and only when the query of the open
nonces succeeded. Cycles may be cut off anywhere by the hold timeout.
-/

namespace AlloraSdk.Guarantees
open AlloraSdk.Logic AlloraSdk.Source.TxManager AlloraSdk.Source.Worker AlloraSdk.Source.Utils

/-- One cycle, from a poll or an event with its nonce. -/
structure CycleRun where
  eventNonce : Option ℤ
  start : WorkerState
  trace : List CycleEv
  finish : WorkerState

/-- The cycle ran to its end, or was cut off, whatever it then left behind. -/
def CycleRun.Made (settings : Settings) (cycle : CycleRun) : Prop :=
  ∃ events out finish, cycle.trace <+: events ∧
    (maybeSubmitImpl settings cycle.eventNonce).Runs cycle.start events out finish ∧
    (cycle.trace = events → cycle.finish = finish)

theorem CycleRun.made_of_run {settings : Settings} {eventNonce : Option ℤ} {start finish : WorkerState}
    {trace : List CycleEv} {out : Except PyException Unit}
    (run : (maybeSubmitImpl settings eventNonce).Runs start trace out finish) :
    CycleRun.Made settings ⟨eventNonce, start, trace, finish⟩ :=
  ⟨trace, out, finish, List.prefix_rfl, run, fun _ => rfl⟩

/-- Cycles one after the other, with time in between. -/
inductive Cycles (settings : Settings) : WorkerState → List CycleRun → WorkerState → Prop
  | nil (s : WorkerState) : Cycles settings s [] s
  | cons {s s' : WorkerState} {cycle : CycleRun} {rest : List CycleRun} (idle : ℕ)
      (starts : cycle.start = s.advance idle) (made : cycle.Made settings)
      (later : Cycles settings cycle.finish rest s') : Cycles settings s (cycle :: rest) s'

/-- The only submit call of the cycle is for the oldest nonce it knows to be
open, which was not submitted before. -/
structure OldestFirst (cycle : CycleRun) (nonce : ℤ) (accountSeq : ℕ) : Prop where
  known : ∃ before took openNonces after,
    cycle.trace = before ++ ⟨.getUnfulfilledNonces, (took, .ok openNonces)⟩ :: after ∧
      submits before = [] ∧ IsLeast {n | n ∈ openNonces ∨ cycle.eventNonce = some n} nonce
  unsubmitted : nonce ∉ cycle.start.submittedNonces
  only : submits cycle.trace = [(nonce, accountSeq)]

section Cycle

variable {settings : Settings} {submitted : TimestampOrderedSet} {openNonces : Finset ℤ}
  {eventNonce : Option ℤ} {nonce : ℤ}

theorem selectSequentialNonce_spec :
    selectSequentialNonce submitted openNonces eventNonce = ∅ ∨
      ∃ oldest, selectSequentialNonce submitted openNonces eventNonce = {oldest} ∧
        oldest ∉ submitted ∧ IsLeast {n | n ∈ openNonces ∨ eventNonce = some n} oldest := by
  unfold selectSequentialNonce
  by_cases found : (openNonces ∪ eventNonce.toFinset).Nonempty
  · simp only [dif_pos found]
    by_cases member : (openNonces ∪ eventNonce.toFinset).min' found ∈ submitted
    · exact .inl (if_pos member)
    · refine .inr ⟨_, if_neg member, member, ?_, ?_⟩
      · have := Finset.min'_mem _ found
        simpa using this
      · intro n known
        exact Finset.min'_le _ _ (by simpa using known)
  · exact .inl (dif_neg found)

theorem latestNonces_singleton : latestNonces settings {nonce} = [nonce] := by
  have positive := settings.positive
  unfold latestNonces
  rw [Finset.sort_singleton, if_neg]
  simp only [List.length_singleton]
  omega

theorem latestNonces_empty : latestNonces settings ∅ = [] := by
  unfold latestNonces
  rw [Finset.sort_empty, if_neg]
  simp

/-- Of a sequential cycle only the selected nonce is left. -/
theorem latest_of_eligible (sequential : settings.requiresSequentialNonces = true) :
    latestNonces settings (eligible settings submitted openNonces eventNonce) = [] ∨
      ∃ oldest, latestNonces settings (eligible settings submitted openNonces eventNonce) = [oldest] ∧
        oldest ∉ submitted ∧ IsLeast {n | n ∈ openNonces ∨ eventNonce = some n} oldest := by
  have chosen : eligible settings submitted openNonces eventNonce =
      selectSequentialNonce submitted openNonces eventNonce := if_pos sequential
  rw [chosen]
  rcases selectSequentialNonce_spec with none | ⟨oldest, one, fresh, least⟩
  · rw [none]
    exact .inl latestNonces_empty
  · rw [one]
    exact .inr ⟨oldest, latestNonces_singleton, fresh, least⟩

/-- A part of the trace that reaches a submission contains the query before it. -/
theorem query_before {before rest part : List CycleEv} {query : CycleEv} {call : ℤ × ℕ}
    (cut : part <+: before ++ query :: rest) (early : submits (before ++ [query]) = [])
    (member : call ∈ submits part) : ∃ after, part = before ++ query :: after := by
  have upTo : before ++ [query] <+: before ++ query :: rest := ⟨rest, by simp⟩
  rcases List.prefix_or_prefix_of_prefix cut upTo with short | long
  · obtain ⟨tail, same⟩ := short
    rw [← same, submits_append, List.append_eq_nil_iff] at early
    rw [early.1] at member
    cases member
  · obtain ⟨after, same⟩ := long
    exact ⟨after, by simp [← same]⟩

theorem submits_prefix {part whole : List CycleEv} (cut : part <+: whole) : submits part <+: submits whole := by
  obtain ⟨tail, rfl⟩ := cut
  rw [submits_append]
  exact List.prefix_append _ _

/-- One cycle. -/
theorem CycleRun.Made.oldestFirst {cycle : CycleRun} {accountSeq : ℕ} (made : cycle.Made settings)
    (sequential : settings.requiresSequentialNonces = true)
    (member : (nonce, accountSeq) ∈ submits cycle.trace) : OldestFirst cycle nonce accountSeq := by
  obtain ⟨events, out, finish, cut, run, -⟩ := made
  have calls := submits_prefix cut
  rcases maybeSubmitImpl_outcome run with none | ⟨before, took, answer, openNonces, t, rest, rfl, early,
    known, kept, submission⟩
  · rw [none] at calls
    cases calls.subset member
  have early' : submits (before ++ [⟨.getUnfulfilledNonces, (took, answer)⟩]) = [] := by
    rw [submits_append, early]
    rfl
  obtain ⟨after, reached⟩ := query_before cut early' member
  have split : submits (before ++ ⟨.getUnfulfilledNonces, (took, answer)⟩ :: rest) = submits rest := by
    rw [submits_append, early]
    rfl
  rw [split] at calls
  obtain ⟨baseSequence, serial⟩ := submitNonces_outcome submission
  have all := calls.trans serial
  rcases @latest_of_eligible _ t.submittedNonces openNonces cycle.eventNonce sequential with
    none | ⟨oldest, one, fresh, least⟩
  · rw [none] at all
    cases all.subset member
  · rw [one] at all
    have only : submits cycle.trace = [(oldest, baseSequence + 0)] := by
      rcases List.prefix_cons_iff.mp all with empty | ⟨tail, same, short⟩
      · rw [empty] at member
        cases member
      · rw [same, List.prefix_nil.mp short]
    rw [only, List.mem_singleton] at member
    obtain ⟨rfl, rfl⟩ := Prod.mk.inj member
    have answered : answer = .ok openNonces := by
      rcases known with found | ⟨-, unordered⟩
      · exact found
      · rw [sequential] at unordered
        cases unordered
    subst answered
    exact ⟨⟨before, took, openNonces, after, reached, early, least⟩, kept ▸ fresh, only⟩

end Cycle

/-- Every submission of every cycle is oldest-first. -/
theorem sequential_oldest_first {settings : Settings} {s s' : WorkerState} {cycles : List CycleRun}
    (sequential : settings.requiresSequentialNonces = true) (run : Cycles settings s cycles s') :
    ∀ cycle ∈ cycles, ∀ nonce accountSeq, (nonce, accountSeq) ∈ submits cycle.trace →
      OldestFirst cycle nonce accountSeq := by
  induction run with
  | nil s =>
    intro cycle member
    cases member
  | cons idle starts made later ih =>
    intro cycle member nonce accountSeq call
    rcases List.mem_cons.mp member with rfl | member
    · exact made.oldestFirst sequential call
    · exact ih cycle member nonce accountSeq call

/-! ## Waiting for an older nonce to close -/

def reputer : Settings := ⟨"allo1wallet", 10, true, by decide⟩

/-- The node reports `openNonces`; a submission lands. -/
def answerOpen (openNonces : Finset ℤ) (_ : Unit) : (request : CycleRequest) → CycleReply request × Unit
  | .ctxCancelled => (false, ())
  | .workerIsWhitelisted => ((0, .ok true), ())
  | .stop => ((), ())
  | .getUnfulfilledNonces => ((0, .ok openNonces), ())
  | .accountInfo _ => ((0, .ok (some ⟨3, 1⟩)), ())
  | .running => (true, ())
  | .submit _ _ => ((0, .ok (.done ⟨0, "", "", "AA", 0, 0⟩)), ())
  | .balance => ((0, .ok none), ())
  | .logBalance => ((0, .ok ()), ())
  | .maybeFaucetRequest => ((0, .ok ()), ())
  | .listening => (false, ())
  | .put _ => ((), ())

def playAt (start : WorkerState) (eventNonce : Option ℤ) (openNonces : Finset ℤ) :
    Coroutine.Played WorkerState CycleRequest CycleReply Unit (Except PyException Unit) :=
  (maybeSubmitImpl reputer eventNonce).play (answerOpen openNonces) start ()

def cycleAt (start : WorkerState) (eventNonce : Option ℤ) (openNonces : Finset ℤ) : CycleRun where
  eventNonce := eventNonce
  start := start
  trace := (playAt start eventNonce openNonces).trace
  finish := (playAt start eventNonce openNonces).state

theorem cycleAt_made (start : WorkerState) (eventNonce : Option ℤ) (openNonces : Finset ℤ) :
    (cycleAt start eventNonce openNonces).Made reputer :=
  CycleRun.made_of_run
    (Routine.play_runs (answerOpen openNonces) (maybeSubmitImpl reputer eventNonce) start ())

/-- A poll that sees 5 and 7 open, an event for 9 while they still are, and a
poll after 5 closed. -/
def waiting : List CycleRun :=
  let first := cycleAt ⟨0, .empty⟩ none {7, 5}
  let second := cycleAt (first.finish.advance 60) (some 9) {7, 5}
  let third := cycleAt (second.finish.advance 60) none {9, 7}
  [first, second, third]

theorem waiting_cycles : Cycles reputer ⟨0, .empty⟩ waiting (waiting.getLast (by decide)).finish :=
  .cons 0 rfl (cycleAt_made _ _ _) (.cons 60 rfl (cycleAt_made _ _ _)
    (.cons 60 rfl (cycleAt_made _ _ _) (.nil _)))

theorem sequential_oldest_first_waiting :
    waiting.map (fun cycle => submits cycle.trace) = [[(5, 3)], [], [(7, 3)]] ∧
      ∀ cycle ∈ waiting, ∀ nonce accountSeq, (nonce, accountSeq) ∈ submits cycle.trace →
        OldestFirst cycle nonce accountSeq :=
  ⟨by decide +kernel, sequential_oldest_first rfl waiting_cycles⟩

end AlloraSdk.Guarantees
