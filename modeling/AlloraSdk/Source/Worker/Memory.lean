import AlloraSdk.Logic.Journal
import AlloraSdk.Source.Worker.Cycle

/-!
# What a worker remembers of its nonces

The journal of a cycle shows `submitted_nonces` at every request. `Remembers`
is what holds of it at any time: a nonce that was recorded stays, with a
timestamp that is no older, until its record is more than a day old; and what is
recorded is the nonce of an attempt that counted, with the time of its answer.
-/

namespace AlloraSdk.Source.Worker
open AlloraSdk.Logic AlloraSdk.Source.TxManager AlloraSdk.Source.Utils

abbrev CycleEntry := Entry WorkerState CycleRequest CycleReply

/-- The answer of a call of `use_case.submit`, with its nonce. -/
def attempt : CycleEntry → Option (ℤ × Except PyException SubmitResult)
  | ⟨_, .submit nonce _, some (_, answer)⟩ => some (nonce, answer)
  | _ => none

/-- A nonce whose attempt got an answer that counts, and the clock when it came. -/
def definite : CycleEntry → Option (ℤ × ℤ)
  | ⟨s, .submit nonce _, some (took, .ok result)⟩ =>
    if result.isFinal then some (nonce, (s.advance took).clock) else none
  | _ => none

theorem attempt_of_definite {e : CycleEntry} {nonce time : ℤ} (counts : definite e = some (nonce, time)) :
    ∃ result, attempt e = some (nonce, .ok result) ∧ result.isFinal = true := by
  unfold definite at counts
  split at counts
  · split at counts
    · cases counts
      exact ⟨_, rfl, ‹_›⟩
    · cases counts
  · cases counts

/-- A record that is still there, with this timestamp or a later one, or is more than a day old. -/
def Lasts (s : WorkerState) (nonce time : ℤ) : Prop :=
  (∃ later, time ≤ later ∧ (nonce, later) ∈ s.submittedNonces.data) ∨ time + retention < s.clock

structure Remembers (past : List CycleEntry) (s : WorkerState) : Prop where
  stamped : ∀ nonce time, (nonce, time) ∈ s.submittedNonces.data → time ≤ s.clock
  kept : ∀ e ∈ past, ∀ nonce time, (nonce, time) ∈ e.state.submittedNonces.data → Lasts s nonce time
  held : ∀ e ∈ past, ∀ nonce time, definite e = some (nonce, time) → Lasts s nonce time
  recorded : ∀ nonce time, (nonce, time) ∈ s.submittedNonces.data →
    ∃ e ∈ past, definite e = some (nonce, time)

/-- The nonces in `rest` are still to be submitted. -/
structure Handling (rest : List ℤ) (past : List CycleEntry) (s : WorkerState) : Prop where
  remembers : Remembers past s
  unsubmitted : ∀ nonce ∈ rest, nonce ∉ s.submittedNonces

/-- What holds whenever a cycle waits. -/
structure Sound (past : List CycleEntry) (s : WorkerState) (request : CycleRequest) : Prop where
  remembers : Remembers past s
  unsubmitted : ∀ nonce accountSeq, request = .submit nonce accountSeq → nonce ∉ s.submittedNonces

section Steps

variable {past : List CycleEntry} {s : WorkerState} {rest : List ℤ}

theorem Lasts.advance {nonce time : ℤ} (h : Lasts s nonce time) (elapsed : ℕ) :
    Lasts (s.advance elapsed) nonce time := by
  rcases h with there | old
  · exact .inl there
  · right
    simp only [WorkerState.advance]
    omega

theorem Lasts.prune {nonce time : ℤ} (h : Lasts s nonce time) : Lasts s.prune nonce time := by
  rcases h with ⟨later, younger, there⟩ | old
  · by_cases young : s.clock - retention ≤ later
    · exact .inl ⟨later, younger, TimestampOrderedSet.mem_data_prune.mpr ⟨there, young⟩⟩
    · right
      simp only [WorkerState.prune]
      omega
  · exact .inr old

/-- The new timestamp is no older than the one it replaces. -/
theorem Lasts.record {nonce other time : ℤ} (h : Lasts s other time)
    (stamped : ∀ nonce time, (nonce, time) ∈ s.submittedNonces.data → time ≤ s.clock) :
    Lasts { s with submittedNonces := s.submittedNonces.add nonce s.clock } other time := by
  rcases h with ⟨later, younger, there⟩ | old
  · by_cases same : other = nonce
    · have := stamped other later there
      exact .inl ⟨s.clock, by omega, TimestampOrderedSet.mem_data_add.mpr (.inr ⟨same, rfl⟩)⟩
    · exact .inl ⟨later, younger, TimestampOrderedSet.mem_data_add.mpr (.inl ⟨same, there⟩)⟩
  · exact .inr old

theorem Remembers.start (clock : ℕ) : Remembers [] ⟨clock, .empty⟩ where
  stamped := by simp [TimestampOrderedSet.empty]
  kept := by simp
  held := by simp
  recorded := by simp [TimestampOrderedSet.empty]

/-- An entry without an answer that counts. -/
theorem Remembers.ask (h : Remembers past s) {request : CycleRequest} {reply : Option (CycleReply request)}
    (quiet : definite ⟨s, request, reply⟩ = none) : Remembers (past ++ [⟨s, request, reply⟩]) s where
  stamped := h.stamped
  kept := by
    intro e member nonce time recorded
    rcases List.mem_append.mp member with old | new
    · exact h.kept e old nonce time recorded
    · obtain rfl := List.mem_singleton.mp new
      exact .inl ⟨time, Int.le_refl time, recorded⟩
  held := by
    intro e member nonce time counts
    rcases List.mem_append.mp member with old | new
    · exact h.held e old nonce time counts
    · obtain rfl := List.mem_singleton.mp new
      rw [quiet] at counts
      cases counts
  recorded := by
    intro nonce time there
    obtain ⟨e, old, counts⟩ := h.recorded nonce time there
    exact ⟨e, List.mem_append_left _ old, counts⟩

theorem Remembers.advance (h : Remembers past s) (elapsed : ℕ) : Remembers past (s.advance elapsed) where
  stamped := by
    intro nonce time recorded
    have := h.stamped nonce time recorded
    simp only [WorkerState.advance]
    omega
  kept := fun e member nonce time recorded => (h.kept e member nonce time recorded).advance elapsed
  held := fun e member nonce time counts => (h.held e member nonce time counts).advance elapsed
  recorded := h.recorded

theorem Remembers.prune (h : Remembers past s) : Remembers past s.prune where
  stamped := by
    intro nonce time recorded
    exact h.stamped nonce time (TimestampOrderedSet.mem_data_prune.mp recorded).1
  kept := fun e member nonce time recorded => (h.kept e member nonce time recorded).prune
  held := fun e member nonce time counts => (h.held e member nonce time counts).prune
  recorded := fun nonce time there => h.recorded nonce time (TimestampOrderedSet.mem_data_prune.mp there).1

theorem Remembers.earned (h : Remembers past s) {nonce : ℤ} (member : nonce ∈ s.submittedNonces) :
    ∃ e ∈ past, ∃ result, attempt e = some (nonce, .ok result) ∧ result.isFinal = true := by
  obtain ⟨time, there⟩ := TimestampOrderedSet.mem_iff.mp member
  obtain ⟨e, asked, counts⟩ := h.recorded nonce time there
  exact ⟨e, asked, attempt_of_definite counts⟩

/-- Recording a nonce right after an answer that counts. -/
theorem Remembers.record (h : Remembers past s) {nonce : ℤ} {accountSeq took : ℕ} {result : SubmitResult}
    (counts : result.isFinal = true) :
    Remembers (past ++ [⟨s, .submit nonce accountSeq, some (took, .ok result)⟩])
      { s.advance took with
        submittedNonces := (s.advance took).submittedNonces.add nonce (s.advance took).clock } where
  stamped := by
    intro other time recorded
    rcases TimestampOrderedSet.mem_data_add.mp recorded with ⟨-, there⟩ | ⟨-, rfl⟩
    · exact (h.advance took).stamped other time there
    · exact Int.le_refl _
  kept := by
    intro e member other time recorded
    rcases List.mem_append.mp member with old | new
    · exact ((h.advance took).kept e old other time recorded).record (h.advance took).stamped
    · obtain rfl := List.mem_singleton.mp new
      have here : Lasts (s.advance took) other time := .inl ⟨time, Int.le_refl time, recorded⟩
      exact here.record (h.advance took).stamped
  held := by
    intro e member other time answered
    rcases List.mem_append.mp member with old | new
    · exact ((h.advance took).held e old other time answered).record (h.advance took).stamped
    · obtain rfl := List.mem_singleton.mp new
      simp only [definite, counts, if_true, Option.some.injEq, Prod.mk.injEq] at answered
      obtain ⟨rfl, rfl⟩ := answered
      exact .inl ⟨_, Int.le_refl _, TimestampOrderedSet.mem_data_add.mpr (.inr ⟨rfl, rfl⟩)⟩
  recorded := by
    intro other time there
    rcases TimestampOrderedSet.mem_data_add.mp there with ⟨-, old⟩ | ⟨rfl, rfl⟩
    · obtain ⟨e, asked, answered⟩ := h.recorded other time old
      exact ⟨e, List.mem_append_left _ asked, answered⟩
    · exact ⟨_, List.mem_append_right _ (List.mem_singleton.mpr rfl), by simp [definite, counts]⟩

theorem Handling.record (h : Handling rest past s) {nonce : ℤ} {accountSeq took : ℕ} {result : SubmitResult}
    (other : nonce ∉ rest) (counts : result.isFinal = true) :
    Handling rest (past ++ [⟨s, .submit nonce accountSeq, some (took, .ok result)⟩])
      { s.advance took with
        submittedNonces := (s.advance took).submittedNonces.add nonce (s.advance took).clock } where
  remembers := h.remembers.record counts
  unsubmitted := by
    intro n member recorded
    rcases TimestampOrderedSet.mem_add.mp recorded with rfl | there
    · exact other member
    · exact h.unsubmitted n member there

theorem Handling.prune (h : Handling rest past s) : Handling rest past s.prune where
  remembers := h.remembers.prune
  unsubmitted := by
    intro nonce member recorded
    obtain ⟨time, there, -⟩ := TimestampOrderedSet.mem_prune.mp recorded
    exact h.unsubmitted nonce member (TimestampOrderedSet.mem_iff.mpr ⟨time, there⟩)

theorem Handling.advance (h : Handling rest past s) (elapsed : ℕ) :
    Handling rest past (s.advance elapsed) :=
  ⟨h.remembers.advance elapsed, h.unsubmitted⟩

theorem Handling.ask (h : Handling rest past s) {request : CycleRequest} {reply : Option (CycleReply request)}
    (quiet : definite ⟨s, request, reply⟩ = none) : Handling rest (past ++ [⟨s, request, reply⟩]) s :=
  ⟨h.remembers.ask quiet, h.unsubmitted⟩

/-- Only a submission has an answer that counts. -/
theorem definite_other {request : CycleRequest} {reply : Option (CycleReply request)}
    (other : ∀ nonce accountSeq, request ≠ .submit nonce accountSeq) : definite ⟨s, request, reply⟩ = none := by
  unfold definite
  split
  · rename_i nonce accountSeq took result same
    cases same
    exact (other nonce accountSeq rfl).elim
  · rfl

end Steps

section Rules

variable {rest : List ℤ}

/-- Everything but a submission may be asked at any time. -/
theorem await_upholds {request : CycleRequest} (other : ∀ nonce accountSeq, request ≠ .submit nonce accountSeq) :
    Routine.Upholds Sound (Handling rest) (await request) := by
  apply Routine.Upholds.await
  · intro past s h
    exact ⟨h.remembers, fun nonce accountSeq same => (other nonce accountSeq same).elim⟩
  · intro past s reply h
    exact h.ask (definite_other other)

theorem answered_upholds {α : Type} (reply : Timed α) :
    Routine.Upholds Sound (Handling rest) (answered reply) :=
  .bind (.update fun _ _ h => h.advance _) fun _ => .pure _

theorem demand_upholds {α : Type} (reply : Timed α) :
    Routine.Upholds Sound (Handling rest) (demand reply) :=
  .bind (answered_upholds reply) fun _ => .ofExcept _

theorem afterSubmit_upholds : Routine.Upholds Sound (Handling rest) afterSubmit := by
  refine .bind (await_upholds (by simp)) fun reply => .bind (demand_upholds reply) fun balance => ?_
  split
  · exact .pure _
  · exact .bind (await_upholds (by simp)) fun logged => .bind (demand_upholds logged) fun _ =>
      .bind (await_upholds (by simp)) fun requested => demand_upholds requested

theorem finishSubmit_upholds (result : SubmitResult) :
    Routine.Upholds Sound (Handling rest) (finishSubmit result) := by
  refine .bind (.update fun _ _ h => h.prune) fun _ => .bind (await_upholds (by simp)) fun listening => ?_
  split
  · exact await_upholds (by simp)
  · exact .pure _

variable {past : List CycleEntry} {s : WorkerState}

theorem answered_ensures {α β : Type} {reply : Timed α} {f : Except PyException α → Cycle β}
    {post : Except PyException β → List CycleEntry → WorkerState → Prop}
    (after : Routine.Ensures Sound post (f reply.2) past (s.advance reply.1)) :
    Routine.Ensures Sound post (answered reply >>= f) past s :=
  after

/-- From the answer of the use case on. -/
theorem settle_ensures {nonce : ℤ} {accountSeq : ℕ} {reply : Timed SubmitResult} (other : nonce ∉ rest)
    (h : Handling rest past s) :
    Routine.Ensures Sound (fun _ => Handling rest) (match reply.2 with
      | .error _ => finishSubmit .nothing
      | .ok result => do
        if result.isFinal then
          Routine.update fun s => { s with submittedNonces := s.submittedNonces.add nonce s.clock }
        tryCatch afterSubmit fun _ => pure ()
        finishSubmit result) (past ++ [⟨s, .submit nonce accountSeq, some reply⟩]) (s.advance reply.1) := by
  obtain ⟨took, answer⟩ := reply
  cases answer with
  | error e =>
    have asked : Handling rest (past ++ [⟨s, .submit nonce accountSeq, some (took, .error e)⟩]) s := h.ask rfl
    exact finishSubmit_upholds .nothing _ _ (asked.advance took)
  | ok result =>
    have onward : Routine.Upholds Sound (Handling rest) (do
        tryCatch afterSubmit fun _ => pure ()
        finishSubmit result) :=
      .bind (.tryCatch afterSubmit_upholds fun _ => .pure _) fun _ => finishSubmit_upholds result
    by_cases counts : result.isFinal = true
    · simp only [counts, if_true]
      exact onward _ _ (h.record other counts)
    · simp only [counts]
      have asked : Handling rest (past ++ [⟨s, .submit nonce accountSeq, some (took, .ok result)⟩]) s :=
        h.ask (by simp [definite, counts])
      exact onward _ _ (asked.advance took)

/-- One submission of a nonce that is not recorded. -/
theorem submit_ensures {nonce : ℤ} {accountSeq : ℕ} (other : nonce ∉ rest)
    (h : Handling (nonce :: rest) past s) :
    Routine.Ensures Sound (fun _ => Handling rest) (submit nonce accountSeq) past s := by
  have fresh := h.unsubmitted nonce (List.mem_cons_self ..)
  have later : Handling rest past s :=
    ⟨h.remembers, fun n member => h.unsubmitted n (List.mem_cons_of_mem _ member)⟩
  have asked : Routine.Ensures Sound (fun result past' s' => ∃ reply : Timed SubmitResult, result = .ok reply ∧
      s' = s ∧ past' = past ++ [⟨s, .submit nonce accountSeq, some reply⟩])
      (Routine.await (CycleRequest.submit nonce accountSeq) : Cycle (Timed SubmitResult)) past s := by
    apply Routine.Ensures.await
    · exact ⟨h.remembers, fun n q same => by cases same; exact fresh⟩
    · intro reply
      exact ⟨reply, rfl, rfl, rfl⟩
  refine Routine.Ensures.bind asked ?_ ?_
  · rintro e past s ⟨reply, same, -⟩
    cases same
  · rintro reply past' s' ⟨_, ⟨⟩, rfl, rfl⟩
    exact answered_ensures (settle_ensures other later)

theorem submitSerially_ensures {baseSequence i : ℕ} {nonces : List ℤ} (distinct : nonces.Nodup)
    (h : Handling nonces past s) :
    Routine.Ensures Sound (fun _ => Handling []) (submitSerially baseSequence i nonces) past s := by
  induction nonces generalizing i past s with
  | nil => exact h
  | cons nonce rest ih =>
    obtain ⟨other, distinct⟩ := List.nodup_cons.mp distinct
    have done : ∀ {past s}, Handling (nonce :: rest) past s → Handling [] past s :=
      fun h => ⟨h.remembers, by simp⟩
    refine Routine.Ensures.bind (await_upholds (by simp) past s h) (fun _ _ _ h => done h) ?_
    intro running past s h
    split
    · refine Routine.Ensures.bind (submit_ensures other h) ?_ fun _ past s h => ih distinct h
      intro e past s h
      exact ⟨h.remembers, by simp⟩
    · exact done h

theorem submitNonces_ensures {settings : Settings} {nonces : List ℤ} (distinct : nonces.Nodup)
    (h : Handling nonces past s) :
    Routine.Ensures Sound (fun _ => Handling []) (submitNonces settings nonces) past s := by
  have done : ∀ {past s}, Handling nonces past s → Handling [] past s := fun h => ⟨h.remembers, by simp⟩
  refine Routine.Ensures.bind (await_upholds (by simp) past s h) (fun _ _ _ h => done h) ?_
  intro reply past s h
  refine Routine.Ensures.bind (demand_upholds reply past s h) (fun _ _ _ h => done h) ?_
  intro info past s h
  cases info with
  | none => exact done h
  | some info => exact submitSerially_ensures distinct h

end Rules

/-! ## The selection -/

section Selection

variable {settings : Settings} {submitted : TimestampOrderedSet} {openNonces : Finset ℤ}
  {eventNonce : Option ℤ} {nonce : ℤ}

theorem latestNonces_nodup (settings : Settings) (nonces : Finset ℤ) :
    (latestNonces settings nonces).Nodup := by
  unfold latestNonces
  dsimp only
  split
  · exact (Finset.sort_nodup nonces _).sublist (List.drop_sublist _ _)
  · exact Finset.sort_nodup nonces _

theorem mem_of_latestNonces (chosen : nonce ∈ latestNonces settings openNonces) : nonce ∈ openNonces := by
  unfold latestNonces at chosen
  dsimp only at chosen
  split at chosen
  · exact (Finset.mem_sort _).mp (List.mem_of_mem_drop chosen)
  · exact (Finset.mem_sort _).mp chosen

/-- What is eligible is not recorded. -/
theorem eligible_unsubmitted (member : nonce ∈ eligible settings submitted openNonces eventNonce) :
    nonce ∉ submitted := by
  unfold eligible at member
  split at member
  · simp only [selectSequentialNonce] at member
    split at member
    · split at member
      · cases Finset.notMem_empty _ member
      · rename_i fresh
        rwa [Finset.mem_singleton.mp member]
    · cases Finset.notMem_empty _ member
  · exact (Finset.mem_filter.mp member).2

/-- A nonce that is known to be open and not recorded is eligible, in a
sequential use case if it is the oldest. -/
theorem mem_eligible (known : nonce ∈ openNonces ∨ eventNonce = some nonce) (fresh : nonce ∉ submitted)
    (oldest : settings.requiresSequentialNonces = true →
      ∀ n, n ∈ openNonces ∨ eventNonce = some n → nonce ≤ n) :
    nonce ∈ eligible settings submitted openNonces eventNonce := by
  have candidate : nonce ∈ openNonces ∪ eventNonce.toFinset := by simpa using known
  unfold eligible
  by_cases sequential : settings.requiresSequentialNonces = true
  · have found : (openNonces ∪ eventNonce.toFinset).Nonempty := ⟨nonce, candidate⟩
    have least : (openNonces ∪ eventNonce.toFinset).min' found = nonce := by
      apply le_antisymm (Finset.min'_le _ _ candidate)
      refine Finset.le_min' _ _ _ fun n member => oldest sequential n (by simpa using member)
    simp only [sequential, if_true, selectSequentialNonce, dif_pos found, least, if_neg fresh,
      Finset.mem_singleton]
  · simp only [sequential]
    exact Finset.mem_filter.mpr ⟨candidate, fresh⟩

end Selection

/-- A whole cycle. -/
theorem maybeSubmitImpl_ensures {settings : Settings} {eventNonce : Option ℤ} {past : List CycleEntry}
    {s : WorkerState} (h : Handling [] past s) :
    Routine.Ensures Sound (fun _ => Handling []) (maybeSubmitImpl settings eventNonce) past s := by
  have select : ∀ openNonces past s, Handling [] past s →
      Routine.Ensures Sound (fun _ => Handling []) (submitEligible settings eventNonce openNonces) past s := by
    intro openNonces past s h
    refine submitNonces_ensures (latestNonces_nodup _ _) ⟨h.remembers, fun nonce member => ?_⟩
    exact eligible_unsubmitted (mem_of_latestNonces member)
  refine Routine.Ensures.bind (await_upholds (by simp) past s h) (fun _ _ _ h => h) ?_
  intro cancelled past s h
  split
  · exact h
  refine Routine.Ensures.bind (await_upholds (by simp) past s h) (fun _ _ _ h => h) ?_
  intro listed past s h
  refine Routine.Ensures.bind (demand_upholds listed past s h) (fun _ _ _ h => h) ?_
  intro canSubmit past s h
  split
  · refine Routine.Ensures.bind (await_upholds (by simp) past s h) (fun _ _ _ h => h) ?_
    intro reply past s h
    refine answered_ensures ?_
    split
    · exact select _ _ _ (h.advance _)
    · exact select _ _ _ (h.advance _)
    · exact h.advance _
  · exact await_upholds (by simp) past s h

end AlloraSdk.Source.Worker
