import AlloraSdk.Chain.IdealCycle

/-!
# A wrong sequence hint never loses a submission

A failed callback consumes no sequence, so the later hints of a cycle run
ahead of the chain. On the ideal chain a submission lands whatever its hint
(`submission_lands`); the induction over the cycle adds one landing, or nothing,
per nonce.
-/

namespace AlloraSdk.Guarantees
open AlloraSdk.Logic AlloraSdk.Source.TxManager AlloraSdk.Source.Worker AlloraSdk.Chain

variable {α : Type}

/-- The nonces whose callback succeeds: their use case has a payload to send. -/
def succeeding (setup : Setup α) (nonces : List ℤ) : List ℤ :=
  nonces.filter fun nonce => (setup.role.payload setup.callbacks nonce).isOk

/-- `submit` returned the landed transaction's response. -/
def Delivered (trace : List CycleEv) (landing : Landing) : Prop :=
  ∃ accountSeq took,
    (⟨.submit landing.nonce accountSeq, (took, .ok (.done landing.resp))⟩ : CycleEv) ∈ trace

/-- From `w` to `w'` exactly one transaction was included for each of `nonces`,
in order, and the cycle `trace` got its response. -/
structure LandsEach (setup : Setup α) (nonces : List ℤ) (trace : List CycleEv) (w w' : Ideal)
    (landings : List Landing) : Prop where
  each : landings.map Landing.nonce = nonces
  included : w'.included = w.included ++ landings.map Landing.tx
  advanced : w'.committed = w.committed + nonces.length
  sequences : landings.map (fun landing => landing.tx.sequence) = List.range' w.committed nonces.length
  landed : ∀ landing ∈ landings, setup.Landed landing ∧ Delivered trace landing

section Cycle

variable {setup : Setup α} {s s' : WorkerState} {trace first : List CycleEv} {w w₁ w' : Ideal}
  {nonces : List ℤ} {landings : List Landing}

theorem LandsEach.nil : LandsEach setup [] trace w w [] where
  each := rfl
  included := by simp
  advanced := rfl
  sequences := rfl
  landed := by simp

theorem Delivered.mono {trace' : List CycleEv} {landing : Landing} (delivered : Delivered trace landing)
    (subset : trace ⊆ trace') : Delivered trace' landing := by
  obtain ⟨accountSeq, took, member⟩ := delivered
  exact ⟨accountSeq, took, subset member⟩

theorem LandsEach.mono {trace' : List CycleEv} (lands : LandsEach setup nonces trace w w' landings)
    (subset : trace ⊆ trace') : LandsEach setup nonces trace' w w' landings :=
  { lands with landed := fun landing member =>
      ⟨(lands.landed landing member).1, (lands.landed landing member).2.mono subset⟩ }

theorem LandsEach.cons {landing : Landing} (landed : setup.Landed landing)
    (due : landing.tx.sequence = w.committed) (delivered : Delivered trace landing)
    (rest : LandsEach setup nonces trace (w.extend landing.tx) w' landings) :
    LandsEach setup (landing.nonce :: nonces) trace w w' (landing :: landings) where
  each := by rw [List.map_cons, rest.each]
  included := by
    rw [rest.included]
    simp [Ideal.extend]
  advanced := by
    rw [rest.advanced, List.length_cons]
    simp only [Ideal.extend]
    omega
  sequences := by
    rw [List.map_cons, rest.sequences, List.length_cons, List.range'_succ, due]
    rfl
  landed := by
    intro other member
    rcases List.mem_cons.mp member with rfl | member
    · exact ⟨landed, delivered⟩
    · exact rest.landed other member

/-- Induction over the nonces; each one lands or leaves the chain as it is. -/
theorem submitSerially_lands {baseSequence i : ℕ} {out : Except PyException Unit}
    (run : (submitSerially baseSequence i nonces).Runs s trace out s')
    (path : Path setup.CycleStep w trace w') :
    out = .ok () ∧ submits trace = (nonces.zipIdx i).map (fun call => (call.1, baseSequence + call.2)) ∧
      ∃ landings, LandsEach setup (succeeding setup nonces) trace w w' landings := by
  induction nonces generalizing i s w trace with
  | nil =>
    obtain ⟨rfl, rfl, rfl⟩ := Routine.runs_pure.mp run
    obtain rfl := path_nil.mp path
    exact ⟨rfl, rfl, [], .nil⟩
  | cons nonce rest ih =>
    obtain ⟨running, after, rfl, run₁⟩ := Routine.runs_await_bind.mp run
    obtain ⟨w₁, step, path₁⟩ := path_cons.mp path
    obtain ⟨rfl, rfl⟩ := step.running_true
    obtain ⟨_, failed, -⟩ | ⟨_, t, first, last, called, run₂, rfl⟩ := Routine.runs_bind.mp run₁
    · cases (submit_outcome failed).1
    obtain ⟨-, ⟨took, answer⟩, books, rfl, bookkeeping⟩ := submit_outcome called
    obtain ⟨w₂, submission, path₂⟩ := path_cons.mp path₁
    obtain ⟨w₃, quiet, path₃⟩ := path_append.mp path₂
    obtain rfl := Setup.bookkeeping_path bookkeeping quiet
    obtain ⟨rfl, calls, landings, lands⟩ := ih run₂ path₃
    have within : last ⊆ ⟨.running, true⟩ :: (⟨.submit nonce (baseSequence + i), (took, answer)⟩ :: books ++ last) :=
      List.Subset.trans (List.subset_append_right _ last) (List.subset_cons_self _ _)
    refine ⟨rfl, ?_, ?_⟩
    · rw [submits_turn bookkeeping, calls, List.zipIdx_cons, List.map_cons]
    · rcases submission.lands with ⟨err, failed, rfl⟩ | ⟨landing, landed, rfl, rfl, due, rfl⟩
      · have skipped : succeeding setup (nonce :: rest) = succeeding setup rest := by
          simp [succeeding, failed, Except.isOk, Except.toBool]
        rw [skipped]
        exact ⟨landings, lands.mono within⟩
      · obtain ⟨payload, built, -⟩ := landed.content
        have kept : succeeding setup (landing.nonce :: rest) = landing.nonce :: succeeding setup rest := by
          simp [succeeding, built, Except.isOk, Except.toBool]
        rw [kept]
        exact ⟨landing :: landings, .cons landed due ⟨_, took, .tail _ (.head _)⟩ (lands.mono within)⟩

/-- Any submission with a retry and without a timeout lands, whatever its hint. -/
def LandsAnyHint (m : Manager) : Prop :=
  ∀ ⦃call : Call⦄ ⦃clock : ℕ⦄ ⦃price : Option ℚ⦄ ⦃cachedAt : Option ℕ⦄ ⦃trace : List Ev⦄
    ⦃out : Except PyException Unit⦄ ⦃s' : Submission⦄ ⦃w w' : Ideal⦄,
    1 ≤ call.maxRetries → call.timeout.filter (· ≠ 0) = none →
    (call.submit m).Runs (call.begin clock price cachedAt) trace out s' →
    Path (Ideal.Step m) w trace w' → out = .ok () ∧ Lands m call.msgs w w' s'.pending.finalFuture

/-- A cycle calls its use case for each nonce with the next hint, and lands
exactly the nonces whose callback succeeds. -/
theorem hint_never_loses {settings : Settings} {out : Except PyException Unit}
    (run : (submitNonces settings nonces).Runs s trace out s')
    (path : Path setup.CycleStep w trace w') :
    out = .ok () ∧ submits trace = nonces.zipIdx.map (fun call => (call.1, w.committed + call.2)) ∧
      (∃ landings, LandsEach setup (succeeding setup nonces) trace w w' landings) ∧
      LandsAnyHint setup.manager := by
  have anyHint : LandsAnyHint setup.manager := by
    intro call clock price cachedAt trace out s' w w' retries untimed run path
    exact submission_lands setup.uncapped retries untimed run path
  obtain ⟨⟨took, answer⟩, rest, rfl, run₁⟩ := Routine.runs_await_bind.mp run
  obtain ⟨w₁, step, path₁⟩ := path_cons.mp path
  obtain ⟨info, rfl, current, rfl⟩ := step.account_current
  obtain ⟨_, same, -⟩ | ⟨_, same, run₂⟩ := demand_bind.mp run₁ <;> cases same
  obtain ⟨rfl, calls, landings, lands⟩ := submitSerially_lands run₂ path₁
  rw [current] at calls
  exact ⟨rfl, calls, ⟨landings, lands.mono (List.subset_cons_self _ _)⟩, anyHint⟩

end Cycle

/-! ## A failed callback puts the later hints ahead -/

/-- An inferer of text values whose callback fails at block 5. -/
def drifting : Setup String where
  manager := testnet
  encode := fun payload => toString payload.nonce
  role := .inferer
    { topicId := 1, dec := ⟨id, .ok, fun _ => .converted⟩, hasPredictFn := true, sanityCheckEnabled := false }
  callbacks :=
    { predict := fun nonce =>
        if nonce = 5 then .error (.other "no data") else .ok (.scalar "1.5")
      forecast := fun _ => .error (.other "unused") }
  uncapped := rfl

def drift : Coroutine.Played WorkerState CycleRequest CycleReply Ideal (Except PyException Unit) :=
  (submitNonces ⟨"allo1wallet", 10, false, Settings.ten_positive⟩ [5, 7, 9]).play drifting.answerCycle
    ⟨0, .empty⟩ ⟨3, []⟩

theorem hint_never_loses_drifting :
    submits drift.trace = [(5, 3), (7, 4), (9, 5)] ∧ drift.world.included.map Tx.sequence = [3, 4] ∧
      (drift.value = .ok () ∧ submits drift.trace = [5, 7, 9].zipIdx.map (fun call => (call.1, 3 + call.2)) ∧
        (∃ landings, LandsEach drifting (succeeding drifting [5, 7, 9]) drift.trace ⟨3, []⟩ drift.world
          landings) ∧ LandsAnyHint testnet) :=
  ⟨by decide +kernel, by decide +kernel,
    hint_never_loses (Routine.play_runs _ _ _ _) (Coroutine.play_path drifting.answerCycle_step _ _ _)⟩

end AlloraSdk.Guarantees
