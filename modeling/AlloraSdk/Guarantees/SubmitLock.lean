import AlloraSdk.Guarantees.AutoStakeOnce

/-!
# One wallet transaction at a time

Cycles and `initialize` send their transactions while they hold `_submit_lock`;
the rewards handler sends its delegation without it. So a delegation may start
beside another transaction, and another beside a delegation, and only then do
two submission runs overlap.
-/

namespace AlloraSdk.Guarantees
open AlloraSdk.Logic AlloraSdk.Source.TxManager AlloraSdk.Source.Worker

/-- The submission runs in progress. -/
def transactions (snapshot : Snapshot WorkerShared WorkerRequest) : ℕ :=
  snapshot.waits.countP fun wait => wait.any WorkerRequest.isTransaction

def delegationInProgress (snapshot : Snapshot WorkerShared WorkerRequest) : Bool :=
  snapshot.waits.any fun wait => wait.any WorkerRequest.isDelegate

/-- A rewards handler goes on to its delegation only when the lock is free and no
other delegation is in progress, and nobody gets the lock while one is. -/
def keepsApart {α : Type} (snapshot : Snapshot WorkerShared WorkerRequest) : WorkerMove α → Bool
  | .resume _ ⟨.autoStake (.balance _ _ delegation), some answer⟩ =>
    insufficient delegation.amount answer || (!snapshot.state.locked && !delegationInProgress snapshot)
  | .resume _ ⟨.acquire, some ()⟩ => !delegationInProgress snapshot
  | _ => true

/-- The lock says whether someone holds it, and its holder is alone. -/
structure Apart (s : WorkerShared) (phases : List Phase) : Prop where
  holders : phases.countP Phase.isInside = s.locked.toNat
  alone : phases.countP Phase.isInside + phases.countP Phase.isDelegating ≤ 1

section Invariant

variable {α : Type} {worker : AlloraWorker α} {v v' : Protocol.View Phase WorkerShared WorkerRequest}

theorem isDelegate_request (ph : Phase) :
    (ph.request worker).any WorkerRequest.isDelegate = ph.isDelegating := by
  cases ph with
  | outside request kind => cases request <;> first | rfl | cases kind
  | inside request kind => cases request <;> first | rfl | cases kind
  | _ => rfl

theorem delegations_of_idle (idle : delegationInProgress ((workerProtocol worker).snapshot v) = false) :
    v.phases.countP Phase.isDelegating = 0 := by
  refine List.countP_eq_zero.mpr fun ph member => ?_
  have same : (ph.request worker).any WorkerRequest.isDelegate = ph.isDelegating := isDelegate_request ph
  rw [← same]
  exact List.any_eq_false.mp idle _ (List.mem_map_of_mem member)

/-- Only a holder of the lock and a delegation have a transaction in progress. -/
theorem transactions_le (phases : List Phase) :
    (phases.map (Phase.request worker)).countP (fun wait => wait.any WorkerRequest.isTransaction) ≤
      phases.countP Phase.isInside + phases.countP Phase.isDelegating := by
  induction phases with
  | nil => simp
  | cons ph rest ih =>
    have here : ((ph.request worker).any WorkerRequest.isTransaction).toNat ≤
        (Phase.isInside ph).toNat + (Phase.isDelegating ph).toNat := by
      cases ph with
      | outside request kind =>
        cases request <;> first | (cases kind; done) | simp [Phase.request, WorkerRequest.isTransaction]
      | inside request kind => exact (Bool.toNat_le _).trans (by simp [Phase.isInside])
      | delegating delegation => exact (Bool.toNat_le _).trans (by simp [Phase.isDelegating])
      | _ => simp [Phase.request, WorkerRequest.isTransaction]
    have total := Nat.add_le_add ih here
    rw [List.map_cons, List.countP_cons, List.countP_cons, List.countP_cons]
    revert total
    cases (ph.request worker).any WorkerRequest.isTransaction <;> cases ph.isInside <;>
      cases ph.isDelegating <;> simp <;> omega

theorem Apart.spawn {s : WorkerShared} {phases : List Phase} {ph : Phase} (apart : Apart s phases)
    (inside : ph.isInside = false) (delegating : ph.isDelegating = false) : Apart s (phases ++ [ph]) := by
  refine ⟨?_, ?_⟩
  · rw [countP_snoc, inside]
    exact apart.holders
  · rw [countP_snoc, countP_snoc, inside, delegating]
    exact apart.alone

section Resume

variable {s s' : WorkerShared} {phases : List Phase} {index : ℕ} {ph ph' : Phase}

/-- A segment keeps them apart when it frees what it gives up, and takes nothing
new beside others. -/
theorem Apart.resume (apart : Apart s phases) (found : phases[index]? = some ph)
    (lock : s'.locked.toNat + ph.isInside.toNat = s.locked.toNat + ph'.isInside.toNat)
    (room : ph'.isInside.toNat + ph'.isDelegating.toNat ≤ ph.isInside.toNat + ph.isDelegating.toNat ∨
      phases.countP Phase.isInside + phases.countP Phase.isDelegating = 0 ∧
        ph'.isInside.toNat + ph'.isDelegating.toNat ≤ 1) :
    Apart s' (phases.set index ph') := by
  obtain ⟨holders, alone⟩ := apart
  have inside := countP_replace (p := Phase.isInside) (y := ph') found
  have delegating := countP_replace (p := Phase.isDelegating) (y := ph') found
  exact ⟨by omega, by omega⟩

theorem Apart.locked_of_inside (apart : Apart s phases) (found : phases[index]? = some ph)
    (inside : ph.isInside = true) : s.locked = true := by
  have held : 0 < phases.countP Phase.isInside :=
    List.countP_pos_iff.mpr ⟨ph, List.mem_of_getElem? found, inside⟩
  rw [apart.holders] at held
  cases unlocked : s.locked with
  | true => rfl
  | false => simp [unlocked] at held

end Resume

theorem apart_step {move : WorkerMove α} (met : keepsApart ((workerProtocol worker).snapshot v) move = true)
    (step : (workerProtocol worker).Step (workerSystem worker) v move v') (apart : Apart v.state v.phases) :
    Apart v'.state v'.phases := by
  cases step with
  | spawn moved =>
    cases moved with
    | begins => exact apart.spawn rfl rfl
    | undue => exact apart.spawn rfl rfl
    | due => exact apart.spawn rfl rfl
  | resume found awaits allowed moved =>
    cases moved with
    | waits => exact apart.resume found rfl (.inl le_rfl)
    | leaves => exact apart.resume found rfl (.inl le_rfl)
    | enters locked =>
      have free : v.state.locked = false := by simpa [workerSystem, lockAllows] using allowed
      have idle : v.phases.countP Phase.isDelegating = 0 := delegations_of_idle (by simpa [keepsApart] using met)
      have unheld := apart.holders
      rw [free] at unheld
      refine apart.resume found ?_ (.inr ⟨?_, le_rfl⟩)
      · rw [locked, free]
        rfl
      · rw [unheld, idle]
        rfl
    | passes unlocked =>
      have free : v.state.locked = false := by simpa [workerSystem, lockAllows] using allowed
      refine apart.resume found ?_ (.inl le_rfl)
      rw [unlocked, free]
      rfl
    | works locked =>
      refine apart.resume found ?_ (.inl le_rfl)
      rw [locked]
      rfl
    | releases unlocked =>
      refine apart.resume found ?_ (.inl (Nat.zero_le _))
      rw [unlocked, apart.locked_of_inside found rfl]
      rfl
    | declines => exact apart.resume found rfl (.inl le_rfl)
    | delegates sufficient =>
      have free : ((workerProtocol worker).snapshot v).state.locked = false ∧
          delegationInProgress ((workerProtocol worker).snapshot v) = false := by
        simpa [keepsApart, sufficient] using met
      have unheld := apart.holders
      rw [show v.state.locked = false from free.1] at unheld
      refine apart.resume found rfl (.inr ⟨?_, le_rfl⟩)
      rw [unheld, delegations_of_idle free.2]
      rfl
    | remembers => exact apart.resume found rfl (.inl (Nat.zero_le _))
    | abandons => exact apart.resume found rfl (.inl (Nat.zero_le _))

end Invariant

/-- In every run in which delegations keep apart from the lock, at most one
transaction of the wallet is in progress. -/
theorem one_transaction_at_a_time {α : Type} {worker : AlloraWorker α} {s : WorkerShared}
    {p : Pool WorkerShared WorkerRequest (WorkerReply α)} {moves : List (WorkerMove α)}
    (unlocked : s.locked = false)
    (path : Path (guarded (fun p move => keepsApart p.snapshot move = true) (workerSystem worker).Step)
      (.start s) moves p) :
    transactions p.snapshot ≤ 1 := by
  obtain ⟨v, apart, same⟩ := Protocol.reachable_invariant (workerProtocol_governs worker)
    (fun snapshot move => keepsApart snapshot move = true) (fun v => Apart v.state v.phases)
    ⟨by rw [unlocked]; rfl, Nat.zero_le _⟩ (fun _ _ _ met step apart => apart_step met step apart) path
  rw [← same]
  exact (transactions_le v.phases).trans apart.alone

/-! ## A delegation beside a cycle -/

/-- A cycle on its way to the transaction for the open nonce 5. -/
def submitting (index : ℕ) : List (WorkerMove String) :=
  [.resume index ⟨.ensureInitialized, some (.ok ())⟩, .resume index ⟨.cycle .ctxCancelled, some false⟩,
    .resume index ⟨.acquire, some ()⟩, .resume index ⟨.cycle .ctxCancelled, some false⟩,
    .resume index ⟨.cycle .workerIsWhitelisted, some (0, .ok true)⟩,
    .resume index ⟨.cycle .getUnfulfilledNonces, some (0, .ok {5})⟩,
    .resume index ⟨.cycle (.accountInfo "allo1wallet"), some (0, .ok (some ⟨3, 1⟩))⟩,
    .resume index ⟨.cycle .running, some true⟩,
    .resume index ⟨.useCase (.predict 5), some (.ok (.scalar "1.5"))⟩]

def beside : List (WorkerMove String) :=
  .spawn .poll :: submitting 0 ++ [delivered 10, balanceRead 1 10]

theorem two_transactions :
    ∃ p, Path (workerSystem stakingInferer).Step (.start idle) beside p ∧ transactions p.snapshot = 2 := by
  obtain ⟨p, path, two⟩ := (workerSystem stakingInferer).reaches_of_run (fun _ _ => true) (.start idle)
    beside (fun snapshot => transactions snapshot = 2) (by decide +kernel)
  exact ⟨p, path.unguarded, of_decide_eq_true two⟩

/-- The submit-hold timeout cuts the cycle off before the reward arrives. -/
def cutOff : List (WorkerMove String) :=
  .spawn .poll :: submitting 0 ++
    [.resume 0 ⟨.useCase (.transact ⟨1, 5, some [("y", "1.5")], none⟩ 3), none⟩,
      delivered 10, balanceRead 1 10]

theorem one_transaction_at_a_time_cutOff :
    ∃ p, Path (guarded (fun p move => keepsApart p.snapshot move = true) (workerSystem stakingInferer).Step)
        (.start idle) cutOff p ∧
      delegationInProgress p.snapshot = true ∧ transactions p.snapshot ≤ 1 := by
  obtain ⟨p, path, delegating⟩ := (workerSystem stakingInferer).reaches_of_run keepsApart (.start idle)
    cutOff delegationInProgress (by decide +kernel)
  exact ⟨p, path, delegating, one_transaction_at_a_time rfl path⟩

end AlloraSdk.Guarantees
