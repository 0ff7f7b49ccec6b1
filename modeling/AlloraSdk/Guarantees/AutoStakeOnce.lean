import AlloraSdk.Source.Worker.Concurrency

/-!
# One delegation for each reward

`_last_autostake_key` is one key, written after the delegation's outcome. It
recognises a replay of the latest delegation only, and none while a handler is
still on its way to delegating. Where every such delivery is recognised, each
key is delegated for at most once.
-/

namespace AlloraSdk.Guarantees
open AlloraSdk.Logic AlloraSdk.Source.TxManager AlloraSdk.Source.Worker

abbrev WorkerMove (α : Type) := Move WorkerTask WorkerRequest (WorkerReply α)

def delegatesFor (key : AutoStakeKey) : WorkerRequest → Bool
  | .autoStake (.delegate delegation) => delegation.key = key
  | _ => false

/-- A handler past the duplicate check, before its delegation. -/
def checksFor (key : AutoStakeKey) : WorkerRequest → Bool
  | .autoStake (.balance _ _ delegation) => delegation.key = key
  | _ => false

/-- The delegation transactions started for a key. -/
def delegations (snapshot : Snapshot WorkerShared WorkerRequest) (key : AutoStakeKey) : ℕ :=
  snapshot.asked.countP (delegatesFor key)

def underWay (snapshot : Snapshot WorkerShared WorkerRequest) (key : AutoStakeKey) : Bool :=
  snapshot.asked.any (delegatesFor key) || snapshot.waits.any fun wait => wait.any (checksFor key)

/-- A reward that is under way is delivered again only while its key is the one
that is remembered. -/
def recognises {α : Type} (staker : AutoStaker) (snapshot : Snapshot WorkerShared WorkerRequest) :
    WorkerMove α → Bool
  | .spawn (.rewardsSettled event) => (staker.keyOf event).all fun key =>
    !underWay snapshot key || keysMatch snapshot.state.lastAutostakeKey key
  | _ => true

def Phase.checksFor (key : AutoStakeKey) : Phase → Bool
  | .checking delegation => delegation.key = key
  | _ => false

/-- Every key is delegated for or being checked at most once. -/
def Once (asked : List WorkerRequest) (phases : List Phase) : Prop :=
  ∀ key, asked.countP (delegatesFor key) + phases.countP (Phase.checksFor key) ≤ 1

section Invariant

variable {α : Type} {worker : AlloraWorker α} {v v' : Protocol.View Phase WorkerShared WorkerRequest}

theorem dueDelegation_key {staker : AutoStaker} {lastAutostakeKey : Option RememberedKey}
    {event : EventRewardsSettled} {delegation : Delegation}
    (due : staker.dueDelegation lastAutostakeKey event = some delegation) :
    staker.keyOf event = some delegation.key ∧ keysMatch lastAutostakeKey delegation.key = false := by
  unfold AutoStaker.dueDelegation at due
  split at due
  · rename_i autostake key configured found
    split at due
    · cases due
    · rename_i fresh
      dsimp only at due
      split at due
      · cases due
      · obtain rfl := Option.some.inj due
        exact ⟨found, by simpa using fresh⟩
  · cases due

theorem checksFor_request (key : AutoStakeKey) (ph : Phase) :
    (ph.request worker).any (checksFor key) = Phase.checksFor key ph := by
  cases ph with
  | outside request kind => cases request <;> first | rfl | cases kind
  | inside request kind => cases request <;> first | rfl | cases kind
  | _ => rfl

theorem not_underWay {key : AutoStakeKey}
    (idle : underWay ((workerProtocol worker).snapshot v) key = false) :
    v.asked.countP (delegatesFor key) + v.phases.countP (Phase.checksFor key) = 0 := by
  obtain ⟨none_asked, none_waits⟩ := Bool.or_eq_false_iff.mp idle
  have asked : v.asked.countP (delegatesFor key) = 0 :=
    List.countP_eq_zero.mpr fun request member => List.any_eq_false.mp none_asked request member
  have checked : v.phases.countP (Phase.checksFor key) = 0 := by
    refine List.countP_eq_zero.mpr fun ph member => ?_
    have same : (ph.request worker).any (checksFor key) = Phase.checksFor key ph := checksFor_request key ph
    rw [← same]
    exact List.any_eq_false.mp none_waits _ (List.mem_map_of_mem member)
  omega

theorem countP_append_toList {key : AutoStakeKey} (asked : List WorkerRequest) (request : Option WorkerRequest) :
    (asked ++ request.toList).countP (delegatesFor key) =
      asked.countP (delegatesFor key) + (request.any (delegatesFor key)).toNat := by
  cases request with
  | none => simp
  | some request => exact countP_snoc

theorem Once.spawn {asked : List WorkerRequest} {phases : List Phase} {ph : Phase} {request : Option WorkerRequest}
    (room : ∀ key, (request.any (delegatesFor key)).toNat + (Phase.checksFor key ph).toNat +
      (asked.countP (delegatesFor key) + phases.countP (Phase.checksFor key)) ≤ 1) :
    Once (asked ++ request.toList) (phases ++ [ph]) := by
  intro key
  have fits := room key
  rw [countP_append_toList, countP_snoc]
  omega

/-- A segment delegates only for the key that its phase was checking. -/
theorem Once.resume {asked : List WorkerRequest} {phases : List Phase} {index : ℕ} {ph ph' : Phase}
    {request : Option WorkerRequest} (once : Once asked phases) (found : phases[index]? = some ph)
    (room : ∀ key, (request.any (delegatesFor key)).toNat + (Phase.checksFor key ph').toNat ≤
      (Phase.checksFor key ph).toNat) : Once (asked ++ request.toList) (phases.set index ph') := by
  intro key
  have fits := room key
  have before := once key
  have checked := countP_replace (p := Phase.checksFor key) (y := ph') found
  rw [countP_append_toList]
  omega

/-- Nothing outside the rewards handler delegates or checks. -/
theorem unrelated_inside {request : WorkerRequest} (kind : request.isInside = true) (key : AutoStakeKey) :
    delegatesFor key request = false := by
  cases request <;> first | rfl | cases kind

theorem unrelated_outside {request : WorkerRequest} (kind : request.isOutside = true) (key : AutoStakeKey) :
    delegatesFor key request = false := by
  cases request <;> first | rfl | cases kind

theorem once_step {move : WorkerMove α}
    (met : recognises worker.staker ((workerProtocol worker).snapshot v) move = true)
    (step : (workerProtocol worker).Step (workerSystem worker) v move v') (once : Once v.asked v.phases) :
    Once v'.asked v'.phases := by
  cases step with
  | spawn moved =>
    cases moved with
    | begins guarded kind =>
      refine Once.spawn fun key => ?_
      simpa [Phase.request, Phase.checksFor, unrelated_outside kind key] using once key
    | undue => exact Once.spawn fun key => by simpa [Phase.request, Phase.checksFor] using once key
    | @due event _ delegation due =>
      obtain ⟨found, fresh⟩ := dueDelegation_key due
      refine Once.spawn fun key => ?_
      by_cases same : delegation.key = key
      · subst same
        have idle : underWay ((workerProtocol worker).snapshot v) delegation.key = false := by
          have recognised : !underWay ((workerProtocol worker).snapshot v) delegation.key ||
              keysMatch ((workerProtocol worker).snapshot v).state.lastAutostakeKey delegation.key := by
            simpa [recognises, found] using met
          rw [show keysMatch ((workerProtocol worker).snapshot v).state.lastAutostakeKey delegation.key = false
            from fresh] at recognised
          simpa using recognised
        rw [not_underWay idle]
        simp [Phase.request, Phase.checksFor, delegatesFor]
      · simpa [Phase.request, Phase.checksFor, delegatesFor, same] using once key
  | resume found awaits allowed moved =>
    cases moved with
    | waits kind =>
      exact once.resume found fun key => by simp [Phase.request, Phase.checksFor, unrelated_outside kind key]
    | enters locked kept kind =>
      exact once.resume found fun key => by simp [Phase.request, Phase.checksFor, unrelated_inside kind key]
    | works locked kept kind =>
      exact once.resume found fun key => by simp [Phase.request, Phase.checksFor, unrelated_inside kind key]
    | delegates sufficient => exact once.resume found fun key => le_rfl
    | leaves => exact once.resume found fun key => Nat.zero_le _
    | passes => exact once.resume found fun key => Nat.zero_le _
    | releases => exact once.resume found fun key => Nat.zero_le _
    | declines => exact once.resume found fun key => Nat.zero_le _
    | remembers => exact once.resume found fun key => Nat.zero_le _
    | abandons => exact once.resume found fun key => Nat.zero_le _

end Invariant

/-- In every run in which replays are recognised, at most one delegation is
started for each key. -/
theorem one_delegation_for_each_reward {α : Type} {worker : AlloraWorker α} {s : WorkerShared}
    {p : Pool WorkerShared WorkerRequest (WorkerReply α)} {moves : List (WorkerMove α)}
    (path : Path (guarded (fun p move => recognises worker.staker p.snapshot move = true)
      (workerSystem worker).Step) (.start s) moves p) (key : AutoStakeKey) :
    delegations p.snapshot key ≤ 1 := by
  obtain ⟨v, once, same⟩ := Protocol.reachable_invariant (workerProtocol_governs worker)
    (fun snapshot move => recognises worker.staker snapshot move = true) (fun v => Once v.asked v.phases)
    (fun _ => Nat.zero_le _) (fun _ _ _ met step once => once_step met step once) path
  have counted := once key
  rw [← same]
  exact (Nat.le_add_right _ _).trans counted

/-! ## Replays that are not recognised -/

/-- An inferer of text values that stakes its rewards with a reputer. -/
def stakingInferer : AlloraWorker String where
  settings := ⟨"allo1wallet", 10, false, Settings.ten_positive⟩
  role := .inferer
    { topicId := 1, dec := ⟨id, .ok, fun _ => .converted⟩, hasPredictFn := true, sanityCheckEnabled := false }
  staker :=
    { role := .inferer, topicId := 1, walletAddr := "allo1wallet"
      autostake := some ⟨.reputer, "allo1reputer", none, 0⟩
      feeTier := .standard, feeDenom := "uallo", hasStakingQuery := true }

def idle : WorkerShared := ⟨false, none, ⟨0, .empty⟩⟩

def rewardAt (height : ℤ) : EventRewardsSettled :=
  ⟨"ACTOR_TYPE_INFERER_UNSPECIFIED", 1, height, some (height + 1), ["allo1wallet"], ["100"]⟩

def keyAt (height : ℤ) : AutoStakeKey :=
  ⟨.inferer, 1, .reputer, "allo1reputer", height + 1, height, 100⟩

def delegationAt (height : ℤ) : Delegation := ⟨keyAt height, "allo1wallet", 100, .standard⟩

def delivered (height : ℤ) : WorkerMove String := .spawn (.rewardsSettled (rewardAt height))

/-- The wallet has 1000 uallo. -/
def balanceRead (index : ℕ) (height : ℤ) : WorkerMove String :=
  .resume index
    ⟨.autoStake (.balance "allo1wallet" "uallo" (delegationAt height)), some (.ok (some "1000"))⟩

def delegationDone (index : ℕ) (height : ℤ) : WorkerMove String :=
  .resume index ⟨.autoStake (.delegate (delegationAt height)), some (.ok ⟨0, "", "", "AA", 0, 0⟩)⟩

/-- The reward of block 10, that of block 20, and the first one again. -/
def replaying : List (WorkerMove String) :=
  [delivered 10, balanceRead 0 10, delegationDone 0 10,
    delivered 20, balanceRead 1 20, delegationDone 1 20,
    delivered 10, balanceRead 2 10]

/-- The reward of block 10 twice before either handler has the balance. -/
def overlapping : List (WorkerMove String) :=
  [delivered 10, delivered 10, balanceRead 0 10, balanceRead 1 10]

theorem delegated_twice :
    (∃ p, Path (workerSystem stakingInferer).Step (.start idle) replaying p ∧
      delegations p.snapshot (keyAt 10) = 2) ∧
    ∃ p, Path (workerSystem stakingInferer).Step (.start idle) overlapping p ∧
      delegations p.snapshot (keyAt 10) = 2 := by
  constructor
  · obtain ⟨p, path, twice⟩ := (workerSystem stakingInferer).reaches_of_run (fun _ _ => true) (.start idle)
      replaying (fun snapshot => delegations snapshot (keyAt 10) = 2) (by decide +kernel)
    exact ⟨p, path.unguarded, of_decide_eq_true twice⟩
  · obtain ⟨p, path, twice⟩ := (workerSystem stakingInferer).reaches_of_run (fun _ _ => true) (.start idle)
      overlapping (fun snapshot => delegations snapshot (keyAt 10) = 2) (by decide +kernel)
    exact ⟨p, path.unguarded, of_decide_eq_true twice⟩

/-- A replay of the latest delegation, and a reward after it. -/
def recognised : List (WorkerMove String) :=
  [delivered 10, balanceRead 0 10, delegationDone 0 10, delivered 10, delivered 20, balanceRead 2 20]

theorem one_delegation_for_each_reward_replayed :
    ∃ p, Path (guarded (fun p move => recognises stakingInferer.staker p.snapshot move = true)
        (workerSystem stakingInferer).Step) (.start idle) recognised p ∧
      (delegations p.snapshot (keyAt 10) = 1 ∧ delegations p.snapshot (keyAt 20) = 1) ∧
      ∀ key, delegations p.snapshot key ≤ 1 := by
  obtain ⟨p, path, delegated⟩ := (workerSystem stakingInferer).reaches_of_run
    (recognises stakingInferer.staker) (.start idle) recognised
    (fun snapshot => delegations snapshot (keyAt 10) = 1 ∧ delegations snapshot (keyAt 20) = 1)
    (by decide +kernel)
  exact ⟨p, path, of_decide_eq_true delegated, one_delegation_for_each_reward path⟩

end AlloraSdk.Guarantees
