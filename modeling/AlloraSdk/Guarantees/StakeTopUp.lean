import AlloraSdk.Logic.TopUps
import AlloraSdk.Source.Worker.ReputerStake

/-!
# The reputer's stake is topped up once

The reputer tops its stake up when it initializes and after every submission.
Whatever the node answers, the stake then passes the minimum by no more than the
transactions it heard nothing of and the stake from elsewhere, and none is sent
after one that was confirmed.
-/

namespace AlloraSdk.Guarantees
open AlloraSdk.Logic AlloraSdk.Source.TxManager AlloraSdk.Source.Worker

/-- What an event says of the stake or sends to it. -/
def transferOf : StakeEvent → Option Transfer
  | ⟨.stakeInSelf _ _, .ok amount⟩ => (readStake amount).toOption.map .read
  | ⟨.addStake _ amount _, .ok resp⟩ => some (if resp.code = 0 then .done amount else .refused amount)
  | ⟨.addStake _ amount _, .error _⟩ => some (.unknown amount)
  | _ => none

def transfersOf (trace : List StakeEvent) : List Transfer := trace.filterMap transferOf

/-- `_maybe_stake` does nothing without a minimum, or with 0. -/
def stakeTarget (staker : Staker) : ℤ := staker.minStakeUallo.getD 0

def isRegistration : StakeRequest → Bool
  | .isReputerRegistered _ _ | .register _ _ _ _ => true
  | .stakeInSelf _ _ | .addStake _ _ _ => false

/-- What a request to register raised. -/
def registrationError : StakeEvent → Option PyException
  | ⟨.isReputerRegistered _ _, .error e⟩ => some e
  | ⟨.register _ _ _ _, .error e⟩ => some e
  | _ => none

/-- A request for this reputer in this topic. -/
def IsOwn (staker : Staker) : StakeRequest → Prop
  | .isReputerRegistered topicId address => topicId = staker.topicId ∧ address = staker.address
  | .register topicId owner sender feeTier =>
    topicId = staker.topicId ∧ owner = staker.address ∧ sender = staker.address ∧ feeTier = staker.feeTier
  | .stakeInSelf topicId reputer => topicId = staker.topicId ∧ reputer = staker.address
  | .addStake topicId _ feeTier => topicId = staker.topicId ∧ feeTier = staker.feeTier

/-- Where the reputer's code tops up. -/
inductive StakingMoment where
  | initializing
  | afterSubmit
  deriving DecidableEq, Repr

/-- `submit` calls `_maybe_stake` inside a `try`. -/
def stakingAct (staker : Staker) : StakingMoment → StakeAct Unit
  | .initializing => do
    let _ ← staker.initializeReputer
    pure ()
  | .afterSubmit => tryCatch staker.maybeStake fun _ => pure ()

structure StakingCall where
  moment : StakingMoment
  trace : List StakeEvent
  out : Except PyException Unit

section Call

variable {staker : Staker} {s s' : Unit} {trace : List StakeEvent} {out : Except PyException Unit}

theorem transfersOf_unread {topicId : ℕ} {reputer amount : String} {e : PyException} {rest : List StakeEvent}
    (unread : readStake amount = .error e) :
    transfersOf (⟨.stakeInSelf topicId reputer, .ok amount⟩ :: rest) = transfersOf rest := by
  simp [transfersOf, transferOf, unread, Except.toOption]

theorem transfersOf_read {topicId : ℕ} {reputer amount : String} {stake : ℤ} {rest : List StakeEvent}
    (read : readStake amount = .ok stake) :
    transfersOf (⟨.stakeInSelf topicId reputer, .ok amount⟩ :: rest) = .read stake :: transfersOf rest := by
  simp [transfersOf, transferOf, read, Except.toOption]

/-- What the answer to `add_stake` comes to. -/
theorem transfersOf_added (topicId : ℕ) (delta : ℤ) (feeTier : FeeTier) (outcome : Except PyException TxResponse) :
    ∃ t, transfersOf [⟨.addStake topicId delta feeTier, outcome⟩] = [t] ∧
      (t = .done delta ∨ t = .refused delta ∨ t = .unknown delta) := by
  cases outcome with
  | error e => exact ⟨.unknown delta, rfl, .inr (.inr rfl)⟩
  | ok resp =>
    by_cases accepted : resp.code = 0
    · exact ⟨.done delta, by simp [transfersOf, transferOf, accepted], .inl rfl⟩
    · exact ⟨.refused delta, by simp [transfersOf, transferOf, accepted], .inr (.inl rfl)⟩

theorem topUp_ends {minStake : ℤ} (run : (staker.topUp minStake).Runs s trace out s') :
    out = .ok () ∧ ToppingUp minStake (transfersOf trace) := by
  obtain ⟨outcome, t, first, rest, queried, later, rfl⟩ := Routine.runs_attempt_bind.mp run
  obtain ⟨answer, asked, rfl, replied⟩ := Routine.runs_await_bind.mp queried
  obtain ⟨e, rfl, rfl, rfl, rfl⟩ | ⟨amount, rfl, parsed⟩ := Routine.runs_ofExcept_bind.mp replied
  · obtain ⟨rfl, same, -⟩ := Routine.runs_pure.mp later
    exact ⟨same, .idle⟩
  obtain ⟨rfl, rfl, rfl⟩ := Routine.runs_ofExcept.mp parsed
  cases read : readStake amount with
  | error e =>
    rw [read] at later
    obtain ⟨rfl, same, -⟩ := Routine.runs_pure.mp later
    rw [List.append_nil, transfersOf_unread read]
    exact ⟨same, .idle⟩
  | ok current =>
    rw [read] at later
    rw [List.cons_append, List.nil_append, transfersOf_read read]
    obtain ⟨enough, skipped⟩ | ⟨missing, sent⟩ := Routine.runs_ite.mp later
    · obtain ⟨rfl, same, -⟩ := Routine.runs_pure.mp skipped
      exact ⟨same, .enough enough⟩
    · obtain ⟨outcome, rest, rfl, ended⟩ := Routine.runs_await_bind.mp sent
      obtain ⟨rfl, same, -⟩ := Routine.runs_pure.mp ended
      obtain ⟨t, shown, kinds⟩ :=
        transfersOf_added staker.topicId (minStake - current) staker.feeTier outcome
      rw [shown]
      exact ⟨same, .topped (by omega) kinds⟩

theorem maybeStake_ends (run : staker.maybeStake.Runs s trace out s') :
    out = .ok () ∧ ToppingUp (stakeTarget staker) (transfersOf trace) := by
  unfold Staker.maybeStake at run
  cases held : staker.minStakeUallo with
  | none =>
    rw [held] at run
    obtain ⟨rfl, same, -⟩ := Routine.runs_pure.mp run
    exact ⟨same, .idle⟩
  | some minStake =>
    rw [held] at run
    obtain ⟨-, skipped⟩ | ⟨-, topped⟩ := Routine.runs_ite.mp run
    · obtain ⟨rfl, same, -⟩ := Routine.runs_pure.mp skipped
      exact ⟨same, .idle⟩
    · have same : stakeTarget staker = minStake := by simp [stakeTarget, held]
      rw [same]
      exact topUp_ends topped

/-- The `try` around it has nothing to catch. -/
theorem maybeStake_caught (run : (tryCatch staker.maybeStake fun _ => pure ()).Runs s trace out s') :
    out = .ok () ∧ ToppingUp (stakeTarget staker) (transfersOf trace) := by
  obtain ⟨_, ran, rfl⟩ | ⟨e, t, first, rest, ran, -, -⟩ := Routine.runs_tryCatch.mp run
  · exact maybeStake_ends ran
  · cases (maybeStake_ends ran).1

theorem registerIfNeeded_asks {p : StakeRequest → Prop}
    (query : p (.isReputerRegistered staker.topicId staker.address))
    (register : p (.register staker.topicId staker.address staker.address staker.feeTier)) :
    Routine.Asks p staker.registerIfNeeded := by
  apply Routine.Asks.bind
  · exact Routine.Asks.await query
  intro answer
  apply Routine.Asks.bind
  · exact Routine.Asks.ofExcept _
  intro registered
  cases registered with
  | true => exact Routine.Asks.pure ()
  | false =>
    apply Routine.Asks.bind
    · exact Routine.Asks.await register
    intro outcome
    apply Routine.Asks.bind
    · exact Routine.Asks.ofExcept _
    intro _
    exact Routine.Asks.pure ()

/-- Registering raises what its last request raised. -/
theorem registerIfNeeded_raises {e : PyException} (run : staker.registerIfNeeded.Runs s trace (.error e) s') :
    ∃ before last, trace = before ++ [last] ∧ registrationError last = some e := by
  obtain ⟨answer, asked, rfl, replied⟩ := Routine.runs_await_bind.mp run
  obtain ⟨e', rfl, rfl, same, -⟩ | ⟨registered, rfl, later⟩ := Routine.runs_ofExcept_bind.mp replied
  · cases same
    exact ⟨[], _, rfl, rfl⟩
  cases registered with
  | true => cases (Routine.runs_pure.mp later).2.1
  | false =>
    obtain ⟨outcome, rest, rfl, ended⟩ := Routine.runs_await_bind.mp later
    obtain ⟨e', rfl, rfl, same, -⟩ | ⟨_, -, returned⟩ := Routine.runs_ofExcept_bind.mp ended
    · cases same
      exact ⟨[_], _, rfl, rfl⟩
    · cases (Routine.runs_pure.mp returned).2.1

/-- Registering is no transfer. -/
theorem registerIfNeeded_registers :
    Routine.Asks (fun request => isRegistration request = true) staker.registerIfNeeded :=
  registerIfNeeded_asks rfl rfl

theorem transfersOf_registration (all : ∀ e ∈ trace, isRegistration e.request = true) : transfersOf trace = [] := by
  rw [transfersOf, List.filterMap_eq_nil_iff]
  rintro ⟨request, reply⟩ member
  have registers := all _ member
  cases request with
  | isReputerRegistered topicId address => rfl
  | register topicId owner sender feeTier => rfl
  | stakeInSelf topicId reputer => cases registers
  | addStake topicId amount feeTier => cases registers

/-- A call tops up, and raises only what a request to register raised, its last one. -/
structure TopsUp (staker : Staker) (call : StakingCall) : Prop where
  transfers : ToppingUp (stakeTarget staker) (transfersOf call.trace)
  raises : ∀ e, call.out = .error e →
    call.moment = .initializing ∧ (∀ event ∈ call.trace, isRegistration event.request = true) ∧
      ∃ before last, call.trace = before ++ [last] ∧ registrationError last = some e

theorem stakingAct_topsUp {moment : StakingMoment} (run : (stakingAct staker moment).Runs s trace out s') :
    TopsUp staker ⟨moment, trace, out⟩ := by
  cases moment with
  | afterSubmit =>
    obtain ⟨rfl, transfers⟩ := maybeStake_caught run
    exact ⟨transfers, by simp⟩
  | initializing =>
    rw [stakingAct, Staker.initializeReputer, bind_assoc] at run
    obtain ⟨e, failed, rfl⟩ | ⟨_, t, first, rest, registered, staked, rfl⟩ := Routine.runs_bind.mp run
    · have registers := registerIfNeeded_registers failed
      refine ⟨by rw [transfersOf_registration registers]; exact .idle, ?_⟩
      rintro _ ⟨⟩
      exact ⟨rfl, registers, registerIfNeeded_raises failed⟩
    rw [bind_assoc] at staked
    obtain ⟨e, failed, -⟩ | ⟨_, t', second, last, topped, returned, rfl⟩ := Routine.runs_bind.mp staked
    · cases (maybeStake_caught failed).1
    · obtain ⟨rfl, same, -⟩ := Routine.runs_pure.mp returned
      have silent := transfersOf_registration (registerIfNeeded_registers registered)
      have both : transfersOf (first ++ (second ++ [])) = transfersOf second := by
        rw [List.append_nil, transfersOf, List.filterMap_append]
        exact congrArg (· ++ transfersOf second) silent
      exact ⟨by rw [both]; exact (maybeStake_caught topped).2, by simp [same]⟩

/-! ### Every request is the reputer's own -/

theorem currentStake_own : Routine.Asks (IsOwn staker) staker.currentStake := by
  apply Routine.Asks.bind
  · exact Routine.Asks.await ⟨rfl, rfl⟩
  intro answer
  apply Routine.Asks.bind
  · exact Routine.Asks.ofExcept _
  intro amount
  exact Routine.Asks.ofExcept _

theorem addStake_own {delta : ℤ} : Routine.Asks (IsOwn staker) (staker.addStake delta) := by
  apply Routine.Asks.bind
  · exact Routine.Asks.await ⟨rfl, rfl⟩
  intro _
  exact Routine.Asks.pure ()

theorem maybeStake_own : Routine.Asks (IsOwn staker) staker.maybeStake := by
  unfold Staker.maybeStake
  cases staker.minStakeUallo with
  | none => exact Routine.Asks.pure ()
  | some minStake =>
    dsimp only
    split
    · exact Routine.Asks.pure ()
    · apply Routine.Asks.bind
      · exact currentStake_own.attempt
      intro queried
      cases queried with
      | error e => exact Routine.Asks.pure ()
      | ok current =>
        dsimp only
        split
        · exact Routine.Asks.pure ()
        · exact addStake_own

theorem stakingAct_own (moment : StakingMoment) : Routine.Asks (IsOwn staker) (stakingAct staker moment) := by
  have caught : Routine.Asks (IsOwn staker) (tryCatch staker.maybeStake fun _ => pure ()) :=
    maybeStake_own.tryCatch fun _ => Routine.Asks.pure ()
  cases moment with
  | afterSubmit => exact caught
  | initializing =>
    apply Routine.Asks.bind
    · have registers : Routine.Asks (IsOwn staker) staker.registerIfNeeded :=
        registerIfNeeded_asks ⟨rfl, rfl⟩ ⟨rfl, rfl, rfl, rfl⟩
      apply registers.bind
      intro _
      apply caught.bind
      intro _
      exact Routine.Asks.pure true
    · intro _
      exact Routine.Asks.pure ()

end Call

/-- Any calls of `initialize` and of the top-up after a submission, with any
answers: they raise only what registering raised, ask for this reputer alone, and
send at most what is missing. The stake never falls, passes the minimum by no more
than the transactions of unknown outcome and what was gained from elsewhere, and
once one transaction was confirmed it is at the minimum and no other is sent. -/
theorem stake_topped_up_once {staker : Staker} {start : ℤ} {c' : Level} {calls : List StakingCall}
    (ran : ∀ call ∈ calls, (stakingAct staker call.moment).Runs () call.trace call.out ())
    (path : Path LevelStep ⟨start, [], 0⟩ (calls.flatMap fun call => transfersOf call.trace) c') :
    (∀ call ∈ calls, TopsUp staker call ∧ ∀ e ∈ call.trace, IsOwn staker e.request) ∧
    start ≤ c'.level ∧
    c'.level + c'.floating.sum ≤ max start (stakeTarget staker) +
      uncertain (calls.flatMap fun call => transfersOf call.trace) + c'.gained ∧
    ∀ before after, calls = before ++ after →
      (∃ t ∈ before.flatMap fun call => transfersOf call.trace, t.isDone) →
      stakeTarget staker ≤ c'.level ∧ ∀ t ∈ after.flatMap fun call => transfersOf call.trace, t.isSent = false := by
  have tops : ∀ call ∈ calls, TopsUp staker call := fun call member => stakingAct_topsUp (ran call member)
  have all {some : List StakingCall} (within : ∀ call ∈ some, call ∈ calls) :
      ∀ ts ∈ some.map fun call => transfersOf call.trace, ToppingUp (stakeTarget staker) ts := by
    intro ts member
    obtain ⟨call, found, rfl⟩ := List.mem_map.mp member
    exact (tops call (within call found)).transfers
  have begun : ToppedUp (stakeTarget staker) start 0 ⟨start, [], 0⟩ := toppedUp_start _ _
  have account := calls_toppedUp (all fun _ member => member) path begun
  rw [Int.zero_add] at account
  refine ⟨fun call member => ⟨tops call member, stakingAct_own call.moment (ran call member)⟩, account.grown,
    account.bounded, ?_⟩
  intro before after split done
  subst split
  rw [List.flatMap_append] at path
  obtain ⟨mid, first, rest⟩ := path_append.mp path
  have earlier := all fun call member => List.mem_append_left after member
  have later := all fun call member => List.mem_append_right before member
  have settled := calls_settled later rest (calls_toppedUp earlier first begun)
    (calls_reach earlier first begun done)
  exact ⟨settled.2, settled.1⟩

/-! ## A sample -/

def sampleStaker : Staker := ⟨"allo1r", 3, some 100, .standard⟩

/-- The first transaction is not heard of again; it lands after the second one. -/
def slowChain (sent : ℕ) (request : StakeRequest) : StakeReply request × ℕ :=
  match request with
  | .isReputerRegistered _ _ => (.ok true, sent)
  | .register _ _ _ _ => (.error .asyncioTimeout, sent)
  | .stakeInSelf _ _ => (.ok (if sent < 2 then "40" else "160"), sent)
  | .addStake _ _ _ => (if sent = 0 then .error .asyncioTimeout else .ok ⟨0, "", "", "AB", 0, 0⟩, sent + 1)

def playedCall (moment : StakingMoment) (sent : ℕ) : StakingCall :=
  let played := (stakingAct sampleStaker moment).play slowChain () sent
  ⟨moment, played.trace, played.value⟩

def playedCalls : List StakingCall :=
  [playedCall .initializing 0, playedCall .afterSubmit 1, playedCall .afterSubmit 2]

/-- Two transactions of 60 for a stake of 40: the excess is the one of unknown outcome. -/
theorem stake_topped_up_once_sample :
    (playedCalls.flatMap fun call => transfersOf call.trace) =
      [.read 40, .unknown 60, .read 40, .done 60, .read 160] ∧
    (∀ call ∈ playedCalls, TopsUp sampleStaker call) ∧
    160 ≤ max 40 (stakeTarget sampleStaker) + uncertain (playedCalls.flatMap fun call => transfersOf call.trace) := by
  have transfers : (playedCalls.flatMap fun call => transfersOf call.trace) =
      [.read 40, .unknown 60, .read 40, .done 60, .read 160] := by decide +kernel
  have ran : ∀ call ∈ playedCalls, (stakingAct sampleStaker call.moment).Runs () call.trace call.out () := by
    intro call member
    simp only [playedCalls, List.mem_cons, List.not_mem_nil, or_false] at member
    rcases member with rfl | rfl | rfl
    · exact Routine.play_runs slowChain (stakingAct sampleStaker .initializing) () 0
    · exact Routine.play_runs slowChain (stakingAct sampleStaker .afterSubmit) () 1
    · exact Routine.play_runs slowChain (stakingAct sampleStaker .afterSubmit) () 2
  have path : Path LevelStep ⟨40, [], 0⟩ (playedCalls.flatMap fun call => transfersOf call.trace) ⟨160, [], 0⟩ := by
    rw [transfers]
    exact .cons ⟨_, .refl _, .read _⟩ (.cons ⟨_, .refl _, .unknown _ _ _ _⟩ (.cons ⟨_, .refl _, .read _⟩
      (.cons ⟨_, .refl _, .done _ _ _ _⟩ (.cons ⟨_, @Shifts.land _ _ _ [] _ _ (.refl _), .read _⟩ (.nil _)))))
  obtain ⟨tops, -, bounded, -⟩ := stake_topped_up_once ran path
  simp only [List.sum_nil, Int.add_zero] at bounded
  exact ⟨transfers, fun call member => (tops call member).1, bounded⟩

end AlloraSdk.Guarantees
