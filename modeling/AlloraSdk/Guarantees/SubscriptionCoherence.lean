import AlloraSdk.Source.Events.ConnectionOutline

/-!
# What stands on the connection is what is registered

Whenever the event loop waits for a message on an open connection and no call is
in progress, the subscriptions that stand on the connection are the registered
ones and the heartbeat's, each once. This is so in every run in which no plain
`subscribe` registers on an open connection, nothing is unsubscribed that
`_connect` has still to send, and no connection comes up while an unsubscribe
request is awaited.
-/

namespace AlloraSdk.Guarantees
open AlloraSdk.Logic AlloraSdk.Source.Utils AlloraSdk.Source.Events

abbrev ClientPool := Pool ConnectionState ConnectionRequest ConnectionReply

abbrev ClientMove := Move ClientTask ConnectionRequest ConnectionReply

abbrev ClientSnapshot := Snapshot ConnectionState ConnectionRequest

def awaited (p : ClientPool) (n : ℕ) : Option ConnectionRequest := p.tasks[n]?.bind Paused.request

/-- No client call: it has ended, or it is an event loop that never begins. -/
def Idle (p : ClientPool) (n : ℕ) : Prop := awaited p n = none ∨ awaited p n = some .starts

/-- One subscribe request for each registered subscription, and the heartbeat's. -/
def SubscriptionsCoherent (client : AlloraWebsocketSubscriber) (p : ClientPool) : Prop :=
  ∀ n c, awaited p n = some (.recv c) → c ∉ p.state.closed → (∀ m, m ≠ n → Idle p m) →
    (standing (p.state.sentOn c)).Perm (ConnectionState.heartbeats client ++ p.state.registrations)

/-! ## The runs -/

def namesNew (s : ConnectionState) : ClientTask → Bool
  | .subscribe _ _ given | .subscribeNewBlockEvents _ _ _ given | .subscribeNewBlockEventsTyped _ _ _ given =>
    given.any fun id => decide (id ≠ "" ∧ id ∉ s.used)
  | _ => true

/-- The callers choose the ids, all of them different, and no send fails. -/
def wellUsed (seen : ClientSnapshot) : ClientMove → Bool
  | .spawn task => task.number == seen.waits.length && namesNew seen.state task
  | .resume _ ⟨.send _ _, sent⟩ => sent
  | _ => true

/-- The query of a plain `subscribe` is sent by the next `_connect` only. -/
def callUndisturbed (client : AlloraWebsocketSubscriber) (s : ConnectionState) : ClientTask → Bool
  | .subscribe _ filter _ => s.connection.isNone ||
    decide (client.heartbeat ∧ filter.toQuery = EventFilter.newBlockHeaders.toQuery)
  | .unsubscribe _ id => s.connection.isNone || decide (.caller id ∉ s.pending.map Prod.fst)
  | _ => true

def replyUndisturbed (s : ConnectionState) : Event ConnectionRequest ConnectionReply → Bool
  | ⟨.connect, true⟩ => s.leaving.all fun entry => s.registrations.all fun r => decide (r ≠ entry.2)
  | _ => true

def undisturbed (client : AlloraWebsocketSubscriber) (seen : ClientSnapshot) : ClientMove → Bool
  | .spawn task => callUndisturbed client seen.state task
  | .resume _ event => replyUndisturbed seen.state event

def isUndisturbed (client : AlloraWebsocketSubscriber) (seen : ClientSnapshot) (move : ClientMove) : Bool :=
  wellUsed seen move && undisturbed client seen move

section Runs

variable {client : AlloraWebsocketSubscriber}

def StartsUndisturbed (client : AlloraWebsocketSubscriber) (task : ClientTask) (s : ConnectionState) : Prop :=
  namesNew s task = true ∧ callUndisturbed client s task = true

theorem named_of_new {s : ConnectionState} {given : Option String}
    (new : given.any (fun id => decide (id ≠ "" ∧ id ∉ s.used)) = true) :
    ∃ id, given = some id ∧ id ≠ "" ∧ id ∉ s.used := by
  obtain ⟨id, named, new⟩ := (Option.any_eq_true _ _).mp new
  exact ⟨id, named, of_decide_eq_true new⟩

theorem clientRoutine_proved (task : ClientTask) {s : ConnectionState} (starts : StartsUndisturbed client task s)
    (kept : Coherent client s) (mine : Leaves task.number (fun _ => False) s) :
    Routine.Proved (connectionOutline client) ((clientSystem client).restrict replyUndisturbed).enabled task.number
      (fun _ => Leaves task.number fun _ => False) (clientRoutine client task) s := by
  obtain ⟨new, undisturbed⟩ := starts
  cases task with
  | subscribe me filter given =>
    obtain ⟨id, named, nonempty, new⟩ := named_of_new new
    refine (subscribe_proved kept mine named nonempty new fun accepted => ?_).mono fun _ _ ends => ends.2
    simpa [callUndisturbed, accepted] using undisturbed
  | subscribeNewBlockEvents me eventName conditions given =>
    obtain ⟨id, named, nonempty, new⟩ := named_of_new new
    change Routine.Proved _ _ _ _ (subscribeBlockEvents "block_events_" (some eventName) conditions given) s
    exact (subscribeBlockEvents_proved kept mine named nonempty new).mono fun _ _ ends => ends.2
  | subscribeNewBlockEventsTyped me eventName conditions given =>
    obtain ⟨id, named, nonempty, new⟩ := named_of_new new
    change Routine.Proved _ _ _ _ (subscribeBlockEvents "typed_block_events_" eventName conditions given) s
    exact (subscribeBlockEvents_proved kept mine named nonempty new).mono fun _ _ ends => ends.2
  | unsubscribe me id =>
    refine (unsubscribe_proved kept mine ?_).mono fun _ _ ends => ends.2
    simpa only [callUndisturbed, Bool.or_eq_true, Option.isNone_iff_eq_none, decide_eq_true_eq] using undisturbed
  | connectionLost me => exact Routine.Proved.update (lose_harmless kept) mine
  | eventLoop me attempts turns =>
    refine (eventLoop_proved ?_ ?_ attempts turns mine).mono fun _ _ ends => ends.2.2.leaves
    · intro t allowed entry leaving registered
      have all := (System.restrict_enabled.mp allowed).2
      exact of_decide_eq_true (List.all_eq_true.mp (List.all_eq_true.mp all entry leaving) _ registered) rfl
    · intro t allowed
      exact (System.restrict_enabled.mp allowed).1

theorem clientSystem_proves : (connectionOutline client).ProvesFrom
    ((clientSystem client).restrict replyUndisturbed) ClientTask.number (StartsUndisturbed client) := by
  intro task s starts kept mine
  refine Coroutine.Proved.bind (clientRoutine_proved task starts kept mine) ?_
  intro outcome t leaves
  exact leaves

theorem coherent_start : Coherent client ConnectionState.start := by
  constructor <;> simp [ConnectionState.start, ConnectionState.connection, PyDict.empty]

end Runs

/-- What stands on the connection is what is registered, in every state that such
a run reaches. -/
theorem subscriptions_coherent {client : AlloraWebsocketSubscriber} {p : ClientPool} {moves : List ClientMove}
    (path : Path (guarded (fun p move => isUndisturbed client p.snapshot move = true) (clientSystem client).Step)
      (.start ConnectionState.start) moves p) : SubscriptionsCoherent client p := by
  have begins : ∀ (p : ClientPool) (move : ClientMove), isUndisturbed client p.snapshot move = true →
      Outline.Begins ClientTask.number (StartsUndisturbed client) p move := by
    intro p move met
    cases move with
    | spawn task =>
      simp only [isUndisturbed, wellUsed, undisturbed, Bool.and_eq_true, beq_iff_eq, Pool.snapshot,
        List.length_map] at met
      exact ⟨met.1.1, met.1.2, met.2⟩
    | resume index event => trivial
  have admitted : ∀ (p : ClientPool) (index : ℕ) (event : Event ConnectionRequest ConnectionReply),
      isUndisturbed client p.snapshot (.resume index event) = true → replyUndisturbed p.state event = true :=
    fun p index event met => (Bool.and_eq_true_iff.mp met).2
  have valid := Outline.Valid.reachable_when clientSystem_proves begins admitted coherent_start
    (by intro n r; simp [ConnectionState.start]) path
  intro n c receives alive idle
  have holds := valid.holds n
  change ConnectionHolds n (awaited p n) p.state at holds
  rw [receives] at holds
  obtain ⟨loops, websocket⟩ := holds
  -- Nobody else is at an await of an unsubscribe request, and the loop has sent everything.
  have nobody : p.state.leaving = [] := by
    refine List.eq_nil_iff_forall_not_mem.mpr fun entry member => ?_
    obtain ⟨m, r⟩ := entry
    by_cases same : m = n
    · subst same
      exact (loops.leaves r).mp member
    · have other := valid.holds m
      change ConnectionHolds m (awaited p m) p.state at other
      rcases idle m same with ended | unbegun
      · rw [ended] at other
        exact (other r).mp member
      · rw [unbegun] at other
        exact (other r).mp member
  have settled := valid.inv.settled c (ConnectionState.connection_eq_some.mpr ⟨websocket, alive⟩)
  have present : p.state.present = p.state.registrations := by
    simp [ConnectionState.present, nobody]
  rwa [loops.pending, List.append_nil, present] at settled

/-! ## Runs that keep it, and runs that do not -/

/-- Task `n` waits for a message on the open connection, and all others have ended. -/
def onlyReceives (n c : ℕ) (seen : ClientSnapshot) : Bool :=
  decide (n < seen.waits.length ∧ seen.waits = (List.replicate seen.waits.length none).set n (some (.recv c)) ∧
    c ∉ seen.state.closed)

theorem awaited_snapshot (p : ClientPool) (n : ℕ) : awaited p n = p.snapshot.waits[n]?.join := by
  unfold awaited Pool.snapshot
  rw [List.getElem?_map]
  cases p.tasks[n]? with
  | none => rfl
  | some task => rfl

theorem receives_of_onlyReceives {p : ClientPool} {n c : ℕ} (only : onlyReceives n c p.snapshot = true) :
    awaited p n = some (.recv c) ∧ c ∉ p.state.closed ∧ ∀ m, m ≠ n → Idle p m := by
  obtain ⟨inside, waits, alive⟩ := of_decide_eq_true only
  refine ⟨?_, alive, fun m other => .inl ?_⟩
  · rw [awaited_snapshot, waits, List.getElem?_set_self (by simpa using inside)]
    rfl
  · rw [awaited_snapshot, waits, List.getElem?_set_ne (Ne.symm other), List.getElem?_replicate]
    split <;> rfl

/-- The standing requests and the registered subscriptions differ in number. -/
def miscounted (client : AlloraWebsocketSubscriber) (c : ℕ) (seen : ClientSnapshot) : Bool :=
  decide ((standing (seen.state.sentOn c)).length ≠
    (ConnectionState.heartbeats client ++ seen.state.registrations).length)

theorem incoherent_of_run {client : AlloraWebsocketSubscriber} {moves : List ClientMove} (n c : ℕ)
    (ran : ((clientSystem client).run wellUsed (.start ConnectionState.start) moves).any
      (fun p => onlyReceives n c p.snapshot && miscounted client c p.snapshot) = true) :
    ∃ p, Path (guarded (fun p move => wellUsed p.snapshot move = true) (clientSystem client).Step)
        (.start ConnectionState.start) moves p ∧ ¬ SubscriptionsCoherent client p := by
  obtain ⟨p, path, ends⟩ := (clientSystem client).reaches_of_run wellUsed (.start ConnectionState.start) moves
    (fun seen => onlyReceives n c seen && miscounted client c seen) ran
  obtain ⟨only, miscounted⟩ := Bool.and_eq_true_iff.mp ends
  obtain ⟨receives, alive, idle⟩ := receives_of_onlyReceives only
  refine ⟨p, path, fun coherent => ?_⟩
  exact of_decide_eq_true miscounted (coherent n c receives alive idle).length_eq

def heartbeatClient : AlloraWebsocketSubscriber where
  eventRecvTimeout := 20000000
  maxEventSilence := none
  heartbeat := true
  reconnectDelay := 5000000
  dedupeTtl := 60000000
  classes := ⟨[], fun _ => [], fun cls fields => some ⟨cls, fields⟩, fun message => message.cls.name,
    fun _ _ => none, fun _ _ _ _ => false, Json.render⟩
  receives := by decide
  patient := by simp

def heartbeatSent (c : ℕ) : ClientMove :=
  .resume 1 ⟨.send c ⟨.subscribe, .heartbeat, EventFilter.newBlockHeaders.toQuery⟩, true⟩

def subscriptionSent (c : ℕ) (id : String) (filter : EventFilter) : ClientMove :=
  .resume 1 ⟨.send c ⟨.subscribe, .caller id, filter.toQuery⟩, true⟩

def scores : EventFilter := EventFilter.newBlockEvents "scores" []

/-- A client with one subscription, up to its first `recv`. -/
def connecting : List ClientMove :=
  [.spawn (.subscribeNewBlockEvents 0 "scores" [] (some "scores")), .spawn (.eventLoop 1 1 9),
    .resume 1 ⟨.starts, ()⟩, .resume 1 ⟨.connect, true⟩]

/-- The connection is lost, a subscription is made meanwhile, and another one is
removed on the next connection. -/
def reconnected : List ClientMove :=
  connecting ++ [heartbeatSent 0, subscriptionSent 0 "scores" scores, .spawn (.connectionLost 2),
    .resume 1 ⟨.recv 0, .connectionClosed⟩, .spawn (.subscribe 3 EventFilter.newBlocks (some "blocks")),
    .resume 1 ⟨.sleep, ()⟩, .resume 1 ⟨.connect, true⟩, heartbeatSent 1, subscriptionSent 1 "scores" scores,
    subscriptionSent 1 "blocks" EventFilter.newBlocks, .spawn (.unsubscribe 4 "scores"),
    .resume 4 ⟨.send 1 ⟨.unsubscribe, .caller "scores", scores.toQuery⟩, true⟩]

theorem subscriptions_coherent_reconnected :
    ∃ p, Path (guarded (fun p move => isUndisturbed heartbeatClient p.snapshot move = true)
        (clientSystem heartbeatClient).Step) (.start ConnectionState.start) reconnected p ∧
      awaited p 1 = some (.recv 1) ∧ (∀ m, m ≠ 1 → Idle p m) ∧ SubscriptionsCoherent heartbeatClient p := by
  obtain ⟨p, path, ends⟩ := (clientSystem heartbeatClient).reaches_of_run (isUndisturbed heartbeatClient)
    (.start ConnectionState.start) reconnected (onlyReceives 1 1) (by decide +kernel)
  obtain ⟨receives, -, idle⟩ := receives_of_onlyReceives ends
  exact ⟨p, path, receives, idle, subscriptions_coherent path⟩

/-- On an open connection a plain `subscribe` sends nothing. -/
def subscribedLate : List ClientMove :=
  connecting ++ [heartbeatSent 0, subscriptionSent 0 "scores" scores,
    .spawn (.subscribe 2 EventFilter.newBlocks (some "blocks"))]

theorem subscription_left_unsent :
    ∃ p, Path (guarded (fun p move => wellUsed p.snapshot move = true) (clientSystem heartbeatClient).Step)
      (.start ConnectionState.start) subscribedLate p ∧ ¬ SubscriptionsCoherent heartbeatClient p :=
  incoherent_of_run 1 0 (by decide +kernel)

/-- Unsubscribed before `_connect` comes to send it. -/
def unsubscribedEarly : List ClientMove :=
  connecting ++ [.spawn (.unsubscribe 2 "scores"),
    .resume 2 ⟨.send 0 ⟨.unsubscribe, .caller "scores", scores.toQuery⟩, true⟩,
    heartbeatSent 0, subscriptionSent 0 "scores" scores]

theorem removed_subscription_sent :
    ∃ p, Path (guarded (fun p move => wellUsed p.snapshot move = true) (clientSystem heartbeatClient).Step)
      (.start ConnectionState.start) unsubscribedEarly p ∧ ¬ SubscriptionsCoherent heartbeatClient p :=
  incoherent_of_run 1 0 (by decide +kernel)

/-- Reconnected while the unsubscribe request is awaited. -/
def unsubscribedAcross : List ClientMove :=
  connecting ++ [heartbeatSent 0, subscriptionSent 0 "scores" scores, .spawn (.unsubscribe 2 "scores"),
    .spawn (.connectionLost 3), .resume 1 ⟨.recv 0, .connectionClosed⟩, .resume 1 ⟨.sleep, ()⟩,
    .resume 1 ⟨.connect, true⟩, heartbeatSent 1, subscriptionSent 1 "scores" scores,
    .resume 2 ⟨.send 0 ⟨.unsubscribe, .caller "scores", scores.toQuery⟩, true⟩]

theorem removed_subscription_snapshotted :
    ∃ p, Path (guarded (fun p move => wellUsed p.snapshot move = true) (clientSystem heartbeatClient).Step)
      (.start ConnectionState.start) unsubscribedAcross p ∧ ¬ SubscriptionsCoherent heartbeatClient p :=
  incoherent_of_run 1 1 (by decide +kernel)

end AlloraSdk.Guarantees
