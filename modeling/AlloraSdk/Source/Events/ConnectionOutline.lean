import Mathlib.Data.List.Perm.Basic
import AlloraSdk.Source.Events.Connection

/-!
# What the connection owes the subscriptions

On an open connection, what stands there and what `_connect` has still to send
are together one request for each subscription that nobody is about to remove.
A call changes both sides at once; the event loop's `pending` and a task's own
entry of `leaving` belong to that task.
-/

namespace AlloraSdk.Source.Events
open AlloraSdk.Logic AlloraSdk.Source.Utils

namespace ConnectionState

/-- The subscriptions for which no unsubscribe request is being awaited. -/
def present (s : ConnectionState) : List Registration :=
  s.registrations.filter fun r => decide (r ∉ s.leaving.map Prod.snd)

variable {s : ConnectionState} {c me n : ℕ} {r : Registration} {id query : String}

theorem connection_eq_some : s.connection = some c ↔ s.websocket = some c ∧ c ∉ s.closed := by
  simp [connection, Option.filter_eq_some_iff]

theorem mem_leavers {leaving : List (ℕ × Registration)} : r ∈ leaving.map Prod.snd ↔ ∃ n, (n, r) ∈ leaving := by
  simp

theorem sentOn_snoc (wire : List (ℕ × RpcRequest)) (request : RpcRequest) :
    sentOn { s with wire := wire ++ [(c, request)] } c = sentOn { s with wire := wire } c ++ [request] := by
  simp [sentOn]

theorem registrations_register (absent : id ∉ s.subscriptions.keys) :
    (s.register id query).registrations = s.registrations ++ [(.caller id, query)] := by
  simp [registrations, register, PyDict.set, absent, PyDict.append]

end ConnectionState

theorem standing_subscribe (requests : List RpcRequest) (r : Registration) :
    standing (requests ++ [⟨.subscribe, r.1, r.2⟩]) = standing requests ++ [r] := by
  simp [standing]

theorem standing_unsubscribe (requests : List RpcRequest) (r : Registration) :
    standing (requests ++ [⟨.unsubscribe, r.1, r.2⟩]) = (standing requests).filter fun other => other ≠ r := by
  simp [standing]

/-! ## The invariant -/

open ConnectionState

structure Coherent (client : AlloraWebsocketSubscriber) (s : ConnectionState) : Prop where
  settled : ∀ c, s.connection = some c →
    (standing (s.sentOn c) ++ s.pending).Perm (heartbeats client ++ s.present)
  used : ∀ id query, (id, query) ∈ s.subscriptions.entries → id ∈ s.used
  /-- Whoever removes a subscription knows its query, and no other gets its id. -/
  leavers : ∀ n r, (n, r) ∈ s.leaving → ∃ id query, r = (.caller id, query) ∧ id ∈ s.used ∧
    ∀ query', (id, query') ∈ s.subscriptions.entries → query' = query
  fresh : ∀ sent ∈ s.wire, sent.1 < s.connections
  latest : ∀ c, s.websocket = some c → c < s.connections
  unstarted : s.running = false → s.starting = false ∧ s.loop = none
  begins : s.starting = true → s.loop = none
  idle : s.loop = none → s.pending = []

/-- What task `n` has to itself: its unsubscribe request, and the event loop the
connection and what is pending. -/
structure ConnectionRelied (n : ℕ) (s t : ConnectionState) : Prop where
  leaving : ∀ r, (n, r) ∈ t.leaving ↔ (n, r) ∈ s.leaving
  loop : s.loop = some n → t.loop = some n ∧ t.websocket = s.websocket ∧ t.pending = s.pending

theorem ConnectionRelied.refl (n : ℕ) (s : ConnectionState) : ConnectionRelied n s s where
  leaving := fun _ => Iff.rfl
  loop := fun loop => ⟨loop, rfl, rfl⟩

theorem ConnectionRelied.trans (n : ℕ) (s t u : ConnectionState) (first : ConnectionRelied n s t)
    (second : ConnectionRelied n t u) : ConnectionRelied n s u where
  leaving := fun r => (second.leaving r).trans (first.leaving r)
  loop := by
    intro loop
    obtain ⟨loop, websocket, pending⟩ := first.loop loop
    obtain ⟨loop', websocket', pending'⟩ := second.loop loop
    exact ⟨loop', websocket'.trans websocket, pending'.trans pending⟩

/-- Task `n` is removing just these. -/
def Leaves (n : ℕ) (leaves : Registration → Prop) (s : ConnectionState) : Prop :=
  ∀ r, (n, r) ∈ s.leaving ↔ leaves r

theorem Leaves.relied {n : ℕ} {leaves : Registration → Prop} {s t : ConnectionState} (h : Leaves n leaves s)
    (relied : ConnectionRelied n s t) : Leaves n leaves t :=
  fun r => (relied.leaving r).trans (h r)

/-- The event loop is task `n`, and has this still to send. -/
structure Looping (n : ℕ) (rest : List Registration) (s : ConnectionState) : Prop where
  leaves : Leaves n (fun _ => False) s
  loop : s.loop = some n
  pending : s.pending = rest

theorem Looping.relied {n : ℕ} {rest : List Registration} {s t : ConnectionState} (h : Looping n rest s)
    (relied : ConnectionRelied n s t) : Looping n rest t where
  leaves := h.leaves.relied relied
  loop := (relied.loop h.loop).1
  pending := (relied.loop h.loop).2.2.trans h.pending

def ConnectionHolds (n : ℕ) : Option ConnectionRequest → ConnectionState → Prop
  | some (.send _ ⟨.unsubscribe, id, query⟩), s => Leaves n (· = (id, query)) s
  | some (.recv c), s => Looping n [] s ∧ s.websocket = some c
  | _, s => Leaves n (fun _ => False) s

theorem ConnectionHolds.stable (n : ℕ) (request : Option ConnectionRequest) (s t : ConnectionState)
    (holds : ConnectionHolds n request s) (relied : ConnectionRelied n s t) : ConnectionHolds n request t := by
  unfold ConnectionHolds at holds ⊢
  split at holds
  · exact holds.relied relied
  · exact ⟨holds.1.relied relied, (relied.loop holds.1.loop).2.1.trans holds.2⟩
  · exact holds.relied relied

def connectionOutline (client : AlloraWebsocketSubscriber) : Outline ConnectionState ConnectionRequest where
  inv := Coherent client
  holds := ConnectionHolds
  rely := ConnectionRelied
  refl := .refl
  trans := .trans
  stable := .stable

/-! ## What the calls change -/

section Calls

variable {client : AlloraWebsocketSubscriber} {s : ConnectionState} {me c : ℕ} {id query : String}

theorem Coherent.absent (kept : Coherent client s) (new : id ∉ s.used) : id ∉ s.subscriptions.keys := by
  intro member
  obtain ⟨query, entry⟩ := PyDict.mem_keys.mp member
  exact new (kept.used id query entry)

theorem Coherent.not_leaving (kept : Coherent client s) (new : id ∉ s.used) (n : ℕ) :
    (n, (.caller id, query)) ∉ s.leaving := by
  intro member
  obtain ⟨id', query', same, used, -⟩ := kept.leavers n _ member
  simp only [Prod.mk.injEq, RequestId.caller.injEq] at same
  rw [← same.1] at used
  exact new used

theorem started_harmless (kept : Coherent client s) : (connectionOutline client).Harmless me s s.ensureStarted := by
  unfold ensureStarted
  by_cases running : s.running = true
  · rw [if_pos running]
    exact .refl kept
  · rw [if_neg running]
    have loop := (kept.unstarted (by simpa using running)).2
    constructor
    · exact { kept with unstarted := by simp, begins := fun _ => loop }
    · intro n other
      exact ⟨fun _ => Iff.rfl, fun loop => ⟨loop, rfl, rfl⟩⟩

theorem started_relied (n : ℕ) (s : ConnectionState) : ConnectionRelied n s s.ensureStarted := by
  unfold ensureStarted
  split
  · exact .refl n s
  · exact ⟨fun _ => Iff.rfl, fun loop => ⟨loop, rfl, rfl⟩⟩

theorem started_used (s : ConnectionState) : s.ensureStarted.used = s.used := by
  unfold ensureStarted
  split <;> rfl

theorem started_connection (s : ConnectionState) : s.ensureStarted.connection = s.connection := by
  unfold ensureStarted
  split <;> rfl

theorem used_register (kept : Coherent client s) (id query : String) (id' query' : String)
    (member : (id', query') ∈ (s.register id query).subscriptions.entries) : id' ∈ (s.register id query).used := by
  have either := PyDict.mem_keys_set.mp (PyDict.mem_keys.mpr ⟨query', member⟩)
  rcases either with rfl | before
  · exact List.mem_cons_self ..
  · obtain ⟨old, entry⟩ := PyDict.mem_keys.mp before
    exact List.mem_cons_of_mem _ (kept.used id' old entry)

theorem leavers_register (kept : Coherent client s) (new : id ∉ s.used) (n : ℕ) (r : Registration)
    (member : (n, r) ∈ s.leaving) : ∃ id' query', r = (.caller id', query') ∧ id' ∈ (s.register id query).used ∧
      ∀ other, (id', other) ∈ (s.register id query).subscriptions.entries → other = query' := by
  obtain ⟨id', query', same, used, only⟩ := kept.leavers n r member
  refine ⟨id', query', same, List.mem_cons_of_mem _ used, ?_⟩
  intro other entry
  have different : id' ≠ id := fun equal => new (equal ▸ used)
  have before := PyDict.mem_set.mp entry
  rw [if_neg different] at before
  exact only other before

theorem present_register (kept : Coherent client s) (new : id ∉ s.used) :
    (s.register id query).present = s.present ++ [(.caller id, query)] := by
  have staying : ∀ n, (n, (RequestId.caller id, query)) ∉ s.leaving := kept.not_leaving new
  change (s.register id query).registrations.filter (fun r => decide (r ∉ s.leaving.map Prod.snd)) = _
  rw [registrations_register (kept.absent new), List.filter_append, List.filter_cons_of_pos (by simp [staying])]
  rfl

/-- Registered while there is no open connection. -/
theorem register_harmless (kept : Coherent client s) (new : id ∉ s.used) (offline : s.connection = none) :
    (connectionOutline client).Harmless me s (s.register id query) := by
  constructor
  · refine { kept with settled := ?_, used := used_register kept id query, leavers := leavers_register kept new }
    intro c open_
    rw [show (s.register id query).connection = s.connection from rfl, offline] at open_
    cases open_
  · intro n other
    exact ⟨fun _ => Iff.rfl, fun loop => ⟨loop, rfl, rfl⟩⟩

/-- What is sent goes to the open connection. -/
theorem Coherent.fresh_sent (kept : Coherent client s) (open_ : s.connection = some c) (request : RpcRequest) :
    ∀ sent ∈ s.wire ++ [(c, request)], sent.1 < s.connections := by
  intro sent member
  rcases List.mem_append.mp member with before | now
  · exact kept.fresh sent before
  · rw [List.mem_singleton.mp now]
    exact kept.latest c (connection_eq_some.mp open_).1

theorem subscribed_harmless (kept : Coherent client s) (new : id ∉ s.used) (open_ : s.connection = some c) :
    (connectionOutline client).Harmless me s ((s.register id query).subscribed c (.caller id, query)) := by
  constructor
  · refine { kept with
      settled := ?_, used := used_register kept id query, leavers := leavers_register kept new, fresh := ?_ }
    · intro c' open'
      obtain rfl : c = c' := Option.some.inj (open_.symm.trans open')
      have before := kept.settled c open_
      have wire : ((s.register id query).subscribed c (.caller id, query)).sentOn c =
          s.sentOn c ++ [⟨.subscribe, .caller id, query⟩] := sentOn_snoc s.wire _
      rw [wire, standing_subscribe _ (.caller id, query)]
      change (_ ++ s.pending).Perm (_ ++ (s.register id query).present)
      rw [present_register kept new, List.append_assoc, ← List.append_assoc _ _ [(RequestId.caller id, query)]]
      refine (List.Perm.append_left _ List.perm_append_comm).trans ?_
      rw [← List.append_assoc]
      exact before.append_right _
    · exact kept.fresh_sent open_ _
  · intro n other
    exact ⟨fun _ => Iff.rfl, fun loop => ⟨loop, rfl, rfl⟩⟩

theorem present_unsubscribed (me c : ℕ) (r : Registration) :
    (s.unsubscribed me c r).present = s.present.filter fun other => decide (other ≠ r) := by
  unfold ConnectionState.present
  rw [List.filter_filter]
  refine List.filter_congr fun other _ => ?_
  rw [Bool.eq_iff_iff, Bool.and_eq_true, decide_eq_true_iff, decide_eq_true_iff, decide_eq_true_iff]
  simp [unsubscribed]

/-- The heartbeat is no caller's. -/
theorem heartbeats_filter (client : AlloraWebsocketSubscriber) (id query : String) :
    (heartbeats client).filter (fun r => decide (r ≠ (.caller id, query))) = heartbeats client := by
  rw [List.filter_eq_self]
  intro r member
  unfold heartbeats at member
  split at member
  · rw [List.mem_singleton.mp member]
    simp
  · cases member

/-- An unsubscribe request is sent, whose subscription is not among those that
`_connect` has still to send. -/
theorem unsubscribed_harmless (kept : Coherent client s) (mine : Leaves me (fun _ => False) s)
    (open_ : s.connection = some c) (registered : (id, query) ∈ s.subscriptions.entries)
    (sent : .caller id ∉ s.pending.map Prod.fst) :
    (connectionOutline client).Harmless me s (s.unsubscribed me c (.caller id, query)) ∧
      Leaves me (· = (.caller id, query)) (s.unsubscribed me c (.caller id, query)) := by
  refine ⟨⟨?_, ?_⟩, ?_⟩
  · refine { kept with settled := ?_, leavers := ?_, fresh := ?_ }
    · intro c' open'
      obtain rfl : c = c' := Option.some.inj (open_.symm.trans open')
      have cancelled := (kept.settled c open_).filter fun r => decide (r ≠ (.caller id, query))
      rw [List.filter_append, List.filter_append] at cancelled
      have wire : (s.unsubscribed me c (.caller id, query)).sentOn c =
          s.sentOn c ++ [⟨.unsubscribe, .caller id, query⟩] := sentOn_snoc s.wire _
      have pending : s.pending.filter (fun r => decide (r ≠ (.caller id, query))) = s.pending := by
        rw [List.filter_eq_self]
        intro r member
        refine decide_eq_true fun same => sent ?_
        rw [same] at member
        exact List.mem_map_of_mem member
      rw [wire, standing_unsubscribe _ (.caller id, query), present_unsubscribed]
      rwa [pending, heartbeats_filter] at cancelled
    · intro n r member
      rcases List.mem_cons.mp member with now | before
      · cases now
        exact ⟨id, query, rfl, kept.used id query registered, fun other entry => PyDict.value_unique entry registered⟩
      · exact kept.leavers n r before
    · exact kept.fresh_sent open_ _
  · intro n other
    constructor
    · intro r
      simp [unsubscribed, other]
    · exact fun loop => ⟨loop, rfl, rfl⟩
  · intro r
    have none : (me, r) ∉ s.leaving := fun member => (mine r).mp member
    simp [unsubscribed, none]

/-- A subscription that is removed was not counted any more. -/
theorem present_drop (mine : ∀ r, (me, r) ∈ s.leaving → r = (.caller id, query))
    (registered : ∀ other, (id, other) ∈ s.subscriptions.entries → other = query)
    (request : (me, (.caller id, query)) ∈ s.leaving) : (s.drop me id).present = s.present := by
  unfold ConnectionState.present registrations
  rw [drop, PyDict.pop, List.filter_map, List.filter_map, List.filter_filter]
  congr 1
  refine List.filter_congr fun entry member => ?_
  obtain ⟨id', query'⟩ := entry
  rw [Bool.eq_iff_iff, Bool.and_eq_true, Function.comp, Function.comp, decide_eq_true_iff, decide_eq_true_iff,
    decide_eq_true_iff]
  by_cases same : id' = id
  · subst same
    rw [registered query' member]
    have leaves : (RequestId.caller id', query) ∈ s.leaving.map Prod.snd := List.mem_map_of_mem request
    simp [leaves]
  · have others : ∀ n, (n, (RequestId.caller id', query')) ∈ s.leaving → n ≠ me := by
      intro n leaving own
      subst own
      have equal := mine _ leaving
      simp only [Prod.mk.injEq, RequestId.caller.injEq] at equal
      exact same equal.1
    constructor
    · intro stays leaver
      obtain ⟨n, leaving⟩ := mem_leavers.mp leaver
      exact stays.1 (mem_leavers.mpr ⟨n, List.mem_filter.mpr ⟨leaving, decide_eq_true (others n leaving)⟩⟩)
    · intro stays
      refine ⟨fun leaver => ?_, same⟩
      obtain ⟨n, leaving⟩ := mem_leavers.mp leaver
      exact stays (mem_leavers.mpr ⟨n, (List.mem_filter.mp leaving).1⟩)

/-- The subscription is removed: nothing is open, or its request was sent. -/
theorem drop_harmless (kept : Coherent client s) (mine : ∀ r, (me, r) ∈ s.leaving → r = (.caller id, query))
    (registered : ∀ other, (id, other) ∈ s.subscriptions.entries → other = query)
    (requested : ∀ c, s.connection = some c → (me, (.caller id, query)) ∈ s.leaving) :
    (connectionOutline client).Harmless me s (s.drop me id) ∧ Leaves me (fun _ => False) (s.drop me id) := by
  refine ⟨⟨?_, ?_⟩, ?_⟩
  · refine { kept with settled := ?_, used := ?_, leavers := ?_ }
    · intro c open_
      have present : (s.drop me id).present = s.present := present_drop mine registered (requested c open_)
      rw [present]
      exact kept.settled c open_
    · intro id' query' member
      exact kept.used id' query' (PyDict.mem_pop.mp member).1
    · intro n r member
      obtain ⟨id', query', same, used, only⟩ := kept.leavers n r (List.mem_filter.mp member).1
      exact ⟨id', query', same, used, fun other entry => only other (PyDict.mem_pop.mp entry).1⟩
  · intro n other
    constructor
    · intro r
      simp [drop, other]
    · exact fun loop => ⟨loop, rfl, rfl⟩
  · intro r
    simp [drop]

end Calls

/-! ## What the event loop changes -/

section Loop

variable {client : AlloraWebsocketSubscriber} {s : ConnectionState} {me c : ℕ} {r : Registration}
  {rest : List Registration}

theorem Looping.relied_other {t : ConnectionState} (loops : Looping me rest s) (leaving : t.leaving = s.leaving)
    (n : ℕ) (other : n ≠ me) : ConnectionRelied n s t where
  leaving := by simp [leaving]
  loop := fun loop => absurd (Option.some.inj (loop.symm.trans loops.loop)) other

theorem begin_harmless (kept : Coherent client s) (mine : Leaves me (fun _ => False) s) (starting : s.starting = true) :
    (connectionOutline client).Harmless me s (s.begin me) ∧ Looping me [] (s.begin me) := by
  have none := kept.begins starting
  have running : s.running ≠ false := by
    intro stopped
    rw [(kept.unstarted stopped).1] at starting
    cases starting
  refine ⟨⟨?_, ?_⟩, mine, rfl, kept.idle none⟩
  · exact { kept with
      unstarted := fun stopped => absurd stopped running
      begins := by simp [begin]
      idle := by simp [begin] }
  · intro n other
    exact ⟨fun _ => Iff.rfl, fun loop => by rw [none] at loop; cases loop⟩

theorem establish_harmless (kept : Coherent client s) (loops : Looping me rest s)
    (undisturbed : ∀ entry ∈ s.leaving, entry.2 ∉ s.registrations) :
    (connectionOutline client).Harmless me s (s.establish client) ∧
      Looping me (s.establish client).pending (s.establish client) := by
  refine ⟨⟨?_, loops.relied_other rfl⟩, loops.leaves, loops.loop, rfl⟩
  refine { kept with settled := ?_, fresh := ?_, latest := ?_, idle := ?_ }
  · intro c open_
    have newest : s.connections = c := Option.some.inj (connection_eq_some.mp open_).1
    have silent : (s.establish client).sentOn c = [] := by
      change (s.wire.filter fun sent => decide (sent.1 = c)).map Prod.snd = []
      rw [List.map_eq_nil_iff, List.filter_eq_nil_iff]
      intro sent member same
      have before := kept.fresh sent member
      have equal := of_decide_eq_true same
      omega
    have all : (s.establish client).present = s.registrations := by
      change s.registrations.filter (fun r => decide (r ∉ s.leaving.map Prod.snd)) = _
      rw [List.filter_eq_self]
      intro r member
      refine decide_eq_true fun leaver => ?_
      obtain ⟨n, leaving⟩ := mem_leavers.mp leaver
      exact undisturbed _ leaving member
    rw [silent, all]
    exact .refl _
  · intro sent member
    exact Nat.lt_succ_of_lt (kept.fresh sent member)
  · intro c same
    cases same
    exact Nat.lt_succ_self _
  · intro none
    rw [show (s.establish client).loop = s.loop from rfl, loops.loop] at none
    cases none

theorem sent_harmless (kept : Coherent client s) (loops : Looping me (r :: rest) s)
    (open_ : s.connection = some c) :
    (connectionOutline client).Harmless me s ((s.subscribed c r).sending rest) ∧
      Looping me rest ((s.subscribed c r).sending rest) := by
  refine ⟨⟨?_, loops.relied_other rfl⟩, loops.leaves, loops.loop, rfl⟩
  refine { kept with settled := ?_, fresh := ?_, idle := ?_ }
  · intro c' open'
    obtain rfl : c = c' := Option.some.inj (open_.symm.trans open')
    have before := kept.settled c open_
    have wire : ((s.subscribed c r).sending rest).sentOn c = s.sentOn c ++ [⟨.subscribe, r.1, r.2⟩] :=
      sentOn_snoc s.wire _
    rw [loops.pending] at before
    rw [wire, standing_subscribe, List.append_assoc]
    exact before
  · exact kept.fresh_sent open_ _
  · intro none
    rw [show ((s.subscribed c r).sending rest).loop = s.loop from rfl, loops.loop] at none
    cases none

/-- Nothing is sent when the connection was lost meanwhile. -/
theorem skipped_harmless (kept : Coherent client s) (loops : Looping me (r :: rest) s) (lost : s.connection = none) :
    (connectionOutline client).Harmless me s (s.sending rest) ∧ Looping me rest (s.sending rest) := by
  refine ⟨⟨?_, loops.relied_other rfl⟩, loops.leaves, loops.loop, rfl⟩
  refine { kept with settled := ?_, idle := ?_ }
  · intro c open_
    rw [show (s.sending rest).connection = s.connection from rfl, lost] at open_
    cases open_
  · intro none
    rw [show (s.sending rest).loop = s.loop from rfl, loops.loop] at none
    cases none

theorem disconnect_harmless (kept : Coherent client s) (loops : Looping me rest s) :
    (connectionOutline client).Harmless me s s.disconnect ∧ Looping me rest s.disconnect := by
  refine ⟨⟨?_, loops.relied_other rfl⟩, loops.leaves, loops.loop, loops.pending⟩
  refine { kept with settled := ?_, latest := ?_ }
  · intro c open_
    cases open_
  · intro c none
    cases none

theorem lose_harmless (kept : Coherent client s) : (connectionOutline client).Harmless me s s.lose := by
  constructor
  · refine { kept with settled := ?_ }
    intro c open_
    obtain ⟨websocket, alive⟩ := connection_eq_some.mp open_
    have websocket : s.websocket = some c := websocket
    refine absurd (List.mem_append_left _ ?_) alive
    rw [websocket]
    exact List.mem_singleton_self c
  · intro n other
    exact ⟨fun _ => Iff.rfl, fun loop => ⟨loop, rfl, rfl⟩⟩

end Loop

/-! ## The programs -/

section Programs

variable {client : AlloraWebsocketSubscriber} {enabled : ConnectionState → Event ConnectionRequest ConnectionReply → Bool}
  {s : ConnectionState} {me c : ℕ} {r : Registration} {rest : List Registration} {id query stem : String}

/-- A call that leaves nothing behind. -/
def Ends (client : AlloraWebsocketSubscriber) (me : ℕ) {α : Type} :
    Except SubscribeError α → ConnectionState → Prop :=
  fun _ t => Coherent client t ∧ Leaves me (fun _ => False) t

theorem chooseId_new {given : Option String} (named : given = some id) (nonempty : id ≠ "") :
    chooseId stem given = pure id := by
  subst named
  simp [chooseId, nonempty, Option.filter]

theorem sendSubscribe_proved (mine : Leaves me (fun _ => False) s) :
    Routine.Proved (connectionOutline client) enabled me (Ends client me)
      (do let _ ← Routine.await (ConnectionRequest.send c ⟨.subscribe, r.1, r.2⟩)) s := by
  refine ⟨mine, fun reply t kept' relied allowed => ?_⟩
  exact ⟨kept', mine.relied relied⟩

theorem registerAndSend_proved (kept : Coherent client s) (mine : Leaves me (fun _ => False) s) (new : id ∉ s.used) :
    Routine.Proved (connectionOutline client) enabled me (Ends client me) (registerAndSend id query) s := by
  refine Routine.Proved.stateBind ?_
  cases open_ : s.connection with
  | none =>
    have harmless : (connectionOutline client).Harmless me s (s.register id query) :=
      register_harmless kept new open_
    exact Routine.Proved.update harmless ⟨harmless.inv, mine⟩
  | some c =>
    have harmless : (connectionOutline client).Harmless me s
        ((s.register id query).subscribed c (.caller id, query)) := subscribed_harmless kept new open_
    refine Routine.Proved.updateBind harmless ?_
    exact sendSubscribe_proved (r := (.caller id, query)) mine

theorem subscribeBlockEvents_proved {eventName : Option String} {conditions : List EventAttributeCondition}
    {given : Option String} (kept : Coherent client s) (mine : Leaves me (fun _ => False) s)
    (named : given = some id) (nonempty : id ≠ "") (new : id ∉ s.used) :
    Routine.Proved (connectionOutline client) enabled me (Ends client me)
      (subscribeBlockEvents stem eventName conditions given) s := by
  have harmless : (connectionOutline client).Harmless me s s.ensureStarted := started_harmless kept
  have mine' : Leaves me (fun _ => False) s.ensureStarted := mine.relied (started_relied me s)
  refine Routine.Proved.updateBind harmless ?_
  rw [chooseId_new named nonempty, pure_bind]
  cases eventName with
  | none => exact Routine.Proved.throw ⟨harmless.inv, mine'⟩
  | some name => exact registerAndSend_proved harmless.inv mine' (by rwa [started_used])

theorem subscribe_proved {filter : EventFilter} {given : Option String} (kept : Coherent client s)
    (mine : Leaves me (fun _ => False) s) (named : given = some id) (nonempty : id ≠ "") (new : id ∉ s.used)
    (offline : ¬ (client.heartbeat ∧ filter.toQuery = EventFilter.newBlockHeaders.toQuery) → s.connection = none) :
    Routine.Proved (connectionOutline client) enabled me (Ends client me) (subscribe client filter given) s := by
  unfold subscribe
  split
  · exact Routine.Proved.throw ⟨kept, mine⟩
  · rename_i accepted
    have harmless : (connectionOutline client).Harmless me s s.ensureStarted := started_harmless kept
    have mine' : Leaves me (fun _ => False) s.ensureStarted := mine.relied (started_relied me s)
    refine Routine.Proved.updateBind harmless ?_
    rw [chooseId_new named nonempty, pure_bind]
    have registered : (connectionOutline client).Harmless me s.ensureStarted
        (s.ensureStarted.register id filter.toQuery) :=
      register_harmless harmless.inv (by rwa [started_used]) (by rw [started_connection, offline accepted])
    exact Routine.Proved.update registered ⟨registered.inv, mine'⟩

theorem unsubscribe_proved (kept : Coherent client s) (mine : Leaves me (fun _ => False) s)
    (sent : s.connection = none ∨ .caller id ∉ s.pending.map Prod.fst) :
    Routine.Proved (connectionOutline client) enabled me (Ends client me) (unsubscribe me id) s := by
  refine Routine.Proved.stateBind ?_
  cases found : s.subscriptions.get? id with
  | none => exact Routine.Proved.pure ⟨kept, mine⟩
  | some query =>
    have registered := PyDict.get?_eq_some.mp found
    cases open_ : s.connection with
    | none =>
      have dropped : (connectionOutline client).Harmless me s (s.drop me id) ∧ Leaves me (fun _ => False) (s.drop me id) :=
        drop_harmless kept (fun r leaving => ((mine r).mp leaving).elim)
          (fun other entry => PyDict.value_unique entry registered) (by simp [open_])
      have skipped : Routine.Proved (connectionOutline client) enabled me (fun out t => out = .ok () ∧ t = s)
          (sendUnsubscribe me (.caller id, query)) s := by
        refine Routine.Proved.stateBind ?_
        rw [open_]
        exact Routine.Proved.pure ⟨rfl, rfl⟩
      refine Routine.Proved.bind skipped ?_ ?_
      · rintro e t ⟨⟨⟩, -⟩
      · rintro _ t ⟨-, rfl⟩
        exact Routine.Proved.update dropped.1 ⟨dropped.1.inv, dropped.2⟩
    | some c =>
      obtain ⟨harmless, leaves⟩ := unsubscribed_harmless kept mine open_ registered
        (sent.resolve_left (by rw [open_]; exact Option.some_ne_none c))
      have sends : Routine.Proved (connectionOutline client) enabled me
          (fun out t => out = .ok () ∧ Coherent client t ∧ Leaves me (· = (.caller id, query)) t)
          (sendUnsubscribe me (.caller id, query)) s := by
        refine Routine.Proved.stateBind ?_
        rw [open_]
        refine ⟨harmless, leaves, fun reply t kept' relied allowed => ?_⟩
        exact ⟨rfl, kept', leaves.relied relied⟩
      refine Routine.Proved.bind sends ?_ ?_
      · rintro e t ⟨⟨⟩, -⟩
      · rintro _ t ⟨-, kept', leaves'⟩
        have request := (leaves' _).mpr rfl
        have only : ∀ other, (id, other) ∈ t.subscriptions.entries → other = query := by
          intro other entry
          obtain ⟨id', query', same, -, only⟩ := kept'.leavers me _ request
          cases same
          exact only other entry
        have dropped := drop_harmless kept' (fun r leaving => (leaves' r).mp leaving) only (fun _ _ => request)
        exact Routine.Proved.update dropped.1 ⟨dropped.1.inv, dropped.2⟩

/-- A part of the event loop that has nothing left to send. -/
def LoopEnds (client : AlloraWebsocketSubscriber) (me : ℕ) : Except SubscribeError Unit → ConnectionState → Prop :=
  fun out t => out = .ok () ∧ Coherent client t ∧ Looping me [] t

/-- An await of the event loop at which nothing is asserted but that it is there. -/
theorem awaits_proved {request : ConnectionRequest} {f : ConnectionReply request → Connecting Unit}
    (loops : Looping me [] s)
    (holds : ConnectionHolds me (some request) s)
    (answered : ∀ reply t, Coherent client t → Looping me [] t → enabled t ⟨request, reply⟩ = true →
      Routine.Proved (connectionOutline client) enabled me (LoopEnds client me) (f reply) t) :
    Routine.Proved (connectionOutline client) enabled me (LoopEnds client me) (Routine.await request >>= f) s :=
  ⟨holds, fun reply t kept relied allowed => answered reply t kept (loops.relied relied) allowed⟩

theorem loopEnds_pure (kept : Coherent client s) (loops : Looping me [] s) :
    Routine.Proved (connectionOutline client) enabled me (LoopEnds client me) (pure ()) s :=
  Routine.Proved.pure ⟨rfl, kept, loops⟩

theorem sleep_proved (loops : Looping me [] s) :
    Routine.Proved (connectionOutline client) enabled me (LoopEnds client me)
      (Routine.await ConnectionRequest.sleep) s :=
  ⟨loops.leaves, fun _ _ kept relied _ => ⟨rfl, kept, loops.relied relied⟩⟩

theorem disconnect_proved {next : Connecting Unit} (kept : Coherent client s) (loops : Looping me [] s)
    (rest : Coherent client s.disconnect → Looping me [] s.disconnect →
      Routine.Proved (connectionOutline client) enabled me (LoopEnds client me) next s.disconnect) :
    Routine.Proved (connectionOutline client) enabled me (LoopEnds client me)
      (Routine.update ConnectionState.disconnect >>= fun _ => next) s := by
  have gone := disconnect_harmless kept loops
  exact Routine.Proved.updateBind gone.1 (rest gone.1.inv gone.2)

theorem sendSubscription_proved (kept : Coherent client s) (loops : Looping me (r :: rest) s) :
    Routine.Proved (connectionOutline client) enabled me
      (fun out t => out = .ok () ∧ Coherent client t ∧ Looping me rest t) (sendSubscription r rest) s := by
  refine Routine.Proved.stateBind ?_
  cases open_ : s.connection with
  | none =>
    have skipped := skipped_harmless kept loops open_
    exact Routine.Proved.update skipped.1 ⟨rfl, skipped.1.inv, skipped.2⟩
  | some c =>
    have sent := sent_harmless kept loops open_
    refine Routine.Proved.updateBind sent.1 ⟨sent.2.leaves, fun reply t kept' relied allowed => ?_⟩
    exact ⟨rfl, kept', sent.2.relied relied⟩

theorem sendSubscriptions_proved (kept : Coherent client s) (loops : Looping me rest s) :
    Routine.Proved (connectionOutline client) enabled me (LoopEnds client me) (sendSubscriptions rest) s := by
  induction rest generalizing s with
  | nil => exact loopEnds_pure kept loops
  | cons r rest ih =>
    refine Routine.Proved.bind (sendSubscription_proved kept loops) ?_ ?_
    · rintro e t ⟨⟨⟩, -⟩
    · rintro _ t ⟨-, kept', loops'⟩
      exact ih kept' loops'

/-- No connection comes up while a registered subscription is being removed. -/
def Undisturbed (enabled : ConnectionState → Event ConnectionRequest ConnectionReply → Bool) : Prop :=
  ∀ s, enabled s ⟨.connect, true⟩ = true → ∀ entry ∈ s.leaving, entry.2 ∉ s.registrations

theorem connect_proved (undisturbed : Undisturbed enabled) (attempts : ℕ) (kept : Coherent client s)
    (loops : Looping me [] s) :
    Routine.Proved (connectionOutline client) enabled me (LoopEnds client me) (connect client attempts) s := by
  induction attempts generalizing s with
  | zero => exact loopEnds_pure kept loops
  | succ attempts ih =>
    refine Routine.Proved.stateBind ?_
    split
    · refine awaits_proved loops loops.leaves fun opened t kept' loops' allowed => ?_
      cases opened with
      | true =>
        have established := establish_harmless kept' loops' (undisturbed t allowed)
        refine Routine.Proved.updateBind established.1 (Routine.Proved.stateBind ?_)
        exact sendSubscriptions_proved established.1.inv established.2
      | false => exact awaits_proved loops' loops'.leaves fun _ u kept'' loops'' _ => ih kept'' loops''
    · exact loopEnds_pure kept loops

theorem onTimeout_proved (c : ℕ) (silent : Bool) (kept : Coherent client s) (loops : Looping me [] s) :
    Routine.Proved (connectionOutline client) enabled me (LoopEnds client me) (onTimeout client c silent) s := by
  unfold onTimeout
  split
  · refine awaits_proved loops loops.leaves fun _ t kept' loops' _ => ?_
    have gone := disconnect_harmless kept' loops'
    exact Routine.Proved.update gone.1 ⟨rfl, gone.1.inv, gone.2⟩
  · refine Routine.Proved.stateBind ?_
    split
    · exact loopEnds_pure kept loops
    · refine awaits_proved loops loops.leaves fun outcome t kept' loops' _ => ?_
      cases outcome with
      | pinged => exact loopEnds_pure kept' loops'
      | connectionClosed => exact disconnect_proved kept' loops' fun _ gone => sleep_proved gone
      | failed => exact sleep_proved loops'

theorem receive_proved (loops : Looping me [] s) (here : s.websocket = some c) :
    Routine.Proved (connectionOutline client) enabled me (LoopEnds client me) (receive client c) s := by
  refine awaits_proved loops ⟨loops, here⟩ fun outcome t kept' loops' _ => ?_
  cases outcome with
  | message => exact ⟨loops'.leaves, fun _ _ kept'' relied _ => ⟨rfl, kept'', loops'.relied relied⟩⟩
  | timeout silent => exact onTimeout_proved c silent kept' loops'
  | connectionClosed => exact disconnect_proved kept' loops' fun _ gone => sleep_proved gone
  | failed => exact sleep_proved loops'

theorem loopTurn_proved (undisturbed : Undisturbed enabled) (attempts : ℕ) (kept : Coherent client s)
    (loops : Looping me [] s) :
    Routine.Proved (connectionOutline client) enabled me (LoopEnds client me) (loopTurn client attempts) s := by
  refine Routine.Proved.stateBind ?_
  split
  · cases open_ : s.connection with
    | none => exact connect_proved undisturbed attempts kept loops
    | some c => exact receive_proved loops (connection_eq_some.mp open_).1
  · exact loopEnds_pure kept loops

theorem loopTurns_proved (undisturbed : Undisturbed enabled) (attempts turns : ℕ) (kept : Coherent client s)
    (loops : Looping me [] s) :
    Routine.Proved (connectionOutline client) enabled me (LoopEnds client me) (loopTurns client attempts turns) s := by
  induction turns generalizing s with
  | zero => exact loopEnds_pure kept loops
  | succ turns ih =>
    refine Routine.Proved.bind (loopTurn_proved undisturbed attempts kept loops) ?_ ?_
    · rintro e t ⟨⟨⟩, -⟩
    · rintro _ t ⟨-, kept', loops'⟩
      exact ih kept' loops'

theorem eventLoop_proved (undisturbed : Undisturbed enabled)
    (begins : ∀ t, enabled t ⟨.starts, ()⟩ = true → t.starting = true) (attempts turns : ℕ)
    (mine : Leaves me (fun _ => False) s) :
    Routine.Proved (connectionOutline client) enabled me (LoopEnds client me)
      (eventLoop client me attempts turns) s := by
  refine ⟨mine, fun reply t kept relied allowed => ?_⟩
  have begun := begin_harmless kept (mine.relied relied) (begins t allowed)
  exact Routine.Proved.updateBind begun.1 (loopTurns_proved undisturbed attempts turns begun.1.inv begun.2)

end Programs

end AlloraSdk.Source.Events
