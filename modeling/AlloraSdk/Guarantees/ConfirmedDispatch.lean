import AlloraSdk.Source.Events.Session
import AlloraSdk.Guarantees.Delivery

/-!
# Events reach callbacks through confirmed subscriptions

The flag of a subscription follows the answers on its connection. A further
subscribe call under the id of a confirmed subscription adds its callback and
resets the flag, which no answer of the server will set again.
-/

namespace AlloraSdk.Guarantees
open AlloraSdk.Logic AlloraSdk.Source.Utils AlloraSdk.Source.Events

/-- The frame's `result` is an object with `data`. -/
def hasEventData (fields : List (String × Json)) : Bool :=
  match fields.lookup "result" with
  | some (.obj result) => (result.lookup "data").getD .null != .null
  | _ => false

/-- What a frame without event data says to the id that it carries: an error, or a
confirmation. -/
def answerOf : Option Json → Option (String × Bool)
  | some (.obj fields) =>
    match fields.lookup "id" with
    | some (.str id) => if hasEventData fields then none else some (id, (fields.lookup "error").isNone)
    | _ => none
  | _ => none

/-- Where the frame has a `result`, it is an object: `data.get("result", {}).get`
raises on any other, null included. -/
def objectResult : Option Json → Bool
  | some (.obj fields) =>
    match fields.lookup "result" with
    | none | some (.obj _) => true
    | some _ => false
  | _ => true

/-- Whether the latest answer to the id confirmed it, on the connection that the
steps end with; the latest step first. -/
def latestAnswer (id : String) : List SessionStep → Option Bool
  | [] => none
  | .connected :: _ => none
  | .frame data :: earlier =>
    match answerOf data with
    | some (other, confirms) => if other = id then some confirms else latestAnswer id earlier
    | none => latestAnswer id earlier
  | _ :: earlier => latestAnswer id earlier

/-- What ends a subscription: it is unsubscribed or rejected, or the connection is lost. -/
def EndsSubscription (id : String) : SessionStep → Prop
  | .closed | .disconnected | .connected => True
  | .unsubscribed other => other = id
  | .frame data => answerOf data = some (id, false)
  | _ => False

/-- An error frame for the id is read as one. -/
def RejectsReadably (id : String) : SessionStep → Prop
  | .frame data => answerOf data = some (id, false) → objectResult data = true
  | _ => True

theorem readFrame_obj (fields : List (String × Json)) : readFrame (.obj fields) =
    if fields.lookup "id" = some (.int 0) ∨ fields.lookup "id" = some (.bool false) then some .heartbeat
    else if objectResult (some (.obj fields)) = false then none
    else match hasEventData fields, fields.lookup "id" with
      | false, some id => some (if (fields.lookup "error").isSome then .rejected id else .confirmed id)
      | _, id => readEvents (.obj fields) id := by
  obtain ⟨result, found⟩ : ∃ result, fields.lookup "result" = result := ⟨_, rfl⟩
  obtain ⟨id, named⟩ : ∃ id, fields.lookup "id" = id := ⟨_, rfl⟩
  simp only [readFrame, resultData, Json.get, objectResult, hasEventData, Option.bind_eq_bind, Option.bind_some,
    Option.pure_def, found, named]
  refine if_congr Iff.rfl rfl ?_
  rcases result with _ | result
  · cases id <;> rfl
  cases result with
  | obj members =>
    obtain ⟨inner, held⟩ : ∃ inner, members.lookup "data" = inner := ⟨_, rfl⟩
    simp only [Option.getD_some, Option.bind_some, held]
    rcases inner with _ | inner
    · cases id <;> rfl
    · cases inner <;> cases id <;> rfl
  | _ => rfl

/-- The client reads an answer off the members, unless its `result` makes it raise. -/
theorem controlOf_eq (data : Option Json) : controlOf data = if objectResult data then answerOf data else none := by
  rcases data with _ | data
  · rfl
  cases data with
  | obj fields =>
    have quiet : ∀ id, readEvents (.obj fields) id = none ∨ readEvents (.obj fields) id = some .nothing ∨
        ∃ target events blockHeight, readEvents (.obj fields) id = some (.events target events blockHeight) := by
      intro id
      cases read : readEvents (.obj fields) id with
      | none => exact .inl rfl
      | some frame =>
        rcases readEvents_quiet read with rfl | ⟨_, _, _, rfl⟩
        · exact .inr (.inl rfl)
        · exact .inr (.inr ⟨_, _, _, rfl⟩)
    rw [controlOf, Option.bind_some, readFrame_obj, answerOf]
    obtain ⟨id, named⟩ : ∃ id, fields.lookup "id" = id := ⟨_, rfl⟩
    rw [named]
    by_cases heartbeat : id = some (.int 0) ∨ id = some (.bool false)
    · rw [if_pos heartbeat]
      rcases heartbeat with rfl | rfl
      · simp
      · simp
    rw [if_neg heartbeat]
    by_cases readable : objectResult (some (.obj fields)) = true
    · rw [if_pos readable, if_neg (by simp [readable])]
      cases hasEventData fields with
      | true =>
        dsimp only
        rcases id with _ | id
        · rcases quiet none with read | read | ⟨_, _, _, read⟩ <;> simp [read]
        · rcases quiet (some id) with read | read | ⟨_, _, _, read⟩ <;> cases id <;> simp [read]
      | false =>
        rcases id with _ | id
        · rcases quiet none with read | read | ⟨_, _, _, read⟩ <;> simp [read]
        · cases id <;> cases fields.lookup "error" <;> rfl
    · rw [if_neg readable, if_pos (by simpa using readable)]
  | _ => rfl

theorem answerOf_of_controlOf {data : Option Json} {answer : String × Bool} (read : controlOf data = some answer) :
    answerOf data = some answer := by
  rw [controlOf_eq] at read
  split at read
  · exact read
  · cases read

section Runs

variable {client : AlloraWebsocketSubscriber} {s : SubscriberState} {id : String} {steps : List SessionStep}

theorem latestAnswer_quiet {data : Option Json} {earlier : List SessionStep} (quiet : answerOf data = none) :
    latestAnswer id (.frame data :: earlier) = latestAnswer id earlier := by
  simp only [latestAnswer, quiet]

theorem latestAnswer_answered {data : Option Json} {earlier : List SessionStep} {other : String} {confirms : Bool}
    (answer : answerOf data = some (other, confirms)) :
    latestAnswer id (.frame data :: earlier) = if other = id then some confirms else latestAnswer id earlier := by
  simp only [latestAnswer, answer]

/-- A dispatchable subscription was confirmed last, on this connection. -/
theorem dispatchable_confirmed (readable : ∀ step ∈ steps, RejectsReadably id step)
    (dispatchable : Dispatchable (client.after .start steps) id) : latestAnswer id steps.reverse = some true := by
  induction steps using List.reverseRecOn with
  | nil =>
    obtain ⟨info, member, -⟩ := dispatchable
    cases member
  | append_singleton steps step ih =>
    have ih := ih fun earlier member => readable earlier (List.mem_append_left _ member)
    have readable_step : RejectsReadably id step := readable step (by simp)
    rw [after_snoc, dispatchable_step] at dispatchable
    rw [List.reverse_append, List.reverse_singleton, List.singleton_append]
    cases step with
    | connected => exact dispatchable.elim
    | frame data =>
      dsimp only at dispatchable
      rw [controlOf_eq] at dispatchable
      cases answer : answerOf data with
      | none =>
        rw [latestAnswer_quiet answer]
        simp only [answer, ite_self] at dispatchable
        exact ih dispatchable
      | some control =>
        obtain ⟨other, confirms⟩ := control
        rw [latestAnswer_answered answer]
        simp only [answer] at dispatchable
        by_cases here : other = id
        · rw [if_pos here]
          subst here
          cases read : objectResult data with
          | true =>
            simp only [read, if_true] at dispatchable
            rw [dispatchable.1]
          | false =>
            -- the client has not seen this answer, which then is no error
            cases confirms with
            | true => rfl
            | false => exact absurd (readable_step answer) (by simp [read])
        · rw [if_neg here]
          refine ih ?_
          split at dispatchable
          · rename_i other' active same
            split at same
            · cases same
              rwa [if_neg here] at dispatchable
            · cases same
          · exact dispatchable
    | tick elapsed => exact ih dispatchable.2
    | closed => exact ih dispatchable.2
    | disconnected => exact ih dispatchable.2
    | sent other => exact ih dispatchable.2
    | subscribe stem given query subscriptionType callback => exact ih dispatchable.2
    | unsubscribed other => exact ih dispatchable.2

/-- One step of a subscription that nothing ends. -/
theorem dispatchable_kept {step : SessionStep} (lives : ¬ EndsSubscription id step)
    (dispatchable : Dispatchable s id) : Dispatchable (client.step s step) id ↔ ¬ Names id s step := by
  rw [dispatchable_step]
  have registered : id ∈ s.subscriptions.keys := by
    obtain ⟨info, member, -⟩ := dispatchable
    exact PyDict.mem_keys.mpr ⟨info, member⟩
  cases step with
  | connected => exact (lives trivial).elim
  | unsubscribed other => simp [Names, show other ≠ id from lives, dispatchable]
  | frame data =>
    simp only [Names, not_false_eq_true, iff_true]
    cases answer : controlOf data with
    | none => exact dispatchable
    | some control =>
      obtain ⟨other, active⟩ := control
      dsimp only
      by_cases here : other = id
      · rw [if_pos here]
        subst here
        cases active with
        | true => exact ⟨rfl, registered⟩
        | false => exact (lives (answerOf_of_controlOf answer)).elim
      · rw [if_neg here]
        exact dispatchable
  | tick elapsed => exact and_iff_left dispatchable
  | closed => exact and_iff_left dispatchable
  | disconnected => exact and_iff_left dispatchable
  | sent other => exact and_iff_left dispatchable
  | subscribe stem given query subscriptionType callback => exact and_iff_left dispatchable

/-- It stays dispatchable as long as no subscribe call names it. -/
theorem stays_dispatchable_iff (lives : ∀ step ∈ steps, ¬ EndsSubscription id step)
    (dispatchable : Dispatchable s id) : (∀ more, more <+: steps → Dispatchable (client.after s more) id) ↔
      ∀ before step rest, steps = before ++ step :: rest → ¬ Names id (client.after s before) step := by
  induction steps generalizing s with
  | nil =>
    constructor
    · intro _ before step rest split
      simp at split
    · rintro - more prefix_nil
      rw [List.prefix_nil.mp prefix_nil]
      exact dispatchable
  | cons first steps ih =>
    have lives_first := lives first (.head _)
    have lives_rest : ∀ step ∈ steps, ¬ EndsSubscription id step := fun step member => lives step (.tail _ member)
    constructor
    · intro always before step rest split
      have next : Dispatchable (client.step s first) id :=
        always [first] ((List.prefix_cons_inj first).mpr List.nil_prefix)
      cases before with
      | nil =>
        obtain ⟨rfl, -⟩ := List.cons_eq_cons.mp split
        exact (dispatchable_kept lives_first dispatchable).mp next
      | cons head before =>
        obtain ⟨rfl, rfl⟩ := List.cons_eq_cons.mp split
        refine (ih lives_rest next).mp ?_ before step rest rfl
        intro more prefix_more
        exact always (_ :: more) ((List.prefix_cons_inj _).mpr prefix_more)
    · intro unnamed more prefix_more
      have next : Dispatchable (client.step s first) id :=
        (dispatchable_kept lives_first dispatchable).mpr (unnamed [] first steps rfl)
      cases more with
      | nil => exact dispatchable
      | cons head more =>
        obtain ⟨rfl, prefix_rest⟩ := List.cons_prefix_cons.mp prefix_more
        refine (ih lives_rest next).mpr ?_ more prefix_rest
        intro before step rest split
        exact unnamed (_ :: before) step rest (by rw [split]; rfl)

end Runs

/-- In every interleaving. An event is dispatched only for a subscription that was
confirmed last on the connection, if all error frames for it were readable. And a
subscription that was confirmed readably and that nothing ends stays dispatchable
exactly as long as no subscribe call names its id again. -/
theorem confirmed_stays_dispatchable_iff (client : AlloraWebsocketSubscriber) :
    (∀ steps data id events blockHeight, (∀ step ∈ steps, RejectsReadably id step) →
      dispatched (client.after .start steps) data = some (id, events, blockHeight) →
        latestAnswer id steps.reverse = some true) ∧
    ∀ before data id steps, answerOf data = some (id, true) → objectResult data = true →
      id ∈ (client.after .start before).subscriptions.keys → (∀ step ∈ steps, ¬ EndsSubscription id step) →
      ((∀ more, more <+: steps → Dispatchable (client.after .start (before ++ .frame data :: more)) id) ↔
        ∀ earlier step rest, steps = earlier ++ step :: rest →
          ¬ Names id (client.after .start (before ++ .frame data :: earlier)) step) := by
  constructor
  · intro steps data id events blockHeight readable dispatches
    exact dispatchable_confirmed readable (dispatched_iff.mp dispatches).2.2
  · intro before data id steps confirms readable registered lives
    have confirmed : Dispatchable (client.step (client.after .start before) (.frame data)) id := by
      rw [dispatchable_step]
      dsimp only
      rw [controlOf_eq, if_pos readable, confirms]
      dsimp only
      rw [if_pos rfl]
      exact ⟨rfl, registered⟩
    have shift : ∀ more, client.after .start (before ++ .frame data :: more) =
        client.after (client.step (client.after .start before) (.frame data)) more := fun more =>
      after_append .start before (.frame data :: more)
    simp only [shift]
    exact stays_dispatchable_iff lives confirmed

/-- The server confirms the subscription `a`. -/
def confirmsA : Json := .obj [("jsonrpc", .str "2.0"), ("id", .str "a"), ("result", .obj [])]

/-- It takes the confirmation back, with the result null. -/
def rejectsA : Json :=
  .obj [("jsonrpc", .str "2.0"), ("id", .str "a"), ("result", .null), ("error", .obj [("code", .int (-32000))])]

/-- An event for `a`. -/
def eventForA : Json :=
  .obj [("jsonrpc", .str "2.0"), ("id", .str "a"),
    ("result", .obj [("query", .str "tm.event='NewBlockEvents'"),
      ("data", .obj [("type", .str "tendermint/event/NewBlockEvents"),
        ("value", .obj [("height", .str "7"), ("events", .arr [transfer "5"])])])])]

def subscribingA : List SessionStep :=
  [.connected, .subscribe "sub_" (some "a") "tm.event='NewBlockEvents'" .tendermintQuery 0]

/-- The steps up to the confirmation, and a second callback. -/
def subscribedOnce : List SessionStep := subscribingA ++ [.frame (some confirmsA)]

def subscribedTwice : List SessionStep :=
  subscribedOnce ++ [.subscribe "sub_" (some "a") "tm.event='NewBlockEvents'" .tendermintQuery 1]

def rejectedOnce : List SessionStep := subscribedOnce ++ [.frame (some rejectsA)]

theorem confirmed_stays_dispatchable_iff_once :
    latestAnswer "a" subscribedOnce.reverse = some true ∧
      ∀ more, more <+: [.tick 5, .frame (some eventForA)] →
        Dispatchable (listener.after .start (subscribingA ++ .frame (some confirmsA) :: more)) "a" := by
  constructor
  · refine (confirmed_stays_dispatchable_iff listener).1 subscribedOnce (some eventForA) "a" (.arr [transfer "5"])
      (some 7) ?_ (by decide +kernel)
    intro step member
    simp only [subscribedOnce, subscribingA, List.cons_append, List.nil_append, List.mem_cons, List.not_mem_nil,
      or_false] at member
    rcases member with rfl | rfl | rfl
    · trivial
    · trivial
    · intro _
      decide +kernel
  · refine ((confirmed_stays_dispatchable_iff listener).2 subscribingA (some confirmsA) "a" _ (by decide +kernel)
      (by decide +kernel) (by decide +kernel) ?_).mpr ?_
    · intro step member
      simp only [List.mem_cons, List.not_mem_nil, or_false] at member
      rcases member with rfl | rfl
      · exact id
      · change ¬ answerOf (some eventForA) = some ("a", false)
        decide +kernel
    · intro earlier step rest split
      have member : step ∈ ([.tick 5, .frame (some eventForA)] : List SessionStep) := by simp [split]
      simp only [List.mem_cons, List.not_mem_nil, or_false] at member
      rcases member with rfl | rfl
      · exact id
      · exact id

/-- The second callback silences the first: nothing ended the subscription, and
it is no longer dispatchable. And an error whose result is null goes unnoticed:
events are dispatched after it. -/
theorem second_callback_silences :
    (Dispatchable (listener.after .start subscribedOnce) "a" ∧
      ¬ EndsSubscription "a" (.subscribe "sub_" (some "a") "tm.event='NewBlockEvents'" .tendermintQuery 1) ∧
      (listener.after .start subscribedTwice).callbacks.get? "a" = some [0, 1] ∧
      ¬ Dispatchable (listener.after .start subscribedTwice) "a") ∧
    latestAnswer "a" rejectedOnce.reverse = some false ∧
      dispatched (listener.after .start rejectedOnce) (some eventForA) =
        some ("a", .arr [transfer "5"], some 7) :=
  ⟨⟨by decide +kernel, id, by decide +kernel, by decide +kernel⟩, by decide +kernel, by decide +kernel⟩

end AlloraSdk.Guarantees
