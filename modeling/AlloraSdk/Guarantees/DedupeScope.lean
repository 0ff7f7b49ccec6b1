import AlloraSdk.Guarantees.Delivery

/-!
# What the dedupe suppresses

A pair of height and content is handed on again only after the interval, and nothing
else is held back. But the memory belongs to the id and outlives the registration,
so that a later callback of the id misses what was delivered before it.
-/

namespace AlloraSdk.Guarantees
open AlloraSdk.Logic AlloraSdk.Source.Utils AlloraSdk.Source.Events

/-- A frame brings the content to the subscription, at the height: it is one of the
events that the subscription's filter passes on. -/
def Reaches (client : AlloraWebsocketSubscriber) (s : SubscriberState) (data : Option Json) (id : String)
    (height : Option ℤ) (content : EventValue) : Prop :=
  ∃ callbacks values, delivery client s data = some (id, height, callbacks, values) ∧
    ∃ value ∈ values, sameContent value content = true

/-- What becomes of a content in a frame that comes after the steps of a run. -/
structure Dedupes (client : AlloraWebsocketSubscriber) (steps : List SessionStep) (data : Option Json) (id : String)
    (height : Option ℤ) (content : EventValue) : Prop where
  /-- It is not handed on within the interval. -/
  no_replay : HandedWithin client steps id height content (client.after .start steps).clock → ∀ callback,
    ¬ Hands client (client.after .start steps) data id height content callback
  /-- It is handed on once for each registration of a callback. -/
  once : (∃ events, dispatched (client.after .start steps) data = some (id, events, height)) →
    ∀ callbacks, (client.after .start steps).callbacks.get? id = some callbacks → ∀ callback,
    (invoked ((client.handleMessage data).settle (client.after .start steps)).1).countP (fun job =>
      job.callback = callback ∧ sameContent job.event content = true) ≤ callbacks.count callback
  /-- Nothing else holds it back. -/
  no_other : Reaches client (client.after .start steps) data id height content → ∀ callbacks,
    (client.after .start steps).callbacks.get? id = some callbacks → ∀ callback ∈ callbacks,
    (Hands client (client.after .start steps) data id height content callback ↔
      ¬ HandedWithin client steps id height content (client.after .start steps).clock)
  /-- The first time that it reaches a registered callback, it is handed on unless
  it was handed to an earlier one of the id within the interval. -/
  first_arrival : ∀ before stem given query subscriptionType callback more,
    steps = before ++ .subscribe stem given query subscriptionType callback :: more →
    (∀ earlier data rest, more = earlier ++ .frame data :: rest → ¬ Reaches client (client.after .start
      (before ++ .subscribe stem given query subscriptionType callback :: earlier)) data id height content) →
    Reaches client (client.after .start steps) data id height content → ∀ callbacks,
    (client.after .start steps).callbacks.get? id = some callbacks → callback ∈ callbacks →
    (Hands client (client.after .start steps) data id height content callback ↔
      ¬ HandedWithin client before id height content (client.after .start steps).clock)

section Dedupe

variable {client : AlloraWebsocketSubscriber} {s : SubscriberState} {steps : List SessionStep} {data : Option Json}
  {id : String} {height : Option ℤ} {content : EventValue} {callback : Callback} {now : ℕ}

theorem reaches_of_hands (hands : Hands client s data id height content callback) :
    Reaches client s data id height content := by
  obtain ⟨⟨events, dispatches⟩, job, member, -, -, same⟩ := hands
  cases delivers : delivery client s data with
  | none =>
    rw [settle_frame, delivers, controlOf_none_of_dispatched dispatches] at member
    cases member
  | some given =>
    obtain ⟨id', blockHeight, callbacks, values⟩ := given
    obtain ⟨⟨events', dispatches'⟩, -⟩ := delivery_parts delivers
    rw [dispatches] at dispatches'
    cases dispatches'
    rw [settle_frame, delivers] at member
    exact ⟨callbacks, values, delivers, job.event, (mem_freshJobs (invoked_executeCallbacks ▸ member)).2, same⟩

/-- A callback is handed a content that reaches it, unless that is recent. -/
theorem hands_iff_fresh (faithful : FaithfulText client.classes)
    (dicts : ∀ earlier, SessionStep.frame earlier ∈ steps → DictEvents earlier) (frame : DictEvents data)
    (event : IsEvent client.classes content)
    (reaches : Reaches client (client.after .start steps) data id height content) {callbacks : List Callback}
    (registered : (client.after .start steps).callbacks.get? id = some callbacks) (among : callback ∈ callbacks) :
    Hands client (client.after .start steps) data id height content callback ↔
      ¬ HandedWithin client steps id height content (client.after .start steps).clock := by
  obtain ⟨callbacks', values, delivers, value, member, same⟩ := reaches
  obtain ⟨-, listed, -, are_events⟩ := delivery_parts delivers
  rw [registered] at listed
  cases listed
  have key : eventKey client.classes height value = eventKey client.classes height content :=
    (eventKey_eq_content faithful (are_events frame value member) event).mpr ⟨rfl, same⟩
  rw [hands_iff_invokes faithful frame event, invokes_iff delivers among, recent_iff_handed faithful dicts event,
    and_iff_right (key ▸ List.mem_map_of_mem member)]

/-- Handings after a step before which the content did not reach the id are none. -/
theorem handedWithin_append {before more : List SessionStep}
    (unreached : ∀ earlier data rest, more = earlier ++ .frame data :: rest →
      ¬ Reaches client (client.after .start (before ++ earlier)) data id height content) :
    HandedWithin client (before ++ more) id height content now ↔ HandedWithin client before id height content now := by
  constructor
  · rintro ⟨past, data, rest, callback, split, hands, fresh⟩
    rcases List.append_eq_append_iff.mp split with ⟨middle, rfl, later⟩ | ⟨middle, rfl, later⟩
    · exact (unreached middle data rest later (reaches_of_hands hands)).elim
    · cases middle with
      | nil =>
        exact (unreached [] data rest later.symm (by simpa using reaches_of_hands hands)).elim
      | cons first middle =>
        obtain ⟨rfl, -⟩ := List.cons_eq_cons.mp later
        exact ⟨past, data, middle, callback, rfl, hands, fresh⟩
  · rintro ⟨past, data, rest, callback, rfl, hands, fresh⟩
    exact ⟨past, data, rest ++ more, callback, by simp, hands, fresh⟩

end Dedupe

/-- In every run whose events are dicts: no content is handed on again within the
interval, a frame hands it at most once to each registration, nothing else holds it
back; and the first time that it reaches a callback after that was registered, the
callback is invoked exactly when the id was not handed it before the registration
within the interval. -/
theorem dedupe_suppresses_iff {client : AlloraWebsocketSubscriber} (faithful : FaithfulText client.classes)
    {steps : List SessionStep} (dicts : ∀ earlier, SessionStep.frame earlier ∈ steps → DictEvents earlier)
    {data : Option Json} (frame : DictEvents data) {content : EventValue} (event : IsEvent client.classes content)
    (id : String) (height : Option ℤ) : Dedupes client steps data id height content := by
  constructor
  · intro handed callback hands
    have invokes := (hands_iff_invokes faithful frame event).mp hands
    exact not_invokes_of_recent ((recent_iff_handed faithful dicts event).mpr handed) invokes
  · intro dispatches callbacks registered callback
    rw [settle_frame]
    cases delivers : delivery client (client.after .start steps) data with
    | none =>
      obtain ⟨events, dispatches⟩ := dispatches
      rw [controlOf_none_of_dispatched dispatches]
      exact Nat.zero_le _
    | some given =>
      obtain ⟨events, dispatches⟩ := dispatches
      obtain ⟨id', blockHeight, callbacks', values⟩ := given
      obtain ⟨⟨events', dispatches'⟩, registered', -, are_events⟩ := delivery_parts delivers
      rw [dispatches] at dispatches'
      cases dispatches'
      rw [registered] at registered'
      cases registered'
      have contents : ∀ job ∈ freshJobs client (client.after .start steps) id callbacks values height,
          (decide (job.callback = callback ∧ sameContent job.event content = true) = true ↔
            decide (job.callback = callback ∧ eventKey client.classes height job.event =
              eventKey client.classes height content) = true) := by
        intro job listed
        rw [decide_eq_true_eq, decide_eq_true_eq, eventKey_eq_content faithful
          (are_events frame _ (mem_freshJobs listed).2) event, and_iff_right rfl]
      dsimp only
      rw [invoked_executeCallbacks, List.countP_congr contents, countP_freshJobs]
      split
      · exact Nat.le_of_eq (Nat.mul_one _)
      · exact Nat.zero_le _
  · intro reaches callbacks registered callback among
    exact hands_iff_fresh faithful dicts frame event reaches registered among
  · intro before stem given query subscriptionType callback more split unreached reaches callbacks registered among
    rw [hands_iff_fresh faithful dicts frame event reaches registered among, not_iff_not, split]
    apply handedWithin_append
    intro earlier data rest shape
    cases earlier with
    | nil => cases shape
    | cons first earlier =>
      obtain ⟨rfl, later⟩ := List.cons_eq_cons.mp shape
      exact unreached earlier data rest later

/-- A frame with transfers is of dicts. -/
theorem blockFrame_dicts (amounts : List String) : DictEvents (some (blockFrame (amounts.map transfer))) := by
  intro id events blockHeight read items listed event member
  have frame : readFrame (blockFrame (amounts.map transfer)) = _ := readFrame_newBlockEvents (blockFrame_formed amounts)
  rw [Option.bind_some, frame] at read
  cases read
  cases listed
  obtain ⟨amount, -, rfl⟩ := List.mem_map.mp member
  exact ⟨⟨_, rfl⟩, transfer_loadable amount⟩

/-- The first transfer is handed on, and the dedupe then holds it back. -/
theorem dedupe_suppresses_iff_transfer :
    (invoked ((listener.handleMessage (some (blockFrame [transfer "5"]))).settle
        (listener.after .start listening)).1 = [⟨0, .json (transfer "5"), some 7⟩] ∧
      Dedupes listener listening (some (blockFrame [transfer "5"])) "sub_1" (some 7) (.json (transfer "5"))) ∧
    invoked ((listener.handleMessage (some (blockFrame [transfer "5"]))).settle
        (listener.after .start (listening ++ [.frame (some (blockFrame [transfer "5"]))]))).1 = [] ∧
      Dedupes listener (listening ++ [.frame (some (blockFrame [transfer "5"]))]) (some (blockFrame [transfer "5"]))
        "sub_1" (some 7) (.json (transfer "5")) := by
  have event : IsEvent listener.classes (.json (transfer "5")) := ⟨⟨_, rfl⟩, transfer_loadable "5"⟩
  refine ⟨⟨by decide +kernel, ?_⟩, by decide +kernel, ?_⟩
  · exact dedupe_suppresses_iff untyped_faithful listening_dicts (blockFrame_dicts ["5"]) event "sub_1" (some 7)
  · refine dedupe_suppresses_iff untyped_faithful ?_ (blockFrame_dicts ["5"]) event "sub_1" (some 7)
    intro earlier member
    rcases List.mem_append.mp member with before | last
    · exact listening_dicts earlier before
    · obtain rfl := SessionStep.frame.inj (List.mem_singleton.mp last)
      exact blockFrame_dicts ["5"]

/-- One registration gets the transfer, and is followed by another of the same id. -/
def reregistered : List SessionStep :=
  .connected :: subscribing 0 ++ [.frame (some (blockFrame [transfer "5"])), .unsubscribed "sub_1"] ++ subscribing 1

/-- The new registration is active, the transfer reaches it for the first time,
and its callback is not invoked. -/
theorem reregistered_misses :
    Dispatchable (listener.after .start reregistered) "sub_1" ∧
      (listener.after .start reregistered).callbacks.get? "sub_1" = some [1] ∧
      delivery listener (listener.after .start reregistered) (some (blockFrame [transfer "5"])) =
        some ("sub_1", some 7, [1], [.json (transfer "5")]) ∧
      invoked ((listener.handleMessage (some (blockFrame [transfer "5"]))).settle
        (listener.after .start reregistered)).1 = [] :=
  ⟨by decide +kernel, by decide +kernel, by decide +kernel, by decide +kernel⟩

end AlloraSdk.Guarantees
