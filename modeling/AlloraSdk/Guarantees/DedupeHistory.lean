import Mathlib.Data.List.ReduceOption
import AlloraSdk.Source.Events.Session
import AlloraSdk.Guarantees.DedupeKey

/-!
# The table of the dedupe is the history of the run

The table keeps texts and times. As long as the interval lasts, the text of a
height and a content is in the table of an id exactly when an earlier frame of the
run handed that content, at that height, to a callback of the id.
-/

namespace AlloraSdk.Guarantees
open AlloraSdk.Logic AlloraSdk.Source.Utils AlloraSdk.Source.Events

/-! ## Contents -/

/-- Dicts are the same up to the order of their members, and messages by the name
of their class and their fields. -/
def sameContent : EventValue → EventValue → Bool
  | .json a, .json b => decide (a.canonical = b.canonical)
  | .message a, .message b => decide (a.cls.name = b.cls.name ∧ a.fields = b.fields)
  | _, _ => false

/-- A dict as `json.loads` returns it, or a message that was marshalled. -/
def IsEvent (classes : EventClasses) : EventValue → Prop
  | .json event => (∃ fields, event = .obj fields) ∧ event.Loadable
  | .message message => ∃ event, classes.marshalEvent event = some (some message)

/-- The text of a message tells the name of its class and its fields, and is not
the text of a dict. -/
structure FaithfulText (classes : EventClasses) : Prop where
  tells : ∀ m m', IsEvent classes (.message m) → IsEvent classes (.message m') →
    (classes.str m = classes.str m' ↔ m.cls.name = m'.cls.name ∧ m.fields = m'.fields)
  apart : ∀ m fields, IsEvent classes (.message m) → classes.str m ≠ (Json.obj fields).render

/-- Two events have one key exactly when they have one height and one content. -/
theorem eventKey_eq_content {classes : EventClasses} (faithful : FaithfulText classes) {height height' : Option ℤ}
    {v v' : EventValue} (event : IsEvent classes v) (event' : IsEvent classes v') :
    eventKey classes height v = eventKey classes height' v' ↔ height = height' ∧ sameContent v v' = true := by
  rw [eventKey_parts]
  refine and_congr_right fun _ => ?_
  cases v with
  | json a =>
    obtain ⟨⟨fields, rfl⟩, loadable⟩ := event
    cases v' with
    | json b =>
      obtain ⟨⟨fields', rfl⟩, loadable'⟩ := event'
      rw [contentKey_dict loadable, contentKey_dict loadable']
      simpa [sameContent] using Json.render_eq_iff loadable loadable'
    | message m' =>
      refine iff_of_false ?_ (by simp [sameContent])
      rw [contentKey_dict loadable]
      exact (faithful.apart m' fields event').symm
  | message m =>
    cases v' with
    | json b =>
      obtain ⟨⟨fields', rfl⟩, loadable'⟩ := event'
      refine iff_of_false ?_ (by simp [sameContent])
      rw [contentKey_dict loadable']
      exact faithful.apart m fields' event
    | message m' => simpa [contentKey, sameContent] using faithful.tells m m' event event'

/-- The events that a frame carries are dicts. -/
def DictEvents (data : Option Json) : Prop :=
  ∀ id events blockHeight, data.bind readFrame = some (.events id events blockHeight) →
    ∀ items, events.items = some items → ∀ event ∈ items, (∃ fields, event = .obj fields) ∧ event.Loadable

/-! ## What a frame hands on -/

/-- The callback jobs that a handler has started when it pauses. -/
def invoked (task : Paused SubscriberState SubscriberRequest SubscriberReply) : List Job :=
  match task.request with
  | some (.gather jobs) => jobs
  | _ => []

/-- The content was delivered for this subscription within the dedupe interval. -/
def Recent (client : AlloraWebsocketSubscriber) (s : SubscriberState) (id content : String) : Prop :=
  ∃ keys seen, s.recentEventKeys.get? id = some keys ∧ (content, seen) ∈ keys.entries ∧
    s.clock ≤ seen + client.dedupeTtl

section Jobs

variable {client : AlloraWebsocketSubscriber} {s : SubscriberState} {id : String} {callbacks : List Callback}
  {values : List EventValue} {blockHeight : Option ℤ}

/-- The contents that the dedupe still remembers when a frame arrives. -/
def remembered (client : AlloraWebsocketSubscriber) (s : SubscriberState) (id : String) : PyDict ℕ :=
  pruneRecent client.dedupeTtl s.clock ((s.recentEventKeys.get? id).getD .empty)

theorem mem_remembered {content : String} :
    content ∈ (remembered client s id).keys ↔ Recent client s id content := by
  unfold remembered Recent
  cases found : s.recentEventKeys.get? id with
  | none => simp [PyDict.mem_keys, pruneRecent, PyDict.filter, PyDict.empty]
  | some keys =>
    simp only [PyDict.mem_keys, pruneRecent, PyDict.filter, Option.getD_some, List.mem_filter, decide_eq_true_eq,
      Option.some.injEq, exists_and_left, exists_eq_left']
    refine exists_congr fun seen => and_congr_right fun _ => ?_
    omega

instance {content : String} : Decidable (Recent client s id content) := decidable_of_iff _ mem_remembered

/-- The jobs for the fresh events. -/
def freshJobs (client : AlloraWebsocketSubscriber) (s : SubscriberState) (id : String)
    (callbacks : List Callback) (values : List EventValue) (blockHeight : Option ℤ) : List Job :=
  let fresh := (uniqueEvents (eventKey client.classes blockHeight) s.clock (remembered client s id) values).2
  callbacks.flatMap fun callback => fresh.map fun event => ⟨callback, event, blockHeight⟩

theorem invoked_executeCallbacks :
    invoked ((client.executeCallbacks callbacks values blockHeight id).settle s).1 =
      freshJobs client s id callbacks values blockHeight := by
  change invoked (Coroutine.settle (if (freshJobs client s id callbacks values blockHeight).isEmpty then .ret ()
    else .await (.gather (freshJobs client s id callbacks values blockHeight)) .ret) _).1 = _
  split
  · rename_i none
    rw [List.isEmpty_iff.mp none]
    rfl
  · rfl

theorem freshJobs_nil : freshJobs client s id callbacks [] blockHeight = [] := by
  simp [freshJobs, uniqueEvents]

theorem mem_freshJobs {job : Job} (member : job ∈ freshJobs client s id callbacks values blockHeight) :
    job.blockHeight = blockHeight ∧ job.event ∈ values := by
  obtain ⟨callback, -, member⟩ := List.mem_flatMap.mp member
  obtain ⟨event, fresh, rfl⟩ := List.mem_map.mp member
  exact ⟨rfl, mem_uniqueEvents fresh⟩

theorem countP_freshJobs (callback : Callback) (content : String) :
    (freshJobs client s id callbacks values blockHeight).countP (fun job =>
        job.callback = callback ∧ eventKey client.classes blockHeight job.event = content) =
      callbacks.count callback *
        (if ¬ Recent client s id content ∧ content ∈ values.map (eventKey client.classes blockHeight) then 1 else 0) := by
  have counted := @countP_uniqueEvents (eventKey client.classes blockHeight) s.clock (remembered client s id)
    values content
  simp only [← mem_remembered, ← counted]
  unfold freshJobs
  generalize (uniqueEvents (eventKey client.classes blockHeight) s.clock (remembered client s id) values).2 = fresh
  induction callbacks with
  | nil => simp
  | cons first rest ih =>
    rw [List.flatMap_cons, List.countP_append, ih, List.countP_map, List.count_cons]
    by_cases same : first = callback
    · simp [same, Function.comp_def, Nat.add_mul, Nat.add_comm]
    · simp [same, Function.comp_def]

end Jobs

/-- The frame hands the content to the callback, for the subscription and at the height. -/
def Hands (client : AlloraWebsocketSubscriber) (s : SubscriberState) (data : Option Json) (id : String)
    (height : Option ℤ) (content : EventValue) (callback : Callback) : Prop :=
  (∃ events, dispatched s data = some (id, events, height)) ∧
    ∃ job ∈ invoked ((client.handleMessage data).settle s).1, job.callback = callback ∧ job.blockHeight = height ∧
      sameContent job.event content = true

/-! ## The table -/

/-- The table of the id has the key, with the time of its delivery. -/
def Recorded (s : SubscriberState) (id key : String) (time : ℕ) : Prop :=
  ∃ keys, s.recentEventKeys.get? id = some keys ∧ (key, time) ∈ keys.entries

/-- The frame invokes the callback with an event of the key, for the subscription. -/
def Invokes (client : AlloraWebsocketSubscriber) (s : SubscriberState) (data : Option Json) (id key : String)
    (callback : Callback) : Prop :=
  ∃ blockHeight callbacks values, delivery client s data = some (id, blockHeight, callbacks, values) ∧
    ∃ job ∈ invoked ((client.handleMessage data).settle s).1, job.callback = callback ∧
      job.blockHeight = blockHeight ∧ eventKey client.classes blockHeight job.event = key

section Table

variable {client : AlloraWebsocketSubscriber} {s : SubscriberState} {data : Option Json} {id key : String}
  {time : ℕ} {blockHeight : Option ℤ} {callbacks : List Callback} {values : List EventValue}

/-- What is recorded stays, and the new keys are added with the time. -/
theorem mem_uniqueEvents_record {keyOf : EventValue → String} {now : ℕ} {recent : PyDict ℕ} {events : List EventValue} :
    (key, time) ∈ (uniqueEvents keyOf now recent events).1.entries ↔
      (key, time) ∈ recent.entries ∨ time = now ∧ key ∈ events.map keyOf ∧ key ∉ recent.keys := by
  induction events generalizing recent with
  | nil => simp [uniqueEvents]
  | cons first rest ih =>
    unfold uniqueEvents
    by_cases seen : keyOf first ∈ recent.keys
    · rw [if_pos seen, ih, List.map_cons, List.mem_cons]
      refine or_congr_right (and_congr_right fun _ => ?_)
      constructor
      · rintro ⟨later, fresh⟩
        exact ⟨.inr later, fresh⟩
      · rintro ⟨rfl | later, fresh⟩
        · exact (fresh seen).elim
        · exact ⟨later, fresh⟩
    · rw [if_neg seen]
      dsimp only
      rw [ih, PyDict.mem_set, PyDict.mem_keys_set, List.map_cons, List.mem_cons]
      by_cases same : key = keyOf first
      · have absent : ∀ time, (keyOf first, time) ∉ recent.entries := fun time member =>
          seen (PyDict.mem_keys.mpr ⟨time, member⟩)
        simp [same, seen, absent]
      · simp [same]

theorem mem_remembered_entries : (key, time) ∈ (remembered client s id).entries ↔
    Recorded s id key time ∧ s.clock ≤ time + client.dedupeTtl := by
  unfold remembered Recorded pruneRecent PyDict.filter
  cases s.recentEventKeys.get? id with
  | none => simp [PyDict.empty]
  | some keys =>
    simp only [Option.getD_some, List.mem_filter, decide_eq_true_eq, Option.some.injEq, exists_eq_left']
    refine and_congr_right fun _ => ?_
    omega

theorem recent_iff_recorded : Recent client s id key ↔ ∃ time, Recorded s id key time ∧
    s.clock ≤ time + client.dedupeTtl := by
  unfold Recent Recorded
  constructor
  · rintro ⟨keys, time, found, member, fresh⟩
    exact ⟨time, ⟨keys, found, member⟩, fresh⟩
  · rintro ⟨time, ⟨keys, found, member⟩, fresh⟩
    exact ⟨keys, time, found, member, fresh⟩

/-- What a frame leaves in the table. -/
theorem recorded_frame (delivers : delivery client s data = some (id, blockHeight, callbacks, values)) :
    Recorded (client.step s (.frame data)) id key time ↔
      Recorded s id key time ∧ s.clock ≤ time + client.dedupeTtl ∨
        time = s.clock ∧ key ∈ values.map (eventKey client.classes blockHeight) ∧ ¬ Recent client s id key := by
  have table : (client.step s (.frame data)).recentEventKeys =
      s.recentEventKeys.set id (uniqueEvents (eventKey client.classes blockHeight) s.clock
        (remembered client s id) values).1 := by
    change ((client.handleMessage data).settle s).2.recentEventKeys = _
    rw [settle_frame, delivers]
    simp only [settle_executeCallbacks]
    rfl
  rw [← mem_remembered_entries, ← mem_remembered, ← mem_uniqueEvents_record]
  unfold Recorded
  rw [table]
  simp only [PyDict.get?_eq_some, PyDict.mem_set, if_true, exists_eq_left]

/-- A step that delivers nothing to the id leaves its table alone. -/
theorem recorded_other {step : SessionStep}
    (other : ∀ data, step = .frame data → ∀ given, delivery client s data ≠ some (id, given)) :
    Recorded (client.step s step) id key time ↔ Recorded s id key time := by
  cases step with
  | frame data =>
    change Recorded ((client.handleMessage data).settle s).2 id key time ↔ _
    rw [settle_frame]
    cases delivers : delivery client s data with
    | none => cases controlOf data <;> rfl
    | some given =>
      obtain ⟨target, blockHeight, callbacks, values⟩ := given
      have elsewhere : target ≠ id := by
        rintro rfl
        exact other data rfl _ delivers
      dsimp only
      rw [settle_executeCallbacks]
      unfold Recorded
      dsimp only
      simp only [PyDict.get?_eq_some, PyDict.mem_set, if_neg (Ne.symm elsewhere)]
  | subscribe stem given query subscriptionType callback =>
    have same : (client.step s (.subscribe stem given query subscriptionType callback)).recentEventKeys =
        s.recentEventKeys := by
      simp only [AlloraWebsocketSubscriber.step, SubscriberState.register, SubscriberState.chooseId]
      split <;> rfl
    unfold Recorded
    rw [same]
  | _ => rfl

/-- A callback is invoked with a pair that reaches it, unless it is recent. -/
theorem invokes_iff {callback : Callback} (delivers : delivery client s data = some (id, blockHeight, callbacks, values))
    (registered : callback ∈ callbacks) : Invokes client s data id key callback ↔
      key ∈ values.map (eventKey client.classes blockHeight) ∧ ¬ Recent client s id key := by
  have jobs : invoked ((client.handleMessage data).settle s).1 = freshJobs client s id callbacks values blockHeight := by
    rw [settle_frame, delivers]
    exact invoked_executeCallbacks
  have counted := @countP_freshJobs client s id callbacks values blockHeight callback key
  have present : 0 < callbacks.count callback := List.count_pos_iff.mpr registered
  unfold Invokes
  rw [jobs]
  constructor
  · rintro ⟨blockHeight', callbacks', values', same, job, member, here, -, content⟩
    rw [delivers] at same
    cases same
    have positive : 0 < (freshJobs client s id callbacks values blockHeight).countP (fun job =>
        job.callback = callback ∧ eventKey client.classes blockHeight job.event = key) :=
      List.countP_pos_iff.mpr ⟨job, member, by simp [here, content]⟩
    rw [counted] at positive
    split at positive
    · rename_i fresh
      exact ⟨fresh.2, fresh.1⟩
    · simp at positive
  · rintro ⟨among, fresh⟩
    rw [if_pos ⟨fresh, among⟩, Nat.mul_one] at counted
    have positive : 0 < (freshJobs client s id callbacks values blockHeight).countP (fun job =>
        job.callback = callback ∧ eventKey client.classes blockHeight job.event = key) := counted ▸ present
    obtain ⟨job, member, matches_⟩ := List.countP_pos_iff.mp positive
    have matched : job.callback = callback ∧ eventKey client.classes blockHeight job.event = key := by
      simpa using matches_
    exact ⟨blockHeight, callbacks, values, delivers, job, member, matched.1, (mem_freshJobs member).1, matched.2⟩

theorem not_invokes_of_recent {callback : Callback} (recent : Recent client s id key) :
    ¬ Invokes client s data id key callback := by
  rintro ⟨blockHeight, callbacks, values, delivers, job, member, rfl, height, content⟩
  have jobs : invoked ((client.handleMessage data).settle s).1 = freshJobs client s id callbacks values blockHeight := by
    rw [settle_frame, delivers]
    exact invoked_executeCallbacks
  rw [jobs] at member
  have invokes : Invokes client s data id key job.callback :=
    ⟨blockHeight, callbacks, values, delivers, job, by rw [jobs]; exact member, rfl, height, content⟩
  have there : job.callback ∈ callbacks := by
    obtain ⟨callback, registered, inner⟩ := List.mem_flatMap.mp member
    obtain ⟨event, -, rfl⟩ := List.mem_map.mp inner
    exact registered
  exact ((invokes_iff delivers there).mp invokes).2 recent

end Table

section Runs

variable {client : AlloraWebsocketSubscriber} {s : SubscriberState} {id key : String} {time : ℕ}
  {steps : List SessionStep}

theorem step_clock_le (step : SessionStep) : s.clock ≤ (client.step s step).clock := by
  cases step with
  | tick elapsed => exact Nat.le_add_right _ _
  | frame data =>
    refine Nat.le_of_eq ?_
    change s.clock = ((client.handleMessage data).settle s).2.clock
    rw [settle_frame]
    cases delivery client s data with
    | none => cases controlOf data <;> rfl
    | some given =>
      dsimp only
      rw [settle_executeCallbacks]
  | subscribe stem given query subscriptionType callback =>
    refine Nat.le_of_eq ?_
    simp only [AlloraWebsocketSubscriber.step, SubscriberState.register, SubscriberState.chooseId]
    split <;> rfl
  | _ => exact Nat.le_refl _

theorem after_clock_le : s.clock ≤ (client.after s steps).clock := by
  induction steps generalizing s with
  | nil => exact Nat.le_refl _
  | cons first steps ih => exact (step_clock_le first).trans ih

/-- A step delivers to the id, or leaves its table alone. -/
theorem delivers_or_not (client : AlloraWebsocketSubscriber) (s : SubscriberState) (id : String) (step : SessionStep) :
    (∃ data given, step = .frame data ∧ delivery client s data = some (id, given)) ∨
      ∀ data, step = .frame data → ∀ given, delivery client s data ≠ some (id, given) := by
  by_cases delivers : ∃ data given, step = .frame data ∧ delivery client s data = some (id, given)
  · exact .inl delivers
  · right
    rintro data rfl given same
    exact delivers ⟨data, given, rfl, same⟩

/-- A record is kept as long as it is recent. -/
theorem Recorded.after (recorded : Recorded s id key time)
    (fresh : (client.after s steps).clock ≤ time + client.dedupeTtl) : Recorded (client.after s steps) id key time := by
  induction steps generalizing s with
  | nil => exact recorded
  | cons first steps ih =>
    refine ih ?_ fresh
    rcases delivers_or_not client s id first with ⟨data, ⟨blockHeight, callbacks, values⟩, rfl, delivers⟩ | other
    · have soon : s.clock ≤ (client.after s (.frame data :: steps)).clock := after_clock_le
      exact (recorded_frame delivers).mpr (.inl ⟨recorded, soon.trans fresh⟩)
    · exact (recorded_other other).mpr recorded

theorem recorded_of_invokes {data : Option Json} {callback : Callback} (invokes : Invokes client s data id key callback) :
    Recorded (client.step s (.frame data)) id key s.clock := by
  obtain ⟨blockHeight, callbacks, values, delivers, job, member, rfl, height, content⟩ := invokes
  have fresh : ¬ Recent client s id key := fun recent =>
    not_invokes_of_recent recent ⟨blockHeight, callbacks, values, delivers, job, member, rfl, height, content⟩
  rw [settle_frame, delivers] at member
  have value := (mem_freshJobs (invoked_executeCallbacks ▸ member)).2
  refine (recorded_frame delivers).mpr (.inr ⟨rfl, ?_, fresh⟩)
  rw [← content]
  exact List.mem_map_of_mem value

end Runs

/-! ## History -/

section History

variable {client : AlloraWebsocketSubscriber} {s : SubscriberState} {data : Option Json} {id key : String}
  {height : Option ℤ} {content : EventValue} {steps : List SessionStep} {now : ℕ}

theorem mem_keepM {α : Type} {test : α → Option Bool} {xs kept : List α} (found : keepM test xs = some kept) {x : α}
    (member : x ∈ kept) : x ∈ xs := by
  induction xs generalizing kept with
  | nil =>
    cases found
    cases member
  | cons first rest ih =>
    simp only [keepM, Option.bind_eq_bind, Option.bind_eq_some_iff, Option.pure_def, Option.some.injEq] at found
    obtain ⟨passes, -, others, found, rfl⟩ := found
    split at member
    · rcases List.mem_cons.mp member with rfl | later
      · exact .head _
      · exact .tail _ (ih found later)
    · exact .tail _ (ih found member)

theorem mem_mapM {α β : Type} {f : α → Option β} {xs : List α} {ys : List β} (found : xs.mapM f = some ys) {y : β}
    (member : y ∈ ys) : ∃ x ∈ xs, f x = some y := by
  induction xs generalizing ys with
  | nil =>
    cases found
    cases member
  | cons first rest ih =>
    simp only [List.mapM_cons, Option.bind_eq_bind, Option.bind_eq_some_iff, Option.pure_def, Option.some.injEq] at found
    obtain ⟨value, read, others, found, rfl⟩ := found
    rcases List.mem_cons.mp member with rfl | later
    · exact ⟨first, .head _, read⟩
    · obtain ⟨x, among, same⟩ := ih found later
      exact ⟨x, .tail _ among, same⟩

/-- The handlers pass on events of the frame, or messages that these marshal to. -/
theorem selected_events {classes : EventClasses} {subscriptionType : SubscriptionType} {events : List Json}
    {values : List EventValue} (selected : selectEvents classes subscriptionType events = some values)
    (dicts : ∀ event ∈ events, (∃ fields, event = .obj fields) ∧ event.Loadable) :
    ∀ value ∈ values, IsEvent classes value := by
  intro value member
  cases subscriptionType with
  | tendermintQuery =>
    cases selected
    obtain ⟨event, among, rfl⟩ := List.mem_map.mp member
    exact dicts event among
  | newBlockEvents eventName conditions =>
    simp only [selectEvents] at selected
    split at selected
    · cases selected
      cases member
    · obtain ⟨named, found, selected⟩ := Option.bind_eq_some_iff.mp selected
      split at selected
      · cases selected
        obtain ⟨event, among, rfl⟩ := List.mem_map.mp member
        exact dicts event (mem_keepM found among)
      · obtain ⟨matching, kept, same⟩ := Option.bind_eq_some_iff.mp selected
        cases same
        obtain ⟨event, among, rfl⟩ := List.mem_map.mp member
        exact dicts event (mem_keepM found (mem_keepM kept among))
  | typedNewBlockEvents eventName eventClass conditions =>
    simp only [selectEvents] at selected
    split at selected
    · cases selected
      cases member
    · simp only [Option.bind_eq_bind, Option.bind_eq_some_iff, Option.pure_def, Option.some.injEq] at selected
      obtain ⟨named, found, marshaled, parsed, matching, kept, rfl⟩ := selected
      obtain ⟨message, among, rfl⟩ := List.mem_map.mp member
      obtain ⟨event, -, same⟩ := mem_mapM parsed (List.reduceOption_mem_iff.mp (mem_keepM kept among))
      exact ⟨event, same⟩

/-- What a delivery is made of. -/
theorem delivery_parts {blockHeight : Option ℤ} {callbacks : List Callback} {values : List EventValue}
    (delivers : delivery client s data = some (id, blockHeight, callbacks, values)) :
    (∃ events, dispatched s data = some (id, events, blockHeight)) ∧ s.callbacks.get? id = some callbacks ∧
      callbacks ≠ [] ∧ (DictEvents data → ∀ value ∈ values, IsEvent client.classes value) := by
  obtain ⟨⟨id', events, height⟩, dispatches, given⟩ := Option.bind_eq_some_iff.mp delivers
  obtain ⟨⟨callbacks', values'⟩, handed_on, same⟩ := Option.bind_eq_some_iff.mp given
  cases same
  refine ⟨⟨events, dispatches⟩, ?_⟩
  unfold handed at handed_on
  split at handed_on
  · rename_i event rest info callback others listed found registered
    split at handed_on
    · rename_i first matching selected
      cases handed_on
      refine ⟨registered, by simp, ?_⟩
      intro dicts
      exact selected_events selected (dicts _ _ _ (dispatched_iff.mp dispatches).1 _ listed)
    · cases handed_on
  · cases handed_on

/-- Handing on a content is invoking with its key. -/
theorem hands_iff_invokes (faithful : FaithfulText client.classes) (dicts : DictEvents data)
    (event : IsEvent client.classes content) {callback : Callback} :
    Hands client s data id height content callback ↔
      Invokes client s data id (eventKey client.classes height content) callback := by
  constructor
  · rintro ⟨⟨events, dispatches⟩, job, member, here, at_height, same⟩
    cases delivers : delivery client s data with
    | none =>
      rw [settle_frame, delivers, controlOf_none_of_dispatched dispatches] at member
      cases member
    | some given =>
      obtain ⟨id', blockHeight, callbacks, values⟩ := given
      obtain ⟨⟨events', dispatches'⟩, -, -, are_events⟩ := delivery_parts delivers
      rw [dispatches] at dispatches'
      cases dispatches'
      refine ⟨_, _, _, delivers, job, member, here, at_height, ?_⟩
      rw [settle_frame, delivers] at member
      have value := (mem_freshJobs (invoked_executeCallbacks ▸ member)).2
      exact (eventKey_eq_content faithful (are_events dicts _ value) event).mpr ⟨rfl, same⟩
  · rintro ⟨blockHeight, callbacks, values, delivers, job, member, here, at_height, key⟩
    obtain ⟨⟨events, dispatches⟩, -, -, are_events⟩ := delivery_parts delivers
    have value : job.event ∈ values := by
      rw [settle_frame, delivers] at member
      exact (mem_freshJobs (invoked_executeCallbacks ▸ member)).2
    obtain ⟨rfl, same⟩ := (eventKey_eq_content faithful (are_events dicts _ value) event).mp key
    exact ⟨⟨events, dispatches⟩, job, member, here, at_height, same⟩

/-- An earlier frame of the run handed the content to a callback of the id, and the
interval since then includes `now`. -/
def HandedWithin (client : AlloraWebsocketSubscriber) (steps : List SessionStep) (id : String) (height : Option ℤ)
    (content : EventValue) (now : ℕ) : Prop :=
  ∃ before data rest callback, steps = before ++ .frame data :: rest ∧
    Hands client (client.after .start before) data id height content callback ∧
    now ≤ (client.after .start before).clock + client.dedupeTtl

/-- What is recorded was handed on by a frame of the run. -/
theorem invoked_of_recorded {time : ℕ} (recorded : Recorded (client.after .start steps) id key time) :
    ∃ before data rest callback, steps = before ++ .frame data :: rest ∧
      Invokes client (client.after .start before) data id key callback ∧ (client.after .start before).clock = time := by
  induction steps using List.reverseRecOn with
  | nil =>
    obtain ⟨keys, found, -⟩ := recorded
    cases found
  | append_singleton steps step ih =>
    have extend : Recorded (client.after .start steps) id key time → ∃ before data rest callback,
        steps ++ [step] = before ++ .frame data :: rest ∧
          Invokes client (client.after .start before) data id key callback ∧
          (client.after .start before).clock = time := by
      intro earlier
      obtain ⟨before, data, rest, callback, split, invokes, clock⟩ := ih earlier
      exact ⟨before, data, rest ++ [step], callback, by simp [split], invokes, clock⟩
    rw [after_snoc] at recorded
    rcases delivers_or_not client (client.after .start steps) id step with
      ⟨data, ⟨blockHeight, callbacks, values⟩, rfl, delivers⟩ | other
    · rcases (recorded_frame delivers).mp recorded with ⟨earlier, -⟩ | ⟨rfl, among, fresh⟩
      · exact extend earlier
      · obtain ⟨-, -, some_callback, -⟩ := delivery_parts delivers
        obtain ⟨callback, others, rfl⟩ := List.exists_cons_of_ne_nil some_callback
        exact ⟨steps, data, [], callback, rfl, (invokes_iff delivers (.head _)).mpr ⟨among, fresh⟩, rfl⟩
    · exact extend ((recorded_other other).mp recorded)

/-- The dedupe remembers exactly what was handed on within its interval. -/
theorem recent_iff_handed (faithful : FaithfulText client.classes)
    (dicts : ∀ data, SessionStep.frame data ∈ steps → DictEvents data) (event : IsEvent client.classes content) :
    Recent client (client.after .start steps) id (eventKey client.classes height content) ↔
      HandedWithin client steps id height content (client.after .start steps).clock := by
  rw [recent_iff_recorded]
  constructor
  · rintro ⟨time, recorded, fresh⟩
    obtain ⟨before, data, rest, callback, rfl, invokes, rfl⟩ := invoked_of_recorded recorded
    exact ⟨before, data, rest, callback, rfl, (hands_iff_invokes faithful (dicts data (by simp)) event).mpr invokes, fresh⟩
  · rintro ⟨before, data, rest, callback, rfl, hands, fresh⟩
    have invokes := (hands_iff_invokes faithful (dicts data (by simp)) event).mp hands
    rw [after_append] at fresh ⊢
    exact ⟨_, (recorded_of_invokes invokes).after fresh, fresh⟩

end History

end AlloraSdk.Guarantees
