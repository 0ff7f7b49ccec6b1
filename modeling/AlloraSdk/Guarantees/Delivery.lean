import Mathlib.Data.List.ReduceOption
import Mathlib.Data.List.ReduceOption
import AlloraSdk.Logic.Tasks
import AlloraSdk.Guarantees.DedupeHistory

/-!
# What a NewBlockEvents frame delivers

Every callback of the subscription is invoked once for each content among the
matching events of the frame, unless that content was delivered at the same
height within the dedupe interval. Events of equal content are one delivery.
-/

namespace AlloraSdk.Guarantees
open AlloraSdk.Logic AlloraSdk.Source.Utils AlloraSdk.Source.Events

structure WellFormedAttribute (attr : Json) : Prop where
  key : ∃ text, attr.get "key" = some (some (.str text))
  value : ∃ text, attr.get "value" = some (some (.str text))

/-- An ABCI event; empty attributes may be left out. -/
structure WellFormedEvent (event : Json) : Prop where
  type : ∃ text, event.get "type" = some (some (.str text)) ∧ text ≠ ""
  attributes : event.get "attributes" = some none ∨
    ∃ attributes, event.get "attributes" = some (some (.arr attributes)) ∧ ∀ attr ∈ attributes, WellFormedAttribute attr

/-- A NewBlockEvents frame for the subscription `id`. -/
structure NewBlockEventsFrame (data : Json) (id : String) (height : ℤ) (events : List Json) : Prop where
  jsonrpc : ∃ version, data.get "jsonrpc" = some (some (.str version))
  ident : data.get "id" = some (some (.str id))
  answer : ∃ error, data.get "error" = some error
  content : ∃ result query inner value heightText,
    data.get "result" = some (some result) ∧ result.get "query" = some (some (.str query)) ∧
    result.get "data" = some (some inner) ∧
    inner.get "type" = some (some (.str "tendermint/event/NewBlockEvents")) ∧
    inner.get "value" = some (some value) ∧ value.get "height" = some (some (.str heightText)) ∧
    pyInt heightText.toList = some height ∧ value.get "events" = some (some (.arr events))
  /-- As `json.loads` returns them. -/
  loadable : ∀ event ∈ events, event.Loadable
  events : ∀ event ∈ events, WellFormedEvent event

/-- An event matches a subscription as `value`: by name and conditions, and for a
typed subscription as the message that it is. -/
def Matches (classes : EventClasses) (subscriptionType : SubscriptionType) (event : Json) (value : EventValue) :
    Prop :=
  match subscriptionType with
  | .tendermintQuery => value = .json event
  | .newBlockEvents eventName conditions =>
    event.get "type" = some (some (.str eventName)) ∧
      eventMatchesConditionsUntyped classes event eventName conditions = some true ∧ value = .json event
  | .typedNewBlockEvents eventName eventClass conditions =>
    event.get "type" = some (some (.str eventName)) ∧ ∃ message, classes.marshalEvent event = some (some message) ∧
      eventMatchesConditionsTyped classes message eventClass conditions = some true ∧ value = .message message

/-- On fields of integers, no condition of the subscription compares a digit text
that `int` refuses. -/
def Comparable (classes : EventClasses) (subscriptionType : SubscriptionType) (events : List Json) : Prop :=
  match subscriptionType with
  | .tendermintQuery => True
  | .newBlockEvents eventName conditions => ∀ cond ∈ conditions, cond.operator ≠ .exists → ∀ type,
    (classes.getEventClass eventName).bind (fun cls => classes.fieldType cls cond.attributeName) = some type →
    Convertible type cond.value ∧
      ∀ event ∈ events, event.get "type" = some (some (.str eventName)) →
        ∀ texts, valuesOf event cond.attributeName = some texts → ∀ text, some text ∈ texts → Convertible type text
  | .typedNewBlockEvents _ eventClass conditions => ∀ cond ∈ conditions, cond.operator ≠ .exists → ∀ type,
    classes.fieldType eventClass cond.attributeName = some type → Convertible type cond.value

/-- An id is never empty: `subscribe` replaces an empty one. -/
structure ActiveSubscription (s : SubscriberState) (id : String) (info : SubscriptionInfo)
    (callbacks : List Callback) : Prop where
  named : id ≠ ""
  registered : s.subscriptions.get? id = some info
  active : info.active = true
  callbacks : s.callbacks.get? id = some callbacks

section Matching

variable {α β : Type}

theorem keepM_total (test : α → Option Bool) {xs : List α} (total : ∀ x ∈ xs, (test x).isSome) :
    ∃ ys, keepM test xs = some ys ∧ ∀ y, y ∈ ys ↔ y ∈ xs ∧ test y = some true := by
  induction xs with
  | nil => exact ⟨[], rfl, by simp⟩
  | cons x rest ih =>
    obtain ⟨kept, tested⟩ := Option.isSome_iff_exists.mp (total x (.head _))
    obtain ⟨others, found, members⟩ := ih fun y member => total y (.tail _ member)
    refine ⟨if kept then x :: others else others, by simp [keepM, tested, found], fun y => ?_⟩
    cases kept with
    | true =>
      rw [if_pos rfl, List.mem_cons, List.mem_cons, members]
      by_cases same : y = x
      · simp [same, tested]
      · simp [same]
    | false =>
      rw [if_neg Bool.false_ne_true, members, List.mem_cons]
      by_cases same : y = x
      · simp [same, tested]
      · simp [same]

theorem keepM_all (xs : List α) : keepM (fun _ => some true) xs = some xs := by
  induction xs with
  | nil => rfl
  | cons x rest ih => simp [keepM, ih]

theorem mapM_total (f : α → Option β) (xs : List α) (total : ∀ x ∈ xs, (f x).isSome) :
    ∃ ys, xs.mapM f = some ys ∧ ∀ y, y ∈ ys ↔ ∃ x ∈ xs, f x = some y := by
  induction xs with
  | nil => exact ⟨[], rfl, by simp⟩
  | cons x rest ih =>
    obtain ⟨y, value⟩ := Option.isSome_iff_exists.mp (total x (.head _))
    obtain ⟨others, found, members⟩ := ih fun z member => total z (.tail _ member)
    refine ⟨y :: others, by simp [value, found], fun z => ?_⟩
    rw [List.mem_cons, members]
    simp [value, eq_comm]

variable {classes : EventClasses} {events : List Json} {event : Json}

theorem typeIs_iff (formed : WellFormedEvent event) {eventName : String} :
    (typeIs eventName event).isSome ∧
      (typeIs eventName event = some true ↔ event.get "type" = some (some (.str eventName))) := by
  obtain ⟨⟨text, type, -⟩, -⟩ := formed
  simp [typeIs, type]

theorem valuesOf_isSome (formed : WellFormedEvent event) (key : String) : (valuesOf event key).isSome := by
  rcases formed.attributes with missing | ⟨attributes, found, each⟩
  · simp [valuesOf, missing]
  · obtain ⟨values, read, -⟩ := mapM_total (valueUnder key) attributes (by
      intro attr member
      obtain ⟨⟨name, named⟩, ⟨text, valued⟩⟩ := each attr member
      simp [valueUnder, named, valued])
    cases attributes with
    | nil => simp [valuesOf, found, Json.truthy]
    | cons first rest => simp [valuesOf, found, Json.truthy, Json.items, read]

theorem allM_isSome {test : α → Option Bool} {xs : List α} (total : ∀ x ∈ xs, (test x).isSome) :
    (allM test xs).isSome := by
  induction xs with
  | nil => rfl
  | cons x rest ih =>
    obtain ⟨met, tested⟩ := Option.isSome_iff_exists.mp (total x (.head _))
    cases met with
    | true => simpa [allM, tested] using ih fun y member => total y (.tail _ member)
    | false => simp [allM, tested]

theorem coerceToField_none_isSome (type : FieldType) : (coerceToField type none).isSome := by
  induction type with
  | list elem ih => simpa [coerceToField] using ih
  | _ => rfl

theorem coerce_isSome (expected : Option FieldType) (value : Option String)
    (converts : ∀ type text, expected = some type → value = some text → Convertible type text) :
    (coerceValueToType expected value).isSome := by
  cases expected with
  | none => rfl
  | some type =>
    cases value with
    | none => exact coerceToField_none_isSome type
    | some text => exact coerce_isSome_iff.mpr (converts type text rfl rfl)

theorem meetsUntyped_isSome (formed : WellFormedEvent event) {eventName : String} {cond : EventAttributeCondition}
    (comparable : cond.operator ≠ .exists → ∀ type,
      (classes.getEventClass eventName).bind (fun cls => classes.fieldType cls cond.attributeName) = some type →
      Convertible type cond.value ∧
        ∀ texts, valuesOf event cond.attributeName = some texts → ∀ text, some text ∈ texts → Convertible type text) :
    (meetsUntyped classes event eventName cond).isSome := by
  obtain ⟨values, found⟩ := Option.isSome_iff_exists.mp (valuesOf_isSome formed cond.attributeName)
  simp only [meetsUntyped, found, Option.bind_eq_bind, Option.bind_some]
  split
  · rfl
  split
  · rfl
  rename_i asks
  have converts := comparable asks
  split
  · rfl
  obtain ⟨coerced, lefts, -⟩ := mapM_total (coerceValueToType ((classes.getEventClass eventName).bind fun cls =>
      classes.fieldType cls cond.attributeName)) values (by
    intro raw member
    refine coerce_isSome _ _ fun type text same known => ?_
    exact (converts type same).2 values found text (known ▸ member))
  obtain ⟨right, value⟩ := Option.isSome_iff_exists.mp (coerce_isSome
    ((classes.getEventClass eventName).bind fun cls => classes.fieldType cls cond.attributeName) (some cond.value)
    fun type text same known => Option.some.inj known ▸ (converts type same).1)
  rw [lefts, value]
  rfl

theorem meetsTyped_isSome {message : Message} {cls : MessageClass} {cond : EventAttributeCondition}
    (comparable : cond.operator ≠ .exists → ∀ type, classes.fieldType cls cond.attributeName = some type →
      Convertible type cond.value) : (meetsTyped classes message cls cond).isSome := by
  simp only [meetsTyped]
  split
  · rfl
  rename_i asks
  split
  · rfl
  rw [Option.isSome_map]
  exact coerce_isSome _ _ fun type text same known => Option.some.inj known ▸ comparable asks type same

theorem foldlM_isSome {f : β → α → Option β} {xs : List α} (total : ∀ x ∈ xs, ∀ acc, (f acc x).isSome) (acc : β) :
    (xs.foldlM f acc).isSome := by
  induction xs generalizing acc with
  | nil => rfl
  | cons x rest ih =>
    obtain ⟨next, value⟩ := Option.isSome_iff_exists.mp (total x (.head _) acc)
    rw [List.foldlM_cons, value]
    exact ih (fun y member => total y (.tail _ member)) next

theorem parseAttribute_isSome {attr : Json} (formed : WellFormedAttribute attr) (cls : MessageClass)
    (fields : List (String × Json)) : (classes.parseAttribute cls fields attr).isSome := by
  obtain ⟨⟨key, named⟩, ⟨value, valued⟩⟩ := formed
  simp only [EventClasses.parseAttribute, named, valued, Option.bind_eq_bind, Option.bind_some]
  split
  · rfl
  · split <;> rfl

theorem marshalEvent_isSome (formed : WellFormedEvent event) : (classes.marshalEvent event).isSome := by
  obtain ⟨⟨text, type, -⟩, attributes⟩ := formed
  simp only [EventClasses.marshalEvent, type, Option.bind_eq_bind, Option.bind_some]
  split
  · rfl
  · rename_i cls _
    rcases attributes with missing | ⟨attributes, found, each⟩
    · simp [missing, Json.items]
    · obtain ⟨fields, parsed⟩ := Option.isSome_iff_exists.mp (foldlM_isSome (f := classes.parseAttribute cls)
        (fun attr member acc => parseAttribute_isSome (each attr member) cls acc) [])
      simp [found, Json.items, parsed]

theorem type_ne_empty (formed : WellFormedEvent event) : event.get "type" ≠ some (some (.str "")) := by
  obtain ⟨⟨text, type, filled⟩, -⟩ := formed
  intro unnamed
  rw [type] at unnamed
  cases unnamed
  exact filled rfl

/-- The events of a type are found without an exception. -/
theorem namedEvents_total (formed : ∀ event ∈ events, WellFormedEvent event) (eventName : String) :
    ∃ named, keepM (typeIs eventName) events = some named ∧
      ∀ event, event ∈ named ↔ event ∈ events ∧ event.get "type" = some (some (.str eventName)) := by
  obtain ⟨named, found, members⟩ := keepM_total (typeIs eventName) fun event member =>
    (typeIs_iff (formed event member)).1
  refine ⟨named, found, fun event => ?_⟩
  rw [members]
  exact and_congr_right fun member => (typeIs_iff (formed event member)).2

/-- The handlers pass nothing on for an empty event name, and nothing matches it. -/
theorem not_exists_unnamed (formed : ∀ event ∈ events, WellFormedEvent event) {P : Json → Prop} :
    ¬ ∃ event ∈ events, event.get "type" = some (some (.str "")) ∧ P event := by
  rintro ⟨event, member, unnamed, -⟩
  exact type_ne_empty (formed event member) unnamed

/-- On well-formed events that it can compare no handler raises, and each passes on
what matches. -/
theorem selectEvents_total (formed : ∀ event ∈ events, WellFormedEvent event)
    {subscriptionType : SubscriptionType} (comparable : Comparable classes subscriptionType events) :
    ∃ values, selectEvents classes subscriptionType events = some values ∧
      ∀ value, value ∈ values ↔ ∃ event ∈ events, Matches classes subscriptionType event value := by
  cases subscriptionType with
  | tendermintQuery =>
    refine ⟨_, rfl, fun value => ?_⟩
    simp [Matches, eq_comm]
  | newBlockEvents eventName conditions =>
    by_cases empty : eventName = ""
    · subst empty
      exact ⟨[], by simp [selectEvents], fun value => iff_of_false List.not_mem_nil (not_exists_unnamed formed)⟩
    · obtain ⟨named, found, members⟩ := namedEvents_total formed eventName
      obtain ⟨matching, kept, meeting⟩ := keepM_total
        (fun event => eventMatchesConditionsUntyped classes event eventName conditions) fun event member =>
        allM_isSome fun cond listed => by
          obtain ⟨among, typed⟩ := (members event).mp member
          refine meetsUntyped_isSome (formed event among) fun asks type expected => ?_
          obtain ⟨right, lefts⟩ := comparable cond listed asks type expected
          exact ⟨right, lefts event among typed⟩
      refine ⟨matching.map .json, ?_, fun value => ?_⟩
      · cases conditions with
        | nil =>
          have all : some named = some matching := (keepM_all named).symm.trans kept
          simp [selectEvents, empty, found, Option.some.inj all]
        | cons first rest => simp [selectEvents, empty, found, kept]
      · simp only [List.mem_map, meeting, members, Matches]
        constructor
        · rintro ⟨event, ⟨⟨member, named⟩, met⟩, rfl⟩
          exact ⟨event, member, named, met, rfl⟩
        · rintro ⟨event, member, named, met, rfl⟩
          exact ⟨event, ⟨⟨member, named⟩, met⟩, rfl⟩
  | typedNewBlockEvents eventName eventClass conditions =>
    by_cases empty : eventName = ""
    · subst empty
      exact ⟨[], by simp [selectEvents], fun value => iff_of_false List.not_mem_nil (not_exists_unnamed formed)⟩
    · obtain ⟨named, found, members⟩ := namedEvents_total formed eventName
      obtain ⟨marshaled, parsed, images⟩ := mapM_total classes.marshalEvent named fun event member =>
        marshalEvent_isSome (formed event ((members event).mp member).1)
      obtain ⟨matching, kept, meeting⟩ := keepM_total
        (fun message => eventMatchesConditionsTyped classes message eventClass conditions)
        fun message (_ : message ∈ marshaled.reduceOption) =>
        allM_isSome fun cond listed => meetsTyped_isSome (comparable cond listed)
      refine ⟨matching.map .message, by simp [selectEvents, empty, found, parsed, kept], fun value => ?_⟩
      simp only [List.mem_map, meeting, List.reduceOption_mem_iff, images, members, Matches]
      constructor
      · rintro ⟨message, ⟨⟨event, ⟨member, named⟩, parsed⟩, met⟩, rfl⟩
        exact ⟨event, member, named, message, parsed, met, rfl⟩
      · rintro ⟨event, member, named, message, parsed, met, rfl⟩
        exact ⟨message, ⟨⟨event, ⟨member, named⟩, parsed⟩, met⟩, rfl⟩

end Matching

section Frame

variable {data : Json} {id : String} {height : ℤ} {events : List Json}

theorem get_eq_some {value : Json} {key : String} {found : Option Json} :
    value.get key = some found ↔ ∃ fields, value = .obj fields ∧ fields.lookup key = found := by
  cases value <;> simp [Json.get]

theorem readFrame_newBlockEvents (frame : NewBlockEventsFrame data id height events) :
    readFrame data = some (.events (some (.str id)) (.arr events) (some height)) := by
  obtain ⟨⟨version, jsonrpc⟩, ident, ⟨error, answer⟩, content, -, -⟩ := frame
  obtain ⟨result, query, inner, value, heightText, results, queried, data_in, typed, valued, heights, parsed,
    listed⟩ := content
  obtain ⟨fields, rfl, jsonrpc⟩ := get_eq_some.mp jsonrpc
  obtain ⟨fields₁, rfl, queried⟩ := get_eq_some.mp queried
  obtain ⟨fields₂, rfl, typed⟩ := get_eq_some.mp typed
  obtain ⟨fields₃, rfl, heights⟩ := get_eq_some.mp heights
  simp only [Json.get, Option.some.injEq] at ident answer results data_in valued listed
  have filled : heightText ≠ "" := by
    rintro rfl
    rw [show pyInt "".toList = none by decide] at parsed
    cases parsed
  simp [readFrame, readEvents, resultData, validateResponse, newBlockEventsValue, Json.get, *]

end Frame

section Jobs

variable {client : AlloraWebsocketSubscriber} {s : SubscriberState} {id : String} {callbacks : List Callback}
  {values : List EventValue} {blockHeight : Option ℤ}

theorem invoked_dispatch {info : SubscriptionInfo} {events : List Json}
    (subscription : ActiveSubscription s id info callbacks)
    (selected : selectEvents client.classes info.subscriptionType events = some values)
    (selected_nil : events = [] → values = []) :
    invoked ((client.dispatchToSubscription id (.arr events) blockHeight).settle s).1 =
      freshJobs client s id callbacks values blockHeight := by
  simp only [AlloraWebsocketSubscriber.dispatchToSubscription, Coroutine.settle, Json.items,
    subscription.registered, subscription.callbacks]
  cases events with
  | nil =>
    rw [selected_nil rfl, freshJobs_nil]
    rfl
  | cons event rest =>
    cases callbacks with
    | nil => rfl
    | cons callback others =>
      simp only [selected]
      cases values with
      | nil =>
        rw [freshJobs_nil]
        rfl
      | cons first matching => exact invoked_executeCallbacks

theorem invoked_handleMessage {info : SubscriptionInfo} {data : Json} {height : ℤ} {events : List Json}
    (subscription : ActiveSubscription s id info callbacks) (frame : NewBlockEventsFrame data id height events)
    (selected : selectEvents client.classes info.subscriptionType events = some values)
    (selected_nil : events = [] → values = []) :
    invoked ((client.handleMessage (some data)).settle s).1 =
      freshJobs client s id callbacks values (some height) := by
  simp only [AlloraWebsocketSubscriber.handleMessage, Option.bind_some, readFrame_newBlockEvents frame,
    AlloraWebsocketSubscriber.dispatchEvents, if_neg subscription.named, Coroutine.settle, subscription.registered,
    subscription.active, if_true]
  exact invoked_dispatch subscription selected selected_nil

end Jobs

/-- After the steps of a run, a frame invokes every callback of the subscription
once for each content among the matching events that no frame before it handed on
within the dedupe interval, and nothing else, at its height. -/
def DeliversEachContent (client : AlloraWebsocketSubscriber) (steps : List SessionStep) (id : String)
    (info : SubscriptionInfo) (callbacks : List Callback) (data : Json) (height : ℤ) (events : List Json) : Prop :=
  let s := client.after .start steps
  let jobs := invoked ((client.handleMessage (some data)).settle s).1
  (∀ job ∈ jobs, job.blockHeight = some height ∧
    ∃ event ∈ events, Matches client.classes info.subscriptionType event job.event) ∧
  ∀ event ∈ events, ∀ value, Matches client.classes info.subscriptionType event value →
    (HandedWithin client steps id (some height) value s.clock → ∀ job ∈ jobs, sameContent job.event value = false) ∧
    (¬ HandedWithin client steps id (some height) value s.clock → ∀ callback,
      jobs.countP (fun job => job.callback = callback ∧ sameContent job.event value = true) = callbacks.count callback)

theorem dict_of_formed {event : Json} (formed : WellFormedEvent event) : ∃ fields, event = .obj fields := by
  obtain ⟨text, typed, -⟩ := formed.type
  obtain ⟨fields, same, -⟩ := get_eq_some.mp typed
  exact ⟨fields, same⟩

theorem delivers_each_content_once {client : AlloraWebsocketSubscriber} {steps : List SessionStep} {id : String}
    {info : SubscriptionInfo} {callbacks : List Callback} {data : Json} {height : ℤ} {events : List Json}
    (faithful : FaithfulText client.classes) (dicts : ∀ earlier, SessionStep.frame earlier ∈ steps → DictEvents earlier)
    (subscription : ActiveSubscription (client.after .start steps) id info callbacks)
    (frame : NewBlockEventsFrame data id height events)
    (comparable : Comparable client.classes info.subscriptionType events) :
    DeliversEachContent client steps id info callbacks data height events := by
  obtain ⟨values, selected, members⟩ := selectEvents_total frame.events comparable
  have are_events : ∀ value ∈ values, IsEvent client.classes value :=
    selected_events selected fun event member =>
      ⟨dict_of_formed (frame.events event member), frame.loadable event member⟩
  have selected_nil : events = [] → values = [] := by
    rintro rfl
    refine List.eq_nil_iff_forall_not_mem.mpr fun value member => ?_
    obtain ⟨event, inside, -⟩ := (members value).mp member
    cases inside
  unfold DeliversEachContent
  dsimp only
  rw [invoked_handleMessage subscription frame selected selected_nil]
  constructor
  · intro job member
    obtain ⟨same, selected⟩ := mem_freshJobs member
    exact ⟨same, (members _).mp selected⟩
  · intro event member value meets
    have among : value ∈ values := (members value).mpr ⟨event, member, meets⟩
    have contents : ∀ job ∈ freshJobs client (client.after .start steps) id callbacks values (some height),
        (eventKey client.classes (some height) job.event = eventKey client.classes (some height) value ↔
          sameContent job.event value = true) := fun job listed =>
      (eventKey_eq_content faithful (are_events _ (mem_freshJobs listed).2) (are_events _ among)).trans
        (and_iff_right rfl)
    rw [← recent_iff_handed faithful dicts (are_events _ among)]
    constructor
    · intro recent job listed
      have counted := @countP_freshJobs client (client.after .start steps) id callbacks values (some height)
        job.callback (eventKey client.classes (some height) value)
      rw [if_neg (fun fresh => fresh.1 recent), Nat.mul_zero, List.countP_eq_zero] at counted
      have other := counted job listed
      simp only [decide_eq_true_eq, true_and, contents job listed] at other
      exact Bool.eq_false_iff.mpr other
    · intro fresh callback
      have counted := @countP_freshJobs client (client.after .start steps) id callbacks values (some height)
        callback (eventKey client.classes (some height) value)
      rw [if_pos ⟨fresh, List.mem_map_of_mem among⟩, Nat.mul_one] at counted
      rw [← counted]
      refine List.countP_congr fun job listed => ?_
      simp only [decide_eq_true_eq, contents job listed]

/-! ## Two events of equal content -/

/-- No class is registered. -/
def untyped : EventClasses where
  eventMap := []
  annotations := fun _ => []
  construct := fun cls fields => some ⟨cls, fields⟩
  str := fun message => message.cls.name
  parseOther := fun _ _ => none
  compareOther := fun _ _ _ _ => false
  strOf := Json.render

def listener : AlloraWebsocketSubscriber where
  eventRecvTimeout := 30000000
  maxEventSilence := some 60000000
  heartbeat := true
  reconnectDelay := 5000000
  dedupeTtl := 60000000
  classes := untyped
  receives := by decide
  patient := by simp

/-- A subscribe call for every event, and the server's confirmation. -/
def subscribing (callback : Callback) : List SessionStep :=
  [.subscribe "sub_" (some "sub_1") "tm.event='NewBlockEvents'" .tendermintQuery callback,
    .frame (some (.obj [("jsonrpc", .str "2.0"), ("id", .str "sub_1"), ("result", .obj [])]))]

def listening : List SessionStep := .connected :: subscribing 0

/-- The subscription of `listening`. -/
def everyEvent : SubscriptionInfo := ⟨"tm.event='NewBlockEvents'", .tendermintQuery, true, false⟩

def transfer (amount : String) : Json :=
  .obj [("type", .str "transfer"),
    ("attributes", .arr [.obj [("key", .str "amount"), ("value", .str amount)]])]

def blockFrame (events : List Json) : Json :=
  .obj [("jsonrpc", .str "2.0"), ("id", .str "sub_1"),
    ("result", .obj [("query", .str "tm.event='NewBlockEvents'"),
      ("data", .obj [("type", .str "tendermint/event/NewBlockEvents"),
        ("value", .obj [("height", .str "7"), ("events", .arr events)])])])]

theorem transfer_formed (amount : String) : WellFormedEvent (transfer amount) where
  type := ⟨"transfer", rfl, by decide⟩
  attributes := .inr ⟨_, rfl, fun attr member => by
    obtain rfl := List.mem_singleton.mp member
    exact ⟨⟨"amount", rfl⟩, ⟨amount, rfl⟩⟩⟩

theorem transfer_loadable (amount : String) : (transfer amount).Loadable := by
  simp [transfer, Json.Loadable, Json.LoadableFields, Json.LoadableItems]

theorem blockFrame_formed (amounts : List String) :
    NewBlockEventsFrame (blockFrame (amounts.map transfer)) "sub_1" 7 (amounts.map transfer) where
  jsonrpc := ⟨"2.0", rfl⟩
  ident := rfl
  answer := ⟨none, rfl⟩
  content := ⟨_, _, _, _, "7", rfl, rfl, rfl, rfl, rfl, rfl, by decide, rfl⟩
  loadable := by
    intro event member
    obtain ⟨amount, -, rfl⟩ := List.mem_map.mp member
    exact transfer_loadable amount
  events := by
    intro event member
    obtain ⟨amount, -, rfl⟩ := List.mem_map.mp member
    exact transfer_formed amount

theorem listening_active : ActiveSubscription (listener.after .start listening) "sub_1" everyEvent [0] where
  named := by decide
  registered := by decide +kernel
  active := rfl
  callbacks := by decide +kernel

/-- No event is marshalled. -/
theorem untyped_unmarshalled (event : Json) (message : Message) :
    untyped.marshalEvent event ≠ some (some message) := by
  intro marshalled
  obtain ⟨eventType, -, found⟩ := Option.bind_eq_some_iff.mp marshalled
  split at found
  · rename_i name
    have unregistered : (if name = "" then none else untyped.getEventClass name) = none := by
      split <;> rfl
    rw [unregistered] at found
    cases found
  · cases found

theorem untyped_faithful : FaithfulText untyped where
  tells := by
    rintro m m' ⟨event, marshalled⟩
    exact (untyped_unmarshalled event m marshalled).elim
  apart := by
    rintro m fields ⟨event, marshalled⟩
    exact (untyped_unmarshalled event m marshalled).elim

/-- The frames of `listening` carry no events. -/
theorem listening_dicts : ∀ data, SessionStep.frame data ∈ listening → DictEvents data := by
  intro data member id events blockHeight read
  simp only [listening, subscribing, List.mem_cons, SessionStep.frame.injEq, reduceCtorEq, List.not_mem_nil, or_false,
    false_or] at member
  subst member
  cases read

/-- A frame with the same transfer twice is handed on once, though nothing was
handed on before. -/
theorem equal_events_delivered_once :
    ActiveSubscription (listener.after .start listening) "sub_1" everyEvent [0] ∧
      NewBlockEventsFrame (blockFrame [transfer "5", transfer "5"]) "sub_1" 7 [transfer "5", transfer "5"] ∧
      (listener.after .start listening).recentEventKeys.keys = [] ∧
      invoked ((listener.handleMessage (some (blockFrame [transfer "5", transfer "5"]))).settle
        (listener.after .start listening)).1 = [⟨0, .json (transfer "5"), some 7⟩] :=
  ⟨listening_active, blockFrame_formed ["5", "5"], by decide +kernel, by decide +kernel⟩

theorem delivers_each_content_once_transfers :
    invoked ((listener.handleMessage (some (blockFrame [transfer "5", transfer "6"]))).settle
        (listener.after .start listening)).1 =
        [⟨0, .json (transfer "5"), some 7⟩, ⟨0, .json (transfer "6"), some 7⟩] ∧
      DeliversEachContent listener listening "sub_1" everyEvent [0] (blockFrame [transfer "5", transfer "6"]) 7
        [transfer "5", transfer "6"] :=
  ⟨by decide +kernel, delivers_each_content_once untyped_faithful listening_dicts listening_active
    (blockFrame_formed ["5", "6"]) trivial⟩

end AlloraSdk.Guarantees
