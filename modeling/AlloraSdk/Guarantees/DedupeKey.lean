import AlloraSdk.Source.Utils.JsonText
import AlloraSdk.Source.Events.Subscriptions

/-!
# The key of an event is its content

`_event_key` writes an event with `json.dumps(e, sort_keys=True)`. The text is
read back as the same value with its members in order, so that two events of a
block have one key exactly when they have one content, and of each content a
subscription is handed one event.
-/

namespace AlloraSdk.Guarantees
open AlloraSdk.Source.Utils AlloraSdk.Source.Events

/-! ## The text -/

/-- What is dumped is loaded back, up to the order of members; whatever order they
have, the text is one. -/
theorem loads_dumps {value : Json} (loadable : value.Loadable) : ∃ text, value.dumps = some text ∧
    Json.loads text = some value.canonical ∧ value.canonical.dumps = some text := by
  have read := Json.loads_chars loadable
  refine ⟨value.render, Json.dumps_of_loadable loadable, read, ?_⟩
  rw [Json.dumps_of_loadable (Json.loadable_of_loads read), Json.render_canonical]

theorem loads_dumps_sample : ∃ text,
    (Json.obj [("type", .str "a\"\n😀"), ("n", .arr [.int (-12), .null, .bool true])]).dumps = some text ∧
      Json.loads text = some (.obj [("n", .arr [.int (-12), .null, .bool true]), ("type", .str "a\"\n😀")]) := by
  have loadable : (Json.obj [("type", .str "a\"\n😀"), ("n", .arr [.int (-12), .null, .bool true])]).Loadable := by
    refine ⟨by decide, trivial, ⟨?_, trivial, trivial, trivial⟩, trivial⟩
    change numDigits 12 ≤ maxStrDigits
    decide
  obtain ⟨text, written, read, -⟩ := loads_dumps loadable
  exact ⟨text, written, read⟩

/-! ## The key -/

section Key

variable {classes : EventClasses} {height height' : Option ℤ} {fields fields' : List (String × Json)}

/-- The block height in front of a key. -/
def heightText : Option ℤ → List Char
  | none => "None".toList
  | some height => Json.intChars height

theorem eventKey_chars (event : EventValue) :
    (eventKey classes height event).toList = heightText height ++ ':' :: (contentKey classes event).toList := by
  cases height with
  | none => simp [eventKey, heightText]
  | some height =>
    simp only [eventKey, heightText, String.toList_append, Json.toString_int, List.append_assoc]
    rfl

theorem mem_intChars {value : ℤ} {c : Char} (member : c ∈ Json.intChars value) : c = '-' ∨ c.isDigit = true := by
  unfold Json.intChars at member
  split at member
  · rcases List.mem_cons.mp member with minus | listed
    · exact .inl minus
    · exact .inr (digits_toDigits value.natAbs c listed)
  · exact .inr (digits_toDigits value.natAbs c member)

theorem heightText_none : heightText none = ['N', 'o', 'n', 'e'] := rfl

theorem heightText_no_colon : ∀ c ∈ heightText height, (c != ':') = true := by
  cases height with
  | none => simp [heightText_none]
  | some height =>
    intro c member
    rw [bne_iff_ne]
    rintro rfl
    rcases mem_intChars member with minus | digit
    · cases minus
    · cases digit

theorem heightText_some_ne_none (value : ℤ) : heightText (some value) ≠ heightText none := by
  intro same
  have member : 'N' ∈ heightText (some value) := by
    simp [same, heightText_none]
  rcases mem_intChars member with minus | digit
  · cases minus
  · cases digit

theorem intChars_injective {a b : ℤ} (same : Json.intChars a = Json.intChars b) : a = b := by
  have unsigned : ∀ n : ℕ, (Nat.toDigits 10 n).head? ≠ some '-' := by
    intro n minus
    cases digits_toDigits n '-' (List.mem_of_head? minus)
  have values : ∀ m n : ℕ, Nat.toDigits 10 m = Nat.toDigits 10 n → m = n := by
    intro m n digits
    have read := digitsValue_toDigits m
    rw [digits, digitsValue_toDigits] at read
    exact (Option.some.inj read).symm
  unfold Json.intChars at same
  split at same
  · split at same
    · have equal := values _ _ (List.cons_eq_cons.mp same).2
      omega
    · exact (unsigned _ (by rw [← same]; rfl)).elim
  · split at same
    · exact (unsigned _ (by rw [same]; rfl)).elim
    · have equal := values _ _ same
      omega

theorem heightText_injective (same : heightText height = heightText height') : height = height' := by
  cases height with
  | none =>
    cases height' with
    | none => rfl
    | some value => exact (heightText_some_ne_none value same.symm).elim
  | some value =>
    cases height' with
    | none => exact (heightText_some_ne_none value same).elim
    | some value' => rw [intChars_injective same]

/-- The height is read off the front of a key. -/
theorem eventKey_parts {event event' : EventValue} :
    eventKey classes height event = eventKey classes height' event' ↔
      height = height' ∧ contentKey classes event = contentKey classes event' := by
  rw [← String.toList_inj, eventKey_chars, eventKey_chars]
  constructor
  · intro same
    have first := congrArg (List.takeWhile (· != ':')) same
    rw [takeWhile_append_stop heightText_no_colon rfl, takeWhile_append_stop heightText_no_colon rfl] at first
    refine ⟨heightText_injective first, ?_⟩
    rw [first] at same
    exact String.toList_inj.mp (List.cons_eq_cons.mp (List.append_cancel_left same)).2
  · rintro ⟨rfl, same⟩
    rw [same]

theorem contentKey_dict (loadable : (Json.obj fields).Loadable) :
    contentKey classes (.json (.obj fields)) = (Json.obj fields).render := by
  rw [contentKey, Json.dumps_of_loadable loadable]
  rfl

/-- Two events have one key exactly when they have one height and one content. -/
theorem eventKey_eq_iff (loadable : (Json.obj fields).Loadable) (loadable' : (Json.obj fields').Loadable) :
    eventKey classes height (.json (.obj fields)) = eventKey classes height' (.json (.obj fields')) ↔
      height = height' ∧ (Json.obj fields).canonical = (Json.obj fields').canonical := by
  rw [eventKey_parts, contentKey_dict loadable, contentKey_dict loadable']
  exact and_congr_right fun _ => Json.render_eq_iff loadable loadable'

/-- Without typed events. -/
def dictsOnly : EventClasses where
  eventMap := []
  annotations _ := []
  construct _ _ := none
  str message := message.cls.name
  parseOther _ _ := none
  compareOther _ _ _ _ := false
  strOf := Json.render

theorem short_one : numDigits 1 ≤ maxStrDigits := by decide

theorem eventKey_eq_iff_sample :
    eventKey dictsOnly (some 7) (.json (.obj [("a", .int 1), ("b", .null)])) =
      eventKey dictsOnly (some 7) (.json (.obj [("b", .null), ("a", .int 1)])) :=
  (eventKey_eq_iff (by simp [Json.Loadable, Json.LoadableFields, short_one])
    (by simp [Json.Loadable, Json.LoadableFields, short_one])).mpr ⟨rfl, by decide +kernel⟩

/-- An event with the content of a dict. -/
def hasContent (content : Json) : EventValue → Bool
  | .json event => event.canonical = content.canonical
  | .message _ => false

/-- Of the events of one frame, a subscription is handed exactly one of each
content that it was not handed lately, and none of the others. -/
theorem one_event_of_each_content {now : ℕ} {recent : PyDict ℕ} {events : List (List (String × Json))}
    (loadable : ∀ event ∈ events, (Json.obj event).Loadable) (member : fields ∈ events) :
    (uniqueEvents (eventKey classes height) now recent (events.map fun event => .json (.obj event))).2.countP
        (hasContent (.obj fields)) =
      if eventKey classes height (.json (.obj fields)) ∈ recent.keys then 0 else 1 := by
  have counted := @countP_uniqueEvents (eventKey classes height) now recent
    (events.map fun event => .json (.obj event)) (eventKey classes height (.json (.obj fields)))
  have same : ∀ kept ∈ (uniqueEvents (eventKey classes height) now recent
      (events.map fun event => .json (.obj event))).2,
      (decide (eventKey classes height kept = eventKey classes height (.json (.obj fields))) = true ↔
        hasContent (.obj fields) kept = true) := by
    intro kept listed
    obtain ⟨event, of_frame, rfl⟩ := List.mem_map.mp (mem_uniqueEvents listed)
    have contents := Json.render_eq_iff (loadable event of_frame) (loadable fields member)
    simp only [decide_eq_true_iff, eventKey_parts, true_and, contentKey_dict (loadable event of_frame),
      contentKey_dict (loadable fields member), contents, hasContent]
  have listed : eventKey classes height (.json (.obj fields)) ∈
      (events.map fun event => (.json (.obj event) : EventValue)).map (eventKey classes height) :=
    List.mem_map_of_mem (List.mem_map_of_mem member)
  rw [← List.countP_congr same, counted]
  by_cases seen : eventKey classes height (.json (.obj fields)) ∈ recent.keys
  · simp [seen]
  · simp only [seen, not_false_iff, listed, and_self, if_true, if_false]

theorem one_event_of_each_content_sample :
    (uniqueEvents (eventKey dictsOnly (some 7)) 0 .empty
        [.json (.obj [("a", .int 1), ("b", .null)]), .json (.obj [("b", .null), ("a", .int 1)])]).2.countP
      (hasContent (.obj [("a", .int 1), ("b", .null)])) = 1 := by
  have loadable : ∀ event ∈ [[("a", Json.int 1), ("b", .null)], [("b", .null), ("a", .int 1)]],
      (Json.obj event).Loadable := by
    simp [Json.Loadable, Json.LoadableFields, short_one]
  exact (one_event_of_each_content loadable (List.mem_cons_self ..)).trans (if_neg fun member => by cases member)

end Key

end AlloraSdk.Guarantees
