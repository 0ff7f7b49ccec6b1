import AlloraSdk.Guarantees.WindowLogLines

/-!
# The windows of the lifecycle visualizer

`create_windows` keys its open windows by type and nonce, without the topic, and
keeps one for each key. So what it pairs with a close event is the event before
it of the same type and nonce, of whatever topic, when that is an open
(`createWindows_eq`). It should be the latest open of the same topic, type and
nonce that no close has matched yet.
-/

namespace AlloraSdk.Guarantees
open AlloraSdk.Source.Tools

/-! ## Expected and actual starts -/

/-- `event` opens or closes a window with the type and nonce of `close`. -/
def marksKey (close event : WindowEvent) : Bool :=
  event.windowType == close.windowType && event.nonce == close.nonce &&
    (event.action == "opened" || event.action == "closed")

/-- The latest event before `close` with its type and nonce. -/
def previousMark (close : WindowEvent) (before : List WindowEvent) : Option WindowEvent :=
  (before.filter (marksKey close)).getLast?

/-- The opens of the topic, type and nonce of `close` that no close has matched,
the latest first: each close matches the latest. -/
def unmatchedOpens (close : WindowEvent) (before : List WindowEvent) : List WindowEvent :=
  before.foldl (fun opens event =>
    if marksKey close event = true ∧ event.topic = close.topic then
      if event.action = "opened" then event :: opens else opens.tail
    else opens) []

def expectedStart (close : WindowEvent) (before : List WindowEvent) : WindowEvent :=
  (unmatchedOpens close before).head?.getD close

/-- The previous event, when it is an open, and the close itself otherwise. -/
def pairedStart (close : WindowEvent) (before : List WindowEvent) : WindowEvent :=
  ((previousMark close before).filter fun previous => previous.action = "opened").getD close

def windowOf (start close : WindowEvent) : Window := start.openWindow.close close

/-- One window for each close event, with the start that `startOf` chooses. -/
def windowsBy (startOf : WindowEvent → List WindowEvent → WindowEvent) :
    List WindowEvent → List WindowEvent → List Window
  | _, [] => []
  | before, event :: rest =>
    if event.action = "closed" then
      windowOf (startOf event before) event :: windowsBy startOf (before ++ [event]) rest
    else windowsBy startOf (before ++ [event]) rest

def expectedWindows (events : List WindowEvent) : List Window := windowsBy expectedStart [] events

section Marks

variable {close event : WindowEvent} {before : List WindowEvent}

theorem marks_iff : marksKey close event = true ↔
    (event.windowType, event.nonce) = (close.windowType, close.nonce) ∧
      (event.action = "opened" ∨ event.action = "closed") := by
  simp [marksKey]

theorem previousMark_append : previousMark close (before ++ [event]) =
    if marksKey close event = true then some event else previousMark close before := by
  unfold previousMark
  by_cases marks : marksKey close event = true
  · simp [List.filter_append, marks]
  · simp [List.filter_append, marks]

theorem unmatchedOpens_append : unmatchedOpens close (before ++ [event]) =
    if marksKey close event = true ∧ event.topic = close.topic then
      if event.action = "opened" then event :: unmatchedOpens close before
      else (unmatchedOpens close before).tail
    else unmatchedOpens close before := by
  rw [unmatchedOpens, List.foldl_append]
  rfl

theorem previousMark_marks {previous : WindowEvent} (found : previousMark close before = some previous) :
    marksKey close previous = true :=
  (List.mem_filter.mp (List.mem_of_getLast? found)).2

theorem unmatchedOpens_marks {start : WindowEvent} (member : start ∈ unmatchedOpens close before) :
    marksKey close start = true := by
  induction before using List.reverseRecOn with
  | nil => simp [unmatchedOpens] at member
  | append_singleton before event ih =>
    rw [unmatchedOpens_append] at member
    split at member
    · rename_i own
      split at member
      · rcases List.mem_cons.mp member with rfl | earlier
        · exact own.1
        · exact ih earlier
      · exact ih (List.mem_of_mem_tail member)
    · exact ih member

theorem unmatchedOpens_of_unmarked (unmarked : previousMark close before = none) :
    unmatchedOpens close before = [] := by
  induction before using List.reverseRecOn with
  | nil => rfl
  | append_singleton before event ih =>
    rw [previousMark_append] at unmarked
    by_cases marks : marksKey close event = true
    · rw [if_pos marks] at unmarked
      cases unmarked
    · rw [if_neg marks] at unmarked
      rw [unmatchedOpens_append, if_neg fun own => marks own.1]
      exact ih unmarked

/-- An open of the same topic right before the close is its start. -/
theorem expectedStart_of_previous {previous : WindowEvent} (found : previousMark close before = some previous)
    (opened : previous.action = "opened") (topic : previous.topic = close.topic) :
    expectedStart close before = previous := by
  induction before using List.reverseRecOn with
  | nil => simp [previousMark] at found
  | append_singleton before event ih =>
    rw [previousMark_append] at found
    by_cases marks : marksKey close event = true
    · obtain rfl := Option.some.inj ((if_pos marks).symm.trans found)
      rw [expectedStart, unmatchedOpens_append, if_pos ⟨marks, topic⟩, if_pos opened]
      rfl
    · rw [if_neg marks] at found
      rw [expectedStart, unmatchedOpens_append, if_neg fun own => marks own.1]
      exact ih found

end Marks

/-! ## What create_windows computes -/

/-- The open window of a key comes from the latest event of the key. -/
def Tracks (before : List WindowEvent) (windows : Windows) : Prop :=
  ∀ close : WindowEvent, windows.openWindows.lookup (close.windowType, close.nonce) =
    ((previousMark close before).filter fun previous => previous.action = "opened").map WindowEvent.openWindow

section Create

variable {before rest : List WindowEvent} {event : WindowEvent} {windows : Windows}

theorem Tracks.empty : Tracks [] ⟨∅, []⟩ := fun _ => rfl

theorem read_lookup : (windows.read event).openWindows.lookup (event.windowType, event.nonce) =
    if event.action = "opened" then some event.openWindow
    else if event.action = "closed" then none
    else windows.openWindows.lookup (event.windowType, event.nonce) := by
  unfold Windows.read
  split
  · exact AList.lookup_insert _
  · split
    · dsimp only
      split
      · exact AList.lookup_erase _ _
      · assumption
    · rfl

theorem read_lookup_ne {key : String × ℤ} (other : key ≠ (event.windowType, event.nonce)) :
    (windows.read event).openWindows.lookup key = windows.openWindows.lookup key := by
  unfold Windows.read
  split
  · exact AList.lookup_insert_ne other
  · split
    · dsimp only
      split
      · exact AList.lookup_erase_ne other
      · rfl
    · rfl

theorem Tracks.read (tracks : Tracks before windows) : Tracks (before ++ [event]) (windows.read event) := by
  intro close
  rw [previousMark_append]
  by_cases same : (event.windowType, event.nonce) = (close.windowType, close.nonce)
  · rw [← same, read_lookup]
    by_cases opened : event.action = "opened"
    · rw [if_pos opened, if_pos (marks_iff.mpr ⟨same, .inl opened⟩)]
      simp [opened]
    · rw [if_neg opened]
      by_cases closed : event.action = "closed"
      · rw [if_pos closed, if_pos (marks_iff.mpr ⟨same, .inr closed⟩)]
        simp [opened]
      · have unmarked : ¬ marksKey close event = true := fun marks =>
          (marks_iff.mp marks).2.elim opened closed
        rw [if_neg closed, if_neg unmarked, same]
        exact tracks close
  · have unmarked : ¬ marksKey close event = true := fun marks => same (marks_iff.mp marks).1
    rw [read_lookup_ne (Ne.symm same), if_neg unmarked]
    exact tracks close

theorem read_completed (tracks : Tracks before windows) : (windows.read event).completedWindows =
    windows.completedWindows ++
      if event.action = "closed" then [windowOf (pairedStart event before) event] else [] := by
  have key := tracks event
  unfold Windows.read pairedStart
  by_cases opened : event.action = "opened"
  · simp [opened]
  · by_cases closed : event.action = "closed"
    · cases previous : (previousMark event before).filter fun previous => previous.action = "opened" with
      | none =>
        rw [previous] at key
        simp [closed, key, windowOf]
      | some start =>
        rw [previous] at key
        simp [closed, key, windowOf]
    · simp [opened, closed]

theorem foldl_read (tracks : Tracks before windows) : (rest.foldl Windows.read windows).completedWindows =
    windows.completedWindows ++ windowsBy pairedStart before rest := by
  induction rest generalizing before windows with
  | nil => simp [windowsBy]
  | cons event rest ih =>
    rw [List.foldl_cons, ih tracks.read, read_completed tracks, windowsBy]
    split <;> simp

theorem createWindows_eq (events : List WindowEvent) :
    createWindows events = windowsBy pairedStart [] events := by
  rw [createWindows, foldl_read Tracks.empty, List.nil_append]

end Create

/-! ## When they agree -/

/-- The start of a window as far as the window records it. -/
def SameStart (a b : WindowEvent) : Prop := a.timestamp = b.timestamp ∧ a.height = b.height

/-- The condition on the events before a close: when the latest event of its type
and nonce is an open, it is of the close's topic; when it is a close, no open of
the topic is left unmatched. Starts of one time and height are not told apart. -/
def StartsAgree (close : WindowEvent) (before : List WindowEvent) : Prop :=
  match previousMark close before with
  | none => True
  | some previous =>
    if previous.action = "opened" then
      previous.topic = close.topic ∨ SameStart previous (expectedStart close before)
    else SameStart close (expectedStart close before)

section Agree

variable {close : WindowEvent} {before events : List WindowEvent}

theorem windowOf_eq_iff {a b : WindowEvent} (type : a.windowType = b.windowType) (nonce : a.nonce = b.nonce) :
    windowOf a close = windowOf b close ↔ SameStart a b := by
  simp [windowOf, WindowEvent.openWindow, Window.close, SameStart, type, nonce]

theorem pairedStart_key (close : WindowEvent) (before : List WindowEvent) :
    ((pairedStart close before).windowType, (pairedStart close before).nonce) =
      (close.windowType, close.nonce) := by
  unfold pairedStart
  cases found : (previousMark close before).filter fun previous => previous.action = "opened" with
  | none => rfl
  | some previous => exact (marks_iff.mp (previousMark_marks (Option.eq_some_of_filter_eq_some found))).1

theorem expectedStart_key (close : WindowEvent) (before : List WindowEvent) :
    ((expectedStart close before).windowType, (expectedStart close before).nonce) =
      (close.windowType, close.nonce) := by
  unfold expectedStart
  cases found : (unmatchedOpens close before).head? with
  | none => rfl
  | some start => exact (marks_iff.mp (unmatchedOpens_marks (List.mem_of_head? found))).1

theorem sameStart_iff : SameStart (pairedStart close before) (expectedStart close before) ↔
    StartsAgree close before := by
  unfold StartsAgree pairedStart
  cases found : previousMark close before with
  | none =>
    have start : expectedStart close before = close := by
      rw [expectedStart, unmatchedOpens_of_unmarked found]
      rfl
    simp [start, SameStart]
  | some previous =>
    by_cases opened : previous.action = "opened"
    · have paired : ((some previous).filter fun previous => previous.action = "opened") = some previous := by
        simp [opened]
      rw [paired]
      simp only [Option.getD_some, opened, if_true]
      constructor
      · exact .inr
      · rintro (topic | same)
        · rw [expectedStart_of_previous found opened topic]
          exact ⟨rfl, rfl⟩
        · exact same
    · have paired : ((some previous).filter fun previous => previous.action = "opened") = none := by
        simp [opened]
      rw [paired]
      simp only [Option.getD_none, opened, if_false]

/-- Two choices of starts give the same windows when they agree at every close. -/
theorem windowsBy_eq_iff {f g : WindowEvent → List WindowEvent → WindowEvent} :
    windowsBy f before events = windowsBy g before events ↔
      ∀ first close after, events = first ++ close :: after → close.action = "closed" →
        windowOf (f close (before ++ first)) close = windowOf (g close (before ++ first)) close := by
  induction events generalizing before with
  | nil => simp [windowsBy]
  | cons event rest ih =>
    have later : (windowsBy f (before ++ [event]) rest = windowsBy g (before ++ [event]) rest) ↔
        ∀ first close after, event :: rest = event :: first ++ close :: after → close.action = "closed" →
          windowOf (f close (before ++ event :: first)) close =
            windowOf (g close (before ++ event :: first)) close := by
      rw [ih]
      simp
    have heads : (∀ first close after, event :: rest = first ++ close :: after → close.action = "closed" →
        windowOf (f close (before ++ first)) close = windowOf (g close (before ++ first)) close) ↔
        (event.action = "closed" → windowOf (f event before) event = windowOf (g event before) event) ∧
          windowsBy f (before ++ [event]) rest = windowsBy g (before ++ [event]) rest := by
      rw [later]
      constructor
      · intro all
        refine ⟨fun closed => ?_, fun first close after split closed => all (event :: first) close after split closed⟩
        simpa using all [] event rest rfl closed
      · rintro ⟨here, all⟩ first close after split closed
        cases first with
        | nil =>
          obtain ⟨rfl, rfl⟩ := List.cons_eq_cons.mp split
          simpa using here closed
        | cons head first =>
          obtain ⟨rfl, -⟩ := List.cons_eq_cons.mp split
          exact all first close after split closed
    rw [heads]
    by_cases closed : event.action = "closed" <;> simp [windowsBy, closed]

theorem createWindows_eq_expected_iff : createWindows events = expectedWindows events ↔
    ∀ before close after, events = before ++ close :: after → close.action = "closed" →
      StartsAgree close before := by
  rw [createWindows_eq, expectedWindows, windowsBy_eq_iff]
  refine forall_congr' fun first => forall_congr' fun close => forall_congr' fun after =>
    forall_congr' fun _ => forall_congr' fun _ => ?_
  have key := (pairedStart_key close first).trans (expectedStart_key close first).symm
  rw [List.nil_append, windowOf_eq_iff (congrArg Prod.fst key) (congrArg Prod.snd key), sameStart_iff]

/-- One window for each close, whatever the events. -/
theorem createWindows_length : (createWindows events).length =
    (events.filter fun event => event.action = "closed").length := by
  have count : ∀ before, (windowsBy pairedStart before events).length =
      (events.filter fun event => event.action = "closed").length := by
    induction events with
    | nil => exact fun _ => rfl
    | cons event rest ih =>
      intro before
      by_cases closed : event.action = "closed" <;> simp [windowsBy, closed, ih]
  rw [createWindows_eq, count]

/-- No line of the worker is read, and the windows are the expected ones exactly
when the starts agree at every close. -/
theorem visualizer_misses_lines_and_topics (created : Timestamp) (msecs : ℕ) (kind : WindowKind)
    (action : WindowAction) (topicId nonce height : ℤ) (events : List WindowEvent) :
    parseLogLine (windowLine created msecs kind action topicId nonce height) = .ok none ∧
      (createWindows events = expectedWindows events ↔
        ∀ before close after, events = before ++ close :: after → close.action = "closed" →
          StartsAgree close before) :=
  ⟨parseLogLine_formatted _, createWindows_eq_expected_iff⟩

end Agree

def noonFields : TimeFields := { year := 2025, month := 9, day := 30, hour := 12, minute := 0, second := 0 }

theorem noonFields_valid : noonFields.Valid := by decide

def noon : Timestamp := ⟨noonFields, noonFields_valid⟩

/-- Two topics open a worker window of one nonce, and the first is closed. -/
def twoTopics : List WindowEvent :=
  [windowEvent noon .worker .opened 1 5 100, windowEvent noon .worker .opened 2 5 101,
   windowEvent noon .worker .closed 1 5 110]

/-- One topic opens a window twice and closes it twice. -/
def openedTwice : List WindowEvent :=
  [windowEvent noon .worker .opened 1 5 100, windowEvent noon .worker .opened 1 5 101,
   windowEvent noon .worker .closed 1 5 110, windowEvent noon .worker .closed 1 5 111]

theorem line_unread_and_topics_mixed :
    parseLogLine (windowLine noon 42 .worker .opened 1 5 100) ≠
        .ok (some (windowEvent noon .worker .opened 1 5 100)) ∧
      (createWindows twoTopics).map Window.startHeight = [101] ∧
      (expectedWindows twoTopics).map Window.startHeight = [100] ∧
      (createWindows openedTwice).map Window.startHeight = [101, 111] ∧
      (expectedWindows openedTwice).map Window.startHeight = [101, 100] := by
  refine ⟨?_, by decide, by decide, by decide, by decide⟩
  rw [windowLine, parseLogLine_formatted]
  simp

end AlloraSdk.Guarantees
