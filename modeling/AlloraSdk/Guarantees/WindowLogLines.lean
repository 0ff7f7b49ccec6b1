import AlloraSdk.Source.Tools.LifecycleVisualizer
import AlloraSdk.Source.Utils.DecCanonical

/-!
# What the visualizer reads of a log

The formatter writes a level of at most three characters, and the pattern wants
` INFO ` after the milliseconds: no line of the formatter is read, whatever its
message (`parseLogLine_formatted`), and a whole log holds no event
(`parseLogs_formatted`). The worker's messages differ from the pattern once more,
in `topic=` for `topic ` (`parseLogLine_infoLine`). Lines in the pattern's own
form are read back (`parseLogLine_readable`).
-/

namespace AlloraSdk.Guarantees
open AlloraSdk.Logic AlloraSdk.Source.Utils AlloraSdk.Source.Tools

/-! ## Numbers of a fixed width -/

section Padded

variable {width n : ℕ}

theorem padded_digits (width n : ℕ) : ∀ c ∈ padded width n, c.isDigit = true :=
  (digits_zeros _).append (digits_toDigits n)

theorem padded_ne_nil : padded width n ≠ [] :=
  List.append_ne_nil_of_right_ne_nil _ Nat.toDigits_ne_nil

theorem padded_length (positive : 0 < width) (fits : n < 10 ^ width) : (padded width n).length = width := by
  have short : (Nat.toDigits 10 n).length ≤ width :=
    (Nat.length_toDigits_le_iff (by decide) positive).mpr fits
  rw [padded, List.length_append, List.length_replicate]
  omega

theorem groupInt_padded : groupInt (padded width n) = .ok n := by
  have value : digitsValue (padded width n) = some n := by
    rw [digitsValue_of_digits (padded_digits width n) padded_ne_nil, padded, Nat.ofDigitChars_append,
      Nat.ofDigitChars_replicate_zero, Nat.mul_zero, Nat.ofDigitChars_ten_toDigits]
  rw [groupInt, value]

theorem groupInt_toDigits (n : ℕ) : groupInt (Nat.toDigits 10 n) = .ok n := by
  rw [groupInt, digitsValue_toDigits]

end Padded

/-! ## The time stamp -/

/-- The digit runs of a time stamp. -/
def stampGroups (fields : TimeFields) : StampGroups where
  year := padded 4 fields.year
  month := padded 2 fields.month
  day := padded 2 fields.day
  hour := padded 2 fields.hour
  minute := padded 2 fields.minute
  second := padded 2 fields.second

section Stamp

variable {fields : TimeFields}

theorem daysInMonth_le (year month : ℕ) : daysInMonth year month ≤ 31 := by
  unfold daysInMonth
  split
  · split <;> decide
  · split <;> decide

theorem field_run {width n : ℕ} (positive : 0 < width) (fits : n < 10 ^ width) (rest : Text) :
    (Matcher.digits width).run (padded width n ++ rest) = some (padded width n, rest) :=
  Matcher.digits_run (padded_digits width n) (padded_length positive fits)

/-- A field and the character after it. -/
theorem field_sep_run {α : Type} {next : Text → Unit → Matcher α} {width n : ℕ} {c : Char}
    (positive : 0 < width) (fits : n < 10 ^ width) (rest : Text) :
    (Matcher.digits width >>= fun field => Matcher.literal [c] >>= next field).run
      (padded width n ++ c :: rest) = (next (padded width n) ()).run rest := by
  rw [StateT.run_bind, field_run positive fits, Option.bind_eq_bind, Option.bind_some, StateT.run_bind,
    Matcher.literal_char_run, Option.bind_eq_bind, Option.bind_some]

theorem stampPattern_run (valid : fields.Valid) (rest : Text) :
    stampPattern.run (fields.text ++ rest) = some (stampGroups fields, rest) := by
  have days := daysInMonth_le fields.year fields.month
  obtain ⟨⟨-, year⟩, ⟨-, month⟩, ⟨-, day⟩, hour, minute, second⟩ := valid
  simp only [stampPattern, TimeFields.text, List.append_assoc, List.cons_append]
  rw [field_sep_run (by decide) (by omega), field_sep_run (by decide) (by omega),
    field_sep_run (by decide) (by omega), field_sep_run (by decide) (by omega),
    field_sep_run (by decide) (by omega), StateT.run_bind, field_run (by decide) (by omega)]
  rfl

theorem strptime_groups (stamp : Timestamp) : strptime (stampGroups stamp.fields) = .ok stamp := by
  simp only [strptime, stampGroups, groupInt_padded]
  exact dif_pos stamp.valid

end Stamp

/-! ## No line of the formatter is read -/

theorem levelText_length (levelname : Text) : (levelText levelname).length ≤ 3 := by
  unfold levelText
  cases known : levelMapping.lookup levelname with
  | none => exact List.length_take_le 3 levelname
  | some level =>
    have mapped : ∀ entry ∈ levelMapping, entry.2.length ≤ 3 := by decide
    obtain ⟨front, back, split, -⟩ := List.lookup_eq_some_iff.mp known
    exact mapped (levelname, level) (by simp [split])

theorem stampPattern_consumes : Matcher.Consumes stampPattern 19 :=
  (Matcher.consumes_digits 4).bind fun _ => (Matcher.consumes_literal ['-']).bind fun _ =>
  (Matcher.consumes_digits 2).bind fun _ => (Matcher.consumes_literal ['-']).bind fun _ =>
  (Matcher.consumes_digits 2).bind fun _ => (Matcher.consumes_literal [' ']).bind fun _ =>
  (Matcher.consumes_digits 2).bind fun _ => (Matcher.consumes_literal [':']).bind fun _ =>
  (Matcher.consumes_digits 2).bind fun _ => (Matcher.consumes_literal [':']).bind fun _ =>
  (Matcher.consumes_digits 2).bind fun _ => Matcher.consumes_pure _

theorem text_length (stamp : Timestamp) : stamp.fields.text.length = 19 := by
  have days := daysInMonth_le stamp.fields.year stamp.fields.month
  obtain ⟨⟨-, year⟩, ⟨-, month⟩, ⟨-, day⟩, hour, minute, second⟩ := stamp.valid
  simp only [TimeFields.text, List.length_append, List.length_cons]
  rw [padded_length (by decide) (by omega), padded_length (by decide) (by omega),
    padded_length (by decide) (by omega), padded_length (by decide) (by omega),
    padded_length (by decide) (by omega), padded_length (by decide) (by omega)]

/-- What every line that the pattern matches begins with. -/
theorem linePattern_reads {text rest : Text} {groups : LineGroups}
    (found : linePattern.run text = some (groups, rest)) :
    ∃ stamp digits tail, text = stamp ++ ',' :: (digits ++ ' ' :: ("INFO ".toList ++ tail)) ∧
      stamp.length = 19 ∧ ∀ c ∈ digits, c.isDigit = true := by
  simp only [linePattern, StateT.run_bind, Option.bind_eq_bind, Option.bind_eq_some_iff] at found
  obtain ⟨⟨_, t₁⟩, stamped, ⟨_, t₂⟩, comma, ⟨digits, t₃⟩, run, ⟨_, tail⟩, level, -⟩ := found
  obtain ⟨stamp, rfl, length⟩ := stampPattern_consumes _ _ _ stamped
  obtain rfl := Matcher.literal_reads comma
  obtain ⟨rfl, own⟩ := Matcher.digitRun_reads run
  obtain rfl := Matcher.literal_reads level
  exact ⟨stamp, digits, tail, rfl, length, own⟩

/-- A run of digits before a character that is none is read in one way. -/
theorem digits_unique {first second rest rest' : Text} {c c' : Char} (own : ∀ c ∈ first, c.isDigit = true)
    (own' : ∀ c ∈ second, c.isDigit = true) (stop : c.isDigit = false) (stop' : c'.isDigit = false)
    (same : first ++ c :: rest = second ++ c' :: rest') : c :: rest = c' :: rest' := by
  have runs := congrArg (List.takeWhile Char.isDigit) same
  rw [takeWhile_append_stop own stop, takeWhile_append_stop own' stop'] at runs
  rw [runs] at same
  exact List.append_cancel_left same

/-- Three characters and a space never make `INFO `. -/
theorem info_ne_short {level tail rest : Text} (short : level.length ≤ 3) :
    "INFO ".toList ++ tail ≠ level ++ ' ' :: rest := by
  intro same
  match level with
  | [] => simp at same
  | [_] => simp at same
  | [_, _] => simp at same
  | [_, _, _] => simp at same
  | _ :: _ :: _ :: _ :: _ =>
    simp only [List.length_cons] at short
    omega

/-- No front of a line that the formatter writes without colour is read,
whatever its level and message. -/
theorem parseLogLine_front {record : LogRecord} {text : Text} (front : text <+: formatRecord false record) :
    parseLogLine text = .ok none := by
  cases found : linePattern.run text with
  | none => rw [parseLogLine, found]
  | some result =>
    obtain ⟨stamp, digits, tail, rfl, length, own⟩ := linePattern_reads found
    obtain ⟨back, same⟩ := front
    have line : formatRecord false record = record.created.fields.text ++ ',' :: (padded 3 record.msecs ++
        ' ' :: (levelText record.levelname ++ ' ' :: record.message)) := rfl
    rw [line, List.append_assoc] at same
    have afterStamp := (List.append_inj same (length.trans (text_length _).symm)).2
    simp only [List.cons_append, List.append_assoc, List.cons.injEq, true_and] at afterStamp
    have afterDigits := digits_unique own (padded_digits 3 _) rfl rfl afterStamp
    exact absurd (List.cons_eq_cons.mp afterDigits).2 (info_ne_short (levelText_length _))

theorem parseLogLine_formatted (record : LogRecord) : parseLogLine (formatRecord false record) = .ok none :=
  parseLogLine_front (List.prefix_refl _)

theorem linePattern_run {stamp : Timestamp} {msecs : ℕ} {rest : Text} :
    linePattern.run (stamp.fields.text ++ ',' :: (padded 3 msecs ++ ' ' :: rest)) =
      (Matcher.literal " INFO ".toList >>= fun _ => messagePattern (stampGroups stamp.fields)).run
        (' ' :: rest) := by
  rw [linePattern, StateT.run_bind, stampPattern_run stamp.valid, Option.bind_eq_bind, Option.bind_some,
    StateT.run_bind, Matcher.literal_char_run, Option.bind_eq_bind, Option.bind_some, StateT.run_bind,
    Matcher.digitRun_run (padded_digits 3 msecs) padded_ne_nil rfl, Option.bind_eq_bind, Option.bind_some]

/-! ## A whole log -/

/-- What a handler writes: a line for each record. -/
def logText (records : List LogRecord) : Text :=
  records.flatMap fun record => formatRecord false record ++ ['\n']

theorem parseLogs_unread {text : Text}
    (unread : ∀ line ∈ (stripChars isPySpace text).splitOn '\n', parseLogLine line = .ok none) :
    parseLogs text = .ok [] := by
  have events (lines : List Text) (unread : ∀ line ∈ lines, parseLogLine line = .ok none) :
      lines.mapM parseLogLine = .ok (List.replicate lines.length none) := by
    induction lines with
    | nil => rfl
    | cons line rest ih =>
      rw [List.mapM_cons, unread line (.head _), ih fun later member => unread later (.tail _ member)]
      rfl
  rw [parseLogs, events _ unread]
  simp [Except.bind, bind, pure, Except.pure]

theorem formatRecord_head (record : LogRecord) :
    ∃ c rest, formatRecord false record = c :: rest ∧ isPySpace c = false := by
  obtain ⟨c, rest, same⟩ := List.exists_cons_of_ne_nil (padded_ne_nil : padded 4 record.created.fields.year ≠ [])
  have digit : c.isDigit = true := padded_digits 4 record.created.fields.year c (same ▸ .head _)
  rw [formatRecord, TimeFields.text, same]
  exact ⟨c, _, rfl, (isDecimalChar_plain (by simp [isDecimalChar, digit])).1⟩

theorem logText_intercalate (records : List LogRecord) (front : Text) :
    logText records ++ front = ['\n'].intercalate (records.map (formatRecord false) ++ [front]) := by
  induction records with
  | nil => simp [logText]
  | cons record rest ih =>
    rw [List.map_cons, List.cons_append, List.intercalate_cons_of_ne_nil (by simp), ← ih]
    simp [logText]

theorem logText_head (records : List LogRecord) (record : LogRecord) :
    ∃ c rest, logText (records ++ [record]) = c :: rest ∧ isPySpace c = false := by
  obtain ⟨first, more, split⟩ := List.exists_cons_of_ne_nil (List.append_ne_nil_of_right_ne_nil records
    (List.cons_ne_nil record []))
  obtain ⟨c, rest, same, visible⟩ := formatRecord_head first
  rw [split, logText, List.flatMap_cons, same]
  exact ⟨c, _, rfl, visible⟩

/-- `strip` takes the last line break, and maybe the end of the last line. -/
theorem strip_logText (records : List LogRecord) (record : LogRecord) :
    ∃ front, front <+: formatRecord false record ∧
      stripChars isPySpace (logText (records ++ [record])) = logText records ++ front := by
  obtain ⟨c, rest, begins, visible⟩ := logText_head records record
  have kept : (logText (records ++ [record])).dropWhile isPySpace = logText (records ++ [record]) := by
    rw [begins, List.dropWhile_cons_of_neg (by simp [visible])]
  have reversed : (logText (records ++ [record])).reverse =
      '\n' :: ((formatRecord false record).reverse ++ (logText records).reverse) := by
    simp [logText]
  have stops : (formatRecord false record).reverse.dropWhile isPySpace ≠ [] := by
    obtain ⟨d, tail, same, visible⟩ := formatRecord_head record
    rw [Ne, List.dropWhile_eq_nil_iff]
    intro blank
    simpa [visible] using blank d (by simp [same])
  refine ⟨((formatRecord false record).reverse.dropWhile isPySpace).reverse, ?_, ?_⟩
  · have suffix := List.dropWhile_suffix (l := (formatRecord false record).reverse) isPySpace
    simpa using List.reverse_prefix.mpr suffix
  · rw [stripChars, kept, reversed, List.dropWhile_cons_of_pos (by decide), List.dropWhile_append]
    simp [stops]

/-- A log that the formatter wrote holds no event, when no record has a line break. -/
theorem parseLogs_formatted (records : List LogRecord)
    (plain : ∀ record ∈ records, '\n' ∉ formatRecord false record) : parseLogs (logText records) = .ok [] := by
  rcases List.eq_nil_or_concat' records with rfl | ⟨init, last, rfl⟩
  · exact parseLogs_unread (by decide)
  obtain ⟨front, start, stripped⟩ := strip_logText init last
  refine parseLogs_unread ?_
  rw [stripped, logText_intercalate, List.splitOn_intercalate]
  · intro line member
    rcases List.mem_append.mp member with earlier | final
    · obtain ⟨record, -, rfl⟩ := List.mem_map.mp earlier
      exact parseLogLine_formatted record
    · obtain rfl := List.mem_singleton.mp final
      exact parseLogLine_front start
  · intro line member
    rcases List.mem_append.mp member with earlier | final
    · obtain ⟨record, present, rfl⟩ := List.mem_map.mp earlier
      exact plain record (List.mem_append_left _ present)
    · obtain rfl := List.mem_singleton.mp final
      exact fun broken => plain last (by simp) (start.subset broken)
  · simp

/-! ## Lines in the form of the pattern -/

theorem title_run (kind : WindowKind) (rest : Text) :
    (Matcher.keep "Worker".toList <|> Matcher.keep "Reputer".toList).run (kind.title ++ rest) =
      some (kind.title, rest) := by
  cases kind with
  | worker => exact Matcher.either_run_left Matcher.keep_run
  | reputer =>
    have other : (Matcher.keep "Worker".toList).run ("Reputer".toList ++ rest) = none :=
      Matcher.keep_run_differs (by decide)
    exact (Matcher.either_run_right other).trans Matcher.keep_run

theorem action_run (action : WindowAction) (rest : Text) :
    (Matcher.keep "opened".toList <|> Matcher.keep "closed".toList).run (action.name ++ rest) =
      some (action.name, rest) := by
  cases action with
  | opened => exact Matcher.either_run_left Matcher.keep_run
  | closed =>
    have other : (Matcher.keep "opened".toList).run ("closed".toList ++ rest) = none :=
      Matcher.keep_run_differs (by decide)
    exact (Matcher.either_run_right other).trans Matcher.keep_run

/-- The worker's messages are read up to the numbers. -/
theorem messagePattern_run {stamp : StampGroups} (kind : WindowKind) (action : WindowAction) (rest : Text) :
    (messagePattern stamp).run (action.mark :: ' ' :: (kind.title ++ (" submission window ".toList ++
      (action.name ++ rest)))) = (numbersPattern stamp kind.title action.name).run rest := by
  have marked : ['🚀', '✨'].contains action.mark = true := by cases action <;> rfl
  rw [messagePattern, StateT.run_bind, Matcher.oneOf_run marked, Option.bind_eq_bind, Option.bind_some,
    StateT.run_bind, Matcher.literal_char_run, Option.bind_eq_bind, Option.bind_some,
    StateT.run_bind, title_run, Option.bind_eq_bind, Option.bind_some,
    StateT.run_bind, Matcher.literal_run, Option.bind_eq_bind, Option.bind_some,
    StateT.run_bind, action_run, Option.bind_eq_bind, Option.bind_some]

/-- A line under the level that the pattern asks for. -/
def infoLine (created : Timestamp) (msecs : ℕ) (message : Text) : Text :=
  created.fields.text ++ ',' :: (padded 3 msecs ++ (" INFO ".toList ++ message))

theorem linePattern_infoLine {created : Timestamp} {msecs : ℕ} {message : Text} :
    linePattern.run (infoLine created msecs message) =
      (messagePattern (stampGroups created.fields)).run message := by
  have split : infoLine created msecs message =
      created.fields.text ++ ',' :: (padded 3 msecs ++ ' ' :: ("INFO ".toList ++ message)) := rfl
  have literal : (Matcher.literal " INFO ".toList).run (' ' :: ("INFO ".toList ++ message)) =
      some ((), message) := Matcher.literal_run
  rw [split, linePattern_run, StateT.run_bind, literal, Option.bind_eq_bind, Option.bind_some]

theorem numbersPattern_unread {stamp : StampGroups} {windowType action : Text} (rest : Text) :
    (numbersPattern stamp windowType action).run (" (topic=".toList ++ rest) = none := by
  have differs : (Matcher.literal " (topic ".toList).run (" (topic=".toList ++ rest) = none :=
    Matcher.literal_run_differs " (topic".toList (by decide)
  rw [numbersPattern, StateT.run_bind, differs]
  rfl

/-- The level is not the only difference: the worker writes `topic=`. -/
theorem parseLogLine_infoLine (created : Timestamp) (msecs : ℕ) (kind : WindowKind) (action : WindowAction)
    (topicId nonce height : ℤ) :
    parseLogLine (infoLine created msecs (windowMessage kind action topicId nonce height)) = .ok none := by
  rw [parseLogLine, linePattern_infoLine, windowMessage, messagePattern_run, numbersPattern_unread]

/-- The message that the pattern describes. -/
def readableMessage (kind : WindowKind) (action : WindowAction) (topic nonce height : ℕ) : Text :=
  action.mark :: ' ' :: (kind.title ++ (" submission window ".toList ++ (action.name ++
    (" (topic ".toList ++ (Nat.toDigits 10 topic ++ ',' :: (" nonce ".toList ++ (Nat.toDigits 10 nonce ++
      ',' :: (" height ".toList ++ (Nat.toDigits 10 height ++ [')'])))))))))

/-- The event of a window. -/
def windowEvent (created : Timestamp) (kind : WindowKind) (action : WindowAction) (topic nonce height : ℤ) :
    WindowEvent where
  timestamp := created
  windowType := String.ofList (kind.title.map Char.toLower)
  action := String.ofList action.name
  topic := topic
  nonce := nonce
  height := height

/-- A number and the text after it. -/
theorem number_sep_run {α : Type} {next : Text → Unit → Matcher α} (n : ℕ) {c : Char} {text : Text}
    (stop : c.isDigit = false) (rest : Text) :
    (Matcher.digitRun >>= fun field => Matcher.literal (c :: text) >>= next field).run
      (Nat.toDigits 10 n ++ c :: (text ++ rest)) = (next (Nat.toDigits 10 n) ()).run rest := by
  have number : Matcher.digitRun.run (Nat.toDigits 10 n ++ c :: (text ++ rest)) =
      some (Nat.toDigits 10 n, c :: (text ++ rest)) :=
    Matcher.digitRun_run (digits_toDigits n) Nat.toDigits_ne_nil stop
  have literal : (Matcher.literal (c :: text)).run (c :: (text ++ rest)) = some ((), rest) :=
    Matcher.literal_run
  rw [StateT.run_bind, number, Option.bind_eq_bind, Option.bind_some, StateT.run_bind, literal,
    Option.bind_eq_bind, Option.bind_some]

theorem numbersPattern_run {stamp : StampGroups} {windowType action : Text} (topic nonce height : ℕ) :
    (numbersPattern stamp windowType action).run
      (" (topic ".toList ++ (Nat.toDigits 10 topic ++ ',' :: (" nonce ".toList ++ (Nat.toDigits 10 nonce ++
        ',' :: (" height ".toList ++ (Nat.toDigits 10 height ++ [')'])))))) =
      some ({ stamp, windowType, action, topic := Nat.toDigits 10 topic, nonce := Nat.toDigits 10 nonce
              height := Nat.toDigits 10 height }, []) := by
  rw [numbersPattern, StateT.run_bind, Matcher.literal_run, Option.bind_eq_bind, Option.bind_some]
  exact (number_sep_run topic rfl _).trans
    ((number_sep_run nonce rfl _).trans (number_sep_run height rfl []))

/-- Lines in the form of the pattern are read back as their event. -/
theorem parseLogLine_readable (created : Timestamp) (msecs : ℕ) (kind : WindowKind) (action : WindowAction)
    (topic nonce height : ℕ) :
    parseLogLine (infoLine created msecs (readableMessage kind action topic nonce height)) =
      .ok (some (windowEvent created kind action topic nonce height)) := by
  rw [parseLogLine, linePattern_infoLine, readableMessage, messagePattern_run, numbersPattern_run]
  simp only [LineGroups.event, strptime_groups, groupInt_toDigits]
  rfl

end AlloraSdk.Guarantees
