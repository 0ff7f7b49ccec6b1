import Mathlib.Data.List.AList
import AlloraSdk.Logic.TextMatcher
import AlloraSdk.Source.Utils.PyNumbers

/-!
# Window log lines and the lifecycle visualizer

Source: logging_config.py (ThreeCharLevelFormatter), worker/worker.py (the
submission window handlers) and tools/topic_lifecycle_visualizer.py
(parse_log_line, parse_logs, create_windows).

The lines are written in one module and read in another; nothing but their text
connects the two. Digits are ASCII digits.
-/

namespace AlloraSdk.Source.Tools
open AlloraSdk.Logic AlloraSdk.Source.Utils

abbrev Text := List Char

/-! ## datetime -/

def isLeap (year : ℕ) : Bool := year % 4 == 0 && (year % 100 != 0 || year % 400 == 0)

def daysInMonth (year month : ℕ) : ℕ :=
  if month = 2 then if isLeap year then 29 else 28
  else if month = 4 ∨ month = 6 ∨ month = 9 ∨ month = 11 then 30 else 31

/-- The fields of a date and time, not checked. -/
structure TimeFields where
  year : ℕ
  month : ℕ
  day : ℕ
  hour : ℕ
  minute : ℕ
  second : ℕ
  deriving DecidableEq, Repr

/-- The checks of the `datetime` constructor. -/
structure TimeFields.Valid (fields : TimeFields) : Prop where
  year : 1 ≤ fields.year ∧ fields.year ≤ 9999
  month : 1 ≤ fields.month ∧ fields.month ≤ 12
  day : 1 ≤ fields.day ∧ fields.day ≤ daysInMonth fields.year fields.month
  hour : fields.hour < 24
  minute : fields.minute < 60
  second : fields.second < 60

theorem TimeFields.valid_iff {fields : TimeFields} : fields.Valid ↔
    (1 ≤ fields.year ∧ fields.year ≤ 9999) ∧ (1 ≤ fields.month ∧ fields.month ≤ 12) ∧
      (1 ≤ fields.day ∧ fields.day ≤ daysInMonth fields.year fields.month) ∧
      fields.hour < 24 ∧ fields.minute < 60 ∧ fields.second < 60 :=
  ⟨fun ⟨y, mo, d, h, mi, s⟩ => ⟨y, mo, d, h, mi, s⟩, fun ⟨y, mo, d, h, mi, s⟩ => ⟨y, mo, d, h, mi, s⟩⟩

instance (fields : TimeFields) : Decidable fields.Valid := decidable_of_iff' _ TimeFields.valid_iff

/-- A `datetime` to the second. -/
structure Timestamp where
  fields : TimeFields
  valid : fields.Valid
  deriving DecidableEq

/-! ## The formatter -/

/-- `str(n)`. -/
def decimal (n : ℤ) : Text :=
  if n < 0 then '-' :: Nat.toDigits 10 n.natAbs else Nat.toDigits 10 n.natAbs

/-- `%0{width}d`. -/
def padded (width n : ℕ) : Text :=
  List.replicate (width - (Nat.toDigits 10 n).length) '0' ++ Nat.toDigits 10 n

/-- `%Y-%m-%d %H:%M:%S`. -/
def TimeFields.text (fields : TimeFields) : Text :=
  padded 4 fields.year ++ '-' :: (padded 2 fields.month ++ '-' :: (padded 2 fields.day ++ ' ' ::
    (padded 2 fields.hour ++ ':' :: (padded 2 fields.minute ++ ':' :: padded 2 fields.second))))

/-- A record of `logging`: when it was made, its level and its message. -/
structure LogRecord where
  created : Timestamp
  msecs : ℕ
  levelname : Text
  message : Text

def levelMapping : List (Text × Text) :=
  [("DEBUG".toList, "DBG".toList), ("INFO".toList, "INF".toList), ("WARNING".toList, "WRN".toList),
   ("ERROR".toList, "ERR".toList), ("CRITICAL".toList, "CRT".toList)]

def colors : List (Text × Text) :=
  [("DBG".toList, "\x1b[36m".toList), ("INF".toList, "\x1b[32m".toList), ("WRN".toList, "\x1b[33m".toList),
   ("ERR".toList, "\x1b[31m".toList), ("CRT".toList, "\x1b[35m".toList)]

/-- `LEVEL_MAPPING.get(record.levelname, record.levelname[:3])`. -/
def levelText (levelname : Text) : Text := (levelMapping.lookup levelname).getD (levelname.take 3)

/-- `ThreeCharLevelFormatter.format` under `%(asctime)s %(levelname)s %(message)s`. -/
def formatRecord (useColor : Bool) (record : LogRecord) : Text :=
  let level := levelText record.levelname
  let shown :=
    if useColor then (colors.lookup level).getD [] ++ level ++ "\x1b[0m".toList else level
  record.created.fields.text ++ ',' :: (padded 3 record.msecs ++ ' ' :: (shown ++ ' ' :: record.message))

/-! ## The worker's log calls -/

inductive WindowKind where
  | worker | reputer
  deriving DecidableEq, Repr

inductive WindowAction where
  | opened | closed
  deriving DecidableEq, Repr

def WindowKind.title : WindowKind → Text
  | .worker => "Worker".toList
  | .reputer => "Reputer".toList

def WindowAction.name : WindowAction → Text
  | .opened => "opened".toList
  | .closed => "closed".toList

def WindowAction.mark : WindowAction → Char
  | .opened => '🚀'
  | .closed => '✨'

/-- The four f-strings that the window handlers log. -/
def windowMessage (kind : WindowKind) (action : WindowAction) (topicId nonce height : ℤ) : Text :=
  action.mark :: ' ' :: (kind.title ++ (" submission window ".toList ++ (action.name ++
    (" (topic=".toList ++ (decimal topicId ++ (" nonce=".toList ++ (decimal nonce ++
      (" height=".toList ++ (decimal height ++ [')'])))))))))

/-- The line that `logger.info` writes for a window, without colour. -/
def windowLine (created : Timestamp) (msecs : ℕ) (kind : WindowKind) (action : WindowAction)
    (topicId nonce height : ℤ) : Text :=
  formatRecord false
    { created, msecs, levelname := "INFO".toList
      message := windowMessage kind action topicId nonce height }

/-! ## parse_log_line -/

structure WindowEvent where
  timestamp : Timestamp
  windowType : String
  action : String
  topic : ℤ
  nonce : ℤ
  height : ℤ
  deriving DecidableEq

/-- The six digit runs of the first group. -/
structure StampGroups where
  year : Text
  month : Text
  day : Text
  hour : Text
  minute : Text
  second : Text

structure LineGroups where
  stamp : StampGroups
  windowType : Text
  action : Text
  topic : Text
  nonce : Text
  height : Text

def stampPattern : Matcher StampGroups := do
  let year ← Matcher.digits 4
  Matcher.literal ['-']
  let month ← Matcher.digits 2
  Matcher.literal ['-']
  let day ← Matcher.digits 2
  Matcher.literal [' ']
  let hour ← Matcher.digits 2
  Matcher.literal [':']
  let minute ← Matcher.digits 2
  Matcher.literal [':']
  let second ← Matcher.digits 2
  pure { year, month, day, hour, minute, second }

def numbersPattern (stamp : StampGroups) (windowType action : Text) : Matcher LineGroups := do
  Matcher.literal " (topic ".toList
  let topic ← Matcher.digitRun
  Matcher.literal ", nonce ".toList
  let nonce ← Matcher.digitRun
  Matcher.literal ", height ".toList
  let height ← Matcher.digitRun
  Matcher.literal [')']
  pure { stamp, windowType, action, topic, nonce, height }

/-- The part of the pattern that reads the message. -/
def messagePattern (stamp : StampGroups) : Matcher LineGroups := do
  let _ ← Matcher.oneOf ['🚀', '✨']
  Matcher.literal [' ']
  let windowType ← Matcher.keep "Worker".toList <|> Matcher.keep "Reputer".toList
  Matcher.literal " submission window ".toList
  let action ← Matcher.keep "opened".toList <|> Matcher.keep "closed".toList
  numbersPattern stamp windowType action

def linePattern : Matcher LineGroups := do
  let stamp ← stampPattern
  Matcher.literal [',']
  let _ ← Matcher.digitRun
  Matcher.literal " INFO ".toList
  messagePattern stamp

inductive ParseError where
  | valueError
  deriving DecidableEq, Repr

/-- `int(text)` of a group of digits. -/
def groupInt (text : Text) : Except ParseError ℕ :=
  match digitsValue text with
  | some n => .ok n
  | none => .error .valueError

/-- `datetime.strptime` of the first group; the digits are there already, so
only the fields can be out of range. -/
def strptime (stamp : StampGroups) : Except ParseError Timestamp := do
  let year ← groupInt stamp.year
  let month ← groupInt stamp.month
  let day ← groupInt stamp.day
  let hour ← groupInt stamp.hour
  let minute ← groupInt stamp.minute
  let second ← groupInt stamp.second
  let fields : TimeFields := { year, month, day, hour, minute, second }
  if valid : fields.Valid then pure { fields, valid } else throw .valueError

def LineGroups.event (groups : LineGroups) : Except ParseError WindowEvent := do
  let timestamp ← strptime groups.stamp
  let topic ← groupInt groups.topic
  let nonce ← groupInt groups.nonce
  let height ← groupInt groups.height
  pure
    { timestamp, windowType := String.ofList (groups.windowType.map Char.toLower)
      action := String.ofList groups.action, topic, nonce, height }

def parseLogLine (line : Text) : Except ParseError (Option WindowEvent) :=
  match linePattern.run line with
  | none => .ok none
  | some (groups, _) => groups.event.map some

/-- The order of `datetime`: by the fields, the year first. -/
def Timestamp.key (stamp : Timestamp) : List ℕ :=
  [stamp.fields.year, stamp.fields.month, stamp.fields.day, stamp.fields.hour, stamp.fields.minute,
   stamp.fields.second]

def Timestamp.before (a b : Timestamp) : Bool := List.lex a.key b.key fun x y => Nat.blt x y

/-- `sorted` moves an event forward only past later ones. -/
def WindowEvent.notAfter (a b : WindowEvent) : Bool := !b.timestamp.before a.timestamp

/-- `parse_logs`; `sorted` is stable. -/
def parseLogs (logText : Text) : Except ParseError (List WindowEvent) := do
  let events ← ((stripChars isPySpace logText).splitOn '\n').mapM parseLogLine
  pure ((events.filterMap id).mergeSort WindowEvent.notAfter)

/-! ## create_windows -/

structure Window where
  windowType : String
  nonce : ℤ
  startTime : Timestamp
  endTime : Option Timestamp
  startHeight : ℤ
  endHeight : Option ℤ
  deriving DecidableEq

/-- The locals of `create_windows`. The dict is keyed by type and nonce. -/
structure Windows where
  openWindows : AList fun _ : String × ℤ => Window
  completedWindows : List Window

/-- The window that `start` opens. -/
def WindowEvent.openWindow (start : WindowEvent) : Window where
  windowType := start.windowType
  nonce := start.nonce
  startTime := start.timestamp
  endTime := none
  startHeight := start.height
  endHeight := none

/-- `window.end_time = event.timestamp; window.end_height = event.height`. -/
def Window.close (window : Window) (event : WindowEvent) : Window :=
  { window with endTime := some event.timestamp, endHeight := some event.height }

def Windows.read (windows : Windows) (event : WindowEvent) : Windows :=
  let key := (event.windowType, event.nonce)
  if event.action = "opened" then
    { windows with openWindows := windows.openWindows.insert key event.openWindow }
  else if event.action = "closed" then
    match windows.openWindows.lookup key with
    | some window =>
      { openWindows := windows.openWindows.erase key
        completedWindows := windows.completedWindows ++ [window.close event] }
    | none =>
      -- a close without an open is an instantaneous window
      { windows with completedWindows := windows.completedWindows ++ [event.openWindow.close event] }
  else windows

def createWindows (events : List WindowEvent) : List Window :=
  (events.foldl Windows.read ⟨∅, []⟩).completedWindows

end AlloraSdk.Source.Tools
