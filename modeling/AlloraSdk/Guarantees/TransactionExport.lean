import Mathlib.Algebra.Order.Ring.Int
import Mathlib.Data.List.Basic
import AlloraSdk.Source.Tools.ExportTxs

/-!
# When the transaction export writes every page once

A page is left behind only by a turn that gets an answer, extracts it and
computes the number of pages (`turn_page`). `main` queries an object without the
method it calls, so it leaves no page behind. With a client that has the method,
a page size given on the command line stops it as well, and the header is
written with the first page or not at all.
-/

namespace AlloraSdk.Guarantees
open AlloraSdk.Source.Tools.ExportTxs

/-! ## The expected file -/

def Extracts (server : Server) (page : ℤ) : Prop :=
  ∃ records, filterAndExtractData (server.answer page) = .ok records

def pageRecords (server : Server) (page : ℤ) : List Record :=
  (filterAndExtractData (server.answer page)).toOption.getD []

/-- The records of the first `k` pages, in page order. -/
def firstRecords (args : Args) (server : Server) (k : ℕ) : List Record :=
  (List.range k).flatMap fun i => pageRecords server (args.startPage + i)

/-- The number of pages `start_page..pages`. -/
def pageCount (args : Args) : ℕ := (args.pages + 1 - args.startPage).toNat

/-- The header once, then the records of every page once. -/
def expectedFile (args : Args) (server : Server) : Text :=
  csvHeader ++ csvRows (firstRecords args server (pageCount args))

/-- The loop ends and leaves the expected file. -/
def ExportedOnce (client : List String) (args : Args) (server : Server) (file : Option Text) : Prop :=
  ∃ n, (run client args server file n).Done args ∧
    (run client args server file n).file = some (expectedFile args server)

/-! ## Text of the rows -/

section Rows

variable {records : List Record} {file : Option Text}

theorem csvRow_ne_nil (fields : List Text) : csvRow fields ≠ [] := by simp [csvRow]

theorem csvHeader_ne_nil : csvHeader ≠ [] := csvRow_ne_nil _

theorem csvRows_append (first second : List Record) :
    csvRows (first ++ second) = csvRows first ++ csvRows second := List.flatMap_append

theorem csvRows_eq_nil : csvRows records = [] ↔ records = [] := by
  constructor
  · intro empty
    cases records with
    | nil => rfl
    | cons record rest =>
      rw [csvRows, List.flatMap_cons] at empty
      exact absurd (List.append_eq_nil_iff.mp empty).1 (csvRow_ne_nil _)
  · rintro rfl
    rfl

/-- Append to the file, which is opened only for text that is there. -/
def appendText (file : Option Text) (text : Text) : Option Text :=
  if text = [] then file else some (file.getD [] ++ text)

theorem appendText_append (first second : Text) :
    appendText (appendText file first) second = appendText file (first ++ second) := by
  by_cases noFirst : first = [] <;> by_cases noSecond : second = [] <;>
    simp [appendText, noFirst, noSecond]

theorem appendText_some (front text : Text) : appendText (some front) text = some (front ++ text) := by
  by_cases empty : text = [] <;> simp [appendText, empty]

/-- Appending makes the header and the rows of what was the header alone. -/
theorem appendText_eq_header_iff (text : Text) :
    appendText file text = some (csvHeader ++ text) ↔ file = some csvHeader := by
  by_cases empty : text = []
  · simp [appendText, empty]
  · rw [appendText, if_neg empty, Option.some_inj, List.append_left_inj]
    cases file with
    | none => simpa using csvHeader_ne_nil.symm
    | some content => simp

theorem writeToCsv_append : writeToCsv records file false = appendText file (csvRows records) := by
  simp [writeToCsv, appendText, csvRows_eq_nil]

theorem writeToCsv_header (found : records ≠ []) :
    writeToCsv records file true = some (csvHeader ++ csvRows records) := by
  simp [writeToCsv, found]

theorem writeToCsv_nil {writeHeader : Bool} : writeToCsv [] file writeHeader = file := by
  simp [writeToCsv]

end Rows

/-! ## One turn -/

/-- What a turn needs to leave its page behind. -/
structure Advances (client : List String) (args : Args) (server : Server) (page : ℤ) : Prop where
  method : client.contains "get_txs_event" = true
  defaultSize : args.pageSize = none
  extracts : Extracts server page

section Turn

variable {client : List String} {args : Args} {server : Server} {s : State} {file : Option Text}

theorem turn_done (done : s.Done args) : turn client args server s = s :=
  if_neg (not_le.mpr done)

theorem getTxsEvent_ok {page : ℤ} {tries : ℕ} {resp : GetTxsEventResponse} :
    getTxsEvent client server page tries = .ok resp ↔ client.contains "get_txs_event" = true ∧
      (server.failures page).length ≤ tries ∧ resp = server.answer page := by
  unfold getTxsEvent
  by_cases method : client.contains "get_txs_event" = true
  · rw [if_pos method, ← List.getElem?_eq_none_iff]
    simp only [method, true_and]
    cases (server.failures page)[tries]? with
    | none => simp [eq_comm]
    | some failure => cases failure <;> simp
  · rw [if_neg method]
    constructor
    · rintro ⟨⟩
    · rintro ⟨present, -⟩
      exact absurd present method

theorem totalPages_ok {pageSize : Option Text} {total pages : ℕ}
    (counted : totalPages pageSize total = .ok pages) : pageSize = none := by
  cases pageSize with
  | none => rfl
  | some text => cases counted

/-- A turn stays on its page or leaves it behind for the next one. -/
theorem turn_page (client : List String) (args : Args) (server : Server) (s : State) :
    (turn client args server s).page = s.page ∨
    (turn client args server s).page = s.page + 1 ∧ Advances client args server s.page := by
  unfold turn
  split
  · split
    · exact .inl rfl
    · rename_i resp answered
      obtain ⟨method, -, rfl⟩ := getTxsEvent_ok.mp answered
      split
      · exact .inl rfl
      · rename_i records extracted
        dsimp only
        split
        · exact .inl rfl
        · rename_i total counted
          exact .inr ⟨rfl, method, totalPages_ok counted, records, extracted⟩
  · exact .inl rfl

/-- The state after the page of `s` was answered and written. -/
def afterPage (server : Server) (s : State) : State where
  page := s.page + 1
  writeHeader := false
  file := writeToCsv (pageRecords server s.page) s.file s.writeHeader
  tries := 0

theorem turn_failed (within : s.page ≤ args.pages)
    (fails : s.tries < (server.failures s.page).length) :
    turn client args server s = { s with tries := s.tries + 1 } := by
  rw [turn, if_pos within]
  cases asked : getTxsEvent client server s.page s.tries with
  | error e => rfl
  | ok resp => exact absurd (getTxsEvent_ok.mp asked).2.1 (not_le.mpr fails)

theorem turn_answered (advances : Advances client args server s.page) (within : s.page ≤ args.pages)
    (answered : s.tries = (server.failures s.page).length) :
    turn client args server s = afterPage server s := by
  obtain ⟨method, defaultSize, records, extracted⟩ := advances
  have asked : getTxsEvent client server s.page s.tries = .ok (server.answer s.page) :=
    getTxsEvent_ok.mpr ⟨method, answered.ge, rfl⟩
  have written : pageRecords server s.page = records := by
    rw [pageRecords, extracted]
    rfl
  rw [turn, if_pos within, asked, afterPage, written]
  simp only [extracted, defaultSize, totalPages]

end Turn

/-! ## Runs -/

section Run

variable {client : List String} {args : Args} {server : Server} {s : State} {file : Option Text}

theorem run_succ (n : ℕ) : run client args server file (n + 1) =
    turn client args server (run client args server file n) := Function.iterate_succ_apply' ..

/-- A loop that is over stays as it is. -/
theorem run_of_done {n : ℕ} (done : (run client args server file n).Done args) (k : ℕ) :
    run client args server file (n + k) = run client args server file n := by
  induction k with
  | zero => rfl
  | succ k ih => rw [← Nat.add_assoc, run_succ, ih, turn_done done]

theorem done_unique {n k : ℕ} (first : (run client args server file n).Done args)
    (second : (run client args server file k).Done args) :
    run client args server file n = run client args server file k := by
  rcases Nat.le_total n k with le | le
  · obtain ⟨extra, rfl⟩ := Nat.exists_eq_add_of_le le
    exact (run_of_done first extra).symm
  · obtain ⟨extra, rfl⟩ := Nat.exists_eq_add_of_le le
    exact run_of_done second extra

/-- No run gets past a page that no turn leaves behind. -/
theorem page_le_of_stuck (file : Option Text) {page : ℤ} (starts : args.startPage ≤ page)
    (stuck : ¬ Advances client args server page) (n : ℕ) :
    (run client args server file n).page ≤ page := by
  induction n with
  | zero => exact starts
  | succ n ih =>
    rw [run_succ]
    rcases turn_page client args server (run client args server file n) with same | ⟨next, advances⟩
    · omega
    · have passed : (run client args server file n).page ≠ page := fun same => stuck (same ▸ advances)
      omega

/-- The failed queries of a page leave only their count. -/
theorem after_failures (within : s.page ≤ args.pages) (fresh : s.tries = 0) {k : ℕ}
    (few : k ≤ (server.failures s.page).length) :
    (turn client args server)^[k] s = { s with tries := k } := by
  induction k with
  | zero => rw [Function.iterate_zero_apply, ← fresh]
  | succ k ih =>
    rw [Function.iterate_succ_apply', ih (by omega)]
    exact turn_failed within few

/-- However often its query fails, a page is written once and left behind. -/
theorem page_written (advances : Advances client args server s.page) (within : s.page ≤ args.pages)
    (fresh : s.tries = 0) : ∃ n, (turn client args server)^[n] s = afterPage server s := by
  refine ⟨(server.failures s.page).length + 1, ?_⟩
  rw [Function.iterate_succ_apply', after_failures within fresh le_rfl]
  exact turn_answered advances within rfl

/-- The state after the first `k` pages. -/
def afterPages (args : Args) (server : Server) (file : Option Text) : ℕ → State
  | 0 => start args file
  | k + 1 => afterPage server (afterPages args server file k)

theorem afterPages_page (args : Args) (server : Server) (file : Option Text) (k : ℕ) :
    (afterPages args server file k).page = args.startPage + k := by
  induction k with
  | zero => exact (Int.add_zero _).symm
  | succ k ih =>
    change (afterPages args server file k).page + 1 = _
    rw [ih]
    omega

theorem afterPages_tries (k : ℕ) : (afterPages args server file k).tries = 0 := by
  cases k <;> rfl

theorem run_reaches (file : Option Text) {k : ℕ} (within : ∀ i < k, args.startPage + i ≤ args.pages)
    (advances : ∀ i < k, Advances client args server (args.startPage + i)) :
    ∃ n, run client args server file n = afterPages args server file k := by
  induction k with
  | zero => exact ⟨0, rfl⟩
  | succ k ih =>
    obtain ⟨n, reached⟩ := ih (fun i less => within i (by omega)) (fun i less => advances i (by omega))
    have page := afterPages_page args server file k
    obtain ⟨more, written⟩ := page_written (s := afterPages args server file k)
      (page ▸ advances k (by omega)) (page ▸ within k (by omega)) (afterPages_tries k)
    refine ⟨more + n, ?_⟩
    rw [run, Function.iterate_add_apply]
    exact (congrArg _ reached).trans written

theorem firstRecords_succ (k : ℕ) : firstRecords args server (k + 1) =
    firstRecords args server k ++ pageRecords server (args.startPage + k) := by
  simp [firstRecords, List.range_succ]

/-- The first page decides about the header; the later ones are appended. -/
theorem afterPages_file (k : ℕ) : (afterPages args server file (k + 1)).file =
    if pageRecords server args.startPage = [] then
      appendText file (csvRows (firstRecords args server (k + 1)))
    else some (csvHeader ++ csvRows (firstRecords args server (k + 1))) := by
  induction k with
  | zero =>
    have records : firstRecords args server 1 = pageRecords server args.startPage := by
      simp [firstRecords]
    change writeToCsv (pageRecords server args.startPage) file true = _
    rw [records]
    by_cases empty : pageRecords server args.startPage = []
    · rw [if_pos empty, empty, writeToCsv_nil]
      rfl
    · rw [if_neg empty, writeToCsv_header empty]
  | succ k ih =>
    have page := afterPages_page args server file (k + 1)
    change writeToCsv (pageRecords server (afterPages args server file (k + 1)).page)
      (afterPages args server file (k + 1)).file false = _
    rw [writeToCsv_append, page, ih, firstRecords_succ (k + 1), csvRows_append]
    split
    · rw [appendText_append]
    · rw [appendText_some, List.append_assoc]

end Run

/-! ## The export -/

section Export

variable {client : List String} {args : Args} {server : Server} {file : Option Text}

theorem run_reaches_end (file : Option Text)
    (advances : ∀ page, args.startPage ≤ page → page ≤ args.pages → Advances client args server page) :
    ∃ n, run client args server file n = afterPages args server file (pageCount args) ∧
      (run client args server file n).Done args := by
  have within : ∀ i < pageCount args, args.startPage + i ≤ args.pages := by
    intro i less
    unfold pageCount at less
    omega
  obtain ⟨n, reached⟩ := run_reaches file within
    fun i less => advances _ (by omega) (within i less)
  refine ⟨n, reached, ?_⟩
  rw [State.Done, reached, afterPages_page, pageCount]
  omega

/-- The loop ends exactly when every page can be left behind. -/
theorem ends_iff : (∃ n, (run client args server file n).Done args) ↔
    ∀ page, args.startPage ≤ page → page ≤ args.pages → Advances client args server page := by
  constructor
  · rintro ⟨n, done⟩ page starts within
    by_contra stuck
    have stays := page_le_of_stuck file starts stuck n
    exact absurd done (not_lt.mpr (stays.trans within))
  · intro advances
    obtain ⟨n, -, done⟩ := run_reaches_end file advances
    exact ⟨n, done⟩

/-- After the last page, the file is the expected one when it held the header
alone before, or when the first page has a record. -/
theorem afterPages_expected_iff :
    (afterPages args server file (pageCount args)).file = some (expectedFile args server) ↔
      file = some csvHeader ∨ args.startPage ≤ args.pages ∧ pageRecords server args.startPage ≠ [] := by
  unfold expectedFile
  cases count : pageCount args with
  | zero =>
    have outside : ¬ args.startPage ≤ args.pages := by
      unfold pageCount at count
      omega
    have none_written : csvHeader ++ csvRows (firstRecords args server 0) = csvHeader := List.append_nil _
    rw [none_written]
    simp [outside, afterPages, start]
  | succ k =>
    have inside : args.startPage ≤ args.pages := by
      unfold pageCount at count
      omega
    rw [afterPages_file]
    by_cases empty : pageRecords server args.startPage = []
    · rw [if_pos empty, appendText_eq_header_iff]
      simp [empty]
    · rw [if_neg empty]
      simp [inside, empty]

theorem exportedOnce_iff : ExportedOnce client args server file ↔
    (∀ page, args.startPage ≤ page → page ≤ args.pages → Advances client args server page) ∧
      (file = some csvHeader ∨ args.startPage ≤ args.pages ∧ pageRecords server args.startPage ≠ []) := by
  rw [← afterPages_expected_iff]
  constructor
  · rintro ⟨n, done, content⟩
    have advances := ends_iff.mp ⟨n, done⟩
    obtain ⟨k, reached, done'⟩ := run_reaches_end file advances
    exact ⟨advances, by rw [← reached, ← done_unique done done', content]⟩
  · rintro ⟨advances, content⟩
    obtain ⟨n, reached, done⟩ := run_reaches_end file advances
    exact ⟨n, done, by rw [reached, content]⟩

/-- On the client that `main` builds, an export of any page never ends, and one
without pages leaves the file as it is. With the method, it is exact when no page
size is given, every answer can be extracted, and the first page has a record or
the file holds the header alone. -/
theorem export_writes_pages_once_iff (args : Args) (server : Server) (file : Option Text) :
    (ExportedOnce txClientAttributes args server file ↔
      args.pages < args.startPage ∧ file = some csvHeader) ∧
    ∀ attributes : List String, ExportedOnce ("get_txs_event" :: attributes) args server file ↔
      (∀ page, args.startPage ≤ page → page ≤ args.pages → args.pageSize = none ∧ Extracts server page) ∧
        (file = some csvHeader ∨ args.startPage ≤ args.pages ∧ pageRecords server args.startPage ≠ []) := by
  refine ⟨?_, fun attributes => ?_⟩
  · rw [exportedOnce_iff]
    constructor
    · rintro ⟨advances, content⟩
      have outside : ¬ args.startPage ≤ args.pages := fun inside =>
        absurd (advances args.startPage le_rfl inside).method (by decide)
      exact ⟨not_le.mp outside, content.resolve_right fun found => outside found.1⟩
    · rintro ⟨outside, header⟩
      exact ⟨fun page starts within => absurd (starts.trans within) (not_le.mpr outside), .inl header⟩
  · rw [exportedOnce_iff]
    refine and_congr_left fun _ => forall_congr' fun page => forall_congr' fun _ => forall_congr' fun _ => ?_
    constructor
    · rintro ⟨-, defaultSize, extracts⟩
      exact ⟨defaultSize, extracts⟩
    · rintro ⟨defaultSize, extracts⟩
      exact ⟨by simp, defaultSize, extracts⟩

end Export

/-! ## Exports that fail -/

def workerPayload : InsertWorkerPayloadRequest :=
  { workerDataBundle := some
      { nonce := some { blockHeight := 100 }
        inferenceForecastsBundle := some
          { inference := some { topicId := 1, value := "0.5", inferer := "allo1worker" } } } }

/-- A page with one payload. -/
def onePayload : GetTxsEventResponse where
  txs := [{ body := some { messages :=
    [{ typeUrl := "/emissions.v10.InsertWorkerPayloadRequest", unpack := .ok workerPayload }] } }]
  txResponses := [{ timestamp := "2025-09-30T12:00:00Z", code := 0, txhash := "A1" }]
  total := 1

def noPayload : GetTxsEventResponse := { txs := [], txResponses := [], total := 1 }

/-- Every query is answered at once; the pages before `first` have no records. -/
def serverFrom (first : ℤ) : Server where
  failures := fun _ => []
  answer := fun page => if page < first then noPayload else onePayload

def payloadRow : Text := "2025-09-30T12:00:00Z,0,100,1,0.5,allo1worker,A1\r\n".toList

/-- The client has no method to query with; with one, a page size on the command
line writes the page again in every turn, and an empty first page loses the
header. -/
theorem export_of_one_page_fails :
    ¬ ExportedOnce txClientAttributes ⟨1, 1, none⟩ (serverFrom 1) none ∧
      (run ["get_txs_event"] ⟨1, 1, some ['1', '0']⟩ (serverFrom 1) none 2).file =
        some (csvHeader ++ payloadRow ++ payloadRow) ∧
      (run ["get_txs_event"] ⟨1, 2, none⟩ (serverFrom 2) none 2).file = some payloadRow := by
  refine ⟨fun exported => ?_, by decide, by decide⟩
  have advances := (exportedOnce_iff.mp exported).1 1 le_rfl le_rfl
  exact absurd advances.method (by decide)

end AlloraSdk.Guarantees
