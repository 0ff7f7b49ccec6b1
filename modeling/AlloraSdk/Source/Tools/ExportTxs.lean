import Mathlib.Data.Int.Notation
import Mathlib.Logic.Function.Iterate

/-!
# Export of transactions to CSV

Source: tools/export_txs_to_csv.py and, for the object that `main` queries,
rpc_client/client_tx.py.

The node is the environment: for each page a list of failed queries and then the
answer, which every later query of the page gets again. Writes succeed. `main`
is an iteration of `turn`, one pass through the body of its `while`.
-/

namespace AlloraSdk.Source.Tools.ExportTxs

abbrev Text := List Char

/-! ## Replies of the node -/

structure Nonce where
  blockHeight : ℤ
  deriving DecidableEq, Repr

structure Inference where
  topicId : ℕ
  value : String
  inferer : String
  deriving DecidableEq, Repr

structure InferenceForecastBundle where
  inference : Option Inference
  deriving DecidableEq, Repr

structure WorkerDataBundle where
  nonce : Option Nonce
  inferenceForecastsBundle : Option InferenceForecastBundle
  deriving DecidableEq, Repr

structure InsertWorkerPayloadRequest where
  workerDataBundle : Option WorkerDataBundle
  deriving DecidableEq, Repr

/-- `google.protobuf.Any`; `unpack` is what unpacking returns or raises. -/
structure AnyMessage where
  typeUrl : String
  unpack : Except String InsertWorkerPayloadRequest

structure TxBody where
  messages : List AnyMessage

structure Tx where
  body : Option TxBody

structure TxResponse where
  timestamp : String
  code : ℕ
  txhash : String
  deriving DecidableEq, Repr

structure GetTxsEventResponse where
  txs : List Tx
  txResponses : List TxResponse
  total : ℕ

inductive ExportError where
  | attributeError
  | query (message : String)
  | respIsNone
  | unpack (message : String)
  | typeError
  deriving DecidableEq, Repr

/-! ## filter_and_extract_data -/

structure Record where
  timestamp : String
  code : ℕ
  nonceBlockHeight : ℤ
  topicId : ℕ
  value : String
  inferer : String
  txhash : String
  deriving DecidableEq, Repr

def targetSuffix : String := "emissions.v10.InsertWorkerPayloadRequest"

def AnyMessage.qualifies (message : AnyMessage) : Bool :=
  targetSuffix.toList.isSuffixOf message.typeUrl.toList

/-- The record of a payload, when none of its parts is missing. -/
def recordOf (msg : InsertWorkerPayloadRequest) (resp : TxResponse) : Option Record := do
  let bundle ← msg.workerDataBundle
  let forecasts ← bundle.inferenceForecastsBundle
  let nonce ← bundle.nonce
  let inference ← forecasts.inference
  pure
    { timestamp := resp.timestamp, code := resp.code, nonceBlockHeight := nonce.blockHeight
      topicId := inference.topicId, value := inference.value, inferer := inference.inferer
      txhash := resp.txhash }

def extractTx (tx : Tx) (resp : TxResponse) : Except ExportError (List Record) :=
  match tx.body with
  | none => .ok []
  | some body => do
    let found ← (body.messages.filter AnyMessage.qualifies).mapM fun message => do
      let msg ← message.unpack.mapError ExportError.unpack
      pure (recordOf msg resp)
    pure (found.filterMap id)

def filterAndExtractData (data : GetTxsEventResponse) : Except ExportError (List Record) := do
  let records ← (data.txs.zip data.txResponses).mapM fun pair => extractTx pair.1 pair.2
  pure records.flatten

/-! ## write_to_csv -/

/-- A field is quoted when it holds a delimiter, a quote or a line break. -/
def csvField (field : Text) : Text :=
  if field.any fun c => c == ',' || c == '"' || c == '\r' || c == '\n' then
    '"' :: (field.flatMap fun c => if c = '"' then ['"', '"'] else [c]) ++ ['"']
  else field

def csvRow (fields : List Text) : Text := [','].intercalate (fields.map csvField) ++ ['\r', '\n']

def fieldnames : List String :=
  ["timestamp", "code", "nonce_block_height", "topic_id", "value", "inferer", "txhash"]

def csvHeader : Text := csvRow (fieldnames.map String.toList)

def Record.fields (record : Record) : List Text :=
  [record.timestamp.toList, (toString record.code).toList, (toString record.nonceBlockHeight).toList,
   (toString record.topicId).toList, record.value.toList, record.inferer.toList, record.txhash.toList]

def csvRows (records : List Record) : Text := records.flatMap fun record => csvRow record.fields

/-- The file after `write_to_csv`; without records it is not even opened. Mode
`w` truncates, mode `a` appends. -/
def writeToCsv (records : List Record) (file : Option Text) (writeHeader : Bool) : Option Text :=
  if records = [] then file
  else if writeHeader then some (csvHeader ++ csvRows records)
  else some (file.getD [] ++ csvRows records)

/-! ## main -/

/-- `TxClient.__init__` sets these attributes. -/
def txClientAttributes : List String := ["query", "tx"]

/-- The arguments of a non-resumed export. `page_size` has a default that is an
`int`; argparse leaves one that is given as the text it is. -/
structure Args where
  startPage : ℤ
  pages : ℤ
  pageSize : Option Text

/-- A query that is not answered raises, or returns `None`. -/
inductive Failure where
  | raised (message : String)
  | none
  deriving DecidableEq, Repr

structure Server where
  failures : ℤ → List Failure
  answer : ℤ → GetTxsEventResponse

/-- `client.tx.get_txs_event(req)` and the check of its result, at query number
`tries` of the page. -/
def getTxsEvent (client : List String) (server : Server) (page : ℤ) (tries : ℕ) :
    Except ExportError GetTxsEventResponse :=
  if client.contains "get_txs_event" then
    match (server.failures page)[tries]? with
    | some (.raised message) => .error (.query message)
    | some .none => .error .respIsNone
    | none => .ok (server.answer page)
  else .error .attributeError

/-- `ceil(resp.total / args.page_size)`: an `int` cannot be divided by text. -/
def totalPages (pageSize : Option Text) (total : ℕ) : Except ExportError ℕ :=
  match pageSize with
  | none => .ok ((total + 9) / 10)
  | some _ => .error .typeError

/-- The locals of `main`, the output file, and how often the node was asked for
the current page. -/
structure State where
  page : ℤ
  writeHeader : Bool
  file : Option Text
  tries : ℕ

def start (args : Args) (file : Option Text) : State where
  page := args.startPage
  writeHeader := true
  file := file
  tries := 0

/-- One pass through the loop. An exception is printed, and what was assigned
before it stays. -/
def turn (client : List String) (args : Args) (server : Server) (s : State) : State :=
  if s.page ≤ args.pages then
    match getTxsEvent client server s.page s.tries with
    | .error _ => { s with tries := s.tries + 1 }
    | .ok resp =>
      match filterAndExtractData resp with
      | .error _ => { s with tries := s.tries + 1 }
      | .ok records =>
        let written : State :=
          { s with file := writeToCsv records s.file s.writeHeader, writeHeader := false, tries := s.tries + 1 }
        match totalPages args.pageSize resp.total with
        | .error _ => written
        | .ok _ => { written with page := s.page + 1, tries := 0 }
  else s

/-- The state after `n` turns. -/
def run (client : List String) (args : Args) (server : Server) (file : Option Text) (n : ℕ) : State :=
  (turn client args server)^[n] (start args file)

/-- `while page <= int(args.pages)` is over. -/
def State.Done (args : Args) (s : State) : Prop := args.pages < s.page

end AlloraSdk.Source.Tools.ExportTxs
