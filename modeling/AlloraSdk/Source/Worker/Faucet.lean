import AlloraSdk.Source.TxManager.Messages
import AlloraSdk.Source.Utils.PyNumbers

/-!
# The testnet faucet

Source: worker/worker.py, `_maybe_faucet_request`.

The faucet, the node and the clock are the environment. No await is cancelled.
-/

namespace AlloraSdk.Source.Worker
open AlloraSdk.Logic AlloraSdk.Source.TxManager AlloraSdk.Source.Utils

/-- The fields that a faucet request reads; `chainId` when `initialized`. -/
structure FaucetClient where
  initialized : Bool
  chainId : Option String
  faucetUrl : Option String
  address : String
  apiKey : Option String

inductive FaucetQuery where
  /-- Its answer is the chain id that the worker holds afterwards. -/
  | ensureInitialized
  /-- `bank.query.balance` of the address, in uallo: the text of the amount. -/
  | balance (address : String)
  /-- `requests.post`, and `raise_for_status()`. -/
  | post (url address apiKey : String)
  | sleep (secs : ℕ)
  | stop
  deriving DecidableEq, Repr

/-- What a request raises: a `requests.HTTPError`, with the status code of its
response when it has one, or another exception. -/
inductive RequestFailure where
  | httpError (status : Option ℕ)
  | raised (error : PyException)
  deriving DecidableEq, Repr

abbrev FaucetReply : FaucetQuery → Type
  | .ensureInitialized => Except RequestFailure (Option String)
  | .balance _ => Except RequestFailure (Option String)
  | .post _ _ _ => Except RequestFailure Unit
  | .sleep _ => Unit
  | .stop => Unit

abbrev FaucetEvent := Event FaucetQuery FaucetReply

/-- What leaves `_maybe_faucet_request`. `except Exception` does not catch
SystemExit. -/
inductive FaucetError where
  | failed (failure : RequestFailure)
  | systemExit
  deriving DecidableEq, Repr

abbrev FaucetAct := Routine FaucetError Unit FaucetQuery FaucetReply

def minAllo : ℤ := 100000000
def maxFaucetRetries : ℕ := 5
def maxBalancePolls : ℕ := 12

def faucetAsk (query : FaucetQuery) : FaucetAct (FaucetReply query) := Routine.await query

/-- Return or raise what was replied. -/
def demandReply {α : Type} (reply : Except RequestFailure α) : FaucetAct α :=
  Routine.ofExcept (reply.mapError .failed)

/-- `int(resp.balance.amount)`. -/
def parseAmount (amount : String) : Except RequestFailure ℤ :=
  match pyInt amount.toList with
  | some value => .ok value
  | none => .error (.raised (.other ("invalid literal for int() with base 10: '" ++ amount ++ "'")))

/-- At most `n` polls of the balance: whether one of them was sufficient. -/
def pollBalance (client : FaucetClient) : ℕ → FaucetAct Bool
  | 0 => pure false
  | n + 1 => do
    faucetAsk (.sleep 5)
    let reply ← faucetAsk (.balance client.address)
    let balance ← demandReply reply
    match balance with
    | none => pollBalance client n
    | some amount => do
      let value ← demandReply (parseAmount amount)
      if minAllo ≤ value then pure true else pollBalance client n

/-- The body of the `try`. -/
def requestFunds (client : FaucetClient) (url : String) : FaucetAct Bool := do
  let reply ← faucetAsk (.post (url ++ "/api/request") client.address
    ((client.apiKey.filter (· ≠ "")).getD "None"))
  demandReply reply
  pollBalance client maxBalancePolls

/-- Its `except` clauses. -/
def onFaucetError : FaucetError → FaucetAct Bool
  | .failed (.httpError (some 429)) => do
    faucetAsk .stop
    throw .systemExit
  | .failed _ => pure false
  | .systemExit => throw .systemExit

def faucetFailure : FaucetError :=
  .failed (.raised (.runtimeError "faucet request failed after 5 attempts"))

/-- `for faucet_attempt in range(MAX_FAUCET_RETRIES)`, with `n` attempts to go. -/
def faucetAttempts (client : FaucetClient) (url : String) : ℕ → FaucetAct Unit
  | 0 => throw faucetFailure
  | n + 1 => do
    let funded ← tryCatch (requestFunds client url) onFaucetError
    if funded = true then pure () else do
      faucetAsk (.sleep 15)
      faucetAttempts client url n

def balanceUnknown (client : FaucetClient) : FaucetError :=
  .failed (.raised (.runtimeError ("could not check balance for " ++ client.address)))

/-- From the first balance query on. -/
def requestIfLow (client : FaucetClient) (url : String) : FaucetAct Unit := do
  let reply ← faucetAsk (.balance client.address)
  let balance ← demandReply reply
  match balance with
  | none => throw (balanceUnknown client)
  | some amount => do
    let value ← demandReply (parseAmount amount)
    if minAllo ≤ value then pure () else faucetAttempts client url maxFaucetRetries

/-- The faucet that the client may ask, on the testnet only. -/
def FaucetClient.faucet (client : FaucetClient) (chainId : Option String) : Option String :=
  if chainId = some "allora-testnet-1" then client.faucetUrl.filter (· ≠ "") else none

/-- The chain id, after `_ensure_initialized` where it is still due. -/
def knownChainId (client : FaucetClient) : FaucetAct (Option String) :=
  if client.initialized = true then pure client.chainId else do
    let reply ← faucetAsk .ensureInitialized
    demandReply reply

def maybeFaucetRequest (client : FaucetClient) : FaucetAct Unit := do
  let chainId ← knownChainId client
  match client.faucet chainId with
  | none => pure ()
  | some url => requestIfLow client url

end AlloraSdk.Source.Worker
