import NodeLedger.Value.Access

/-!
What happens while the program runs: it reads the clock, writes log lines, asks price services and
the node, and waits until a shutdown is requested.  A session holds all that these actions can see
and all that others can see of them.

* `Action` is the type of what is done in a session; it ends with a value or a failure, and keeps
  the session either way.
-/

namespace NodeLedger

open NodeLedger.Numeral

/-- The importance of a log line. -/
inductive LogLevel where
  | debug
  | info
  | warn
  | error
  deriving DecidableEq, Repr

/-- The name of a level. -/
def LogLevel.name : LogLevel → String
  | debug => "debug"
  | info => "info"
  | warn => "warn"
  | error => "error"

/-- A line of the log. -/
structure LogLine where
  level : LogLevel
  text : String
  deriving DecidableEq, Repr

/-- What comes of a request to a price service: the body of an answer that the client accepts, or
the text with which the request fails.  The request for a shutdown may arrive meanwhile. -/
structure HttpOutcome where
  body : Except String String
  interrupts : Bool := false

/-- The body, or the failure. -/
def HttpOutcome.result (outcome : HttpOutcome) : Except Failure String :=
  outcome.body.mapError .connection

/-- What will come of requests to the price services: what is listed, in order, and behind that the
same failure for every request. -/
structure HttpOutcomes where
  listed : List HttpOutcome := []
  /-- The text of that failure. -/
  silence : String := ""

namespace HttpOutcomes

/-- How many outcomes are listed. -/
def length (outcomes : HttpOutcomes) : Nat :=
  outcomes.listed.length

/-- What comes of the next request. -/
def next (outcomes : HttpOutcomes) : HttpOutcome :=
  outcomes.listed.head?.getD { body := .error outcomes.silence }

/-- What comes of the requests behind some. -/
def drop (outcomes : HttpOutcomes) (n : Nat) : HttpOutcomes :=
  { outcomes with listed := outcomes.listed.drop n }

end HttpOutcomes

/-- A request to a price service. -/
structure HttpRequest where
  url : String
  params : Value
  timeout : Int
  /-- Whether a shutdown had been requested before. -/
  afterShutdown : Bool
  deriving Repr

/-- A call to the node. -/
structure RpcCall where
  method : String
  payload : Value
  deriving Repr

/-- A transaction that the wallet knows: its hash, and all that the node tells of it. -/
structure WalletTransaction where
  hash : Value
  content : Value
  deriving Repr

/-- What has been fetched from the node for the report at hand. -/
structure NodeCache where
  /-- The events of the bookkeeper. -/
  events : Option Value := none
  /-- Whether the bookkeeper answers. -/
  bookkeeper : Option Bool := none
  /-- The transactions of the wallet by their hashes. -/
  transactions : Option (Table Key WalletTransaction) := none
  /-- The amounts of the outputs of the wallet by their outpoints. -/
  outputs : Option (Table String Int) := none
  closedChannels : Option Value := none
  /-- The times of blocks by their heights. -/
  blockTimes : List (Int × Int) := []
  pubkey : Option Value := none
  deriving Repr

/-- The state of a session. -/
structure Session where
  /-- The time, in seconds since 1970. -/
  now : Int := 0
  log : List LogLine := []
  /-- Whether a shutdown has been requested. -/
  shutdown : Bool := false
  /-- After how many more waits a shutdown is requested. -/
  waitsLeft : Option Int := none
  waits : List Binary64 := []
  /-- What will come of requests to the price services. -/
  replies : HttpOutcomes := {}
  requests : List HttpRequest := []
  /-- How the node answers a method with a payload: a result, or an error of its own. -/
  node : String → Value → Except Value Value := fun _ _ => .ok .null
  calls : List RpcCall := []
  cache : NodeCache := {}
  /-- The times for which a price has been looked up. -/
  valued : List Int := []

namespace Session

/-- A session with one more line in its log. -/
def write (session : Session) (line : LogLine) : Session :=
  { session with log := session.log ++ [line] }

/-- A session in which the price of one more time has been looked up. -/
def noteValued (session : Session) (time : Int) : Session :=
  { session with valued := session.valued ++ [time] }

@[simp] theorem now_write (session : Session) (line : LogLine) :
    (session.write line).now = session.now :=
  rfl

@[simp] theorem now_noteValued (session : Session) (time : Int) :
    (session.noteValued time).now = session.now :=
  rfl

end Session

/-- Something done in a session. -/
abbrev Action := ExceptT Failure (StateM Session)

namespace Action

/-- The time. -/
def now : Action Int :=
  return (← get).now

/-- Write a log line. -/
def log (level : LogLevel) (text : String) : Action Unit :=
  modify fun s => s.write ⟨level, text⟩

/-- Do something and give its failure as a value. -/
def attempt {α : Type} (act : Action α) : Action (Except Failure α) :=
  ExceptT.mk (Except.ok <$> act.run)

end Action

/-! ## Shutdown -/

namespace Shutdown

/-- Whether a shutdown has been requested. -/
def requested : Action Bool :=
  return (← get).shutdown

/-- Request a shutdown. -/
def request : Action Unit :=
  modify fun s => { s with shutdown := true }

/-- Wait so many seconds or until a shutdown is requested, and tell whether it has been. -/
def wait (seconds : Binary64) : Action Bool := do
  modify fun s => { s with
    waits := s.waits ++ [seconds]
    shutdown := s.shutdown || s.waitsLeft == some 1
    waitsLeft := s.waitsLeft.map (· - 1) }
  requested

/-- Wait so many seconds, whatever is requested. -/
def sleep (seconds : Binary64) : Action Unit :=
  modify fun s => { s with waits := s.waits ++ [seconds] }

end Shutdown

/-! ## Price services and node -/

namespace Http

/-- What comes of a request that has been sent. -/
def receive : Action String := do
  let outcome := (← get).replies.next
  modify fun s => { s with
    replies := s.replies.drop 1
    shutdown := s.shutdown || outcome.interrupts }
  outcome.result

/-- Send a request and take the answer's body. -/
def fetch (url : String) (params : Value) (timeout : Int) : Action String := do
  modify fun s => { s with requests := s.requests ++ [⟨url, params, timeout, s.shutdown⟩] }
  receive

end Http

/-- Change what is remembered of the node. -/
def NodeCache.update (change : NodeCache → NodeCache) : Action Unit :=
  modify fun s => { s with cache := change s.cache }

/-- What is remembered of the node. -/
def NodeCache.current : Action NodeCache :=
  return (← get).cache

namespace Rpc

/-- Note a call. -/
def note (method : String) (payload : Value) : Action Unit :=
  modify fun s => { s with calls := s.calls ++ [⟨method, payload⟩] }

/-- What the node answers to a call. -/
def answer (method : String) (payload : Value) : Action Value := do
  match (← get).node method payload with
  | .ok result => return result
  | .error error => throw (.rpc ⟨method, payload, error⟩)

/-- Call a method of the node. -/
def call (method : String) (payload : Value) : Action Value := do
  note method payload
  answer method payload

/-- Call a method of the node that takes nothing. -/
def ask (method : String) : Action Value :=
  call method (.object [])

end Rpc

end NodeLedger
