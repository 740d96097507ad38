import NodeLedger.Session

/-!
Queries that are tried more than once.  A failed query is logged and tried again after a pause; the
request for a shutdown ends the attempts at once.  An answer that cannot be read is a failure of its
own and is not asked for again.
-/

namespace NodeLedger

open NodeLedger.Numeral

/-- How often and how soon a query is tried. -/
structure RetryPolicy where
  maxAttempts : Int := 3
  /-- The seconds between two attempts. -/
  pause : Binary64 := .ofDecimal false 5 (-1)
  /-- Whether a shutdown ends the attempts. -/
  endsAtShutdown : Bool := true
  deriving Repr

namespace RetryPolicy

variable {α : Type}

/-- Pause after a failed attempt. -/
def rest (policy : RetryPolicy) : Action Unit := do
  if policy.endsAtShutdown then
    if ← Shutdown.wait policy.pause then throw (.price .shuttingDown)
  else Shutdown.sleep policy.pause

/-- Fail if a shutdown ends the attempts. -/
def checkRunning (policy : RetryPolicy) : Action Unit := do
  if policy.endsAtShutdown then
    if ← Shutdown.requested then throw (.price .shuttingDown)

/-- Try a query again and again, with so many attempts done and so many left. -/
def attempts (policy : RetryPolicy) (query : Action String) (read : String → Except Failure α)
    (done : Nat) : (left : Nat) → Action α
  | 0 => throw (.price (.retriesExhausted policy.maxAttempts))
  | left + 1 => do
    policy.checkRunning
    match ← Action.attempt query with
    | .ok reply => read reply
    | .error failure =>
      Action.log .error ("http get attempt: " ++ toString done ++ " failed: " ++ failure.message)
      policy.rest
      policy.attempts query read (done + 1) left

/-- Ask a query as often as the policy allows and read its answer. -/
def run (policy : RetryPolicy) (query : Action String) (read : String → Except Failure α) :
    Action α :=
  policy.attempts query read 0 policy.maxAttempts.toNat

end RetryPolicy

/-- How a price service is asked. -/
structure QuerySettings where
  retry : RetryPolicy := {}
  /-- The seconds after which a query fails. -/
  timeout : Int := 10
  deriving Repr

/-- Ask a price service, and log what is asked for. -/
def QuerySettings.fetch (settings : QuerySettings) (service url : String)
    (params : List (String × Value)) : Action String := do
  Action.log .debug (service ++ " url: " ++ url ++ " " ++ (Value.object params).display)
  Http.fetch url (.object params) settings.timeout

end NodeLedger
