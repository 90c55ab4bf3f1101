/-!
# Download parameters

The parameters of the client that fetches rule-sets, with their defaults and permitted ranges.
-/

namespace ProxyConfig

/-- Parameters of the HTTP client, in seconds. -/
structure HttpClient where
  connectTimeout : Nat := 5
  requestTimeout : Nat := 60
  idleTimeout : Option Nat := some 10
  keepalive : Option Nat := some 30
  agent : Option String := none
deriving Repr, DecidableEq, Inhabited

/-- How often a failed request is repeated, and after how many seconds. -/
structure Retry where
  attempts : Nat
  delay : Nat
deriving Repr, DecidableEq, Inhabited

/-- Parameters of the download of rule-sets. -/
structure Download where
  client : HttpClient := {}
  retry : Option Retry := none
  proxy : Option String := none
  /-- The largest accepted file, in bytes. -/
  maxSize : Nat := 20 * 1024 * 1024
deriving Repr, DecidableEq, Inhabited

/-- A closed interval of numbers. -/
structure Interval where
  least : Nat
  greatest : Nat
deriving Repr, DecidableEq

/-- The number lies in the interval. -/
def Interval.contains (interval : Interval) (n : Nat) : Bool :=
  interval.least ≤ n && n ≤ interval.greatest

theorem Interval.contains_iff {interval : Interval} {n : Nat} :
    interval.contains n = true ↔ interval.least ≤ n ∧ n ≤ interval.greatest := by
  simp [Interval.contains]

namespace Download

/-- Permitted connect timeouts. -/
def connectTimeouts : Interval := ⟨1, 120⟩

/-- Permitted request timeouts. -/
def requestTimeouts : Interval := ⟨1, 1200⟩

/-- Permitted idle timeouts. -/
def idleTimeouts : Interval := ⟨5, 1800⟩

/-- Permitted keepalive times. -/
def keepaliveTimes : Interval := ⟨5, 600⟩

/-- Permitted counts of attempts. -/
def retryAttempts : Interval := ⟨1, 10⟩

/-- Permitted delays between attempts. -/
def retryDelays : Interval := ⟨1, 120⟩

end Download
end ProxyConfig
