import Mathlib.Algebra.Order.Field.Rat

/-!
The global circuit breaker of `circuit_breaker_repo`: a running count of
consecutive live losses kept in the risk settings, and the cooldown it starts.
-/

namespace Forex

/-- The circuit-breaker columns of the risk settings. -/
structure BreakerSettings where
  enabled : Bool
  losses : ℤ
  cooldownMins : ℤ
  activeUntil : ℚ
  consecLosses : ℤ
deriving DecidableEq, Repr

structure BreakerState where
  enabled : Bool
  lossesThreshold : ℤ
  cooldownMins : ℤ
  activeUntil : ℚ
  consecLosses : ℤ
  isActive : Bool
  remainingSecs : ℚ
  /-- The key is missing from a bare `get_circuit_breaker_state`. -/
  justTriggered : Option Bool
deriving DecidableEq, Repr

/-- What one outcome writes; the end of the cooldown only when it trips. -/
structure BreakerUpdate where
  consecLosses : ℤ
  activeUntil : Option ℚ
deriving DecidableEq, Repr

/-- `int(value or default)`. -/
def intOr (value fallback : ℤ) : ℤ := if value = 0 then fallback else value

def BreakerUpdate.apply (u : BreakerUpdate) (rs : BreakerSettings) : BreakerSettings :=
  { rs with
    consecLosses := u.consecLosses
    activeUntil := u.activeUntil.getD rs.activeUntil }

namespace BreakerSettings
variable (rs : BreakerSettings)

def threshold : ℤ := intOr rs.losses 3

def cooldown : ℤ := intOr rs.cooldownMins 60

def getCircuitBreakerState (now : ℚ) : BreakerState :=
  let isActive := rs.enabled && decide (now < rs.activeUntil)
  { enabled := rs.enabled
    lossesThreshold := rs.threshold
    cooldownMins := rs.cooldown
    activeUntil := rs.activeUntil
    consecLosses := rs.consecLosses
    isActive := isActive
    remainingSecs := if isActive then max 0 (rs.activeUntil - now) else 0
    justTriggered := none }

def outcomeUpdate (won : Bool) (now : ℚ) : BreakerUpdate :=
  if won then ⟨0, none⟩
  else
    let consec := rs.consecLosses + 1
    if 0 < rs.threshold ∧ rs.threshold ≤ consec then ⟨0, some (now + rs.cooldown * 60)⟩
    else ⟨consec, none⟩

def recordLiveTradeOutcome (won : Bool) (now : ℚ) : BreakerSettings × BreakerState :=
  if rs.enabled then
    let u := rs.outcomeUpdate won now
    let rs := u.apply rs
    (rs, { rs.getCircuitBreakerState now with justTriggered := some u.activeUntil.isSome })
  else (rs, rs.getCircuitBreakerState now)

/-- `_quiet_state`. -/
def quietState (now : ℚ) : BreakerState :=
  { rs.getCircuitBreakerState now with justTriggered := some false }

end BreakerSettings

end Forex
