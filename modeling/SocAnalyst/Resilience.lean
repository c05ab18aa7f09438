import Mathlib.Algebra.Order.Field.Rat
import SocAnalyst.Builtins
import SocAnalyst.Dicts
import SocAnalyst.Doubles

/-!
# Resilience primitives

The cache, the rate limiter and the circuit breaker of `integrations/resilience.py`.
Every operation that reads the clock takes its reading as an argument. Readings and token
counts are rationals; what is computed from them is rounded as the arithmetic in force has it.
-/
namespace SocAnalyst.Resilience
open SocAnalyst.Builtins SocAnalyst.Dicts SocAnalyst.Doubles SocAnalyst.Doubles.Rounding

/-! ### Cache -/

structure CacheEntry (α : Type) where
  value : α
  expiresAt : ℚ

/-- A bounded cache whose entries expire, and can still be read when stale. -/
structure TtlCache (α : Type) where
  ttl : ℚ
  maxEntries : Nat := 1024
  entries : Dict Text (CacheEntry α) := .empty

namespace TtlCache
variable [Rounding] {α : Type}

/-- A live value, or nothing if absent or expired. -/
def get (cache : TtlCache α) (key : Text) (now : ℚ) : Option α × TtlCache α :=
  match cache.entries.get? key with
  | none => (none,cache)
  | some entry =>
    if entry.expiresAt ≤ now then (none,cache)
    else (some entry.value,{ cache with entries := cache.entries.moveToEnd key })

/-- A value even if it has expired. -/
def getStale (cache : TtlCache α) (key : Text) : Option α := (cache.entries.get? key).map (·.value)

/-- Store a value, evicting the least recently used entries when full. -/
def set (cache : TtlCache α) (key : Text) (value : α) (now : ℚ) : TtlCache α :=
  if cache.ttl ≤ 0 then cache
  else
    let stored := (cache.entries.set key ⟨value,fl (now + cache.ttl)⟩).moveToEnd key
    { cache with entries := stored.dropOldest (stored.entries.length - cache.maxEntries) }

def clear (cache : TtlCache α) : TtlCache α := { cache with entries := .empty }

def size (cache : TtlCache α) : Nat := cache.entries.entries.length

end TtlCache

/-! ### Rate limiter -/

/-- Token bucket: bursts up to `capacity`, sustained at `perSecond`. -/
structure RateLimiter where
  capacity : Nat
  perSecond : ℚ
  tokens : ℚ
  updatedAt : ℚ
  positive : 1 ≤ capacity

namespace RateLimiter
variable [Rounding]

def refill (limiter : RateLimiter) (now : ℚ) : RateLimiter :=
  { limiter with
    updatedAt := now
    tokens := min (fl limiter.capacity) (fl (limiter.tokens + fl (max 0 (fl (now - limiter.updatedAt)) * limiter.perSecond))) }

/-- Tokens currently available, after refill. -/
def available (limiter : RateLimiter) (now : ℚ) : ℚ × RateLimiter := ((limiter.refill now).tokens,limiter.refill now)

/-- Take tokens if available; report refusal rather than blocking. -/
def tryAcquire (limiter : RateLimiter) (now : ℚ) (tokens : ℚ := 1) : Bool × RateLimiter :=
  if (limiter.refill now).tokens < tokens then (false,limiter.refill now)
  else (true,{ limiter.refill now with tokens := fl ((limiter.refill now).tokens - tokens) })

end RateLimiter

/-! ### Circuit breaker -/

inductive BreakerState where
  | CLOSED
  | OPEN
  | HALF_OPEN
  deriving DecidableEq, Repr

/-- Trips after repeated failures; probes once before closing again. -/
structure CircuitBreaker where
  failureThreshold : Nat
  resetSeconds : ℚ
  failures : Nat := 0
  openedAt : Option ℚ := none
  halfOpen : Bool := false
  positive : 1 ≤ failureThreshold

namespace CircuitBreaker

section
variable [Rounding]

/-- The breaker's state, accounting for elapsed recovery time. -/
def state (breaker : CircuitBreaker) (now : ℚ) : BreakerState :=
  match breaker.openedAt with
  | none => .CLOSED
  | some openedAt => if breaker.resetSeconds ≤ fl (now - openedAt) then .HALF_OPEN else .OPEN

/-- Whether a call may proceed; half open, exactly one probe may. -/
def allow (breaker : CircuitBreaker) (now : ℚ) : Bool × CircuitBreaker :=
  match breaker.state now with
  | .CLOSED => (true,breaker)
  | .OPEN => (false,breaker)
  | .HALF_OPEN => if breaker.halfOpen then (false,breaker) else (true,{ breaker with halfOpen := true })

end

/-- The dependency is healthy. -/
def recordSuccess (breaker : CircuitBreaker) : CircuitBreaker :=
  { breaker with failures := 0, openedAt := none, halfOpen := false }

/-- Count a failure, tripping the breaker once the threshold is reached. -/
def recordFailure (breaker : CircuitBreaker) (now : ℚ) : CircuitBreaker :=
  if breaker.halfOpen then { breaker with openedAt := some now, halfOpen := false }
  else
    { breaker with
      failures := breaker.failures + 1
      openedAt := if breaker.failureThreshold ≤ breaker.failures + 1 ∧ breaker.openedAt = none then some now else breaker.openedAt }

@[simp] theorem recordSuccess_halfOpen (breaker : CircuitBreaker) : breaker.recordSuccess.halfOpen = false := rfl

/-- A reported failure always gives the probe back. -/
@[simp] theorem recordFailure_halfOpen (breaker : CircuitBreaker) (now : ℚ) : (breaker.recordFailure now).halfOpen = false := by
  cases probing : breaker.halfOpen <;> simp [recordFailure,probing]

/-- Without a probe outstanding, a call is refused only while the breaker is open. -/
theorem allow_of_clear [Rounding] {breaker : CircuitBreaker} {now : ℚ} (clear : breaker.halfOpen = false) :
    breaker.allow now = (decide (breaker.state now ≠ .OPEN),{ breaker with halfOpen := decide (breaker.state now = .HALF_OPEN) }) := by
  obtain ⟨threshold,reset,failures,openedAt,halfOpen,positive⟩ := breaker
  cases clear
  unfold allow
  split <;> simp_all

end CircuitBreaker

/-! ### Both guards of a call -/

/-- What stands between a caller and its dependency. -/
structure Guards where
  limiter : RateLimiter
  breaker : CircuitBreaker

inductive Admission where
  | circuitOpen
  | rateLimited
  | admitted
  deriving DecidableEq, Repr

/-- How an admitted call ends: with a reported success, a reported failure, or an
    exception that leaves without a report. -/
inductive Ending where
  | succeeded
  | failed
  | unreported
  deriving DecidableEq, Repr

namespace Guards
variable [Rounding]

/-- The breaker is asked first, then the limiter. -/
def enter (guards : Guards) (asked limited : ℚ) : Admission × Guards :=
  if !(guards.breaker.allow asked).1 then (.circuitOpen,{ guards with breaker := (guards.breaker.allow asked).2 })
  else if !(guards.limiter.tryAcquire limited).1 then
    (.rateLimited,⟨(guards.limiter.tryAcquire limited).2,(guards.breaker.allow asked).2⟩)
  else (.admitted,⟨(guards.limiter.tryAcquire limited).2,(guards.breaker.allow asked).2⟩)

def conclude (guards : Guards) (recorded : ℚ) : Ending → Guards
  | .succeeded => { guards with breaker := guards.breaker.recordSuccess }
  | .failed => { guards with breaker := guards.breaker.recordFailure recorded }
  | .unreported => guards

/-- A whole call, as the guards see it. -/
def call (guards : Guards) (asked limited recorded : ℚ) (ending : Ending) : Guards :=
  match (guards.enter asked limited).1 with
  | .admitted => (guards.enter asked limited).2.conclude recorded ending
  | _ => (guards.enter asked limited).2

/-- No probe is outstanding. -/
def Clear (guards : Guards) : Prop := guards.breaker.halfOpen = false

instance (guards : Guards) : Decidable guards.Clear := inferInstanceAs (Decidable (guards.breaker.halfOpen = false))

/-- The limiter has a token at this reading. -/
def HasToken (guards : Guards) (limited : ℚ) : Prop := (guards.limiter.tryAcquire limited).1 = true

/-- A call that is the probe gets its token and reports how it ended. -/
def Resolves (guards : Guards) (asked limited : ℚ) (ending : Ending) : Prop :=
  guards.breaker.state asked = .HALF_OPEN → guards.HasToken limited ∧ ending ≠ .unreported

variable {guards : Guards} {asked limited recorded : ℚ} {ending : Ending}

theorem admitted_iff (clear : guards.Clear) :
    (guards.enter asked limited).1 = .admitted ↔ guards.breaker.state asked ≠ .OPEN ∧ guards.HasToken limited := by
  unfold enter HasToken
  rw [CircuitBreaker.allow_of_clear clear]
  by_cases refused : guards.breaker.state asked = .OPEN
  · simp [refused]
  · cases token : (guards.limiter.tryAcquire limited).1 <;> simp [refused]

theorem enter_halfOpen (clear : guards.Clear) :
    (guards.enter asked limited).2.breaker.halfOpen = decide (guards.breaker.state asked = .HALF_OPEN) := by
  unfold enter
  rw [CircuitBreaker.allow_of_clear clear]
  split_ifs <;> rfl

/-- A call gives the probe back exactly when it resolves it. -/
theorem call_clear_iff (clear : guards.Clear) : (guards.call asked limited recorded ending).Clear ↔ guards.Resolves asked limited ending := by
  have probing : (guards.enter asked limited).2.breaker.halfOpen = decide (guards.breaker.state asked = .HALF_OPEN) := enter_halfOpen clear
  have passes : (guards.enter asked limited).1 = .admitted ↔ _ := admitted_iff clear
  unfold call Resolves
  by_cases admitted : (guards.enter asked limited).1 = .admitted
  · obtain ⟨_,token⟩ := passes.mp admitted
    rw [admitted]
    cases ending <;> simp [Clear,conclude,probing,token]
  · have tokenless : guards.breaker.state asked = .HALF_OPEN → ¬ guards.HasToken limited := by
      intro recovered token
      exact admitted (passes.mpr ⟨by simp [recovered],token⟩)
    have left : (guards.call asked limited recorded ending).Clear ↔ guards.breaker.state asked ≠ .HALF_OPEN := by
      unfold call
      split
      · contradiction
      · simp [Clear,probing]
    change (guards.call asked limited recorded ending).Clear ↔ _
    rw [left]
    exact ⟨fun closed recovered => absurd recovered closed,fun resolves recovered => tokenless recovered (resolves recovered).1⟩

/-- A probe that is never given back: every later call is refused. -/
theorem enter_of_stuck (probing : guards.breaker.halfOpen = true) (opened : guards.breaker.openedAt ≠ none) :
    guards.enter asked limited = (.circuitOpen,guards) := by
  have refused : guards.breaker.allow asked = (false,guards.breaker) := by
    unfold CircuitBreaker.allow
    cases shape : guards.breaker.state asked with
    | CLOSED =>
      unfold CircuitBreaker.state at shape
      split at shape
      · contradiction
      · split at shape <;> cases shape
    | OPEN => rfl
    | HALF_OPEN => simp [probing]
  simp [enter,refused]

end Guards
end SocAnalyst.Resilience
