import Mathlib.Tactic.Linarith
import SocAnalyst.Resilience
import SocAnalyst.Runs

/-!
# Histories of a rate limiter

Any sequence of calls on a limiter. Tokens left plus tokens granted never exceed the
tokens there were plus those refilled since, which bounds what any interval is granted.
-/
namespace SocAnalyst.LimiterHistories
open SocAnalyst.Doubles SocAnalyst.Resilience SocAnalyst.Runs

attribute [local instance] exactly

/-- A call with its clock reading. -/
inductive Call where
  | available (now : ℚ)
  | tryAcquire (now tokens : ℚ)

namespace Call

def reading : Call → ℚ
  | .available now => now
  | .tryAcquire now _ => now

/-- What a call asks for. -/
def request : Call → ℚ
  | .available _ => 0
  | .tryAcquire _ tokens => tokens

end Call

/-- The limiter after a call. -/
def perform (limiter : RateLimiter) : Call → RateLimiter
  | .available now => (limiter.available now).2
  | .tryAcquire now tokens => (limiter.tryAcquire now tokens).2

/-- The limiter after a history of calls. -/
def after (limiter : RateLimiter) (calls : List Call) : RateLimiter := calls.foldl perform limiter

/-- What a call is granted. -/
def grants (limiter : RateLimiter) : Call → ℚ
  | .available _ => 0
  | .tryAcquire now tokens => if (limiter.tryAcquire now tokens).1 then tokens else 0

/-- The tokens granted from one time to another, both included. -/
def granted (start stop : ℚ) (limiter : RateLimiter) : List Call → ℚ
  | [] => 0
  | call :: rest => (if start ≤ call.reading ∧ call.reading ≤ stop then grants limiter call else 0) + granted start stop (perform limiter call) rest

/-- The clock readings never go back, from the one the limiter was last refilled at. -/
def Ordered (limiter : RateLimiter) (calls : List Call) : Prop := (limiter.updatedAt :: calls.map Call.reading).Pairwise (· ≤ ·)

/-- The count is between nothing and the capacity, and the rate does not drain it. -/
structure Bounded (limiter : RateLimiter) : Prop where
  rate : 0 ≤ limiter.perSecond
  lower : 0 ≤ limiter.tokens
  upper : limiter.tokens ≤ limiter.capacity

section
variable {limiter : RateLimiter} {call : Call} {calls : List Call}

theorem refill_le (limiter : RateLimiter) (now : ℚ) : (limiter.refill now).tokens ≤ limiter.capacity := min_le_left _ _

theorem Bounded.refill (bounded : Bounded limiter) (now : ℚ) : Bounded (limiter.refill now) := by
  refine ⟨bounded.rate,le_min (Nat.cast_nonneg _) ?_,refill_le limiter now⟩
  have added := mul_nonneg (le_max_left 0 (now - limiter.updatedAt)) bounded.rate
  simp only [fl_exactly]
  linarith [bounded.lower]

/-- A call refills at its reading, then moves what it is granted out of the count. -/
theorem perform_eq (limiter : RateLimiter) (call : Call) :
    perform limiter call = { limiter.refill call.reading with tokens := (limiter.refill call.reading).tokens - grants limiter call } := by
  cases call with
  | available now => simp [perform,RateLimiter.available,grants,Call.reading]
  | tryAcquire now tokens =>
    unfold perform grants RateLimiter.tryAcquire Call.reading
    by_cases few : (limiter.refill now).tokens < tokens <;> simp [few]

/-- What is granted was asked for and there. -/
theorem grants_bounds (bounded : Bounded limiter) (asks : 0 ≤ call.request) :
    0 ≤ grants limiter call ∧ grants limiter call ≤ (limiter.refill call.reading).tokens := by
  have lower := (bounded.refill call.reading).lower
  cases call with
  | available now => exact ⟨le_refl 0,lower⟩
  | tryAcquire now tokens =>
    unfold grants RateLimiter.tryAcquire
    by_cases few : (limiter.refill now).tokens < tokens
    · simpa [few] using lower
    · simpa [few] using ⟨asks,not_lt.mp few⟩

@[simp] theorem perform_updatedAt (limiter : RateLimiter) (call : Call) : (perform limiter call).updatedAt = call.reading := by
  rw [perform_eq]
  rfl

@[simp] theorem perform_capacity (limiter : RateLimiter) (call : Call) : (perform limiter call).capacity = limiter.capacity := by
  rw [perform_eq]
  rfl

@[simp] theorem perform_perSecond (limiter : RateLimiter) (call : Call) : (perform limiter call).perSecond = limiter.perSecond := by
  rw [perform_eq]
  rfl

@[simp] theorem perform_tokens (limiter : RateLimiter) (call : Call) :
    (perform limiter call).tokens = (limiter.refill call.reading).tokens - grants limiter call := by rw [perform_eq]

theorem Bounded.perform (bounded : Bounded limiter) (asks : 0 ≤ call.request) : Bounded (perform limiter call) := by
  obtain ⟨some,most⟩ := grants_bounds bounded asks
  have upper := refill_le limiter call.reading
  constructor
  · simpa using bounded.rate
  · rw [perform_tokens]
    linarith
  · rw [perform_tokens,perform_capacity]
    linarith

theorem Bounded.after (bounded : Bounded limiter) (asks : ∀ call ∈ calls, 0 ≤ call.request) : Bounded (after limiter calls) := by
  induction calls generalizing limiter with
  | nil => exact bounded
  | cons call rest ih =>
    obtain ⟨first,later⟩ := List.forall_mem_cons.mp asks
    exact ih (bounded.perform first) later

theorem after_capacity (limiter : RateLimiter) (calls : List Call) : (after limiter calls).capacity = limiter.capacity := by
  induction calls generalizing limiter with
  | nil => rfl
  | cons call rest ih =>
    rw [after,List.foldl_cons]
    exact (ih (perform limiter call)).trans (perform_capacity limiter call)

theorem Ordered.head (ordered : Ordered limiter (call :: calls)) : limiter.updatedAt ≤ call.reading :=
  (List.pairwise_cons.mp ordered).1 _ (by simp)

theorem Ordered.tail (ordered : Ordered limiter (call :: calls)) : Ordered (perform limiter call) calls := by
  rw [Ordered,perform_updatedAt]
  exact (List.pairwise_cons.mp ordered).2

/-- A refill adds at most what the rate gives for the time passed. -/
theorem refill_add (limiter : RateLimiter) {now : ℚ} (ordered : limiter.updatedAt ≤ now) :
    (limiter.refill now).tokens ≤ limiter.tokens + limiter.perSecond * (now - limiter.updatedAt) := by
  have passed : max 0 (now - limiter.updatedAt) = now - limiter.updatedAt := max_eq_right (by linarith)
  have added : (limiter.refill now).tokens ≤ limiter.tokens + max 0 (now - limiter.updatedAt) * limiter.perSecond := min_le_right _ _
  rw [passed,mul_comm] at added
  exact added

/-! ### What an interval is granted -/

/-- After the end of an interval nothing in it is granted. -/
theorem granted_past {start stop : ℚ} (past : stop < limiter.updatedAt) (ordered : Ordered limiter calls) : granted start stop limiter calls = 0 := by
  induction calls generalizing limiter with
  | nil => rfl
  | cons call rest ih =>
    have later : stop < call.reading := lt_of_lt_of_le past ordered.head
    rw [granted,if_neg (fun inside => absurd inside.2 (not_le.mpr later)),ih (by simpa using later) ordered.tail,add_zero]

/-- What is granted up to a time was there or is refilled until then. -/
theorem granted_le {start stop : ℚ} (bounded : Bounded limiter) (asks : ∀ call ∈ calls, 0 ≤ call.request) (ordered : Ordered limiter calls)
    (reached : limiter.updatedAt ≤ stop) : granted start stop limiter calls ≤ limiter.tokens + limiter.perSecond * (stop - limiter.updatedAt) := by
  induction calls generalizing limiter with
  | nil =>
    have gained := mul_nonneg bounded.rate (sub_nonneg.mpr reached)
    rw [granted]
    linarith [bounded.lower]
  | cons call rest ih =>
    obtain ⟨first,others⟩ := List.forall_mem_cons.mp asks
    have after := bounded.perform first
    have gained := mul_nonneg bounded.rate (sub_nonneg.mpr reached)
    by_cases inside : call.reading ≤ stop
    · have later := ih after others ordered.tail (by simpa using inside)
      have added := refill_add limiter ordered.head
      have given := (grants_bounds bounded first).1
      rw [perform_tokens,perform_perSecond,perform_updatedAt] at later
      rw [granted]
      split_ifs <;> linarith
    · have none : granted start stop (perform limiter call) rest = 0 := granted_past (by simpa using inside) ordered.tail
      rw [granted,none,if_neg (fun both => inside both.2)]
      linarith [bounded.lower]

/-- An interval is granted at most the capacity and what is refilled within it. -/
theorem granted_interval {start stop : ℚ} (bounded : Bounded limiter) (asks : ∀ call ∈ calls, 0 ≤ call.request) (ordered : Ordered limiter calls)
    (forwards : start ≤ stop) : granted start stop limiter calls ≤ limiter.capacity + limiter.perSecond * (stop - start) := by
  have gained := mul_nonneg bounded.rate (sub_nonneg.mpr forwards)
  have room : (0 : ℚ) ≤ limiter.capacity := Nat.cast_nonneg _
  induction calls generalizing limiter with
  | nil =>
    rw [granted]
    linarith
  | cons call rest ih =>
    obtain ⟨first,others⟩ := List.forall_mem_cons.mp asks
    have after := bounded.perform first
    rw [granted]
    by_cases inside : start ≤ call.reading ∧ call.reading ≤ stop
    · -- the first call inside: what it leaves bounds the calls after it
      have later : granted start stop _ rest ≤ _ := granted_le after others ordered.tail (by simpa using inside.2)
      have most := refill_le limiter call.reading
      have since := mul_le_mul_of_nonneg_left (sub_le_sub_left inside.1 stop) bounded.rate
      rw [perform_tokens,perform_perSecond,perform_updatedAt] at later
      rw [if_pos inside]
      linarith
    · have later := ih after others ordered.tail (by simpa using gained) (by simp)
      rw [perform_capacity,perform_perSecond] at later
      rw [if_neg inside]
      linarith

/-- The count stays between nothing and the capacity, no interval is granted more than the
    capacity and what its length refills, and a refusal means the tokens are not there. -/
theorem limiter_histories (full : limiter.tokens = limiter.capacity) (rate : 0 ≤ limiter.perSecond)
    (asks : ∀ call ∈ calls, 0 ≤ call.request) (ordered : Ordered limiter calls) :
    (0 ≤ (after limiter calls).tokens ∧ (after limiter calls).tokens ≤ limiter.capacity) ∧
      (∀ start stop, start ≤ stop → granted start stop limiter calls ≤ limiter.capacity + limiter.perSecond * (stop - start)) ∧
      ∀ now tokens, ((after limiter calls).tryAcquire now tokens).1 = false → ((after limiter calls).available now).1 - tokens < 0 := by
  have bounded : Bounded limiter := ⟨rate,by rw [full]; exact Nat.cast_nonneg _,le_of_eq full⟩
  have held := bounded.after asks
  refine ⟨⟨held.lower,?_⟩,fun start stop forwards => granted_interval bounded asks ordered forwards,?_⟩
  · have upper := held.upper
    rwa [after_capacity] at upper
  · intro now tokens refused
    unfold RateLimiter.tryAcquire at refused
    split_ifs at refused with few
    exact sub_neg.mpr few

end

/-- A burst of two on a bucket of two, then one more after a second: no more than the bound. -/
theorem granted_burst :
    granted 0 1 ⟨2,1,2,0,by decide⟩ [.tryAcquire 0 2,.tryAcquire 0 1,.tryAcquire 1 1] ≤ 2 + 1 * (1 - 0) := by
  have ordered : Ordered ⟨2,1,2,0,by decide⟩ [.tryAcquire 0 2,.tryAcquire 0 1,.tryAcquire 1 1] := by simp [Ordered,Call.reading]
  have asks : ∀ call ∈ [Call.tryAcquire 0 2,.tryAcquire 0 1,.tryAcquire 1 1], 0 ≤ call.request := by simp [Call.request]
  exact (limiter_histories rfl (by decide) asks ordered).2.1 0 1 (by decide)

end SocAnalyst.LimiterHistories
