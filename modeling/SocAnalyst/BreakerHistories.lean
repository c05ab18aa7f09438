import Mathlib.Tactic.Linarith
import SocAnalyst.Resilience
import SocAnalyst.Runs

/-!
# Histories of a circuit breaker

Any sequence of calls on a breaker, also with failures that calls admitted earlier report
late. While it is open, the time kept in `openedAt` is not before any admitted call unless
a probe is out, and a probe is followed by none until a failure resets that time.
-/
namespace SocAnalyst.BreakerHistories
open SocAnalyst.Doubles SocAnalyst.Doubles.Rounding SocAnalyst.Resilience SocAnalyst.Runs

/-- A call, with the clock reading of those that may take one. -/
inductive Call where
  | allow (now : ℚ)
  | recordSuccess
  | recordFailure (now : ℚ)

/-- The breaker after a call. -/
def perform [Rounding] (breaker : CircuitBreaker) : Call → CircuitBreaker
  | .allow now => (breaker.allow now).2
  | .recordSuccess => breaker.recordSuccess
  | .recordFailure now => breaker.recordFailure now

/-- The breaker after a history of calls. -/
def after [Rounding] (breaker : CircuitBreaker) (calls : List Call) : CircuitBreaker := calls.foldl perform breaker

def Call.reading : Call → Option ℚ
  | .allow now => some now
  | .recordSuccess => none
  | .recordFailure now => some now

/-- The clock readings of a history never go back. -/
def Ordered (calls : List Call) : Prop := (calls.filterMap Call.reading).Pairwise (· ≤ ·)

/-- The failures reported since the last success. -/
def failuresSince (calls : List Call) : Nat :=
  calls.foldl (fun count call => match call with
    | .allow _ => count
    | .recordSuccess => 0
    | .recordFailure _ => count + 1) 0

/-- The call trips the closed breaker. -/
def Opens [Rounding] (breaker : CircuitBreaker) (calls : List Call) (call : Call) : Prop :=
  (after breaker calls).openedAt = none ∧ (after breaker (calls ++ [call])).openedAt ≠ none

/-- The breaker opened at this time, and no success came since. -/
def OpenSince [Rounding] (breaker : CircuitBreaker) (calls : List Call) (time : ℚ) : Prop :=
  ∃ before later, calls = before ++ .recordFailure time :: later ∧ Opens breaker before (.recordFailure time) ∧ .recordSuccess ∉ later

/-- A call was admitted at this time. -/
def Admitted [Rounding] (breaker : CircuitBreaker) (calls : List Call) (time : ℚ) : Prop :=
  ∃ before later, calls = before ++ .allow time :: later ∧ ((after breaker before).allow time).1 = true

section
variable {breaker : CircuitBreaker} {calls : List Call}

@[simp] theorem failuresSince_allow (calls : List Call) (now : ℚ) : failuresSince (calls ++ [.allow now]) = failuresSince calls := by
  simp [failuresSince]

@[simp] theorem failuresSince_recordSuccess (calls : List Call) : failuresSince (calls ++ [.recordSuccess]) = 0 := by simp [failuresSince]

@[simp] theorem failuresSince_recordFailure (calls : List Call) (now : ℚ) :
    failuresSince (calls ++ [.recordFailure now]) = failuresSince calls + 1 := by simp [failuresSince]

theorem failuresSince_snoc_le (calls : List Call) (call : Call) : failuresSince (calls ++ [call]) ≤ failuresSince calls + 1 := by
  cases call <;> simp

/-- The readings before a last call, and that they are not after its own. -/
theorem ordered_snoc {call : Call} (ordered : Ordered (calls ++ [call])) :
    Ordered calls ∧ ∀ now, call.reading = some now → ∀ earlier ∈ calls, ∀ time, earlier.reading = some time → time ≤ now := by
  rw [Ordered,List.filterMap_append,List.pairwise_append] at ordered
  refine ⟨ordered.1,?_⟩
  intro now read earlier member time taken
  exact ordered.2.2 time (List.mem_filterMap.mpr ⟨earlier,member,taken⟩) now (by simp [read])

theorem recordFailure_threshold (breaker : CircuitBreaker) (now : ℚ) :
    (breaker.recordFailure now).failureThreshold = breaker.failureThreshold := by
  unfold CircuitBreaker.recordFailure
  split <;> rfl

theorem recordFailure_reset (breaker : CircuitBreaker) (now : ℚ) : (breaker.recordFailure now).resetSeconds = breaker.resetSeconds := by
  unfold CircuitBreaker.recordFailure
  split <;> rfl

/-- A breaker closed after a failure was so before, and has counted it. -/
theorem recordFailure_closed {now : ℚ} (closed : (breaker.recordFailure now).openedAt = none) :
    breaker.openedAt = none ∧ breaker.failures + 1 < breaker.failureThreshold ∧ breaker.halfOpen = false ∧
      (breaker.recordFailure now).failures = breaker.failures + 1 := by
  unfold CircuitBreaker.recordFailure at closed ⊢
  cases probing : breaker.halfOpen with
  | true => simp [probing] at closed
  | false =>
    simp only [probing,Bool.false_eq_true,if_false] at closed ⊢
    split_ifs at closed with trips
    have few : ¬ breaker.failureThreshold ≤ breaker.failures + 1 := fun reached => trips ⟨reached,closed⟩
    exact ⟨closed,by omega,trivial,trivial⟩

/-- A failure that opens a closed breaker is the one that reaches the threshold. -/
theorem recordFailure_trips {now kept : ℚ} (closed : breaker.openedAt = none) (idle : breaker.halfOpen = false)
    (trips : (breaker.recordFailure now).openedAt = some kept) : breaker.failureThreshold ≤ breaker.failures + 1 ∧ now = kept := by
  unfold CircuitBreaker.recordFailure at trips
  simp only [idle,Bool.false_eq_true,if_false] at trips
  split_ifs at trips with reached
  · exact ⟨reached.1,Option.some.inj trips⟩
  · rw [closed] at trips
    cases trips

/-- A failure of an open breaker restarts the recovery time when a probe is out, else nothing. -/
theorem recordFailure_open {now before kept : ℚ} (opened : breaker.openedAt = some before)
    (still : (breaker.recordFailure now).openedAt = some kept) : now = kept ∨ (before = kept ∧ breaker.halfOpen = false) := by
  unfold CircuitBreaker.recordFailure at still
  cases probing : breaker.halfOpen with
  | true => exact .inl (by simpa [probing] using still)
  | false =>
    simp only [probing,opened,reduceCtorEq,and_false,if_false,Bool.false_eq_true,Option.some.injEq] at still
    exact .inr ⟨still,rfl⟩

end

section
variable [Rounding] {breaker start : CircuitBreaker} {calls : List Call}

theorem after_snoc (breaker : CircuitBreaker) (calls : List Call) (call : Call) :
    after breaker (calls ++ [call]) = perform (after breaker calls) call := by simp [after]

theorem admitted_snoc {call : Call} {time : ℚ} : Admitted breaker (calls ++ [call]) time ↔
    (call = .allow time ∧ ((after breaker calls).allow time).1 = true) ∨ Admitted breaker calls time := by
  rw [Admitted,split_snoc]
  rfl

theorem openSince_snoc {call : Call} {time : ℚ} : OpenSince breaker (calls ++ [call]) time ↔
    (call = .recordFailure time ∧ Opens breaker calls (.recordFailure time)) ∨ (OpenSince breaker calls time ∧ call ≠ .recordSuccess) := by
  rw [OpenSince,split_snoc]
  constructor
  · rintro (⟨same,opens,_⟩ | ⟨before,later,whole,opens,unreset⟩)
    · exact .inl ⟨same,opens⟩
    · simp only [List.mem_append,List.mem_singleton,not_or] at unreset
      exact .inr ⟨⟨before,later,whole,opens,unreset.1⟩,Ne.symm unreset.2⟩
  · rintro (⟨same,opens⟩ | ⟨⟨before,later,whole,opens,unreset⟩,keeps⟩)
    · exact .inl ⟨same,opens,by simp⟩
    · exact .inr ⟨before,later,whole,opens,by simp [unreset,Ne.symm keeps]⟩

theorem Admitted.mem {time : ℚ} (admitted : Admitted breaker calls time) : .allow time ∈ calls := by
  obtain ⟨before,later,rfl,_⟩ := admitted
  simp

theorem OpenSince.mem {time : ℚ} (opening : OpenSince breaker calls time) : .recordFailure time ∈ calls := by
  obtain ⟨before,later,rfl,_⟩ := opening
  simp

/-! ### What the breaker remembers -/

/-- The breaker agrees with its history. -/
structure Tracks (start : CircuitBreaker) (calls : List Call) : Prop where
  threshold : (after start calls).failureThreshold = start.failureThreshold
  reset : (after start calls).resetSeconds = start.resetSeconds
  closed : (after start calls).openedAt = none →
    (after start calls).failures = failuresSince calls ∧ failuresSince calls < start.failureThreshold ∧ (after start calls).halfOpen = false
  opened : ∀ kept, (after start calls).openedAt = some kept → start.failureThreshold ≤ failuresSince calls ∧
    (∃ time, OpenSince start calls time) ∧ (∀ time, OpenSince start calls time → time ≤ kept) ∧
    ((after start calls).halfOpen = false → ∀ time, Admitted start calls time → time ≤ kept)

theorem tracks_nil (failures : start.failures = 0) (opened : start.openedAt = none) (probe : start.halfOpen = false) :
    Tracks start [] := by
  refine ⟨rfl,rfl,?_,?_⟩
  · intro _
    exact ⟨failures,start.positive,probe⟩
  · intro kept some
    rw [after,List.foldl_nil,opened] at some
    cases some

/-! ### What one call does -/

theorem allow_closed (closed : breaker.openedAt = none) (now : ℚ) : breaker.allow now = (true,breaker) := by
  simp [CircuitBreaker.allow,CircuitBreaker.state,closed]

theorem state_closed {now : ℚ} : breaker.state now = .CLOSED ↔ breaker.openedAt = none := by
  unfold CircuitBreaker.state
  cases breaker.openedAt with
  | none => simp
  | some kept => by_cases recovered : breaker.resetSeconds ≤ fl (now - kept) <;> simp [recovered]

/-- An open breaker admits one probe once the recovery time has passed. -/
theorem allow_open {kept : ℚ} (opened : breaker.openedAt = some kept) (now : ℚ) :
    breaker.allow now =
      if breaker.resetSeconds ≤ fl (now - kept) ∧ breaker.halfOpen = false then (true,{ breaker with halfOpen := true })
      else (false,breaker) := by
  unfold CircuitBreaker.allow CircuitBreaker.state
  rw [opened]
  by_cases recovered : breaker.resetSeconds ≤ fl (now - kept)
  · cases probing : breaker.halfOpen <;> simp [recovered]
  · simp [recovered]

theorem tracks_allow {now : ℚ} (known : Tracks start calls) : Tracks start (calls ++ [.allow now]) := by
  obtain ⟨threshold,reset,closed,opened⟩ := known
  cases state : (after start calls).openedAt with
  | none =>
    have same : after start (calls ++ [.allow now]) = after start calls := by rw [after_snoc,perform,allow_closed state]
    refine ⟨by rw [same,threshold],by rw [same,reset],?_,?_⟩
    · intro _
      rw [same,failuresSince_allow]
      exact closed state
    · intro kept some
      rw [same,state] at some
      cases some
  | some kept =>
    obtain ⟨reached,opening,since,spaced⟩ := opened kept state
    have next : after start (calls ++ [.allow now]) = ((after start calls).allow now).2 := after_snoc start calls _
    have still : (after start (calls ++ [.allow now])).openedAt = some kept := by
      rw [next,allow_open state]
      split_ifs <;> exact state
    refine ⟨?_,?_,?_,?_⟩
    · rw [next,allow_open state]
      split_ifs <;> exact threshold
    · rw [next,allow_open state]
      split_ifs <;> exact reset
    · intro none
      rw [still] at none
      cases none
    · intro other some
      rw [still] at some
      cases some
      refine ⟨by rw [failuresSince_allow]; exact reached,?_,?_,?_⟩
      · obtain ⟨time,open'⟩ := opening
        exact ⟨time,openSince_snoc.mpr (.inr ⟨open',by simp⟩)⟩
      · intro time open'
        rcases openSince_snoc.mp open' with ⟨same,_⟩ | ⟨earlier,_⟩
        · cases same
        · exact since time earlier
      · intro idle time admitted
        rw [next,allow_open state] at idle
        split_ifs at idle with probes
        rcases admitted_snoc.mp admitted with ⟨same,passed⟩ | earlier
        · cases same
          rw [allow_open state,if_neg probes] at passed
          cases passed
        · exact spaced idle time earlier

theorem tracks_recordSuccess (known : Tracks start calls) : Tracks start (calls ++ [.recordSuccess]) := by
  have next : after start (calls ++ [.recordSuccess]) = (after start calls).recordSuccess := after_snoc start calls _
  refine ⟨by rw [next]; exact known.threshold,by rw [next]; exact known.reset,?_,?_⟩
  · intro _
    rw [next,failuresSince_recordSuccess]
    exact ⟨rfl,start.positive,rfl⟩
  · intro kept some
    rw [next] at some
    cases some

/-- Whatever was admitted or opened was so by the time of a later call. -/
theorem tracks_recordFailure {now : ℚ} (ordered : Ordered (calls ++ [.recordFailure now])) (known : Tracks start calls) :
    Tracks start (calls ++ [.recordFailure now]) := by
  obtain ⟨threshold,reset,closed,opened⟩ := known
  have next : after start (calls ++ [.recordFailure now]) = (after start calls).recordFailure now := after_snoc start calls _
  have latest := (ordered_snoc ordered).2 now rfl
  have admittedBefore : ∀ time, Admitted start (calls ++ [.recordFailure now]) time → Admitted start calls time := by
    intro time admitted
    rcases admitted_snoc.mp admitted with ⟨same,_⟩ | earlier
    · cases same
    · exact earlier
  have admittedBy : ∀ time, Admitted start calls time → time ≤ now := fun time admitted => latest _ admitted.mem time rfl
  have openedBy : ∀ time, OpenSince start (calls ++ [.recordFailure now]) time → time ≤ now := by
    intro time opening
    rcases openSince_snoc.mp opening with ⟨same,_⟩ | ⟨earlier,_⟩
    · cases same
      exact le_refl now
    · exact latest _ earlier.mem time rfl
  refine ⟨by rw [next,recordFailure_threshold,threshold],by rw [next,recordFailure_reset,reset],?_,?_⟩
  · intro still
    rw [next] at still ⊢
    obtain ⟨closedBefore,few,idle,counted⟩ := recordFailure_closed still
    obtain ⟨same,_,_⟩ := closed closedBefore
    rw [failuresSince_recordFailure,counted,← same]
    exact ⟨rfl,by rw [← threshold]; exact few,CircuitBreaker.recordFailure_halfOpen _ _⟩
  · intro kept trips
    rw [next] at trips
    rw [failuresSince_recordFailure]
    cases state : (after start calls).openedAt with
    | none =>
      obtain ⟨same,_,idle⟩ := closed state
      obtain ⟨reached,rfl⟩ := recordFailure_trips state idle trips
      refine ⟨by rw [← same,← threshold]; exact reached,⟨now,?_⟩,openedBy,fun _ time admitted => admittedBy time (admittedBefore time admitted)⟩
      exact openSince_snoc.mpr (.inl ⟨rfl,state,by rw [next,trips]; simp⟩)
    | some before =>
      obtain ⟨reached,⟨time,opening⟩,since,spaced⟩ := opened before state
      have lasts : ∃ time, OpenSince start (calls ++ [.recordFailure now]) time := ⟨time,openSince_snoc.mpr (.inr ⟨opening,by simp⟩)⟩
      refine ⟨by omega,lasts,?_⟩
      rcases recordFailure_open state trips with rfl | ⟨rfl,idle⟩
      · exact ⟨openedBy,fun _ time admitted => admittedBy time (admittedBefore time admitted)⟩
      · -- a late failure leaves the time as it is
        refine ⟨?_,fun _ time admitted => spaced idle time (admittedBefore time admitted)⟩
        intro time opening
        rcases openSince_snoc.mp opening with ⟨_,none,_⟩ | ⟨earlier,_⟩
        · rw [state] at none
          cases none
        · exact since time earlier

/-- Every history keeps the agreement. -/
theorem tracks (failures : start.failures = 0) (opened : start.openedAt = none) (probe : start.halfOpen = false) (ordered : Ordered calls) :
    Tracks start calls := by
  induction calls using List.reverseRecOn with
  | nil => exact tracks_nil failures opened probe
  | append_singleton calls call ih =>
    have known := ih (ordered_snoc ordered).1
    cases call with
    | allow now => exact tracks_allow known
    | recordSuccess => exact tracks_recordSuccess known
    | recordFailure now => exact tracks_recordFailure ordered known

theorem Tracks.open_iff (known : Tracks start calls) : (after start calls).openedAt ≠ none ↔ start.failureThreshold ≤ failuresSince calls := by
  cases state : (after start calls).openedAt with
  | none =>
    have few := (known.closed state).2.1
    simp only [ne_eq,not_true_eq_false,false_iff]
    omega
  | some kept => simpa using (known.opened kept state).1

/-- The breaker opens when the failures since the last success first reach the threshold;
    while it is closed it admits every call; and a call it admits after opening keeps the
    recovery time from the opening and from every call admitted before, as the breaker's
    arithmetic measures it. -/
theorem breaker_histories (failures : start.failures = 0) (opened : start.openedAt = none) (probe : start.halfOpen = false) :
    (∀ call, Ordered (calls ++ [call]) →
      (Opens start calls call ↔ failuresSince calls < start.failureThreshold ∧ failuresSince (calls ++ [call]) = start.failureThreshold)) ∧
      ∀ now, Ordered (calls ++ [.allow now]) →
        ((after start calls).state now = .CLOSED → ((after start calls).allow now).1 = true) ∧
          ((after start calls).state now ≠ .CLOSED → ((after start calls).allow now).1 = true →
            (∃ time, OpenSince start calls time) ∧ (∀ time, OpenSince start calls time → start.resetSeconds ≤ fl (now - time)) ∧
              ∀ time, Admitted start calls time → start.resetSeconds ≤ fl (now - time)) := by
  constructor
  · intro call ordered
    have before := tracks failures opened probe (ordered_snoc ordered).1
    have later := tracks failures opened probe ordered
    have closed : (after start calls).openedAt = none ↔ failuresSince calls < start.failureThreshold := by
      rw [← not_iff_not,← ne_eq,before.open_iff,not_lt]
    have most := failuresSince_snoc_le calls call
    rw [Opens,closed,later.open_iff]
    constructor
    · rintro ⟨few,reached⟩
      exact ⟨few,by omega⟩
    · rintro ⟨few,reached⟩
      exact ⟨few,by omega⟩
  · intro now ordered
    have known := tracks failures opened probe (ordered_snoc ordered).1
    cases state : (after start calls).openedAt with
    | none =>
      rw [allow_closed state]
      exact ⟨fun _ => rfl,fun opened => (opened (state_closed.mpr state)).elim⟩
    | some kept =>
      obtain ⟨_,opening,since,spaced⟩ := known.opened kept state
      refine ⟨fun closed => ?_,fun _ passed => ⟨opening,?_⟩⟩
      · rw [state_closed.mp closed] at state
        cases state
      · rw [allow_open state] at passed
        split_ifs at passed with probes
        rw [known.reset] at probes
        exact ⟨fun time opening => probes.1.trans (mono (sub_le_sub_left (since time opening) now)),
          fun time admitted => probes.1.trans (mono (sub_le_sub_left (spaced probes.2 time admitted) now))⟩

end

/-- A breaker that two failures open for a minute. -/
def twice : CircuitBreaker := { failureThreshold := 2, resetSeconds := 60, positive := by decide }

/-- Two failures, the second reported late. -/
def twoFailures : List Call := [.allow 0,.allow 1,.recordFailure 2,.recordFailure 3]

/-- The second failure opens the breaker, and what is admitted later keeps the minute from it. -/
theorem opens_at_second_failure :
    Opens twice [.allow 0,.allow 1,.recordFailure 2] (.recordFailure 3) ∧ ((after twice twoFailures).allow 64).1 = true ∧
      (∀ time, OpenSince twice twoFailures time → 60 ≤ nearest (64 - time)) ∧
      ∀ time, Admitted twice twoFailures time → 60 ≤ nearest (64 - time) := by
  have ordered : Ordered twoFailures := by
    unfold Ordered
    decide +kernel
  have later : Ordered (twoFailures ++ [.allow 64]) := by
    unfold Ordered
    decide +kernel
  have admitted : ((after twice twoFailures).allow 64).1 = true := by decide +kernel
  have reached := (@breaker_histories _ twice [.allow 0,.allow 1,.recordFailure 2] rfl rfl rfl).1 (.recordFailure 3) ordered
  obtain ⟨_,opening,calls⟩ := ((@breaker_histories _ twice twoFailures rfl rfl rfl).2 64 later).2 (by decide +kernel) admitted
  exact ⟨reached.mpr ⟨by decide,rfl⟩,admitted,opening,calls⟩

/-- Half a minute to recover after a single failure. -/
def sensitive : CircuitBreaker := { failureThreshold := 1, resetSeconds := 30, positive := by decide }

/-- The floats 14.287 and 44.287. -/
def failedAt : ℚ := nearest (14287 / 1000)
def askedAt : ℚ := nearest (44287 / 1000)

/-- They lie less than half a minute apart, but their difference rounds to it. -/
theorem probed_early :
    Ordered [.recordFailure failedAt,.allow askedAt] ∧ OpenSince sensitive [.recordFailure failedAt] failedAt ∧
      ((after sensitive [.recordFailure failedAt]).allow askedAt).1 = true ∧ askedAt < failedAt + sensitive.resetSeconds := by
  have forwards : failedAt ≤ askedAt := by decide +kernel
  refine ⟨by simpa [Ordered,Call.reading] using forwards,⟨[],[],rfl,⟨rfl,by simp [after,perform,CircuitBreaker.recordFailure,sensitive]⟩,by simp⟩,?_,?_⟩
  · decide +kernel
  · decide +kernel

end SocAnalyst.BreakerHistories
