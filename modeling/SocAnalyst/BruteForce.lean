import SocAnalyst.Calendar
import SocAnalyst.Detections
import SocAnalyst.Gaps
import SocAnalyst.Groups
import SocAnalyst.LogAnalysis

/-!
# The brute-force rule

`_detect_brute_force` of `tools/detection.py`: the failures of each principal are cut into
bursts where two neighbours are farther apart than the window, and long bursts are reported.
-/
namespace SocAnalyst.BruteForce
open SocAnalyst.Builtins SocAnalyst.Times SocAnalyst.Calendar SocAnalyst.Dicts SocAnalyst.Groups SocAnalyst.Gaps SocAnalyst.Logs
open SocAnalyst.Detections
open SocAnalyst.LogAnalysis (AllComparable sortedByTime sortedByTime_ok sortedByTime_returns sortedByTime_sorted orElse)

/-- Failed authentications by one principal before the pattern reads as guessing. -/
def bruteForceThreshold : Nat := 5

section
variable [Interpreter]

/-- The identity a rule groups by: the actor, or the host when unattributed. -/
def principal (event : NormalizedEvent) : Option Text :=
  let name := lower (orElse event.actor (orElse event.host []))
  if name = [] then none else some name

/-- The events of some types that have a principal, each with it. -/
def attributed (events : List NormalizedEvent) (types : List EventType) : List (Text × NormalizedEvent) :=
  events.filterMap fun event => if types.contains event.eventType then (principal event).map fun who => (who,event) else none

/-- The events of each principal in the order of their times. -/
def groupByPrincipal (events : List NormalizedEvent) (types : List EventType) : Except PyError (List (Text × List NormalizedEvent)) :=
  mapRaising (fun group => (sortedByTime (·.eventTime) (·.eventId) group.2).map fun ordered => (group.1,ordered))
    (sortedBy Prod.fst (grouped (attributed events types)).entries)

omit [Interpreter] in
/-- Split time-ordered events wherever the gap exceeds the window. -/
def bursts (events : List NormalizedEvent) (window : Int) : List (List NormalizedEvent) :=
  splitByGap (far (·.eventTime.instant) window) events

def bruteForceMatch (who : Text) (burst : List NormalizedEvent) : RuleMatch where
  eventIds := burst.map (·.eventId)
  detail := lit (toString burst.length) ++ lit " failed authentications for " ++ Interpreter.repr who ++ lit " between " ++
    burst.head?.elim [] (·.eventTime.isoformat) ++ lit " and " ++ burst.getLast?.elim [] (·.eventTime.isoformat)

/-- The matches of one principal. -/
def burstMatches (window : Int) (group : Text × List NormalizedEvent) : List RuleMatch :=
  ((bursts group.2 window).filter fun burst => bruteForceThreshold ≤ burst.length).map (bruteForceMatch group.1)

/-- Repeated authentication failures by one principal inside the window. -/
def detectBruteForce (context : DetectionContext) : Except PyError (List RuleMatch) :=
  (groupByPrincipal context.events [.AUTH_FAILURE]).map fun groups => groups.flatMap (burstMatches context.window)

/-! ### What the rule is about -/

/-- The authentication failures of a principal. -/
def failuresOf (events : List NormalizedEvent) (who : Text) : List NormalizedEvent :=
  events.filter fun event => event.eventType = .AUTH_FAILURE ∧ principal event = some who

/-- The rule reports a match for a principal. -/
def Reports (context : DetectionContext) (who : Text) : Prop :=
  ∃ groups, groupByPrincipal context.events [.AUTH_FAILURE] = .ok groups ∧
    ∃ group ∈ groups, group.1 = who ∧ burstMatches context.window group ≠ []

omit [Interpreter] in
/-- Enough of the failures lie within one stretch no longer than the window. -/
def WithinWindow (failures : List NormalizedEvent) (window : Int) : Prop :=
  ∃ chosen : List NormalizedEvent, chosen.Subperm failures ∧ bruteForceThreshold ≤ chosen.length ∧
    ∀ first ∈ chosen, ∀ second ∈ chosen, second.eventTime.instant - first.eventTime.instant ≤ window

omit [Interpreter] in
/-- Enough of the failures follow one another with no step longer than the window. -/
def Chained (failures : List NormalizedEvent) (window : Int) : Prop :=
  ∃ chain : List NormalizedEvent, chain.Subperm failures ∧ bruteForceThreshold ≤ chain.length ∧
    Linked (·.eventTime.instant) window chain

theorem valuesAt_attributed (events : List NormalizedEvent) (who : Text) :
    valuesAt (attributed events [.AUTH_FAILURE]) who = failuresOf events who := by
  induction events with
  | nil => rfl
  | cons event rest ih =>
    rw [failuresOf] at ih ⊢
    by_cases failure : event.eventType = .AUTH_FAILURE
    · cases named : principal event with
      | none => simpa [attributed,valuesAt,failure,named] using ih
      | some other =>
        by_cases same : other = who
        · simpa [attributed,valuesAt,failure,named,same] using ih
        · simpa [attributed,valuesAt,failure,named,same] using ih
    · simpa [attributed,valuesAt,failure] using ih

/-- The groups are the failures of each principal that has any, in order. -/
theorem mem_groups {events : List NormalizedEvent} {groups : List (Text × List NormalizedEvent)}
    (ran : groupByPrincipal events [.AUTH_FAILURE] = .ok groups) (who : Text) (ordered : List NormalizedEvent) :
    (who,ordered) ∈ groups ↔ failuresOf events who ≠ [] ∧ sortedByTime (·.eventTime) (·.eventId) (failuresOf events who) = .ok ordered := by
  rw [mapRaising_mem ran]
  simp only [mem_sortedBy,Prod.exists,mem_grouped,valuesAt_attributed]
  constructor
  · rintro ⟨name,listed,⟨rfl,some⟩,sorted⟩
    obtain ⟨items,ran,same⟩ := map_ok.mp sorted
    cases same
    exact ⟨some,ran⟩
  · rintro ⟨some,sorted⟩
    exact ⟨who,_,⟨rfl,some⟩,map_ok.mpr ⟨ordered,sorted,rfl⟩⟩

/-- The grouping returns exactly when the times of each principal can be ordered. -/
theorem groupByPrincipal_returns {events : List NormalizedEvent} :
    (∃ groups, groupByPrincipal events [.AUTH_FAILURE] = .ok groups) ↔
      ∀ who, AllComparable ((failuresOf events who).map (·.eventTime)) := by
  rw [groupByPrincipal,mapRaising_returns]
  simp only [mem_sortedBy,Prod.forall,mem_grouped,valuesAt_attributed]
  constructor
  · intro each who
    by_cases none : failuresOf events who = []
    · rw [none]
      simp [AllComparable]
    · obtain ⟨_,ran⟩ := each who _ ⟨rfl,none⟩
      obtain ⟨_,sorted,_⟩ := map_ok.mp ran
      exact (sortedByTime_ok sorted).1
  · rintro all who _ ⟨rfl,_⟩
    obtain ⟨ordered,sorted⟩ := sortedByTime_returns (·.eventId) (all who)
    exact ⟨_,map_ok.mpr ⟨ordered,sorted,rfl⟩⟩

omit [Interpreter] in
/-- A burst is long exactly when enough failures follow one another closely. -/
theorem long_burst_iff {failures ordered : List NormalizedEvent} {window : Int}
    (sorted : sortedByTime (·.eventTime) (·.eventId) failures = .ok ordered) :
    (∃ burst ∈ bursts ordered window, bruteForceThreshold ≤ burst.length) ↔ Chained failures window := by
  obtain ⟨same,inOrder⟩ := sortedByTime_sorted sorted
  constructor
  · rintro ⟨burst,listed,long⟩
    obtain ⟨before,after,whole,_,chain,_⟩ := maximalRun_iff.mp (mem_splitByGap.mp listed)
    have part : burst.Sublist ordered := by
      rw [whole]
      exact (List.sublist_append_right before burst).trans (List.sublist_append_left _ after)
    refine ⟨burst,part.subperm.trans same.subperm,long,?_⟩
    exact linked_of_chain (inOrder.sublist part) chain
  · rintro ⟨chain,within,long,linked⟩
    have wide : 0 ≤ window := by
      match chain, long, linked with
      | _ :: _ :: _, _, linked => exact linked.wide
    have some : chain ≠ [] := by
      rintro rfl
      cases long
    obtain ⟨burst,maximal,inside⟩ := linked_subperm wide inOrder some linked (within.trans same.symm.subperm)
    exact ⟨burst,mem_splitByGap.mpr (maximalRun_iff.mpr maximal),long.trans inside.length_le⟩

theorem reports_iff {context : DetectionContext} (all : ∀ who, AllComparable ((failuresOf context.events who).map (·.eventTime)))
    (who : Text) : Reports context who ↔ Chained (failuresOf context.events who) context.window := by
  obtain ⟨groups,ran⟩ := groupByPrincipal_returns.mpr all
  have matched : ∀ group : Text × List NormalizedEvent, burstMatches context.window group ≠ [] ↔
      ∃ burst ∈ bursts group.2 context.window, bruteForceThreshold ≤ burst.length := by
    intro group
    rw [burstMatches,ne_eq,List.map_eq_nil_iff,List.filter_eq_nil_iff]
    simp
  constructor
  · rintro ⟨others,again,⟨name,ordered⟩,listed,rfl,some⟩
    rw [ran] at again
    cases again
    obtain ⟨_,sorted⟩ := (mem_groups ran _ _).mp listed
    exact (long_burst_iff sorted).mp ((matched _).mp some)
  · intro chained
    obtain ⟨ordered,sorted⟩ := sortedByTime_returns (·.eventId) (all who)
    have any : failuresOf context.events who ≠ [] := by
      intro none
      obtain ⟨chain,within,long,_⟩ := chained
      have few := within.length_le
      rw [none] at few
      exact absurd (long.trans few) (by decide)
    exact ⟨groups,ran,(who,ordered),(mem_groups ran _ _).mpr ⟨any,sorted⟩,rfl,(matched _).mpr ((long_burst_iff sorted).mpr chained)⟩

omit [Interpreter] in
/-- Failures within one window follow one another closely. -/
theorem WithinWindow.chained {failures : List NormalizedEvent} {window : Int} (within : WithinWindow failures window) :
    Chained failures window := by
  obtain ⟨chosen,part,enough,near⟩ := within
  have same : (sortedBy (·.eventTime.instant) chosen).Perm chosen := perm_sortedBy _ chosen
  refine ⟨sortedBy (·.eventTime.instant) chosen,same.subperm.trans part,by rw [same.length_eq]; exact enough,?_⟩
  have sorted : (sortedBy (·.eventTime.instant) chosen).Pairwise fun first second =>
      first.eventTime.instant ≤ second.eventTime.instant := pairwise_sortedBy _ chosen
  refine List.Pairwise.isChain (sorted.imp_of_mem fun first second ahead => ?_)
  exact ⟨ahead,near _ (same.mem_iff.mp first) _ (same.mem_iff.mp second)⟩

/-! ### When the rule is about a window -/

/-- What the rule ought to report: the principals with enough failures within one window. -/
def Windowed (context : DetectionContext) : Prop :=
  (∃ found, detectBruteForce context = .ok found) ∧
    ∀ who, Reports context who ↔ WithinWindow (failuresOf context.events who) context.window

/-- The times of each principal's failures can be ordered, and failures that follow one
    another closely enough lie within one window somewhere. -/
def Tight (context : DetectionContext) : Prop :=
  (∀ who, AllComparable ((failuresOf context.events who).map (·.eventTime))) ∧
    ∀ who, Chained (failuresOf context.events who) context.window → WithinWindow (failuresOf context.events who) context.window

theorem detectBruteForce_returns {context : DetectionContext} :
    (∃ found, detectBruteForce context = .ok found) ↔ ∀ who, AllComparable ((failuresOf context.events who).map (·.eventTime)) := by
  rw [← groupByPrincipal_returns,detectBruteForce]
  constructor
  · rintro ⟨found,ran⟩
    obtain ⟨groups,grouped,_⟩ := map_ok.mp ran
    exact ⟨groups,grouped⟩
  · rintro ⟨groups,grouped⟩
    exact ⟨_,map_ok.mpr ⟨groups,grouped,rfl⟩⟩

/-- The rule is about a sliding window exactly when no chain of failures outruns it. -/
theorem windowed_iff_tight (context : DetectionContext) : Windowed context ↔ Tight context := by
  constructor
  · rintro ⟨returned,exact_reports⟩
    have all := detectBruteForce_returns.mp returned
    exact ⟨all,fun who chained => (exact_reports who).mp ((reports_iff all who).mpr chained)⟩
  · rintro ⟨all,tight⟩
    refine ⟨detectBruteForce_returns.mpr all,fun who => ?_⟩
    rw [reports_iff all who]
    exact ⟨tight who,WithinWindow.chained⟩

end

/-- A failed login of one account, some seconds into the day. -/
def guess (seconds : Nat) : NormalizedEvent where
  eventId := lit "evt-" ++ lit (toString seconds)
  recordId := lit "r1"
  sourceId := lit "siem"
  sourceKind := .SIEM
  logFormat := .JSON
  eventTime := firstDay (1000000 * seconds) (some 0)
  eventType := .AUTH_FAILURE
  actor := some (lit "alice")

/-- Five failures fifty seconds apart, under a window of a minute. -/
def slowGuesses : DetectionContext where
  events := [guess 0,guess 50,guess 100,guess 150,guess 200]
  window := 60000000
  internalNetworks := []

theorem slow_guesses_reported : ¬ @Windowed ascii slowGuesses := by
  rintro ⟨_,exact_reports⟩
  have named : ∀ seconds, @principal ascii (guess seconds) = some (lit "alice") := fun _ => rfl
  have instants : ∀ seconds, (guess seconds).eventTime.instant = (((1000000 * seconds) % 86400000000 : Nat) : Int) - 0 := fun _ => rfl
  have failed : ∀ seconds, (guess seconds).eventType = .AUTH_FAILURE := fun _ => rfl
  have all : @failuresOf ascii slowGuesses.events (lit "alice") = slowGuesses.events := by
    refine List.filter_eq_self.mpr fun event member => ?_
    simp only [slowGuesses,List.mem_cons,List.not_mem_nil,or_false] at member
    rcases member with rfl | rfl | rfl | rfl | rfl <;> exact decide_eq_true ⟨failed _,named _⟩
  have comparable : ∀ who, AllComparable ((@failuresOf ascii slowGuesses.events who).map (·.eventTime)) := by
    intro who
    have some_events : AllComparable (slowGuesses.events.map (·.eventTime)) := by
      intro s first t second
      simp only [slowGuesses,List.map_cons,List.map_nil,List.mem_cons,List.not_mem_nil,or_false] at first second
      rcases first with rfl | rfl | rfl | rfl | rfl <;> rcases second with rfl | rfl | rfl | rfl | rfl <;> rfl
    exact some_events.subset (List.map_subset _ List.filter_sublist.subset)
  have chained : Chained slowGuesses.events slowGuesses.window := by
    refine ⟨slowGuesses.events,List.Subperm.refl _,by decide,?_⟩
    simp [Linked,slowGuesses,instants]
  have reported := (@reports_iff ascii slowGuesses comparable (lit "alice")).mpr (by rw [all]; exact chained)
  obtain ⟨chosen,part,enough,near⟩ := (exact_reports (lit "alice")).mp reported
  rw [all] at part
  have whole : chosen.Perm slowGuesses.events := part.perm_of_length_le enough
  have first : guess 0 ∈ chosen := whole.mem_iff.mpr (by simp [slowGuesses])
  have last : guess 200 ∈ chosen := whole.mem_iff.mpr (by simp [slowGuesses])
  have span := near _ first _ last
  rw [instants,instants] at span
  exact absurd span (by decide)

end SocAnalyst.BruteForce
