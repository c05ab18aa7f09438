import SocAnalyst.Calendar
import SocAnalyst.Detections
import SocAnalyst.Gaps
import SocAnalyst.Groups
import SocAnalyst.LogAnalysis

/-!
# Correlations

`correlate_events` of `tools/correlation.py`: the events that share an identifier, split
into episodes where the gap to the next one exceeds the window.
-/
namespace SocAnalyst.Correlations
open SocAnalyst.Builtins SocAnalyst.Times SocAnalyst.Calendar SocAnalyst.Dicts SocAnalyst.Groups SocAnalyst.Gaps SocAnalyst.Logs
open SocAnalyst.Detections (unique mem_unique unique_nodup)
open SocAnalyst.LogAnalysis (AllComparable sortedByTime sortedByTime_ok sortedByTime_returns sortedByTime_sorted)

/-- Why a set of events was grouped together. -/
inductive CorrelationKind where
  | SHARED_HOST
  | SHARED_ACTOR
  | SHARED_ADDRESS
  | SHARED_PROCESS
  deriving DecidableEq, Repr

def CorrelationKind.value : CorrelationKind → Text
  | .SHARED_HOST => lit "shared_host"
  | .SHARED_ACTOR => lit "shared_actor"
  | .SHARED_ADDRESS => lit "shared_address"
  | .SHARED_PROCESS => lit "shared_process"

/-- A set of events linked by a shared entity within the time window. -/
structure Correlation where
  correlationId : Text
  kind : CorrelationKind
  key : Text
  eventIds : List Text := []
  windowStart : DateTime
  windowEnd : DateTime
  rationale : Text := []

/-- Which entity kinds drive which correlation, in reporting order. -/
def correlationEntities : List (CorrelationKind × EntityType) := [(.SHARED_ADDRESS,.IP_ADDRESS),(.SHARED_PROCESS,.PROCESS)]

/-- `int(window.total_seconds())` in the largest unit that fits. -/
def humanize (window : Int) : Text :=
  let seconds := window.tdiv 1000000
  if seconds < 60 then lit (toString seconds) ++ lit "s"
  else if seconds / 60 < 60 then lit (toString (seconds / 60)) ++ lit "m"
  else if seconds / 60 / 60 < 24 then lit (toString (seconds / 60 / 60)) ++ lit "h"
  else lit (toString (seconds / 60 / 60 / 24)) ++ lit "d"

/-- Split time-ordered events wherever consecutive events are further apart than the window. -/
def splitEpisodes (events : List NormalizedEvent) (window : Int) : List (List NormalizedEvent) :=
  splitByGap (far (·.eventTime.instant) window) events

/-- The distinct ids of some events, in order. -/
def uniqueEventIds (events : List NormalizedEvent) : List Text := unique (events.map (·.eventId))

section
variable [Interpreter]

/-- The keys an event is put under, once for each identifier. -/
def keysOf (event : NormalizedEvent) : List (CorrelationKind × Text) :=
  (if truthy event.host then [(.SHARED_HOST,lower (event.host.getD []))] else []) ++
  (if truthy event.actor then [(.SHARED_ACTOR,lower (event.actor.getD []))] else []) ++
  correlationEntities.flatMap fun (kind,entityType) =>
    (event.entities.filter fun entity => entity.type = entityType).map fun entity => (kind,lower entity.value)

/-- The events with their keys, in the order they are put into the buckets. -/
def bucketed (events : List NormalizedEvent) : List ((CorrelationKind × Text) × NormalizedEvent) :=
  events.flatMap fun event => (keysOf event).map fun key => (key,event)

/-- The correlation of one episode, if it has enough distinct events. -/
def episodeCorrelation (window : Int) (minimumEvents : Nat) (kind : CorrelationKind) (key : Text) :
    List NormalizedEvent → Option Correlation
  | [] => none
  | first :: rest =>
    let uniqueIds := uniqueEventIds (first :: rest)
    if uniqueIds.length < minimumEvents then none
    else some {
      correlationId := kind.value ++ lit ":" ++ key ++ lit ":" ++ first.eventTime.isoformat
      kind := kind
      key := key
      eventIds := uniqueIds
      windowStart := first.eventTime
      windowEnd := ((first :: rest).getLast (List.cons_ne_nil _ _)).eventTime
      rationale := lit (toString uniqueIds.length) ++ lit " events share " ++ replaceAll (lit "shared_") [] kind.value ++ lit " " ++
        Interpreter.repr key ++ lit " within " ++ humanize window }

/-- The order in which the buckets are gone through. -/
def bucketOrder (bucket : (CorrelationKind × Text) × List NormalizedEvent) : Text ×ₗ Text := toLex (bucket.1.1.value,bucket.1.2)

/-- The correlations of one bucket. -/
def bucketCorrelations (window : Int) (minimumEvents : Nat) (bucket : (CorrelationKind × Text) × List NormalizedEvent) :
    Except PyError (List Correlation) :=
  (sortedByTime (·.eventTime) (·.eventId) bucket.2).map fun ordered =>
    (splitEpisodes ordered window).filterMap (episodeCorrelation window minimumEvents bucket.1.1 bucket.1.2)

/-- Group events that share an identifier within a window of each other. -/
def correlateEvents (events : List NormalizedEvent) (window : Int) (minimumEvents : Nat := 2) : Except PyError (List Correlation) :=
  (mapRaising (bucketCorrelations window minimumEvents) (sortedBy bucketOrder (grouped (bucketed events)).entries)).map List.flatten

/-! ### The bucket of a key -/

/-- The events of a key in the order of their times. -/
def ordered (events : List NormalizedEvent) (kind : CorrelationKind) (key : Text) : List NormalizedEvent :=
  sortedBy (fun event => (toLex (event.eventTime.instant,event.eventId) : Int ×ₗ Text)) (valuesAt (bucketed events) (kind,key))

/-- The times under each key can be ordered. -/
def Timed (events : List NormalizedEvent) : Prop :=
  ∀ kind key, AllComparable ((valuesAt (bucketed events) (kind,key)).map (·.eventTime))

theorem ordered_sorted (events : List NormalizedEvent) (kind : CorrelationKind) (key : Text) :
    (ordered events kind key).Pairwise fun first second => first.eventTime.instant ≤ second.eventTime.instant := by
  refine (pairwise_sortedBy _ _).imp fun {first second} below => ?_
  rcases Prod.Lex.toLex_le_toLex.mp below with before | ⟨same,_⟩
  · exact before.le
  · exact same.le

theorem mem_ordered {events : List NormalizedEvent} {kind : CorrelationKind} {key : Text} {event : NormalizedEvent} :
    event ∈ ordered events kind key ↔ event ∈ events ∧ (kind,key) ∈ keysOf event := by
  rw [ordered,mem_sortedBy,mem_valuesAt]
  simp [bucketed]

/-- One bucket of the dictionary. -/
theorem bucketCorrelations_eq {events : List NormalizedEvent} (window : Int) (minimumEvents : Nat)
    {bucket : (CorrelationKind × Text) × List NormalizedEvent} (listed : bucket ∈ (grouped (bucketed events)).entries)
    (timed : AllComparable ((valuesAt (bucketed events) bucket.1).map (·.eventTime))) :
    bucketCorrelations window minimumEvents bucket = .ok ((splitEpisodes (ordered events bucket.1.1 bucket.1.2) window).filterMap
      (episodeCorrelation window minimumEvents bucket.1.1 bucket.1.2)) := by
  obtain ⟨filled,_⟩ := mem_grouped.mp listed
  rw [bucketCorrelations,filled,sortedByTime,if_pos timed]
  rfl

/-- The correlations are refused when the times under some key are of both kinds. -/
theorem correlateEvents_refused {events : List NormalizedEvent} (window : Int) (minimumEvents : Nat) (mixed : ¬ Timed events) :
    correlateEvents events window minimumEvents = .error .TypeError := by
  have refused : mapRaising (bucketCorrelations window minimumEvents) (sortedBy bucketOrder (grouped (bucketed events)).entries) =
      .error .TypeError := by
    apply mapRaising_refused
    · intro bucket member
      have listed := (mem_sortedBy bucketOrder _ bucket).mp member
      by_cases timed : AllComparable ((valuesAt (bucketed events) bucket.1).map (·.eventTime))
      · exact .inl ⟨_,bucketCorrelations_eq window minimumEvents listed timed⟩
      · refine .inr ?_
        rw [bucketCorrelations,(mem_grouped.mp listed).1,sortedByTime,if_neg timed]
        rfl
    · by_contra none
      refine mixed fun kind key => ?_
      by_contra untimed
      have some : valuesAt (bucketed events) (kind,key) ≠ [] := by
        intro empty
        rw [empty] at untimed
        exact untimed (by simp [AllComparable])
      refine none ⟨((kind,key),valuesAt (bucketed events) (kind,key)),(mem_sortedBy bucketOrder _ _).mpr (mem_grouped.mpr ⟨rfl,some⟩),?_⟩
      rw [bucketCorrelations,sortedByTime,if_neg untimed]
      rfl
  rw [correlateEvents,refused]
  rfl

/-- The keys of the buckets in the order in which they are gone through. -/
def bucketKeys (events : List NormalizedEvent) : List (CorrelationKind × Text) :=
  (sortedBy bucketOrder (grouped (bucketed events)).entries).map Prod.fst

/-- The correlations of a key. -/
def keyCorrelations (events : List NormalizedEvent) (window : Int) (minimumEvents : Nat) (key : CorrelationKind × Text) : List Correlation :=
  (splitEpisodes (ordered events key.1 key.2) window).filterMap (episodeCorrelation window minimumEvents key.1 key.2)

/-- The correlations, key by key. -/
theorem correlateEvents_eq {events : List NormalizedEvent} (window : Int) (minimumEvents : Nat) (timed : Timed events) :
    correlateEvents events window minimumEvents = .ok ((bucketKeys events).flatMap (keyCorrelations events window minimumEvents)) := by
  have ran : mapRaising (bucketCorrelations window minimumEvents) (sortedBy bucketOrder (grouped (bucketed events)).entries) =
      .ok ((bucketKeys events).map (keyCorrelations events window minimumEvents)) := by
    rw [mapRaising_ok,bucketKeys,List.map_map,List.forall₂_map_right_iff,List.forall₂_same]
    intro bucket member
    exact bucketCorrelations_eq window minimumEvents ((mem_sortedBy bucketOrder _ bucket).mp member) (timed _ _)
  rw [correlateEvents,ran]
  rfl

omit [Interpreter] in
theorem value_injective {first second : CorrelationKind} (same : first.value = second.value) : first = second := by
  revert same
  cases first <;> cases second <;> decide

theorem mem_bucketKeys {events : List NormalizedEvent} {key : CorrelationKind × Text} :
    key ∈ bucketKeys events ↔ valuesAt (bucketed events) key ≠ [] := by
  simp only [bucketKeys,List.mem_map,mem_sortedBy,Prod.exists,mem_grouped]
  constructor
  · rintro ⟨kind,text,_,⟨rfl,some⟩,rfl⟩
    exact some
  · intro some
    exact ⟨key.1,key.2,_,⟨rfl,some⟩,rfl⟩

theorem bucketKeys_strict (events : List NormalizedEvent) :
    (bucketKeys events).Pairwise fun first second => (toLex (first.1.value,first.2) : Text ×ₗ Text) < toLex (second.1.value,second.2) := by
  rw [bucketKeys,List.pairwise_map]
  refine strict_sortedBy ?_
  have once := (grouped (bucketed events)).distinct
  refine List.Nodup.map_on (fun first left second right same => ?_) (List.Nodup.of_map Prod.fst once)
  have values : first.1.1.value = second.1.1.value := congrArg (fun order => (ofLex order).1) same
  have keys : first.1.2 = second.1.2 := congrArg (fun order => (ofLex order).2) same
  exact List.inj_on_of_nodup_map once left right (Prod.ext (value_injective values) keys)

/-! ### Episodes -/

/-- A maximal run of a key's events in order. -/
def Run (events : List NormalizedEvent) (window : Int) (kind : CorrelationKind) (key : Text) (run : List NormalizedEvent) : Prop :=
  MaximalRun (Far (·.eventTime.instant) window) (ordered events kind key) run

theorem mem_splitEpisodes {events : List NormalizedEvent} {window : Int} {kind : CorrelationKind} {key : Text} {run : List NormalizedEvent} :
    run ∈ splitEpisodes (ordered events kind key) window ↔ Run events window kind key run := by
  rw [splitEpisodes,mem_splitByGap,maximalRun_iff]
  rfl

theorem Run.sorted {events : List NormalizedEvent} {window : Int} {kind : CorrelationKind} {key : Text} {run : List NormalizedEvent}
    (maximal : Run events window kind key run) : run.Pairwise fun first second => first.eventTime.instant ≤ second.eventTime.instant := by
  obtain ⟨before,after,whole,_⟩ := maximal
  have all := ordered_sorted events kind key
  rw [whole] at all
  exact (List.pairwise_append.mp (List.pairwise_append.mp all).1).2.1

theorem Run.part {events : List NormalizedEvent} {window : Int} {kind : CorrelationKind} {key : Text} {run : List NormalizedEvent}
    (maximal : Run events window kind key run) : run ≠ [] ∧ run ⊆ ordered events kind key := by
  obtain ⟨before,after,whole,some,_⟩ := maximal
  rw [whole]
  exact ⟨some,fun event member => List.mem_append_left _ (List.mem_append_right _ member)⟩

/-- A correlation tells of a run: its distinct events, and its first and last times. -/
structure Describes (kind : CorrelationKind) (key : Text) (run : List NormalizedEvent) (correlation : Correlation) : Prop where
  kind : correlation.kind = kind
  key : correlation.key = key
  once : correlation.eventIds.Nodup
  ids : ∀ eventId, eventId ∈ correlation.eventIds ↔ ∃ event ∈ run, event.eventId = eventId
  start : ∃ event ∈ run, correlation.windowStart = event.eventTime ∧ ∀ other ∈ run, event.eventTime.instant ≤ other.eventTime.instant
  stop : ∃ event ∈ run, correlation.windowEnd = event.eventTime ∧ ∀ other ∈ run, other.eventTime.instant ≤ event.eventTime.instant

/-- An episode is reported when it has enough distinct events. -/
theorem episodeCorrelation_some {window : Int} {minimumEvents : Nat} {kind : CorrelationKind} {key : Text} {run : List NormalizedEvent}
    {correlation : Correlation} (sorted : run.Pairwise fun first second => first.eventTime.instant ≤ second.eventTime.instant)
    (reported : episodeCorrelation window minimumEvents kind key run = some correlation) :
    minimumEvents ≤ (uniqueEventIds run).length ∧ Describes kind key run correlation := by
  cases run with
  | nil => cases reported
  | cons first rest =>
    simp only [episodeCorrelation] at reported
    split_ifs at reported with few
    cases reported
    refine ⟨Nat.not_lt.mp few,rfl,rfl,unique_nodup _,fun eventId => ?_,⟨first,List.mem_cons_self,rfl,?_⟩,⟨_,List.getLast_mem _,rfl,?_⟩⟩
    · rw [uniqueEventIds,mem_unique,List.mem_map]
    · intro other member
      exact @first_least _ (fun event : NormalizedEvent => event.eventTime.instant) _ _ _ sorted (by simp) member
    · intro other member
      exact @last_greatest _ (fun event : NormalizedEvent => event.eventTime.instant) _ _ _ sorted
        (List.getLast?_eq_some_getLast (List.cons_ne_nil first rest)) member

theorem episodeCorrelation_returns (window : Int) {minimumEvents : Nat} (kind : CorrelationKind) (key : Text) {run : List NormalizedEvent}
    (some_event : run ≠ []) (enough : minimumEvents ≤ (uniqueEventIds run).length) :
    ∃ correlation, episodeCorrelation window minimumEvents kind key run = some correlation := by
  cases run with
  | nil => exact absurd rfl some_event
  | cons first rest => exact ⟨_,if_neg (Nat.not_lt.mpr enough)⟩

/-- The id of a correlation names its kind, its key and the time of its first event. -/
theorem episodeCorrelation_id {window : Int} {minimumEvents : Nat} {kind : CorrelationKind} {key : Text} {run : List NormalizedEvent}
    {correlation : Correlation} (reported : episodeCorrelation window minimumEvents kind key run = some correlation) :
    ∃ first ∈ run, correlation.correlationId = (kind.value ++ 58 :: (key ++ [58])) ++ first.eventTime.isoformat := by
  cases run with
  | nil => cases reported
  | cons first rest =>
    simp only [episodeCorrelation] at reported
    split_ifs at reported with few
    cases reported
    have colon : lit ":" = [58] := rfl
    refine ⟨first,List.mem_cons_self,?_⟩
    simp only [colon,List.append_assoc,List.cons_append,List.nil_append]

omit [Interpreter] in
theorem absent_value (kind : CorrelationKind) : 58 ∉ kind.value := by cases kind <;> decide

omit [Interpreter] in
/-- Ids that are alike are of one kind, one key and one first time. -/
theorem id_unique {kind other : CorrelationKind} {key text : Text} {first second : DateTime}
    (same : (kind.value ++ 58 :: (key ++ [58])) ++ first.isoformat = (other.value ++ 58 :: (text ++ [58])) ++ second.isoformat) :
    kind = other ∧ key = text ∧ first = second := by
  obtain ⟨front,times⟩ := before_isoformat same
  obtain ⟨kinds,keys⟩ := split_at (absent_value kind) (absent_value other) front
  exact ⟨value_injective kinds,List.append_cancel_right keys,times⟩

theorem mem_keyCorrelations {events : List NormalizedEvent} {window : Int} {minimumEvents : Nat} {key : CorrelationKind × Text}
    {correlation : Correlation} : correlation ∈ keyCorrelations events window minimumEvents key ↔
      ∃ run, Run events window key.1 key.2 run ∧ episodeCorrelation window minimumEvents key.1 key.2 run = some correlation := by
  simp only [keyCorrelations,List.mem_filterMap,mem_splitEpisodes]

/-- No two correlations have one id. -/
theorem ids_distinct (events : List NormalizedEvent) {window : Int} (wide : 0 ≤ window) (minimumEvents : Nat) :
    (((bucketKeys events).flatMap (keyCorrelations events window minimumEvents)).map (·.correlationId)).Nodup := by
  rw [List.map_flatMap,List.nodup_flatMap]
  constructor
  · intro key _
    rw [List.Nodup,List.pairwise_map,keyCorrelations]
    have apart : (splitEpisodes (ordered events key.1 key.2) window).Pairwise fun g h => ∀ x ∈ g, ∀ y ∈ h,
        Far (fun event : NormalizedEvent => event.eventTime.instant) window x y := splitByGap_apart (ordered_sorted events key.1 key.2)
    refine apart.filterMap _ fun g h gap first reported second also same => ?_
    obtain ⟨x,inside,named⟩ := episodeCorrelation_id reported
    obtain ⟨y,within,called⟩ := episodeCorrelation_id also
    rw [named,called] at same
    have far := gap x inside y within
    rw [Far,(id_unique same).2.2] at far
    omega
  · refine (bucketKeys_strict events).imp fun {first second} before => ?_
    refine List.disjoint_iff_ne.mpr ?_
    rintro _ left _ right same
    obtain ⟨one,reported,rfl⟩ := List.mem_map.mp left
    obtain ⟨two,also,rfl⟩ := List.mem_map.mp right
    obtain ⟨_,_,made⟩ := mem_keyCorrelations.mp reported
    obtain ⟨_,_,built⟩ := mem_keyCorrelations.mp also
    obtain ⟨x,_,named⟩ := episodeCorrelation_id made
    obtain ⟨y,_,called⟩ := episodeCorrelation_id built
    rw [named,called] at same
    obtain ⟨kinds,keys,_⟩ := id_unique same
    rw [kinds,keys] at before
    exact before.false

/-! ### The order of the events -/

/-- Equal ids mean equal times, however these are written. -/
def Meant (events : List NormalizedEvent) : Prop :=
  ∀ first ∈ events, ∀ second ∈ events, first.eventId = second.eventId →
    Comparable first.eventTime second.eventTime ∧ first.eventTime.instant = second.eventTime.instant

omit [Interpreter] in
instance (events : List NormalizedEvent) : Decidable (Meant events) := inferInstanceAs (Decidable (∀ first ∈ events, ∀ second ∈ events, _))

/-- Equal ids mean times of one clock reading and one offset. -/
def Written (events : List NormalizedEvent) : Prop :=
  ∀ first ∈ events, ∀ second ∈ events, first.eventId = second.eventId → first.eventTime = second.eventTime

omit [Interpreter] in
instance (events : List NormalizedEvent) : Decidable (Written events) := inferInstanceAs (Decidable (∀ first ∈ events, ∀ second ∈ events, _))

/-- What a correlation depends on in an event. -/
def stamp (event : NormalizedEvent) : DateTime × Text := (event.eventTime,event.eventId)

/-- What the order of the events depends on. -/
def moment (event : NormalizedEvent) : Int × Text := (event.eventTime.instant,event.eventId)

/-- A correlation without the way its times are written. -/
def outline (correlation : Correlation) : CorrelationKind × Text × List Text × Int × Int × Text :=
  (correlation.kind,correlation.key,correlation.eventIds,correlation.windowStart.instant,correlation.windowEnd.instant,correlation.rationale)

omit [Interpreter] in
theorem bucketed_perm [Interpreter] {events others : List NormalizedEvent} (same : events.Perm others) :
    (bucketed events).Perm (bucketed others) := same.flatMap_right _

theorem Timed.perm {events others : List NormalizedEvent} (timed : Timed events) (same : events.Perm others) : Timed others :=
  fun kind key => (timed kind key).subset ((valuesAt_perm (bucketed_perm same) (kind,key)).map _).symm.subset

theorem bucketKeys_perm {events others : List NormalizedEvent} (same : events.Perm others) : bucketKeys events = bucketKeys others := by
  refine strict_unique (bucketKeys_strict events) (bucketKeys_strict others) fun key => ?_
  have alike := (valuesAt_perm (bucketed_perm same) key).length_eq
  rw [mem_bucketKeys,mem_bucketKeys,← List.length_pos_iff,← List.length_pos_iff,alike]

theorem ordered_perm {events others : List NormalizedEvent} (same : events.Perm others) (kind : CorrelationKind) (key : Text) :
    (ordered events kind key).Perm (ordered others kind key) :=
  ((perm_sortedBy _ _).trans (valuesAt_perm (bucketed_perm same) (kind,key))).trans (perm_sortedBy _ _).symm

/-- The order of a bucket does not depend on the order of the events, as far as moments tell. -/
theorem ordered_moments {events others : List NormalizedEvent} (same : events.Perm others) (kind : CorrelationKind) (key : Text) :
    (ordered events kind key).map moment = (ordered others kind key).map moment := by
  have sorted : ∀ events : List NormalizedEvent, ((ordered events kind key).map moment).Pairwise fun first second =>
      (toLex first : Int ×ₗ Text) ≤ toLex second := fun events => List.pairwise_map.mpr (pairwise_sortedBy _ _)
  exact List.Perm.eq_of_pairwise (fun first second _ _ below above => toLex.injective (le_antisymm below above)) (sorted events)
    (sorted others) ((ordered_perm same kind key).map moment)

/-- Nor as far as stamps tell, when an id stands for one of them. -/
theorem ordered_stamps {events others : List NormalizedEvent} (written : Written events) (same : events.Perm others)
    (kind : CorrelationKind) (key : Text) : (ordered events kind key).map stamp = (ordered others kind key).map stamp := by
  have sorted : ∀ events : List NormalizedEvent, ((ordered events kind key).map stamp).Pairwise fun first second =>
      (toLex (first.1.instant,first.2) : Int ×ₗ Text) ≤ toLex (second.1.instant,second.2) := fun events =>
    List.pairwise_map.mpr (pairwise_sortedBy _ _)
  refine List.Perm.eq_of_pairwise (fun first second left right below above => ?_) (sorted events) (sorted others)
    ((ordered_perm same kind key).map stamp)
  obtain ⟨event,listed,rfl⟩ := List.mem_map.mp left
  obtain ⟨other,known,rfl⟩ := List.mem_map.mp right
  have ids : event.eventId = other.eventId := congrArg (fun order => (ofLex order).2) (le_antisymm below above)
  exact Prod.ext (written event (mem_ordered.mp listed).1 other (same.mem_iff.mpr (mem_ordered.mp known).1) ids) ids

omit [Interpreter] in
theorem getLast?_alike {γ : Type} {mark : NormalizedEvent → γ} {first start : NormalizedEvent} {rest later : List NormalizedEvent}
    (same : (first :: rest).map mark = (start :: later).map mark) :
    mark ((first :: rest).getLast (List.cons_ne_nil _ _)) = mark ((start :: later).getLast (List.cons_ne_nil _ _)) := by
  have lasts := congrArg List.getLast? same
  rwa [List.getLast?_map,List.getLast?_map,List.getLast?_eq_some_getLast (List.cons_ne_nil first rest),
    List.getLast?_eq_some_getLast (List.cons_ne_nil start later),Option.map_some,Option.map_some,Option.some_inj] at lasts

omit [Interpreter] in
/-- The distinct ids of some events are told by any mark that shows the id. -/
theorem uniqueEventIds_alike {γ : Type} (mark : NormalizedEvent → γ) (id : γ → Text) (shows : ∀ event, id (mark event) = event.eventId)
    {run other : List NormalizedEvent} (same : run.map mark = other.map mark) : uniqueEventIds run = uniqueEventIds other := by
  have marks : ∀ events : List NormalizedEvent, uniqueEventIds events = unique ((events.map mark).map id) := fun events => by
    rw [List.map_map,uniqueEventIds]
    exact congrArg unique (List.map_congr_left fun event _ => (shows event).symm)
  rw [marks,marks,same]

theorem episodeCorrelation_stamps {window : Int} {minimumEvents : Nat} {kind : CorrelationKind} {key : Text}
    {run other : List NormalizedEvent} (same : run.map stamp = other.map stamp) :
    episodeCorrelation window minimumEvents kind key run = episodeCorrelation window minimumEvents kind key other := by
  have ids : uniqueEventIds run = uniqueEventIds other := uniqueEventIds_alike stamp Prod.snd (fun _ => rfl) same
  cases run with
  | nil =>
    cases other with
    | nil => rfl
    | cons => cases same
  | cons first rest =>
    cases other with
    | nil => cases same
    | cons start later =>
      have starts : first.eventTime = start.eventTime := congrArg Prod.fst (List.cons.inj same).1
      have stops : ((first :: rest).getLast (List.cons_ne_nil _ _)).eventTime = ((start :: later).getLast (List.cons_ne_nil _ _)).eventTime :=
        congrArg Prod.fst (getLast?_alike same)
      simp only [episodeCorrelation,ids,starts,stops]

theorem episodeCorrelation_moments {window : Int} {minimumEvents : Nat} {kind : CorrelationKind} {key : Text}
    {run other : List NormalizedEvent} (same : run.map moment = other.map moment) :
    (episodeCorrelation window minimumEvents kind key run).map outline = (episodeCorrelation window minimumEvents kind key other).map outline := by
  have ids : uniqueEventIds run = uniqueEventIds other := uniqueEventIds_alike moment Prod.snd (fun _ => rfl) same
  cases run with
  | nil =>
    cases other with
    | nil => rfl
    | cons => cases same
  | cons first rest =>
    cases other with
    | nil => cases same
    | cons start later =>
      have starts : first.eventTime.instant = start.eventTime.instant := congrArg Prod.fst (List.cons.inj same).1
      have stops : ((first :: rest).getLast (List.cons_ne_nil _ _)).eventTime.instant =
          ((start :: later).getLast (List.cons_ne_nil _ _)).eventTime.instant := congrArg Prod.fst (getLast?_alike same)
      simp only [episodeCorrelation,ids]
      split_ifs
      · rfl
      · simp only [Option.map_some,outline,starts,stops]

omit [Interpreter] in
theorem filterMap_alike {γ β : Type} {mark : NormalizedEvent → γ} {tell : List NormalizedEvent → Option β}
    (depends : ∀ run other : List NormalizedEvent, run.map mark = other.map mark → tell run = tell other)
    {runs others : List (List NormalizedEvent)} (same : runs.map (List.map mark) = others.map (List.map mark)) :
    runs.filterMap tell = others.filterMap tell := by
  induction runs generalizing others with
  | nil =>
    cases others with
    | nil => rfl
    | cons => cases same
  | cons run rest ih =>
    cases others with
    | nil => cases same
    | cons other later =>
      obtain ⟨alike,left⟩ := List.cons.inj same
      rw [List.filterMap_cons,List.filterMap_cons,depends run other alike,ih left]

omit [Interpreter] in
/-- What is told of the episodes depends on what it is told from, if that shows the instant. -/
theorem episodes_alike {γ β : Type} {mark : NormalizedEvent → γ} {instant : γ → Int} (shows : ∀ event, instant (mark event) = event.eventTime.instant)
    {tell : List NormalizedEvent → Option β} (depends : ∀ run other : List NormalizedEvent, run.map mark = other.map mark → tell run = tell other)
    {events others : List NormalizedEvent} (same : events.map mark = others.map mark) (window : Int) :
    (splitEpisodes events window).filterMap tell = (splitEpisodes others window).filterMap tell := by
  have split : ∀ events : List NormalizedEvent, (splitEpisodes events window).map (List.map mark) =
      splitByGap (far instant window) (events.map mark) := fun events =>
    (@splitByGap_map NormalizedEvent γ (far (·.eventTime.instant) window) (far instant window) mark
      (fun first second => by simp only [far,shows]) _).symm
  exact filterMap_alike depends (by rw [split,split,same])

theorem keyCorrelations_perm {events others : List NormalizedEvent} (written : Written events) (same : events.Perm others) (window : Int)
    (minimumEvents : Nat) (key : CorrelationKind × Text) :
    keyCorrelations events window minimumEvents key = keyCorrelations others window minimumEvents key :=
  @episodes_alike _ _ stamp (·.1.instant) (fun _ => rfl) _ (fun _ _ => episodeCorrelation_stamps) _ _
    (ordered_stamps written same key.1 key.2) window

theorem keyCorrelations_outline {events others : List NormalizedEvent} (same : events.Perm others) (window : Int)
    (minimumEvents : Nat) (key : CorrelationKind × Text) :
    (keyCorrelations events window minimumEvents key).map outline = (keyCorrelations others window minimumEvents key).map outline := by
  rw [keyCorrelations,keyCorrelations,List.map_filterMap,List.map_filterMap]
  exact @episodes_alike _ _ moment (·.1) (fun _ => rfl) _ (fun _ _ => episodeCorrelation_moments) _ _
    (ordered_moments same key.1 key.2) window

/-! ### The correlations -/

/-- The correlations are exactly the long enough maximal runs of each key, under ids of their own. -/
structure Correlated (events : List NormalizedEvent) (window : Int) (minimumEvents : Nat) (correlations : List Correlation) : Prop where
  reported : ∀ kind key run, Run events window kind key run → minimumEvents ≤ (uniqueEventIds run).length →
    ∃ correlation ∈ correlations, Describes kind key run correlation
  only : ∀ correlation ∈ correlations, ∃ run, Run events window correlation.kind correlation.key run ∧
    minimumEvents ≤ (uniqueEventIds run).length ∧ Describes correlation.kind correlation.key run correlation
  once : ∀ kind key run other, Run events window kind key run → Run events window kind key other →
    ∀ first ∈ run, ∀ second ∈ other, first.eventId = second.eventId → run = other
  covered : ∀ kind key, ∀ event ∈ events, (kind,key) ∈ keysOf event → ∃ run, Run events window kind key run ∧ event ∈ run
  distinct : (correlations.map (·.correlationId)).Nodup

/-- The correlations are the maximal runs of each key, for every order of the events up to the
    way equal times are written; they are refused only when the times under one key are of
    both kinds. -/
theorem correlations_maximal (events : List NormalizedEvent) {window : Int} (minimumEvents : Nat) (meant : Meant events)
    (wide : 0 ≤ window) :
    (¬ Timed events ∧ ∀ others, events.Perm others → correlateEvents others window minimumEvents = .error .TypeError) ∨
    (Timed events ∧ ∃ correlations, correlateEvents events window minimumEvents = .ok correlations ∧
      Correlated events window minimumEvents correlations ∧
      ∀ others, events.Perm others → ∃ again, correlateEvents others window minimumEvents = .ok again ∧
        again.map outline = correlations.map outline ∧ (Written events → again = correlations)) := by
  by_cases timed : Timed events
  · refine .inr ⟨timed,(bucketKeys events).flatMap (keyCorrelations events window minimumEvents),
      correlateEvents_eq window minimumEvents timed,⟨?_,?_,?_,?_,?_⟩,fun others same => ⟨_,correlateEvents_eq window minimumEvents (timed.perm same),?_,?_⟩⟩
    · intro kind key run maximal enough
      obtain ⟨correlation,made⟩ := episodeCorrelation_returns window kind key maximal.part.1 enough
      refine ⟨correlation,List.mem_flatMap.mpr ⟨(kind,key),?_,mem_keyCorrelations.mpr ⟨run,maximal,made⟩⟩,
        (episodeCorrelation_some maximal.sorted made).2⟩
      obtain ⟨event,inside⟩ := List.exists_mem_of_ne_nil _ maximal.part.1
      have filed := (mem_sortedBy _ _ event).mp (maximal.part.2 inside)
      exact mem_bucketKeys.mpr (List.ne_nil_of_mem filed)
    · intro correlation member
      obtain ⟨key,_,listed⟩ := List.mem_flatMap.mp member
      obtain ⟨run,maximal,made⟩ := mem_keyCorrelations.mp listed
      obtain ⟨enough,describes⟩ := episodeCorrelation_some maximal.sorted made
      rw [describes.kind,describes.key]
      exact ⟨run,maximal,enough,describes⟩
    · intro kind key run other maximal also first inside second within same
      have left := (mem_ordered.mp (maximal.part.2 inside)).1
      have right := (mem_ordered.mp (also.part.2 within)).1
      exact run_unique wide (ordered_sorted events kind key) maximal also inside within (meant first left second right same).2
    · intro kind key event listed keyed
      exact exists_run (mem_ordered.mpr ⟨listed,keyed⟩)
    · exact ids_distinct events wide minimumEvents
    · rw [← bucketKeys_perm same,List.map_flatMap,List.map_flatMap]
      exact congrArg (List.flatMap · _) (funext fun key => (keyCorrelations_outline same window minimumEvents key).symm)
    · intro written
      rw [← bucketKeys_perm same]
      exact congrArg (List.flatMap · _) (funext fun key => (keyCorrelations_perm written same window minimumEvents key).symm)
  · exact .inl ⟨timed,fun others same => correlateEvents_refused window minimumEvents fun other => timed (other.perm same.symm)⟩

theorem timed_of_comparable {events : List NormalizedEvent} (all : AllComparable (events.map (·.eventTime))) : Timed events := by
  refine fun kind key => all.subset (List.map_subset _ fun event member => ?_)
  have filed := mem_valuesAt.mp member
  simp only [bucketed,List.mem_flatMap,List.mem_map,Prod.mk.injEq] at filed
  obtain ⟨_,listed,_,_,_,rfl⟩ := filed
  exact listed

end

/-- An event on one host. -/
def onHost (eventId : Text) (eventTime : DateTime) : NormalizedEvent where
  eventId := eventId
  recordId := lit "r1"
  sourceId := lit "siem"
  sourceKind := .SIEM
  logFormat := .JSON
  eventTime := eventTime
  host := some (lit "web-1")

/-- Two events half a minute apart, and one later. -/
def hostEvents : List NormalizedEvent :=
  [onHost (lit "evt-1") (firstDay 0 (some 0)),onHost (lit "evt-2") (firstDay 30000000 (some 0)),
    onHost (lit "evt-3") (firstDay 600000000 (some 0))]

theorem host_events_correlated : ∃ correlations, @correlateEvents ascii hostEvents 60000000 2 = .ok correlations ∧
    @Correlated ascii hostEvents 60000000 2 correlations := by
  have meant : Meant hostEvents := by decide
  have timed : @Timed ascii hostEvents := @timed_of_comparable ascii _ (by decide)
  rcases @correlations_maximal ascii hostEvents 60000000 2 meant (by decide) with ⟨mixed,_⟩ | ⟨_,correlations,ran,exact_runs,_⟩
  · exact absurd timed mixed
  · exact ⟨correlations,ran,exact_runs⟩

/-- One event by a plain reading of the clock, one by an instant. -/
def mixedEvents : List NormalizedEvent := [onHost (lit "evt-1") (firstDay 0 none),onHost (lit "evt-2") (firstDay 1 (some 0))]

/-- An hour, in microseconds. -/
def hour : Nat := 3600000000

/-- One time written in UTC and an hour ahead of it, and a later event. -/
def greenwich : NormalizedEvent := onHost (lit "evt-1") (firstDay hour (some 0))
def paris : NormalizedEvent := onHost (lit "evt-1") (firstDay (2 * hour) (some hour))
def afterwards : NormalizedEvent := onHost (lit "evt-2") (firstDay (hour + 1000000) (some 0))

/-- Events of both kinds are refused, and of two writings of one time the first listed is reported. -/
theorem mixed_and_rewritten_events :
    (Meant mixedEvents ∧ @correlateEvents ascii mixedEvents 60000000 2 = .error .TypeError) ∧
      Meant [greenwich,paris,afterwards] ∧ [greenwich,paris,afterwards].Perm [paris,greenwich,afterwards] ∧
      (@correlateEvents ascii [greenwich,paris,afterwards] 60000000 2).toOption.map (·.map (·.correlationId)) ≠
        (@correlateEvents ascii [paris,greenwich,afterwards] 60000000 2).toOption.map (·.map (·.correlationId)) :=
  ⟨⟨by decide,rfl⟩,by decide,.swap _ _ _,by decide +kernel⟩

end SocAnalyst.Correlations
