import SocAnalyst.Calendar
import SocAnalyst.Groups
import SocAnalyst.Iocs
import SocAnalyst.LogAnalysis

/-!
# What the indicators sum up

`extract_iocs` of `tools/iocs.py` updates four aggregates for each key in one pass. They
are the aggregates of the sightings, whatever order those came in.
-/
namespace SocAnalyst.Sightings
open SocAnalyst.Builtins SocAnalyst.Times SocAnalyst.Calendar SocAnalyst.Dicts SocAnalyst.Logs SocAnalyst.Iocs
open SocAnalyst.LogAnalysis (AllComparable)

variable [Interpreter] {internalNetworks : List Text}

/-! ### The sightings of a key -/

/-- The events of the sightings under a key, an event once for each sighting. -/
def sightingsOf (seen : List (NormalizedEvent × Entity)) (key : IocType × Text) : List NormalizedEvent :=
  (seen.filter fun sighting => keyOf sighting = some key).map Prod.fst

/-- The key of an indicator. -/
def iocKey (ioc : IocIndicator) : IocType × Text := (ioc.type,lower ioc.value)

theorem sightingsOf_append (first second : List (NormalizedEvent × Entity)) (key : IocType × Text) :
    sightingsOf (first ++ second) key = sightingsOf first key ++ sightingsOf second key := by simp [sightingsOf]

theorem sightingsOf_single (sighting : NormalizedEvent × Entity) (key : IocType × Text) :
    sightingsOf [sighting] key = if keyOf sighting = some key then [sighting.1] else [] := by
  by_cases same : keyOf sighting = some key <;> simp [sightingsOf,same]

/-- The times of the sightings under each key can be ordered. -/
def Timed (seen : List (NormalizedEvent × Entity)) : Prop := ∀ key, AllComparable ((sightingsOf seen key).map (·.eventTime))

/-- The aggregates of some sightings. -/
structure Sums (events : List NormalizedEvent) (ioc : IocIndicator) : Prop where
  count : ioc.observationCount = events.length
  once : ioc.eventIds.Nodup
  ids : ∀ eventId, eventId ∈ ioc.eventIds ↔ ∃ event ∈ events, event.eventId = eventId
  first : ∃ event ∈ events, ioc.firstSeen = some event.eventTime ∧
    ∀ other ∈ events, event.eventTime.instant ≤ other.eventTime.instant
  last : ∃ event ∈ events, ioc.lastSeen = some event.eventTime ∧
    ∀ other ∈ events, other.eventTime.instant ≤ event.eventTime.instant

omit [Interpreter] in
theorem min_comparable {s t : DateTime} (alike : Comparable s t) :
    s.min t = .ok (if t.instant < s.instant then t else s) := by
  simp only [DateTime.min,lt_comparable (Eq.symm alike),Except.map]
  by_cases less : t.instant < s.instant <;> simp [less]

omit [Interpreter] in
theorem max_comparable {s t : DateTime} (alike : Comparable s t) :
    s.max t = .ok (if s.instant < t.instant then t else s) := by
  simp only [DateTime.max,lt_comparable alike,Except.map]
  by_cases less : s.instant < t.instant <;> simp [less]

omit [Interpreter] in
/-- One more sighting is added to every aggregate. -/
theorem sightedAgain_sums {events : List NormalizedEvent} {event : NormalizedEvent} {existing : IocIndicator}
    (sums : Sums events existing) (alike : ∀ other ∈ events, Comparable other.eventTime event.eventTime) :
    ∃ next, sightedAgain event existing = .ok next ∧ next.core = existing.core ∧ Sums (events ++ [event]) next := by
  obtain ⟨count,once,ids,⟨early,listed,started,least⟩,⟨late,known,ended,most⟩⟩ := sums
  simp only [sightedAgain,earliest,latest,started,ended,min_comparable (alike early listed),max_comparable (alike late known),
    Except.map,bind,Except.bind,pure,Except.pure]
  refine ⟨_,rfl,rfl,⟨by simp [count],?_,?_,?_,?_⟩⟩
  · dsimp only [appendUnique]
    split_ifs with there
    · exact once
    · exact List.nodup_append.mpr ⟨once,List.nodup_singleton _,fun a member b single equal =>
        there (List.mem_singleton.mp single ▸ equal ▸ member)⟩
  · intro eventId
    dsimp only [appendUnique]
    split_ifs with there
    · rw [ids]
      constructor
      · rintro ⟨other,member,same⟩
        exact ⟨other,List.mem_append_left _ member,same⟩
      · rintro ⟨other,member,same⟩
        rcases List.mem_append.mp member with earlier | now
        · exact ⟨other,earlier,same⟩
        · rw [List.mem_singleton.mp now] at same
          exact (ids eventId).mp (same ▸ there)
    · simp only [List.mem_append,ids,List.mem_singleton]
      constructor
      · rintro (⟨other,member,same⟩ | rfl)
        · exact ⟨other,.inl member,same⟩
        · exact ⟨event,.inr rfl,rfl⟩
      · rintro ⟨other,member | rfl,same⟩
        · exact .inl ⟨other,member,same⟩
        · exact .inr same.symm
  · by_cases less : event.eventTime.instant < early.eventTime.instant
    · refine ⟨event,by simp,by simp [less],fun other member => ?_⟩
      rcases List.mem_append.mp member with earlier | now
      · exact less.le.trans (least other earlier)
      · rw [List.mem_singleton.mp now]
    · refine ⟨early,List.mem_append_left _ listed,by simp [less],fun other member => ?_⟩
      rcases List.mem_append.mp member with earlier | now
      · exact least other earlier
      · rw [List.mem_singleton.mp now]
        exact not_lt.mp less
  · by_cases more : late.eventTime.instant < event.eventTime.instant
    · refine ⟨event,by simp,by simp [more],fun other member => ?_⟩
      rcases List.mem_append.mp member with earlier | now
      · exact (most other earlier).trans more.le
      · rw [List.mem_singleton.mp now]
    · refine ⟨late,List.mem_append_left _ known,by simp [more],fun other member => ?_⟩
      rcases List.mem_append.mp member with earlier | now
      · exact most other earlier
      · rw [List.mem_singleton.mp now]
        exact not_lt.mp more

omit [Interpreter] in
/-- A time that cannot be ordered with the earlier ones is refused. -/
theorem sightedAgain_refused {events : List NormalizedEvent} {event : NormalizedEvent} {existing : IocIndicator}
    (sums : Sums events existing) (timed : AllComparable (events.map (·.eventTime)))
    (mixed : ¬ ∀ other ∈ events, Comparable other.eventTime event.eventTime) : sightedAgain event existing = .error .TypeError := by
  obtain ⟨early,listed,started,_⟩ := sums.first
  have unlike : ¬ Comparable event.eventTime early.eventTime := fun alike => mixed fun other member =>
    (timed _ (List.mem_map_of_mem member) _ (List.mem_map_of_mem listed)).trans (Eq.symm alike)
  simp only [sightedAgain,earliest,started,DateTime.min,DateTime.lt]
  rw [if_neg unlike]
  rfl

theorem sums_first {event : NormalizedEvent} {type : IocType} {value : Text} :
    Sums [event] (sighted internalNetworks event type value) :=
  ⟨rfl,List.nodup_singleton _,by simp [sighted,eq_comm],⟨event,by simp,rfl,by simp⟩,⟨event,by simp,rfl,by simp⟩⟩

/-! ### The loop -/

/-- What has been collected sums up what has been seen. -/
def Summed (seen : List (NormalizedEvent × Entity)) (collected : Dict (IocType × Text) IocIndicator) : Prop :=
  ∀ key, (collected.get? key = none ∧ sightingsOf seen key = []) ∨
    ∃ ioc, collected.get? key = some ioc ∧ iocKey ioc = key ∧ Sums (sightingsOf seen key) ioc

theorem summed_empty : Summed [] .empty := fun _ => .inl ⟨rfl,rfl⟩

/-- What one entity adds under its key, and nothing under the others. -/
theorem Summed.set {seen : List (NormalizedEvent × Entity)} {collected : Dict (IocType × Text) IocIndicator}
    {sighting : NormalizedEvent × Entity} {key : IocType × Text} {next : IocIndicator} (so_far : Summed seen collected)
    (keyed : keyOf sighting = some key) (named : iocKey next = key) (sums : Sums (sightingsOf seen key ++ [sighting.1]) next) :
    Summed (seen ++ [sighting]) (collected.set key next) := by
  intro other
  rw [sightingsOf_append,sightingsOf_single,Dict.get?_set,keyed]
  by_cases same : other = key
  · subst same
    exact .inr ⟨next,if_pos rfl,named,by simpa using sums⟩
  · have different : ¬ some key = some other := fun equal => same (Option.some.inj equal).symm
    rw [if_neg same,if_neg different,List.append_nil]
    exact so_far other

theorem iocKey_core {first second : IocIndicator} (same : first.core = second.core) : iocKey first = iocKey second := by
  simp only [IocIndicator.core,Prod.mk.injEq] at same
  rw [iocKey,iocKey,same.1,same.2.1]

variable (internalNetworks) in
theorem Summed.step {seen : List (NormalizedEvent × Entity)} {collected : Dict (IocType × Text) IocIndicator}
    {event : NormalizedEvent} {entity : Entity} (so_far : Summed seen collected) (timed : Timed seen) :
    (Timed (seen ++ [(event,entity)]) ∧
      ∃ next, collect internalNetworks collected event entity = .ok next ∧ Summed (seen ++ [(event,entity)]) next) ∨
    (¬ Timed (seen ++ [(event,entity)]) ∧ collect internalNetworks collected event entity = .error .TypeError) := by
  have others : ∀ key, keyOf (event,entity) ≠ some key → sightingsOf (seen ++ [(event,entity)]) key = sightingsOf seen key := by
    intro key other
    rw [sightingsOf_append,sightingsOf_single,if_neg other,List.append_nil]
  cases kind : entityToIoc entity.type with
  | none =>
    have unkeyed : ∀ key, keyOf (event,entity) ≠ some key := fun key => by simp [keyOf,kind]
    refine .inl ⟨fun key => ?_,collected,by simp [collect,kind],fun key => ?_⟩
    · rw [others key (unkeyed key)]
      exact timed key
    · rw [others key (unkeyed key)]
      exact so_far key
  | some type =>
    have keyed : keyOf (event,entity) = some (type,lower entity.value) := by simp [keyOf,kind]
    have here : sightingsOf (seen ++ [(event,entity)]) (type,lower entity.value) =
        sightingsOf seen (type,lower entity.value) ++ [event] := by
      rw [sightingsOf_append,sightingsOf_single,if_pos keyed]
    rcases so_far (type,lower entity.value) with ⟨absent,unseen⟩ | ⟨existing,stored,named,sums⟩
    · refine .inl ⟨fun key => ?_,
        collected.set (type,lower entity.value) (sighted internalNetworks event type entity.value),
        by simp only [collect,kind,absent],so_far.set keyed rfl ?_⟩
      · by_cases same : keyOf (event,entity) = some key
        · rw [keyed,Option.some_inj] at same
          rw [← same,here,unseen]
          simp [AllComparable,Comparable]
        · rw [others key same]
          exact timed key
      · rw [unseen]
        exact sums_first
    · by_cases alike : ∀ other ∈ sightingsOf seen (type,lower entity.value), Comparable other.eventTime event.eventTime
      · obtain ⟨next,again,core,summed⟩ := sightedAgain_sums sums alike
        refine .inl ⟨fun key => ?_,_,by simp only [collect,kind,stored,again,Except.map],
          so_far.set keyed ((iocKey_core core).trans named) summed⟩
        by_cases same : keyOf (event,entity) = some key
        · rw [keyed,Option.some_inj] at same
          rw [← same,here]
          simp only [AllComparable,List.map_append,List.map_cons,List.map_nil,List.mem_append,List.mem_singleton,List.mem_map]
          rintro s (⟨first,left,rfl⟩ | rfl) t (⟨second,right,rfl⟩ | rfl)
          · exact timed _ _ (List.mem_map_of_mem left) _ (List.mem_map_of_mem right)
          · exact alike first left
          · exact Eq.symm (alike second right)
          · rfl
        · rw [others key same]
          exact timed key
      · refine .inr ⟨fun all => alike fun other member => ?_,?_⟩
        · have both := all (type,lower entity.value)
          rw [here] at both
          exact both _ (List.mem_map_of_mem (List.mem_append_left _ member)) _
            (List.mem_map_of_mem (List.mem_append_right _ (List.mem_singleton_self _)))
        · simp only [collect,kind,stored,sightedAgain_refused sums (timed _) alike,Except.map]

omit [Interpreter] in
theorem AllComparable.left {first second : List DateTime} (all : AllComparable (first ++ second)) : AllComparable first :=
  all.subset (List.subset_append_left _ _)

theorem Timed.left {first second : List (NormalizedEvent × Entity)} (timed : Timed (first ++ second)) : Timed first := by
  intro key
  have both := timed key
  rw [sightingsOf_append,List.map_append] at both
  exact AllComparable.left both

variable (internalNetworks) in
theorem Summed.run {rest seen : List (NormalizedEvent × Entity)} {collected : Dict (IocType × Text) IocIndicator}
    (so_far : Summed seen collected) (timed : Timed seen) :
    (Timed (seen ++ rest) ∧ ∃ final, collectFrom internalNetworks collected rest = .ok final ∧ Summed (seen ++ rest) final) ∨
    (¬ Timed (seen ++ rest) ∧ collectFrom internalNetworks collected rest = .error .TypeError) := by
  induction rest generalizing seen collected with
  | nil =>
    rw [List.append_nil]
    exact .inl ⟨timed,collected,rfl,so_far⟩
  | cons sighting rest ih =>
    obtain ⟨event,entity⟩ := sighting
    have split : seen ++ (event,entity) :: rest = (seen ++ [(event,entity)]) ++ rest := by simp
    rw [collectFrom,split]
    rcases so_far.step internalNetworks timed with ⟨ordered,next,step,summed⟩ | ⟨mixed,refused⟩
    · rw [step]
      exact ih summed ordered
    · rw [refused]
      exact .inr ⟨fun all => mixed all.left,rfl⟩

/-! ### The indicators -/

/-- The order of the result: by count, then type, then value. -/
def iocOrder (ioc : IocIndicator) : Int ×ₗ Text ×ₗ Text :=
  toLex (-(ioc.observationCount : Int),toLex (ioc.type.value,lower ioc.value))

omit [Interpreter] in
theorem type_value_injective {first second : IocType} (same : first.value = second.value) : first = second := by
  revert same
  cases first <;> cases second <;> decide

theorem iocKey_of_order {first second : IocIndicator} (same : iocOrder first = iocOrder second) : iocKey first = iocKey second := by
  have types : first.type.value = second.type.value := congrArg (fun order => (ofLex (ofLex order).2).1) same
  have values : lower first.value = lower second.value := congrArg (fun order => (ofLex (ofLex order).2).2) same
  exact Prod.ext (type_value_injective types) values

/-- The indicators of some sightings: one for each key, with its aggregates, in order. -/
structure Indicators (seen : List (NormalizedEvent × Entity)) (iocs : List IocIndicator) : Prop where
  once : (iocs.map iocKey).Nodup
  keys : ∀ key, key ∈ iocs.map iocKey ↔ ∃ sighting ∈ seen, keyOf sighting = some key
  sums : ∀ ioc ∈ iocs, Sums (sightingsOf seen (iocKey ioc)) ioc
  order : iocs.Pairwise fun first second => iocOrder first < iocOrder second

theorem sightingsOf_nil {seen : List (NormalizedEvent × Entity)} {key : IocType × Text} :
    sightingsOf seen key = [] ↔ ¬ ∃ sighting ∈ seen, keyOf sighting = some key := by
  simp [sightingsOf,List.filter_eq_nil_iff]

/-- The keys of the collected indicators are those they are stored under. -/
theorem Summed.keys {seen : List (NormalizedEvent × Entity)} {collected : Dict (IocType × Text) IocIndicator}
    (summed : Summed seen collected) : collected.values.map iocKey = collected.keys := by
  rw [Dict.values,Dict.keys,List.map_map]
  refine List.map_congr_left fun stored member => ?_
  have found := (Dict.get?_eq_some _ _ _).mpr member
  rcases summed stored.1 with ⟨absent,_⟩ | ⟨ioc,here,named,_⟩
  · rw [absent] at found
    cases found
  · rw [found] at here
    cases here
    exact named

theorem Summed.indicators {seen : List (NormalizedEvent × Entity)} {collected : Dict (IocType × Text) IocIndicator}
    (summed : Summed seen collected) : Indicators seen (sortedBy iocOrder collected.values) := by
  have same : (sortedBy iocOrder collected.values).Perm collected.values := Groups.perm_sortedBy iocOrder _
  have once : (collected.values.map iocKey).Nodup := by
    rw [summed.keys]
    exact collected.distinct
  refine ⟨(same.map _).nodup_iff.mpr once,fun key => ?_,fun ioc member => ?_,strict_sortedBy ?_⟩
  · rw [(same.map iocKey).mem_iff,summed.keys]
    rcases summed key with ⟨absent,unseen⟩ | ⟨ioc,stored,_,sums⟩
    · have missing : key ∉ collected.keys := by
        intro listed
        obtain ⟨entry,member,rfl⟩ := List.mem_map.mp listed
        rw [(Dict.get?_eq_some _ _ _).mpr member] at absent
        cases absent
      exact iff_of_false missing (sightingsOf_nil.mp unseen)
    · obtain ⟨event,listed,_⟩ := sums.first
      refine iff_of_true (List.mem_map_of_mem ((Dict.get?_eq_some _ _ _).mp stored)) (not_not.mp fun none => ?_)
      rw [sightingsOf_nil.mpr none] at listed
      cases listed
  · obtain ⟨key,stored⟩ := (Dict.mem_values _ _).mp ((mem_sortedBy _ _ ioc).mp member)
    rcases summed key with ⟨absent,_⟩ | ⟨other,here,named,sums⟩
    · rw [absent] at stored
      cases stored
    · rw [stored] at here
      cases here
      rw [named]
      exact sums
  · refine List.Nodup.map_on (fun first left second right same => ?_) (List.Nodup.of_map iocKey once)
    exact List.inj_on_of_nodup_map once left right (iocKey_of_order same)

/-- Indicators that an analyst cannot tell apart. -/
def Alike (first second : IocIndicator) : Prop :=
  iocKey first = iocKey second ∧ first.observationCount = second.observationCount ∧
    first.firstSeen.map (·.instant) = second.firstSeen.map (·.instant) ∧
    first.lastSeen.map (·.instant) = second.lastSeen.map (·.instant) ∧
    ∀ eventId, eventId ∈ first.eventIds ↔ eventId ∈ second.eventIds

omit [Interpreter] in
theorem entitiesOf_perm {events others : List NormalizedEvent} (same : events.Perm others) :
    (entitiesOf events).Perm (entitiesOf others) := same.flatMap_right _

theorem sightingsOf_perm {seen others : List (NormalizedEvent × Entity)} (same : seen.Perm others) (key : IocType × Text) :
    (sightingsOf seen key).Perm (sightingsOf others key) := (same.filter _).map _

theorem Timed.perm {seen others : List (NormalizedEvent × Entity)} (timed : Timed seen) (same : seen.Perm others) : Timed others :=
  fun key => (timed key).subset ((sightingsOf_perm same key).map _).symm.subset

/-- The aggregates do not depend on the order of the sightings. -/
theorem Sums.alike {events others : List NormalizedEvent} {first second : IocIndicator} (left : Sums events first)
    (right : Sums others second) (keyed : iocKey first = iocKey second) (same : events.Perm others) : Alike first second := by
  refine ⟨keyed,?_,?_,?_,fun eventId => ?_⟩
  · rw [left.count,right.count,same.length_eq]
  · obtain ⟨early,listed,started,least⟩ := left.first
    obtain ⟨other,known,begun,lowest⟩ := right.first
    rw [started,begun,Option.map_some,Option.map_some,
      le_antisymm (least other (same.mem_iff.mpr known)) (lowest early (same.mem_iff.mp listed))]
  · obtain ⟨late,listed,ended,most⟩ := left.last
    obtain ⟨other,known,stopped,highest⟩ := right.last
    rw [ended,stopped,Option.map_some,Option.map_some,
      le_antisymm (highest late (same.mem_iff.mp listed)) (most other (same.mem_iff.mpr known))]
  · rw [left.ids,right.ids]
    simp only [same.mem_iff]

/-- The indicators are the aggregates of the sightings for every order of the events, and are
    refused only when the times under one key are of both kinds. -/
theorem iocs_summed (internalNetworks : List Text) (events : List NormalizedEvent) :
    (¬ Timed (entitiesOf events) ∧ ∀ others, events.Perm others → extractIocs internalNetworks others = .error .TypeError) ∨
    (Timed (entitiesOf events) ∧ ∃ iocs, extractIocs internalNetworks events = .ok iocs ∧ Indicators (entitiesOf events) iocs ∧
      ∀ others, events.Perm others → ∃ permuted, extractIocs internalNetworks others = .ok permuted ∧
        ∀ ioc ∈ iocs, ∃ other ∈ permuted, Alike ioc other) := by
  have run : ∀ events : List NormalizedEvent,
      (Timed (entitiesOf events) ∧ ∃ iocs, extractIocs internalNetworks events = .ok iocs ∧ Indicators (entitiesOf events) iocs) ∨
      (¬ Timed (entitiesOf events) ∧ extractIocs internalNetworks events = .error .TypeError) := by
    intro events
    have start : Timed [] := fun key => by simp [sightingsOf,AllComparable]
    have pass := @Summed.run _ internalNetworks (entitiesOf events) [] .empty summed_empty start
    rcases pass with ⟨timed,final,ran,summed⟩ | ⟨mixed,refused⟩
    · exact .inl ⟨timed,sortedBy iocOrder final.values,by rw [extractIocs,ran]; rfl,summed.indicators⟩
    · exact .inr ⟨mixed,by rw [extractIocs,refused]; rfl⟩
  rcases run events with ⟨timed,iocs,ran,listed⟩ | ⟨mixed,_⟩
  · refine .inr ⟨timed,iocs,ran,listed,fun others same => ?_⟩
    have alike := entitiesOf_perm same
    rcases run others with ⟨_,permuted,again,relisted⟩ | ⟨mixed,_⟩
    · refine ⟨permuted,again,fun ioc member => ?_⟩
      obtain ⟨sighting,seen,keyed⟩ := (listed.keys _).mp (List.mem_map_of_mem member)
      obtain ⟨other,found,named⟩ := List.mem_map.mp ((relisted.keys (iocKey ioc)).mpr ⟨sighting,alike.mem_iff.mp seen,keyed⟩)
      have sums := relisted.sums other found
      rw [named] at sums
      exact ⟨other,found,(listed.sums ioc member).alike sums named.symm (sightingsOf_perm alike _)⟩
    · exact absurd (timed.perm alike) mixed
  · refine .inl ⟨mixed,fun others same => ?_⟩
    rcases run others with ⟨timed,_⟩ | ⟨_,refused⟩
    · exact absurd (timed.perm (entitiesOf_perm same).symm) mixed
    · exact refused

/-- One address seen once by a plain reading of the clock and once by an instant. -/
def mixedSightings : List NormalizedEvent :=
  [⟨lit "evt-1",lit "r1",lit "siem",.SIEM,.JSON,firstDay 0 none,.OTHER,none,none,none,none,[],[⟨.IP_ADDRESS,lit "9.9.9.9"⟩],[],none,0,1⟩,
    ⟨lit "evt-2",lit "r2",lit "siem",.SIEM,.JSON,firstDay 1 (some 0),.OTHER,none,none,none,none,[],[⟨.IP_ADDRESS,lit "9.9.9.9"⟩],[],none,0,1⟩]

omit [Interpreter] in
theorem mixed_sightings_refused : @extractIocs ascii [] mixedSightings = .error .TypeError := rfl

end SocAnalyst.Sightings
