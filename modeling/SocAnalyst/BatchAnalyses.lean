import SocAnalyst.EventIdentities
import SocAnalyst.ParserChains

/-!
# Batches of log records

`LogAnalyzer.analyze` with the parsers of `DEFAULT_PARSERS`: a batch comes out as events in
order and quarantined records, each record once, unless one record raises for all. What a
record can raise is an impossible date, a number that is no moment of the calendar, digits
that `int` refuses, a text that cannot be encoded or a time that cannot be ordered.
-/
namespace SocAnalyst.BatchAnalyses
open SocAnalyst.Builtins SocAnalyst.Times SocAnalyst.Values SocAnalyst.Logs SocAnalyst.LogAnalysis SocAnalyst.Raising
open SocAnalyst.Dicts SocAnalyst.ParserChains
open SocAnalyst.Correlations (Correlation correlateEvents bucketed correlateEvents_eq)
open SocAnalyst.EventIdentities (spelled)
open SocAnalyst.Graph (SourceFailure)
open SocAnalyst.Groups (mem_valuesAt)

section
variable [Tables]

/-- `LogAnalyzer()`, with some correlation window and some dump of the correlations. -/
def defaultAnalyzer (decoders : Decoders) (window : Int) (dump : Correlation → Value) (sha256 : Text → Text) (promptVersion : Text) :
    LogAnalyzer where
  parseRecord := parseRecord (defaultParsers decoders)
  extractEntities text extra := .ok (Extraction.extractEntities text extra)
  correlateEvents events := (correlateEvents events window).map fun found => found.map dump
  sha256
  promptVersion

/-! ### What a batch comes to -/

/-- A record that could not be parsed. -/
def quarantine (record : RawLogRecord) : QuarantinedRecord := ⟨record.recordId,record.sourceId,lit "unparseable",record.content⟩

omit [Tables] in
/-- Every record is an event or quarantined, and not both. -/
def Accounted (records : List RawLogRecord) (result : LogAnalysisResult) : Prop :=
  ∃ outcomes : List (RawLogRecord × Option NormalizedEvent), outcomes.map Prod.fst = records ∧
    result.events.Perm (outcomes.filterMap Prod.snd) ∧
    result.quarantined = (outcomes.filter (·.2.isNone)).map (fun item => quarantine item.1) ∧
    ∀ item ∈ outcomes, ∀ event ∈ item.2, event.recordId = item.1.recordId ∧ event.sourceId = item.1.sourceId

/-- The order of the events. -/
def eventOrder (event : NormalizedEvent) : Int ×ₗ Text := toLex (event.eventTime.instant,event.eventId)

/-- The batch is analyzed: no record is lost, none is counted twice, and the events come out in order. -/
def Analyzes (analyzer : LogAnalyzer) (request : LogAnalysisRequest) (failures : List SourceFailure) : Prop :=
  ∃ result, analyzer.analyze request failures = .ok result ∧ Accounted request.records result ∧
    result.events.length + result.quarantined.length = request.records.length ∧
    result.events.Pairwise fun first second => eventOrder first ≤ eventOrder second

/-- The time of the event that a record becomes: its own, or that of its ingestion. -/
def reading (decoders : Decoders) (record : RawLogRecord) : Option DateTime :=
  match parseRecord (defaultParsers decoders) record with
  | .ok (some parsed) => parsed.eventTime.or record.receivedAt
  | _ => none

/-- A batch of which nothing raises. -/
structure Tame (decoders : Decoders) (request : LogAnalysisRequest) : Prop where
  harmless : ∀ record ∈ request.records, Harmless decoders record
  encodes : ∀ record ∈ request.records, (reading decoders record).isSome = true → Encodable (spelled record)
  ordered : AllComparable (request.records.filterMap (reading decoders))
  bounded : ∀ window ∈ request.timeWindow, Comparable window.stop window.start
  within : ∀ window ∈ request.timeWindow, window.start.instant < window.stop.instant →
    ∀ time ∈ request.records.filterMap (reading decoders), Comparable window.start time

/-! ### One record -/

variable {decoders : Decoders} {window : Int} {dump : Correlation → Value} {sha256 : Text → Text} {promptVersion : Text}

omit [Tables] in
theorem returns_eventId (analyzer : LogAnalyzer) (record : RawLogRecord) : Returns (eventId analyzer record) ↔ Encodable (spelled record) := by
  by_cases encodes : Encodable (spelled record)
  · exact iff_of_true ⟨_,if_pos encodes⟩ encodes
  · have raises : eventId analyzer record = .error .UnicodeEncodeError := if_neg encodes
    rw [raises]
    exact iff_of_false (not_returns_error _) encodes

theorem returns_normalize (record : RawLogRecord) :
    Returns (normalize (defaultAnalyzer decoders window dump sha256 promptVersion) record) ↔
      Harmless decoders record ∧ ((reading decoders record).isSome = true → Encodable (spelled record)) := by
  rw [← returns_parseRecord,LogAnalysis.normalize,returns_bind,reading]
  show (∃ found, parseRecord (defaultParsers decoders) record = .ok found ∧ _) ↔ _
  cases parseRecord (defaultParsers decoders) record with
  | error e => simp
  | ok found =>
    cases found with
    | none => simp
    | some parsed =>
      simp only [Except.ok.injEq,exists_eq_left']
      cases parsed.eventTime.or record.receivedAt with
      | none => simp
      | some time =>
        rw [← returns_eventId (defaultAnalyzer decoders window dump sha256 promptVersion) record]
        simp [defaultAnalyzer,returns_bind]

/-- What a record becomes is dated by its reading and says where it came from. -/
theorem normalize_outcome {record : RawLogRecord} {outcome : Option NormalizedEvent}
    (ran : normalize (defaultAnalyzer decoders window dump sha256 promptVersion) record = .ok outcome) :
    outcome.map (·.eventTime) = reading decoders record ∧
      ∀ event ∈ outcome, event.recordId = record.recordId ∧ event.sourceId = record.sourceId := by
  simp only [LogAnalysis.normalize,bind_ok] at ran
  obtain ⟨found,read,ran⟩ := ran
  replace read : parseRecord (defaultParsers decoders) record = .ok found := read
  rw [reading,read]
  cases found with
  | none =>
    cases ran
    exact ⟨rfl,by simp⟩
  | some parsed =>
    simp only at ran ⊢
    cases time : parsed.eventTime.or record.receivedAt with
    | none =>
      rw [time] at ran
      cases ran
      exact ⟨rfl,by simp⟩
    | some eventTime =>
      simp only [time,bind_ok] at ran
      obtain ⟨_,_,_,_,made⟩ := ran
      cases made
      refine ⟨rfl,fun event same => ?_⟩
      cases same
      exact ⟨rfl,rfl⟩

/-! ### The loop over the records -/

omit [Tables] in
theorem returns_normalizeAll (analyzer : LogAnalyzer) (records : List RawLogRecord) :
    Returns (normalizeAll analyzer records) ↔ ∀ record ∈ records, Returns (normalize analyzer record) := by
  induction records with
  | nil => simp [normalizeAll]
  | cons record rest ih =>
    rw [normalizeAll,List.forall_mem_cons,← ih,returns_bind]
    constructor
    · rintro ⟨outcome,first,later⟩
      obtain ⟨found,others,_⟩ := (returns_bind _ _).mp later
      exact ⟨⟨outcome,first⟩,⟨found,others⟩⟩
    · rintro ⟨⟨outcome,first⟩,⟨found,others⟩⟩
      refine ⟨outcome,first,(returns_bind _ _).mpr ⟨found,others,?_⟩⟩
      cases outcome <;> exact returns_pure _

omit [Tables] in
/-- The events and the quarantined records, by what became of each record. -/
theorem normalizeAll_outcomes {analyzer : LogAnalyzer} {records : List RawLogRecord} {events : List NormalizedEvent}
    {quarantined : List QuarantinedRecord} (ran : normalizeAll analyzer records = .ok (events,quarantined)) :
    ∃ outcomes : List (RawLogRecord × Option NormalizedEvent), outcomes.map Prod.fst = records ∧
      (∀ item ∈ outcomes, normalize analyzer item.1 = .ok item.2) ∧ events = outcomes.filterMap Prod.snd ∧
      quarantined = (outcomes.filter (·.2.isNone)).map (fun item => quarantine item.1) := by
  induction records generalizing events quarantined with
  | nil =>
    cases ran
    exact ⟨[],rfl,by simp,rfl,rfl⟩
  | cons record rest ih =>
    simp only [normalizeAll,bind_ok] at ran
    obtain ⟨outcome,normalized,⟨more,others⟩,later,made⟩ := ran
    obtain ⟨outcomes,records,normalizes,rfl,rfl⟩ := ih later
    refine ⟨(record,outcome) :: outcomes,by simp [records],List.forall_mem_cons.mpr ⟨normalized,normalizes⟩,?_,?_⟩
    all_goals
      cases outcome <;> cases made <;> rfl

/-! ### The time window -/

omit [Tables]

theorem returns_secondsBetween (s t : DateTime) : Returns (secondsBetween s t) ↔ Comparable s t := by
  unfold secondsBetween
  split_ifs with comparable <;> simp [comparable]

/-- A choice between two readings, over the rest of a list. -/
theorem earliest_of {first : DateTime} {rest : List DateTime} (all : AllComparable (first :: rest)) :
    ∃ time ∈ first :: rest, earliest first rest = .ok time := by
  induction rest generalizing first with
  | nil => exact ⟨first,List.mem_singleton_self first,rfl⟩
  | cons next rest ih =>
    have pair : Comparable next first := all next (by simp) first (by simp)
    have least : first.min next = .ok (if next.instant < first.instant then next else first) := by
      rw [DateTime.min,lt_comparable pair]
      simp [Except.map]
    rw [earliest,least]
    obtain ⟨time,member,found⟩ := @ih (if next.instant < first.instant then next else first) (all.subset (by split_ifs <;> simp))
    refine ⟨time,?_,found⟩
    split_ifs at member <;> simp only [List.mem_cons] at member ⊢ <;> tauto

theorem latest_of {first : DateTime} {rest : List DateTime} (all : AllComparable (first :: rest)) :
    ∃ time ∈ first :: rest, latest first rest = .ok time := by
  induction rest generalizing first with
  | nil => exact ⟨first,List.mem_singleton_self first,rfl⟩
  | cons next rest ih =>
    have pair : Comparable first next := all first (by simp) next (by simp)
    have greatest : first.max next = .ok (if first.instant < next.instant then next else first) := by
      rw [DateTime.max,lt_comparable pair]
      simp [Except.map]
    rw [latest,greatest]
    obtain ⟨time,member,found⟩ := @ih (if first.instant < next.instant then next else first) (all.subset (by split_ifs <;> simp))
    refine ⟨time,?_,found⟩
    split_ifs at member <;> simp only [List.mem_cons] at member ⊢ <;> tauto

theorem returns_atMost (s t : DateTime) : Returns (atMost s t) ↔ Comparable s t := by
  rw [atMost,returns_map,DateTime.lt]
  split_ifs with comparable
  · exact iff_of_true (returns_ok _) comparable.symm
  · exact iff_of_false (not_returns_error _) fun reversed => comparable reversed.symm

theorem returns_contains {window : TimeWindow} (bounded : Comparable window.stop window.start) (moment : DateTime) :
    Returns (window.contains moment) ↔ Comparable window.start moment := by
  rw [TimeWindow.contains,returns_bind,← returns_atMost]
  constructor
  · rintro ⟨below,compared,_⟩
    exact ⟨below,compared⟩
  · rintro ⟨below,compared⟩
    have late : Returns (atMost moment window.stop) :=
      (returns_atMost _ _).mpr ((bounded.trans ((returns_atMost _ _).mp ⟨below,compared⟩)).symm)
    refine ⟨below,compared,?_⟩
    split
    · exact late
    · exact returns_pure _

theorem returns_windowGap {request : LogAnalysisRequest} {events : List NormalizedEvent} (all : AllComparable (events.map (·.eventTime))) :
    Returns (windowGap request events) ↔ ∀ window ∈ request.timeWindow, Comparable window.stop window.start ∧
      (window.start.instant < window.stop.instant → ∀ event ∈ events, Comparable window.start event.eventTime) := by
  rw [windowGap]
  cases request.timeWindow with
  | none => simp
  | some window =>
    simp only [Option.mem_def,Option.some.injEq,forall_eq']
    rw [returns_bind]
    by_cases bounded : Comparable window.stop window.start
    · have total : secondsBetween window.stop window.start = .ok ((window.stop.instant - window.start.instant : ℚ) / 1000000) := if_pos bounded
      simp only [total,Except.ok.injEq,exists_eq_left',bounded,true_and]
      by_cases wide : window.start.instant < window.stop.instant
      · have positive : ¬ ((window.stop.instant - window.start.instant : ℚ) / 1000000 ≤ 0) := by
          have apart : (window.start.instant : ℚ) < window.stop.instant := by exact_mod_cast wide
          rw [not_le]
          exact div_pos (sub_pos.mpr apart) (by norm_num)
        simp only [positive,if_false,wide,true_imp_iff]
        rw [returns_bind]
        constructor
        · rintro ⟨inside,ran,_⟩ event member
          obtain ⟨_,held⟩ := mapRaising_returns.mp ⟨inside,ran⟩ event member
          exact (returns_contains bounded _).mp ((returns_map _ _).mp ⟨_,held⟩)
        · intro each
          have tells : ∀ event ∈ events, Returns ((window.contains event.eventTime).map fun held => (event.eventTime,held)) :=
            fun event member => (returns_map _ _).mpr ((returns_contains bounded _).mpr (each event member))
          obtain ⟨inside,ran⟩ := mapRaising_returns.mpr tells
          have times : (inside.filter (·.2)).map (·.1) ⊆ events.map (·.eventTime) := by
            intro time member
            obtain ⟨item,listed,rfl⟩ := List.mem_map.mp member
            obtain ⟨event,known,held⟩ := (mapRaising_mem ran item).mp (List.mem_filter.mp listed).1
            cases contained : window.contains event.eventTime with
            | error e =>
              rw [contained] at held
              cases held
            | ok flag =>
              rw [contained] at held
              cases held
              exact List.mem_map_of_mem known
          refine ⟨inside,ran,?_⟩
          generalize (inside.filter (·.2)).map (·.1) = seen at times ⊢
          cases seen with
          | nil => exact returns_pure _
          | cons first rest =>
            have ordered := all.subset times
            obtain ⟨late,listed,last⟩ := latest_of ordered
            obtain ⟨early,known,start⟩ := earliest_of ordered
            have span : secondsBetween late early = .ok ((late.instant - early.instant : ℚ) / 1000000) := if_pos (ordered late listed early known)
            simp only [last,start,span,returns_bind,Except.ok.injEq,exists_eq_left']
            split_ifs <;> exact returns_pure _
      · have none : (window.stop.instant - window.start.instant : ℚ) / 1000000 ≤ 0 := by
          have reversed : (window.stop.instant : ℚ) ≤ window.start.instant := by exact_mod_cast Int.not_lt.mp wide
          exact div_nonpos_of_nonpos_of_nonneg (sub_nonpos.mpr reversed) (by norm_num)
        simp [none,wide]
    · refine iff_of_false ?_ fun both => bounded both.1
      rintro ⟨total,returned,_⟩
      exact bounded ((returns_secondsBetween _ _).mp ⟨total,returned⟩)

end

/-! ### Whole batches -/

section
variable [Tables]

/-- The correlation returns when the times of the events can be ordered. -/
theorem returns_correlate (events : List NormalizedEvent) (window : Int) (all : AllComparable (events.map (·.eventTime))) :
    Returns (correlateEvents events window) := by
  refine ⟨_,correlateEvents_eq window 2 fun kind key => all.subset (List.map_subset _ fun event member => ?_)⟩
  obtain ⟨other,listed,keyed⟩ := List.mem_flatMap.mp (mem_valuesAt.mp member)
  obtain ⟨_,_,same⟩ := List.mem_map.mp keyed
  cases same
  exact listed

omit [Tables] in
theorem returns_coverageGaps {request : LogAnalysisRequest} {events : List NormalizedEvent} {quarantined : List QuarantinedRecord}
    {failures : List SourceFailure} :
    Returns (coverageGaps request events quarantined failures) ↔ Returns (windowGap request events) := by
  rw [coverageGaps]
  simp

omit [Tables] in
theorem length_outcomes (outcomes : List (RawLogRecord × Option NormalizedEvent)) :
    (outcomes.filterMap Prod.snd).length + ((outcomes.filter (·.2.isNone)).map (fun item => quarantine item.1)).length = outcomes.length := by
  induction outcomes with
  | nil => rfl
  | cons item rest ih =>
    obtain ⟨record,_ | event⟩ := item <;> simp at ih ⊢ <;> omega

omit [Tables] in
theorem sortedByTime_ordered {normalized events : List NormalizedEvent}
    (sorted : sortedByTime (·.eventTime) (·.eventId) normalized = .ok events) :
    events.Pairwise fun first second => eventOrder first ≤ eventOrder second := by
  unfold sortedByTime at sorted
  split_ifs at sorted
  cases sorted
  exact pairwise_sortedBy _ _

/-- The times of a batch's events are the readings of its records. -/
theorem times_of_outcomes {decoders : Decoders} {window : Int} {dump : Correlation → Value} {sha256 : Text → Text} {promptVersion : Text}
    {outcomes : List (RawLogRecord × Option NormalizedEvent)}
    (normalizes : ∀ item ∈ outcomes, normalize (defaultAnalyzer decoders window dump sha256 promptVersion) item.1 = .ok item.2) :
    (outcomes.filterMap Prod.snd).map (·.eventTime) = (outcomes.map Prod.fst).filterMap (reading decoders) := by
  rw [List.map_filterMap,List.filterMap_map]
  exact List.filterMap_congr fun item member => (normalize_outcome (normalizes item member)).1

variable (decoders : Decoders) (window : Int) (dump : Correlation → Value) (sha256 : Text → Text) (promptVersion : Text)

/-- A batch is analyzed just when it is tame. -/
theorem analyzes_iff (request : LogAnalysisRequest) (failures : List SourceFailure) :
    Analyzes (defaultAnalyzer decoders window dump sha256 promptVersion) request failures ↔ Tame decoders request := by
  have loop := @returns_normalizeAll (defaultAnalyzer decoders window dump sha256 promptVersion) request.records
  simp only [returns_normalize] at loop
  constructor
  · rintro ⟨result,ran,_⟩
    simp only [LogAnalyzer.analyze,bind_ok] at ran
    obtain ⟨⟨normalized,quarantined⟩,looped,events,sorted,_,_,gaps,covered,_⟩ := ran
    have each := loop.mp ⟨_,looped⟩
    obtain ⟨outcomes,whole,normalizes,rfl,rfl⟩ := normalizeAll_outcomes looped
    obtain ⟨comparable,same⟩ := sortedByTime_ok sorted
    have times := times_of_outcomes normalizes
    rw [whole] at times
    have ordered : AllComparable (events.map (·.eventTime)) :=
      comparable.subset (List.map_subset _ fun event member => (same event).mp member)
    have bounded := (returns_windowGap ordered).mp (returns_coverageGaps.mp ⟨gaps,covered⟩)
    refine ⟨fun record listed => (each record listed).1,fun record listed => (each record listed).2,times ▸ comparable,
      fun window given => (bounded window given).1,fun window given wide time member => ?_⟩
    rw [← times] at member
    obtain ⟨event,listed,rfl⟩ := List.mem_map.mp member
    exact (bounded window given).2 wide event ((same event).mpr listed)
  · intro tame
    obtain ⟨⟨normalized,quarantined⟩,looped⟩ := loop.mpr fun record listed => ⟨tame.harmless record listed,tame.encodes record listed⟩
    obtain ⟨outcomes,whole,normalizes,rfl,kept⟩ := normalizeAll_outcomes looped
    have times := times_of_outcomes normalizes
    rw [whole] at times
    obtain ⟨events,sorted⟩ := sortedByTime_returns (·.eventId) (times ▸ tame.ordered)
    obtain ⟨comparable,same⟩ := sortedByTime_ok sorted
    have ordered : AllComparable (events.map (·.eventTime)) :=
      comparable.subset (List.map_subset _ fun event member => (same event).mp member)
    obtain ⟨correlations,correlated⟩ := returns_correlate events window ordered
    have dumped : (defaultAnalyzer decoders window dump sha256 promptVersion).correlateEvents events = .ok (correlations.map dump) := by
      show (correlateEvents events window).map _ = _
      rw [correlated]
      rfl
    have bounded : Returns (windowGap request events) := by
      refine (returns_windowGap ordered).mpr fun window given => ⟨tame.bounded window given,fun wide event listed => ?_⟩
      refine tame.within window given wide _ ?_
      rw [← times]
      exact List.mem_map_of_mem ((same event).mp listed)
    have told : Returns (coverageGaps request events quarantined failures) := returns_coverageGaps.mpr bounded
    obtain ⟨gaps,covered⟩ := told
    have counted : events.length + quarantined.length = request.records.length := by
      rw [(sortedByTime_sorted sorted).1.length_eq,kept,length_outcomes,← whole,List.length_map]
    obtain ⟨result,ran,rfl,rfl⟩ : ∃ result, (defaultAnalyzer decoders window dump sha256 promptVersion).analyze request failures = .ok result ∧
        events = result.events ∧ quarantined = result.quarantined := by
      simp only [LogAnalyzer.analyze,bind_ok]
      exact ⟨_,⟨_,looped,events,sorted,_,dumped,gaps,covered,rfl⟩,rfl,rfl⟩
    exact ⟨result,ran,⟨outcomes,whole,(sortedByTime_sorted sorted).1,kept,fun item listed => (normalize_outcome (normalizes item listed)).2⟩,
      counted,sortedByTime_ordered sorted⟩

end

end SocAnalyst.BatchAnalyses
