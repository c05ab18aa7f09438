import SocAnalyst.Correlations
import SocAnalyst.Timelines

/-!
# Identities of events

`_event_id` digests three texts with a separator between them that each may contain. Two
records whose pieces between separators are the same get the same id however the pieces
are divided among the texts, and evidence is kept once for each id.
-/
namespace SocAnalyst.EventIdentities
open SocAnalyst.Builtins SocAnalyst.Dicts SocAnalyst.Logs SocAnalyst.LogAnalysis SocAnalyst.Correlations
open SocAnalyst.IncidentReports (bounded assembleTimeline)
open SocAnalyst.Timelines (kept count_kept assembleTimeline_eq)
open SocAnalyst.Detections (unique mem_unique unique_nodup)

/-- What makes a record the one it is. -/
def identity (record : RawLogRecord) : Text × Text × Text := (record.sourceId,record.recordId,record.content)

/-- The text that is digested for a record. -/
def spelled (record : RawLogRecord) : Text := record.sourceId ++ lit "|" ++ record.recordId ++ lit "|" ++ record.content

/-- The texts of a record split at every separator. -/
def pieces (record : RawLogRecord) : List Text := record.sourceId.splitOn 124 ++ record.recordId.splitOn 124 ++ record.content.splitOn 124

/-- Different records of the same pieces. -/
def Regrouped (first second : RawLogRecord) : Prop := identity first ≠ identity second ∧ pieces first = pieces second

instance (first second : RawLogRecord) : Decidable (Regrouped first second) := inferInstanceAs (Decidable (_ ∧ _))

theorem splitOn_spelled (record : RawLogRecord) : (spelled record).splitOn 124 = pieces record := by
  have shape : spelled record = record.sourceId ++ 124 :: (record.recordId ++ 124 :: record.content) := by
    rw [spelled,show lit "|" = [124] from rfl]
    simp
  rw [shape,List.splitOn_append_cons_self,List.splitOn_append_cons_self,pieces,List.append_assoc]

theorem spelled_eq_iff (first second : RawLogRecord) : spelled first = spelled second ↔ pieces first = pieces second := by
  constructor
  · intro same
    rw [← splitOn_spelled,← splitOn_spelled,same]
  · intro same
    rw [← splitOn_spelled,← splitOn_spelled] at same
    have joins : ∀ record, [124].intercalate ((spelled record).splitOn 124) = spelled record := fun _ => List.intercalate_splitOn 124
    rw [← joins first,same,joins]

/-- No two records are regrouped whose source and record ids are free of the separator. -/
theorem not_regrouped {first second : RawLogRecord} (free : ∀ record ∈ [first,second], 124 ∉ record.sourceId ∧ 124 ∉ record.recordId) :
    ¬ Regrouped first second := by
  rintro ⟨differ,same⟩
  obtain ⟨source,number⟩ := free first (by simp)
  obtain ⟨source',number'⟩ := free second (by simp)
  rw [pieces,pieces,List.splitOn_eq_singleton source,List.splitOn_eq_singleton number,List.splitOn_eq_singleton source',
    List.splitOn_eq_singleton number'] at same
  simp only [List.cons_append,List.nil_append,List.cons.injEq] at same
  obtain ⟨sources,numbers,contents⟩ := same
  have content := congrArg [124].intercalate contents
  rw [List.intercalate_splitOn,List.intercalate_splitOn] at content
  exact differ (by rw [identity,identity,sources,numbers,content])

/-! ### One of each -/

section
variable {ι α β : Type*} [DecidableEq α] [DecidableEq β]

/-- Two readings that tell the same items apart find the same number of values. -/
theorem length_dedup_congr {first : ι → α} {second : ι → β} {items : List ι}
    (same : ∀ i ∈ items, ∀ j ∈ items, first i = first j ↔ second i = second j) :
    (items.map first).dedup.length = (items.map second).dedup.length := by
  induction items with
  | nil => rfl
  | cons item rest ih =>
    have later := ih fun i member j member' => same i (List.mem_cons_of_mem _ member) j (List.mem_cons_of_mem _ member')
    have known : first item ∈ rest.map first ↔ second item ∈ rest.map second := by
      simp only [List.mem_map]
      exact exists_congr fun other => and_congr_right fun member => same other (List.mem_cons_of_mem _ member) item List.mem_cons_self
    rw [List.map_cons,List.map_cons]
    by_cases listed : first item ∈ rest.map first
    · rw [List.dedup_cons_of_mem listed,List.dedup_cons_of_mem (known.mp listed),later]
    · rw [List.dedup_cons_of_notMem listed,List.dedup_cons_of_notMem (fun member => listed (known.mpr member)),List.length_cons,
        List.length_cons,later]

end

theorem length_unique (values : List Text) : (unique values).length = values.dedup.length :=
  ((List.perm_ext_iff_of_nodup (unique_nodup values) (List.nodup_dedup values)).mpr fun value => by
    rw [mem_unique,List.mem_dedup]).length_eq

theorem length_sortedByTime {α : Type} {time : α → Times.DateTime} {name : α → Text} {items sorted : List α}
    (ran : sortedByTime time name items = .ok sorted) : sorted.length = items.length := by
  unfold sortedByTime at ran
  split_ifs at ran
  cases ran
  exact List.length_insertionSort _ _

/-- What a timeline shows and what it leaves out make up the distinct events. -/
theorem length_assembleTimeline {entries : List TimelineEntry} {limit : Nat} {events : List NormalizedEvent}
    {rows : List IncidentReports.ReportTimelineEntry} {omitted : Nat} (ran : assembleTimeline entries limit events = .ok (rows,omitted)) :
    rows.length + omitted = (entries.map (·.eventId)).dedup.length := by
  rw [assembleTimeline_eq] at ran
  simp only [bind_ok] at ran
  obtain ⟨ordered,sorted,shown,cut,made⟩ := ran
  cases made
  have whole := length_sortedByTime sorted
  rw [count_kept] at whole
  have split : shown.length + (ordered.length - limit) = ordered.length := by
    unfold bounded at cut
    split_ifs at cut with fits
    · cases cut
      omega
    · rw [length_sortedByTime cut,List.length_take,sortedBy,List.length_insertionSort]
      omega
  rw [List.length_map,split,whole]

/-! ### Ids of records -/

section
variable {analyzer : LogAnalyzer}

/-- The event of a record has the record's id. -/
theorem eventId_normalize {record : RawLogRecord} {event : NormalizedEvent} (ran : normalize analyzer record = .ok (some event)) :
    eventId analyzer record = .ok event.eventId := by
  simp only [LogAnalysis.normalize,bind_ok] at ran
  obtain ⟨parsed,_,ran⟩ := ran
  cases parsed with
  | none => cases ran
  | some parsed =>
    simp only at ran
    cases time : parsed.eventTime.or record.receivedAt with
    | none =>
      rw [time] at ran
      cases ran
    | some eventTime =>
      simp only [time,bind_ok] at ran
      obtain ⟨_,_,id,named,made⟩ := ran
      cases made
      exact named

/-- The records that became events, each with its event. -/
def Evidence (analyzer : LogAnalyzer) (records : List RawLogRecord) (evidence : List (RawLogRecord × NormalizedEvent)) : Prop :=
  ∀ item ∈ evidence, item.1 ∈ records ∧ normalize analyzer item.1 = .ok (some item.2)

/-- The records can be digested, and the digests of two of them are the same only for the same text. -/
structure Digests (analyzer : LogAnalyzer) (records : List RawLogRecord) : Prop where
  encodes : ∀ record ∈ records, Encodable (spelled record)
  injective : ∀ first ∈ records, ∀ second ∈ records,
    (analyzer.sha256 (spelled first)).take 16 = (analyzer.sha256 (spelled second)).take 16 → spelled first = spelled second

/-- Different records have different ids, so that none of their events is merged away: a
    correlation and a timeline count as many events as there are records. -/
structure KeepsApart (analyzer : LogAnalyzer) (records : List RawLogRecord) : Prop where
  ids : ∀ first ∈ records, ∀ second ∈ records, identity first ≠ identity second → eventId analyzer first ≠ eventId analyzer second
  correlated : ∀ evidence, Evidence analyzer records evidence →
    (uniqueEventIds (evidence.map Prod.snd)).length = (evidence.map fun item => identity item.1).dedup.length
  shown : ∀ evidence, Evidence analyzer records evidence → ∀ limit rows omitted,
    assembleTimeline (evidence.map fun item => timelineEntry item.2) limit (evidence.map Prod.snd) = .ok (rows,omitted) →
      rows.length + omitted = (evidence.map fun item => identity item.1).dedup.length

variable {records : List RawLogRecord}

theorem eventId_ok {record : RawLogRecord} (encodes : Encodable (spelled record)) :
    eventId analyzer record = .ok (lit "evt-" ++ (analyzer.sha256 (spelled record)).take 16) := if_pos encodes

theorem eventId_eq (digests : Digests analyzer records) {first second : RawLogRecord} (listed : first ∈ records) (listed' : second ∈ records) :
    eventId analyzer first = eventId analyzer second ↔ pieces first = pieces second := by
  rw [← spelled_eq_iff,eventId_ok (digests.encodes first listed),eventId_ok (digests.encodes second listed')]
  constructor
  · intro same
    exact digests.injective first listed second listed' (List.append_cancel_left (Except.ok.inj same))
  · intro same
    rw [same]

/-- Records are kept apart just when no two of them are of the same pieces, divided among
    their texts in different ways. -/
theorem keepsApart_iff (digests : Digests analyzer records) :
    KeepsApart analyzer records ↔ ¬ ∃ first ∈ records, ∃ second ∈ records, Regrouped first second := by
  constructor
  · rintro apart ⟨first,listed,second,listed',differ,same⟩
    exact apart.ids first listed second listed' differ ((eventId_eq digests listed listed').mpr same)
  · intro none
    have ids : ∀ first ∈ records, ∀ second ∈ records, eventId analyzer first = eventId analyzer second ↔ identity first = identity second := by
      intro first listed second listed'
      rw [eventId_eq digests listed listed']
      constructor
      · intro same
        by_contra differ
        exact none ⟨first,listed,second,listed',differ,same⟩
      · intro same
        simp only [identity,Prod.mk.injEq] at same
        rw [pieces,pieces,same.1,same.2.1,same.2.2]
    have counts : ∀ evidence, Evidence analyzer records evidence →
        (evidence.map fun item => item.2.eventId).dedup.length = (evidence.map fun item => identity item.1).dedup.length := by
      intro evidence real
      refine length_dedup_congr fun first member second member' => ?_
      obtain ⟨listed,ran⟩ := real first member
      obtain ⟨listed',ran'⟩ := real second member'
      rw [← ids first.1 listed second.1 listed',eventId_normalize ran,eventId_normalize ran']
      simp
    refine ⟨fun first listed second listed' differ same => differ ((ids first listed second listed').mp same),?_,?_⟩
    · intro evidence real
      rw [uniqueEventIds,length_unique,List.map_map]
      exact counts evidence real
    · intro evidence real limit rows omitted ran
      rw [length_assembleTimeline ran,List.map_map]
      exact counts evidence real

end

/-- Two lines of one log, as `FileLogSource` numbers them. -/
def firstLogin : RawLogRecord := { recordId := lit "web-01:1", sourceId := lit "web-01", sourceKind := .FILE, content := lit "login failed" }
def secondLogin : RawLogRecord := { firstLogin with recordId := lit "web-01:2" }

theorem loginTime_in_range : (0 : Int) ≤ 86400000000 ∧ (86400000000 : Int) < Times.maxDays * Times.dayMicros := by decide

/-- When the logins were received. -/
def loginTime : Times.DateTime := ⟨86400000000,some 0,loginTime_in_range⟩

/-- An analyzer that parses the logins, with a digest of two texts. -/
def loginAnalyzer : LogAnalyzer where
  parseRecord record := .ok (if record.content = firstLogin.content then
    some { logFormat := .KEY_VALUE, eventTime := some loginTime, message := record.content, outcome := some (lit "failed"), sure := by norm_num }
    else none)
  extractEntities _ _ := .ok []
  correlateEvents _ := .ok []
  sha256 text :=
    if text = spelled firstLogin then lit "633e7428e036494b5a98fc18fa668b56c72fb6898761d26b0219e7e37be86a0f"
    else lit "3960997eb386f1e0a54508be8a8e106d72945575b7d76d1b10e9023fd31e4b57"
  promptVersion := lit "log-analyzer/1"

theorem loginDigests : Digests loginAnalyzer [firstLogin,secondLogin] := ⟨by decide,by decide⟩

/-- Both logins become events, and their events are counted apart. -/
theorem logins_kept_apart :
    KeepsApart loginAnalyzer [firstLogin,secondLogin] ∧ ∃ first second, normalize loginAnalyzer firstLogin = .ok (some first) ∧
      normalize loginAnalyzer secondLogin = .ok (some second) ∧ (uniqueEventIds [first,second]).length = 2 := by
  have apart : KeepsApart loginAnalyzer [firstLogin,secondLogin] := (keepsApart_iff loginDigests).mpr (by decide)
  obtain ⟨first,ran⟩ : ∃ first, normalize loginAnalyzer firstLogin = .ok (some first) := ⟨_,rfl⟩
  obtain ⟨second,ran'⟩ : ∃ second, normalize loginAnalyzer secondLogin = .ok (some second) := ⟨_,rfl⟩
  have real : Evidence loginAnalyzer [firstLogin,secondLogin] [(firstLogin,first),(secondLogin,second)] := by
    intro item member
    rcases List.mem_pair.mp member with rfl | rfl
    · exact ⟨by simp,ran⟩
    · exact ⟨by simp,ran'⟩
  exact ⟨apart,first,second,ran,ran',(apart.correlated _ real).trans rfl⟩

/-- Denials of two sources. -/
def regionalDenial : RawLogRecord := { recordId := lit "1", sourceId := lit "fw|eu", sourceKind := .SIEM, content := lit "denied" }
def plainDenial : RawLogRecord := { regionalDenial with recordId := lit "eu|1", sourceId := lit "fw" }

/-- The denials are digested as the same text. -/
theorem denials_merged : ¬ ∀ (analyzer : LogAnalyzer) (records : List RawLogRecord), Digests analyzer records → KeepsApart analyzer records := by
  intro law
  let analyzer : LogAnalyzer :=
    { loginAnalyzer with sha256 := fun _ => lit "b11ec64d776cdcd1887fd0d39b4eb5d41ee510d6163e6f722009427e21e607bf" }
  have digests : Digests analyzer [regionalDenial,plainDenial] := ⟨by decide,by decide⟩
  have differ : identity regionalDenial ≠ identity plainDenial := by decide
  have same : eventId analyzer regionalDenial = eventId analyzer plainDenial :=
    (eventId_eq digests (by simp) (by simp)).mpr (by decide)
  exact (law analyzer _ digests).ids regionalDenial (by simp) plainDenial (by simp) differ same

end SocAnalyst.EventIdentities
