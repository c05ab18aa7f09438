import SocAnalyst.Calendar
import SocAnalyst.Groups
import SocAnalyst.IncidentReports

/-!
# The narrative timeline

What `assemble_timeline` of `tools/reporting.py` keeps: one row for each event, the
most notable ones when there are too many, in order, and the number left out.
-/
namespace SocAnalyst.Timelines
open SocAnalyst.Builtins SocAnalyst.Times SocAnalyst.Calendar SocAnalyst.Dicts SocAnalyst.Groups SocAnalyst.Logs
open SocAnalyst.LogAnalysis SocAnalyst.IncidentReports

/-- The entry that stands for its event: the first one with its id. -/
def Stands (entries : List TimelineEntry) (entry : TimelineEntry) : Prop :=
  entries.find? (fun other => other.eventId = entry.eventId) = some entry

/-- Chronological order, ties by event id. -/
def Earlier (first second : TimelineEntry) : Prop :=
  first.eventTime.instant < second.eventTime.instant ∨
    first.eventTime.instant = second.eventTime.instant ∧ first.eventId < second.eventId

/-- The raw reference of the event itself, if it was supplied. -/
def rawRefOf (events : List NormalizedEvent) (eventId : Text) : Option Text :=
  (events.reverse.find? fun event => event.eventId = eventId).bind (·.rawRef)

/-- The row of an entry. -/
def row (events : List NormalizedEvent) (entry : TimelineEntry) : ReportTimelineEntry :=
  ⟨entry.eventId,entry.eventTime,entry.sourceId,entry.summary,entry.notability,rawRefOf events entry.eventId⟩

/-! ### One entry for each event -/

/-- The loop over the entries. -/
def kept (entries : List TimelineEntry) : Dict Text TimelineEntry :=
  entries.foldl (fun kept entry => if (kept.get? entry.eventId).isSome then kept else kept.set entry.eventId entry) Dict.empty

theorem get?_kept (entries : List TimelineEntry) (eventId : Text) :
    (kept entries).get? eventId = entries.find? fun entry => entry.eventId = eventId := by
  rw [kept]
  exact (get?_setdefault (fun entry : TimelineEntry => entry.eventId) entries Dict.empty eventId).trans (by simp)

theorem mem_kept {entries : List TimelineEntry} {entry : TimelineEntry} :
    entry ∈ (kept entries).values ↔ Stands entries entry := by
  rw [Dict.mem_values]
  constructor
  · rintro ⟨eventId,found⟩
    rw [get?_kept] at found
    have same : entry.eventId = eventId := by simpa using List.find?_some found
    rw [Stands,same]
    exact found
  · intro stands
    exact ⟨entry.eventId,by rw [get?_kept]; exact stands⟩

/-- The kept entries are stored under their own ids. -/
theorem ids_kept (entries : List TimelineEntry) : (kept entries).values.map (·.eventId) = (kept entries).keys := by
  rw [Dict.values,Dict.keys,List.map_map]
  refine List.map_congr_left fun stored member => ?_
  have found := (Dict.get?_eq_some _ _ _).mpr member
  rw [get?_kept] at found
  simpa using List.find?_some found

theorem distinct_kept (entries : List TimelineEntry) : ((kept entries).values.map (·.eventId)).Nodup := by
  rw [ids_kept]
  exact (kept entries).distinct

theorem count_kept (entries : List TimelineEntry) : (kept entries).values.length = (entries.map (·.eventId)).dedup.length := by
  rw [← List.length_map (·.eventId)]
  refine ((List.perm_ext_iff_of_nodup (distinct_kept entries) (List.nodup_dedup _)).mpr fun eventId => ?_).length_eq
  simp only [List.mem_map,List.mem_dedup,mem_kept]
  constructor
  · rintro ⟨entry,stands,rfl⟩
    exact ⟨entry,List.mem_of_find?_eq_some stands,rfl⟩
  · rintro ⟨entry,member,rfl⟩
    obtain ⟨first,found⟩ : ∃ first, entries.find? (fun other => other.eventId = entry.eventId) = some first :=
      Option.isSome_iff_exists.mp (List.find?_isSome.mpr ⟨entry,member,by simp⟩)
    have same : first.eventId = entry.eventId := by simpa using List.find?_some found
    exact ⟨first,by rw [Stands,same]; exact found,same⟩

/-- The references are those of the events' last copies. -/
theorem rawRefs_get (events : List NormalizedEvent) (eventId : Text) :
    ((events.foldl (fun refs event => refs.set event.eventId event.rawRef) Dict.empty).get? eventId).getD none =
      rawRefOf events eventId := by
  rw [get?_assigned (fun event : NormalizedEvent => event.eventId) (fun event => event.rawRef),rawRefOf]
  cases events.reverse.find? fun event => event.eventId = eventId <;> simp

/-! ### The order and the cut -/

/-- The key of the chronological order. -/
def moment (entry : TimelineEntry) : Int ×ₗ Text := toLex (entry.eventTime.instant,entry.eventId)

/-- The key of the cut. -/
def rank (entry : TimelineEntry) : ℚ ×ₗ Int ×ₗ Text := toLex (-entry.notability,moment entry)

theorem earlier_moment (first second : TimelineEntry) : moment first < moment second ↔ Earlier first second := by
  rw [moment,moment,Prod.Lex.toLex_lt_toLex]
  rfl

/-- Entries of different events are ranked strictly. -/
theorem rank_below {first second : TimelineEntry} (below : rank first ≤ rank second) (other : first.eventId ≠ second.eventId) :
    second.notability < first.notability ∨ second.notability = first.notability ∧ Earlier first second := by
  rw [rank,rank,Prod.Lex.toLex_le_toLex] at below
  rcases below with notable | ⟨same,before⟩
  · exact .inl (neg_lt_neg_iff.mp notable)
  · refine .inr ⟨(neg_injective same).symm,(earlier_moment _ _).mp (lt_of_le_of_ne before ?_)⟩
    intro equal
    exact other (congrArg (fun key => (ofLex key).2) equal)

theorem moments_distinct {items : List TimelineEntry} (once : (items.map (·.eventId)).Nodup) : (items.map moment).Nodup := by
  refine List.Nodup.of_map (fun key : Int ×ₗ Text => (ofLex key).2) ?_
  rw [List.map_map]
  exact once

theorem sortedByTime_moment {items : List TimelineEntry} (all : AllComparable (items.map (·.eventTime))) :
    sortedByTime (·.eventTime) (·.eventId) items = .ok (sortedBy moment items) := by
  rw [sortedByTime,if_pos all]
  rfl

/-- The entries are cut by rank and put in order again. -/
theorem bounded_split {ordered : List TimelineEntry} (limit : Nat) (all : AllComparable (ordered.map (·.eventTime)))
    (once : (ordered.map (·.eventId)).Nodup) (sorted : ordered.Pairwise Earlier) :
    ∃ shown leftOut, bounded limit ordered = .ok shown ∧ (shown ++ leftOut).Perm ordered ∧ leftOut.length = ordered.length - limit ∧
      shown.Pairwise Earlier ∧ ∀ entry ∈ shown, ∀ left ∈ leftOut,
        left.notability < entry.notability ∨ left.notability = entry.notability ∧ Earlier entry left := by
  unfold bounded
  by_cases fits : ordered.length - limit = 0
  · rw [if_pos fits]
    exact ⟨ordered,[],rfl,by simp,by simp [fits],sorted,by simp⟩
  · rw [if_neg fits]
    have ranked : (sortedBy rank ordered).Perm ordered := perm_sortedBy rank ordered
    have within : (sortedBy rank ordered).take limit ⊆ ordered := fun entry member =>
      (mem_sortedBy rank _ entry).mp (List.mem_of_mem_take member)
    have strict : ((sortedBy rank ordered).map (·.eventId)).Nodup := (ranked.map _).nodup_iff.mpr once
    refine ⟨sortedBy moment ((sortedBy rank ordered).take limit),(sortedBy rank ordered).drop limit,
      sortedByTime_moment (all.subset (List.map_subset _ within)),?_,?_,?_,?_⟩
    · refine ((perm_sortedBy moment _).append_right _).trans ?_
      rw [List.take_append_drop]
      exact ranked
    · rw [List.length_drop,ranked.length_eq]
    · have fewer : (((sortedBy rank ordered).take limit).map (·.eventId)).Nodup :=
        strict.sublist ((List.take_sublist _ _).map _)
      exact (strict_sortedBy (moments_distinct fewer)).imp (earlier_moment _ _).mp
    · intro entry shown left dropped
      have top := (mem_sortedBy moment _ entry).mp shown
      refine rank_below (before_dropped (pairwise_sortedBy rank ordered) limit top dropped) fun same => ?_
      have apart : ((sortedBy rank ordered).take limit ++ (sortedBy rank ordered).drop limit).Pairwise fun first second =>
          first.eventId ≠ second.eventId := by
        rw [List.take_append_drop]
        exact List.pairwise_map.mp strict
      exact (List.pairwise_append.mp apart).2.2 entry top left dropped same

/-- The entries standing for their events can be put in order. -/
def Ordered (entries : List TimelineEntry) : Prop :=
  ∀ first second, Stands entries first → Stands entries second → Comparable first.eventTime second.eventTime

theorem ordered_kept {entries : List TimelineEntry} : AllComparable ((kept entries).values.map (·.eventTime)) ↔ Ordered entries := by
  simp only [AllComparable,List.forall_mem_map,mem_kept]
  exact ⟨fun all first second left right => all first left second right,fun all first left second right => all first second left right⟩

theorem assembleTimeline_eq (entries : List TimelineEntry) (limit : Nat) (events : List NormalizedEvent) :
    assembleTimeline entries limit events = (do
      let ordered ← sortedByTime (·.eventTime) (·.eventId) (kept entries).values
      let shown ← bounded limit ordered
      return (shown.map (row events),ordered.length - limit)) := by
  unfold assembleTimeline
  simp only [rawRefs_get]
  rfl

/-- The timeline shows the most notable of the distinct events in order, each with its own
    raw reference, and says how many it leaves out. It is refused only when the times to
    be put in order are of both kinds. -/
theorem timeline_assembled (entries : List TimelineEntry) (limit : Nat) (events : List NormalizedEvent) :
    (¬ Ordered entries ∧ assembleTimeline entries limit events = .error .TypeError) ∨
    (Ordered entries ∧ ∃ shown leftOut : List TimelineEntry,
      assembleTimeline entries limit events = .ok (shown.map (row events),leftOut.length) ∧
      ((shown ++ leftOut).map (·.eventId)).Nodup ∧ (∀ entry, entry ∈ shown ++ leftOut ↔ Stands entries entry) ∧
      shown.length = min limit (entries.map (·.eventId)).dedup.length ∧
      shown.Pairwise Earlier ∧
      ∀ entry ∈ shown, ∀ left ∈ leftOut,
        left.notability < entry.notability ∨ left.notability = entry.notability ∧ Earlier entry left) := by
  rw [assembleTimeline_eq]
  by_cases comparable : Ordered entries
  · refine .inr ⟨comparable,?_⟩
    have all := ordered_kept.mpr comparable
    have once := distinct_kept entries
    have same : (sortedBy moment (kept entries).values).Perm (kept entries).values := perm_sortedBy _ _
    have allSorted : AllComparable ((sortedBy moment (kept entries).values).map (·.eventTime)) :=
      all.subset (List.map_subset _ same.subset)
    have onceSorted : ((sortedBy moment (kept entries).values).map (·.eventId)).Nodup := (same.map _).nodup_iff.mpr once
    have sorted : (sortedBy moment (kept entries).values).Pairwise Earlier :=
      (strict_sortedBy (moments_distinct once)).imp (earlier_moment _ _).mp
    obtain ⟨shown,leftOut,cut,split,omitted,inOrder,notable⟩ := bounded_split limit allSorted onceSorted sorted
    have parts := split.trans same
    refine ⟨shown,leftOut,?_,(parts.map _).nodup_iff.mpr once,fun entry => parts.mem_iff.trans mem_kept,?_,inOrder,notable⟩
    · rw [sortedByTime_moment all]
      simp only [bind,Except.bind,cut,pure,Except.pure,omitted]
    · have total := parts.length_eq
      rw [List.length_append,omitted,same.length_eq] at total
      rw [← count_kept]
      omega
  · refine .inl ⟨comparable,?_⟩
    rw [sortedByTime,if_neg fun all => comparable (ordered_kept.mp all)]
    rfl

/-- One entry with a plain reading of the clock, one with an instant. -/
def mixedEntries : List TimelineEntry :=
  [⟨lit "evt-1",firstDay 0 none,lit "siem",lit "login failed",1/2⟩,⟨lit "evt-2",firstDay 60000000 (some 0),lit "siem",lit "login",1/4⟩]

theorem mixed_kinds_refused : assembleTimeline mixedEntries 10 [] = .error .TypeError := by
  have mixed : ¬ AllComparable ((kept mixedEntries).values.map (·.eventTime)) := by decide
  rw [assembleTimeline_eq,sortedByTime,if_neg mixed]
  rfl

end SocAnalyst.Timelines
