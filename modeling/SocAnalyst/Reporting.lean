import SocAnalyst.Assessments
import SocAnalyst.Dicts
import SocAnalyst.Logs

/-!
# Affected assets

`collect_affected_assets` of `tools/reporting.py`: one pass over the events, one over
the evidence of the confirmed assessments, into a dictionary of hosts by lowercased
name.
-/
namespace SocAnalyst.Reporting
open SocAnalyst.Builtins SocAnalyst.Times SocAnalyst.Dicts SocAnalyst.Logs SocAnalyst.Applicability SocAnalyst.Assessments

/-! ### Contracts -/

/-- One asset the investigation touched, and what is known about it. -/
structure AffectedAsset where
  hostname : Text
  eventCount : Nat := 0
  firstSeen : Option DateTime := none
  lastSeen : Option DateTime := none
  confirmedCveIds : List Text := []
  critical : Bool := false
  deriving DecidableEq

/-! ### The collection -/

section
variable [Interpreter]

/-- One turn of the loop over the events. -/
def recordEvent (critical : List Text) (byHost : Dict Text AffectedAsset) (event : NormalizedEvent) :
    Except PyError (Dict Text AffectedAsset) :=
  match event.host with
  | none | some [] => .ok byHost
  | some host =>
    let key := lower host
    match byHost.get? key with
    | none => .ok (byHost.set key {
        hostname := host, eventCount := 1, firstSeen := event.eventTime, lastSeen := event.eventTime
        critical := key ∈ critical })
    | some existing =>
      match (existing.firstSeen.getD event.eventTime).min event.eventTime,
          (existing.lastSeen.getD event.eventTime).max event.eventTime with
      | .ok first, .ok last => .ok (byHost.set key
          { existing with eventCount := existing.eventCount + 1, firstSeen := some first, lastSeen := some last })
      | .error e, _ => .error e
      | _, .error e => .error e

def recordEvents (critical : List Text) : Dict Text AffectedAsset → List NormalizedEvent →
    Except PyError (Dict Text AffectedAsset)
  | byHost, [] => .ok byHost
  | byHost, event :: rest =>
    match recordEvent critical byHost event with
    | .error e => .error e
    | .ok next => recordEvents critical next rest

/-- One turn of the loop over the evidence of an assessment. -/
def recordEvidence (critical : List Text) (cveId : Text) (byHost : Dict Text AffectedAsset)
    (item : ApplicabilityEvidence) : Dict Text AffectedAsset :=
  match item.hostname with
  | none | some [] => byHost
  | some hostname =>
    let key := lower hostname
    let asset := (byHost.get? key).getD { hostname := hostname, critical := key ∈ critical }
    byHost.set key (if cveId ∉ asset.confirmedCveIds then
      { asset with confirmedCveIds := asset.confirmedCveIds ++ [cveId] } else asset)

/-- The loop over the confirmed assessments. -/
def recordAssessments (critical : List Text) (byHost : Dict Text AffectedAsset) (confirmed : List CveAssessment) :
    Dict Text AffectedAsset :=
  confirmed.foldl (fun dict assessment => assessment.evidence.foldl (recordEvidence critical assessment.cveId) dict) byHost

/-- Derive the affected-asset list from the evidence that named each host. -/
def collectAffectedAssets (events : List NormalizedEvent) (confirmed : List CveAssessment) (criticalAssets : List Text) :
    Except PyError (List AffectedAsset) :=
  let critical := criticalAssets.map lower
  (recordEvents critical Dict.empty events).map fun byHost =>
    sortedBy (fun asset => (toLex (!asset.critical,toLex (-(asset.eventCount : Int),lower asset.hostname)) : Bool ×ₗ Int ×ₗ Text))
      (recordAssessments critical byHost confirmed).values

/-! ### What the dictionary holds -/

/-- Every asset is kept under its own lowercased name. -/
def Keyed (byHost : Dict Text AffectedAsset) : Prop :=
  ∀ key asset, byHost.get? key = some asset → lower asset.hostname = key
/-- The host's entry carries the CVE. -/
def Carries (byHost : Dict Text AffectedAsset) (host cveId : Text) : Prop :=
  ∃ asset, byHost.get? (lower host) = some asset ∧ cveId ∈ asset.confirmedCveIds

/-- The item names the host, whatever the case. -/
def Names (item : ApplicabilityEvidence) (host : Text) : Prop := ∃ name, NamesHost item name ∧ lower name = lower host

private theorem recordEvent_plain {critical : List Text} {byHost next : Dict Text AffectedAsset} {event : NormalizedEvent}
    (run : recordEvent critical byHost event = .ok next) (keyed : Keyed byHost)
    (plain : ∀ key asset, byHost.get? key = some asset → asset.confirmedCveIds = []) :
    Keyed next ∧ ∀ key asset, next.get? key = some asset → asset.confirmedCveIds = [] := by
  have stored : ∀ key (value : AffectedAsset), lower value.hostname = key → value.confirmedCveIds = [] →
      Keyed (byHost.set key value) ∧ ∀ k asset, (byHost.set key value).get? k = some asset → asset.confirmedCveIds = [] := by
    intro key value same empty
    constructor
    · intro k asset found
      rw [Dict.get?_set] at found
      split_ifs at found with here
      · cases found; exact same.trans here.symm
      · exact keyed k asset found
    · intro k asset found
      rw [Dict.get?_set] at found
      split_ifs at found
      · cases found; exact empty
      · exact plain k asset found
  unfold recordEvent at run
  cases named : event.host with
  | none => simp only [named,Except.ok.injEq] at run; exact run ▸ ⟨keyed,plain⟩
  | some host =>
    cases host with
    | nil => simp only [named,Except.ok.injEq] at run; exact run ▸ ⟨keyed,plain⟩
    | cons c rest =>
      simp only [named] at run
      cases found : byHost.get? (lower (c :: rest)) with
      | none =>
        simp only [found,Except.ok.injEq] at run
        exact run ▸ stored _ _ rfl rfl
      | some existing =>
        simp only [found] at run
        split at run
        · simp only [Except.ok.injEq] at run
          have same := keyed _ existing found
          exact run ▸ stored _ _ same (plain _ existing found)
        · cases run
        · cases run

private theorem recordEvents_plain {critical : List Text} {events : List NormalizedEvent} {byHost final : Dict Text AffectedAsset}
    (run : recordEvents critical byHost events = .ok final) (keyed : Keyed byHost)
    (plain : ∀ key asset, byHost.get? key = some asset → asset.confirmedCveIds = []) :
    Keyed final ∧ ∀ key asset, final.get? key = some asset → asset.confirmedCveIds = [] := by
  induction events generalizing byHost with
  | nil =>
    simp only [recordEvents,Except.ok.injEq] at run
    exact run ▸ ⟨keyed,plain⟩
  | cons event rest ih =>
    unfold recordEvents at run
    cases step : recordEvent critical byHost event with
    | error e => simp [step] at run
    | ok next =>
      simp only [step] at run
      obtain ⟨keyed',plain'⟩ := recordEvent_plain step keyed plain
      exact ih run keyed' plain'

/-- One item adds its CVE to the host it names, and changes nothing else. -/
theorem recordEvidence_carries (critical : List Text) (cveId : Text) {byHost : Dict Text AffectedAsset}
    (item : ApplicabilityEvidence) (keyed : Keyed byHost) :
    Keyed (recordEvidence critical cveId byHost item) ∧ ∀ host other,
      Carries (recordEvidence critical cveId byHost item) host other ↔ Carries byHost host other ∨ (other = cveId ∧ Names item host) := by
  have skipped : (∀ name, ¬ NamesHost item name) → recordEvidence critical cveId byHost item = byHost →
      Keyed (recordEvidence critical cveId byHost item) ∧ ∀ host other,
        Carries (recordEvidence critical cveId byHost item) host other ↔ Carries byHost host other ∨ (other = cveId ∧ Names item host) := by
    intro unnamed same
    rw [same]
    exact ⟨keyed,fun host other => by simp [Names,unnamed]⟩
  cases named : item.hostname with
  | none => exact skipped (by simp [NamesHost,named]) (by simp [recordEvidence,named])
  | some hostname =>
    by_cases blank : hostname = []
    · subst blank
      exact skipped (by rintro name ⟨same,nonempty⟩; rw [named] at same; cases same; exact nonempty rfl) (by simp [recordEvidence,named])
    · obtain ⟨c,rest,rfl⟩ := List.exists_cons_of_ne_nil blank
      have names : ∀ host, Names item host ↔ lower (c :: rest) = lower host := by
        intro host
        simp [Names,NamesHost,named]
      set old := (byHost.get? (lower (c :: rest))).getD { hostname := c :: rest, critical := lower (c :: rest) ∈ critical } with oldDef
      have oldName : lower old.hostname = lower (c :: rest) := by
        cases found : byHost.get? (lower (c :: rest)) with
        | none => simp [oldDef,found]
        | some asset => simpa [oldDef,found] using keyed _ asset found
      have oldIds : ∀ other, other ∈ old.confirmedCveIds ↔ Carries byHost (c :: rest) other := by
        intro other
        cases found : byHost.get? (lower (c :: rest)) with
        | none => simp [oldDef,found,Carries]
        | some asset => simp [oldDef,found,Carries]
      set new := if cveId ∉ old.confirmedCveIds then { old with confirmedCveIds := old.confirmedCveIds ++ [cveId] } else old with newDef
      have newName : new.hostname = old.hostname := by rw [newDef]; split_ifs <;> rfl
      have newIds : ∀ other, other ∈ new.confirmedCveIds ↔ other ∈ old.confirmedCveIds ∨ other = cveId := by
        intro other
        rw [newDef]
        by_cases known : cveId ∈ old.confirmedCveIds
        · rw [if_neg (not_not.mpr known)]
          constructor
          · exact .inl
          · rintro (member | rfl)
            · exact member
            · exact known
        · rw [if_pos known]
          simp
      have step : recordEvidence critical cveId byHost item = byHost.set (lower (c :: rest)) new := by
        simp only [recordEvidence,named]
        rfl
      rw [step]
      constructor
      · intro key asset found
        rw [Dict.get?_set] at found
        split_ifs at found with here
        · cases found
          rw [newName,oldName,here]
        · exact keyed key asset found
      · intro host other
        rw [names]
        by_cases same : lower host = lower (c :: rest)
        · have before : Carries byHost host other ↔ Carries byHost (c :: rest) other := by simp [Carries,same]
          rw [before,← oldIds]
          simp [Carries,same,newIds]
        · have different : ¬ lower (c :: rest) = lower host := fun equal => same equal.symm
          simp [Carries,Dict.get?_set,same,different]

/-- The loops over the assessments add every CVE to every host its evidence names. -/
theorem recordAssessments_carries (critical : List Text) {byHost : Dict Text AffectedAsset} (confirmed : List CveAssessment)
    (keyed : Keyed byHost) :
    Keyed (recordAssessments critical byHost confirmed) ∧ ∀ host cveId,
      Carries (recordAssessments critical byHost confirmed) host cveId ↔ Carries byHost host cveId ∨
        ∃ assessment ∈ confirmed, assessment.cveId = cveId ∧ ∃ item ∈ assessment.evidence, Names item host := by
  have inner : ∀ (cveId : Text) (evidence : List ApplicabilityEvidence) (dict : Dict Text AffectedAsset), Keyed dict →
      Keyed (evidence.foldl (recordEvidence critical cveId) dict) ∧ ∀ host other,
        Carries (evidence.foldl (recordEvidence critical cveId) dict) host other ↔
          Carries dict host other ∨ (other = cveId ∧ ∃ item ∈ evidence, Names item host) := by
    intro cveId evidence
    induction evidence with
    | nil => intro dict keyed; simpa using keyed
    | cons item rest ih =>
      intro dict keyed
      obtain ⟨keyed',carries⟩ := recordEvidence_carries critical cveId item keyed
      obtain ⟨keyedAfter,later⟩ := ih _ keyed'
      refine ⟨keyedAfter,fun host other => ?_⟩
      rw [List.foldl_cons,later,carries,List.exists_mem_cons_iff]
      tauto
  unfold recordAssessments
  induction confirmed generalizing byHost with
  | nil => simpa using keyed
  | cons assessment rest ih =>
    obtain ⟨keyed',carries⟩ := inner assessment.cveId assessment.evidence byHost keyed
    obtain ⟨keyedAfter,later⟩ := ih keyed'
    refine ⟨keyedAfter,fun host cveId => ?_⟩
    rw [List.foldl_cons,later,carries,List.exists_mem_cons_iff]
    constructor
    · rintro ((before | ⟨rfl,named⟩) | after)
      · exact .inl before
      · exact .inr (.inl ⟨rfl,named⟩)
      · exact .inr (.inr after)
    · rintro (before | ⟨rfl,named⟩ | after)
      · exact .inl (.inl before)
      · exact .inl (.inr ⟨rfl,named⟩)
      · exact .inr after

/-! ### The affected assets -/

/-- The report lists the CVE as confirmed on the host. -/
def Lists (assets : List AffectedAsset) (host cveId : Text) : Prop :=
  ∃ asset ∈ assets, lower asset.hostname = lower host ∧ cveId ∈ asset.confirmedCveIds
/-- Some evidence of the CVE's assessment names the host with a version in range. -/
def InRangeOn (confirmed : List CveAssessment) (host cveId : Text) : Prop :=
  ∃ assessment ∈ confirmed, assessment.cveId = cveId ∧ ∃ item ∈ assessment.evidence, InRange item ∧ Names item host

/-- A report lists a CVE on every host that any of its evidence names, whatever the
    evidence says. -/
theorem collectAffectedAssets_lists {events : List NormalizedEvent} {confirmed : List CveAssessment} {criticalAssets : List Text}
    {assets : List AffectedAsset} (run : collectAffectedAssets events confirmed criticalAssets = .ok assets) (host cveId : Text) :
    Lists assets host cveId ↔ ∃ assessment ∈ confirmed, assessment.cveId = cveId ∧ ∃ item ∈ assessment.evidence, Names item host := by
  unfold collectAffectedAssets at run
  cases loop : recordEvents (criticalAssets.map lower) Dict.empty events with
  | error e => simp [loop,Except.map] at run
  | ok byHost =>
    simp only [loop,Except.map,Except.ok.injEq] at run
    obtain ⟨keyed,plain⟩ := recordEvents_plain loop (by simp [Keyed]) (by simp)
    obtain ⟨keyedAfter,carries⟩ := recordAssessments_carries (criticalAssets.map lower) confirmed keyed
    have bare : ¬ Carries byHost host cveId := by
      rintro ⟨asset,found,member⟩
      rw [plain _ _ found] at member
      cases member
    have stored : Lists assets host cveId ↔ Carries (recordAssessments (criticalAssets.map lower) byHost confirmed) host cveId := by
      simp only [Lists,← run,mem_sortedBy,Dict.mem_values]
      constructor
      · rintro ⟨asset,⟨key,found⟩,same,member⟩
        exact ⟨asset,by rw [← same,keyedAfter key asset found]; exact found,member⟩
      · rintro ⟨asset,found,member⟩
        exact ⟨asset,⟨_,found⟩,keyedAfter _ _ found,member⟩
    rw [stored,carries]
    simp [bare]

/-- The report confirms a CVE on exactly the hosts with in-range evidence when every
    host that the evidence of a CVE names has in-range evidence, and only then. -/
theorem lists_inRange_iff {events : List NormalizedEvent} {confirmed : List CveAssessment} {criticalAssets : List Text}
    {assets : List AffectedAsset} (run : collectAffectedAssets events confirmed criticalAssets = .ok assets) :
    (∀ host cveId, Lists assets host cveId ↔ InRangeOn confirmed host cveId) ↔
      ∀ assessment ∈ confirmed, ∀ item ∈ assessment.evidence, ∀ host, NamesHost item host →
        InRangeOn confirmed host assessment.cveId := by
  have lists := collectAffectedAssets_lists run
  constructor
  · intro exact assessment listed item member host named
    exact (exact host assessment.cveId).mp ((lists _ _).mpr ⟨assessment,listed,rfl,item,member,host,named,rfl⟩)
  · intro covered host cveId
    rw [lists]
    constructor
    · rintro ⟨assessment,listed,rfl,item,member,name,named,same⟩
      obtain ⟨other,listed',sameCve,item',member',inRange,name',named',same'⟩ := covered assessment listed item member name named
      exact ⟨other,listed',sameCve,item',member',inRange,name',named',same'.trans same⟩
    · rintro ⟨assessment,listed,same,item,member,_,named⟩
      exact ⟨assessment,listed,same,item,member,named⟩

end

/-! ### A host that was ruled out -/

/-- On the exposed host alone the report and the evidence agree. -/
theorem lists_inRange_single_host :
    let _ := ascii
    ∃ assets, collectAffectedAssets [] [exposedAssessment] [] = .ok assets ∧
      ∀ host cveId, Lists assets host cveId ↔ InRangeOn [exposedAssessment] host cveId := by
  let _ := ascii
  refine ⟨_,rfl,(@lists_inRange_iff _ [] [exposedAssessment] [] _ rfl).mpr ?_⟩
  intro other listed item member host named
  rw [List.mem_singleton] at listed
  subst listed
  have only : item = mixedEvidence.head (by simp [mixedEvidence]) := List.mem_singleton.mp member
  exact ⟨_,List.mem_singleton_self _,rfl,item,member,by rw [only]; rfl,host,named,rfl⟩

/-- The host that was ruled out is reported with the CVE confirmed. -/
theorem ruled_out_host_listed :
    let _ := ascii
    AssessedOn mixedEstate mixedAssessment ∧ ∃ assets, collectAffectedAssets [] [mixedAssessment] [] = .ok assets ∧
      Lists assets (lit "web-02") log4jRecord.cveId ∧ ¬ InRangeOn [mixedAssessment] (lit "web-02") log4jRecord.cveId := by
  let _ := ascii
  refine ⟨mixed_assessed,_,rfl,?_,?_⟩
  · refine ⟨{ hostname := lit "web-02", confirmedCveIds := [log4jRecord.cveId] },?_,rfl,by decide⟩
    decide
  · rintro ⟨assessment,listed,_,item,member,inRange,name,⟨named,_⟩,same⟩
    rw [List.mem_singleton] at listed
    subst listed
    simp only [mixedAssessment,mixedEvidence,List.mem_cons,List.mem_nil_iff,or_false] at member
    rcases member with rfl | rfl
    · cases named
      revert same
      decide
    · exact absurd inRange (by decide)

end SocAnalyst.Reporting
