import SocAnalyst.ReportRendering

/-!
# The reference numbers of a report

The marks of a finding are computed from the finding's own citations and the reference rows
from the citations of all assessments. They agree because both go by `citation_key`.
-/
namespace SocAnalyst.ReferenceNumbers
open SocAnalyst.Builtins SocAnalyst.Dicts SocAnalyst.Values SocAnalyst.Logs SocAnalyst.LogAnalysis SocAnalyst.Assessments
open SocAnalyst.IncidentReports
open SocAnalyst.ReportRendering (citationNumbers referenceMarks referenceLine renderReferences renderSection)
open SocAnalyst.Graph (number)

/-! ### The compiled list -/

/-- A key is listed when a citation has it and it was not seen before. -/
theorem keys_compileFrom (seen : List (Text × Text)) (citations : List Citation) (key : Text × Text) :
    key ∈ (compileFrom seen citations).map citationKey ↔ key ∈ citations.map citationKey ∧ key ∉ seen := by
  induction citations generalizing seen with
  | nil => simp [compileFrom]
  | cons citation rest ih =>
    simp only [compileFrom]
    by_cases known : citationKey citation ∈ seen
    · rw [if_pos known,ih,List.map_cons,List.mem_cons]
      constructor
      · exact fun ⟨later,fresh⟩ => ⟨.inr later,fresh⟩
      · rintro ⟨here | later,fresh⟩
        · exact (fresh (here ▸ known)).elim
        · exact ⟨later,fresh⟩
    · rw [if_neg known,List.map_cons,List.map_cons,List.mem_cons,List.mem_cons,ih,List.mem_cons,not_or]
      constructor
      · rintro (here | ⟨later,_,fresh⟩)
        · exact ⟨.inl here,here ▸ known⟩
        · exact ⟨.inr later,fresh⟩
      · rintro ⟨here | later,fresh⟩
        · exact .inl here
        · by_cases same : key = citationKey citation
          · exact .inl same
          · exact .inr ⟨later,same,fresh⟩

theorem compileFrom_distinct (seen : List (Text × Text)) (citations : List Citation) :
    ((compileFrom seen citations).map citationKey).Nodup := by
  induction citations generalizing seen with
  | nil => exact List.nodup_nil
  | cons citation rest ih =>
    simp only [compileFrom]
    by_cases known : citationKey citation ∈ seen
    · rw [if_pos known]
      exact ih seen
    · rw [if_neg known,List.map_cons,List.nodup_cons,keys_compileFrom]
      exact ⟨fun ⟨_,fresh⟩ => fresh (by simp),ih _⟩

/-- Further citations only extend the list. -/
theorem compileFrom_append (seen : List (Text × Text)) (citations further : List Citation) :
    ∃ more, compileFrom seen (citations ++ further) = compileFrom seen citations ++ more := by
  induction citations generalizing seen with
  | nil => exact ⟨compileFrom seen further,rfl⟩
  | cons citation rest ih =>
    simp only [List.cons_append,compileFrom]
    by_cases known : citationKey citation ∈ seen
    · rw [if_pos known,if_pos known]
      exact ih seen
    · obtain ⟨more,extended⟩ := ih (citationKey citation :: seen)
      rw [if_neg known,if_neg known,extended]
      exact ⟨more,rfl⟩

theorem compileCitations_append (groups further : List (List Citation)) :
    ∃ more, compileCitations (groups ++ further) = compileCitations groups ++ more := by
  rw [compileCitations,List.flatten_append]
  exact compileFrom_append [] _ _

/-- Every citation of a group is listed under its key. -/
theorem compileCitations_covers {groups : List (List Citation)} {group : List Citation} (given : group ∈ groups) {citation : Citation}
    (member : citation ∈ group) : citationKey citation ∈ (compileCitations groups).map citationKey := by
  rw [compileCitations,keys_compileFrom]
  exact ⟨List.mem_map_of_mem (List.mem_flatten.mpr ⟨group,given,member⟩),by simp⟩

/-! ### The numbers -/

/-- The rows in order, each under its key. -/
theorem entries_citationNumbers {citations : List Citation} (distinct : (citations.map citationKey).Nodup) :
    (citationNumbers citations).entries = (citations.zipIdx 1).map fun numbered => (citationKey numbered.1,numbered.2) := by
  have fresh : ((citations.zipIdx 1).map fun numbered => citationKey numbered.1).Nodup := by
    rwa [← List.zipIdx_map_fst 1 citations,List.map_map] at distinct
  exact Dict.entries_collect (fun numbered : Citation × Nat => citationKey numbered.1) Prod.snd Dict.empty fresh

theorem keys_citationNumbers {citations : List Citation} (distinct : (citations.map citationKey).Nodup) :
    (citationNumbers citations).keys = citations.map citationKey := by
  rw [Dict.keys,entries_citationNumbers distinct,List.map_map]
  conv_rhs => rw [← List.zipIdx_map_fst 1 citations,List.map_map]
  rfl

theorem values_citationNumbers {citations : List Citation} (distinct : (citations.map citationKey).Nodup) :
    (citationNumbers citations).values = List.range' 1 citations.length := by
  rw [Dict.values,entries_citationNumbers distinct,List.map_map]
  exact List.zipIdx_map_snd 1 citations

/-- A number stands for a citation when the reference row with it shows one with the same key. -/
def Stands (citations : List Citation) (n : Nat) (citation : Citation) : Prop :=
  ∃ listed, (listed,n) ∈ citations.zipIdx 1 ∧ citationKey listed = citationKey citation

theorem get?_citationNumbers {citations : List Citation} (distinct : (citations.map citationKey).Nodup) (n : Nat)
    (citation : Citation) : (citationNumbers citations).get? (citationKey citation) = some n ↔ Stands citations n citation := by
  rw [Dict.get?_eq_some,entries_citationNumbers distinct,List.mem_map]
  constructor
  · rintro ⟨⟨listed,m⟩,row,same⟩
    obtain ⟨key,rfl⟩ := Prod.mk.inj same
    exact ⟨listed,row,key⟩
  · rintro ⟨listed,row,key⟩
    exact ⟨(listed,n),row,Prod.ext key rfl⟩

/-- Further groups leave the number of a listed citation as it is. -/
theorem get?_citationNumbers_append (groups further : List (List Citation)) {key : Text × Text} {n : Nat}
    (numbered : (citationNumbers (compileCitations groups)).get? key = some n) :
    (citationNumbers (compileCitations (groups ++ further))).get? key = some n := by
  obtain ⟨more,extended⟩ := compileCitations_append groups further
  have distinct : ∀ groups, ((compileCitations groups).map citationKey).Nodup := fun groups => compileFrom_distinct [] groups.flatten
  rw [Dict.get?_eq_some,entries_citationNumbers (distinct _)] at numbered ⊢
  rw [extended,List.zipIdx_append,List.map_append]
  exact List.mem_append_left _ numbered

/-! ### The marks -/

def mark (n : Nat) : Text := lit "[" ++ number n ++ lit "]"

/-- What the marks of a finding say: ascending numbers, each of the row of one of its
    citations, and one of every citation. -/
def MarksAgree (citations : List Citation) (finding : ReportFinding) : Prop :=
  ∃ marks : List Nat, referenceMarks finding.citations (citationNumbers citations) = marks.flatMap mark ∧ marks.Pairwise (· < ·) ∧
    (∀ n ∈ marks, ∃ citation ∈ finding.citations, Stands citations n citation) ∧
    ∀ citation ∈ finding.citations, ∃ n ∈ marks, Stands citations n citation

theorem marksAgree_of_listed {citations : List Citation} (distinct : (citations.map citationKey).Nodup) {finding : ReportFinding}
    (listed : ∀ citation ∈ finding.citations, ∃ n, (citationNumbers citations).get? (citationKey citation) = some n) :
    MarksAgree citations finding := by
  let found := finding.citations.filterMap fun citation => (citationNumbers citations).get? (citationKey citation)
  have members : ∀ n, n ∈ sortedBy id found.dedup ↔
      ∃ citation ∈ finding.citations, (citationNumbers citations).get? (citationKey citation) = some n := by
    intro n
    rw [mem_sortedBy,List.mem_dedup,List.mem_filterMap]
  refine ⟨sortedBy id found.dedup,rfl,?_,?_,?_⟩
  · have once : (found.dedup.map id).Nodup := by
      rw [List.map_id]
      exact List.nodup_dedup found
    exact strict_sortedBy once
  · intro n marked
    obtain ⟨citation,member,numbered⟩ := (members n).mp marked
    exact ⟨citation,member,(get?_citationNumbers distinct n citation).mp numbered⟩
  · intro citation member
    obtain ⟨n,numbered⟩ := listed citation member
    exact ⟨n,(members n).mpr ⟨citation,member,numbered⟩,(get?_citationNumbers distinct n citation).mp numbered⟩

/-! ### What the findings cite -/

/-- The citations in the order the report lists them. -/
def citationGroups (threat : Option ThreatDetectionResult) (dossier : Option CveResearchResult) : List (List Citation) :=
  (threat.map (·.citations)).toList ++
    (dossier.map fun found => (found.cves ++ found.candidates ++ found.ruledOut).flatMap (·.assessment.citations)).toList

theorem reportFinding_citations {sectionKind : ReportSectionKind} {title detail : Text} {support : FindingSupport} {confidence : ℚ}
    {citations : List Citation} {finding : ReportFinding}
    (accepted : reportFinding sectionKind title detail support confidence citations = .ok finding) : finding.citations = citations := by
  unfold reportFinding at accepted
  split_ifs at accepted
  cases accepted
  rfl

theorem evidenceFindings_uncited {events : List NormalizedEvent} {entries : List TimelineEntry} {findings : List ReportFinding}
    (made : evidenceFindings events entries = .ok findings) {finding : ReportFinding} (member : finding ∈ findings) :
    finding.citations = [] := by
  unfold evidenceFindings at made
  split_ifs at made
  · cases made
    cases member
  · obtain ⟨only,accepted,rfl⟩ := map_ok.mp made
    rw [List.mem_singleton] at member
    exact member ▸ reportFinding_citations accepted

theorem threatFindings_uncited {threat : Option ThreatDetectionResult} {findings : List ReportFinding}
    (made : threatFindings threat = .ok findings) {finding : ReportFinding} (member : finding ∈ findings) : finding.citations = [] := by
  cases threat with
  | none =>
    cases made
    cases member
  | some threat =>
    simp only [threatFindings,bind_ok] at made
    obtain ⟨fired,signals,hostile,indicators,joined⟩ := made
    cases joined
    rcases List.mem_append.mp member with first | second
    · obtain ⟨signal,_,accepted⟩ := (mapRaising_mem signals finding).mp first
      exact reportFinding_citations accepted
    · obtain ⟨ioc,_,accepted⟩ := (mapRaising_mem indicators finding).mp second
      exact reportFinding_citations accepted

/-- The finding of a CVE cites what its assessment cites. -/
theorem vulnerabilityFindings_cited {dossier : Option CveResearchResult} {findings : List ReportFinding}
    (made : vulnerabilityFindings dossier = .ok findings) {finding : ReportFinding} (member : finding ∈ findings) :
    ∃ found cve, dossier = some found ∧ cve ∈ found.cves ∧ finding.citations = cve.assessment.citations := by
  cases dossier with
  | none =>
    cases made
    cases member
  | some found =>
    obtain ⟨cve,confirmed,accepted⟩ := (mapRaising_mem made finding).mp member
    exact ⟨found,cve,rfl,confirmed,reportFinding_citations accepted⟩

/-! ### The report -/

/-- A line of a text. -/
def OnLine (text line : Text) : Prop := ∃ before after, text = before ++ [10] ++ line ++ [10] ++ after

/-- Each reference is printed on a line of its own, with its number. -/
theorem renderReferences_lines [Printer] {citations : List Citation} {listed : Citation} {n : Nat} (row : (listed,n) ∈ citations.zipIdx 1) :
    OnLine (renderReferences citations) (referenceLine listed n) := by
  have printed : referenceLine listed n ∈ (citations.zipIdx 1).map fun numbered => referenceLine numbered.1 numbered.2 :=
    List.mem_map.mpr ⟨(listed,n),row,rfl⟩
  obtain ⟨before,after,whole,follows,followed⟩ := split_joined [10] printed
  rw [renderReferences,renderSection,if_neg (List.ne_nil_of_mem printed),whole]
  obtain ⟨front,opened⟩ : ∃ front, lit "## References\n\n" ++ before = front ++ [10] := by
    rcases follows with rfl | ⟨earlier,rfl⟩
    · exact ⟨lit "## References\n",rfl⟩
    · exact ⟨lit "## References\n\n" ++ earlier,by simp⟩
  obtain ⟨back,closed⟩ : ∃ back, after ++ [10] = [10] ++ back := by
    rcases followed with rfl | ⟨later,rfl⟩
    · exact ⟨[],rfl⟩
    · exact ⟨later ++ [10],by simp⟩
  exact ⟨front,back,by rw [← opened]; simp [← closed]⟩

/-- A report whose list of citations, numbers, marks and printed references agree. -/
structure Numbered [Printer] (report : IncidentReport) : Prop where
  distinct : (report.citations.map citationKey).Nodup
  keys : (citationNumbers report.citations).keys = report.citations.map citationKey
  numbers : (citationNumbers report.citations).values = List.range' 1 report.citations.length
  listed : ∀ finding ∈ report.findings, ∀ citation ∈ finding.citations,
    ∃ n, (citationNumbers report.citations).get? (citationKey citation) = some n
  marks : ∀ finding ∈ report.findings, MarksAgree report.citations finding
  /-- The row a number stands for is printed with it. -/
  printed : ∀ n citation, Stands report.citations n citation →
    ∃ listed, citationKey listed = citationKey citation ∧ OnLine (renderReferences report.citations) (referenceLine listed n)

section
variable [Printer] {reporter : IncidentReporter} {schemas : LogSchemas} {request : Graph.IncidentReportRequest} {report : IncidentReport}

/-- What the report lists and what its findings cite. -/
theorem report_citations (ran : reporter.report schemas request = .ok report) :
    ∃ threat dossier, readSection request.threatAssessment = .ok threat ∧ readSection request.vulnerabilityDossier = .ok dossier ∧
      report.citations = compileCitations (citationGroups (readModel reporter.readThreat threat) (readModel reporter.readDossier dossier)) ∧
      ∀ finding ∈ report.findings, ∀ citation ∈ finding.citations,
        ∃ found cve, readModel reporter.readDossier dossier = some found ∧ cve ∈ found.cves ∧ citation ∈ cve.assessment.citations := by
  simp only [IncidentReporter.report,bind_ok] at ran
  obtain ⟨threat,assessed,dossier,researched,_,_,_,_,_,_,evidence,observed,detected,hostile,vulnerable,confirmed,_,_,made⟩ := ran
  cases made
  refine ⟨threat,dossier,assessed,researched,rfl,?_⟩
  intro finding member citation cited
  rcases List.mem_append.mp member with (earlier | last)
  · rcases List.mem_append.mp earlier with first | second
    · rw [evidenceFindings_uncited observed first] at cited
      cases cited
    · rw [threatFindings_uncited hostile second] at cited
      cases cited
  · obtain ⟨found,cve,given,among,same⟩ := vulnerabilityFindings_cited confirmed last
    exact ⟨found,cve,given,among,same ▸ cited⟩

end

/-! ### An advisory cited twice -/

/-- Schemas under which no evidence is readable. -/
def unreadSchemas : LogSchemas where
  readRecord := fun _ => .error .ValueError
  readWindow := fun _ => .error .ValueError
  dumpEvent := fun _ => .null
  readEvent := fun _ => none
  dumpEntry := fun _ => .null
  readEntry := fun _ => none
  event_kept := by simp
  entry_kept := by simp

def advisory : Citation := { sourceId := lit "nvd", source := lit "NVD", url := lit "https://nvd.nist.gov/vuln/detail/CVE-2021-44228" }
def writeUp : Citation := { sourceId := lit "corpus", source := lit "Field notes", chunkId := lit "notes#3" }

/-- An assessment that cites the advisory. -/
def sampleThreat : ThreatDetectionResult where
  verdict := .MALICIOUS
  severityLevel := .CRITICAL
  enrichmentStatus := .COMPLETE
  citations := [advisory]
  confidence := 1/2
  sure := by norm_num [Share]

/-- A dossier whose only confirmed CVE cites the write-up and the advisory. -/
def sampleDossier : CveResearchResult where
  cves := [⟨{ mixedAssessment with citations := [writeUp,advisory] },lit "Remote code execution in log4j",none,1/2,by norm_num [Share]⟩]
  candidates := []
  ruledOut := []
  stale := false
  confidence := 1/2
  sure := by norm_num [Share]

def sampleReporter : IncidentReporter where
  readThreat := fun _ => some sampleThreat
  readDossier := fun _ => some sampleDossier
  renderExecutiveSummary := fun _ => []
  renderTechnicalBody := fun _ => []
  dumpCitation := fun _ => .null
  promptVersion := []

def sampleRequest : Graph.IncidentReportRequest where
  investigationId := lit "4b1e"
  triggerSource := lit "analyst"
  logAnalysis := none
  threatAssessment := .dict [(lit "verdict",.str (lit "malicious"))]
  vulnerabilityDossier := .dict [(lit "stale",.bool false)]
  criticalAssets := []

end SocAnalyst.ReferenceNumbers
