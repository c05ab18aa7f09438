import SocAnalyst.RecordedPlans

/-!
# Recorded findings and the live snapshot

`record_cve_findings` of `services/vulnerability.py`, and `snapshot_of` of
`services/investigations.py`, which counts what was recorded.
-/
namespace SocAnalyst.RecordedFindings
open SocAnalyst.Builtins SocAnalyst.Times SocAnalyst.Dicts SocAnalyst.Applicability SocAnalyst.Assessments SocAnalyst.Risk
open SocAnalyst.Recommender SocAnalyst.RemediationPlans SocAnalyst.Generations SocAnalyst.RecordedPlans
open SocAnalyst.Graph (InvestigationStatus Node)

/-! ### Contracts -/

/-- A parsed CVSS vector, as far as it is stored. -/
structure CvssMetrics where
  version : Text
  vector : Text
  baseScore : ℚ
  severity : Severity
  narrative : Text := []

/-- A published vulnerability record, as far as it is stored. -/
structure CveRecord where
  cveId : Text
  summary : Text := []
  cvss : Option CvssMetrics := none
  publishedAt : Option DateTime := none
  modifiedAt : Option DateTime := none
  stale : Bool := false

/-- One CVE, assessed against an estate. -/
structure CveAssessment where
  record : CveRecord
  applicability : CveApplicability := .CANDIDATE
  evidence : List ApplicabilityEvidence := []
  exploitMapping : ExploitMapping := {}
  citations : List Citation := []
  supported : applicability = .CONFIRMED → ∃ item ∈ evidence, InRange item ∧ truthy item.hostname = true ∧
    truthy item.product = true ∧ truthy item.installedVersion = true

/-- The dossier: confirmed, unconfirmed and excluded. -/
structure CveResearchResult where
  cves : List CveAssessment := []
  candidates : List CveAssessment := []
  ruledOut : List CveAssessment := []

/-- Every assessment made, whatever its applicability. -/
def CveResearchResult.allAssessments (result : CveResearchResult) : List CveAssessment :=
  result.cves ++ result.candidates ++ result.ruledOut

/-- A row of the `cve_findings` table. The payload columns hold the contracts they are
    dumped from. -/
structure CveFinding where
  investigationId : Text
  cveId : Text
  cvss : Option CvssMetrics
  summary : Text
  applicability : CveApplicability
  exploitMapping : List ExploitMapping
  citations : List Citation
  sourceFreshness : Option DateTime
  version : Nat

/-! ### Persisting a dossier -/

def reasonValue : ApplicabilityReason → Text
  | .VERSION_IN_VULNERABLE_RANGE => lit "version_in_vulnerable_range"
  | .VERSION_NOT_IN_VULNERABLE_RANGE => lit "version_not_in_vulnerable_range"
  | .VERSION_UNKNOWN => lit "version_unknown"
  | .VERSION_UNPARSEABLE => lit "version_unparseable"
  | .NO_AFFECTED_RANGE_PUBLISHED => lit "no_affected_range_published"
  | .PRODUCT_NOT_IN_INVENTORY => lit "product_not_in_inventory"
  | .TECHNIQUE_MATCH_ONLY => lit "technique_match_only"

/-- The stored explanation: the vulnerability, then why it applies or does not. -/
def summaryOf (assessment : CveAssessment) : Text :=
  let parts := [strip assessment.record.summary] ++
    (assessment.evidence.filter (·.detail ≠ [])).map (fun item => lit "[" ++ reasonValue item.reason ++ lit "] " ++ item.detail) ++
    (if assessment.record.stale then
      [lit "Assembled from the indexed corpus because the live CVE feed was unavailable."] else [])
  joined (lit " ") (parts.filter (· ≠ []))

/-- The observed activity tied to the CVE, or nothing when none is. -/
def exploitPayload (assessment : CveAssessment) : List ExploitMapping :=
  if assessment.exploitMapping.isEmpty then [] else [assessment.exploitMapping]

/-- Map one assessed CVE onto its persistent row. -/
def toCveFinding (investigationId : Text) (version : Nat) (assessment : CveAssessment) : CveFinding where
  investigationId
  cveId := assessment.record.cveId
  cvss := assessment.record.cvss
  summary := summaryOf assessment
  applicability := assessment.applicability
  exploitMapping := exploitPayload assessment
  citations := assessment.citations
  sourceFreshness := assessment.record.modifiedAt.or assessment.record.publishedAt
  version

/-- The dossier generations of the investigations. -/
def dossiers : Versioned Text CveAssessment CveFinding where
  owner := (·.investigationId)
  version := (·.version)
  make := toCveFinding
  owner_make _ _ _ := rfl
  version_make _ _ _ := rfl

section
variable (table : List CveFinding) (investigationId : Text)

/-- One dossier generation. -/
def dossierForVersion (version : Nat) : List CveFinding := sortedBy (·.cveId) (dossiers.generation table investigationId version)

/-- The most recent dossier generation. -/
def currentDossier : List CveFinding :=
  let version := dossiers.latestVersion table investigationId
  if version = 0 then [] else dossierForVersion table investigationId version

/-- Persist a dossier generation: the table, the version it is written under, and its rows. -/
def recordCveFindings (result : CveResearchResult) : List CveFinding × Nat × List CveFinding :=
  let version := dossiers.latestVersion table investigationId + 1
  let rows := result.allAssessments.map (toCveFinding investigationId version)
  (if rows = [] then table else table ++ rows,version,rows)

end

/-! ### The live control view -/

/-- A row of the `threat_assessments` table, as far as the views read it. -/
structure ThreatAssessmentRow where
  id : Text
  investigationId : Text
  verdict : Verdict
  triagePriority : TriagePriority
  confidence : ℚ
  version : Nat

structure ReportRow where
  investigationId : Text
  version : Nat

structure LogEventRow where
  investigationId : Text

/-- What the backend recorded of a stage. -/
structure StageEntry where
  status : Text
  detail : Text

structure Investigation where
  id : Text
  status : InvestigationStatus
  severity : Option Severity
  pipeline : Dict Text StageEntry
  updatedAt : DateTime

structure Database where
  threatAssessments : List ThreatAssessmentRow := []
  reports : List ReportRow := []
  logEvents : List LogEventRow := []
  cveFindings : List CveFinding := []
  recommendations : List Recommendation := []

structure PipelineStage where
  name : Text
  label : Text
  complete : Bool
  skipped : Bool
  detail : Option Text

structure InvestigationSnapshot where
  id : Text
  status : InvestigationStatus
  severity : Option Severity
  verdict : Option Verdict
  triagePriority : Option TriagePriority
  confidence : Option ℚ
  awaitingHuman : Bool
  pipeline : List PipelineStage
  eventCount : Nat
  cveCount : Nat
  recommendationCount : Nat
  pendingApprovals : Nat
  reportVersion : Nat
  updatedAt : DateTime

/-- The pipeline a screen renders, with the label of each stage. -/
def stages : List (Text × Text) :=
  [(lit "log_analysis",lit "Log analysis"),(lit "threat_detection",lit "Threat detection"),(lit "cve_research",lit "CVE research"),
    (lit "report",lit "Incident report"),(lit "remediation",lit "Remediation plan")]

/-- Project the recorded stage log into the ordered view. `str` names an absent detail. -/
def pipelineOf (investigation : Investigation) : List PipelineStage :=
  stages.map fun stage =>
    let entry := investigation.pipeline.get? stage.1
    let status := (entry.map (·.status)).getD []
    let detail := (entry.map (·.detail)).getD (lit "None")
    { name := stage.1, label := stage.2, complete := status = lit "complete", skipped := status = lit "skipped"
      detail := if detail = [] then none else some detail }

/-- Count one investigation's rows in a child table. -/
def countRows {ρ : Type} (owner : ρ → Text) (table : List ρ) (investigationId : Text) : Nat :=
  table.countP fun row => owner row = investigationId

section
variable (database : Database)

def currentAssessment (investigationId : Text) : Option ThreatAssessmentRow :=
  (sortedBy (fun row : ThreatAssessmentRow => toLex (row.version,row.id))
    (database.threatAssessments.filter (·.investigationId = investigationId))).getLast?

def currentReport (investigationId : Text) : Option ReportRow :=
  (sortedBy (·.version) (database.reports.filter (·.investigationId = investigationId))).getLast?

/-- Build the live control view of one investigation. -/
def snapshotOf (investigation : Investigation) : InvestigationSnapshot :=
  let assessment := currentAssessment database investigation.id
  let report := currentReport database investigation.id
  let recommendations := current database.recommendations investigation.id
  let pending := recommendations.filter (·.approvalStatus = .PENDING)
  { id := investigation.id
    status := investigation.status
    severity := investigation.severity
    verdict := assessment.map (·.verdict)
    triagePriority := assessment.map (·.triagePriority)
    confidence := assessment.map (·.confidence)
    awaitingHuman := investigation.status = .AWAITING_APPROVAL
    pipeline := pipelineOf investigation
    eventCount := countRows LogEventRow.investigationId database.logEvents investigation.id
    cveCount := countRows CveFinding.investigationId database.cveFindings investigation.id
    recommendationCount := recommendations.length
    pendingApprovals := pending.length
    reportVersion := (report.map (·.version)).getD 0
    updatedAt := investigation.updatedAt }

end

/-! ### Regenerations -/

/-- A regeneration of one of the two artifacts. -/
inductive Call where
  | plan (plan : RemediationPlan)
  | dossier (result : CveResearchResult)

/-- The database, with the generations written to it so far. -/
structure Session where
  database : Database
  plans : List (Nat × List Recommendation) := []
  dossiers : List (Nat × List CveFinding) := []

/-- One call of the service, for one investigation. -/
def Session.perform (investigationId : Text) (session : Session) : Call → Session
  | .plan plan =>
    let (recommendations,version,rows) := recordRemediationPlan session.database.recommendations investigationId plan
    { session with database := { session.database with recommendations }, plans := session.plans ++ [(version,rows)] }
  | .dossier result =>
    let (cveFindings,version,rows) := recordCveFindings session.database.cveFindings investigationId result
    { session with database := { session.database with cveFindings }, dossiers := session.dossiers ++ [(version,rows)] }

def Session.performAll (investigationId : Text) (session : Session) (calls : List Call) : Session :=
  calls.foldl (Session.perform investigationId) session

/-- The rows of the newest plan, none before the first. -/
def Session.newestPlan (session : Session) : List Recommendation := (session.plans.getLast?.map (·.2)).getD []
/-- The rows of the newest dossier, none before the first. -/
def Session.newestDossier (session : Session) : List CveFinding := (session.dossiers.getLast?.map (·.2)).getD []

/-- What is read of an investigation is its newest generations, and every generation is
    read back by its version. -/
structure ReadsNewest (investigation : Investigation) (session : Session) : Prop where
  plan : (current session.database.recommendations investigation.id).Perm session.newestPlan
  plans : ∀ generation ∈ session.plans,
    (forVersion session.database.recommendations investigation.id generation.1).Perm generation.2
  dossier : (currentDossier session.database.cveFindings investigation.id).Perm session.newestDossier
  dossiers : ∀ generation ∈ session.dossiers,
    (dossierForVersion session.database.cveFindings investigation.id generation.1).Perm generation.2
  recommendationCount : (snapshotOf session.database investigation).recommendationCount = session.newestPlan.length
  pendingApprovals : (snapshotOf session.database investigation).pendingApprovals =
    (session.newestPlan.filter (·.approvalStatus = .PENDING)).length
  cveCount : (snapshotOf session.database investigation).cveCount = session.newestDossier.length

/-- The newest generations are read after every call of a sequence. -/
def ReadsNewestThroughout (investigation : Investigation) (database : Database) (calls : List Call) : Prop :=
  ∀ done, done <+: calls → ReadsNewest investigation ((⟨database,[],[]⟩ : Session).performAll investigation.id done)

/-- The investigation has no rows of its own. -/
structure Unwritten (investigation : Investigation) (database : Database) : Prop where
  plans : plans.owned database.recommendations investigation.id = []
  dossiers : dossiers.owned database.cveFindings investigation.id = []

/-- What a call writes to the plans. -/
def Call.planned : Call → Option (List RemediationRecommendation)
  | .plan proposed => some proposed.recommendations
  | .dossier _ => none
/-- What a call writes to the dossiers. -/
def Call.researched : Call → Option (List CveAssessment)
  | .plan _ => none
  | .dossier result => some result.allAssessments

/-- No plan is empty or all are; and there is one dossier at most, or none that lists a CVE. -/
def TracedGenerations (calls : List Call) : Prop :=
  Uniform (calls.filterMap Call.planned) ∧
    ((∀ assessments ∈ calls.filterMap Call.researched, assessments = []) ∨ (calls.filterMap Call.researched).length ≤ 1)

/-! ### The two tables as generations -/

/-- The plans of a session as a history of generations. -/
def Session.planHistory (session : Session) : History Recommendation := ⟨session.database.recommendations,session.plans⟩
/-- The dossiers of a session as a history of generations. -/
def Session.dossierHistory (session : Session) : History CveFinding := ⟨session.database.cveFindings,session.dossiers⟩

section
variable {investigationId : Text} {session : Session}

theorem recordCveFindings_table {table : List CveFinding} (result : CveResearchResult) :
    (recordCveFindings table investigationId result).1 =
      table ++ dossiers.written table investigationId result.allAssessments :=
  append_unless_empty ..

theorem perform_planHistory (call : Call) :
    (session.perform investigationId call).planHistory =
      call.planned.elim session.planHistory (session.planHistory.record plans investigationId) := by
  cases call with
  | plan plan =>
    simp only [Session.perform,Session.planHistory,Call.planned,recordRemediationPlan_table]
    rfl
  | dossier result => rfl

theorem perform_dossierHistory (call : Call) :
    (session.perform investigationId call).dossierHistory =
      call.researched.elim session.dossierHistory (session.dossierHistory.record dossiers investigationId) := by
  cases call with
  | plan plan => rfl
  | dossier result =>
    simp only [Session.perform,Session.dossierHistory,Call.researched,recordCveFindings_table]
    rfl

/-- A history that the calls of one kind write to sees these, and nothing else. -/
theorem performAll_history {ι ρ : Type} {schema : Versioned Text ι ρ} {history : Session → History ρ} {writes : Call → Option (List ι)}
    (step : ∀ session call, history (session.perform investigationId call) =
      (writes call).elim (history session) ((history session).record schema investigationId)) (calls : List Call) :
    history (session.performAll investigationId calls) = (history session).recordAll schema investigationId (calls.filterMap writes) := by
  induction calls generalizing session with
  | nil => rfl
  | cons call rest ih =>
    have later : session.performAll investigationId (call :: rest) =
        (session.perform investigationId call).performAll investigationId rest := rfl
    rw [later,ih,step,List.filterMap_cons]
    cases writes call with
    | none => rfl
    | some items => rfl

theorem performAll_planHistory (calls : List Call) :
    (session.performAll investigationId calls).planHistory =
      session.planHistory.recordAll plans investigationId (calls.filterMap Call.planned) :=
  performAll_history (fun _ call => perform_planHistory call) calls

theorem performAll_dossierHistory (calls : List Call) :
    (session.performAll investigationId calls).dossierHistory =
      session.dossierHistory.recordAll dossiers investigationId (calls.filterMap Call.researched) :=
  performAll_history (fun _ call => perform_dossierHistory call) calls

theorem dossierForVersion_perm {table : List CveFinding} (version : Nat) :
    (dossierForVersion table investigationId version).Perm (dossiers.generation table investigationId version) :=
  List.perm_insertionSort _ _

theorem currentDossier_perm {table : List CveFinding} :
    (currentDossier table investigationId).Perm (dossiers.current table investigationId) :=
  Versioned.ordered_perm dossierForVersion_perm

theorem cveCount_owned (database : Database) (investigation : Investigation) :
    (snapshotOf database investigation).cveCount = (dossiers.owned database.cveFindings investigation.id).length := by
  rw [Versioned.owned,← List.countP_eq_length_filter]
  rfl

end

section
variable {investigation : Investigation} {session : Session}

/-- What is read is the newest just when both histories are kept and every finding is of
    the newest dossier. -/
theorem readsNewest_iff : ReadsNewest investigation session ↔
    Kept plans investigation.id session.planHistory ∧ Kept RecordedFindings.dossiers investigation.id session.dossierHistory ∧
      (RecordedFindings.dossiers.owned session.dossierHistory.table investigation.id).length = session.dossierHistory.newest.length := by
  constructor
  · intro reads
    refine ⟨⟨current_perm.symm.trans reads.plan,fun generation member => ?_⟩,
      ⟨currentDossier_perm.symm.trans reads.dossier,fun generation member => ?_⟩,?_⟩
    · exact (forVersion_perm _).symm.trans (reads.plans generation member)
    · exact (dossierForVersion_perm _).symm.trans (reads.dossiers generation member)
    · exact (cveCount_owned session.database investigation).symm.trans reads.cveCount
  · rintro ⟨plan,dossier,counted⟩
    have read : (current session.database.recommendations investigation.id).Perm session.newestPlan :=
      current_perm.trans plan.newest
    exact {
      plan := read
      plans := fun generation member => (forVersion_perm _).trans (plan.readable generation member)
      dossier := currentDossier_perm.trans dossier.newest
      dossiers := fun generation member => (dossierForVersion_perm _).trans (dossier.readable generation member)
      recommendationCount := read.length_eq
      pendingApprovals := (read.filter _).length_eq
      cveCount := (cveCount_owned session.database investigation).trans counted }

theorem throughout_kept (investigation : Investigation) (database : Database) (calls : List Call) :
    ReadsNewestThroughout investigation database calls ↔
      (∀ done, done <+: calls.filterMap Call.planned →
        Kept plans investigation.id (History.recordAll plans investigation.id ⟨database.recommendations,[]⟩ done)) ∧
      ∀ done, done <+: calls.filterMap Call.researched →
        Kept RecordedFindings.dossiers investigation.id
          (History.recordAll RecordedFindings.dossiers investigation.id ⟨database.cveFindings,[]⟩ done) ∧
        (RecordedFindings.dossiers.owned
          (History.recordAll RecordedFindings.dossiers investigation.id ⟨database.cveFindings,[]⟩ done).table investigation.id).length =
          (History.recordAll RecordedFindings.dossiers investigation.id ⟨database.cveFindings,[]⟩ done).newest.length := by
  simp only [ReadsNewestThroughout,readsNewest_iff,performAll_planHistory,performAll_dossierHistory]
  constructor
  · intro always
    refine ⟨fun done part => ?_,fun done part => ?_⟩
    · obtain ⟨before,first,rfl⟩ := List.prefix_filterMap_iff.mp part
      exact (always before first).1
    · obtain ⟨before,first,rfl⟩ := List.prefix_filterMap_iff.mp part
      exact (always before first).2
  · rintro ⟨planned,researched⟩ done part
    exact ⟨planned _ (part.filterMap _),researched _ (part.filterMap _)⟩

end

/-- From an investigation without rows, every call leaves its newest generations to be read
    exactly when no generation goes without a trace and no dossier outlives the next. -/
theorem readsNewestThroughout_iff (investigation : Investigation) (database : Database) (calls : List Call)
    (unwritten : Unwritten investigation database) :
    ReadsNewestThroughout investigation database calls ↔ TracedGenerations calls := by
  rw [throughout_kept,kept_iff unwritten.plans,kept_alone_iff unwritten.dossiers]
  rfl

theorem first_moment : (0 : Int) ≤ 0 ∧ (0 : Int) < maxDays * dayMicros := by decide

/-- An open case. -/
def openCase : Investigation := ⟨lit "inv-1",.OPEN,none,Dict.empty,⟨0,some 0,first_moment⟩⟩

theorem unwritten_openCase : Unwritten openCase {} := ⟨rfl,rfl⟩

/-- Two plans with recommendations, and an empty dossier between them. -/
theorem two_plans_read : ReadsNewestThroughout openCase {} [.plan mixedPlan,.dossier {},.plan mixedPlan] := by
  refine (readsNewestThroughout_iff openCase {} _ unwritten_openCase).mpr ⟨.inr ?_,.inl ?_⟩
  · simp [Call.planned,mixedPlan]
  · simp [Call.researched,CveResearchResult.allAssessments]

/-- An empty plan leaves the one before it on the approval queue. -/
theorem superseded_plan_current : ¬ ∀ (investigation : Investigation) (database : Database) (calls : List Call),
    Unwritten investigation database → ReadsNewestThroughout investigation database calls := by
  intro law
  have kept := (throughout_kept openCase {} _).mp (law openCase {} [.plan mixedPlan,.plan { mixedPlan with recommendations := [] }]
    unwritten_openCase)
  have uniform := (kept_iff unwritten_openCase.plans _).mp kept.1
  simp [Uniform,Call.planned,mixedPlan] at uniform

end SocAnalyst.RecordedFindings
