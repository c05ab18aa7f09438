import Mathlib.Data.List.Dedup
import SocAnalyst.Dicts
import SocAnalyst.Remediation
import SocAnalyst.Risk

/-!
# The patch recommender

`_patch_template`, `_build`, `_from_cves`, `_from_techniques` and `_affected_hosts` of
`agents/patch_recommender/recommender.py`. The pinned catalogue of guidance is a
parameter: nothing here depends on its texts.
-/
namespace SocAnalyst.Recommender
open SocAnalyst.Builtins SocAnalyst.Dicts SocAnalyst.Versions SocAnalyst.Applicability SocAnalyst.Assessments
open SocAnalyst.Remediation SocAnalyst.Risk

/-! ### Contracts -/

/-- What a recommendation is answering. -/
structure RemediationSupport where
  cveIds : List Text := []
  techniqueIds : List Text := []
  signalRuleIds : List Text := []
  cweIds : List Text := []
  deriving DecidableEq

/-- The fields of a recommendation, before they are validated. -/
structure Proposal where
  action : Text
  type : RecommendationType
  priority : TriagePriority
  risk : RiskScore
  rationale : Text
  expectedImpact : Text
  steps : List Text
  verification : Text
  targets : List Text
  support : RemediationSupport
  grounding : RemediationConfidence
  citations : List Citation

/-- One proposed remediation: it says why, and on whose authority. -/
structure RemediationRecommendation extends Proposal where
  justified : strip rationale ≠ []
  sourced : citations ≠ []

/-- The validator of a recommendation. -/
def Proposal.validated (proposal : Proposal) : Except PyError RemediationRecommendation :=
  if justified : strip proposal.rationale ≠ [] then
    if sourced : proposal.citations ≠ [] then .ok { proposal with justified, sourced } else .error .ValueError
  else .error .ValueError

theorem validated_ok {proposal : Proposal} {recommendation : RemediationRecommendation}
    (made : proposal.validated = .ok recommendation) : recommendation.toProposal = proposal := by
  unfold Proposal.validated at made
  split_ifs at made
  rw [Except.ok.injEq] at made
  rw [← made]

theorem validated_returns {proposal : Proposal} (justified : strip proposal.rationale ≠ []) (sourced : proposal.citations ≠ []) :
    ∃ recommendation, proposal.validated = .ok recommendation :=
  ⟨{ proposal with justified, sourced },by rw [Proposal.validated,dif_pos justified,dif_pos sourced]⟩

/-- The dossier: the confirmed assessments and the candidates. -/
structure CveResearchResult where
  cves : List CveAssessment
  candidates : List CveAssessment

inductive Verdict where
  | BENIGN
  | SUSPICIOUS
  | MALICIOUS
  deriving DecidableEq, Repr

/-- One detection heuristic that fired. -/
structure DetectionSignal where
  ruleId : Text
  name : Text
  weight : ℚ
  techniqueIds : List Text := []

/-- An observed behavior mapped to a technique. -/
structure TechniqueMapping where
  techniqueId : Text
  rationale : Text := []
  citations : List Citation := []

structure ThreatDetectionResult where
  verdict : Verdict
  severityScore : ℚ
  severityRationale : Text
  attackTechniques : List TechniqueMapping
  signals : List DetectionSignal

/-- A recorded reduction in what the agent could deliver. -/
structure AgentDegradation where
  reason : Text
  detail : Text
  deriving DecidableEq

/-- The catalogued guidance, by technique and by weakness class. -/
structure Catalogue where
  forTechnique : Text → Option RemediationTemplate
  forWeakness : Text → Option RemediationTemplate

/-- `sorted({...})`. -/
def sortedSet (texts : List Text) : List Text := sortedBy id texts.dedup

@[simp] theorem mem_sortedSet (texts : List Text) (text : Text) : text ∈ sortedSet texts ↔ text ∈ texts := by
  rw [sortedSet,mem_sortedBy,List.mem_dedup]

/-! ### From a CVE to a recommendation -/

section
variable [Interpreter]

/-- The minimum severity an assessed verdict implies. -/
def verdictSeverityFloor : Verdict → ℚ
  | .MALICIOUS => 7
  | .SUSPICIOUS => 4
  | .BENIGN => 0

/-- Canonicalize a CWE identifier, or return nothing if it is not one. -/
def normalizeCweId (cweId : Text) : Option Text :=
  let text := strip cweId
  let digits := text.drop 4
  if lower (text.take 4) = lit "cwe-" ∧ digits ≠ [] ∧ digits.all isDigit then some (lit "CWE-" ++ digits) else none

/-- The combination that turns a vulnerability into an internet-facing one. -/
def remotelyExploitable (cvss : CvssMetrics) : Bool :=
  cvss.attackVector = some (lit "NETWORK") && cvss.privilegesRequired = some (lit "NONE") &&
    cvss.userInteraction = some (lit "NONE")

/-- The names that are neither missing nor empty. -/
def present (names : List (Option Text)) : List Text := names.filterMap fun name => if truthy name then name else none

/-- The product the guidance is looked up for: the first that the evidence names. -/
def chosenProduct (assessment : CveAssessment) : Option Text :=
  ((present (assessment.evidence.map (·.product))).head?).or ((assessment.record.affected.map (·.product)).head?)

/-- What `patch_guidance` is given for a product, and whether no fixed version was found. -/
def argumentsFor (source : AdvisorySource) (assessment : CveAssessment) (product : Option Text) : PatchArguments × Bool :=
  let plain : PatchArguments := { cveId := assessment.cveId, product := product, references := assessment.record.references }
  if !source.isAvailable then (plain,true)
  else
    let result := source.fetch assessment.cveId
    match result.ok, result.advisories with
    | false, _ => (plain,true)
    | true, [] => (plain,true)
    | true, advisory :: _ =>
      match advisory.fixFor product with
      | none => ({ plain with advisoryCitation := some advisory.citation },true)
      | some fix => ({ plain with
          product := some fix.package, fixedVersion := fix.fixedVersion, advisoryCitation := some advisory.citation },
          fix.fixedVersion.isNone)

/-- Upgrade guidance for one CVE, with a fixed version where one is known. -/
def patchTemplate (source : AdvisorySource) (assessment : CveAssessment) : RemediationTemplate × Bool :=
  let given := argumentsFor source assessment (chosenProduct assessment)
  (patchGuidance given.1,given.2)

/-- The hosts that the evidence of an assessment names. -/
def evidenceHosts (assessment : CveAssessment) : List Text := present (assessment.evidence.map (·.hostname))

/-- Turn one CVE assessment plus a template into a recommendation. -/
def build (template : RemediationTemplate) (assessment : CveAssessment) (critical : List Text) (confirmed : Bool) :
    Except PyError RemediationRecommendation :=
  let hosts := sortedSet (evidenceHosts assessment)
  let observed := !assessment.exploitMapping.isEmpty
  let risk := scoreRisk {
    severityScore := (assessment.record.cvss.map (·.baseScore)).getD 5
    applicabilityConfirmed := confirmed
    exploitationObserved := observed
    internetReachable := (assessment.record.cvss.map remotelyExploitable).getD false
    assetCritical := hosts.any fun host => lower host ∈ critical
    subject := assessment.cveId }
  Proposal.validated {
    action := template.action, type := template.type, priority := derivePriority risk observed, risk := risk
    rationale := template.rationale, expectedImpact := template.expectedImpact, steps := template.steps
    verification := template.verification, targets := hosts
    support := { cveIds := [assessment.cveId], techniqueIds := assessment.exploitMapping.techniqueIds
                 cweIds := assessment.record.cweIds.filterMap normalizeCweId }
    grounding := template.grounding, citations := template.citations ++ assessment.citations }

/-- Guidance for a CVE whose applicability was never confirmed. -/
def verificationTemplate (catalogue : Catalogue) (assessment : CveAssessment) : RemediationTemplate :=
  let reasons := joined (lit "; ") ((assessment.evidence.map (·.detail)).filter fun detail => detail ≠ [])
  let weakness := (assessment.record.cweIds.filterMap catalogue.forWeakness).head?
  let followUp := match weakness with
    | none => []
    | some weakness => lit " If it applies, " ++ lower (weakness.action.take 1) ++ weakness.action.drop 1 ++ lit "."
  { templateId := lit "verify:" ++ assessment.cveId
    action := lit "Establish whether " ++ assessment.cveId ++ lit " applies to the affected assets"
    type := .OTHER
    rationale := assessment.cveId ++ lit " could not be confirmed against the asset inventory. " ++
      (if reasons = [] then lit "The evidence needed to decide is missing." else reasons) ++
      lit " Leaving an unchecked candidate open leaves a possible exposure unattended."
    expectedImpact := lit ("The candidate is resolved into a confirmed finding or ruled out. No " ++
      "production change is made by this step.")
    steps := [lit "Record the installed version of the affected product on each candidate host.",
      lit "Compare it against the published vulnerable range for this CVE.",
      lit "Re-run the investigation once the inventory is complete." ++ followUp]
    verification := lit "Confirm the asset inventory now records a version for the affected product."
    grounding := .CLASS_SPECIFIC
    extraCitations := assessment.citations }

/-- The recommendation for a confirmed CVE. -/
def patchRecommendation (source : AdvisorySource) (critical : List Text) (assessment : CveAssessment) :
    Except PyError RemediationRecommendation :=
  build (patchTemplate source assessment).1 assessment critical true

/-- Patch guidance for confirmed vulnerabilities, and checks for candidates. -/
def fromCves (catalogue : Catalogue) (source : AdvisorySource) (critical : List Text) :
    Option CveResearchResult → Except PyError (List RemediationRecommendation × List AgentDegradation)
  | none => .ok ([],[])
  | some dossier =>
    match mapRaising (patchRecommendation source critical) dossier.cves with
    | .error e => .error e
    | .ok patches =>
      match mapRaising (fun assessment => build (verificationTemplate catalogue assessment) assessment critical false)
          dossier.candidates with
      | .error e => .error e
      | .ok checks =>
        let failures := dossier.cves.countP fun assessment => (patchTemplate source assessment).2
        .ok (patches ++ checks,if failures = 0 then [] else [⟨lit "advisory_unavailable",
          lit "no fixed version could be resolved for " ++ lit (toString failures) ++
            lit " confirmed CVE(s); the guidance names the advisory instead"⟩])

/-- The hosts a behavioral mitigation should be applied to. -/
def affectedHosts (dossier : Option CveResearchResult) (inventory : List Text) : List Text :=
  let hosts := ((dossier.map (·.cves)).getD []).flatMap evidenceHosts
  sortedSet (if hosts = [] then inventory else hosts)

/-- Risk for a behavior-driven mitigation, floored by the verdict. -/
def techniqueRisk (threat : ThreatDetectionResult) (touchesCritical : Bool) (signals : List DetectionSignal) : RiskScore :=
  let strongest := match signals with
    | [] => threat.severityScore
    | first :: rest => rest.foldl (fun weight signal => max weight signal.weight) first.weight
  scoreRisk {
    severityScore := max strongest (verdictSeverityFloor threat.verdict)
    exploitationObserved := true
    assetCritical := touchesCritical
    subject := match signals with
      | [] => lit "the observed activity"
      | first :: _ => lower first.name }

/-- Mitigations for the behaviors that were actually observed. -/
def fromTechniques (catalogue : Catalogue) (dossier : Option CveResearchResult) (critical inventory : List Text) :
    Option ThreatDetectionResult → Except PyError (List RemediationRecommendation)
  | none => .ok []
  | some threat =>
    let targets := affectedHosts dossier inventory
    let touchesCritical := targets.any fun host => lower host ∈ critical
    mapRaising (fun entry : TechniqueMapping × RemediationTemplate =>
        let signals := threat.signals.filter fun signal => entry.1.techniqueId ∈ signal.techniqueIds
        let risk := techniqueRisk threat touchesCritical signals
        Proposal.validated {
          action := entry.2.action, type := entry.2.type, priority := derivePriority risk true, risk := risk
          rationale := strip (entry.2.rationale ++ lit " " ++ entry.1.rationale), expectedImpact := entry.2.expectedImpact
          steps := entry.2.steps, verification := entry.2.verification, targets := targets
          support := { techniqueIds := [entry.1.techniqueId], signalRuleIds := signals.map (·.ruleId) }
          grounding := entry.2.grounding, citations := entry.2.citations ++ entry.1.citations })
      (threat.attackTechniques.filterMap fun mapping => (catalogue.forTechnique mapping.techniqueId).map fun template => (mapping,template))

/-! ### Hosts and products with in-range evidence -/

omit [Interpreter] in
theorem mem_present (names : List (Option Text)) (name : Text) : name ∈ present names ↔ some name ∈ names ∧ name ≠ [] := by
  simp only [present,List.mem_filterMap]
  constructor
  · rintro ⟨stored,member,kept⟩
    split_ifs at kept with real
    subst kept
    exact ⟨member,by simpa using real⟩
  · rintro ⟨member,nonempty⟩
    exact ⟨some name,member,by simp [nonempty]⟩

omit [Interpreter] in
theorem mem_evidenceHosts (assessment : CveAssessment) (host : Text) :
    host ∈ evidenceHosts assessment ↔ ∃ item ∈ assessment.evidence, NamesHost item host := by
  simp only [evidenceHosts,mem_present,List.mem_map,NamesHost]
  constructor
  · rintro ⟨⟨item,member,same⟩,nonempty⟩
    exact ⟨item,member,same,nonempty⟩
  · rintro ⟨item,member,same,nonempty⟩
    exact ⟨⟨item,member,same⟩,nonempty⟩

/-- Evidence that the host runs a version in range. -/
def HostInRange (assessment : CveAssessment) (host : Text) : Prop :=
  ∃ item ∈ assessment.evidence, InRange item ∧ NamesHost item host
/-- In-range evidence names the product. -/
def ProductInRange (assessment : CveAssessment) (product : Text) : Prop :=
  ∃ item ∈ assessment.evidence, InRange item ∧ item.product = some product ∧ product ≠ []

/-- The recommendation is aimed at what the in-range evidence names: its hosts, its
    critical assets, and a product that the guidance could have been built for. -/
structure WellAimed (source : AdvisorySource) (critical : List Text) (assessment : CveAssessment)
    (recommendation : RemediationRecommendation) : Prop where
  targets : ∀ host, host ∈ recommendation.targets ↔ HostInRange assessment host
  bonus : criticalAssetFactor ∈ recommendation.risk.factors ↔ ∃ host, HostInRange assessment host ∧ lower host ∈ critical
  product : ∃ product, ProductInRange assessment product ∧
    (argumentsFor source assessment (chosenProduct assessment)).1.product = (argumentsFor source assessment product).1.product

/-- The advisory lists the product the guidance is looked up for and another product
    under one package. -/
def SamePackage (source : AdvisorySource) (assessment : CveAssessment) (product other : Text) : Prop :=
  source.isAvailable = true ∧ (source.fetch assessment.cveId).ok = true ∧
    ∃ advisory rest fix fix', (source.fetch assessment.cveId).advisories = advisory :: rest ∧
      Picked advisory (some product) fix ∧ Picked advisory (some other) fix' ∧ fix.package = fix'.package

/-- The first product that the evidence names. -/
def FirstProduct (assessment : CveAssessment) (product : Text) : Prop :=
  Reaches (fun item => ¬ truthy item.product = true)
    (fun item : ApplicabilityEvidence => item.product = some product ∧ product ≠ []) assessment.evidence

/-- Every host the evidence names is in range, and so is the first product it names,
    or one that the advisory lists under the same package. -/
structure EvidenceAgrees (source : AdvisorySource) (assessment : CveAssessment) : Prop where
  hosts : ∀ item ∈ assessment.evidence, ∀ host, NamesHost item host → HostInRange assessment host
  product : ∃ first product, FirstProduct assessment first ∧ ProductInRange assessment product ∧
    (first = product ∨ SamePackage source assessment first product)

/-- The guidance never lacks a justification. -/
theorem patchRecommendation_returns (source : AdvisorySource) (critical : List Text) (assessment : CveAssessment) :
    ∃ recommendation, patchRecommendation source critical assessment = .ok recommendation ∧
      recommendation.targets = sortedSet (evidenceHosts assessment) ∧
      (criticalAssetFactor ∈ recommendation.risk.factors ↔
        ∃ host ∈ sortedSet (evidenceHosts assessment), lower host ∈ critical) := by
  have justified : strip (patchTemplate source assessment).1.rationale ≠ [] := by
    have spelled : ∀ (front back : Text), strip (front ++ lit " was confirmed applicable to assets in this investigation. " ++ back) ≠ [] := by
      intro front back
      refine strip_ne_nil (c := 119) ?_ (by decide)
      simp [lit]
    exact spelled _ _
  have sourced : (patchTemplate source assessment).1.citations ++ assessment.citations ≠ [] := by
    simp [citations_nonempty]
  unfold patchRecommendation build Proposal.validated
  simp only [justified,sourced,ne_eq,not_false_eq_true,dite_true]
  exact ⟨_,rfl,rfl,by rw [criticalAssetFactor_mem]; simp⟩

omit [Interpreter] in
/-- The guidance of a confirmed CVE is looked up for the first product its evidence names. -/
theorem chosenProduct_first {assessment : CveAssessment} (confirmed : assessment.applicability = .CONFIRMED) (first : Text) :
    chosenProduct assessment = some first ↔ FirstProduct assessment first := by
  obtain ⟨item,member,_,_,named,_⟩ := assessment.supported confirmed
  unfold chosenProduct FirstProduct
  generalize ((assessment.record.affected.map (·.product)).head?) = fallback
  generalize assessment.evidence = evidence at member
  induction evidence with
  | nil => cases member
  | cons head rest ih =>
    rw [reaches_cons]
    cases product : head.product with
    | none =>
      have later : item ∈ rest := by
        rcases List.mem_cons.mp member with rfl | later
        · simp [product] at named
        · exact later
      simpa [present,product] using ih later
    | some text =>
      by_cases blank : text = []
      · subst blank
        have later : item ∈ rest := by
          rcases List.mem_cons.mp member with rfl | later
          · simp [product] at named
          · exact later
        have skipped : ¬ ([] = first ∧ first ≠ []) := fun both => both.2 both.1.symm
        simpa [present,product,skipped] using ih later
      · have kept : truthy (some text) = true := by simp [blank]
        simp only [present,List.map_cons,product,List.filterMap_cons,kept,if_true,List.head?_cons,Option.some_or,Option.some.injEq,
          not_true,false_and,or_false]
        exact ⟨fun same => ⟨same,same ▸ blank⟩,fun both => both.1⟩

/-- When the guidance names the same product for two lookups. -/
theorem argumentsFor_product (source : AdvisorySource) (assessment : CveAssessment) (first product : Text) :
    (argumentsFor source assessment (some first)).1.product = (argumentsFor source assessment (some product)).1.product ↔
      first = product ∨ SamePackage source assessment first product := by
  have plain : ¬ SamePackage source assessment first product →
      (argumentsFor source assessment (some first)).1.product = some first →
      (argumentsFor source assessment (some product)).1.product = some product →
      ((argumentsFor source assessment (some first)).1.product = (argumentsFor source assessment (some product)).1.product ↔
        first = product ∨ SamePackage source assessment first product) := by
    intro different one two
    simp [one,two,different]
  by_cases available : source.isAvailable = true
  · by_cases found : (source.fetch assessment.cveId).ok = true
    · cases listed : (source.fetch assessment.cveId).advisories with
      | nil =>
        refine plain ?_ (by simp [argumentsFor,available,found,listed]) (by simp [argumentsFor,available,found,listed])
        rintro ⟨_,_,advisory,rest,_,_,same,_⟩
        rw [listed] at same
        cases same
      | cons advisory rest =>
        have chosen : ∀ text, (argumentsFor source assessment (some text)).1.product =
            some (((advisory.fixFor (some text)).map (·.package)).getD text) := by
          intro text
          cases picked : advisory.fixFor (some text) <;> simp [argumentsFor,available,found,listed,picked]
        have shared : SamePackage source assessment first product ↔ ∃ fix fix', advisory.fixFor (some first) = some fix ∧
            advisory.fixFor (some product) = some fix' ∧ fix.package = fix'.package := by
          simp only [fixFor_picked]
          constructor
          · rintro ⟨_,_,advisory',rest',fix,fix',same,one,two,package⟩
            rw [listed] at same
            cases same
            exact ⟨fix,fix',one,two,package⟩
          · rintro ⟨fix,fix',one,two,package⟩
            exact ⟨available,found,advisory,rest,fix,fix',listed,one,two,package⟩
        have together : advisory.fixFor (some first) = none ↔ advisory.fixFor (some product) = none := by
          have empty : ∀ text, advisory.fixFor (some text) = none ↔ advisory.candidates = [] := by
            intro text
            cases candidates : advisory.candidates with
            | nil => simp [Advisory.fixFor,candidates]
            | cons fix others =>
              simp only [Advisory.fixFor,candidates,reduceCtorEq,iff_false]
              cases text with
              | nil => simp
              | cons c rest => simp only; split_ifs <;> simp
          rw [empty,empty]
        rw [chosen,chosen,shared]
        cases one : advisory.fixFor (some first) with
        | none => simp [together.mp one]
        | some fix =>
          cases two : advisory.fixFor (some product) with
          | none => rw [together.mpr two] at one; cases one
          | some fix' =>
            simp only [Option.map_some,Option.getD_some,Option.some.injEq]
            constructor
            · exact fun same => .inr ⟨fix,fix',rfl,rfl,same⟩
            · rintro (rfl | ⟨_,_,rfl,rfl,same⟩)
              · rw [one,Option.some.injEq] at two
                rw [two]
              · exact same
    · refine plain ?_ (by simp [argumentsFor,available,found]) (by simp [argumentsFor,available,found])
      rintro ⟨_,yes,_⟩
      exact found yes
  · refine plain ?_ (by simp [argumentsFor,available]) (by simp [argumentsFor,available])
    rintro ⟨yes,_⟩
    exact available yes

omit [Interpreter] in
theorem chosenProduct_exists {assessment : CveAssessment} (confirmed : assessment.applicability = .CONFIRMED) :
    ∃ first, chosenProduct assessment = some first := by
  obtain ⟨item,member,_,_,named,_⟩ := assessment.supported confirmed
  cases stored : item.product with
  | none => simp [stored] at named
  | some product =>
    have listed : product ∈ present (assessment.evidence.map (·.product)) :=
      (mem_present _ _).mpr ⟨stored ▸ List.mem_map_of_mem member,by simpa [stored] using named⟩
    obtain ⟨head,rest,equal⟩ := List.exists_cons_of_ne_nil (List.ne_nil_of_mem listed)
    exact ⟨head,by simp [chosenProduct,equal]⟩

/-- A recommendation for a confirmed CVE is well aimed exactly when its evidence agrees. -/
theorem wellAimed_iff_agrees (source : AdvisorySource) (critical : List Text) {assessment : CveAssessment}
    (confirmed : assessment.applicability = .CONFIRMED) :
    (∀ recommendation, patchRecommendation source critical assessment = .ok recommendation →
      WellAimed source critical assessment recommendation) ↔ EvidenceAgrees source assessment := by
  obtain ⟨recommendation,made,hosts,bonus⟩ := patchRecommendation_returns source critical assessment
  obtain ⟨first,leading⟩ := chosenProduct_exists confirmed
  have reached := (chosenProduct_first confirmed first).mp leading
  constructor
  · intro aimed
    obtain ⟨targets,_,product,ranged,same⟩ := aimed recommendation made
    rw [leading,argumentsFor_product] at same
    refine ⟨?_,first,product,reached,ranged,same⟩
    intro item member host named
    exact (targets host).mp (by rw [hosts,mem_sortedSet,mem_evidenceHosts]; exact ⟨item,member,named⟩)
  · rintro ⟨covered,first',product,reached',ranged,same⟩ other made'
    rw [made,Except.ok.injEq] at made'
    subst made'
    have target : ∀ host, host ∈ sortedSet (evidenceHosts assessment) ↔ HostInRange assessment host := by
      intro host
      rw [mem_sortedSet,mem_evidenceHosts]
      constructor
      · rintro ⟨item,member,named⟩
        exact covered item member host named
      · rintro ⟨item,member,_,named⟩
        exact ⟨item,member,named⟩
    have unique := ((chosenProduct_first confirmed first').mpr reached').symm.trans leading
    rw [Option.some.injEq] at unique
    subst unique
    refine ⟨by rw [hosts]; exact target,?_,product,ranged,by rw [leading]; exact (argumentsFor_product _ _ _ _).mpr same⟩
    rw [bonus]
    exact exists_congr fun host => and_congr_left fun _ => target host

/-! ### The whole plan -/

/-- The dossier names a host, so that behavioral mitigations are addressed from it. -/
def GivesHosts (dossier : CveResearchResult) : Prop :=
  ∃ assessment ∈ dossier.cves, ∃ item ∈ assessment.evidence, ∃ host, NamesHost item host

omit [Interpreter] in
theorem mem_affectedHosts {dossier : CveResearchResult} (gives : GivesHosts dossier) (inventory : List Text) (host : Text) :
    host ∈ affectedHosts (some dossier) inventory ↔ ∃ assessment ∈ dossier.cves, ∃ item ∈ assessment.evidence, NamesHost item host := by
  have listed : ∀ name, name ∈ dossier.cves.flatMap evidenceHosts ↔
      ∃ assessment ∈ dossier.cves, ∃ item ∈ assessment.evidence, NamesHost item name := by
    intro name
    simp only [List.mem_flatMap,mem_evidenceHosts]
  obtain ⟨assessment,member,item,member',name,named⟩ := gives
  have nonempty := List.ne_nil_of_mem ((listed name).mpr ⟨assessment,member,item,member',named⟩)
  simp only [affectedHosts,Option.map_some,Option.getD_some,nonempty,if_false,mem_sortedSet,listed]

theorem fromTechniques_targets {catalogue : Catalogue} {dossier : Option CveResearchResult} {critical inventory : List Text}
    {threat : Option ThreatDetectionResult} {recommendations : List RemediationRecommendation}
    (run : fromTechniques catalogue dossier critical inventory threat = .ok recommendations)
    {recommendation : RemediationRecommendation} (member : recommendation ∈ recommendations) :
    recommendation.targets = affectedHosts dossier inventory := by
  cases threat with
  | none =>
    simp only [fromTechniques,Except.ok.injEq] at run
    rw [← run] at member
    cases member
  | some threat =>
    obtain ⟨entry,_,made⟩ := (mapRaising_mem run recommendation).mp member
    exact congrArg Proposal.targets (validated_ok made)

/-- The patch recommendations are well aimed, and the behavioral ones that take their
    hosts from the dossier name only hosts with in-range evidence. -/
structure PlanAimed (catalogue : Catalogue) (source : AdvisorySource) (critical inventory : List Text)
    (dossier : CveResearchResult) (threat : Option ThreatDetectionResult) : Prop where
  patches : ∀ assessment ∈ dossier.cves, ∀ recommendation,
    patchRecommendation source critical assessment = .ok recommendation → WellAimed source critical assessment recommendation
  behavioral : GivesHosts dossier → ∀ recommendations,
    fromTechniques catalogue (some dossier) critical inventory threat = .ok recommendations →
    ∀ recommendation ∈ recommendations, ∀ host ∈ recommendation.targets, ∃ assessment ∈ dossier.cves, HostInRange assessment host

/-- The plan for a dossier of confirmed CVEs is aimed at in-range hosts and products
    exactly when the evidence of each of them agrees. -/
theorem plan_aimed_iff_agrees (catalogue : Catalogue) (source : AdvisorySource) (critical inventory : List Text)
    {dossier : CveResearchResult} (confirmed : ∀ assessment ∈ dossier.cves, assessment.applicability = .CONFIRMED)
    (threat : Option ThreatDetectionResult) :
    PlanAimed catalogue source critical inventory dossier threat ↔
      ∀ assessment ∈ dossier.cves, EvidenceAgrees source assessment := by
  constructor
  · intro aimed assessment member
    exact (wellAimed_iff_agrees source critical (confirmed assessment member)).mp (aimed.patches assessment member)
  · intro agrees
    refine ⟨fun assessment member => (wellAimed_iff_agrees source critical (confirmed assessment member)).mpr (agrees assessment member),?_⟩
    intro gives recommendations run recommendation member host target
    rw [fromTechniques_targets run member,mem_affectedHosts gives] at target
    obtain ⟨assessment,listed,item,member',named⟩ := target
    exact ⟨assessment,listed,(agrees assessment listed).hosts item member' host named⟩

/-! ### The version to move to -/

/-- The entry's patched release, if it parses, is above every readable in-range
    version of a product that matches its package. -/
def Supersedes (fix : AdvisoryFix) (assessment : CveAssessment) : Prop :=
  ∀ w, Parses fix.fixedVersion w → ∀ item ∈ assessment.evidence, InRange item → ∀ product, item.product = some product →
    productsMatch product fix.package = true → ∀ v, Parses item.installedVersion v → v < w

/-- The plan never names a release that is not above a vulnerable one it replaces. -/
def MovesForward (source : AdvisorySource) (assessment : CveAssessment) : Prop :=
  ∀ package fixed w, (argumentsFor source assessment (chosenProduct assessment)).1.product = some package →
    (argumentsFor source assessment (chosenProduct assessment)).1.fixedVersion = some fixed → Parses (some fixed) w →
    ∀ item ∈ assessment.evidence, InRange item → ∀ product, item.product = some product →
      productsMatch product package = true → ∀ v, Parses item.installedVersion v → v < w

/-- The plan moves forward exactly when the first best-matching entry of the first
    advisory supersedes what it replaces. -/
theorem movesForward_iff_supersedes (source : AdvisorySource) {assessment : CveAssessment}
    (confirmed : assessment.applicability = .CONFIRMED) :
    MovesForward source assessment ↔ (source.isAvailable = true → (source.fetch assessment.cveId).ok = true →
      ∀ advisory rest, (source.fetch assessment.cveId).advisories = advisory :: rest →
      ∀ product, FirstProduct assessment product → ∀ fix, Picked advisory (some product) fix → Supersedes fix assessment) := by
  obtain ⟨first,leading⟩ := chosenProduct_exists confirmed
  constructor
  · intro forward available found advisory rest listed product reached fix picked w parses
    have lookup : chosenProduct assessment = some product := (chosenProduct_first confirmed product).mpr reached
    have chosen := (fixFor_picked advisory (some product) fix).mpr picked
    have given : (argumentsFor source assessment (chosenProduct assessment)).1.product = some fix.package ∧
        (argumentsFor source assessment (chosenProduct assessment)).1.fixedVersion = fix.fixedVersion := by
      simp [lookup,argumentsFor,available,found,listed,chosen]
    cases version : fix.fixedVersion with
    | none => rw [version] at parses; cases parses
    | some fixed =>
      rw [version] at parses
      exact forward fix.package fixed w given.1 (given.2.trans version) parses
  · intro supersedes package fixed w named moved parses
    by_cases available : source.isAvailable = true
    · by_cases found : (source.fetch assessment.cveId).ok = true
      · cases listed : (source.fetch assessment.cveId).advisories with
        | nil => simp [argumentsFor,available,found,listed] at moved
        | cons advisory rest =>
          cases chosen : advisory.fixFor (chosenProduct assessment) with
          | none => simp [argumentsFor,available,found,listed,chosen] at moved
          | some fix =>
            simp only [argumentsFor,available,found,listed,chosen,Bool.not_true,Bool.false_eq_true,if_false,Option.some.injEq] at named moved
            subst named
            rw [leading] at chosen
            have picked := (fixFor_picked advisory (some first) fix).mp chosen
            exact supersedes available found advisory rest listed first ((chosenProduct_first confirmed first).mp leading) fix picked w
              (moved ▸ parses)
      · simp [argumentsFor,available,found] at moved
    · simp [argumentsFor,available] at moved

end

/-! ### Two plans that go wrong -/

/-- The default: no advisory feed configured. -/
def unavailableSource : AdvisorySource where
  isAvailable := false
  fetch cveId := { failure := some ⟨cveId,lit "not_configured",lit "no advisory source is configured"⟩ }

/-- A dossier with the mixed estate's assessment. -/
def mixedDossier : CveResearchResult := ⟨[mixedAssessment],[]⟩

private theorem mixed_host : ¬ HostInRange mixedAssessment (lit "web-02") := by
  rintro ⟨item,member,inRange,named,_⟩
  simp only [mixedAssessment,mixedEvidence,List.mem_cons,List.mem_nil_iff,or_false] at member
  rcases member with rfl | rfl
  · exact absurd named (by decide)
  · exact absurd inRange (by decide)

/-- The plan sends a host that was ruled out to be patched, and scores it as critical. -/
theorem mixed_dossier_misaimed :
    let _ := ascii
    AssessedOn mixedEstate mixedAssessment ∧
    (∃ recommendation, patchRecommendation unavailableSource [lit "web-02"] mixedAssessment = .ok recommendation ∧
      lit "web-02" ∈ recommendation.targets ∧ criticalAssetFactor ∈ recommendation.risk.factors ∧
      ¬ WellAimed unavailableSource [lit "web-02"] mixedAssessment recommendation) ∧
    ∀ catalogue inventory threat, ¬ PlanAimed catalogue unavailableSource [lit "web-02"] inventory mixedDossier threat := by
  let _ := ascii
  obtain ⟨recommendation,made,hosts,bonus⟩ := patchRecommendation_returns unavailableSource [lit "web-02"] mixedAssessment
  have target : lit "web-02" ∈ sortedSet (evidenceHosts mixedAssessment) := by
    rw [mem_sortedSet]
    decide
  have misaimed : ¬ WellAimed unavailableSource [lit "web-02"] mixedAssessment recommendation := by
    intro aimed
    exact mixed_host ((aimed.targets _).mp (hosts ▸ target))
  refine ⟨mixed_assessed,⟨recommendation,made,hosts ▸ target,bonus.mpr ⟨_,target,by decide⟩,misaimed⟩,?_⟩
  intro catalogue inventory threat aimed
  exact misaimed (aimed.patches mixedAssessment (List.mem_singleton_self _) recommendation made)

private theorem exposed_agrees [Interpreter] (source : AdvisorySource) : EvidenceAgrees source exposedAssessment := by
  have only : exposedAssessment.evidence = [mixedEvidence.head (by simp [mixedEvidence])] := rfl
  have inRange : InRange (mixedEvidence.head (by simp [mixedEvidence])) := rfl
  constructor
  · intro item member host named
    rw [only,List.mem_singleton] at member
    exact ⟨item,by rw [only,member]; exact List.mem_singleton_self _,member ▸ inRange,named⟩
  · refine ⟨lit "log4j",lit "log4j",⟨[],_,[],only,⟨rfl,by decide⟩,by simp⟩,?_,.inl rfl⟩
    exact ⟨_,only ▸ List.mem_singleton_self _,inRange,rfl,by decide⟩

/-- A dossier whose evidence names the exposed host alone gives an aimed plan. -/
theorem exposed_dossier_aimed :
    let _ := ascii
    ∀ catalogue inventory threat,
      PlanAimed catalogue unavailableSource [lit "web-02"] inventory ⟨[exposedAssessment],[]⟩ threat := by
  intro _ catalogue inventory threat
  refine (plan_aimed_iff_agrees catalogue unavailableSource [lit "web-02"] inventory ?_ threat).mpr ?_
  · intro assessment member
    rw [List.mem_singleton] at member
    exact member ▸ rfl
  · intro assessment member
    rw [List.mem_singleton] at member
    exact member ▸ exposed_agrees unavailableSource

/-- An advisory with one patched release for each branch of one package. -/
def branchedAdvisory : Advisory where
  advisoryId := lit "GHSA-jfh8-c2jp-5v3q"
  cveId := some (lit "CVE-2021-44228")
  fixes := [{ package := lit "log4j", vulnerableRange := some (lit ">= 2.0, < 2.3.1"), fixedVersion := some (lit "2.3.1") },
    { package := lit "log4j", vulnerableRange := some (lit ">= 2.4, < 2.15.0"), fixedVersion := some (lit "2.15.0") }]

/-- A source that publishes these advisories. -/
def publishing (advisories : List Advisory) : AdvisorySource where
  isAvailable := true
  fetch _ := { advisories := advisories }

/-- The host runs 2.14.1 and is told to move to 2.3.1. -/
theorem branched_advisory_moves_back :
    let _ := ascii
    AssessedOn (mixedEstate.take 1) exposedAssessment ∧ ¬ MovesForward (publishing [branchedAdvisory]) exposedAssessment := by
  let _ := ascii
  refine ⟨rfl,?_⟩
  intro forward
  have down := forward (lit "log4j") (lit "2.3.1") ⟨toLex ([2,3,1],toLex (1,[])),lit "2.3.1"⟩ rfl rfl rfl _
    (List.mem_singleton_self _) rfl (lit "log4j") rfl (by decide) ⟨toLex ([2,14,1],toLex (1,[])),lit "2.14.1"⟩ rfl
  revert down
  decide

/-- With the entry for its own branch alone the host is told to move forward. -/
theorem own_branch_moves_forward :
    let _ := ascii
    MovesForward (publishing [{ branchedAdvisory with fixes := branchedAdvisory.fixes.drop 1 }]) exposedAssessment := by
  let _ := ascii
  refine (movesForward_iff_supersedes (publishing [{ branchedAdvisory with fixes := branchedAdvisory.fixes.drop 1 }])
    (show exposedAssessment.applicability = .CONFIRMED from rfl)).mpr ?_
  intro _ _ advisory rest listed product _ fix picked w parses item member _ _ _ _ v parses'
  cases listed
  obtain ⟨earlier,later,split,_⟩ := picked
  have single : fix = ⟨lit "log4j",none,some (lit ">= 2.4, < 2.15.0"),some (lit "2.15.0")⟩ := by
    have members : fix ∈ earlier ++ fix :: later := by simp
    rw [← split] at members
    exact List.mem_singleton.mp members
  subst single
  rw [parses_unique parses (show Parses _ ⟨toLex ([2,15,0],toLex (1,[])),lit "2.15.0"⟩ from rfl)]
  have only : item = mixedEvidence.head (by simp [mixedEvidence]) := List.mem_singleton.mp member
  subst only
  rw [parses_unique parses' (show Parses _ ⟨toLex ([2,14,1],toLex (1,[])),lit "2.14.1"⟩ from rfl)]
  decide

end SocAnalyst.Recommender
