import SocAnalyst.BoundedRanking
import SocAnalyst.GraphState
import SocAnalyst.Guidance
import SocAnalyst.Notifications

/-!
# Remediation plans

`PatchRecommender.recommend` of `agents/patch_recommender/recommender.py`: the findings'
recommendations are merged by action, ordered by urgency and cut to a bound.
-/
namespace SocAnalyst.RemediationPlans
open SocAnalyst.Builtins SocAnalyst.Dicts SocAnalyst.Values SocAnalyst.Assessments SocAnalyst.Remediation SocAnalyst.Risk
open SocAnalyst.Recommender SocAnalyst.Guidance SocAnalyst.BoundedRanking
open SocAnalyst.Graph (Mapping get)
open SocAnalyst.Notifications (priorityRank)

/-! ### Contracts -/

/-- An upstream assessment, with its own confidence. -/
structure ThreatAssessment extends ThreatDetectionResult where
  confidence : ℚ

/-- A dossier, with its own confidence. -/
structure Dossier extends CveResearchResult where
  confidence : ℚ

structure RemediationPlanRequest where
  investigationId : Text
  threatAssessment : Option Mapping
  vulnerabilityDossier : Option Mapping
  assets : List Mapping
  criticalAssets : List Text

structure RemediationPlan where
  investigationId : Text
  recommendations : List RemediationRecommendation
  overallRisk : RiskScore
  knowledgeLimited : Bool
  notes : List Text
  confidence : ℚ

structure AgentOutcome where
  plan : RemediationPlan
  toolCalls : List (Text × Nat)
  degradations : List AgentDegradation

/-- The agent, with the validation of the two upstream sections. -/
structure PatchRecommender where
  advisories : AdvisorySource
  maxRecommendations : Int := 20
  readThreat : Mapping → Option ThreatAssessment
  readDossier : Mapping → Option Dossier

/-! ### Merging -/

/-- `sorted({*left, *right})`. -/
def union (left right : List Text) : List Text := sortedSet (left ++ right)

/-- Keep every source behind a merged recommendation, deduplicated. -/
def mergeCitations (left right : List Citation) : List Citation := uniqueCitations [] (left ++ right)

theorem mergeCitations_ne_nil {left : List Citation} (sourced : left ≠ []) (right : List Citation) : mergeCitations left right ≠ [] := by
  cases left with
  | nil => exact absurd rfl sourced
  | cons citation rest => simp [mergeCitations,uniqueCitations]

/-- One recommendation that answers both findings. -/
def merge (existing item : RemediationRecommendation) : RemediationRecommendation where
  toProposal := { existing.toProposal with
    support := {
      cveIds := union existing.support.cveIds item.support.cveIds
      techniqueIds := union existing.support.techniqueIds item.support.techniqueIds
      signalRuleIds := union existing.support.signalRuleIds item.support.signalRuleIds
      cweIds := union existing.support.cweIds item.support.cweIds }
    targets := union existing.targets item.targets
    risk := if item.risk.score ≤ existing.risk.score then existing.risk else item.risk
    citations := mergeCitations existing.citations item.citations }
  justified := existing.justified
  sourced := mergeCitations_ne_nil existing.sourced item.citations

/-- One recommendation is taken into the merged ones. -/
def mergeInto (merged : Dict Text RemediationRecommendation) (item : RemediationRecommendation) : Dict Text RemediationRecommendation :=
  match merged.get? item.action with
  | none => merged.set item.action item
  | some existing => merged.set item.action (merge existing item)

/-- One recommendation per distinct action, with the support behind it. -/
def deduplicate (recommendations : List RemediationRecommendation) : List RemediationRecommendation :=
  (recommendations.foldl mergeInto .empty).values

/-! ### Ordering -/

/-- The agent's own order of urgency. -/
def urgency : TriagePriority → Nat
  | .URGENT => 0
  | .HIGH => 1
  | .MEDIUM => 2
  | .LOW => 3

/-- Most urgent first, then by risk, then by action. -/
def byPriority (item : RemediationRecommendation) : Nat ×ₗ ℚ ×ₗ Text :=
  toLex (urgency item.priority,toLex (-item.risk.score,item.action))

/-- The part of a list that a bound leaves. -/
def bounded {α : Type} (maximum : Int) (items : List α) : List α := if maximum < items.length then upTo items maximum else items

def groundingWeight : RemediationConfidence → ℚ
  | .VENDOR_SPECIFIC => 1
  | .CLASS_SPECIFIC => 85/100
  | .GENERIC => 6/10

/-- Inherited from the section each recommendation actually rests on. -/
def confidenceOf (recommendations : List RemediationRecommendation) (threat : Option ThreatAssessment) (dossier : Option Dossier) : ℚ :=
  if recommendations = [] then 0
  else
    let upstream := fun item : RemediationRecommendation =>
      if item.support.cveIds ≠ [] ∧ dossier.isSome then (dossier.map (·.confidence)).getD (1/2)
      else (threat.map (·.confidence)).getD (1/2)
    let scored := recommendations.foldl (fun total item => total + upstream item * groundingWeight item.grounding) 0
    roundTo 4 (min 1 (max 0 (scored / recommendations.length)))

/-! ### The plan -/

def resolvedNote : Text :=
  lit ("No specific remediation target was identified, so the plan gives " ++ "conservative hardening for the affected assets.")

def nothingNote : Text :=
  lit ("The investigation surfaced no confirmed vulnerability and no adversary " ++
    "technique with catalogued remediation, so there is nothing to remediate.")

def heldBackNote (total : Nat) (maximum : Int) : Text :=
  lit (toString (total - maximum)) ++ lit (" lower-priority recommendation(s) " ++
    "were held back to keep the plan actionable; re-run to see the full list.")

/-- What the dossier costs in lookups. -/
def lookups (dossier : Option Dossier) : Nat := ((dossier.map (·.cves)).getD []).length

/-- Order the merged recommendations, bound them and roll their risk up. -/
def PatchRecommender.assemble (recommender : PatchRecommender) (request : RemediationPlanRequest)
    (threat : Option ThreatAssessment) (dossier : Option Dossier) (merged : List RemediationRecommendation)
    (degradations : List AgentDegradation) (notes : List Text) : AgentOutcome :=
  let ordered := sortedBy byPriority merged
  let kept := bounded recommender.maxRecommendations ordered
  let limited := kept ≠ [] ∧ ∀ item ∈ kept, item.grounding = .GENERIC
  { plan := {
      investigationId := request.investigationId
      recommendations := kept
      overallRisk := combineRisk (kept.map (·.risk)) (lit "investigation " ++ request.investigationId)
      knowledgeLimited := limited
      notes := notes ++ (if merged = [] then [nothingNote] else []) ++
        (if recommender.maxRecommendations < ordered.length then [heldBackNote ordered.length recommender.maxRecommendations] else [])
      confidence := confidenceOf kept threat dossier }
    toolCalls := [(lit "lookup_advisory",lookups dossier),(lit "remediation_guidance",kept.length),(lit "score_risk",kept.length)]
    degradations := degradations ++ (if limited then [⟨lit "thin_remediation_knowledge",
      lit ("no product- or class-specific guidance was available; the plan is " ++ "conservative general hardening")⟩] else []) }

/-- An investigation with nothing to remediate says so. -/
def emptyPlan (request : RemediationPlanRequest) : AgentOutcome where
  plan := {
    investigationId := request.investigationId, recommendations := []
    overallRisk := combineRisk [] (lit "investigation " ++ request.investigationId), knowledgeLimited := false
    notes := [lit "no upstream findings to remediate"], confidence := 0 }
  toolCalls := []
  degradations := []

/-- Validate an upstream section, or `none` if it is absent or unreadable. -/
def readSection {α : Type} (read : Mapping → Option α) (payload : Option Mapping) : Option α :=
  if payload.getD [] = [] then none else payload.bind read

section
variable [Printer]

/-- Hostnames from the seeded asset inventory. -/
def inventoryHosts (assets : List Mapping) : List Text :=
  sortedSet (((assets.map (get · (lit "hostname"))).filter Value.truthy).map Value.toText)

/-- Conservative hardening, labelled as such. -/
def generic (threat : ThreatDetectionResult) (critical inventory : List Text) : Except PyError RemediationRecommendation :=
  let targets := affectedHosts none inventory
  let risk := techniqueRisk threat (targets.any fun host => lower host ∈ critical) []
  let template := genericGuidance
  Proposal.validated {
    action := template.action, type := template.type, priority := derivePriority risk false, risk := risk
    rationale := strip (template.rationale ++ lit " " ++ threat.severityRationale), expectedImpact := template.expectedImpact
    steps := template.steps, verification := template.verification, targets := targets
    support := { signalRuleIds := if threat.signals = [] then [lit "verdict_only"] else threat.signals.map (·.ruleId) }
    grounding := template.grounding, citations := template.citations }

/-- The assessment that calls for hardening: not benign, with nothing specific to fix. -/
def hardened (threat : Option ThreatAssessment) (merged : List RemediationRecommendation) : Option ThreatAssessment :=
  if merged.isEmpty then threat.filter fun threat => threat.verdict ≠ .BENIGN else none

/-- Build the plan, stating what it could not ground. -/
def PatchRecommender.recommend (recommender : PatchRecommender) (request : RemediationPlanRequest) : Except PyError AgentOutcome :=
  let threat := readSection recommender.readThreat request.threatAssessment
  let dossier := readSection recommender.readDossier request.vulnerabilityDossier
  if threat.isNone ∧ dossier.isNone then .ok (emptyPlan request)
  else do
    let critical := request.criticalAssets.map lower
    let inventory := inventoryHosts request.assets
    let (patches,degradations) ← fromCves pinned recommender.advisories critical (dossier.map (·.toCveResearchResult))
    let mitigations ← fromTechniques pinned (dossier.map (·.toCveResearchResult)) critical inventory
      (threat.map (·.toThreatDetectionResult))
    let merged := deduplicate (patches ++ mitigations)
    match hardened threat merged with
    | some threat => do
      let hardening ← generic threat.toThreatDetectionResult critical inventory
      return recommender.assemble request (some threat) dossier [hardening] degradations [resolvedNote]
    | none => return recommender.assemble request threat dossier merged degradations []

/-! ### What the findings call for -/

/-- Every recommendation that the findings call for, before they are merged. -/
def PatchRecommender.calledFor (recommender : PatchRecommender) (request : RemediationPlanRequest) :
    Except PyError (List RemediationRecommendation) :=
  let threat := readSection recommender.readThreat request.threatAssessment
  let dossier := readSection recommender.readDossier request.vulnerabilityDossier
  if threat.isNone ∧ dossier.isNone then .ok []
  else do
    let critical := request.criticalAssets.map lower
    let inventory := inventoryHosts request.assets
    let (patches,_) ← fromCves pinned recommender.advisories critical (dossier.map (·.toCveResearchResult))
    let mitigations ← fromTechniques pinned (dossier.map (·.toCveResearchResult)) critical inventory
      (threat.map (·.toThreatDetectionResult))
    match hardened threat (patches ++ mitigations) with
    | some threat => return [← generic threat.toThreatDetectionResult critical inventory]
    | none => return patches ++ mitigations

/-! ### Merging keeps everything -/

omit [Printer]

/-- The values are those of the findings that call for the action. -/
def Gathered {β : Type} (called : List RemediationRecommendation) (action : Text) (field : RemediationRecommendation → List β)
    (values : List β) : Prop :=
  ∀ x, x ∈ values ↔ ∃ item ∈ called, item.action = action ∧ x ∈ field item

/-- The recommendation answers every finding that calls for its action. Its priority is
    that of one of them. -/
structure Answers (called : List RemediationRecommendation) (kept : RemediationRecommendation) : Prop where
  cveIds : Gathered called kept.action (·.support.cveIds) kept.support.cveIds
  techniqueIds : Gathered called kept.action (·.support.techniqueIds) kept.support.techniqueIds
  signalRuleIds : Gathered called kept.action (·.support.signalRuleIds) kept.support.signalRuleIds
  cweIds : Gathered called kept.action (·.support.cweIds) kept.support.cweIds
  targets : Gathered called kept.action (·.targets) kept.targets
  citations : Gathered called kept.action (·.citations.map citationKey) (kept.citations.map citationKey)
  worst : ∃ item ∈ called, item.action = kept.action ∧ item.risk = kept.risk
  risk : ∀ item ∈ called, item.action = kept.action → item.risk.score ≤ kept.risk.score
  lead : ∃ item ∈ called, item.action = kept.action ∧ item.priority = kept.priority

section
variable {called : List RemediationRecommendation} {kept item : RemediationRecommendation}

theorem Gathered.other {β : Type} {field : RemediationRecommendation → List β} {action : Text} {values : List β}
    (gathered : Gathered called action field values) (differs : item.action ≠ action) : Gathered (called ++ [item]) action field values := by
  intro x
  rw [gathered x]
  simp only [List.mem_append,List.mem_singleton]
  constructor
  · rintro ⟨found,member,same,listed⟩
    exact ⟨found,.inl member,same,listed⟩
  · rintro ⟨found,member | rfl,same,listed⟩
    · exact ⟨found,member,same,listed⟩
    · exact absurd same differs

theorem Gathered.same {β : Type} {field : RemediationRecommendation → List β} {action : Text} {values more : List β}
    (gathered : Gathered called action field values) (same : item.action = action)
    (joined : ∀ x, x ∈ more ↔ x ∈ values ∨ x ∈ field item) : Gathered (called ++ [item]) action field more := by
  intro x
  rw [joined x,gathered x]
  simp only [List.mem_append,List.mem_singleton]
  constructor
  · rintro (⟨found,member,equal,listed⟩ | listed)
    · exact ⟨found,.inl member,equal,listed⟩
    · exact ⟨item,.inr rfl,same,listed⟩
  · rintro ⟨found,member | rfl,equal,listed⟩
    · exact .inl ⟨found,member,equal,listed⟩
    · exact .inr listed

theorem Gathered.first {β : Type} {field : RemediationRecommendation → List β}
    (fresh : ∀ other ∈ called, other.action ≠ item.action) : Gathered (called ++ [item]) item.action field (field item) := by
  intro x
  simp only [List.mem_append,List.mem_singleton]
  constructor
  · exact fun listed => ⟨item,.inr rfl,rfl,listed⟩
  · rintro ⟨found,member | rfl,same,listed⟩
    · exact absurd same (fresh found member)
    · exact listed

theorem Answers.other (answers : Answers called kept) (differs : item.action ≠ kept.action) : Answers (called ++ [item]) kept where
  cveIds := answers.cveIds.other differs
  techniqueIds := answers.techniqueIds.other differs
  signalRuleIds := answers.signalRuleIds.other differs
  cweIds := answers.cweIds.other differs
  targets := answers.targets.other differs
  citations := answers.citations.other differs
  worst := by
    obtain ⟨found,member,holds⟩ := answers.worst
    exact ⟨found,List.mem_append_left _ member,holds⟩
  risk found member same := by
    rcases List.mem_append.mp member with earlier | last
    · exact answers.risk found earlier same
    · exact absurd (List.mem_singleton.mp last ▸ same) differs
  lead := by
    obtain ⟨found,member,holds⟩ := answers.lead
    exact ⟨found,List.mem_append_left _ member,holds⟩

theorem Answers.first (fresh : ∀ other ∈ called, other.action ≠ item.action) : Answers (called ++ [item]) item where
  cveIds := .first fresh
  techniqueIds := .first fresh
  signalRuleIds := .first fresh
  cweIds := .first fresh
  targets := .first fresh
  citations := (Gathered.first fresh : Gathered (called ++ [item]) item.action (fun found => found.citations.map citationKey) _)
  worst := ⟨item,by simp,rfl,rfl⟩
  risk found member same := by
    rcases List.mem_append.mp member with earlier | last
    · exact absurd same (fresh found earlier)
    · exact (List.mem_singleton.mp last) ▸ le_rfl
  lead := ⟨item,by simp,rfl,rfl⟩

theorem mem_union (left right : List Text) (x : Text) : x ∈ union left right ↔ x ∈ left ∨ x ∈ right := by
  rw [union,mem_sortedSet,List.mem_append]

theorem keys_mergeCitations (left right : List Citation) (key : Text) :
    key ∈ (mergeCitations left right).map citationKey ↔ key ∈ left.map citationKey ∨ key ∈ right.map citationKey := by
  simp [mergeCitations,keys_uniqueCitations]

theorem merge_score (existing item : RemediationRecommendation) :
    (merge existing item).risk.score = max existing.risk.score item.risk.score := by
  simp only [merge]
  split_ifs with below
  · exact (max_eq_left below).symm
  · exact (max_eq_right (not_le.mp below).le).symm

theorem Answers.merged (answers : Answers called kept) (same : item.action = kept.action) :
    Answers (called ++ [item]) (merge kept item) where
  cveIds := answers.cveIds.same same (mem_union _ _)
  techniqueIds := answers.techniqueIds.same same (mem_union _ _)
  signalRuleIds := answers.signalRuleIds.same same (mem_union _ _)
  cweIds := answers.cweIds.same same (mem_union _ _)
  targets := answers.targets.same same (mem_union _ _)
  citations := answers.citations.same same (keys_mergeCitations _ _)
  worst := by
    obtain ⟨found,member,action,risk⟩ := answers.worst
    by_cases below : item.risk.score ≤ kept.risk.score
    · exact ⟨found,List.mem_append_left _ member,action,by rw [risk]; simp [merge,below]⟩
    · exact ⟨item,by simp,same,by simp [merge,below]⟩
  risk found member action := by
    rw [merge_score]
    rcases List.mem_append.mp member with earlier | last
    · exact (answers.risk found earlier action).trans (le_max_left _ _)
    · exact List.mem_singleton.mp last ▸ le_max_right _ _
  lead := by
    obtain ⟨found,member,holds⟩ := answers.lead
    exact ⟨found,List.mem_append_left _ member,holds⟩

/-- What the merged recommendations say about the findings taken in so far. -/
structure Merging (called : List RemediationRecommendation) (merged : Dict Text RemediationRecommendation) : Prop where
  missing : ∀ action, merged.get? action = none → ∀ item ∈ called, item.action ≠ action
  action : ∀ action kept, merged.get? action = some kept → kept.action = action
  answers : ∀ action kept, merged.get? action = some kept → Answers called kept

theorem Merging.step {merged : Dict Text RemediationRecommendation} (merging : Merging called merged) (item : RemediationRecommendation) :
    Merging (called ++ [item]) (mergeInto merged item) := by
  obtain ⟨stored,entered,named,answers⟩ : ∃ stored, mergeInto merged item = merged.set item.action stored ∧
      stored.action = item.action ∧ Answers (called ++ [item]) stored := by
    unfold mergeInto
    cases existing : merged.get? item.action with
    | none => exact ⟨item,rfl,rfl,.first (merging.missing item.action existing)⟩
    | some kept =>
      have same := merging.action item.action kept existing
      exact ⟨merge kept item,rfl,same,(merging.answers item.action kept existing).merged same.symm⟩
  rw [entered]
  constructor
  · intro action absent other member
    rw [Dict.get?_set] at absent
    split_ifs at absent with same
    rcases List.mem_append.mp member with earlier | last
    · exact merging.missing action absent other earlier
    · exact List.mem_singleton.mp last ▸ Ne.symm same
  · intro action kept found
    rw [Dict.get?_set] at found
    split_ifs at found with same
    · cases found
      exact named.trans same.symm
    · exact merging.action action kept found
  · intro action kept found
    rw [Dict.get?_set] at found
    split_ifs at found with same
    · cases found
      exact answers
    · apply (merging.answers action kept found).other
      rw [merging.action action kept found]
      exact Ne.symm same

theorem merging_run (called : List RemediationRecommendation) : Merging called (called.foldl mergeInto .empty) := by
  induction called using List.reverseRecOn with
  | nil => exact ⟨fun _ _ _ member => (List.not_mem_nil member).elim,fun _ _ found => (nomatch found),fun _ _ found => (nomatch found)⟩
  | append_singleton called item ih =>
    rw [List.foldl_append]
    exact ih.step item

theorem deduplicate_answers (listed : kept ∈ deduplicate called) : Answers called kept := by
  obtain ⟨action,found⟩ := (Dict.mem_values _ kept).mp listed
  exact (merging_run called).answers action kept found

/-- Every action called for is merged into one recommendation. -/
theorem deduplicate_covers (member : item ∈ called) : ∃ kept ∈ deduplicate called, kept.action = item.action := by
  cases found : (called.foldl mergeInto .empty).get? item.action with
  | none => exact absurd rfl ((merging_run called).missing item.action found item member)
  | some kept => exact ⟨kept,(Dict.mem_values _ kept).mpr ⟨item.action,found⟩,(merging_run called).action item.action kept found⟩

theorem deduplicate_once (called : List RemediationRecommendation) : ((deduplicate called).map (·.action)).Nodup := by
  have keys : (deduplicate called).map (·.action) = (called.foldl mergeInto .empty).keys := by
    rw [deduplicate,Dict.values,Dict.keys,List.map_map]
    apply List.map_congr_left
    intro entry member
    exact (merging_run called).action entry.1 entry.2 ((Dict.get?_eq_some _ _ _).mpr member)
  rw [keys]
  exact (called.foldl mergeInto .empty).distinct

end

/-! ### Ordering and cutting -/

/-- How many of so many recommendations a bound leaves. -/
def cut (maximum : Int) (total : Nat) : Nat :=
  if maximum < total then (if maximum < 0 then (total + maximum).toNat else maximum.toNat) else total

theorem bounded_eq {α : Type} (maximum : Int) (items : List α) : bounded maximum items = items.take (cut maximum items.length) := by
  unfold bounded cut
  split_ifs
  · rw [upTo,if_pos (by assumption)]
  · rw [upTo,if_neg (by assumption)]
  · rw [List.take_length]

/-- The merged recommendations, most urgent first. -/
def ordered (called : List RemediationRecommendation) : List RemediationRecommendation := sortedBy byPriority (deduplicate called)

theorem ordered_strict (called : List RemediationRecommendation) :
    (ordered called).Pairwise fun x y => byPriority x < byPriority y := by
  apply strict_sortedBy
  have once := deduplicate_once called
  rw [List.Nodup,List.pairwise_map] at once ⊢
  exact once.imp fun apart same => apart (congrArg (fun key => (ofLex (ofLex key).2).2) same)

theorem ordered_perm (called : List RemediationRecommendation) : (ordered called).Perm (deduplicate called) :=
  List.perm_insertionSort _ _

end

/-! ### Where a recommendation comes from -/

section
variable [Printer]

omit [Printer] in
theorem mem_literal (front : List Char) (c : Char) (rest : List Char) : c.toNat ∈ lit (String.ofList (front ++ c :: rest)) := by
  simp [lit]

theorem check_returns (critical : List Text) (assessment : CveAssessment) :
    ∃ item, build (verificationTemplate pinned assessment) assessment critical false = .ok item := by
  have shown : 'c'.toNat ∈ lit " could not be confirmed against the asset inventory. " := mem_literal [' '] 'c' _
  apply validated_returns
  · exact strip_ne_nil (List.mem_append_left _ (List.mem_append_left _ (List.mem_append_right _ shown))) (by decide)
  · simp [citations_nonempty]

theorem fromCves_returns (source : AdvisorySource) (critical : List Text) (dossier : Option CveResearchResult) :
    ∃ found, fromCves pinned source critical dossier = .ok found := by
  cases dossier with
  | none => exact ⟨_,rfl⟩
  | some dossier =>
    obtain ⟨patches,patched⟩ := mapRaising_returns.mpr fun assessment (_ : assessment ∈ dossier.cves) =>
      (patchRecommendation_returns source critical assessment).imp fun _ made => made.1
    obtain ⟨checks,checked⟩ := mapRaising_returns.mpr fun assessment (_ : assessment ∈ dossier.candidates) =>
      check_returns critical assessment
    simp only [fromCves,patched,checked]
    exact ⟨_,rfl⟩

theorem fromTechniques_returns (dossier : Option CveResearchResult) (critical inventory : List Text)
    (threat : Option ThreatDetectionResult) : ∃ found, fromTechniques pinned dossier critical inventory threat = .ok found := by
  cases threat with
  | none => exact ⟨_,rfl⟩
  | some threat =>
    apply mapRaising_returns.mpr
    rintro ⟨mapping,template⟩ listed
    obtain ⟨_,_,known⟩ := List.mem_filterMap.mp listed
    obtain ⟨template',catalogued,same⟩ := Option.map_eq_some_iff.mp known
    cases same
    apply validated_returns
    · obtain ⟨c,member,solid⟩ := template_justified (forTechnique_mem catalogued)
      have kept : c ∈ template.rationale ++ lit " " ++ mapping.rationale := List.mem_append_left _ (List.mem_append_left _ member)
      exact strip_ne_nil (mem_strip kept solid) solid
    · simp [citations_nonempty]

theorem generic_returns (threat : ThreatDetectionResult) (critical inventory : List Text) :
    ∃ item, generic threat critical inventory = .ok item := by
  obtain ⟨c,member,solid⟩ := template_justified genericGuidance_mem
  unfold generic
  generalize genericGuidance = template at member ⊢
  apply validated_returns
  · have kept : c ∈ template.rationale ++ lit " " ++ threat.severityRationale := List.mem_append_left _ (List.mem_append_left _ member)
    exact strip_ne_nil (mem_strip kept solid) solid
  · exact citations_nonempty template

theorem generic_scored {threat : ThreatDetectionResult} {critical inventory : List Text} {item : RemediationRecommendation}
    (made : generic threat critical inventory = .ok item) : ∃ inputs, item.risk = scoreRisk inputs := by
  unfold generic at made
  exact ⟨_,congrArg Proposal.risk (validated_ok made)⟩

/-- What a run of the agent finds, before it merges, and the outcome it makes of it. -/
inductive Called (recommender : PatchRecommender) (request : RemediationPlanRequest) : List RemediationRecommendation → AgentOutcome → Prop where
  | nothing : Called recommender request [] (emptyPlan request)
  | found {patches mitigations : List RemediationRecommendation} {degradations : List AgentDegradation} (notes : List Text)
      (patched : fromCves pinned recommender.advisories (request.criticalAssets.map lower)
        ((readSection recommender.readDossier request.vulnerabilityDossier).map (·.toCveResearchResult)) = .ok (patches,degradations))
      (mitigated : fromTechniques pinned
        ((readSection recommender.readDossier request.vulnerabilityDossier).map (·.toCveResearchResult)) (request.criticalAssets.map lower)
        (inventoryHosts request.assets)
        ((readSection recommender.readThreat request.threatAssessment).map (·.toThreatDetectionResult)) = .ok mitigations) :
      Called recommender request (patches ++ mitigations) (recommender.assemble request
        (readSection recommender.readThreat request.threatAssessment) (readSection recommender.readDossier request.vulnerabilityDossier)
        (deduplicate (patches ++ mitigations)) degradations notes)
  | hardening {threat : ThreatAssessment} {item : RemediationRecommendation} (degradations : List AgentDegradation) (notes : List Text)
      (made : generic threat.toThreatDetectionResult (request.criticalAssets.map lower) (inventoryHosts request.assets) = .ok item) :
      Called recommender request [item] (recommender.assemble request (some threat)
        (readSection recommender.readDossier request.vulnerabilityDossier) [item] degradations notes)

omit [Printer] in
/-- Merging does not decide whether general hardening is called for. -/
theorem hardened_deduplicate (threat : Option ThreatAssessment) (called : List RemediationRecommendation) :
    hardened threat (deduplicate called) = hardened threat called := by
  rcases List.eq_nil_or_concat called with none | ⟨_,item,some⟩
  · rw [none]; rfl
  · have found : item ∈ called := by rw [some]; simp
    obtain ⟨kept,listed,_⟩ := deduplicate_covers found
    have filled : (deduplicate called).isEmpty = false := by simpa using List.ne_nil_of_mem listed
    have filled' : called.isEmpty = false := by simpa using List.ne_nil_of_mem found
    simp only [hardened,filled,filled']

/-- Both runs return. -/
theorem called_run (recommender : PatchRecommender) (request : RemediationPlanRequest) :
    ∃ called outcome, recommender.calledFor request = .ok called ∧ recommender.recommend request = .ok outcome ∧
      Called recommender request called outcome := by
  by_cases nothing : (readSection recommender.readThreat request.threatAssessment).isNone ∧
      (readSection recommender.readDossier request.vulnerabilityDossier).isNone
  · refine ⟨[],emptyPlan request,?_,?_,.nothing⟩
    · simp only [PatchRecommender.calledFor,nothing,and_self,if_true]
    · simp only [PatchRecommender.recommend,nothing,and_self,if_true]
  · obtain ⟨⟨patches,degradations⟩,patched⟩ := fromCves_returns recommender.advisories (request.criticalAssets.map lower)
      ((readSection recommender.readDossier request.vulnerabilityDossier).map (·.toCveResearchResult))
    obtain ⟨mitigations,mitigated⟩ := fromTechniques_returns
      ((readSection recommender.readDossier request.vulnerabilityDossier).map (·.toCveResearchResult)) (request.criticalAssets.map lower)
      (inventoryHosts request.assets) ((readSection recommender.readThreat request.threatAssessment).map (·.toThreatDetectionResult))
    simp only [PatchRecommender.calledFor,PatchRecommender.recommend,nothing,if_false,bind_ok,patched,mitigated,
      Except.ok.injEq,exists_eq_left',hardened_deduplicate]
    cases hardened (readSection recommender.readThreat request.threatAssessment) (patches ++ mitigations) with
    | none => exact ⟨_,_,rfl,rfl,.found [] patched mitigated⟩
    | some threat =>
      obtain ⟨item,made⟩ := generic_returns threat.toThreatDetectionResult (request.criticalAssets.map lower) (inventoryHosts request.assets)
      simp only [bind_ok,made,Except.ok.injEq,exists_eq_left']
      exact ⟨_,_,rfl,rfl,.hardening degradations [resolvedNote] made⟩

/-- The plan keeps the first of the merged recommendations. -/
theorem recommend_called (recommender : PatchRecommender) (request : RemediationPlanRequest) :
    ∃ called outcome, recommender.calledFor request = .ok called ∧ recommender.recommend request = .ok outcome ∧
      outcome.plan.recommendations = bounded recommender.maxRecommendations (ordered called) ∧
      outcome.plan.overallRisk = combineRisk (outcome.plan.recommendations.map (·.risk)) (lit "investigation " ++ request.investigationId) := by
  obtain ⟨called,outcome,run,returned,found⟩ := called_run recommender request
  refine ⟨called,outcome,run,returned,?_⟩
  cases found with
  | nothing =>
    refine ⟨?_,rfl⟩
    show [] = bounded recommender.maxRecommendations []
    rw [bounded_eq,List.take_nil]
  | found notes patched mitigated => exact ⟨rfl,rfl⟩
  | hardening degradations notes made => exact ⟨rfl,rfl⟩

/-! ### Findings that share an action share its priority -/

/-- `CVE-`, a year of four digits and a number of at least four. -/
def WellFormedCve (cveId : Text) : Prop :=
  ∃ year number : Text, cveId = lit "CVE-" ++ year ++ lit "-" ++ number ∧ year.length = 4 ∧ 4 ≤ number.length ∧
    ∀ c ∈ year ++ number, 48 ≤ c ∧ c ≤ 57

omit [Printer] in
theorem WellFormedCve.unspaced {cveId : Text} (wellFormed : WellFormedCve cveId) : ∀ c ∈ cveId, c ≠ 32 := by
  obtain ⟨year,number,rfl,_,_,digits⟩ := wellFormed
  intro c member
  simp only [List.mem_append,or_assoc] at member
  rcases member with front | listed | dash | listed
  · revert c; decide
  · have digit := digits c (List.mem_append_left _ listed)
    omega
  · revert c; decide
  · have digit := digits c (List.mem_append_right _ listed)
    omega

omit [Printer] in
/-- A text without blanks is read off what precedes the first one. -/
theorem spaced_inj {first second rest rest' : Text} (unspaced : ∀ c ∈ first, c ≠ 32) (unspaced' : ∀ c ∈ second, c ≠ 32)
    (same : first ++ 32 :: rest = second ++ 32 :: rest') : first = second := by
  have read : ∀ text back : Text, (∀ c ∈ text, c ≠ 32) → (text ++ 32 :: back).takeWhile (· ≠ 32) = text := by
    intro text back clear
    rw [List.takeWhile_append_of_pos (by simpa using clear)]
    simp
  rw [← read first rest unspaced,same,read second rest' unspaced']

theorem patch_action {source : AdvisorySource} {critical : List Text} {assessment : CveAssessment} {item : RemediationRecommendation}
    (made : patchRecommendation source critical assessment = .ok item) :
    ∃ rest, item.action = lit "Patch " ++ (assessment.cveId ++ 32 :: rest) := by
  have cveId : (argumentsFor source assessment (chosenProduct assessment)).1.cveId = assessment.cveId := by
    unfold argumentsFor
    split_ifs
    · rfl
    · dsimp only
      split
      · rfl
      · rfl
      · split <;> rfl
  have named : item.action = (patchTemplate source assessment).1.action := congrArg Proposal.action (validated_ok made)
  rw [named,patchTemplate,patchGuidance,cveId]
  exact ⟨_,by rw [List.append_assoc,List.append_assoc,List.append_assoc]; rfl⟩

theorem check_action {critical : List Text} {assessment : CveAssessment} {item : RemediationRecommendation}
    (made : build (verificationTemplate pinned assessment) assessment critical false = .ok item) :
    ∃ rest, item.action = lit "Establish whether " ++ (assessment.cveId ++ 32 :: rest) := by
  have named : item.action = (verificationTemplate pinned assessment).action := congrArg Proposal.action (validated_ok made)
  rw [named]
  exact ⟨_,List.append_assoc _ _ _⟩

/-- The finding behind a recommendation. -/
inductive Origin (source : AdvisorySource) (critical : List Text) (dossier : CveResearchResult) (item : RemediationRecommendation) : Prop
  | patch (assessment : CveAssessment) (listed : assessment ∈ dossier.cves)
      (made : patchRecommendation source critical assessment = .ok item)
  | check (assessment : CveAssessment) (listed : assessment ∈ dossier.candidates)
      (made : build (verificationTemplate pinned assessment) assessment critical false = .ok item)
  | technique (template : RemediationTemplate) (catalogued : template ∈ templates) (action : item.action = template.action)
      (urgent : item.priority = .URGENT) (scored : ∃ inputs, item.risk = scoreRisk inputs)

theorem fromCves_origin {source : AdvisorySource} {critical : List Text} {dossier : Option CveResearchResult}
    {found : List RemediationRecommendation × List AgentDegradation} (run : fromCves pinned source critical dossier = .ok found) :
    ∀ item ∈ found.1, Origin source critical (dossier.getD ⟨[],[]⟩) item := by
  intro item member
  cases dossier with
  | none =>
    cases run
    cases member
  | some dossier =>
    unfold fromCves at run
    cases patched : mapRaising (patchRecommendation source critical) dossier.cves with
    | error e => simp [patched] at run
    | ok patches =>
      cases checked : mapRaising (fun assessment => build (verificationTemplate pinned assessment) assessment critical false)
          dossier.candidates with
      | error e => simp [patched,checked] at run
      | ok checks =>
        simp only [patched,checked,Except.ok.injEq] at run
        subst run
        rcases List.mem_append.mp member with listed | listed
        · obtain ⟨assessment,known,made⟩ := (mapRaising_mem patched item).mp listed
          exact .patch assessment known made
        · obtain ⟨assessment,known,made⟩ := (mapRaising_mem checked item).mp listed
          exact .check assessment known made

theorem fromTechniques_origin {source : AdvisorySource} {critical inventory : List Text} {dossier : Option CveResearchResult}
    {threat : Option ThreatDetectionResult} {found : List RemediationRecommendation}
    (run : fromTechniques pinned dossier critical inventory threat = .ok found) (other : CveResearchResult) :
    ∀ item ∈ found, Origin source critical other item := by
  intro item member
  cases threat with
  | none =>
    cases run
    cases member
  | some threat =>
    obtain ⟨⟨mapping,template⟩,listed,made⟩ := (mapRaising_mem run item).mp member
    obtain ⟨_,_,known⟩ := List.mem_filterMap.mp listed
    obtain ⟨template',catalogued,same⟩ := Option.map_eq_some_iff.mp known
    cases same
    have proposal := validated_ok made
    exact .technique template (forTechnique_mem catalogued) (congrArg Proposal.action proposal) (congrArg Proposal.priority proposal)
      ⟨_,congrArg Proposal.risk proposal⟩

/-- The dossier that the agent reads. -/
def PatchRecommender.dossierOf (recommender : PatchRecommender) (request : RemediationPlanRequest) : CveResearchResult :=
  ((readSection recommender.readDossier request.vulnerabilityDossier).map (·.toCveResearchResult)).getD ⟨[],[]⟩

theorem calledFor_origin {recommender : PatchRecommender} {request : RemediationPlanRequest} {called : List RemediationRecommendation}
    (run : recommender.calledFor request = .ok called) :
    (∃ item, called = [item] ∧ ∃ inputs, item.risk = scoreRisk inputs) ∨
      ∀ item ∈ called, Origin recommender.advisories (request.criticalAssets.map lower) (recommender.dossierOf request) item := by
  obtain ⟨_,_,run',_,found⟩ := called_run recommender request
  rw [run,Except.ok.injEq] at run'
  subst run'
  cases found with
  | nothing => exact .inr fun item member => absurd member List.not_mem_nil
  | found notes patched mitigated =>
    right
    intro item member
    rcases List.mem_append.mp member with listed | listed
    · exact fromCves_origin patched item listed
    · exact fromTechniques_origin mitigated _ item listed
  | @hardening threat item degradations notes made => exact .inl ⟨item,rfl,generic_scored made⟩

omit [Printer] in
/-- No action in the catalogue begins as one for a CVE does. -/
theorem template_opens {template : RemediationTemplate} (catalogued : template ∈ templates) {c : Nat} (first : Opens template.action c) :
    c ≠ 80 ∧ c ≠ 69 := by
  have plain := (templates_plain template catalogued).1
  rw [show template.action.head? = some c from first] at plain
  simpa using plain

theorem patch_opens {source : AdvisorySource} {critical : List Text} {assessment : CveAssessment} {item : RemediationRecommendation}
    (made : patchRecommendation source critical assessment = .ok item) : Opens item.action 80 := by
  obtain ⟨rest,spelled⟩ := patch_action made
  rw [spelled]
  rfl

theorem check_opens {critical : List Text} {assessment : CveAssessment} {item : RemediationRecommendation}
    (made : build (verificationTemplate pinned assessment) assessment critical false = .ok item) : Opens item.action 69 := by
  obtain ⟨rest,spelled⟩ := check_action made
  rw [spelled]
  rfl

/-- Two findings that call for one action have one priority: a CVE has its action to
    itself, and the mitigations of a technique are all urgent. -/
theorem priorities_agree {source : AdvisorySource} {critical : List Text} {dossier : CveResearchResult}
    (wellFormed : ∀ assessment ∈ dossier.cves ++ dossier.candidates, WellFormedCve assessment.cveId)
    (distinct : ((dossier.cves ++ dossier.candidates).map (·.cveId)).Nodup) {item other : RemediationRecommendation}
    (first : Origin source critical dossier item) (second : Origin source critical dossier other) (same : item.action = other.action) :
    item.priority = other.priority := by
  have unique : ∀ assessment ∈ dossier.cves ++ dossier.candidates, ∀ assessment' ∈ dossier.cves ++ dossier.candidates,
      ∀ rest rest' : Text, assessment.cveId ++ 32 :: rest = assessment'.cveId ++ 32 :: rest' → assessment = assessment' := by
    intro assessment known assessment' known' rest rest' equal
    have ids := spaced_inj (wellFormed assessment known).unspaced (wellFormed assessment' known').unspaced equal
    exact List.inj_on_of_nodup_map distinct known known' ids
  cases first with
  | patch assessment listed made =>
    have letter : Opens other.action 80 := same ▸ patch_opens made
    cases second with
    | patch assessment' listed' made' =>
      obtain ⟨rest,spelled⟩ := patch_action made
      obtain ⟨rest',spelled'⟩ := patch_action made'
      rw [spelled,spelled',List.append_cancel_left_eq] at same
      have equal := unique assessment (by simp [listed]) assessment' (by simp [listed']) rest rest' same
      rw [equal,made'] at made
      cases made
      rfl
    | check assessment' listed' made' => cases letter.same (check_opens made')
    | technique template catalogued action urgent _ => exact absurd rfl (template_opens catalogued (action ▸ letter)).1
  | check assessment listed made =>
    have letter : Opens other.action 69 := same ▸ check_opens made
    cases second with
    | patch assessment' listed' made' => cases letter.same (patch_opens made')
    | check assessment' listed' made' =>
      obtain ⟨rest,spelled⟩ := check_action made
      obtain ⟨rest',spelled'⟩ := check_action made'
      rw [spelled,spelled',List.append_cancel_left_eq] at same
      have equal := unique assessment (by simp [listed]) assessment' (by simp [listed']) rest rest' same
      rw [equal,made'] at made
      cases made
      rfl
    | technique template catalogued action urgent _ => exact absurd rfl (template_opens catalogued (action ▸ letter)).2
  | technique template catalogued action urgent _ =>
    have called : other.action = template.action := same.symm.trans action
    cases second with
    | patch assessment' listed' made' => exact absurd rfl (template_opens catalogued (called ▸ patch_opens made')).1
    | check assessment' listed' made' => exact absurd rfl (template_opens catalogued (called ▸ check_opens made')).2
    | technique template' catalogued' action' urgent' _ => rw [urgent,urgent']

/-! ### The plan as a whole -/

/-- The plan answers what was called for, most urgent first. What is held back comes after
    what is kept, and only a longer list is held back from. -/
structure SoundPlan (called : List RemediationRecommendation) (maximum : Int) (plan held : List RemediationRecommendation) : Prop where
  distinct : ((plan ++ held).map (·.action)).Nodup
  complete : ∀ item ∈ called, ∃ merged ∈ plan ++ held, merged.action = item.action
  answers : ∀ merged ∈ plan ++ held, Answers called merged
  urgent : ∀ merged ∈ plan ++ held, ∀ item ∈ called, item.action = merged.action → priorityRank item.priority ≤ priorityRank merged.priority
  sorted : plan.Pairwise fun x y =>
    priorityRank y.priority < priorityRank x.priority ∨
      (priorityRank y.priority = priorityRank x.priority ∧ y.risk.score ≤ x.risk.score)
  later : ∀ kept ∈ plan, ∀ back ∈ held, byPriority kept < byPriority back
  longer : held ≠ [] → maximum < (plan ++ held).length

omit [Printer] in
theorem urgency_rank (priority : TriagePriority) : urgency priority + priorityRank priority = 3 := by cases priority <;> rfl

omit [Printer] in
theorem byPriority_le {x y : RemediationRecommendation} (before : byPriority x ≤ byPriority y) :
    priorityRank y.priority < priorityRank x.priority ∨
      (priorityRank y.priority = priorityRank x.priority ∧ y.risk.score ≤ x.risk.score) := by
  have ranks := urgency_rank x.priority
  have ranks' := urgency_rank y.priority
  rcases Prod.Lex.toLex_le_toLex.mp before with urgent | ⟨same,rest⟩
  · left
    simp only at urgent
    omega
  · right
    simp only at same
    refine ⟨by omega,?_⟩
    rcases Prod.Lex.toLex_le_toLex.mp rest with risk | ⟨risk,_⟩
    · exact (neg_lt_neg_iff.mp risk).le
    · exact (neg_injective risk).ge

omit [Printer] in
theorem plan_sound {called : List RemediationRecommendation} (maximum : Int)
    (agree : ∀ item ∈ called, ∀ other ∈ called, item.action = other.action → item.priority = other.priority) :
    ∃ held, SoundPlan called maximum (bounded maximum (ordered called)) held := by
  have whole : bounded maximum (ordered called) ++ (ordered called).drop (cut maximum (ordered called).length) = ordered called := by
    rw [bounded_eq,List.take_append_drop]
  have strict := ordered_strict called
  refine ⟨(ordered called).drop (cut maximum (ordered called).length),?_⟩
  constructor
  · rw [whole]
    exact ((ordered_perm called).map _).nodup_iff.mpr (deduplicate_once called)
  · intro item member
    obtain ⟨merged,listed,named⟩ := deduplicate_covers member
    exact ⟨merged,by rw [whole]; exact (ordered_perm called).mem_iff.mpr listed,named⟩
  · intro merged member
    rw [whole,(ordered_perm called).mem_iff] at member
    exact deduplicate_answers member
  · intro merged member item listed same
    rw [whole,(ordered_perm called).mem_iff] at member
    obtain ⟨lead,found,action,priority⟩ := (deduplicate_answers member).lead
    rw [← priority,agree item listed lead found (same.trans action.symm)]
  · have sorted := strict.imp fun below => byPriority_le below.le
    rw [← whole] at sorted
    exact (List.pairwise_append.mp sorted).1
  · rw [← whole] at strict
    exact (List.pairwise_append.mp strict).2.2
  · intro back
    rw [whole]
    by_contra short
    apply back
    rw [cut,if_neg short,List.drop_length]

/-- Whatever the assessment and the dossier say, the plan answers every finding that calls
    for one of its actions, with the worst of their risks and no less urgency than any. -/
theorem recommend_sound (recommender : PatchRecommender) (request : RemediationPlanRequest)
    (wellFormed : ∀ assessment ∈ (recommender.dossierOf request).cves ++ (recommender.dossierOf request).candidates,
      WellFormedCve assessment.cveId)
    (distinct : (((recommender.dossierOf request).cves ++ (recommender.dossierOf request).candidates).map (·.cveId)).Nodup) :
    ∃ called outcome, recommender.calledFor request = .ok called ∧ recommender.recommend request = .ok outcome ∧
      ∃ held, SoundPlan called recommender.maxRecommendations outcome.plan.recommendations held := by
  obtain ⟨called,outcome,run,returned,kept,_⟩ := recommend_called recommender request
  refine ⟨called,outcome,run,returned,?_⟩
  rw [kept]
  apply plan_sound
  intro item listed other listed' same
  rcases calledFor_origin run with ⟨only,rfl,_⟩ | origin
  · rw [List.mem_singleton] at listed listed'
    rw [listed,listed']
  · exact priorities_agree wellFormed distinct (origin item listed) (origin other listed') same

/-! ### The overall risk -/

/-- The greatest risk of what was called for, or zero when nothing was. -/
def IsWorst (called : List RemediationRecommendation) (score : ℚ) : Prop :=
  (called = [] ∧ score = 0) ∨ ((∃ item ∈ called, item.risk.score = score) ∧ ∀ item ∈ called, item.risk.score ≤ score)

/-- Nothing called for carries a risk, or the bound reaches one of the greatest risk: few
    enough of the merged recommendations come before it. -/
def WorstReached (called : List RemediationRecommendation) (maximum : Int) : Prop :=
  (∀ item ∈ called, item.risk.score ≤ 0) ∨
    ∃ worst ∈ deduplicate called, (∀ item ∈ called, item.risk.score ≤ worst.risk.score) ∧
      (deduplicate called).countP (fun other => byPriority other < byPriority worst) < cut maximum (deduplicate called).length

theorem calledFor_scored {recommender : PatchRecommender} {request : RemediationPlanRequest} {called : List RemediationRecommendation}
    (run : recommender.calledFor request = .ok called) : ∀ item ∈ called, 0 ≤ item.risk.score := by
  have scored : ∀ item ∈ called, ∃ inputs, item.risk = scoreRisk inputs := by
    intro item member
    rcases calledFor_origin run with ⟨only,rfl,scored⟩ | origin
    · rw [List.mem_singleton] at member
      exact member ▸ scored
    · cases origin item member with
      | patch assessment listed made => exact ⟨_,congrArg Proposal.risk (validated_ok made)⟩
      | check assessment listed made => exact ⟨_,congrArg Proposal.risk (validated_ok made)⟩
      | technique template catalogued action urgent scored => exact scored
  intro item member
  obtain ⟨inputs,same⟩ := scored item member
  rw [same]
  exact (scoreRisk_bounded inputs).1

omit [Printer] in
/-- The roll-up is the greatest of the scores it is given, or zero. -/
theorem combineRisk_score (scores : List RiskScore) (subject : Text) :
    (scores = [] ∧ (combineRisk scores subject).score = 0) ∨
      ((∃ risk ∈ scores, (combineRisk scores subject).score = risk.score) ∧ ∀ risk ∈ scores, risk.score ≤ (combineRisk scores subject).score) := by
  cases found : scores.argmax (·.score) with
  | none =>
    left
    exact ⟨List.argmax_eq_none.mp found,by simp only [combineRisk,found]⟩
  | some worst =>
    right
    have score : (combineRisk scores subject).score = worst.score := by simp only [combineRisk,found]
    rw [score]
    exact ⟨⟨worst,List.argmax_mem found,rfl⟩,fun risk member => List.le_of_mem_argmax member found⟩

omit [Printer] in
theorem mem_kept {called : List RemediationRecommendation} {item : RemediationRecommendation} (member : item ∈ deduplicate called) (maximum : Int) :
    item ∈ bounded maximum (ordered called) ↔
      (deduplicate called).countP (fun other => byPriority other < byPriority item) < cut maximum (deduplicate called).length := by
  have perm := ordered_perm called
  rw [bounded_eq,mem_take_strict (ordered_strict called) (perm.mem_iff.mpr member),perm.countP_eq,perm.length_eq]

omit [Printer] in
/-- The roll-up of what is kept is the greatest risk of all that was called for exactly when
    one of that risk is kept. -/
theorem overall_iff_reached {called : List RemediationRecommendation} (scored : ∀ item ∈ called, 0 ≤ item.risk.score) (maximum : Int)
    (subject : Text) : IsWorst called (combineRisk ((bounded maximum (ordered called)).map (·.risk)) subject).score ↔
      WorstReached called maximum := by
  have within : ∀ kept ∈ bounded maximum (ordered called), kept ∈ deduplicate called := by
    intro kept member
    rw [bounded_eq] at member
    exact (ordered_perm called).mem_iff.mp (List.mem_of_mem_take member)
  have source : ∀ kept ∈ deduplicate called, ∃ item ∈ called, item.risk.score = kept.risk.score := by
    intro kept member
    obtain ⟨item,listed,_,same⟩ := (deduplicate_answers member).worst
    exact ⟨item,listed,by rw [same]⟩
  rcases combineRisk_score ((bounded maximum (ordered called)).map (·.risk)) subject with ⟨empty,zero⟩ | ⟨⟨risk,listed,same⟩,above⟩
  · rw [zero]
    rw [List.map_eq_nil_iff] at empty
    constructor
    · rintro (⟨rfl,_⟩ | ⟨_,top⟩)
      · exact .inl fun _ member => (List.not_mem_nil member).elim
      · exact .inl top
    · rintro (none | ⟨worst,member,_,few⟩)
      · rcases List.eq_nil_or_concat called with rfl | ⟨_,last,split⟩
        · exact .inl ⟨rfl,rfl⟩
        · have member : last ∈ called := by rw [split]; simp
          exact .inr ⟨⟨last,member,le_antisymm (none last member) (scored last member)⟩,none⟩
      · have kept := (mem_kept member maximum).mpr few
        rw [empty] at kept
        cases kept
  · obtain ⟨kept,member,rfl⟩ := List.mem_map.mp listed
    obtain ⟨item,found,equal⟩ := source kept (within kept member)
    rw [same]
    constructor
    · rintro (⟨rfl,_⟩ | ⟨_,top⟩)
      · cases found
      · exact .inr ⟨kept,within kept member,top,(mem_kept (within kept member) maximum).mp member⟩
    · rintro (none | ⟨worst,merged,top,few⟩)
      · have zero : kept.risk.score = 0 := le_antisymm (equal ▸ none item found) (equal ▸ scored item found)
        exact .inr ⟨⟨item,found,equal⟩,fun other listed => zero ▸ none other listed⟩
      · have reached := (mem_kept merged maximum).mpr few
        have bound := above worst.risk (List.mem_map.mpr ⟨worst,reached,rfl⟩)
        rw [same] at bound
        exact .inr ⟨⟨item,found,equal⟩,fun other listed => (top other listed).trans bound⟩

/-- The stated overall risk is the greatest of all that was called for exactly when the
    bound reaches a recommendation of that risk. -/
theorem overall_risk_iff_reached (recommender : PatchRecommender) (request : RemediationPlanRequest) :
    ∃ called outcome, recommender.calledFor request = .ok called ∧ recommender.recommend request = .ok outcome ∧
      (IsWorst called outcome.plan.overallRisk.score ↔ WorstReached called recommender.maxRecommendations) := by
  obtain ⟨called,outcome,run,returned,kept,overall⟩ := recommend_called recommender request
  refine ⟨called,outcome,run,returned,?_⟩
  rw [overall,kept]
  exact overall_iff_reached (calledFor_scored run) recommender.maxRecommendations _

end

/-! ### Two plans -/

/-- A suspicious assessment with two techniques that one mitigation addresses. -/
def credentialThreat : ThreatAssessment where
  verdict := .SUSPICIOUS
  severityScore := 5
  severityRationale := []
  attackTechniques := [{ techniqueId := lit "T1078" },{ techniqueId := lit "T1110" }]
  signals := []
  confidence := 9/10

/-- An agent that is given both sections and has room for one recommendation. -/
def informed : PatchRecommender where
  advisories := unavailableSource
  maxRecommendations := 1
  readThreat _ := some credentialThreat
  readDossier _ := some ⟨⟨[exposedAssessment],[]⟩,9/10⟩

def fullRequest : RemediationPlanRequest := ⟨lit "inv-1",some [(lit "verdict",.null)],some [(lit "cves",.list [])],[],[]⟩

theorem informed_dossierOf : informed.dossierOf fullRequest = ⟨[exposedAssessment],[]⟩ := rfl

/-- The two techniques call for one mitigation, which stands for both and takes the only
    place before the patch. -/
theorem exposed_plan_sound :
    let _ := asciiPrinter
    ∃ called outcome, informed.calledFor fullRequest = .ok called ∧ informed.recommend fullRequest = .ok outcome ∧
      (∃ held, SoundPlan called 1 outcome.plan.recommendations held) ∧
      called.map (·.action) = [lit "Patch CVE-2021-44228 on log4j",credentialAttackControls.action,credentialAttackControls.action] ∧
      outcome.plan.recommendations.map (·.support.techniqueIds) = [[lit "T1078",lit "T1110"]] := by
  let _ := asciiPrinter
  have actions : (informed.calledFor fullRequest).toOption.map (·.map (·.action)) =
      some [lit "Patch CVE-2021-44228 on log4j",credentialAttackControls.action,credentialAttackControls.action] := by decide +kernel
  have kept : (informed.recommend fullRequest).toOption.map (·.plan.recommendations.map (·.support.techniqueIds)) =
      some [[lit "T1078",lit "T1110"]] := by decide +kernel
  obtain ⟨called,outcome,run,returned,sound⟩ := recommend_sound informed fullRequest
    (by
      intro assessment member
      rw [informed_dossierOf,List.append_nil,List.mem_singleton] at member
      exact member ▸ ⟨lit "2021",lit "44228",by decide,by decide,by decide,by decide⟩)
    (List.nodup_singleton _)
  rw [run] at actions
  rw [returned] at kept
  exact ⟨called,outcome,run,returned,sound,Option.some.inj actions,Option.some.inj kept⟩

/-! ### A risk held back -/

/-- An agent that is given one dossier and no threat assessment. -/
def researched (maxRecommendations : Int) (dossier : Dossier) : PatchRecommender where
  advisories := unavailableSource
  maxRecommendations := maxRecommendations
  readThreat _ := none
  readDossier _ := some dossier

def someRequest : RemediationPlanRequest := ⟨lit "inv-1",none,some [(lit "cves",.list [])],[],[]⟩

theorem unconfirmed {p : Prop} (confirmed : Applicability.CveApplicability.CANDIDATE = .CONFIRMED) : p := nomatch confirmed

/-- A candidate, with what ties activity to it. -/
def candidate (cveId : Text) (baseScore : ℚ) (techniqueIds : List Text) : CveAssessment where
  record := ⟨cveId,some ⟨baseScore,none,none,none⟩,[],[],[]⟩
  applicability := .CANDIDATE
  evidence := []
  exploitMapping := { techniqueIds := techniqueIds }
  supported := unconfirmed

/-- A low risk that is exploited and a high one that is not. -/
def exploitedLow : CveAssessment := candidate (lit "CVE-2021-20001") 2 [lit "T1190"]
def quietHigh : CveAssessment := candidate (lit "CVE-2021-20002") 9 []

/-- With room for one recommendation the plan keeps the exploited one and states its risk
    of 2.1 as the overall one, while 5.4 is held back. -/
theorem held_back_risk_unstated :
    let _ := asciiPrinter
    ∃ called outcome, (researched 1 ⟨⟨[],[exploitedLow,quietHigh]⟩,9/10⟩).calledFor someRequest = .ok called ∧
      (researched 1 ⟨⟨[],[exploitedLow,quietHigh]⟩,9/10⟩).recommend someRequest = .ok outcome ∧
      ¬ IsWorst called outcome.plan.overallRisk.score := by
  let _ := asciiPrinter
  obtain ⟨low,madeLow⟩ := check_returns [] exploitedLow
  obtain ⟨high,madeHigh⟩ := check_returns [] quietHigh
  have fields := validated_ok madeLow
  have fields' := validated_ok madeHigh
  have lowScore : low.risk.score = Doubles.nearest (21/10) := (congrArg (·.risk.score) fields).trans (by decide +kernel)
  have highScore : high.risk.score = Doubles.nearest (27/5) := (congrArg (·.risk.score) fields').trans (by decide +kernel)
  have apart : 0 < low.risk.score ∧ low.risk.score < high.risk.score := by
    rw [lowScore,highScore]
    decide +kernel
  have lowUrgency : urgency low.priority = 0 := (congrArg (urgency ·.priority) fields).trans (by decide +kernel)
  have highUrgency : urgency high.priority = 2 := (congrArg (urgency ·.priority) fields').trans (by decide +kernel)
  have run : (researched 1 ⟨⟨[],[exploitedLow,quietHigh]⟩,9/10⟩).calledFor someRequest = .ok [low,high] := by
    have found : fromCves pinned unavailableSource [] (some ⟨[],[exploitedLow,quietHigh]⟩) = .ok ([low,high],[]) := by
      simp [fromCves,mapRaising,madeLow,madeHigh,Except.map]
    simp [PatchRecommender.calledFor,researched,someRequest,readSection,found,fromTechniques,hardened,bind,Except.bind,pure,Except.pure]
  obtain ⟨called,outcome,run',returned,kept,overall⟩ := recommend_called (researched 1 ⟨⟨[],[exploitedLow,quietHigh]⟩,9/10⟩) someRequest
  rw [run,Except.ok.injEq] at run'
  subst run'
  refine ⟨_,outcome,run,returned,?_⟩
  rw [overall,kept,overall_iff_reached (calledFor_scored run)]
  rintro (none | ⟨worst,member,top,few⟩)
  · have idle := none high (by simp)
    linarith
  · have answers := deduplicate_answers member
    have risky : ∀ item ∈ [low,high], item.risk.score = worst.risk.score → item = high := by
      intro item listed same
      rcases List.mem_pair.mp listed with rfl | rfl
      · have bound := top high (by simp)
        linarith
      · rfl
    obtain ⟨source,found,action,risk⟩ := answers.worst
    rw [risky source found (by rw [risk])] at action
    obtain ⟨lead,found',action',priority⟩ := answers.lead
    have apart : low.action ≠ high.action := by
      rw [show low.action = (verificationTemplate pinned exploitedLow).action from congrArg Proposal.action fields,
        show high.action = (verificationTemplate pinned quietHigh).action from congrArg Proposal.action fields']
      decide +kernel
    have later : urgency worst.priority = 2 := by
      rcases List.mem_pair.mp found' with rfl | rfl
      · exact absurd (action'.trans action.symm) apart
      · rw [← priority,highUrgency]
    obtain ⟨first,listed,named⟩ := deduplicate_covers (List.mem_pair.mpr (.inl rfl) : low ∈ [low,high])
    have urgent : urgency first.priority = 0 := by
      obtain ⟨lead,found',action',priority⟩ := (deduplicate_answers listed).lead
      rcases List.mem_pair.mp found' with rfl | rfl
      · rw [← priority,lowUrgency]
      · exact absurd (action'.trans named).symm apart
    have before : byPriority first < byPriority worst := Prod.Lex.toLex_lt_toLex.mpr (.inl (by simp only; omega))
    have counted : 0 < (deduplicate [low,high]).countP (fun other => byPriority other < byPriority worst) :=
      List.countP_pos_iff.mpr ⟨first,listed,decide_eq_true before⟩
    have room : cut 1 (deduplicate [low,high]).length ≤ 1 := by
      unfold cut
      split_ifs <;> omega
    exact absurd few (by show ¬ _ < cut 1 _; omega)

end SocAnalyst.RemediationPlans
