import SocAnalyst.AlertTemplates
import SocAnalyst.Generations
import SocAnalyst.RemediationPlans

/-!
# Recorded remediation plans

`record_remediation_plan` of `services/remediation.py` and the repository the plans are
read back through. A priority is stored as its text, and the database orders the texts.
-/
namespace SocAnalyst.RecordedPlans
open SocAnalyst.Builtins SocAnalyst.Dicts SocAnalyst.Assessments SocAnalyst.Remediation SocAnalyst.Risk SocAnalyst.Recommender
open SocAnalyst.RemediationPlans SocAnalyst.Generations
open SocAnalyst.Notifications (priorityRank)
open SocAnalyst.AlertTemplates (priorityValue)

/-- Human-approval state of a remediation recommendation. -/
inductive ApprovalStatus where
  | PENDING
  | APPROVED
  | REJECTED
  | EDITED
  deriving DecidableEq, Repr

def ApprovalStatus.value : ApprovalStatus → Text
  | .PENDING => lit "pending"
  | .APPROVED => lit "approved"
  | .REJECTED => lit "rejected"
  | .EDITED => lit "edited"

/-- A row of the `recommendations` table. -/
structure Recommendation where
  investigationId : Text
  action : Text
  type : RecommendationType
  priority : TriagePriority
  rationale : Text
  expectedImpact : Text
  citations : List Citation
  approvalStatus : ApprovalStatus
  requiresHumanApproval : Bool
  version : Nat

def groundingValue : RemediationConfidence → Text
  | .VENDOR_SPECIFIC => lit "vendor_specific"
  | .CLASS_SPECIFIC => lit "class_specific"
  | .GENERIC => lit "generic"

/-- The stored explanation: why, how, and how to confirm it worked. -/
def rationaleOf (item : Proposal) : Text :=
  let steps := item.steps.zipIdx.map fun step => lit "(" ++ lit (toString (step.2 + 1)) ++ lit ") " ++ step.1
  let parts := [strip item.rationale] ++
    (if item.steps = [] then [] else [lit "Suggested steps for an analyst: " ++ joined (lit " ") steps]) ++
    (if item.verification = [] then [] else [lit "Verification: " ++ item.verification]) ++
    (if item.targets = [] then [] else [lit "Affected: " ++ joined (lit ", ") item.targets ++ lit "."]) ++
    [lit "Grounding: " ++ replaceAll (lit "_") (lit " ") (groundingValue item.grounding) ++ lit "."]
  joined (lit " ") (parts.filter (· ≠ []))

/-- Map one recommendation onto its persistent row. -/
def toRecommendation (investigationId : Text) (version : Nat) (item : RemediationRecommendation) : Recommendation where
  investigationId
  action := item.action
  type := item.type
  priority := item.priority
  rationale := rationaleOf item.toProposal
  expectedImpact := item.expectedImpact
  citations := item.citations
  approvalStatus := .PENDING
  requiresHumanApproval := true
  version

/-- The plan generations of the investigations. -/
def plans : Versioned Text RemediationRecommendation Recommendation where
  owner := (·.investigationId)
  version := (·.version)
  make := toRecommendation
  owner_make _ _ _ := rfl
  version_make _ _ _ := rfl

/-- What `ORDER BY priority, action` compares. -/
def storedOrder (row : Recommendation) : Text ×ₗ Text := toLex (priorityValue row.priority,row.action)

section
variable (table : List Recommendation) (investigationId : Text)

/-- The highest plan version recorded, or 0. -/
def latestVersion : Nat := plans.latestVersion table investigationId

/-- One plan generation. -/
def forVersion (version : Nat) : List Recommendation := sortedBy storedOrder (plans.generation table investigationId version)

/-- The most recent plan generation. -/
def current : List Recommendation :=
  let version := latestVersion table investigationId
  if version = 0 then [] else forVersion table investigationId version

/-- Recommendations still waiting on a human. -/
def pendingApproval : List Recommendation := (current table investigationId).filter (·.approvalStatus = .PENDING)

/-- Persist a plan generation: the table, the version it is written under, and its rows. -/
def recordRemediationPlan (plan : RemediationPlan) : List Recommendation × Nat × List Recommendation :=
  let version := latestVersion table investigationId + 1
  let rows := plan.recommendations.map (toRecommendation investigationId version)
  (if rows = [] then table else table ++ rows,version,rows)

end

/-- The rows are the plan's actions with their priorities, most urgent first by the
    domain's rank and by the agent's own order. -/
structure ReadBack (plan : RemediationPlan) (rows : List Recommendation) : Prop where
  actions : (rows.map fun row => (row.action,row.priority)).Perm (plan.recommendations.map fun item => (item.action,item.priority))
  urgent : rows.Pairwise fun first second =>
    priorityRank second.priority ≤ priorityRank first.priority ∧ urgency first.priority ≤ urgency second.priority

/-- The alphabet orders the priorities of the plan as their urgency does: none stands
    beside an urgent one, and no low one beside a medium one. -/
def Alphabetical (plan : RemediationPlan) : Prop :=
  ∀ first ∈ plan.recommendations, ∀ second ∈ plan.recommendations,
    (first.priority = .URGENT → second.priority = .URGENT) ∧ (first.priority = .LOW → second.priority ≠ .MEDIUM)

/-! ### What recording leaves -/

theorem urgency_priorityRank (p q : TriagePriority) : urgency p ≤ urgency q ↔ priorityRank q ≤ priorityRank p := by
  cases p <;> cases q <;> decide

section
variable {table : List Recommendation} {investigationId : Text}

theorem recordRemediationPlan_table (plan : RemediationPlan) :
    (recordRemediationPlan table investigationId plan).1 = table ++ plans.written table investigationId plan.recommendations :=
  append_unless_empty ..

theorem forVersion_perm (version : Nat) :
    (forVersion table investigationId version).Perm (plans.generation table investigationId version) :=
  List.perm_insertionSort _ _

theorem current_perm : (current table investigationId).Perm (plans.current table investigationId) :=
  Versioned.ordered_perm forVersion_perm

theorem current_pairwise : (current table investigationId).Pairwise fun first second => storedOrder first ≤ storedOrder second := by
  rw [current]
  by_cases none : latestVersion table investigationId = 0
  · rw [if_pos none]
    exact List.Pairwise.nil
  · rw [if_neg none]
    exact pairwise_sortedBy storedOrder _

/-- The rows of a plan are its current ones. -/
theorem current_recorded {plan : RemediationPlan} (some : plan.recommendations ≠ []) :
    (current (recordRemediationPlan table investigationId plan).1 investigationId).Perm
      (plan.recommendations.map (toRecommendation investigationId (latestVersion table investigationId + 1))) := by
  rw [recordRemediationPlan_table]
  exact current_perm.trans (.of_eq (current_written some))

theorem recorded_empty {plan : RemediationPlan} (none : plan.recommendations = []) :
    (recordRemediationPlan table investigationId plan).1 = table := by
  rw [recordRemediationPlan_table,none]
  exact List.append_nil _

end

/-! ### The alphabet against the urgency -/

theorem priority_of_storedOrder {first second : Recommendation} (ordered : storedOrder first ≤ storedOrder second) :
    priorityValue first.priority ≤ priorityValue second.priority := by
  rw [storedOrder,storedOrder,Prod.Lex.le_iff] at ordered
  obtain below | ⟨level,_⟩ := ordered
  · exact le_of_lt below
  · exact le_of_eq level

/-- Where the alphabet and the urgency disagree on two priorities. -/
theorem alphabet_misplaces (p q : TriagePriority) :
    priorityValue p ≤ priorityValue q ∧ ¬ urgency p ≤ urgency q ↔ q = .URGENT ∧ p ≠ .URGENT ∨ p = .LOW ∧ q = .MEDIUM := by
  cases p <;> cases q <;> decide

variable {plan : RemediationPlan} {rows : List Recommendation}

theorem alphabetical_urgent (alphabetical : Alphabetical plan)
    (actions : (rows.map (·.priority)).Perm (plan.recommendations.map (·.priority)))
    (stored : rows.Pairwise fun first second => storedOrder first ≤ storedOrder second) :
    rows.Pairwise fun first second => urgency first.priority ≤ urgency second.priority := by
  have planned : ∀ row ∈ rows, ∃ item ∈ plan.recommendations, item.priority = row.priority := by
    intro row member
    simpa using actions.mem_iff.mp (List.mem_map_of_mem (f := (·.priority)) member)
  refine stored.imp_of_mem ?_
  intro first second member_first member_second ordered
  by_contra later
  obtain ⟨one,planned_one,priority_one⟩ := planned first member_first
  obtain ⟨other,planned_other,priority_other⟩ := planned second member_second
  have misplaced := (alphabet_misplaces first.priority second.priority).mp ⟨priority_of_storedOrder ordered,later⟩
  rw [← priority_one,← priority_other] at misplaced
  obtain ⟨urgent,calmer⟩ | ⟨low,medium⟩ := misplaced
  · exact calmer ((alphabetical other planned_other one planned_one).1 urgent)
  · exact (alphabetical one planned_one other planned_other).2 low medium

/-- Both orders place the two priorities the same way. -/
def Agree (p q : TriagePriority) : Prop :=
  (priorityValue p < priorityValue q → urgency p ≤ urgency q) ∧ (priorityValue q < priorityValue p → urgency q ≤ urgency p)

/-- The alphabet places an urgent priority last. -/
theorem urgent_agrees {q : TriagePriority} (agree : Agree .URGENT q) : q = .URGENT := by
  cases q with
  | URGENT => rfl
  | LOW => exact absurd (agree.2 (by decide)) (by decide)
  | MEDIUM => exact absurd (agree.2 (by decide)) (by decide)
  | HIGH => exact absurd (agree.2 (by decide)) (by decide)

/-- Rows in both orders are so for any two of them, wherever they stand. -/
theorem urgent_alphabetical (actions : (rows.map (·.priority)).Perm (plan.recommendations.map (·.priority)))
    (stored : rows.Pairwise fun first second => storedOrder first ≤ storedOrder second)
    (urgent : rows.Pairwise fun first second => urgency first.priority ≤ urgency second.priority) : Alphabetical plan := by
  have agree : ∀ first ∈ rows, ∀ second ∈ rows, Agree first.priority second.priority := by
    have symmetric : Std.Symm fun first second : Recommendation => Agree first.priority second.priority :=
      ⟨fun first second both => ⟨both.2,both.1⟩⟩
    apply List.Pairwise.forall_of_forall
    · exact fun row _ => ⟨fun _ => le_rfl,fun _ => le_rfl⟩
    · refine stored.imp₂ ?_ urgent
      intro first second ordered before
      exact ⟨fun _ => before,fun above => absurd (priority_of_storedOrder ordered) (not_le_of_gt above)⟩
  have recorded : ∀ item ∈ plan.recommendations, ∃ row ∈ rows, row.priority = item.priority := by
    intro item member
    simpa using actions.mem_iff.mpr (List.mem_map_of_mem (f := (·.priority)) member)
  intro first member_first second member_second
  obtain ⟨one,recorded_one,priority_one⟩ := recorded first member_first
  obtain ⟨other,recorded_other,priority_other⟩ := recorded second member_second
  have both := agree one recorded_one other recorded_other
  rw [priority_one,priority_other] at both
  refine ⟨fun is_urgent => ?_,fun low medium => ?_⟩
  · rw [is_urgent] at both
    exact urgent_agrees both
  · rw [low,medium] at both
    exact absurd (both.1 (by decide)) (by decide)

/-- A recorded plan is read back most urgent first exactly when the alphabet orders its
    priorities so, and an empty plan exactly when no plan is current before it. -/
theorem readBack_iff (table : List Recommendation) (investigationId : Text) (plan : RemediationPlan) :
    ReadBack plan (current (recordRemediationPlan table investigationId plan).1 investigationId) ↔
      Alphabetical plan ∧ (plan.recommendations = [] → current table investigationId = []) := by
  by_cases empty : plan.recommendations = []
  · have trivially : Alphabetical plan := by
      intro first member
      rw [empty] at member
      exact absurd member List.not_mem_nil
    rw [recorded_empty empty]
    constructor
    · intro back
      refine ⟨trivially,fun _ => ?_⟩
      have none := back.actions
      rw [empty,List.map_nil] at none
      exact List.map_eq_nil_iff.mp none.eq_nil
    · rintro ⟨_,blank⟩
      rw [blank empty]
      exact ⟨by rw [empty]; exact .nil,.nil⟩
  · have rows : (current (recordRemediationPlan table investigationId plan).1 investigationId).Perm _ := current_recorded empty
    have actions := rows.map fun row => (row.action,row.priority)
    have priorities := rows.map (·.priority)
    rw [List.map_map] at actions priorities
    constructor
    · intro back
      exact ⟨urgent_alphabetical priorities current_pairwise (back.urgent.imp And.right),fun none => absurd none empty⟩
    · rintro ⟨alphabetical,_⟩
      refine ⟨actions,(alphabetical_urgent alphabetical priorities current_pairwise).imp ?_⟩
      intro first second before
      exact ⟨(urgency_priorityRank _ _).mp before,before⟩

theorem named_reason : strip (lit "exploited in the wild") ≠ [] := by decide +kernel
theorem one_source : [baselineCitation] ≠ [] := List.cons_ne_nil _ _

/-- A recommendation of some urgency. -/
def advised (action : Text) (priority : TriagePriority) : RemediationRecommendation where
  action := action
  type := .PATCH
  priority := priority
  risk := ⟨5,.MEDIUM,[],[]⟩
  rationale := lit "exploited in the wild"
  expectedImpact := []
  steps := []
  verification := []
  targets := []
  support := {}
  grounding := .GENERIC
  citations := [baselineCitation]
  justified := named_reason
  sourced := one_source

/-- A plan with an urgent and a high recommendation. -/
def mixedPlan : RemediationPlan where
  investigationId := lit "inv-1"
  recommendations := [advised (lit "Isolate the host") .URGENT,advised (lit "Patch OpenSSL") .HIGH]
  overallRisk := ⟨5,.MEDIUM,[],[]⟩
  knowledgeLimited := true
  notes := []
  confidence := 6/10

/-- The high recommendation is read back before the urgent one. -/
theorem urgent_last : ¬ ∀ (table : List Recommendation) (investigationId : Text) (plan : RemediationPlan),
    ReadBack plan (current (recordRemediationPlan table investigationId plan).1 investigationId) := by
  intro law
  have back := law [] (lit "inv-1") mixedPlan
  have rows : (current (recordRemediationPlan [] (lit "inv-1") mixedPlan).1 (lit "inv-1")).Perm _ :=
    current_recorded (List.cons_ne_nil _ _)
  have priorities := rows.map (·.priority)
  rw [List.map_map] at priorities
  have alphabetical := urgent_alphabetical priorities current_pairwise (back.urgent.imp And.right)
  have high : TriagePriority.HIGH = .URGENT :=
    (alphabetical _ (List.mem_cons_self ..) _ (List.mem_cons_of_mem _ (List.mem_singleton_self _))).1 rfl
  cases high

end SocAnalyst.RecordedPlans
