import SocAnalyst.GraphFlow

/-!
# The gate in every run

What each node writes, the invariants of the state along a run of the service, and what
they promise about the human gate.
-/
namespace SocAnalyst.Graph
open SocAnalyst.Builtins SocAnalyst.Values SocAnalyst.Dicts SocAnalyst.Risk SocAnalyst.Decisions SocAnalyst.Runs

/-! ### What the nodes write -/

/-- What a node may write about the findings. -/
def Finds (node : Node) (findings : Mapping) : Prop :=
  match node with
  | .LOG_ANALYSIS => ∃ events timeline gaps, findings = [(lit "normalized_events",.list events),
      (lit "timeline",.list timeline),(lit "coverage_gaps",.list gaps)]
  | .THREAT_DETECTION => ∃ result : ThreatDetectionResult, findings = [(lit "threat_assessment",.dict result.dump)]
  | .CVE_RESEARCH => ∃ result : CveResearchResult, findings = [(lit "vulnerability_dossier",.dict result.dump)]
  | .REMEDIATION => ∃ plan : RemediationPlan, findings = [(lit "remediation_plan",.dict plan.dump)]
  | _ => findings = []

/-- What a node writes: one transition, a decision at the gate, an alert in `notify`. -/
structure Writes (node : Node) (resume : Option Mapping) (update : Update) : Prop where
  history : ∃ owner detail, update.nodeHistory = [transition node owner detail]
  investigation : Finds node update.investigation
  conversation : if node = .HUMAN_GATE then ∃ decision, resume = some decision ∧
      update.conversation = [(lit "human_decisions",.list [.dict decision])]
    else update.conversation = []
  notification : if node = .NOTIFY then ∃ alert, update.notification = [(lit "pending",.list [.dict alert])]
    else update.notification = []

section
variable [Printer] {agents : Agents} {state : GraphState} {update : Update}

theorem humanGate_writes {resume : Option Mapping} (ran : humanGate agents state resume = .ok update) :
    Writes .HUMAN_GATE resume update := by
  unfold humanGate at ran
  cases summary : gateSummary state with
  | error e => simp [summary] at ran
  | ok payload =>
    cases resume with
    | none => simp [summary] at ran
    | some decision =>
      simp only [summary] at ran
      cases value : item (lit "decision") (.dict decision) with
      | error e => simp [value] at ran
      | ok value' =>
        simp only [value,Except.ok.injEq] at ran
        subst ran
        exact ⟨⟨_,_,rfl⟩,rfl,⟨decision,rfl,rfl⟩,rfl⟩

theorem execute_writes {node : Node} {resume : Option Mapping} (ran : execute agents node resume state = .ok update) :
    Writes node resume update := by
  cases node with
  | HUMAN_GATE => exact humanGate_writes ran
  | INGEST_SEED =>
    simp only [execute,mapError_ok,ingestSeed,Except.ok.injEq] at ran
    subst ran
    exact ⟨⟨_,_,rfl⟩,rfl,rfl,rfl⟩
  | LOG_ANALYSIS =>
    simp only [execute,mapError_ok,logAnalysis,bind_ok] at ran
    obtain ⟨_,_,_,_,_,_,_,_,outcome,_,made⟩ := ran
    cases made
    exact ⟨⟨_,_,rfl⟩,⟨_,_,_,rfl⟩,rfl,rfl⟩
  | THREAT_DETECTION =>
    simp only [execute,mapError_ok,threatDetection,bind_ok] at ran
    obtain ⟨_,_,_,_,_,_,_,_,_,_,outcome,_,made⟩ := ran
    cases made
    exact ⟨⟨_,_,rfl⟩,⟨outcome.output,rfl⟩,rfl,rfl⟩
  | CVE_RESEARCH =>
    simp only [execute,mapError_ok,cveResearch,bind_ok] at ran
    obtain ⟨_,_,_,_,_,_,outcome,_,made⟩ := ran
    cases made
    exact ⟨⟨_,_,rfl⟩,⟨outcome.output,rfl⟩,rfl,rfl⟩
  | REPORT =>
    simp only [execute,mapError_ok,report,bind_ok] at ran
    obtain ⟨_,_,_,_,_,_,_,_,outcome,_,made⟩ := ran
    cases made
    exact ⟨⟨_,_,rfl⟩,rfl,rfl,rfl⟩
  | REMEDIATION =>
    simp only [execute,mapError_ok,remediation,bind_ok] at ran
    obtain ⟨_,_,_,_,outcome,_,made⟩ := ran
    cases made
    exact ⟨⟨_,_,rfl⟩,⟨outcome.output,rfl⟩,rfl,rfl⟩
  | TRIAGE =>
    simp only [execute,mapError_ok,triage,map_ok] at ran
    obtain ⟨_,_,made⟩ := ran
    subst made
    exact ⟨⟨_,_,rfl⟩,rfl,rfl,rfl⟩
  | NOTIFY =>
    simp only [execute,mapError_ok,notify,map_ok] at ran
    obtain ⟨_,_,made⟩ := ran
    subst made
    exact ⟨⟨_,_,rfl⟩,rfl,rfl,⟨_,rfl⟩⟩
  | CLOSE =>
    simp only [execute,mapError_ok,close,Except.ok.injEq] at ran
    subst ran
    exact ⟨⟨_,_,rfl⟩,rfl,rfl,rfl⟩

end

/-! ### What merging leaves -/

/-- A list that is merged into a list is appended. -/
theorem lookup_mergeSubstate_list {current : Mapping} {key : Text} {earlier : List Value}
    (stored : lookup current key = some (.list earlier)) (more : List Value) :
    lookup (mergeSubstate current [(key,.list more)]) key = some (.list (earlier ++ more)) := by
  simp only [mergeSubstate,mergeMapping,lookup_assign,if_true,stored]
  rfl

/-- A value that is merged into nothing takes its place. -/
theorem lookup_mergeSubstate_null {current : Mapping} {key : Text} (stored : lookup current key = some .null)
    (entries : Mapping) : lookup (mergeSubstate current [(key,.dict entries)]) key = some (.dict entries) := by
  simp only [mergeSubstate,mergeMapping,lookup_assign,if_true,stored]
  rfl

/-- Keys that an update does not name keep their values. -/
theorem lookup_mergeSubstate_other {current incoming : Mapping} {key : Text} (apart : ∀ entry ∈ incoming, entry.1 ≠ key) :
    lookup (mergeSubstate current incoming) key = lookup current key := by
  induction incoming generalizing current with
  | nil => rw [mergeSubstate_nil]
  | cons entry rest ih =>
    obtain ⟨name,value⟩ := entry
    have other : ¬ key = name := fun same => apart (name,value) (by simp) same.symm
    simp only [mergeSubstate,mergeMapping] at ih ⊢
    rw [ih (fun entry member => apart entry (List.mem_cons_of_mem _ member)),lookup_assign,if_neg other]

/-! ### The invariants of the state -/

/-- A finding is absent up to the node that writes it, and then what that node dumps. -/
structure Slot (key : Text) (writer : Node) (Dumped : Mapping → Prop) (state : GraphState) (next : Option Node) : Prop where
  absent : ∀ node, next = some node → rank writer ≤ rank node → lookup state.investigation key = some .null
  dumped : lookup state.investigation key = some .null ∨
    ∃ entries, lookup state.investigation key = some (.dict entries) ∧ Dumped entries

/-- The findings have the shape in which their agents dump them. -/
structure Shaped (state : GraphState) (next : Option Node) : Prop where
  assets : ∃ assets : List Mapping, lookup state.shared (lit "assets") = some (.list (assets.map .dict))
  gaps : ∃ gaps, lookup state.investigation (lit "coverage_gaps") = some (.list gaps)
  assessment : Slot (lit "threat_assessment") .THREAT_DETECTION (fun entries => ∃ result : ThreatDetectionResult, entries = result.dump)
    state next
  dossier : Slot (lit "vulnerability_dossier") .CVE_RESEARCH (fun entries => ∃ result : CveResearchResult, entries = result.dump) state next
  plan : Slot (lit "remediation_plan") .REMEDIATION (fun entries => ∃ plan : RemediationPlan, entries = plan.dump) state next

theorem Slot.step {key : Text} {writer : Node} {Dumped : Mapping → Prop} {state : GraphState} {node : Node} {next : Option Node}
    {update : Update} (slot : Slot key writer Dumped state (some node))
    (writes : node = writer → ∃ entries, update.investigation = [(key,.dict entries)] ∧ Dumped entries)
    (silent : node ≠ writer → ∀ entry ∈ update.investigation, entry.1 ≠ key)
    (onward : ∀ other, next = some other → rank writer ≤ rank other → rank other < rank node) :
    Slot key writer Dumped (state.apply update) next := by
  by_cases here : node = writer
  · subst here
    obtain ⟨entries,written,dump⟩ := writes rfl
    have set : lookup (state.apply update).investigation key = some (.dict entries) := by
      simp only [GraphState.apply,written]
      exact lookup_mergeSubstate_null (slot.absent node rfl le_rfl) entries
    refine ⟨?_,.inr ⟨entries,set,dump⟩⟩
    intro other follows earlier
    have lower := onward other follows earlier
    omega
  · have same : lookup (state.apply update).investigation key = lookup state.investigation key :=
      lookup_mergeSubstate_other (silent here)
    refine ⟨?_,by rw [same]; exact slot.dumped⟩
    intro other follows earlier
    rw [same]
    refine slot.absent node rfl ?_
    have lower := onward other follows earlier
    omega

theorem Shaped.step {state : GraphState} {node : Node} {resume : Option Mapping} {next : Option Node} {update : Update}
    (shaped : Shaped state (some node)) (written : Writes node resume update)
    (onward : ∀ other, next = some other → 5 ≤ rank other → rank other < rank node) : Shaped (state.apply update) next := by
  have finds := written.investigation
  refine ⟨shaped.assets,?_,?_,?_,?_⟩
  · obtain ⟨gaps,stored⟩ := shaped.gaps
    cases node <;> simp only [Finds] at finds
    case LOG_ANALYSIS =>
      obtain ⟨events,timeline,more,named⟩ := finds
      refine ⟨gaps ++ more,?_⟩
      simp only [GraphState.apply,named,mergeSubstate,mergeMapping,lookup_assign,stored]
      rfl
    all_goals
      refine ⟨gaps,?_⟩
      rw [← stored]
      refine lookup_mergeSubstate_other ?_
      first
        | (obtain ⟨_,named⟩ := finds; simp [named]; decide)
        | simp [finds]
  all_goals
    refine Slot.step (by with_reducible first | exact shaped.assessment | exact shaped.dossier | exact shaped.plan) ?_ ?_ ?_
    · rintro rfl
      obtain ⟨result,named⟩ := finds
      exact ⟨_,named,result,rfl⟩
    · intro other
      cases node <;> simp only [Finds] at finds <;> first
        | exact absurd rfl other
        | (obtain ⟨_,_,_,named⟩ := finds; simp [named]; decide)
        | (obtain ⟨_,named⟩ := finds; simp [named]; decide)
        | simp [finds]
    · intro other follows late
      exact onward other follows (le_trans (by decide) late)

/-- What a run keeps: the path is declared, the decisions and the alerts are the ones of
    the passes, and the history numbers the passes. -/
structure Tracked (passes : List Pass) (here : Checkpoint) : Prop where
  path : Run Flow (some .INGEST_SEED) passes here.next
  decisions : lookup here.values.conversation (lit "human_decisions") = some (.list ((passes.filterMap (·.decision)).map .dict))
  alerts : ∃ alerts, lookup here.values.notification (lit "pending") = some (.list alerts) ∧ alerts.length = notifications passes
  numbered : Numbered here.values.nodeHistory
  recorded : here.values.nodeHistory.map (·.node) = passes.map (·.node)
  shaped : Shaped here.values here.next

section
variable [Printer] (agents : Agents)

/-- One node of a run. The gate takes a decision that the service accepts, no other node
    takes one. -/
def Step (here : Checkpoint) (pass : Pass) (next : Checkpoint) : Prop :=
  here.next = some pass.node ∧ (∃ update, advance agents pass.node pass.decision here.values = .ok (update,next)) ∧
    match pass.decision with
    | none => pass.node ≠ .HUMAN_GATE
    | some decision => pass.node = .HUMAN_GATE ∧ ∃ given, coerceDecision given = .ok decision

variable {agents}

theorem advance_ok {node : Node} {resume : Option Mapping} {state : GraphState} {update : Update} {next : Checkpoint} :
    advance agents node resume state = .ok (update,next) ↔
      execute agents node resume state = .ok update ∧ next.values = state.apply update ∧
        successor node next.values = .ok next.next := by
  unfold advance
  cases executed : execute agents node resume state with
  | error stop => simp
  | ok done =>
    obtain ⟨values,follows⟩ := next
    cases edge : successor node (state.apply done) with
    | error e =>
      simp only [edge,Except.ok.injEq,reduceCtorEq,false_iff,not_and]
      rintro rfl rfl wrong
      rw [edge] at wrong
      cases wrong
    | ok after =>
      simp only [edge,Except.ok.injEq,Prod.mk.injEq,Checkpoint.mk.injEq]
      constructor
      · rintro ⟨rfl,rfl,rfl⟩
        exact ⟨rfl,rfl,edge⟩
      · rintro ⟨rfl,rfl,same⟩
        rw [edge] at same
        exact ⟨rfl,rfl,Except.ok.inj same⟩

omit [Printer] in
/-- After the gate the graph takes the arm of the decision that was recorded last. -/
theorem routeAfterGate_last {state : GraphState} {earlier : List Value} {decision : Mapping}
    (recorded : lookup state.conversation (lit "human_decisions") = some (.list (earlier ++ [.dict decision]))) :
    routeAfterGate state = .ok (arm decision) := by
  have some : (Value.list (earlier ++ [.dict decision])).truthy = true := by simp [Value.truthy]
  simp only [routeAfterGate,item,recorded,bind,Except.bind,some,Bool.not_true,Bool.false_eq_true,if_false,
    List.getLast?_append,List.getLast?_singleton,Option.some_or,getFrom,pure,Except.pure]
  rfl

omit [Printer] in
/-- The gate leaves by the arm of the decision it consumed. -/
theorem gate_edge {state : GraphState} {earlier : List Value} {decision : Mapping} {update : Update}
    (recorded : lookup state.conversation (lit "human_decisions") = some (.list earlier))
    (written : Writes .HUMAN_GATE (some decision) update) :
    successor .HUMAN_GATE (state.apply update) = .ok (some (arm decision)) := by
  have consumed := written.conversation
  rw [if_pos rfl] at consumed
  obtain ⟨_,⟨⟩,appended⟩ := consumed
  have now : lookup (state.apply update).conversation (lit "human_decisions") = some (.list (earlier ++ [.dict decision])) := by
    simp only [GraphState.apply,appended]
    exact lookup_mergeSubstate_list recorded _
  rw [successor,routeAfterGate_last now]
  rfl

omit [Printer] in
theorem routeAfterThreat_cases {state : GraphState} {node : Node} (routed : routeAfterThreat state = .ok node) :
    node = .REPORT ∨ node = .CVE_RESEARCH := by
  unfold routeAfterThreat at routed
  rw [bind_ok] at routed
  obtain ⟨verdict,_,taken⟩ := routed
  split at taken
  · split_ifs at taken <;> cases taken <;> simp
  · cases taken
    simp

/-- Every node of a run leaves by a declared edge. -/
theorem Step.flow {passes : List Pass} {here next : Checkpoint} {pass : Pass} (tracked : Tracked passes here)
    (step : Step agents here pass next) : Flow here.next pass next.next := by
  obtain ⟨here',⟨update,ran⟩,given⟩ := step
  obtain ⟨executed,applied,edge⟩ := advance_ok.mp ran
  refine ⟨here',?_⟩
  obtain ⟨node,decision⟩ := pass
  cases decision with
  | some decision =>
    obtain ⟨rfl,_⟩ := given
    rw [applied,gate_edge tracked.decisions (execute_writes executed),Except.ok.injEq] at edge
    rw [← edge]
    exact .gate _
  | none =>
    refine .plain ?_
    cases node with
    | HUMAN_GATE => exact absurd rfl given
    | THREAT_DETECTION =>
      simp only [successor,map_ok] at edge
      obtain ⟨taken,routed,follows⟩ := edge
      rw [← follows]
      rcases routeAfterThreat_cases routed with rfl | rfl <;> decide
    | _ =>
      simp only [successor,Except.ok.injEq] at edge
      rw [← edge]
      decide

omit [Printer] in
/-- Edges other than those of the gate lead forward, and those of the gate to nodes past
    the agents. -/
theorem Edge.onward {pass : Pass} {next : Option Node} (edge : Edge pass next) (other : Node) (follows : next = some other)
    (late : 5 ≤ rank other) : rank other < rank pass.node := by
  cases edge with
  | plain member =>
    have all : ∀ edge ∈ declared, ∀ other, edge.2 = some other → rank other < rank edge.1 := by decide
    exact all _ member other follows
  | gate decision =>
    rw [Option.some.injEq] at follows
    subst follows
    rcases arm_cases decision with ⟨taken,_⟩ | ⟨taken,_⟩ | ⟨taken,_⟩ <;> rw [taken] at late <;> exact absurd late (by decide)

/-- One node keeps what a run keeps. -/
theorem Tracked.step {passes : List Pass} {here next : Checkpoint} {pass : Pass} (tracked : Tracked passes here)
    (step : Step agents here pass next) : Tracked (passes ++ [pass]) next := by
  have flow := step.flow tracked
  obtain ⟨here',⟨update,ran⟩,given⟩ := step
  obtain ⟨executed,applied,_⟩ := advance_ok.mp ran
  have written := execute_writes executed
  obtain ⟨owner,detail,appended⟩ := written.history
  have shaped := tracked.shaped
  rw [here'] at shaped
  refine ⟨tracked.path.snoc flow,?_,?_,?_,?_,?_⟩
  · rw [applied,List.filterMap_append,List.map_append]
    have recorded := written.conversation
    obtain ⟨node,decision⟩ := pass
    cases decision with
    | none =>
      have elsewhere : node ≠ .HUMAN_GATE := given
      rw [if_neg elsewhere] at recorded
      simp [GraphState.apply,recorded,tracked.decisions]
    | some decision =>
      obtain ⟨rfl,_⟩ := given
      rw [if_pos rfl] at recorded
      obtain ⟨same,taken,recorded⟩ := recorded
      cases taken
      simp only [GraphState.apply,recorded]
      exact lookup_mergeSubstate_list tracked.decisions _
  · obtain ⟨alerts,stored,counted⟩ := tracked.alerts
    have sent := written.notification
    rw [applied]
    by_cases here : pass.node = .NOTIFY
    · rw [if_pos here] at sent
      obtain ⟨alert,sent⟩ := sent
      refine ⟨alerts ++ [.dict alert],?_,by simpa [notifications,here] using counted⟩
      simp only [GraphState.apply,sent]
      exact lookup_mergeSubstate_list stored _
    · rw [if_neg here] at sent
      exact ⟨alerts,by simp only [GraphState.apply,sent,mergeSubstate_nil,stored],by simpa [notifications,here] using counted⟩
  · rw [applied]
    exact numbered_extendHistory tracked.numbered _
  · rw [applied]
    simp [GraphState.apply,extendHistory,appended,tracked.recorded,transition]
  · rw [applied]
    exact shaped.step written flow.2.onward

end
end SocAnalyst.Graph
