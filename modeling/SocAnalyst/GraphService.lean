import SocAnalyst.GraphGate

/-!
# Resuming at the gate

Past the agents no node raises, so a decision taken at the gate always leads on: a
redirect back to the gate, any other to the end.
-/
namespace SocAnalyst.Graph
open SocAnalyst.Builtins SocAnalyst.Values SocAnalyst.Dicts SocAnalyst.Risk SocAnalyst.Decisions SocAnalyst.Runs

/-! ### No node past the agents raises -/

theorem Slot.read {key : Text} {writer : Node} {Dumped : Mapping → Prop} {state : GraphState} {next : Option Node}
    (slot : Slot key writer Dumped state next) :
    get state.investigation key = .null ∨ ∃ entries, get state.investigation key = .dict entries ∧ Dumped entries := by
  unfold get
  rcases slot.dumped with absent | ⟨entries,stored,dumped⟩
  · exact .inl (by rw [absent]; rfl)
  · exact .inr ⟨entries,by rw [stored]; rfl,dumped⟩

section
variable [Printer] {state : GraphState} {next : Option Node}

theorem triageDetail_returns (shaped : Shaped state next) : ∃ detail, triageDetail state = .ok detail := by
  unfold triageDetail
  rcases shaped.assessment.read with assessment | ⟨_,assessment,result,rfl⟩ <;>
    rcases shaped.dossier.read with dossier | ⟨_,dossier,found,rfl⟩ <;>
    rcases shaped.plan.read with plan | ⟨_,plan,planned,rfl⟩ <;>
    rw [assessment,dossier,plan] <;> exact ⟨_,rfl⟩

omit [Printer] in
theorem confirmedCves_returns (shaped : Shaped state next) :
    ∃ confirmed : List Text, confirmedCves (get state.investigation (lit "vulnerability_dossier")) = .ok (confirmed.map .str) := by
  rcases shaped.dossier.read with dossier | ⟨_,dossier,found,rfl⟩
  · rw [dossier]
    exact ⟨[],rfl⟩
  · rw [dossier]
    refine ⟨found.cves.map (·.1),?_⟩
    have named : ∀ cves : List (Text × Mapping × Mapping), mapRaising (fun cve => do item (lit "cve_id") (← item (lit "record") cve))
        (cves.map fun cve => Value.dict ((lit "record",.dict ((lit "cve_id",.str cve.1) :: cve.2.1)) :: cve.2.2)) =
          .ok ((cves.map (·.1)).map .str) := by
      intro cves
      rw [mapRaising_ok,List.forall₂_map_left_iff,List.map_map,List.forall₂_map_right_iff,List.forall₂_same]
      intro cve _
      rfl
    exact named found.cves

omit [Printer] in
theorem highestAt_returns (recommendations : List (TriagePriority × Mapping)) (priorities : List Text) :
    ∃ highest, highestAt (recommendations.map fun item =>
      .dict ((lit "priority",.str (priorityValue item.1)) :: item.2)) priorities = .ok highest := by
  have some : ∀ priority, ∃ found, anyAt priority (recommendations.map fun item =>
      .dict ((lit "priority",.str (priorityValue item.1)) :: item.2)) = .ok found := by
    intro priority
    induction recommendations with
    | nil => exact ⟨false,rfl⟩
    | cons recommendation rest ih =>
      by_cases here : priorityValue recommendation.1 = priority
      · exact ⟨true,by simp [anyAt,getFrom,lookup,bind,Except.bind,pure,Except.pure,here]⟩
      · obtain ⟨found,searched⟩ := ih
        exact ⟨found,by simpa [anyAt,getFrom,lookup,bind,Except.bind,here] using searched⟩
  induction priorities with
  | nil => exact ⟨none,rfl⟩
  | cons priority rest ih =>
    obtain ⟨found,searched⟩ := some priority
    obtain ⟨highest,later⟩ := ih
    cases found with
    | true => exact ⟨priority,by simp [highestAt,searched,bind,Except.bind,pure,Except.pure]⟩
    | false => exact ⟨highest,by simp [highestAt,searched,bind,Except.bind,later]⟩

omit [Printer] in
theorem remediationSummary_returns (shaped : Shaped state next) : ∃ summary, remediationSummary state = .ok summary := by
  unfold remediationSummary
  rcases shaped.plan.read with plan | ⟨_,plan,planned,rfl⟩
  · rw [plan]
    exact ⟨_,rfl⟩
  · rw [plan]
    obtain ⟨highest,searched⟩ := highestAt_returns planned.recommendations [lit "urgent",lit "high",lit "medium",lit "low"]
    have risk : ∃ score, (dumpRisk planned.overallRisk).getOr (lit "score") .null = .ok score := by
      cases planned.overallRisk <;> exact ⟨_,rfl⟩
    show ∃ summary, (highestAt _ _ >>= _) = Except.ok summary
    refine bind_returns ⟨highest,searched⟩ fun _ _ => bind_returns ⟨_,rfl⟩ ?_
    rintro read ⟨⟩
    exact bind_returns risk fun _ _ => ⟨_,rfl⟩

omit [Printer] in
theorem gateSummary_returns (shaped : Shaped state next) : ∃ summary, gateSummary state = .ok summary := by
  obtain ⟨confirmed,named⟩ := confirmedCves_returns shaped
  obtain ⟨summary,summed⟩ := remediationSummary_returns shaped
  unfold gateSummary
  rcases shaped.assessment.read with assessment | ⟨_,assessment,result,rfl⟩
  · rw [assessment]
    exact ⟨_,rfl⟩
  · rcases shaped.dossier.read with dossier | ⟨_,dossier,found,rfl⟩ <;>
      dsimp only <;> rw [assessment,named,summed,dossier] <;> exact ⟨_,rfl⟩

omit [Printer] in
theorem joinStrings_strings (separator : Text) (texts : List Text) :
    joinStrings separator (texts.map .str) = .ok (joined separator texts) := by
  have all : mapRaising joinable (texts.map Value.str) = .ok texts := by
    rw [mapRaising_ok,List.forall₂_map_left_iff,List.forall₂_same]
    exact fun _ _ => rfl
  rw [joinStrings,all]
  rfl

theorem alertFor_returns (shaped : Shaped state next) : ∃ alert, alertFor state = .ok alert := by
  obtain ⟨confirmed,named⟩ := confirmedCves_returns shaped
  obtain ⟨assets,inventory⟩ := shaped.assets
  obtain ⟨gaps,recorded⟩ := shaped.gaps
  have hosts : ∃ hosts, alertedHosts (assets.map .dict) = .ok hosts := by
    refine bind_returns (mapRaising_returns.mpr ?_) fun _ _ => ⟨_,rfl⟩
    intro asset member
    obtain ⟨entries,_,rfl⟩ := List.mem_map.mp member
    exact ⟨_,rfl⟩
  obtain ⟨hosts,listed⟩ := hosts
  have counted : ∀ items line, ∃ lines, countedLine (.list items) line = .ok lines := by
    intro items line
    unfold countedLine
    split_ifs <;> exact ⟨_,rfl⟩
  have highlights : ∃ highlights, alertHighlights state = .ok highlights := by
    unfold alertHighlights listFrom
    dsimp only
    rw [inventory,recorded,named]
    refine bind_returns ⟨_,rfl⟩ ?_
    rintro _ ⟨⟩
    refine bind_returns ⟨hosts,listed⟩ fun _ _ => bind_returns ⟨_,rfl⟩ ?_
    rintro _ ⟨⟩
    rw [← List.map_take,joinStrings_strings]
    refine bind_returns ⟨_,rfl⟩ fun _ _ => ?_
    rcases shaped.plan.read with plan | ⟨_,plan,planned,rfl⟩
    · rw [plan]
      refine bind_returns ⟨_,rfl⟩ ?_
      rintro _ ⟨⟩
      exact bind_returns (counted [] _) fun _ _ => bind_returns (counted gaps _) fun _ _ => ⟨_,rfl⟩
    · rw [plan]
      refine bind_returns ⟨_,rfl⟩ ?_
      rintro _ ⟨⟩
      exact bind_returns (counted _ _) fun _ _ => bind_returns (counted gaps _) fun _ _ => ⟨_,rfl⟩
  obtain ⟨lines,highlighted⟩ := highlights
  unfold alertFor
  rw [highlighted]
  rcases shaped.assessment.read with assessment | ⟨_,assessment,result,rfl⟩ <;> rw [assessment] <;> exact ⟨_,rfl⟩

/-! ### One node past the agents -/

variable {agents : Agents}

/-- The service accepts a decision only with a decision in it. -/
theorem coerceDecision_item {given : GivenDecision} {decision : Mapping} (accepted : coerceDecision given = .ok decision) :
    ∃ value, item (lit "decision") (.dict decision) = .ok value := by
  unfold coerceDecision at accepted
  dsimp only at accepted
  split_ifs at accepted
  cases accepted
  simp only [item,lookup_assign,if_true]
  exact ⟨_,rfl⟩

/-- Past the agents a run can always go on. -/
theorem Tracked.goes {passes : List Pass} {here : Checkpoint} (tracked : Tracked passes here) (agents : Agents) (pass : Pass)
    (waiting : here.next = some pass.node) (late : rank pass.node ≤ 4)
    (accepted : match pass.decision with
      | none => pass.node ≠ .HUMAN_GATE
      | some decision => pass.node = .HUMAN_GATE ∧ ∃ given, coerceDecision given = .ok decision) :
    ∃ next, Step agents here pass next := by
  have go : ∀ update follows, execute agents pass.node pass.decision here.values = .ok update →
      successor pass.node (here.values.apply update) = .ok follows → ∃ next, Step agents here pass next :=
    fun update follows executed edge =>
      ⟨⟨here.values.apply update,follows⟩,waiting,⟨update,advance_ok.mpr ⟨executed,rfl,edge⟩⟩,accepted⟩
  obtain ⟨node,decision⟩ := pass
  cases decision with
  | some decision =>
    obtain ⟨rfl,given,coerced⟩ := accepted
    obtain ⟨summary,summed⟩ := gateSummary_returns tracked.shaped
    obtain ⟨value,named⟩ := coerceDecision_item coerced
    have executed : ∃ update, humanGate agents here.values (some decision) = .ok update := by
      simp only [humanGate,summed,named]
      exact ⟨_,rfl⟩
    obtain ⟨update,ran⟩ := executed
    exact go update _ ran (gate_edge tracked.decisions (humanGate_writes ran))
  | none =>
    cases node with
    | HUMAN_GATE => exact absurd rfl accepted
    | TRIAGE =>
      obtain ⟨detail,made⟩ := triageDetail_returns tracked.shaped
      exact go _ _ (by simp only [execute,triage,made]; rfl) rfl
    | NOTIFY =>
      obtain ⟨alert,made⟩ := alertFor_returns tracked.shaped
      exact go _ _ (by simp only [execute,notify,made]; rfl) rfl
    | CLOSE => exact go _ _ rfl rfl
    | _ => exact absurd late (by decide)

/-! ### A run of the service -/

theorem stream_end {resume : Option Mapping} {here : Checkpoint} (ended : here.next = none) :
    stream agents resume here = ([],here,.finished) := by
  rw [stream]
  split
  · rfl
  · simp_all

theorem stream_go {resume : Option Mapping} {here next : Checkpoint} {node : Node} {update : Update} (waiting : here.next = some node)
    (ran : advance agents node resume here.values = .ok (update,next)) :
    stream agents resume here = ((node,update) :: (stream agents none next).1,(stream agents none next).2) := by
  rw [stream]
  split
  · simp_all
  · next other same =>
    rw [waiting,Option.some.injEq] at same
    subst same
    split
    · simp_all
    · simp_all
    · next found =>
      rw [ran] at found
      cases found
      rfl

variable (agents) in
/-- At the gate without a decision a run waits. -/
theorem stream_gate {here : Checkpoint} (waiting : here.next = some .HUMAN_GATE) (shaped : Shaped here.values here.next) :
    ∃ payload, stream agents none here = ([],here,.paused payload) := by
  obtain ⟨summary,summed⟩ := gateSummary_returns shaped
  have stopped : ∃ payload, advance agents .HUMAN_GATE none here.values = .error (.interrupted payload) := by
    simp only [advance,execute,humanGate,summed]
    exact ⟨_,rfl⟩
  obtain ⟨payload,stopped⟩ := stopped
  refine ⟨payload,?_⟩
  rw [stream]
  split
  · simp_all
  · next other same =>
    rw [waiting,Option.some.injEq] at same
    subst same
    split
    · next found =>
      rw [stopped] at found
      cases found
      rfl
    · simp_all
    · simp_all

/-- The passes that follow a decision up to the next stop. -/
def onward (decision : Mapping) : List Pass :=
  match arm decision with
  | .TRIAGE => [⟨.TRIAGE,none⟩]
  | .NOTIFY => [⟨.NOTIFY,none⟩,⟨.CLOSE,none⟩]
  | _ => [⟨.CLOSE,none⟩]

/-- Resuming with a decision leads back to the gate after a redirect and to the end after
    any other decision. -/
def LeadsOn (agents : Agents) (here : Checkpoint) (given : GivenDecision) (decision : Mapping) : Prop :=
  ∃ chunks final result, resume agents given here = (chunks,final,.ok result) ∧
    Run (Step agents) here (⟨.HUMAN_GATE,some decision⟩ :: onward decision) final ∧
    (Decides decision .REDIRECT → final.next = some .HUMAN_GATE ∧ result.awaitingHuman = true) ∧
    (¬ Decides decision .REDIRECT → final.next = none ∧ result.awaitingHuman = false)

theorem Step.streams {here next : Checkpoint} {pass : Pass} (step : Step agents here pass next) :
    ∃ update, stream agents pass.decision here =
      ((pass.node,update) :: (stream agents none next).1,(stream agents none next).2) := by
  obtain ⟨waiting,⟨update,ran⟩,_⟩ := step
  exact ⟨update,stream_go waiting ran⟩

variable (agents) in
/-- After the closing node a run ends. -/
theorem stream_close {passes : List Pass} {here : Checkpoint} (tracked : Tracked passes here) (waiting : here.next = some .CLOSE) :
    ∃ final chunks, Step agents here ⟨.CLOSE,none⟩ final ∧ final.next = none ∧ stream agents none here = (chunks,final,.finished) := by
  obtain ⟨final,step⟩ := tracked.goes agents ⟨.CLOSE,none⟩ waiting (show rank .CLOSE ≤ 4 by decide)
    (show Node.CLOSE ≠ .HUMAN_GATE by decide)
  have ended : final.next = none := by
    have edge := (step.flow tracked).2
    generalize final.next = after at edge
    cases edge with
    | plain member => simpa [declared] using member
  obtain ⟨update,streamed⟩ := step.streams
  rw [stream_end ended] at streamed
  exact ⟨final,_,step,ended,streamed⟩

theorem resume_leads {passes : List Pass} {here : Checkpoint} (tracked : Tracked passes here) (waiting : here.next = some .HUMAN_GATE)
    {given : GivenDecision} {decision : Mapping} (accepted : coerceDecision given = .ok decision) :
    LeadsOn agents here given decision := by
  obtain ⟨passed,step⟩ := tracked.goes agents ⟨.HUMAN_GATE,some decision⟩ waiting
    (show rank .HUMAN_GATE ≤ 4 by decide) ⟨rfl,given,accepted⟩
  have passedTracked := tracked.step step
  have taken : passed.next = some (arm decision) := by
    have edge := (step.flow tracked).2
    generalize passed.next = after at edge
    cases edge
    rfl
  obtain ⟨update,streamed⟩ := step.streams
  have resumed : resume agents given here = runFrom agents (some decision) here := by simp only [resume,waiting,accepted]
  have led : ∀ chunks final outcome result, stream agents none passed = (chunks,final,outcome) →
      outcome.result final = .ok result →
      resume agents given here = ((.HUMAN_GATE,update) :: chunks,final,.ok result) := by
    intro chunks final outcome result ran returned
    rw [resumed,runFrom,streamed,ran,← returned]
  unfold LeadsOn onward
  rcases arm_cases decision with ⟨armed,redirect⟩ | ⟨armed,approve,onward⟩ | ⟨armed,_,onward⟩
  · rw [armed] at taken ⊢
    obtain ⟨back,again⟩ := passedTracked.goes agents ⟨.TRIAGE,none⟩ taken (show rank .TRIAGE ≤ 4 by decide)
      (show Node.TRIAGE ≠ .HUMAN_GATE by decide)
    have atGate : back.next = some .HUMAN_GATE := by
      have edge := (again.flow passedTracked).2
      generalize back.next = after at edge
      cases edge with
      | plain member => simpa [declared] using member
    obtain ⟨payload,paused⟩ := stream_gate agents atGate (passedTracked.step again).shaped
    obtain ⟨other,streamedBack⟩ := again.streams
    rw [paused] at streamedBack
    exact ⟨_,back,_,led _ back _ _ streamedBack rfl,.go step (.go again (.stop back)),fun _ => ⟨atGate,rfl⟩,
      fun onward => absurd redirect onward⟩
  · rw [armed] at taken ⊢
    obtain ⟨notified,announce⟩ := passedTracked.goes agents ⟨.NOTIFY,none⟩ taken (show rank .NOTIFY ≤ 4 by decide)
      (show Node.NOTIFY ≠ .HUMAN_GATE by decide)
    have toClose : notified.next = some .CLOSE := by
      have edge := (announce.flow passedTracked).2
      generalize notified.next = after at edge
      cases edge with
      | plain member => simpa [declared] using member
    obtain ⟨final,chunks,shut,ended,finished⟩ := stream_close agents (passedTracked.step announce) toClose
    obtain ⟨other,streamedOn⟩ := announce.streams
    rw [finished] at streamedOn
    exact ⟨_,final,_,led _ final _ _ streamedOn rfl,.go step (.go announce (.go shut (.stop final))),
      fun redirect => absurd redirect onward,fun _ => ⟨ended,rfl⟩⟩
  · rw [armed] at taken ⊢
    obtain ⟨final,chunks,shut,ended,finished⟩ := stream_close agents passedTracked taken
    exact ⟨_,final,_,led _ final _ _ finished rfl,.go step (.go shut (.stop final)),
      fun redirect => absurd redirect onward,fun _ => ⟨ended,rfl⟩⟩

theorem execute_elsewhere {node : Node} (elsewhere : node ≠ .HUMAN_GATE) (decision : Option Mapping) (state : GraphState) :
    execute agents node decision state = execute agents node none state := by
  cases node <;> first | rfl | exact absurd rfl elsewhere

/-- A node that the service runs is a step. -/
theorem advance_step {here next : Checkpoint} {node : Node} {decision : Option Mapping} {update : Update} (waiting : here.next = some node)
    (ran : advance agents node decision here.values = .ok (update,next))
    (accepted : ∀ data, decision = some data → ∃ given, coerceDecision given = .ok data) : ∃ pass, Step agents here pass next := by
  by_cases gate : node = .HUMAN_GATE
  · subst gate
    obtain ⟨executed,_⟩ := advance_ok.mp ran
    have consumed := (humanGate_writes executed).conversation
    rw [if_pos rfl] at consumed
    obtain ⟨data,rfl,_⟩ := consumed
    exact ⟨⟨.HUMAN_GATE,some data⟩,waiting,⟨update,ran⟩,rfl,accepted data rfl⟩
  · refine ⟨⟨node,none⟩,waiting,⟨update,?_⟩,gate⟩
    rw [← ran]
    unfold advance
    rw [execute_elsewhere gate decision]

/-- A run of the service takes steps only. -/
theorem stream_runs (decision : Option Mapping) (here : Checkpoint)
    (accepted : ∀ data, decision = some data → ∃ given, coerceDecision given = .ok data) :
    ∃ more, Run (Step agents) here more (stream agents decision here).2.1 := by
  fun_induction stream agents decision here with
  | case1 decision here ended => exact ⟨[],.stop here⟩
  | case2 decision here node waiting payload paused => exact ⟨[],.stop here⟩
  | case3 decision here node waiting e raised => exact ⟨[],.stop here⟩
  | case4 decision here node waiting update next ran chunks ih =>
    obtain ⟨pass,step⟩ := advance_step waiting ran accepted
    obtain ⟨more,later⟩ := ih (by simp)
    exact ⟨pass :: more,.go step later⟩

/-- Without a decision a run reports the nodes it passes, none of them the gate. -/
theorem stream_passes (agents : Agents) (here : Checkpoint) :
    Run (Step agents) here ((stream agents none here).1.map fun chunk => ⟨chunk.1,none⟩) (stream agents none here).2.1 := by
  generalize given : (none : Option Mapping) = decision
  fun_induction stream agents decision here with
  | case1 decision here ended => exact .stop here
  | case2 decision here node waiting payload paused => exact .stop here
  | case3 decision here node waiting e raised => exact .stop here
  | case4 decision here node waiting update next ran chunks ih =>
    subst given
    refine .go ⟨waiting,⟨update,ran⟩,?_⟩ (ih rfl)
    rintro rfl
    have consumed := (execute_writes (advance_ok.mp ran).1).conversation
    rw [if_pos rfl] at consumed
    obtain ⟨_,⟨⟩,_⟩ := consumed

/-- Without decisions the service goes through the passes of a run. -/
theorem stream_run {passes : List Pass} {here final : Checkpoint} (run : Run (Step agents) here passes final)
    (undecided : ∀ pass ∈ passes, pass.decision = none) : (stream agents none here).2 = (stream agents none final).2 := by
  induction run with
  | stop => rfl
  | go step _ ih =>
    obtain ⟨update,streamed⟩ := step.streams
    rw [undecided _ (List.mem_cons_self ..)] at streamed
    rw [streamed]
    exact ih fun pass member => undecided pass (List.mem_cons_of_mem _ member)

theorem execute_interrupted {node : Node} {decision : Option Mapping} {state : GraphState} {payload : Mapping}
    (stopped : execute agents node decision state = .error (.interrupted payload)) : node = .HUMAN_GATE := by
  have raises : ∀ x : Except PyError Update, x.mapError Stop.raised ≠ .error (.interrupted payload) := by
    intro x
    cases x <;> simp [Except.mapError]
  cases node with
  | HUMAN_GATE => rfl
  | _ =>
    unfold execute at stopped
    exact absurd stopped (raises _)

/-- Only the gate pauses a run. -/
theorem stream_paused (decision : Option Mapping) (here : Checkpoint) (payload : Mapping)
    (paused : (stream agents decision here).2.2 = .paused payload) : (stream agents decision here).2.1.next = some .HUMAN_GATE := by
  fun_induction stream agents decision here with
  | case1 decision here ended => cases paused
  | case2 decision here node waiting asked stopped =>
    rw [waiting,Option.some.injEq]
    unfold advance at stopped
    cases executed : execute agents node decision here.values with
    | error stop =>
      simp only [executed,Except.error.injEq] at stopped
      subst stopped
      exact execute_interrupted executed
    | ok update =>
      simp only [executed] at stopped
      split at stopped <;> cases stopped
  | case3 decision here node waiting e raised => cases paused
  | case4 decision here node waiting update next ran later ih => exact ih paused

/-- The nodes a run may have passed on its first way to the report. -/
def reportFronts : List (List Node) :=
  [[.INGEST_SEED,.LOG_ANALYSIS,.THREAT_DETECTION],[.INGEST_SEED,.LOG_ANALYSIS,.THREAT_DETECTION,.CVE_RESEARCH]]

/-- The nodes a run may have passed on its first way to a node. -/
def fronts : Option Node → List (List Node)
  | some .INGEST_SEED => [[]]
  | some .LOG_ANALYSIS => [[.INGEST_SEED]]
  | some .THREAT_DETECTION => [[.INGEST_SEED,.LOG_ANALYSIS]]
  | some .CVE_RESEARCH => [[.INGEST_SEED,.LOG_ANALYSIS,.THREAT_DETECTION]]
  | some .REPORT => reportFronts
  | some .REMEDIATION => reportFronts.map (· ++ [.REPORT])
  | some .TRIAGE => reportFronts.map (· ++ [.REPORT,.REMEDIATION])
  | some .HUMAN_GATE => reportFronts.map (· ++ [.REPORT,.REMEDIATION,.TRIAGE])
  | _ => []

omit [Printer] in
/-- A run that has not passed the gate came one of two ways. -/
theorem path_fronts {passes : List Pass} {next : Option Node} (run : Run Flow (some .INGEST_SEED) passes next)
    (undecided : ∀ pass ∈ passes, pass.decision = none) : passes.map (·.node) ∈ fronts next := by
  have all := run.accumulates (P := fun done here => (∀ pass ∈ done, pass.decision = none) → done.map (·.node) ∈ fronts here) ?_ []
    (by simp [fronts])
  · exact all undecided
  · rintro done _ pass next earlier ⟨rfl,edge⟩ plain
    have front := earlier fun pass member => plain pass (List.mem_append_left _ member)
    have here := plain pass (by simp)
    cases edge with
    | plain member =>
      have onward : ∀ edge ∈ declared, ∀ path ∈ fronts (some edge.1), path ++ [edge.1] ∈ fronts edge.2 := by decide
      rw [List.map_append]
      exact onward _ member _ front
    | gate decision => cases here

/-- Whatever a resume leaves was reached by steps. -/
theorem resume_runs (given : GivenDecision) (here : Checkpoint) :
    ∃ more, Run (Step agents) here more (resume agents given here).2.1 := by
  unfold resume
  split
  · exact ⟨[],.stop here⟩
  · split
    · exact ⟨[],.stop here⟩
    · next accepted =>
      refine stream_runs _ here ?_
      rintro data ⟨⟩
      exact ⟨given,accepted⟩

/-! ### Every run -/

omit [Printer] in
/-- A fresh investigation before its first node. -/
theorem Tracked.seeded {investigationId triggerSource : Text} {configSnapshot : Mapping} {createdAt : Text} {evidence : Mapping}
    {assets : List Mapping} {values : GraphState}
    (seeded : newState investigationId triggerSource configSnapshot createdAt evidence assets = .ok values) :
    Tracked [] ⟨values,some .INGEST_SEED⟩ := by
  simp only [newState,bind_ok] at seeded
  obtain ⟨_,_,_,_,_,_,made⟩ := seeded
  cases made
  exact ⟨.stop _,rfl,⟨[],rfl,rfl⟩,rfl,rfl,⟨⟨assets,rfl⟩,⟨[],rfl⟩,⟨fun _ _ _ => rfl,.inl rfl⟩,⟨fun _ _ _ => rfl,.inl rfl⟩,
    ⟨fun _ _ _ => rfl,.inl rfl⟩⟩⟩

/-- What holds of an investigation whose nodes passed so. -/
structure Investigated (agents : Agents) (passes : List Pass) (here : Checkpoint) : Prop where
  gated : Gated passes
  decisions : lookup here.values.conversation (lit "human_decisions") = some (.list ((passes.filterMap (·.decision)).map .dict))
  alerted : here.next = none → (∃ decision, lastDecision passes = some decision ∧ Decides decision .APPROVE) →
    ∃ alert, lookup here.values.notification (lit "pending") = some (.list [alert])
  silent : here.next = none → (¬ ∃ decision, lastDecision passes = some decision ∧ Decides decision .APPROVE) →
    lookup here.values.notification (lit "pending") = some (.list [])
  numbered : Numbered here.values.nodeHistory
  recorded : here.values.nodeHistory.map (·.node) = passes.map (·.node)
  leads : here.next = some .HUMAN_GATE → ∀ given decision, coerceDecision given = .ok decision → LeadsOn agents here given decision

omit [Printer] in
theorem approved_iff (passes : List Pass) :
    approved passes = true ↔ ∃ decision, lastDecision passes = some decision ∧ Decides decision .APPROVE := by
  unfold approved
  cases last : lastDecision passes with
  | none => simp
  | some decision => simp [arm_notify]

theorem Tracked.investigated {passes : List Pass} {here : Checkpoint} (tracked : Tracked passes here) : Investigated agents passes here := by
  obtain ⟨alerts,stored,counted⟩ := tracked.alerts
  rw [(notifications_counted tracked.path).1] at counted
  refine ⟨flow_gated tracked.path,tracked.decisions,?_,?_,tracked.numbered,tracked.recorded,?_⟩
  · intro ended approve
    rw [if_pos ⟨.inr ended,(approved_iff passes).mpr approve⟩,List.length_eq_one_iff] at counted
    obtain ⟨alert,rfl⟩ := counted
    exact ⟨alert,stored⟩
  · intro ended other
    rw [if_neg (fun both => other ((approved_iff passes).mp both.2)),List.length_eq_zero_iff] at counted
    rw [stored,counted]
  · exact fun waiting given decision accepted => resume_leads tracked waiting accepted

theorem run_tracked {passes : List Pass} {here next : Checkpoint} {more : List Pass} (tracked : Tracked passes here)
    (run : Run (Step agents) here more next) : Tracked (passes ++ more) next :=
  run.accumulates (fun _ _ _ _ tracked step => tracked.step step) passes tracked

theorem history_grows {here next : Checkpoint} {passes : List Pass} (run : Run (Step agents) here passes next) :
    here.values.nodeHistory <+: next.values.nodeHistory := by
  refine run.relates (R := fun here next => here.values.nodeHistory <+: next.values.nodeHistory) (fun _ => List.prefix_rfl)
    (fun _ _ _ => List.IsPrefix.trans) ?_
  rintro here pass next ⟨_,⟨update,ran⟩,_⟩
  obtain ⟨_,applied,_⟩ := advance_ok.mp ran
  rw [applied]
  exact prefix_extendHistory _ _

/-- In every state an investigation reaches, nobody was notified except right after an
    approving pass of the gate, the record of the decisions is complete, and the history
    only grew. -/
theorem gate_guards_every_run (agents : Agents) {investigationId triggerSource : Text} {configSnapshot : Mapping} {createdAt : Text}
    {evidence : Mapping} {assets : List Mapping} {values : GraphState}
    (seeded : newState investigationId triggerSource configSnapshot createdAt evidence assets = .ok values)
    {passes more : List Pass} {middle final : Checkpoint} (run : Run (Step agents) ⟨values,some .INGEST_SEED⟩ passes middle)
    (later : Run (Step agents) middle more final) :
    Investigated agents (passes ++ more) final ∧ middle.values.nodeHistory <+: final.values.nodeHistory := by
  have tracked : Tracked ([] ++ (passes ++ more)) final := run_tracked (Tracked.seeded seeded) (run.append later)
  exact ⟨tracked.investigated,history_grows later⟩

end
/-- Agents that find nothing in an investigation without evidence. -/
def quietAgents : Agents where
  analyze _ := .ok ⟨⟨[],[],[],[],[],.int 1,.int 0⟩,.int 1,.null,[]⟩
  assess _ := .ok ⟨⟨.BENIGN,.INFO,.int 0,.LOW,[],[],[],lit "unavailable",false,none,.int 1,[]⟩,.int 1,.null,[]⟩
  research _ := .ok ⟨⟨[],[],[],none,false,[]⟩,.int 1,.null,[]⟩
  report _ := .ok ⟨⟨lit "Nothing found",lit "Nothing found",[],lit "draft",[],[],[],[],true⟩,.int 1,.null,[]⟩
  recommend _ := .ok ⟨⟨[],none,none,false,[]⟩,.int 1,.null,[]⟩
  readable _ := true
  utcnow _ := lit "2024-01-01T00:00:00+00:00"

/-- A benign investigation reaches the gate. -/
theorem quiet_pauses :
    let _ := asciiPrinter
    ∃ values passes here, newState (lit "inv") (lit "manual") [] [] [] [] = .ok values ∧
      Run (Step quietAgents) ⟨values,some .INGEST_SEED⟩ passes here ∧ here.next = some .HUMAN_GATE := by
  intro _
  let values := (newState (lit "inv") (lit "manual") [] [] [] []).toOption.get rfl
  have front : Run (Step quietAgents) ⟨values,some .INGEST_SEED⟩ [⟨.INGEST_SEED,none⟩,⟨.LOG_ANALYSIS,none⟩,
      ⟨.THREAT_DETECTION,none⟩,⟨.REPORT,none⟩,⟨.REMEDIATION,none⟩,⟨.TRIAGE,none⟩] _ :=
    .go ⟨rfl,⟨_,rfl⟩,by decide⟩ (.go ⟨rfl,⟨_,rfl⟩,by decide⟩ (.go ⟨rfl,⟨_,rfl⟩,by decide⟩ (.go ⟨rfl,⟨_,rfl⟩,by decide⟩
      (.go ⟨rfl,⟨_,rfl⟩,by decide⟩ (.go ⟨rfl,⟨_,rfl⟩,by decide⟩ (.stop _))))))
  exact ⟨values,_,_,rfl,front,rfl⟩

/-- A benign investigation that is approved at the gate. -/
theorem approved_investigation_guarded :
    let _ := asciiPrinter
    ∃ values middle final passes more, newState (lit "inv") (lit "manual") [] [] [] [] = .ok values ∧
      Run (Step quietAgents) ⟨values,some .INGEST_SEED⟩ passes middle ∧ Run (Step quietAgents) middle more final ∧
      final.next = none ∧ Investigated quietAgents (passes ++ more) final ∧
      middle.values.nodeHistory <+: final.values.nodeHistory := by
  intro _
  obtain ⟨values,passes,middle,seeded,run,waiting⟩ := quiet_pauses
  have tracked : Tracked ([] ++ passes) middle := run_tracked (Tracked.seeded seeded) run
  have led : LeadsOn quietAgents middle (.text (lit "approve")) [(lit "decision",.str (lit "approve"))] :=
    resume_leads tracked waiting rfl
  obtain ⟨_,final,_,_,later,_,ended⟩ := led
  have onward : ¬ Decides [(lit "decision",.str (lit "approve"))] .REDIRECT :=
    fun same => absurd (Value.str.inj same) (by decide)
  exact ⟨values,middle,final,_,_,seeded,run,later,(ended onward).1,gate_guards_every_run quietAgents seeded run later⟩

end SocAnalyst.Graph
