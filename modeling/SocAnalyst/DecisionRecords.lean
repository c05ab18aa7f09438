import SocAnalyst.GateDecision

/-!
# What decisions leave on record

The requests of `GateDecision` in any interleaving, those that race included. However they
come, what the graph has become and what is final is accounted for by decisions that were
on record before.
-/
namespace SocAnalyst.DecisionRecords
open SocAnalyst.Builtins SocAnalyst.Values SocAnalyst.Decisions SocAnalyst.Runs SocAnalyst.Graph SocAnalyst.GateDecision

section
variable [Printer] (agents : Agents) (investigationId : Text) (requests : Nat → GateDecisionRequest) (utcnow : Text)

/-- What a resume with the decision of a request makes of the checkpoint. -/
def resumedBy (checkpoint : Checkpoint) (request : Nat) : Checkpoint :=
  (resume agents (.text (requests request).decision.value) checkpoint).2.1

omit [Printer] in
/-- A decision is in the words of its request, in a thread of the investigation. -/
def Recorded (conversations : List Conversation) (request : Nat) (decision : HumanDecision) : Prop :=
  ∃ conversation ∈ conversations, conversation.investigationId = investigationId ∧
    decision = decisionRow (requests request) conversation.id

omit [Printer] in
/-- The request has its decision on record. -/
def OnRecord : Phase → Prop
  | .committed _ | .resumed _ _ _ | .answered _ => True
  | _ => False

omit [Printer] in
/-- The request has not committed anything. -/
def Unrecorded : Phase → Prop
  | .submitted | .checked _ | .flushed _ _ _ => True
  | _ => False

/-- The record after some requests committed in an order, and some of these resumed the
    graph in an order. -/
structure Accounts (start world : World) (order resumes : List Nat) : Prop where
  audit : world.database.audit = start.database.audit ++ order.map fun request => decisionEntry investigationId (requests request)
  decisions : ∃ rows, world.database.decisions = start.database.decisions ++ rows ∧
    List.Forall₂ (Recorded investigationId requests world.database.conversations) order rows
  once : order.Nodup
  onRecord : ∀ request, OnRecord (world.phases request) → request ∈ order
  unrecorded : ∀ request, Unrecorded (world.phases request) → request ∉ order
  flushed : ∀ request row opened decision, world.phases request = .flushed row opened decision →
    Recorded investigationId requests (world.database.conversations ++ opened.toList) request decision
  resumed : resumes.Nodup ∧ resumes ⊆ order
  waiting : ∀ request row, world.phases request = .committed row → request ∉ resumes
  graph : world.checkpoint = resumes.foldl (resumedBy agents requests) start.checkpoint
  report : world.database.report = start.database.report ∨ (world.database.report = start.database.report.map fun _ => .FINAL) ∧
    ∃ request response, world.phases request = .answered response ∧ (requests request).decision = .APPROVE
  answered : ∀ request response, world.phases request = .answered response →
    response.decision = (requests request).decision ∧ response.executed = false

variable {agents investigationId requests utcnow} {start world next : World} {order resumes : List Nat} {request : Nat}

theorem accounts_start (submitted : ∀ request, start.phases request = .submitted) :
    Accounts agents investigationId requests start start [] [] where
  audit := by simp
  decisions := ⟨[],by simp,.nil⟩
  once := List.nodup_nil
  onRecord request recorded := by simp [OnRecord,submitted] at recorded
  unrecorded _ _ := List.not_mem_nil
  flushed request row opened decision held := by simp [submitted] at held
  resumed := ⟨List.nodup_nil,List.nil_subset _⟩
  waiting request row held := by simp [submitted] at held
  graph := rfl
  report := .inl rfl
  answered request response held := by simp [submitted] at held

/-- The reasons for a final report stay when a request that is not answered moves on. -/
theorem Accounts.report_setPhase (accounts : Accounts agents investigationId requests start world order resumes)
    (going : (world.phases request).done = false) (phase : Phase) :
    world.database.report = start.database.report ∨ (world.database.report = start.database.report.map fun _ => .FINAL) ∧
      ∃ other response, (world.setPhase request phase).phases other = .answered response ∧ (requests other).decision = .APPROVE := by
  rcases accounts.report with same | ⟨final,other,response,answered,approved⟩
  · exact .inl same
  refine .inr ⟨final,other,response,?_,approved⟩
  have apart : other ≠ request := by
    rintro rfl
    rw [answered] at going
    cases going
  simpa [World.setPhase,apart] using answered

/-- A request goes on to a phase that writes nothing. -/
theorem Accounts.setPhase (accounts : Accounts agents investigationId requests start world order resumes)
    (going : (world.phases request).done = false) {phase : Phase} (silent : ¬ OnRecord phase) (unrecorded : Unrecorded phase → request ∉ order)
    (flushed : ∀ row opened decision, phase = .flushed row opened decision →
      Recorded investigationId requests (world.database.conversations ++ opened.toList) request decision) :
    Accounts agents investigationId requests start (world.setPhase request phase) order resumes where
  audit := accounts.audit
  decisions := accounts.decisions
  once := accounts.once
  onRecord other recorded := by
    by_cases same : other = request
    · exact absurd (by simpa [World.setPhase,same] using recorded) silent
    · exact accounts.onRecord other (by simpa [World.setPhase,same] using recorded)
  unrecorded other nothing := by
    by_cases same : other = request
    · rw [same] at nothing ⊢
      exact unrecorded (by simpa [World.setPhase] using nothing)
    · exact accounts.unrecorded other (by simpa [World.setPhase,same] using nothing)
  flushed other row opened decision held := by
    by_cases same : other = request
    · rw [same] at held ⊢
      exact flushed row opened decision (by simpa [World.setPhase] using held)
    · exact accounts.flushed other row opened decision (by simpa [World.setPhase,same] using held)
  resumed := accounts.resumed
  waiting other row held := by
    by_cases same : other = request
    · exact absurd (by rw [same] at held; simp only [World.setPhase,Function.update_self] at held; rw [held]; trivial) silent
    · exact accounts.waiting other row (by simpa [World.setPhase,same] using held)
  graph := accounts.graph
  report := accounts.report_setPhase going phase
  answered other response held := by
    by_cases same : other = request
    · exact absurd (by rw [same] at held; simp only [World.setPhase,Function.update_self] at held; rw [held]; trivial) silent
    · exact accounts.answered other response (by simpa [World.setPhase,same] using held)

omit [Printer] in
theorem conversationFor_recorded (database : Database) : let thread := conversationFor investigationId (requests request) database
    Recorded investigationId requests (database.conversations ++ thread.2.toList) request (decisionRow (requests request) thread.1.id) := by
  intro thread
  refine ⟨thread.1,?_,?_,rfl⟩
  · unfold thread conversationFor
    cases found : database.conversations.find? fun conversation => conversation.investigationId = investigationId with
    | none => simp
    | some existing => simpa using List.mem_of_find?_eq_some found
  · unfold thread conversationFor
    cases found : database.conversations.find? fun conversation => conversation.investigationId = investigationId with
    | none => rfl
    | some existing => simpa using List.find?_some found

omit [Printer] in
theorem Recorded.mono {conversations more : List Conversation} (kept : conversations ⊆ more) {decision : HumanDecision}
    (recorded : Recorded investigationId requests conversations request decision) : Recorded investigationId requests more request decision := by
  obtain ⟨conversation,listed,own,same⟩ := recorded
  exact ⟨conversation,kept listed,own,same⟩

theorem Accounts.commitDecision (accounts : Accounts agents investigationId requests start world order resumes) {row : Investigation}
    {opened : Option Conversation} {decision : HumanDecision} (here : world.phases request = .flushed row opened decision) :
    Accounts agents investigationId requests start (commitDecision investigationId requests request row opened decision world)
      (order ++ [request]) resumes := by
  have new : request ∉ order := accounts.unrecorded request (by rw [here]; trivial)
  have going : (world.phases request).done = false := by rw [here]; rfl
  constructor
  · simp [GateDecision.commitDecision,accounts.audit]
  · obtain ⟨rows,listed,each⟩ := accounts.decisions
    refine ⟨rows ++ [decision],by simp [GateDecision.commitDecision,World.setPhase,listed],List.rel_append ?_ ?_⟩
    · exact each.imp fun _ _ recorded => recorded.mono (List.subset_append_left _ _)
    · exact .cons (accounts.flushed request row opened decision here) .nil
  · exact List.nodup_append.mpr ⟨accounts.once,List.nodup_singleton _,fun other member last single equal =>
      new (List.mem_singleton.mp single ▸ equal ▸ member)⟩
  · intro other recorded
    by_cases same : other = request
    · simp [same]
    · exact List.mem_append_left _ (accounts.onRecord other (by simpa [GateDecision.commitDecision,World.setPhase,same] using recorded))
  · intro other nothing
    by_cases same : other = request
    · simp [GateDecision.commitDecision,World.setPhase,same,Unrecorded] at nothing
    · have before := accounts.unrecorded other (by simpa [GateDecision.commitDecision,World.setPhase,same] using nothing)
      simp [before,same]
  · intro other row' opened' decision' held
    by_cases same : other = request
    · simp [GateDecision.commitDecision,World.setPhase,same] at held
    · have recorded := accounts.flushed other row' opened' decision' (by simpa [GateDecision.commitDecision,World.setPhase,same] using held)
      refine recorded.mono fun conversation listed => ?_
      simp only [GateDecision.commitDecision,List.mem_append] at listed ⊢
      tauto
  · exact ⟨accounts.resumed.1,List.subset_append_of_subset_left _ accounts.resumed.2⟩
  · intro other row' held
    by_cases same : other = request
    · exact fun listed => new (same ▸ accounts.resumed.2 listed)
    · exact accounts.waiting other row' (by simpa [GateDecision.commitDecision,World.setPhase,same] using held)
  · exact accounts.graph
  · exact accounts.report_setPhase going _
  · intro other response held
    by_cases same : other = request
    · simp [GateDecision.commitDecision,World.setPhase,same] at held
    · exact accounts.answered other response (by simpa [GateDecision.commitDecision,World.setPhase,same] using held)

omit [Printer] in
/-- The request has been at the graph, or is refused. -/
def Past : Phase → Prop
  | .resumed _ _ _ | .refused _ => True
  | _ => False

/-- A resume moves the graph, and the request on to its outcome or out. -/
theorem resumeGraph_eq (row : Investigation) : ∃ phase, Past phase ∧ resumeGraph agents requests request row world =
    { world.setPhase request phase with checkpoint := resumedBy agents requests world.checkpoint request } := by
  unfold resumeGraph resumedBy
  rcases resume agents (.text (requests request).decision.value) world.checkpoint with ⟨chunks,checkpoint,failed | result⟩
  · cases failed with
    | invalidResume message => exact ⟨.refused (.conflict message),trivial,rfl⟩
    | raised e => exact ⟨.refused (.failed e),trivial,rfl⟩
  · exact ⟨.resumed row result (collectAlerts chunks),trivial,rfl⟩

theorem Accounts.resumeGraph (accounts : Accounts agents investigationId requests start world order resumes) {row : Investigation}
    (here : world.phases request = .committed row) : Accounts agents investigationId requests start (resumeGraph agents requests request row world)
      order (resumes ++ [request]) := by
  have listed : request ∈ order := accounts.onRecord request (by rw [here]; trivial)
  have new : request ∉ resumes := accounts.waiting request row here
  have going : (world.phases request).done = false := by rw [here]; rfl
  obtain ⟨phase,past,moved⟩ := @resumeGraph_eq _ agents requests world request row
  rw [moved]
  constructor
  · exact accounts.audit
  · exact accounts.decisions
  · exact accounts.once
  · intro other recorded
    by_cases same : other = request
    · exact same ▸ listed
    · exact accounts.onRecord other (by simpa [World.setPhase,same] using recorded)
  · intro other nothing
    by_cases same : other = request
    · simp only [World.setPhase,same,Function.update_self] at nothing
      cases phase <;> simp [Past,Unrecorded] at past nothing
    · exact accounts.unrecorded other (by simpa [World.setPhase,same] using nothing)
  · intro other row' opened decision held
    by_cases same : other = request
    · simp only [World.setPhase,same,Function.update_self] at held
      exact absurd past (by rw [held]; exact id)
    · exact accounts.flushed other row' opened decision (by simpa [World.setPhase,same] using held)
  · refine ⟨List.nodup_append.mpr ⟨accounts.resumed.1,List.nodup_singleton _,fun other member last single equal =>
      new (List.mem_singleton.mp single ▸ equal ▸ member)⟩,List.append_subset.mpr ⟨accounts.resumed.2,?_⟩⟩
    simpa using listed
  · intro other row' held
    by_cases same : other = request
    · simp only [World.setPhase,same,Function.update_self] at held
      exact absurd past (by rw [held]; exact id)
    · have before := accounts.waiting other row' (by simpa [World.setPhase,same] using held)
      simp [before,same]
  · rw [List.foldl_append,← accounts.graph]
    rfl
  · exact accounts.report_setPhase going _
  · intro other response held
    by_cases same : other = request
    · simp only [World.setPhase,same,Function.update_self] at held
      exact absurd past (by rw [held]; exact id)
    · exact accounts.answered other response (by simpa [World.setPhase,same] using held)

/-- What an outcome leaves: the record, a report that an approval has made final, and an answer. -/
structure Settles (body : GateDecisionRequest) (request : Nat) (world next : World) : Prop where
  audit : next.database.audit = world.database.audit
  decisions : next.database.decisions = world.database.decisions
  conversations : next.database.conversations = world.database.conversations
  report : next.database.report = if body.decision = .APPROVE then world.database.report.map fun _ => .FINAL else world.database.report
  graph : next.checkpoint = world.checkpoint
  answered : ∃ response, next.phases = Function.update world.phases request (.answered response) ∧ response.decision = body.decision ∧
    response.executed = false

omit [Printer] in
theorem applyGateOutcome_settles (row : Investigation) (result : GraphRunResult) (alerts : List Value) :
    Settles (requests request) request world (applyGateOutcome investigationId requests utcnow request row result alerts world) := by
  have kept : ∀ status (database : Database), (markStatus utcnow row status database).audit = database.audit ∧
      (markStatus utcnow row status database).decisions = database.decisions ∧
      (markStatus utcnow row status database).conversations = database.conversations ∧
      (markStatus utcnow row status database).report = database.report := by
    intro status database
    unfold markStatus
    split_ifs <;> exact ⟨rfl,rfl,rfl,rfl⟩
  constructor
  · simp only [applyGateOutcome]
    split_ifs <;> exact (kept _ _).1
  · simp only [applyGateOutcome]
    split_ifs <;> exact (kept _ _).2.1
  · simp only [applyGateOutcome]
    split_ifs <;> exact (kept _ _).2.2.1
  · by_cases approved : (requests request).decision = .APPROVE
    · simp only [applyGateOutcome,approved,if_true]
      exact congrArg (Option.map _) (kept _ _).2.2.2
    · simp only [applyGateOutcome,approved,if_false]
      exact (kept _ _).2.2.2
  · rfl
  · exact ⟨_,rfl,rfl,rfl⟩

theorem Accounts.settle (accounts : Accounts agents investigationId requests start world order resumes) {row : Investigation}
    {result : GraphRunResult} {alerts : List Value} (here : world.phases request = .resumed row result alerts)
    (settles : Settles (requests request) request world next) : Accounts agents investigationId requests start next order resumes := by
  have listed : request ∈ order := accounts.onRecord request (by rw [here]; trivial)
  obtain ⟨response,phases,decision,executed⟩ := settles.answered
  have elsewhere : ∀ other, other ≠ request → next.phases other = world.phases other := fun other apart => by
    rw [phases,Function.update_of_ne apart]
  have own : next.phases request = .answered response := by rw [phases,Function.update_self]
  constructor
  · rw [settles.audit,accounts.audit]
  · rw [settles.decisions,settles.conversations]
    exact accounts.decisions
  · exact accounts.once
  · intro other recorded
    by_cases same : other = request
    · exact same ▸ listed
    · exact accounts.onRecord other (elsewhere other same ▸ recorded)
  · intro other nothing
    by_cases same : other = request
    · rw [same,own] at nothing
      exact nothing.elim
    · exact accounts.unrecorded other (elsewhere other same ▸ nothing)
  · intro other row' opened decision' held
    rw [settles.conversations]
    by_cases same : other = request
    · rw [same,own] at held
      cases held
    · exact accounts.flushed other row' opened decision' (elsewhere other same ▸ held)
  · exact accounts.resumed
  · intro other row' held
    by_cases same : other = request
    · rw [same,own] at held
      cases held
    · exact accounts.waiting other row' (elsewhere other same ▸ held)
  · rw [settles.graph,accounts.graph]
  · rw [settles.report]
    split_ifs with approved
    · refine .inr ⟨?_,request,response,own,approved⟩
      rcases accounts.report with same | ⟨final,-⟩
      · rw [same]
      · rw [final,Option.map_map]
        rfl
    · rcases accounts.report with same | ⟨final,other,answer,answered,agreed⟩
      · exact .inl same
      · have apart : other ≠ request := by
          rintro rfl
          exact approved agreed
        exact .inr ⟨final,other,answer,(elsewhere other apart).trans answered,agreed⟩
  · intro other answer held
    by_cases same : other = request
    · rw [same,own] at held
      obtain rfl := Phase.answered.inj held
      exact same ▸ ⟨decision,executed⟩
    · exact accounts.answered other answer (elsewhere other same ▸ held)

/-- One request taking a step keeps the account. -/
theorem Accounts.act (accounts : Accounts agents investigationId requests start world order resumes)
    (step : Act agents investigationId requests utcnow world request next) :
    ∃ order resumes, Accounts agents investigationId requests start next order resumes := by
  obtain ⟨going,rfl⟩ := step
  unfold GateDecision.act
  cases here : world.phases request with
  | submitted =>
    have new : request ∉ order := accounts.unrecorded request (by rw [here]; trivial)
    refine ⟨order,resumes,?_⟩
    unfold readStatus
    cases world.database.investigation with
    | none => exact accounts.setPhase going id (fun _ => new) nofun
    | some row =>
      dsimp only
      split_ifs
      · exact accounts.setPhase going id (fun _ => new) nofun
      · exact accounts.setPhase going id (fun _ => new) nofun
  | checked row =>
    have new : request ∉ order := accounts.unrecorded request (by rw [here]; trivial)
    refine ⟨order,resumes,accounts.setPhase going id (fun _ => new) fun row' opened decision same => ?_⟩
    obtain ⟨-,rfl,rfl⟩ := Phase.flushed.inj same
    exact conversationFor_recorded world.database
  | flushed row opened decision => exact ⟨_,_,accounts.commitDecision here⟩
  | committed row => exact ⟨_,_,accounts.resumeGraph here⟩
  | resumed row result alerts => exact ⟨_,_,accounts.settle here (applyGateOutcome_settles row result alerts)⟩
  | answered response | refused refusal =>
    rw [here] at going
    cases going

/-- Any requests at the gate, in any interleaving: every decision that was committed has one
    audit entry, in the same order and in the words of its request, in a thread of the
    investigation; a request resumes the graph or is answered only with its decision on
    record; the graph is where the decisions of such requests have led it, each fed once; a
    report becomes final only on an approval; and no answer claims that anything was executed. -/
theorem decisions_accountable {start world : World} {steps : List Nat} (submitted : ∀ request, start.phases request = .submitted)
    (run : Run (Act agents investigationId requests utcnow) start steps world) :
    ∃ order resumes, Accounts agents investigationId requests start world order resumes := by
  have keeps : ∀ here request next, (∃ order resumes, Accounts agents investigationId requests start here order resumes) →
      Act agents investigationId requests utcnow here request next →
      ∃ order resumes, Accounts agents investigationId requests start next order resumes := by
    rintro here request next ⟨order,resumes,accounts⟩ step
    exact accounts.act step
  exact run.invariant keeps ⟨[],[],accounts_start submitted⟩

end

/-- One sends the case back for more work, and one approves. -/
def redirectThenApprove : Nat → GateDecisionRequest
  | 0 => { decision := .REDIRECT, actorId := lit "ana", decisionId := lit "d0", conversationId := lit "c0" }
  | _ => { decision := .APPROVE, actorId := lit "bob", decisionId := lit "d1", conversationId := lit "c1" }

/-- Both requests read the open gate before either decides; the first resumes the graph back
    to the gate and the second on to its end, and both are answered. -/
theorem race_accounted : let _ := asciiPrinter
    ∃ checkpoint world first second, checkpoint.next = some .HUMAN_GATE ∧
      Run (Act quietAgents (lit "inv") redirectThenApprove []) (waitingWorld checkpoint) [0,1,0,0,1,1,0,1,0,1] world ∧
      world.phases 0 = .answered first ∧ world.phases 1 = .answered second ∧ world.checkpoint.next = none ∧
      world.database.decisions.length = 2 ∧
      ∃ order resumes, Accounts quietAgents (lit "inv") redirectThenApprove (waitingWorld checkpoint) world order resumes := by
  intro printer
  obtain ⟨values,passes,checkpoint,seeded,reached,waiting⟩ := quiet_pauses
  have tracked : Tracked ([] ++ passes) checkpoint := run_tracked (Tracked.seeded seeded) reached
  have back : LeadsOn quietAgents checkpoint (.text DecisionType.REDIRECT.value) _ :=
    resume_leads tracked waiting (coerceDecision_value .REDIRECT)
  obtain ⟨chunks,again,result,redirected,returned,toGate,_⟩ := back
  have on : LeadsOn quietAgents again (.text DecisionType.APPROVE.value) _ :=
    resume_leads (run_tracked tracked returned) (toGate rfl).1 (coerceDecision_value .APPROVE)
  obtain ⟨chunks',final,result',approved,_,_,ended⟩ := on
  have closed : final.next = none := (ended (mt (decides_redirect .APPROVE).mp (by decide))).1
  -- both read, then both commit
  obtain ⟨both,recorded,first,second,graph,decisions⟩ : ∃ both,
      Run (Act quietAgents (lit "inv") redirectThenApprove []) (waitingWorld checkpoint) [0,1,0,0,1,1] both ∧
      both.phases 0 = .committed { status := .AWAITING_APPROVAL } ∧ both.phases 1 = .committed { status := .AWAITING_APPROVAL } ∧
      both.checkpoint = checkpoint ∧ both.database.decisions.length = 2 :=
    ⟨_,.go ⟨rfl,rfl⟩ (.go ⟨rfl,rfl⟩ (.go ⟨rfl,rfl⟩ (.go ⟨rfl,rfl⟩ (.go ⟨rfl,rfl⟩ (.go ⟨rfl,rfl⟩ (.stop _)))))),rfl,rfl,rfl,rfl⟩
  let redirecting : World :=
    { both.setPhase 0 (.resumed { status := .AWAITING_APPROVAL } result (collectAlerts chunks)) with checkpoint := again }
  have redirect : Act quietAgents (lit "inv") redirectThenApprove [] both 0 redirecting :=
    act_resumes first (by rw [graph]; exact redirected)
  let approving : World :=
    { redirecting.setPhase 1 (.resumed { status := .AWAITING_APPROVAL } result' (collectAlerts chunks')) with checkpoint := final }
  have approve : Act quietAgents (lit "inv") redirectThenApprove [] redirecting 1 approving :=
    act_resumes (show redirecting.phases 1 = .committed { status := .AWAITING_APPROVAL } from second) approved
  -- both are answered
  have settles : ∀ (world : World) (request : Nat) row result alerts, world.phases request = .resumed row result alerts →
      Act quietAgents (lit "inv") redirectThenApprove [] world request (act quietAgents (lit "inv") redirectThenApprove [] request world) ∧
      Settles (redirectThenApprove request) request world (act quietAgents (lit "inv") redirectThenApprove [] request world) := by
    intro world request row result alerts here
    refine ⟨⟨by rw [here]; rfl,rfl⟩,?_⟩
    unfold act
    rw [here]
    exact applyGateOutcome_settles row result alerts
  obtain ⟨answer,settled⟩ := settles approving 0 _ _ _ rfl
  obtain ⟨response,answered,_,_⟩ := settled.answered
  have resumed : (act quietAgents (lit "inv") redirectThenApprove [] 0 approving).phases 1 =
      .resumed { status := .AWAITING_APPROVAL } result' (collectAlerts chunks') := by
    rw [answered]
    rfl
  obtain ⟨reply,replied⟩ := settles _ 1 _ _ _ resumed
  obtain ⟨last,done,_,_⟩ := replied.answered
  have run := recorded.append (.go redirect (.go approve (.go answer (.go reply (.stop _)))))
  refine ⟨checkpoint,_,response,last,waiting,run,?_,?_,?_,?_,decisions_accountable (fun _ => rfl) run⟩
  · rw [done,answered]
    rfl
  · rw [done]
    rfl
  · rw [replied.graph,settled.graph]
    exact closed
  · rw [replied.decisions,settled.decisions]
    exact decisions

end SocAnalyst.DecisionRecords
