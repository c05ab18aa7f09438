import Mathlib.Logic.Function.Basic
import SocAnalyst.GraphService

/-!
# Deciding at the approval gate

The `decide` endpoint of `routes/investigations.py` with `record_gate_decision` and
`apply_gate_outcome` of `services/investigations.py`, as the steps in which concurrent
requests interleave. A read sees what is committed.
-/
namespace SocAnalyst.GateDecision
open SocAnalyst.Builtins SocAnalyst.Values SocAnalyst.Dicts SocAnalyst.Decisions SocAnalyst.Runs SocAnalyst.Graph

/-- Incident report lifecycle. -/
inductive ReportStatus where
  | DRAFT
  | FINAL
  deriving DecidableEq, Repr

structure Investigation where
  status : InvestigationStatus
  closedAt : Option Text := none
  deriving DecidableEq

/-- What is committed about one investigation; no row when there is no live one. -/
structure Database where
  investigation : Option Investigation
  conversations : List Conversation
  decisions : List HumanDecision
  audit : List AuditEntry
  /-- The status of the current report. -/
  report : Option ReportStatus

/-- A decision request, with the keys its rows get if it inserts them. -/
structure GateDecisionRequest where
  decision : DecisionType
  rationale : Option Text := none
  target : Option Text := none
  actorId : Text
  ipAddress : Option Text := none
  decisionId : Text
  conversationId : Text

structure GateDecisionResponse where
  investigationId : Text
  decision : DecisionType
  status : InvestigationStatus
  awaitingHuman : Bool
  executed : Bool := false
  notificationQueued : Bool := false

inductive Refusal where
  | notFound
  | conflict (message : Text)
  | failed (error : PyError)

/-- How far a request is, with the row its session loaded. -/
inductive Phase where
  | submitted
  | checked (row : Investigation)
  | flushed (row : Investigation) (opened : Option Conversation) (decision : HumanDecision)
  | committed (row : Investigation)
  | resumed (row : Investigation) (result : GraphRunResult) (alerts : List Value)
  | answered (response : GateDecisionResponse)
  | refused (refusal : Refusal)

structure World where
  database : Database
  checkpoint : Checkpoint
  phases : Nat → Phase

def World.setPhase (world : World) (request : Nat) (phase : Phase) : World :=
  { world with phases := Function.update world.phases request phase }

/-! ### The steps of a request -/

section
variable [Printer] (agents : Agents) (investigationId : Text) (requests : Nat → GateDecisionRequest) (utcnow : Text)

omit [Printer] in
/-- Load the investigation, or refuse when there is no open gate. -/
def readStatus (request : Nat) (world : World) : World :=
  match world.database.investigation with
  | none => world.setPhase request (.refused .notFound)
  | some row =>
    if row.status ≠ .AWAITING_APPROVAL then
      world.setPhase request (.refused (.conflict (lit "investigation is " ++ row.status.value ++
        lit "; there is no open approval gate to decide")))
    else world.setPhase request (.checked row)

/-- The investigation's decision thread, and whether it is new. -/
def conversationFor (body : GateDecisionRequest) (database : Database) : Conversation × Option Conversation :=
  match database.conversations.find? fun conversation => conversation.investigationId = investigationId with
  | some existing => (existing,none)
  | none =>
    let conversation : Conversation := ⟨body.conversationId,investigationId⟩
    (conversation,some conversation)

/-- The row of a decision. -/
def decisionRow (body : GateDecisionRequest) (conversationId : Text) : HumanDecision where
  id := body.decisionId
  conversationId := conversationId
  userId := body.actorId
  decision := body.decision
  target := body.target
  rationale := body.rationale

/-- The audit entry of a decision. -/
def decisionEntry (body : GateDecisionRequest) : AuditEntry where
  action := lit "investigation.decision." ++ body.decision.value
  entityType := lit "investigation"
  entityId := some investigationId
  actorId := some body.actorId
  ipAddress := body.ipAddress

omit [Printer] in
/-- Write the human decision taken at the approval gate, without committing it. -/
def recordGateDecision (request : Nat) (row : Investigation) (world : World) : World :=
  let conversation := conversationFor investigationId (requests request) world.database
  world.setPhase request (.flushed row conversation.2 (decisionRow (requests request) conversation.1.id))

omit [Printer] in
/-- Commit the decision, its thread and its audit entry. -/
def commitDecision (request : Nat) (row : Investigation) (opened : Option Conversation) (decision : HumanDecision) (world : World) :
    World :=
  { world.setPhase request (.committed row) with
    database := { world.database with
      conversations := world.database.conversations ++ opened.toList
      decisions := world.database.decisions ++ [decision]
      audit := world.database.audit ++ [decisionEntry investigationId (requests request)] } }

omit [Printer] in
/-- The alerts that the reported nodes assembled. -/
def collectAlerts (chunks : List (Node × Update)) : List Value :=
  chunks.flatMap fun chunk =>
    if chunk.1 = .NOTIFY then match (lookup chunk.2.notification (lit "pending")).getD (.list []) with
      | .list items => items
      | _ => []
    else []

/-- Resume the graph with the decision. -/
def resumeGraph (request : Nat) (row : Investigation) (world : World) : World :=
  match resume agents (.text (requests request).decision.value) world.checkpoint with
  | (chunks,checkpoint,.ok result) =>
    { world.setPhase request (.resumed row result (collectAlerts chunks)) with checkpoint := checkpoint }
  | (_,checkpoint,.error (.invalidResume message)) =>
    { world.setPhase request (.refused (.conflict message)) with checkpoint := checkpoint }
  | (_,checkpoint,.error (.raised e)) => { world.setPhase request (.refused (.failed e)) with checkpoint := checkpoint }

omit [Printer] in
/-- Move the row's status, stamping closure when it closes. The session writes a change
    of the row it loaded only. -/
def markStatus (row : Investigation) (status : InvestigationStatus) (database : Database) : Database :=
  if status = row.status then database
  else { database with
    investigation := database.investigation.map fun current => {
      status := status
      closedAt := if status = .CLOSED ∧ row.closedAt = none then some utcnow else current.closedAt } }

omit [Printer] in
/-- Reconcile the case record with where the graph came to rest, and commit. -/
def applyGateOutcome (request : Nat) (row : Investigation) (result : GraphRunResult) (alerts : List Value) (world : World) : World :=
  let body := requests request
  let status : InvestigationStatus := if result.awaitingHuman then .AWAITING_APPROVAL else .CLOSED
  let database := markStatus utcnow row status world.database
  let response : GateDecisionResponse := {
    investigationId := investigationId, decision := body.decision, status := status, awaitingHuman := result.awaitingHuman
    notificationQueued := !alerts.isEmpty }
  { world.setPhase request (.answered response) with
    database := if body.decision = .APPROVE then { database with report := database.report.map fun _ => .FINAL } else database }

/-- The next step of a request. -/
def act (request : Nat) (world : World) : World :=
  match world.phases request with
  | .submitted => readStatus request world
  | .checked row => recordGateDecision investigationId requests request row world
  | .flushed row opened decision => commitDecision investigationId requests request row opened decision world
  | .committed row => resumeGraph agents requests request row world
  | .resumed row result alerts => applyGateOutcome investigationId requests utcnow request row result alerts world
  | .answered _ | .refused _ => world

/-- The request has its answer. -/
def Phase.done : Phase → Bool
  | .answered _ | .refused _ => true
  | _ => false

/-- One request takes its next step. -/
def Act (world : World) (request : Nat) (next : World) : Prop :=
  (world.phases request).done = false ∧ next = act agents investigationId requests utcnow request world

/-! ### Requests one after the other -/

/-- The request has read the status and not yet been answered. -/
def Phase.inFlight : Phase → Bool
  | .checked _ | .flushed _ _ _ | .committed _ | .resumed _ _ _ => true
  | _ => false

omit [Printer] in
def Awaiting (world : World) : Prop := ∃ row, world.database.investigation = some row ∧ row.status = .AWAITING_APPROVAL

/-- A status is read only while no request is in flight, and an open gate only by a
    request that does not redirect. -/
def Serial (world : World) (request : Nat) : Prop :=
  world.phases request = .submitted → (∀ other, (world.phases other).inFlight = false) ∧
    (Awaiting world → (requests request).decision ≠ .REDIRECT)

omit [Printer] in
/-- Nothing was decided and nobody answered, or one request recorded its decision and
    every other one that was answered was refused. -/
def Adjudicated (start world : World) : Prop :=
  (world.database.decisions = start.database.decisions ∧ world.database.audit = start.database.audit ∧
      ∀ request, (world.phases request).done = false) ∨
    ∃ winner conversationId,
      world.database.decisions = start.database.decisions ++ [decisionRow (requests winner) conversationId] ∧
      world.database.audit = start.database.audit ++ [decisionEntry investigationId (requests winner)] ∧
      (∀ refusal, world.phases winner ≠ .refused refusal) ∧
      ∀ request, request ≠ winner → (world.phases request).done = true →
        ∃ message, world.phases request = .refused (.conflict message)

/-- An investigation that waits at its gate, and requests that nobody has looked at. -/
structure OpenGate (start : World) : Prop where
  submitted : ∀ request, start.phases request = .submitted
  awaiting : Awaiting start
  atGate : start.checkpoint.next = some .HUMAN_GATE
  reached : ∃ triggerSource configSnapshot createdAt evidence assets values passes,
    newState investigationId triggerSource configSnapshot createdAt evidence assets = .ok values ∧
      Run (Step agents) ⟨values,some .INGEST_SEED⟩ passes start.checkpoint

/-- The stages of a gate pass whose requests come one after the other. -/
inductive Stage (start world : World) : Prop where
  | idle : (∀ request, world.phases request = .submitted) → world.database = start.database →
      world.checkpoint = start.checkpoint → Stage start world
  | reading (winner : Nat) (row : Investigation) : world.phases winner = .checked row →
      (∀ request, request ≠ winner → world.phases request = .submitted) → (requests winner).decision ≠ .REDIRECT →
      row.status = .AWAITING_APPROVAL → world.database = start.database → world.checkpoint = start.checkpoint → Stage start world
  | writing (winner : Nat) (row : Investigation) (opened : Option Conversation) (conversationId : Text) :
      world.phases winner = .flushed row opened (decisionRow (requests winner) conversationId) →
      (∀ request, request ≠ winner → world.phases request = .submitted) → (requests winner).decision ≠ .REDIRECT →
      row.status = .AWAITING_APPROVAL → world.database = start.database → world.checkpoint = start.checkpoint → Stage start world
  | recorded (winner : Nat) (row : Investigation) (conversationId : Text) : world.phases winner = .committed row →
      (∀ request, request ≠ winner → world.phases request = .submitted) → (requests winner).decision ≠ .REDIRECT →
      row.status = .AWAITING_APPROVAL → world.database.investigation = start.database.investigation →
      world.database.decisions = start.database.decisions ++ [decisionRow (requests winner) conversationId] →
      world.database.audit = start.database.audit ++ [decisionEntry investigationId (requests winner)] →
      world.checkpoint = start.checkpoint → Stage start world
  | returned (winner : Nat) (row : Investigation) (conversationId : Text) (result : GraphRunResult) (alerts : List Value) :
      world.phases winner = .resumed row result alerts → result.awaitingHuman = false →
      (∀ request, request ≠ winner → world.phases request = .submitted) →
      row.status = .AWAITING_APPROVAL → world.database.investigation = start.database.investigation →
      world.database.decisions = start.database.decisions ++ [decisionRow (requests winner) conversationId] →
      world.database.audit = start.database.audit ++ [decisionEntry investigationId (requests winner)] → Stage start world
  | settled (winner : Nat) (response : GateDecisionResponse) (row : Investigation) (conversationId : Text) :
      world.phases winner = .answered response →
      (∀ request, request ≠ winner → world.phases request = .submitted ∨ ∃ message, world.phases request = .refused (.conflict message)) →
      world.database.investigation = some row → row.status ≠ .AWAITING_APPROVAL →
      world.database.decisions = start.database.decisions ++ [decisionRow (requests winner) conversationId] →
      world.database.audit = start.database.audit ++ [decisionEntry investigationId (requests winner)] → Stage start world

variable {agents investigationId requests utcnow}

omit [Printer] in
/-- At every stage the pass is adjudicated. -/
theorem Stage.adjudicated {start world : World} (stage : Stage investigationId requests start world) :
    Adjudicated investigationId requests start world := by
  cases stage with
  | idle fresh same _ =>
    refine .inl ⟨by rw [same],by rw [same],?_⟩
    intro request
    rw [fresh]
    rfl
  | reading winner row here others _ _ same _ | writing winner row opened conversationId here others _ _ same _ =>
    refine .inl ⟨by rw [same],by rw [same],?_⟩
    intro request
    by_cases is : request = winner
    · rw [is,here]
      rfl
    · rw [others request is]
      rfl
  | recorded winner row conversationId here others _ _ _ decisions audit _
  | returned winner row conversationId result alerts here _ others _ _ decisions audit =>
    refine .inr ⟨winner,conversationId,decisions,audit,by simp [here],?_⟩
    intro request other finished
    rw [others request other] at finished
    cases finished
  | settled winner response row conversationId here others _ _ decisions audit =>
    refine .inr ⟨winner,conversationId,decisions,audit,by simp [here],?_⟩
    intro request other finished
    rcases others request other with fresh | refused
    · rw [fresh] at finished
      cases finished
    · exact refused

/-- A committed decision that the graph takes resumes it. -/
theorem act_resumes {world : World} {request : Nat} {row : Investigation} {chunks : List (Node × Update)} {checkpoint : Checkpoint}
    {result : GraphRunResult} (committed : world.phases request = .committed row)
    (resumed : resume agents (.text (requests request).decision.value) world.checkpoint = (chunks,checkpoint,.ok result)) :
    Act agents investigationId requests utcnow world request
      { world.setPhase request (.resumed row result (collectAlerts chunks)) with checkpoint := checkpoint } := by
  refine ⟨by rw [committed]; rfl,?_⟩
  unfold act resumeGraph
  rw [committed,resumed]

/-- The service takes the value of a decision as it is. -/
theorem coerceDecision_value (decision : DecisionType) :
    coerceDecision (.text decision.value) = .ok [(lit "decision",.str decision.value)] := by
  have lowered : lower decision.value = decision.value := by
    rw [Interpreter.lower_ascii _ (by cases decision <;> decide)]
    cases decision <;> decide
  have valid : decision.value ∈ validDecisions := by cases decision <;> decide
  have read : ((lookup [(lit "decision",Value.str decision.value)] (lit "decision")).getD (.str [])).toText = decision.value := rfl
  unfold coerceDecision
  simp only [read,lowered,valid,if_true]
  rfl

omit [Printer] in
theorem decides_redirect (decision : DecisionType) :
    Decides [(lit "decision",.str decision.value)] .REDIRECT ↔ decision = .REDIRECT := by
  constructor
  · intro same
    have values : decision.value = DecisionType.REDIRECT.value := Value.str.inj same
    revert values
    cases decision <;> decide
  · rintro rfl
    rfl

/-- At an open gate a decision that does not redirect closes the graph. -/
theorem resume_closes {start : World} (gate : OpenGate agents investigationId start) {decision : DecisionType}
    (onward : decision ≠ .REDIRECT) : ∃ chunks final result, resume agents (.text decision.value) start.checkpoint = (chunks,final,.ok result) ∧
      final.next = none ∧ result.awaitingHuman = false := by
  obtain ⟨_,_,_,_,_,_,passes,seeded,run⟩ := gate.reached
  have tracked : Tracked ([] ++ passes) start.checkpoint := run_tracked (Tracked.seeded seeded) run
  have led : LeadsOn agents start.checkpoint (.text decision.value) _ := resume_leads tracked gate.atGate (coerceDecision_value decision)
  obtain ⟨chunks,final,result,resumed,_,_,ended⟩ := led
  exact ⟨chunks,final,result,resumed,ended (mt (decides_redirect decision).mp onward)⟩

/-- One step of a serial run moves to a stage of the pass. -/
theorem Stage.step {start world next : World} {request : Nat} (gate : OpenGate agents investigationId start)
    (stage : Stage investigationId requests start world) (serial : Serial requests world request)
    (act : Act agents investigationId requests utcnow world request next) : Stage investigationId requests start next := by
  obtain ⟨busy,rfl⟩ := act
  obtain ⟨loaded,live,awaiting⟩ := gate.awaiting
  -- while a request is in flight, no other one may read the status
  have alone : ∀ {winner}, (world.phases winner).inFlight = true →
      (∀ request, request ≠ winner → world.phases request = .submitted) → request = winner := by
    intro winner flying others
    by_contra other
    have still := (serial (others request other)).1 winner
    rw [still] at flying
    cases flying
  have apart : ∀ {winner other : Nat} {phase : Phase}, other ≠ winner →
      Function.update world.phases winner phase other = world.phases other := fun other => Function.update_of_ne other _ _
  cases stage with
  | idle fresh same graph =>
    have onward := (serial (fresh request)).2 ⟨loaded,by rw [same,live],awaiting⟩
    unfold GateDecision.act readStatus
    simp only [fresh request,same,live,awaiting,ne_eq,not_true,if_false]
    exact .reading request loaded (Function.update_self ..) (fun other elsewhere => (apart elsewhere).trans (fresh other)) onward
      awaiting same graph
  | reading winner row here others onward open' same graph =>
    obtain rfl := alone (by rw [here]; rfl) others
    unfold GateDecision.act
    simp only [here]
    exact .writing request row _ _ (Function.update_self ..) (fun other elsewhere => (apart elsewhere).trans (others other elsewhere))
      onward open' same graph
  | writing winner row opened conversationId here others onward open' same graph =>
    obtain rfl := alone (by rw [here]; rfl) others
    unfold GateDecision.act
    simp only [here]
    exact .recorded request row conversationId (Function.update_self ..)
      (fun other elsewhere => (apart elsewhere).trans (others other elsewhere)) onward open' (by rw [← same]; rfl)
      (by rw [← same]; rfl) (by rw [← same]; rfl) graph
  | recorded winner row conversationId here others onward open' live' decisions audit graph =>
    obtain rfl := alone (by rw [here]; rfl) others
    obtain ⟨chunks,final,result,resumed,ended,closed⟩ := resume_closes gate onward
    unfold GateDecision.act resumeGraph
    simp only [here,graph,resumed]
    exact .returned request row conversationId result _ (Function.update_self ..) closed
      (fun other elsewhere => (apart elsewhere).trans (others other elsewhere)) open' live' decisions audit
  | returned winner row conversationId result alerts here closed others open' live' decisions audit =>
    obtain rfl := alone (by rw [here]; rfl) others
    unfold GateDecision.act
    simp only [here]
    have moved : InvestigationStatus.CLOSED ≠ row.status := by rw [open']; decide
    have written : ∃ current : Investigation, current.status = .CLOSED ∧ markStatus utcnow row .CLOSED world.database =
        { world.database with investigation := some current } := by
      unfold markStatus
      rw [if_neg moved,live',live]
      exact ⟨_,rfl,rfl⟩
    obtain ⟨current,shut,written⟩ := written
    unfold applyGateOutcome
    simp only [closed,Bool.false_eq_true,if_false,written]
    refine .settled request _ current conversationId (Function.update_self ..)
      (fun other elsewhere => .inl ((apart elsewhere).trans (others other elsewhere))) ?_ (by rw [shut]; decide) ?_ ?_
    · split_ifs <;> rfl
    · split_ifs <;> exact decisions
    · split_ifs <;> exact audit
  | settled winner response row conversationId here others live' closed decisions audit =>
    have other : request ≠ winner := by
      rintro rfl
      rw [here] at busy
      cases busy
    rcases others request other with fresh | ⟨message,refused⟩
    · unfold GateDecision.act readStatus
      simp only [fresh,live',ne_eq,closed,not_false_iff,if_true]
      refine .settled winner response row conversationId ((apart (Ne.symm other)).trans here) ?_ live' closed decisions audit
      intro third elsewhere
      by_cases same : third = request
      · rw [same]
        exact .inr ⟨_,Function.update_self ..⟩
      · rw [show (world.setPhase request _).phases third = world.phases third from apart same]
        exact others third elsewhere
    · rw [refused] at busy
      cases busy

/-- In every run of requests whose reads do not overlap with another decision, at most one
    decision of the gate pass is recorded and every other request is refused. -/
theorem serial_run_adjudicated {start world : World} {order : List Nat} (gate : OpenGate agents investigationId start)
    (run : Run (Guarded (Serial requests) (Act agents investigationId requests utcnow)) start order world) :
    Adjudicated investigationId requests start world := by
  refine Stage.adjudicated (run.invariant ?_ (.idle gate.submitted rfl rfl))
  rintro here request next stage ⟨serial,act⟩
  exact stage.step gate serial act

end
/-- One approver and one who rejects. -/
def contradicting : Nat → GateDecisionRequest
  | 0 => { decision := .APPROVE, actorId := lit "ana", decisionId := lit "d0", conversationId := lit "c0" }
  | _ => { decision := .REJECT, actorId := lit "bob", decisionId := lit "d1", conversationId := lit "c1" }

/-- The investigation waits with an empty record. -/
def waitingWorld (checkpoint : Checkpoint) : World where
  database := { investigation := some { status := .AWAITING_APPROVAL }, conversations := [], decisions := [], audit := [], report := none }
  checkpoint := checkpoint
  phases := fun _ => .submitted

private theorem waiting_open :
    let _ := asciiPrinter
    ∃ checkpoint, OpenGate quietAgents (lit "inv") (waitingWorld checkpoint) := by
  intro _
  obtain ⟨values,passes,here,seeded,run,waiting⟩ := quiet_pauses
  exact ⟨here,fun _ => rfl,⟨_,rfl,rfl⟩,waiting,_,_,_,_,_,values,passes,seeded,run⟩

/-- The first request decides and is answered; the second then finds the gate closed. -/
theorem single_decision_adjudicated :
    let _ := asciiPrinter
    ∃ start world response message, OpenGate quietAgents (lit "inv") start ∧
      Run (Guarded (Serial contradicting) (Act quietAgents (lit "inv") contradicting [])) start [0,0,0,0,0,1] world ∧
      world.phases 0 = .answered response ∧ world.phases 1 = .refused (.conflict message) ∧
      Adjudicated (lit "inv") contradicting start world := by
  intro _
  obtain ⟨checkpoint,gate⟩ := waiting_open
  obtain ⟨chunks,final,result,resumed,_,closed⟩ := resume_closes gate (show DecisionType.APPROVE ≠ .REDIRECT by decide)
  -- the first request reads the gate and records its decision
  obtain ⟨decided,recorded,first,others,graph,live⟩ : ∃ decided,
      Run (Guarded (Serial contradicting) (Act quietAgents (lit "inv") contradicting [])) (waitingWorld checkpoint) [0,0,0] decided ∧
      decided.phases 0 = .committed { status := .AWAITING_APPROVAL } ∧ (∀ other, other ≠ 0 → decided.phases other = .submitted) ∧
      decided.checkpoint = checkpoint ∧ decided.database.investigation = some { status := .AWAITING_APPROVAL } := by
    refine ⟨_,.go ⟨fun _ => ⟨fun _ => rfl,fun _ => by decide⟩,rfl,rfl⟩ (.go ⟨nofun,rfl,rfl⟩ (.go ⟨nofun,rfl,rfl⟩ (.stop _))),rfl,?_,rfl,rfl⟩
    intro other elsewhere
    show Function.update (Function.update (Function.update (fun _ => Phase.submitted) 0 _) 0 _) 0 _ other = _
    rw [Function.update_of_ne elsewhere,Function.update_of_ne elsewhere,Function.update_of_ne elsewhere]
  -- the graph runs to its end and the case is closed
  let approving : World :=
    { decided.setPhase 0 (.resumed { status := .AWAITING_APPROVAL } result (collectAlerts chunks)) with checkpoint := final }
  have approve : Act quietAgents (lit "inv") contradicting [] decided 0 approving := act_resumes first (by rw [graph]; exact resumed)
  obtain ⟨answered,response,answer,replied,waiting,shut⟩ : ∃ answered response,
      Act quietAgents (lit "inv") contradicting [] approving 0 answered ∧ answered.phases 0 = .answered response ∧
      (∀ other, other ≠ 0 → answered.phases other = .submitted) ∧
      answered.database.investigation = some { status := .CLOSED, closedAt := some [] } := by
    refine ⟨_,_,⟨rfl,rfl⟩,rfl,?_,?_⟩
    · intro other elsewhere
      exact (Function.update_of_ne elsewhere ..).trans ((Function.update_of_ne elsewhere ..).trans (others other elsewhere))
    · show (applyGateOutcome (lit "inv") contradicting [] 0 _ result _ approving).database.investigation = _
      have still : approving.database.investigation = some { status := .AWAITING_APPROVAL } := live
      unfold applyGateOutcome markStatus
      simp only [closed,Bool.false_eq_true,if_false,still]
      rfl
  -- the second request reads the closed status
  have second : Guarded (Serial contradicting) (Act quietAgents (lit "inv") contradicting []) answered 1
      (answered.setPhase 1 (.refused (.conflict (lit "investigation is closed; there is no open approval gate to decide")))) := by
    refine ⟨fun _ => ⟨?_,fun _ => by decide⟩,by rw [waiting 1 (by decide)]; rfl,?_⟩
    · intro other
      by_cases first : other = 0
      · rw [first,replied]
        rfl
      · rw [waiting other first]
        rfl
    · unfold act readStatus
      simp only [waiting 1 (by decide),shut]
      rfl
  have busy : Serial contradicting decided 0 := by
    intro idle
    rw [first] at idle
    cases idle
  have resting : Serial contradicting approving 0 := by
    intro idle
    have apart : Phase.resumed { status := .AWAITING_APPROVAL } result (collectAlerts chunks) = .submitted := idle
    cases apart
  have run := recorded.append (.go ⟨busy,approve⟩ (.go ⟨resting,answer⟩ (.go second (.stop _))))
  exact ⟨waitingWorld checkpoint,_,response,_,gate,run,replied,rfl,serial_run_adjudicated gate run⟩

/-- Both requests read the open gate before either decides: both decisions are recorded,
    and the one that is then refused leaves its row behind. -/
theorem overlapping_decisions_both_recorded :
    let _ := asciiPrinter
    ∃ start world message, OpenGate quietAgents (lit "inv") start ∧
      Run (Act quietAgents (lit "inv") contradicting []) start [0,1,0,0,1,1,0,1,0] world ∧
      world.database.decisions = [decisionRow (contradicting 0) (lit "c0"),decisionRow (contradicting 1) (lit "c0")] ∧
      world.phases 1 = .refused (.conflict message) ∧ ¬ Adjudicated (lit "inv") contradicting start world := by
  intro _
  obtain ⟨checkpoint,gate⟩ := waiting_open
  obtain ⟨chunks,final,result,resumed,ended,closed⟩ := resume_closes gate (show DecisionType.APPROVE ≠ .REDIRECT by decide)
  have refused : resume quietAgents (.text DecisionType.REJECT.value) final =
      ([],final,.error (.invalidResume (lit "investigation is not awaiting a human decision"))) := by
    unfold resume
    rw [ended]
  -- both read, then both commit
  obtain ⟨both,recorded,first,second,graph,decisions⟩ : ∃ both,
      Run (Act quietAgents (lit "inv") contradicting []) (waitingWorld checkpoint) [0,1,0,0,1,1] both ∧
      both.phases 0 = .committed { status := .AWAITING_APPROVAL } ∧ both.phases 1 = .committed { status := .AWAITING_APPROVAL } ∧
      both.checkpoint = checkpoint ∧
      both.database.decisions = [decisionRow (contradicting 0) (lit "c0"),decisionRow (contradicting 1) (lit "c0")] :=
    ⟨_,.go ⟨rfl,rfl⟩ (.go ⟨rfl,rfl⟩ (.go ⟨rfl,rfl⟩ (.go ⟨rfl,rfl⟩ (.go ⟨rfl,rfl⟩ (.go ⟨rfl,rfl⟩ (.stop _)))))),rfl,rfl,rfl,rfl⟩
  let approving : World :=
    { both.setPhase 0 (.resumed { status := .AWAITING_APPROVAL } result (collectAlerts chunks)) with checkpoint := final }
  have approve : Act quietAgents (lit "inv") contradicting [] both 0 approving := act_resumes first (by rw [graph]; exact resumed)
  let rejecting : World :=
    { approving.setPhase 1 (.refused (.conflict (lit "investigation is not awaiting a human decision"))) with checkpoint := final }
  have reject : Act quietAgents (lit "inv") contradicting [] approving 1 rejecting := by
    have waits : approving.phases 1 = .committed { status := .AWAITING_APPROVAL } := second
    refine ⟨by rw [waits]; rfl,?_⟩
    unfold act resumeGraph
    rw [waits,show resume quietAgents (.text (contradicting 1).decision.value) approving.checkpoint = _ from refused]
  have answer : Act quietAgents (lit "inv") contradicting [] rejecting 0 _ := ⟨rfl,rfl⟩
  have kept : (act quietAgents (lit "inv") contradicting [] 0 rejecting).database.decisions =
      [decisionRow (contradicting 0) (lit "c0"),decisionRow (contradicting 1) (lit "c0")] := by
    rw [← decisions]
    show (applyGateOutcome (lit "inv") contradicting [] 0 _ result _ rejecting).database.decisions = _
    unfold applyGateOutcome markStatus
    split_ifs <;> rfl
  refine ⟨waitingWorld checkpoint,_,_,gate,recorded.append (.go approve (.go reject (.go answer (.stop _)))),kept,rfl,?_⟩
  rintro (⟨none,_⟩ | ⟨winner,conversationId,one,_⟩)
  · rw [kept] at none
    cases none
  · rw [kept] at one
    have short := congrArg List.length one
    simp [waitingWorld] at short

end SocAnalyst.GateDecision
