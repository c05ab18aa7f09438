import Mathlib.Logic.Function.Basic
import SocAnalyst.Decisions
import SocAnalyst.RecordedPlans
import SocAnalyst.Runs

/-!
# Deciding a recommendation

The `decide_on_recommendation` endpoint of `routes/investigations.py` with
`decide_recommendation` of `services/remediation.py`, as the steps in which concurrent
transactions interleave. A read sees what is committed, and an update holds its row until
the transaction commits.
-/
namespace SocAnalyst.RecommendationDecisions
open SocAnalyst.Builtins SocAnalyst.Decisions SocAnalyst.RecordedPlans SocAnalyst.Runs

/-- A human decision on one recommendation, by a principal with an id. -/
structure RecommendationDecisionRequest where
  decision : ApprovalStatus
  actorId : Text
  ipAddress : Option Text := none
  /-- `PENDING` is the absence of a decision. -/
  mustBeADecision : decision ≠ .PENDING
  identified : strip actorId ≠ []

/-- What is committed about the investigations and the recommendation. -/
structure Database where
  investigations : List Text
  recommendation : Option Recommendation
  audit : List AuditEntry

inductive Refusal where
  | notFound
  | conflict (message : Text)

/-- How far a request is, with the row its session holds. -/
inductive Phase where
  | submitted
  | loaded
  | read (row : Recommendation)
  | checked (row : Recommendation)
  | flushed (row : Recommendation)
  | audited (row : Recommendation) (entry : AuditEntry)
  | accepted (row : Recommendation)
  | refused (refusal : Refusal)

structure World where
  database : Database
  /-- The request whose transaction holds the recommendation's row. -/
  holder : Option Nat
  phases : Nat → Phase

def World.setPhase (world : World) (request : Nat) (phase : Phase) : World :=
  { world with phases := Function.update world.phases request phase }

@[simp] theorem World.setPhase_self (world : World) (request : Nat) (phase : Phase) :
    (world.setPhase request phase).phases request = phase := Function.update_self ..

/-! ### The steps of a request -/

section
variable (investigationId recommendationId : Text) (requests : Nat → RecommendationDecisionRequest)

/-- Load the live investigation, or refuse. -/
def load (request : Nat) (world : World) : World :=
  world.setPhase request (if investigationId ∈ world.database.investigations then .loaded else .refused .notFound)

/-- Read the investigation's recommendation, or refuse. -/
def readRow (request : Nat) (world : World) : World :=
  world.setPhase request (match world.database.recommendation with
    | none => .refused .notFound
    | some row => if row.investigationId = investigationId then .read row else .refused .notFound)

/-- The statuses a human decision may set. -/
def decidable : List ApprovalStatus := [.APPROVED,.REJECTED,.EDITED]

/-- The row with a human decision, or why it cannot be recorded. -/
def decideRecommendation (row : Recommendation) (decision : ApprovalStatus) (actorId : Text) : Except Text Recommendation :=
  if decision ∉ decidable then
    .error (lit "'" ++ decision.value ++ lit "' is not a decision a human can record; " ++
      lit "expected one of ['approved', 'edited', 'rejected']")
  else if strip actorId = [] then .error (lit "a recommendation decision must record who made it")
  else if row.approvalStatus ≠ .PENDING then
    .error (lit "recommendation " ++ recommendationId ++ lit " was already " ++ row.approvalStatus.value ++
      lit "; re-deciding would overwrite who authorized it")
  else .ok { row with approvalStatus := decision }

/-- Check the row that was read. The session holds it, so it is not read again. -/
def check (request : Nat) (row : Recommendation) (world : World) : World :=
  world.setPhase request (match decideRecommendation recommendationId row (requests request).decision (requests request).actorId with
    | .ok decided => .checked decided
    | .error message => .refused (.conflict message))

/-- Write the status, without committing it. -/
def flush (request : Nat) (row : Recommendation) (world : World) : World :=
  { world.setPhase request (.flushed row) with holder := some request }

/-- The audit entry of a decision. -/
def decisionEntry (body : RecommendationDecisionRequest) : AuditEntry where
  action := lit "recommendation.decision." ++ body.decision.value
  entityType := lit "recommendation"
  entityId := some recommendationId
  actorId := some body.actorId
  ipAddress := body.ipAddress

def appendAudit (request : Nat) (row : Recommendation) (world : World) : World :=
  world.setPhase request (.audited row (decisionEntry recommendationId (requests request)))

/-- Commit the written status and the audit entry. The update names the row by its key alone. -/
def commit (request : Nat) (row : Recommendation) (entry : AuditEntry) (world : World) : World :=
  { world.setPhase request (.accepted row) with
    holder := none
    database := { world.database with
      recommendation := world.database.recommendation.map fun current => { current with approvalStatus := row.approvalStatus }
      audit := world.database.audit ++ [entry] } }

@[simp] theorem flush_phases (request : Nat) (row : Recommendation) (world : World) :
    (flush request row world).phases request = .flushed row := Function.update_self ..

@[simp] theorem appendAudit_phases (request : Nat) (row : Recommendation) (world : World) :
    (appendAudit recommendationId requests request row world).phases request =
      .audited row (decisionEntry recommendationId (requests request)) := World.setPhase_self ..

@[simp] theorem commit_phases (request : Nat) (row : Recommendation) (entry : AuditEntry) (world : World) :
    (commit request row entry world).phases request = .accepted row := Function.update_self ..

theorem commit_elsewhere {request other : Nat} (apart : other ≠ request) (row : Recommendation) (entry : AuditEntry) (world : World) :
    (commit request row entry world).phases other = world.phases other := Function.update_of_ne apart ..

/-- The next step of a request. -/
def act (request : Nat) (world : World) : World :=
  match world.phases request with
  | .submitted => load investigationId request world
  | .loaded => readRow investigationId request world
  | .read row => check recommendationId requests request row world
  | .checked row => flush request row world
  | .flushed row => appendAudit recommendationId requests request row world
  | .audited row entry => commit request row entry world
  | .accepted _ | .refused _ => world

/-- The request has its answer. -/
def Phase.done : Phase → Bool
  | .accepted _ | .refused _ => true
  | _ => false

/-- A request that would write the row waits for the transaction that holds it. -/
def Blocked (world : World) (request : Nat) : Prop :=
  ∃ row, world.phases request = .checked row ∧ world.holder ≠ none

/-- One request takes its next step. -/
def Act (world : World) (request : Nat) (next : World) : Prop :=
  (world.phases request).done = false ∧ ¬ Blocked world request ∧
    next = act investigationId recommendationId requests request world

/-! ### Reads that nobody overlaps -/

/-- The request found the recommendation pending and has not committed its decision. -/
def Phase.deciding : Phase → Bool
  | .read row => row.approvalStatus = .PENDING
  | .checked _ | .flushed _ | .audited _ _ => true
  | _ => false

/-- The recommendation is read only while no request is deciding it. -/
def Alone (world : World) (request : Nat) : Prop :=
  world.phases request = .loaded → ∀ other, (world.phases other).deciding = false

/-- A live investigation with a pending recommendation, and requests that nobody has looked at. -/
structure Open (start : World) (row : Recommendation) : Prop where
  submitted : ∀ request, start.phases request = .submitted
  live : investigationId ∈ start.database.investigations
  stored : start.database.recommendation = some row
  ours : row.investigationId = investigationId
  pending : row.approvalStatus = .PENDING

/-- Exactly one request is accepted and every other one refused; its decision is the stored
    one, and its audit entry the only new one. -/
def Decided (start world : World) (row : Recommendation) (order : List Nat) : Prop :=
  ∃ winner ∈ order, world.phases winner = .accepted { row with approvalStatus := (requests winner).decision } ∧
    (∀ other ∈ order, other ≠ winner → ∃ message, world.phases other = .refused (.conflict message)) ∧
    world.database.recommendation = some { row with approvalStatus := (requests winner).decision } ∧
    world.database.audit = start.database.audit ++ [decisionEntry recommendationId (requests winner)]

variable {investigationId recommendationId requests}

variable (recommendationId) in
/-- A valid decision of a pending row is recorded, and of any other row it is refused. -/
theorem decideRecommendation_valid (row : Recommendation) (body : RecommendationDecisionRequest) :
    (row.approvalStatus = .PENDING → decideRecommendation recommendationId row body.decision body.actorId =
      .ok { row with approvalStatus := body.decision }) ∧
    (row.approvalStatus ≠ .PENDING → ∃ message,
      decideRecommendation recommendationId row body.decision body.actorId = .error message) := by
  have valid : body.decision ∈ decidable := by
    have decision := body.mustBeADecision
    revert decision
    cases body.decision <;> decide
  unfold decideRecommendation
  simp only [valid,not_true,if_false,body.identified]
  constructor
  · intro pending
    simp only [pending,ne_eq,not_true,if_false]
  · intro decided
    exact ⟨_,if_pos decided⟩

/-- A step moves its own request only. -/
theorem act_elsewhere {world : World} {request other : Nat} (apart : other ≠ request) :
    (act investigationId recommendationId requests request world).phases other = world.phases other := by
  unfold act
  split <;> first | exact Function.update_of_ne apart _ _ | rfl

/-- What holds of every request's phase still does after a step that keeps it for its own. -/
theorem act_everywhere {world : World} {request : Nat} {P : Nat → Phase → Prop} (before : ∀ other, P other (world.phases other))
    (own : P request ((act investigationId recommendationId requests request world).phases request)) (other : Nat) :
    P other ((act investigationId recommendationId requests request world).phases other) := by
  by_cases is : other = request
  · rwa [is]
  · rw [act_elsewhere is]
    exact before other

/-! ### The stages of a recommendation -/

/-- The request has not read the recommendation. -/
def Phase.fresh : Phase → Prop
  | .submitted | .loaded => True
  | _ => False

/-- The request was refused, or will be. -/
def Phase.late : Phase → Prop
  | .submitted | .loaded | .refused (.conflict _) => True
  | .read row => row.approvalStatus ≠ .PENDING
  | _ => False

/-- The phases between reading the pending row and committing the decision. -/
inductive Deciding (row : Recommendation) (recommendationId : Text) (body : RecommendationDecisionRequest) : Phase → Prop where
  | read : Deciding row recommendationId body (.read row)
  | checked : Deciding row recommendationId body (.checked { row with approvalStatus := body.decision })
  | flushed : Deciding row recommendationId body (.flushed { row with approvalStatus := body.decision })
  | audited : Deciding row recommendationId body
      (.audited { row with approvalStatus := body.decision } (decisionEntry recommendationId body))

/-- The stages of a recommendation that one request at a time decides. -/
inductive Stage (investigationId recommendationId : Text) (requests : Nat → RecommendationDecisionRequest) (start : World)
    (row : Recommendation) (world : World) : Prop where
  | idle : world.database = start.database → (∀ request, (world.phases request).fresh) →
      Stage investigationId recommendationId requests start row world
  | deciding (winner : Nat) : world.database = start.database → Deciding row recommendationId (requests winner) (world.phases winner) →
      (∀ request, request ≠ winner → (world.phases request).fresh) →
      Stage investigationId recommendationId requests start row world
  | settled (winner : Nat) : world.phases winner = .accepted { row with approvalStatus := (requests winner).decision } →
      (∀ request, request ≠ winner → (world.phases request).late) →
      investigationId ∈ world.database.investigations →
      world.database.recommendation = some { row with approvalStatus := (requests winner).decision } →
      world.database.audit = start.database.audit ++ [decisionEntry recommendationId (requests winner)] →
      Stage investigationId recommendationId requests start row world

variable (recommendationId requests) in
/-- The step of a request that has not read the pending row. -/
theorem act_fresh {start world : World} {row : Recommendation} {request : Nat} (here : (world.phases request).fresh)
    (waiting : Open investigationId start row) (same : world.database = start.database) :
    (act investigationId recommendationId requests request world).database = start.database ∧
      (world.phases request = .submitted ∧
          (act investigationId recommendationId requests request world).phases request = .loaded ∨
        world.phases request = .loaded ∧
          (act investigationId recommendationId requests request world).phases request = .read row) := by
  unfold act
  cases phase : world.phases request with
  | submitted =>
    refine ⟨same,.inl ⟨rfl,?_⟩⟩
    simp only [load,same,waiting.live,if_true,World.setPhase_self]
  | loaded =>
    refine ⟨same,.inr ⟨rfl,?_⟩⟩
    simp only [readRow,same,waiting.stored,waiting.ours,if_true,World.setPhase_self]
  | _ => simp [phase,Phase.fresh] at here

/-- The step of a request that decides the row: it goes on, or commits. -/
theorem act_deciding {world : World} {row : Recommendation} {request : Nat} (pending : row.approvalStatus = .PENDING)
    (here : Deciding row recommendationId (requests request) (world.phases request)) :
    ((act investigationId recommendationId requests request world).database = world.database ∧
      Deciding row recommendationId (requests request)
        ((act investigationId recommendationId requests request world).phases request)) ∨
    act investigationId recommendationId requests request world =
      commit request { row with approvalStatus := (requests request).decision } (decisionEntry recommendationId (requests request)) world := by
  unfold act
  generalize phase : world.phases request = current at here
  cases here with
  | read =>
    refine .inl ⟨rfl,?_⟩
    simp only [check,(decideRecommendation_valid recommendationId row (requests request)).1 pending]
    rw [World.setPhase_self]
    exact .checked
  | checked =>
    refine .inl ⟨rfl,?_⟩
    rw [flush_phases]
    exact .flushed
  | flushed =>
    refine .inl ⟨rfl,?_⟩
    rw [appendAudit_phases]
    exact .audited
  | audited => exact .inr rfl

variable (recommendationId requests) in
/-- The step of a request after a decision was committed. -/
theorem act_late {world : World} {row : Recommendation} {request : Nat} (here : (world.phases request).late)
    (live : investigationId ∈ world.database.investigations) (stored : world.database.recommendation = some row)
    (ours : row.investigationId = investigationId) (decided : row.approvalStatus ≠ .PENDING) :
    (act investigationId recommendationId requests request world).database = world.database ∧
      ((act investigationId recommendationId requests request world).phases request).late := by
  unfold act
  cases phase : world.phases request with
  | submitted =>
    refine ⟨rfl,?_⟩
    simp only [load,live,if_true]
    rw [World.setPhase_self]
    trivial
  | loaded =>
    refine ⟨rfl,?_⟩
    simp only [readRow,stored,ours,if_true]
    rw [World.setPhase_self]
    exact decided
  | read old =>
    rw [phase] at here
    obtain ⟨message,refusal⟩ := (decideRecommendation_valid recommendationId old (requests request)).2 here
    refine ⟨rfl,?_⟩
    simp only [check,refusal]
    rw [World.setPhase_self]
    trivial
  | refused refusal => exact ⟨rfl,by simpa [phase] using here⟩
  | _ => simp [phase,Phase.late] at here

theorem Phase.fresh.late {phase : Phase} (fresh : phase.fresh) : phase.late := by
  cases phase <;> trivial

theorem Phase.late.deciding {phase : Phase} (late : phase.late) : phase.deciding = false := by
  cases phase with
  | read row => exact decide_eq_false late
  | submitted | loaded | refused _ => rfl
  | _ => exact late.elim

theorem Deciding.deciding {row : Recommendation} {body : RecommendationDecisionRequest} {phase : Phase}
    (pending : row.approvalStatus = .PENDING) (here : Deciding row recommendationId body phase) : phase.deciding = true := by
  cases here with
  | read => exact decide_eq_true pending
  | _ => rfl

theorem Phase.fresh.unanswered {phase : Phase} (fresh : phase.fresh) : phase.done = false := by
  cases phase <;> trivial

theorem Deciding.unanswered {row : Recommendation} {body : RecommendationDecisionRequest} {phase : Phase}
    (here : Deciding row recommendationId body phase) : phase.done = false := by
  cases here <;> rfl

theorem Phase.late.answered {phase : Phase} (late : phase.late) (done : phase.done = true) :
    ∃ message, phase = .refused (.conflict message) := by
  cases phase with
  | refused refusal =>
    cases refusal with
    | conflict message => exact ⟨message,rfl⟩
    | notFound => exact late.elim
  | accepted row => exact late.elim
  | _ => cases done

/-- One step of a run whose reads are alone moves to a stage. -/
theorem Stage.step {start world next : World} {row : Recommendation} {request : Nat} (waiting : Open investigationId start row)
    (stage : Stage investigationId recommendationId requests start row world) (alone : Alone world request)
    (step : Act investigationId recommendationId requests world request next) :
    Stage investigationId recommendationId requests start row next := by
  obtain ⟨busy,-,rfl⟩ := step
  cases stage with
  | idle same fresh =>
    obtain ⟨kept,⟨_,loaded⟩ | ⟨_,read⟩⟩ := act_fresh recommendationId requests (fresh request) waiting same
    · refine .idle kept (act_everywhere (P := fun _ phase => phase.fresh) fresh ?_)
      rw [loaded]
      trivial
    · refine .deciding request kept (by rw [read]; exact .read) fun other apart => ?_
      rw [act_elsewhere apart]
      exact fresh other
  | deciding winner same here others =>
    by_cases is : request = winner
    · subst is
      rcases act_deciding waiting.pending here with ⟨kept,on⟩ | committed
      · refine .deciding request (kept.trans same) on fun other apart => ?_
        rw [act_elsewhere apart]
        exact others other apart
      · rw [committed]
        refine .settled request (commit_phases ..) (fun other apart => ?_) ?_ ?_ ?_
        · rw [commit_elsewhere apart]
          exact (others other apart).late
        · simpa only [commit,same] using waiting.live
        · simp only [commit,same,waiting.stored,Option.map_some]
        · simp only [commit,same]
    · obtain ⟨kept,⟨_,loaded⟩ | ⟨reads,_⟩⟩ := act_fresh recommendationId requests
        (others request is) waiting same
      · refine .deciding winner kept (by rwa [act_elsewhere (Ne.symm is)])
          (act_everywhere (P := fun other phase => other ≠ winner → phase.fresh) others fun _ => ?_)
        rw [loaded]
        trivial
      · have still := alone reads winner
        rw [here.deciding waiting.pending] at still
        cases still
  | settled winner here others live stored audit =>
    have apart : request ≠ winner := by
      rintro rfl
      rw [here] at busy
      cases busy
    obtain ⟨kept,late⟩ := act_late recommendationId requests (others request apart) live stored
      waiting.ours (requests winner).mustBeADecision
    exact .settled winner ((act_elsewhere (Ne.symm apart)).trans here)
      (act_everywhere (P := fun other phase => other ≠ winner → phase.late) others fun _ => late) (by rwa [kept]) (by rwa [kept])
      (by rwa [kept])

theorem stage_of_run {start world : World} {row : Recommendation} {order : List Nat} (waiting : Open investigationId start row)
    (run : Run (Guarded Alone (Act investigationId recommendationId requests)) start order world) :
    Stage investigationId recommendationId requests start row world := by
  refine run.invariant ?_ (.idle rfl fun request => ?_)
  · rintro here request next stage ⟨alone,step⟩
    exact stage.step waiting alone step
  · rw [waiting.submitted]
    trivial

/-! ### Two requests past the check -/

/-- The request found the recommendation pending. -/
def Phase.passed : Phase → Prop
  | .accepted _ => True
  | phase => phase.deciding = true

theorem Phase.passed_of_deciding {phase : Phase} (deciding : phase.deciding = true) : phase.passed := by
  cases phase <;> trivial

/-- A request that found the recommendation pending is not refused. -/
theorem act_passed {world : World} {request : Nat} (here : (world.phases request).passed) :
    ((act investigationId recommendationId requests request world).phases request).passed := by
  unfold act
  cases phase : world.phases request with
  | read row =>
    rw [phase] at here
    have pending : row.approvalStatus = .PENDING := of_decide_eq_true here
    simp only [check,(decideRecommendation_valid recommendationId row (requests request)).1 pending]
    rw [World.setPhase_self]
    rfl
  | checked row =>
    rw [flush_phases]
    rfl
  | flushed row =>
    rw [appendAudit_phases]
    rfl
  | audited row entry =>
    rw [commit_phases]
    trivial
  | accepted row => simp [phase,Phase.passed]
  | _ => simp [phase,Phase.passed,Phase.deciding] at here

/-- Two requests found the recommendation pending. -/
def Overlapped (world : World) : Prop :=
  ∃ first second, first ≠ second ∧ (world.phases first).passed ∧ (world.phases second).passed

theorem Overlapped.step {world next : World} {request : Nat} (both : Overlapped world)
    (step : Act investigationId recommendationId requests world request next) : Overlapped next := by
  obtain ⟨_,-,rfl⟩ := step
  have keeps : ∀ other, (world.phases other).passed →
      ((act investigationId recommendationId requests request world).phases other).passed := by
    intro other passed
    by_cases moved : other = request
    · subst moved
      exact act_passed passed
    · rwa [act_elsewhere moved]
  obtain ⟨first,second,apart,one,two⟩ := both
  exact ⟨first,second,apart,keeps first one,keeps second two⟩

/-- A read while another request decides the row finds it pending too. -/
theorem Stage.overlapped {start world next : World} {row : Recommendation} {request : Nat} (waiting : Open investigationId start row)
    (stage : Stage investigationId recommendationId requests start row world) (crowded : ¬ Alone world request)
    (step : Act investigationId recommendationId requests world request next) : Overlapped next := by
  obtain ⟨_,-,rfl⟩ := step
  obtain ⟨reads,other,busy⟩ : world.phases request = .loaded ∧ ∃ other, (world.phases other).deciding = true := by
    simpa [Alone] using crowded
  cases stage with
  | idle same fresh =>
    rw [(fresh other).late.deciding] at busy
    cases busy
  | deciding winner same here others =>
    obtain rfl : other = winner := by
      by_contra apart
      rw [(others other apart).late.deciding] at busy
      cases busy
    have apart : request ≠ other := by
      rintro rfl
      rw [reads] at here
      cases here
    obtain ⟨_,⟨early,_⟩ | ⟨_,read⟩⟩ := act_fresh recommendationId requests
      (others request apart) waiting same
    · rw [reads] at early
      cases early
    · refine ⟨request,other,apart,?_,?_⟩
      · rw [read]
        exact decide_eq_true waiting.pending
      · rw [act_elsewhere (Ne.symm apart)]
        exact Phase.passed_of_deciding busy
  | settled winner here others live stored audit =>
    have idle : (world.phases other).deciding = false := by
      by_cases is : other = winner
      · rw [is,here]
        rfl
      · exact (others other is).deciding
    rw [idle] at busy
    cases busy

/-- A run reads alone throughout, or two of its requests find the recommendation pending. -/
theorem alone_or_overlapped {start world : World} {row : Recommendation} {order : List Nat} (waiting : Open investigationId start row)
    (run : Run (Act investigationId recommendationId requests) start order world) :
    Run (Guarded Alone (Act investigationId recommendationId requests)) start order world ∨ Overlapped world := by
  refine run.accumulates (P := fun done here =>
    Run (Guarded Alone (Act investigationId recommendationId requests)) start done here ∨ Overlapped here) ?_ [] (.inl (.stop start))
  rintro done here request next (serial | both) step
  · by_cases alone : Alone here request
    · exact .inl (serial.snoc ⟨alone,step⟩)
    · exact .inr ((stage_of_run waiting serial).overlapped waiting alone step)
  · exact .inr (both.step step)

/-! ### Whole runs -/

/-- Every request that took part has its answer. -/
def Finished (world : World) (order : List Nat) : Prop := ∀ request ∈ order, (world.phases request).done = true

/-- A request that took no step is still where it was. -/
theorem run_untouched {start world : World} {order : List Nat} (run : Run (Act investigationId recommendationId requests) start order world)
    {request : Nat} (out : request ∉ order) : world.phases request = start.phases request := by
  induction run with
  | stop => rfl
  | go step _ ih =>
    obtain ⟨_,-,rfl⟩ := step
    rw [ih (List.not_mem_of_not_mem_cons out),act_elsewhere (List.ne_of_not_mem_cons out)]

/-- In a run of requests that all got their answer, exactly one decision is accepted, stored
    and audited if and only if nobody reads the recommendation while another request that
    found it pending has not committed. -/
theorem decided_iff {start world : World} {row : Recommendation} {order : List Nat} (waiting : Open investigationId start row)
    (run : Run (Act investigationId recommendationId requests) start order world) (finished : Finished world order) (took : order ≠ []) :
    Decided recommendationId requests start world row order ↔
      Run (Guarded Alone (Act investigationId recommendationId requests)) start order world := by
  have takesPart : ∀ {request}, world.phases request ≠ .submitted → request ∈ order := by
    intro request moved
    by_contra out
    exact moved ((run_untouched run out).trans (waiting.submitted request))
  constructor
  · rintro ⟨winner,_,_,refused,_⟩
    refine (alone_or_overlapped waiting run).resolve_right ?_
    rintro ⟨first,second,apart,one,two⟩
    have loses : ∀ request, request ≠ winner → ¬ (world.phases request).passed := by
      intro request other passed
      obtain ⟨message,no⟩ := refused request (takesPart fun still => by rw [still] at passed; cases passed) other
      rw [no] at passed
      cases passed
    by_cases is : first = winner
    · exact loses second (fun also => apart (is.trans also.symm)) two
    · exact loses first is one
  · intro serial
    cases stage_of_run waiting serial with
    | idle same fresh =>
      obtain ⟨request,member⟩ := List.exists_mem_of_ne_nil order took
      have answered := finished request member
      rw [(fresh request).unanswered] at answered
      cases answered
    | deciding winner same here others =>
      have answered := finished winner (takesPart fun still => by rw [still] at here; cases here)
      rw [here.unanswered] at answered
      cases answered
    | settled winner here others live stored audit =>
      refine ⟨winner,takesPart (by rw [here]; nofun),here,?_,stored,audit⟩
      intro other member apart
      exact (others other apart).answered (finished other member)

end

/-- One approver and one who rejects. -/
def contradicting : Nat → RecommendationDecisionRequest
  | 0 => { decision := .APPROVED, actorId := lit "ana", mustBeADecision := by decide, identified := by decide }
  | _ => { decision := .REJECTED, actorId := lit "bob", mustBeADecision := by decide, identified := by decide }

def pendingRow : Recommendation where
  investigationId := lit "inv"
  action := lit "Isolate the host"
  type := .MITIGATION
  priority := .HIGH
  rationale := []
  expectedImpact := []
  citations := []
  approvalStatus := .PENDING
  requiresHumanApproval := true
  version := 1

/-- The recommendation waits, with an empty record. -/
def waitingWorld : World where
  database := ⟨[lit "inv"],some pendingRow,[]⟩
  holder := none
  phases := fun _ => .submitted

private theorem pending_open : Open (lit "inv") waitingWorld pendingRow where
  submitted _ := rfl
  live := List.mem_singleton_self _
  stored := rfl
  ours := rfl
  pending := rfl

private theorem unblocked {world : World} {request : Nat} (free : world.holder = none) : ¬ Blocked world request := by
  rintro ⟨_,_,held⟩
  exact held free

private theorem unblocked_of {world : World} {request : Nat} {phase : Phase} (here : world.phases request = phase)
    (other : ∀ row, phase ≠ .checked row) : ¬ Blocked world request := by
  rintro ⟨row,checked,_⟩
  exact other row (here.symm.trans checked)

/-- The request that reads after the other one committed is refused. -/
theorem later_reader_refused : ∃ world,
    Decided (lit "rec") contradicting waitingWorld world pendingRow [0,0,0,0,0,0,1,1,1] := by
  have serial : Run (Guarded Alone (Act (lit "inv") (lit "rec") contradicting)) waitingWorld [0,0,0,0,0,0,1,1,1] _ :=
    .go ⟨nofun,rfl,unblocked rfl,rfl⟩ (.go ⟨fun _ other => by cases other <;> rfl,rfl,unblocked rfl,rfl⟩
      (.go ⟨nofun,rfl,unblocked rfl,rfl⟩ (.go ⟨nofun,rfl,unblocked rfl,rfl⟩
      (.go ⟨nofun,rfl,unblocked_of rfl nofun,rfl⟩ (.go ⟨nofun,rfl,unblocked_of rfl nofun,rfl⟩
      (.go ⟨nofun,rfl,unblocked rfl,rfl⟩ (.go ⟨fun _ other => by match other with | 0 | 1 | _+2 => rfl,rfl,unblocked rfl,rfl⟩
      (.go ⟨nofun,rfl,unblocked rfl,rfl⟩ (.stop _)))))))))
  refine ⟨_,(decided_iff pending_open (serial.mono fun _ _ _ step => step.2) ?_ (by simp)).mpr serial⟩
  intro request member
  have : request = 0 ∨ request = 1 := by simpa using member
  rcases this with rfl | rfl <;> rfl

/-- Both requests read the pending row before either commits: both are accepted, the row
    keeps the second decision and both are audited. -/
theorem both_decisions_accepted : ∃ world,
    Run (Act (lit "inv") (lit "rec") contradicting) waitingWorld [0,1,0,1,0,1,0,0,0,1,1,1] world ∧
      Finished world [0,1,0,1,0,1,0,0,0,1,1,1] ∧ (∃ row, world.phases 0 = .accepted row) ∧ (∃ row, world.phases 1 = .accepted row) ∧
      world.database.recommendation = some { pendingRow with approvalStatus := .REJECTED } ∧ world.database.audit.length = 2 ∧
      ¬ Decided (lit "rec") contradicting waitingWorld world pendingRow [0,1,0,1,0,1,0,0,0,1,1,1] := by
  have run : Run (Act (lit "inv") (lit "rec") contradicting) waitingWorld [0,1,0,1,0,1,0,0,0,1,1,1] _ :=
    .go ⟨rfl,unblocked rfl,rfl⟩ (.go ⟨rfl,unblocked rfl,rfl⟩ (.go ⟨rfl,unblocked rfl,rfl⟩ (.go ⟨rfl,unblocked rfl,rfl⟩
      (.go ⟨rfl,unblocked rfl,rfl⟩ (.go ⟨rfl,unblocked rfl,rfl⟩ (.go ⟨rfl,unblocked rfl,rfl⟩
      (.go ⟨rfl,unblocked_of rfl nofun,rfl⟩ (.go ⟨rfl,unblocked_of rfl nofun,rfl⟩
      (.go ⟨rfl,unblocked rfl,rfl⟩ (.go ⟨rfl,unblocked_of rfl nofun,rfl⟩ (.go ⟨rfl,unblocked_of rfl nofun,rfl⟩ (.stop _))))))))))))
  refine ⟨_,run,?_,⟨_,rfl⟩,⟨_,rfl⟩,rfl,rfl,?_⟩
  · intro request member
    have : request = 0 ∨ request = 1 := by
      simp only [List.mem_cons,List.not_mem_nil,or_false] at member
      omega
    rcases this with rfl | rfl <;> rfl
  · rintro ⟨winner,_,_,_,_,one⟩
    exact absurd (show 2 = 1 from congrArg List.length one) (by decide)

end SocAnalyst.RecommendationDecisions
