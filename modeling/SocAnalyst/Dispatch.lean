import SocAnalyst.Notifications
import SocAnalyst.Runs

/-!
# Dispatching approved alerts

`dispatch_alert`, `_deliver` and `_dead_letter` of `backend/services/notifications.py`.
The world holds the delivery rows under their unique dedupe keys and a log of every
message handed to an adapter; what the adapters answer is part of a dispatch's input.
-/
namespace SocAnalyst.Dispatch
open SocAnalyst.Builtins SocAnalyst.Times SocAnalyst.Dicts SocAnalyst.Risk SocAnalyst.Runs SocAnalyst.Decisions
open SocAnalyst.Notifications

/-! ### The world -/

/-- What happened to one message on one channel. -/
structure SendResult where
  delivered : Bool
  detail : Text := []
  refused : Bool := false
  deriving DecidableEq

/-- A delivery row. -/
structure Notification where
  investigationId : Text
  approvalId : Text
  channel : NotificationChannel
  recipient : Text
  priority : TriagePriority
  status : NotificationStatus := .PENDING
  deliveryAttempts : Nat := 0
  failureReason : Option Text := none
  sentAt : Option DateTime := none

/-- One message handed to an adapter, with the answer unless the adapter raised. -/
structure Sending where
  investigationId : Text
  approvalId : Text
  target : AlertTarget
  message : RenderedMessage
  result : Option SendResult

/-- The adapter reported the message as delivered. -/
def Sending.arrived (sending : Sending) : Bool := (sending.result.map (·.delivered)).getD false

structure World where
  decisions : Text → Option HumanDecision
  conversations : Text → Option Conversation
  notifications : Dict Text Notification
  audit : List AuditEntry
  sends : List Sending

/-- What one dispatch is given: the alert, the adapters that exist, the answer to the
    n-th message ever sent, the clock and the actor. -/
structure Dispatching where
  alert : AlertRequest
  hasAdapter : NotificationChannel → Bool
  reply : Nat → Except PyError SendResult
  now : Nat → DateTime
  actorId : Option Text := none

/-- What one channel did with one message. -/
structure DeliveryOutcome where
  channel : NotificationChannel
  recipient : Text
  delivered : Bool
  attempts : Nat := 0
  detail : Text := []
  refused : Bool := false

structure DispatchResult where
  investigationId : Text
  approvalId : Text
  outcomes : List DeliveryOutcome := []
  deduplicated : List AlertTarget := []
  deadLettered : Bool := false
  noChannelConfigured : Bool := false

/-- Why a dispatch does not return. -/
inductive DispatchError where
  | unapproved (message : Text)
  | raised (error : PyError)

/-! ### The dispatch -/

/-- Load the human decision authorizing an alert, or refuse. -/
def verifyApproval (world : World) (investigationId approvalId : Text) : Except DispatchError HumanDecision :=
  match world.decisions approvalId with
  | none => .error (.unapproved (lit "no human decision " ++ approvalId))
  | some decision =>
    if (world.conversations decision.conversationId).map (·.investigationId) ≠ some investigationId then
      .error (.unapproved (lit "decision " ++ approvalId ++ lit " does not belong to investigation " ++ investigationId))
    else if decision.decision ≠ .APPROVE then
      .error (.unapproved (lit "decision " ++ approvalId ++ lit " was " ++ decision.decision.value ++
        lit ", not an approval; an alert may only follow an approval"))
    else .ok decision

/-- The attempts on one target, while it is neither reached nor refused. -/
def sendRepeatedly (given : Dispatching) (target : AlertTarget) (message : RenderedMessage) :
    Nat → Nat → SendResult → List Sending → List Sending × Except PyError (Nat × SendResult)
  | 0, attempts, result, sends => (sends,.ok (attempts,result))
  | remaining + 1, attempts, _, sends =>
    let sending := Sending.mk given.alert.investigationId given.alert.approvalId target message
    match given.reply sends.length with
    | .error e => (sends ++ [sending none],.error e)
    | .ok result =>
      if result.delivered || result.refused then (sends ++ [sending (some result)],.ok (attempts + 1,result))
      else sendRepeatedly given target message remaining (attempts + 1) result (sends ++ [sending (some result)])

section
variable [Interpreter] (sha256 : Text → Text) (render : AlertRequest → NotificationChannel → RenderedMessage)
  (settings : Settings)

/-- The key of the delivery to a target. -/
def targetKey (alert : AlertRequest) (target : AlertTarget) : Text :=
  dedupeKey sha256 alert.investigationId alert.approvalId target.channel target.recipient

/-- Attempt one target whose row is not sent, and update the row. -/
def attemptDelivery (given : Dispatching) (target : AlertTarget) (world : World) (row : Notification) :
    World × Except PyError (Option DeliveryOutcome) :=
  let message := render given.alert target.channel
  let unconfigured : SendResult := ⟨false,target.channel.value ++ lit " has no adapter configured",true⟩
  let tried :=
    if given.hasAdapter target.channel then
      sendRepeatedly given target message settings.notificationMaxAttempts 0 unconfigured world.sends
    else (world.sends,.ok (0,unconfigured))
  match tried.2 with
  | .error e => ({ world with sends := tried.1 },.error e)
  | .ok (attempts,result) =>
    let counted := { row with deliveryAttempts := row.deliveryAttempts + attempts }
    let updated : Notification :=
      if result.delivered then
        { counted with status := .SENT, sentAt := some (given.now tried.1.length), failureReason := none }
      else { counted with status := .FAILED, failureReason := some (result.detail.take 500) }
    ({ world with
        sends := tried.1, notifications := world.notifications.set (targetKey sha256 given.alert target) updated },
      .ok (some ⟨target.channel,target.recipient,result.delivered,attempts,result.detail,result.refused⟩))

/-- Attempt one target, creating or updating its delivery record; no outcome when the
    alert was already sent to it. -/
def deliver (given : Dispatching) (target : AlertTarget) (world : World) : World × Except PyError (Option DeliveryOutcome) :=
  let key := targetKey sha256 given.alert target
  match world.notifications.get? key with
  | some row =>
    if row.status = .SENT then (world,.ok none) else attemptDelivery sha256 render settings given target world row
  | none =>
    let row : Notification := ⟨given.alert.investigationId,given.alert.approvalId,target.channel,target.recipient,
      given.alert.priority,.PENDING,0,none,none⟩
    attemptDelivery sha256 render settings given target { world with notifications := world.notifications.set key row } row

/-- What the loops over tiers and targets have collected. -/
structure Progress where
  outcomes : List DeliveryOutcome := []
  deduplicated : List AlertTarget := []
  deliveredAnywhere : Bool := false

/-- The loop over one tier. -/
def deliverTier (given : Dispatching) : List AlertTarget → World → Progress → World × Except PyError Progress
  | [], world, progress => (world,.ok progress)
  | target :: rest, world, progress =>
    match deliver sha256 render settings given target world with
    | (next,.error e) => (next,.error e)
    | (next,.ok none) => deliverTier given rest next { progress with deduplicated := progress.deduplicated ++ [target] }
    | (next,.ok (some outcome)) => deliverTier given rest next { progress with
        outcomes := progress.outcomes ++ [outcome]
        deliveredAnywhere := progress.deliveredAnywhere || outcome.delivered }

/-- The loop over the tiers, left once a tier has reached someone. -/
def deliverTiers (given : Dispatching) : List (List AlertTarget) → World → Progress → World × Except PyError Progress
  | [], world, progress => (world,.ok progress)
  | tier :: rest, world, progress =>
    if progress.deliveredAnywhere then (world,.ok progress)
    else match deliverTier sha256 render settings given tier world progress with
      | (next,.error e) => (next,.error e)
      | (next,.ok progress) => deliverTiers given rest next progress

omit [Interpreter] in
/-- Record that an approved alert reached nobody. -/
def deadLetter (given : Dispatching) (outcomes : List DeliveryOutcome) (world : World) : World :=
  let reasons := joined (lit "; ") ((outcomes.filter fun outcome => outcome.detail ≠ []).map fun outcome =>
    outcome.channel.value ++ lit ": " ++ outcome.detail)
  { world with
    notifications := world.notifications.mapValues fun row =>
      if row.approvalId = given.alert.approvalId ∧ row.status = .FAILED then { row with status := .DEAD_LETTER } else row
    audit := world.audit ++ [{
      action := lit "notification.dead_letter", entityType := lit "investigation"
      entityId := some given.alert.investigationId, actorId := given.actorId
      afterRef := some (if reasons.take 1024 = [] then lit "every configured channel failed" else reasons.take 1024) }] }

/-- Deliver one approved alert across the configured channels. -/
def dispatchAlert (given : Dispatching) (world : World) : World × Except DispatchError DispatchResult :=
  match verifyApproval world given.alert.investigationId given.alert.approvalId with
  | .error e => (world,.error e)
  | .ok _ =>
    let result : DispatchResult := { investigationId := given.alert.investigationId, approvalId := given.alert.approvalId }
    if !isWorthAlerting given.alert.priority settings.notificationMinPriority then (world,.ok result)
    else match resolveTargets settings with
      | .error e => (world,.error (.raised e))
      | .ok [] => (world,.ok { result with noChannelConfigured := true })
      | .ok targets =>
        match deliverTiers sha256 render settings given (failoverPlan targets) world {} with
        | (next,.error e) => (next,.error (.raised e))
        | (next,.ok progress) =>
          let result := { result with outcomes := progress.outcomes, deduplicated := progress.deduplicated }
          if progress.outcomes ≠ [] ∧ progress.deliveredAnywhere = false then
            (deadLetter given progress.outcomes next,.ok { result with deadLettered := true })
          else (next,.ok result)

/-! ### What a dispatch sends -/

omit [Interpreter] in
/-- The key has a delivery row that is sent. -/
def Reached (world : World) (key : Text) : Prop := ∃ row, world.notifications.get? key = some row ∧ row.status = .SENT

omit [Interpreter] in
/-- The key has a delivery row that was given up. -/
def Buried (world : World) (key : Text) : Prop := ∃ row, world.notifications.get? key = some row ∧ row.status = .DEAD_LETTER

/-- Every adapter answers every message. -/
def Returning (given : Dispatching) : Prop := ∀ n, ∃ result, given.reply n = .ok result

omit [Interpreter] in
/-- The attempts on one target stop at the first message that arrives. -/
theorem sendRepeatedly_sends {given : Dispatching} (returning : Returning given) (target : AlertTarget)
    (message : RenderedMessage) (remaining attempts : Nat) {result : SendResult} (waiting : result.delivered = false)
    (sends : List Sending) :
    ∃ made tries final, sendRepeatedly given target message remaining attempts result sends = (sends ++ made,.ok (tries,final)) ∧
      (∀ sending ∈ made, sending.target = target ∧ ∃ n result, given.reply n = .ok result ∧ sending.result = some result) ∧
      (final.delivered = true ↔ ∃ sending ∈ made, sending.arrived = true) ∧
      made.Pairwise (fun earlier _ => earlier.arrived = false) ∧ (1 ≤ remaining → made ≠ []) := by
  induction remaining generalizing attempts result sends with
  | zero => exact ⟨[],attempts,result,by simp [sendRepeatedly],by simp,by simp [waiting],.nil,by simp⟩
  | succ remaining ih =>
    obtain ⟨answer,answered⟩ := returning sends.length
    set sending : Sending := ⟨given.alert.investigationId,given.alert.approvalId,target,message,some answer⟩ with sendingDef
    have arrives : sending.arrived = answer.delivered := rfl
    have here : sending.target = target ∧ ∃ n result, given.reply n = .ok result ∧ sending.result = some result :=
      ⟨rfl,_,answer,answered,rfl⟩
    unfold sendRepeatedly
    simp only [answered]
    by_cases done : (answer.delivered || answer.refused) = true
    · rw [if_pos done]
      exact ⟨[sending],attempts + 1,answer,rfl,by simpa using here,by simp [arrives],List.pairwise_singleton _ _,by simp⟩
    · rw [if_neg done]
      have missed : answer.delivered = false := by
        simp only [Bool.or_eq_true,not_or,Bool.not_eq_true] at done
        exact done.1
      obtain ⟨made,tries,final,run,aimed,reached,only,_⟩ := ih (attempts + 1) missed (sends ++ [sending])
      refine ⟨sending :: made,tries,final,by rw [run]; simp,?_,?_,?_,by simp⟩
      · intro other member
        rcases List.mem_cons.mp member with rfl | member
        · exact here
        · exact aimed other member
      · rw [reached,List.exists_mem_cons_iff,arrives,missed]
        simp
      · exact List.pairwise_cons.mpr ⟨fun _ _ => by rw [arrives,missed],only⟩

/-- The messages sent between two worlds: to which targets, to none that is reached, and
    what they change about who is reached. -/
structure Paged (key : AlertTarget → Text) (targets : List AlertTarget) (world next : World) (made : List Sending) : Prop where
  log : next.sends = world.sends ++ made
  aimed : ∀ sending ∈ made, sending.target ∈ targets
  fresh : ∀ sending ∈ made, ¬ Reached world (key sending.target)
  once : made.Pairwise fun earlier later => earlier.arrived = true → key earlier.target ≠ key later.target
  reached : ∀ sought, Reached next sought ↔
    Reached world sought ∨ ∃ sending ∈ made, sending.arrived = true ∧ key sending.target = sought

/-- The messages of one dispatch before it gives up. -/
structure Made (given : Dispatching) (targets : List AlertTarget) (world next : World) (made : List Sending) : Prop
    extends Paged (targetKey sha256 given.alert) targets world next made where
  audit : next.audit = world.audit
  equipped : ∀ sending ∈ made, given.hasAdapter sending.target.channel = true
  answered : ∀ sending ∈ made, ∃ n result, given.reply n = .ok result ∧ sending.result = some result
  kept : ∀ sought, Reached world sought → next.notifications.get? sought = world.notifications.get? sought
  buried : ∀ sought, Buried next sought → Buried world sought

variable {sha256 render settings}

section
variable {key : AlertTarget → Text} {targets more : List AlertTarget} {world middle next : World} {made further : List Sending}

omit [Interpreter] in
theorem Paged.nothing (key : AlertTarget → Text) (targets : List AlertTarget) (world : World) : Paged key targets world world [] :=
  ⟨by simp,by simp,by simp,.nil,by simp⟩

omit [Interpreter] in
theorem Paged.stays (sent : Paged key targets world next made) {sought : Text} (reached : Reached world sought) :
    Reached next sought :=
  (sent.reached sought).mpr (.inl reached)

omit [Interpreter] in
theorem Paged.trans (first : Paged key targets world middle made) (second : Paged key targets middle next further) :
    Paged key targets world next (made ++ further) := by
  refine ⟨by rw [second.log,first.log,List.append_assoc],?_,?_,?_,?_⟩
  · intro sending member
    rcases List.mem_append.mp member with member | member
    · exact first.aimed sending member
    · exact second.aimed sending member
  · intro sending member
    rcases List.mem_append.mp member with member | member
    · exact first.fresh sending member
    · exact fun already => second.fresh sending member (first.stays already)
  · refine List.pairwise_append.mpr ⟨first.once,second.once,?_⟩
    intro earlier member later follows arrived same
    exact second.fresh later follows ((first.reached _).mpr (.inr ⟨earlier,member,arrived,same⟩))
  · intro sought
    rw [second.reached,first.reached,or_assoc]
    simp only [List.mem_append,or_and_right,exists_or]

variable {given : Dispatching}

theorem Made.nothing (given : Dispatching) (targets : List AlertTarget) (world : World) : Made sha256 given targets world world [] :=
  ⟨Paged.nothing _ _ _,rfl,by simp,by simp,fun _ _ => rfl,fun _ buried => buried⟩

theorem Made.widen (sent : Made sha256 given targets world next made) (within : ∀ target ∈ targets, target ∈ more) :
    Made sha256 given more world next made :=
  { sent with aimed := fun sending member => within _ (sent.aimed sending member) }

theorem Made.trans (first : Made sha256 given targets world middle made) (second : Made sha256 given targets middle next further) :
    Made sha256 given targets world next (made ++ further) := by
  refine ⟨first.toPaged.trans second.toPaged,second.audit.trans first.audit,?_,?_,?_,?_⟩
  · intro sending member
    rcases List.mem_append.mp member with member | member
    · exact first.equipped sending member
    · exact second.equipped sending member
  · intro sending member
    rcases List.mem_append.mp member with member | member
    · exact first.answered sending member
    · exact second.answered sending member
  · exact fun sought reached => (second.kept sought (first.stays reached)).trans (first.kept sought reached)
  · exact fun sought buried => first.buried sought (second.buried sought buried)

end

variable (sha256 render settings)

/-- The attempts on a target that is not reached: its row becomes sent exactly when a
    message arrives. -/
private theorem attemptDelivery_made {given : Dispatching} (returning : Returning given) {target : AlertTarget} {world : World} (start : World)
    (row : Notification) (unreached : ¬ Reached world (targetKey sha256 given.alert target)) (sameSends : start.sends = world.sends)
    (sameAudit : start.audit = world.audit)
    (elsewhere : ∀ key, key ≠ targetKey sha256 given.alert target → start.notifications.get? key = world.notifications.get? key) :
    ∃ next made outcome, attemptDelivery sha256 render settings given target start row = (next,.ok (some outcome)) ∧
      Made sha256 given [target] world next made ∧ (outcome.delivered = true ↔ ∃ sending ∈ made, sending.arrived = true) ∧
      (given.hasAdapter target.channel = true → made ≠ []) := by
  set unconfigured : SendResult := ⟨false,target.channel.value ++ lit " has no adapter configured",true⟩ with unconfiguredDef
  obtain ⟨made,tries,final,tried,aimed,arrived,only,some⟩ : ∃ made tries final,
      (if given.hasAdapter target.channel then
        sendRepeatedly given target (render given.alert target.channel) settings.notificationMaxAttempts 0 unconfigured start.sends
      else (start.sends,.ok (0,unconfigured))) = (world.sends ++ made,.ok (tries,final)) ∧
      (∀ sending ∈ made, (sending.target = target ∧ ∃ n result, given.reply n = .ok result ∧ sending.result = some result) ∧
        given.hasAdapter target.channel = true) ∧
      (final.delivered = true ↔ ∃ sending ∈ made, sending.arrived = true) ∧
      made.Pairwise (fun earlier _ => earlier.arrived = false) ∧ (given.hasAdapter target.channel = true → made ≠ []) := by
    by_cases adapter : given.hasAdapter target.channel = true
    · obtain ⟨made,tries,final,run,aimed,arrived,only,some⟩ := sendRepeatedly_sends returning target
        (render given.alert target.channel) settings.notificationMaxAttempts 0 (show unconfigured.delivered = false from rfl) start.sends
      exact ⟨made,tries,final,by rw [if_pos adapter,run,sameSends],fun sending member => ⟨aimed sending member,adapter⟩,arrived,only,
        fun _ => some settings.attempts⟩
    · exact ⟨[],0,unconfigured,by rw [if_neg adapter,sameSends,List.append_nil],by simp,by simp [unconfiguredDef],.nil,
        fun yes => absurd yes adapter⟩
  unfold attemptDelivery
  simp only [← unconfiguredDef,tried]
  refine ⟨_,made,_,rfl,⟨⟨rfl,?_,?_,?_,?_⟩,sameAudit,?_,?_,?_,?_⟩,arrived,some⟩
  · intro sending member
    rw [(aimed sending member).1.1]
    exact List.mem_singleton_self target
  · intro sending member
    rw [(aimed sending member).1.1]
    exact unreached
  · exact only.imp fun missed arrived => by rw [missed] at arrived; cases arrived
  · intro key
    by_cases same : key = targetKey sha256 given.alert target
    · subst same
      have keyed : (∃ sending ∈ made, sending.arrived = true ∧ targetKey sha256 given.alert sending.target =
          targetKey sha256 given.alert target) ↔ final.delivered = true := by
        rw [arrived]
        exact exists_congr fun sending => and_congr_right fun member => by rw [(aimed sending member).1.1]; simp
      rw [keyed,or_iff_right unreached]
      simp only [Reached,Dict.get?_set_self,Option.some.injEq,exists_eq_left']
      by_cases delivered : final.delivered = true <;> simp [delivered]
    · have apart : ¬ ∃ sending ∈ made, sending.arrived = true ∧ targetKey sha256 given.alert sending.target = key := by
        rintro ⟨sending,member,_,keyed⟩
        rw [(aimed sending member).1.1] at keyed
        exact same keyed.symm
      simp only [Reached,Dict.get?_set,same,if_false,elsewhere key same,apart,or_false]
  · intro sending member
    obtain ⟨⟨same,_⟩,adapter⟩ := aimed sending member
    rw [same]
    exact adapter
  · exact fun sending member => (aimed sending member).1.2
  · intro key reached
    have other : key ≠ targetKey sha256 given.alert target := fun same => unreached (same ▸ reached)
    simp only [Dict.get?_set,other,if_false,elsewhere key other]
  · rintro key ⟨found,stored,status⟩
    by_cases same : key = targetKey sha256 given.alert target
    · subst same
      simp only [Dict.get?_set_self,Option.some.injEq] at stored
      subst stored
      by_cases delivered : final.delivered = true <;> simp [delivered] at status
    · simp only [Dict.get?_set,same,if_false,elsewhere key same] at stored
      exact ⟨found,stored,status⟩

/-- One target: nothing is sent to it when it is reached, and there is no outcome. -/
theorem deliver_made {given : Dispatching} (returning : Returning given) (target : AlertTarget) (world : World) :
    ∃ next made outcome, deliver sha256 render settings given target world = (next,.ok outcome) ∧
      Made sha256 given [target] world next made ∧ (outcome = none ↔ Reached world (targetKey sha256 given.alert target)) ∧
      ((∃ sent, outcome = some sent ∧ sent.delivered = true) ↔ ∃ sending ∈ made, sending.arrived = true) ∧
      (given.hasAdapter target.channel = true → outcome ≠ none → made ≠ []) := by
  unfold deliver
  simp only
  cases stored : world.notifications.get? (targetKey sha256 given.alert target) with
  | none =>
    have unreached : ¬ Reached world (targetKey sha256 given.alert target) := by simp [Reached,stored]
    set row : Notification := ⟨given.alert.investigationId,given.alert.approvalId,target.channel,target.recipient,
      given.alert.priority,.PENDING,0,none,none⟩
    obtain ⟨next,made,outcome,run,sent,delivered,some⟩ := attemptDelivery_made sha256 render settings returning
      { world with notifications := world.notifications.set (targetKey sha256 given.alert target) row } row unreached rfl rfl
      (fun key other => by rw [Dict.get?_set,if_neg other])
    exact ⟨next,made,_,run,sent,by simp [unreached],by simpa using delivered,fun adapter _ => some adapter⟩
  | some row =>
    simp only
    split_ifs with isSent
    · refine ⟨world,[],none,rfl,Made.nothing _ _ _,?_,by simp,by simp⟩
      simp [Reached,stored,isSent]
    · have unreached : ¬ Reached world (targetKey sha256 given.alert target) := by simp [Reached,stored,isSent]
      obtain ⟨next,made,outcome,run,sent,delivered,some⟩ := attemptDelivery_made sha256 render settings returning
        world row unreached rfl rfl (fun _ _ => rfl)
      exact ⟨next,made,_,run,sent,by simp [unreached],by simpa using delivered,fun adapter _ => some adapter⟩

end
end SocAnalyst.Dispatch
