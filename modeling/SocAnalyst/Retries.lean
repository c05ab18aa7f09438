import SocAnalyst.AlertLines
import SocAnalyst.Failover
import SocAnalyst.GraphNodes

/-!
# Retrying a delivery

The retry route of `backend/api/routes/notifications.py`, `retry_delivery` of
`backend/services/notifications.py` and `set_headline`: a retry writes its alert again from
the case record, where a dispatch sends the alert that the graph prepared.
-/
namespace SocAnalyst.Retries
open SocAnalyst.Builtins SocAnalyst.Values SocAnalyst.Times SocAnalyst.Dicts SocAnalyst.Risk SocAnalyst.Decisions
open SocAnalyst.Notifications SocAnalyst.AlertTemplates SocAnalyst.AlertLines SocAnalyst.Dispatch SocAnalyst.Failover
open SocAnalyst.Graph hiding priorityValue severityValue

/-- `AlertRequest`, or its validators' refusal. -/
def alertRequest (investigationId approvalId title summary : Text) (priority : TriagePriority) (severity : Option Severity)
    (verdict : Option Text) (highlights : List Text) (consoleUrl : Option Text) : Except PyError AlertRequest :=
  if valid : strip title ≠ [] ∧ (strip summary ≠ [] ∧ summary.length ≤ 1200) ∧ highlights.length ≤ 8 then
    .ok ⟨investigationId,approvalId,title,summary,priority,severity,verdict,highlights,consoleUrl,valid.1,valid.2.1,valid.2.2⟩
  else .error .ValueError

theorem alertRequest_ok {investigationId approvalId title summary : Text} {priority : TriagePriority} {severity : Option Severity}
    {verdict : Option Text} {highlights : List Text} {consoleUrl : Option Text} {alert : AlertRequest}
    (valid : alertRequest investigationId approvalId title summary priority severity verdict highlights consoleUrl = .ok alert) :
    alert.investigationId = investigationId ∧ alert.title = title ∧ alert.summary = summary ∧ alert.priority = priority ∧
      alert.severity = severity ∧ alert.verdict = verdict ∧ alert.highlights = highlights ∧ alert.consoleUrl = consoleUrl := by
  unfold alertRequest at valid
  split_ifs at valid
  cases valid
  exact ⟨rfl,rfl,rfl,rfl,rfl,rfl,rfl,rfl⟩

/-! ### The alert that is dispatched -/

def readText : Value → Except PyError Text
  | .str text => .ok text
  | _ => .error .ValueError

/-- A member of an enumeration by its value. -/
def readEnum (members : List α) (value : α → Text) : Value → Except PyError α
  | .str text => ((members.find? fun member => value member = text).map .ok).getD (.error .ValueError)
  | _ => .error .ValueError

def readOptional (read : Value → Except PyError α) : Value → Except PyError (Option α)
  | .null => .ok none
  | value => (read value).map some

def readTexts : Value → Except PyError (List Text)
  | .list items => mapRaising readText items
  | _ => .error .ValueError

def alertFields : List Text :=
  [lit "investigation_id",lit "approval_id",lit "title",lit "summary",lit "priority",lit "severity",lit "verdict",lit "highlights",
    lit "console_url"]

/-- The alert of a prepared payload, on the authority of the decision just recorded and
    with the console's link. -/
def validateAlert (readUuid : Text → Option Text) (payload : Mapping) (approvalId : Text) (consoleUrl : Option Text) :
    Except PyError AlertRequest :=
  if payload.any fun entry => entry.1 ∉ alertFields then .error .ValueError
  else do
    let written ← readText (get payload (lit "investigation_id"))
    let investigationId ← ((readUuid written).map Except.ok).getD (.error .ValueError)
    let title ← readText (get payload (lit "title"))
    let summary ← readText (get payload (lit "summary"))
    let priority ← readEnum [.LOW,.MEDIUM,.HIGH,.URGENT] priorityValue (get payload (lit "priority"))
    let severity ← readOptional (readEnum [.INFO,.LOW,.MEDIUM,.HIGH,.CRITICAL] severityValue) (get payload (lit "severity"))
    let verdict ← readOptional readText (get payload (lit "verdict"))
    let highlights ← ((lookup payload (lit "highlights")).map readTexts).getD (.ok [])
    alertRequest investigationId approvalId title summary priority severity verdict highlights consoleUrl

theorem validateAlert_ok {readUuid : Text → Option Text} {payload : Mapping} {approvalId : Text} {consoleUrl : Option Text}
    {alert : AlertRequest} (valid : validateAlert readUuid payload approvalId consoleUrl = .ok alert) :
    get payload (lit "title") = .str alert.title ∧ alert.consoleUrl = consoleUrl := by
  unfold validateAlert at valid
  split_ifs at valid
  simp only [bind_ok] at valid
  obtain ⟨_,_,_,_,title,read,_,_,_,_,_,_,_,_,_,_,built⟩ := valid
  obtain ⟨_,named,_,_,_,_,_,linked⟩ := alertRequest_ok built
  refine ⟨?_,linked⟩
  rw [named]
  cases found : get payload (lit "title") <;> rw [found] at read <;> cases read
  rfl

/-! ### The alert that is retried -/

/-- What a case record says about its investigation. -/
structure Investigation where
  title : Option Text := none
  severity : Option Severity := none
  summary : Option Text := none

/-- Carry the assessment's headline onto the case record. -/
def setHeadline (row : Investigation) (headline : Option Severity × Text) : Investigation :=
  { row with
    severity := if headline.1.isSome then headline.1 else row.severity
    summary := if headline.2 ≠ [] then some headline.2 else row.summary }

/-- Reconstruct the alert for a retry from the record, not from a client body. -/
def rebuildAlert (investigation : Option Investigation) (row : Notification) : Except PyError AlertRequest :=
  let title := investigation.bind (·.title)
  let summary := investigation.bind (·.summary)
  alertRequest row.investigationId row.approvalId
    (if truthy title then title.getD [] else lit "Investigation " ++ row.investigationId)
    (if truthy summary then summary.getD []
      else lit "An analyst approved this investigation; see the console for detail.")
    row.priority (investigation.bind (·.severity)) none [] none

/-- What one retry is given: the adapters that exist, the answer to each attempt, the clock
    and the actor. -/
structure Retrying where
  hasAdapter : NotificationChannel → Bool
  reply : Nat → Except PyError SendResult
  now : DateTime
  actorId : Option Text := none
  ipAddress : Option Text := none

/-- One message a retry hands to an adapter. -/
structure Resending where
  channel : NotificationChannel
  recipient : Text
  message : RenderedMessage
  result : Option SendResult

/-- Why a retry does not return. -/
inductive RetryError where
  | notFound (message : Text)
  | conflict (message : Text)
  | raised (error : PyError)

/-- The attempts of one retry, while its recipient is neither reached nor refused. -/
def resendRepeatedly (reply : Nat → Except PyError SendResult) (row : Notification) (message : RenderedMessage) :
    Nat → Nat → SendResult → List Resending → List Resending × Except PyError (Nat × SendResult)
  | 0, attempts, result, sent => (sent,.ok (attempts,result))
  | remaining + 1, attempts, _, sent =>
    let resending := Resending.mk row.channel row.recipient message
    match reply attempts with
    | .error e => (sent ++ [resending none],.error e)
    | .ok result =>
      if result.delivered || result.refused then (sent ++ [resending (some result)],.ok (attempts + 1,result))
      else resendRepeatedly reply row message remaining (attempts + 1) result (sent ++ [resending (some result)])

section
variable [WordTable] (settings : Settings)

/-- Re-attempt one failed delivery on its original channel and authority. A delivery row is
    known by its dedupe key, which is unique. -/
def retryDelivery (given : Retrying) (notificationId : Text) (alert : AlertRequest) (world : World) :
    List Resending × Except RetryError (World × DeliveryOutcome) :=
  match world.notifications.get? notificationId with
  | none => ([],.error (.conflict (lit "no notification " ++ notificationId)))
  | some row =>
    if row.status = .SENT then
      ([],.error (.conflict (lit
        "this alert was already delivered; sending it again is a new notification and needs a new approval")))
    else match verifyApproval world row.investigationId row.approvalId with
    | .error (.unapproved message) => ([],.error (.conflict message))
    | .error (.raised e) => ([],.error (.raised e))
    | .ok _ =>
      let unconfigured : SendResult := ⟨false,row.channel.value ++ lit " has no adapter configured",true⟩
      let tried :=
        if given.hasAdapter row.channel then
          resendRepeatedly given.reply row (render alert row.channel) settings.notificationMaxAttempts 0 unconfigured []
        else ([],.ok (0,unconfigured))
      match tried.2 with
      | .error e => (tried.1,.error (.raised e))
      | .ok (attempts,result) =>
        let counted := { row with deliveryAttempts := row.deliveryAttempts + attempts }
        let updated : Notification :=
          if result.delivered then { counted with status := .SENT, sentAt := some given.now, failureReason := none }
          else { counted with
            status := if row.status = .DEAD_LETTER then .DEAD_LETTER else .FAILED
            failureReason := some (result.detail.take 500) }
        (tried.1,.ok ({ world with
            notifications := world.notifications.set notificationId updated
            audit := world.audit ++ [{
              action := lit "notification.retried", entityType := lit "notification", entityId := some notificationId
              actorId := given.actorId
              afterRef := some (lit "delivered=" ++ if result.delivered then lit "True" else lit "False") }] },
          ⟨row.channel,row.recipient,result.delivered,attempts,result.detail,result.refused⟩))

/-- Re-attempt one failed delivery, with the alert written again from the case record. -/
def retryNotification (given : Retrying) (investigations : Text → Option Investigation) (notificationId : Text) (world : World) :
    List Resending × Except RetryError (World × DeliveryOutcome) :=
  match world.notifications.get? notificationId with
  | none => ([],.error (.notFound (lit "no such notification")))
  | some row =>
    match rebuildAlert (investigations row.investigationId) row with
    | .error e => ([],.error (.raised e))
    | .ok alert =>
      match retryDelivery settings given notificationId alert world with
      | (sent,.error e) => (sent,.error e)
      | (sent,.ok (next,outcome)) =>
        (sent,.ok ({ next with audit := next.audit ++ [{
          action := lit "notification.retry_requested", entityType := lit "notification", entityId := some notificationId
          actorId := given.actorId, ipAddress := given.ipAddress }] },outcome))

/-- What a retry renders for the channel of a delivery row. -/
def retriedMessage (investigation : Option Investigation) (row : Notification) : Except PyError RenderedMessage :=
  (rebuildAlert investigation row).map fun alert => render alert row.channel

/-! ### What is handed to the adapters -/

section
variable (render : AlertRequest → NotificationChannel → RenderedMessage) (given : Dispatching)

/-- Every message logged since is the alert, rendered for its channel. -/
def Says (before after : List Sending) : Prop :=
  ∃ made, after = before ++ made ∧ ∀ sending ∈ made, sending.message = render given.alert sending.target.channel

variable {render given}

omit [WordTable] in
theorem Says.refl (sends : List Sending) : Says render given sends sends := ⟨[],by simp,by simp⟩

omit [WordTable] in
theorem Says.trans {before middle after : List Sending} (first : Says render given before middle)
    (second : Says render given middle after) : Says render given before after := by
  obtain ⟨made,rfl,said⟩ := first
  obtain ⟨further,rfl,more⟩ := second
  exact ⟨made ++ further,by rw [List.append_assoc],List.forall_mem_append.mpr ⟨said,more⟩⟩

omit [WordTable] in
theorem Says.snoc {sends : List Sending} {sending : Sending} (said : sending.message = render given.alert sending.target.channel) :
    Says render given sends (sends ++ [sending]) :=
  ⟨[sending],rfl,by simpa using said⟩

omit [WordTable] in
theorem sendRepeatedly_says (render : AlertRequest → NotificationChannel → RenderedMessage) (given : Dispatching) (target : AlertTarget) (remaining attempts : Nat) (result : SendResult) (sends : List Sending) :
    Says render given sends (sendRepeatedly given target (render given.alert target.channel) remaining attempts result sends).1 := by
  induction remaining generalizing attempts result sends with
  | zero => exact .refl sends
  | succ remaining ih =>
    unfold sendRepeatedly
    cases answer : given.reply sends.length with
    | error e => exact .snoc rfl
    | ok result =>
      dsimp only
      split_ifs
      · exact .snoc rfl
      · exact (Says.snoc rfl).trans (ih ..)

variable [Interpreter] (sha256 : Text → Text) (render given)

omit [WordTable] in
theorem attemptDelivery_says (target : AlertTarget) (world : World) (row : Notification) :
    Says render given world.sends (attemptDelivery sha256 render settings given target world row).1.sends := by
  unfold attemptDelivery
  dsimp only
  by_cases equipped : given.hasAdapter target.channel = true
  · have said := sendRepeatedly_says render given target settings.notificationMaxAttempts 0
      ⟨false,target.channel.value ++ lit " has no adapter configured",true⟩ world.sends
    rw [if_pos equipped]
    split
    · exact said
    · exact said
  · rw [if_neg equipped]
    exact .refl _

omit [WordTable] in
theorem deliver_says (target : AlertTarget) (world : World) :
    Says render given world.sends (deliver sha256 render settings given target world).1.sends := by
  unfold deliver
  dsimp only
  split
  · split_ifs
    · exact .refl _
    · exact attemptDelivery_says settings render given sha256 target world _
  · exact attemptDelivery_says settings render given sha256 target { world with notifications := _ } _

omit [WordTable] in
theorem deliverTier_says (tier : List AlertTarget) (world : World) (progress : Progress) :
    Says render given world.sends (deliverTier sha256 render settings given tier world progress).1.sends := by
  induction tier generalizing world progress with
  | nil => exact .refl _
  | cons target rest ih =>
    have here := deliver_says settings render given sha256 target world
    unfold deliverTier
    split
    · next delivered => rwa [delivered] at here
    · next delivered => exact (delivered ▸ here).trans (ih ..)
    · next delivered => exact (delivered ▸ here).trans (ih ..)

omit [WordTable] in
theorem deliverTiers_says (tiers : List (List AlertTarget)) (world : World) (progress : Progress) :
    Says render given world.sends (deliverTiers sha256 render settings given tiers world progress).1.sends := by
  induction tiers generalizing world progress with
  | nil => exact .refl _
  | cons tier rest ih =>
    have here := deliverTier_says settings render given sha256 tier world progress
    unfold deliverTiers
    split_ifs
    · exact .refl _
    · split
      · next delivered => rwa [delivered] at here
      · next delivered => exact (delivered ▸ here).trans (ih ..)

omit [WordTable] in
/-- A dispatch hands over its alert, rendered for each channel. -/
theorem dispatchAlert_says (world : World) : Says render given world.sends (dispatchAlert sha256 render settings given world).1.sends := by
  unfold dispatchAlert
  split
  · exact .refl _
  · dsimp only
    split_ifs
    · exact .refl _
    · split
      · exact .refl _
      · exact .refl _
      · next targets _ _ =>
        have here := deliverTiers_says settings render given sha256 (failoverPlan targets) world {}
        split
        · next delivered => rwa [delivered] at here
        · next delivered =>
          split_ifs
          · rwa [delivered] at here
          · rwa [delivered] at here

end

omit [WordTable] in
theorem resendRepeatedly_message (reply : Nat → Except PyError SendResult) (row : Notification) (message : RenderedMessage)
    (remaining attempts : Nat) (result : SendResult) {sent : List Resending} (said : ∀ resending ∈ sent, resending.message = message) :
    ∀ resending ∈ (resendRepeatedly reply row message remaining attempts result sent).1, resending.message = message := by
  induction remaining generalizing attempts result sent with
  | zero => exact said
  | succ remaining ih =>
    have one : ∀ answer, ∀ resending ∈ sent ++ [Resending.mk row.channel row.recipient message answer], resending.message = message :=
      fun answer => List.forall_mem_append.mpr ⟨said,by simp⟩
    unfold resendRepeatedly
    cases answer : reply attempts with
    | error e => exact one none
    | ok result =>
      dsimp only
      split_ifs
      · exact one (some result)
      · exact ih _ _ (one (some result))

theorem retryDelivery_message (given : Retrying) {notificationId : Text} {alert : AlertRequest} {world : World} {row : Notification}
    (stored : world.notifications.get? notificationId = some row) :
    ∀ resending ∈ (retryDelivery settings given notificationId alert world).1, resending.message = render alert row.channel := by
  unfold retryDelivery
  rw [stored]
  dsimp only
  by_cases reached : row.status = .SENT
  · rw [if_pos reached]
    simp
  · rw [if_neg reached]
    split
    · simp
    · simp
    · by_cases equipped : given.hasAdapter row.channel = true
      · have said := resendRepeatedly_message given.reply row (render alert row.channel) settings.notificationMaxAttempts 0
          ⟨false,row.channel.value ++ lit " has no adapter configured",true⟩ (fun _ none => absurd none List.not_mem_nil)
        rw [if_pos equipped]
        split
        · exact said
        · exact said
      · rw [if_neg equipped]
        simp

/-- A retry hands over what it renders from the case record, and nothing else. -/
theorem retryNotification_message (given : Retrying) (investigations : Text → Option Investigation) (notificationId : Text)
    (world : World) : ∀ resending ∈ (retryNotification settings given investigations notificationId world).1,
      ∃ row, world.notifications.get? notificationId = some row ∧
        retriedMessage (investigations row.investigationId) row = .ok resending.message := by
  unfold retryNotification
  cases stored : world.notifications.get? notificationId with
  | none => simp
  | some row =>
    dsimp only
    unfold retriedMessage
    cases rebuilt : rebuildAlert (investigations row.investigationId) row with
    | error e => simp
    | ok alert =>
      intro resending listed
      have member : resending ∈ (retryDelivery settings given notificationId alert world).1 := by
        revert listed
        dsimp only
        split
        · next retried => rw [retried]; exact fun listed => listed
        · next retried => rw [retried]; exact fun listed => listed
      exact ⟨row,rfl,by rw [retryDelivery_message settings given stored resending member,rebuilt]; rfl⟩

/-! ### Where the ratings stand in a message -/

/-- The first line of a Slack message. -/
def slackHeading (alert : AlertRequest) : Text :=
  lit "*" ++ escapeSlack (upper (priorityValue alert.priority)) ++ lit "* — " ++ escapeSlack alert.title 200

omit [WordTable] in
theorem severity_first {severity other : Severity} {x y : Text} (same : severityValue severity ++ x = severityValue other ++ y) :
    severity = other := by
  have letters := congrArg List.head? same
  cases severity <;> cases other <;> first | rfl | (simp [severityValue,lit] at letters)

omit [WordTable] in
theorem escapeSlack_severity (severity : Severity) : escapeSlack (severityValue severity) = severityValue severity := by
  cases severity <;> decide

omit [WordTable] in
theorem slackFacts_rated {alert : AlertRequest} {severity : Severity} (rated : alert.severity = some severity) :
    ∃ rest, slackFacts alert = lit "severity " ++ severityValue severity ++ rest := by
  unfold slackFacts
  dsimp only
  rw [rated,Option.map_some,Option.getD_some,escapeSlack_severity,List.filter_cons_of_pos (by simp [lit])]
  rw [joined_cons _ _ (List.ne_nil_of_mem (List.mem_filter.mpr ⟨List.mem_cons_of_mem _ (List.mem_singleton_self _),by simp [lit]⟩))]
  exact ⟨_,List.append_assoc ..⟩

/-- A Slack message opens with the title, and the severity follows at once. -/
theorem slack_opening {alert : AlertRequest} {severity : Severity} (rated : alert.severity = some severity) :
    ∃ rest, (renderSlack alert).body = slackHeading alert ++ ([10] ++ lit "severity ") ++ (severityValue severity ++ rest) := by
  obtain ⟨facts,written⟩ := slackFacts_rated rated
  change ∃ rest, joined [10] ((slackLines alert).filter fun line => line ≠ []) = _
  have lines : ∃ others, slackLines alert = slackHeading alert :: slackFacts alert :: others := ⟨_,rfl⟩
  obtain ⟨others,lines⟩ := lines
  rw [lines,List.filter_cons_of_pos (by simp [slackHeading,lit]),List.filter_cons_of_pos (by simpa using slackFacts_some alert),
    joined_cons _ _ (List.cons_ne_nil _ _)]
  obtain ⟨rest,opened⟩ : ∃ rest, joined [10] (slackFacts alert :: others.filter fun line => line ≠ []) = slackFacts alert ++ rest := by
    by_cases none : (others.filter fun line => line ≠ []) = []
    · rw [none]
      exact ⟨[],(List.append_nil _).symm⟩
    · rw [joined_cons _ _ none]
      exact ⟨_,List.append_assoc ..⟩
  exact ⟨facts ++ rest,by rw [opened,written]; simp⟩

/-- The lines of an email are read back from its body. -/
theorem emailLines_body {a b : AlertRequest} : (renderEmail a).body = (renderEmail b).body ↔ emailLines a = emailLines b := by
  have lines : ∀ alert, (renderEmail alert).body.splitOn 10 = emailLines alert := by
    intro alert
    change (joined [10] (emailLines alert)).splitOn 10 = _
    rw [joined_eq_intercalate]
    exact List.splitOn_intercalate 10 (fun line listed => List.count_eq_zero.mp (emailLines_flat alert line listed)) (by simp [emailLines])
  constructor
  · intro same
    rw [← lines a,same,lines b]
  · exact congrArg (joined [10])

omit [WordTable] in
theorem severityText_eq {a b : AlertRequest} : severityText a = severityText b ↔ a.severity = b.severity := by
  unfold severityText
  constructor
  · intro same
    cases first : a.severity with
    | none =>
      cases second : b.severity with
      | none => rfl
      | some severity => rw [first,second] at same; cases severity <;> simp [severityValue,lit] at same
    | some severity =>
      cases second : b.severity with
      | none => rw [first,second] at same; cases severity <;> simp [severityValue,lit] at same
      | some other =>
        rw [first,second] at same
        rw [severity_first (congrArg (· ++ []) same)]
  · exact fun same => by rw [same]

/-- Alerts of one priority and title that are rated differently are not rendered alike. -/
theorem render_severity {a b : AlertRequest} (channel : NotificationChannel) (priority : a.priority = b.priority)
    (title : a.title = b.title) {severity other : Severity} (rated : a.severity = some severity) (else_rated : b.severity = some other)
    (same : render a channel = render b channel) : severity = other := by
  unfold render at same
  split_ifs at same
  · obtain ⟨rest,first⟩ := slack_opening rated
    obtain ⟨more,second⟩ := slack_opening else_rated
    have bodies := congrArg RenderedMessage.body same
    have heading : slackHeading a = slackHeading b := by rw [slackHeading,slackHeading,priority,title]
    rw [first,second,heading] at bodies
    exact severity_first (List.append_cancel_left bodies)
  · have lines := emailLines_body.mp (congrArg RenderedMessage.body same)
    have fourth : some (lit "Severity:      " ++ severityText a) = some (lit "Severity:      " ++ severityText b) :=
      congrArg (fun lines => lines[3]?) lines
    have ratings := severityText_eq.mp (List.append_cancel_left (Option.some.inj fourth))
    rw [rated,else_rated] at ratings
    exact Option.some.inj ratings

/-! ### Retried by email -/

/-- An alert with no line beyond its summary, its ratings and its investigation. -/
structure Bare (alert : AlertRequest) : Prop where
  verdict : truthy alert.verdict = false
  highlights : alert.highlights = []
  consoleUrl : truthy alert.consoleUrl = false

/-- Two alerts say the same in the lines that every email has. -/
structure SameText (a b : AlertRequest) : Prop where
  subject : (renderEmail a).subject = (renderEmail b).subject
  summary : escapePlain (defang a.summary) 1200 = escapePlain (defang b.summary) 1200
  priority : a.priority = b.priority
  severity : a.severity = b.severity
  investigationId : escapePlain a.investigationId 64 = escapePlain b.investigationId 64

theorem emailLines_bare {alert : AlertRequest} (bare : Bare alert) : emailLines alert =
    [escapePlain (defang alert.summary) 1200,[],lit "Priority:      " ++ priorityValue alert.priority,
      lit "Severity:      " ++ severityText alert,lit "Investigation: " ++ escapePlain alert.investigationId 64,[],
      lit "This alert was dispatched because an analyst approved the investigation.",
      lit "No remediation has been performed; recommendations await action by a person."] := by
  unfold emailLines
  simp [bare.verdict,bare.highlights,bare.consoleUrl]

theorem bare_of_length {alert : AlertRequest} (short : (emailLines alert).length = 8) : Bare alert := by
  rw [length_emailLines] at short
  refine ⟨?_,?_,?_⟩
  · by_contra shown
    rw [if_pos (by simpa using shown)] at short
    omega
  · by_contra some
    rw [if_neg some] at short
    omega
  · by_contra linked
    rw [if_pos (show truthy alert.consoleUrl = true by simpa using linked)] at short
    omega

omit [WordTable] in
theorem priorityValue_injective {priority other : TriagePriority} (same : priorityValue priority = priorityValue other) : priority = other := by
  cases priority <;> cases other <;> first | rfl | (simp [priorityValue,lit] at same)

omit [WordTable] in
theorem message_eq {first second : RenderedMessage} (subject : first.subject = second.subject) (body : first.body = second.body) :
    first = second := by
  cases first
  cases second
  cases subject
  cases body
  rfl

/-- A bare alert is emailed as another alert is only when that is bare, too, and says the same. -/
theorem renderEmail_iff {a b : AlertRequest} (bare : Bare a) : renderEmail a = renderEmail b ↔ Bare b ∧ SameText a b := by
  constructor
  · intro same
    have lines := emailLines_body.mp (congrArg RenderedMessage.body same)
    rw [emailLines_bare bare] at lines
    have bareToo : Bare b := bare_of_length (by rw [← lines]; rfl)
    rw [emailLines_bare bareToo] at lines
    simp only [List.cons.injEq,List.append_cancel_left_eq,and_true,true_and] at lines
    obtain ⟨summary,priority,severity,investigationId⟩ := lines
    exact ⟨bareToo,congrArg RenderedMessage.subject same,summary,priorityValue_injective priority,severityText_eq.mp severity,investigationId⟩
  · rintro ⟨bareToo,same⟩
    have body : (renderEmail a).body = (renderEmail b).body := by
      rw [emailLines_body,emailLines_bare bare,emailLines_bare bareToo,same.summary,same.priority,same.investigationId,
        severityText_eq.mpr same.severity]
    exact message_eq same.subject body

/-- A retry by email repeats the dispatch only for a bare alert that the case record says
    the same as: the verdict, the highlights and the link never come back. -/
theorem retried_email_iff {alert rebuilt : AlertRequest} {row : Notification} {investigation : Option Investigation}
    (email : row.channel ≠ .SLACK) (rebuilds : rebuildAlert investigation row = .ok rebuilt) :
    retriedMessage investigation row = .ok (render alert row.channel) ↔ Bare alert ∧ SameText rebuilt alert := by
  obtain ⟨_,_,_,_,_,verdict,highlights,consoleUrl⟩ := alertRequest_ok rebuilds
  have bare : Bare rebuilt := ⟨by rw [verdict]; rfl,highlights,by rw [consoleUrl]; rfl⟩
  have byEmail : ∀ request, render request row.channel = renderEmail request := fun request => if_neg email
  rw [retriedMessage,rebuilds,← renderEmail_iff bare,byEmail alert]
  change Except.ok (render rebuilt row.channel) = Except.ok _ ↔ _
  rw [Except.ok.injEq,byEmail]

/-- An alert with anything more than that to say is never retried by email as it was sent. -/
theorem retried_email_differs {alert : AlertRequest} {row : Notification} (email : row.channel ≠ .SLACK) (more : ¬ Bare alert)
    (investigation : Option Investigation) : retriedMessage investigation row ≠ .ok (render alert row.channel) := by
  intro same
  obtain ⟨rebuilt,rebuilds,_⟩ := map_ok.mp same
  exact more ((retried_email_iff email rebuilds).mp same).1

/-! ### Retried on Slack -/

/-- No line of the Slack message is broken, and its summary is shown. -/
structure Lined (alert : AlertRequest) : Prop where
  unbroken : ∀ line ∈ slackLines alert, 10 ∉ line
  summarized : escapeSlack (defang alert.summary) 800 ≠ []

/-- Two alerts say the same in the lines that every Slack message has. -/
structure SameSlack (a b : AlertRequest) : Prop where
  heading : slackHeading a = slackHeading b
  severity : a.severity = b.severity
  summary : escapeSlack (defang a.summary) 800 = escapeSlack (defang b.summary) 800
  investigationId : escapeSlack a.investigationId 64 = escapeSlack b.investigationId 64

theorem slackLines_shown_all {alert : AlertRequest} (lined : Lined alert) : (slackLines alert).filter (fun line => line ≠ []) = slackLines alert := by
  refine List.filter_eq_self.mpr fun line listed => decide_eq_true ?_
  simp only [slackLines,List.mem_append,List.mem_cons,List.not_mem_nil,or_false,List.mem_map] at listed
  rcases listed with (((rfl | rfl | rfl) | ⟨item,_,rfl⟩) | link) | rfl
  · simp [lit]
  · exact slackFacts_some alert
  · exact lined.summarized
  · simp [lit]
  · split_ifs at link with linked
    · rw [List.mem_singleton.mp link]
      simp [lit]
    · cases link
  · simp [lit]

/-- The lines of a Slack message are read back from its body. -/
theorem slackLines_body {a b : AlertRequest} (lined : Lined a) (lined' : Lined b) :
    (renderSlack a).body = (renderSlack b).body ↔ slackLines a = slackLines b := by
  have lines : ∀ alert, Lined alert → (renderSlack alert).body.splitOn 10 = slackLines alert := by
    intro alert lined
    change (joined [10] ((slackLines alert).filter fun line => line ≠ [])).splitOn 10 = _
    rw [slackLines_shown_all lined,joined_eq_intercalate]
    exact List.splitOn_intercalate 10 lined.unbroken (by simp [slackLines])
  constructor
  · intro same
    rw [← lines a lined,same,lines b lined']
  · exact fun same => congrArg (fun lines : List Text => joined [10] (lines.filter fun line => line ≠ [])) same

omit [WordTable] in
/-- The facts in a row, each closed by a separator but the last. -/
theorem slackFacts_eq (alert : AlertRequest) : slackFacts alert =
    (alert.severity.map fun severity => lit "severity " ++ severityValue severity ++ lit " · ").getD [] ++
      ((if truthy alert.verdict then lit "verdict " ++ escapeSlack (alert.verdict.getD []) 40 ++ lit " · " else []) ++
        (lit "investigation " ++ escapeSlack alert.investigationId 64)) := by
  have filled : ∀ label value : Text, label ≠ [] → label ++ value ≠ [] := fun label value some none => some (List.append_eq_nil_iff.mp none).1
  have verdict : lit "verdict " ++ escapeSlack (alert.verdict.getD []) 40 ≠ [] := filled _ _ (by decide)
  have investigation : lit "investigation " ++ escapeSlack alert.investigationId 64 ≠ [] := filled _ _ (by decide)
  unfold slackFacts
  cases alert.severity with
  | none =>
    by_cases shown : truthy alert.verdict = true <;> simp [shown,verdict,investigation,joined]
  | some severity =>
    have rating : lit "severity " ++ severityValue severity ≠ [] := filled _ _ (by decide)
    by_cases shown : truthy alert.verdict = true <;>
      simp [shown,verdict,investigation,joined,rating,escapeSlack_severity]

omit [WordTable] in
/-- A row of facts without a verdict is only that of an alert without one and of the same
    rating and investigation. -/
theorem slackFacts_iff {a b : AlertRequest} (silent : truthy a.verdict = false) : slackFacts a = slackFacts b ↔
    truthy b.verdict = false ∧ a.severity = b.severity ∧ escapeSlack a.investigationId 64 = escapeSlack b.investigationId 64 := by
  constructor
  · intro same
    have rated : a.severity = b.severity := by
      have unrated : ∀ alert : AlertRequest, alert.severity = none → (slackFacts alert).head? ≠ some 115 := by
        intro alert none
        rw [slackFacts_eq,none]
        split_ifs <;> simp [lit]
      cases first : a.severity with
      | none =>
        cases second : b.severity with
        | none => rfl
        | some severity =>
          obtain ⟨rest,written⟩ := slackFacts_rated second
          exact absurd (by rw [same,written]; rfl) (unrated a first)
      | some severity =>
        obtain ⟨rest,written⟩ := slackFacts_rated first
        cases second : b.severity with
        | none => exact absurd (by rw [← same,written]; rfl) (unrated b second)
        | some other =>
          obtain ⟨more,written'⟩ := slackFacts_rated second
          rw [written,written',List.append_assoc,List.append_assoc] at same
          rw [severity_first (List.append_cancel_left same)]
    rw [slackFacts_eq,slackFacts_eq,rated] at same
    have rest := List.append_cancel_left same
    rw [if_neg (by simp [silent])] at rest
    by_cases shown : truthy b.verdict = true
    · rw [if_pos shown] at rest
      have letters := congrArg List.head? rest
      simp [lit] at letters
    · rw [if_neg shown] at rest
      exact ⟨by simpa using shown,rated,List.append_cancel_left rest⟩
  · rintro ⟨quiet,rated,named⟩
    rw [slackFacts_eq,slackFacts_eq,rated,named,silent,quiet]
    rfl

theorem slackLines_bare {alert : AlertRequest} (bare : Bare alert) : slackLines alert =
    [slackHeading alert,slackFacts alert,escapeSlack (defang alert.summary) 800,
      lit "This alert was approved by an analyst. No remediation has been performed."] := by
  unfold slackLines
  simp [slackHeading,bare.highlights,bare.consoleUrl]

/-- A bare alert is sent to Slack as another alert is only when that is bare, too, and says the same. -/
theorem renderSlack_iff {a b : AlertRequest} (bare : Bare a) (lined : Lined a) (lined' : Lined b) :
    renderSlack a = renderSlack b ↔ Bare b ∧ SameSlack a b := by
  have bodies : renderSlack a = renderSlack b ↔ slackLines a = slackLines b :=
    ⟨fun same => (slackLines_body lined lined').mp (congrArg RenderedMessage.body same),
      fun same => message_eq rfl ((slackLines_body lined lined').mpr same)⟩
  rw [bodies,slackLines_bare bare]
  constructor
  · intro same
    have length := congrArg List.length same
    simp only [slackLines,List.length_append,List.length_cons,List.length_nil,List.length_map] at length
    have highlights : b.highlights = [] := List.length_eq_zero_iff.mp (by omega)
    have consoleUrl : truthy b.consoleUrl = false := by
      by_contra linked
      rw [if_pos (by simpa using linked),List.length_singleton] at length
      omega
    have facts : slackFacts a = slackFacts b := Option.some.inj (congrArg (fun lines => lines[1]?) same)
    obtain ⟨verdict,severity,investigationId⟩ := (slackFacts_iff bare.verdict).mp facts
    have bareToo : Bare b := ⟨verdict,highlights,consoleUrl⟩
    rw [slackLines_bare bareToo] at same
    simp only [List.cons.injEq,and_true] at same
    exact ⟨bareToo,same.1,severity,same.2.2,investigationId⟩
  · rintro ⟨bareToo,same⟩
    rw [slackLines_bare bareToo,same.heading,same.summary,(slackFacts_iff bare.verdict).mpr ⟨bareToo.verdict,same.severity,same.investigationId⟩]

/-- A retry on Slack, too, repeats the dispatch only for a bare alert that the case record
    says the same as, as far as no line of either message is broken. -/
theorem retried_slack_iff {alert rebuilt : AlertRequest} {row : Notification} {investigation : Option Investigation}
    (slack : row.channel = .SLACK) (rebuilds : rebuildAlert investigation row = .ok rebuilt) (lined : Lined rebuilt) (lined' : Lined alert) :
    retriedMessage investigation row = .ok (render alert row.channel) ↔ Bare alert ∧ SameSlack rebuilt alert := by
  obtain ⟨_,_,_,_,_,verdict,highlights,consoleUrl⟩ := alertRequest_ok rebuilds
  have bare : Bare rebuilt := ⟨by rw [verdict]; rfl,highlights,by rw [consoleUrl]; rfl⟩
  have onSlack : ∀ request, render request row.channel = renderSlack request := fun request => if_pos slack
  rw [retriedMessage,rebuilds,← renderSlack_iff bare lined lined',onSlack alert]
  change Except.ok (render rebuilt row.channel) = Except.ok _ ↔ _
  rw [Except.ok.injEq,onSlack]


omit [WordTable] in
/-- The alert that the graph prepares goes out under a title of its own and, from the
    console, with a link to it. -/
theorem prepared_alert [Printer] {state : GraphState} {payload : Mapping} {priority : Value} {readUuid : Text → Option Text}
    {approvalId : Text} {consoleUrl : Option Text} {alert : AlertRequest} (prepared : alertFor state = .ok (payload,priority))
    (valid : validateAlert readUuid payload approvalId consoleUrl = .ok alert) :
    alert.title = lit "Investigation " ++ state.investigationId ++ lit " approved for notification" ∧ alert.consoleUrl = consoleUrl := by
  obtain ⟨title,linked⟩ := validateAlert_ok valid
  simp only [alertFor,bind_ok] at prepared
  obtain ⟨_,_,_,_,_,_,_,_,_,_,made⟩ := prepared
  cases made
  exact ⟨(Value.str.inj title).symm,linked⟩

/-! ### What a retry sends -/

/-- Whatever headlines reach the case record after a dispatch, a retry of the delivery
    renders what the dispatch rendered. -/
def SendsApproved (alert : AlertRequest) (row : Notification) (record : Investigation) : Prop :=
  ∀ headlines : List (Option Severity × Text),
    retriedMessage (some (headlines.foldl setHeadline record)) row = .ok (render alert row.channel)

/-- Of two headlines that rate the case differently, at most one leaves the message as it was. -/
theorem not_both_approved (alert : AlertRequest) (row : Notification) (record : Investigation) (summary : Text) :
    ¬ (retriedMessage (some (setHeadline record (some .LOW,summary))) row = .ok (render alert row.channel) ∧
      retriedMessage (some (setHeadline record (some .HIGH,summary))) row = .ok (render alert row.channel)) := by
  rintro ⟨low,high⟩
  obtain ⟨lesser,rebuilt,rendered⟩ := map_ok.mp low
  obtain ⟨greater,rewritten,again⟩ := map_ok.mp high
  obtain ⟨_,title,_,priority,rated,_⟩ := alertRequest_ok rebuilt
  obtain ⟨_,otherTitle,_,otherPriority,otherRated,_⟩ := alertRequest_ok rewritten
  cases render_severity row.channel (priority.trans otherPriority.symm) (title.trans otherTitle.symm) rated otherRated
    (rendered.trans again.symm)

/-- No dispatch is retried as it was approved whatever becomes of the case record. -/
theorem not_sendsApproved (alert : AlertRequest) (row : Notification) (record : Investigation) : ¬ SendsApproved alert row record :=
  fun approved => not_both_approved alert row record [] ⟨approved [(some .LOW,[])],approved [(some .HIGH,[])]⟩

omit [WordTable] in
/-- A retry does not fail over a case record whose title is not blank, when its summary fits. -/
theorem rebuildAlert_returns {record : Investigation} {summary : Text} (titled : truthy record.title = true → strip (record.title.getD []) ≠ [])
    (summarized : record.summary = some summary) (informative : strip summary ≠ [] ∧ summary.length ≤ 1200) (row : Notification) :
    ∃ alert, rebuildAlert (some record) row = .ok alert := by
  have shown : truthy (some summary) = true := by
    cases summary with
    | nil => exact absurd strip_nil informative.1
    | cons c rest => rfl
  have named : strip (if truthy record.title then record.title.getD [] else lit "Investigation " ++ row.investigationId) ≠ [] := by
    split_ifs with title
    · exact titled title
    · exact strip_ne_nil (List.mem_append_left _ (show 73 ∈ lit "Investigation " by decide)) (by decide)
  unfold rebuildAlert
  dsimp only [Option.bind_some]
  rw [summarized,if_pos shown,Option.getD_some,alertRequest,dif_pos ⟨named,informative,by simp⟩]
  exact ⟨_,rfl⟩

omit [WordTable] in
theorem says_reassessed : strip (lit "Reassessed") ≠ [] ∧ (lit "Reassessed").length ≤ 1200 := by decide

/-- Unless the case has a blank title, some headline makes a retry send another message. -/
theorem resends_other (alert : AlertRequest) (row : Notification) {record : Investigation}
    (titled : truthy record.title = true → strip (record.title.getD []) ≠ []) :
    ∃ headline message, retriedMessage (some (setHeadline record headline)) row = .ok message ∧ message ≠ render alert row.channel := by
  have rebuilds : ∀ severity, ∃ rebuilt, rebuildAlert (some (setHeadline record (some severity,lit "Reassessed"))) row = .ok rebuilt :=
    fun severity => @rebuildAlert_returns (setHeadline record (some severity,lit "Reassessed")) _ titled rfl says_reassessed row
  obtain ⟨lesser,low⟩ := rebuilds .LOW
  obtain ⟨greater,high⟩ := rebuilds .HIGH
  by_contra all
  push Not at all
  have sent : ∀ {severity rebuilt}, rebuildAlert (some (setHeadline record (some severity,lit "Reassessed"))) row = .ok rebuilt →
      retriedMessage (some (setHeadline record (some severity,lit "Reassessed"))) row = .ok (render alert row.channel) := by
    intro severity rebuilt returned
    have message : retriedMessage (some (setHeadline record (some severity,lit "Reassessed"))) row = .ok (render rebuilt row.channel) := by
      rw [retriedMessage,returned]
      rfl
    rw [message,all _ _ message]
  exact not_both_approved alert row record (lit "Reassessed") ⟨sent low,sent high⟩

end

/-! ### A compromised host -/

/-- An urgent investigation of one host, approved. -/
def approvedState : GraphState where
  schemaVersion := 2
  investigationId := lit "inv"
  triggerSource := lit "manual"
  status := .AWAITING_APPROVAL
  currentNode := some .HUMAN_GATE
  configSnapshot := []
  createdAt := lit "2026-01-01T00:00:00+00:00"
  updatedAt := lit "2026-01-01T00:00:00+00:00"
  nodeHistory := []
  errors := []
  shared := [(lit "assets",.list [.dict [(lit "hostname",.str (lit "web-01"))]])]
  agents := []
  evidence := []
  investigation := [(lit "threat_assessment",.dict [(lit "verdict",.str (lit "malicious")),
    (lit "severity",.dict [(lit "level",.str (lit "critical"))]),(lit "triage_priority",.str (lit "urgent"))])]
  report := [(lit "executive_summary",.str (lit "Confirmed compromise"))]
  notification := []
  conversation := []

theorem approved_titled : strip (lit "Investigation inv approved for notification") ≠ [] := by decide
theorem approved_informative : strip (lit "Confirmed compromise") ≠ [] ∧ (lit "Confirmed compromise").length ≤ 1200 := by decide
theorem approved_short : [lit "Affected hosts: web-01"].length ≤ 8 := by decide

def approvedAlert : AlertRequest where
  investigationId := lit "inv"
  approvalId := lit "dec"
  title := lit "Investigation inv approved for notification"
  summary := lit "Confirmed compromise"
  priority := .URGENT
  severity := some .CRITICAL
  verdict := some (lit "malicious")
  highlights := [lit "Affected hosts: web-01"]
  consoleUrl := some (lit "https://console/investigations/inv")
  titled := approved_titled
  informative := approved_informative
  short := approved_short

theorem analyst_named : strip (lit "soc@example.org") ≠ [] := by decide

/-- The case record, with the headline of the same assessment. -/
def caseRecord : Investigation := ⟨some (lit "Suspicious login on web-01"),some .CRITICAL,some (lit "Confirmed compromise")⟩

/-- The alert fails on every channel, nothing changes on the case record, and the retried
    email is another one. -/
theorem dead_letter_rewritten :
    let _ := asciiPrinter
    let _ := asciiWords
    (∃ payload priority, alertFor approvedState = .ok (payload,priority) ∧
      validateAlert some payload (lit "dec") (some (lit "https://console/investigations/inv")) = .ok approvedAlert) ∧
    ∃ row, (dispatchAlert id render slackThenEmail { answering false with alert := approvedAlert } approvedWorld).1.notifications.get?
        (targetKey id approvedAlert ⟨.EMAIL,lit "soc@example.org",analyst_named⟩) = some row ∧
      row.status = .DEAD_LETTER ∧ retriedMessage (some caseRecord) row ≠ .ok (render approvedAlert row.channel) ∧
      ¬ SendsApproved approvedAlert row caseRecord := by
  intro _ _
  have more : ¬ Bare approvedAlert := fun bare => absurd bare.verdict (by decide)
  refine ⟨⟨_,_,rfl,rfl⟩,_,rfl,rfl,?_,fun approved => ?_⟩
  · exact retried_email_differs (by decide) more _
  · exact retried_email_differs (by decide) more _ (approved [])

end SocAnalyst.Retries
