import SocAnalyst.Decisions
import SocAnalyst.Dicts
import SocAnalyst.Risk
import SocAnalyst.Times

/-!
# Notification policy

The contracts of `models/notification.py` and the rules of `services/notifications.py`:
whether an alert is worth sending, to which targets, in which tiers, and under which
key a delivery is recorded.
-/
namespace SocAnalyst.Notifications
open SocAnalyst.Builtins SocAnalyst.Times SocAnalyst.Dicts SocAnalyst.Risk

inductive NotificationChannel where
  | SLACK
  | EMAIL
  | WEBHOOK
  deriving DecidableEq, Repr

def NotificationChannel.value : NotificationChannel → Text
  | .SLACK => lit "slack"
  | .EMAIL => lit "email"
  | .WEBHOOK => lit "webhook"

/-- Delivery state of a notification. -/
inductive NotificationStatus where
  | PENDING
  | SENT
  | FAILED
  | DEAD_LETTER
  deriving DecidableEq, Repr

/-- One place an alert may be delivered. -/
structure AlertTarget where
  channel : NotificationChannel
  recipient : Text
  named : strip recipient ≠ []
  deriving DecidableEq

/-- What to say, about which investigation, on whose authority. -/
structure AlertRequest where
  investigationId : Text
  approvalId : Text
  title : Text
  summary : Text
  priority : TriagePriority
  severity : Option Severity := none
  verdict : Option Text := none
  highlights : List Text := []
  consoleUrl : Option Text := none
  titled : strip title ≠ []
  informative : strip summary ≠ [] ∧ summary.length ≤ 1200
  short : highlights.length ≤ 8

/-- A message rendered for one channel. -/
structure RenderedMessage where
  subject : Text := []
  body : Text
  deriving DecidableEq

/-- The notification settings, as the settings' own validator leaves them. -/
structure Settings where
  notificationChannelOrder : List NotificationChannel
  slackChannel : Text := []
  emailRecipients : List Text := []
  notificationMinPriority : TriagePriority := .HIGH
  notificationMaxAttempts : Nat := 3
  once : notificationChannelOrder.Nodup
  deliverable : .WEBHOOK ∉ notificationChannelOrder
  addressed : ∀ address ∈ emailRecipients, strip address ≠ []
  attempts : 1 ≤ notificationMaxAttempts

/-- The urgency ordering, as a number. -/
def priorityRank : TriagePriority → Nat
  | .LOW => 0
  | .MEDIUM => 1
  | .HIGH => 2
  | .URGENT => 3

/-- Whether an investigation at `priority` clears the alerting floor. -/
def isWorthAlerting (priority minimum : TriagePriority) : Bool := priorityRank minimum ≤ priorityRank priority

/-- A target, or the validator's refusal of a blank recipient. -/
def alertTarget (channel : NotificationChannel) (recipient : Text) : Except PyError AlertTarget :=
  if named : strip recipient ≠ [] then .ok ⟨channel,recipient,named⟩ else .error .ValueError

/-- Expand the configured channels into concrete, ordered delivery targets. -/
def resolveTargets (settings : Settings) : Except PyError (List AlertTarget) :=
  (mapRaising (fun channel =>
    match channel with
    | .SLACK => (alertTarget channel (if settings.slackChannel = [] then lit "slack-webhook" else settings.slackChannel)).map fun target => [target]
    | .EMAIL => mapRaising (alertTarget channel) settings.emailRecipients
    | .WEBHOOK => .ok []) settings.notificationChannelOrder).map List.flatten

/-- Put a target in the last tier, or in a tier of its own when the channel changes. -/
def addToPlan (tiers : List (List AlertTarget)) (target : AlertTarget) : List (List AlertTarget) :=
  match tiers.getLast? with
  | some (first :: rest) =>
    if first.channel = target.channel then tiers.dropLast ++ [(first :: rest) ++ [target]] else tiers ++ [[target]]
  | _ => tiers ++ [[target]]

/-- Group ordered targets into failover tiers, one tier per channel. -/
def failoverPlan (targets : List AlertTarget) : List (List AlertTarget) := targets.foldl addToPlan []

section
variable [Interpreter] (sha256 : Text → Text)

/-- A stable identifier for one delivery of one approved alert. -/
def dedupeKey (investigationId approvalId : Text) (channel : NotificationChannel) (recipient : Text) : Text :=
  sha256 (investigationId ++ lit "|" ++ approvalId ++ lit "|" ++ channel.value ++ lit "|" ++ lower (strip recipient))

end

/-! ### Tiers -/

/-- Two targets in one tier of the plan. -/
def SameTier (plan : List (List AlertTarget)) (first second : AlertTarget) : Prop := ∃ tier ∈ plan, first ∈ tier ∧ second ∈ tier

end SocAnalyst.Notifications
