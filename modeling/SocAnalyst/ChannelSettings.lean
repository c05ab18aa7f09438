import SocAnalyst.CleanTexts
import SocAnalyst.Notifications

/-!
# Configured channels

The validators of `config/settings.py`, `build_channels` of `integrations/notifications.py`
and `resolve_targets` of `services/notifications.py`: what a deployment configures, and the
failover chain it gets.
-/
namespace SocAnalyst.ChannelSettings
open SocAnalyst.Builtins SocAnalyst.Dicts SocAnalyst.Risk SocAnalyst.Notifications
open SocAnalyst.CleanTexts (strip_strip)

inductive Environment where
  | LOCAL
  | DEVELOPMENT
  | STAGING
  | PRODUCTION
  deriving DecidableEq, Repr

/-- What is configured, each field within its own bounds. -/
structure RawSettings where
  environment : Environment := .LOCAL
  debug : Bool := false
  jwtSecret : Text := lit "dev-insecure-change-me"
  corsAllowedOrigins : Text := lit "http://localhost:5173"
  investigationPageSize : Nat := 25
  investigationPageSizeMax : Nat := 100
  notificationChannels : Text := []
  notificationMinPriority : TriagePriority := .HIGH
  notificationMaxAttempts : Nat := 3
  notificationRateLimitPerMinute : Nat := 30
  notificationBreakerFailureThreshold : Nat := 3
  notificationBreakerResetSeconds : ℚ := 60
  slackWebhookUrl : Text := []
  slackChannel : Text := []
  slackTimeoutSeconds : ℚ := 10
  smtpHost : Text := []
  smtpPort : Nat := 587
  smtpUsername : Text := []
  smtpPassword : Text := []
  smtpUseTls : Bool := true
  smtpFromAddress : Text := []
  smtpRecipients : Text := []
  smtpTimeoutSeconds : ℚ := 15
  attempts : 1 ≤ notificationMaxAttempts

/-- The parts between the commas, without blanks. -/
def listed (text : Text) : List Text := ((text.splitOn 44).map strip).filter (· ≠ [])

/-- `NotificationChannel(name)`. -/
def channelNamed (name : Text) : Except PyError NotificationChannel :=
  match [NotificationChannel.SLACK,.EMAIL,.WEBHOOK].find? fun channel => channel.value = name with
  | some channel => .ok channel
  | none => .error .ValueError

section
variable (raw : RawSettings)

def RawSettings.isProduction : Bool := raw.environment = .PRODUCTION
/-- The configured browser origins. -/
def RawSettings.corsOrigins : List Text := listed raw.corsAllowedOrigins
/-- The configured failover order. -/
def RawSettings.notificationChannelOrder : Except PyError (List NotificationChannel) :=
  mapRaising channelNamed (listed raw.notificationChannels)
/-- The configured default email recipients. -/
def RawSettings.emailRecipients : List Text := listed raw.smtpRecipients

/-- Refuse with a message where a condition holds. -/
def refuseIf (condition : Prop) [Decidable condition] (message : String) : Except Text Unit :=
  if condition then .error (lit message) else .ok ()

/-- Fail fast on a channel that is named but cannot actually deliver. -/
def validateNotificationChannels : Except Text Unit :=
  match raw.notificationChannelOrder with
  | .error _ => .error (lit "SOC_NOTIFICATION_CHANNELS names an unknown channel; expected one of: slack, email, webhook")
  | .ok channels => do
    refuseIf (¬ channels.Nodup) "SOC_NOTIFICATION_CHANNELS lists the same channel more than once."
    refuseIf (.SLACK ∈ channels ∧ raw.slackWebhookUrl = []) "SOC_SLACK_WEBHOOK_URL is required when 'slack' is a channel."
    refuseIf (.EMAIL ∈ channels ∧ raw.smtpHost = []) "SOC_SMTP_HOST is required when 'email' is a channel."
    refuseIf (.EMAIL ∈ channels ∧ raw.smtpFromAddress = []) "SOC_SMTP_FROM_ADDRESS is required when 'email' is a channel."
    refuseIf (.EMAIL ∈ channels ∧ raw.emailRecipients = []) "SOC_SMTP_RECIPIENTS is required when 'email' is a channel."
    refuseIf (.EMAIL ∈ channels ∧ raw.isProduction = true ∧ raw.smtpUseTls = false)
      "SOC_SMTP_USE_TLS must be true in the production environment."
    refuseIf (.WEBHOOK ∈ channels) "the 'webhook' channel has no adapter yet; use 'slack' and/or 'email'."

/-- Fail fast on unsafe configuration. -/
def enforceProductionSafety : Except Text Unit := do
  refuseIf (raw.isProduction = true ∧ raw.debug = true) "SOC_DEBUG must be false in the production environment."
  refuseIf (raw.isProduction = true ∧ raw.jwtSecret = lit "dev-insecure-change-me")
    "SOC_JWT_SECRET must be set to a strong value in production."
  refuseIf (lit "*" ∈ raw.corsOrigins)
    "SOC_CORS_ALLOWED_ORIGINS must name explicit origins; '*' would let any page read authenticated API responses."
  refuseIf (raw.investigationPageSizeMax < raw.investigationPageSize)
    "SOC_INVESTIGATION_PAGE_SIZE must not exceed SOC_INVESTIGATION_PAGE_SIZE_MAX."
  validateNotificationChannels raw

/-! ### Adapters -/

/-- The limits of a channel's rate limiter and circuit breaker. -/
structure ChannelLimits where
  rateLimitPerMinute : Nat
  breakerFailureThreshold : Nat
  breakerResetSeconds : ℚ

inductive ChannelAdapter where
  | slack (webhookUrl : Text) (timeoutSeconds : ℚ) (limits : ChannelLimits)
  | email (host : Text) (port : Nat) (username password : Text) (useTls : Bool) (fromAddress : Text) (timeoutSeconds : ℚ)
    (limits : ChannelLimits)
  | unconfigured (channel : NotificationChannel)

def limitsOf : ChannelLimits where
  rateLimitPerMinute := raw.notificationRateLimitPerMinute
  breakerFailureThreshold := raw.notificationBreakerFailureThreshold
  breakerResetSeconds := raw.notificationBreakerResetSeconds

/-- The adapter of one channel. -/
def adapterFor : NotificationChannel → ChannelAdapter
  | .SLACK => .slack raw.slackWebhookUrl raw.slackTimeoutSeconds (limitsOf raw)
  | .EMAIL => .email raw.smtpHost raw.smtpPort raw.smtpUsername raw.smtpPassword raw.smtpUseTls raw.smtpFromAddress
      raw.smtpTimeoutSeconds (limitsOf raw)
  | .WEBHOOK => .unconfigured .WEBHOOK

/-- Compose an adapter for each configured channel. -/
def buildChannels : Except PyError (Dict NotificationChannel ChannelAdapter) :=
  raw.notificationChannelOrder.map fun channels =>
    channels.foldl (fun adapters channel => adapters.set channel (adapterFor raw channel)) Dict.empty

/-! ### What a deployment should get -/

/-- A real adapter with its credentials. -/
def ChannelAdapter.Equipped : ChannelAdapter → Prop
  | .slack webhookUrl _ _ => webhookUrl ≠ []
  | .email host _ _ _ _ fromAddress _ _ => host ≠ [] ∧ fromAddress ≠ []
  | .unconfigured _ => False

/-- Whom a channel reaches. -/
def recipients : NotificationChannel → List Text
  | .SLACK => [if raw.slackChannel = [] then lit "slack-webhook" else raw.slackChannel]
  | .EMAIL => raw.emailRecipients
  | .WEBHOOK => []

/-- Every channel listed can deliver, and none is listed twice. -/
structure Sound (channels : List NotificationChannel) : Prop where
  once : channels.Nodup
  able : ∀ channel ∈ channels, (adapterFor raw channel).Equipped ∧ recipients raw channel ≠ []
  encrypted : .EMAIL ∈ channels → raw.isProduction = true → raw.smtpUseTls = true

/-- The rest of a configuration is safe. -/
structure Safe : Prop where
  debug : raw.isProduction = true → raw.debug = false
  secret : raw.isProduction = true → raw.jwtSecret ≠ lit "dev-insecure-change-me"
  origins : lit "*" ∉ raw.corsOrigins
  pages : raw.investigationPageSize ≤ raw.investigationPageSizeMax

/-- The settings that notifications are sent with. -/
structure Configures (settings : Settings) : Prop where
  order : raw.notificationChannelOrder = .ok settings.notificationChannelOrder
  slackChannel : settings.slackChannel = raw.slackChannel
  emailRecipients : settings.emailRecipients = raw.emailRecipients
  minPriority : settings.notificationMinPriority = raw.notificationMinPriority
  maxAttempts : settings.notificationMaxAttempts = raw.notificationMaxAttempts

/-! ### Validation -/

theorem refuseIf_ok {condition : Prop} [Decidable condition] {message : String} : refuseIf condition message = .ok () ↔ ¬ condition := by
  unfold refuseIf
  split_ifs with holds
  · simpa using holds
  · simpa using holds

theorem bind_ok {first second : Except Text Unit} : (first >>= fun _ => second) = .ok () ↔ first = .ok () ∧ second = .ok () := by
  cases first with
  | ok _ => exact ⟨fun ran => ⟨rfl,ran⟩,And.right⟩
  | error e => exact ⟨nofun,fun both => both.1⟩

variable {raw}

theorem sound_iff {channels : List NotificationChannel} : Sound raw channels ↔ channels.Nodup ∧
    ¬ (.SLACK ∈ channels ∧ raw.slackWebhookUrl = []) ∧ ¬ (.EMAIL ∈ channels ∧ raw.smtpHost = []) ∧
    ¬ (.EMAIL ∈ channels ∧ raw.smtpFromAddress = []) ∧ ¬ (.EMAIL ∈ channels ∧ raw.emailRecipients = []) ∧
    ¬ (.EMAIL ∈ channels ∧ raw.isProduction = true ∧ raw.smtpUseTls = false) ∧ .WEBHOOK ∉ channels := by
  constructor
  · intro sound
    refine ⟨sound.once,?_,?_,?_,?_,?_,fun listed => (sound.able _ listed).1⟩
    · exact fun both => (sound.able _ both.1).1 both.2
    · exact fun both => (sound.able _ both.1).1.1 both.2
    · exact fun both => (sound.able _ both.1).1.2 both.2
    · exact fun both => (sound.able _ both.1).2 both.2
    · intro both
      rw [sound.encrypted both.1 both.2.1] at both
      exact absurd both.2.2 (by decide)
  · rintro ⟨once,webhookUrl,host,fromAddress,reached,encrypted,supported⟩
    refine ⟨once,fun channel listed => ?_,fun listed production => ?_⟩
    · cases channel with
      | SLACK => exact ⟨fun none => webhookUrl ⟨listed,none⟩,List.cons_ne_nil _ _⟩
      | EMAIL =>
        exact ⟨⟨fun none => host ⟨listed,none⟩,fun none => fromAddress ⟨listed,none⟩⟩,fun none => reached ⟨listed,none⟩⟩
      | WEBHOOK => exact absurd listed supported
    · exact (Bool.eq_false_or_eq_true _).resolve_right fun plain => encrypted ⟨listed,production,plain⟩

theorem validateNotificationChannels_ok : validateNotificationChannels raw = .ok () ↔
    ∃ channels, raw.notificationChannelOrder = .ok channels ∧ Sound raw channels := by
  rw [validateNotificationChannels]
  cases ordered : raw.notificationChannelOrder with
  | error e => exact ⟨nofun,fun accepted => nomatch accepted.choose_spec.1⟩
  | ok channels =>
    simp only [bind_ok,refuseIf_ok,not_not]
    rw [← sound_iff]
    constructor
    · exact fun sound => ⟨channels,rfl,sound⟩
    · rintro ⟨_,⟨rfl⟩,sound⟩
      exact sound

theorem enforceProductionSafety_ok : enforceProductionSafety raw = .ok () ↔
    Safe raw ∧ ∃ channels, raw.notificationChannelOrder = .ok channels ∧ Sound raw channels := by
  rw [enforceProductionSafety]
  simp only [bind_ok,refuseIf_ok,validateNotificationChannels_ok]
  constructor
  · rintro ⟨debug,secret,origins,pages,sound⟩
    refine ⟨⟨fun production => ?_,fun production same => secret ⟨production,same⟩,origins,not_lt.mp pages⟩,sound⟩
    exact (Bool.eq_false_or_eq_true _).resolve_left fun on => debug ⟨production,on⟩
  · rintro ⟨safe,sound⟩
    refine ⟨fun both => ?_,fun both => safe.secret both.1 both.2,safe.origins,not_lt.mpr safe.pages,sound⟩
    rw [safe.debug both.1] at both
    exact absurd both.2 (by decide)

/-! ### The failover chain -/

theorem get?_adapters {channels : List NotificationChannel} (adapters : Dict NotificationChannel ChannelAdapter)
    (channel : NotificationChannel) :
    (channels.foldl (fun adapters channel => adapters.set channel (adapterFor raw channel)) adapters).get? channel =
      if channel ∈ channels then some (adapterFor raw channel) else adapters.get? channel := by
  induction channels generalizing adapters with
  | nil => simp
  | cons first rest ih =>
    rw [List.foldl_cons,ih,Dict.get?_set]
    by_cases later : channel ∈ rest
    · simp [later]
    · by_cases same : channel = first
      · simp [same]
      · simp [later,same]

theorem addToPlan_open (tiers : List (List AlertTarget)) {first target : AlertTarget} (rest : List AlertTarget)
    (same : first.channel = target.channel) : addToPlan (tiers ++ [first :: rest]) target = tiers ++ [(first :: rest) ++ [target]] := by
  rw [addToPlan,List.getLast?_concat]
  simp [same]

theorem addToPlan_apart {tiers : List (List AlertTarget)} {target : AlertTarget}
    (apart : ∀ tier ∈ tiers, ∀ other ∈ tier, other.channel ≠ target.channel) : addToPlan tiers target = tiers ++ [[target]] := by
  rw [addToPlan]
  split
  · next first rest last =>
    rw [if_neg (apart _ (List.mem_of_getLast? last) first List.mem_cons_self)]
  · rfl

/-- The targets of a channel that has none yet become one tier. -/
theorem foldl_addToPlan {tiers : List (List AlertTarget)} {channel : NotificationChannel} {group : List AlertTarget} (some : group ≠ [])
    (same : ∀ target ∈ group, target.channel = channel) (apart : ∀ tier ∈ tiers, ∀ other ∈ tier, other.channel ≠ channel) :
    group.foldl addToPlan tiers = tiers ++ [group] := by
  obtain ⟨first,rest,rfl⟩ := List.exists_cons_of_ne_nil some
  have firstly : first.channel = channel := same first List.mem_cons_self
  have onto : ∀ done, rest.foldl addToPlan (tiers ++ [first :: done]) = tiers ++ [(first :: done) ++ rest] := by
    have own : ∀ target ∈ rest, first.channel = target.channel := fun target member =>
      firstly.trans (same target (List.mem_cons_of_mem _ member)).symm
    clear same some
    induction rest with
    | nil => simp
    | cons target rest ih =>
      intro done
      rw [List.foldl_cons,addToPlan_open tiers done (own target List.mem_cons_self),List.cons_append,
        ih fun target member => own target (List.mem_cons_of_mem _ member)]
      simp
  rw [List.foldl_cons,addToPlan_apart (firstly ▸ apart),onto []]
  rfl

/-- The groups of distinct channels are the tiers. -/
theorem failoverPlan_groups {channels : List NotificationChannel} (once : channels.Nodup) {group : NotificationChannel → List AlertTarget}
    (some : ∀ channel ∈ channels, group channel ≠ []) (same : ∀ channel, ∀ target ∈ group channel, target.channel = channel) :
    failoverPlan (channels.map group).flatten = channels.map group := by
  unfold failoverPlan
  induction channels using List.reverseRecOn with
  | nil => rfl
  | append_singleton front channel ih =>
    rw [List.nodup_append] at once
    rw [List.map_append,List.flatten_append,List.foldl_append,ih once.1 fun other member => some other (List.mem_append_left _ member)]
    have last : group channel ≠ [] := some channel (List.mem_append_right _ (List.mem_singleton_self _))
    rw [List.map_singleton,List.flatten_singleton,foldl_addToPlan last (same channel) ?_]
    intro tier member other there equal
    obtain ⟨earlier,listed,rfl⟩ := List.mem_map.mp member
    exact once.2.2 earlier listed channel (List.mem_singleton_self _) ((same earlier other there).symm.trans equal)

/-- The targets of a channel with these recipients. -/
def group (channel : NotificationChannel) (names : List Text) : List AlertTarget :=
  names.filterMap fun recipient => (alertTarget channel recipient).toOption

/-- The recipients of a channel are not blank. -/
def Named (raw : RawSettings) (channel : NotificationChannel) : Prop := ∀ recipient ∈ recipients raw channel, strip recipient ≠ []

theorem mem_listed {text part : Text} (member : part ∈ listed text) : strip part ≠ [] := by
  obtain ⟨mapped,some⟩ := List.mem_filter.mp member
  obtain ⟨piece,_,rfl⟩ := List.mem_map.mp mapped
  rw [strip_strip]
  exact of_decide_eq_true some

theorem addressed_recipients (raw : RawSettings) : ∀ address ∈ raw.emailRecipients, strip address ≠ [] := fun _ => mem_listed

/-- The settings of a configuration whose channels were accepted. -/
def settingsOf (raw : RawSettings) (channels : List NotificationChannel) (once : channels.Nodup) (deliverable : .WEBHOOK ∉ channels) :
    Settings where
  notificationChannelOrder := channels
  slackChannel := raw.slackChannel
  emailRecipients := raw.emailRecipients
  notificationMinPriority := raw.notificationMinPriority
  notificationMaxAttempts := raw.notificationMaxAttempts
  once
  deliverable
  addressed := addressed_recipients raw
  attempts := raw.attempts

theorem alertTarget_named {channel : NotificationChannel} {recipient : Text} (named : strip recipient ≠ []) :
    alertTarget channel recipient = .ok ⟨channel,recipient,named⟩ := dif_pos named

theorem group_pairs {channel : NotificationChannel} {names : List Text} (named : ∀ name ∈ names, strip name ≠ []) :
    (group channel names).map (fun target => (target.channel,target.recipient)) = names.map (channel,·) := by
  induction names with
  | nil => rfl
  | cons name rest ih =>
    have first := @alertTarget_named channel name (named name List.mem_cons_self)
    have others := ih fun other member => named other (List.mem_cons_of_mem _ member)
    simp only [group,List.filterMap_cons,first,Except.toOption,List.map_cons]
    rw [← others]
    rfl

theorem mapRaising_group {channel : NotificationChannel} {names : List Text} (named : ∀ name ∈ names, strip name ≠ []) :
    mapRaising (alertTarget channel) names = .ok (group channel names) := by
  induction names with
  | nil => rfl
  | cons name rest ih =>
    have first := @alertTarget_named channel name (named name List.mem_cons_self)
    rw [mapRaising,first]
    simp only [ih fun other member => named other (List.mem_cons_of_mem _ member),Except.map,group,List.filterMap_cons,first,Except.toOption]

theorem group_channel {channel : NotificationChannel} {names : List Text} : ∀ target ∈ group channel names, target.channel = channel := by
  intro target member
  obtain ⟨name,_,made⟩ := List.mem_filterMap.mp member
  unfold alertTarget at made
  split_ifs at made with named
  · cases made
    rfl
  · cases made

/-- The chain that notifications are sent along. -/
structure Chain (raw : RawSettings) (settings : Settings) (adapters : Dict NotificationChannel ChannelAdapter) : Prop where
  /-- Every channel listed has a real adapter with its credentials, and someone to reach. -/
  equipped : ∀ channel ∈ settings.notificationChannelOrder, recipients raw channel ≠ [] ∧
    ∃ adapter, adapters.get? channel = some adapter ∧ adapter.Equipped
  only : ∀ channel ∉ settings.notificationChannelOrder, adapters.get? channel = none
  /-- The tiers are the channels in the configured order, each with all whom it reaches, unless
      the name of the Slack channel is blank. -/
  tiers : match resolveTargets settings with
    | .ok targets => (failoverPlan targets).map (fun tier => tier.map fun target => (target.channel,target.recipient)) =
        settings.notificationChannelOrder.map fun channel => (recipients raw channel).map (channel,·)
    | .error _ => .SLACK ∈ settings.notificationChannelOrder ∧ raw.slackChannel ≠ [] ∧ strip raw.slackChannel = []

theorem resolveTargets_eq {raw : RawSettings} {settings : Settings} (configures : Configures raw settings) :
    resolveTargets settings =
      (mapRaising (fun channel => mapRaising (alertTarget channel) (recipients raw channel)) settings.notificationChannelOrder).map List.flatten := by
  rw [resolveTargets]
  congr 2
  funext channel
  cases channel with
  | SLACK =>
    show (alertTarget .SLACK _).map _ = mapRaising (alertTarget .SLACK) [_]
    rw [configures.slackChannel,mapRaising]
    cases alertTarget .SLACK (if raw.slackChannel = [] then lit "slack-webhook" else raw.slackChannel) <;> rfl
  | EMAIL => rw [configures.emailRecipients]; rfl
  | WEBHOOK => rfl

theorem recipients_named {raw : RawSettings} (slack : raw.slackChannel = [] ∨ strip raw.slackChannel ≠ []) (channel : NotificationChannel) :
    ∀ name ∈ recipients raw channel, strip name ≠ [] := by
  intro name member
  cases channel with
  | SLACK =>
    rw [List.mem_singleton.mp member]
    rcases slack with none | some
    · rw [if_pos none]
      decide
    · split_ifs
      · decide
      · exact some
  | EMAIL => exact addressed_recipients raw name member
  | WEBHOOK => exact absurd member List.not_mem_nil

theorem resolveTargets_named {raw : RawSettings} {settings : Settings} (configures : Configures raw settings)
    (named : ∀ channel ∈ settings.notificationChannelOrder, ∀ name ∈ recipients raw channel, strip name ≠ []) :
    resolveTargets settings =
      .ok (settings.notificationChannelOrder.map fun channel => group channel (recipients raw channel)).flatten := by
  have each : mapRaising (fun channel => mapRaising (alertTarget channel) (recipients raw channel)) settings.notificationChannelOrder =
      .ok (settings.notificationChannelOrder.map fun channel => group channel (recipients raw channel)) :=
    mapRaising_ok.mpr (List.forall₂_map_right_iff.mpr (List.forall₂_same.mpr fun channel listed => mapRaising_group (named channel listed)))
  rw [resolveTargets_eq configures,each]
  rfl

/-- The target of a blank Slack channel is refused. -/
theorem resolveTargets_blank {raw : RawSettings} {settings : Settings} (configures : Configures raw settings)
    (listed : .SLACK ∈ settings.notificationChannelOrder) (some : raw.slackChannel ≠ []) (blank : strip raw.slackChannel = []) :
    ∃ e, resolveTargets settings = .error e := by
  rw [resolveTargets_eq configures]
  cases ran : mapRaising (fun channel => mapRaising (alertTarget channel) (recipients raw channel)) settings.notificationChannelOrder with
  | error e => exact ⟨e,rfl⟩
  | ok tiers =>
    obtain ⟨targets,reached⟩ := mapRaising_returns.mp ⟨tiers,ran⟩ .SLACK listed
    simp [recipients,some,mapRaising,alertTarget,blank] at reached

theorem sound_tiers {raw : RawSettings} {settings : Settings} (configures : Configures raw settings)
    (sound : Sound raw settings.notificationChannelOrder) :
    match resolveTargets settings with
    | .ok targets => (failoverPlan targets).map (fun tier => tier.map fun target => (target.channel,target.recipient)) =
        settings.notificationChannelOrder.map fun channel => (recipients raw channel).map (channel,·)
    | .error _ => .SLACK ∈ settings.notificationChannelOrder ∧ raw.slackChannel ≠ [] ∧ strip raw.slackChannel = [] := by
  by_cases blank : .SLACK ∈ settings.notificationChannelOrder ∧ raw.slackChannel ≠ [] ∧ strip raw.slackChannel = []
  · obtain ⟨e,refused⟩ := resolveTargets_blank configures blank.1 blank.2.1 blank.2.2
    simp only [refused]
    exact blank
  · have named : ∀ channel ∈ settings.notificationChannelOrder, ∀ name ∈ recipients raw channel, strip name ≠ [] := by
      intro channel listed name member
      cases channel with
      | SLACK =>
        refine recipients_named ?_ .SLACK name member
        by_cases none : raw.slackChannel = []
        · exact .inl none
        · exact .inr fun empty => blank ⟨listed,none,empty⟩
      | EMAIL => exact addressed_recipients raw name member
      | WEBHOOK => exact absurd member List.not_mem_nil
    have some : ∀ channel ∈ settings.notificationChannelOrder, group channel (recipients raw channel) ≠ [] := by
      intro channel listed none
      have pairs := @group_pairs channel _ (named channel listed)
      rw [none] at pairs
      exact (sound.able channel listed).2 (List.map_eq_nil_iff.mp pairs.symm)
    simp only [resolveTargets_named configures named]
    rw [failoverPlan_groups sound.once some fun channel => group_channel,List.map_map]
    exact List.map_congr_left fun channel listed => group_pairs (named channel listed)

/-- A configuration that is accepted gets the failover chain it lists; one that is refused is
    unsafe or lists a channel that could not deliver. -/
theorem chain_as_configured (raw : RawSettings) :
    match enforceProductionSafety raw with
    | .ok () => Safe raw ∧ ∃ settings adapters, Configures raw settings ∧ Sound raw settings.notificationChannelOrder ∧
        buildChannels raw = .ok adapters ∧ Chain raw settings adapters
    | .error _ => ¬ (Safe raw ∧ ∃ channels, raw.notificationChannelOrder = .ok channels ∧ Sound raw channels) := by
  cases ran : enforceProductionSafety raw with
  | error message =>
    intro fine
    rw [enforceProductionSafety_ok.mpr fine] at ran
    cases ran
  | ok _ =>
    obtain ⟨safe,channels,ordered,sound⟩ := enforceProductionSafety_ok.mp ran
    have deliverable : .WEBHOOK ∉ channels := fun listed => (sound.able _ listed).1
    let settings := settingsOf raw channels sound.once deliverable
    have configures : Configures raw settings := ⟨ordered,rfl,rfl,rfl,rfl⟩
    refine ⟨safe,settings,_,configures,sound,by rw [buildChannels,ordered]; rfl,⟨fun channel listed => ?_,fun channel absent => ?_,?_⟩⟩
    · exact ⟨(sound.able channel listed).2,_,(get?_adapters _ channel).trans (if_pos listed),(sound.able channel listed).1⟩
    · exact (get?_adapters _ channel).trans (if_neg absent)
    · exact sound_tiers configures sound

end
end SocAnalyst.ChannelSettings
