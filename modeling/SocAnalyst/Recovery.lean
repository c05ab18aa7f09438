import SocAnalyst.Adapters

/-!
# Recovery of a guarded adapter

Sequences of calls on one adapter, seen through the guards: whether the probe of a
recovering breaker is always given back.
-/
namespace SocAnalyst.Recovery
open SocAnalyst.Builtins SocAnalyst.Values SocAnalyst.Runs SocAnalyst.Iocs SocAnalyst.Enrichment SocAnalyst.Notifications
open SocAnalyst.Dispatch SocAnalyst.Resilience SocAnalyst.Adapters
open SocAnalyst.Doubles (dividedBy)

/-! ### Calls as the guards see them -/

/-- A call, before it is made: whether it gets as far as the guards, whether its
    request goes out once admitted, and how it then ends. -/
structure Attempt where
  guarded : Bool
  sendable : Bool := true
  ending : Ending

/-- What the guards decide of a call is all that happens to them. -/
structure Follows (before after : Guards) (sent : Bool) (readings : Readings) (attempt : Attempt) : Prop where
  guards : after = if attempt.guarded then before.call readings.asked readings.limited readings.recorded attempt.ending else before
  sent : sent = true ↔ attempt.guarded = true ∧ (before.enter readings.asked readings.limited).1 = .admitted ∧ attempt.sendable = true

theorem Follows.passed_by {guards : Guards} {readings : Readings} {attempt : Attempt} (aside : attempt.guarded = false) :
    Follows guards guards false readings attempt :=
  ⟨by simp [aside],by simp [aside]⟩

theorem Follows.refused {before after : Guards} {readings : Readings} {attempt : Attempt} {refusal : Admission}
    (guarded : attempt.guarded = true) (enter : before.enter readings.asked readings.limited = (refusal,after))
    (refused : refusal ≠ .admitted) : Follows before after false readings attempt := by
  refine ⟨?_,by simp [enter,refused]⟩
  rw [if_pos guarded]
  unfold Guards.call
  rw [enter]
  cases refusal <;> first | rfl | exact absurd rfl refused

theorem Follows.admitted {before after : Guards} {readings : Readings} {attempt : Attempt} {sent : Bool} (guarded : attempt.guarded = true)
    (enter : before.enter readings.asked readings.limited = (.admitted,after)) (same : sent = attempt.sendable) :
    Follows before (after.conclude readings.recorded attempt.ending) sent readings attempt := by
  refine ⟨?_,by simp [guarded,enter,same]⟩
  rw [if_pos guarded]
  unfold Guards.call
  rw [enter]

section
variable {record : Type}

/-- A lookup reaches the guards when nothing live is cached. -/
def Source.attempt (source : Source record) (key : Text) (readings : Readings) (answer : Answer (List record)) : Attempt where
  guarded := (source.cache.get key readings.found).1.isNone
  ending := answer.ending

theorem Source.lookup_follows (source : Source record) (aged : record → record) (circuit limit key label : Text) (readings : Readings)
    (answer : Answer (List record)) :
    Follows source.guards (source.lookup aged circuit limit key label readings answer).state.guards
      (source.lookup aged circuit limit key label readings answer).sent readings (Source.attempt source key readings answer) := by
  unfold Source.lookup
  split
  case h_1 hit => exact .passed_by (by simp [Source.attempt,hit])
  case h_2 miss =>
    have guarded : (Source.attempt source key readings answer).guarded = true := by simp [Source.attempt,miss]
    split
    case h_1 enter => exact .refused guarded enter (by simp)
    case h_2 enter => exact .refused guarded enter (by simp)
    case h_3 enter => cases answer <;> exact .admitted guarded enter rfl

end

section
variable [Interpreter] (describe : PyError → Text)

/-- What the service answers about an indicator that has a path. -/
def VirusTotal.answer (ioc : IocIndicator) (get : Text → Except Raised HttpResponse) :
    Answer (Except PyError ReputationVerdict) :=
  match pathFor ioc with
  | .ok (some path) => VirusTotalReputationProvider.readVerdict describe ioc (get path)
  | _ => .failed [] []

def VirusTotal.attempt (provider : VirusTotalReputationProvider) (ioc : IocIndicator) (readings : Readings)
    (get : Text → Except Raised HttpResponse) : Attempt where
  guarded := provider.apiKey ≠ [] && (pathFor ioc matches .ok (some _)) &&
    (provider.cache.get (VirusTotalReputationProvider.cacheKey ioc) readings.found).1.isNone
  ending := (VirusTotal.answer describe ioc get).ending

theorem VirusTotal.lookup_follows (provider : VirusTotalReputationProvider) (ioc : IocIndicator) (readings : Readings)
    (get : Text → Except Raised HttpResponse) :
    Follows provider.guards (provider.lookup describe ioc readings get).state.guards (provider.lookup describe ioc readings get).sent
      readings (VirusTotal.attempt describe provider ioc readings get) := by
  unfold VirusTotalReputationProvider.lookup
  by_cases configured : provider.apiKey = []
  · rw [if_pos configured]
    exact .passed_by (by simp [VirusTotal.attempt,configured])
  rw [if_neg configured]
  split
  case h_1 unencodable => exact .passed_by (by simp [VirusTotal.attempt,unencodable])
  case h_2 unsupported => exact .passed_by (by simp [VirusTotal.attempt,unsupported])
  case h_3 path supported =>
    have answer : VirusTotal.answer describe ioc get = VirusTotalReputationProvider.readVerdict describe ioc (get path) := by
      simp [VirusTotal.answer,supported]
    split
    case h_1 hit => exact .passed_by (by simp [VirusTotal.attempt,hit])
    case h_2 miss =>
      have guarded : (VirusTotal.attempt describe provider ioc readings get).guarded = true := by
        simp [VirusTotal.attempt,configured,supported,miss]
      split
      case h_1 enter => exact .refused guarded enter (by simp)
      case h_2 enter => exact .refused guarded enter (by simp)
      case h_3 enter =>
        have ending : (VirusTotal.attempt describe provider ioc readings get).ending =
            (VirusTotalReputationProvider.readVerdict describe ioc (get path)).ending := congrArg Answer.ending answer
        have follows {sent : Bool} (same : sent = true) := Follows.admitted guarded enter same
        rw [ending] at follows
        cases reply : VirusTotalReputationProvider.readVerdict describe ioc (get path) with
        | read outcome =>
          rw [reply] at follows
          cases outcome <;> exact follows rfl
        | failed | raised =>
          rw [reply] at follows
          exact follows rfl

end

/-- How a post to the webhook ends. -/
def postEnding : Except Raised HttpResponse → Ending
  | .error (.transport _ _) => .failed
  | .error (.other _) => .unreported
  | .ok response => if 400 ≤ response.statusCode then .failed else .succeeded

def Slack.attempt (message : RenderedMessage) (post : Text → Except Raised HttpResponse) : Attempt where
  guarded := true
  ending := postEnding (post message.body)

theorem Slack.send_follows (channel : SlackChannel) (message : RenderedMessage) (readings : Readings)
    (post : Text → Except Raised HttpResponse) :
    Follows channel.guards (channel.send message readings post).state.guards (channel.send message readings post).sent readings
      (Slack.attempt message post) := by
  unfold SlackChannel.send
  split
  case h_1 enter =>
    have follows {sent : Bool} (same : sent = true) : Follows channel.guards _ sent readings (Slack.attempt message post) :=
      .admitted rfl enter same
    unfold Slack.attempt at follows ⊢
    cases reply : post message.body with
    | error raised => cases raised <;> rw [reply] at follows <;> exact follows rfl
    | ok response =>
      rw [reply] at follows
      simp only [postEnding] at follows ⊢
      by_cases rejected : 400 ≤ response.statusCode
      · simp only [if_pos rejected] at follows ⊢
        exact follows rfl
      · simp only [if_neg rejected] at follows ⊢
        exact follows rfl
  case h_2 refused guards not_admitted enter => exact .refused rfl enter not_admitted

section
variable (compose : Text → Text → Text → Text → Except PyError Unit)

/-- How a session with the mail server ends. -/
def sessionEnding (channel : EmailChannel) (transport : SmtpTransport) : Ending :=
  match channel.converse transport with
  | .error (.transport _ _) => .failed
  | .error (.other _) => .unreported
  | .ok () => if (EmailChannel.quitting transport).isSome then .unreported else .succeeded

def Email.attempt (channel : EmailChannel) (recipient : Text) (message : RenderedMessage) (transport : SmtpTransport) : Attempt where
  guarded := true
  sendable := channel.composed compose recipient message matches .ok ()
  ending := if channel.composed compose recipient message matches .ok () then sessionEnding channel transport else .unreported

theorem Email.send_follows (channel : EmailChannel) (recipient : Text) (message : RenderedMessage) (readings : Readings)
    (transport : SmtpTransport) :
    Follows channel.guards (channel.send compose recipient message readings transport).state.guards
      (channel.send compose recipient message readings transport).sent readings
      (Email.attempt compose channel recipient message transport) := by
  unfold EmailChannel.send
  split
  case h_1 guards enter =>
    have follows {sent : Bool} (same : sent = (Email.attempt compose channel recipient message transport).sendable) :
        Follows channel.guards _ sent readings (Email.attempt compose channel recipient message transport) := .admitted rfl enter same
    unfold Email.attempt sessionEnding at follows ⊢
    cases built : channel.composed compose recipient message with
    | error e =>
      rw [built] at follows
      exact follows rfl
    | ok _ =>
      rw [built] at follows
      cases session : channel.converse transport with
      | error raised => cases raised <;> rw [session] at follows <;> exact follows rfl
      | ok _ =>
        rw [session] at follows
        cases closed : EmailChannel.quitting transport <;> rw [closed] at follows <;> exact follows rfl
  case h_2 refused guards not_admitted enter => exact .refused rfl enter not_admitted

end
/-! ### Sequences of calls -/

/-- What the adapters are built with: the text of an exception, the parsers of the
    feeds, the flag for stale records, `str.upper` and the mail library. -/
structure Environment (cve advisory : Type) where
  describe : PyError → Text
  parseNvdResponse : Value → Except PyError (List cve)
  aged : cve → cve
  parseGithubAdvisories : Value → Except PyError (List advisory)
  upper : Text → Text
  compose : Text → Text → Text → Text → Except PyError Unit

inductive Adapter (cve advisory : Type) where
  | virusTotal (provider : VirusTotalReputationProvider)
  | nvd (source : Source cve)
  | github (source : Source advisory)
  | slack (channel : SlackChannel)
  | email (channel : EmailChannel)

def Adapter.guards {cve advisory : Type} : Adapter cve advisory → Guards
  | .virusTotal provider => provider.guards
  | .nvd source => source.guards
  | .github source => source.guards
  | .slack channel => channel.guards
  | .email channel => channel.guards

/-- A request with what comes of it if it goes out. -/
inductive Request where
  | lookup (ioc : IocIndicator) (get : Text → Except Raised HttpResponse)
  | query (params : List (Text × Text)) (key label : Text) (get : List (Text × Text) → Except Raised HttpResponse)
  | fetch (cveId : Text) (get : List (Text × Text) → Except Raised HttpResponse)
  | post (message : RenderedMessage) (post : Text → Except Raised HttpResponse)
  | mail (recipient : Text) (message : RenderedMessage) (transport : SmtpTransport)

structure Call where
  request : Request
  readings : Readings

section
variable [Interpreter] {cve advisory : Type} (env : Environment cve advisory)

/-- One call on an adapter: its next state, and whether the request went out. -/
def perform (adapter : Adapter cve advisory) (call : Call) : Option (Adapter cve advisory × Bool) :=
  match adapter, call.request with
  | .virusTotal provider,.lookup ioc get =>
    let called := provider.lookup env.describe ioc call.readings get
    some (.virusTotal called.state,called.sent)
  | .nvd source,.query params key label get =>
    let called := nvdQuery env.describe env.parseNvdResponse env.aged source params key label call.readings get
    some (.nvd called.state,called.sent)
  | .github source,.fetch cveId get =>
    let called := githubFetch env.describe env.parseGithubAdvisories env.upper source cveId call.readings get
    some (.github called.state,called.sent)
  | .slack channel,.post message post =>
    let called := channel.send message call.readings post
    some (.slack called.state,called.sent)
  | .email channel,.mail recipient message transport =>
    let called := channel.send env.compose recipient message call.readings transport
    some (.email called.state,called.sent)
  | _,_ => none

def Step (adapter : Adapter cve advisory) (call : Call) (next : Adapter cve advisory) : Prop :=
  ∃ sent, perform env adapter call = some (next,sent)

/-- The call as the guards see it, read off its input. -/
def attempt (adapter : Adapter cve advisory) (call : Call) : Attempt :=
  match adapter, call.request with
  | .virusTotal provider,.lookup ioc get => VirusTotal.attempt env.describe provider ioc call.readings get
  | .nvd source,.query params key _ get =>
    Source.attempt source key call.readings (readResponse env.describe (lit "NVD returned ") env.parseNvdResponse (get params))
  | .github source,.fetch cveId get =>
    Source.attempt source (env.upper cveId) call.readings
      (readResponse env.describe (lit "advisory source returned ") env.parseGithubAdvisories (get [(lit "cve_id",cveId)]))
  | .slack _,.post message post => Slack.attempt message post
  | .email channel,.mail recipient message transport => Email.attempt env.compose channel recipient message transport
  | _,_ => { guarded := false, ending := .unreported }

variable {env} {adapter next : Adapter cve advisory} {call : Call} {sent : Bool}

theorem perform_follows (performed : perform env adapter call = some (next,sent)) :
    Follows adapter.guards next.guards sent call.readings (attempt env adapter call) := by
  obtain ⟨request,readings⟩ := call
  cases adapter with
  | virusTotal provider =>
    cases request with
    | lookup ioc get => cases performed; exact VirusTotal.lookup_follows _ _ _ _ _
    | _ => cases performed
  | nvd source =>
    cases request with
    | query params key label get => cases performed; exact Source.lookup_follows _ _ _ _ _ _ _ _
    | _ => cases performed
  | github source =>
    cases request with
    | fetch cveId get => cases performed; exact Source.lookup_follows _ _ _ _ _ _ _ _
    | _ => cases performed
  | slack channel =>
    cases request with
    | post message post => cases performed; exact Slack.send_follows _ _ _ _
    | _ => cases performed
  | email channel =>
    cases request with
    | mail recipient message transport => cases performed; exact Email.send_follows _ _ _ _ _ _
    | _ => cases performed

variable (env)

/-- A call that becomes the probe finds a token and reports how it ended. -/
def Resolves (adapter : Adapter cve advisory) (call : Call) : Prop :=
  (attempt env adapter call).guarded = true →
    adapter.guards.Resolves call.readings.asked call.readings.limited (attempt env adapter call).ending

/-- A call after which no probe is outstanding. -/
def Restoring (adapter : Adapter cve advisory) (call : Call) (next : Adapter cve advisory) : Prop :=
  Step env adapter call next ∧ next.guards.Clear

/-- A call that comes once the breaker may be probed, and that has a token, is sent. -/
def Probes (adapter : Adapter cve advisory) : Prop :=
  ∀ call next sent, perform env adapter call = some (next,sent) → (attempt env adapter call).guarded = true →
    (attempt env adapter call).sendable = true → adapter.guards.breaker.state call.readings.asked = .HALF_OPEN →
    adapter.guards.HasToken call.readings.limited → sent = true

variable {env}

theorem step_clear_iff (clear : adapter.guards.Clear) (step : Step env adapter call next) : next.guards.Clear ↔ Resolves env adapter call := by
  obtain ⟨sent,performed⟩ := step
  rw [(perform_follows performed).guards]
  unfold Resolves
  by_cases guarded : (attempt env adapter call).guarded = true
  · simpa [guarded] using Guards.call_clear_iff clear
  · simpa [guarded] using clear

theorem clear_probes (clear : adapter.guards.Clear) : Probes env adapter := by
  intro call next sent performed guarded sendable recovered token
  exact (perform_follows performed).sent.mpr ⟨guarded,(Guards.admitted_iff clear).mpr ⟨by simp [recovered],token⟩,sendable⟩

/-- No call on an adapter that kept its probe is sent, ever. -/
theorem stuck_forever {finish : Adapter cve advisory} {calls : List Call} (probing : adapter.guards.breaker.halfOpen = true)
    (opened : adapter.guards.breaker.openedAt ≠ none) (run : Run (Step env) adapter calls finish)
    (performed : perform env finish call = some (next,sent)) : sent = false := by
  have keeps : ∀ a call b, (Adapter.guards a).breaker.halfOpen = true ∧ (Adapter.guards a).breaker.openedAt ≠ none →
      Step env a call b → (Adapter.guards b).breaker.halfOpen = true ∧ (Adapter.guards b).breaker.openedAt ≠ none := by
    rintro a call b ⟨probing,opened⟩ ⟨_,performed⟩
    rw [(perform_follows performed).guards]
    simp only [Guards.call,Guards.enter_of_stuck probing opened,ite_self]
    exact ⟨probing,opened⟩
  obtain ⟨probing,opened⟩ := run.invariant keeps ⟨probing,opened⟩
  have refused := (perform_follows performed).sent
  rw [Guards.enter_of_stuck probing opened] at refused
  simpa using refused

/-- The probe is given back after every call of a run exactly when every call
    resolves it; then the adapter can always be probed again. -/
theorem run_restores_iff_resolves {start finish : Adapter cve advisory} {calls : List Call} (clear : start.guards.Clear) :
    (Run (Restoring env) start calls finish ↔ Run (Guarded (Resolves env) (Step env)) start calls finish) ∧
    (Run (Guarded (Resolves env) (Step env)) start calls finish → finish.guards.Clear ∧ Probes env finish) := by
  have resolving : ∀ adapter call next, Adapter.guards adapter |>.Clear → Guarded (Resolves env) (Step env) adapter call next →
      (Adapter.guards next).Clear := fun _ _ _ clear step => (step_clear_iff clear step.2).mpr step.1
  refine ⟨⟨fun run => ?_,fun run => ?_⟩,fun run => ?_⟩
  · exact run.strengthen (fun _ _ _ _ step => step.2) (fun _ _ _ clear step => ⟨(step_clear_iff clear step.1).mp step.2,step.1⟩) clear
  · exact run.strengthen resolving (fun _ _ _ clear step => ⟨step.2,(step_clear_iff clear step.2).mpr step.1⟩) clear
  · have kept := run.invariant resolving clear
    exact ⟨kept,clear_probes kept⟩

end

/-- An environment without services. -/
def bare : Environment Unit Unit where
  describe _ := []
  parseNvdResponse _ := .ok []
  aged := id
  parseGithubAdvisories _ := .ok []
  upper := id
  compose _ _ _ _ := .ok ()

theorem one_positive : 1 ≤ 1 := by decide

/-- A new webhook channel: one message a minute, one failure to open the breaker,
    half a minute to recover. -/
def webhook : SlackChannel where
  guards := ⟨⟨1,dividedBy 1 60,1,0,one_positive⟩,{ failureThreshold := 1, resetSeconds := 30, positive := one_positive }⟩

/-- A post of an alert at one moment that the network fails. -/
def failedPost (moment : ℚ) : Call where
  request := .post { body := lit "alert" } fun _ => .error (.transport (lit "ConnectError") (lit "refused"))
  readings := ⟨moment,moment,moment,moment,moment⟩

/-- A post of an alert at one moment that the service accepts. -/
def acceptedPost (moment : ℚ) : Call where
  request := .post { body := lit "alert" } fun _ => .ok ⟨200,lit "ok",.ok .null⟩
  readings := ⟨moment,moment,moment,moment,moment⟩

/-- After a minute there is a token for the probe, and the post that is accepted closes the
    breaker. -/
theorem failed_post_restores :
    ∃ finish, @Run _ _ (@Restoring ascii _ _ bare) (.slack webhook) [failedPost 0,acceptedPost 60] finish ∧ finish.guards.Clear ∧
      finish.guards.breaker.openedAt = none ∧ @Probes ascii _ _ bare finish := by
  obtain ⟨channel,failed,token,finish,accepted,closed⟩ : ∃ channel, @Step ascii _ _ bare (.slack webhook) (failedPost 0) (.slack channel) ∧
      channel.guards.HasToken 60 ∧ ∃ finish, @Step ascii _ _ bare (.slack channel) (acceptedPost 60) finish ∧
        finish.guards.breaker.openedAt = none := by
    unfold Guards.HasToken
    exact ⟨_,⟨_,rfl⟩,by decide +kernel,_,⟨_,rfl⟩,by decide +kernel⟩
  have early : @Resolves ascii _ _ bare (.slack webhook) (failedPost 0) := fun _ recovered => by cases recovered
  have probe : @Resolves ascii _ _ bare (.slack channel) (acceptedPost 60) := fun _ _ => ⟨token,nofun⟩
  have guarded : Run (Guarded (@Resolves ascii _ _ bare) (@Step ascii _ _ bare)) (.slack webhook) [failedPost 0,acceptedPost 60] finish :=
    .go ⟨early,failed⟩ (.go ⟨probe,accepted⟩ (.stop _))
  obtain ⟨restores,probes⟩ := @run_restores_iff_resolves ascii _ _ bare (.slack webhook) finish [failedPost 0,acceptedPost 60] rfl
  obtain ⟨clear,sends⟩ := probes guarded
  exact ⟨finish,restores.mpr guarded,clear,closed,sends⟩

/-- The breaker opens at 0; at 30 the probe is taken before the limiter refuses the
    call, and the channel never sends again. -/
theorem probe_lost_to_rate_limit :
    ∃ finish, @Run _ _ (@Step ascii _ _ bare) (.slack webhook) [failedPost 0,failedPost 30] finish ∧ ¬ finish.guards.Clear ∧
      ∀ calls later call next sent, @Run _ _ (@Step ascii _ _ bare) finish calls later →
        @perform ascii _ _ bare later call = some (next,sent) → sent = false := by
  refine ⟨_,.go ⟨_,rfl⟩ (.go ⟨_,rfl⟩ (.stop _)),by decide +kernel,?_⟩
  intro calls later call next sent run performed
  exact @stuck_forever ascii _ _ bare _ _ _ _ _ _ (by decide +kernel) (by decide +kernel) run performed

end SocAnalyst.Recovery
