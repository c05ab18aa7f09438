import SocAnalyst.Dispatch
import SocAnalyst.Enrichment
import SocAnalyst.Resilience

/-!
# Guarded adapters

The calls that leave the program: the lookups of `integrations/threat_intel.py`,
`nvd.py` and `advisories.py`, and the sends of `notifications.py`. What the other side
does is an argument of each call.
-/
namespace SocAnalyst.Adapters
open SocAnalyst.Builtins SocAnalyst.Dicts SocAnalyst.Values SocAnalyst.Runs SocAnalyst.Iocs SocAnalyst.Enrichment
open SocAnalyst.Notifications SocAnalyst.Dispatch SocAnalyst.Resilience

/-! ### The other side -/

/-- An exception of the transport, by class name and text, which the adapters
    catch; or any other, which they do not. -/
inductive Raised where
  | transport (name text : Text)
  | other (error : PyError)

structure HttpResponse where
  statusCode : Nat
  text : Text := []
  /-- `response.json()`. -/
  json : Except PyError Value

/-- The exceptions a malformed body is known by. -/
def malformed : PyError → Bool
  | .ValueError | .UnicodeEncodeError | .KeyError | .TypeError => true
  | _ => false

/-- The clock at the places where one call reads it. -/
structure Readings where
  found : ℚ
  asked : ℚ
  limited : ℚ
  recorded : ℚ
  stored : ℚ

/-- What a call leaves behind and returns. -/
structure Called (σ ρ : Type) where
  state : σ
  /-- The request went out. -/
  sent : Bool
  outcome : Except PyError ρ

/-! ### Reading a response -/

/-- What an adapter makes of the answer to its request. -/
inductive Answer (ρ : Type) where
  | read (result : ρ)
  | failed (reason detail : Text)
  | raised (error : PyError)

def Answer.ending {ρ : Type} : Answer ρ → Ending
  | .read _ => .succeeded
  | .failed _ _ => .failed
  | .raised _ => .unreported

/-- The answer of a service that reports success with status 200; `describe` is the
    text of an exception. -/
def readResponse {ρ : Type} (describe : PyError → Text) (status : Text) (parse : Value → Except PyError ρ) :
    Except Raised HttpResponse → Answer ρ
  | .error (.transport _ text) => .failed (lit "unreachable") text
  | .error (.other e) => .raised e
  | .ok response =>
    if response.statusCode ≠ 200 then .failed (lit "http_error") (status ++ lit (toString response.statusCode))
    else match response.json >>= parse with
      | .ok result => .read result
      | .error e => if malformed e then .failed (lit "malformed_response") (describe e) else .raised e

/-! ### Lookups of records -/

structure LookupFailure where
  query : Text
  reason : Text
  detail : Text := []

/-- Either records or a typed failure. -/
structure LookupResult (record : Type) where
  records : List record := []
  failure : Option LookupFailure := none

/-- A source of records behind a cache, a limiter and a breaker. -/
structure Source (record : Type) where
  cache : TtlCache (List record)
  guards : Guards

namespace Source
variable {record : Type}

/-- An expired cached answer, or a clean failure. -/
def degrade (source : Source record) (aged : record → record) (key label reason detail : Text) : LookupResult record :=
  match source.cache.getStale key with
  | some stale => { records := stale.map aged }
  | none => { failure := some ⟨label,reason,detail⟩ }

/-- A cached, guarded lookup. -/
def lookup (source : Source record) (aged : record → record) (circuit limit : Text) (key label : Text) (readings : Readings)
    (answer : Answer (List record)) : Called (Source record) (LookupResult record) :=
  match source.cache.get key readings.found with
  | (some cached,cache) => ⟨{ source with cache := cache },false,.ok { records := cached }⟩
  | (none,_) =>
    match source.guards.enter readings.asked readings.limited with
    | (.circuitOpen,guards) =>
      ⟨{ source with guards := guards },false,.ok (source.degrade aged key label (lit "circuit_open") circuit)⟩
    | (.rateLimited,guards) =>
      ⟨{ source with guards := guards },false,.ok (source.degrade aged key label (lit "rate_limited") limit)⟩
    | (.admitted,guards) =>
      match answer with
      | .read records =>
        ⟨⟨source.cache.set key records readings.stored,guards.conclude readings.recorded .succeeded⟩,true,.ok { records := records }⟩
      | .failed reason detail =>
        ⟨{ source with guards := guards.conclude readings.recorded .failed },true,.ok (source.degrade aged key label reason detail)⟩
      | .raised e => ⟨{ source with guards := guards },true,.error e⟩

end Source

section
variable {cve advisory : Type} (describe : PyError → Text)

/-- `NvdCveSource._query`: the parser of the feed and the flag for stale records
    are the caller's. -/
def nvdQuery (parse : Value → Except PyError (List cve)) (aged : cve → cve) (source : Source cve) (params : List (Text × Text))
    (key label : Text) (readings : Readings) (get : List (Text × Text) → Except Raised HttpResponse) :
    Called (Source cve) (LookupResult cve) :=
  source.lookup aged (lit "the NVD circuit is open") (lit "local NVD rate limit reached") key label readings
    (readResponse describe (lit "NVD returned ") parse (get params))

/-- `GitHubAdvisorySource.fetch`; a stale advisory carries no flag. -/
def githubFetch (parse : Value → Except PyError (List advisory)) (upper : Text → Text) (source : Source advisory) (cveId : Text)
    (readings : Readings) (get : List (Text × Text) → Except Raised HttpResponse) : Called (Source advisory) (LookupResult advisory) :=
  source.lookup id (lit "the advisory circuit is open") (lit "local advisory rate limit reached") (upper cveId) cveId readings
    (readResponse describe (lit "advisory source returned ") parse (get [(lit "cve_id",cveId)]))

end

/-! ### Reputation lookups -/

/-- `payload[key]`. -/
def item (payload : Value) (key : Text) : Except PyError Value :=
  match payload with
  | .dict entries => match lookup entries key with
    | some value => .ok value
    | none => .error .KeyError
  | _ => .error .TypeError

/-- The engine vote counts of a response. -/
def analysisStats (payload : Value) : Except PyError (List (Text × Int)) := do
  let data ← item payload (lit "data")
  let attributes ← item data (lit "attributes")
  match attributes with
  | .dict entries =>
    let stats := (lookup entries (lit "last_analysis_stats")).getD .null
    match if stats.truthy then stats else .dict [] with
    | .dict counts => .ok (counts.filterMap fun entry =>
        match entry.2 with
        | .int n => some (entry.1,n)
        | .bool flag => some (entry.1,if flag then 1 else 0)
        | _ => none)
    | _ => .error .TypeError
  | _ => .error .AttributeError

/-- `stats.get(key, 0)`. -/
def votes (stats : List (Text × Int)) (key : Text) : Int := ((stats.find? fun entry => entry.1 = key).map (·.2)).getD 0

def maliciousEngines : Int := 3
def suspiciousEngines : Int := 1

/-- Engine vote counts as a reputation, requiring corroboration. -/
def classifyAnalysisStats (stats : List (Text × Int)) : IocReputation :=
  if maliciousEngines ≤ votes stats (lit "malicious") then .MALICIOUS
  else if suspiciousEngines ≤ votes stats (lit "malicious") ∨ maliciousEngines ≤ votes stats (lit "suspicious") then .SUSPICIOUS
  else if 0 < votes stats (lit "harmless") then .HARMLESS
  else .UNKNOWN

/-- The UTF-8 bytes of an encodable text. -/
def utf8 (text : Text) : List Nat :=
  text.flatMap fun c =>
    if c < 0x80 then [c]
    else if c < 0x800 then [0xC0 + c / 64,0x80 + c % 64]
    else if c < 0x10000 then [0xE0 + c / 4096,0x80 + c / 64 % 64,0x80 + c % 64]
    else [0xF0 + c / 262144,0x80 + c / 4096 % 64,0x80 + c / 64 % 64,0x80 + c % 64]

def base64Digit (n : Nat) : Nat :=
  if n < 26 then 65 + n else if n < 52 then 71 + n else if n < 62 then n - 4 else if n = 62 then 45 else 95

/-- URL-safe base64 without padding. -/
def base64 : List Nat → Text
  | a :: b :: c :: rest =>
    base64Digit (a / 4) :: base64Digit (a % 4 * 16 + b / 16) :: base64Digit (b % 16 * 4 + c / 64) :: base64Digit (c % 64) :: base64 rest
  | [a,b] => [base64Digit (a / 4),base64Digit (a % 4 * 16 + b / 16),base64Digit (b % 16 * 4)]
  | [a] => [base64Digit (a / 4),base64Digit (a % 4 * 16)]
  | [] => []

def urlIdentifier (url : Text) : Except PyError Text :=
  if Encodable url then .ok (base64 (utf8 url)) else .error .UnicodeEncodeError

/-- The resource path for an indicator, if its kind is supported. -/
def pathFor (ioc : IocIndicator) : Except PyError (Option Text) :=
  match ioc.type with
  | .IP_ADDRESS => .ok (some (lit "/ip_addresses/" ++ ioc.value))
  | .DOMAIN => .ok (some (lit "/domains/" ++ ioc.value))
  | .FILE_HASH => .ok (some (lit "/files/" ++ ioc.value))
  | .URL => (urlIdentifier ioc.value).map fun identifier => some (lit "/urls/" ++ identifier)
  | .FILE_PATH | .PROCESS => .ok none

/-- Read-only, cached, rate-limited, breaker-guarded. -/
structure VirusTotalReputationProvider where
  apiKey : Text
  cache : TtlCache ReputationVerdict
  guards : Guards

namespace VirusTotalReputationProvider

/-- A stale cached verdict, flagged as such, or a clean failure. -/
def degrade (provider : VirusTotalReputationProvider) (ioc : IocIndicator) (key reason detail : Text) : ReputationResult :=
  match provider.cache.getStale key with
  | some stale => { verdict := some { stale with detail := stale.detail ++ lit " (stale: " ++ detail ++ lit ")", stale := true } }
  | none => .fail ioc.value reason detail

/-- The service has no record. -/
def notFound : Except Raised HttpResponse → Bool
  | .ok response => response.statusCode = 404
  | .error _ => false

/-- The verdict that engine counts amount to. -/
def verdictOf (ioc : IocIndicator) (stats : List (Text × Int)) : Except PyError ReputationVerdict := do
  let malicious ← strOfInt (votes stats (lit "malicious"))
  let suspicious ← strOfInt (votes stats (lit "suspicious"))
  let engines ← strOfInt ((stats.map (·.2)).foldl (· + ·) 0)
  return {
    value := ioc.value
    reputation := classifyAnalysisStats stats
    source := lit "virustotal"
    detail := malicious ++ lit " malicious / " ++ suspicious ++ lit " suspicious of " ++ engines ++ lit " engines" }

/-- What a reply says about an indicator; to have no record is an answer too. Putting
    the counts of a well-formed response into words is no part of reading it. -/
def readVerdict (describe : PyError → Text) (ioc : IocIndicator) (reply : Except Raised HttpResponse) :
    Answer (Except PyError ReputationVerdict) :=
  if notFound reply then .read (.ok ⟨ioc.value,.UNKNOWN,lit "virustotal",lit "no record in VirusTotal",false⟩)
  else readResponse describe (lit "VirusTotal returned ") (fun payload => (analysisStats payload).map (verdictOf ioc)) reply

variable [Interpreter]

def cacheKey (ioc : IocIndicator) : Text := ioc.type.value ++ lit ":" ++ lower ioc.value

/-- Look one indicator up, degrading to cache rather than to a guess. -/
def lookup (describe : PyError → Text) (provider : VirusTotalReputationProvider) (ioc : IocIndicator) (readings : Readings)
    (get : Text → Except Raised HttpResponse) : Called VirusTotalReputationProvider ReputationResult :=
  if provider.apiKey = [] then ⟨provider,false,.ok (.fail ioc.value (lit "not_configured") (lit "no VirusTotal API key"))⟩
  else match pathFor ioc with
    | .error e => ⟨provider,false,.error e⟩
    | .ok none =>
      ⟨provider,false,.ok (.fail ioc.value (lit "unsupported") (ioc.type.value ++ lit " is not looked up by VirusTotal"))⟩
    | .ok (some path) =>
      match provider.cache.get (cacheKey ioc) readings.found with
      | (some cached,cache) => ⟨{ provider with cache := cache },false,.ok { verdict := some cached }⟩
      | (none,_) =>
        match provider.guards.enter readings.asked readings.limited with
        | (.circuitOpen,guards) =>
          ⟨{ provider with guards := guards },false,
            .ok (provider.degrade ioc (cacheKey ioc) (lit "circuit_open") (lit "VirusTotal circuit is open"))⟩
        | (.rateLimited,guards) =>
          ⟨{ provider with guards := guards },false,
            .ok (provider.degrade ioc (cacheKey ioc) (lit "rate_limited") (lit "local VirusTotal rate limit reached"))⟩
        | (.admitted,guards) =>
          match readVerdict describe ioc (get path) with
          | .read (.ok verdict) =>
            ⟨{ provider with
                cache := provider.cache.set (cacheKey ioc) verdict readings.stored
                guards := guards.conclude readings.recorded .succeeded },true,.ok { verdict := some verdict }⟩
          | .read (.error e) => ⟨{ provider with guards := guards.conclude readings.recorded .succeeded },true,.error e⟩
          | .failed reason detail =>
            ⟨{ provider with guards := guards.conclude readings.recorded .failed },true,
              .ok (provider.degrade ioc (cacheKey ioc) reason detail)⟩
          | .raised e => ⟨{ provider with guards := guards },true,.error e⟩

end VirusTotalReputationProvider

/-! ### Notification channels -/

namespace SendResult

def ok (detail : Text) : SendResult := { delivered := true, detail := detail }
def failed (detail : Text) : SendResult := { delivered := false, detail := detail }
def refuse (detail : Text) : SendResult := { delivered := false, detail := detail, refused := true }

end SendResult

/-- The refusal of a channel that must not be used. -/
def refusal (channel : NotificationChannel) : Admission → SendResult
  | .circuitOpen => SendResult.refuse (channel.value ++ lit " circuit is open")
  | _ => SendResult.refuse (channel.value ++ lit " rate limit exhausted")

structure SlackChannel where
  guards : Guards

/-- `SlackChannel.send`. -/
def SlackChannel.send (channel : SlackChannel) (message : RenderedMessage) (readings : Readings)
    (post : Text → Except Raised HttpResponse) : Called SlackChannel SendResult :=
  match channel.guards.enter readings.asked readings.limited with
  | (.admitted,guards) =>
    match post message.body with
    | .error (.transport name _) =>
      ⟨⟨guards.conclude readings.recorded .failed⟩,true,.ok (SendResult.failed (lit "slack transport error: " ++ name))⟩
    | .error (.other e) => ⟨⟨guards⟩,true,.error e⟩
    | .ok response =>
      if 400 ≤ response.statusCode then
        ⟨⟨guards.conclude readings.recorded .failed⟩,true,
          .ok (SendResult.failed (lit "slack rejected the message: " ++ lit (toString response.statusCode) ++ lit " " ++ response.text.take 120))⟩
      else ⟨⟨guards.conclude readings.recorded .succeeded⟩,true,.ok (SendResult.ok (lit "slack accepted the message"))⟩
  | (refused,guards) => ⟨⟨guards⟩,false,.ok (refusal .SLACK refused)⟩

/-- An SMTP server's part in one session. -/
structure SmtpTransport where
  connect : Except Raised Unit
  starttls : Except Raised Unit
  login : Except Raised Unit
  sendMessage : Except Raised Unit
  quit : Except Raised Unit

structure EmailChannel where
  username : Text
  useTls : Bool
  fromAddress : Text
  guards : Guards

namespace EmailChannel

/-- The session up to the message itself. -/
def converse (channel : EmailChannel) (transport : SmtpTransport) : Except Raised Unit := do
  transport.connect
  if channel.useTls then transport.starttls
  if channel.username ≠ [] then transport.login
  transport.sendMessage

/-- What escapes the closing of the connection, if there is one to close. -/
def quitting (transport : SmtpTransport) : Option PyError :=
  match transport.connect, transport.quit with
  | .ok (),.error (.other e) => some e
  | _,_ => none

/-- The construction of the message, `compose` being that of the mail library from
    subject, sender, recipient and body. -/
def composed (channel : EmailChannel) (compose : Text → Text → Text → Text → Except PyError Unit) (recipient : Text)
    (message : RenderedMessage) : Except PyError Unit :=
  compose (if message.subject = [] then lit "SOC alert" else message.subject) channel.fromAddress recipient message.body

/-- `EmailChannel.send`. -/
def send (compose : Text → Text → Text → Text → Except PyError Unit) (channel : EmailChannel) (recipient : Text)
    (message : RenderedMessage) (readings : Readings) (transport : SmtpTransport) : Called EmailChannel SendResult :=
  match channel.guards.enter readings.asked readings.limited with
  | (.admitted,guards) =>
    match channel.composed compose recipient message with
    | .error e => ⟨{ channel with guards := guards },false,.error e⟩
    | .ok () =>
      match channel.converse transport with
      | .error (.transport name text) =>
        ⟨{ channel with guards := guards.conclude readings.recorded .failed },true,
          match quitting transport with
          | some e => .error e
          | none => .ok (SendResult.failed ((lit "smtp error: " ++ name ++ lit ": " ++ text).take 200))⟩
      | .error (.other e) => ⟨{ channel with guards := guards },true,.error ((quitting transport).getD e)⟩
      | .ok () =>
        match quitting transport with
        | some e => ⟨{ channel with guards := guards },true,.error e⟩
        | none =>
          ⟨{ channel with guards := guards.conclude readings.recorded .succeeded },true,
            .ok (SendResult.ok (lit "smtp accepted the message for " ++ recipient))⟩
  | (refused,guards) => ⟨{ channel with guards := guards },false,.ok (refusal .EMAIL refused)⟩

end EmailChannel
end SocAnalyst.Adapters
