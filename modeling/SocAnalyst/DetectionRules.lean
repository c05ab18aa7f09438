import SocAnalyst.BruteForce
import SocAnalyst.Extraction
import SocAnalyst.TrailingRuns

/-!
# The rules of detection

The catalogue of `tools/detection.py`: the patterns and event types that rules look for, the
breakthrough and beaconing rules, and what each of them finds.
-/
namespace SocAnalyst.DetectionRules
open SocAnalyst.Builtins SocAnalyst.Values SocAnalyst.Times SocAnalyst.Calendar SocAnalyst.Dicts SocAnalyst.Groups SocAnalyst.Gaps SocAnalyst.Logs
open SocAnalyst.Detections SocAnalyst.BruteForce SocAnalyst.TrailingRuns
open SocAnalyst.AlertTemplates (WordTable sameLetter word)
open SocAnalyst.Extraction (character edge oneOrMore)
open SocAnalyst.LogAnalysis (AllComparable sortedByTime sortedByTime_ok sortedByTime_returns sortedByTime_sorted orElse)
open SocAnalyst.Patterns (Pattern findAll)
open SocAnalyst.Recommender (sortedSet present)

/-- An interpreter with its table of word characters. -/
class Searcher extends Printer, WordTable

/-! ### Patterns -/

/-- A letter of a pattern in any case, with the letters outside of ASCII that fold into it. -/
def folds (letter c : Nat) : Bool :=
  sameLetter letter c || (letter == 107 && c == 0x212A) || (letter == 105 && (c == 0x130 || c == 0x131))

def spelling (text : Text) : Pattern Nat := text.foldr (fun letter rest => .seq (.symbol (folds letter)) rest) .nothing

def inOrder (patterns : List (Pattern Nat)) : Pattern Nat := patterns.foldr .seq .nothing

def anyOf (patterns : List (Pattern Nat)) : Pattern Nat := patterns.dropLast.foldr .alt (patterns.getLastD .nothing)

def optional (pattern : Pattern Nat) : Pattern Nat := .repeated pattern 0 (some 1)

def words (texts : List Text) : Pattern Nat := anyOf (texts.map spelling)

/-- `\s+`. -/
def blanks : Pattern Nat := oneOrMore isSpace

/-- `(?:\.exe)?`. -/
def exe : Pattern Nat := optional (spelling (lit ".exe"))

section
variable [Searcher]

/-- A word between two boundaries. -/
def whole (pattern : Pattern Nat) : Pattern Nat := inOrder [edge,pattern,edge]

def encodedCommand : Pattern Nat :=
  anyOf [inOrder [spelling (lit "-enc"),optional (spelling (lit "odedcommand")),edge],spelling (lit "frombase64string"),
    inOrder [spelling (lit "-nop"),edge],inOrder [spelling (lit "-noprofile"),edge],
    inOrder [spelling (lit "-w"),blanks,spelling (lit "hidden"),edge],
    inOrder [spelling (lit "-windowstyle"),blanks,spelling (lit "hidden"),edge],spelling (lit "invoke-expression"),
    inOrder [edge,spelling (lit "iex"),.repeated (.symbol isSpace) 0 none,character 40],spelling (lit "downloadstring")]

def interpreter : Pattern Nat :=
  whole (anyOf [inOrder [spelling (lit "powershell"),exe],
    words [lit "pwsh",lit "cmd.exe",lit "wscript.exe",lit "cscript.exe",lit "bash",lit "sh"],
    inOrder [spelling (lit "python"),.repeated (.symbol fun c => Extraction.isDigit c || c == 46) 0 none]])

def proxyBinary : Pattern Nat :=
  inOrder [edge,words [lit "certutil",lit "mshta",lit "rundll32",lit "regsvr32",lit "msiexec",lit "bitsadmin",lit "wmic",lit "installutil"],
    exe,edge]

def toolTransfer : Pattern Nat :=
  anyOf [whole (spelling (lit "curl")),whole (spelling (lit "wget")),
    words [lit "invoke-webrequest",lit "downloadfile",lit "-urlcache"],whole (spelling (lit "scp")),
    inOrder [spelling (lit "bitsadmin"),blanks,spelling (lit "/transfer")]]

def serviceCreate : Pattern Nat :=
  anyOf [inOrder [edge,spelling (lit "sc"),exe,blanks,spelling (lit "create"),edge],
    words [lit "service was installed",lit "new-service"],inOrder [spelling (lit "systemctl"),blanks,spelling (lit "enable")],
    inOrder [spelling (lit "installed"),blanks,spelling (lit "a"),blanks,spelling (lit "service")]]

def scheduledTask : Pattern Nat :=
  anyOf [inOrder [spelling (lit "schtasks"),exe,.repeated (.symbol isSpace) 0 none,spelling (lit "/create")],
    spelling (lit "register-scheduledtask"),inOrder [edge,spelling (lit "crontab"),blanks,spelling (lit "-e"),edge],
    whole (spelling (lit "at.exe")),
    inOrder [spelling (lit "scheduled task "),optional (spelling (lit "was ")),spelling (lit "created")]]

def logCleared : Pattern Nat :=
  anyOf [words [lit "audit log was cleared",lit "event log was cleared",lit "clear-eventlog"],
    inOrder [spelling (lit "wevtutil"),blanks,spelling (lit "cl"),edge],
    inOrder [edge,spelling (lit "log"),optional (spelling (lit "s")),blanks,spelling (lit "cleared"),edge],
    inOrder [spelling (lit "rm"),blanks,spelling (lit "-r"),optional (spelling (lit "f")),blanks,spelling (lit "/var/log")]]

def defenseDisabled : Pattern Nat :=
  let wasDisabled := inOrder [blanks,optional (inOrder [spelling (lit "was"),blanks]),spelling (lit "disabled")]
  anyOf [spelling (lit "disablerealtimemonitoring"),inOrder [spelling (lit "set-mppreference"),blanks,spelling (lit "-disable")],
    inOrder [spelling (lit "defender"),wasDisabled],
    inOrder [spelling (lit "systemctl"),blanks,spelling (lit "stop"),blanks,words [lit "auditd",lit "falcon-sensor",lit "osqueryd"]],
    inOrder [spelling (lit "firewall"),wasDisabled],inOrder [spelling (lit "setenforce"),blanks,spelling (lit "0")]]

def accountCreated : Pattern Nat :=
  anyOf [spelling (lit "user account was created"),inOrder [spelling (lit "useradd"),edge],spelling (lit "new-localuser"),
    inOrder [spelling (lit "adduser"),edge],inOrder [spelling (lit "account"),blanks,spelling (lit "created")]]

def accountElevated : Pattern Nat :=
  anyOf [inOrder [spelling (lit "added to "),optional (words [lit "a ",lit "an ",lit "the "]),optional (spelling (lit "security-enabled ")),
      optional (words [lit "local ",lit "global ",lit "universal "]),spelling (lit "group")],
    inOrder [spelling (lit "usermod"),blanks,spelling (lit "-"),optional (spelling (lit "a")),spelling (lit "g"),edge],
    spelling (lit "add-localgroupmember"),whole (spelling (lit "sudoers")),inOrder [spelling (lit "granted"),blanks,spelling (lit "admin")]]

def remoteService : Pattern Nat :=
  anyOf [whole (spelling (lit "psexec")),whole (spelling (lit "winrm")),whole (spelling (lit "rdp")),spelling (lit "remote desktop"),
    inOrder [edge,spelling (lit "port"),.repeated (.symbol isSpace) 0 none,words [lit "3389",lit "5985",lit "5986"],edge]]

/-- `pattern.search(text)` finds something. None of the patterns matches an empty text. -/
def searches (pattern : Pattern Nat) (text : Text) : Bool := !(findAll pattern.whole text).isEmpty

/-! ### Patterns and types -/

/-- The untrusted text a pattern rule matches against, lowercased. -/
def searchable (event : NormalizedEvent) : Text :=
  lower (joined (lit " ") ([event.message,event.action.getD [],event.outcome.getD []] ++ event.fields.map (·.2.toText)))

def describe (events : List NormalizedEvent) : Text :=
  let hosts := sortedSet (present (events.map (·.host)))
  let actors := sortedSet (present (events.map (·.actor)))
  lit (toString events.length) ++ lit " event(s)" ++ (if hosts = [] then [] else lit " on " ++ joined (lit ", ") hosts) ++
    (if actors = [] then [] else lit " by " ++ joined (lit ", ") actors)

/-- Collapse the matched events into one match, or none if nothing matched. -/
def singleMatch (events : List NormalizedEvent) : List RuleMatch :=
  if events = [] then [] else [⟨events.map (·.eventId),describe events⟩]

/-- A rule for the events that it picks one by one. -/
def pickRule (picks : NormalizedEvent → Bool) (context : DetectionContext) : Except PyError (List RuleMatch) :=
  .ok (singleMatch (context.events.filter picks))

/-- The events of some types, or of any, whose text a pattern finds something in. -/
def patternPicks (pattern : Pattern Nat) (types : Option (List EventType)) (event : NormalizedEvent) : Bool :=
  types.all (·.contains event.eventType) && searches pattern (searchable event)

def patternRule (pattern : Pattern Nat) (types : Option (List EventType)) : DetectionContext → Except PyError (List RuleMatch) :=
  pickRule (patternPicks pattern types)

/-- A rule for an event category. -/
def typeRule (types : List EventType) : DetectionContext → Except PyError (List RuleMatch) :=
  pickRule fun event => types.contains event.eventType

/-! ### Breakthroughs -/

/-- Failures preceding a success before the success reads as the guess landing. -/
def breakthroughThreshold : Nat := 3

omit [Searcher] in
def fails (event : NormalizedEvent) : Bool := event.eventType = .AUTH_FAILURE

omit [Searcher] in
/-- The time between two events is longer than the window. -/
def farApart (window : Int) (first second : NormalizedEvent) : Bool := window < second.eventTime.instant - first.eventTime.instant

omit [Searcher] in
/-- Enough failures, the last of them within the window. -/
def breaksThrough (window : Int) (run : List NormalizedEvent) (success : NormalizedEvent) : Bool :=
  breakthroughThreshold ≤ run.length && run.getLast?.all fun last => !farApart window last success

def breakthroughMatch (who : Text) (run : List NormalizedEvent) (success : NormalizedEvent) : RuleMatch where
  eventIds := (run ++ [success]).map (·.eventId)
  detail := lit (toString run.length) ++ lit " failed authentications for " ++ Interpreter.repr who ++ lit " followed by a success at " ++
    success.eventTime.isoformat

def attempts : List EventType := [.AUTH_FAILURE,.AUTH_SUCCESS]

/-- A successful authentication immediately following a run of failures. -/
def detectBreakthrough (context : DetectionContext) : Except PyError (List RuleMatch) :=
  (groupByPrincipal context.events attempts).map fun groups => groups.flatMap fun group =>
    scan fails (farApart context.window) (breaksThrough context.window) (breakthroughMatch group.1) [] group.2

/-! ### Beaconing -/

/-- Connections to one external destination before the pattern reads as repeated contact. -/
def beaconingThreshold : Nat := 3

/-- The external destinations of an event, as its entities come. -/
def destinationsOf (internalNetworks : List Text) (event : NormalizedEvent) : List Text :=
  if event.eventType ≠ .NETWORK_CONNECTION then []
  else (event.entities.filter fun entity => (entity.type = .IP_ADDRESS ∨ entity.type = .DOMAIN) ∧
    Iocs.isInternalAddress entity.value internalNetworks = false).map fun entity => lower entity.value

/-- Each destination with an event that contacts it. -/
def contacts (context : DetectionContext) : List (Text × NormalizedEvent) :=
  context.events.flatMap fun event => (destinationsOf context.internalNetworks event).map fun destination => (destination,event)

def beaconMatch (destination : Text) (ids : List Text) : RuleMatch :=
  ⟨ids,lit (toString ids.length) ++ lit " connections to external destination " ++ Interpreter.repr destination⟩

/-- The match of one destination. -/
def beaconOf (group : Text × List NormalizedEvent) : Except PyError (List RuleMatch) :=
  (sortedByTime (·.eventTime) (·.eventId) group.2).map fun ordered =>
    let ids := unique (ordered.map (·.eventId))
    if ids.length < beaconingThreshold then [] else [beaconMatch group.1 ids]

/-- Repeated network contact with one external destination. -/
def detectBeaconing (context : DetectionContext) : Except PyError (List RuleMatch) :=
  (mapRaising beaconOf (sortedBy Prod.fst (grouped (contacts context)).entries)).map List.flatten

/-! ### The attempts of a principal -/

/-- The events of some types of a principal. -/
def eventsOf (events : List NormalizedEvent) (types : List EventType) (who : Text) : List NormalizedEvent :=
  events.filter fun event => event.eventType ∈ types ∧ principal event = some who

theorem valuesAt_attributedTo (events : List NormalizedEvent) (types : List EventType) (who : Text) :
    valuesAt (attributed events types) who = eventsOf events types who := by
  induction events with
  | nil => rfl
  | cons event rest ih =>
    rw [eventsOf] at ih ⊢
    by_cases fits : event.eventType ∈ types
    · cases named : principal event with
      | none => simpa [attributed,valuesAt,fits,named] using ih
      | some other =>
        by_cases same : other = who
        · simpa [attributed,valuesAt,fits,named,same] using ih
        · simpa [attributed,valuesAt,fits,named,same] using ih
    · simpa [attributed,valuesAt,fits] using ih

theorem mem_groupByPrincipal {events : List NormalizedEvent} {types : List EventType} {groups : List (Text × List NormalizedEvent)}
    (ran : groupByPrincipal events types = .ok groups) (who : Text) (ordered : List NormalizedEvent) :
    (who,ordered) ∈ groups ↔ eventsOf events types who ≠ [] ∧
      sortedByTime (·.eventTime) (·.eventId) (eventsOf events types who) = .ok ordered := by
  rw [mapRaising_mem ran]
  simp only [mem_sortedBy,Prod.exists,mem_grouped,valuesAt_attributedTo]
  constructor
  · rintro ⟨name,listed,⟨rfl,some⟩,sorted⟩
    obtain ⟨items,ran,same⟩ := map_ok.mp sorted
    cases same
    exact ⟨some,ran⟩
  · rintro ⟨some,sorted⟩
    exact ⟨who,_,⟨rfl,some⟩,map_ok.mpr ⟨ordered,sorted,rfl⟩⟩

theorem groupByPrincipal_comparable {events : List NormalizedEvent} {types : List EventType} :
    (∃ groups, groupByPrincipal events types = .ok groups) ↔ ∀ who, AllComparable ((eventsOf events types who).map (·.eventTime)) := by
  rw [groupByPrincipal,mapRaising_returns]
  simp only [mem_sortedBy,Prod.forall,mem_grouped,valuesAt_attributedTo]
  constructor
  · intro each who
    by_cases none : eventsOf events types who = []
    · rw [none]
      simp [AllComparable]
    · obtain ⟨_,ran⟩ := each who _ ⟨rfl,none⟩
      obtain ⟨_,sorted,_⟩ := map_ok.mp ran
      exact (sortedByTime_ok sorted).1
  · rintro all who _ ⟨rfl,_⟩
    obtain ⟨ordered,sorted⟩ := sortedByTime_returns (·.eventId) (all who)
    exact ⟨_,map_ok.mpr ⟨ordered,sorted,rfl⟩⟩

/-! ### What breaks through -/

omit [Searcher] in
/-- In the attempts of a principal, a longest run of failures that follow one another within
    the window, long enough, and right after it a success within the window. -/
structure BreaksThrough (window : Int) (ordered run : List NormalizedEvent) (success : NormalizedEvent) : Prop where
  stands : ∃ before after, ordered = before ++ run ++ success :: after ∧ ∀ last ∈ before.getLast?, last.eventType = .AUTH_FAILURE →
    ∃ first ∈ run.head?, window < first.eventTime.instant - last.eventTime.instant
  failures : ∀ event ∈ run, event.eventType = .AUTH_FAILURE
  steps : run.IsChain fun first second => second.eventTime.instant - first.eventTime.instant ≤ window
  enough : breakthroughThreshold ≤ run.length
  succeeds : success.eventType ≠ .AUTH_FAILURE
  soon : ∀ last ∈ run.getLast?, success.eventTime.instant - last.eventTime.instant ≤ window

omit [Searcher] in
theorem breaksThrough_iff {window : Int} {ordered run : List NormalizedEvent} {success : NormalizedEvent} :
    BreaksThrough window ordered run success ↔ ∃ before after, ordered = before ++ run ++ success :: after ∧
      Trails fails (farApart window) before run ∧ fails success = false ∧ breaksThrough window run success = true := by
  have failed : ∀ event, fails event = true ↔ event.eventType = .AUTH_FAILURE := by simp [fails]
  have near : ∀ first second, farApart window first second = false ↔ second.eventTime.instant - first.eventTime.instant ≤ window := by
    simp [farApart]
  have far : ∀ first second, farApart window first second = true ↔ window < second.eventTime.instant - first.eventTime.instant := by
    simp [farApart]
  have fires : breaksThrough window run success = true ↔ breakthroughThreshold ≤ run.length ∧
      ∀ last ∈ run.getLast?, success.eventTime.instant - last.eventTime.instant ≤ window := by
    simp only [breaksThrough,Bool.and_eq_true,decide_eq_true_eq]
    refine and_congr_right fun _ => ?_
    cases run.getLast? with
    | none => simp
    | some last => simp [near]
  constructor
  · rintro ⟨⟨before,after,whole,opens⟩,failures,steps,enough,succeeds,soon⟩
    refine ⟨before,after,whole,⟨fun event listed => (failed event).mpr (failures event listed),?_,?_⟩,by simpa [fails] using succeeds,
      fires.mpr ⟨enough,soon⟩⟩
    · exact steps.imp fun first second step => (near first second).mpr step
    · intro last ends counted
      obtain ⟨first,head,gap⟩ := opens last ends ((failed last).mp counted)
      exact ⟨first,head,(far last first).mpr gap⟩
  · rintro ⟨before,after,whole,trails,aside,fired⟩
    obtain ⟨enough,soon⟩ := fires.mp fired
    refine ⟨⟨before,after,whole,fun last ends failure => ?_⟩,fun event listed => (failed event).mp (trails.counted event listed),?_,enough,
      by simpa [fails] using aside,soon⟩
    · obtain ⟨first,head,gap⟩ := trails.opens last ends ((failed last).mpr failure)
      exact ⟨first,head,(far last first).mp gap⟩
    · exact trails.close.imp fun first second step => (near first second).mp step

theorem detectBreakthrough_returns (context : DetectionContext) : (∃ found, detectBreakthrough context = .ok found) ↔
    ∀ who, AllComparable ((eventsOf context.events attempts who).map (·.eventTime)) := by
  rw [← groupByPrincipal_comparable,detectBreakthrough]
  constructor
  · rintro ⟨found,ran⟩
    obtain ⟨groups,grouped,_⟩ := map_ok.mp ran
    exact ⟨groups,grouped⟩
  · rintro ⟨groups,grouped⟩
    exact ⟨_,map_ok.mpr ⟨groups,grouped,rfl⟩⟩

theorem mem_detectBreakthrough {context : DetectionContext} {found : List RuleMatch} (ran : detectBreakthrough context = .ok found)
    (report : RuleMatch) : report ∈ found ↔ ∃ who ordered run success,
      sortedByTime (·.eventTime) (·.eventId) (eventsOf context.events attempts who) = .ok ordered ∧
      BreaksThrough context.window ordered run success ∧ report = breakthroughMatch who run success := by
  obtain ⟨groups,grouped,rfl⟩ := map_ok.mp ran
  simp only [List.mem_flatMap,Prod.exists,mem_scan,mem_groupByPrincipal grouped,breaksThrough_iff]
  constructor
  · rintro ⟨who,ordered,⟨some,sorted⟩,before,run,success,after,whole,trails,aside,fired,rfl⟩
    exact ⟨who,ordered,run,success,sorted,⟨before,after,whole,trails,aside,fired⟩,rfl⟩
  · rintro ⟨who,ordered,run,success,sorted,⟨before,after,whole,trails,aside,fired⟩,rfl⟩
    refine ⟨who,ordered,⟨fun none => ?_,sorted⟩,before,run,success,after,whole,trails,aside,fired,rfl⟩
    have same := (sortedByTime_sorted sorted).1
    rw [none,List.perm_nil] at same
    simp [same] at whole

omit [Searcher] in
/-- Three failures in close succession right before a success are enough. -/
theorem BreaksThrough.of_three {window : Int} {before after : List NormalizedEvent} {first second third success : NormalizedEvent}
    (failures : ∀ event ∈ [first,second,third], event.eventType = .AUTH_FAILURE) (succeeds : success.eventType ≠ .AUTH_FAILURE)
    (steps : [first,second,third,success].IsChain fun x y => y.eventTime.instant - x.eventTime.instant ≤ window) :
    ∃ front, BreaksThrough window (before ++ first :: second :: third :: success :: after) (front ++ [first,second,third]) success := by
  have counted : ∀ event ∈ [first,second,third], fails event = true := fun event listed => by simp [fails,failures event listed]
  simp only [List.isChain_cons_cons,List.isChain_singleton,and_true] at steps
  have held : ∃ front, trailing fails (farApart window) (before ++ [first,second,third]) = front ++ [first,second,third] := by
    have begun : ∃ front, trailing fails (farApart window) (before ++ [first]) = front ++ [first] := by
      rw [trailing_snoc,extend,if_pos (counted first (by simp))]
      split_ifs
      · exact ⟨[],rfl⟩
      · exact ⟨_,rfl⟩
    obtain ⟨front,begun⟩ := begun
    refine ⟨front,?_⟩
    have two : trailing fails (farApart window) (before ++ [first] ++ [second]) = front ++ [first] ++ [second] := by
      rw [trailing_snoc,begun,extend,if_pos (counted second (by simp)),if_neg]
      simp [farApart,steps.1]
    have three : trailing fails (farApart window) (before ++ [first] ++ [second] ++ [third]) = front ++ [first] ++ [second] ++ [third] := by
      rw [trailing_snoc,two,extend,if_pos (counted third (by simp)),if_neg]
      simp [farApart,steps.2.1]
    simpa using three
  obtain ⟨front,held⟩ := held
  obtain ⟨ahead,whole,trails⟩ := @trailing_trails _ fails (farApart window) (before ++ [first,second,third])
  rw [held] at whole trails
  refine ⟨front,breaksThrough_iff.mpr ⟨ahead,after,?_,trails,by simpa [fails] using succeeds,?_⟩⟩
  · rw [← whole]
    simp
  · simp [breaksThrough,breakthroughThreshold,farApart,steps.2.2]

/-- The breakthrough rule returns when the times of each principal's attempts can be ordered.
    What it reports are the longest runs of failures that a success follows in time, and it
    reports every success with three failures in close succession right before it. -/
theorem breakthroughs_exact (context : DetectionContext) :
    ((∃ found, detectBreakthrough context = .ok found) ↔ ∀ who, AllComparable ((eventsOf context.events attempts who).map (·.eventTime))) ∧
    ∀ found, detectBreakthrough context = .ok found →
      (∀ report, report ∈ found ↔ ∃ who ordered run success,
        sortedByTime (·.eventTime) (·.eventId) (eventsOf context.events attempts who) = .ok ordered ∧
        BreaksThrough context.window ordered run success ∧ report = breakthroughMatch who run success) ∧
      ∀ who before first second third success after,
        sortedByTime (·.eventTime) (·.eventId) (eventsOf context.events attempts who) =
          .ok (before ++ first :: second :: third :: success :: after) →
        (∀ event ∈ [first,second,third], event.eventType = .AUTH_FAILURE) → success.eventType ≠ .AUTH_FAILURE →
        [first,second,third,success].IsChain (fun x y => y.eventTime.instant - x.eventTime.instant ≤ context.window) →
        ∃ front, breakthroughMatch who (front ++ [first,second,third]) success ∈ found := by
  refine ⟨detectBreakthrough_returns context,fun found ran => ⟨mem_detectBreakthrough ran,?_⟩⟩
  intro who before first second third success after sorted failures succeeds steps
  obtain ⟨front,breaks⟩ := @BreaksThrough.of_three _ before after _ _ _ _ failures succeeds steps
  exact ⟨front,(mem_detectBreakthrough ran _).mpr ⟨who,_,_,success,sorted,breaks,rfl⟩⟩

/-! ### What is contacted again and again -/

/-- The events that contact a destination, once for each entity that names it. -/
def contactsOf (context : DetectionContext) (destination : Text) : List NormalizedEvent := valuesAt (contacts context) destination

/-- An event contacts a destination. -/
def Contacts (context : DetectionContext) (destination : Text) (event : NormalizedEvent) : Prop :=
  event.eventType = .NETWORK_CONNECTION ∧ ∃ entity ∈ event.entities, (entity.type = .IP_ADDRESS ∨ entity.type = .DOMAIN) ∧
    Iocs.isInternalAddress entity.value context.internalNetworks = false ∧ lower entity.value = destination

theorem mem_contactsOf {context : DetectionContext} {destination : Text} {event : NormalizedEvent} :
    event ∈ contactsOf context destination ↔ event ∈ context.events ∧ Contacts context destination event := by
  unfold contactsOf
  simp only [mem_valuesAt,contacts,List.mem_flatMap,List.mem_map,Prod.mk.injEq]
  have named : ∀ other : NormalizedEvent, destination ∈ destinationsOf context.internalNetworks other ↔ Contacts context destination other := by
    intro other
    unfold destinationsOf Contacts
    split_ifs with elsewhere
    · simp [elsewhere]
    · simp [not_not.mp elsewhere,and_assoc]
  constructor
  · rintro ⟨other,listed,_,reached,rfl,rfl⟩
    exact ⟨listed,(named other).mp reached⟩
  · rintro ⟨listed,reached⟩
    exact ⟨event,listed,destination,(named event).mpr reached,rfl,rfl⟩

/-- The ids of the events that contact a destination, as their times come, enough of them. -/
def Contacted (context : DetectionContext) (destination : Text) (ids : List Text) : Prop :=
  ∃ ordered, sortedByTime (·.eventTime) (·.eventId) (contactsOf context destination) = .ok ordered ∧
    ids = unique (ordered.map (·.eventId)) ∧ beaconingThreshold ≤ ids.length

theorem Contacted.ids {context : DetectionContext} {destination : Text} {ids : List Text} (contacted : Contacted context destination ids) :
    ids.Nodup ∧ ∀ id, id ∈ ids ↔ ∃ event ∈ context.events, Contacts context destination event ∧ event.eventId = id := by
  obtain ⟨ordered,sorted,rfl,_⟩ := contacted
  refine ⟨unique_nodup _,fun id => ?_⟩
  rw [mem_unique,List.mem_map]
  refine exists_congr fun event => ?_
  rw [(sortedByTime_ok sorted).2 event,mem_contactsOf,and_assoc]

theorem beaconOf_ok {group : Text × List NormalizedEvent} {reports : List RuleMatch} :
    beaconOf group = .ok reports ↔ ∃ ordered, sortedByTime (·.eventTime) (·.eventId) group.2 = .ok ordered ∧
      reports = if (unique (ordered.map (·.eventId))).length < beaconingThreshold then []
        else [beaconMatch group.1 (unique (ordered.map (·.eventId)))] := by
  rw [beaconOf,map_ok]
  exact exists_congr fun ordered => and_congr_right fun _ => eq_comm

theorem detectBeaconing_returns (context : DetectionContext) : (∃ found, detectBeaconing context = .ok found) ↔
    ∀ destination, AllComparable ((contactsOf context destination).map (·.eventTime)) := by
  have loop : (∃ found, detectBeaconing context = .ok found) ↔
      ∃ reports, mapRaising beaconOf (sortedBy Prod.fst (grouped (contacts context)).entries) = .ok reports := by
    constructor
    · rintro ⟨found,ran⟩
      obtain ⟨reports,each,_⟩ := map_ok.mp ran
      exact ⟨reports,each⟩
    · rintro ⟨reports,each⟩
      exact ⟨_,map_ok.mpr ⟨reports,each,rfl⟩⟩
  rw [loop,mapRaising_returns]
  simp only [mem_sortedBy,Prod.forall,mem_grouped]
  constructor
  · intro each destination
    by_cases none : contactsOf context destination = []
    · rw [none]
      simp [AllComparable]
    · obtain ⟨reports,ran⟩ := each destination _ ⟨rfl,none⟩
      obtain ⟨ordered,sorted,_⟩ := beaconOf_ok.mp ran
      exact (sortedByTime_ok sorted).1
  · rintro all destination _ ⟨rfl,_⟩
    obtain ⟨ordered,sorted⟩ := sortedByTime_returns (·.eventId) (all destination)
    exact ⟨_,beaconOf_ok.mpr ⟨ordered,sorted,rfl⟩⟩

theorem mem_detectBeaconing {context : DetectionContext} {found : List RuleMatch} (ran : detectBeaconing context = .ok found)
    (report : RuleMatch) : report ∈ found ↔ ∃ destination ids, Contacted context destination ids ∧ report = beaconMatch destination ids := by
  obtain ⟨reports,each,rfl⟩ := map_ok.mp ran
  simp only [List.mem_flatten,mapRaising_mem each,Prod.exists,mem_sortedBy,mem_grouped,beaconOf_ok]
  constructor
  · rintro ⟨_,⟨destination,_,⟨rfl,some⟩,ordered,sorted,rfl⟩,listed⟩
    split_ifs at listed with few
    · cases listed
    · exact ⟨destination,_,⟨ordered,sorted,rfl,not_lt.mp few⟩,List.mem_singleton.mp listed⟩
  · rintro ⟨destination,_,⟨ordered,sorted,rfl,enough⟩,rfl⟩
    have some : contactsOf context destination ≠ [] := by
      intro none
      rw [none] at sorted
      have same := (sortedByTime_sorted sorted).1
      rw [List.perm_nil] at same
      rw [same] at enough
      exact absurd enough (by decide)
    exact ⟨_,⟨destination,_,⟨rfl,some⟩,ordered,sorted,rfl⟩,by rw [if_neg (not_lt.mpr enough)]; exact List.mem_singleton_self _⟩

/-- The beaconing rule returns when the times of the contacts of each destination can be
    ordered. It reports the destinations that events of at least three ids contact, with
    all these ids and no other. -/
theorem beacons_exact (context : DetectionContext) :
    ((∃ found, detectBeaconing context = .ok found) ↔
      ∀ destination, AllComparable ((contactsOf context destination).map (·.eventTime))) ∧
    ∀ found, detectBeaconing context = .ok found →
      (∀ report, report ∈ found ↔ ∃ destination ids, Contacted context destination ids ∧ report = beaconMatch destination ids) ∧
      (∀ destination ids, Contacted context destination ids → ids.Nodup ∧
        ∀ id, id ∈ ids ↔ ∃ event ∈ context.events, Contacts context destination event ∧ event.eventId = id) ∧
      ∀ destination (chosen : List Text), chosen.Nodup → beaconingThreshold ≤ chosen.length →
        (∀ id ∈ chosen, ∃ event ∈ context.events, Contacts context destination event ∧ event.eventId = id) →
        ∃ ids, Contacted context destination ids := by
  refine ⟨detectBeaconing_returns context,fun found ran => ⟨mem_detectBeaconing ran,fun _ _ contacted => contacted.ids,?_⟩⟩
  intro destination chosen once enough named
  have all := (detectBeaconing_returns context).mp ⟨found,ran⟩ destination
  obtain ⟨ordered,sorted⟩ := sortedByTime_returns (·.eventId) all
  refine ⟨_,ordered,sorted,rfl,enough.trans (once.subperm fun id listed => ?_).length_le⟩
  obtain ⟨event,known,contacts,rfl⟩ := named id listed
  rw [mem_unique]
  exact List.mem_map_of_mem (((sortedByTime_ok sorted).2 event).mpr (mem_contactsOf.mpr ⟨known,contacts⟩))

/-! ### The catalogue -/

def defaultRules : List DetectionRule :=
  [{ ruleId := lit "brute_force_authentication", name := lit "Repeated authentication failures"
     description := lit ("At least 5 failed authentications for one principal " ++ "within the correlation window.")
     weight := 11/2, techniqueIds := [lit "T1110"], evaluate := detectBruteForce },
   { ruleId := lit "authentication_breakthrough", name := lit "Successful authentication after repeated failures"
     description := lit ("A successful authentication preceded by at least 3 " ++
       "failures for the same principal — the pattern of a guess landing.")
     weight := 15/2, techniqueIds := [lit "T1110",lit "T1078"], evaluate := detectBreakthrough },
   { ruleId := lit "privilege_change_observed", name := lit "Privilege change", description := lit "A privilege level was altered."
     weight := 6, techniqueIds := [lit "T1068",lit "T1548"], evaluate := typeRule [.PRIVILEGE_CHANGE] },
   { ruleId := lit "account_created", name := lit "Account creation", description := lit "A new account was created."
     weight := 5, techniqueIds := [lit "T1136"], evaluate := patternRule accountCreated none },
   { ruleId := lit "account_elevated", name := lit "Account granted elevated group membership"
     description := lit "An account was added to a privileged group or granted administrative rights."
     weight := 13/2, techniqueIds := [lit "T1098",lit "T1078"], evaluate := patternRule accountElevated none },
   { ruleId := lit "script_interpreter_execution", name := lit "Script interpreter execution"
     description := lit ("A command or scripting interpreter was launched. Routine on its own — " ++
       "weighted low so it contributes context rather than alarm.")
     weight := 5/2, techniqueIds := [lit "T1059"], evaluate := patternRule interpreter (some [.PROCESS_START]) },
   { ruleId := lit "encoded_command_execution", name := lit "Obfuscated or hidden command execution"
     description := lit ("An interpreter was invoked with encoding, hidden-window, or in-memory " ++
       "execution flags — deliberate concealment, not ordinary administration.")
     weight := 15/2, techniqueIds := [lit "T1027",lit "T1059.001"], evaluate := patternRule encodedCommand none },
   { ruleId := lit "proxy_binary_execution", name := lit "Signed binary proxy execution"
     description := lit "A trusted system binary commonly abused to run other code was invoked."
     weight := 6, techniqueIds := [lit "T1218"], evaluate := patternRule proxyBinary none },
   { ruleId := lit "ingress_tool_transfer", name := lit "File transferred into the environment"
     description := lit "A download or file-transfer utility was used to pull content onto a host."
     weight := 6, techniqueIds := [lit "T1105"], evaluate := patternRule toolTransfer none },
   { ruleId := lit "service_installed", name := lit "Service installed"
     description := lit "A new system service was created or installed — a common persistence route."
     weight := 11/2, techniqueIds := [lit "T1543",lit "T1569"], evaluate := patternRule serviceCreate none },
   { ruleId := lit "scheduled_task_created", name := lit "Scheduled task created"
     description := lit "A scheduled task or cron entry was created — persistence or timed execution."
     weight := 11/2, techniqueIds := [lit "T1053"], evaluate := patternRule scheduledTask none },
   { ruleId := lit "audit_log_cleared", name := lit "Audit log cleared"
     description := lit ("Event or audit logs were cleared. Destroying the record of activity is " ++
       "rarely accidental and directly attacks the evidence this platform rests on.")
     weight := 8, techniqueIds := [lit "T1070",lit "T1070.001"], evaluate := patternRule logCleared none },
   { ruleId := lit "security_tooling_disabled", name := lit "Security tooling disabled"
     description := lit "Endpoint protection, auditing, or the host firewall was turned off."
     weight := 15/2, techniqueIds := [lit "T1562"], evaluate := patternRule defenseDisabled none },
   { ruleId := lit "remote_service_activity", name := lit "Remote administration service used"
     description := lit "Remote execution or remote desktop tooling appears in the evidence."
     weight := 7/2, techniqueIds := [lit "T1021"], evaluate := patternRule remoteService none },
   { ruleId := lit "external_beaconing", name := lit "Repeated contact with an external destination"
     description := lit ("At least 3 connections to the same external address " ++
       "or domain — the shape of command-and-control, though also of ordinary polling.")
     weight := 9/2, techniqueIds := [lit "T1071"], evaluate := detectBeaconing }]

/-! ### What the catalogue signals -/

omit [Searcher] in
/-- A match names an event at least, and only events of the evidence. -/
def Evidenced (context : DetectionContext) (report : RuleMatch) : Prop :=
  report.eventIds ≠ [] ∧ ∀ id ∈ report.eventIds, ∃ event ∈ context.events, event.eventId = id

omit [Searcher] in
theorem Evidenced.of_sublist {context : DetectionContext} {report : RuleMatch} {events : List NormalizedEvent}
    (ids : report.eventIds = events.map (·.eventId)) (some : events ≠ []) (known : ∀ event ∈ events, event ∈ context.events) :
    Evidenced context report := by
  refine ⟨by simp [ids,some],fun id listed => ?_⟩
  rw [ids] at listed
  obtain ⟨event,inside,rfl⟩ := List.mem_map.mp listed
  exact ⟨event,known event inside,rfl⟩

omit [Searcher] in
theorem pickRule_ok {picks : NormalizedEvent → Bool} {context : DetectionContext} {found : List RuleMatch}
    (ran : pickRule picks context = .ok found) : (∀ report ∈ found, Evidenced context report) ∧
      (found ≠ [] ↔ ∃ event ∈ context.events, picks event = true) := by
  cases ran
  unfold singleMatch
  split_ifs with none
  · refine ⟨fun report listed => (List.not_mem_nil listed).elim,?_⟩
    rw [List.filter_eq_nil_iff] at none
    simpa using none
  · constructor
    · intro report listed
      cases List.mem_singleton.mp listed
      exact .of_sublist rfl none fun event inside => (List.mem_filter.mp inside).1
    · simpa [List.filter_eq_nil_iff] using none

theorem detectBruteForce_evidenced {context : DetectionContext} {found : List RuleMatch} (ran : detectBruteForce context = .ok found) :
    ∀ report ∈ found, Evidenced context report := by
  obtain ⟨groups,grouped,rfl⟩ := map_ok.mp ran
  intro report listed
  obtain ⟨⟨who,ordered⟩,group,listed⟩ := List.mem_flatMap.mp listed
  obtain ⟨burst,kept,rfl⟩ := List.mem_map.mp listed
  obtain ⟨piece,long⟩ := List.mem_filter.mp kept
  have sorted := ((mem_groupByPrincipal grouped who ordered).mp group).2
  refine .of_sublist rfl (fun none => ?_) fun event inside => ?_
  · rw [none] at long
    exact absurd long (by decide)
  · have part : event ∈ ordered := by
      have whole : (bursts ordered context.window).flatten = ordered := by
        rw [bursts,splitByGap_eq,List.flatten_splitBy]
      rw [← whole]
      exact List.mem_flatten_of_mem piece inside
    exact (List.mem_filter.mp (((sortedByTime_ok sorted).2 event).mp part)).1

theorem detectBreakthrough_evidenced {context : DetectionContext} {found : List RuleMatch} (ran : detectBreakthrough context = .ok found) :
    ∀ report ∈ found, Evidenced context report := by
  intro report listed
  obtain ⟨who,ordered,run,success,sorted,breaks,rfl⟩ := (mem_detectBreakthrough ran report).mp listed
  obtain ⟨before,after,whole,_⟩ := breaks.stands
  refine .of_sublist rfl (by simp) fun event inside => ?_
  have part : event ∈ ordered := by
    rw [whole]
    simp only [List.mem_append,List.mem_cons,List.not_mem_nil,or_false] at inside ⊢
    tauto
  exact (List.mem_filter.mp (((sortedByTime_ok sorted).2 event).mp part)).1

theorem detectBeaconing_evidenced {context : DetectionContext} {found : List RuleMatch} (ran : detectBeaconing context = .ok found) :
    ∀ report ∈ found, Evidenced context report := by
  intro report listed
  obtain ⟨destination,ids,contacted,rfl⟩ := (mem_detectBeaconing ran report).mp listed
  refine ⟨fun none => ?_,fun id named => ?_⟩
  · obtain ⟨_,_,_,enough⟩ := contacted
    rw [show ids = [] from none] at enough
    exact absurd enough (by decide)
  · obtain ⟨event,known,_,same⟩ := (contacted.ids.2 id).mp named
    exact ⟨event,known,same⟩

theorem catalogue_weights : ∀ rule ∈ defaultRules, 0 ≤ rule.weight ∧ rule.weight ≤ 10 := by
  simp only [defaultRules,List.forall_mem_cons,List.not_mem_nil,false_implies,implies_true,and_true]
  norm_num

/-- A rule is one of the three detectors, or picks events one by one. -/
def Detects (evaluate : DetectionContext → Except PyError (List RuleMatch)) : Prop :=
  evaluate = detectBruteForce ∨ evaluate = detectBreakthrough ∨ evaluate = detectBeaconing ∨ ∃ picks, evaluate = pickRule picks

theorem Detects.pattern (pattern : Pattern Nat) (types : Option (List EventType)) : Detects (patternRule pattern types) :=
  .inr (.inr (.inr ⟨_,rfl⟩))

theorem Detects.type (types : List EventType) : Detects (typeRule types) := .inr (.inr (.inr ⟨_,rfl⟩))

theorem catalogue_detects : ∀ rule ∈ defaultRules, Detects rule.evaluate := by
  simp only [defaultRules,List.forall_mem_cons,List.not_mem_nil,false_implies,implies_true,and_true,Detects.pattern,Detects.type,
    true_and]
  exact ⟨.inl rfl,.inr (.inl rfl),.inr (.inr (.inl rfl))⟩

theorem Detects.evidenced {evaluate : DetectionContext → Except PyError (List RuleMatch)} (detects : Detects evaluate)
    {context : DetectionContext} {found : List RuleMatch} (ran : evaluate context = .ok found) : ∀ report ∈ found, Evidenced context report := by
  obtain rfl | rfl | rfl | ⟨picks,rfl⟩ := detects
  · exact detectBruteForce_evidenced ran
  · exact detectBreakthrough_evidenced ran
  · exact detectBeaconing_evidenced ran
  · exact (pickRule_ok ran).1

/-- The times that the catalogue orders: those of the attempts of a principal, and those of
    the contacts of a destination. -/
def Ordered (context : DetectionContext) : Prop :=
  (∀ who, AllComparable ((eventsOf context.events attempts who).map (·.eventTime))) ∧
    ∀ destination, AllComparable ((contactsOf context destination).map (·.eventTime))

theorem Ordered.failures {context : DetectionContext} (ordered : Ordered context) (who : Text) :
    AllComparable ((failuresOf context.events who).map (·.eventTime)) := by
  refine (ordered.1 who).subset (List.map_subset _ fun event listed => ?_)
  rw [failuresOf,List.mem_filter] at listed
  rw [eventsOf,List.mem_filter]
  simp_all [attempts]

omit [Searcher] in
theorem evaluateRules_ok {context : DetectionContext} {rules : List DetectionRule} {signals : List DetectionSignal}
    (ran : evaluateRules context rules = .ok signals) : (signals.Pairwise fun first second => second.weight ≤ first.weight) ∧
      ∀ signal, signal ∈ signals ↔
        ∃ rule ∈ rules, ∃ found, rule.evaluate context = .ok found ∧ ∃ report ∈ found, rule.signal report = .ok signal := by
  unfold evaluateRules at ran
  obtain ⟨parts,each,last⟩ := bind_ok.mp ran
  cases last
  constructor
  · refine (pairwise_sortedBy _ _).imp fun {first second} ahead => ?_
    rcases Prod.Lex.le_iff.mp ahead with less | ⟨same,_⟩
    · exact (neg_lt_neg_iff.mp less).le
    · exact (neg_inj.mp same).ge
  · intro signal
    simp only [mem_sortedBy,List.mem_flatten,mapRaising_mem each,DetectionRule.signals,bind_ok]
    constructor
    · rintro ⟨part,⟨rule,listed,found,ran,signalled⟩,inside⟩
      obtain ⟨report,member,same⟩ := (mapRaising_mem signalled signal).mp inside
      exact ⟨rule,listed,found,ran,report,member,same⟩
    · rintro ⟨rule,listed,found,ran,report,member,same⟩
      obtain ⟨part,whole⟩ := mapRaising_returns.mp ⟨parts,each⟩ rule listed
      obtain ⟨again,evaluated,signalled⟩ := bind_ok.mp whole
      rw [ran] at evaluated
      cases evaluated
      exact ⟨part,⟨rule,listed,found,ran,signalled⟩,(mapRaising_mem signalled signal).mpr ⟨report,member,same⟩⟩

omit [Searcher] in
theorem evaluateRules_returns {context : DetectionContext} {rules : List DetectionRule}
    (weights : ∀ rule ∈ rules, 0 ≤ rule.weight ∧ rule.weight ≤ 10) :
    (∃ signals, evaluateRules context rules = .ok signals) ↔ ∀ rule ∈ rules, ∃ found, rule.evaluate context = .ok found := by
  have loop : (∃ signals, evaluateRules context rules = .ok signals) ↔ ∃ parts, mapRaising (·.signals context) rules = .ok parts := by
    constructor
    · rintro ⟨signals,ran⟩
      obtain ⟨parts,each,_⟩ := bind_ok.mp ran
      exact ⟨parts,each⟩
    · rintro ⟨parts,each⟩
      exact ⟨_,bind_ok.mpr ⟨parts,each,rfl⟩⟩
  rw [loop,mapRaising_returns]
  refine forall₂_congr fun rule listed => ⟨?_,?_⟩
  · rintro ⟨part,ran⟩
    obtain ⟨found,evaluated,_⟩ := bind_ok.mp ran
    exact ⟨found,evaluated⟩
  · rintro ⟨found,evaluated⟩
    obtain ⟨part,signalled⟩ := mapRaising_returns.mpr fun report (_ : report ∈ found) => ⟨_,show rule.signal report = .ok _ from
      dif_pos (weights rule listed)⟩
    exact ⟨part,bind_ok.mpr ⟨found,evaluated,signalled⟩⟩

omit [Searcher] in
theorem signal_of {rule : DetectionRule} {report : RuleMatch} {signal : DetectionSignal} (made : rule.signal report = .ok signal) :
    signal.ruleId = rule.ruleId ∧ signal.name = rule.name ∧ signal.description = rule.description ∧ signal.weight = rule.weight ∧
      signal.techniqueIds = rule.techniqueIds ∧ signal.eventIds = report.eventIds ∧ signal.detail = report.detail := by
  unfold DetectionRule.signal at made
  split_ifs at made with bounded
  cases made
  exact ⟨rfl,rfl,rfl,rfl,rfl,rfl,rfl⟩

theorem catalogue_returns (context : DetectionContext) :
    (∃ signals, evaluateRules context defaultRules = .ok signals) ↔ Ordered context := by
  rw [evaluateRules_returns catalogue_weights]
  constructor
  · intro each
    have attempted : ∃ found, detectBreakthrough context = .ok found :=
      each { ruleId := lit "authentication_breakthrough", name := lit "Successful authentication after repeated failures"
             description := _, weight := _, techniqueIds := _, evaluate := detectBreakthrough }
        (List.mem_cons_of_mem _ List.mem_cons_self)
    have contacted : ∃ found, detectBeaconing context = .ok found := by
      obtain ⟨rule,listed,same⟩ : ∃ rule ∈ defaultRules, rule.evaluate = detectBeaconing :=
        ⟨defaultRules.getLast (List.cons_ne_nil _ _),List.getLast_mem _,rfl⟩
      exact same ▸ each rule listed
    exact ⟨(detectBreakthrough_returns context).mp attempted,(detectBeaconing_returns context).mp contacted⟩
  · intro ordered rule listed
    obtain same | same | same | ⟨picks,same⟩ := catalogue_detects rule listed
    · exact same ▸ detectBruteForce_returns.mpr ordered.failures
    · exact same ▸ (detectBreakthrough_returns context).mpr ordered.1
    · exact same ▸ (detectBeaconing_returns context).mpr ordered.2
    · exact ⟨_,by rw [same]; rfl⟩

theorem ids_nodup : (defaultRules.map (·.ruleId)).Nodup := by
  show List.Nodup [lit "brute_force_authentication",lit "authentication_breakthrough",lit "privilege_change_observed",
    lit "account_created",lit "account_elevated",lit "script_interpreter_execution",
    lit "encoded_command_execution",lit "proxy_binary_execution",lit "ingress_tool_transfer",
    lit "service_installed",lit "scheduled_task_created",lit "audit_log_cleared",
    lit "security_tooling_disabled",lit "remote_service_activity",lit "external_beaconing"]
  decide

/-- The catalogue runs when the times of each principal's attempts and of each destination's
    contacts can be ordered. Every signal, the weightiest first, is a match of one of its
    rules and names events of the evidence, every match is signalled, and a rule that picks
    events one by one signals exactly when it picks one. -/
theorem catalogue_grounded (context : DetectionContext) :
    ((∃ signals, evaluateRules context defaultRules = .ok signals) ↔ Ordered context) ∧
    ∀ signals, evaluateRules context defaultRules = .ok signals →
      (signals.Pairwise fun first second => second.weight ≤ first.weight) ∧
      (∀ signal ∈ signals, ∃ rule ∈ defaultRules, ∃ found, rule.evaluate context = .ok found ∧
        ∃ report ∈ found, rule.signal report = .ok signal ∧ Evidenced context report) ∧
      (∀ rule ∈ defaultRules, ∀ found, rule.evaluate context = .ok found → ∀ report ∈ found,
        ∃ signal ∈ signals, rule.signal report = .ok signal) ∧
      ∀ rule ∈ defaultRules, ∀ picks, rule.evaluate = pickRule picks →
        ((∃ signal ∈ signals, signal.ruleId = rule.ruleId) ↔ ∃ event ∈ context.events, picks event = true) := by
  refine ⟨catalogue_returns context,fun signals ran => ?_⟩
  obtain ⟨sorted,member⟩ := evaluateRules_ok ran
  have signalled : ∀ rule ∈ defaultRules, ∀ found, rule.evaluate context = .ok found → ∀ report ∈ found,
      ∃ signal ∈ signals, rule.signal report = .ok signal := by
    intro rule listed found evaluated report reported
    have made : ∃ signal, rule.signal report = .ok signal := ⟨_,dif_pos (catalogue_weights rule listed)⟩
    obtain ⟨signal,made⟩ := made
    exact ⟨signal,(member signal).mpr ⟨rule,listed,found,evaluated,report,reported,made⟩,made⟩
  refine ⟨sorted,fun signal inside => ?_,signalled,fun rule listed picks same => ⟨?_,fun picked => ?_⟩⟩
  · obtain ⟨rule,listed,found,evaluated,report,reported,made⟩ := (member signal).mp inside
    exact ⟨rule,listed,found,evaluated,report,reported,made,(catalogue_detects rule listed).evidenced evaluated report reported⟩
  · rintro ⟨signal,inside,id⟩
    obtain ⟨other,known,found,evaluated,report,reported,made⟩ := (member signal).mp inside
    -- the ids of the catalogue tell its rules apart
    cases List.inj_on_of_nodup_map ids_nodup known listed ((signal_of made).1.symm.trans id)
    rw [same] at evaluated
    exact (pickRule_ok evaluated).2.mp (List.ne_nil_of_mem reported)
  · have evaluated : rule.evaluate context = .ok (singleMatch (context.events.filter picks)) := by rw [same]; rfl
    obtain ⟨report,reported⟩ := List.exists_mem_of_ne_nil _ ((pickRule_ok (same ▸ evaluated)).2.mpr picked)
    obtain ⟨signal,inside,made⟩ := signalled rule listed _ evaluated report reported
    exact ⟨signal,inside,(signal_of made).1⟩

end
end SocAnalyst.DetectionRules
