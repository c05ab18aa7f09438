import Mathlib.Data.List.Lex
import Mathlib.Data.Prod.Lex
import SocAnalyst.Dicts
import SocAnalyst.IpAddresses
import SocAnalyst.Logs

/-!
# Indicators of compromise

`tools/iocs.py`: which entities of the events are indicators, and which of them are
internal to the estate.
-/
namespace SocAnalyst.Iocs
open SocAnalyst.Builtins SocAnalyst.Times SocAnalyst.Dicts SocAnalyst.Logs SocAnalyst.IpAddresses

/-- Kinds of indicator the detector extracts from evidence. -/
inductive IocType where
  | IP_ADDRESS
  | DOMAIN
  | URL
  | FILE_HASH
  | FILE_PATH
  | PROCESS
  deriving DecidableEq, Repr

def IocType.value : IocType → Text
  | .IP_ADDRESS => lit "ip"
  | .DOMAIN => lit "domain"
  | .URL => lit "url"
  | .FILE_HASH => lit "file_hash"
  | .FILE_PATH => lit "file_path"
  | .PROCESS => lit "process"

/-- What an intel source says about an indicator. -/
inductive IocReputation where
  | MALICIOUS
  | SUSPICIOUS
  | HARMLESS
  | UNKNOWN
  deriving DecidableEq, Repr

/-- An indicator of compromise observed in the evidence. -/
structure IocIndicator where
  type : IocType
  value : Text
  defanged : Text
  eventIds : List Text := []
  firstSeen : Option DateTime := none
  lastSeen : Option DateTime := none
  observationCount : Nat := 0
  internal : Bool := false
  reputation : IocReputation := .UNKNOWN
  reputationSource : Option Text := none
  reputationDetail : Option Text := none
  enriched : Bool := false

/-- Entity kinds that become indicators. -/
def entityToIoc : EntityType → Option IocType
  | .IP_ADDRESS => some .IP_ADDRESS
  | .DOMAIN => some .DOMAIN
  | .URL => some .URL
  | .FILE_HASH => some .FILE_HASH
  | .FILE_PATH => some .FILE_PATH
  | .PROCESS => some .PROCESS
  | .HOST | .USER => none

/-- Indicator kinds that may be sent to a third-party reputation service. -/
def enrichableTypes : List IocType := [.IP_ADDRESS,.DOMAIN,.URL,.FILE_HASH]

def internalSuffixes : List Text := [lit ".local",lit ".internal",lit ".lan",lit ".corp",lit ".home.arpa"]

def privateNetworks : List IpNetwork :=
  [lit "10.0.0.0/8",lit "172.16.0.0/12",lit "192.168.0.0/16",lit "100.64.0.0/10",lit "fc00::/7"].filterMap ipNetwork

/-- Render an indicator inert for display. -/
def defang (value : Text) : Text :=
  replaceAll (lit "@") (lit "[at]") (replaceAll (lit ".") (lit "[.]") (replaceAll (lit "ftp://") (lit "fxp://")
    (replaceAll (lit "https://") (lit "hxxps://") (replaceAll (lit "http://") (lit "hxxp://") value))))

section
variable [Interpreter]

/-- Whether an address or hostname belongs to the estate. -/
def isInternalAddress (value : Text) (internalNetworks : List Text) : Bool :=
  if internalSuffixes.any (·.isSuffixOf (lower value)) then true
  else match ipAddress value with
    | none => false
    | some address =>
      isLoopback address || isLinkLocal address ||
        (privateNetworks ++ internalNetworks.filterMap ipNetwork).any (·.contains address)

/-- Only addresses and hostnames have an inside and an outside; artifacts do not. -/
def isInternal (type : IocType) (value : Text) (internalNetworks : List Text) : Bool :=
  if type ≠ .IP_ADDRESS ∧ type ≠ .DOMAIN then false else isInternalAddress value internalNetworks

end

def appendUnique (values : List Text) (value : Text) : List Text := if value ∈ values then values else values ++ [value]

def earliest (current candidate : Option DateTime) : Except PyError (Option DateTime) :=
  match current, candidate with
  | some first, some second => (first.min second).map some
  | _, _ => .ok (current.or candidate)

def latest (current candidate : Option DateTime) : Except PyError (Option DateTime) :=
  match current, candidate with
  | some first, some second => (first.max second).map some
  | _, _ => .ok (current.or candidate)

section
variable [Interpreter] (internalNetworks : List Text)

/-- An indicator at its first sighting. -/
def sighted (event : NormalizedEvent) (type : IocType) (value : Text) : IocIndicator where
  type := type
  value := value
  defanged := defang value
  eventIds := [event.eventId]
  firstSeen := some event.eventTime
  lastSeen := some event.eventTime
  observationCount := 1
  internal := isInternal type value internalNetworks

omit [Interpreter] in
/-- An indicator after one more sighting. -/
def sightedAgain (event : NormalizedEvent) (existing : IocIndicator) : Except PyError IocIndicator := do
  let first ← earliest existing.firstSeen (some event.eventTime)
  let last ← latest existing.lastSeen (some event.eventTime)
  return { existing with
    eventIds := appendUnique existing.eventIds event.eventId
    firstSeen := first
    lastSeen := last
    observationCount := existing.observationCount + 1 }

/-- What the loop does with one entity of an event. -/
def collect (collected : Dict (IocType × Text) IocIndicator) (event : NormalizedEvent) (entity : Entity) :
    Except PyError (Dict (IocType × Text) IocIndicator) :=
  match entityToIoc entity.type with
  | none => .ok collected
  | some type =>
    match collected.get? (type,lower entity.value) with
    | none => .ok (collected.set (type,lower entity.value) (sighted internalNetworks event type entity.value))
    | some existing => (sightedAgain event existing).map (collected.set (type,lower entity.value))

/-- The loop over the entities of the events in order. -/
def collectFrom (collected : Dict (IocType × Text) IocIndicator) : List (NormalizedEvent × Entity) →
    Except PyError (Dict (IocType × Text) IocIndicator)
  | [] => .ok collected
  | (event,entity) :: rest =>
    match collect internalNetworks collected event entity with
    | .error e => .error e
    | .ok next => collectFrom next rest

omit [Interpreter] in
/-- The entities of the events, each with its event. -/
def entitiesOf (events : List NormalizedEvent) : List (NormalizedEvent × Entity) :=
  events.flatMap fun event => event.entities.map fun entity => (event,entity)

/-- Collect the indicators observed across a set of normalized events. -/
def extractIocs (events : List NormalizedEvent) : Except PyError (List IocIndicator) :=
  (collectFrom internalNetworks .empty (entitiesOf events)).map fun collected =>
    sortedBy (fun ioc => (toLex (-(ioc.observationCount : Int),toLex (ioc.type.value,lower ioc.value)) : Int ×ₗ Text ×ₗ Text))
      collected.values

omit [Interpreter] internalNetworks in
/-- Whether an indicator may be looked up by a third party. -/
def eligible (ioc : IocIndicator) : Bool := enrichableTypes.contains ioc.type && !ioc.internal

omit [Interpreter] internalNetworks in
/-- The indicators eligible for third-party reputation lookup. -/
def enrichable (iocs : List IocIndicator) : List IocIndicator := iocs.filter eligible

end

/-! ### Which sighting an indicator stands for -/

section
variable [Interpreter] {internalNetworks : List Text}

/-- The key an entity is collected under. -/
def keyOf (sighting : NormalizedEvent × Entity) : Option (IocType × Text) :=
  (entityToIoc sighting.2.type).map fun type => (type,lower sighting.2.value)

/-- The value of the first entity collected under a key. -/
def firstWith (key : IocType × Text) (sightings : List (NormalizedEvent × Entity)) : Option Text :=
  (sightings.find? fun sighting => keyOf sighting = some key).map fun sighting => sighting.2.value

theorem firstWith_append (key : IocType × Text) (before after : List (NormalizedEvent × Entity)) :
    firstWith key (before ++ after) = (firstWith key before).or (firstWith key after) := by
  simp only [firstWith,List.find?_append]
  cases before.find? fun sighting => keyOf sighting = some key <;> rfl

theorem firstWith_single (key : IocType × Text) (sighting : NormalizedEvent × Entity) :
    firstWith key [sighting] = if keyOf sighting = some key then some sighting.2.value else none := by
  by_cases same : keyOf sighting = some key <;> simp [firstWith,same]

/-- Values under one key agree up to letter case. -/
theorem firstWith_lower {key : IocType × Text} {sightings : List (NormalizedEvent × Entity)} {value : Text}
    (first : firstWith key sightings = some value) : key.2 = lower value := by
  obtain ⟨sighting,found,same⟩ := Option.map_eq_some_iff.mp first
  have keyed := List.find?_some found
  obtain ⟨type,_,equal⟩ := Option.map_eq_some_iff.mp (of_decide_eq_true keyed)
  rw [← equal,← same]

/-- The part of an indicator that no later sighting and no enrichment changes. -/
def IocIndicator.core (ioc : IocIndicator) : IocType × Text × Bool := (ioc.type,ioc.value,ioc.internal)

/-- The indicators collected so far are the first sightings so far. -/
def Collected (internalNetworks : List Text) (seen : List (NormalizedEvent × Entity))
    (collected : Dict (IocType × Text) IocIndicator) : Prop :=
  ∀ key, (collected.get? key).map (·.core) =
    (firstWith key seen).map fun value => (key.1,value,isInternal key.1 value internalNetworks)

theorem collected_empty : Collected internalNetworks [] .empty := fun _ => rfl

omit [Interpreter] in
theorem sightedAgain_core {event : NormalizedEvent} {existing next : IocIndicator}
    (again : sightedAgain event existing = .ok next) : next.core = existing.core := by
  obtain ⟨first,_,again⟩ := bind_ok.mp again
  obtain ⟨last,_,again⟩ := bind_ok.mp again
  cases again
  rfl

theorem Collected.step {seen : List (NormalizedEvent × Entity)} {collected next : Dict (IocType × Text) IocIndicator}
    {event : NormalizedEvent} {entity : Entity} (so_far : Collected internalNetworks seen collected)
    (step : collect internalNetworks collected event entity = .ok next) :
    Collected internalNetworks (seen ++ [(event,entity)]) next := by
  intro key
  have before := so_far key
  rw [firstWith_append,firstWith_single]
  cases kind : entityToIoc entity.type with
  | none =>
    have unkeyed : keyOf (event,entity) ≠ some key := by simp [keyOf,kind]
    simp only [collect,kind,Except.ok.injEq] at step
    rw [← step,before,if_neg unkeyed,Option.or_none]
  | some type =>
    have keyed : keyOf (event,entity) = some (type,lower entity.value) := by simp [keyOf,kind]
    have here := so_far (type,lower entity.value)
    rw [keyed]
    cases known : collected.get? (type,lower entity.value) with
    | none =>
      simp only [collect,kind,known,Except.ok.injEq] at step
      rw [known] at here
      have fresh : firstWith (type,lower entity.value) seen = none := by simpa using here.symm
      rw [← step,Dict.get?_set]
      by_cases same : key = (type,lower entity.value)
      · subst same
        simp [fresh,sighted,IocIndicator.core]
      · have other : ¬ some (type,lower entity.value) = some key := fun equal => same (Option.some.inj equal).symm
        rw [if_neg same,if_neg other,before,Option.or_none]
    | some existing =>
      simp only [collect,kind,known] at step
      obtain ⟨again,updated,stored⟩ := map_ok.mp step
      rw [← stored,Dict.get?_set]
      by_cases same : key = (type,lower entity.value)
      · subst same
        rw [known] at before
        obtain ⟨value,first,_⟩ := Option.map_eq_some_iff.mp before.symm
        rw [first] at before ⊢
        simpa [sightedAgain_core updated] using before
      · have other : ¬ some (type,lower entity.value) = some key := fun equal => same (Option.some.inj equal).symm
        rw [if_neg same,if_neg other,before,Option.or_none]

theorem Collected.run {rest seen : List (NormalizedEvent × Entity)} {collected final : Dict (IocType × Text) IocIndicator}
    (so_far : Collected internalNetworks seen collected) (run : collectFrom internalNetworks collected rest = .ok final) :
    Collected internalNetworks (seen ++ rest) final := by
  induction rest generalizing seen collected with
  | nil =>
    cases run
    simpa using so_far
  | cons sighting rest ih =>
    obtain ⟨event,entity⟩ := sighting
    rw [collectFrom] at run
    cases step : collect internalNetworks collected event entity with
    | error e => rw [step] at run; cases run
    | ok next =>
      rw [step] at run
      simpa using ih (so_far.step step) run

/-- The indicators are the first sightings, each with its verdict on the estate. -/
theorem mem_extractIocs {events : List NormalizedEvent} {iocs : List IocIndicator}
    (extracted : extractIocs internalNetworks events = .ok iocs) (type : IocType) (value : Text) (internal : Bool) :
    (∃ ioc ∈ iocs, ioc.core = (type,value,internal)) ↔
      firstWith (type,lower value) (entitiesOf events) = some value ∧ internal = isInternal type value internalNetworks := by
  obtain ⟨final,run,sorted⟩ := map_ok.mp extracted
  have all : Collected internalNetworks (entitiesOf events) final := by simpa using collected_empty.run run
  subst sorted
  simp only [mem_sortedBy,Dict.mem_values]
  constructor
  · rintro ⟨ioc,⟨key,stored⟩,core⟩
    have first := all key
    rw [stored,Option.map_some,core] at first
    obtain ⟨sighted,found,same⟩ := Option.map_eq_some_iff.mp first.symm
    simp only [Prod.mk.injEq] at same
    obtain ⟨rfl,rfl,rfl⟩ := same
    have folded := firstWith_lower found
    exact ⟨by rw [← folded]; exact found,rfl⟩
  · rintro ⟨first,rfl⟩
    have stored := all (type,lower value)
    rw [first,Option.map_some] at stored
    obtain ⟨ioc,kept,core⟩ := Option.map_eq_some_iff.mp stored
    exact ⟨ioc,⟨_,kept⟩,core⟩

omit [Interpreter] in
theorem sightedAgain_defanged {event : NormalizedEvent} {existing next : IocIndicator} (again : sightedAgain event existing = .ok next) :
    next.defanged = existing.defanged ∧ next.value = existing.value := by
  obtain ⟨first,_,again⟩ := bind_ok.mp again
  obtain ⟨last,_,again⟩ := bind_ok.mp again
  cases again
  exact ⟨rfl,rfl⟩

/-- Every indicator carries its value defanged. -/
def Defanged (collected : Dict (IocType × Text) IocIndicator) : Prop :=
  ∀ key ioc, collected.get? key = some ioc → ioc.defanged = defang ioc.value

omit [Interpreter] in
theorem Defanged.set {collected : Dict (IocType × Text) IocIndicator} (defanged : Defanged collected) (key : IocType × Text)
    {ioc : IocIndicator} (own : ioc.defanged = defang ioc.value) : Defanged (collected.set key ioc) := by
  intro other stored found
  rw [Dict.get?_set] at found
  split_ifs at found
  · cases found
    exact own
  · exact defanged other stored found

theorem Defanged.step {collected next : Dict (IocType × Text) IocIndicator} {event : NormalizedEvent} {entity : Entity}
    (defanged : Defanged collected) (step : collect internalNetworks collected event entity = .ok next) : Defanged next := by
  unfold collect at step
  split at step
  · cases step
    exact defanged
  · split at step
    · cases step
      exact defanged.set _ rfl
    · rename_i existing known
      obtain ⟨again,updated,rfl⟩ := map_ok.mp step
      obtain ⟨same,value⟩ := sightedAgain_defanged updated
      exact defanged.set _ (by rw [same,value,defanged _ existing known])

theorem Defanged.run {rest : List (NormalizedEvent × Entity)} {collected final : Dict (IocType × Text) IocIndicator}
    (defanged : Defanged collected) (run : collectFrom internalNetworks collected rest = .ok final) : Defanged final := by
  induction rest generalizing collected with
  | nil =>
    cases run
    exact defanged
  | cons sighting rest ih =>
    obtain ⟨event,entity⟩ := sighting
    rw [collectFrom] at run
    cases step : collect internalNetworks collected event entity with
    | error e => rw [step] at run; cases run
    | ok next =>
      rw [step] at run
      exact ih (defanged.step step) run

theorem defanged_of_mem {events : List NormalizedEvent} {iocs : List IocIndicator} (extracted : extractIocs internalNetworks events = .ok iocs)
    {ioc : IocIndicator} (member : ioc ∈ iocs) : ioc.defanged = defang ioc.value := by
  obtain ⟨final,run,rfl⟩ := map_ok.mp extracted
  obtain ⟨key,stored⟩ := (Dict.mem_values _ _).mp ((mem_sortedBy ..).mp member)
  have empty : Defanged .empty := fun key ioc none => by cases none
  exact empty.run run key ioc stored

end
end SocAnalyst.Iocs
