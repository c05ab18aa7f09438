import SocAnalyst.Iocs

/-!
# Threat-intelligence enrichment

`enrich_indicators` of `integrations/threat_intel.py`: which indicators a reputation
provider is asked about, and what its answers change.
-/
namespace SocAnalyst.Enrichment
open SocAnalyst.Builtins SocAnalyst.Times SocAnalyst.Dicts SocAnalyst.Logs SocAnalyst.IpAddresses SocAnalyst.Iocs

/-- Whether external enrichment was available. -/
inductive EnrichmentStatus where
  | COMPLETE
  | DEGRADED
  | UNAVAILABLE
  deriving DecidableEq, Repr

/-- What an intel source said about one indicator. -/
structure ReputationVerdict where
  value : Text
  reputation : IocReputation
  source : Text
  detail : Text := []
  stale : Bool := false

/-- A lookup that did not happen, and why. -/
structure ReputationFailure where
  value : Text
  reason : Text
  detail : Text := []

structure ReputationResult where
  verdict : Option ReputationVerdict := none
  failure : Option ReputationFailure := none

/-- `ok`, with the verdict it vouches for. -/
def ReputationResult.ok (result : ReputationResult) : Option ReputationVerdict :=
  if result.failure.isNone then result.verdict else none

def ReputationResult.fail (value reason : Text) (detail : Text := []) : ReputationResult where
  failure := some ⟨value,reason,detail⟩

/-- A provider. Its answer may depend on everything it was asked before, hence on
    the number of the lookup; a lookup may raise. -/
structure ReputationProvider where
  name : Text
  isAvailable : Bool
  lookup : Nat → IocIndicator → Except PyError ReputationResult

/-- The state of the loop over the budgeted indicators. -/
structure Enriching where
  enriched : List IocIndicator
  succeeded : Nat := 0
  notes : List Text := []
  /-- The indicators handed to the provider, in order. -/
  asked : List IocIndicator := []
  raised : Option PyError := none

/-- An indicator with a verdict attached. -/
def attach (ioc : IocIndicator) (verdict : ReputationVerdict) : IocIndicator :=
  { ioc with
    reputation := verdict.reputation
    reputationSource := some verdict.source
    reputationDetail := some verdict.detail
    enriched := true }

/-- The answer to one lookup is noted or attached. -/
def Enriching.answered (s : Enriching) (index : Nat) (ioc : IocIndicator) (result : ReputationResult) : Enriching :=
  match result.ok with
  | none =>
    { s with
      asked := s.asked ++ [ioc]
      notes := s.notes ++ [lit "lookup failed for " ++ ioc.defanged ++ lit ": " ++
        (result.failure.map (·.reason)).getD (lit "unknown")] }
  | some verdict =>
    { s with
      asked := s.asked ++ [ioc]
      enriched := s.enriched.set index (attach ioc verdict)
      succeeded := s.succeeded + 1
      notes := s.notes ++ if verdict.stale then [ioc.defanged ++ lit " served from stale cache"] else [] }

/-- The loop over the budgeted indices. -/
def enrichFrom (provider : ReputationProvider) (s : Enriching) : List Nat → Enriching
  | [] => s
  | index :: rest =>
    match s.enriched[index]? with
    | none => s
    | some ioc =>
      match provider.lookup s.asked.length ioc with
      | .error e => { s with asked := s.asked ++ [ioc], raised := some e }
      | .ok result => enrichFrom provider (s.answered index ioc result) rest

def eligibleIndices (iocs : List IocIndicator) : List Nat :=
  iocs.zipIdx.filterMap fun entry => if eligible entry.1 then some entry.2 else none

def overBudget (deferred : List Nat) (limit : Int) : List Text :=
  if deferred = [] then []
  else [lit (toString deferred.length) ++ lit " indicator(s) exceeded the enrichment budget of " ++
    lit (toString limit) ++ lit " and were not looked up"]

/-- The loop's state before its first lookup. -/
def begun (iocs : List IocIndicator) (limit : Int) : Enriching where
  enriched := iocs
  notes := overBudget (onwards (eligibleIndices iocs) limit) limit

/-- What a call asked, and what it returned. -/
structure EnrichmentRun where
  asked : List IocIndicator
  outcome : Except PyError (List IocIndicator × EnrichmentStatus × List Text)

def statusOf (s : Enriching) (budgeted deferred : List Nat) : EnrichmentStatus :=
  if s.succeeded = 0 then .UNAVAILABLE
  else if s.succeeded < budgeted.length ∨ deferred ≠ [] ∨ s.notes.any (occursIn (lit "stale")) then .DEGRADED
  else .COMPLETE

/-- Attach reputations to the eligible indicators. -/
def enrichIndicators [Interpreter] (iocs : List IocIndicator) (provider : ReputationProvider) (limit : Int := 25) : EnrichmentRun :=
  if ¬ provider.isAvailable then
    ⟨[],.ok (iocs,.UNAVAILABLE,[lit "threat-intelligence provider " ++ Interpreter.repr provider.name ++ lit " is unavailable"])⟩
  else
    let indices := eligibleIndices iocs
    if indices = [] then ⟨[],.ok (iocs,.COMPLETE,[])⟩
    else
      let budgeted := upTo indices limit
      let deferred := onwards indices limit
      let s := enrichFrom provider (begun iocs limit) budgeted
      match s.raised with
      | some e => ⟨s.asked,.error e⟩
      | none => ⟨s.asked,.ok (s.enriched,statusOf s budgeted deferred,s.notes)⟩

/-! ### What the provider is asked about -/

theorem mem_eligibleIndices {iocs : List IocIndicator} {index : Nat} :
    index ∈ eligibleIndices iocs ↔ ∃ ioc, iocs[index]? = some ioc ∧ eligible ioc = true := by
  simp only [eligibleIndices,List.mem_filterMap,Prod.exists,List.mem_zipIdx_iff_getElem?]
  constructor
  · rintro ⟨ioc,place,stored,chosen⟩
    split_ifs at chosen with allowed
    cases chosen
    exact ⟨ioc,stored,allowed⟩
  · rintro ⟨ioc,stored,allowed⟩
    exact ⟨ioc,index,stored,by simp [allowed]⟩

theorem eligible_core {ioc other : IocIndicator} (same : ioc.core = other.core) : eligible ioc = eligible other := by
  simp only [IocIndicator.core,Prod.mk.injEq] at same
  simp [eligible,same]

theorem Enriching.answered_asked (s : Enriching) (index : Nat) (ioc : IocIndicator) (result : ReputationResult) :
    (s.answered index ioc result).asked = s.asked ++ [ioc] := by
  unfold Enriching.answered
  split <;> rfl

theorem Enriching.answered_raised (s : Enriching) (index : Nat) (ioc : IocIndicator) (result : ReputationResult) :
    (s.answered index ioc result).raised = s.raised := by
  unfold Enriching.answered
  split <;> rfl

/-- No answer moves an indicator or changes what it is. -/
theorem Enriching.answered_core {s : Enriching} {index : Nat} {ioc : IocIndicator} (stored : s.enriched[index]? = some ioc)
    (result : ReputationResult) : (s.answered index ioc result).enriched.map (·.core) = s.enriched.map (·.core) := by
  unfold Enriching.answered
  cases result.ok with
  | none => rfl
  | some verdict =>
    refine List.ext_getElem? fun place => ?_
    simp only [List.getElem?_map,List.getElem?_set]
    by_cases here : index = place
    · subst here
      have bound : index < s.enriched.length := (List.getElem?_eq_some_iff.mp stored).1
      have place := List.getElem?_eq_some_iff.mp stored
      obtain ⟨_,here⟩ := place
      simp [bound,here,attach,IocIndicator.core]
    · simp [here]

/-- What the loop asks about are indicators of the batch, at budgeted places; a
    loop that nothing interrupts asks about all of them. -/
theorem enrichFrom_asked {provider : ReputationProvider} {iocs : List IocIndicator} {budgeted : List Nat} {s : Enriching}
    (kept : s.enriched.map (·.core) = iocs.map (·.core)) (calm : s.raised = none)
    (inside : ∀ index ∈ budgeted, ∃ ioc, iocs[index]? = some ioc) :
    (∀ ioc ∈ (enrichFrom provider s budgeted).asked,
      ioc ∈ s.asked ∨ ∃ index ∈ budgeted, (iocs[index]?).map (·.core) = some ioc.core) ∧
    ((enrichFrom provider s budgeted).raised = none →
      (∀ ioc ∈ s.asked, ioc ∈ (enrichFrom provider s budgeted).asked) ∧
      ∀ index ∈ budgeted, ∃ ioc ∈ (enrichFrom provider s budgeted).asked, (iocs[index]?).map (·.core) = some ioc.core) := by
  induction budgeted generalizing s with
  | nil => exact ⟨fun ioc asked => .inl asked,fun _ => ⟨fun _ asked => asked,by simp⟩⟩
  | cons index rest ih =>
    obtain ⟨original,placed⟩ := inside index (by simp)
    have shown : (s.enriched[index]?).map (·.core) = (iocs[index]?).map (·.core) := by
      rw [← List.getElem?_map,kept,List.getElem?_map]
    rw [placed,Option.map_some] at shown
    obtain ⟨ioc,stored,same⟩ := Option.map_eq_some_iff.mp shown
    have here : (iocs[index]?).map (·.core) = some ioc.core := by rw [placed,same]; rfl
    rw [enrichFrom,stored]
    cases answer : provider.lookup s.asked.length ioc with
    | error e =>
      refine ⟨fun other asked => ?_,fun quiet => by simp [answer] at quiet⟩
      simp only [answer,List.mem_append,List.mem_singleton] at asked
      rcases asked with earlier | rfl
      · exact .inl earlier
      · exact .inr ⟨index,by simp,here⟩
    | ok result =>
      obtain ⟨sound,complete⟩ := ih (s := s.answered index ioc result)
        (by rw [Enriching.answered_core stored,kept]) (by rw [Enriching.answered_raised,calm])
        fun place listed => inside place (by simp [listed])
      rw [Enriching.answered_asked] at sound complete
      simp only [answer]
      refine ⟨fun other asked => ?_,fun quiet => ?_⟩
      · rcases sound other asked with earlier | ⟨place,listed,at_place⟩
        · rcases List.mem_append.mp earlier with earlier | now
          · exact .inl earlier
          · rw [List.mem_singleton] at now
            exact .inr ⟨index,by simp,now ▸ here⟩
        · exact .inr ⟨place,by simp [listed],at_place⟩
      · obtain ⟨earlier,later⟩ := complete quiet
        refine ⟨fun other asked => earlier other (by simp [asked]),fun place listed => ?_⟩
        rcases List.mem_cons.mp listed with rfl | listed
        · exact ⟨ioc,earlier ioc (by simp),here⟩
        · exact later place listed

section
variable [Interpreter] {iocs : List IocIndicator} {provider : ReputationProvider} {limit : Int}

theorem enrichIndicators_asked (available : provider.isAvailable = true) :
    (enrichIndicators iocs provider limit).asked =
      (enrichFrom provider (begun iocs limit) (upTo (eligibleIndices iocs) limit)).asked := by
  unfold enrichIndicators
  simp only [available,not_true_eq_false,if_false]
  by_cases idle : eligibleIndices iocs = []
  · simp [idle,upTo,enrichFrom,begun]
  · simp only [idle,if_false]
    split <;> rfl

/-- Only eligible indicators are asked about. -/
theorem asked_eligible {ioc : IocIndicator} (asked : ioc ∈ (enrichIndicators iocs provider limit).asked) :
    ∃ original ∈ iocs, original.core = ioc.core ∧ eligible original = true := by
  by_cases available : provider.isAvailable = true
  · rw [enrichIndicators_asked available] at asked
    have inside : ∀ index ∈ upTo (eligibleIndices iocs) limit, ∃ ioc, iocs[index]? = some ioc := fun index listed =>
      (mem_eligibleIndices.mp (List.mem_of_mem_take listed)).imp fun _ => And.left
    rcases (@enrichFrom_asked provider iocs _ (begun iocs limit) rfl rfl inside).1 ioc asked with never | ⟨index,listed,same⟩
    · simp [begun] at never
    · obtain ⟨original,stored,allowed⟩ := mem_eligibleIndices.mp (List.mem_of_mem_take listed)
      rw [stored,Option.map_some,Option.some.injEq] at same
      exact ⟨original,List.mem_of_getElem? stored,same,allowed⟩
  · simp [enrichIndicators,available] at asked

/-- A provider that answers every lookup with a failure. -/
def refusing : ReputationProvider where
  name := lit "refusing"
  isAvailable := true
  lookup _ ioc := .ok (.fail ioc.value (lit "not_found"))

omit [Interpreter] in
theorem refusing_calm (s : Enriching) (calm : s.raised = none) (budgeted : List Nat) :
    (enrichFrom refusing s budgeted).raised = none := by
  induction budgeted generalizing s with
  | nil => exact calm
  | cons index rest ih =>
    rw [enrichFrom]
    cases s.enriched[index]? with
    | none => exact calm
    | some ioc => exact ih _ (by rw [Enriching.answered_raised,calm])

/-- A budget for all of them asks about every eligible indicator. -/
theorem eligible_asked {original : IocIndicator} (listed : original ∈ iocs) (allowed : eligible original = true) :
    ∃ ioc ∈ (enrichIndicators iocs refusing (eligibleIndices iocs).length).asked, ioc.core = original.core := by
  obtain ⟨index,stored⟩ := List.getElem?_of_mem listed
  have all : upTo (eligibleIndices iocs) (eligibleIndices iocs).length = eligibleIndices iocs := by
    simp only [upTo]
    rw [if_neg (by omega),Int.toNat_natCast,List.take_length]
  rw [enrichIndicators_asked rfl,all]
  have inside : ∀ index ∈ eligibleIndices iocs, ∃ ioc, iocs[index]? = some ioc := fun index chosen =>
    (mem_eligibleIndices.mp chosen).imp fun _ => And.left
  obtain ⟨_,complete⟩ := (@enrichFrom_asked refusing iocs _ (begun iocs (eligibleIndices iocs).length) rfl rfl inside).2
    (refusing_calm _ rfl _)
  obtain ⟨ioc,asked,same⟩ := complete index (mem_eligibleIndices.mpr ⟨original,stored,allowed⟩)
  rw [stored,Option.map_some,Option.some.injEq] at same
  exact ⟨ioc,asked,same.symm⟩

end

/-! ### What a lookup discloses -/

def isSchemeChar (c : Nat) : Bool :=
  (65 ≤ c && c ≤ 90) || (97 ≤ c && c ≤ 122) || (48 ≤ c && c ≤ 57) || c == 43 || c == 45 || c == 46

/-- The authority of `scheme://authority/...`. -/
def urlAuthority (url : Text) : Option Text :=
  let scheme := url.takeWhile isSchemeChar
  let rest := url.drop scheme.length
  if scheme ≠ [] ∧ (lit "://").isPrefixOf rest then some ((rest.drop 3).takeWhile fun c => !(lit "/?#").contains c) else none

/-- The host of a URL: its authority without user information and port, an address
    in brackets without them. -/
def urlHost (url : Text) : Option Text :=
  (urlAuthority url).map fun authority =>
    match authority.rtakeWhile (· ≠ 64) with
    | 91 :: bracketed => bracketed.takeWhile (· ≠ 93)
    | host => host.takeWhile (· ≠ 58)

section
variable [Interpreter]

/-- Sending `value` names a host of the estate. -/
def Discloses (internalNetworks : List Text) (type : IocType) (value : Text) : Prop :=
  isInternalAddress value internalNetworks = true ∨
    (type = .URL ∧ ∃ host, urlHost value = some host ∧ isInternalAddress host internalNetworks = true)

instance (internalNetworks : List Text) (type : IocType) (value : Text) : Decidable (Discloses internalNetworks type value) :=
  decidable_of_iff (isInternalAddress value internalNetworks = true ∨
      (type = .URL ∧ (urlHost value).any fun host => isInternalAddress host internalNetworks))
    (by simp [Discloses,Option.any_eq_true])

/-- The entities whose value is sent without a look at where it points: the first
    spelling of each URL and each file hash. -/
def Unscreened (events : List NormalizedEvent) (type : IocType) (value : Text) : Prop :=
  (type = .URL ∨ type = .FILE_HASH) ∧ firstWith (type,lower value) (entitiesOf events) = some value

/-- An address or hostname is eligible exactly when it discloses nothing. -/
theorem screened {internalNetworks : List Text} {type : IocType} {value : Text} (kind : type = .IP_ADDRESS ∨ type = .DOMAIN) :
    isInternal type value internalNetworks = false ↔ ¬ Discloses internalNetworks type value := by
  have host : ¬ (type ≠ .IP_ADDRESS ∧ type ≠ .DOMAIN) := by rcases kind with rfl | rfl <;> simp
  have other : type ≠ .URL := by rcases kind with rfl | rfl <;> simp
  simp [isInternal,host,Discloses,other]

theorem unscreened_external {internalNetworks : List Text} {type : IocType} {value : Text} (kind : type = .URL ∨ type = .FILE_HASH) :
    isInternal type value internalNetworks = false := by
  rcases kind with rfl | rfl <;> simp [isInternal]

/-- What is sent unscreened is an entity of the evidence. -/
theorem unscreened_stored {events : List NormalizedEvent} {type : IocType} {value : Text} (kept : Unscreened events type value) :
    ∃ sighting ∈ entitiesOf events, entityToIoc sighting.2.type = some type ∧ sighting.2.value = value := by
  obtain ⟨sighting,found,same⟩ := Option.map_eq_some_iff.mp kept.2
  have keyed := List.find?_some found
  obtain ⟨kind,collected,equal⟩ := Option.map_eq_some_iff.mp (of_decide_eq_true keyed)
  exact ⟨sighting,List.mem_of_find?_eq_some found,by rw [collected,(Prod.mk.inj equal).1],same⟩

/-- The lookups of every enrichment keep the estate to itself exactly when no URL
    and no file hash of the evidence names one of its hosts. -/
theorem nothing_disclosed_iff_unscreened_external (events : List NormalizedEvent) (internalNetworks : List Text) (iocs : List IocIndicator)
    (extracted : extractIocs internalNetworks events = .ok iocs) :
    (∀ provider limit, ∀ ioc ∈ (enrichIndicators iocs provider limit).asked, ¬ Discloses internalNetworks ioc.type ioc.value) ↔
      ∀ type value, Unscreened events type value → ¬ Discloses internalNetworks type value := by
  constructor
  · rintro kept type value ⟨kind,first⟩
    obtain ⟨original,listed,core⟩ := (mem_extractIocs extracted type value false).mpr ⟨first,(unscreened_external kind).symm⟩
    have allowed : eligible original = true := by
      simp only [IocIndicator.core,Prod.mk.injEq] at core
      rcases kind with rfl | rfl <;> simp [eligible,core,enrichableTypes]
    obtain ⟨ioc,asked,same⟩ := eligible_asked listed allowed
    have sent := kept refusing (eligibleIndices iocs).length ioc asked
    rw [core] at same
    simp only [IocIndicator.core,Prod.mk.injEq] at same
    rwa [same.1,same.2.1] at sent
  · intro external provider limit ioc asked
    obtain ⟨original,listed,core,allowed⟩ := asked_eligible asked
    obtain ⟨first,decided⟩ := (mem_extractIocs extracted ioc.type ioc.value ioc.internal).mp ⟨original,listed,core⟩
    rw [eligible_core core] at allowed
    simp only [eligible,Bool.and_eq_true,Bool.not_eq_true'] at allowed
    obtain ⟨kind,outside⟩ := allowed
    cases shape : ioc.type with
    | IP_ADDRESS => exact (screened (.inl rfl)).mp (by rw [← shape,← decided,outside])
    | DOMAIN => exact (screened (.inr rfl)).mp (by rw [← shape,← decided,outside])
    | URL => exact external .URL ioc.value ⟨.inl rfl,shape ▸ first⟩
    | FILE_HASH => exact external .FILE_HASH ioc.value ⟨.inr rfl,shape ▸ first⟩
    | FILE_PATH => simp [shape,enrichableTypes] at kind
    | PROCESS => simp [shape,enrichableTypes] at kind

end

/-- An event that names one URL. -/
def visited (url : Text) : NormalizedEvent where
  eventId := lit "e1"
  recordId := lit "r1"
  sourceId := lit "proxy"
  sourceKind := .FILE
  logFormat := .JSON
  eventTime := ⟨dayMicros,some 0,by decide⟩
  entities := [⟨.URL,url⟩]

/-- The URL of an internal server is handed to the provider. -/
theorem internal_url_disclosed :
    ∃ iocs, @extractIocs ascii [] [visited (lit "http://10.0.0.5/admin")] = .ok iocs ∧
      ∃ ioc ∈ (@enrichIndicators ascii iocs refusing).asked, @Discloses ascii [] ioc.type ioc.value :=
  ⟨_,rfl,_,List.mem_cons_self,by decide +kernel⟩

/-- An external URL and a file hash beside an address of the estate. -/
def beaconing : NormalizedEvent :=
  { visited (lit "http://203.0.113.9/a") with
    entities := [⟨.URL,lit "http://203.0.113.9/a"⟩,⟨.IP_ADDRESS,lit "10.0.0.5"⟩,⟨.FILE_HASH,lit "44d88612fea8a8f36de82e1278abb02f"⟩] }

/-- Two of the three indicators are looked up, and neither names a host of the estate. -/
theorem external_lookups_disclose_nothing :
    ∃ iocs, @extractIocs ascii [] [beaconing] = .ok iocs ∧
      (@enrichIndicators ascii iocs refusing).asked.map (·.value) = [lit "44d88612fea8a8f36de82e1278abb02f",lit "http://203.0.113.9/a"] ∧
      ∀ provider limit, ∀ ioc ∈ (@enrichIndicators ascii iocs provider limit).asked, ¬ @Discloses ascii [] ioc.type ioc.value := by
  refine ⟨_,rfl,?_,(@nothing_disclosed_iff_unscreened_external ascii [beaconing] [] _ rfl).mpr ?_⟩
  · decide +kernel
  · intro type value kept
    obtain ⟨sighting,listed,kind,rfl⟩ := @unscreened_stored ascii _ _ _ kept
    simp only [entitiesOf,beaconing,List.flatMap_cons,List.flatMap_nil,List.map_cons,List.map_nil,List.append_nil,List.mem_cons,
      List.not_mem_nil,or_false] at listed
    rcases listed with rfl | rfl | rfl
    · obtain rfl := Option.some.inj kind
      decide +kernel
    · obtain rfl := Option.some.inj kind
      rcases kept.1 with here | here <;> cases here
    · obtain rfl := Option.some.inj kind
      decide +kernel

end SocAnalyst.Enrichment
