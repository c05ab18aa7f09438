import SocAnalyst.Applicability
import SocAnalyst.Values

/-!
# The vulnerability feed

`_parse_configurations` and `_parse_cpe_match` of `integrations/nvd.py`, and the set
of versions a match publishes: the version its criteria pin, or those its bounds admit.
-/
namespace SocAnalyst.Nvd
open SocAnalyst.Builtins SocAnalyst.Values SocAnalyst.Versions SocAnalyst.Applicability

/-! ### The parser -/

/-- CPE 2.3 is a colon-delimited string; these are the fields that are read. -/
def cpeVendorIndex : Nat := 3
def cpeProductIndex : Nat := 4

/-- A field of the criteria with underscores read as blanks. -/
def cpeField (parts : List Text) (index : Nat) : Text :=
  strip (((parts[index]?).getD []).map fun c => if c = 95 then 32 else c)

section
variable [Printer]

/-- A trimmed value, or nothing for a blank one. -/
def optional : Option Value → Option Text
  | none | some .null => none
  | some value => let text := strip value.toText; if text = [] then none else some text

/-- The criteria of a match, split at every colon. -/
def criteriaParts (cpeMatch : List (Text × Value)) : List Text :=
  ((lookup cpeMatch (lit "criteria")).getD (.str [])).toText.splitOnP (· = 58)

/-- The product of a match, as the parser reads it. -/
def criteriaProduct (cpeMatch : List (Text × Value)) : Text := cpeField (criteriaParts cpeMatch) cpeProductIndex

def parseCpeMatch (cpeMatch : List (Text × Value)) : Option AffectedRange :=
  let parts := criteriaParts cpeMatch
  if parts.length ≤ cpeProductIndex then none
  else
    let product := cpeField parts cpeProductIndex
    if product = [] ∨ product = lit "*" then none
    else
      let vendor := cpeField parts cpeVendorIndex
      some {
        product := product
        vendor := if vendor = [] ∨ vendor = lit "*" then none else some vendor
        versionStartIncluding := optional (lookup cpeMatch (lit "versionStartIncluding"))
        versionStartExcluding := optional (lookup cpeMatch (lit "versionStartExcluding"))
        versionEndIncluding := optional (lookup cpeMatch (lit "versionEndIncluding"))
        versionEndExcluding := optional (lookup cpeMatch (lit "versionEndExcluding")) }

/-- The range of a match that is a dictionary marked vulnerable. -/
def vulnerableRange : Value → Option AffectedRange
  | .dict cpeMatch =>
    if ((lookup cpeMatch (lit "vulnerable")).getD .null).truthy then parseCpeMatch cpeMatch else none
  | _ => none

/-- The loop over what an item holds under a key, its results put together. -/
def eachUnder {α : Type} (key : Text) (body : Value → Except PyError (List α)) (item : Value) : Except PyError (List α) :=
  match item.getOr key (.list []) with
  | .error e => .error e
  | .ok value =>
    match value.iterate with
    | .error e => .error e
    | .ok items => (mapRaising body items).map List.flatten

/-- Collect the vulnerable CPE matches, ignoring running-on platform context. -/
def parseConfigurations : Value → Except PyError (List AffectedRange)
  | .list configurations =>
    (mapRaising (eachUnder (lit "nodes") (eachUnder (lit "cpeMatch") fun cpeMatch => .ok (vulnerableRange cpeMatch).toList))
      configurations).map List.flatten
  | _ => .ok []

end

/-! ### Well-formed criteria -/

/-- A criteria string, split at the colons that no backslash quotes. -/
def components : Text → List Text
  | [] => [[]]
  | 92 :: c :: rest => (components rest).modifyHead fun first => 92 :: c :: first
  | c :: rest => if c = 58 then [] :: components rest else (components rest).modifyHead (c :: ·)

/-- The characters a component may hold without a backslash. -/
def isPlain (c : Nat) : Bool :=
  isLowerLetter c || (65 ≤ c && c ≤ 90) || (48 ≤ c && c ≤ 57) || c ∈ lit "-._*?"
/-- A component holds plain and quoted characters only. -/
def isComponent : Text → Bool
  | [] => true
  | 92 :: _ :: rest => isComponent rest
  | c :: rest => isPlain c && isComponent rest

/-- The version component of a well-formed CPE 2.3 string. -/
def cpeVersion (criteria : Text) : Option Text :=
  match components criteria with
  | [cpe,standard,part,vendor,product,version,update,edition,language,swEdition,targetSw,targetHw,other] =>
    if cpe = lit "cpe" ∧ standard = lit "2.3" ∧ part ∈ [lit "a",lit "o",lit "h",lit "*",lit "-"] ∧
      [vendor,product,version,update,edition,language,swEdition,targetSw,targetHw,other].all fun component =>
        component ≠ [] && isComponent component
    then some version else none
  | _ => none

/-- The text a component stands for. -/
def unquote : Text → Text
  | [] => []
  | 92 :: c :: rest => c :: unquote rest
  | c :: rest => c :: unquote rest

/-! ### The published versions -/

section
variable [Printer]

/-- The four version attributes of a match, with what each demands. -/
def attributes (cpeMatch : List (Text × Value)) : List (Option Text × Comparison) :=
  [(optional (lookup cpeMatch (lit "versionStartIncluding")),.ge),
    (optional (lookup cpeMatch (lit "versionStartExcluding")),.gt),
    (optional (lookup cpeMatch (lit "versionEndIncluding")),.le),
    (optional (lookup cpeMatch (lit "versionEndExcluding")),.lt)]

/-- A version component that names no version. -/
def Wildcard (component : Text) : Prop := component = lit "*" ∨ component = lit "-"

/-- The version is the one the component names. -/
def Pinned (component : Text) (v : Version) : Prop :=
  ∃ w, Parses (some (unquote component)) w ∧ v.sortKey = w.sortKey

/-- A match marked vulnerable, with well-formed criteria. -/
structure VulnerableMatch where
  entries : List (Text × Value)
  criteria : Text
  version : Text
  vulnerable : ((lookup entries (lit "vulnerable")).getD .null).truthy = true
  listed : lookup entries (lit "criteria") = some (.str criteria)
  wellFormed : cpeVersion criteria = some version

/-- The versions a match publishes: the one its criteria pin, or those that
    satisfy every attribute given. -/
def Published (found : VulnerableMatch) (v : Version) : Prop :=
  (Wildcard found.version → ∀ bound ∈ attributes found.entries, Satisfied v bound) ∧
    (¬ Wildcard found.version → Pinned found.version v)

/-- The parser makes a range of the match. -/
def NamesProduct (cpeMatch : List (Text × Value)) : Prop :=
  cpeProductIndex < (criteriaParts cpeMatch).length ∧ criteriaProduct cpeMatch ≠ [] ∧ criteriaProduct cpeMatch ≠ lit "*"

theorem optional_nonempty {value : Option Value} {text : Text} (given : optional value = some text) : text ≠ [] := by
  rcases value with _ | (_ | _) <;> simp only [optional] at given <;> first | cases given | skip
  all_goals
    split_ifs at given with blank
    cases given
    exact blank

/-- A match that names a product becomes the range of its attributes. -/
theorem parseCpeMatch_correct (cpeMatch : List (Text × Value)) :
    (NamesProduct cpeMatch → ∃ affected, parseCpeMatch cpeMatch = some affected ∧ affected.product = criteriaProduct cpeMatch) ∧
    ∀ affected, parseCpeMatch cpeMatch = some affected → NamesProduct cpeMatch ∧ affected.bounds = attributes cpeMatch := by
  unfold parseCpeMatch NamesProduct criteriaProduct
  constructor
  · rintro ⟨long,named,specific⟩
    simp only [not_le.mpr long,named,specific,or_self,if_false]
    exact ⟨_,rfl,rfl⟩
  · intro affected made
    by_cases short : (criteriaParts cpeMatch).length ≤ cpeProductIndex
    · simp [short] at made
    · by_cases blank : cpeField (criteriaParts cpeMatch) cpeProductIndex = [] ∨
          cpeField (criteriaParts cpeMatch) cpeProductIndex = lit "*"
      · simp [short,blank] at made
      · simp only [short,blank,if_false,Option.some.injEq] at made
        subst made
        push Not at blank short
        exact ⟨⟨short,blank⟩,rfl⟩

/-- A range without blank bounds holds exactly the versions that satisfy them all. -/
theorem inside_iff_satisfied {affected : AffectedRange} (filled : ∀ bound ∈ affected.bounds, bound.1 ≠ some [])
    (v : Version) : Inside v affected ↔ ∀ bound ∈ affected.bounds, Satisfied v bound := by
  refine ⟨?_,.inr⟩
  rintro (unbounded | satisfied)
  · intro bound member raw present
    have blank : raw = [] := by
      simp only [AffectedRange.isUnbounded,Bool.not_eq_true',Bool.or_eq_false_iff] at unbounded
      simp only [AffectedRange.bounds,List.mem_cons,List.mem_nil_iff,or_false] at member
      rcases member with rfl | rfl | rfl | rfl <;> simp_all [truthy]
    exact absurd (blank ▸ present) (filled bound member)
  · exact satisfied

/-- A match's range holds exactly the versions that satisfy every attribute. -/
theorem parsed_inside {cpeMatch : List (Text × Value)} {affected : AffectedRange}
    (made : parseCpeMatch cpeMatch = some affected) (v : Version) :
    inVulnerableRange v affected = .ok (some true) ↔ ∀ bound ∈ attributes cpeMatch, Satisfied v bound := by
  have bounds := ((parseCpeMatch_correct cpeMatch).2 affected made).2
  rw [(inVulnerableRange_correct v affected).1,inside_iff_satisfied,bounds]
  rw [bounds]
  intro bound member blank
  simp only [attributes,List.mem_cons,List.mem_nil_iff,or_false] at member
  rcases member with rfl | rfl | rfl | rfl <;> exact optional_nonempty blank rfl

/-- The range of a vulnerable match holds only published versions, for a given
    version, exactly when the criteria name no product, leave the version open or
    pin this very one, or an attribute excludes it. -/
theorem parsed_range_published_iff (found : VulnerableMatch) (v : Version) :
    (∀ affected, vulnerableRange (.dict found.entries) = some affected → inVulnerableRange v affected = .ok (some true) →
      Published found v) ↔
    ¬ NamesProduct found.entries ∨ Wildcard found.version ∨ Pinned found.version v ∨
      ∃ bound ∈ attributes found.entries, ¬ Satisfied v bound := by
  simp only [vulnerableRange,found.vulnerable,if_true]
  constructor
  · intro sound
    by_contra neither
    push Not at neither
    obtain ⟨named,concrete,other,within⟩ := neither
    obtain ⟨affected,made,_⟩ := (parseCpeMatch_correct found.entries).1 named
    exact other ((sound affected made ((parsed_inside made v).mpr within)).2 concrete)
  · intro condition affected made inside
    have satisfied := (parsed_inside made v).mp inside
    rcases condition with unnamed | wildcard | pinned | ⟨bound,member,violated⟩
    · exact absurd ((parseCpeMatch_correct found.entries).2 affected made).1 unnamed
    · exact ⟨fun _ => satisfied,fun concrete => absurd wildcard concrete⟩
    · exact ⟨fun _ => satisfied,fun _ => pinned⟩
    · exact absurd (satisfied bound member) violated

/-! ### From the feed to the verdict -/

/-- The item holds another in the list under a key. -/
def Under (key : Text) (item inner : Value) : Prop :=
  ∃ value items, item.getOr key (.list []) = .ok value ∧ value.iterate = .ok items ∧ inner ∈ items

omit [Printer] in
private theorem mem_eachUnder {α : Type} {key : Text} {body : Value → Except PyError (List α)} {item : Value}
    {results : List α} (run : eachUnder key body item = .ok results) (result : α) :
    result ∈ results ↔ ∃ inner, Under key item inner ∧ ∃ some, body inner = .ok some ∧ result ∈ some := by
  unfold eachUnder at run
  cases got : item.getOr key (.list []) with
  | error e => simp [got] at run
  | ok value =>
    cases visited : value.iterate with
    | error e => simp [got,visited] at run
    | ok items =>
      simp only [got,visited] at run
      cases loop : mapRaising body items with
      | error e => simp [loop,Except.map] at run
      | ok lists =>
        simp only [loop,Except.map,Except.ok.injEq] at run
        subst run
        rw [List.mem_flatten]
        constructor
        · rintro ⟨list,listed,member⟩
          obtain ⟨inner,visible,made⟩ := (mapRaising_mem loop list).mp listed
          exact ⟨inner,⟨value,items,got,visited,visible⟩,list,made,member⟩
        · rintro ⟨inner,⟨value',items',got',visited',visible⟩,list,made,member⟩
          rw [got,Except.ok.injEq] at got'
          subst got'
          rw [visited,Except.ok.injEq] at visited'
          subst visited'
          exact ⟨list,(mapRaising_mem loop list).mpr ⟨inner,visible,made⟩,member⟩

/-- A match of some node of some configuration. -/
def Listed (configurations : Value) (found : Value) : Prop :=
  ∃ items, configurations = .list items ∧ ∃ configuration ∈ items, ∃ node, Under (lit "nodes") configuration node ∧
    Under (lit "cpeMatch") node found

/-- The ranges collected are those of the vulnerable matches listed. -/
theorem mem_parseConfigurations {configurations : Value} {ranges : List AffectedRange}
    (run : parseConfigurations configurations = .ok ranges) (affected : AffectedRange) :
    affected ∈ ranges ↔ ∃ found, Listed configurations found ∧ vulnerableRange found = some affected := by
  unfold Listed
  cases configurations with
  | list items =>
    simp only [parseConfigurations] at run
    cases loop : mapRaising (eachUnder (lit "nodes") (eachUnder (lit "cpeMatch") fun found =>
        .ok (vulnerableRange found).toList)) items with
    | error e => simp [loop,Except.map] at run
    | ok lists =>
      simp only [loop,Except.map,Except.ok.injEq] at run
      subst run
      rw [List.mem_flatten]
      constructor
      · rintro ⟨list,listed,member⟩
        obtain ⟨configuration,given,made⟩ := (mapRaising_mem loop list).mp listed
        obtain ⟨node,above,some,made',member'⟩ := (mem_eachUnder made affected).mp member
        obtain ⟨found,under,single,same,member''⟩ := (mem_eachUnder made' affected).mp member'
        simp only [Except.ok.injEq] at same
        subst same
        exact ⟨found,⟨items,rfl,configuration,given,node,above,under⟩,by simpa using member''⟩
      · rintro ⟨found,⟨items',same,configuration,given,node,above,under⟩,made⟩
        cases same
        obtain ⟨list,outer⟩ := mapRaising_returns.mp ⟨lists,loop⟩ configuration given
        refine ⟨list,(mapRaising_mem loop list).mpr ⟨configuration,given,outer⟩,?_⟩
        obtain ⟨value,nodes,got,visited,visible⟩ := above
        have inner := outer
        simp only [eachUnder,got,visited] at inner
        obtain ⟨some,run⟩ : ∃ some, eachUnder (lit "cpeMatch") (fun found => .ok (vulnerableRange found).toList) node = .ok some := by
          cases nodeLoop : mapRaising (eachUnder (lit "cpeMatch") fun found => .ok (vulnerableRange found).toList) nodes with
          | error e => rw [nodeLoop] at inner; cases inner
          | ok results => exact mapRaising_returns.mp ⟨results,nodeLoop⟩ node visible
        refine (mem_eachUnder outer affected).mpr ⟨node,⟨value,nodes,got,visited,visible⟩,some,run,?_⟩
        exact (mem_eachUnder run affected).mpr ⟨found,under,_,rfl,by simp [made]⟩
  | null | bool | int | float | str | dict =>
    simp only [parseConfigurations,Except.ok.injEq] at run
    subst run
    simp

/-- A confirmed CVE whose matches leave their versions open was published for the
    version that some host runs. -/
theorem confirmed_runs_published {configurations : Value} {record : CveRecord} {assets : List AssetContext}
    {evidence : List ApplicabilityEvidence} (parsed : parseConfigurations configurations = .ok record.affected)
    (run : assessApplicability record assets = .ok (.CONFIRMED,evidence))
    (wellFormed : ∀ found, Listed configurations found → ∀ affected, vulnerableRange found = some affected →
      ∃ valid : VulnerableMatch, found = .dict valid.entries ∧ Wildcard valid.version) :
    ∃ asset ∈ assets, ∃ installed ∈ asset.software, ∃ v, Parses installed.version v ∧
      ∃ found : VulnerableMatch, Listed configurations (.dict found.entries) ∧
        productsMatch installed.product (criteriaProduct found.entries) = true ∧ Published found v := by
  obtain ⟨triple,⟨listed,carried,ranged,product⟩,v,parses,inside⟩ := (assessApplicability_ok run).1.confirmed.mp rfl
  obtain ⟨found,under,made⟩ := (mem_parseConfigurations parsed triple.affected).mp ranged
  obtain ⟨valid,rfl,wildcard⟩ := wellFormed found under triple.affected made
  simp only [vulnerableRange,valid.vulnerable,if_true] at made
  have satisfied := (parsed_inside made v).mp ((inVulnerableRange_correct v triple.affected).1.mpr inside)
  obtain ⟨affected,same,named⟩ := (parseCpeMatch_correct valid.entries).1 ((parseCpeMatch_correct valid.entries).2 _ made).1
  rw [made,Option.some.injEq] at same
  subst same
  exact ⟨triple.asset,listed,triple.installed,carried,v,parses,valid,under,named ▸ product,fun _ => satisfied,
    fun concrete => absurd wildcard concrete⟩

end

/-! ### A match that pins one version -/

/-- A match published for version 2.14.1 alone. -/
def pinnedMatch : VulnerableMatch where
  entries := [(lit "vulnerable",.bool true),(lit "criteria",.str (lit "cpe:2.3:a:apache:log4j:2.14.1:*:*:*:*:*:*:*"))]
  criteria := lit "cpe:2.3:a:apache:log4j:2.14.1:*:*:*:*:*:*:*"
  version := lit "2.14.1"
  vulnerable := rfl
  listed := rfl
  wellFormed := by decide

/-- A host that runs a version the match was not published for is confirmed. -/
theorem pinned_match_confirms_other_version :
    let _ := asciiPrinter
    ∃ affected v evidence, vulnerableRange (.dict pinnedMatch.entries) = some affected ∧
      Parses (some (lit "2.17.0")) v ∧ inVulnerableRange v affected = .ok (some true) ∧ ¬ Published pinnedMatch v ∧
      assessApplicability ⟨lit "CVE-2021-44228",none,[],[affected],[]⟩
        [⟨lit "web-01",[⟨lit "log4j",some (lit "2.17.0")⟩]⟩] = .ok (.CONFIRMED,evidence) := by
  let _ := asciiPrinter
  refine ⟨_,_,_,rfl,rfl,rfl,?_,rfl⟩
  intro published
  have concrete : ¬ Wildcard pinnedMatch.version := by
    unfold Wildcard
    decide
  obtain ⟨w,parses,same⟩ := published.2 concrete
  have fixed : Parses (some (lit "2.14.1")) ⟨toLex ([2,14,1],toLex (1,[])),lit "2.14.1"⟩ := rfl
  have unquoted : unquote pinnedMatch.version = lit "2.14.1" := by decide
  rw [unquoted] at parses
  rw [parses_unique parses fixed] at same
  revert same
  decide

end SocAnalyst.Nvd
