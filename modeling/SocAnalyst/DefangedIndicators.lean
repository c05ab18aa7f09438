import SocAnalyst.AlertLinks
import SocAnalyst.Calendar
import SocAnalyst.Extraction
import SocAnalyst.Replacements

/-!
# Defanged indicators

Which indicators stay live. `defang` of `tools/iocs.py` looks for the schemes in lowercase,
and the extraction takes them in any letter case.
-/
namespace SocAnalyst.DefangedIndicators
open SocAnalyst.Builtins SocAnalyst.Dicts SocAnalyst.Logs SocAnalyst.Iocs SocAnalyst.Pieces SocAnalyst.Replacements
open SocAnalyst.Patterns SocAnalyst.Extraction
open SocAnalyst.AlertTemplates (WordTable word asciiWord asciiWords)
open SocAnalyst.AlertLinks
open SocAnalyst.Calendar (firstDay)

/-- No scheme in any letter case, every dot between brackets and no at sign. -/
structure Inert (text : Text) : Prop where
  dead : ¬ Live text
  bracketed : ∀ before after, text = before ++ 46 :: after → before.getLast? = some 91 ∧ after.head? = some 93
  unaddressed : 64 ∉ text

/-- The schemes that `defang` looks for. -/
def neutralized : List Text := [lit "http://",lit "https://",lit "ftp://"]

/-- A scheme with a letter that is not lowercase stands in the text. -/
def Capital (text : Text) : Prop := ∃ before scheme after, text = before ++ scheme ++ after ∧ IsScheme scheme ∧ scheme ∉ neutralized

/-! ### Schemes and what they become -/

theorem IsScheme.headed {scheme : Text} (isScheme : IsScheme scheme) : Headed Opens scheme := by
  obtain ⟨first,middle,rfl,opens,follows⟩ := isScheme.shape
  refine ⟨first,middle ++ lit "://",rfl,opens,fun c member begins => ?_⟩
  rcases List.mem_append.mp member with letter | separator
  · have letters := follows c letter
    simp only [Opens,Follows,List.mem_cons,List.not_mem_nil,or_false] at begins letters
    omega
  · have signs : c = 58 ∨ c = 47 := by simpa [lit] using separator
    simp only [Opens,List.mem_cons,List.not_mem_nil,or_false] at begins
    omega

theorem schemes_apart {s t : Text} (first : IsScheme s) (second : IsScheme t) (other : s ≠ t) : Incomparable s t := by
  constructor
  · rintro ⟨rest,same⟩
    exact other (scheme_unique (x := rest) (y := []) first second (by rw [same,List.append_nil]))
  · rintro ⟨rest,same⟩
    exact other (scheme_unique (x := []) (y := rest) first second (by rw [same,List.append_nil]))

theorem neutralized_scheme : ∀ scheme ∈ neutralized, IsScheme scheme := by
  intro scheme member
  simp only [neutralized,List.mem_cons,List.not_mem_nil,or_false] at member
  rcases member with rfl | rfl | rfl
  · exact ⟨lit "http",by decide,rfl,by decide⟩
  · exact ⟨lit "https",by decide,rfl,by decide⟩
  · exact ⟨lit "ftp",by decide,rfl,by decide⟩

/-- What is written for a scheme: x for its second letter. -/
def Broken (piece : Text) : Prop := ∃ first rest, piece = first :: 120 :: rest ∧ Opens first ∧ ∀ c ∈ rest, ¬ Opens c

theorem Broken.headed {piece : Text} (broken : Broken piece) : Headed Opens piece := by
  obtain ⟨first,rest,rfl,opens,none⟩ := broken
  refine ⟨first,120 :: rest,rfl,opens,fun c member => ?_⟩
  rcases List.mem_cons.mp member with rfl | later
  · decide
  · exact none c later

/-- A broken scheme is none, and begins none. -/
theorem Broken.apart {piece scheme : Text} (broken : Broken piece) (isScheme : IsScheme scheme) : Incomparable scheme piece := by
  obtain ⟨first,rest,rfl,_,_⟩ := broken
  have absent : 120 ∉ scheme := by
    intro member
    have bounds := (isScheme.chars 120 member).bounds
    omega
  constructor
  · intro begins
    obtain ⟨c,middle,rfl,_,_⟩ := isScheme.shape
    have second := (List.cons_prefix_cons.mp begins).2
    cases middle with
    | nil => exact absurd (List.cons_prefix_cons.mp second).1 (by decide)
    | cons m middle =>
      obtain ⟨rfl,_⟩ := List.cons_prefix_cons.mp second
      exact absent (by simp)
  · intro begins
    exact absent (begins.subset (by simp))

/-- Breaking one scheme up carries the others. -/
theorem Broken.carries {old new : Text} (broken : Broken new) (isScheme : IsScheme old) :
    Carries (fun scheme => IsScheme scheme ∧ scheme ≠ old) (replaceAll old new) (replaceAll old new) :=
  carries_replaceAll (IsScheme.headed isScheme) broken.headed fun _ ⟨also,other⟩ =>
    ⟨IsScheme.headed also,schemes_apart also isScheme other,broken.apart also⟩

/-- Breaking a scheme up leaves none of it. -/
theorem Broken.removes {old new : Text} (broken : Broken new) (isScheme : IsScheme old) (text : Text) : ¬ old <:+: replaceAll old new text :=
  replaceAll_removes (IsScheme.headed isScheme) broken.headed (broken.apart isScheme) text

/-- What `defang` makes of a character outside of schemes. -/
def bracket (c : Nat) : Text := if c = 46 then lit "[.]" else if c = 64 then lit "[at]" else [c]

/-- `defang` breaks up the three schemes, then brackets dots and at signs. -/
theorem defang_eq (value : Text) : defang value =
    (replaceAll (lit "ftp://") (lit "fxp://") (replaceAll (lit "https://") (lit "hxxps://")
      (replaceAll (lit "http://") (lit "hxxp://") value))).flatMap bracket := by
  have single : ∀ (c : Nat) (new text : Text), replaceAll [c] new text = text.flatMap fun d => if d = c then new else [d] :=
    AlertTemplates.replaceAll_single
  unfold defang
  rw [show lit "@" = [64] from rfl,show lit "." = [46] from rfl,single,single,List.flatMap_assoc]
  refine List.flatMap_congr fun c _ => ?_
  unfold bracket
  split_ifs with dot at_sign
  · subst dot
    rfl
  · subst at_sign
    rfl
  · simp [at_sign]

theorem carries_bracket : Carries IsScheme (fun text => text.flatMap bracket) fun text => text.flatMap bracket := by
  refine carries_flatMap 91 93 58 (fun c => ?_) fun scheme isScheme => ⟨isScheme.colon,fun stop => ?_,fun mark => ?_,fun c member => ?_⟩
  · unfold bracket
    split_ifs
    · exact .inr ⟨rfl,rfl,by decide⟩
    · exact .inr ⟨rfl,rfl,by decide⟩
    · exact .inl rfl
  · have bounds := (isScheme.chars 93 stop).bounds
    omega
  · have bounds := (isScheme.chars 91 mark).bounds
    omega
  · have bounds := (isScheme.chars c member).bounds
    unfold bracket
    rw [if_neg (by omega),if_neg (by omega)]

/-! ### What `defang` leaves -/

private theorem broken_http : Broken (lit "hxxp://") := ⟨104,lit "xp://",rfl,by decide,by decide⟩
private theorem broken_https : Broken (lit "hxxps://") := ⟨104,lit "xps://",rfl,by decide,by decide⟩
private theorem broken_ftp : Broken (lit "fxp://") := ⟨102,lit "p://",rfl,by decide,by decide⟩

/-- A scheme stays live just where it is not spelled in lowercase. -/
theorem live_defang (value : Text) : Live (defang value) ↔ Capital value := by
  have http : IsScheme (lit "http://") := neutralized_scheme _ (by decide)
  have https : IsScheme (lit "https://") := neutralized_scheme _ (by decide)
  have ftp : IsScheme (lit "ftp://") := neutralized_scheme _ (by decide)
  have first := broken_http.carries http
  have second := broken_https.carries https
  have third := broken_ftp.carries ftp
  rw [defang_eq]
  constructor
  · rintro ⟨front,scheme,rest,made,isScheme⟩
    obtain ⟨a,b,three,_⟩ := carries_bracket.comes _ _ _ _ isScheme made
    have not_ftp : scheme ≠ lit "ftp://" := by
      rintro rfl
      exact broken_ftp.removes ftp _ ⟨a,b,three.symm⟩
    obtain ⟨c,d,two,_⟩ := third.comes _ _ _ _ ⟨isScheme,not_ftp⟩ three
    have not_https : scheme ≠ lit "https://" := by
      rintro rfl
      exact broken_https.removes https _ ⟨c,d,two.symm⟩
    obtain ⟨e,f,one,_⟩ := second.comes _ _ _ _ ⟨isScheme,not_https⟩ two
    have not_http : scheme ≠ lit "http://" := by
      rintro rfl
      exact broken_http.removes http _ ⟨e,f,one.symm⟩
    obtain ⟨before,after,whole,_⟩ := first.comes _ _ _ _ ⟨isScheme,not_http⟩ one
    exact ⟨before,scheme,after,whole,isScheme,by simp [neutralized,not_http,not_https,not_ftp]⟩
  · rintro ⟨before,scheme,after,rfl,isScheme,capital⟩
    simp only [neutralized,List.mem_cons,List.not_mem_nil,or_false,not_or] at capital
    obtain ⟨_,one⟩ := first.sends before scheme after ⟨isScheme,capital.1⟩
    obtain ⟨_,two⟩ := second.sends _ scheme _ ⟨isScheme,capital.2.1⟩
    obtain ⟨_,three⟩ := third.sends _ scheme _ ⟨isScheme,capital.2.2⟩
    obtain ⟨rest,made⟩ := carries_bracket.sends _ scheme _ isScheme
    rw [one,two,three]
    exact ⟨_,scheme,rest,made,isScheme⟩

/-- Every dot that is written stands between brackets. -/
theorem bracketed (text before after : Text) (made : text.flatMap bracket = before ++ 46 :: after) :
    before.getLast? = some 91 ∧ after.head? = some 93 := by
  induction text generalizing before with
  | nil => simp at made
  | cons c rest ih =>
    rw [List.flatMap_cons] at made
    have later : ∀ more, before = bracket c ++ more → rest.flatMap bracket = more ++ 46 :: after →
        before.getLast? = some 91 ∧ after.head? = some 93 := by
      rintro more rfl whole
      obtain ⟨last,head⟩ := ih more whole
      exact ⟨by rw [List.getLast?_append,last]; rfl,head⟩
    rcases List.append_eq_append_iff.mp made with ⟨more,begins,ends⟩ | ⟨excess,begins,ends⟩
    · exact later more begins ends
    · cases excess with
      | nil => exact later [] (by rw [begins,List.append_nil,List.append_nil]) ends.symm
      | cons e excess =>
        injection ends with same tail
        subst same
        have dot : c = 46 := by
          by_contra other
          unfold bracket at begins
          rw [if_neg other] at begins
          split_ifs at begins
          · have member : 46 ∈ lit "[at]" := begins ▸ List.mem_append_right _ (List.mem_cons_self ..)
            exact absurd member (by decide)
          · have member : 46 ∈ [c] := begins ▸ List.mem_append_right _ (List.mem_cons_self ..)
            exact other (List.mem_singleton.mp member).symm
        subst dot
        have whole : [91,46,93] = before ++ 46 :: excess := begins
        rcases before with _ | ⟨a,_ | ⟨b,_ | ⟨d,more⟩⟩⟩ <;> simp at whole
        obtain ⟨rfl,rfl⟩ := whole
        rw [tail]
        exact ⟨rfl,rfl⟩

theorem inert_defang (value : Text) : Inert (defang value) ↔ ¬ Capital value := by
  constructor
  · intro inert capital
    exact inert.dead ((live_defang value).mpr capital)
  · intro lowercase
    refine ⟨fun live => lowercase ((live_defang value).mp live),fun before after made => ?_,fun member => ?_⟩
    · rw [defang_eq] at made
      exact bracketed _ before after made
    · rw [defang_eq] at member
      obtain ⟨c,_,written⟩ := List.mem_flatMap.mp member
      unfold bracket at written
      split_ifs at written with dot at_sign
      · exact absurd written (by decide)
      · exact absurd written (by decide)
      · exact at_sign (List.mem_singleton.mp written).symm

/-! ### What can hold a scheme -/

/-- The value has the signs of a scheme. -/
def linked (entity : Entity) : Bool := entity.value.contains 58 && entity.value.contains 47

theorem linked_of_capital {entity : Entity} (capital : Capital entity.value) : linked entity = true := by
  obtain ⟨before,scheme,after,whole,isScheme,_⟩ := capital
  have slash : 47 ∈ scheme := by
    obtain ⟨first,middle,rfl,_,_⟩ := isScheme.shape
    simp [lit]
  have within : ∀ c ∈ scheme, c ∈ entity.value := by
    intro c member
    rw [whole]
    exact List.mem_append_left _ (List.mem_append_right _ member)
  simp [linked,within 58 isScheme.colon,within 47 slash]

theorem mem_trimmed {c : Nat} {value : Text} (member : c ∈ trimmed value) : c ∈ value :=
  (strip_sublist value).subset ((List.dropWhile_sublist _).subset ((List.rdropWhile_prefix _ _).subset member))

theorem value_of_entityOf {type : EntityType} {value : Text} {entity : Entity} (made : entityOf type value = some entity) :
    entity.value = trimmed value := by
  unfold entityOf at made
  split_ifs at made
  cases made
  rfl

/-- Values without a colon or without a slash make no entity that can hold a scheme. -/
theorem unlinked_entities {type : EntityType} {values : List Text} (plain : ∀ value ∈ values, 58 ∉ value ∨ 47 ∉ value) :
    (values.filterMap (entityOf type)).filter linked = [] := by
  refine List.filter_eq_nil_iff.mpr fun entity member => ?_
  obtain ⟨value,listed,made⟩ := List.mem_filterMap.mp member
  have trimmed_value := value_of_entityOf made
  simp only [linked,trimmed_value,Bool.and_eq_true,List.contains_iff_mem,not_and]
  intro colon slash
  rcases plain value listed with none | none
  · exact none (mem_trimmed colon)
  · exact none (mem_trimmed slash)

theorem unlinked_matches {p : Nat → Bool} {finder : Finder Nat} (captures : Captures p finder) (plain : p 58 = false ∨ p 47 = false)
    {text value : Text} (member : value ∈ findAll finder text) : 58 ∉ value ∨ 47 ∉ value := by
  refine plain.imp (fun no colon => ?_) fun no slash => ?_
  · rw [mem_findAll captures member 58 colon] at no
    cases no
  · rw [mem_findAll captures member 47 slash] at no
    cases no

section
variable [Interpreter] [WordTable]

/-- `str.lower` leaves the signs of a scheme where they are. -/
def Uncased : Prop := ∀ (text : Text) (c : Nat), c = 58 ∨ c = 47 → (c ∈ lower text ↔ c ∈ text)

/-- The entities that can hold a scheme: given values, URLs and Windows paths. -/
def links (text : Text) (extra : List (EntityType × Option Text)) : List Entity :=
  structured extra ++ urlsOf text ++ windowsPathsOf (remainderOf text)

omit [WordTable] in
theorem decimal_slash : isDigit 47 = false := by
  unfold isDigit
  rw [Interpreter.decimal_ascii 47 (by decide)]
  rfl

omit [Interpreter] in
theorem word_sign {c : Nat} (sign : c = 58 ∨ c = 47) : word c = false := by
  rcases sign with rfl | rfl
  · rw [WordTable.word_ascii 58 (by decide)]
    rfl
  · rw [WordTable.word_ascii 47 (by decide)]
    rfl

theorem addresses_unlinked (remainder : Text) : (addressesOf remainder).filter linked = [] := by
  refine unlinked_entities fun value member => ?_
  rcases List.mem_append.mp member with four | six
  · refine unlinked_matches ipv4.captures_whole (.inr ?_) (List.mem_of_mem_filter four)
    simp [ipv4,Pattern.allows,edge,character,decimal_slash]
  · exact unlinked_matches ipv6.captures_whole (.inr rfl) (List.mem_of_mem_filter six)

omit [Interpreter] in
theorem hashes_unlinked (remainder : Text) : (hashesOf remainder).filter linked = [] :=
  unlinked_entities fun _ member => unlinked_matches hash.captures_whole (.inr rfl) member

omit [Interpreter] in
theorem processes_unlinked (remainder : Text) : (processesOf remainder).filter linked = [] := by
  refine unlinked_entities fun value member => unlinked_matches process.captures_whole (.inr ?_) member
  have endings : Pattern.allows 47 (oneOf [lit "exe",lit "dll",lit "ps1",lit "sh",lit "bat",lit "cmd",lit "py",lit "jar"]) = false := by
    decide
  simp [process,Pattern.allows,edge,character,oneOrMore,inName,word_sign (.inr rfl),endings]

omit [Interpreter] in
theorem unixPaths_unlinked (remainder : Text) : (unixPathsOf remainder).filter linked = [] := by
  refine unlinked_entities fun value member => unlinked_matches (Pattern.captures_after unixLead unixPath) (.inl ?_) member
  simp [unixPath,Pattern.allows,character,oneOrMore,inName,word_sign (.inl rfl)]

theorem domains_unlinked (uncased : Uncased) (remainder : Text) : (domainsOf remainder).filter linked = [] := by
  refine List.filter_eq_nil_iff.mpr fun entity member => ?_
  obtain ⟨value,listed,made⟩ := List.mem_filterMap.mp member
  split_ifs at made
  have plain : domain.allows 47 = false := by
    have letter : isLetter 47 = false := by decide
    have alnum : isAlnum 47 = false := by decide
    simp [domain,Pattern.allows,edge,character,letter,alnum]
  have absent : 47 ∉ value := by
    intro slash
    rw [mem_findAll domain.captures_whole listed 47 slash] at plain
    cases plain
  simp only [linked,value_of_entityOf made,Bool.and_eq_true,List.contains_iff_mem,not_and]
  intro _ slash
  exact absent ((uncased value 47 (.inr rfl)).mp (mem_trimmed slash))

/-- Only given values, URLs and Windows paths can hold a scheme. -/
theorem filter_found (uncased : Uncased) (text : Text) (extra : List (EntityType × Option Text)) :
    (found text extra).filter linked = (links text extra).filter linked := by
  unfold found links
  simp only [List.filter_append,addresses_unlinked,hashes_unlinked,processes_unlinked,unixPaths_unlinked,domains_unlinked uncased,
    List.append_nil]

/-! ### Whole logs -/

/-- A log text with its already-known values, and the event it is normalized to. -/
structure AnalyzedText where
  event : NormalizedEvent
  text : Text
  extra : List (EntityType × Option Text) := []

def AnalyzedText.normalized (analyzed : AnalyzedText) : NormalizedEvent :=
  { analyzed.event with entities := extractEntities analyzed.text analyzed.extra }

/-- The entities of a log that can hold a scheme, in order. -/
def linksOf (texts : List AnalyzedText) : List Entity := texts.flatMap fun analyzed => links analyzed.text analyzed.extra

omit [WordTable] in
/-- An entity of a list that no earlier one of its kind equals up to letter case. -/
def FirstSpelling (entities : List Entity) (entity : Entity) : Prop :=
  ∃ before after, entities = before ++ entity :: after ∧
    ∀ earlier ∈ before, ¬ (earlier.type = entity.type ∧ lower earlier.value = lower entity.value)

omit [WordTable] in
/-- The key an entity becomes an indicator under. -/
def indicatorKey (entity : Entity) : Option (IocType × Text) := (entityToIoc entity.type).map fun type => (type,lower entity.value)

omit [WordTable] in
/-- The value of the first entity with a key. -/
def firstOf (key : IocType × Text) (entities : List Entity) : Option Text :=
  (entities.find? fun entity => indicatorKey entity = some key).map (·.value)

omit [WordTable] in
theorem firstOf_append (key : IocType × Text) (before after : List Entity) :
    firstOf key (before ++ after) = (firstOf key before).or (firstOf key after) := by
  unfold firstOf
  rw [List.find?_append,Option.map_or]

omit [WordTable] in
theorem indicatorKey_eq {first second : Entity} {key : IocType × Text} (has : indicatorKey second = some key) :
    indicatorKey first = some key ↔ first.type = second.type ∧ lower first.value = lower second.value := by
  obtain ⟨type,kind,rfl⟩ := Option.map_eq_some_iff.mp has
  have same_kind : entityToIoc first.type = some type ↔ first.type = second.type := by
    revert kind
    cases first.type <;> cases second.type <;> cases type <;> decide
  unfold indicatorKey
  rw [Option.map_eq_some_iff,← same_kind]
  constructor
  · rintro ⟨other,is,equal⟩
    obtain ⟨rfl,same⟩ := Prod.mk.inj equal
    exact ⟨is,same⟩
  · rintro ⟨is,equal⟩
    exact ⟨type,is,by rw [equal]⟩

omit [WordTable] in
/-- The first entity with a key is the first spelling of its value. -/
theorem firstOf_eq_some {key : IocType × Text} {entities : List Entity} {value : Text} :
    firstOf key entities = some value ↔ ∃ entity, FirstSpelling entities entity ∧ indicatorKey entity = some key ∧ entity.value = value := by
  unfold firstOf
  rw [Option.map_eq_some_iff]
  refine exists_congr fun entity => ?_
  rw [List.find?_eq_some_iff_append,← and_assoc]
  refine and_congr_left fun _ => ?_
  simp only [decide_eq_true_eq,Bool.not_eq_eq_eq_not,Bool.not_true,decide_eq_false_iff_not,and_comm (b := indicatorKey entity = some key)]
  refine and_congr_right fun has => ?_
  refine exists_congr fun before => exists_congr fun after => and_congr_right fun _ => forall₂_congr fun earlier _ => ?_
  rw [indicatorKey_eq has]

/-- What is collected first under a key was found first under it. -/
theorem firstWith_found (key : IocType × Text) (texts : List AnalyzedText) :
    firstWith key (entitiesOf (texts.map (·.normalized))) = firstOf key (texts.flatMap fun analyzed => found analyzed.text analyzed.extra) := by
  induction texts with
  | nil => rfl
  | cons analyzed texts ih =>
    have here : firstWith key ((extractEntities analyzed.text analyzed.extra).map fun entity => (analyzed.normalized,entity)) =
        firstOf key (found analyzed.text analyzed.extra) := by
      unfold firstWith firstOf
      rw [List.find?_map,Option.map_map]
      have keyed : ∀ x y : Entity, (x.type,lower x.value) = (y.type,lower y.value) →
          decide (indicatorKey x = some key) = decide (indicatorKey y = some key) := by
        intro x y same
        injection same with kind value
        exact decide_eq_decide.mpr (by rw [indicatorKey,indicatorKey,kind,value])
      rw [← find?_keepFirst _ (found analyzed.text analyzed.extra) keyed]
      rfl
    rw [List.flatMap_cons,firstOf_append,← here,← ih,← firstWith_append]
    rfl

omit [WordTable] in
/-- Under the key of a value that holds a scheme stand entities that can hold one. -/
theorem firstOf_linked (uncased : Uncased) {type : IocType} {value : Text} (signs : 58 ∈ value ∧ 47 ∈ value) (entities : List Entity) :
    firstOf (type,lower value) entities = firstOf (type,lower value) (entities.filter linked) := by
  unfold firstOf
  rw [List.find?_filter]
  congr 2
  funext entity
  by_cases keyed : indicatorKey entity = some (type,lower value)
  · obtain ⟨_,_,same⟩ := Option.map_eq_some_iff.mp keyed
    injection same with _ equal
    have colon : 58 ∈ entity.value := (uncased _ 58 (.inl rfl)).mp (equal ▸ (uncased value 58 (.inl rfl)).mpr signs.1)
    have slash : 47 ∈ entity.value := (uncased _ 47 (.inr rfl)).mp (equal ▸ (uncased value 47 (.inr rfl)).mpr signs.2)
    simp [linked,colon,slash,keyed]
  · simp [keyed]

/-- The first spelling of a value that holds a scheme is a given value, a URL or a Windows
    path. -/
theorem firstWith_links (uncased : Uncased) {type : IocType} {value : Text} (capital : Capital value) (texts : List AnalyzedText) :
    firstWith (type,lower value) (entitiesOf (texts.map (·.normalized))) = firstOf (type,lower value) (linksOf texts) := by
  have signs : 58 ∈ value ∧ 47 ∈ value := by
    have holds : linked ⟨.URL,value⟩ = true := linked_of_capital capital
    simpa [linked] using holds
  rw [firstWith_found,firstOf_linked uncased signs,firstOf_linked uncased signs (linksOf texts)]
  unfold linksOf
  simp only [List.filter_flatMap,filter_found uncased]

/-- Every indicator of a log is inert defanged just when, of the given values, URLs and
    Windows paths that are equal up to letter case, the first spells its schemes in
    lowercase. -/
theorem indicators_inert_iff {internalNetworks : List Text} {texts : List AnalyzedText} {iocs : List IocIndicator} (uncased : Uncased)
    (extracted : extractIocs internalNetworks (texts.map (·.normalized)) = .ok iocs) :
    (∀ ioc ∈ iocs, Inert ioc.defanged) ↔
      ∀ link, FirstSpelling (linksOf texts) link → (entityToIoc link.type).isSome = true → ¬ Capital link.value := by
  constructor
  · intro inert link first kind capital
    obtain ⟨type,is⟩ := Option.isSome_iff_exists.mp kind
    have keyed : indicatorKey link = some (type,lower link.value) := by rw [indicatorKey,is]; rfl
    have spelled : firstWith (type,lower link.value) (entitiesOf (texts.map (·.normalized))) = some link.value := by
      rw [firstWith_links uncased capital]
      exact firstOf_eq_some.mpr ⟨link,first,keyed,rfl⟩
    obtain ⟨ioc,member,core⟩ := (mem_extractIocs extracted type link.value _).mpr ⟨spelled,rfl⟩
    have value : ioc.value = link.value := congrArg (fun core => core.2.1) core
    have harmless := inert ioc member
    rw [defanged_of_mem extracted member,value] at harmless
    exact (inert_defang link.value).mp harmless capital
  · intro lowercase ioc member
    rw [defanged_of_mem extracted member]
    refine (inert_defang ioc.value).mpr fun capital => ?_
    obtain ⟨spelled,_⟩ := (mem_extractIocs extracted ioc.type ioc.value ioc.internal).mp ⟨ioc,member,rfl⟩
    rw [firstWith_links uncased capital] at spelled
    obtain ⟨link,first,keyed,same⟩ := firstOf_eq_some.mp spelled
    obtain ⟨type,is,_⟩ := Option.map_eq_some_iff.mp keyed
    exact lowercase link first (by rw [is]; rfl) (same ▸ capital)

end

/-- A line of a proxy log. -/
def logged (text : Text) : AnalyzedText where
  event := {
    eventId := lit "e1", recordId := lit "r1", sourceId := lit "proxy", sourceKind := .FILE, logFormat := .JSON
    eventTime := firstDay 0 (some 0) }
  text := text

private theorem uncased_ascii : @Uncased ascii := by
  intro text c sign
  have kept : ∀ d, asciiLower d = c ↔ d = c := by
    intro d
    unfold asciiLower
    split_ifs <;> omega
  simp only [lower,List.mem_map,kept,exists_eq_right]

private theorem normalized_logged [Interpreter] [WordTable] {text : Text} {entities : List Entity} (are : extractEntities text [] = entities) :
    [logged text].map (·.normalized) = [{ (logged text).event with entities := entities }] := by
  simp only [List.map_cons,List.map_nil,AnalyzedText.normalized,logged,are]

/-- An address is inert. -/
theorem address_inert :
    let _ := ascii
    let _ := asciiWords
    ∃ iocs, extractIocs [] ([logged (lit "from 10.0.0.7")].map (·.normalized)) = .ok iocs ∧ iocs.length = 1 ∧ ∀ ioc ∈ iocs, Inert ioc.defanged := by
  intro _ _
  have entities : extractEntities (lit "from 10.0.0.7") [] = [⟨.IP_ADDRESS,lit "10.0.0.7"⟩] := by decide +kernel
  obtain ⟨iocs,extracted,one⟩ : ∃ iocs, extractIocs [] ([logged (lit "from 10.0.0.7")].map (·.normalized)) = .ok iocs ∧ iocs.length = 1 := by
    rw [normalized_logged entities]
    exact ⟨_,rfl,rfl⟩
  have none : linksOf [logged (lit "from 10.0.0.7")] = [] := by decide +kernel
  refine ⟨iocs,extracted,one,(indicators_inert_iff uncased_ascii extracted).mpr ?_⟩
  rintro link ⟨before,after,whole,_⟩
  rw [none] at whole
  simp at whole

/-- A URL in capitals is shown as a live link. -/
theorem capital_url_live :
    let _ := ascii
    let _ := asciiWords
    ∃ iocs, extractIocs [] ([logged (lit "GET HTTP://evil.com")].map (·.normalized)) = .ok iocs ∧
      ∃ ioc ∈ iocs, ioc.defanged = lit "HTTP://evil[.]com" ∧ ¬ Inert ioc.defanged := by
  intro _ _
  have entities : extractEntities (lit "GET HTTP://evil.com") [] = [⟨.URL,lit "HTTP://evil.com"⟩] := by decide +kernel
  rw [normalized_logged entities]
  have shown : defang (lit "HTTP://evil.com") = lit "HTTP://evil[.]com" := by decide +kernel
  refine ⟨_,rfl,_,List.mem_cons_self,shown,?_⟩
  intro inert
  have live : Live (defang (lit "HTTP://evil.com")) :=
    ⟨[],lit "HTTP://",lit "evil[.]com",shown,lit "http",by decide,rfl,by decide⟩
  exact inert.dead live

end SocAnalyst.DefangedIndicators
