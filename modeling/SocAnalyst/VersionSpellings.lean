import Mathlib.Data.List.DropRight
import Mathlib.Logic.Relation
import SocAnalyst.Applicability

/-!
# Spellings of one version

What the key of a version keeps of its text. `Respelled` lists the edits of a text
that `parse_version` reads through; trailing zero components are not among them,
since the key holds the release as it was written.
-/
namespace SocAnalyst.VersionSpellings
open SocAnalyst.Builtins SocAnalyst.Versions SocAnalyst.Applicability

/-! ### Numbers without their trailing zeros -/

/-- The components without the zeros they end in. -/
def trimmed (components : List Nat) : List Nat := components.rdropWhile (· = 0)

@[simp] theorem trimmed_nil : trimmed [] = [] := rfl

theorem exists_zeros (components : List Nat) : ∃ n, components = trimmed components ++ List.replicate n 0 := by
  refine ⟨(components.rtakeWhile (· = 0)).length,?_⟩
  have zeros : components.rtakeWhile (· = 0) = List.replicate (components.rtakeWhile (· = 0)).length 0 := by
    rw [List.eq_replicate_iff]
    exact ⟨rfl,fun b member => by simpa using List.mem_rtakeWhile_imp member⟩
  rw [← zeros,trimmed]
  exact (List.rdropWhile_append_rtakeWhile ..).symm

/-- Two spellings of one release differ by a block of zeros. -/
theorem eq_of_trimmed {first second : List Nat} (same : trimmed first = trimmed second)
    (lengths : first.length = second.length) : first = second := by
  obtain ⟨m,left⟩ := exists_zeros first
  obtain ⟨n,right⟩ := exists_zeros second
  have counts : m = n := by
    rw [left,right,same] at lengths
    simpa using lengths
  rw [left,right,same,counts]

/-- Of two spellings the shorter one is the smaller list. -/
theorem lt_of_trimmed {first second : List Nat} (same : trimmed first = trimmed second)
    (lengths : first.length < second.length) : first < second := by
  obtain ⟨m,left⟩ := exists_zeros first
  obtain ⟨n,right⟩ := exists_zeros second
  have more : m < n := by
    rw [left,right,same] at lengths
    simpa using lengths
  have split : second = first ++ List.replicate (n - m) 0 := by
    rw [right,left,same,List.append_assoc,List.replicate_append_replicate,Nat.add_sub_cancel' more.le]
  have rest : List.replicate (n - m) 0 ≠ [] := by
    simp only [ne_eq,List.replicate_eq_nil_iff]
    omega
  rw [split]
  obtain ⟨head,tail,shape⟩ := List.exists_cons_of_ne_nil rest
  rw [shape]
  have shorter : first ++ [] < first ++ head :: tail := List.append_left_lt (List.nil_lt_cons head tail)
  simpa using shorter

theorem trimmed_cons (component : Nat) (rest : List Nat) :
    trimmed (component :: rest) = if component = 0 ∧ trimmed rest = [] then [] else component :: trimmed rest := by
  simp only [trimmed,List.rdropWhile,List.reverse_cons,List.dropWhile_append,List.reverse_eq_nil_iff]
  by_cases zeros : rest.reverse.dropWhile (· = 0) = []
  · by_cases zero : component = 0
    · simp [zeros,zero]
    · simp [zeros,zero]
  · simp [zeros]

/-- The order of the numbers decides before any zeros are reached. -/
theorem lt_of_trimmed_lt {first second : List Nat} (smaller : trimmed first < trimmed second) : first < second := by
  induction first generalizing second with
  | nil =>
    cases second with
    | nil => exact absurd smaller (List.not_lt_nil _)
    | cons b ys => exact List.nil_lt_cons b ys
  | cons a xs ih =>
    cases second with
    | nil => exact absurd smaller (List.not_lt_nil _)
    | cons b ys =>
      rw [trimmed_cons,trimmed_cons] at smaller
      rw [List.cons_lt_cons_iff]
      by_cases none : b = 0 ∧ trimmed ys = []
      · rw [if_pos none] at smaller
        exact absurd smaller (List.not_lt_nil _)
      rw [if_neg none] at smaller
      by_cases zeros : a = 0 ∧ trimmed xs = []
      · obtain ⟨rfl,blank⟩ := zeros
        by_cases zero : b = 0
        · obtain ⟨head,tail,shape⟩ := List.exists_cons_of_ne_nil (show trimmed ys ≠ [] from fun blank => none ⟨zero,blank⟩)
          refine .inr ⟨zero.symm,ih ?_⟩
          rw [blank,shape]
          exact List.nil_lt_cons head tail
        · exact .inl (Nat.pos_of_ne_zero zero)
      · rw [if_neg zeros,List.cons_lt_cons_iff] at smaller
        obtain below | ⟨level,below⟩ := smaller
        · exact .inl below
        · exact .inr ⟨level,ih below⟩

/-! ### Edits the parser reads through -/

/-- The tokens that reach the key. -/
def counts (token : Text) : Bool := token ≠ [] && token ∉ releaseWords

theorem tokens_cut {c : Nat} (cut : isSeparator c = true) (front back : Text) :
    (front ++ c :: back).splitOnP isSeparator = front.splitOnP isSeparator ++ back.splitOnP isSeparator :=
  List.splitOnP_append_cons front back cut

/-- A release word is one token, and it does not reach the key. -/
theorem releaseWord_skipped {word : Text} (known : word ∈ releaseWords) :
    (word.splitOnP isSeparator).filter counts = [] := by
  have solid : ∀ w ∈ releaseWords, w.all (fun c => !isSeparator c) = true := by decide
  have single : word.splitOnP isSeparator = [word] := by
    apply List.splitOnP_eq_singleton
    intro c member
    simpa using List.all_eq_true.mp (solid word known) c member
  simp [single,counts,known]

theorem isSpace_asciiLower (c : Nat) : isSpace (asciiLower c) = isSpace c := by
  rw [asciiLower]
  split
  · simp only [isSpace]
    rw [Bool.eq_iff_iff]
    simp
    omega
  · rfl

theorem letter_asciiLower (c : Nat) : (asciiLower c = 118 ∨ asciiLower c = 86) ↔ (c = 118 ∨ c = 86) := by
  rw [asciiLower]
  split
  · omega
  · rfl

theorem strip_map_asciiLower (s : Text) : strip (s.map asciiLower) = (strip s).map asciiLower := by
  have space : isSpace ∘ asciiLower = isSpace := funext isSpace_asciiLower
  simp only [strip,List.rdropWhile,List.dropWhile_map,space,← List.map_reverse]

section
variable [Interpreter]

/-- The text that is split into tokens. -/
def plain (text : Text) : Text := lower (cleaned text)

/-- An edit of the spelling that names the same release. -/
inductive Respelled : Text → Text → Prop where
  | leadingV (s t : Text) (v d : Nat) (rest : Text) (letter : v = 118 ∨ v = 86) (digit : isDigit d = true)
      (with_v : strip s = v :: d :: rest) (without_v : strip t = d :: rest) : Respelled s t
  | letterCase (s t : Text) (ascii_s : ∀ c ∈ s, c < 128) (ascii_t : ∀ c ∈ t, c < 128)
      (same : s.map asciiLower = t.map asciiLower) : Respelled s t
  | lowered (s t : Text) (same : plain s = plain t) : Respelled s t
  | separator (s t front back : Text) (c d : Nat) (one : isSeparator c = true) (other : isSeparator d = true)
      (with_c : plain s = front ++ c :: back) (with_d : plain t = front ++ d :: back) : Respelled s t
  | releaseWord (s t front word back : Text) (c : Nat) (known : word ∈ releaseWords) (before : isSeparator c = true)
      (after : ∀ d ∈ back.head?, isSeparator d = true)
      (with_word : plain s = front ++ c :: (word ++ back)) (without_word : plain t = front ++ back) : Respelled s t
  | leadingWord (s t word back : Text) (c : Nat) (known : word ∈ releaseWords) (after : isSeparator c = true)
      (with_word : plain s = word ++ c :: back) (without_word : plain t = back) : Respelled s t

/-- The tokens of a text that reach the key, in order. -/
def wordsOf (text : Text) : List Text := ((plain text).splitOnP isSeparator).filter counts

theorem letter_not_digit {v : Nat} (letter : v = 118 ∨ v = 86) : isDigit v = false := by
  rw [isDigit,Interpreter.decimal_ascii v (by omega),asciiDigit,if_neg (by omega)]
  rfl

theorem cleaned_with_v {s : Text} {v d : Nat} {rest : Text} (letter : v = 118 ∨ v = 86) (digit : isDigit d = true)
    (with_v : strip s = v :: d :: rest) : cleaned s = d :: rest := by
  rw [cleaned,with_v,stripLeadingV,if_pos ⟨letter,digit⟩]

theorem cleaned_without_v {t : Text} {d : Nat} {rest : Text} (digit : isDigit d = true) (without_v : strip t = d :: rest) :
    cleaned t = d :: rest := by
  have bare : ¬ (d = 118 ∨ d = 86) := fun letter => by simp [letter_not_digit letter] at digit
  rw [cleaned,without_v]
  cases rest with
  | nil => rfl
  | cons e rest => rw [stripLeadingV,if_neg (fun found => bare found.1)]

theorem isDigit_asciiLower {c : Nat} (small : c < 128) : isDigit (asciiLower c) = isDigit c := by
  by_cases upper : 65 ≤ c ∧ c ≤ 90
  · rw [asciiLower,if_pos upper,isDigit,isDigit,Interpreter.decimal_ascii _ (by omega),Interpreter.decimal_ascii _ small,
      asciiDigit,asciiDigit,if_neg (by omega),if_neg (by omega)]
  · rw [asciiLower,if_neg upper]

theorem stripLeadingV_map_asciiLower {s : Text} (small : ∀ c ∈ s, c < 128) :
    stripLeadingV (s.map asciiLower) = (stripLeadingV s).map asciiLower := by
  match s with
  | [] => rfl
  | [c] => rfl
  | c :: d :: rest =>
    simp only [List.map_cons,stripLeadingV,letter_asciiLower,isDigit_asciiLower (small d (by simp))]
    split
    · rfl
    · rfl

theorem stripLeadingV_subset (s : Text) : stripLeadingV s ⊆ s := by
  match s with
  | [] => exact List.Subset.refl _
  | [c] => exact List.Subset.refl _
  | c :: d :: rest =>
    rw [stripLeadingV]
    split
    · exact List.subset_cons_self c _
    · exact List.Subset.refl _

/-- On ASCII the lowered text depends on the lowered input only. -/
theorem plain_ascii {s : Text} (small : ∀ c ∈ s, c < 128) : plain s = stripLeadingV (strip (s.map asciiLower)) := by
  have inner : ∀ c ∈ strip s, c < 128 := fun c member => small c ((strip_sublist s).subset member)
  rw [plain,cleaned,Interpreter.lower_ascii _ fun c member => inner c (stripLeadingV_subset _ member),strip_map_asciiLower,
    stripLeadingV_map_asciiLower inner]

/-- Every edit keeps the tokens that reach the key. -/
theorem Respelled.wordsOf_eq {s t : Text} (edit : Respelled s t) : wordsOf s = wordsOf t := by
  cases edit with
  | leadingV v d rest letter digit with_v without_v =>
    have same : plain s = plain t := by
      rw [plain,plain,cleaned_with_v letter digit with_v,cleaned_without_v digit without_v]
    rw [wordsOf,wordsOf,same]
  | letterCase ascii_s ascii_t same =>
    rw [wordsOf,wordsOf,plain_ascii ascii_s,plain_ascii ascii_t,same]
  | lowered same =>
    rw [wordsOf,wordsOf,same]
  | separator front back c d one other with_c with_d =>
    rw [wordsOf,wordsOf,with_c,with_d,tokens_cut one,tokens_cut other]
  | releaseWord front word back c known before after with_word without_word =>
    rw [wordsOf,wordsOf,with_word,without_word,tokens_cut before,List.filter_append]
    cases back with
    | nil => simp [releaseWord_skipped known]
    | cons d back =>
      have cut : isSeparator d = true := after d rfl
      rw [tokens_cut cut,tokens_cut cut,List.filter_append,List.filter_append,releaseWord_skipped known,List.nil_append]
  | leadingWord word back c known after with_word without_word =>
    rw [wordsOf,wordsOf,with_word,without_word,tokens_cut after,List.filter_append,releaseWord_skipped known,List.nil_append]

theorem eqvGen_wordsOf {s t : Text} (edits : Relation.EqvGen Respelled s t) : wordsOf s = wordsOf t := by
  induction edits with
  | rel s t edit => exact edit.wordsOf_eq
  | refl s => rfl
  | symm s t _ ih => exact ih.symm
  | trans s t u _ _ first second => exact first.trans second

theorem releaseWord_not_numeric {word : Text} (known : word ∈ releaseWords) : numeric word = none := by
  have shape : ∀ w ∈ releaseWords, dropFinalNewline w = w ∧ ∃ c ∈ w, isLowerLetter c = true := by decide
  obtain ⟨whole,c,member,letter⟩ := shape word known
  have no_digit : isDigit c = false := by
    simp only [isLowerLetter,Bool.and_eq_true,decide_eq_true_eq] at letter
    rw [isDigit,Interpreter.decimal_ascii c (by omega),asciiDigit,if_neg (by omega)]
    rfl
  have mixed : word.all isDigit = false := by
    rw [List.all_eq_false]
    exact ⟨c,member,by simp [no_digit]⟩
  simp only [numeric,whole,mixed]
  simp

/-- The loop passes through the tokens that do not count. -/
theorem readTokens_counts (scan : Scan) (words : List Text) : readTokens scan (words.filter counts) = readTokens scan words := by
  induction words generalizing scan with
  | nil => rfl
  | cons token rest ih =>
    by_cases counted : counts token = true
    · rw [List.filter_cons_of_pos counted,readTokens,readTokens]
      split
      · rfl
      · rfl
      · exact ih _
    · rw [List.filter_cons_of_neg counted,ih,readTokens]
      have passed : readToken scan token = .ok (some scan) := by
        by_cases blank : token = []
        · rw [readToken,if_pos blank]
        · have word : token ∈ releaseWords := by
            by_contra other
            exact counted (by simp [counts,blank,other])
          rw [readToken,if_neg blank,releaseWord_not_numeric word,if_pos word]
      rw [passed]

/-- What a parsed version was read from. -/
theorem parses_scan {text : Text} {v : Version} (parsed : Parses (some text) v) :
    ∃ scan, readTokens ⟨[],[],false⟩ (tokens text) = .ok (some scan) ∧
      v.sortKey = toLex (scan.release,toLex (if scan.seenPrerelease then 0 else 1,scan.prerelease)) := by
  rw [Parses,parseVersion] at parsed
  by_cases blank : text = [] ∨ cleaned text = []
  · rw [if_pos blank] at parsed
    cases parsed
  rw [if_neg blank] at parsed
  cases run : readTokens ⟨[],[],false⟩ (tokens text) with
  | error e => rw [run] at parsed; cases parsed
  | ok outcome =>
    cases outcome with
    | none => rw [run] at parsed; cases parsed
    | some scan =>
      rw [run] at parsed
      by_cases bare : scan.release = []
      · simp [bare] at parsed
      · simp only [if_neg bare] at parsed
        cases parsed
        exact ⟨scan,rfl,rfl⟩

/-- The parsed key is a function of the tokens that reach it. -/
theorem sortKey_of_wordsOf {s t : Text} {v w : Version} (parsed_s : Parses (some s) v) (parsed_t : Parses (some t) w)
    (same : wordsOf s = wordsOf t) : v.sortKey = w.sortKey := by
  have scans : readTokens ⟨[],[],false⟩ (tokens s) = readTokens ⟨[],[],false⟩ (tokens t) := by
    rw [← readTokens_counts _ (tokens s),← readTokens_counts _ (tokens t)]
    exact congrArg (readTokens ⟨[],[],false⟩) same
  obtain ⟨scan,read_s,key_v⟩ := parses_scan parsed_s
  obtain ⟨scan',read_t,key_w⟩ := parses_scan parsed_t
  have one : scan = scan' := by
    rw [scans,read_t] at read_s
    cases read_s
    rfl
  rw [key_v,key_w,one]

end

/-! ### Versions by the release they name -/

section
variable (v w : Version)

/-- The numeric components as written. -/
def release : List Nat := (ofLex v.sortKey).1
/-- The numeric components up to trailing zeros. -/
def components : List Nat := trimmed (release v)
/-- Whether a pre-release suffix was read. -/
def isPrerelease : Bool := (ofLex (ofLex v.sortKey).2).1 = 0
/-- The parts of the pre-release suffix. -/
def suffix : List Nat := (ofLex (ofLex v.sortKey).2).2

/-- The two name one release. -/
def SameRelease : Prop := components v = components w ∧ isPrerelease v = isPrerelease w ∧ suffix v = suffix w
/-- The first is a pre-release of the second. -/
def PrereleaseOf : Prop := isPrerelease v = true ∧ isPrerelease w = false ∧ components v = components w
/-- The first has smaller components. -/
def Smaller : Prop := components v < components w

/-- No comparison tells the two apart. -/
def ComparesAlike : Prop :=
  ∀ u : Version, (v < u ↔ w < u) ∧ (u < v ↔ u < w) ∧ (v ≤ u ↔ w ≤ u) ∧ (u ≤ v ↔ u ≤ w) ∧
    (v.sortKey = u.sortKey ↔ w.sortKey = u.sortKey)

/-- As many components are written for two spellings of one release, and no more
    for a pre-release than for its release. -/
def WrittenOut : Prop :=
  (SameRelease v w → (release v).length = (release w).length) ∧
    (PrereleaseOf v w → (release v).length ≤ (release w).length)

instance : Decidable (SameRelease v w) := inferInstanceAs (Decidable (_ ∧ _ ∧ _))
instance : Decidable (PrereleaseOf v w) := inferInstanceAs (Decidable (_ ∧ _ ∧ _))
instance : Decidable (WrittenOut v w) := inferInstanceAs (Decidable ((_ → _) ∧ (_ → _)))

end

/-- A range in which a bound spelled `s` is spelled `t` instead. -/
def respell (s t : Text) (affected : AffectedRange) : AffectedRange :=
  let edit : Option Text → Option Text := fun bound => if bound = some s then some t else bound
  { affected with
    versionStartIncluding := edit affected.versionStartIncluding
    versionStartExcluding := edit affected.versionStartExcluding
    versionEndIncluding := edit affected.versionEndIncluding
    versionEndExcluding := edit affected.versionEndExcluding }

section
variable [Interpreter]

/-- Neither a comparison nor a range check tells the two spellings apart, on
    either side of a bound. -/
def Interchangeable (s t : Text) (v w : Version) : Prop :=
  ComparesAlike v w ∧ ∀ affected : AffectedRange, inVulnerableRange v affected = inVulnerableRange w affected ∧
    ∀ u : Version, inVulnerableRange u (respell s t affected) = inVulnerableRange u affected

/-- Comparison depends only on the release that the two texts name. -/
def SpellingBlind (s t : Text) (v w : Version) : Prop :=
  (Relation.EqvGen Respelled s t → Interchangeable s t v w) ∧ (SameRelease v w → Interchangeable s t v w) ∧
    (PrereleaseOf v w → v < w ∧ ∀ u : Version, Smaller u w → u < v)

end
/-! ### What the order does with them -/

section
variable {v w : Version}

theorem sortKey_ext (releases : release v = release w) (kinds : (ofLex (ofLex v.sortKey).2).1 = (ofLex (ofLex w.sortKey).2).1)
    (suffixes : suffix v = suffix w) : v.sortKey = w.sortKey :=
  congrArg toLex (Prod.ext releases (congrArg toLex (Prod.ext kinds suffixes)))

theorem lt_of_release (releases : release v < release w) : v < w := by
  rw [Version.lt_def,Prod.Lex.lt_iff]
  exact .inl releases

theorem release_le (before : v < w) : release v ≤ release w := by
  rw [Version.lt_def,Prod.Lex.lt_iff] at before
  obtain below | ⟨level,_⟩ := before
  · exact le_of_lt below
  · exact le_of_eq level

theorem comparesAlike_iff : ComparesAlike v w ↔ v.sortKey = w.sortKey := by
  constructor
  · intro alike
    exact ((alike v).2.2.2.2.mp rfl).symm
  · intro same u
    simp only [Version.lt_def,Version.le_def,same,iff_self,and_self]

theorem satisfies_sortKey (comparison : Comparison) (same : v.sortKey = w.sortKey) (u : Version) :
    comparison.satisfies v u = comparison.satisfies w u ∧ comparison.satisfies u v = comparison.satisfies u w := by
  cases comparison with
  | ge => simp only [Comparison.satisfies,Version.le_def,same,and_self]
  | gt => simp only [Comparison.satisfies,Version.lt_def,same,and_self]
  | le => simp only [Comparison.satisfies,Version.le_def,same,and_self]
  | lt => simp only [Comparison.satisfies,Version.lt_def,same,and_self]

end

section
variable [Interpreter] {s t : Text} {v w : Version}

theorem checkBounds_sortKey (same : v.sortKey = w.sortKey) (bounds : List (Option Text × Comparison)) :
    checkBounds v bounds = checkBounds w bounds := by
  induction bounds with
  | nil => rfl
  | cons first rest ih =>
    obtain ⟨raw,comparison⟩ := first
    cases raw with
    | none => exact ih
    | some raw =>
      simp only [checkBounds,(satisfies_sortKey comparison same _).1,ih]

/-- A bound as `respell` leaves it. -/
def respelledBound (s t : Text) (bound : Option Text × Comparison) : Option Text × Comparison :=
  (if bound.1 = some s then some t else bound.1,bound.2)

theorem checkBounds_respelled (parsed_s : Parses (some s) v) (parsed_t : Parses (some t) w) (same : v.sortKey = w.sortKey)
    (u : Version) (bounds : List (Option Text × Comparison)) :
    checkBounds u (bounds.map (respelledBound s t)) = checkBounds u bounds := by
  induction bounds with
  | nil => rfl
  | cons first rest ih =>
    obtain ⟨raw,comparison⟩ := first
    rw [List.map_cons,respelledBound]
    by_cases spelled : raw = some s
    · subst spelled
      rw [if_pos rfl,checkBounds,checkBounds,parsed_s,parsed_t]
      simp only [(satisfies_sortKey comparison same u).2,ih]
    · rw [if_neg spelled]
      cases raw with
      | none => exact ih
      | some raw => simp only [checkBounds,ih]

theorem parses_truthy (parsed : Parses (some s) v) : truthy (some s) = true := by
  rw [truthy_some]
  rintro rfl
  cases parsed

theorem isUnbounded_respell (parsed_s : Parses (some s) v) (parsed_t : Parses (some t) w) (affected : AffectedRange) :
    (respell s t affected).isUnbounded = affected.isUnbounded := by
  have edited : ∀ bound, truthy (if bound = some s then some t else bound) = truthy bound := by
    intro bound
    by_cases spelled : bound = some s
    · rw [if_pos spelled,spelled,parses_truthy parsed_s,parses_truthy parsed_t]
    · rw [if_neg spelled]
  simp only [AffectedRange.isUnbounded,respell,edited]

theorem interchangeable_iff (parsed_s : Parses (some s) v) (parsed_t : Parses (some t) w) :
    Interchangeable s t v w ↔ v.sortKey = w.sortKey := by
  constructor
  · exact fun same => comparesAlike_iff.mp same.1
  · intro same
    refine ⟨comparesAlike_iff.mpr same,fun affected => ⟨?_,fun u => ?_⟩⟩
    · rw [inVulnerableRange,inVulnerableRange,checkBounds_sortKey same]
    · rw [inVulnerableRange,inVulnerableRange,isUnbounded_respell parsed_s parsed_t,
        ← checkBounds_respelled parsed_s parsed_t same u affected.bounds]
      rfl

/-- A parsed key holds 0 for a pre-release and 1 for a final release. -/
theorem kind_of_parses (parsed : Parses (some s) v) :
    (ofLex (ofLex v.sortKey).2).1 = if isPrerelease v then 0 else 1 := by
  obtain ⟨scan,_,key⟩ := parses_scan parsed
  rw [isPrerelease,key]
  cases scan.seenPrerelease with
  | false => rfl
  | true => rfl

theorem sameRelease_iff (parsed_s : Parses (some s) v) (parsed_t : Parses (some t) w) (same : SameRelease v w) :
    v.sortKey = w.sortKey ↔ (release v).length = (release w).length := by
  constructor
  · intro keys
    rw [release,release,keys]
  · intro lengths
    obtain ⟨components,kinds,suffixes⟩ := same
    refine sortKey_ext (eq_of_trimmed components lengths) ?_ suffixes
    rw [kind_of_parses parsed_s,kind_of_parses parsed_t,kinds]

theorem prerelease_below_iff (parsed_s : Parses (some s) v) (parsed_t : Parses (some t) w) (before : PrereleaseOf v w) :
    v < w ↔ (release v).length ≤ (release w).length := by
  obtain ⟨marked,final,components⟩ := before
  constructor
  · intro below
    by_contra longer
    have above : release w < release v := lt_of_trimmed components.symm (by omega)
    exact absurd (release_le below) (not_le_of_gt above)
  · intro lengths
    obtain shorter | level := lt_or_eq_of_le lengths
    · exact lt_of_release (lt_of_trimmed components shorter)
    · have releases : release v = release w := eq_of_trimmed components level
      rw [Version.lt_def,Prod.Lex.lt_iff]
      refine .inr ⟨releases,?_⟩
      rw [Prod.Lex.lt_iff]
      refine .inl ?_
      rw [kind_of_parses parsed_s,kind_of_parses parsed_t,marked,final]
      decide

/-- The spelling is seen by no comparison exactly when the trailing zeros written
    for a release are. -/
theorem spellingBlind_iff (s t : Text) (v w : Version) (parsed_s : Parses (some s) v) (parsed_t : Parses (some t) w) :
    SpellingBlind s t v w ↔ WrittenOut v w := by
  constructor
  · rintro ⟨_,releases,prereleases⟩
    refine ⟨fun same => ?_,fun before => ?_⟩
    · exact (sameRelease_iff parsed_s parsed_t same).mp ((interchangeable_iff parsed_s parsed_t).mp (releases same))
    · exact (prerelease_below_iff parsed_s parsed_t before).mp (prereleases before).1
  · rintro ⟨releases,prereleases⟩
    refine ⟨fun edits => ?_,fun same => ?_,fun before => ⟨?_,fun u smaller => ?_⟩⟩
    · exact (interchangeable_iff parsed_s parsed_t).mpr (sortKey_of_wordsOf parsed_s parsed_t (eqvGen_wordsOf edits))
    · exact (interchangeable_iff parsed_s parsed_t).mpr ((sameRelease_iff parsed_s parsed_t same).mpr (releases same))
    · exact (prerelease_below_iff parsed_s parsed_t before).mpr (prereleases before)
    · have below : components u < components v := by
        rw [before.2.2]
        exact smaller
      exact lt_of_release (lt_of_trimmed_lt below)

end

/-- The version that `2.0` names. -/
def twoZero : Version := ⟨toLex ([2,0],toLex (1,[])),lit "2.0"⟩
/-- The version that `v2.0-RC1` names. -/
def candidate : Version := ⟨toLex ([2,0],toLex (0,[4,1])),lit "v2.0-RC1"⟩
/-- The version that `2.0.0` names. -/
def twoZeroZero : Version := ⟨toLex ([2,0,0],toLex (1,[])),lit "2.0.0"⟩

theorem candidate_parses : let _ := ascii; Parses (some (lit "v2.0-RC1")) candidate := rfl
theorem twoZero_parses : let _ := ascii; Parses (some (lit "2.0")) twoZero := rfl
theorem twoZeroZero_parses : let _ := ascii; Parses (some (lit "2.0.0")) twoZeroZero := rfl

theorem candidate_spellingBlind : let _ := ascii; SpellingBlind (lit "v2.0-RC1") (lit "2.0") candidate twoZero :=
  let _ := ascii
  (spellingBlind_iff (lit "v2.0-RC1") (lit "2.0") candidate twoZero candidate_parses twoZero_parses).mpr (by decide +kernel)

/-- `2.0` is below `2.0.0`, though both name one release. -/
theorem trailing_zero_seen :
    let _ := ascii
    ¬ ∀ (s t : Text) (v w : Version), Parses (some s) v → Parses (some t) w → SpellingBlind s t v w := by
  intro _ law
  have blind := law (lit "2.0") (lit "2.0.0") twoZero twoZeroZero twoZero_parses twoZeroZero_parses
  have same : SameRelease twoZero twoZeroZero := by decide +kernel
  have less : twoZero < twoZeroZero := by decide +kernel
  exact lt_irrefl twoZeroZero.sortKey (((blind.2.1 same).1 twoZeroZero).1.mp less)

end SocAnalyst.VersionSpellings
