import SocAnalyst.AlertTemplates
import SocAnalyst.Pieces

/-!
# Links in alerts

Which URL schemes are left live in what an alert quotes. `defang` breaks a scheme where the
pattern matches it, before control characters are dropped; a scheme that the pattern does
not match shows as it is.
-/
namespace SocAnalyst.AlertLinks
open SocAnalyst.Builtins SocAnalyst.Pieces SocAnalyst.Notifications SocAnalyst.AlertTemplates

/-! ### Schemes -/

/-- A text that is a URL scheme with its separator, in any letter case. -/
def IsScheme (text : Text) : Prop := ∃ name ∈ schemes, text.length = name.length + 3 ∧ opensWith (name ++ lit "://") text = true

/-- A scheme stands in the text. -/
def Live (text : Text) : Prop := ∃ before scheme after, text = before ++ scheme ++ after ∧ IsScheme scheme

/-- The letters a scheme begins with. -/
def Opens (c : Nat) : Prop := c ∈ [104,72,102,70]

/-- The letters that follow in a scheme. -/
def Follows (c : Nat) : Prop := c ∈ [116,84,112,80,115,83,383]

instance (c : Nat) : Decidable (Opens c) := inferInstanceAs (Decidable (c ∈ [104,72,102,70]))
instance (c : Nat) : Decidable (Follows c) := inferInstanceAs (Decidable (c ∈ [116,84,112,80,115,83,383]))

theorem opensWith_length {pattern text : Text} (opens : opensWith pattern text = true) : pattern.length ≤ text.length := by
  induction pattern generalizing text with
  | nil => simp
  | cons letter letters ih =>
    cases text with
    | nil => cases opens
    | cons c rest =>
      simp only [opensWith,Bool.and_eq_true] at opens
      simpa using ih opens.2

/-- Whether a text opens with a pattern is seen in its first characters. -/
theorem opensWith_append {pattern text : Text} (short : pattern.length ≤ text.length) (rest : Text) :
    opensWith pattern (text ++ rest) = opensWith pattern text := by
  induction pattern generalizing text with
  | nil => rfl
  | cons letter letters ih =>
    cases text with
    | nil => simp at short
    | cons c others =>
      simp only [List.length_cons,Nat.add_le_add_iff_right] at short
      simp only [List.cons_append,opensWith,ih short]

theorem schemeAt_some {text : Text} {length : Nat} (found : schemeAt text = some length) :
    ∃ scheme rest, text = scheme ++ rest ∧ IsScheme scheme ∧ scheme.length = length + 3 := by
  obtain ⟨name,first,rfl⟩ := Option.map_eq_some_iff.mp found
  have opens : opensWith (name ++ lit "://") text = true := by simpa using List.find?_some first
  have long := opensWith_length opens
  have whole : (name ++ lit "://").length = name.length + 3 := by simp [lit]
  rw [whole] at long
  have exact_length : (text.take (name.length + 3)).length = name.length + 3 := List.length_take_of_le long
  refine ⟨text.take (name.length + 3),text.drop (name.length + 3),(List.take_append_drop ..).symm,⟨name,List.mem_of_find?_eq_some first,
    exact_length,?_⟩,exact_length⟩
  rw [← List.take_append_drop (name.length + 3) text,opensWith_append (by rw [whole,exact_length])] at opens
  exact opens

theorem opensWith_letters {name separator text : Text} (opens : opensWith (name ++ separator) text = true) :
    ∃ front back, text = front ++ back ∧ (∀ c ∈ front, ∃ letter ∈ name, sameLetter letter c = true) ∧ front.length = name.length ∧
      opensWith separator back = true := by
  induction name generalizing text with
  | nil => exact ⟨[],text,rfl,fun _ none => absurd none List.not_mem_nil,rfl,opens⟩
  | cons letter letters ih =>
    cases text with
    | nil => cases opens
    | cons c rest =>
      simp only [List.cons_append,opensWith,Bool.and_eq_true] at opens
      obtain ⟨front,back,rfl,matched,length,later⟩ := ih opens.2
      refine ⟨c :: front,back,rfl,List.forall_mem_cons.mpr ⟨⟨letter,List.mem_cons_self ..,opens.1⟩,fun x member => ?_⟩,by simp [length],later⟩
      obtain ⟨which,listed,same⟩ := matched x member
      exact ⟨which,List.mem_cons_of_mem _ listed,same⟩

theorem sameLetter_cases {letter c : Nat} (same : sameLetter letter c = true) :
    c = letter ∨ (97 ≤ letter ∧ letter ≤ 122 ∧ c + 32 = letter) ∨ letter = 115 ∧ c = 383 := by
  simpa [sameLetter,or_assoc,and_assoc] using same

theorem separator_of_opens {text : Text} (opens : opensWith (lit "://") text = true) (length : text.length = 3) : text = lit "://" := by
  match text,length with
  | [a,b,c],_ =>
    change opensWith [58,47,47] [a,b,c] = true at opens
    simp only [opensWith,Bool.and_eq_true,and_true] at opens
    obtain ⟨colon,slash,again⟩ := opens
    have first := sameLetter_cases colon
    have second := sameLetter_cases slash
    have third := sameLetter_cases again
    have all : a = 58 ∧ b = 47 ∧ c = 47 := by omega
    obtain ⟨rfl,rfl,rfl⟩ := all
    rfl

/-- A scheme is a letter, more letters and the separator. -/
theorem IsScheme.shape {scheme : Text} (isScheme : IsScheme scheme) :
    ∃ first middle, scheme = first :: middle ++ lit "://" ∧ Opens first ∧ ∀ c ∈ middle, Follows c := by
  obtain ⟨name,listed,length,opens⟩ := isScheme
  obtain ⟨initial,others,rfl,begins,goes⟩ : ∃ initial others, name = initial :: others ∧ (initial = 104 ∨ initial = 102) ∧
      ∀ letter ∈ others, letter = 116 ∨ letter = 112 ∨ letter = 115 := by
    simp only [schemes,List.mem_cons,List.not_mem_nil,or_false] at listed
    rcases listed with rfl | rfl | rfl
    · exact ⟨104,lit "ttps",rfl,.inl rfl,by decide⟩
    · exact ⟨104,lit "ttp",rfl,.inl rfl,by decide⟩
    · exact ⟨102,lit "tp",rfl,.inr rfl,by decide⟩
  cases scheme with
  | nil => cases opens
  | cons first rest =>
    simp only [List.cons_append,opensWith,Bool.and_eq_true] at opens
    obtain ⟨front,back,rfl,matched,same,separated⟩ := opensWith_letters opens.2
    have three : back.length = 3 := by
      simp only [List.length_cons,List.length_append] at length
      omega
    refine ⟨first,front,by rw [separator_of_opens separated three]; rfl,?_,fun c member => ?_⟩
    · have cases := sameLetter_cases opens.1
      simp only [Opens,List.mem_cons,List.not_mem_nil,or_false]
      omega
    · obtain ⟨letter,inName,letters⟩ := matched c member
      have cases := sameLetter_cases letters
      have which := goes letter inName
      simp only [Follows,List.mem_cons,List.not_mem_nil,or_false]
      omega

/-- The characters of a scheme. -/
def InScheme (c : Nat) : Prop := Opens c ∨ Follows c ∨ c = 58 ∨ c = 47

theorem IsScheme.chars {scheme : Text} (isScheme : IsScheme scheme) : ∀ c ∈ scheme, InScheme c := by
  obtain ⟨first,middle,rfl,opens,follows⟩ := isScheme.shape
  intro c member
  simp only [List.cons_append,List.mem_cons,List.mem_append] at member
  rcases member with rfl | inside | separator
  · exact .inl opens
  · exact .inr (.inl (follows c inside))
  · have sign : c = 58 ∨ c = 47 := by simpa [lit] using separator
    exact .inr (.inr sign)

theorem IsScheme.colon {scheme : Text} (isScheme : IsScheme scheme) : 58 ∈ scheme := by
  obtain ⟨first,middle,rfl,_,_⟩ := isScheme.shape
  simp [lit]

theorem IsScheme.ne_nil {scheme : Text} (isScheme : IsScheme scheme) : scheme ≠ [] := List.ne_nil_of_mem isScheme.colon

theorem InScheme.bounds {c : Nat} (inside : InScheme c) :
    c = 104 ∨ c = 72 ∨ c = 102 ∨ c = 70 ∨ c = 116 ∨ c = 84 ∨ c = 112 ∨ c = 80 ∨ c = 115 ∨ c = 83 ∨ c = 383 ∨ c = 58 ∨ c = 47 := by
  simpa only [InScheme,Opens,Follows,List.mem_cons,List.not_mem_nil,or_false,or_assoc] using inside

theorem InScheme.not_control {c : Nat} (inside : InScheme c) : isControl c = false := by
  rcases inside.bounds with rfl | rfl | rfl | rfl | rfl | rfl | rfl | rfl | rfl | rfl | rfl | rfl | rfl <;> decide

theorem InScheme.not_space {c : Nat} (inside : InScheme c) : isSpace c = false := by
  rcases inside.bounds with rfl | rfl | rfl | rfl | rfl | rfl | rfl | rfl | rfl | rfl | rfl | rfl | rfl <;> decide

theorem InScheme.not_breaker {c : Nat} (inside : InScheme c) : isBreaker c = false := by
  rcases inside.bounds with rfl | rfl | rfl | rfl | rfl | rfl | rfl | rfl | rfl | rfl | rfl | rfl | rfl <;> decide

/-- Schemes that begin one text are the same. -/
theorem scheme_unique {s t x y : Text} (first : IsScheme s) (second : IsScheme t) (same : s ++ x = t ++ y) : s = t := by
  obtain ⟨a,middle,rfl,opens,follows⟩ := first.shape
  obtain ⟨b,others,rfl,begins,goes⟩ := second.shape
  have letters : ∀ {c : Nat} {rest : Text}, Opens c → (∀ d ∈ rest, Follows d) → ∀ d ∈ c :: rest, (decide (d ≠ 58)) = true := by
    intro c rest initial later d member
    rcases List.mem_cons.mp member with rfl | inside
    · exact decide_eq_true fun equal => absurd (equal ▸ initial) (by decide)
    · exact decide_eq_true fun equal => absurd (equal ▸ later d inside) (by decide)
  have cut : ∀ {c : Nat} {rest more : Text}, Opens c → (∀ d ∈ rest, Follows d) →
      (c :: rest ++ lit "://" ++ more).takeWhile (fun d => d ≠ 58) = c :: rest := by
    intro c rest more initial later
    rw [List.append_assoc,List.takeWhile_append_of_pos (letters initial later)]
    simp [lit]
  have names : a :: middle = b :: others := by rw [← cut opens follows,same,cut begins goes]
  rw [names]

theorem schemeAt_scheme {scheme : Text} (isScheme : IsScheme scheme) (rest : Text) :
    schemeAt (scheme ++ rest) = some (scheme.length - 3) := by
  obtain ⟨name,listed,length,opens⟩ := isScheme
  have whole : (name ++ lit "://").length = name.length + 3 := by simp [lit]
  have found : schemeAt (scheme ++ rest) ≠ none := by
    intro none
    have missed := List.find?_eq_none.mp (Option.map_eq_none_iff.mp none) name listed
    rw [opensWith_append (by rw [whole,length])] at missed
    exact missed opens
  obtain ⟨n,at_start⟩ := Option.ne_none_iff_exists'.mp found
  obtain ⟨other,more,same,another,size⟩ := schemeAt_some at_start
  rw [at_start,scheme_unique ⟨name,listed,length,opens⟩ another same]
  simp [size]

/-! ### Defanging -/

section
variable [WordTable]

/-- Whether a text ends with a word character, given what stands before it. -/
def wordAfter : Bool → Text → Bool
  | afterWord, [] => afterWord
  | _, c :: rest => wordAfter (word c) rest

theorem wordAfter_append (afterWord : Bool) (text rest : Text) :
    wordAfter afterWord (text ++ rest) = wordAfter (wordAfter afterWord text) rest := by
  induction text generalizing afterWord with
  | nil => rfl
  | cons c others ih => exact ih (word c)

theorem defangFrom_skip {skipped : Nat} {text : Text} (long : skipped ≤ text.length) (afterWord : Bool) :
    defangFrom skipped afterWord text = defangFrom 0 (wordAfter afterWord (text.take skipped)) (text.drop skipped) := by
  induction skipped generalizing afterWord text with
  | zero => rfl
  | succ skipped ih =>
    cases text with
    | nil => simp at long
    | cons c rest =>
      simp only [List.length_cons,Nat.add_le_add_iff_right] at long
      rw [defangFrom,ih long]
      rfl

/-- A scheme that is not right after a word character is broken up. -/
theorem defangFrom_scheme {first : Nat} {middle : Text} (isScheme : IsScheme (first :: middle ++ lit "://")) (rest : Text) :
    defangFrom 0 false (first :: middle ++ lit "://" ++ rest) = first :: middle ++ lit "[://]" ++ defangFrom 0 (word 47) rest := by
  have found := schemeAt_scheme isScheme rest
  have size : (first :: middle ++ lit "://").length - 3 = middle.length + 1 := by simp [lit]
  rw [size] at found
  have shape : first :: middle ++ lit "://" ++ rest = first :: (middle ++ lit "://" ++ rest) := rfl
  rw [shape] at found ⊢
  rw [defangFrom,if_neg (by simp),found]
  dsimp only
  have length : (middle ++ lit "://").length = middle.length + 1 + 2 := by simp [lit]
  have ended : wordAfter (word first) (middle ++ lit "://") = word 47 := by rw [wordAfter_append]; rfl
  have name : (first :: (middle ++ lit "://" ++ rest)).take (middle.length + 1) = first :: middle := by
    rw [List.take_succ_cons,List.append_assoc,List.take_left]
  rw [defangFrom_skip (by rw [List.length_append,length]; omega),← length,List.take_left,List.drop_left,ended,name]

/-- Any other character is kept. -/
theorem defangFrom_keep {afterWord : Bool} {c : Nat} {rest : Text} (kept : afterWord = true ∨ schemeAt (c :: rest) = none) :
    defangFrom 0 afterWord (c :: rest) = c :: defangFrom 0 (word c) rest := by
  rw [defangFrom]
  rcases kept with inside | none
  · rw [if_pos inside]
  · rw [none,ite_self]

omit [WordTable] in
theorem defang_cases (afterWord : Bool) (text : Text) :
    text = [] ∨ (afterWord = false ∧ ∃ first middle rest, text = first :: middle ++ lit "://" ++ rest ∧
      IsScheme (first :: middle ++ lit "://") ∧ Opens first ∧ ∀ c ∈ middle, Follows c) ∨
      ∃ c rest, text = c :: rest ∧ (afterWord = true ∨ schemeAt (c :: rest) = none) := by
  cases text with
  | nil => exact .inl rfl
  | cons c rest =>
    cases afterWord with
    | true => exact .inr (.inr ⟨c,rest,rfl,.inl rfl⟩)
    | false =>
      cases found : schemeAt (c :: rest) with
      | none => exact .inr (.inr ⟨c,rest,rfl,.inr found⟩)
      | some n =>
        obtain ⟨scheme,more,whole,isScheme,_⟩ := schemeAt_some found
        obtain ⟨first,middle,rfl,opens,follows⟩ := isScheme.shape
        exact .inr (.inl ⟨rfl,first,middle,more,whole,isScheme,opens,follows⟩)

end

/-! ### Schemes that the pattern does not match -/

/-- A stretch of text that reads as a scheme when its control characters are dropped. -/
structure Spelled (raw : Text) : Prop where
  scheme : IsScheme (dropControl raw)
  opened : ∀ c ∈ raw.head?, isControl c = false
  closed : ∀ c ∈ raw.getLast?, isControl c = false

theorem dropControl_plain {text : Text} (plain : ∀ c ∈ text, isControl c = false) : dropControl text = text :=
  List.filter_eq_self.mpr fun c member => by simp [plain c member]

/-- Within a spelled scheme no other begins. -/
theorem Spelled.shape {raw : Text} (spelled : Spelled raw) :
    ∃ first inner, raw = first :: inner ++ [47] ∧ Opens first ∧ ∀ c ∈ inner, ¬ Opens c ∧ c ≠ 91 := by
  obtain ⟨f,middle,shape,opens,follows⟩ := spelled.scheme.shape
  cases raw with
  | nil => cases shape
  | cons first rest =>
    have shown : isControl first = false := spelled.opened first rfl
    rw [dropControl,List.filter_cons_of_pos (by simp [shown]),List.cons_append] at shape
    injection shape with same later
    have some : rest ≠ [] := by
      rintro rfl
      simp [lit] at later
    have ended : isControl (rest.getLast some) = false := spelled.closed _ (by rw [List.getLast?_cons_of_ne_nil some,List.getLast?_eq_getLast_of_ne_nil some]; rfl)
    have last := List.dropLast_append_getLast some
    rw [← last,List.filter_append,List.filter_cons_of_pos (by simp [ended]),List.filter_nil] at later
    have parts : rest.dropLast.filter (fun c => !isControl c) = middle ++ [58,47] ∧ rest.getLast some = 47 := by
      have split : middle ++ lit "://" = (middle ++ [58,47]) ++ [47] := by rw [List.append_assoc]; rfl
      rw [split] at later
      simpa using List.append_inj' later rfl
    refine ⟨first,rest.dropLast,by rw [← parts.2,List.cons_append,last],same ▸ opens,fun c member => ?_⟩
    by_cases control : isControl c = true
    · refine ⟨fun begins => ?_,fun bracket => ?_⟩
      · rw [InScheme.not_control (.inl begins)] at control
        cases control
      · rw [bracket] at control
        cases control
    · have kept : c ∈ middle ++ [58,47] := parts.1 ▸ List.mem_filter.mpr ⟨member,by simpa using control⟩
      simp only [List.mem_append,List.mem_cons,List.not_mem_nil,or_false] at kept
      rcases kept with letter | rfl | rfl
      · have bounds := follows c letter
        simp only [Follows,List.mem_cons,List.not_mem_nil,or_false] at bounds
        simp only [Opens,List.mem_cons,List.not_mem_nil,or_false]
        omega
      · decide
      · decide

/-- A scheme without a control character in it is where the pattern can match. -/
theorem Spelled.plain_or {raw : Text} (spelled : Spelled raw) : IsScheme raw ∨ ∃ c ∈ raw, isControl c = true := by
  by_cases control : ∃ c ∈ raw, isControl c = true
  · exact .inr control
  · simp only [not_exists,not_and,Bool.not_eq_true] at control
    have whole := spelled.scheme
    rw [dropControl_plain control] at whole
    exact .inl whole

/-- The pattern does not match a scheme with a control character in it. -/
theorem Spelled.unmatched {raw : Text} (spelled : Spelled raw) (control : ∃ c ∈ raw, isControl c = true) (after : Text) :
    schemeAt (raw ++ after) = none := by
  cases found : schemeAt (raw ++ after) with
  | none => rfl
  | some n =>
    exfalso
    obtain ⟨scheme,rest,whole,isScheme,_⟩ := schemeAt_some found
    obtain ⟨c,member,bad⟩ := control
    rcases List.append_eq_append_iff.mp whole with ⟨more,within,_⟩ | ⟨more,beyond,_⟩
    · -- The scheme would hold the control character.
      have inside : c ∈ scheme := by rw [within]; exact List.mem_append_left _ member
      rw [(isScheme.chars c inside).not_control] at bad
      cases bad
    · have plain : dropControl scheme = scheme := dropControl_plain fun d inside => (isScheme.chars d inside).not_control
      have dropped : dropControl raw = scheme ++ dropControl more := by
        rw [beyond,dropControl,List.filter_append]
        exact congrArg (· ++ dropControl more) plain
      have same : dropControl raw = scheme := scheme_unique (x := []) (y := dropControl more) spelled.scheme isScheme (by simpa using dropped)
      have nothing : dropControl more = [] := by simpa [same] using dropped
      cases more with
      | nil =>
        rw [List.append_nil] at beyond
        rw [(isScheme.chars c (beyond ▸ member)).not_control] at bad
        cases bad
      | cons d ds =>
        have last : isControl ((d :: ds).getLast (by simp)) = false := spelled.closed _ (by rw [beyond,List.getLast?_append_of_ne_nil _ (by simp)]; rfl)
        have kept : (d :: ds).getLast (by simp) ∈ dropControl (d :: ds) := List.mem_filter.mpr ⟨List.getLast_mem _,by simp [last]⟩
        rw [nothing] at kept
        cases kept

section
variable [WordTable]

omit [WordTable] in
theorem schemeAt_other {c : Nat} (other : ¬ Opens c) (rest : Text) : schemeAt (c :: rest) = none := by
  cases found : schemeAt (c :: rest) with
  | none => rfl
  | some n =>
    obtain ⟨scheme,more,whole,isScheme,_⟩ := schemeAt_some found
    obtain ⟨first,middle,rfl,opens,_⟩ := isScheme.shape
    injection whole with same _
    exact absurd (same ▸ opens) other

/-- Where no scheme can begin nothing changes. -/
theorem defangFrom_plain {text : Text} (plain : ∀ c ∈ text, ¬ Opens c) (afterWord : Bool) (rest : Text) :
    defangFrom 0 afterWord (text ++ rest) = text ++ defangFrom 0 (wordAfter afterWord text) rest := by
  induction text generalizing afterWord with
  | nil => rfl
  | cons c others ih =>
    obtain ⟨here,later⟩ := List.forall_mem_cons.mp plain
    rw [List.cons_append,defangFrom_keep (.inr (schemeAt_other here _)),ih later]
    rfl

omit [WordTable] in
theorem schemeAt_front (text rest : Text) (missed : schemeAt (text ++ rest) = none) : schemeAt text = none := by
  cases found : schemeAt text with
  | none => rfl
  | some n =>
    obtain ⟨scheme,more,rfl,isScheme,_⟩ := schemeAt_some found
    rw [List.append_assoc,schemeAt_scheme isScheme] at missed
    cases missed

omit [WordTable] in
theorem not_opens_inside {middle : Text} (follows : ∀ c ∈ middle, Follows c) : ∀ c ∈ middle ++ lit "[://]", ¬ Opens c := by
  intro c member opens
  simp only [Opens,List.mem_cons,List.not_mem_nil,or_false] at opens
  rcases List.mem_append.mp member with letter | sign
  · have letters := follows c letter
    simp only [Follows,List.mem_cons,List.not_mem_nil,or_false] at letters
    omega
  · have signs : c = 91 ∨ c = 58 ∨ c = 47 ∨ c = 93 := by simpa [lit] using sign
    omega

omit [WordTable] in
/-- A text with a slash and no bracket before it does not begin with a scheme broken up. -/
theorem bracket_first {first : Nat} {middle most rest more : Text} (opens : Opens first) (follows : ∀ c ∈ middle, Follows c)
    (unbroken : 91 ∉ most ++ [47]) : first :: middle ++ lit "[://]" ++ more ≠ most ++ [47] ++ rest := by
  intro same
  have noSlash : 47 ∉ first :: middle := by
    intro slash
    rcases List.mem_cons.mp slash with rfl | inside
    · exact absurd opens (by decide)
    · exact absurd (follows 47 inside) (by decide)
  rw [List.append_assoc] at same
  rcases List.append_eq_append_iff.mp same with ⟨excess,covers,begins⟩ | ⟨excess,within,_⟩
  · cases excess with
    | nil =>
      rw [List.append_nil] at covers
      exact noSlash (covers ▸ List.mem_append_right _ (List.mem_singleton_self _))
    | cons x xs =>
      have bracket : lit "[://]" ++ more = 91 :: (lit "://]" ++ more) := rfl
      rw [bracket,List.cons_append] at begins
      injection begins with mark _
      refine unbroken ?_
      rw [covers,← mark]
      exact List.mem_append_right _ (List.mem_cons_self ..)
  · refine noSlash ?_
    rw [within]
    exact List.mem_append_left _ (List.mem_append_right _ (List.mem_singleton_self _))

/-- What is written without a bracket, and does not end within a scheme, was there. -/
theorem defangFrom_start {text front rest : Text} {afterWord : Bool} (made : defangFrom 0 afterWord text = front ++ rest)
    (unbroken : 91 ∉ front) (ended : front = [] ∨ ∃ most, front = most ++ [47]) : ∃ after, text = front ++ after := by
  induction size : text.length using Nat.strong_induction_on generalizing afterWord text front with
  | _ n ih =>
    rcases ended with rfl | ⟨most,rfl⟩
    · exact ⟨text,rfl⟩
    rcases defang_cases afterWord text with rfl | ⟨rfl,first,middle,more,rfl,isScheme,opens,follows⟩ | ⟨c,more,rfl,kept⟩
    · simp [defangFrom] at made
    · rw [defangFrom_scheme isScheme] at made
      exact absurd made (bracket_first opens follows unbroken)
    · rw [defangFrom_keep kept] at made
      cases most with
      | nil =>
        rw [List.nil_append,List.singleton_append] at made
        injection made with same _
        exact ⟨more,by rw [same]; rfl⟩
      | cons d others =>
        rw [List.cons_append,List.cons_append] at made
        injection made with same later
        rw [List.cons_append,List.mem_cons,not_or] at unbroken
        obtain ⟨after,whole⟩ := ih more.length (by rw [← size]; simp) later unbroken.2 (.inr ⟨others,rfl⟩) rfl
        exact ⟨after,by rw [whole,same]; rfl⟩

omit [WordTable] in
theorem Spelled.unbroken {raw : Text} (spelled : Spelled raw) : 91 ∉ raw := by
  obtain ⟨initial,inner,shape,begins,plain⟩ := spelled.shape
  rw [shape]
  simp only [List.cons_append,List.mem_cons,List.mem_append,List.not_mem_nil,or_false,not_or]
  exact ⟨fun same => absurd (same ▸ begins) (by decide),fun inside => (plain 91 inside).2 rfl,by decide⟩

omit [WordTable] in
/-- A scheme broken up stands before a spelled one, in what is written. -/
theorem Spelled.after_broken {raw front rest written middle : Text} {first : Nat} (spelled : Spelled raw) (opens : Opens first)
    (follows : ∀ c ∈ middle, Follows c) (made : first :: middle ++ lit "[://]" ++ written = front ++ (raw ++ rest)) :
    ∃ others, front = first :: middle ++ lit "[://]" ++ others ∧ written = others ++ (raw ++ rest) := by
  obtain ⟨initial,inner,shape,begins,_⟩ := spelled.shape
  rcases List.append_eq_append_iff.mp made with ⟨excess,covers,later⟩ | ⟨excess,within,meets⟩
  · exact ⟨excess,covers,later⟩
  · cases excess with
    | nil => exact ⟨[],by simpa using within.symm,by simpa using meets.symm⟩
    | cons x xs =>
      exfalso
      have initially : x = initial := by
        rw [shape,List.cons_append,List.cons_append,List.cons_append] at meets
        injection meets with same _
        exact same.symm
      cases front with
      | nil =>
        have unbroken := spelled.unbroken
        rw [List.nil_append] at within
        rw [← within,shape] at meets
        rw [shape] at unbroken
        exact bracket_first opens follows unbroken meets.symm
      | cons y ys =>
        rw [List.cons_append,List.cons_append] at within
        injection within with _ tail
        have inside : x ∈ middle ++ lit "[://]" := by rw [tail]; simp
        exact not_opens_inside follows x inside (initially ▸ begins)

/-- A scheme that is matched stands before a spelled one that is not, in the text. -/
theorem Spelled.after_matched {raw before after more middle : Text} {first : Nat} (spelled : Spelled raw)
    (isScheme : IsScheme (first :: middle ++ lit "://")) (follows : ∀ c ∈ middle, Follows c)
    (hidden : (∃ c ∈ raw, isControl c = true) ∨ wordAfter false before = true)
    (whole : before ++ raw ++ after = first :: middle ++ lit "://" ++ more) : ∃ others, before = first :: middle ++ lit "://" ++ others := by
  obtain ⟨initial,inner,shape,begins,_⟩ := spelled.shape
  rw [List.append_assoc] at whole
  rcases List.append_eq_append_iff.mp whole with ⟨excess,within,meets⟩ | ⟨excess,covers,_⟩
  · cases excess with
    | nil => exact ⟨[],by simpa using within.symm⟩
    | cons x xs =>
      exfalso
      have initially : x = initial := by
        rw [shape,List.cons_append,List.cons_append,List.cons_append] at meets
        injection meets with same _
        exact same.symm
      cases before with
      | nil =>
        rw [List.nil_append] at whole
        have matched := schemeAt_scheme isScheme more
        rw [← whole] at matched
        rcases hidden with control | inside
        · rw [spelled.unmatched control] at matched
          cases matched
        · cases inside
      | cons y ys =>
        rw [List.cons_append,List.cons_append] at within
        injection within with _ tail
        have inside : x ∈ middle ++ lit "[://]" := by
          have member : x ∈ middle ++ lit "://" := by rw [tail]; simp
          rcases List.mem_append.mp member with letter | sign
          · exact List.mem_append_left _ letter
          · exact List.mem_append_right _ (List.mem_cons_of_mem _ (List.mem_append_left [93] sign))
        exact not_opens_inside follows x inside (initially ▸ begins)
  · exact ⟨excess,covers⟩

/-- A scheme spelled in what `defang` returns was spelled in the text, where the pattern
    does not match. -/
theorem defangFrom_comes {raw : Text} (spelled : Spelled raw) {text front rest : Text} {afterWord : Bool}
    (made : defangFrom 0 afterWord text = front ++ raw ++ rest) :
    ∃ before after, text = before ++ raw ++ after ∧ front = defangFrom 0 afterWord before ∧
      ((∃ c ∈ raw, isControl c = true) ∨ wordAfter afterWord before = true) := by
  obtain ⟨initial,inner,shape,begins,plain⟩ := spelled.shape
  have unbroken := spelled.unbroken
  induction size : text.length using Nat.strong_induction_on generalizing afterWord text front with
  | _ n ih =>
    rcases defang_cases afterWord text with rfl | ⟨rfl,first,middle,more,rfl,isScheme,opens,follows⟩ | ⟨c,more,rfl,kept⟩
    · rw [shape] at made
      simp [defangFrom] at made
    · rw [defangFrom_scheme isScheme,List.append_assoc front] at made
      obtain ⟨others,covers,later⟩ := spelled.after_broken opens follows made
      obtain ⟨before,after,same,made_of,hidden⟩ := ih more.length (by rw [← size]; simp [lit]; omega) (by rw [later,List.append_assoc]) rfl
      refine ⟨first :: middle ++ lit "://" ++ before,after,by rw [same]; simp,?_,?_⟩
      · rw [defangFrom_scheme isScheme,covers,made_of]
      · rw [wordAfter_append,wordAfter_append]
        exact hidden
    · rw [defangFrom_keep kept] at made
      cases front with
      | nil =>
        rw [List.nil_append,shape,List.cons_append,List.cons_append] at made
        injection made with same later
        have part : 91 ∉ inner ++ [47] := fun inside => unbroken (by rw [shape]; exact List.mem_cons_of_mem _ inside)
        obtain ⟨after,whole⟩ := defangFrom_start later part (.inr ⟨inner,rfl⟩)
        have read : c :: more = raw ++ after := by rw [whole,same,shape]; rfl
        refine ⟨[],after,read,rfl,?_⟩
        rcases kept with inside | none
        · exact .inr inside
        · refine .inl (spelled.plain_or.resolve_left fun isScheme => ?_)
          rw [read,schemeAt_scheme isScheme] at none
          cases none
      | cons y ys =>
        rw [List.cons_append,List.cons_append] at made
        injection made with same later
        obtain ⟨before,after,whole,front_eq,hidden⟩ := ih more.length (by rw [← size]; simp) later rfl
        have still : afterWord = true ∨ schemeAt (c :: before) = none :=
          kept.imp_right fun missed => schemeAt_front (c :: before) (raw ++ after) (by rw [← missed,whole]; simp)
        refine ⟨c :: before,after,by rw [whole]; rfl,?_,hidden⟩
        rw [defangFrom_keep still,front_eq,same]

/-- A scheme spelled in the text where the pattern does not match is spelled in what
    `defang` returns. -/
theorem defangFrom_sends {raw : Text} (spelled : Spelled raw) (before after : Text) {afterWord : Bool}
    (hidden : (∃ c ∈ raw, isControl c = true) ∨ wordAfter afterWord before = true) :
    ∃ rest, defangFrom 0 afterWord (before ++ raw ++ after) = defangFrom 0 afterWord before ++ raw ++ rest := by
  obtain ⟨initial,inner,shape,begins,plain⟩ := spelled.shape
  induction size : before.length using Nat.strong_induction_on generalizing afterWord before with
  | _ n ih =>
    rcases defang_cases afterWord (before ++ raw ++ after) with none | ⟨rfl,first,middle,more,whole,isScheme,opens,follows⟩ | ⟨c,more,whole,kept⟩
    · rw [shape] at none
      simp at none
    · obtain ⟨others,rfl⟩ := spelled.after_matched isScheme follows hidden whole
      have ended : wordAfter false (first :: middle ++ lit "://" ++ others) = wordAfter (word 47) others := by
        rw [wordAfter_append,wordAfter_append]
        rfl
      rw [ended] at hidden
      obtain ⟨rest,sent⟩ := ih others.length (by rw [← size]; simp [lit]; omega) others hidden rfl
      have split : first :: middle ++ lit "://" ++ others ++ raw ++ after = first :: middle ++ lit "://" ++ (others ++ raw ++ after) := by simp
      refine ⟨rest,?_⟩
      rw [split,defangFrom_scheme isScheme,defangFrom_scheme isScheme,sent]
      simp
    · cases before with
      | nil =>
        -- From the spelled scheme on nothing changes.
        have opened : c :: more = initial :: (inner ++ [47] ++ after) := by rw [← whole,shape]; simp
        injection opened with same later
        have still : ∀ d ∈ inner ++ [47], ¬ Opens d := by
          intro d member
          rcases List.mem_append.mp member with inside | last
          · exact (plain d inside).1
          · rw [List.mem_singleton.mp last]
            decide
        refine ⟨defangFrom 0 (wordAfter (word c) (inner ++ [47])) after,?_⟩
        rw [whole,defangFrom_keep kept,later,defangFrom_plain still,shape,same]
        simp [defangFrom]
      | cons y ys =>
        rw [List.cons_append,List.cons_append] at whole
        injection whole with same later
        obtain ⟨rest,sent⟩ := ih ys.length (by rw [← size]; simp) ys hidden rfl
        have still : afterWord = true ∨ schemeAt (c :: ys) = none :=
          kept.imp_right fun missed => schemeAt_front (c :: ys) (raw ++ after) (by rw [← missed,← later]; simp)
        refine ⟨rest,?_⟩
        rw [List.cons_append,List.cons_append,later,same,defangFrom_keep kept,defangFrom_keep still,← later,← same,sent]
        rfl

/-- The pattern does not match the scheme: a control character stands in it, or a word
    character right before it. -/
def Hidden (before raw : Text) : Prop := (∃ c ∈ raw, isControl c = true) ∨ ∃ c ∈ before.getLast?, word c = true

theorem wordAfter_start (text : Text) : wordAfter false text = true ↔ ∃ c ∈ text.getLast?, word c = true := by
  induction text using List.reverseRecOn with
  | nil => simp [wordAfter]
  | append_singleton rest c _ => simp [wordAfter_append,wordAfter]

theorem defang_spells {raw : Text} (spelled : Spelled raw) {text front : Text} :
    (∃ rest, defang text = front ++ raw ++ rest) ↔ ∃ before after, text = before ++ raw ++ after ∧ Hidden before raw ∧ front = defang before := by
  constructor
  · rintro ⟨rest,made⟩
    obtain ⟨before,after,whole,same,hidden⟩ := defangFrom_comes spelled made
    exact ⟨before,after,whole,hidden.imp_right (wordAfter_start before).mp,same⟩
  · rintro ⟨before,after,rfl,hidden,rfl⟩
    exact defangFrom_sends spelled before after (hidden.imp_right (wordAfter_start before).mpr)

end

/-! ### What is done after defanging -/

/-- A scheme stands in a text without its control characters just where it is spelled. -/
theorem dropControl_spells {text front scheme : Text} (isScheme : IsScheme scheme) :
    (∃ rest, dropControl text = front ++ scheme ++ rest) ↔
      ∃ before raw after, text = before ++ raw ++ after ∧ Spelled raw ∧ dropControl raw = scheme ∧ front = dropControl before := by
  constructor
  · rintro ⟨rest,made⟩
    obtain ⟨first,middle,rfl,opens,_⟩ := isScheme.shape
    have split : front ++ (first :: middle ++ lit "://") ++ rest = front ++ (first :: ((middle ++ [58,47]) ++ (47 :: rest))) := by simp [lit]
    rw [split] at made
    obtain ⟨before,later,rfl,same,opened⟩ := List.filter_eq_append_iff.mp made
    obtain ⟨gap,more,rfl,dropped,_,goes⟩ := List.filter_eq_cons_iff.mp opened
    obtain ⟨inner,last,rfl,letters,ended⟩ := List.filter_eq_append_iff.mp goes
    obtain ⟨space,after,rfl,skipped,_,_⟩ := List.filter_eq_cons_iff.mp ended
    have nothing : ∀ {xs : Text}, (∀ x ∈ xs, ¬ (!isControl x) = true) → dropControl xs = [] := fun none => List.filter_eq_nil_iff.mpr none
    have read : dropControl (first :: (inner ++ space) ++ [47]) = first :: middle ++ lit "://" := by
      have initial : isControl first = false := InScheme.not_control (.inl opens)
      have slash : isControl 47 = false := by decide
      simp only [dropControl,List.cons_append,List.filter_cons,List.filter_append,initial,slash,Bool.not_false,if_true,letters,List.filter_nil]
      rw [show space.filter (fun c => !isControl c) = [] from nothing skipped]
      simp [lit]
    refine ⟨before ++ gap,first :: (inner ++ space) ++ [47],after,by simp,⟨read ▸ isScheme,?_,?_⟩,read,?_⟩
    · intro c member
      cases member
      exact InScheme.not_control (.inl opens)
    · intro c member
      rw [List.getLast?_append_of_ne_nil _ (by simp)] at member
      cases member
      decide
    · rw [dropControl,List.filter_append,same]
      exact (congrArg (front ++ ·) (nothing dropped)).trans (List.append_nil _) |>.symm
  · rintro ⟨before,raw,after,rfl,_,rfl,rfl⟩
    exact ⟨dropControl after,by simp [dropControl]⟩

theorem carries_strip : Carries IsScheme strip (List.dropWhile isSpace) := by
  have solid : ∀ piece, IsScheme piece → piece ≠ [] ∧ ∀ c ∈ piece, isSpace c = false :=
    fun piece isScheme => ⟨isScheme.ne_nil,fun c member => (isScheme.chars c member).not_space⟩
  exact (carries_rdropWhile solid).comp (carries_dropWhile solid)

theorem slackEscape_scheme {c : Nat} (inside : InScheme c) : slackEscape c = [c] := by
  have bounds := inside.bounds
  rw [slackEscape,if_neg (by omega),if_neg (by omega),if_neg (by omega)]

theorem carries_slackEscape : Carries IsScheme (fun text => text.flatMap slackEscape) fun text => text.flatMap slackEscape := by
  refine carries_flatMap 38 59 58 (fun c => ?_) fun piece isScheme => ⟨isScheme.colon,?_,?_,?_⟩
  · unfold slackEscape
    split_ifs
    · exact .inr (by decide)
    · exact .inr (by decide)
    · exact .inr (by decide)
    · exact .inl rfl
  · intro member
    have bounds := (isScheme.chars _ member).bounds
    omega
  · intro member
    have bounds := (isScheme.chars _ member).bounds
    omega
  · exact fun c member => slackEscape_scheme (isScheme.chars c member)

theorem joinBreaks_plain {piece : Text} (plain : ∀ c ∈ piece, isBreaker c = false) (some : piece ≠ []) (inside : Bool) (rest : Text) :
    joinBreaks inside (piece ++ rest) = piece ++ joinBreaks false rest := by
  induction piece generalizing inside with
  | nil => exact absurd rfl some
  | cons c others ih =>
    obtain ⟨here,later⟩ := List.forall_mem_cons.mp plain
    rw [List.cons_append,joinBreaks,here,if_neg (by simp)]
    cases others with
    | nil => rfl
    | cons d more => rw [ih later (by simp)]; rfl

/-- After a character that is kept, what is written without a blank was there. -/
theorem joinBreaks_start {piece text rest : Text} (solid : ∀ c ∈ piece, c ≠ 32) (made : joinBreaks false text = piece ++ rest) :
    ∃ after, text = piece ++ after := by
  induction piece generalizing text with
  | nil => exact ⟨text,rfl⟩
  | cons c others ih =>
    obtain ⟨here,later⟩ := List.forall_mem_cons.mp solid
    cases text with
    | nil => cases made
    | cons d more =>
      simp only [joinBreaks,List.cons_append,Bool.false_eq_true,if_false] at made
      split_ifs at made with breaks
      · injection made with same _
        exact absurd same.symm here
      · injection made with same goes
        obtain ⟨after,whole⟩ := ih later goes
        exact ⟨after,by rw [whole,same]; rfl⟩

/-- Runs of line breaks become a blank, which no scheme has. -/
theorem carries_joinBreaks : Carries IsScheme (joinBreaks false) (joinBreaks false) where
  sends before piece after isScheme := by
    have plain : ∀ c ∈ piece, isBreaker c = false := fun c member => (isScheme.chars c member).not_breaker
    have whole : ∀ inside, joinBreaks inside (before ++ piece ++ after) = joinBreaks inside before ++ piece ++ joinBreaks false after := by
      induction before with
      | nil => exact fun inside => joinBreaks_plain plain isScheme.ne_nil inside after
      | cons c others ih =>
        intro inside
        simp only [List.cons_append,joinBreaks,ih]
        split_ifs <;> rfl
    exact ⟨_,whole false⟩
  comes text front piece rest isScheme made := by
    have solid : ∀ c ∈ piece, c ≠ 32 := by
      intro c member same
      have bounds := (isScheme.chars c member).bounds
      omega
    have found : ∀ inside front, joinBreaks inside text = front ++ piece ++ rest →
        ∃ before after, text = before ++ piece ++ after ∧ front = joinBreaks inside before := by
      clear made front
      induction text with
      | nil =>
        intro inside front made
        have empty : front ++ piece ++ rest = [] := made.symm
        simp only [List.append_eq_nil_iff] at empty
        exact absurd empty.1.2 isScheme.ne_nil
      | cons c others ih =>
        intro inside front made
        rw [joinBreaks] at made
        split_ifs at made with breaks again
        · obtain ⟨before,after,whole,same⟩ := ih true front made
          exact ⟨c :: before,after,by rw [whole]; rfl,by rw [joinBreaks,if_pos breaks,if_pos again,same]⟩
        · cases front with
          | nil =>
            cases piece with
            | nil => exact absurd rfl isScheme.ne_nil
            | cons d more =>
              injection made with same _
              exact absurd same.symm (solid d (List.mem_cons_self ..))
          | cons d more =>
            injection made with same goes
            obtain ⟨before,after,whole,begins⟩ := ih true more goes
            exact ⟨c :: before,after,by rw [whole]; rfl,by rw [joinBreaks,if_pos breaks,if_neg again,begins,same]⟩
        · cases front with
          | nil =>
            cases piece with
            | nil => exact absurd rfl isScheme.ne_nil
            | cons d more =>
              injection made with same goes
              obtain ⟨after,whole⟩ := joinBreaks_start (List.forall_mem_cons.mp solid).2 goes
              exact ⟨[],after,by rw [whole,same]; rfl,rfl⟩
          | cons d more =>
            injection made with same goes
            obtain ⟨before,after,whole,begins⟩ := ih false more goes
            exact ⟨c :: before,after,by rw [whole]; rfl,by rw [joinBreaks,if_neg breaks,begins,same]⟩
    exact found false front made

theorem live_truncate {text : Text} {limit : Nat} (positive : 0 < limit) : Live (truncate text limit) ↔
    ∃ front scheme rest, text = front ++ scheme ++ rest ∧ IsScheme scheme ∧ (text.length ≤ limit ∨ (front ++ scheme).length < limit) := by
  have solid : ∀ piece, IsScheme piece → piece ≠ [] ∧ 8230 ∉ piece := by
    intro piece isScheme
    refine ⟨isScheme.ne_nil,fun member => ?_⟩
    have bounds := (isScheme.chars _ member).bounds
    omega
  rw [truncate_eq text positive]
  split_ifs with short
  · exact ⟨fun ⟨front,scheme,rest,whole,isScheme⟩ => ⟨front,scheme,rest,whole,isScheme,.inl short⟩,
      fun ⟨front,scheme,rest,whole,isScheme,_⟩ => ⟨front,scheme,rest,whole,isScheme⟩⟩
  · constructor
    · rintro ⟨front,scheme,rest,made,isScheme⟩
      obtain ⟨before,piece,after,good,whole,within⟩ := (found_cut solid).mp ⟨front,scheme,rest,isScheme,made⟩
      exact ⟨before,piece,after,whole,good,.inr (by omega)⟩
    · rintro ⟨front,scheme,rest,whole,isScheme,fits⟩
      obtain ⟨before,piece,after,good,made⟩ := (found_cut solid).mpr ⟨front,scheme,rest,isScheme,whole,Nat.le_sub_one_of_lt (fits.resolve_left short)⟩
      exact ⟨before,piece,after,made,good⟩

/-! ### What the channels quote -/

section
variable [WordTable]

/-- A scheme that the pattern does not match ends before the line is cut off: `line` is
    what a channel makes of a text without control characters, `lead` of the part of it
    before the scheme. -/
def Shows (line lead : Text → Text) (limit : Nat) (text : Text) : Prop :=
  ∃ before raw after, text = before ++ raw ++ after ∧ Spelled raw ∧ Hidden before raw ∧
    ((line (dropControl (defang text))).length ≤ limit ∨ (lead (dropControl (defang before)) ++ dropControl raw).length < limit)

theorem live_iff {line lead : Text → Text} (carries : Carries IsScheme line lead) {limit : Nat} (positive : 0 < limit) (text : Text) :
    Live (truncate (line (dropControl (defang text))) limit) ↔ Shows line lead limit text := by
  rw [live_truncate positive]
  constructor
  · rintro ⟨front,scheme,rest,made,isScheme,fits⟩
    obtain ⟨middle,later,dropped,rfl⟩ := (carries.found isScheme).mp ⟨rest,made⟩
    obtain ⟨start,raw,more,defanged,spelled,rfl,rfl⟩ := (dropControl_spells isScheme).mp ⟨later,dropped⟩
    obtain ⟨before,after,whole,hidden,rfl⟩ := (defang_spells spelled).mp ⟨more,defanged⟩
    exact ⟨before,raw,after,whole,spelled,hidden,fits⟩
  · rintro ⟨before,raw,after,whole,spelled,hidden,fits⟩
    obtain ⟨more,defanged⟩ := (defang_spells spelled).mpr ⟨before,after,whole,hidden,rfl⟩
    obtain ⟨later,dropped⟩ := (dropControl_spells spelled.scheme).mpr ⟨_,raw,more,defanged,spelled,rfl,rfl⟩
    obtain ⟨rest,made⟩ := (carries.found spelled.scheme).mpr ⟨_,later,dropped,rfl⟩
    exact ⟨_,_,rest,made,spelled.scheme,fits⟩

/-- What Slack shows of a text without control characters, and of its beginning. -/
def slackLine (text : Text) : Text := (strip text).flatMap slackEscape
def slackLead (text : Text) : Text := (text.dropWhile isSpace).flatMap slackEscape

/-- What an email shows of them. -/
def plainLine (text : Text) : Text := strip (joinBreaks false text)
def plainLead (text : Text) : Text := (joinBreaks false text).dropWhile isSpace

theorem slack_live_iff {limit : Nat} (positive : 0 < limit) (text : Text) :
    Live (escapeSlack (defang text) limit) ↔ Shows slackLine slackLead limit text := by
  rw [escapeSlack_eq]
  exact live_iff (carries_slackEscape.comp carries_strip) positive text

theorem plain_live_iff {limit : Nat} (positive : 0 < limit) (text : Text) :
    Live (escapePlain (defang text) limit) ↔ Shows plainLine plainLead limit text :=
  live_iff (carries_strip.comp carries_joinBreaks) positive text

/-- The parts of a message that quote the summary and the highlights. -/
def slackQuotes (alert : AlertRequest) : List Text :=
  escapeSlack (defang alert.summary) 800 :: alert.highlights.map fun item => escapeSlack (defang item)

def emailQuotes (alert : AlertRequest) : List Text :=
  escapePlain (defang alert.summary) 1200 :: alert.highlights.map fun item => escapePlain (defang item)

/-- The quotes stand in the body, and no live scheme in them. -/
def Inert (body : Text) (quotes : List Text) : Prop := ∀ quote ∈ quotes, quote <:+: body ∧ ¬ Live quote

/-- A scheme that the pattern does not match shows in a message. -/
def QuotesScheme (alert : AlertRequest) : Prop :=
  Shows slackLine slackLead 800 alert.summary ∨ Shows plainLine plainLead 1200 alert.summary ∨
    ∃ item ∈ alert.highlights, Shows slackLine slackLead maxLine item ∨ Shows plainLine plainLead maxLine item

omit [WordTable] in
theorem infix_line {prelude quote : Text} {pieces : List Text} (member : prelude ++ quote ∈ pieces) : quote <:+: joined [10] pieces :=
  (List.suffix_append prelude quote).isInfix.trans (infix_joined member)

theorem slackQuotes_body (alert : AlertRequest) : ∀ quote ∈ slackQuotes alert, quote <:+: (renderSlack alert).body := by
  intro quote member
  rcases List.mem_cons.mp member with rfl | quoted
  · by_cases empty : escapeSlack (defang alert.summary) 800 = []
    · rw [empty]
      exact List.nil_infix
    · exact infix_joined (List.mem_filter.mpr ⟨by simp [slackLines],by simpa using empty⟩)
  · obtain ⟨item,listed,rfl⟩ := List.mem_map.mp quoted
    have line : lit "• " ++ escapeSlack (defang item) ∈ slackLines alert := by
      refine List.mem_append_left _ (List.mem_append_left _ (List.mem_append_right _ (List.mem_map.mpr ⟨item,listed,rfl⟩)))
    exact infix_line (List.mem_filter.mpr ⟨line,by simp [lit]⟩)

theorem emailQuotes_body (alert : AlertRequest) : ∀ quote ∈ emailQuotes alert, quote <:+: (renderEmail alert).body := by
  intro quote member
  rcases List.mem_cons.mp member with rfl | quoted
  · exact infix_joined (by simp [emailLines])
  · obtain ⟨item,listed,rfl⟩ := List.mem_map.mp quoted
    have some : alert.highlights ≠ [] := List.ne_nil_of_mem listed
    have line : lit "  - " ++ escapePlain (defang item) ∈ emailLines alert := by
      refine List.mem_append_left _ (List.mem_append_left _ (List.mem_append_right _ ?_))
      rw [if_pos some]
      exact List.mem_append_right _ (List.mem_map.mpr ⟨item,listed,rfl⟩)
    exact infix_line line

/-- Quotes that stand in a body are inert just when no scheme shows in the texts quoted. -/
theorem quotes_inert_iff (write : Text → Nat → Text) {body summary : Text} {highlights : List Text} {line lead : Text → Text} {limit : Nat}
    (within : ∀ quote ∈ write summary limit :: highlights.map (write · maxLine), quote <:+: body)
    (live : ∀ {limit : Nat}, 0 < limit → ∀ text, Live (write text limit) ↔ Shows line lead limit text) (positive : 0 < limit) :
    Inert body (write summary limit :: highlights.map (write · maxLine)) ↔
      ¬ Shows line lead limit summary ∧ ∀ item ∈ highlights, ¬ Shows line lead maxLine item := by
  have some : 0 < maxLine := by decide
  constructor
  · intro inert
    obtain ⟨first,later⟩ := List.forall_mem_cons.mp inert
    refine ⟨fun shows => first.2 ((live positive _).mpr shows),fun item listed shows => ?_⟩
    exact (later _ (List.mem_map.mpr ⟨item,listed,rfl⟩)).2 ((live some _).mpr shows)
  · rintro ⟨first,later⟩ quote member
    refine ⟨within quote member,?_⟩
    rcases List.mem_cons.mp member with rfl | quoted
    · exact fun shown => first ((live positive _).mp shown)
    · obtain ⟨item,listed,rfl⟩ := List.mem_map.mp quoted
      exact fun shown => later item listed ((live some _).mp shown)

/-- Neither message quotes a live scheme just when no scheme that the pattern does not
    match shows. -/
theorem inert_iff (alert : AlertRequest) :
    Inert (renderSlack alert).body (slackQuotes alert) ∧ Inert (renderEmail alert).body (emailQuotes alert) ↔ ¬ QuotesScheme alert := by
  have slack : Inert (renderSlack alert).body (slackQuotes alert) ↔
      ¬ Shows slackLine slackLead 800 alert.summary ∧ ∀ item ∈ alert.highlights, ¬ Shows slackLine slackLead maxLine item :=
    quotes_inert_iff (fun text limit => escapeSlack (defang text) limit) (slackQuotes_body alert) slack_live_iff (by decide)
  have email : Inert (renderEmail alert).body (emailQuotes alert) ↔
      ¬ Shows plainLine plainLead 1200 alert.summary ∧ ∀ item ∈ alert.highlights, ¬ Shows plainLine plainLead maxLine item :=
    quotes_inert_iff (fun text limit => escapePlain (defang text) limit) (emailQuotes_body alert) plain_live_iff (by decide)
  rw [slack,email]
  simp only [QuotesScheme,not_or,not_exists,not_and]
  constructor
  · rintro ⟨⟨slackSummary,slackItems⟩,emailSummary,emailItems⟩
    exact ⟨slackSummary,emailSummary,fun item listed => ⟨slackItems item listed,emailItems item listed⟩⟩
  · rintro ⟨slackSummary,emailSummary,items⟩
    exact ⟨⟨slackSummary,fun item listed => (items item listed).1⟩,emailSummary,fun item listed => (items item listed).2⟩

end

/-- An alert that quotes a text. -/
def quoting (summary : Text) (informative : strip summary ≠ [] ∧ summary.length ≤ 1200) : AlertRequest where
  investigationId := lit "7c9e6679-7425-40de-944b-e07fc1f90ae7"
  approvalId := lit "16fd2706-8baf-433b-82eb-8c7fada847da"
  title := summary
  summary := summary
  priority := .HIGH
  highlights := []
  titled := informative.1
  informative := informative
  short := Nat.zero_le 8

def glued : Text := lit "xhttp://evil.test"
/-- A scheme with a control character in it. -/
def broken : Text := lit "ht" ++ [0] ++ lit "tp://evil.test"

theorem glued_says : strip glued ≠ [] ∧ glued.length ≤ 1200 := by decide

theorem broken_says : strip broken ≠ [] ∧ broken.length ≤ 1200 := by decide

/-- A scheme right after a letter, or with a control character in it, is left live. -/
theorem hidden_schemes_live : ¬ @Inert (@renderSlack asciiWords (quoting glued glued_says)).body (@slackQuotes asciiWords (quoting glued glued_says)) ∧
    ¬ @Inert (@renderEmail asciiWords (quoting broken broken_says)).body (@emailQuotes asciiWords (quoting broken broken_says)) := by
  have scheme : IsScheme (lit "http://") := ⟨lit "http",by decide,by decide,by decide⟩
  have first : @escapeSlack (@defang asciiWords glued) 800 = lit "x" ++ lit "http://" ++ lit "evil.test" := by decide
  have second : @escapePlain (@defang asciiWords broken) 1200 = [] ++ lit "http://" ++ lit "evil.test" := by decide
  exact ⟨fun inert => (inert _ (List.mem_cons_self ..)).2 ⟨_,_,_,first,scheme⟩,fun inert => (inert _ (List.mem_cons_self ..)).2 ⟨_,_,_,second,scheme⟩⟩

end SocAnalyst.AlertLinks
