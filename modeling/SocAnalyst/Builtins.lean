import Mathlib.Data.List.DropRight
import Mathlib.Data.List.Forall2
import Mathlib.Data.List.Infix

/-!
# The built-in types of the interpreter

Python's `str` as a list of code points, the exceptions the built-ins raise, and
the few string operations the analysed program uses. Nothing here knows of the
program.
-/
namespace SocAnalyst.Builtins

/-- A Python `str`: its code points in order, lone surrogates included. -/
abbrev Text := List Nat

instance (text : Text) (texts : List Text) : Decidable (text ∈ texts) :=
  decidable_of_iff (texts.contains text = true) List.contains_iff_mem

/-- The code points of a literal. -/
def lit (s : String) : Text := s.toList.map Char.toNat

/-- A number is written in digits. -/
theorem digits_number {n c : Nat} (member : c ∈ lit (toString n)) : 48 ≤ c ∧ c ≤ 57 := by
  obtain ⟨d,written,rfl⟩ := List.mem_map.mp member
  have digit : d.isDigit = true := Nat.isDigit_of_mem_toDigits (by decide) (by decide) (Nat.toList_repr ▸ written)
  simpa [Char.isDigit,UInt32.le_iff_toNat_le] using digit

/-- The exceptions that reach the model, by class. -/
inductive PyError where
  | ValueError
  | TypeError
  | OverflowError
  | OSError
  | RecursionError
  | UnicodeEncodeError
  | KeyError
  | AttributeError
  deriving DecidableEq, Repr

/-- ASCII lowercasing of one code point. -/
def asciiLower (c : Nat) : Nat := if 65 ≤ c ∧ c ≤ 90 then c + 32 else c
/-- The value of an ASCII digit. -/
def asciiDigit (c : Nat) : Option Nat := if 48 ≤ c ∧ c ≤ 57 then some (c - 48) else none

/-- The interpreter's character database, as far as the program depends on it.
    On ASCII text it is fixed; beyond that it is whatever table the interpreter
    was built with. -/
class Interpreter where
  /-- `str.lower`. -/
  lower : Text → Text
  /-- The value of a decimal digit, for `\d` and `int`. -/
  decimal : Nat → Option Nat
  /-- `repr` of a string. -/
  repr : Text → Text
  lower_ascii : ∀ s : Text, (∀ c ∈ s, c < 128) → lower s = s.map asciiLower
  decimal_ascii : ∀ c < 128, decimal c = asciiDigit c

export Interpreter (lower decimal)

/-- An interpreter that knows ASCII only. -/
@[reducible] def ascii : Interpreter where
  lower s := s.map asciiLower
  decimal := asciiDigit
  repr s := lit "'" ++ s ++ lit "'"
  lower_ascii _ _ := rfl
  decimal_ascii _ _ := rfl

/-- The whitespace of `str.strip` and of `\s`. -/
def isSpace (c : Nat) : Bool :=
  (9 ≤ c && c ≤ 13) || (28 ≤ c && c ≤ 32) || c == 0x85 || c == 0xA0 || c == 0x1680 ||
    (0x2000 ≤ c && c ≤ 0x200A) || c == 0x2028 || c == 0x2029 || c == 0x202F || c == 0x205F || c == 0x3000

/-- `str.strip`. -/
def strip (s : Text) : Text := (s.dropWhile isSpace).rdropWhile isSpace

theorem strip_nil : strip [] = [] := rfl

private theorem mem_dropWhile {s : Text} {c : Nat} (member : c ∈ s) (solid : isSpace c = false) : c ∈ s.dropWhile isSpace := by
  rw [← List.takeWhile_append_dropWhile (p := isSpace) (l := s)] at member
  rcases List.mem_append.mp member with blank | rest
  · exact absurd (List.mem_takeWhile_imp blank) (by rw [solid]; decide)
  · exact rest

/-- What is not blank is kept. -/
theorem mem_strip {s : Text} {c : Nat} (member : c ∈ s) (solid : isSpace c = false) : c ∈ strip s := by
  rw [strip,List.rdropWhile,List.mem_reverse]
  exact mem_dropWhile (List.mem_reverse.mpr (mem_dropWhile member solid)) solid

/-- A text that is not blank does not vanish when it is trimmed. -/
theorem strip_ne_nil {s : Text} {c : Nat} (member : c ∈ s) (solid : isSpace c = false) : strip s ≠ [] :=
  List.ne_nil_of_mem (mem_strip member solid)

/-- `separator.join(pieces)`. -/
def joined (separator : Text) : List Text → Text
  | [] => []
  | [piece] => piece
  | piece :: rest => piece ++ separator ++ joined separator rest

attribute [local simp] joined

theorem joined_cons (separator first : Text) {rest : List Text} (some : rest ≠ []) :
    joined separator (first :: rest) = first ++ separator ++ joined separator rest := by
  cases rest with
  | nil => exact absurd rfl some
  | cons second others => rfl

theorem joined_eq_intercalate (separator : Text) (pieces : List Text) : joined separator pieces = separator.intercalate pieces := by
  induction pieces with
  | nil => rfl
  | cons first rest ih =>
    cases rest with
    | nil => simp
    | cons second others => rw [joined_cons separator first (List.cons_ne_nil _ _),ih,List.intercalate_cons_cons]

/-- A joined piece stands between separators or at an end. -/
theorem split_joined (separator : Text) {piece : Text} {pieces : List Text} (member : piece ∈ pieces) :
    ∃ before after, joined separator pieces = before ++ piece ++ after ∧ (before = [] ∨ ∃ earlier, before = earlier ++ separator) ∧
      (after = [] ∨ ∃ later, after = separator ++ later) := by
  induction pieces with
  | nil => cases member
  | cons first rest ih =>
    by_cases none : rest = []
    · rw [none] at member ⊢
      rw [List.mem_singleton.mp member]
      exact ⟨[],[],by simp,.inl rfl,.inl rfl⟩
    · rw [joined_cons separator first none]
      rcases List.mem_cons.mp member with rfl | later
      · exact ⟨[],separator ++ joined separator rest,by simp,.inl rfl,.inr ⟨_,rfl⟩⟩
      · obtain ⟨before,after,whole,follows,followed⟩ := ih later
        refine ⟨first ++ separator ++ before,after,by rw [whole]; simp,.inr ?_,followed⟩
        rcases follows with rfl | ⟨earlier,rfl⟩
        · exact ⟨first,by simp⟩
        · exact ⟨first ++ separator ++ earlier,by simp⟩

theorem infix_joined {separator piece : Text} {pieces : List Text} (member : piece ∈ pieces) : piece <:+: joined separator pieces := by
  obtain ⟨before,after,whole,_⟩ := split_joined separator member
  exact ⟨before,after,whole.symm⟩

/-- What has no separator in it lies on one side of a separator. -/
theorem infix_apart {separator : Nat} {piece front back : Text} (apart : separator ∉ piece) (inside : piece <:+: front ++ separator :: back) :
    piece <:+: front ∨ piece <:+: back := by
  obtain ⟨before,after,whole⟩ := inside
  rcases List.append_eq_append_iff.mp whole with ⟨more,split,_⟩ | ⟨more,split,rest⟩
  · exact .inl ⟨before,more,split.symm⟩
  · cases more with
    | nil => exact .inl ⟨before,[],by simpa using split⟩
    | cons c others =>
      obtain ⟨rfl,rfl⟩ := List.cons.inj rest
      rcases List.append_eq_append_iff.mp split with ⟨held,_,same⟩ | ⟨held,_,same⟩
      · exact absurd (by simp [same]) apart
      · cases held with
        | nil =>
          rw [List.nil_append] at same
          exact absurd (same ▸ List.mem_cons_self ..) apart
        | cons d others' =>
          obtain ⟨rfl,rfl⟩ := List.cons.inj same
          exact .inr ⟨others',after,rfl⟩

theorem infix_of_joined {separator : Nat} {piece : Text} {pieces : List Text} (some : piece ≠ []) (apart : separator ∉ piece)
    (inside : piece <:+: joined [separator] pieces) : ∃ part ∈ pieces, piece <:+: part := by
  induction pieces with
  | nil => exact absurd (List.infix_nil.mp inside) some
  | cons first rest ih =>
    by_cases last : rest = []
    · subst last
      exact ⟨first,List.mem_cons_self ..,inside⟩
    · rw [joined_cons _ _ last,List.append_assoc] at inside
      rcases infix_apart apart inside with here | later
      · exact ⟨first,List.mem_cons_self ..,here⟩
      · obtain ⟨part,listed,within⟩ := ih later
        exact ⟨part,List.mem_cons_of_mem _ listed,within⟩

theorem mem_joined {separator : Text} {pieces : List Text} {c : Nat} (member : c ∈ joined separator pieces) :
    c ∈ separator ∨ ∃ piece ∈ pieces, c ∈ piece := by
  induction pieces with
  | nil => cases member
  | cons first rest ih =>
    by_cases none : rest = []
    · subst none
      exact .inr ⟨first,List.mem_singleton_self _,member⟩
    · rw [joined_cons separator first none,List.mem_append,List.mem_append] at member
      rcases member with (here | between) | later
      · exact .inr ⟨first,List.mem_cons_self ..,here⟩
      · exact .inl between
      · exact (ih later).imp_right fun ⟨piece,listed,inside⟩ => ⟨piece,List.mem_cons_of_mem _ listed,inside⟩

theorem count_joined (separator : Text) (pieces : List Text) (c : Nat) :
    (joined separator pieces).count c = pieces.flatten.count c + (pieces.length - 1) * separator.count c := by
  induction pieces with
  | nil => simp
  | cons first rest ih =>
    by_cases none : rest = []
    · subst none
      simp
    · obtain ⟨n,size⟩ := Nat.exists_eq_succ_of_ne_zero fun zero => none (List.length_eq_zero_iff.mp zero)
      rw [joined_cons separator first none,List.count_append,List.count_append,ih,List.flatten_cons,List.count_append]
      simp [size,Nat.succ_mul]
      omega

theorem length_joined {separator : Text} {pieces : List Text} {most : Nat} (each : ∀ piece ∈ pieces, piece.length ≤ most) :
    (joined separator pieces).length ≤ pieces.length * (most + separator.length) := by
  induction pieces with
  | nil => simp
  | cons first rest ih =>
    have here := each first (List.mem_cons_self ..)
    have later := ih fun piece member => each piece (List.mem_cons_of_mem _ member)
    by_cases last : rest = []
    · subst last
      simp only [joined,List.length_cons,List.length_nil]
      omega
    · rw [joined_cons separator first last,List.length_append,List.length_append,List.length_cons,Nat.succ_mul]
      omega

theorem strip_sublist (s : Text) : (strip s).Sublist s :=
  (List.rdropWhile_prefix isSpace _).sublist.trans (List.dropWhile_sublist isSpace)

/-- What is trimmed off a text is blank. -/
theorem strip_within (text : Text) : ∃ before after : Text, (∀ c ∈ before, isSpace c = true) ∧ (∀ c ∈ after, isSpace c = true) ∧
    before ++ strip text ++ after = text := by
  refine ⟨text.takeWhile isSpace,(text.dropWhile isSpace).rtakeWhile isSpace,fun c => List.mem_takeWhile_imp,
    fun c => List.mem_rtakeWhile_imp,?_⟩
  rw [List.append_assoc,strip,List.rdropWhile_append_rtakeWhile,List.takeWhile_append_dropWhile]

/-- `text.replace(old, new)`, from the code points still to be skipped. -/
def replaceFrom (old new : Text) : Nat → Text → Text
  | _, [] => []
  | skipped + 1, _ :: rest => replaceFrom old new skipped rest
  | 0, c :: rest => if old.isPrefixOf (c :: rest) then new ++ replaceFrom old new (old.length - 1) rest else c :: replaceFrom old new 0 rest

def replaceAll (old new text : Text) : Text := replaceFrom old new 0 text

/-- `piece in text`. -/
def occursIn (piece text : Text) : Bool := text.tails.any (piece.isPrefixOf ·)

/-- `items[:stop]`. -/
def upTo {α : Type} (items : List α) (stop : Int) : List α :=
  items.take (if stop < 0 then (items.length + stop).toNat else stop.toNat)

/-- `items[start:]`. -/
def onwards {α : Type} (items : List α) (start : Int) : List α :=
  items.drop (if start < 0 then (items.length + start).toNat else start.toNat)

/-- A code point that UTF-8 does not encode. -/
def isSurrogate (c : Nat) : Bool := 0xD800 ≤ c && c ≤ 0xDFFF

/-- Whether `text.encode("utf-8")` returns. -/
def Encodable (text : Text) : Prop := ∀ c ∈ text, isSurrogate c = false

instance (text : Text) : Decidable (Encodable text) := inferInstanceAs (Decidable (∀ c ∈ text, _))

/-- An optional string that is neither `None` nor empty, as a Python condition reads it. -/
def truthy : Option Text → Bool
  | none => false
  | some s => s ≠ []

@[simp] theorem truthy_none : truthy none = false := rfl
@[simp] theorem truthy_some (s : Text) : truthy (some s) = true ↔ s ≠ [] := by simp [truthy]

/-- Digits are read by `int` only up to this many. -/
def maxStrDigits : Nat := 4300

/-- The number a run of decimal digits spells. -/
def digitsValue [Interpreter] (digits : Text) : Nat :=
  digits.foldl (fun n c => 10 * n + (decimal c).getD 0) 0

/-- `int` of a run of decimal digits. -/
def intOf [Interpreter] (digits : Text) : Except PyError Nat :=
  if maxStrDigits < digits.length then .error .ValueError else .ok (digitsValue digits)

/-- `str` of an integer. -/
def strOfInt (n : Int) : Except PyError Text :=
  if maxStrDigits < (lit (toString n.natAbs)).length then .error .ValueError else .ok (lit (toString n))

/-! ### Loops whose body may raise -/

section
variable {α β ε : Type*}

/-- A sequence of steps returns when each step does. -/
theorem bind_ok {α β : Type} {x : Except ε α} {f : α → Except ε β} {y : β} : (x >>= f) = .ok y ↔ ∃ a, x = .ok a ∧ f a = .ok y := by
  cases x <;> simp [bind,Except.bind]

theorem bind_returns {α β : Type} {x : Except ε α} {f : α → Except ε β} (first : ∃ a, x = .ok a)
    (rest : ∀ a, x = .ok a → ∃ b, f a = .ok b) : ∃ b, (x >>= f) = .ok b := by
  obtain ⟨a,returned⟩ := first
  obtain ⟨b,later⟩ := rest a returned
  exact ⟨b,bind_ok.mpr ⟨a,returned,later⟩⟩

theorem map_ok {x : Except ε α} {f : α → β} {y : β} : x.map f = .ok y ↔ ∃ a, x = .ok a ∧ f a = y := by
  cases x <;> simp [Except.map]

theorem mapError_ok {ε' : Type*} {x : Except ε α} {f : ε → ε'} {y : α} : x.mapError f = .ok y ↔ x = .ok y := by
  cases x <;> simp [Except.mapError]

/-- The results of `f` on every item in order, or the first exception. -/
def mapRaising (f : α → Except ε β) : List α → Except ε (List β)
  | [] => .ok []
  | x :: rest =>
    match f x with
    | .error e => .error e
    | .ok y => (mapRaising f rest).map (y :: ·)

attribute [local simp] mapRaising

theorem mapRaising_ok {f : α → Except ε β} {xs : List α} {ys : List β} :
    mapRaising f xs = .ok ys ↔ List.Forall₂ (fun x y => f x = .ok y) xs ys := by
  induction xs generalizing ys with
  | nil =>
    constructor
    · intro h
      simp only [mapRaising,Except.ok.injEq] at h
      exact h ▸ .nil
    · intro h; cases h; rfl
  | cons x rest ih =>
    unfold mapRaising
    cases outcome : f x with
    | error e =>
      constructor
      · intro h; cases h
      · rintro (_ | ⟨head,_⟩); simp [outcome] at head
    | ok y =>
      cases tail : mapRaising f rest with
      | error e =>
        constructor
        · intro h; cases h
        · intro h
          cases h with
          | cons _ later => rw [ih.mpr later] at tail; cases tail
      | ok zs =>
        constructor
        · intro h
          have same : y :: zs = ys := by simpa [Except.map] using h
          subst same
          exact .cons outcome (ih.mp tail)
        · intro h
          cases h with
          | @cons _ y' _ zs' head later =>
            have heads : y = y' := by simpa [outcome] using head
            have tails : zs = zs' := by simpa [tail] using ih.mpr later
            simp [Except.map,heads,tails]

/-- The loop returns exactly when its body returns on every item. -/
theorem mapRaising_returns {f : α → Except ε β} {xs : List α} :
    (∃ ys, mapRaising f xs = .ok ys) ↔ ∀ x ∈ xs, ∃ y, f x = .ok y := by
  induction xs with
  | nil => simp
  | cons x rest ih =>
    unfold mapRaising
    cases outcome : f x with
    | error e => simp [outcome]
    | ok y =>
      rw [List.forall_mem_cons,← ih]
      cases tail : mapRaising f rest with
      | error e => simp [Except.map]
      | ok zs => simp [Except.map,outcome]

theorem mapRaising_mem {f : α → Except ε β} {xs : List α} {ys : List β} (run : mapRaising f xs = .ok ys) (y : β) :
    y ∈ ys ↔ ∃ x ∈ xs, f x = .ok y := by
  have paired := mapRaising_ok.mp run
  clear run
  induction paired with
  | nil => simp
  | cons head _ ih =>
    constructor
    · intro listed
      rcases List.mem_cons.mp listed with rfl | listed
      · exact ⟨_,by simp,head⟩
      · obtain ⟨x',member,same⟩ := ih.mp listed
        exact ⟨x',List.mem_cons_of_mem _ member,same⟩
    · rintro ⟨x',member,same⟩
      rcases List.mem_cons.mp member with rfl | member
      · rw [head] at same
        simp only [Except.ok.injEq] at same
        exact List.mem_cons.mpr (.inl same.symm)
      · exact List.mem_cons_of_mem _ (ih.mpr ⟨x',member,same⟩)

/-- A loop whose body always returns is a map. -/
theorem mapRaising_eq {f : α → Except ε β} {g : α → β} (each : ∀ x, f x = .ok (g x)) (xs : List α) :
    mapRaising f xs = .ok (xs.map g) :=
  mapRaising_ok.mpr (List.forall₂_map_right_iff.mpr (List.forall₂_same.mpr fun x _ => each x))

/-- A loop that can only raise one way raises it when some body does. -/
theorem mapRaising_refused {f : α → Except ε β} {xs : List α} {e : ε} (each : ∀ x ∈ xs, (∃ y, f x = .ok y) ∨ f x = .error e)
    (some : ∃ x ∈ xs, f x = .error e) : mapRaising f xs = .error e := by
  induction xs with
  | nil => exact absurd some (by simp)
  | cons x rest ih =>
    unfold mapRaising
    rcases each x (by simp) with ⟨y,returned⟩ | refused
    · rw [returned]
      obtain ⟨z,member,refused⟩ := some
      rcases List.mem_cons.mp member with rfl | later
      · rw [returned] at refused
        cases refused
      · simp only [ih (fun w known => each w (List.mem_cons_of_mem _ known)) ⟨z,later,refused⟩]
        rfl
    · rw [refused]

/-- Some item meets `stop`, and every item before it meets `pass`: what a loop
    with an early exit finds. -/
def Reaches (pass stop : α → Prop) (xs : List α) : Prop :=
  ∃ before x after, xs = before ++ x :: after ∧ stop x ∧ ∀ y ∈ before, pass y

@[simp] theorem reaches_nil (pass stop : α → Prop) : ¬ Reaches pass stop [] := by
  rintro ⟨before,x,after,equal,_⟩
  simp at equal

@[simp] theorem reaches_cons (pass stop : α → Prop) (x : α) (rest : List α) :
    Reaches pass stop (x :: rest) ↔ stop x ∨ (pass x ∧ Reaches pass stop rest) := by
  constructor
  · rintro ⟨before,y,after,equal,stops,passes⟩
    cases before with
    | nil =>
      simp only [List.nil_append,List.cons.injEq] at equal
      exact .inl (equal.1 ▸ stops)
    | cons z before =>
      simp only [List.cons_append,List.cons.injEq] at equal
      obtain ⟨rfl,equal⟩ := equal
      exact .inr ⟨passes x (by simp),before,y,after,equal,stops,fun w member => passes w (by simp [member])⟩
  · rintro (stops | ⟨passes,before,y,after,equal,stops,earlier⟩)
    · exact ⟨[],x,rest,rfl,stops,by simp⟩
    · refine ⟨x :: before,y,after,by simp [equal],stops,?_⟩
      intro w member
      rcases List.mem_cons.mp member with rfl | member
      · exact passes
      · exact earlier w member

theorem Reaches.mem {pass stop : α → Prop} {xs : List α} (reaches : Reaches pass stop xs) : ∃ x ∈ xs, stop x := by
  obtain ⟨before,x,after,rfl,stops,_⟩ := reaches
  exact ⟨x,by simp,stops⟩

end
end SocAnalyst.Builtins
