import Mathlib.Algebra.GroupWithZero.Nat
import Mathlib.Algebra.BigOperators.Group.List.Basic
import Mathlib.Data.List.TakeWhile

/-!
# Scanners

Reading a text from left to right by a pattern that never goes back: a run of a
class of symbols, a symbol that has to stand there, a part that may be missing.
A regular expression is read so when no two neighbouring classes of it share a
symbol. `bind_reads` goes from one part to the next.
-/
namespace SocAnalyst.Scanners

variable {σ α β : Type}

/-- What a part of a pattern captures at the start of a text, and the text after it. -/
abbrev Scanner (σ : Type) := StateT (List σ) Option

/-- A run of a class, as long as it gets: so many symbols at least and so many at most. -/
def run (p : σ → Bool) (least : Nat) (most : Option Nat) : Scanner σ (List σ) := fun text =>
  let piece := (most.elim text text.take).takeWhile p
  if least ≤ piece.length then some (piece,text.drop piece.length) else none

/-- One symbol. -/
def mark [DecidableEq σ] (c : σ) : Scanner σ Unit
  | [] => none
  | d :: rest => if d = c then some ((),rest) else none

/-- A text that has to stand there. -/
def literal [DecidableEq σ] (piece : List σ) : Scanner σ Unit := fun text =>
  if piece.isPrefixOf text then some ((),text.drop piece.length) else none

/-- A part that may be missing. -/
def optionally (scanner : Scanner σ α) : Scanner σ (Option α) := fun text =>
  (scanner text).elim (some (none,text)) fun found => some (some found.1,found.2)

/-- The text that a part has gone over. -/
def captured (scanner : Scanner σ α) : Scanner σ (List σ) := fun text =>
  (scanner text).map fun found => (text.take (text.length - found.2.length),found.2)

/-- The matches of a pattern in a text, from left to right, after symbols that are still to be
    skipped. No match is empty. -/
def findFrom (scanner : Scanner σ α) : Nat → List σ → List α
  | _,[] => []
  | skipped + 1,_ :: rest => findFrom scanner skipped rest
  | 0,c :: rest =>
    match scanner (c :: rest) with
    | none => findFrom scanner 0 rest
    | some (a,left) => a :: findFrom scanner (rest.length - left.length) rest

def findAll (scanner : Scanner σ α) (text : List σ) : List α := findFrom scanner 0 text

/-! ### One part after the other -/

theorem bind_reads {first : Scanner σ α} {next : α → Scanner σ β} {text rest : List σ} {a : α} (read : first text = some (a,rest)) :
    (first >>= next) text = next a rest := by
  simp only [bind,StateT.bind,read,Option.bind]

theorem bind_refuses {first : Scanner σ α} {next : α → Scanner σ β} {text : List σ} (refused : first text = none) :
    (first >>= next) text = none := by
  simp only [bind,StateT.bind,refused,Option.bind]

theorem bind_found {first : Scanner σ α} {next : α → Scanner σ β} {text : List σ} {found : β × List σ}
    (read : (first >>= next) text = some found) : ∃ a rest, first text = some (a,rest) ∧ next a rest = some found := by
  cases initial : first text with
  | none =>
    rw [bind_refuses initial] at read
    cases read
  | some passed =>
    obtain ⟨a,rest⟩ := passed
    rw [bind_reads initial] at read
    exact ⟨a,rest,rfl,read⟩

theorem pure_reads (a : α) (text : List σ) : (pure a : Scanner σ α) text = some (a,text) := rfl

theorem mark_reads [DecidableEq σ] (c : σ) (rest : List σ) : mark c (c :: rest) = some ((),rest) := if_pos rfl

theorem mark_refuses [DecidableEq σ] {c : σ} {text : List σ} (other : text.head? ≠ some c) : mark c text = none := by
  cases text with
  | nil => rfl
  | cons d rest => exact if_neg fun same => other (congrArg some same)

theorem mark_splits [DecidableEq σ] {c : σ} {text rest : List σ} {u : Unit} (read : mark c text = some (u,rest)) : text = c :: rest := by
  cases text with
  | nil => cases read
  | cons d more =>
    rw [mark] at read
    split at read
    · rename_i same
      rw [same,(Prod.mk.inj (Option.some.inj read)).2]
    · cases read

/-- A run ends where its class does, or where it may be no longer. -/
theorem run_reads {p : σ → Bool} {least : Nat} {most : Option Nat} {piece rest : List σ} (inClass : ∀ c ∈ piece, p c = true)
    (enough : least ≤ piece.length) (few : ∀ m ∈ most, piece.length ≤ m)
    (stops : most = some piece.length ∨ ∀ c ∈ rest.head?, p c = false) : run p least most (piece ++ rest) = some (piece,rest) := by
  have nothing : ∀ {xs : List σ}, (∀ c ∈ xs.head?, p c = false) → xs.takeWhile p = [] := by
    intro xs outside
    cases xs with
    | nil => rfl
    | cons c xs => exact List.takeWhile_cons_of_neg (by rw [outside c rfl]; decide)
  have whole : (most.elim (piece ++ rest) (piece ++ rest).take).takeWhile p = piece := by
    cases most with
    | none =>
      have outside : ∀ c ∈ rest.head?, p c = false := stops.resolve_left nofun
      rw [Option.elim_none,List.takeWhile_append_of_pos inClass,nothing outside,List.append_nil]
    | some m =>
      rw [Option.elim_some,List.take_append,List.take_of_length_le (few m rfl),List.takeWhile_append_of_pos inClass]
      rcases stops with full | outside
      · rw [Option.some.inj full,Nat.sub_self,List.take_zero,List.takeWhile_nil,List.append_nil]
      · have head : ∀ c ∈ (rest.take (m - piece.length)).head?, p c = false := by
          intro c first
          rw [List.head?_take] at first
          split at first
          · cases first
          · exact outside c first
        rw [nothing head,List.append_nil]
  simp only [run,whole,if_pos enough,List.drop_left]

/-- A run of any length goes up to where the class ends. -/
theorem run_any (p : σ → Bool) (text : List σ) : run p 0 none text = some (text.takeWhile p,text.dropWhile p) := by
  have rest : text.drop (text.takeWhile p).length = text.dropWhile p := calc
    text.drop (text.takeWhile p).length = (text.takeWhile p ++ text.dropWhile p).drop (text.takeWhile p).length := by
      rw [List.takeWhile_append_dropWhile]
    _ = text.dropWhile p := List.drop_left
  simp only [run,Option.elim_none,Nat.zero_le,if_true,rest]

theorem run_refuses {p : σ → Bool} {least : Nat} {most : Option Nat} {text : List σ} (some : 0 < least)
    (outside : ∀ c ∈ text.head?, p c = false) : run p least most text = none := by
  have none : (most.elim text text.take).takeWhile p = [] := by
    cases text with
    | nil => cases most <;> simp
    | cons c rest =>
      have first : p c ≠ true := by rw [outside c rfl]; decide
      cases most with
      | none => exact List.takeWhile_cons_of_neg first
      | some m => cases m <;> simp [first]
  simp only [run,none,List.length_nil,Nat.le_zero,if_neg some.ne']

theorem run_splits {p : σ → Bool} {least : Nat} {most : Option Nat} {text piece rest : List σ}
    (read : run p least most text = some (piece,rest)) : text = piece ++ rest ∧ least ≤ piece.length ∧ ∀ c ∈ piece, p c = true := by
  have shortened : (most.elim text text.take).takeWhile p <+: text := by
    refine (List.takeWhile_prefix p).trans ?_
    cases most with
    | none => exact List.prefix_rfl
    | some m => exact List.take_prefix m text
  rw [run] at read
  split at read
  · rename_i enough
    obtain ⟨rfl,rfl⟩ := Prod.mk.inj (Option.some.inj read)
    exact ⟨List.prefix_iff_eq_append.mp shortened |>.symm,enough,fun c => List.mem_takeWhile_imp⟩
  · cases read

/-- A run with a most is no longer. -/
theorem run_found {p : σ → Bool} {least most : Nat} {text piece rest : List σ} (read : run p least (some most) text = some (piece,rest)) :
    text = piece ++ rest ∧ least ≤ piece.length ∧ piece.length ≤ most ∧ ∀ c ∈ piece, p c = true := by
  obtain ⟨split,enough,all⟩ := run_splits read
  refine ⟨split,enough,?_,all⟩
  rw [run] at read
  split at read
  · rename_i long
    obtain ⟨rfl,rfl⟩ := Prod.mk.inj (Option.some.inj read)
    exact (List.takeWhile_prefix p).length_le.trans (List.length_take_le ..)
  · cases read

theorem optionally_reads {scanner : Scanner σ α} {text rest : List σ} {a : α} (read : scanner text = some (a,rest)) :
    optionally scanner text = some (some a,rest) := by
  rw [optionally,read,Option.elim_some]

theorem optionally_skips {scanner : Scanner σ α} {text : List σ} (refused : scanner text = none) :
    optionally scanner text = some (none,text) := by
  rw [optionally,refused,Option.elim_none]

theorem captured_reads {scanner : Scanner σ α} {piece rest : List σ} {a : α} (read : scanner (piece ++ rest) = some (a,rest)) :
    captured scanner (piece ++ rest) = some (piece,rest) := by
  rw [captured,read,Option.map_some,List.length_append,Nat.add_sub_cancel,List.take_left]

theorem first_reads {first second : Scanner σ α} {text rest : List σ} {a : α} (read : first text = some (a,rest)) :
    (first <|> second) text = some (a,rest) := by
  change (first text <|> second text) = _
  rw [read]
  rfl

theorem second_reads {first second : Scanner σ α} {text : List σ} (refused : first text = none) :
    (first <|> second) text = second text := by
  change (first text <|> second text) = _
  rw [refused]
  rfl

/-! ### The matches in a text -/

theorem findFrom_drop (scanner : Scanner σ α) (skipped : Nat) (text : List σ) :
    findFrom scanner skipped text = findAll scanner (text.drop skipped) := by
  induction text generalizing skipped with
  | nil => rw [List.drop_nil]; cases skipped <;> rfl
  | cons c rest ih =>
    cases skipped with
    | zero => rfl
    | succ skipped => exact ih skipped

theorem findAll_skips {scanner : Scanner σ α} {c : σ} {rest : List σ} (refused : scanner (c :: rest) = none) :
    findAll scanner (c :: rest) = findAll scanner rest := by
  rw [findAll,findFrom,refused]
  rfl

theorem findAll_reads {scanner : Scanner σ α} {piece rest : List σ} {a : α} (some : piece ≠ [])
    (read : scanner (piece ++ rest) = Option.some (a,rest)) : findAll scanner (piece ++ rest) = a :: findAll scanner rest := by
  obtain ⟨c,more,rfl⟩ := List.exists_cons_of_ne_nil some
  rw [List.cons_append] at read
  rw [findAll,List.cons_append,findFrom,read]
  have length : (more ++ rest).length - rest.length = more.length := by rw [List.length_append,Nat.add_sub_cancel]
  simp only [findFrom_drop,length,List.drop_left]

/-- When every match is paid for by occurrences of a symbol in what it goes over, the text has
    as many as all the matches cost. -/
theorem findAll_cost [DecidableEq σ] {scanner : Scanner σ α} {symbol : σ} {cost : α → Nat}
    (paid : ∀ text a rest, scanner text = some (a,rest) → ∃ piece, piece ≠ [] ∧ text = piece ++ rest ∧ cost a ≤ piece.count symbol)
    (text : List σ) : ((findAll scanner text).map cost).sum ≤ text.count symbol := by
  induction length : text.length using Nat.strong_induction_on generalizing text with
  | _ n ih =>
    cases text with
    | nil => exact Nat.le_refl 0
    | cons c rest =>
      cases found : scanner (c :: rest) with
      | none =>
        rw [findAll_skips found]
        have later := ih rest.length (by rw [← length,List.length_cons]; omega) rest rfl
        have grows := List.count_le_count_cons (a := symbol) (b := c) (l := rest)
        omega
      | some found' =>
        obtain ⟨a,left⟩ := found'
        obtain ⟨piece,some,split,enough⟩ := paid _ _ _ found
        rw [split] at found length ⊢
        rw [findAll_reads some found,List.map_cons,List.sum_cons,List.count_append]
        have shorter := List.length_pos_iff.mpr some
        have later := ih left.length (by rw [← length,List.length_append]; omega) left rfl
        omega

/-! ### Replacing the matches -/

/-- `pattern.sub(replacement, text)`, after symbols that are still to be skipped. No match is
    empty. -/
def substituteFrom (scanner : Scanner σ α) (replacement : List σ) : Nat → List σ → List σ
  | _,[] => []
  | skipped + 1,_ :: rest => substituteFrom scanner replacement skipped rest
  | 0,c :: rest =>
    match scanner (c :: rest) with
    | none => c :: substituteFrom scanner replacement 0 rest
    | some (_,left) => replacement ++ substituteFrom scanner replacement (rest.length - left.length) rest

def substitute (scanner : Scanner σ α) (replacement text : List σ) : List σ := substituteFrom scanner replacement 0 text

theorem substituteFrom_drop (scanner : Scanner σ α) (replacement : List σ) (skipped : Nat) (text : List σ) :
    substituteFrom scanner replacement skipped text = substitute scanner replacement (text.drop skipped) := by
  induction text generalizing skipped with
  | nil => rw [List.drop_nil]; cases skipped <;> rfl
  | cons c rest ih =>
    cases skipped with
    | zero => rfl
    | succ skipped => exact ih skipped

theorem substitute_skips {scanner : Scanner σ α} {replacement : List σ} {c : σ} {rest : List σ} (refused : scanner (c :: rest) = none) :
    substitute scanner replacement (c :: rest) = c :: substitute scanner replacement rest := by
  rw [substitute,substituteFrom,refused]
  rfl

theorem substitute_reads {scanner : Scanner σ α} {replacement piece rest : List σ} {a : α} (some : piece ≠ [])
    (read : scanner (piece ++ rest) = Option.some (a,rest)) :
    substitute scanner replacement (piece ++ rest) = replacement ++ substitute scanner replacement rest := by
  obtain ⟨c,more,rfl⟩ := List.exists_cons_of_ne_nil some
  rw [List.cons_append] at read
  rw [substitute,List.cons_append,substituteFrom,read]
  have length : (more ++ rest).length - rest.length = more.length := by rw [List.length_append,Nat.add_sub_cancel]
  simp only [substituteFrom_drop,length,List.drop_left]

/-! ### What a part goes over -/

/-- A part goes over pieces of a kind. -/
def Splits (P : List σ → Prop) (scanner : Scanner σ α) : Prop :=
  ∀ text a rest, scanner text = some (a,rest) → ∃ piece, text = piece ++ rest ∧ P piece

section
variable {P : List σ → Prop}

theorem Splits.bind {first : Scanner σ α} {next : α → Scanner σ β} (closed : ∀ xs ys, P xs → P ys → P (xs ++ ys))
    (one : Splits P first) (other : ∀ a, Splits P (next a)) : Splits P (first >>= next) := by
  intro text b rest read
  obtain ⟨a,between,initial,final⟩ := bind_found read
  obtain ⟨front,rfl,early⟩ := one _ _ _ initial
  obtain ⟨back,rfl,late⟩ := other a _ _ _ final
  exact ⟨front ++ back,by rw [List.append_assoc],closed _ _ early late⟩

theorem splits_run {p : σ → Bool} (inClass : ∀ piece : List σ, (∀ c ∈ piece, p c = true) → P piece) (least : Nat) (most : Option Nat) :
    Splits P (run p least most) := by
  intro text piece rest read
  obtain ⟨split,_,all⟩ := run_splits read
  exact ⟨piece,split,inClass piece all⟩

theorem splits_mark [DecidableEq σ] {c : σ} (single : P [c]) : Splits P (mark c) :=
  fun _ _ _ read => ⟨[c],mark_splits read,single⟩

theorem Splits.optionally {scanner : Scanner σ α} (nothing : P []) (one : Splits P scanner) : Splits P (optionally scanner) := by
  intro text a rest read
  cases found : scanner text with
  | none =>
    rw [optionally_skips found] at read
    cases read
    exact ⟨[],rfl,nothing⟩
  | some pair =>
    rw [optionally_reads found] at read
    cases read
    exact one _ _ _ found

end

/-! ### Reading a rewritten text -/

/-- A part reads the same from a rewritten text, and leaves the rest rewritten. -/
def Commutes (f : List σ → List σ) (scanner : Scanner σ α) : Prop :=
  ∀ text, scanner (f text) = (scanner text).map fun found => (found.1,f found.2)

/-- A rewriting keeps the symbols of a class and puts none where there was none. -/
structure Transparent (f : List σ → List σ) (p : σ → Bool) : Prop where
  keeps : ∀ c rest, p c = true → f (c :: rest) = c :: f rest
  stops : ∀ text, (∀ c ∈ text.head?, p c = false) → ∀ c ∈ (f text).head?, p c = false

section
variable {f : List σ → List σ}

theorem Commutes.bind {first : Scanner σ α} {next : α → Scanner σ β} (one : Commutes f first) (other : ∀ a, Commutes f (next a)) :
    Commutes f (first >>= next) := by
  intro text
  cases found : first text with
  | none => rw [bind_refuses found,bind_refuses (by rw [one,found]; rfl),Option.map_none]
  | some pair =>
    have rewritten : first (f text) = some (pair.1,f pair.2) := by rw [one,found,Option.map_some]
    rw [bind_reads found,bind_reads rewritten,other]

theorem Commutes.optionally {scanner : Scanner σ α} (one : Commutes f scanner) : Commutes f (optionally scanner) := by
  intro text
  cases found : scanner text with
  | none => rw [optionally_skips found,optionally_skips (by rw [one,found]; rfl),Option.map_some]
  | some pair =>
    have rewritten : scanner (f text) = some (pair.1,f pair.2) := by rw [one,found,Option.map_some]
    rw [optionally_reads found,optionally_reads rewritten,Option.map_some]

theorem Transparent.run {p : σ → Bool} (clear : Transparent f p) : Commutes f (run p 0 none) := by
  intro text
  have same : (f text).takeWhile p = text.takeWhile p ∧ (f text).dropWhile p = f (text.dropWhile p) := by
    induction text with
    | nil =>
      have nothing := clear.stops [] (by simp)
      cases empty : f [] with
      | nil => exact ⟨rfl,empty.symm⟩
      | cons c rest =>
        have outside : ¬ p c = true := by rw [nothing c (by rw [empty]; rfl)]; decide
        exact ⟨List.takeWhile_cons_of_neg outside,by rw [List.dropWhile_cons_of_neg outside,List.dropWhile_nil,empty]⟩
    | cons c rest ih =>
      by_cases inside : p c = true
      · rw [clear.keeps c rest inside,List.takeWhile_cons_of_pos inside,List.takeWhile_cons_of_pos inside,
          List.dropWhile_cons_of_pos inside,List.dropWhile_cons_of_pos inside,ih.1,ih.2]
        exact ⟨rfl,rfl⟩
      · have nothing := clear.stops (c :: rest) (by simpa using inside)
        rw [List.takeWhile_cons_of_neg inside,List.dropWhile_cons_of_neg inside]
        cases start : f (c :: rest) with
        | nil => exact ⟨rfl,rfl⟩
        | cons d more =>
          have outside : ¬ p d = true := by rw [nothing d (by rw [start]; rfl)]; decide
          exact ⟨List.takeWhile_cons_of_neg outside,List.dropWhile_cons_of_neg outside⟩
  rw [run_any,run_any,Option.map_some,same.1,same.2]

theorem Transparent.mark [DecidableEq σ] {c : σ} (clear : Transparent f (· == c)) : Commutes f (mark c) := by
  intro text
  by_cases here : text.head? = some c
  · obtain ⟨rest,rfl⟩ := List.head?_eq_some_iff.mp here
    rw [clear.keeps c rest (by simp),mark_reads,mark_reads,Option.map_some]
  · have elsewhere : (f text).head? ≠ some c := by
      intro start
      have outside := clear.stops text (fun d first => by simpa using fun same : d = c => here (same ▸ first)) c start
      simp at outside
    rw [mark_refuses here,mark_refuses elsewhere,Option.map_none]

end

/-! ### Cutting a text -/

/-- The text before the first place where something is found, and what is found at each place
    with the text up to the next. -/
def segments (find : List σ → Option α) : List σ → List σ × List (α × List σ)
  | [] => ([],[])
  | c :: rest =>
    match find (c :: rest) with
    | none => (c :: (segments find rest).1,(segments find rest).2)
    | some a => ([],(a,c :: (segments find rest).1) :: (segments find rest).2)

/-- Where nothing is found, the text is not cut. -/
theorem segments_passes {find : List σ → Option α} (front back : List σ)
    (nothing : ∀ piece, piece ≠ [] → piece <:+ front → find (piece ++ back) = none) :
    segments find (front ++ back) = (front ++ (segments find back).1,(segments find back).2) := by
  induction front with
  | nil => rfl
  | cons c rest ih =>
    have later := ih fun piece some late => nothing piece some (late.trans (List.suffix_cons c rest))
    have here := nothing (c :: rest) (List.cons_ne_nil _ _) List.suffix_rfl
    rw [List.cons_append] at here ⊢
    rw [segments,here,later]
    rfl

/-- A place where something is found. -/
theorem segments_finds {find : List σ → Option α} {c : σ} {front back : List σ} {a : α} (found : find (c :: front ++ back) = some a)
    (nothing : ∀ piece, piece ≠ [] → piece <:+ front → find (piece ++ back) = none) :
    segments find (c :: front ++ back) = ([],(a,c :: front ++ (segments find back).1) :: (segments find back).2) := by
  rw [List.cons_append] at found ⊢
  rw [segments,found,segments_passes front back nothing]
  rfl

end SocAnalyst.Scanners
