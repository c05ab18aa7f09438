import Mathlib.Data.List.Basic

/-!
# Patterns that go back

Regular expressions as a backtracking matcher reads them: alternatives in order, a
repetition as often as it goes and then less often, and the first way through wins.
-/
namespace SocAnalyst.Patterns

variable {σ β : Type}

/-- A place in a text: the symbol before it and the text after it. -/
structure Cursor (σ : Type) where
  behind : Option σ
  ahead : List σ

inductive Pattern (σ : Type) where
  | nothing
  | symbol (p : σ → Bool)
  /-- The start of the text. -/
  | start
  /-- Between a symbol of the class and one outside of it, or an end of the text. -/
  | boundary (word : σ → Bool)
  /-- No match of the pattern is ahead. -/
  | unless (pattern : Pattern σ)
  | seq (first second : Pattern σ)
  | alt (first second : Pattern σ)
  | repeated (pattern : Pattern σ) (least : Nat) (most : Option Nat)

/-- What a pattern does before a continuation: the continuation's answer on the first way
    through the pattern on which it has one. -/
abbrev Matcher (σ β : Type) := Cursor σ → (Cursor σ → Option β) → Option β

/-- So many times. -/
def times (matcher : Matcher σ β) (next : Cursor σ → Option β) : Nat → Cursor σ → Option β
  | 0, cursor => next cursor
  | count + 1, cursor => matcher cursor (times matcher next count)

/-- As often as it goes, and not more often than some number of times. A round that reads
    nothing is not made. -/
def greedily (matcher : Matcher σ β) (next : Cursor σ → Option β) : Nat → Option Nat → Cursor σ → Option β
  | 0, _, cursor => next cursor
  | fuel + 1, most, cursor =>
    if most = some 0 then next cursor
    else (matcher cursor fun after =>
      if after.ahead.length < cursor.ahead.length then greedily matcher next fuel (most.map (· - 1)) after else none).or (next cursor)

def Pattern.run : Pattern σ → {β : Type} → Matcher σ β
  | .nothing, _ => fun cursor next => next cursor
  | .symbol p, _ => fun cursor next =>
    match cursor.ahead with
    | [] => none
    | c :: rest => if p c then next ⟨some c,rest⟩ else none
  | .start, _ => fun cursor next => if cursor.behind.isNone then next cursor else none
  | .boundary word, _ => fun cursor next => if cursor.behind.any word ≠ cursor.ahead.head?.any word then next cursor else none
  | .unless pattern, _ => fun cursor next => if (pattern.run cursor fun _ => some ()).isNone then next cursor else none
  | .seq first second, _ => fun cursor next => first.run cursor fun after => second.run after next
  | .alt first second, _ => fun cursor next => (first.run cursor next).or (second.run cursor next)
  | .repeated pattern least most, _ => fun cursor next =>
    times pattern.run (fun after => greedily pattern.run next after.ahead.length (most.map (· - least)) after) least cursor

/-- The symbols that a match of the pattern may hold. -/
def Pattern.allows (c : σ) : Pattern σ → Bool
  | .symbol p => p c
  | .seq first second | .alt first second => first.allows c || second.allows c
  | .repeated pattern _ _ => pattern.allows c
  | .nothing | .start | .boundary _ | .unless _ => false

/-! ### What a match holds -/

/-- Read from one place to a later one, over symbols of a class. -/
def Passes (p : σ → Bool) (cursor after : Cursor σ) : Prop := ∃ piece, cursor.ahead = piece ++ after.ahead ∧ ∀ c ∈ piece, p c = true

theorem Passes.refl (p : σ → Bool) (cursor : Cursor σ) : Passes p cursor cursor := ⟨[],rfl,by simp⟩

theorem Passes.trans {p : σ → Bool} {cursor middle after : Cursor σ} (first : Passes p cursor middle) (second : Passes p middle after) :
    Passes p cursor after := by
  obtain ⟨piece,front,inClass⟩ := first
  obtain ⟨more,back,alsoInClass⟩ := second
  refine ⟨piece ++ more,by rw [front,back,List.append_assoc],fun c member => ?_⟩
  rcases List.mem_append.mp member with here | there
  · exact inClass c here
  · exact alsoInClass c there

theorem Passes.mono {p q : σ → Bool} (wider : ∀ c, p c = true → q c = true) {cursor after : Cursor σ} (passes : Passes p cursor after) :
    Passes q cursor after := by
  obtain ⟨piece,front,inClass⟩ := passes
  exact ⟨piece,front,fun c member => wider c (inClass c member)⟩

/-- A matcher answers where its continuation does, after symbols of a class. -/
def Reads (p : σ → Bool) (matcher : Matcher σ β) : Prop :=
  ∀ cursor next b, matcher cursor next = some b → ∃ after, Passes p cursor after ∧ next after = some b

theorem reads_times {p : σ → Bool} {matcher : Matcher σ β} (reads : Reads p matcher) (count : Nat) :
    Reads p fun cursor next => times matcher next count cursor := by
  induction count with
  | zero => exact fun cursor next b found => ⟨cursor,.refl p cursor,found⟩
  | succ count ih =>
    intro cursor next b found
    obtain ⟨middle,first,rest⟩ := reads cursor _ b found
    obtain ⟨after,second,answer⟩ := ih middle next b rest
    exact ⟨after,first.trans second,answer⟩

theorem reads_greedily {p : σ → Bool} {matcher : Matcher σ β} (reads : Reads p matcher) (fuel : Nat) (most : Option Nat) :
    Reads p fun cursor next => greedily matcher next fuel most cursor := by
  induction fuel generalizing most with
  | zero => exact fun cursor next b found => ⟨cursor,.refl p cursor,found⟩
  | succ fuel ih =>
    intro cursor next b found
    simp only [greedily] at found
    split_ifs at found
    · exact ⟨cursor,.refl p cursor,found⟩
    · rcases Option.or_eq_some_iff.mp found with again | ⟨_,stop⟩
      · obtain ⟨middle,first,rest⟩ := reads cursor _ b again
        split_ifs at rest
        obtain ⟨after,second,answer⟩ := ih _ middle next b rest
        exact ⟨after,first.trans second,answer⟩
      · exact ⟨cursor,.refl p cursor,stop⟩

/-- A match holds only symbols that its pattern allows. -/
theorem Pattern.reads (pattern : Pattern σ) : Reads pattern.allows (pattern.run : Matcher σ β) := by
  induction pattern generalizing β with
  | nothing => exact fun cursor next b found => ⟨cursor,.refl _ cursor,found⟩
  | symbol p =>
    intro cursor next b found
    simp only [run] at found
    split at found
    · cases found
    · rename_i c rest ahead
      split_ifs at found with inClass
      exact ⟨⟨some c,rest⟩,⟨[c],ahead,by simpa [allows] using inClass⟩,found⟩
  | start | boundary word | «unless» pattern =>
    intro cursor next b found
    simp only [run] at found
    split_ifs at found
    exact ⟨cursor,.refl _ cursor,found⟩
  | seq first second ihFirst ihSecond =>
    intro cursor next b found
    obtain ⟨middle,one,rest⟩ := ihFirst cursor _ b found
    obtain ⟨after,two,answer⟩ := ihSecond middle next b rest
    exact ⟨after,(one.mono (by simp +contextual [allows])).trans (two.mono (by simp +contextual [allows])),answer⟩
  | alt first second ihFirst ihSecond =>
    intro cursor next b found
    rcases Option.or_eq_some_iff.mp found with one | ⟨_,two⟩
    · obtain ⟨after,passes,answer⟩ := ihFirst cursor next b one
      exact ⟨after,passes.mono (by simp +contextual [allows]),answer⟩
    · obtain ⟨after,passes,answer⟩ := ihSecond cursor next b two
      exact ⟨after,passes.mono (by simp +contextual [allows]),answer⟩
  | repeated pattern least most ih =>
    intro cursor next b found
    obtain ⟨middle,one,rest⟩ := reads_times ih least cursor _ b found
    obtain ⟨after,two,answer⟩ := reads_greedily ih _ _ middle next b rest
    exact ⟨after,one.trans two,answer⟩

/-! ### Matches of a text from left to right -/

/-- What a match at a place captures, and how much it reads. -/
abbrev Finder (σ : Type) := Cursor σ → Option (List σ × Nat)

/-- The text between two places. -/
def between (cursor after : Cursor σ) : List σ := cursor.ahead.take (cursor.ahead.length - after.ahead.length)

/-- The whole match of a pattern. -/
def Pattern.whole (pattern : Pattern σ) : Finder σ := fun cursor =>
  pattern.run cursor fun after => some (between cursor after,(between cursor after).length)

/-- The part of a match after a lead. -/
def Pattern.after (lead pattern : Pattern σ) : Finder σ := fun cursor =>
  lead.run cursor fun middle => pattern.run middle fun after => some (between middle after,(between cursor after).length)

/-- The pattern matches all of a text. -/
def Pattern.fullmatch (pattern : Pattern σ) (text : List σ) : Bool :=
  (pattern.run ⟨none,text⟩ fun after => if after.ahead.isEmpty then some () else none).isSome

/-- The matches after so many symbols that are skipped. No match is empty. -/
def findFrom (finder : Finder σ) : Nat → Option σ → List σ → List (List σ)
  | _,_,[] => []
  | skipped + 1,_,c :: rest => findFrom finder skipped (some c) rest
  | 0,behind,c :: rest =>
    match finder ⟨behind,c :: rest⟩ with
    | none => findFrom finder 0 (some c) rest
    | some (piece,length) => piece :: findFrom finder (length - 1) (some c) rest

def findAll (finder : Finder σ) (text : List σ) : List (List σ) := findFrom finder 0 none text

/-- The text with each match replaced, after so many symbols that are skipped. -/
def substituteFrom (finder : Finder σ) (new : List σ) : Nat → Option σ → List σ → List σ
  | _,_,[] => []
  | skipped + 1,_,c :: rest => substituteFrom finder new skipped (some c) rest
  | 0,behind,c :: rest =>
    match finder ⟨behind,c :: rest⟩ with
    | none => c :: substituteFrom finder new 0 (some c) rest
    | some (_,length) => new ++ substituteFrom finder new (length - 1) (some c) rest

def substitute (finder : Finder σ) (new text : List σ) : List σ := substituteFrom finder new 0 none text

theorem between_of_passes {p : σ → Bool} {cursor after : Cursor σ} (passes : Passes p cursor after) :
    ∀ c ∈ between cursor after, p c = true := by
  obtain ⟨piece,front,inClass⟩ := passes
  have same : between cursor after = piece := by simp [between,front]
  rwa [same]

/-- A finder captures only symbols of a class. -/
def Captures (p : σ → Bool) (finder : Finder σ) : Prop := ∀ cursor piece length, finder cursor = some (piece,length) → ∀ c ∈ piece, p c = true

theorem Pattern.captures_whole (pattern : Pattern σ) : Captures pattern.allows pattern.whole := by
  intro cursor piece length found
  obtain ⟨after,passes,answer⟩ := pattern.reads cursor _ _ found
  cases answer
  exact between_of_passes passes

theorem Pattern.captures_after (lead pattern : Pattern σ) : Captures pattern.allows (lead.after pattern) := by
  intro cursor piece length found
  obtain ⟨middle,_,rest⟩ := lead.reads cursor _ _ found
  obtain ⟨after,passes,answer⟩ := pattern.reads middle _ _ rest
  cases answer
  exact between_of_passes passes

theorem mem_findFrom {p : σ → Bool} {finder : Finder σ} (captures : Captures p finder) {skipped : Nat} {behind : Option σ}
    {text piece : List σ} (member : piece ∈ findFrom finder skipped behind text) : ∀ c ∈ piece, p c = true := by
  induction text generalizing skipped behind with
  | nil => simp [findFrom] at member
  | cons c rest ih =>
    cases skipped with
    | succ skipped => exact ih member
    | zero =>
      rw [findFrom] at member
      split at member
      · exact ih member
      · rename_i found
        rcases List.mem_cons.mp member with rfl | later
        · exact captures _ _ _ found
        · exact ih later

/-- Every match of a text is of the class. -/
theorem mem_findAll {p : σ → Bool} {finder : Finder σ} (captures : Captures p finder) {text piece : List σ}
    (member : piece ∈ findAll finder text) : ∀ c ∈ piece, p c = true :=
  mem_findFrom captures member

end SocAnalyst.Patterns
