import SocAnalyst.Builtins
import SocAnalyst.Pieces

/-!
# Replacing pieces of a text

What `str.replace` does to pieces that begin with a character of a class and have none of
the class after it: two such pieces overlap only where they begin together.
-/
namespace SocAnalyst.Replacements
open SocAnalyst.Builtins SocAnalyst.Pieces

variable {p : Nat → Prop} {old new : Text}

/-- A piece whose first character, and no other, is of the class. -/
def Headed (p : Nat → Prop) (piece : Text) : Prop := ∃ c rest, piece = c :: rest ∧ p c ∧ ∀ x ∈ rest, ¬ p x

/-- Neither begins with the other. -/
def Incomparable (first second : Text) : Prop := ¬ first <+: second ∧ ¬ second <+: first

/-- A text and what the replacement makes of it. -/
inductive Replaced (old new : Text) : Text → Text → Prop where
  | stop : Replaced old new [] []
  | hit {rest out : Text} : Replaced old new rest out → Replaced old new (old ++ rest) (new ++ out)
  | keep {c : Nat} {rest out : Text} : ¬ old <+: c :: rest → Replaced old new rest out → Replaced old new (c :: rest) (c :: out)

theorem replaceFrom_skip (skipped rest : Text) : replaceFrom old new skipped.length (skipped ++ rest) = replaceFrom old new 0 rest := by
  induction skipped with
  | nil => rfl
  | cons c skipped ih => exact ih

theorem replaceAll_hit (some : old ≠ []) (rest : Text) : replaceAll old new (old ++ rest) = new ++ replaceAll old new rest := by
  obtain ⟨c,others,rfl⟩ := List.exists_cons_of_ne_nil some
  have begins : (c :: others).isPrefixOf (c :: (others ++ rest)) = true := List.isPrefixOf_iff_prefix.mpr ⟨rest,rfl⟩
  simp only [replaceAll,List.cons_append,replaceFrom,begins,if_true,List.length_cons,Nat.add_sub_cancel]
  rw [replaceFrom_skip]

theorem replaceAll_keep {c : Nat} {rest : Text} (other : ¬ old <+: c :: rest) :
    replaceAll old new (c :: rest) = c :: replaceAll old new rest := by
  have begins : ¬ old.isPrefixOf (c :: rest) = true := fun begins => other (List.isPrefixOf_iff_prefix.mp begins)
  simp only [replaceAll,replaceFrom,begins]
  rfl

theorem replaced (some : old ≠ []) (text : Text) : Replaced old new text (replaceAll old new text) := by
  induction length : text.length using Nat.strong_induction_on generalizing text with
  | _ n ih =>
    by_cases begins : old <+: text
    · obtain ⟨rest,rfl⟩ := begins
      have positive := List.length_pos_of_ne_nil some
      rw [List.length_append] at length
      rw [replaceAll_hit some]
      exact .hit (ih rest.length (by omega) rest rfl)
    · cases text with
      | nil => exact .stop
      | cons c rest =>
        rw [List.length_cons] at length
        rw [replaceAll_keep begins]
        exact .keep begins (ih rest.length (by omega) rest rfl)

theorem Replaced.unique (some : old ≠ []) {text out : Text} (made : Replaced old new text out) : out = replaceAll old new text := by
  induction made with
  | stop => rfl
  | hit _ ih => rw [ih,replaceAll_hit some]
  | keep other _ ih => rw [ih,replaceAll_keep other]

/-- What has none of the class is kept. -/
theorem Replaced.prepend (headed : Headed p old) {plain text out : Text} (none : ∀ x ∈ plain, ¬ p x) (made : Replaced old new text out) :
    Replaced old new (plain ++ text) (plain ++ out) := by
  obtain ⟨o,others,rfl,head,_⟩ := headed
  induction plain with
  | nil => exact made
  | cons c plain ih =>
    obtain ⟨here,later⟩ := List.forall_mem_cons.mp none
    refine .keep (fun begins => ?_) (ih later)
    exact here ((List.cons_prefix_cons.mp begins).1 ▸ head)

/-- What was kept and has none of the class was there. -/
theorem Replaced.plain (headed : Headed p new) {text plain rest : Text} (none : ∀ x ∈ plain, ¬ p x)
    (made : Replaced old new text (plain ++ rest)) : ∃ after, text = plain ++ after := by
  induction plain generalizing text with
  | nil => exact ⟨text,rfl⟩
  | cons c plain ih =>
    obtain ⟨here,later⟩ := List.forall_mem_cons.mp none
    generalize whole : c :: plain ++ rest = out at made
    cases made with
    | stop => cases whole
    | hit _ =>
      obtain ⟨n,others,rfl,head,_⟩ := headed
      injection whole with same _
      exact absurd (same ▸ head) here
    | keep _ further =>
      injection whole with same tail
      subst same tail
      obtain ⟨after,rfl⟩ := ih later further
      exact ⟨after,rfl⟩

/-- A piece that begins before a character of the class ends before it. -/
theorem Headed.prefix_before {piece : Text} (headed : Headed p piece) {d c : Nat} {text after : Text} (head : p c)
    (begins : piece <+: d :: (text ++ c :: after)) : piece <+: d :: text := by
  obtain ⟨o,others,rfl,_,tail⟩ := headed
  obtain ⟨rfl,within⟩ := List.cons_prefix_cons.mp begins
  refine List.cons_prefix_cons.mpr ⟨rfl,?_⟩
  rcases List.prefix_or_prefix_of_prefix within (List.prefix_append text (c :: after)) with inside | ⟨more,rfl⟩
  · exact inside
  · cases more with
    | nil => rw [List.append_nil]
    | cons m more =>
      obtain ⟨rfl,_⟩ := List.cons_prefix_cons.mp ((List.prefix_append_right_inj text).mp within)
      exact absurd head (tail m (List.mem_append_right _ (List.mem_cons_self ..)))

theorem Headed.ne_nil {piece : Text} (headed : Headed p piece) : piece ≠ [] := by
  obtain ⟨c,rest,rfl,_⟩ := headed
  exact List.cons_ne_nil c rest

/-- A piece is passed on, after what is made of the text before it. -/
theorem replaceAll_sends (headed : Headed p old) {piece : Text} (piece_headed : Headed p piece) (apart : Incomparable piece old)
    (before after : Text) : replaceAll old new (before ++ piece ++ after) = replaceAll old new before ++ piece ++ replaceAll old new after := by
  have made : ∀ {text out : Text}, Replaced old new text out → Replaced old new (text ++ piece ++ after) (out ++ piece ++ replaceAll old new after) := by
    intro text out made
    obtain ⟨c,rest,rfl,head,plain⟩ := piece_headed
    induction made with
    | stop =>
      refine .keep (fun begins => ?_) ((replaced headed.ne_nil after).prepend headed plain)
      rcases List.prefix_or_prefix_of_prefix begins (List.prefix_append (c :: rest) after) with within | beyond
      · exact apart.2 within
      · exact apart.1 beyond
    | @hit text out _ ih => simpa only [List.append_assoc] using Replaced.hit ih
    | @keep d text out other _ ih =>
      refine .keep (fun begins => ?_) ih
      have within : old <+: d :: (text ++ c :: (rest ++ after)) := by simpa using begins
      exact other (headed.prefix_before head within)
  exact ((made (replaced headed.ne_nil before)).unique headed.ne_nil).symm

/-- A piece in what is made of a text was there, after a text from which what stands before
    it was made, and was not replaced. -/
theorem replaceAll_comes (headed : Headed p old) (new_headed : Headed p new) {piece : Text} (piece_headed : Headed p piece)
    (apart : Incomparable piece new) {text front rest : Text} (made : replaceAll old new text = front ++ piece ++ rest) :
    ∃ before after, text = before ++ piece ++ after ∧ front = replaceAll old new before ∧ ¬ old <+: piece ++ after := by
  have found : ∀ {out : Text}, Replaced old new text out → out = front ++ piece ++ rest →
      ∃ before after, text = before ++ piece ++ after ∧ Replaced old new before front ∧ ¬ old <+: piece ++ after := by
    intro out relation
    clear made
    obtain ⟨c,others,rfl,head,plain⟩ := piece_headed
    induction relation generalizing front with
    | stop => intro whole; simp at whole
    | @hit text out further ih =>
      intro whole
      rw [List.append_assoc] at whole
      have later : ∀ more, front = new ++ more → out = more ++ (c :: others ++ rest) →
          ∃ before after, old ++ text = before ++ (c :: others) ++ after ∧ Replaced old new before front ∧ ¬ old <+: c :: others ++ after := by
        rintro more rfl rest_whole
        obtain ⟨before,after,rfl,made,stays⟩ := ih (by rw [rest_whole,List.append_assoc])
        exact ⟨old ++ before,after,by simp only [List.append_assoc],.hit made,stays⟩
      rcases List.append_eq_append_iff.mp whole with ⟨more,begins,ends⟩ | ⟨excess,begins,ends⟩
      · exact later more begins ends
      · -- The piece would begin within what was written.
        cases excess with
        | nil => exact later [] (by rw [begins,List.append_nil,List.append_nil]) ends.symm
        | cons e excess =>
          injection ends with same tail
          subst same
          obtain ⟨n,ns,rfl,_,none⟩ := new_headed
          cases front with
          | nil =>
            rw [List.nil_append] at begins
            rcases List.prefix_or_prefix_of_prefix (show c :: others <+: c :: others ++ rest from List.prefix_append _ _)
              (show c :: excess <+: c :: others ++ rest from ⟨out,congrArg (c :: ·) tail.symm⟩) with within | beyond
            · exact absurd (begins ▸ within) apart.1
            · exact absurd (begins ▸ beyond) apart.2
          | cons f front =>
            injection begins with _ inside
            exact absurd head (none c (inside ▸ List.mem_append_right _ (List.mem_cons_self ..)))
    | @keep d text out other further ih =>
      intro whole
      cases front with
      | nil =>
        injection whole with same tail
        subst same
        obtain ⟨after,rfl⟩ := (tail ▸ further).plain new_headed plain
        exact ⟨[],after,rfl,.stop,other⟩
      | cons f front =>
        injection whole with same tail
        subst same
        obtain ⟨before,after,rfl,made,stays⟩ := ih tail
        refine ⟨d :: before,after,rfl,.keep (fun begins => other (begins.trans ?_)) made,stays⟩
        exact ⟨c :: others ++ after,by simp⟩
  obtain ⟨before,after,whole,relation,stays⟩ := found (replaced headed.ne_nil text) made
  exact ⟨before,after,whole,relation.unique headed.ne_nil,stays⟩

/-- Replacing one piece carries the others. -/
theorem carries_replaceAll {S : Text → Prop} (headed : Headed p old) (new_headed : Headed p new)
    (others : ∀ piece, S piece → Headed p piece ∧ Incomparable piece old ∧ Incomparable piece new) :
    Carries S (replaceAll old new) (replaceAll old new) where
  sends before piece after good := ⟨_,replaceAll_sends headed (others piece good).1 (others piece good).2.1 before after⟩
  comes text front piece rest good made := by
    obtain ⟨before,after,whole,same,_⟩ := replaceAll_comes headed new_headed (others piece good).1 (others piece good).2.2 made
    exact ⟨before,after,whole,same⟩

/-- Nothing is left of what is replaced. -/
theorem replaceAll_removes (headed : Headed p old) (new_headed : Headed p new) (apart : Incomparable old new) (text : Text) :
    ¬ old <:+: replaceAll old new text := by
  rintro ⟨front,rest,made⟩
  obtain ⟨_,after,_,_,stays⟩ := replaceAll_comes headed new_headed headed apart made.symm
  exact stays (List.prefix_append old after)

end SocAnalyst.Replacements
