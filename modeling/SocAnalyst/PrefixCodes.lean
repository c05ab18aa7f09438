import Mathlib.Data.List.Basic

/-!
# Prefix codes

Codes that can be read off the front of a list: what follows a code word is determined with
the word. They compose to codes of lists, options and pairs.
-/
namespace SocAnalyst.PrefixCodes

variable {α β γ : Type*} {P : α → Prop} {Q : β → Prop} {code : α → List γ} {other : β → List γ}

/-- No code word of an allowed item continues into another. -/
def PrefixFree (P : α → Prop) (code : α → List γ) : Prop :=
  ∀ a b, P a → P b → ∀ rest rest', code a ++ rest = code b ++ rest' → a = b ∧ rest = rest'

/-- A code with a reader is one. -/
theorem prefixFree_of_read {read : List γ → Option (α × List γ)} (reads : ∀ a, P a → ∀ rest, read (code a ++ rest) = some (a,rest)) :
    PrefixFree P code := by
  intro a b here there rest rest' same
  have both := (reads a here rest).symm.trans ((congrArg read same).trans (reads b there rest'))
  exact Prod.mk.inj (Option.some.inj both)

theorem PrefixFree.injective (free : PrefixFree P code) {a b : α} (here : P a) (there : P b) (same : code a = code b) : a = b :=
  (free a b here there [] [] (by rw [same])).1

/-- A list of code words up to a mark that no word begins with. -/
theorem PrefixFree.list (free : PrefixFree P code) (mark : List γ) (apart : ∀ a, P a → ∀ rest rest', code a ++ rest ≠ mark ++ rest') :
    PrefixFree (fun items : List α => ∀ item ∈ items, P item) fun items => items.flatMap code ++ mark := by
  intro xs
  induction xs with
  | nil =>
    rintro (_ | ⟨y,ys⟩) _ there rest rest' same
    · exact ⟨rfl,List.append_cancel_left same⟩
    · simp only [List.flatMap_nil,List.nil_append,List.flatMap_cons,List.append_assoc] at same
      exact absurd same.symm (apart y (there y List.mem_cons_self) _ _)
  | cons x xs ih =>
    rintro (_ | ⟨y,ys⟩) here there rest rest' same
    · simp only [List.flatMap_nil,List.nil_append,List.flatMap_cons,List.append_assoc] at same
      exact absurd same (apart x (here x List.mem_cons_self) _ _)
    · simp only [List.flatMap_cons,List.append_assoc] at same
      obtain ⟨rfl,more⟩ := free x y (here x List.mem_cons_self) (there y List.mem_cons_self) _ _ same
      rw [← List.append_assoc,← List.append_assoc] at more
      obtain ⟨rfl,left⟩ := ih ys (fun item member => here item (List.mem_cons_of_mem _ member))
        (fun item member => there item (List.mem_cons_of_mem _ member)) rest rest' more
      exact ⟨rfl,left⟩

/-- Code words between fixed marks, one after the other. -/
theorem PrefixFree.pair (free : PrefixFree P code) (free' : PrefixFree Q other) (before between : List γ) :
    PrefixFree (fun item : α × β => P item.1 ∧ Q item.2) fun item => before ++ code item.1 ++ between ++ other item.2 := by
  rintro ⟨a,b⟩ ⟨a',b'⟩ here there rest rest' same
  simp only [List.append_assoc] at same
  obtain ⟨rfl,more⟩ := free a a' here.1 there.1 _ _ (List.append_cancel_left same)
  obtain ⟨rfl,left⟩ := free' b b' here.2 there.2 _ _ (List.append_cancel_left more)
  exact ⟨rfl,left⟩

/-- A word for nothing that no code word begins with. -/
theorem PrefixFree.option (free : PrefixFree P code) (none : List γ) (apart : ∀ a, P a → ∀ rest rest', code a ++ rest ≠ none ++ rest') :
    PrefixFree (fun item : Option α => ∀ a ∈ item, P a) fun item => item.elim none code := by
  rintro (_ | a) (_ | b) here there rest rest' same
  · exact ⟨rfl,List.append_cancel_left same⟩
  · exact absurd same.symm (apart b (there b rfl) _ _)
  · exact absurd same (apart a (here a rfl) _ _)
  · obtain ⟨rfl,left⟩ := free a b (here a rfl) (there b rfl) _ _ same
    exact ⟨rfl,left⟩

end SocAnalyst.PrefixCodes
