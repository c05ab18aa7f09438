import Mathlib.Data.List.DropRight
import Mathlib.Data.List.Infix

/-!
# Pieces of a list

Maps on lists that leave certain pieces of a list whole, wherever these stand: what such a
map makes of a list holds a piece just where the list holds it.
-/
namespace SocAnalyst.Pieces

variable {α : Type*} {S : List α → Prop} {F G F' G' : List α → List α} {p : α → Bool}

/-- A map that passes pieces on, writing what stands before a piece as `G` does; and that
    makes none. -/
structure Carries (S : List α → Prop) (F G : List α → List α) : Prop where
  sends : ∀ before piece after, S piece → ∃ rest, F (before ++ piece ++ after) = G before ++ piece ++ rest
  comes : ∀ xs front piece rest, S piece → F xs = front ++ piece ++ rest →
    ∃ before after, xs = before ++ piece ++ after ∧ front = G before

/-- One map after another. -/
theorem Carries.comp (second : Carries S F' G') (first : Carries S F G) : Carries S (fun xs => F' (F xs)) fun xs => G' (G xs) where
  sends before piece after good := by
    obtain ⟨middle,sent⟩ := first.sends before piece after good
    obtain ⟨rest,again⟩ := second.sends (G before) piece middle good
    exact ⟨rest,by rw [sent,again]⟩
  comes xs front piece rest good made := by
    obtain ⟨middle,later,same,front⟩ := second.comes (F xs) front piece rest good made
    obtain ⟨before,after,whole,begin⟩ := first.comes xs middle piece later good same
    exact ⟨before,after,whole,front.trans (congrArg G' begin)⟩

/-- A piece is found in what a map makes just where it is found in the list. -/
theorem Carries.found (carries : Carries S F G) {xs front piece : List α} (good : S piece) :
    (∃ rest, F xs = front ++ piece ++ rest) ↔ ∃ before after, xs = before ++ piece ++ after ∧ front = G before := by
  constructor
  · rintro ⟨rest,made⟩
    exact carries.comes xs front piece rest good made
  · rintro ⟨before,after,rfl,rfl⟩
    exact carries.sends before piece after good

/-! ### Trimming -/

theorem carries_dropWhile (solid : ∀ piece, S piece → piece ≠ [] ∧ ∀ x ∈ piece, p x = false) :
    Carries S (List.dropWhile p) (List.dropWhile p) where
  sends before piece after good := by
    obtain ⟨some,none⟩ := solid piece good
    have start : (piece ++ after).dropWhile p = piece ++ after := by
      cases piece with
      | nil => exact absurd rfl some
      | cons x rest => exact List.dropWhile_cons_of_neg (by simp [none x (List.mem_cons_self ..)])
    refine ⟨after,?_⟩
    rw [List.append_assoc,List.dropWhile_append,start]
    split_ifs with empty
    · rw [List.isEmpty_iff.mp empty,List.nil_append]
    · rw [List.append_assoc]
  comes xs front piece rest good made := by
    refine ⟨xs.takeWhile p ++ front,rest,?_,?_⟩
    · calc xs = xs.takeWhile p ++ xs.dropWhile p := List.takeWhile_append_dropWhile.symm
        _ = xs.takeWhile p ++ front ++ piece ++ rest := by rw [made]; simp
    · rw [List.dropWhile_append_of_pos fun x member => List.mem_takeWhile_imp member]
      cases front with
      | nil => rfl
      | cons x others =>
        have first : (xs.dropWhile p).head? = some x := by rw [made]; rfl
        have stays : p x = false := by
          have stop := List.head?_dropWhile_not p xs
          rw [first] at stop
          simpa using stop
        exact (List.dropWhile_cons_of_neg (by simp [stays])).symm

theorem carries_rdropWhile (solid : ∀ piece, S piece → piece ≠ [] ∧ ∀ x ∈ piece, p x = false) :
    Carries S (List.rdropWhile p) id where
  sends before piece after good := by
    obtain ⟨some,none⟩ := solid piece good
    have kept : (after.reverse.dropWhile p ++ piece.reverse ++ before.reverse) =
        ((before ++ piece ++ after).reverse).dropWhile p := by
      rw [List.reverse_append,List.reverse_append,List.dropWhile_append]
      split_ifs with empty
      · have start : (piece.reverse ++ before.reverse).dropWhile p = piece.reverse ++ before.reverse := by
          cases back : piece.reverse with
          | nil => exact absurd (List.reverse_eq_nil_iff.mp back) some
          | cons x rest =>
            have inside : x ∈ piece := List.mem_reverse.mp (back ▸ List.mem_cons_self ..)
            exact List.dropWhile_cons_of_neg (by simp [none x inside])
        rw [List.isEmpty_iff.mp empty,start,List.nil_append]
      · rw [List.append_assoc]
    exact ⟨(after.reverse.dropWhile p).reverse,by rw [List.rdropWhile,← kept]; simp⟩
  comes xs front piece rest _ made := by
    obtain ⟨tail,whole⟩ := List.rdropWhile_prefix p (l := xs)
    exact ⟨front,rest ++ tail,by rw [← whole,made]; simp,rfl⟩

/-! ### Writing each item out -/

/-- What is written of items that are written as they are begins as the items do. -/
theorem written_start {write : α → List α} {mark : α} (plain : ∀ x, write x = [x] ∨ (write x).head? = some mark) {xs piece rest : List α}
    (unmarked : ∀ x ∈ piece, x ≠ mark) (made : xs.flatMap write = piece ++ rest) : ∃ after, xs = piece ++ after := by
  induction piece generalizing xs with
  | nil => exact ⟨xs,rfl⟩
  | cons x others ih =>
    obtain ⟨here,later⟩ := List.forall_mem_cons.mp unmarked
    cases xs with
    | nil => cases made
    | cons y ys =>
      rw [List.flatMap_cons] at made
      rcases plain y with same | marked
      · rw [same,List.singleton_append,List.cons_append] at made
        injection made with head tail
        obtain ⟨after,whole⟩ := ih later tail
        exact ⟨after,by rw [whole,head]; rfl⟩
      · cases written : write y with
        | nil => rw [written] at marked; cases marked
        | cons z zs =>
          rw [written] at marked made
          cases marked
          injection made with head _
          exact absurd head.symm here

/-- Writing out items, each as it is or from a mark to an end that pieces have not, and
    with nothing in it that every piece has. -/
theorem carries_flatMap {write : α → List α} (mark stop held : α)
    (plain : ∀ x, write x = [x] ∨ ((write x).head? = some mark ∧ (write x).getLast? = some stop ∧ held ∉ write x))
    (solid : ∀ piece, S piece → held ∈ piece ∧ stop ∉ piece ∧ mark ∉ piece ∧ ∀ x ∈ piece, write x = [x]) :
    Carries S (fun xs => xs.flatMap write) fun xs => xs.flatMap write where
  sends before piece after good := by
    have same : piece.flatMap write = piece := by
      have all := (solid piece good).2.2.2
      clear good
      induction piece with
      | nil => rfl
      | cons x rest ih =>
        obtain ⟨here,later⟩ := List.forall_mem_cons.mp all
        rw [List.flatMap_cons,here,ih later,List.singleton_append]
    exact ⟨after.flatMap write,by simp only [List.flatMap_append,same]⟩
  comes xs front piece rest good made := by
    obtain ⟨holds,noStop,noMark,_⟩ := solid piece good
    have starts : ∀ x, write x = [x] ∨ (write x).head? = some mark := fun x => (plain x).imp_right (·.1)
    have unmarked : ∀ x ∈ piece, x ≠ mark := fun x member same => noMark (same ▸ member)
    induction xs generalizing front with
    | nil =>
      have empty : front ++ piece ++ rest = [] := made.symm
      simp only [List.append_eq_nil_iff] at empty
      rw [empty.1.2] at holds
      cases holds
    | cons x later ih =>
      rw [List.append_assoc] at made
      rcases List.append_eq_append_iff.mp ((List.flatMap_cons ..).symm.trans made) with ⟨more,begins,ends⟩ | ⟨excess,begins,ends⟩
      · obtain ⟨before,after,whole,same⟩ := ih more (by rw [ends,List.append_assoc])
        exact ⟨x :: before,after,by rw [whole]; rfl,by rw [begins,same,List.flatMap_cons]⟩
      · -- The piece would begin inside what is written of one item.
        cases excess with
        | nil =>
          rw [List.append_nil] at begins
          rw [List.nil_append] at ends
          obtain ⟨after,whole⟩ := written_start starts unmarked ends.symm
          exact ⟨[x],after,by rw [whole]; rfl,by simp [begins]⟩
        | cons y others =>
          rcases plain x with single | ⟨_,last,without⟩
          · rw [single] at begins
            have alone : front = [] ∧ y = x ∧ others = [] := by
              cases front with
              | nil => simpa [eq_comm] using begins
              | cons z zs => simp at begins
            obtain ⟨rfl,rfl,rfl⟩ := alone
            cases piece with
            | nil => cases holds
            | cons z zs =>
              injection ends with head tail
              obtain ⟨after,whole⟩ := written_start starts (List.forall_mem_cons.mp unmarked).2 tail.symm
              exact ⟨[],after,by rw [whole,head]; rfl,rfl⟩
          · exfalso
            have stopped : (y :: others).getLast? = some stop := by
              rw [begins,List.getLast?_append_of_ne_nil _ (by simp)] at last
              exact last
            rcases List.append_eq_append_iff.mp ends with ⟨part,inside,_⟩ | ⟨part,covers,_⟩
            · refine without ?_
              rw [begins,inside]
              exact List.mem_append_right _ (List.mem_append_left _ holds)
            · refine noStop ?_
              rw [covers]
              exact List.mem_append_left _ (List.mem_of_getLast? stopped)

/-! ### Cutting off -/

/-- A list cut off with a mark that no piece has holds the pieces that end before the cut. -/
theorem found_cut {xs : List α} {limit : Nat} {mark : α} (solid : ∀ piece, S piece → piece ≠ [] ∧ mark ∉ piece) :
    (∃ front piece rest, S piece ∧ xs.take limit ++ [mark] = front ++ piece ++ rest) ↔
      ∃ front piece rest, S piece ∧ xs = front ++ piece ++ rest ∧ (front ++ piece).length ≤ limit := by
  constructor
  · rintro ⟨front,piece,rest,good,made⟩
    obtain ⟨some,unmarked⟩ := solid piece good
    rcases List.append_eq_append_iff.mp made with ⟨more,whole,marked⟩ | ⟨more,whole,_⟩
    · -- The piece would end with the mark.
      cases more with
      | nil =>
        rw [List.append_nil] at whole
        refine ⟨front,piece,xs.drop limit,good,?_,?_⟩
        · rw [whole,List.take_append_drop]
        · rw [whole]
          exact List.length_take_le ..
      | cons x others =>
        obtain ⟨rfl,empty⟩ : x = mark ∧ others ++ rest = [] := by
          rw [List.cons_append] at marked
          injection marked with head tail
          exact ⟨head.symm,tail.symm⟩
        obtain ⟨rfl,_⟩ := List.append_eq_nil_iff.mp empty
        have last := congrArg List.getLast? whole
        rw [List.getLast?_append_of_ne_nil _ some,List.getLast?_append_of_ne_nil _ (by simp)] at last
        exact absurd (List.mem_of_getLast? last) unmarked
    · refine ⟨front,piece,more ++ xs.drop limit,good,?_,?_⟩
      · rw [← List.append_assoc,← whole,List.take_append_drop]
      · have length := congrArg List.length whole
        rw [List.length_append,List.length_take] at length
        omega
  · rintro ⟨front,piece,rest,good,rfl,short⟩
    refine ⟨front,piece,rest.take (limit - (front ++ piece).length) ++ [mark],good,?_⟩
    rw [List.take_append,List.take_of_length_le short,List.append_assoc]

end SocAnalyst.Pieces
