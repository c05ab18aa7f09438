import Mathlib.Data.List.Basic

/-!
# Shrinking a list from the front

Items are taken off the front for as long as what is left is too much.
-/
namespace SocAnalyst.Evictions

variable {α : Type*}

/-- What is taken off while the rest must shrink, and the rest. -/
def popWhile (must : List α → Prop) [DecidablePred must] : List α → List α × List α
  | [] => ([],[])
  | item :: rest => if must (item :: rest) then (item :: (popWhile must rest).1,(popWhile must rest).2) else ([],item :: rest)

/-- A split behind the shortest front that leaves a rest which need not shrink. -/
structure Cut (must : List α → Prop) (items gone kept : List α) : Prop where
  split : gone ++ kept = items
  enough : kept = [] ∨ ¬ must kept
  needed : ∀ front back, gone = front ++ back → back ≠ [] → must (back ++ kept)

section
variable {must : List α → Prop}

theorem cut_nil {gone kept : List α} : Cut must [] gone kept ↔ gone = [] ∧ kept = [] := by
  constructor
  · intro cut
    exact List.append_eq_nil_iff.mp cut.split
  · rintro ⟨rfl,rfl⟩
    refine ⟨rfl,.inl rfl,?_⟩
    intro front back split some
    exact (some (List.append_eq_nil_iff.mp split.symm).2).elim

theorem cut_stop {item : α} {rest gone kept : List α} (enough : ¬ must (item :: rest)) :
    Cut must (item :: rest) gone kept ↔ gone = [] ∧ kept = item :: rest := by
  constructor
  · intro cut
    by_cases none : gone = []
    · exact ⟨none,by simpa [none] using cut.split⟩
    · exact (enough (cut.split ▸ cut.needed [] gone rfl none)).elim
  · rintro ⟨rfl,rfl⟩
    refine ⟨rfl,.inr enough,?_⟩
    intro front back split some
    exact (some (List.append_eq_nil_iff.mp split.symm).2).elim

theorem cut_go {item : α} {rest gone kept : List α} (much : must (item :: rest)) :
    Cut must (item :: rest) gone kept ↔ ∃ later, gone = item :: later ∧ Cut must rest later kept := by
  constructor
  · intro cut
    cases gone with
    | nil =>
      have whole : kept = item :: rest := cut.split
      rcases cut.enough with none | little
      · rw [none] at whole
        cases whole
      · exact (little (whole ▸ much)).elim
    | cons first later =>
      obtain ⟨rfl,same⟩ := List.cons.inj cut.split
      exact ⟨later,rfl,same,cut.enough,fun front back split => cut.needed (first :: front) back (by rw [split]; rfl)⟩
  · rintro ⟨later,rfl,cut⟩
    refine ⟨by rw [List.cons_append,cut.split],cut.enough,?_⟩
    intro front back split some
    cases front with
    | nil =>
      rw [List.nil_append] at split
      rw [← split,List.cons_append,cut.split]
      exact much
    | cons first front => exact cut.needed front back (List.cons.inj split).2 some

/-- There is only one such split. -/
theorem Cut.unique {items gone kept gone' kept' : List α} (cut : Cut must items gone kept) (other : Cut must items gone' kept') :
    gone = gone' ∧ kept = kept' := by
  induction items generalizing gone gone' with
  | nil =>
    obtain ⟨rfl,rfl⟩ := cut_nil.mp cut
    obtain ⟨rfl,rfl⟩ := cut_nil.mp other
    exact ⟨rfl,rfl⟩
  | cons item rest ih =>
    by_cases much : must (item :: rest)
    · obtain ⟨later,rfl,inner⟩ := (cut_go much).mp cut
      obtain ⟨later',rfl,inner'⟩ := (cut_go much).mp other
      obtain ⟨rfl,rfl⟩ := ih inner inner'
      exact ⟨rfl,rfl⟩
    · obtain ⟨rfl,rfl⟩ := (cut_stop much).mp cut
      obtain ⟨rfl,rfl⟩ := (cut_stop much).mp other
      exact ⟨rfl,rfl⟩

/-- A rest that need not shrink is kept whole. -/
theorem Cut.keeps {items gone kept front back : List α} (cut : Cut must items gone kept) (split : front ++ back = items)
    (little : ¬ must back) : ∃ more, kept = more ++ back := by
  rcases List.append_eq_append_iff.mp (split.trans cut.split.symm) with ⟨late,longer,same⟩ | ⟨more,_,same⟩
  · by_cases none : late = []
    · exact ⟨[],by rw [same,none]; rfl⟩
    · exact (little (same ▸ cut.needed front late longer none)).elim
  · exact ⟨more,same⟩

end

section
variable (must : List α → Prop) [DecidablePred must]

theorem popWhile_eq_iff (items gone kept : List α) : popWhile must items = (gone,kept) ↔ Cut must items gone kept := by
  induction items generalizing gone with
  | nil => simp [popWhile,cut_nil,eq_comm]
  | cons item rest ih =>
    unfold popWhile
    by_cases much : must (item :: rest)
    · rw [if_pos much,cut_go much]
      constructor
      · intro same
        obtain ⟨rfl,rfl⟩ := Prod.mk.inj same
        exact ⟨_,rfl,(ih _).mp rfl⟩
      · rintro ⟨later,rfl,cut⟩
        rw [(ih later).mpr cut]
    · rw [if_neg much,cut_stop much,Prod.mk.injEq]
      exact ⟨fun same => ⟨same.1.symm,same.2.symm⟩,fun same => ⟨same.1.symm,same.2.symm⟩⟩

theorem popWhile_cut (items : List α) : Cut must items (popWhile must items).1 (popWhile must items).2 :=
  (popWhile_eq_iff must items _ _).mp rfl

end

section
variable (p q : List α → Prop) [DecidablePred p] [DecidablePred q]

/-- Two loops in a row are one loop, when the first is not needed again. -/
theorem popWhile_popWhile (steady : ∀ item rest, ¬ p (item :: rest) → ¬ p rest) (items : List α) :
    popWhile (fun items => p items ∨ q items) items =
      ((popWhile p items).1 ++ (popWhile q (popWhile p items).2).1,(popWhile q (popWhile p items).2).2) := by
  have idle : ∀ items, ¬ p items → popWhile (fun items => p items ∨ q items) items = popWhile q items := by
    intro items
    induction items with
    | nil => exact fun _ => rfl
    | cons item rest ih =>
      intro little
      simp only [popWhile,little,false_or,ih (steady item rest little)]
  induction items with
  | nil => rfl
  | cons item rest ih =>
    by_cases much : p (item :: rest)
    · simp only [popWhile,much,true_or,if_true,ih,List.cons_append]
    · rw [idle _ much]
      simp only [popWhile,much,if_false,List.nil_append]

end

end SocAnalyst.Evictions
