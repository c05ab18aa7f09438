import Mathlib.Data.List.Basic

/-!
# Brackets

Counting brackets until they close: the loop that goes up at an opening bracket and
down at a closing one and stops where it is down at zero (`closing`), and the
beginning of a text that it stops at (`closing_iff`).
-/
namespace SocAnalyst.Brackets

variable {α : Type*} [DecidableEq α] (opens closes : α)

/-- By how much a text goes up. -/
def level (text : List α) : Int := (text.count opens : Int) - text.count closes

/-- The text up to the bracket that brings the depth to zero, and what follows. -/
def closing : Int → List α → Option (List α × List α)
  | _,[] => none
  | depth,c :: rest =>
    if c = opens then (closing (depth + 1) rest).map fun found => (c :: found.1,found.2)
    else if c = closes then
      if depth - 1 = 0 then some ([c],rest) else (closing (depth - 1) rest).map fun found => (c :: found.1,found.2)
    else (closing depth rest).map fun found => (c :: found.1,found.2)

/-- A text that brings a depth to zero, and no beginning of it does. -/
def Closes (depth : Int) (text : List α) : Prop :=
  depth + level opens closes text = 0 ∧ ∀ k < text.length, 0 < depth + level opens closes (text.take k)

/-- A text of as many closing as opening brackets, whose every proper beginning has more opening ones. -/
def Balanced (text : List α) : Prop :=
  level opens closes text = 0 ∧ ∀ k < text.length, 0 < k → 0 < level opens closes (text.take k)

instance (text : List α) : Decidable (Balanced opens closes text) := inferInstanceAs (Decidable (_ ∧ _))

variable {opens closes}

theorem level_cons (c : α) (rest : List α) :
    level opens closes (c :: rest) = level opens closes [c] + level opens closes rest := by
  simp only [level,List.count_cons,List.count_nil]
  omega

theorem level_append (first second : List α) :
    level opens closes (first ++ second) = level opens closes first + level opens closes second := by
  simp only [level,List.count_append]
  omega

theorem closes_cons {depth : Int} {c : α} {rest : List α} :
    Closes opens closes depth (c :: rest) ↔ 0 < depth ∧ Closes opens closes (depth + level opens closes [c]) rest := by
  constructor
  · rintro ⟨zero,before⟩
    rw [level_cons] at zero
    refine ⟨by simpa [level] using before 0 (by simp),by omega,fun k short => ?_⟩
    have later := before (k + 1) (by simpa using short)
    rw [List.take_succ_cons,level_cons] at later
    omega
  · rintro ⟨positive,zero,before⟩
    refine ⟨by rw [level_cons]; omega,fun k short => ?_⟩
    cases k with
    | zero => simpa [level] using positive
    | succ k =>
      have later := before k (by simpa using short)
      rw [List.take_succ_cons,level_cons]
      omega

/-- From one open bracket on, the balanced text is the one that closes it. -/
theorem balanced_cons (different : opens ≠ closes) {rest : List α} :
    Balanced opens closes (opens :: rest) ↔ Closes opens closes 1 rest := by
  have one : level opens closes [opens] = 1 := by simp [level,different]
  constructor
  · rintro ⟨zero,before⟩
    rw [level_cons,one] at zero
    refine ⟨zero,fun k short => ?_⟩
    have later := before (k + 1) (by simpa using short) (Nat.succ_pos k)
    rwa [List.take_succ_cons,level_cons,one] at later
  · rintro ⟨zero,before⟩
    refine ⟨by rw [level_cons,one]; exact zero,fun k short positive => ?_⟩
    cases k with
    | zero => cases positive
    | succ k =>
      rw [List.take_succ_cons,level_cons,one]
      exact before k (by simpa using short)

/-- The loop stops at the beginning that closes. -/
theorem closing_iff (different : opens ≠ closes) {depth : Int} (positive : 0 < depth) {text front back : List α} :
    closing opens closes depth text = some (front,back) ↔ text = front ++ back ∧ Closes opens closes depth front := by
  induction text generalizing depth front with
  | nil =>
    refine ⟨nofun,?_⟩
    rintro ⟨empty,zero,_⟩
    obtain ⟨rfl,rfl⟩ := List.append_eq_nil_iff.mp empty.symm
    simp [level] at zero
    omega
  | cons c rest ih =>
    -- The empty beginning does not bring the depth down.
    have nonempty : Closes opens closes depth front → front ≠ [] := by
      rintro ⟨zero,_⟩ rfl
      simp [level] at zero
      omega
    have shift : ∀ {deeper : Int}, 0 < deeper → deeper = depth + level opens closes [c] →
        ((closing opens closes deeper rest).map (fun found => (c :: found.1,found.2)) = some (front,back) ↔
          c :: rest = front ++ back ∧ Closes opens closes depth front) := by
      intro deeper above same
      rw [Option.map_eq_some_iff]
      constructor
      · rintro ⟨⟨before,after⟩,found,equal⟩
        obtain ⟨rfl,rfl⟩ := Prod.mk.inj equal
        obtain ⟨split,shut⟩ := (ih above).mp found
        exact ⟨by rw [split,List.cons_append],closes_cons.mpr ⟨positive,same ▸ shut⟩⟩
      · rintro ⟨split,shut⟩
        obtain ⟨d,before,rfl⟩ := List.exists_cons_of_ne_nil (nonempty shut)
        obtain ⟨rfl,rest_eq⟩ := List.cons.inj split
        exact ⟨(before,back),(ih above).mpr ⟨rest_eq,same ▸ (closes_cons.mp shut).2⟩,rfl⟩
    rw [closing]
    by_cases opening : c = opens
    · have up : level opens closes [c] = 1 := by simp [level,opening,different]
      rw [if_pos opening]
      exact shift (by omega) (by rw [up])
    · rw [if_neg opening]
      by_cases closed : c = closes
      · have down : level opens closes [c] = -1 := by simp [level,closed,different.symm]
        rw [if_pos closed]
        by_cases last : depth - 1 = 0
        · rw [if_pos last]
          constructor
          · rintro found
            obtain ⟨rfl,rfl⟩ := Prod.mk.inj (Option.some.inj found)
            exact ⟨rfl,closes_cons.mpr ⟨positive,by rw [down]; simp [level]; omega,nofun⟩⟩
          · rintro ⟨split,shut⟩
            obtain ⟨d,before,rfl⟩ := List.exists_cons_of_ne_nil (nonempty shut)
            obtain ⟨rfl,rfl⟩ := List.cons.inj split
            cases before with
            | nil => rfl
            | cons e before =>
              have still := (closes_cons.mp (closes_cons.mp shut).2).1
              omega
        · rw [if_neg last]
          exact shift (by omega) (by rw [down]; rfl)
      · have level0 : level opens closes [c] = 0 := by simp [level,opening,closed]
        rw [if_neg closed]
        exact shift positive (by rw [level0,Int.add_zero])

end SocAnalyst.Brackets
