import Mathlib.Data.List.SplitBy
import Mathlib.Data.List.Perm.Subperm

/-!
# Splitting at gaps

The loop that cuts a list wherever two neighbours are too far apart, and the maximal runs
it leaves: for items with a position, ordered by it, a run is all that a chain of short
steps can reach.
-/
namespace SocAnalyst.Gaps

variable {α : Type*}

/-- The loop over the items: the current group is closed where the next item is apart from
    its last one. -/
def splitFrom (apart : α → α → Bool) : List α → List α → List (List α)
  | current, [] => if current.isEmpty then [] else [current]
  | current, item :: rest =>
    if current.getLast?.any (apart · item) then current :: splitFrom apart [item] rest else splitFrom apart (current ++ [item]) rest

def splitByGap (apart : α → α → Bool) (items : List α) : List (List α) := splitFrom apart [] items

private theorem splitFrom_chain {apart : α → α → Bool} {current rest : List α} (some : current ≠ [])
    (chain : current.IsChain fun x y => (!apart x y) = true) :
    splitFrom apart current rest = (current ++ rest).splitBy fun x y => !apart x y := by
  induction rest generalizing current with
  | nil =>
    rw [splitFrom,List.append_nil,List.splitBy_of_isChain some chain,if_neg (by simpa using some)]
  | cons item rest ih =>
    rw [splitFrom,List.getLast?_eq_some_getLast some,Option.any_some]
    by_cases far : apart (current.getLast some) item = true
    · rw [if_pos far,ih (List.cons_ne_nil _ _) (List.isChain_singleton _)]
      have cut := List.splitBy_append (r := fun x y => !apart x y) (l := current) (m := item :: rest) fun x last y first => by
        rw [List.getLast?_eq_some_getLast some,Option.mem_some_iff] at last
        rw [List.head?_cons,Option.mem_some_iff] at first
        rw [← last,← first,far]
        rfl
      rw [cut,List.splitBy_of_isChain some chain]
      rfl
    · rw [if_neg far,ih (by simp)]
      · rw [List.append_assoc]
        rfl
      · refine chain.append (List.isChain_singleton _) fun x last y first => ?_
        rw [List.getLast?_eq_some_getLast some,Option.mem_some_iff] at last
        rw [List.head?_cons,Option.mem_some_iff] at first
        rw [← last,← first]
        simpa using far

/-- The loop makes the groups of `List.splitBy`. -/
theorem splitByGap_eq (apart : α → α → Bool) (items : List α) :
    splitByGap apart items = items.splitBy fun x y => !apart x y := by
  cases items with
  | nil => rfl
  | cons item rest =>
    rw [splitByGap,splitFrom,List.getLast?_nil,Option.any_none,if_neg Bool.false_ne_true,List.nil_append]
    exact splitFrom_chain (List.cons_ne_nil _ _) (List.isChain_singleton _)

/-- The groups depend on the items only through what the gaps depend on. -/
theorem splitByGap_map {β : Type*} {apart : α → α → Bool} {apart' : β → β → Bool} (f : α → β)
    (alike : ∀ x y, apart' (f x) (f y) = apart x y) (items : List α) :
    splitByGap apart' (items.map f) = (splitByGap apart items).map (List.map f) := by
  have from_current : ∀ current : List α, splitFrom apart' (current.map f) (items.map f) =
      (splitFrom apart current items).map (List.map f) := by
    induction items with
    | nil =>
      intro current
      simp only [List.map_nil,splitFrom,List.isEmpty_map]
      split_ifs <;> rfl
    | cons item rest ih =>
      intro current
      have last : (current.map f).getLast?.any (apart' · (f item)) = current.getLast?.any (apart · item) := by
        rw [List.getLast?_map]
        cases current.getLast? with
        | none => rfl
        | some x => exact alike x item
      rw [List.map_cons,splitFrom,splitFrom,last]
      split_ifs
      · rw [List.map_cons,← ih]
        rfl
      · rw [← ih,List.map_append]
        rfl
  exact from_current []

/-! ### Maximal runs -/

/-- A stretch of a list without a gap that is not part of a longer one. -/
def MaximalRun (apart : α → α → Prop) (items run : List α) : Prop :=
  ∃ before after, items = before ++ run ++ after ∧ run ≠ [] ∧ run.IsChain (fun x y => ¬ apart x y) ∧
    (∀ x ∈ before.getLast?, ∀ y ∈ run.head?, apart x y) ∧ ∀ x ∈ run.getLast?, ∀ y ∈ after.head?, apart x y

theorem mem_splitByGap {apart : α → α → Bool} {items run : List α} :
    run ∈ splitByGap apart items ↔ MaximalRun (fun x y => apart x y = true) items run := by
  rw [splitByGap_eq]
  constructor
  · intro member
    obtain ⟨earlier,later,split⟩ := List.append_of_mem member
    have whole := List.flatten_splitBy (fun x y => !apart x y) items
    have cuts := List.isChain_getLast_head_splitBy (fun x y => !apart x y) items
    have solid := List.nil_notMem_splitBy (fun x y => !apart x y) items
    rw [split] at whole cuts solid
    rw [List.flatten_append,List.flatten_cons,← List.append_assoc] at whole
    refine ⟨earlier.flatten,later.flatten,whole.symm,List.ne_nil_of_mem_splitBy member,?_,?_,?_⟩
    · simpa using List.isChain_of_mem_splitBy member
    · intro x last y first
      rcases List.eq_nil_or_concat earlier with rfl | ⟨front,group,rfl⟩
      · cases last
      · rw [List.concat_eq_append,List.append_assoc,List.singleton_append] at cuts
        have cut := (List.isChain_append.mp cuts).2.1
        obtain ⟨some,other,far⟩ := (List.isChain_cons_cons.mp cut).1
        rw [List.concat_eq_append,List.flatten_append,List.flatten_singleton,List.getLast?_append_of_ne_nil _ some,
          List.getLast?_eq_some_getLast some,Option.mem_some_iff] at last
        rw [List.head?_eq_some_head other,Option.mem_some_iff] at first
        rw [← last,← first]
        simpa using far
    · intro x last y first
      cases later with
      | nil => cases first
      | cons group back =>
        have cut := (List.isChain_append.mp cuts).2.1
        obtain ⟨some,other,far⟩ := (List.isChain_cons_cons.mp cut).1
        rw [List.flatten_cons,List.head?_append_of_ne_nil _ other,List.head?_eq_some_head other,Option.mem_some_iff] at first
        rw [List.getLast?_eq_some_getLast some,Option.mem_some_iff] at last
        rw [← last,← first]
        simpa using far
  · rintro ⟨before,after,rfl,some,chain,start,stop⟩
    have joined : run.splitBy (fun x y => !apart x y) = [run] := List.splitBy_of_isChain some (by simpa using chain)
    have left := List.splitBy_append (r := fun x y => !apart x y) (l := before) (m := run) fun x last y first => by
      rw [start x last y first]
      rfl
    have right := List.splitBy_append (r := fun x y => !apart x y) (l := before ++ run) (m := after) fun x last y first => by
      rw [List.getLast?_append_of_ne_nil _ some] at last
      rw [stop x last y first]
      rfl
    rw [right,left,joined]
    simp

/-! ### Runs of ordered items -/

section
variable {position : α → Int} {window : Int} {items run : List α}

/-- The next item is farther away than the window. -/
def Far (position : α → Int) (window : Int) (x y : α) : Prop := window < position y - position x

/-- A chain of short steps forward. -/
def Linked (position : α → Int) (window : Int) (chain : List α) : Prop :=
  chain.IsChain fun x y => position x ≤ position y ∧ position y - position x ≤ window

theorem first_least {x y : α} (sorted : run.Pairwise fun x y => position x ≤ position y) (first : x ∈ run.head?) (member : y ∈ run) :
    position x ≤ position y := by
  cases run with
  | nil => cases first
  | cons head rest =>
    cases first
    rcases List.mem_cons.mp member with rfl | later
    · exact Int.le_refl _
    · exact (List.pairwise_cons.mp sorted).1 y later

theorem last_greatest {x y : α} (sorted : run.Pairwise fun x y => position x ≤ position y) (last : x ∈ run.getLast?) (member : y ∈ run) :
    position y ≤ position x := by
  rcases List.eq_nil_or_concat run with rfl | ⟨front,end_,rfl⟩
  · cases last
  · rw [List.concat_eq_append] at sorted last member
    rw [List.getLast?_append_of_ne_nil _ (List.cons_ne_nil _ _),List.getLast?_singleton,Option.mem_some_iff] at last
    subst last
    rcases List.mem_append.mp member with earlier | now
    · exact (List.pairwise_append.mp sorted).2.2 y earlier end_ (List.mem_singleton_self _)
    · exact Int.le_of_eq (congrArg position (List.mem_singleton.mp now))

/-- An ordered list without a gap is a chain of short steps. -/
theorem linked_of_chain (sorted : run.Pairwise fun x y => position x ≤ position y)
    (chain : run.IsChain fun x y => ¬ Far position window x y) : Linked position window run := by
  induction run with
  | nil => exact List.isChain_nil
  | cons first rest ih =>
    cases rest with
    | nil => exact List.isChain_singleton _
    | cons second others =>
      obtain ⟨near,later⟩ := List.isChain_cons_cons.mp chain
      obtain ⟨ahead,ordered⟩ := List.pairwise_cons.mp sorted
      exact List.isChain_cons_cons.mpr ⟨⟨ahead second (by simp),Int.not_lt.mp near⟩,ih ordered later⟩

/-- A chain with a step needs a window. -/
theorem Linked.wide {x y : α} {rest : List α} (linked : Linked position window (x :: y :: rest)) : 0 ≤ window := by
  obtain ⟨ahead,near⟩ := (List.isChain_cons_cons.mp linked).1
  omega

/-- What lies outside a run is farther away than the window. -/
theorem far_outside {before after : List α} (sorted : (before ++ run ++ after).Pairwise fun x y => position x ≤ position y) (some : run ≠ [])
    (start : ∀ x ∈ before.getLast?, ∀ y ∈ run.head?, Far position window x y)
    (stop : ∀ x ∈ run.getLast?, ∀ y ∈ after.head?, Far position window x y) {x : α} (inside : x ∈ run) :
    (∀ y ∈ before, Far position window y x) ∧ ∀ y ∈ after, Far position window x y := by
  obtain ⟨front,back,_⟩ := List.pairwise_append.mp sorted
  obtain ⟨left,middle,_⟩ := List.pairwise_append.mp front
  constructor
  · intro y member
    have last := List.getLast?_eq_some_getLast (List.ne_nil_of_mem member)
    have first := List.head?_eq_some_head some
    have gap := start _ last _ first
    have below := last_greatest left last member
    have above := first_least middle first inside
    unfold Far at gap ⊢
    omega
  · intro y member
    have last := List.getLast?_eq_some_getLast some
    have first := List.head?_eq_some_head (List.ne_nil_of_mem member)
    have gap := stop _ last _ first
    have below := last_greatest middle last inside
    have above := first_least back first member
    unfold Far at gap ⊢
    omega

/-- Different runs are farther apart than the window. -/
theorem runs_apart {groups : List (List α)} (solid : [] ∉ groups) (sorted : groups.flatten.Pairwise fun x y => position x ≤ position y)
    (cuts : groups.IsChain fun g h => ∃ some other, Far position window (g.getLast some) (h.head other)) :
    groups.Pairwise fun g h => ∀ x ∈ g, ∀ y ∈ h, Far position window x y := by
  induction groups with
  | nil => exact List.Pairwise.nil
  | cons group rest ih =>
    rw [List.mem_cons,not_or] at solid
    rw [List.flatten_cons] at sorted
    refine List.pairwise_cons.mpr ⟨fun other listed x inside y member => ?_,ih solid.2 (List.pairwise_append.mp sorted).2.1 cuts.tail⟩
    cases rest with
    | nil => cases listed
    | cons next others =>
      obtain ⟨some,more,far⟩ := (List.isChain_cons_cons.mp cuts).1
      have whole : (group ++ (next :: others).flatten ++ []).Pairwise fun x y => position x ≤ position y := by
        rw [List.append_nil]
        exact sorted
      have last := List.getLast?_eq_some_getLast some
      have first : (next :: others).flatten.head? = .some (next.head more) := by
        rw [List.flatten_cons,List.head?_append_of_ne_nil _ more,List.head?_eq_some_head more]
      have below := last_greatest (List.pairwise_append.mp sorted).1 last inside
      have above := first_least (List.pairwise_append.mp sorted).2.1 first (List.mem_flatten.mpr ⟨other,listed,member⟩)
      unfold Far at far ⊢
      omega

variable (position window) in
/-- Whether the next item is farther away than the window. -/
def far (x y : α) : Bool := decide (window < position y - position x)

theorem far_iff {x y : α} : far position window x y = true ↔ Far position window x y := decide_eq_true_iff

theorem maximalRun_iff : MaximalRun (fun x y => far position window x y = true) items run ↔ MaximalRun (Far position window) items run := by
  simp only [MaximalRun,far_iff]

/-- The groups the loop makes of ordered items are farther apart than the window. -/
theorem splitByGap_apart (sorted : items.Pairwise fun x y => position x ≤ position y) :
    (splitByGap (far position window) items).Pairwise fun g h => ∀ x ∈ g, ∀ y ∈ h, Far position window x y := by
  rw [splitByGap_eq]
  have cuts := List.isChain_getLast_head_splitBy (fun x y => !far position window x y) items
  have solid := List.nil_notMem_splitBy (fun x y => !far position window x y) items
  rw [← List.flatten_splitBy (fun x y => !far position window x y) items] at sorted
  exact runs_apart solid sorted (cuts.imp fun _ _ ⟨solid,more,cut⟩ => ⟨solid,more,far_iff.mp (by simpa using cut)⟩)

/-- Items of different runs are never at one position. -/
theorem run_unique {other : List α} (wide : 0 ≤ window) (sorted : items.Pairwise fun x y => position x ≤ position y)
    (first : MaximalRun (Far position window) items run) (second : MaximalRun (Far position window) items other) {x y : α}
    (inside : x ∈ run) (also : y ∈ other) (same : position x = position y) : run = other := by
  have left := mem_splitByGap.mpr (maximalRun_iff.mpr first)
  have right := mem_splitByGap.mpr (maximalRun_iff.mpr second)
  by_contra different
  have symmetric : Std.Symm fun g h : List α =>
      (∀ x ∈ g, ∀ y ∈ h, Far position window x y) ∨ ∀ x ∈ h, ∀ y ∈ g, Far position window x y := ⟨fun _ _ either => either.symm⟩
  have either := ((splitByGap_apart sorted).imp fun {_ _} all => .inl all : List.Pairwise (fun g h : List α =>
    (∀ x ∈ g, ∀ y ∈ h, Far position window x y) ∨ ∀ x ∈ h, ∀ y ∈ g, Far position window x y) _).forall left right different
  rcases either with before | after
  · have gap := before x inside y also
    unfold Far at gap
    omega
  · have gap := after y also x inside
    unfold Far at gap
    omega

/-- Every item is in some run. -/
theorem exists_run {x : α} (member : x ∈ items) : ∃ run, MaximalRun (Far position window) items run ∧ x ∈ run := by
  have groups := List.flatten_splitBy (fun x y => !far position window x y) items
  rw [← groups,List.mem_flatten] at member
  obtain ⟨run,listed,inside⟩ := member
  rw [← splitByGap_eq] at listed
  exact ⟨run,maximalRun_iff.mp (mem_splitByGap.mp listed),inside⟩

/-- One short step does not leave a run. -/
theorem run_reaches (wide : 0 ≤ window) (sorted : items.Pairwise fun x y => position x ≤ position y)
    (maximal : MaximalRun (Far position window) items run) {x y : α} (inside : x ∈ run) (member : y ∈ items)
    (ahead : position x ≤ position y) (near : position y - position x ≤ window) : y ∈ run := by
  obtain ⟨before,after,rfl,some,_,start,stop⟩ := maximal
  obtain ⟨left,right⟩ := far_outside sorted some start stop inside
  rcases List.mem_append.mp member with front | back
  · rcases List.mem_append.mp front with earlier | here
    · have gap := left y earlier
      unfold Far at gap
      omega
    · exact here
  · have gap := right y back
    unfold Far at gap
    omega

/-- A chain of short steps stays in one run. -/
theorem linked_inside (wide : 0 ≤ window) (sorted : items.Pairwise fun x y => position x ≤ position y)
    (maximal : MaximalRun (Far position window) items run) {x : α} {chain : List α} (linked : Linked position window (x :: chain))
    (listed : chain ⊆ items) (inside : x ∈ run) : ∀ y ∈ x :: chain, y ∈ run := by
  induction chain generalizing x with
  | nil =>
    intro y member
    rwa [List.mem_singleton.mp member]
  | cons next rest ih =>
    obtain ⟨⟨ahead,near⟩,later⟩ := List.isChain_cons_cons.mp linked
    have reached := run_reaches wide sorted maximal inside (listed (by simp)) ahead near
    intro y member
    rcases List.mem_cons.mp member with rfl | further
    · exact inside
    · exact ih later (fun z known => listed (List.mem_cons_of_mem _ known)) reached y further

/-- Items that a chain of short steps connects are in one run, as many times as in the list. -/
theorem linked_subperm (wide : 0 ≤ window) (sorted : items.Pairwise fun x y => position x ≤ position y) {chain : List α}
    (some : chain ≠ []) (linked : Linked position window chain) (within : chain.Subperm items) :
    ∃ run, MaximalRun (Far position window) items run ∧ chain.Subperm run := by
  classical
  cases chain with
  | nil => exact absurd rfl some
  | cons x rest =>
    obtain ⟨run,maximal,inside⟩ := exists_run (within.subset (List.mem_cons_self))
    have all := linked_inside wide sorted maximal linked (fun y member => within.subset (List.mem_cons_of_mem _ member)) inside
    refine ⟨run,maximal,List.subperm_ext_iff.mpr fun y member => ?_⟩
    have bound := List.subperm_ext_iff.mp within y member
    obtain ⟨before,after,rfl,solid,_,start,stop⟩ := maximal
    obtain ⟨left,right⟩ := far_outside sorted solid start stop (all y member)
    have absent : y ∉ before ∧ y ∉ after := by
      constructor
      · intro earlier
        have gap := left y earlier
        unfold Far at gap
        omega
      · intro later
        have gap := right y later
        unfold Far at gap
        omega
    rw [List.count_append,List.count_append,List.count_eq_zero_of_not_mem absent.1,List.count_eq_zero_of_not_mem absent.2] at bound
    omega

end

end SocAnalyst.Gaps
