import SocAnalyst.Dicts

/-!
# The best of a bounded list

Items are ranked by a key, up to a limit, and those that do not count are left out. When
the items come in any order and only the first few of them are ranked, the outcome is fixed
only under conditions that are given here.
-/
namespace SocAnalyst.BoundedRanking
open SocAnalyst.Dicts

variable {α β : Type*} [LinearOrder β]

section
variable {xs : List α} {x y : α}

theorem before_of_take {n : Nat} (first : x ∈ xs.take n) (second : y ∈ xs.drop n) : [x,y].Sublist xs := by
  have both := (List.singleton_sublist.mpr first).append (List.singleton_sublist.mpr second)
  rwa [List.take_append_drop] at both

/-- No two items of a list without repetitions precede each other. -/
theorem before_asymm (once : xs.Nodup) (first : [x,y].Sublist xs) (second : [y,x].Sublist xs) : False := by
  induction xs with
  | nil => cases first
  | cons a rest ih =>
    obtain ⟨fresh,distinct⟩ := List.nodup_cons.mp once
    rcases List.sublist_cons_iff.mp first with within | ⟨_,same,tail⟩
    · rcases List.sublist_cons_iff.mp second with inside | ⟨_,same,tail⟩
      · exact ih distinct within inside
      · cases same
        exact fresh (within.subset (by simp))
    · cases same
      rcases List.sublist_cons_iff.mp second with inside | ⟨_,same,_⟩
      · exact fresh (inside.subset (by simp))
      · cases same
        exact fresh (List.singleton_sublist.mp tail)

theorem before_or (first : x ∈ xs) (second : y ∈ xs) (apart : x ≠ y) : [x,y].Sublist xs ∨ [y,x].Sublist xs := by
  induction xs with
  | nil => cases first
  | cons a rest ih =>
    rcases List.mem_cons.mp first with rfl | earlier
    · exact .inl ((List.singleton_sublist.mpr ((List.mem_cons.mp second).resolve_left apart.symm)).cons_cons x)
    · rcases List.mem_cons.mp second with rfl | later
      · exact .inr ((List.singleton_sublist.mpr earlier).cons_cons y)
      · exact (ih earlier later).imp (fun sub => sub.cons a) fun sub => sub.cons a

end

/-- In strict order an item is among the first few exactly when few precede it. -/
theorem mem_take_strict {key : α → β} {xs : List α} (strict : xs.Pairwise fun x y => key x < key y) {x : α} (member : x ∈ xs)
    (n : Nat) : x ∈ xs.take n ↔ xs.countP (fun y => key y < key x) < n := by
  obtain ⟨before,after,rfl⟩ := List.append_of_mem member
  obtain ⟨_,rest,across⟩ := List.pairwise_append.mp strict
  have lower : ∀ y ∈ before, key y < key x := fun y listed => across y listed x (by simp)
  have upper : ∀ y ∈ after, ¬ key y < key x := fun y listed => ((List.pairwise_cons.mp rest).1 y listed).not_gt
  have count : (before ++ x :: after).countP (fun y => key y < key x) = before.length := by
    have all : before.countP (fun y => key y < key x) = before.length := List.countP_eq_length.mpr (by simpa using lower)
    have none : after.countP (fun y => key y < key x) = 0 := List.countP_eq_zero.mpr (by simpa using upper)
    rw [List.countP_append,List.countP_cons,all,none]
    simp
  rw [count]
  constructor
  · intro taken
    by_contra short
    rw [List.take_append_of_le_length (by omega)] at taken
    exact (lower x (List.mem_of_mem_take taken)).false
  · intro reached
    obtain ⟨k,rfl⟩ := Nat.exists_eq_add_of_lt reached
    rw [List.take_append]
    simp [show before.length + k + 1 - before.length = k + 1 by omega]

/-- The items that count among the best, up to the limit. -/
def ranked (key : α → β) (counts : α → Prop) [DecidablePred counts] (limit : Nat) (xs : List α) : List α :=
  ((sortedBy key xs).take limit).filter fun x => counts x

section
variable {key : α → β} {counts : α → Prop} [DecidablePred counts] {limit : Nat} {xs : List α} {x y : α}

theorem mem_ranked (member : x ∈ ranked key counts limit xs) : x ∈ xs ∧ counts x := by
  obtain ⟨taken,good⟩ := List.mem_filter.mp member
  exact ⟨(mem_sortedBy key xs x).mp (List.mem_of_mem_take taken),by simpa using good⟩

theorem ranked_sorted : (ranked key counts limit xs).Pairwise fun x y => key x ≤ key y :=
  (pairwise_sortedBy key xs).sublist ((List.filter_sublist).trans (List.take_sublist ..))

variable (key) in
theorem nodup_sortedBy (once : xs.Nodup) : (sortedBy key xs).Nodup := (List.perm_insertionSort _ xs).nodup_iff.mpr once

theorem ranked_once (once : xs.Nodup) : (ranked key counts limit xs).Nodup :=
  (nodup_sortedBy key once).sublist ((List.filter_sublist).trans (List.take_sublist ..))

theorem length_ranked_le : (ranked key counts limit xs).length ≤ limit :=
  (List.length_filter_le ..).trans (List.length_take_le ..)

variable (key) in
/-- Sorting puts the smaller key first, and keeps the order of equal ones. -/
theorem before_sorted (once : xs.Nodup) (first : x ∈ xs) (second : y ∈ xs) (apart : x ≠ y) :
    [x,y].Sublist (sortedBy key xs) ↔ key x < key y ∨ key x = key y ∧ [x,y].Sublist xs := by
  have distinct := nodup_sortedBy key once
  have ordered : ∀ {a b : α}, [a,b].Sublist (sortedBy key xs) → key a ≤ key b := by
    intro a b sub
    simpa using (pairwise_sortedBy key xs).sublist sub
  have stable : ∀ {a b : α}, key a = key b → [a,b].Sublist xs → [a,b].Sublist (sortedBy key xs) :=
    fun same sub => List.pair_sublist_insertionSort (r := fun x y => key x ≤ key y) same.le sub
  constructor
  · intro sub
    rcases (ordered sub).lt_or_eq with less | same
    · exact .inl less
    · refine .inr ⟨same,(before_or first second apart).resolve_right fun reverse => ?_⟩
      exact before_asymm distinct sub (stable same.symm reverse)
  · rintro (less | ⟨same,sub⟩)
    · refine (before_or ((mem_sortedBy key xs x).mpr first) ((mem_sortedBy key xs y).mpr second) apart).resolve_right fun reverse => ?_
      exact (ordered reverse).not_gt less
    · exact stable same sub

variable (limit) in
/-- An item that counts is among the best, or they are as many as the limit allows, all
    ahead of it. -/
theorem ranked_or_crowded (first : ∀ x y, counts x → ¬ counts y → key x < key y) (member : x ∈ xs) (good : counts x) :
    x ∈ ranked key counts limit xs ∨
      ((ranked key counts limit xs).length = limit ∧ ∀ y ∈ ranked key counts limit xs, [y,x].Sublist (sortedBy key xs)) := by
  have listed : x ∈ (sortedBy key xs).take limit ++ (sortedBy key xs).drop limit := by
    rw [List.take_append_drop]
    exact (mem_sortedBy key xs x).mpr member
  rcases List.mem_append.mp listed with taken | dropped
  · exact .inl (List.mem_filter.mpr ⟨taken,by simpa using good⟩)
  · have ahead : ∀ y ∈ (sortedBy key xs).take limit, [y,x].Sublist (sortedBy key xs) := fun y taken => before_of_take taken dropped
    have all : ranked key counts limit xs = (sortedBy key xs).take limit := by
      refine List.filter_eq_self.mpr fun y taken => ?_
      have below : key y ≤ key x := by simpa using (pairwise_sortedBy key xs).sublist (ahead y taken)
      by_contra bad
      exact (first x y good (by simpa using bad)).not_ge below
    have long : limit < (sortedBy key xs).length := by
      have some := List.length_pos_of_mem dropped
      rw [List.length_drop] at some
      omega
    rw [all]
    exact .inr ⟨List.length_take_of_le long.le,ahead⟩

/-! ### Ranking the first items of any order -/

/-- No two items that count have the same key. -/
def Untied (key : α → β) (counts : α → Prop) (xs : List α) : Prop :=
  ∀ x ∈ xs, ∀ y ∈ xs, counts x → counts y → key x = key y → x = y

theorem mem_ranked_all {ys : List α} (short : ys.length ≤ limit) : x ∈ ranked key counts limit ys ↔ x ∈ ys ∧ counts x := by
  have length : (sortedBy key ys).length ≤ limit := by rwa [sortedBy,List.length_insertionSort]
  simp [ranked,List.take_of_length_le length]

theorem ranked_idle (idle : limit = 0 ∨ ∀ x ∈ xs, ¬ counts x) {rows : List α} (order : rows.Perm xs) :
    ranked key counts limit (rows.take limit) = [] := by
  refine List.eq_nil_iff_forall_not_mem.mpr fun x member => ?_
  obtain ⟨taken,good⟩ := mem_ranked member
  rcases idle with rfl | none
  · simp at taken
  · exact none x (order.mem_iff.mp (List.mem_of_mem_take taken)) good

/-- Where the order does not matter, an item that counts leaves no item beyond the limit. -/
theorem short_of_orders (once : xs.Nodup) {best : List α} (same : ∀ rows : List α, rows.Perm xs → ranked key counts limit (rows.take limit) = best)
    (some : limit ≠ 0) {x : α} (member : x ∈ xs) (good : counts x) : xs.length ≤ limit := by
  classical
  by_contra long
  have length := List.length_erase_of_mem member
  -- The item comes first in one order, and after the limit in another.
  have front : x ∈ best := by
    rw [← same (x :: xs.erase x) (List.perm_cons_erase member).symm]
    refine (mem_ranked_all (List.length_take_le ..)).mpr ⟨?_,good⟩
    obtain ⟨n,rfl⟩ := Nat.exists_eq_succ_of_ne_zero some
    exact List.mem_cons_self ..
  have back : x ∉ best := by
    rw [← same (xs.erase x ++ [x]) (List.perm_append_comm.trans (List.perm_cons_erase member).symm)]
    intro found
    have taken := (mem_ranked found).1
    rw [List.take_append_of_le_length (by omega)] at taken
    exact (once.not_mem_erase) (List.mem_of_mem_take taken)
  exact back front

/-- Where the order of all items does not matter, no two that count are tied. -/
theorem untied_of_orders (once : xs.Nodup) (short : xs.length ≤ limit) {best : List α} (distinct : best.Nodup)
    (same : ∀ rows : List α, rows.Perm xs → ranked key counts limit rows = best) : Untied key counts xs := by
  classical
  intro a first b second goodA goodB tie
  by_contra apart
  -- The two orders of tied items would both be kept.
  have order : ∀ {c d : α}, c ∈ xs → d ∈ xs → c ≠ d → key c = key d → counts c → counts d → [c,d].Sublist best := by
    intro c d inC inD other equal goodC goodD
    have later : d ∈ xs.erase c := (once.mem_erase_iff).mpr ⟨other.symm,inD⟩
    have rows : (c :: d :: (xs.erase c).erase d).Perm xs :=
      ((List.perm_cons_erase later).symm.cons c).trans (List.perm_cons_erase inC).symm
    have kept : [c,d].Sublist (sortedBy key (c :: d :: (xs.erase c).erase d)) :=
      List.pair_sublist_insertionSort (r := fun x y => key x ≤ key y) equal.le (by simp)
    rw [← same _ rows,ranked,List.take_of_length_le (by rw [sortedBy,List.length_insertionSort,rows.length_eq]; exact short)]
    have both := kept.filter fun x => counts x
    rwa [List.filter_cons_of_pos (by simpa using goodC),List.filter_cons_of_pos (by simpa using goodD)] at both
  exact before_asymm distinct (order first second apart tie goodA goodB) (order second first (Ne.symm apart) tie.symm goodB goodA)

omit [DecidablePred counts] in
/-- Items in order of their keys are in strict order where none that count are tied. -/
theorem strict_of_untied (untied : Untied key counts xs) {ys : List α} (within : ∀ x ∈ ys, x ∈ xs ∧ counts x) (nodup : ys.Nodup)
    (low : ys.Pairwise fun x y => key x ≤ key y) : ys.Pairwise fun x y => key x < key y := by
  refine (low.and nodup).imp_of_mem fun {a b} first second both => both.1.lt_of_ne fun tie => both.2 ?_
  exact untied a (within a first).1 b (within b second).1 (within a first).2 (within b second).2 tie

/-- Whatever order the items come in, ranking the first of them gives one list: none of
    them counts, or all of them are ranked and none that count are tied. -/
theorem ranked_orders (once : xs.Nodup) (best : List α) :
    (∀ rows : List α, rows.Perm xs → ranked key counts limit (rows.take limit) = best) ↔
      ((limit = 0 ∨ ∀ x ∈ xs, ¬ counts x) ∧ best = []) ∨
      (xs.length ≤ limit ∧ Untied key counts xs ∧ best.Perm (xs.filter fun x => counts x) ∧ best.Pairwise fun x y => key x ≤ key y) := by
  classical
  constructor
  · intro same
    by_cases idle : limit = 0 ∨ ∀ x ∈ xs, ¬ counts x
    · exact .inl ⟨idle,(same xs (.refl xs)).symm.trans (ranked_idle idle (.refl xs))⟩
    · simp only [not_or,not_forall,not_not] at idle
      obtain ⟨some,x,member,good⟩ := idle
      have short := short_of_orders once same some member good
      have all : ∀ rows : List α, rows.Perm xs → ranked key counts limit rows = best := by
        intro rows order
        rw [← same rows order,List.take_of_length_le (order.length_eq.le.trans short)]
      have distinct : best.Nodup := by
        rw [← all xs (.refl xs)]
        exact ranked_once once
      refine .inr ⟨short,untied_of_orders once short distinct all,?_,?_⟩
      · refine (List.perm_ext_iff_of_nodup distinct (once.filter _)).mpr fun a => ?_
        rw [← all xs (.refl xs),mem_ranked_all short]
        simp
      · rw [← all xs (.refl xs)]
        exact ranked_sorted
  · rintro (⟨idle,rfl⟩ | ⟨short,untied,members,sorted⟩) rows order
    · exact ranked_idle idle order
    · rw [List.take_of_length_le (order.length_eq.le.trans short)]
      have mine : ∀ x ∈ ranked key counts limit rows, x ∈ xs ∧ counts x := fun x member =>
        ⟨order.mem_iff.mp (mem_ranked member).1,(mem_ranked member).2⟩
      have theirs : ∀ x ∈ best, x ∈ xs ∧ counts x := fun x member => by simpa using members.mem_iff.mp member
      refine strict_unique (strict_of_untied untied mine (ranked_once (order.nodup_iff.mpr once)) ranked_sorted)
        (strict_of_untied untied theirs (members.nodup_iff.mpr (once.filter _)) sorted) fun x => ?_
      rw [mem_ranked_all (order.length_eq.le.trans short),order.mem_iff,members.mem_iff]
      simp

/-! ### Ranking some of the items -/

/-- The items of a short list that count stand for those of all: each is one of them, and
    any that is missed comes after the whole list, which is as long as the limit. -/
structure Covers (key : α → β) (counts : α → Prop) (limit : Nat) (all some : List α) : Prop where
  sound : ∀ x ∈ some, counts x → x ∈ all
  complete : ∀ y ∈ all, counts y → y ∈ some ∨
    some.length = limit ∧ ∀ x ∈ some, counts x ∧ (key x < key y ∨ key x = key y ∧ [x,y].Sublist all)

theorem covers_iff (first : ∀ x y, counts x → ¬ counts y → key x < key y) {all some : List α} (once : all.Nodup)
    (distinct : some.Nodup) (short : some.length ≤ limit) :
    (ranked key counts limit all).Perm (some.filter fun x => counts x) ↔ Covers key counts limit all some := by
  have few : (some.filter fun x => counts x).length ≤ some.length := List.length_filter_le ..
  constructor
  · intro same
    have known : ∀ x ∈ some, counts x → x ∈ ranked key counts limit all := fun x member good =>
      same.mem_iff.mpr (List.mem_filter.mpr ⟨member,by simpa using good⟩)
    refine ⟨fun x member good => (mem_ranked (known x member good)).1,fun y member good => ?_⟩
    by_cases missed : y ∈ some
    · exact .inl missed
    · refine .inr ?_
      rcases ranked_or_crowded limit first member good with kept | ⟨full,ahead⟩
      · exact absurd (List.mem_filter.mp (same.mem_iff.mp kept)).1 missed
      · have lengths := same.length_eq
        have whole : some.filter (fun x => counts x) = some := List.filter_sublist.eq_of_length (by omega)
        refine ⟨by omega,fun x inside => ?_⟩
        have counted : counts x := by
          rw [← whole] at inside
          simpa using (List.mem_filter.mp inside).2
        have best := known x inside counted
        have apart : x ≠ y := fun equal => missed (equal ▸ inside)
        exact ⟨counted,(before_sorted key once (mem_ranked best).1 member apart).mp (ahead x best)⟩
  · rintro ⟨sound,complete⟩
    refine (List.perm_ext_iff_of_nodup (ranked_once once) (distinct.filter _)).mpr ?_
    have counted : ∀ x, x ∈ some.filter (fun x => counts x) ↔ x ∈ some ∧ counts x := fun x => by simp
    by_cases all_in : ∀ y ∈ all, counts y → y ∈ some
    · refine fun x => ⟨fun kept => (counted x).mpr ⟨all_in x (mem_ranked kept).1 (mem_ranked kept).2,(mem_ranked kept).2⟩,fun inside => ?_⟩
      obtain ⟨member,good⟩ := (counted x).mp inside
      rcases ranked_or_crowded limit first (sound x member good) good with kept | ⟨full,ahead⟩
      · exact kept
      · by_contra out
        -- The best would be as many as the limit, and one more counts.
        have more : (x :: ranked key counts limit all).Subperm (some.filter fun x => counts x) := by
          refine List.subperm_of_subset (List.nodup_cons.mpr ⟨out,ranked_once once⟩) (List.cons_subset.mpr ⟨inside,fun y kept => ?_⟩)
          exact (counted y).mpr ⟨all_in y (mem_ranked kept).1 (mem_ranked kept).2,(mem_ranked kept).2⟩
        have length := more.length_le
        rw [List.length_cons] at length
        omega
    · simp only [not_forall] at all_in
      obtain ⟨r,member,good,missed⟩ := all_in
      obtain ⟨full,ahead⟩ := (complete r member good).resolve_left missed
      have inBest : ∀ x ∈ some, x ∈ ranked key counts limit all := by
        intro x inside
        rcases ranked_or_crowded limit first (sound x inside (ahead x inside).1) (ahead x inside).1 with kept | ⟨filled,before⟩
        · exact kept
        · by_contra out
          -- One of the best is missed, and both precede each other.
          have another : ∃ y ∈ ranked key counts limit all, y ∉ some := by
            by_contra none
            simp only [not_exists,not_and,not_not] at none
            have more : (x :: ranked key counts limit all).Subperm some :=
              List.subperm_of_subset (List.nodup_cons.mpr ⟨out,ranked_once once⟩) (List.cons_subset.mpr ⟨inside,none⟩)
            have length := more.length_le
            rw [List.length_cons] at length
            omega
          obtain ⟨y,best,foreign⟩ := another
          obtain ⟨_,later⟩ := (complete y (mem_ranked best).1 (mem_ranked best).2).resolve_left foreign
          have apart : x ≠ y := fun equal => foreign (equal ▸ inside)
          have sub := (before_sorted key once (sound x inside (later x inside).1) (mem_ranked best).1 apart).mpr (later x inside).2
          exact before_asymm (nodup_sortedBy key once) sub (before y best)
      have same : some.Perm (ranked key counts limit all) :=
        (List.subperm_of_subset distinct inBest).perm_of_length_le (length_ranked_le.trans full.ge)
      refine fun x => ⟨fun kept => (counted x).mpr ⟨same.mem_iff.mpr kept,(mem_ranked kept).2⟩,fun inside => ?_⟩
      exact same.mem_iff.mp ((counted x).mp inside).1

variable (limit) in
/-- The first items of a short list, whatever their order, are ranked as all items are just
    when there is nothing to rank, or the short list fits the limit, ties nothing that
    counts and stands for all. -/
theorem ranked_agree (first : ∀ x y, counts x → ¬ counts y → key x < key y) {all some : List α} (once : all.Nodup)
    (distinct : some.Nodup) :
    (∀ rows : List α, rows.Perm some → ranked key counts limit (rows.take limit) = ranked key counts limit all) ↔
      limit = 0 ∨ ((∀ x ∈ some, ¬ counts x) ∧ ∀ x ∈ all, ¬ counts x) ∨
      (some.length ≤ limit ∧ Untied key counts some ∧ Covers key counts limit all some) := by
  have empty : ranked key counts limit all = [] ↔ limit = 0 ∨ ∀ x ∈ all, ¬ counts x := by
    constructor
    · intro nothing
      refine or_iff_not_imp_left.mpr fun positive x member good => ?_
      rcases ranked_or_crowded limit first member good with kept | ⟨full,_⟩
      · rw [nothing] at kept
        cases kept
      · rw [nothing,List.length_nil] at full
        exact positive full.symm
    · rintro (rfl | none)
      · simp [ranked]
      · exact List.eq_nil_iff_forall_not_mem.mpr fun x member => none x (mem_ranked member).1 (mem_ranked member).2
  rw [ranked_orders distinct,empty]
  constructor
  · rintro (⟨idle,rest⟩ | ⟨short,untied,members,_⟩)
    · rcases idle with zero | none
      · exact .inl zero
      · rcases rest with zero | nothing
        · exact .inl zero
        · exact .inr (.inl ⟨none,nothing⟩)
    · exact .inr (.inr ⟨short,untied,(covers_iff first once distinct short).mp members⟩)
  · rintro (zero | ⟨none,nothing⟩ | ⟨short,untied,covers⟩)
    · exact .inl ⟨.inl zero,.inl zero⟩
    · exact .inl ⟨.inr none,.inr nothing⟩
    · exact .inr ⟨short,untied,(covers_iff first once distinct short).mpr covers,ranked_sorted⟩

end

end SocAnalyst.BoundedRanking
