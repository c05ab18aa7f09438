import Mathlib.Data.List.Chain

/-!
# Trailing runs

A loop that gathers the items that count into a run, starts the run anew after a gap, and
closes it at every other item. What it holds is the longest run that ends where it is, and
what it reports is read off the runs before the other items.
-/
namespace SocAnalyst.TrailingRuns

variable {α β : Type*} (counts : α → Bool) (apart : α → α → Bool)

/-- The run after one more item. -/
def extend (run : List α) (item : α) : List α :=
  if counts item then (if run.getLast?.any (apart · item) then [item] else run ++ [item]) else []

/-- The run at the end of the items. -/
def trailing (items : List α) : List α := items.foldl (extend counts apart) []

/-- What the loop reports of the runs before the items that do not count. -/
def scan (fires : List α → α → Bool) (report : List α → α → β) : List α → List α → List β
  | _, [] => []
  | run, item :: rest =>
    if counts item then scan fires report (extend counts apart run item) rest
    else (if fires run item then [report run item] else []) ++ scan fires report [] rest

/-- The items of a run count and follow one another closely, and the item before them does
    not belong to them. -/
structure Trails (before run : List α) : Prop where
  counted : ∀ item ∈ run, counts item = true
  close : run.IsChain fun x y => apart x y = false
  opens : ∀ last ∈ before.getLast?, counts last = true → ∃ first ∈ run.head?, apart last first = true

variable {counts apart}

theorem trailing_snoc (items : List α) (item : α) :
    trailing counts apart (items ++ [item]) = extend counts apart (trailing counts apart items) item := by
  simp [trailing]

/-- An item that counts joins a run or begins one. -/
theorem Trails.grows {before run : List α} {item : α} (trails : Trails counts apart before run) (counted : counts item = true) :
    ∃ front, before ++ run ++ [item] = front ++ extend counts apart run item ∧ Trails counts apart front (extend counts apart run item) := by
  rw [extend,if_pos counted]
  split_ifs with far
  · refine ⟨before ++ run,rfl,by simpa using counted,List.isChain_singleton _,fun last ends _ => ⟨item,rfl,?_⟩⟩
    obtain ⟨other,held,gap⟩ := (Option.any_eq_true _ _).mp far
    have some_run : run ≠ [] := by
      rintro rfl
      cases held
    rw [List.getLast?_append_of_ne_nil _ some_run,Option.mem_def,held] at ends
    obtain rfl := Option.some.inj ends
    exact gap
  · refine ⟨before,by simp,?_,?_,?_⟩
    · intro other listed
      rcases List.mem_append.mp listed with earlier | now
      · exact trails.counted other earlier
      · obtain rfl := List.mem_singleton.mp now
        exact counted
    · refine trails.close.append (List.isChain_singleton _) fun x last y first => ?_
      obtain rfl : item = y := by simpa using first
      rw [Option.mem_def.mp last] at far
      simpa using far
    · intro last ends counts_last
      obtain ⟨first,head,gap⟩ := trails.opens last ends counts_last
      exact ⟨first,by rw [List.head?_append,Option.mem_def.mp head]; rfl,gap⟩

/-- The items end in the run that the loop holds. -/
theorem trailing_trails (items : List α) :
    ∃ before, items = before ++ trailing counts apart items ∧ Trails counts apart before (trailing counts apart items) := by
  induction items using List.reverseRecOn with
  | nil => exact ⟨[],rfl,by simp [trailing],by simp [trailing],by simp⟩
  | append_singleton items item ih =>
    obtain ⟨before,whole,trails⟩ := ih
    rw [trailing_snoc]
    by_cases counted : counts item = true
    · obtain ⟨front,same,grown⟩ := trails.grows counted
      exact ⟨front,by rw [← same,← whole],grown⟩
    · refine ⟨items ++ [item],by simp [extend,counted],by simp [extend,counted],by simp [extend,counted],?_⟩
      intro last ends counted_last
      obtain rfl : item = last := by simpa using ends
      exact absurd counted_last counted

/-- A run that trails its items is the one that the loop holds. -/
theorem Trails.trailing {before run : List α} (trails : Trails counts apart before run) : trailing counts apart (before ++ run) = run := by
  induction run using List.reverseRecOn with
  | nil =>
    rw [List.append_nil]
    rcases List.eq_nil_or_concat before with rfl | ⟨front,last,rfl⟩
    · rfl
    · rw [List.concat_eq_append] at trails ⊢
      have aside : ¬ counts last = true := fun counted => by
        obtain ⟨first,head,_⟩ := trails.opens last (by simp) counted
        cases head
      rw [trailing_snoc,extend,if_neg aside]
  | append_singleton run item ih =>
    have counted : counts item = true := trails.counted item (by simp)
    rw [← List.append_assoc,trailing_snoc,extend,if_pos counted]
    rcases List.eq_nil_or_concat run with rfl | ⟨front,last,rfl⟩
    · -- The run begins here: what was held ends in an item that is apart from it.
      rw [List.append_nil]
      obtain ⟨ahead,whole,held⟩ := @trailing_trails _ counts apart before
      split_ifs with far
      · rfl
      · cases ends : (SocAnalyst.TrailingRuns.trailing counts apart before).getLast? with
        | none =>
          rw [List.getLast?_eq_none_iff.mp ends]
        | some last =>
          have member := List.mem_of_getLast? ends
          have tail : last ∈ before.getLast? := by
            rw [whole,List.getLast?_append_of_ne_nil _ (List.ne_nil_of_mem member)]
            exact ends
          obtain ⟨first,head,gap⟩ := trails.opens last tail (held.counted last member)
          obtain rfl : item = first := by simpa using head
          simp [ends,gap] at far
    · rw [List.concat_eq_append] at trails ih ⊢
      have shorter : Trails counts apart before (front ++ [last]) := by
        refine ⟨fun other listed => trails.counted other (List.mem_append_left _ listed),(List.isChain_append.mp trails.close).1,?_⟩
        intro other ends counted_other
        obtain ⟨first,head,gap⟩ := trails.opens other ends counted_other
        refine ⟨first,?_,gap⟩
        rw [List.head?_append_of_ne_nil _ (by simp)] at head
        exact head
      have near : apart last item = false := (List.isChain_append.mp trails.close).2.2 last (by simp) item (by simp)
      rw [ih shorter]
      simp [near]

variable {fires : List α → α → Bool} {report : List α → α → β}

private theorem mem_scan_from (earlier items : List α) (found : β) :
    found ∈ scan counts apart fires report (trailing counts apart earlier) items ↔
      ∃ middle item after, items = middle ++ item :: after ∧ counts item = false ∧
        fires (trailing counts apart (earlier ++ middle)) item = true ∧
        found = report (trailing counts apart (earlier ++ middle)) item := by
  induction items generalizing earlier with
  | nil => simp [scan]
  | cons head rest ih =>
    have next := ih (earlier ++ [head])
    rw [trailing_snoc] at next
    rw [scan]
    by_cases counted : counts head = true
    · rw [if_pos counted,next]
      constructor
      · rintro ⟨middle,item,after,rfl,aside,fired,rfl⟩
        exact ⟨head :: middle,item,after,rfl,aside,by simpa using fired,by simp⟩
      · rintro ⟨middle,item,after,whole,aside,fired,rfl⟩
        cases middle with
        | nil =>
          obtain ⟨rfl,_⟩ := List.cons.inj whole
          rw [counted] at aside
          cases aside
        | cons first middle =>
          obtain ⟨rfl,rfl⟩ := List.cons.inj whole
          exact ⟨middle,item,after,rfl,aside,by simpa using fired,by simp⟩
    · rw [extend,if_neg counted] at next
      rw [if_neg counted,List.mem_append,next]
      constructor
      · rintro (here | ⟨middle,item,after,rfl,aside,fired,rfl⟩)
        · split_ifs at here with fired
          · exact ⟨[],head,rest,rfl,by simpa using counted,by simpa using fired,by simpa using here⟩
          · cases here
        · exact ⟨head :: middle,item,after,rfl,aside,by simpa using fired,by simp⟩
      · rintro ⟨middle,item,after,whole,aside,fired,rfl⟩
        cases middle with
        | nil =>
          obtain ⟨rfl,rfl⟩ := List.cons.inj whole
          rw [List.append_nil] at fired
          exact .inl (by simp [fired])
        | cons first middle =>
          obtain ⟨rfl,rfl⟩ := List.cons.inj whole
          exact .inr ⟨middle,item,after,rfl,aside,by simpa using fired,by simp⟩

/-- The loop reports the items that do not count after the runs that trail before them. -/
theorem mem_scan (items : List α) (found : β) :
    found ∈ scan counts apart fires report [] items ↔
      ∃ before run item after, items = before ++ run ++ item :: after ∧ Trails counts apart before run ∧ counts item = false ∧
        fires run item = true ∧ found = report run item := by
  refine (mem_scan_from [] items found).trans ⟨?_,?_⟩
  · rintro ⟨middle,item,after,whole,aside,fired,rfl⟩
    obtain ⟨before,same,trails⟩ := @trailing_trails _ counts apart middle
    exact ⟨before,_,item,after,by rw [← same]; exact whole,trails,aside,fired,rfl⟩
  · rintro ⟨before,run,item,after,whole,trails,aside,fired,rfl⟩
    refine ⟨before ++ run,item,after,whole,aside,?_⟩
    rw [List.nil_append,trails.trailing]
    exact ⟨fired,rfl⟩

end SocAnalyst.TrailingRuns
