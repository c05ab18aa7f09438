import Mathlib.Logic.Function.Basic
import SocAnalyst.Groups
import SocAnalyst.MemoryTiers

/-!
# Revisions of session memory in the database

`SqlDurableMemoryStore` of `memory/durable.py` over `SessionMemoryRepository` of
`backend/db/repositories/memory.py`: any number of transactions append revisions, each in the
steps in which they interleave, under the unique constraint on investigation, key and
revision. What is committed is what the in-process store holds after the same appends one
after the other.
-/
namespace SocAnalyst.SessionRevisions
open SocAnalyst.Builtins SocAnalyst.Dicts SocAnalyst.Runs SocAnalyst.Values
open SocAnalyst.Groups (perm_sortedBy)
open SocAnalyst.MemoryTiers (MemoryEntry InMemoryDurableStore)

/-- `session_memory_entries`. -/
structure SessionMemoryRow where
  investigationId : Text
  key : Text
  value : List (Text × Value)
  source : Text
  revision : Nat

/-! ### Queries -/

section
variable (rows : List SessionMemoryRow) (investigationId key : Text)

def revisionsOf : List SessionMemoryRow := rows.filter fun row => row.investigationId = investigationId ∧ row.key = key

/-- `func.max(revision)`, or nothing. -/
def maxRevision : Nat := ((revisionsOf rows investigationId key).map (·.revision)).foldl max 0

def nextRevision : Nat := maxRevision rows investigationId key + 1

def latest : Option SessionMemoryRow :=
  (sortedBy (fun row => OrderDual.toDual row.revision) (revisionsOf rows investigationId key)).head?

/-- The newest revision of every key, in the order the database gives keys. -/
def latestForInvestigation {β : Type} [LE β] [DecidableLE β] (collate : Text → β) : List SessionMemoryRow :=
  sortedBy (fun row => collate row.key)
    (rows.filter fun row => row.investigationId = investigationId ∧ row.revision = maxRevision rows investigationId row.key)

def history : List SessionMemoryRow := sortedBy (·.revision) (revisionsOf rows investigationId key)

end

/-- `_to_entry`, with what the database gives back for a document. -/
def toEntry (jsonb : List (Text × Value) → List (Text × Value)) (row : SessionMemoryRow) : MemoryEntry :=
  ⟨row.key,jsonb row.value,row.source,row.revision⟩

/-! ### Transactions -/

/-- How far an append is: with the row it is about to insert and how many rows were
    committed when its revision was read, or with the row it has inserted. -/
inductive Phase where
  | idle
  | numbered (row : SessionMemoryRow) (known : Nat)
  | flushed (row : SessionMemoryRow)

structure World where
  /-- The committed rows. -/
  rows : List SessionMemoryRow := []
  phases : Nat → Phase := fun _ => .idle
  /-- The appends that returned, with who called them. -/
  answers : List (Nat × SessionMemoryRow) := []

def World.put (w : World) (caller : Nat) (phase : Phase) : World := { w with phases := Function.update w.phases caller phase }

/-- The unique constraint. -/
def SameKey (row other : SessionMemoryRow) : Prop :=
  row.investigationId = other.investigationId ∧ row.key = other.key ∧ row.revision = other.revision

inductive Move where
  | number (caller : Nat) (investigationId key : Text) (value : List (Text × Value)) (source : Text)
  | insert (caller : Nat)
  | refuse (caller : Nat)
  | commit (caller : Nat)
  | rollBack (caller : Nat)

/-- An insert waits for other transactions that hold its unique key, and is refused when
    one of them has committed. A transaction may be rolled back at any time. -/
inductive Step : World → Move → World → Prop where
  | number {w : World} {caller : Nat} {investigationId key : Text} {value : List (Text × Value)} {source : Text}
      (free : w.phases caller = .idle) : Step w (.number caller investigationId key value source)
        (w.put caller (.numbered ⟨investigationId,key,value,source,nextRevision w.rows investigationId key⟩ w.rows.length))
  | insert {w : World} {caller known : Nat} {row : SessionMemoryRow} (begun : w.phases caller = .numbered row known)
      (alone : ∀ other held, other ≠ caller → w.phases other = .flushed held → ¬ SameKey held row)
      (fresh : ∀ stored ∈ w.rows, ¬ SameKey stored row) : Step w (.insert caller) (w.put caller (.flushed row))
  | refuse {w : World} {caller known : Nat} {row stored : SessionMemoryRow} (begun : w.phases caller = .numbered row known)
      (listed : stored ∈ w.rows) (taken : SameKey stored row) : Step w (.refuse caller) (w.put caller .idle)
  | commit {w : World} {caller : Nat} {row : SessionMemoryRow} (held : w.phases caller = .flushed row) : Step w (.commit caller)
      { rows := w.rows ++ [row],phases := Function.update w.phases caller .idle,answers := w.answers ++ [(caller,row)] }
  | rollBack {w : World} {caller : Nat} : Step w (.rollBack caller) (w.put caller .idle)

/-! ### Revisions without a gap -/

/-- The revisions of every key are numbered from one in the order they were committed. -/
def Dense (rows : List SessionMemoryRow) : Prop :=
  ∀ investigationId key, (revisionsOf rows investigationId key).map (·.revision) =
    List.range' 1 (revisionsOf rows investigationId key).length

section
variable {rows : List SessionMemoryRow} {row : SessionMemoryRow} {investigationId key : Text}

theorem mem_revisionsOf : row ∈ revisionsOf rows investigationId key ↔
    row ∈ rows ∧ row.investigationId = investigationId ∧ row.key = key := by
  simp [revisionsOf]

theorem revisionsOf_append (more : List SessionMemoryRow) :
    revisionsOf (rows ++ more) investigationId key = revisionsOf rows investigationId key ++ revisionsOf more investigationId key :=
  List.filter_append ..

theorem revisionsOf_snoc : revisionsOf (rows ++ [row]) investigationId key =
    revisionsOf rows investigationId key ++ if row.investigationId = investigationId ∧ row.key = key then [row] else [] := by
  rw [revisionsOf_append]
  simp only [revisionsOf,List.filter_cons,List.filter_nil,decide_eq_true_eq]

theorem foldl_max_range' (start count : Nat) : (List.range' 1 count).foldl max start = max start count := by
  induction count with
  | zero => simp
  | succ count ih =>
    rw [List.range'_1_concat,List.foldl_append,ih,List.foldl_cons,List.foldl_nil]
    omega

theorem Dense.max (dense : Dense rows) (investigationId key : Text) :
    maxRevision rows investigationId key = (revisionsOf rows investigationId key).length := by
  rw [maxRevision,dense,foldl_max_range',Nat.zero_max]

theorem Dense.next (dense : Dense rows) (investigationId key : Text) :
    nextRevision rows investigationId key = (revisionsOf rows investigationId key).length + 1 := by
  rw [nextRevision,dense.max]

theorem dense_nil : Dense [] := fun _ _ => rfl

theorem revisionsOf_own : revisionsOf (rows ++ [row]) row.investigationId row.key = revisionsOf rows row.investigationId row.key ++ [row] := by
  rw [revisionsOf_snoc,if_pos ⟨rfl,rfl⟩]

theorem revisionsOf_other (other : ¬ (row.investigationId = investigationId ∧ row.key = key)) :
    revisionsOf (rows ++ [row]) investigationId key = revisionsOf rows investigationId key := by
  rw [revisionsOf_snoc,if_neg other,List.append_nil]

theorem dense_snoc (dense : Dense rows) (numbered : row.revision = nextRevision rows row.investigationId row.key) : Dense (rows ++ [row]) := by
  intro investigationId key
  by_cases own : row.investigationId = investigationId ∧ row.key = key
  · obtain ⟨rfl,rfl⟩ := own
    rw [revisionsOf_own,List.map_append,dense,List.length_append,List.length_singleton,List.range'_1_concat,List.map_singleton,numbered,
      dense.next,Nat.add_comm 1]
  · rw [revisionsOf_other own]
    exact dense investigationId key

theorem Dense.revisions_append {early late : List SessionMemoryRow} (dense : Dense (early ++ late)) (investigationId key : Text) :
    (revisionsOf early investigationId key).map (·.revision) ++ (revisionsOf late investigationId key).map (·.revision) =
      List.range' 1 (revisionsOf early investigationId key).length ++
        List.range' (1 + (revisionsOf early investigationId key).length) (revisionsOf late investigationId key).length := by
  have whole := dense investigationId key
  rwa [revisionsOf_append,List.map_append,List.length_append,List.range'_append_1.symm] at whole

theorem Dense.of_append {early late : List SessionMemoryRow} (dense : Dense (early ++ late)) : Dense early := fun investigationId key =>
  (List.append_inj (dense.revisions_append investigationId key) (by simp)).1

/-- A revision that was next and is not any more has been taken since. -/
theorem Dense.taken {early late : List SessionMemoryRow} (dense : Dense (early ++ late))
    (grown : nextRevision early investigationId key ≠ nextRevision (early ++ late) investigationId key) :
    ∃ stored ∈ late, stored.investigationId = investigationId ∧ stored.key = key ∧
      stored.revision = nextRevision early investigationId key := by
  rw [dense.of_append.next,dense.next,revisionsOf_append,List.length_append] at grown
  have later := (List.append_inj (dense.revisions_append investigationId key) (by simp)).2
  cases added : revisionsOf late investigationId key with
  | nil =>
    rw [added] at grown
    exact absurd rfl grown
  | cons stored rest =>
    have listed : stored ∈ revisionsOf late investigationId key := by
      rw [added]
      exact List.mem_cons_self
    obtain ⟨inside,owner,named⟩ := mem_revisionsOf.mp listed
    refine ⟨stored,inside,owner,named,?_⟩
    rw [added,List.map_cons,List.length_cons,List.range'_succ] at later
    rw [dense.of_append.next,(List.cons.inj later).1,Nat.add_comm]

theorem Dense.revision_lt (dense : Dense rows) (listed : row ∈ rows) : row.revision < nextRevision rows row.investigationId row.key := by
  have inside : row.revision ∈ (revisionsOf rows row.investigationId row.key).map (·.revision) :=
    List.mem_map_of_mem (mem_revisionsOf.mpr ⟨listed,rfl,rfl⟩)
  rw [dense,List.mem_range'_1] at inside
  rw [dense.next]
  omega

end

/-! ### What interleaved appends keep -/

structure Sound (w : World) : Prop where
  dense : Dense w.rows
  read : ∀ caller row known, w.phases caller = .numbered row known → ∃ early late, w.rows = early ++ late ∧ early.length = known ∧
    row.revision = nextRevision early row.investigationId row.key
  next : ∀ caller row, w.phases caller = .flushed row → row.revision = nextRevision w.rows row.investigationId row.key
  exclusive : ∀ caller other row held, w.phases caller = .flushed row → w.phases other = .flushed held →
    row.investigationId = held.investigationId → row.key = held.key → caller = other
  answered : w.answers.map Prod.snd = w.rows

theorem sound_start : Sound {} where
  dense := dense_nil
  read _ _ _ begun := nomatch begun
  next _ _ held := nomatch held
  exclusive _ _ _ _ held := nomatch held
  answered := rfl

/-- A phase without a row in the table holds nothing against the others. -/
theorem Sound.quiet {w : World} (sound : Sound w) (caller : Nat) {phase : Phase} (quiet : ∀ row, phase ≠ .flushed row)
    (read : ∀ row known, phase = .numbered row known → ∃ early late, w.rows = early ++ late ∧ early.length = known ∧
      row.revision = nextRevision early row.investigationId row.key) : Sound (w.put caller phase) where
  dense := sound.dense
  read other row known begun := by
    by_cases same : other = caller
    · exact read row known (by simpa [World.put,same] using begun)
    · exact sound.read other row known (by simpa [World.put,same] using begun)
  next other row held := by
    by_cases same : other = caller
    · exact absurd (by simpa [World.put,same] using held) (quiet row)
    · exact sound.next other row (by simpa [World.put,same] using held)
  exclusive first second row held one two := by
    by_cases same : first = caller
    · exact absurd (by simpa [World.put,same] using one) (quiet row)
    by_cases again : second = caller
    · exact absurd (by simpa [World.put,again] using two) (quiet held)
    exact sound.exclusive first second row held (by simpa [World.put,same] using one) (by simpa [World.put,again] using two)
  answered := sound.answered

/-- A row that is inserted takes the revision that is next now. -/
theorem Sound.fresh {w : World} (sound : Sound w) {caller known : Nat} {row : SessionMemoryRow} (begun : w.phases caller = .numbered row known)
    (fresh : ∀ stored ∈ w.rows, ¬ SameKey stored row) : row.revision = nextRevision w.rows row.investigationId row.key := by
  obtain ⟨early,late,whole,-,numbered⟩ := sound.read caller row known begun
  by_contra grown
  rw [numbered,whole] at grown
  obtain ⟨stored,listed,owner,named,taken⟩ := Dense.taken (whole ▸ sound.dense) grown
  exact fresh stored (whole ▸ List.mem_append_right _ listed) ⟨owner,named,taken.trans numbered.symm⟩

theorem Sound.insert {w : World} (sound : Sound w) {caller known : Nat} {row : SessionMemoryRow} (begun : w.phases caller = .numbered row known)
    (alone : ∀ other held, other ≠ caller → w.phases other = .flushed held → ¬ SameKey held row)
    (fresh : ∀ stored ∈ w.rows, ¬ SameKey stored row) : Sound (w.put caller (.flushed row)) where
  dense := sound.dense
  read other begun known read := by
    by_cases same : other = caller
    · simp [World.put,same] at read
    · exact sound.read other begun known (by simpa [World.put,same] using read)
  next other held flushed := by
    by_cases same : other = caller
    · simp only [World.put,same,Function.update_self,Phase.flushed.injEq] at flushed
      exact flushed ▸ sound.fresh begun fresh
    · exact sound.next other held (by simpa [World.put,same] using flushed)
  exclusive := by
    have apart : ∀ other held, other ≠ caller → w.phases other = .flushed held → row.investigationId = held.investigationId →
        row.key ≠ held.key := by
      intro other held another flushed owner named
      refine alone other held another flushed ⟨owner.symm,named.symm,?_⟩
      rw [sound.next other held flushed,sound.fresh begun fresh,owner,named]
    intro first second one two flushed again owner named
    by_cases same : first = caller
    · by_contra different
      simp only [World.put,same,Function.update_self,Phase.flushed.injEq] at flushed
      have another : second ≠ caller := fun equal => different (same.trans equal.symm)
      exact apart second two another (by simpa [World.put,another] using again) (flushed ▸ owner) (flushed ▸ named)
    by_cases equal : second = caller
    · simp only [World.put,equal,Function.update_self,Phase.flushed.injEq] at again
      exact absurd (again ▸ named.symm) (apart first one same (by simpa [World.put,same] using flushed) (again ▸ owner.symm))
    · exact sound.exclusive first second one two (by simpa [World.put,same] using flushed) (by simpa [World.put,equal] using again)
        owner named
  answered := sound.answered

theorem Sound.commit {w : World} (sound : Sound w) {caller : Nat} {row : SessionMemoryRow} (held : w.phases caller = .flushed row) :
    Sound { rows := w.rows ++ [row],phases := Function.update w.phases caller .idle,answers := w.answers ++ [(caller,row)] } where
  dense := dense_snoc sound.dense (sound.next caller row held)
  read other begun known read := by
    by_cases same : other = caller
    · simp [same] at read
    · obtain ⟨early,late,whole,count,numbered⟩ := sound.read other begun known (by simpa [same] using read)
      exact ⟨early,late ++ [row],by simp [whole],count,numbered⟩
  next other waiting flushed := by
    by_cases same : other = caller
    · simp [same] at flushed
    · have theirs : w.phases other = .flushed waiting := by simpa [same] using flushed
      have apart : ¬ (row.investigationId = waiting.investigationId ∧ row.key = waiting.key) := fun equal =>
        same (sound.exclusive caller other row waiting held theirs equal.1 equal.2).symm
      rw [sound.next other waiting theirs,nextRevision,nextRevision,maxRevision,maxRevision,revisionsOf_other apart]
  exclusive first second one two flushed again := by
    by_cases same : first = caller
    · simp [same] at flushed
    by_cases equal : second = caller
    · simp [equal] at again
    exact sound.exclusive first second one two (by simpa [same] using flushed) (by simpa [equal] using again)
  answered := by simp [sound.answered]

theorem Sound.step {w next : World} {move : Move} (sound : Sound w) (step : Step w move next) : Sound next := by
  cases step with
  | number _ =>
    refine sound.quiet _ (fun _ same => nomatch same) fun row known begun => ?_
    obtain ⟨rfl,rfl⟩ := Phase.numbered.inj begun
    exact ⟨w.rows,[],by simp,rfl,rfl⟩
  | insert begun alone fresh => exact sound.insert begun alone fresh
  | refuse _ _ _ => exact sound.quiet _ (fun _ same => nomatch same) fun _ _ same => nomatch same
  | commit held => exact sound.commit held
  | rollBack => exact sound.quiet _ (fun _ same => nomatch same) fun _ _ same => nomatch same

/-! ### The appends one after the other -/

section
variable (jsonb : List (Text × Value) → List (Text × Value)) (rows : List SessionMemoryRow) (investigationId key : Text)

/-- The in-process store after the appends of an investigation in the order of their rows. -/
def serial : InMemoryDurableStore :=
  (rows.filter fun row => row.investigationId = investigationId).foldl (fun store row => store.append row.key (jsonb row.value) row.source) .empty

theorem serial_snoc (row : SessionMemoryRow) : serial jsonb (rows ++ [row]) investigationId =
    if row.investigationId = investigationId then (serial jsonb rows investigationId).append row.key (jsonb row.value) row.source
    else serial jsonb rows investigationId := by
  unfold serial
  rw [List.filter_append,List.foldl_append]
  split_ifs with own
  · simp [own]
  · simp [own]

theorem store_revisions (store : InMemoryDurableStore) (value : List (Text × Value)) (source other : Text) :
    (store.append key value source).revisions other =
      if other = key then store.revisions key ++ [store.next key value source] else store.revisions other := by
  simp only [InMemoryDurableStore.revisions,InMemoryDurableStore.append,Dict.get?_set]
  split_ifs <;> rfl

variable {rows}

/-- The in-process store holds what is committed. -/
theorem Dense.revisions (dense : Dense rows) :
    (serial jsonb rows investigationId).revisions key = (revisionsOf rows investigationId key).map (toEntry jsonb) := by
  induction rows using List.reverseRecOn generalizing key with
  | nil => rfl
  | append_singleton rows row ih =>
    have before := fun other => ih other dense.of_append
    rw [serial_snoc]
    by_cases own : row.investigationId = investigationId
    · rw [if_pos own,store_revisions]
      split_ifs with named
      · subst own named
        have numbered := dense row.investigationId row.key
        rw [revisionsOf_own,List.map_append,dense.of_append,List.length_append,List.length_singleton,List.range'_1_concat,
          List.append_cancel_left_eq,List.map_singleton,List.singleton_inj] at numbered
        rw [revisionsOf_own,List.map_append,before row.key,List.map_singleton]
        congr 2
        rw [InMemoryDurableStore.next,before row.key,List.length_map,toEntry,numbered,Nat.add_comm]
      · rw [revisionsOf_other (fun same => named same.2.symm)]
        exact before key
    · rw [if_neg own,revisionsOf_other (fun same => own same.1)]
      exact before key

theorem Dense.ascending (dense : Dense rows) (investigationId key : Text) :
    (revisionsOf rows investigationId key).Pairwise fun first second => first.revision < second.revision := by
  have sorted : ((revisionsOf rows investigationId key).map (·.revision)).Pairwise (· < ·) := by
    rw [dense]
    exact List.pairwise_lt_range'
  exact List.pairwise_map.mp sorted

/-- The unique constraint holds of what is committed. -/
theorem Dense.apart (dense : Dense rows) : rows.Pairwise fun first second => ¬ SameKey first second := by
  induction rows using List.reverseRecOn with
  | nil => exact List.Pairwise.nil
  | append_singleton rows row ih =>
    refine List.pairwise_append.mpr ⟨ih dense.of_append,List.pairwise_singleton _ _,fun earlier listed last single same => ?_⟩
    obtain rfl := List.mem_singleton.mp single
    have ascending := dense.ascending last.investigationId last.key
    rw [revisionsOf_own] at ascending
    have below := (List.pairwise_append.mp ascending).2.2 earlier (mem_revisionsOf.mpr ⟨listed,same.1,same.2.1⟩) last (by simp)
    exact absurd same.2.2 below.ne

theorem Dense.history (dense : Dense rows) : history rows investigationId key = revisionsOf rows investigationId key := by
  have ascending := dense.ascending investigationId key
  refine strict_unique (strict_sortedBy ?_) ascending fun row => mem_sortedBy _ _ _
  exact (List.pairwise_map.mpr ascending).imp fun below => below.ne

theorem Dense.latest (dense : Dense rows) : latest rows investigationId key = (revisionsOf rows investigationId key).getLast? := by
  have ascending := dense.ascending investigationId key
  have descending : ((revisionsOf rows investigationId key).reverse).Pairwise fun first second =>
      OrderDual.toDual first.revision < OrderDual.toDual second.revision := List.pairwise_reverse.mpr ascending
  have sorted : sortedBy (fun row => OrderDual.toDual row.revision) (revisionsOf rows investigationId key) =
      (revisionsOf rows investigationId key).reverse := by
    refine strict_unique (strict_sortedBy ?_) descending fun row => (mem_sortedBy _ _ _).trans List.mem_reverse.symm
    exact (List.pairwise_map.mpr ascending).imp fun below => below.ne
  rw [SessionRevisions.latest,sorted,List.head?_reverse]

theorem Dense.last_revision (dense : Dense rows) {row : SessionMemoryRow} (last : (revisionsOf rows investigationId key).getLast? = some row) :
    row.revision = maxRevision rows investigationId key := by
  obtain ⟨init,whole⟩ := List.getLast?_eq_some_iff.mp last
  have numbered := dense investigationId key
  rw [dense.max]
  rw [whole,List.length_append,List.length_singleton,List.range'_1_concat,List.map_append] at numbered
  have final : row.revision = 1 + init.length := List.singleton_inj.mp (List.append_inj' numbered rfl).2
  rw [whole,List.length_append,List.length_singleton,final,Nat.add_comm]

/-- The rows that are listed are the last ones of their keys. -/
theorem Dense.mem_newest (dense : Dense rows) {row : SessionMemoryRow} :
    row ∈ rows.filter (fun row => row.investigationId = investigationId ∧ row.revision = maxRevision rows investigationId row.key) ↔
      row.investigationId = investigationId ∧ (revisionsOf rows investigationId row.key).getLast? = some row := by
  simp only [List.mem_filter,decide_eq_true_eq]
  constructor
  · rintro ⟨listed,own,newest⟩
    refine ⟨own,?_⟩
    have inside : row ∈ revisionsOf rows investigationId row.key := mem_revisionsOf.mpr ⟨listed,own,rfl⟩
    obtain ⟨init,last,whole⟩ := (revisionsOf rows investigationId row.key).eq_nil_or_concat.resolve_left (List.ne_nil_of_mem inside)
    have final : (revisionsOf rows investigationId row.key).getLast? = some last := by simp [whole]
    rw [final]
    have ascending := dense.ascending investigationId row.key
    rw [whole,List.concat_eq_append] at inside ascending
    rcases List.mem_append.mp inside with early | same
    · have below := (List.pairwise_append.mp ascending).2.2 row early last (by simp)
      rw [newest,dense.last_revision _ _ final] at below
      exact absurd below (lt_irrefl _)
    · rw [List.mem_singleton.mp same]
  · rintro ⟨own,last⟩
    obtain ⟨listed,-,-⟩ := mem_revisionsOf.mp (List.mem_of_getLast? last)
    exact ⟨listed,own,dense.last_revision _ _ last⟩

theorem serial_latest (dense : Dense rows) :
    (serial jsonb rows investigationId).latest key = ((revisionsOf rows investigationId key).getLast?).map (toEntry jsonb) := by
  rw [InMemoryDurableStore.latest,dense.revisions,List.getLast?_map]

/-- In the order of code points the listing is that of the in-process store. -/
theorem Dense.latestForInvestigation (dense : Dense rows) :
    (latestForInvestigation rows investigationId id).map (toEntry jsonb) = (serial jsonb rows investigationId).latestAll := by
  have newest : ∀ row, row ∈ SessionRevisions.latestForInvestigation rows investigationId id ↔
      row.investigationId = investigationId ∧ (revisionsOf rows investigationId row.key).getLast? = some row := fun row =>
    (mem_sortedBy _ _ _).trans (dense.mem_newest _)
  have once : ((rows.filter fun row => row.investigationId = investigationId ∧
      row.revision = maxRevision rows investigationId row.key).map (·.key)).Nodup := by
    refine List.pairwise_map.mpr ((dense.apart.filter _).imp_of_mem fun {first second} listed later apart named => apart ?_)
    obtain ⟨own,numbered⟩ := of_decide_eq_true (List.mem_filter.mp listed).2
    obtain ⟨owned,last⟩ := of_decide_eq_true (List.mem_filter.mp later).2
    exact ⟨own.trans owned.symm,named,by rw [numbered,last,named]⟩
  have sorted : ((SessionRevisions.latestForInvestigation rows investigationId id).map (toEntry jsonb)).Pairwise fun first second =>
      first.key < second.key := List.pairwise_map.mpr (strict_sortedBy once)
  refine strict_unique sorted (InMemoryDurableStore.latestAll_sorted _) fun entry => ?_
  rw [InMemoryDurableStore.mem_latestAll,serial_latest _ _ _ dense,List.mem_map,Option.map_eq_some_iff]
  constructor
  · rintro ⟨row,listed,rfl⟩
    exact ⟨row,((newest row).mp listed).2,rfl⟩
  · rintro ⟨row,last,rfl⟩
    obtain ⟨-,own,-⟩ := mem_revisionsOf.mp (List.mem_of_getLast? last)
    exact ⟨row,(newest row).mpr ⟨own,last⟩,rfl⟩

end

theorem run_sound {moves : List Move} {w : World} (run : Run Step {} moves w) : Sound w :=
  run.invariant (fun _ _ _ sound step => sound.step step) sound_start

/-! ### Two appends of one key -/

/-- Both read the same revision, and one of them is committed. -/
def racing : List Move :=
  [.number 0 (lit "inv-1") (lit "scope") [] (lit "planner"),.number 1 (lit "inv-1") (lit "scope") [] (lit "triage"),.insert 0,.commit 0]

theorem racing_runs : ∃ w, Run Step {} racing w ∧ w.rows.map (·.source) = [lit "planner"] ∧
    ∃ row known, w.phases 1 = .numbered row known ∧ ∃ stored ∈ w.rows, SameKey stored row := by
  refine Run.reaches (.number rfl) (Run.reaches (.number rfl) (Run.reaches (@Step.insert _ 0 _ _ rfl ?_ ?_)
    (Run.reaches (@Step.commit _ 0 _ rfl) ⟨_,.stop _,rfl,_,_,rfl,_,List.mem_singleton_self _,rfl,rfl,rfl⟩)))
  · intro other held another flushed
    by_cases second : other = 1
    · simp [World.put,second] at flushed
    · simp [World.put,second,another] at flushed
  · simp [World.put]

/-- Any number of appends in any interleaving: the revisions of every key are numbered from
    one without a gap in the order of the commits, what each append returned is committed,
    and every read answers as the in-process store does after the same appends one after the
    other in that order (a listing in the order the database gives keys). -/
theorem appends_linearize {moves : List Move} {w : World} (run : Run Step {} moves w) :
    Dense w.rows ∧ w.answers.map Prod.snd = w.rows ∧
    ∀ jsonb investigationId, let store := serial jsonb w.rows investigationId
      (∀ key, (latest w.rows investigationId key).map (toEntry jsonb) = store.latest key) ∧
      (∀ key, (history w.rows investigationId key).map (toEntry jsonb) = store.history key) ∧
      (∀ (β : Type) [LinearOrder β] (collate : Text → β),
        ((latestForInvestigation w.rows investigationId collate).map (toEntry jsonb)).Perm store.latestAll) ∧
      (latestForInvestigation w.rows investigationId id).map (toEntry jsonb) = store.latestAll := by
  have sound := run_sound run
  have dense := sound.dense
  refine ⟨dense,sound.answered,fun jsonb investigationId => ⟨fun key => ?_,fun key => ?_,fun β _ collate => ?_,?_⟩⟩
  · rw [dense.latest,serial_latest _ _ _ dense]
  · rw [dense.history,InMemoryDurableStore.history,dense.revisions]
  · rw [← dense.latestForInvestigation jsonb investigationId]
    exact ((perm_sortedBy _ _).trans (perm_sortedBy _ _).symm).map _
  · exact dense.latestForInvestigation jsonb investigationId

theorem racing_linearizes : ∃ w, Run Step {} racing w ∧ w.rows.map (·.source) = [lit "planner"] ∧ Dense w.rows ∧
    (latestForInvestigation w.rows (lit "inv-1") id).map (toEntry id) = (serial id w.rows (lit "inv-1")).latestAll := by
  obtain ⟨w,run,sources,-⟩ := racing_runs
  obtain ⟨dense,-,reads⟩ := appends_linearize run
  exact ⟨w,run,sources,dense,(reads id (lit "inv-1")).2.2.2⟩

/-- An append is refused only when another one of its key was committed after it read the
    revisions. -/
theorem refused_overtaken {moves : List Move} {w next : World} {caller : Nat} (run : Run Step {} moves w) (step : Step w (.refuse caller) next) :
    ∃ row known, w.phases caller = .numbered row known ∧ ∃ stored ∈ w.rows.drop known, SameKey stored row := by
  have sound := run_sound run
  cases step with
  | @refuse _ known row stored begun listed taken =>
    obtain ⟨early,late,whole,rfl,numbered⟩ := sound.read caller row known begun
    refine ⟨row,early.length,begun,stored,?_,taken⟩
    rw [whole] at listed ⊢
    rw [List.drop_left]
    refine (List.mem_append.mp listed).resolve_left fun before => ?_
    have dense : Dense early := Dense.of_append (whole ▸ sound.dense)
    have below := dense.revision_lt before
    rw [taken.1,taken.2.1,← numbered] at below
    exact absurd taken.2.2 below.ne

/-- The second append of the race is refused because of the first one. -/
theorem racing_refused : ∃ w next, Run Step {} racing w ∧ Step w (.refuse 1) next ∧
    ∃ row known, w.phases 1 = .numbered row known ∧ ∃ stored ∈ w.rows.drop known, SameKey stored row := by
  obtain ⟨w,run,-,row,known,begun,stored,listed,taken⟩ := racing_runs
  exact ⟨w,_,run,.refuse begun listed taken,refused_overtaken run (.refuse begun listed taken)⟩

end SocAnalyst.SessionRevisions
