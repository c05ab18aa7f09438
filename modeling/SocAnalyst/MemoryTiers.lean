import Mathlib.Data.List.Lex
import SocAnalyst.Dicts
import SocAnalyst.Runs
import SocAnalyst.Values

/-!
# The tiers of session memory

`memory/session.py` over the in-process stores of `memory/durable.py` and `memory/hot.py`:
what the two tiers hold of one investigation, and when listing the memory shows all of it.
-/
namespace SocAnalyst.MemoryTiers
open SocAnalyst.Builtins SocAnalyst.Dicts SocAnalyst.Runs SocAnalyst.Values

/-- A memory value with who wrote it. The in-process stores set no time. -/
structure MemoryEntry where
  key : Text
  value : List (Text × Value)
  source : Text
  revision : Nat := 1

/-! ### The durable tier -/

/-- The revisions of one key: at least one, all of the key, the last numbered by how many
    there are. -/
structure Filed (key : Text) (revisions : List MemoryEntry) : Prop where
  some : revisions ≠ []
  keyed : ∀ entry ∈ revisions, entry.key = key
  numbered : ∀ entry, revisions.getLast? = .some entry → entry.revision = revisions.length

/-- `InMemoryDurableStore`: the revisions of each key, oldest first. -/
structure InMemoryDurableStore where
  entries : Dict Text (List MemoryEntry)
  filed : ∀ key revisions, entries.get? key = some revisions → Filed key revisions

namespace InMemoryDurableStore

def empty : InMemoryDurableStore := ⟨.empty,by simp⟩

def revisions (store : InMemoryDurableStore) (key : Text) : List MemoryEntry := (store.entries.get? key).getD []

/-- The entry that `append` adds. -/
def next (store : InMemoryDurableStore) (key : Text) (value : List (Text × Value)) (source : Text) : MemoryEntry :=
  { key := key,value := value,source := source,revision := (store.revisions key).length + 1 }

theorem revisions_keyed (store : InMemoryDurableStore) (key : Text) : ∀ entry ∈ store.revisions key, entry.key = key := by
  intro entry member
  unfold revisions at member
  cases found : store.entries.get? key with
  | none => simp [found] at member
  | some listed => exact (store.filed key listed found).keyed entry (by simpa [found] using member)

/-- `append`: the new revision goes after those of its key. -/
def append (store : InMemoryDurableStore) (key : Text) (value : List (Text × Value)) (source : Text) : InMemoryDurableStore where
  entries := store.entries.set key (store.revisions key ++ [store.next key value source])
  filed := by
    intro other listed found
    rw [Dict.get?_set] at found
    split_ifs at found with same
    · cases found
      refine ⟨by simp,fun entry member => ?_,fun entry last => ?_⟩
      · rcases List.mem_append.mp member with old | new
        · exact same ▸ store.revisions_keyed key entry old
        · rw [List.mem_singleton.mp new]
          exact same.symm
      · rw [List.getLast?_concat] at last
        cases last
        simp [next]
    · exact store.filed other listed found

def latest (store : InMemoryDurableStore) (key : Text) : Option MemoryEntry := (store.revisions key).getLast?

def latestAll (store : InMemoryDurableStore) : List MemoryEntry :=
  (sortedBy Prod.fst store.entries.entries).filterMap fun item => item.2.getLast?

def history (store : InMemoryDurableStore) (key : Text) : List MemoryEntry := store.revisions key

@[simp] theorem latest_empty (key : Text) : empty.latest key = none := rfl

theorem latest_append (store : InMemoryDurableStore) (key other : Text) (value : List (Text × Value)) (source : Text) :
    (store.append key value source).latest other = if other = key then some (store.next key value source) else store.latest other := by
  simp only [latest,revisions,append,Dict.get?_set]
  split_ifs with same
  · simp
  · rfl

/-- A key has a latest revision just when it is stored. -/
theorem latest_eq_some (store : InMemoryDurableStore) (key : Text) (entry : MemoryEntry) :
    store.latest key = some entry ↔ ∃ listed, store.entries.get? key = some listed ∧ listed.getLast? = some entry := by
  unfold latest revisions
  cases store.entries.get? key <;> simp

theorem latest_key {store : InMemoryDurableStore} {key : Text} {entry : MemoryEntry} (last : store.latest key = some entry) :
    entry.key = key :=
  store.revisions_keyed key entry (List.mem_of_getLast? last)

/-- The revisions of a key are numbered up to its latest. -/
theorem latest_revision {store : InMemoryDurableStore} {key : Text} {entry : MemoryEntry} (last : store.latest key = some entry) :
    entry.revision = (store.revisions key).length := by
  obtain ⟨listed,found,_⟩ := (store.latest_eq_some key entry).mp last
  have same : store.revisions key = listed := by simp [revisions,found]
  rw [latest,same] at last
  rw [same]
  exact (store.filed key listed found).numbered entry last

theorem mem_latestAll (store : InMemoryDurableStore) (entry : MemoryEntry) :
    entry ∈ store.latestAll ↔ store.latest entry.key = some entry := by
  simp only [latestAll,List.mem_filterMap,mem_sortedBy]
  constructor
  · rintro ⟨⟨key,listed⟩,member,last⟩
    have found := (Dict.get?_eq_some store.entries key listed).mpr member
    have own := (store.filed key listed found).keyed entry (List.mem_of_getLast? last)
    exact (store.latest_eq_some entry.key entry).mpr ⟨listed,own ▸ found,last⟩
  · intro last
    obtain ⟨listed,found,final⟩ := (store.latest_eq_some entry.key entry).mp last
    exact ⟨(entry.key,listed),(Dict.get?_eq_some store.entries entry.key listed).mp found,final⟩

theorem latestAll_sorted (store : InMemoryDurableStore) : store.latestAll.Pairwise fun x y => x.key < y.key := by
  have sorted := strict_sortedBy store.entries.distinct
  refine List.pairwise_filterMap.mpr (sorted.imp_of_mem ?_)
  rintro ⟨key,listed⟩ ⟨other,others⟩ first second below entry last later final
  have own : ∀ {title : Text} {filed : List MemoryEntry} {found : MemoryEntry},
      (title,filed) ∈ sortedBy Prod.fst store.entries.entries → filed.getLast? = some found → found.key = title := by
    intro title filed found member ends
    have stored := (Dict.get?_eq_some store.entries title filed).mpr ((mem_sortedBy _ _ _).mp member)
    exact (store.filed title filed stored).keyed found (List.mem_of_getLast? ends)
  rw [own first last,own second final]
  exact below

end InMemoryDurableStore

/-! ### The hot tier -/

/-- `InMemoryHotStore`: at most one entry a key, under its own key. -/
structure InMemoryHotStore where
  data : Dict Text MemoryEntry
  keyed : ∀ key entry, data.get? key = some entry → entry.key = key

namespace InMemoryHotStore

/-- What `clear` leaves. -/
def empty : InMemoryHotStore := ⟨.empty,by simp⟩

def get (store : InMemoryHotStore) (key : Text) : Option MemoryEntry := store.data.get? key

def set (store : InMemoryHotStore) (entry : MemoryEntry) : InMemoryHotStore where
  data := store.data.set entry.key entry
  keyed := by
    intro key found stored
    rw [Dict.get?_set] at stored
    split_ifs at stored with same
    · cases stored
      exact same.symm
    · exact store.keyed key found stored

/-- The store once a key has expired. -/
def drop (store : InMemoryHotStore) (key : Text) : InMemoryHotStore where
  data := store.data.erase key
  keyed := by
    intro other found stored
    rw [Dict.get?_erase] at stored
    split_ifs at stored
    exact store.keyed other found stored

def getAll (store : InMemoryHotStore) : List MemoryEntry := store.data.values

@[simp] theorem get_empty (key : Text) : empty.get key = none := rfl

theorem get_set (store : InMemoryHotStore) (entry : MemoryEntry) (key : Text) :
    (store.set entry).get key = if key = entry.key then some entry else store.get key :=
  Dict.get?_set store.data entry.key key entry

theorem get_drop (store : InMemoryHotStore) (key other : Text) :
    (store.drop key).get other = if other = key then none else store.get other :=
  Dict.get?_erase store.data key other

theorem mem_getAll (store : InMemoryHotStore) (entry : MemoryEntry) : entry ∈ store.getAll ↔ store.get entry.key = some entry := by
  rw [getAll,Dict.mem_values]
  constructor
  · rintro ⟨key,stored⟩
    rw [store.keyed key entry stored]
    exact stored
  · exact fun stored => ⟨entry.key,stored⟩

/-- No key is listed twice. -/
theorem getAll_once (store : InMemoryHotStore) : (store.getAll.map (·.key)).Nodup := by
  have keys : store.getAll.map (·.key) = store.data.keys := by
    simp only [getAll,Dict.values,Dict.keys,List.map_map]
    refine List.map_congr_left fun item member => ?_
    exact store.keyed item.1 item.2 ((Dict.get?_eq_some store.data item.1 item.2).mpr member)
  rw [keys]
  exact store.data.distinct

theorem getAll_eq_nil (store : InMemoryHotStore) : store.getAll = [] ↔ ∀ key, store.get key = none := by
  constructor
  · intro none key
    cases found : store.get key with
    | none => rfl
    | some entry =>
      have member : entry ∈ store.getAll := (Dict.mem_values store.data entry).mpr ⟨key,found⟩
      rw [none] at member
      cases member
  · intro none
    refine List.eq_nil_iff_forall_not_mem.mpr fun entry member => ?_
    have found := (store.mem_getAll entry).mp member
    rw [none] at found
    cases found

end InMemoryHotStore


/-! ### The memory of one investigation -/

structure MemoryStats where
  hits : Nat := 0
  misses : Nat := 0
  recoveries : Nat := 0
  evictions : Nat := 0

/-- `SessionMemory`, with the parts of its stores that belong to the investigation. -/
structure SessionMemory where
  hot : InMemoryHotStore
  durable : InMemoryDurableStore
  stats : MemoryStats

namespace SessionMemory

/-- Nothing is remembered yet. -/
def fresh : SessionMemory := ⟨.empty,.empty,{}⟩

/-- Append a revision durably, then refresh the hot tier. -/
def write (memory : SessionMemory) (key : Text) (value : List (Text × Value)) (source : Text) : SessionMemory × MemoryEntry :=
  let entry := memory.durable.next key value source
  ({ memory with durable := memory.durable.append key value source,hot := memory.hot.set entry },entry)

/-- `self._stats.hits += 1`. -/
def hit (memory : SessionMemory) : SessionMemory := { memory with stats := { memory.stats with hits := memory.stats.hits + 1 } }
/-- `self._stats.misses += 1`. -/
def missed (memory : SessionMemory) : SessionMemory := { memory with stats := { memory.stats with misses := memory.stats.misses + 1 } }

@[simp] theorem hit_hot (memory : SessionMemory) : memory.hit.hot = memory.hot := rfl
@[simp] theorem hit_durable (memory : SessionMemory) : memory.hit.durable = memory.durable := rfl
@[simp] theorem missed_hot (memory : SessionMemory) : memory.missed.hot = memory.hot := rfl
@[simp] theorem missed_durable (memory : SessionMemory) : memory.missed.durable = memory.durable := rfl

/-- Hot first, then durable, repopulating the cache. -/
def read (memory : SessionMemory) (key : Text) : SessionMemory × Option MemoryEntry :=
  match memory.hot.get key with
  | some cached => (memory.hit,some cached)
  | none =>
    match memory.durable.latest key with
    | some entry => ({ memory.missed with hot := memory.hot.set entry },some entry)
    | none => (memory.missed,none)

/-- Reload the hot tier from the durable one. -/
def rebuild (memory : SessionMemory) : SessionMemory × List MemoryEntry :=
  let entries := memory.durable.latestAll
  ({ memory with
      hot := entries.foldl InMemoryHotStore.set memory.hot
      stats := { memory.stats with recoveries := memory.stats.recoveries + 1 } },
    sortedBy (·.key) entries)

/-- The whole working set, rebuilding the cache when it is cold. -/
def readAll (memory : SessionMemory) : SessionMemory × List MemoryEntry :=
  let cached := memory.hot.getAll
  if cached ≠ [] then (memory.hit,sortedBy (·.key) cached) else memory.missed.rebuild

def evictHot (memory : SessionMemory) : SessionMemory :=
  { memory with hot := .empty,stats := { memory.stats with evictions := memory.stats.evictions + 1 } }

end SessionMemory

/-- The calls of the memory's one user, and the loss of the hot entries. -/
inductive Call where
  | write (key : Text) (value : List (Text × Value)) (source : Text)
  | read (key : Text)
  | readAll
  | rebuild
  | evictHot
  | lose

namespace SessionMemory

/-- The memory after a call. -/
def after (memory : SessionMemory) : Call → SessionMemory
  | .write key value source => (memory.write key value source).1
  | .read key => (memory.read key).1
  | .readAll => memory.readAll.1
  | .rebuild => memory.rebuild.1
  | .evictHot => memory.evictHot
  | .lose => { memory with hot := .empty }

def Step (memory : SessionMemory) (call : Call) (next : SessionMemory) : Prop := next = memory.after call

/-! ### What the hot tier holds -/

/-- Every key but `key` that was written is cached. -/
def CachedBut (memory : SessionMemory) (key : Text) : Prop :=
  ∀ other entry, other ≠ key → memory.durable.latest other = some entry → memory.hot.get other ≠ none

/-- A call that caches one key finds all others cached. -/
def Warm (memory : SessionMemory) : Call → Prop
  | .write key _ _ => memory.CachedBut key
  | .read key => memory.hot.get key = none → (∃ entry, memory.durable.latest key = some entry) → memory.CachedBut key
  | _ => True

/-- What is cached is the latest revision. -/
def Current (memory : SessionMemory) : Prop := ∀ key entry, memory.hot.get key = some entry → memory.durable.latest key = some entry

/-- The cache holds every key that was written, or none. -/
def AllOrNone (memory : SessionMemory) : Prop :=
  (∀ key, memory.hot.get key = none) ∨ ∀ key entry, memory.durable.latest key = some entry → memory.hot.get key ≠ none

theorem get_foldl_set (entries : List MemoryEntry) (store : InMemoryHotStore) (key : Text) :
    (∃ entry ∈ entries, entry.key = key ∧ (entries.foldl InMemoryHotStore.set store).get key = some entry) ∨
      ((∀ entry ∈ entries, entry.key ≠ key) ∧ (entries.foldl InMemoryHotStore.set store).get key = store.get key) := by
  induction entries generalizing store with
  | nil => exact .inr ⟨by simp,rfl⟩
  | cons first rest ih =>
    rcases ih (store.set first) with ⟨entry,member,own,found⟩ | ⟨others,same⟩
    · exact .inl ⟨entry,List.mem_cons_of_mem _ member,own,found⟩
    · by_cases here : first.key = key
      · refine .inl ⟨first,List.mem_cons_self ..,here,?_⟩
        rw [List.foldl_cons,same,InMemoryHotStore.get_set,if_pos here.symm]
      · refine .inr ⟨List.forall_mem_cons.mpr ⟨here,others⟩,?_⟩
        rw [List.foldl_cons,same,InMemoryHotStore.get_set,if_neg (Ne.symm here)]

/-- A rebuilt cache of current entries holds the latest revision of every key. -/
theorem get_rebuild {memory : SessionMemory} (current : memory.Current) (key : Text) :
    memory.rebuild.1.hot.get key = memory.durable.latest key := by
  have hot : memory.rebuild.1.hot = memory.durable.latestAll.foldl InMemoryHotStore.set memory.hot := rfl
  rw [hot]
  rcases get_foldl_set memory.durable.latestAll memory.hot key with ⟨entry,member,rfl,found⟩ | ⟨others,same⟩
  · rw [found]
    exact ((memory.durable.mem_latestAll entry).mp member).symm
  · rw [same]
    cases last : memory.durable.latest key with
    | none =>
      cases found : memory.hot.get key with
      | none => rfl
      | some entry => simpa [last] using current key entry found
    | some entry =>
      have own := InMemoryDurableStore.latest_key last
      exact absurd own (others entry ((memory.durable.mem_latestAll entry).mpr (own.symm ▸ last)))

theorem current_after {memory : SessionMemory} (current : memory.Current) (call : Call) : (memory.after call).Current := by
  cases call with
  | write key value source =>
    intro other entry found
    simp only [after,write,InMemoryHotStore.get_set] at found ⊢
    rw [InMemoryDurableStore.latest_append]
    by_cases same : other = key
    · rw [if_pos same]
      rwa [if_pos (show other = (memory.durable.next key value source).key from same)] at found
    · rw [if_neg same]
      rw [if_neg (show other ≠ (memory.durable.next key value source).key from same)] at found
      exact current other entry found
  | read key =>
    simp only [after,read]
    cases memory.hot.get key with
    | some cached => exact current
    | none =>
      cases last : memory.durable.latest key with
      | none => exact current
      | some entry =>
        intro other found stored
        simp only [InMemoryHotStore.get_set] at stored
        split_ifs at stored with same
        · cases stored
          rwa [same,InMemoryDurableStore.latest_key last]
        · exact current other found stored
  | readAll =>
    simp only [after,readAll]
    split_ifs
    · exact current
    · intro key entry found
      rw [@get_rebuild memory.missed current] at found
      exact found
  | rebuild =>
    intro key entry found
    have rebuilt : memory.rebuild.1.hot.get key = some entry := found
    rw [get_rebuild current] at rebuilt
    exact rebuilt
  | evictHot =>
    intro key entry found
    cases found
  | lose =>
    intro key entry found
    cases found

/-- A memory that was written to since its cache was last empty lists everything just when
    all is cached. -/
theorem readAll_eq_iff {memory : SessionMemory} (current : memory.Current) :
    memory.readAll.2 = memory.durable.latestAll ↔ memory.AllOrNone := by
  have sorted := memory.durable.latestAll_sorted
  unfold readAll
  by_cases none : memory.hot.getAll = []
  · rw [if_neg (not_not.mpr none)]
    have once : (memory.durable.latestAll.map (·.key)).Nodup :=
      List.pairwise_map.mpr (sorted.imp fun below equal => (equal ▸ below).false)
    have same : memory.missed.rebuild.2 = memory.durable.latestAll :=
      strict_unique (strict_sortedBy once) sorted fun entry => mem_sortedBy _ _ entry
    exact iff_of_true same (.inl (memory.hot.getAll_eq_nil.mp none))
  · rw [if_pos none]
    constructor
    · intro same
      refine .inr fun key entry last cold => ?_
      have own := InMemoryDurableStore.latest_key last
      have listed : entry ∈ memory.durable.latestAll := (memory.durable.mem_latestAll entry).mpr (own.symm ▸ last)
      rw [← same,mem_sortedBy,memory.hot.mem_getAll,own,cold] at listed
      cases listed
    · rintro (cold | all)
      · exact absurd (memory.hot.getAll_eq_nil.mpr cold) none
      refine strict_unique (strict_sortedBy memory.hot.getAll_once) sorted fun entry => ?_
      rw [mem_sortedBy,memory.hot.mem_getAll,memory.durable.mem_latestAll]
      refine ⟨current entry.key entry,fun last => ?_⟩
      cases found : memory.hot.get entry.key with
      | none => exact absurd found (all entry.key entry last)
      | some cached => rw [← current entry.key cached found,last]

/-- Caching one entry leaves the cache complete just when it holds every other key. -/
theorem allOrNone_set (hot : InMemoryHotStore) (durable : InMemoryDurableStore) (stats : MemoryStats) (entry : MemoryEntry) :
    (SessionMemory.mk (hot.set entry) durable stats).AllOrNone ↔
      ∀ other found, other ≠ entry.key → durable.latest other = some found → hot.get other ≠ none := by
  constructor
  · rintro (cold | all) other found apart last
    · have cached := cold entry.key
      simp [InMemoryHotStore.get_set] at cached
    · have cached := all other found last
      simpa [InMemoryHotStore.get_set,apart] using cached
  · intro others
    refine .inr fun other found last => ?_
    simp only [InMemoryHotStore.get_set]
    split_ifs with same
    · simp
    · exact others other found same last

/-- What a call has to find for the cache to stay complete. -/
theorem allOrNone_after {memory : SessionMemory} (current : memory.Current) (before : memory.AllOrNone) (call : Call) :
    (memory.after call).AllOrNone ↔ memory.Warm call := by
  cases call with
  | write key value source =>
    refine (allOrNone_set ..).trans (forall_congr' fun other => forall_congr' fun entry => imp_congr_right fun apart => ?_)
    have apart : other ≠ key := apart
    rw [InMemoryDurableStore.latest_append,if_neg apart]
  | read key =>
    simp only [after,read,Warm]
    cases memory.hot.get key with
    | some cached => exact iff_of_true before fun cold => by cases cold
    | none =>
      cases last : memory.durable.latest key with
      | none => exact iff_of_true before fun _ stored => by simp at stored
      | some entry =>
        have own := InMemoryDurableStore.latest_key last
        have filled := allOrNone_set memory.hot memory.durable memory.missed.stats entry
        rw [own] at filled
        exact filled.trans ⟨fun others _ _ => others,fun warm => warm rfl ⟨entry,rfl⟩⟩
  | readAll =>
    simp only [after,readAll,Warm,iff_true]
    split_ifs
    · exact before
    · refine .inr fun key entry last => ?_
      rw [@get_rebuild memory.missed current,show memory.missed.durable.latest key = some entry from last]
      simp
  | rebuild =>
    refine iff_of_true (.inr fun key entry last => ?_) trivial
    have rebuilt := get_rebuild current key
    have stored : memory.durable.latest key = some entry := last
    rw [stored] at rebuilt
    simp [after,rebuilt]
  | evictHot => exact iff_of_true (.inl fun _ => rfl) trivial
  | lose => exact iff_of_true (.inl fun _ => rfl) trivial

/-! ### Listing the memory -/

/-- One entry for each key that a call wrote, its latest revision, in the order of the
    keys: the list of the durable tier. -/
structure Complete (calls : List Call) (durable : InMemoryDurableStore) (listed : List MemoryEntry) : Prop where
  same : listed = durable.latestAll
  latest : ∀ entry ∈ listed, durable.latest entry.key = some entry
  sorted : listed.Pairwise fun x y => x.key < y.key
  keys : ∀ key, (∃ entry ∈ listed, entry.key = key) ↔ ∃ value source, Call.write key value source ∈ calls

/-- The keys that are stored are those that calls wrote. -/
def Written (calls : List Call) (durable : InMemoryDurableStore) : Prop :=
  ∀ key, (∃ entry, durable.latest key = some entry) ↔ ∃ value source, Call.write key value source ∈ calls

/-- Only a write changes the durable tier. -/
theorem durable_after (memory : SessionMemory) (call : Call) :
    (memory.after call).durable = memory.durable ∨ ∃ key value source, call = .write key value source := by
  cases call with
  | write key value source => exact .inr ⟨key,value,source,rfl⟩
  | read key =>
    simp only [after,read]
    cases memory.hot.get key with
    | some cached => exact .inl rfl
    | none => cases memory.durable.latest key <;> exact .inl rfl
  | readAll =>
    simp only [after,readAll]
    split_ifs <;> exact .inl rfl
  | rebuild => exact .inl rfl
  | evictHot => exact .inl rfl
  | lose => exact .inl rfl

theorem written_after {calls : List Call} {memory : SessionMemory} (known : Written calls memory.durable) (call : Call) :
    Written (calls ++ [call]) (memory.after call).durable := by
  intro key
  by_cases writes : ∃ title value source, call = .write title value source
  · obtain ⟨title,value,source,rfl⟩ := writes
    simp only [after,write,InMemoryDurableStore.latest_append,List.mem_append,List.mem_singleton,Call.write.injEq]
    by_cases same : key = title
    · simp only [same,↓reduceIte]
      exact iff_of_true ⟨_,rfl⟩ ⟨value,source,.inr ⟨trivial,rfl,rfl⟩⟩
    · simpa [same] using known key
  · rw [(memory.durable_after call).resolve_right writes,known key]
    constructor
    · rintro ⟨value,source,member⟩
      exact ⟨value,source,List.mem_append_left _ member⟩
    · rintro ⟨value,source,member⟩
      rcases List.mem_append.mp member with earlier | last
      · exact ⟨value,source,earlier⟩
      · exact absurd ⟨key,value,source,(List.mem_singleton.mp last).symm⟩ writes

theorem complete_iff {calls : List Call} {memory : SessionMemory} (current : memory.Current) (known : Written calls memory.durable) :
    Complete calls memory.durable memory.readAll.2 ↔ memory.AllOrNone := by
  rw [← readAll_eq_iff current]
  refine ⟨Complete.same,fun same => ?_⟩
  refine ⟨same,fun entry => same ▸ (memory.durable.mem_latestAll entry).mp,same ▸ memory.durable.latestAll_sorted,fun key => ?_⟩
  rw [same]
  rw [← known key]
  constructor
  · rintro ⟨entry,listed,rfl⟩
    exact ⟨entry,(memory.durable.mem_latestAll entry).mp listed⟩
  · rintro ⟨entry,last⟩
    have own := InMemoryDurableStore.latest_key last
    exact ⟨entry,(memory.durable.mem_latestAll entry).mpr (own.symm ▸ last),own⟩

/-- As long as a single key is cached only beside all others, listing the memory shows
    every key; the first call that caches one beside a missing one hides that. -/
theorem readAll_complete {calls : List Call} {memory : SessionMemory} (run : Run (Guarded Warm Step) fresh calls memory) :
    Complete calls memory.durable memory.readAll.2 ∧
      ∀ call, Complete (calls ++ [call]) (memory.after call).durable (memory.after call).readAll.2 ↔ memory.Warm call := by
  have start : fresh.Current ∧ fresh.AllOrNone ∧ Written [] fresh.durable := by
    refine ⟨fun key entry found => ?_,.inl fun _ => rfl,fun key => ?_⟩
    · cases found
    · simp [fresh]
  have invariant := run.accumulates (P := fun calls memory => memory.Current ∧ memory.AllOrNone ∧ Written calls memory.durable)
    (by
      rintro done s call _ ⟨current,complete,known⟩ ⟨warm,rfl⟩
      exact ⟨current_after current call,(allOrNone_after current complete call).mpr warm,written_after known call⟩)
    [] start
  rw [List.nil_append] at invariant
  obtain ⟨current,complete,known⟩ := invariant
  refine ⟨(complete_iff current known).mpr complete,fun call => ?_⟩
  rw [complete_iff (current_after current call) (written_after known call),allOrNone_after current complete call]

/-- Two keys are written, and one of them again once the evicted entries were listed. -/
def relisted : List Call :=
  [.write (lit "iocs") [] (lit "threat"),.write (lit "scope") [] (lit "planner"),.evictHot,.readAll,.write (lit "scope") [] (lit "planner")]

theorem readAll_complete_relisted : ∃ memory, Run (Guarded Warm Step) fresh relisted memory ∧
    memory.readAll.2.map (fun entry => (entry.key,entry.revision)) = [(lit "iocs",1),(lit "scope",2)] ∧
    Complete relisted memory.durable memory.readAll.2 := by
  have first : fresh.Warm (.write (lit "iocs") [] (lit "threat")) := by
    intro other entry _ last
    cases last
  have second : (fresh.after (.write (lit "iocs") [] (lit "threat"))).Warm (.write (lit "scope") [] (lit "planner")) := by
    intro other entry _ last
    by_cases same : other = lit "iocs"
    · simp [after,write,InMemoryHotStore.get_set,InMemoryDurableStore.next,same]
    · simp [after,write,InMemoryDurableStore.latest_append,same,fresh] at last
  -- listing the evicted entries caches both keys again
  have third : ∀ memory : SessionMemory, memory.evictHot.readAll.1.CachedBut (lit "scope") := by
    intro memory other entry _ last
    have current : memory.evictHot.missed.Current := by
      intro key entry found
      cases found
    have rebuilt : memory.evictHot.readAll = memory.evictHot.missed.rebuild := rfl
    have stored : memory.evictHot.missed.durable.latest other = some entry := last
    rw [rebuilt,get_rebuild current,stored]
    simp
  have run : Run (Guarded Warm Step) fresh relisted _ :=
    .go ⟨first,rfl⟩ (.go ⟨second,rfl⟩ (.go ⟨trivial,rfl⟩ (.go ⟨trivial,rfl⟩ (.go ⟨third _,rfl⟩ (.stop _)))))
  exact ⟨_,run,by decide,(readAll_complete run).1⟩

/-- Two keys are written, and one of them again after an eviction. -/
def rewritten : List Call :=
  [.write (lit "iocs") [] (lit "threat"),.write (lit "scope") [] (lit "planner"),.evictHot,.write (lit "scope") [] (lit "planner")]

/-- The last write caches its own key, and the other one is not listed. -/
theorem rewritten_incomplete : ∃ memory, Run Step fresh rewritten memory ∧ ¬ Complete rewritten memory.durable memory.readAll.2 := by
  refine ⟨_,.go rfl (.go rfl (.go rfl (.go rfl (.stop _)))),fun complete => ?_⟩
  obtain ⟨entry,listed,own⟩ := (complete.keys (lit "iocs")).mpr ⟨[],lit "threat",by simp [rewritten]⟩
  have shown : lit "iocs" ∈ [lit "scope"] := own ▸ List.mem_map_of_mem listed
  revert shown
  decide

end SessionMemory

end SocAnalyst.MemoryTiers
