import Mathlib.Logic.Function.Basic
import SocAnalyst.MemoryTiers

/-!
# Session memory under concurrent callers

Calls of several callers on the memory of one investigation, as the store operations in
which they interleave. A hot set may fail, before or after it stored its entry, and hot
entries may vanish.
-/
namespace SocAnalyst.MemoryRaces
open SocAnalyst.Builtins SocAnalyst.Dicts SocAnalyst.Runs SocAnalyst.Values SocAnalyst.MemoryTiers

/-- Where a caller is between two store operations. A read remembers which revision of its
    key was acknowledged when it started. -/
inductive Phase where
  | idle
  | writing (entry : MemoryEntry)
  | missed (key : Text) (floor : Nat)
  | filling (key : Text) (floor : Nat) (entry : MemoryEntry)
  | cold
  | rebuilding (pending : List MemoryEntry)

/-- What comes of a hot set: it returns, or raises with the entry stored or not. -/
inductive SetOutcome where
  | done
  | late
  | lost
  deriving DecidableEq

def SetOutcome.stores : SetOutcome → Bool
  | .lost => false
  | _ => true

/-- A read that returned, with the revision that was acknowledged when it started. -/
structure Reading where
  key : Text
  floor : Nat
  entry : Option MemoryEntry

structure World where
  durable : InMemoryDurableStore
  hot : InMemoryHotStore
  phases : Nat → Phase
  /-- The highest revision of a key whose write has returned. -/
  acknowledged : Text → Nat
  readings : List Reading

namespace World

def fresh : World := ⟨.empty,.empty,fun _ => .idle,fun _ => 0,[]⟩

def put (w : World) (caller : Nat) (phase : Phase) : World := { w with phases := Function.update w.phases caller phase }

def answer (w : World) (reading : Reading) : World := { w with readings := reading :: w.readings }

/-- `hot.set`. -/
def store (w : World) (outcome : SetOutcome) (entry : MemoryEntry) : World :=
  if outcome.stores then { w with hot := w.hot.set entry } else w

def acknowledge (w : World) (entry : MemoryEntry) : World :=
  { w with acknowledged := Function.update w.acknowledged entry.key (max (w.acknowledged entry.key) entry.revision) }

end World

inductive Move where
  | write (caller : Nat) (key : Text) (value : List (Text × Value)) (source : Text)
  | read (caller : Nat) (key : Text)
  | load (caller : Nat)
  | readAll (caller : Nat)
  | rebuild (caller : Nat)
  | set (caller : Nat) (outcome : SetOutcome)
  | finish (caller : Nat)
  | evict (caller : Nat)
  | vanish (key : Text)

inductive Step : World → Move → World → Prop where
  | write {w : World} {caller : Nat} (free : w.phases caller = .idle) (key : Text) (value : List (Text × Value)) (source : Text) :
      Step w (.write caller key value source)
        ({ w with durable := w.durable.append key value source }.put caller (.writing (w.durable.next key value source)))
  /-- A failing set does not fail the write. -/
  | written {w : World} {caller : Nat} {entry : MemoryEntry} (here : w.phases caller = .writing entry) (outcome : SetOutcome) :
      Step w (.set caller outcome) (((w.store outcome entry).acknowledge entry).put caller .idle)
  | hit {w : World} {caller : Nat} (free : w.phases caller = .idle) {key : Text} {entry : MemoryEntry}
      (cached : w.hot.get key = some entry) : Step w (.read caller key) (w.answer ⟨key,w.acknowledged key,some entry⟩)
  | miss {w : World} {caller : Nat} (free : w.phases caller = .idle) {key : Text} (gone : w.hot.get key = none) :
      Step w (.read caller key) (w.put caller (.missed key (w.acknowledged key)))
  | unknown {w : World} {caller : Nat} {key : Text} {floor : Nat} (here : w.phases caller = .missed key floor)
      (nothing : w.durable.latest key = none) : Step w (.load caller) ((w.answer ⟨key,floor,none⟩).put caller .idle)
  | load {w : World} {caller : Nat} {key : Text} {floor : Nat} {entry : MemoryEntry} (here : w.phases caller = .missed key floor)
      (last : w.durable.latest key = some entry) : Step w (.load caller) (w.put caller (.filling key floor entry))
  | filled {w : World} {caller : Nat} {key : Text} {floor : Nat} {entry : MemoryEntry}
      (here : w.phases caller = .filling key floor entry) :
      Step w (.set caller .done) (((w.store .done entry).answer ⟨key,floor,some entry⟩).put caller .idle)
  /-- A failing set fails the read. -/
  | unfilled {w : World} {caller : Nat} {key : Text} {floor : Nat} {entry : MemoryEntry} {outcome : SetOutcome}
      (here : w.phases caller = .filling key floor entry) (raised : outcome ≠ .done) :
      Step w (.set caller outcome) ((w.store outcome entry).put caller .idle)
  | list {w : World} {caller : Nat} (free : w.phases caller = .idle) (warm : w.hot.getAll ≠ []) : Step w (.readAll caller) w
  | relist {w : World} {caller : Nat} (free : w.phases caller = .idle) (empty : w.hot.getAll = []) :
      Step w (.readAll caller) (w.put caller .cold)
  | rebuild {w : World} {caller : Nat} (here : w.phases caller = .idle ∨ w.phases caller = .cold) :
      Step w (.rebuild caller) (w.put caller (.rebuilding w.durable.latestAll))
  | reloaded {w : World} {caller : Nat} {entry : MemoryEntry} {rest : List MemoryEntry}
      (here : w.phases caller = .rebuilding (entry :: rest)) :
      Step w (.set caller .done) ((w.store .done entry).put caller (.rebuilding rest))
  | unloaded {w : World} {caller : Nat} {entry : MemoryEntry} {rest : List MemoryEntry} {outcome : SetOutcome}
      (here : w.phases caller = .rebuilding (entry :: rest)) (raised : outcome ≠ .done) :
      Step w (.set caller outcome) ((w.store outcome entry).put caller .idle)
  | rebuilt {w : World} {caller : Nat} (here : w.phases caller = .rebuilding []) : Step w (.finish caller) (w.put caller .idle)
  | evict {w : World} {caller : Nat} (free : w.phases caller = .idle) : Step w (.evict caller) { w with hot := .empty }
  | vanish (w : World) (key : Text) : Step w (.vanish key) { w with hot := w.hot.drop key }

/-! ### Stale entries -/

/-- The read returned no older revision than was acknowledged when it started. -/
def Reading.Current (reading : Reading) : Prop :=
  reading.floor = 0 ∨ ∃ entry, reading.entry = some entry ∧ entry.key = reading.key ∧ reading.floor ≤ entry.revision

/-- The entry a caller is about to set in the cache. -/
def Phase.pending : Phase → Option MemoryEntry
  | .writing entry => some entry
  | .filling _ _ entry => some entry
  | .rebuilding (entry :: _) => some entry
  | _ => none

/-- A set does not store an entry older than an acknowledged one, and a write whose set
    does not store leaves no entry older than its own. -/
def Settles (w : World) : Move → Prop
  | .set caller outcome =>
    (outcome.stores = true → ∀ entry, (w.phases caller).pending = some entry → w.acknowledged entry.key ≤ entry.revision) ∧
      (outcome.stores = false → ∀ entry, w.phases caller = .writing entry →
        ∀ cached, w.hot.get entry.key = some cached → entry.revision ≤ cached.revision)
  | _ => True

/-- No cached entry is older than what was acknowledged. -/
def NoneStale (w : World) : Prop := ∀ key entry, w.hot.get key = some entry → w.acknowledged key ≤ entry.revision

/-! ### What every step keeps -/

/-- What a caller's phase rests on. -/
def Phase.Holds (acknowledged : Text → Nat) (durable : InMemoryDurableStore) : Phase → Prop
  | .writing entry => entry.revision ≤ (durable.revisions entry.key).length
  | .missed key floor => floor ≤ acknowledged key
  | .filling key floor entry => entry.key = key ∧ floor ≤ entry.revision
  | _ => True

structure Held (w : World) : Prop where
  /-- What is acknowledged is stored durably. -/
  stored : ∀ key, w.acknowledged key ≤ (w.durable.revisions key).length
  phase : ∀ caller, (w.phases caller).Holds w.acknowledged w.durable
  /-- Some caller is not in a call. -/
  idle : ∃ bound, ∀ caller, bound ≤ caller → w.phases caller = .idle

theorem Phase.Holds.mono {acknowledged later : Text → Nat} {durable grown : InMemoryDurableStore} {phase : Phase}
    (holds : phase.Holds acknowledged durable) (raised : ∀ key, acknowledged key ≤ later key)
    (appended : ∀ key, (durable.revisions key).length ≤ (grown.revisions key).length) : phase.Holds later grown := by
  cases phase with
  | writing entry => exact le_trans holds (appended entry.key)
  | missed key floor => exact le_trans holds (raised key)
  | filling key floor entry => exact holds
  | _ => trivial

/-- One caller moves on while what is stored and acknowledged only grows. -/
theorem Held.put {w : World} (held : Held w) (next : World) (same : next.phases = w.phases)
    (stored : ∀ key, next.acknowledged key ≤ (next.durable.revisions key).length)
    (raised : ∀ key, w.acknowledged key ≤ next.acknowledged key)
    (appended : ∀ key, (w.durable.revisions key).length ≤ (next.durable.revisions key).length) (caller : Nat) (phase : Phase)
    (own : phase.Holds next.acknowledged next.durable) : Held (next.put caller phase) := by
  refine ⟨stored,fun other => ?_,?_⟩
  · by_cases here : other = caller
    · simpa [World.put,here] using own
    · simpa [World.put,here,same] using (held.phase other).mono raised appended
  · obtain ⟨bound,free⟩ := held.idle
    refine ⟨max bound (caller + 1),fun other beyond => ?_⟩
    have apart : other ≠ caller := by omega
    simpa [World.put,apart,same] using free other (by omega)

theorem Held.within {w : World} (held : Held w) {caller : Nat} {phase : Phase} (here : w.phases caller = phase) :
    phase.Holds w.acknowledged w.durable := here ▸ held.phase caller

theorem length_append (durable : InMemoryDurableStore) (key other : Text) (value : List (Text × Value)) (source : Text) :
    ((durable.append key value source).revisions other).length = (durable.revisions other).length + if other = key then 1 else 0 := by
  simp only [InMemoryDurableStore.revisions,InMemoryDurableStore.append,Dict.get?_set]
  split_ifs with same
  · simp [same]
  · simp

@[simp] theorem store_durable (w : World) (outcome : SetOutcome) (entry : MemoryEntry) : (w.store outcome entry).durable = w.durable := by
  unfold World.store
  split_ifs <;> rfl

@[simp] theorem store_acknowledged (w : World) (outcome : SetOutcome) (entry : MemoryEntry) :
    (w.store outcome entry).acknowledged = w.acknowledged := by
  unfold World.store
  split_ifs <;> rfl

@[simp] theorem store_phases (w : World) (outcome : SetOutcome) (entry : MemoryEntry) : (w.store outcome entry).phases = w.phases := by
  unfold World.store
  split_ifs <;> rfl

@[simp] theorem store_readings (w : World) (outcome : SetOutcome) (entry : MemoryEntry) :
    (w.store outcome entry).readings = w.readings := by
  unfold World.store
  split_ifs <;> rfl

theorem Held.step {w next : World} {move : Move} (held : Held w) (step : Step w move next) : Held next := by
  have same : ∀ key, (w.durable.revisions key).length ≤ (w.durable.revisions key).length := fun _ => le_rfl
  cases step with
  | @write caller _ key value source =>
    have longer : ∀ other, (w.durable.revisions other).length ≤ ((w.durable.append key value source).revisions other).length := by
      intro other
      rw [length_append]
      omega
    refine held.put { w with durable := w.durable.append key value source } rfl (fun other => (held.stored other).trans (longer other)) (fun _ => le_rfl) longer caller _ ?_
    have own := length_append w.durable key key value source
    simp only [↓reduceIte] at own
    exact own.ge
  | @written caller entry here outcome =>
    have known : entry.revision ≤ (w.durable.revisions entry.key).length := held.within here
    refine held.put ((w.store outcome entry).acknowledge entry) (by simp [World.acknowledge]) (fun key => ?_) (fun key => ?_) (by simp [World.acknowledge]) caller .idle trivial
    · by_cases own : key = entry.key
      · simpa [World.acknowledge,own] using ⟨held.stored entry.key,known⟩
      · simpa [World.acknowledge,own] using held.stored key
    · by_cases own : key = entry.key
      · simp [World.acknowledge,own]
      · simp [World.acknowledge,own]
  | hit => exact ⟨held.stored,held.phase,held.idle⟩
  | @miss caller _ key => exact held.put w rfl held.stored (fun _ => le_rfl) same caller (.missed key (w.acknowledged key)) (le_refl (w.acknowledged key))
  | @unknown caller key floor => exact held.put (w.answer ⟨key,floor,none⟩) rfl held.stored (fun _ => le_rfl) same caller .idle trivial
  | @load caller key floor entry here last =>
    have low : floor ≤ w.acknowledged key := held.within here
    refine held.put w rfl held.stored (fun _ => le_rfl) same caller (.filling key floor entry) ⟨InMemoryDurableStore.latest_key last,?_⟩
    rw [InMemoryDurableStore.latest_revision last]
    exact low.trans (held.stored key)
  | @filled caller key floor entry => exact held.put ((w.store .done entry).answer ⟨key,floor,some entry⟩) rfl held.stored (fun _ => le_rfl) same caller .idle trivial
  | @unfilled caller key floor entry outcome => exact held.put (w.store outcome entry) (by simp) (by simpa using held.stored) (by simp) (by simp) caller .idle trivial
  | list => exact held
  | @relist caller => exact held.put w rfl held.stored (fun _ => le_rfl) same caller .cold trivial
  | @rebuild caller => exact held.put w rfl held.stored (fun _ => le_rfl) same caller (.rebuilding w.durable.latestAll) trivial
  | @reloaded caller entry rest => exact held.put (w.store .done entry) rfl held.stored (fun _ => le_rfl) same caller (.rebuilding rest) trivial
  | @unloaded caller entry rest outcome => exact held.put (w.store outcome entry) (by simp) (by simpa using held.stored) (by simp) (by simp) caller .idle trivial
  | @rebuilt caller => exact held.put w rfl held.stored (fun _ => le_rfl) same caller .idle trivial
  | evict => exact ⟨held.stored,held.phase,held.idle⟩
  | vanish => exact ⟨held.stored,held.phase,held.idle⟩

/-! ### When the cache stays current -/

@[simp] theorem noneStale_put (w : World) (caller : Nat) (phase : Phase) : NoneStale (w.put caller phase) ↔ NoneStale w := Iff.rfl
@[simp] theorem noneStale_answer (w : World) (reading : Reading) : NoneStale (w.answer reading) ↔ NoneStale w := Iff.rfl

/-- A set keeps the cache current just when its entry is. -/
theorem noneStale_store {w : World} (current : NoneStale w) (outcome : SetOutcome) (entry : MemoryEntry) :
    NoneStale (w.store outcome entry) ↔ (outcome.stores = true → w.acknowledged entry.key ≤ entry.revision) := by
  unfold World.store
  split_ifs with stores
  · simp only [stores,forall_const]
    constructor
    · intro after
      exact after entry.key entry (by simp [InMemoryHotStore.get_set])
    · intro new key cached found
      simp only [InMemoryHotStore.get_set] at found
      split_ifs at found with own
      · cases found
        exact own ▸ new
      · exact current key cached found
  · exact iff_of_true current fun stored => absurd stored stores

theorem noneStale_acknowledge {w : World} (entry : MemoryEntry) :
    NoneStale (w.acknowledge entry) ↔ NoneStale w ∧ ∀ cached, w.hot.get entry.key = some cached → entry.revision ≤ cached.revision := by
  constructor
  · intro after
    refine ⟨fun key cached found => ?_,fun cached found => ?_⟩
    · have bound := after key cached found
      by_cases own : key = entry.key
      · simp only [World.acknowledge,own,Function.update_self] at bound
        rw [own]
        omega
      · simpa [World.acknowledge,own] using bound
    · have bound := after entry.key cached found
      simp only [World.acknowledge,Function.update_self] at bound
      omega
  · rintro ⟨before,newer⟩ key cached found
    by_cases own : key = entry.key
    · subst own
      simp only [World.acknowledge,Function.update_self]
      exact max_le (before entry.key cached found) (newer cached found)
    · simpa [World.acknowledge,own] using before key cached found

theorem noneStale_step {w next : World} {move : Move} (current : NoneStale w) (step : Step w move next) :
    NoneStale next ↔ Settles w move := by
  cases step with
  | @written caller entry here outcome =>
    rw [noneStale_put,noneStale_acknowledge,noneStale_store current]
    cases stores : outcome.stores with
    | true =>
      have cached : (w.store outcome entry).hot.get entry.key = some entry := by simp [World.store,stores,InMemoryHotStore.get_set]
      simp [Settles,stores,here,Phase.pending,cached]
    | false => simp [Settles,stores,here,World.store]
  | @filled caller key floor entry here =>
    have after := noneStale_store current .done entry
    simpa [Settles,SetOutcome.stores,here,Phase.pending] using after
  | @unfilled caller key floor entry outcome here =>
    have after := noneStale_store current outcome entry
    simpa [Settles,here,Phase.pending] using after
  | @reloaded caller entry rest here =>
    have after := noneStale_store current .done entry
    simpa [Settles,SetOutcome.stores,here,Phase.pending] using after
  | @unloaded caller entry rest outcome here =>
    have after := noneStale_store current outcome entry
    simpa [Settles,here,Phase.pending] using after
  | evict => exact iff_of_true (fun key entry found => by cases found) trivial
  | vanish key =>
    refine iff_of_true (fun other entry found => ?_) trivial
    simp only [InMemoryHotStore.get_drop] at found
    split_ifs at found
    exact current other entry found
  | _ => exact iff_of_true current trivial

/-- A read of a current cache returns nothing stale. -/
theorem readings_step {w next : World} {move : Move} (held : Held w) (current : NoneStale w)
    (before : ∀ reading ∈ w.readings, reading.Current) (step : Step w move next) : ∀ reading ∈ next.readings, reading.Current := by
  cases step with
  | @hit caller _ key entry cached =>
    exact List.forall_mem_cons.mpr ⟨.inr ⟨entry,rfl,w.hot.keyed key entry cached,current key entry cached⟩,before⟩
  | @unknown caller key floor here nothing =>
    have low : floor ≤ w.acknowledged key := held.within here
    have none : w.durable.revisions key = [] := List.getLast?_eq_none_iff.mp nothing
    have bound := held.stored key
    rw [none,List.length_nil] at bound
    refine List.forall_mem_cons.mpr ⟨.inl ?_,before⟩
    show floor = 0
    omega
  | @filled caller key floor entry here =>
    have holds := held.within here
    exact List.forall_mem_cons.mpr ⟨.inr ⟨entry,rfl,holds.1,holds.2⟩,before⟩
  | written => simpa [World.put,World.acknowledge] using before
  | unfilled => simpa [World.put] using before
  | unloaded => simpa [World.put] using before
  | _ => exact before

/-- A stale entry is returned by the next read of its key. -/
theorem stale_read {w : World} (held : Held w) (stale : ¬ NoneStale w) :
    ∃ caller key next, Step w (.read caller key) next ∧ ∃ reading ∈ next.readings, ¬ reading.Current := by
  simp only [NoneStale,not_forall,not_le] at stale
  obtain ⟨key,entry,cached,older⟩ := stale
  obtain ⟨bound,free⟩ := held.idle
  refine ⟨bound,key,_,.hit (free bound le_rfl) cached,_,List.mem_cons_self ..,?_⟩
  rintro (zero | ⟨found,same,_,newer⟩)
  · simp only at zero
    omega
  · cases same
    simp only at newer
    omega

/-- A write and a read after it. -/
def writtenAndRead : List Move := [.write 0 (lit "scope") [] (lit "planner"),.set 0 .done,.read 1 (lit "scope")]

theorem writtenAndRead_run : ∃ w, Run (Guarded Settles Step) World.fresh writtenAndRead w ∧ w.readings.map (·.floor) = [1] :=
  ⟨_,.go ⟨trivial,.write rfl _ _ _⟩ (.go ⟨⟨fun _ _ _ => Nat.zero_le _,fun lost => by cases lost⟩,.written rfl _⟩
    (.go ⟨trivial,.hit rfl rfl⟩ (.stop _))),rfl⟩

/-- A read that repopulates the cache with what it loaded before another write. -/
def overtaken : List Move :=
  [.write 0 (lit "scope") [] (lit "planner"),.set 0 .done,.vanish (lit "scope"),.read 1 (lit "scope"),.load 1,
    .write 0 (lit "scope") [] (lit "planner"),.set 0 .done,.set 1 .done,.read 0 (lit "scope")]

end SocAnalyst.MemoryRaces
