import SocAnalyst.Ingestion

/-!
# Versions swapped in

What a search can see while ingestions run. The steps of any number of ingestions
interleave; one that fails takes no further step.
-/
namespace SocAnalyst.IndexSwaps
open SocAnalyst.Builtins SocAnalyst.Dicts SocAnalyst.Knowledge SocAnalyst.VectorStores SocAnalyst.Ingestion SocAnalyst.Runs

/-! ### The steps of an ingestion -/

/-- An ingestion that is ready to write: the version it registers, and its chunks, all of
    the version's source. -/
structure Build where
  row : KnowledgeIndexVersion
  chunks : List EmbeddedChunk
  building : row.status = .BUILDING
  own : ∀ chunk ∈ chunks, chunk.metadata.sourceId = row.sourceId

/-- The operations of a store that write, each done or refused as a whole. -/
structure StoreOperations (σ : Type) where
  recordVersion : σ → KnowledgeIndexVersion → Except StoreError σ
  addChunks : σ → Int → List EmbeddedChunk → Text → Except StoreError σ
  activateVersion : σ → Int → Text → Text → σ

/-- The in-process store; it keeps no table of versions. -/
def inMemory : StoreOperations InMemoryVectorStore where
  recordVersion store _ := .ok store
  addChunks store _ chunks version := .ok (store.addChunks chunks version)
  activateVersion store _ sourceId version := (store.activateVersion sourceId version).1

def pg : StoreOperations PgVectorStore := ⟨PgVectorStore.recordVersion,PgVectorStore.addChunks,PgVectorStore.activateVersion⟩

/-- A store, the ingestions that have registered their version, and those that have stored
    their chunks but not made them live. -/
structure Index (σ : Type) where
  store : σ
  registered : List Build
  indexed : List Build

/-- The index before any ingestion. -/
def Index.start {σ : Type} (store : σ) : Index σ := ⟨store,[],[]⟩

/-- A step of an ingestion, or of one that fails. -/
inductive Move where
  | record (build : Build)
  | add (build : Build) (now : Int)
  | activate (build : Build) (now : Int)
  | fail

/-- The other builds of a list. -/
def without (build : Build) (builds : List Build) : List Build := builds.filter fun other => other.row.key ≠ build.row.key

inductive Step {σ : Type} (operations : StoreOperations σ) : Index σ → Move → Index σ → Prop where
  | record {index : Index σ} {build : Build} {store : σ} : operations.recordVersion index.store build.row = .ok store →
      Step operations index (.record build) ⟨store,build :: index.registered,index.indexed⟩
  | add {index : Index σ} {build : Build} {now : Int} {store : σ} : build ∈ index.registered →
      operations.addChunks index.store now build.chunks build.row.version = .ok store →
      Step operations index (.add build now) ⟨store,without build index.registered,build :: index.indexed⟩
  | activate {index : Index σ} {build : Build} {now : Int} : build ∈ index.indexed →
      Step operations index (.activate build now)
        ⟨operations.activateVersion index.store now build.row.sourceId build.row.version,index.registered,without build index.indexed⟩
  | fail {index : Index σ} : Step operations index .fail index

theorem mem_without {build other : Build} {builds : List Build} :
    other ∈ without build builds ↔ other ∈ builds ∧ other.row.key ≠ build.row.key := by simp [without]

section
variable {σ : Type} {operations : StoreOperations σ} {index : Index σ} {build : Build} {now : Int} {registered built : σ}

theorem indexed_run (recorded : operations.recordVersion index.store build.row = .ok registered)
    (added : operations.addChunks registered now build.chunks build.row.version = .ok built) :
    Run (Step operations) index [.record build,.add build now]
      ⟨built,without build (build :: index.registered),build :: index.indexed⟩ := by
  refine .go (.record recorded) (.go (.add ?_ added) (.stop _))
  exact List.mem_cons_self

theorem swapped_run (recorded : operations.recordVersion index.store build.row = .ok registered)
    (added : operations.addChunks registered now build.chunks build.row.version = .ok built) :
    Run (Step operations) index [.record build,.add build now,.activate build now]
      ⟨operations.activateVersion built now build.row.sourceId build.row.version,without build (build :: index.registered),
        without build (build :: index.indexed)⟩ := by
  refine (indexed_run recorded added).snoc (.activate ?_)
  exact List.mem_cons_self

end

/-- What a pipeline builds of a snapshot. -/
def buildOf [Interpreter] (pipeline : IngestionPipeline) (sourceId : Text) {documents : List SourceDocument} {prepared : IngestionPipeline.Prepared}
    (done : pipeline.prepare sourceId documents = .ok prepared) : Build where
  row := pipeline.versionRow sourceId prepared
  chunks := prepared.chunks
  building := rfl
  own := pipeline.prepare_own done

section
variable [Interpreter] (pipeline : IngestionPipeline) (sourceId : Text) (fetched : Except Text (List SourceDocument))

/-- Ingesting a source is a run of these steps, wherever it stops. -/
theorem ingestPg_runs (now : Int) (index : Index PgVectorStore) : ∃ moves next, Run (Step pg) index moves next ∧
    next.store = (pipeline.ingestPg now sourceId fetched index.store).1 := by
  unfold IngestionPipeline.ingestPg
  by_cases refused : sourceId ∉ pipeline.registry
  · exact ⟨[],index,.stop index,by rw [if_pos refused]⟩
  rw [if_neg refused]
  cases fetched with
  | error message => cases index.store.activeVersion sourceId <;> exact ⟨[],index,.stop index,rfl⟩
  | ok documents =>
    dsimp only
    cases done : pipeline.prepare sourceId documents with
    | error e => exact ⟨[],index,.stop index,rfl⟩
    | ok prepared =>
      let build := buildOf pipeline sourceId done
      dsimp only
      cases recorded : index.store.recordVersion (pipeline.versionRow sourceId prepared) with
      | error e => exact ⟨[.fail],index,.go .fail (.stop index),rfl⟩
      | ok registered =>
        dsimp only
        cases added : registered.addChunks now prepared.chunks prepared.version with
        | error e => exact ⟨_,_,.go (@Step.record _ pg index build _ recorded) (.stop _),rfl⟩
        | ok built => exact ⟨_,_,@swapped_run _ pg index build now _ _ recorded added,rfl⟩

theorem ingestInMemory_runs (index : Index InMemoryVectorStore) : ∃ moves next, Run (Step inMemory) index moves next ∧
    next.store = (pipeline.ingestInMemory sourceId fetched index.store).1 := by
  unfold IngestionPipeline.ingestInMemory
  by_cases refused : sourceId ∉ pipeline.registry
  · exact ⟨[],index,.stop index,by rw [if_pos refused]⟩
  rw [if_neg refused]
  cases fetched with
  | error message => exact ⟨[],index,.stop index,rfl⟩
  | ok documents =>
    dsimp only
    cases done : pipeline.prepare sourceId documents with
    | error e => exact ⟨[],index,.stop index,rfl⟩
    | ok prepared =>
      exact ⟨_,_,@swapped_run _ inMemory index (buildOf pipeline sourceId done) 0 _ _ rfl rfl,rfl⟩

end

/-! ### What a search may return -/

/-- The records found are of the version reported live for their source. -/
def OfLive (activeVersion : Text → Except StoreError (Option Text)) (found : Found) : Prop :=
  ∀ item ∈ found, ∃ version, activeVersion item.1.metadata.sourceId = .ok (some version) ∧ item.1.indexVersion = some version

section
variable [Interpreter]

/-- Every search of the in-process store returns live records only. -/
def InMemoryOnlyLive (store : InMemoryVectorStore) : Prop :=
  (∀ similarity embedding filters limit found, store.denseSearch similarity embedding filters limit = .ok found →
    OfLive (fun sourceId => .ok (store.activeVersion sourceId)) found) ∧
  ∀ query filters limit found, store.keywordSearch query filters limit = .ok found →
    OfLive (fun sourceId => .ok (store.activeVersion sourceId)) found

/-- Whatever the distance of two embeddings, every answer PostgreSQL may give to a search
    holds live records only. -/
def PgOnlyLive (store : PgVectorStore) : Prop :=
  (∀ distance embedding filters limit found, store.DenseAnswer distance embedding filters limit (.ok found) →
    OfLive store.activeVersion found) ∧
  ∀ query filters limit found, store.KeywordAnswer query filters limit found → OfLive store.activeVersion found

end

/-! ### The in-process store -/

/-- Every chunk is stored under a version. -/
def Versioned (index : Index InMemoryVectorStore) : Prop := ∀ chunk ∈ index.store.chunks, chunk.indexVersion ≠ none

theorem Versioned.start : Versioned (.start .empty) := by
  intro chunk stored
  exact absurd stored List.not_mem_nil

theorem Versioned.step {index next : Index InMemoryVectorStore} {move : Move} (versioned : Versioned index)
    (step : Step inMemory index move next) : Versioned next := by
  cases step with
  | record recorded =>
    cases recorded
    exact versioned
  | add _ added =>
    cases added
    intro chunk stored
    rcases List.mem_append.mp stored with old | new
    · exact versioned chunk old
    · obtain ⟨_,_,rfl⟩ := List.mem_map.mp new
      simp
  | activate _ => exact versioned
  | fail => exact versioned

theorem searchable_live {store : InMemoryVectorStore} (versioned : ∀ chunk ∈ store.chunks, chunk.indexVersion ≠ none)
    {chunk : EmbeddedChunk} (visible : chunk ∈ store.searchable) :
    ∃ version, store.activeVersion chunk.metadata.sourceId = some version ∧ chunk.indexVersion = some version := by
  obtain ⟨stored,live⟩ := List.mem_filter.mp visible
  obtain ⟨version,named⟩ := Option.ne_none_iff_exists'.mp (versioned chunk stored)
  have live : store.active.get? chunk.metadata.sourceId = chunk.indexVersion := by simpa using live
  exact ⟨version,live.trans named,named⟩

theorem inMemory_onlyLive [Interpreter] {moves : List Move} {index : Index InMemoryVectorStore}
    (run : Run (Step inMemory) (.start .empty) moves index) : InMemoryOnlyLive index.store := by
  have keeps : ∀ s move t, Versioned s → Step inMemory s move t → Versioned t := fun _ _ _ => Versioned.step
  have versioned := run.invariant keeps Versioned.start
  refine ⟨?_,?_⟩
  · intro similarity embedding filters limit found search item member
    obtain ⟨chunk,visible,same⟩ := InMemoryVectorStore.denseSearch_mem search member
    obtain ⟨version,live,named⟩ := searchable_live versioned visible
    exact ⟨version,by simpa [same] using live,by rw [same,named]⟩
  · intro query filters limit found search item member
    obtain ⟨chunk,visible,same⟩ := InMemoryVectorStore.keywordSearch_mem search member
    obtain ⟨version,live,named⟩ := searchable_live versioned visible
    exact ⟨version,by simpa [same] using live,by rw [same,named]⟩

/-! ### PostgreSQL -/

theorem version_unique (store : PgVectorStore) {row other : KnowledgeIndexVersion} (known : row ∈ store.versions)
    (listed : other ∈ store.versions) (same : row.key = other.key) : row = other :=
  List.inj_on_of_nodup_map store.versionKeys known listed same

/-- A row that is live for its source. -/
def LiveRow (store : PgVectorStore) (sourceId version : Text) : Prop :=
  ∃ row ∈ store.versions, row.key = (sourceId,version) ∧ row.status = .ACTIVE

/-- At most one version of a source is live. -/
def OneLive (store : PgVectorStore) : Prop :=
  ∀ sourceId version other, LiveRow store sourceId version → LiveRow store sourceId other → version = other

theorem activeVersion_live {store : PgVectorStore} {sourceId version : Text}
    (reported : store.activeVersion sourceId = .ok (some version)) : LiveRow store sourceId version := by
  unfold PgVectorStore.activeVersion at reported
  split at reported
  · cases reported
  · rename_i row alone
    have listed : row ∈ store.versions.filter fun row => row.sourceId = sourceId ∧ row.status = .ACTIVE := by rw [alone]; simp
    obtain ⟨known,own,live⟩ : row ∈ store.versions ∧ row.sourceId = sourceId ∧ row.status = .ACTIVE := by simpa using listed
    simp only [Except.ok.injEq,Option.some.injEq] at reported
    exact ⟨row,known,by rw [KnowledgeIndexVersion.key,own,reported],live⟩
  · cases reported

theorem activeVersion_eq {store : PgVectorStore} {sourceId version : Text} (single : OneLive store)
    (live : LiveRow store sourceId version) : store.activeVersion sourceId = .ok (some version) := by
  obtain ⟨row,known,named,active⟩ := live
  obtain ⟨own,titled⟩ : row.sourceId = sourceId ∧ row.version = version := by simpa [KnowledgeIndexVersion.key] using named
  have only : ∀ other ∈ store.versions.filter fun row => row.sourceId = sourceId ∧ row.status = .ACTIVE, other = row := by
    intro other listed
    obtain ⟨there,theirs,running⟩ : other ∈ store.versions ∧ other.sourceId = sourceId ∧ other.status = .ACTIVE := by
      simpa using listed
    have agree : other.version = version := single sourceId _ _ ⟨other,there,by rw [KnowledgeIndexVersion.key,theirs],running⟩
      ⟨row,known,named,active⟩
    exact version_unique store there known (by rw [named,KnowledgeIndexVersion.key,theirs,agree])
  have distinct : (store.versions.filter fun row => row.sourceId = sourceId ∧ row.status = .ACTIVE).Nodup :=
    (List.Nodup.of_map _ store.versionKeys).filter _
  have listed : row ∈ store.versions.filter fun row => row.sourceId = sourceId ∧ row.status = .ACTIVE := by simp [known,own,active]
  unfold PgVectorStore.activeVersion
  rcases found : store.versions.filter fun row => row.sourceId = sourceId ∧ row.status = .ACTIVE with _ | ⟨first,_ | ⟨second,rest⟩⟩
  · rw [found] at listed
    cases listed
  · rw [found] at only
    simp only [found,only first (by simp),titled]
  · rw [found] at only distinct
    have twice : first = second := (only first (by simp)).trans (only second (by simp)).symm
    simp [twice] at distinct

/-- A flip makes the given version live if it is registered, retires the other live
    versions of its source, and leaves other sources alone. -/
theorem liveRow_activate (store : PgVectorStore) (now : Int) (sourceId indexVersion source version : Text) :
    LiveRow (store.activateVersion now sourceId indexVersion) source version ↔
      (source = sourceId ∧ version = indexVersion ∧ ∃ row ∈ store.versions, row.key = (sourceId,indexVersion)) ∨
        (source ≠ sourceId ∧ LiveRow store source version) := by
  constructor
  · rintro ⟨_,listed,named,live⟩
    obtain ⟨row,known,rfl⟩ := List.mem_map.mp listed
    rw [PgVectorStore.key_flip] at named
    obtain ⟨own,titled⟩ : row.sourceId = source ∧ row.version = version := by simpa [KnowledgeIndexVersion.key] using named
    unfold PgVectorStore.flip at live
    split_ifs at live with same this running
    · exact .inl ⟨own.symm.trans same,titled.symm.trans this,row,known,by rw [KnowledgeIndexVersion.key,same,this]⟩
    · exact absurd live running
    · exact .inr ⟨fun equal => same (own.trans equal),row,known,named,live⟩
  · rintro (⟨rfl,rfl,row,known,named⟩ | ⟨elsewhere,row,known,named,live⟩)
    · obtain ⟨own,titled⟩ : row.sourceId = source ∧ row.version = version := by simpa [KnowledgeIndexVersion.key] using named
      refine ⟨_,List.mem_map_of_mem known,by rw [PgVectorStore.key_flip,named],?_⟩
      simp [PgVectorStore.flip,own,titled]
    · have own : row.sourceId = source := congrArg Prod.fst named
      refine ⟨_,List.mem_map_of_mem known,by rw [PgVectorStore.key_flip,named],?_⟩
      simpa [PgVectorStore.flip,own,elsewhere] using live

/-- A version that is registered but not live. -/
def BuildingRow (store : PgVectorStore) (key : Text × Text) : Prop :=
  ∃ row ∈ store.versions, row.key = key ∧ row.status = .BUILDING

theorem BuildingRow.activate {store : PgVectorStore} {key : Text × Text} (building : BuildingRow store key) (now : Int)
    {sourceId indexVersion : Text} (other : key ≠ (sourceId,indexVersion)) :
    BuildingRow (store.activateVersion now sourceId indexVersion) key := by
  obtain ⟨row,known,rfl,waiting⟩ := building
  refine ⟨_,List.mem_map_of_mem known,PgVectorStore.key_flip now sourceId indexVersion row,?_⟩
  unfold PgVectorStore.flip
  split_ifs with same this running
  · exact absurd (by rw [KnowledgeIndexVersion.key,same,this]) other
  · exact absurd (running.symm.trans waiting) (by decide)
  · exact waiting
  · exact waiting

theorem BuildingRow.not_live {store : PgVectorStore} {sourceId version : Text} (building : BuildingRow store (sourceId,version)) :
    ¬ LiveRow store sourceId version := by
  rintro ⟨row,known,named,live⟩
  obtain ⟨other,listed,titled,waiting⟩ := building
  rw [version_unique store known listed (named.trans titled.symm)] at live
  exact absurd (live.symm.trans waiting) (by decide)

theorem mem_superseded {store : PgVectorStore} {sourceId indexVersion version : Text} :
    version ∈ store.superseded sourceId indexVersion ↔ LiveRow store sourceId version ∧ version ≠ indexVersion := by
  constructor
  · intro listed
    obtain ⟨row,member,rfl⟩ := List.mem_map.mp listed
    obtain ⟨known,own,live,other⟩ : row ∈ store.versions ∧ row.sourceId = sourceId ∧ row.status = .ACTIVE ∧
      row.version ≠ indexVersion := by simpa using member
    exact ⟨⟨row,known,by rw [KnowledgeIndexVersion.key,own],live⟩,other⟩
  · rintro ⟨⟨row,known,named,live⟩,other⟩
    obtain ⟨own,rfl⟩ : row.sourceId = sourceId ∧ row.version = version := by simpa [KnowledgeIndexVersion.key] using named
    exact List.mem_map.mpr ⟨row,by simp [known,own,live,other],rfl⟩

/-- A row that a flip leaves searchable is one it does not retire. -/
theorem retire_none {now : Int} {sourceId : Text} {previous : List Text} {row : KnowledgeChunk}
    (kept : (PgVectorStore.retire now sourceId previous row).retiredAt = none) :
    PgVectorStore.retire now sourceId previous row = row ∧ ¬ PgVectorStore.Retires sourceId previous row := by
  unfold PgVectorStore.retire at kept ⊢
  split_ifs at kept ⊢ with retires
  exact ⟨rfl,retires⟩

/-! ### Runs over PostgreSQL -/

/-- Where the rows of a build are. -/
def Build.Stored (build : Build) (row : KnowledgeChunk) : Prop :=
  row.metadata.sourceId = build.row.sourceId ∧ row.indexVersion = some build.row.version

/-- What every run keeps: builds under way wait under their own key, a row a search may
    return is live or belongs to a build that is not swapped in, and such a build's rows
    are there. -/
structure Kept (index : Index PgVectorStore) : Prop where
  oneLive : OneLive index.store
  registered : ∀ build ∈ index.registered, BuildingRow index.store build.row.key
  indexed : ∀ build ∈ index.indexed, BuildingRow index.store build.row.key
  apart : ∀ build ∈ index.registered, ∀ other ∈ index.indexed, build.row.key ≠ other.row.key
  visible : ∀ row ∈ index.store.searchable, (∃ version, row.indexVersion = some version ∧
    LiveRow index.store row.metadata.sourceId version) ∨ ∃ build ∈ index.indexed, build.chunks ≠ [] ∧ build.Stored row
  exposed : ∀ build ∈ index.indexed, build.chunks ≠ [] → ∃ row ∈ index.store.searchable, build.Stored row

theorem mem_searchable {store : PgVectorStore} {row : KnowledgeChunk} :
    row ∈ store.searchable ↔ row ∈ store.chunks ∧ row.retiredAt = none := by simp [PgVectorStore.searchable]

theorem Kept.start : Kept (.start .empty) where
  oneLive := by rintro _ _ _ ⟨_,known,_⟩; cases known
  registered := by intro _ member; cases member
  indexed := by intro _ member; cases member
  apart := by intro _ member; cases member
  visible := by intro _ member; cases member
  exposed := by intro _ member; cases member

theorem recordVersion_ok {store next : PgVectorStore} {row : KnowledgeIndexVersion} (recorded : store.recordVersion row = .ok next) :
    next.chunks = store.chunks ∧ next.versions = store.versions ++ [row] ∧ ∀ known ∈ store.versions, known.key ≠ row.key := by
  unfold PgVectorStore.recordVersion at recorded
  split_ifs at recorded with fresh
  cases recorded
  rw [List.map_append,List.nodup_append] at fresh
  exact ⟨rfl,rfl,fun known listed => fresh.2.2 _ (List.mem_map_of_mem listed) _ (by simp)⟩

theorem recordVersion_returns (store : PgVectorStore) (row : KnowledgeIndexVersion) :
    (∃ next, store.recordVersion row = .ok next) ↔ ∀ known ∈ store.versions, known.key ≠ row.key := by
  constructor
  · rintro ⟨next,recorded⟩
    exact (recordVersion_ok recorded).2.2
  · intro fresh
    refine ⟨_,dif_pos ?_⟩
    rw [List.map_append,List.nodup_append]
    refine ⟨store.versionKeys,List.nodup_singleton _,?_⟩
    rintro _ listed _ single rfl
    obtain ⟨known,there,same⟩ := List.mem_map.mp listed
    simp only [List.map_cons,List.map_nil,List.mem_singleton] at single
    exact fresh known there (same.trans single)

theorem addChunks_ok {store next : PgVectorStore} {now : Int} {chunks : List EmbeddedChunk} {version : Text}
    (added : store.addChunks now chunks version = .ok next) :
    next.chunks = store.chunks ++ chunks.map (PgVectorStore.toRow now version) ∧ next.versions = store.versions := by
  unfold PgVectorStore.addChunks at added
  split_ifs at added with fresh
  cases added
  exact ⟨rfl,rfl⟩

/-- Chunks under a version of which no row is stored go in exactly when their ids differ. -/
theorem addChunks_returns (store : PgVectorStore) (now : Int) (chunks : List EmbeddedChunk) {version : Text}
    (fresh : ∀ row ∈ store.chunks, row.indexVersion ≠ some version) :
    (∃ next, store.addChunks now chunks version = .ok next) ↔ (chunks.map (·.chunkId)).Nodup := by
  have keys : ((chunks.map (PgVectorStore.toRow now version)).map KnowledgeChunk.key).Nodup ↔ (chunks.map (·.chunkId)).Nodup := by
    have paired : (chunks.map (PgVectorStore.toRow now version)).map KnowledgeChunk.key =
        (chunks.map (·.chunkId)).map fun id => (id,some version) := by
      rw [List.map_map,List.map_map]
      rfl
    rw [paired,List.nodup_map_iff]
    intro first second same
    exact congrArg Prod.fst same
  unfold PgVectorStore.addChunks
  constructor
  · rintro ⟨next,added⟩
    split_ifs at added with distinct
    rw [List.map_append,List.nodup_append] at distinct
    exact keys.mp distinct.2.1
  · intro distinct
    refine ⟨_,dif_pos ?_⟩
    rw [List.map_append,List.nodup_append]
    refine ⟨store.chunkKeys,keys.mpr distinct,?_⟩
    rintro _ listed _ new rfl
    obtain ⟨row,there,rfl⟩ := List.mem_map.mp listed
    obtain ⟨_,added,same⟩ := List.mem_map.mp new
    obtain ⟨chunk,_,rfl⟩ := List.mem_map.mp added
    exact fresh row there (congrArg Prod.snd same).symm

theorem BuildingRow.mono {store next : PgVectorStore} {key : Text × Text} (building : BuildingRow store key)
    (more : ∀ row ∈ store.versions, row ∈ next.versions) : BuildingRow next key :=
  building.imp fun row found => ⟨more row found.1,found.2⟩

/-- Registering a version that waits makes none live. -/
theorem liveRow_record {store next : PgVectorStore} {row : KnowledgeIndexVersion} (recorded : store.recordVersion row = .ok next)
    (waiting : row.status = .BUILDING) (sourceId version : Text) : LiveRow next sourceId version ↔ LiveRow store sourceId version := by
  obtain ⟨_,versions,_⟩ := recordVersion_ok recorded
  simp only [LiveRow,versions,List.mem_append,List.mem_singleton]
  constructor
  · rintro ⟨known,listed | rfl,named,live⟩
    · exact ⟨known,listed,named,live⟩
    · exact absurd (live.symm.trans waiting) (by decide)
  · rintro ⟨known,listed,rest⟩
    exact ⟨known,.inl listed,rest⟩

theorem Kept.record {index : Index PgVectorStore} {build : Build} {store : PgVectorStore} (kept : Kept index)
    (recorded : index.store.recordVersion build.row = .ok store) : Kept ⟨store,build :: index.registered,index.indexed⟩ := by
  obtain ⟨chunks,versions,fresh⟩ := recordVersion_ok recorded
  have more : ∀ row ∈ index.store.versions, row ∈ store.versions := by
    intro row listed
    rw [versions]
    exact List.mem_append_left _ listed
  have unused : ∀ other : Build, BuildingRow index.store other.row.key → build.row.key ≠ other.row.key := by
    rintro other ⟨row,listed,named,_⟩ same
    exact fresh row listed (named.trans same.symm)
  have same : store.searchable = index.store.searchable := by rw [PgVectorStore.searchable,chunks,PgVectorStore.searchable]
  have waiting : BuildingRow store build.row.key := ⟨build.row,by rw [versions]; simp,rfl,build.building⟩
  refine ⟨?_,?_,fun other listed => (kept.indexed other listed).mono more,?_,?_,?_⟩
  · simp only [OneLive,liveRow_record recorded build.building]
    exact kept.oneLive
  · rw [List.forall_mem_cons]
    exact ⟨waiting,fun other listed => (kept.registered other listed).mono more⟩
  · rw [List.forall_mem_cons]
    exact ⟨fun other listed => unused other (kept.indexed other listed),kept.apart⟩
  · simpa only [same,liveRow_record recorded build.building] using kept.visible
  · simpa only [same] using kept.exposed

theorem Kept.add {index : Index PgVectorStore} {build : Build} {now : Int} {store : PgVectorStore} (kept : Kept index)
    (member : build ∈ index.registered) (added : index.store.addChunks now build.chunks build.row.version = .ok store) :
    Kept ⟨store,without build index.registered,build :: index.indexed⟩ := by
  obtain ⟨chunks,versions⟩ := addChunks_ok added
  have more : ∀ row ∈ index.store.versions, row ∈ store.versions := by rw [versions]; exact fun _ listed => listed
  have live : ∀ sourceId version, LiveRow store sourceId version ↔ LiveRow index.store sourceId version := by simp [LiveRow,versions]
  have stays : ∀ row ∈ index.store.searchable, row ∈ store.searchable := by
    intro row seen
    rw [mem_searchable] at seen ⊢
    exact ⟨by rw [chunks]; exact List.mem_append_left _ seen.1,seen.2⟩
  have stored : ∀ chunk ∈ build.chunks, build.Stored (PgVectorStore.toRow now build.row.version chunk) :=
    fun chunk inside => ⟨build.own chunk inside,rfl⟩
  refine ⟨?_,?_,?_,?_,?_,?_⟩
  · simpa only [OneLive,live] using kept.oneLive
  · exact fun other listed => (kept.registered other (mem_without.mp listed).1).mono more
  · rw [List.forall_mem_cons]
    exact ⟨(kept.registered build member).mono more,fun other listed => (kept.indexed other listed).mono more⟩
  · intro other listed
    obtain ⟨waiting,different⟩ := mem_without.mp listed
    rw [List.forall_mem_cons]
    exact ⟨different,kept.apart other waiting⟩
  · intro row seen
    rw [mem_searchable,chunks,List.mem_append] at seen
    obtain ⟨old | new,unretired⟩ := seen
    · rcases kept.visible row (mem_searchable.mpr ⟨old,unretired⟩) with ⟨version,named,reported⟩ | ⟨other,listed,holds⟩
      · exact .inl ⟨version,named,(live _ _).mpr reported⟩
      · exact .inr ⟨other,List.mem_cons_of_mem _ listed,holds⟩
    · obtain ⟨chunk,inside,rfl⟩ := List.mem_map.mp new
      exact .inr ⟨build,by simp,List.ne_nil_of_mem inside,stored chunk inside⟩
  · rw [List.forall_mem_cons]
    refine ⟨?_,?_⟩
    · intro nonempty
      obtain ⟨chunk,inside⟩ := List.exists_mem_of_ne_nil _ nonempty
      refine ⟨_,mem_searchable.mpr ⟨?_,rfl⟩,stored chunk inside⟩
      rw [chunks]
      exact List.mem_append_right _ (List.mem_map_of_mem inside)
    · intro other listed nonempty
      obtain ⟨row,seen,holds⟩ := kept.exposed other listed nonempty
      exact ⟨row,stays row seen,holds⟩

/-- What a flip leaves searchable was searchable, and is not of a version it retires. -/
theorem searchable_activate {store : PgVectorStore} {now : Int} {sourceId indexVersion : Text} {row : KnowledgeChunk}
    (seen : row ∈ (store.activateVersion now sourceId indexVersion).searchable) : row ∈ store.searchable ∧
      ∀ version, row.metadata.sourceId = sourceId → row.indexVersion = some version → LiveRow store sourceId version →
        version = indexVersion := by
  obtain ⟨listed,unretired⟩ := mem_searchable.mp seen
  obtain ⟨old,known,rfl⟩ := List.mem_map.mp listed
  obtain ⟨same,retires⟩ := retire_none unretired
  rw [same] at unretired ⊢
  refine ⟨mem_searchable.mpr ⟨known,unretired⟩,?_⟩
  intro version own named live
  by_contra other
  exact retires ⟨own,⟨version,mem_superseded.mpr ⟨live,other⟩,named⟩,unretired⟩

/-- A row of a version that is not live stays searchable through a flip. -/
theorem searchable_keeps {store : PgVectorStore} {sourceId indexVersion source version : Text} {row : KnowledgeChunk}
    (seen : row ∈ store.searchable) (now : Int) (own : row.metadata.sourceId = source) (named : row.indexVersion = some version)
    (waiting : ¬ LiveRow store source version) : row ∈ (store.activateVersion now sourceId indexVersion).searchable := by
  obtain ⟨known,unretired⟩ := mem_searchable.mp seen
  have spared : ¬ PgVectorStore.Retires sourceId (store.superseded sourceId indexVersion) row := by
    rintro ⟨same,⟨previous,superseded,titled⟩,_⟩
    obtain ⟨live,_⟩ := mem_superseded.mp superseded
    rw [← own,same] at waiting
    exact waiting (Option.some.inj (named.symm.trans titled) ▸ live)
  have kept : PgVectorStore.retire now sourceId (store.superseded sourceId indexVersion) row = row := if_neg spared
  exact mem_searchable.mpr ⟨List.mem_map.mpr ⟨row,known,kept⟩,unretired⟩

theorem Kept.activate {index : Index PgVectorStore} {build : Build} (kept : Kept index) (now : Int) (member : build ∈ index.indexed) :
    Kept ⟨index.store.activateVersion now build.row.sourceId build.row.version,index.registered,without build index.indexed⟩ := by
  obtain ⟨row,known,named,_⟩ := kept.indexed build member
  have current : LiveRow (index.store.activateVersion now build.row.sourceId build.row.version) build.row.sourceId build.row.version :=
    (liveRow_activate ..).mpr (.inl ⟨rfl,rfl,row,known,named⟩)
  refine ⟨?_,?_,?_,?_,?_,?_⟩
  · intro source version other first second
    rw [liveRow_activate] at first second
    rcases first with ⟨rfl,rfl,_⟩ | ⟨elsewhere,first⟩
    · rcases second with ⟨_,rfl,_⟩ | ⟨away,_⟩
      · rfl
      · exact absurd rfl away
    · rcases second with ⟨here,_⟩ | ⟨_,second⟩
      · exact absurd here elsewhere
      · exact kept.oneLive source version other first second
  · exact fun other listed => (kept.registered other listed).activate now (kept.apart other listed build member)
  · intro other listed
    obtain ⟨listed,different⟩ := mem_without.mp listed
    exact (kept.indexed other listed).activate now different
  · exact fun other listed last remaining => kept.apart other listed last (mem_without.mp remaining).1
  · intro row seen
    obtain ⟨before,spared⟩ := searchable_activate seen
    rcases kept.visible row before with ⟨version,titled,live⟩ | ⟨other,listed,nonempty,own,titled⟩
    · refine .inl ⟨version,titled,?_⟩
      by_cases here : row.metadata.sourceId = build.row.sourceId
      · rw [here] at live ⊢
        rw [spared version here titled live]
        exact current
      · exact (liveRow_activate ..).mpr (.inr ⟨here,live⟩)
    · by_cases same : other.row.key = build.row.key
      · obtain ⟨source,version⟩ : other.row.sourceId = build.row.sourceId ∧ other.row.version = build.row.version := by
          simpa [KnowledgeIndexVersion.key] using same
        refine .inl ⟨build.row.version,by rw [titled,version],?_⟩
        rw [own,source]
        exact current
      · exact .inr ⟨other,mem_without.mpr ⟨listed,same⟩,nonempty,own,titled⟩
  · intro other remaining nonempty
    obtain ⟨listed,_⟩ := mem_without.mp remaining
    obtain ⟨row,seen,own,titled⟩ := kept.exposed other listed nonempty
    exact ⟨row,searchable_keeps seen now own titled (kept.indexed other listed).not_live,own,titled⟩

theorem Kept.step {index next : Index PgVectorStore} {move : Move} (kept : Kept index) (step : Step pg index move next) : Kept next := by
  cases step with
  | record recorded => exact kept.record recorded
  | add member added => exact kept.add member added
  | activate member => exact kept.activate _ member
  | fail => exact kept

theorem kept_run {moves : List Move} {index : Index PgVectorStore} (run : Run (Step pg) (.start .empty) moves index) : Kept index := by
  have keeps : ∀ s move t, Kept s → Step pg s move t → Kept t := fun _ _ _ => Kept.step
  exact run.invariant keeps Kept.start

/-! ### What a search sees -/

/-- Everything a search may return is live: it is once every build with chunks is. -/
theorem Kept.onlyLive [Interpreter] {index : Index PgVectorStore} (kept : Kept index)
    (swapped : ∀ build ∈ index.indexed, build.chunks = []) : PgOnlyLive index.store := by
  have live : ∀ row ∈ index.store.searchable, ∃ version,
      index.store.activeVersion row.metadata.sourceId = .ok (some version) ∧ row.indexVersion = some version := by
    intro row seen
    rcases kept.visible row seen with ⟨version,titled,live⟩ | ⟨build,listed,nonempty,_⟩
    · exact ⟨version,activeVersion_eq kept.oneLive live,titled⟩
    · exact absurd (swapped build listed) nonempty
  refine ⟨?_,?_⟩
  · intro distance embedding filters limit found answered item member
    obtain ⟨row,seen,same⟩ := answered.mem member
    rw [same]
    exact live row seen
  · intro query filters limit found answered item member
    obtain ⟨row,seen,same⟩ := answered.mem member
    rw [same]
    exact live row seen

/-- A dense search wide enough returns every searchable row. -/
theorem dense_finds {store : PgVectorStore} {row : KnowledgeChunk} (seen : row ∈ store.searchable) :
    ∃ found, store.DenseAnswer (fun _ _ => 0) [] {} store.searchable.length (.ok found) ∧ (row.toKnowledgeChunkRecord,1) ∈ found := by
  refine ⟨store.searchable.map fun row => (row.toKnowledgeChunkRecord,1),⟨store.searchable,?_,?_,?_⟩,List.mem_map_of_mem seen⟩
  · rw [PgVectorStore.baseQuery_default]
  · exact List.pairwise_of_forall fun _ _ => le_refl _
  · rw [List.take_length,mapRaising_eq (g := fun row : KnowledgeChunk => some (row.toKnowledgeChunkRecord,1)) (fun row => ?_)]
    · simp [Except.map,List.reduceOption,List.filterMap_map,List.filter_map,Function.comp_def]
    · simp [matchesFilters_default,bind,Except.bind,pure,Except.pure]

/-- PostgreSQL shows live versions only exactly when no build is between its chunks and
    its activation. -/
theorem Kept.onlyLive_iff [Interpreter] {index : Index PgVectorStore} (kept : Kept index) :
    PgOnlyLive index.store ↔ ∀ build ∈ index.indexed, build.chunks = [] := by
  refine ⟨?_,kept.onlyLive⟩
  intro only build listed
  by_contra nonempty
  obtain ⟨row,seen,own,titled⟩ := kept.exposed build listed nonempty
  obtain ⟨found,answered,member⟩ := dense_finds seen
  obtain ⟨version,reported,named⟩ := only.1 _ _ _ _ _ answered _ member
  have live := activeVersion_live reported
  rw [own,← Option.some.inj (titled.symm.trans named)] at live
  exact (kept.indexed build listed).not_live live

theorem searches_live_iff_swapped [Interpreter] :
    (∀ moves index, Run (Step inMemory) (.start .empty) moves index → InMemoryOnlyLive index.store) ∧
    ∀ moves index, Run (Step pg) (.start .empty) moves index →
      (PgOnlyLive index.store ↔ ∀ build ∈ index.indexed, build.chunks = []) := by
  exact ⟨fun _ _ run => inMemory_onlyLive run,fun _ _ run => (kept_run run).onlyLive_iff⟩

def sampleBuild (version content : Text) : Build where
  row := { sourceId := lit "nvd", version := version, embeddingModel := lit "m", embeddingDimensions := 1 }
  chunks := [{
    chunkId := lit "CVE-2021-44228#0"
    documentId := lit "CVE-2021-44228"
    content := content
    metadata := { sourceKind := .NVD, sourceId := lit "nvd", sourceName := lit "NVD CVE Feed", trustTier := .AUTHORITATIVE }
    embedding := [1] }]
  building := rfl
  own := by simp

/-- One live version of one chunk is all that is found. -/
theorem swapped_version_live : ∃ moves index, Run (Step pg) (.start .empty) moves index ∧ index.store.searchable.length = 1 ∧
    @PgOnlyLive ascii index.store := by
  have run := @swapped_run _ pg (.start .empty) (sampleBuild (lit "nvd-1") (lit "2.14.1")) 0 _ _ rfl rfl
  refine ⟨_,_,run,rfl,((@searches_live_iff_swapped ascii).2 _ _ run).mpr ?_⟩
  intro build listed
  obtain ⟨_,different⟩ := mem_without.mp listed
  simp_all [Index.start]

/-- A chunk of a version that is being built is found beside the live one. -/
theorem half_built_version_found : ∃ moves index found, Run (Step pg) (.start .empty) moves index ∧
    index.store.activeVersion (lit "nvd") = .ok (some (lit "nvd-1")) ∧
    index.store.DenseAnswer (fun _ _ => 0) [] {} index.store.searchable.length (.ok found) ∧
    (∃ item ∈ found, item.1.metadata.sourceId = lit "nvd" ∧ item.1.indexVersion = some (lit "nvd-2")) ∧
    ¬ @PgOnlyLive ascii index.store := by
  have run := (@swapped_run _ pg (.start .empty) (sampleBuild (lit "nvd-1") (lit "2.14.1")) 0 _ _ rfl rfl).append
    (@indexed_run _ pg _ (sampleBuild (lit "nvd-2") (lit "2.17.1")) 1 _ _ rfl rfl)
  obtain ⟨row,seen,own,titled⟩ := (kept_run run).exposed _ List.mem_cons_self (by simp [sampleBuild])
  obtain ⟨found,answered,member⟩ := dense_finds seen
  refine ⟨_,_,found,run,rfl,answered,⟨_,member,own,titled⟩,?_⟩
  intro only
  obtain ⟨version,reported,named⟩ := only.1 _ _ _ _ _ answered _ member
  have waiting := (kept_run run).indexed _ List.mem_cons_self
  have live := activeVersion_live reported
  rw [own,← Option.some.inj (titled.symm.trans named)] at live
  exact waiting.not_live live

end SocAnalyst.IndexSwaps
