import SocAnalyst.IndexSwaps

/-!
# Snapshots of one source, one after another

When ingesting a list of corpus snapshots leaves, after each of them, exactly its chunks
searchable.
-/
namespace SocAnalyst.Snapshots
open SocAnalyst.Builtins SocAnalyst.Dicts SocAnalyst.Knowledge SocAnalyst.VectorStores SocAnalyst.Ingestion SocAnalyst.IndexSwaps

section
variable [Interpreter] (pipeline : IngestionPipeline) (sourceId : Text)

/-- The chunks of a snapshot as they are stored: under the snapshot's version. -/
def stored (documents : List SourceDocument) : List KnowledgeChunkRecord :=
  (pipeline.records documents).map fun record => { record with indexVersion := some (pipeline.versionOf sourceId documents) }

/-- Each ingestion succeeds, and leaves of the source exactly the chunks of its snapshot
    searchable, each once. -/
def ServesInMemory : InMemoryVectorStore → List (List SourceDocument) → Prop
  | _, [] => True
  | store, documents :: rest => ∃ served report, pipeline.ingestInMemory sourceId (.ok documents) store = (served,.ok report) ∧
      ((served.searchable.filter fun chunk => chunk.metadata.sourceId = sourceId).map (·.toKnowledgeChunkRecord)).Perm
        (stored pipeline sourceId documents) ∧
      ServesInMemory served rest

/-- The same of PostgreSQL, each snapshot with the time it is ingested at. -/
def ServesPg : PgVectorStore → List (Int × List SourceDocument) → Prop
  | _, [] => True
  | store, (now,documents) :: rest => ∃ served report, pipeline.ingestPg now sourceId (.ok documents) store = (served,.ok report) ∧
      ((served.searchable.filter fun row => row.metadata.sourceId = sourceId).map (·.toKnowledgeChunkRecord)).Perm
        (stored pipeline sourceId documents) ∧
      ServesPg served rest

/-! ### The in-process store -/

/-- What the store holds of the source. -/
def held (store : InMemoryVectorStore) : List KnowledgeChunkRecord :=
  (store.chunks.filter fun chunk => chunk.metadata.sourceId = sourceId).map (·.toKnowledgeChunkRecord)

/-- The chunks of a prepared snapshot as the store takes them. -/
theorem stored_chunks {documents : List SourceDocument} {prepared : IngestionPipeline.Prepared}
    (done : pipeline.prepare sourceId documents = .ok prepared) :
    prepared.chunks.map (fun chunk => { chunk.toKnowledgeChunkRecord with indexVersion := some prepared.version }) =
      stored pipeline sourceId documents := by
  obtain ⟨version,records⟩ := pipeline.prepare_amounts done
  rw [stored,← records,← version]
  simp [Function.comp_def]

theorem ingestInMemory_ok {store served : InMemoryVectorStore} {documents : List SourceDocument} {report : IngestionReport}
    (ingested : pipeline.ingestInMemory sourceId (.ok documents) store = (served,.ok report)) :
    pipeline.Ingestible sourceId documents ∧ ∃ prepared, pipeline.prepare sourceId documents = .ok prepared ∧
      served = ((store.addChunks prepared.chunks prepared.version).activateVersion sourceId prepared.version).1 := by
  unfold IngestionPipeline.ingestInMemory at ingested
  by_cases registered : sourceId ∈ pipeline.registry
  · rw [if_neg (not_not.mpr registered)] at ingested
    cases done : pipeline.prepare sourceId documents with
    | error e => simp [done] at ingested
    | ok prepared =>
      simp only [done] at ingested
      cases ingested
      exact ⟨pipeline.prepare_returns.mp ⟨registered,prepared,done⟩,prepared,rfl,rfl⟩
  · rw [if_pos registered] at ingested
    simp at ingested

theorem ingestInMemory_returns (store : InMemoryVectorStore) {documents : List SourceDocument}
    (ingestible : pipeline.Ingestible sourceId documents) :
    ∃ served report, pipeline.ingestInMemory sourceId (.ok documents) store = (served,.ok report) := by
  obtain ⟨registered,prepared,done⟩ := pipeline.prepare_returns.mpr ingestible
  unfold IngestionPipeline.ingestInMemory
  rw [if_neg (not_not.mpr registered)]
  simp only [done]
  exact ⟨_,_,rfl⟩

/-- What is added and what is live after an ingestion in memory. -/
theorem ingested_inMemory {store served : InMemoryVectorStore} {documents : List SourceDocument} {report : IngestionReport}
    (ingested : pipeline.ingestInMemory sourceId (.ok documents) store = (served,.ok report)) :
    held sourceId served = held sourceId store ++ stored pipeline sourceId documents ∧
      (served.searchable.filter fun chunk => chunk.metadata.sourceId = sourceId).map (·.toKnowledgeChunkRecord) =
        (held sourceId served).filter fun record => record.indexVersion = some (pipeline.versionOf sourceId documents) := by
  obtain ⟨_,prepared,done,rfl⟩ := ingestInMemory_ok pipeline sourceId ingested
  obtain ⟨version,_⟩ := pipeline.prepare_amounts done
  refine ⟨?_,?_⟩
  · rw [← stored_chunks pipeline sourceId done]
    have own := pipeline.prepare_own done
    have mine : (prepared.chunks.map fun chunk => { chunk with indexVersion := some prepared.version }).filter
        (fun chunk => chunk.metadata.sourceId = sourceId) =
        prepared.chunks.map fun chunk => { chunk with indexVersion := some prepared.version } := by
      refine List.filter_eq_self.mpr fun chunk new => ?_
      obtain ⟨plain,inside,rfl⟩ := List.mem_map.mp new
      simpa using own plain inside
    simp only [held,InMemoryVectorStore.addChunks,InMemoryVectorStore.activateVersion,List.filter_append,List.map_append,mine,
      List.map_map]
    rfl
  · simp only [held,InMemoryVectorStore.searchable,List.filter_map,List.filter_filter]
    congr 1
    refine List.filter_congr fun chunk _ => ?_
    by_cases here : chunk.metadata.sourceId = sourceId
    · simp [here,InMemoryVectorStore.activateVersion,version,eq_comm]
    · simp [here]

/-- After a snapshot exactly its chunks are searchable, just when no earlier snapshot of
    the same version brought chunks. -/
theorem shown_inMemory {store served : InMemoryVectorStore} {documents : List SourceDocument} {report : IngestionReport}
    {before : List (List SourceDocument)} (history : held sourceId store = before.flatMap (stored pipeline sourceId))
    (ingested : pipeline.ingestInMemory sourceId (.ok documents) store = (served,.ok report)) :
    ((served.searchable.filter fun chunk => chunk.metadata.sourceId = sourceId).map (·.toKnowledgeChunkRecord)).Perm
        (stored pipeline sourceId documents) ↔
      ∀ earlier ∈ before, pipeline.versionOf sourceId earlier = pipeline.versionOf sourceId documents →
        pipeline.records earlier = [] := by
  obtain ⟨added,shown⟩ := ingested_inMemory pipeline sourceId ingested
  have new : (stored pipeline sourceId documents).filter (fun record =>
      record.indexVersion = some (pipeline.versionOf sourceId documents)) = stored pipeline sourceId documents := by
    refine List.filter_eq_self.mpr fun record member => ?_
    obtain ⟨plain,_,rfl⟩ := List.mem_map.mp member
    simp
  rw [shown,added,history,List.filter_append,new]
  constructor
  · intro same earlier member version
    have none : (before.flatMap (stored pipeline sourceId)).filter (fun record =>
        record.indexVersion = some (pipeline.versionOf sourceId documents)) = [] := by
      have lengths := same.length_eq
      rw [List.length_append] at lengths
      exact List.eq_nil_of_length_eq_zero (by omega)
    rw [List.filter_eq_nil_iff] at none
    refine List.eq_nil_iff_forall_not_mem.mpr fun record cut => ?_
    exact none _ (List.mem_flatMap.mpr ⟨earlier,member,List.mem_map_of_mem cut⟩) (by simp [version])
  · intro fresh
    have none : (before.flatMap (stored pipeline sourceId)).filter (fun record =>
        record.indexVersion = some (pipeline.versionOf sourceId documents)) = [] := by
      refine List.filter_eq_nil_iff.mpr fun record member => ?_
      obtain ⟨earlier,listed,inside⟩ := List.mem_flatMap.mp member
      obtain ⟨plain,cut,rfl⟩ := List.mem_map.mp inside
      intro same
      rw [fresh earlier listed (by simpa using same)] at cut
      cases cut
    rw [none,List.nil_append]

theorem servesInMemory_from {store : InMemoryVectorStore} {before : List (List SourceDocument)}
    (history : held sourceId store = before.flatMap (stored pipeline sourceId)) (snapshots : List (List SourceDocument)) :
    ServesInMemory pipeline sourceId store snapshots ↔
      (∀ documents ∈ snapshots, pipeline.Ingestible sourceId documents) ∧
      (∀ documents ∈ snapshots, ∀ earlier ∈ before,
        pipeline.versionOf sourceId earlier = pipeline.versionOf sourceId documents → pipeline.records earlier = []) ∧
      snapshots.Pairwise fun earlier later =>
        pipeline.versionOf sourceId earlier = pipeline.versionOf sourceId later → pipeline.records earlier = [] := by
  induction snapshots generalizing store before with
  | nil => simp [ServesInMemory]
  | cons documents rest ih =>
    have later : ∀ {served report}, pipeline.ingestInMemory sourceId (.ok documents) store = (served,.ok report) →
        held sourceId served = (before ++ [documents]).flatMap (stored pipeline sourceId) := by
      intro served report ingested
      rw [(ingested_inMemory pipeline sourceId ingested).1,history,List.flatMap_append,List.flatMap_singleton]
    simp only [List.forall_mem_cons,List.pairwise_cons]
    constructor
    · rintro ⟨served,report,ingested,shown,onward⟩
      obtain ⟨ingestible,crossed,apart⟩ := (ih (later ingested)).mp onward
      simp only [List.forall_mem_append,List.forall_mem_singleton] at crossed
      exact ⟨⟨(ingestInMemory_ok pipeline sourceId ingested).1,ingestible⟩,
        ⟨(shown_inMemory pipeline sourceId history ingested).mp shown,fun next member => (crossed next member).1⟩,
        fun next member => (crossed next member).2,apart⟩
    · rintro ⟨⟨ingestible,others⟩,⟨fresh,crossed⟩,first,apart⟩
      obtain ⟨served,report,ingested⟩ := ingestInMemory_returns pipeline sourceId store ingestible
      refine ⟨served,report,ingested,(shown_inMemory pipeline sourceId history ingested).mpr fresh,
        (ih (later ingested)).mpr ⟨others,?_,apart⟩⟩
      simp only [List.forall_mem_append,List.forall_mem_singleton]
      exact fun next member => ⟨crossed next member,first next member⟩

/-! ### PostgreSQL -/

theorem ingestPg_ok {store served : PgVectorStore} {now : Int} {documents : List SourceDocument} {report : IngestionReport}
    (ingested : pipeline.ingestPg now sourceId (.ok documents) store = (served,.ok report)) :
    pipeline.Ingestible sourceId documents ∧ ∃ prepared registered built, pipeline.prepare sourceId documents = .ok prepared ∧
      store.recordVersion (pipeline.versionRow sourceId prepared) = .ok registered ∧
      registered.addChunks now prepared.chunks prepared.version = .ok built ∧
      served = built.activateVersion now sourceId prepared.version := by
  unfold IngestionPipeline.ingestPg at ingested
  by_cases registered : sourceId ∈ pipeline.registry
  · rw [if_neg (not_not.mpr registered)] at ingested
    cases done : pipeline.prepare sourceId documents with
    | error e => simp [done] at ingested
    | ok prepared =>
      cases recorded : store.recordVersion (pipeline.versionRow sourceId prepared) with
      | error e => simp [done,recorded] at ingested
      | ok next =>
        cases added : next.addChunks now prepared.chunks prepared.version with
        | error e => simp [done,recorded,added] at ingested
        | ok built =>
          simp only [done,recorded,added] at ingested
          cases ingested
          exact ⟨pipeline.prepare_returns.mp ⟨registered,prepared,done⟩,prepared,next,built,rfl,recorded,added,rfl⟩
  · rw [if_pos registered] at ingested
    simp at ingested

/-- What the tables hold of the source, and of others, after some snapshots. -/
structure History (before : List (List SourceDocument)) (store : PgVectorStore) : Prop where
  registered : ∀ version, (∃ row ∈ store.versions, row.key = (sourceId,version)) ↔ version ∈ before.map (pipeline.versionOf sourceId)
  rows : ∀ row ∈ store.chunks, row.metadata.sourceId = sourceId →
    ∃ version ∈ before.map (pipeline.versionOf sourceId), row.indexVersion = some version
  foreign : ∀ row ∈ store.chunks, row.metadata.sourceId ≠ sourceId → ∀ digest : Text, digest.length ≤ 16 →
    row.indexVersion ≠ some (sourceId ++ lit "-" ++ digest)
  visible : ∀ row ∈ store.searchable, row.metadata.sourceId = sourceId →
    ∃ version, row.indexVersion = some version ∧ LiveRow store sourceId version

variable {pipeline sourceId}

omit [Interpreter] in
/-- No row is stored under a version the source has not had. -/
theorem History.unused {before : List (List SourceDocument)} {store : PgVectorStore} (history : History pipeline sourceId before store)
    {documents : List SourceDocument} (fresh : pipeline.versionOf sourceId documents ∉ before.map (pipeline.versionOf sourceId)) :
    ∀ row ∈ store.chunks, row.indexVersion ≠ some (pipeline.versionOf sourceId documents) := by
  intro row there named
  by_cases own : row.metadata.sourceId = sourceId
  · obtain ⟨version,known,titled⟩ := history.rows row there own
    exact fresh (Option.some.inj (titled.symm.trans named) ▸ known)
  · exact history.foreign row there own _ (List.length_take_le ..) named

theorem History.ingests {before : List (List SourceDocument)} {store : PgVectorStore} (history : History pipeline sourceId before store)
    (now : Int) (documents : List SourceDocument) :
    (∃ served report, pipeline.ingestPg now sourceId (.ok documents) store = (served,.ok report)) ↔
      pipeline.Ingestible sourceId documents ∧ ((pipeline.records documents).map (·.chunkId)).Nodup ∧
        pipeline.versionOf sourceId documents ∉ before.map (pipeline.versionOf sourceId) := by
  constructor
  · rintro ⟨served,report,ingested⟩
    obtain ⟨ingestible,prepared,registered,built,done,recorded,added,_⟩ := ingestPg_ok pipeline sourceId ingested
    obtain ⟨version,records⟩ := pipeline.prepare_amounts done
    obtain ⟨chunks,_,unseen⟩ := recordVersion_ok recorded
    have fresh : pipeline.versionOf sourceId documents ∉ before.map (pipeline.versionOf sourceId) := by
      intro known
      obtain ⟨row,there,named⟩ := (history.registered _).mpr known
      exact unseen row there (by rw [named,← version]; rfl)
    have unused := history.unused fresh
    rw [← chunks,← version] at unused
    refine ⟨ingestible,?_,fresh⟩
    have distinct := (addChunks_returns registered now prepared.chunks unused).mp ⟨built,added⟩
    rw [← records,List.map_map]
    exact distinct
  · rintro ⟨ingestible,distinct,fresh⟩
    obtain ⟨registered,prepared,done⟩ := pipeline.prepare_returns.mpr ingestible
    obtain ⟨version,records⟩ := pipeline.prepare_amounts done
    obtain ⟨next,recorded⟩ := (recordVersion_returns store (pipeline.versionRow sourceId prepared)).mpr (by
      intro known there same
      refine fresh ((history.registered _).mp ⟨known,there,?_⟩)
      rw [same,← version]
      rfl)
    obtain ⟨chunks,_,_⟩ := recordVersion_ok recorded
    have unused := history.unused fresh
    rw [← chunks,← version] at unused
    rw [← records,List.map_map] at distinct
    obtain ⟨built,added⟩ := (addChunks_returns next now prepared.chunks unused).mpr distinct
    unfold IngestionPipeline.ingestPg
    rw [if_neg (not_not.mpr registered)]
    simp only [done,recorded,added]
    exact ⟨_,_,rfl⟩

/-- The searchable rows of the source after an ingestion are the new ones. -/
theorem History.shows {before : List (List SourceDocument)} {store served : PgVectorStore} {now : Int} {documents : List SourceDocument}
    {report : IngestionReport} (history : History pipeline sourceId before store)
    (ingested : pipeline.ingestPg now sourceId (.ok documents) store = (served,.ok report)) :
    (served.searchable.filter fun row => row.metadata.sourceId = sourceId).map (·.toKnowledgeChunkRecord) =
      stored pipeline sourceId documents := by
  obtain ⟨_,_,fresh⟩ := (history.ingests now documents).mp ⟨served,report,ingested⟩
  obtain ⟨_,prepared,registered,built,done,recorded,added,rfl⟩ := ingestPg_ok pipeline sourceId ingested
  obtain ⟨version,_⟩ := pipeline.prepare_amounts done
  obtain ⟨chunks,_,_⟩ := recordVersion_ok recorded
  obtain ⟨rows,versions⟩ := addChunks_ok added
  rw [chunks] at rows
  have live : ∀ source title, LiveRow built source title ↔ LiveRow store source title := by
    intro source title
    rw [← liveRow_record recorded rfl]
    simp [LiveRow,versions]
  have known : ∀ title, LiveRow built sourceId title → title ∈ before.map (pipeline.versionOf sourceId) := by
    intro title running
    obtain ⟨row,there,named,_⟩ := (live sourceId title).mp running
    exact (history.registered title).mp ⟨row,there,named⟩
  have own := pipeline.prepare_own done
  -- Rows from before are of another version, and those still searchable of the live one, which the flip retires.
  have old : ((store.chunks.map (PgVectorStore.retire now sourceId (built.superseded sourceId prepared.version))).filter
      fun row => row.retiredAt = none).filter (fun row => row.metadata.sourceId = sourceId) = [] := by
    refine List.filter_eq_nil_iff.mpr fun row kept mine => ?_
    obtain ⟨listed,unretired⟩ : row ∈ store.chunks.map _ ∧ row.retiredAt = none := by simpa using kept
    have mine : row.metadata.sourceId = sourceId := by simpa using mine
    obtain ⟨first,there,rfl⟩ := List.mem_map.mp listed
    obtain ⟨same,_⟩ := retire_none unretired
    have seen : first ∈ store.searchable := mem_searchable.mpr ⟨there,same ▸ unretired⟩
    obtain ⟨title,named,running⟩ := history.visible first seen (same ▸ mine)
    have after : PgVectorStore.retire now sourceId (built.superseded sourceId prepared.version) first ∈
        (built.activateVersion now sourceId prepared.version).searchable := by
      refine mem_searchable.mpr ⟨List.mem_map_of_mem ?_,unretired⟩
      rw [rows]
      exact List.mem_append_left _ there
    have current := (searchable_activate after).2 title mine (by rw [same]; exact named) ((live sourceId title).mpr running)
    rw [current,version] at running
    exact fresh (known _ ((live _ _).mpr running))
  have new : ((prepared.chunks.map (PgVectorStore.toRow now prepared.version)).map
      (PgVectorStore.retire now sourceId (built.superseded sourceId prepared.version))) =
      prepared.chunks.map (PgVectorStore.toRow now prepared.version) := by
    rw [List.map_map]
    refine List.map_congr_left fun chunk _ => if_neg ?_
    rintro ⟨_,⟨title,superseded,named⟩,_⟩
    obtain ⟨running,_⟩ := mem_superseded.mp superseded
    have same : prepared.version = title := Option.some.inj named
    rw [← same,version] at running
    exact fresh (known _ running)
  have mine : ((prepared.chunks.map (PgVectorStore.toRow now prepared.version)).filter fun row => row.retiredAt = none).filter
      (fun row => row.metadata.sourceId = sourceId) = prepared.chunks.map (PgVectorStore.toRow now prepared.version) := by
    rw [List.filter_filter]
    refine List.filter_eq_self.mpr fun row listed => ?_
    obtain ⟨chunk,inside,rfl⟩ := List.mem_map.mp listed
    simp [PgVectorStore.toRow,own chunk inside]
  have after : (built.activateVersion now sourceId prepared.version).chunks = (store.chunks ++ prepared.chunks.map
      (PgVectorStore.toRow now prepared.version)).map (PgVectorStore.retire now sourceId (built.superseded sourceId prepared.version)) := by
    rw [← rows]
    rfl
  rw [PgVectorStore.searchable,after,List.map_append,List.filter_append,List.filter_append,old,new,mine,List.nil_append,List.map_map,
    ← stored_chunks pipeline sourceId done]
  rfl

theorem History.step {before : List (List SourceDocument)} {store served : PgVectorStore} {now : Int} {documents : List SourceDocument}
    {report : IngestionReport} (history : History pipeline sourceId before store)
    (ingested : pipeline.ingestPg now sourceId (.ok documents) store = (served,.ok report)) :
    History pipeline sourceId (before ++ [documents]) served := by
  have shown := history.shows ingested
  obtain ⟨_,prepared,registered,built,done,recorded,added,rfl⟩ := ingestPg_ok pipeline sourceId ingested
  obtain ⟨version,_⟩ := pipeline.prepare_amounts done
  obtain ⟨chunks,listed,_⟩ := recordVersion_ok recorded
  obtain ⟨rows,versions⟩ := addChunks_ok added
  rw [chunks] at rows
  rw [listed] at versions
  have own := pipeline.prepare_own done
  have current : ∃ row ∈ built.versions, row.key = (sourceId,prepared.version) :=
    ⟨pipeline.versionRow sourceId prepared,by rw [versions]; simp,rfl⟩
  refine ⟨?_,?_,?_,?_⟩
  · intro title
    rw [List.map_append,List.mem_append,← history.registered title,List.map_singleton,List.mem_singleton,← version]
    constructor
    · rintro ⟨row,there,named⟩
      obtain ⟨first,known,rfl⟩ := List.mem_map.mp there
      rw [PgVectorStore.key_flip] at named
      rw [versions,List.mem_append,List.mem_singleton] at known
      rcases known with known | rfl
      · exact .inl ⟨first,known,named⟩
      · exact .inr (congrArg Prod.snd named).symm
    · have found : ∀ row ∈ built.versions, ∃ flipped ∈ (built.activateVersion now sourceId prepared.version).versions,
          flipped.key = row.key := fun row there => ⟨_,List.mem_map_of_mem there,PgVectorStore.key_flip ..⟩
      rintro (⟨row,known,named⟩ | rfl)
      · obtain ⟨flipped,there,same⟩ := found row (by rw [versions]; exact List.mem_append_left _ known)
        exact ⟨flipped,there,same.trans named⟩
      · obtain ⟨row,known,named⟩ := current
        obtain ⟨flipped,there,same⟩ := found row known
        exact ⟨flipped,there,same.trans named⟩
  · intro row there mine
    obtain ⟨first,known,rfl⟩ := List.mem_map.mp there
    rw [PgVectorStore.indexVersion_retire]
    rw [PgVectorStore.metadata_retire] at mine
    rw [rows,List.mem_append] at known
    rcases known with known | new
    · obtain ⟨title,before,named⟩ := history.rows first known mine
      exact ⟨title,by rw [List.map_append]; exact List.mem_append_left _ before,named⟩
    · obtain ⟨chunk,_,rfl⟩ := List.mem_map.mp new
      exact ⟨prepared.version,by simp [version],rfl⟩
  · intro row there foreign
    obtain ⟨first,known,rfl⟩ := List.mem_map.mp there
    rw [PgVectorStore.indexVersion_retire]
    rw [PgVectorStore.metadata_retire] at foreign
    rw [rows,List.mem_append] at known
    rcases known with known | new
    · exact history.foreign first known foreign
    · obtain ⟨chunk,inside,rfl⟩ := List.mem_map.mp new
      exact absurd (own chunk inside) foreign
  · intro row seen mine
    have inside : row.toKnowledgeChunkRecord ∈ stored pipeline sourceId documents := by
      rw [← shown]
      exact List.mem_map_of_mem (List.mem_filter.mpr ⟨seen,by simpa using mine⟩)
    obtain ⟨plain,_,same⟩ := List.mem_map.mp inside
    refine ⟨prepared.version,?_,(liveRow_activate ..).mpr (.inl ⟨rfl,rfl,current⟩)⟩
    rw [← same,version]

theorem servesPg_from {before : List (List SourceDocument)} {store : PgVectorStore} (history : History pipeline sourceId before store)
    (snapshots : List (Int × List SourceDocument)) :
    ServesPg pipeline sourceId store snapshots ↔
      (∀ snapshot ∈ snapshots, pipeline.Ingestible sourceId snapshot.2 ∧ ((pipeline.records snapshot.2).map (·.chunkId)).Nodup) ∧
      (∀ snapshot ∈ snapshots, pipeline.versionOf sourceId snapshot.2 ∉ before.map (pipeline.versionOf sourceId)) ∧
      (snapshots.map fun snapshot => pipeline.versionOf sourceId snapshot.2).Nodup := by
  induction snapshots generalizing store before with
  | nil => simp [ServesPg]
  | cons snapshot rest ih =>
    obtain ⟨now,documents⟩ := snapshot
    simp only [List.forall_mem_cons,List.map_cons,List.nodup_cons]
    constructor
    · rintro ⟨served,report,ingested,_,onward⟩
      obtain ⟨ingestible,distinct,fresh⟩ := (history.ingests now documents).mp ⟨served,report,ingested⟩
      obtain ⟨others,unused,apart⟩ := (ih (history.step ingested)).mp onward
      simp only [List.map_append,List.mem_append,not_or,List.map_singleton,List.mem_singleton] at unused
      refine ⟨⟨⟨ingestible,distinct⟩,others⟩,⟨fresh,fun next member => (unused next member).1⟩,?_,apart⟩
      intro repeated
      obtain ⟨next,member,same⟩ := List.mem_map.mp repeated
      exact (unused next member).2 same
    · rintro ⟨⟨⟨ingestible,distinct⟩,others⟩,⟨fresh,unused⟩,first,apart⟩
      obtain ⟨served,report,ingested⟩ := (history.ingests now documents).mpr ⟨ingestible,distinct,fresh⟩
      refine ⟨served,report,ingested,by rw [history.shows ingested],(ih (history.step ingested)).mpr ⟨others,?_,apart⟩⟩
      simp only [List.map_append,List.mem_append,not_or,List.map_singleton,List.mem_singleton]
      exact fun next member => ⟨unused next member,fun same => first (List.mem_map.mpr ⟨next,member,same⟩)⟩

/-! ### Both stores -/

/-- No row is of the source, nor stored under a version named after it. -/
structure Untouched (sourceId : Text) (store : PgVectorStore) : Prop where
  versions : ∀ row ∈ store.versions, row.sourceId ≠ sourceId
  chunks : ∀ row ∈ store.chunks, row.metadata.sourceId ≠ sourceId ∧
    ∀ digest : Text, digest.length ≤ 16 → row.indexVersion ≠ some (sourceId ++ lit "-" ++ digest)

omit [Interpreter] in
theorem Untouched.history {store : PgVectorStore} (untouched : Untouched sourceId store) : History pipeline sourceId [] store where
  registered := by
    intro version
    simp only [List.map_nil,List.not_mem_nil,iff_false]
    rintro ⟨row,there,named⟩
    exact untouched.versions row there (congrArg Prod.fst named)
  rows := fun row there mine => absurd mine (untouched.chunks row there).1
  foreign := fun row there _ => (untouched.chunks row there).2
  visible := fun row seen mine => absurd mine (untouched.chunks row (mem_searchable.mp seen).1).1

variable (pipeline sourceId)

/-- In memory the snapshots are served exactly when each can be ingested and none with
    chunks comes before another of its version; in PostgreSQL, exactly when each can be
    ingested under chunk ids that differ, and no version comes twice. -/
theorem serves_iff_versions_differ :
    (∀ store : InMemoryVectorStore, (∀ chunk ∈ store.chunks, chunk.metadata.sourceId ≠ sourceId) → ∀ snapshots,
      (ServesInMemory pipeline sourceId store snapshots ↔
        (∀ documents ∈ snapshots, pipeline.Ingestible sourceId documents) ∧ snapshots.Pairwise fun earlier later =>
          pipeline.versionOf sourceId earlier = pipeline.versionOf sourceId later → pipeline.records earlier = [])) ∧
    ∀ store : PgVectorStore, Untouched sourceId store → ∀ snapshots,
      (ServesPg pipeline sourceId store snapshots ↔
        (∀ snapshot ∈ snapshots, pipeline.Ingestible sourceId snapshot.2 ∧ ((pipeline.records snapshot.2).map (·.chunkId)).Nodup) ∧
          (snapshots.map fun snapshot => pipeline.versionOf sourceId snapshot.2).Nodup) := by
  refine ⟨?_,?_⟩
  · intro store untouched snapshots
    have history : held sourceId store = ([] : List (List SourceDocument)).flatMap (stored pipeline sourceId) := by
      simpa [held] using untouched
    rw [servesInMemory_from pipeline sourceId history]
    simp
  · intro store untouched snapshots
    rw [servesPg_from untouched.history]
    simp

end

def samplePipeline : IngestionPipeline where
  registry := [lit "nvd"]
  model := lit "m"
  dimensions := 1
  embed _ := .ok [1]
  passages document := [(document.content,none)]
  sha256 text :=
    if text = lit "2.14.1" then lit "bcdad1b1ef191cb7458a3ac58f151eb71ea2f2dc3ff5f6b492f75ddfe91b1835"
    else if text = lit "m2.14.1" then lit "9a88f11b65e43dff3079d9707bb3864f67a2d3aa14238dae5efd9a167504ecb1"
    else if text = lit "2.17.1" then lit "b12e7d9b7a860f098264e38f72b906493886046c4f0e9b778b12ea5221a817a9"
    else lit "c448fd6ea7ae8a7fa2706806dd62ee9dd0b0c348664d61248d8f26207535d702"

def sampleDocument (content : Text) : SourceDocument where
  documentId := lit "CVE-2021-44228"
  title := lit "Log4Shell"
  content := content
  metadata := { sourceKind := .NVD, sourceId := lit "nvd", sourceName := lit "NVD CVE Feed", trustTier := .AUTHORITATIVE }

theorem sample_ingestible {content : Text} (plain : Encodable content) (clean : Encodable (cleanText content)) :
    samplePipeline.Ingestible (lit "nvd") [sampleDocument content] where
  registered := by decide
  own := by simpa [sampleDocument] using clean
  encodable := by
    have model : Encodable samplePipeline.model := by decide
    simpa [IngestionPipeline.unique,IngestionPipeline.uniqueFrom,sampleDocument,model] using plain
  embeddable := fun _ _ => ⟨[1],rfl⟩

theorem untouched_empty (sourceId : Text) : Untouched sourceId .empty := ⟨fun _ there => absurd there List.not_mem_nil,
  fun _ there => absurd there List.not_mem_nil⟩

theorem sample_records (content : Text) : (samplePipeline.records [sampleDocument content]).map (·.content) = [content] := by
  simp [IngestionPipeline.records,IngestionPipeline.unique,IngestionPipeline.uniqueFrom,IngestionPipeline.chunk,samplePipeline,
    sampleDocument]

/-- Two snapshots that differ are served one after the other. -/
theorem changed_snapshot_served :
    @ServesInMemory ascii samplePipeline (lit "nvd") .empty [[sampleDocument (lit "2.14.1")],[sampleDocument (lit "2.17.1")]] ∧
    @ServesPg ascii samplePipeline (lit "nvd") .empty [(0,[sampleDocument (lit "2.14.1")]),(1,[sampleDocument (lit "2.17.1")])] := by
  have first : samplePipeline.Ingestible (lit "nvd") [sampleDocument (lit "2.14.1")] := sample_ingestible (by decide) (by decide)
  have second : samplePipeline.Ingestible (lit "nvd") [sampleDocument (lit "2.17.1")] := sample_ingestible (by decide) (by decide)
  have differ : samplePipeline.versionOf (lit "nvd") [sampleDocument (lit "2.14.1")] ≠
      samplePipeline.versionOf (lit "nvd") [sampleDocument (lit "2.17.1")] := by decide
  have served := @serves_iff_versions_differ ascii samplePipeline (lit "nvd")
  refine ⟨(served.1 .empty (fun _ there => absurd there List.not_mem_nil) _).mpr ⟨?_,?_⟩,
    (served.2 .empty (untouched_empty _) _).mpr ⟨?_,?_⟩⟩
  · simp [first,second]
  · simp [differ]
  · simp only [List.forall_mem_cons,List.not_mem_nil,false_implies,implies_true,and_true]
    exact ⟨⟨first,by decide⟩,second,by decide⟩
  · simp [differ]

/-- The same snapshot twice is refused by PostgreSQL, and shown twice in memory. -/
theorem repeated_snapshot_not_served :
    ¬ @ServesInMemory ascii samplePipeline (lit "nvd") .empty [[sampleDocument (lit "2.14.1")],[sampleDocument (lit "2.14.1")]] ∧
    ¬ @ServesPg ascii samplePipeline (lit "nvd") .empty [(0,[sampleDocument (lit "2.14.1")]),(1,[sampleDocument (lit "2.14.1")])] := by
  refine ⟨?_,?_⟩
  · intro served
    obtain ⟨_,_,apart⟩ := (@servesInMemory_from ascii samplePipeline (lit "nvd") .empty [] rfl _).mp served
    have none := (List.pairwise_cons.mp apart).1 _ List.mem_cons_self rfl
    have one := sample_records (lit "2.14.1")
    rw [none] at one
    cases one
  · intro served
    obtain ⟨_,_,apart⟩ := (@servesPg_from ascii samplePipeline (lit "nvd") [] .empty (untouched_empty _).history _).mp served
    simp at apart

end SocAnalyst.Snapshots
