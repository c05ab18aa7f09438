import SocAnalyst.Snapshots

/-!
# Citations

`rag/citations.py`: a citation bound to a retrieved chunk, and the chunk it resolves to
after later ingestions.
-/
namespace SocAnalyst.Citations
open SocAnalyst.Builtins SocAnalyst.Times SocAnalyst.Dicts SocAnalyst.Assessments SocAnalyst.Knowledge SocAnalyst.VectorStores
open SocAnalyst.Ingestion SocAnalyst.IndexSwaps SocAnalyst.Snapshots SocAnalyst.Runs

/-- Build the citation for a single chunk. -/
def bindCitation (chunk : KnowledgeChunkRecord) : Citation where
  sourceId := chunk.metadata.sourceId
  source := chunk.metadata.sourceName
  url := chunk.metadata.url
  chunkId := some chunk.chunkId
  title := chunk.title
  trustTier := some chunk.metadata.trustTier
  publishedAt := chunk.metadata.publishedAt

/-- What two citations are told apart by. -/
def citationKey (citation : Citation) : Text :=
  match citation.chunkId with
  | some chunkId => if chunkId = [] then citation.sourceId else chunkId
  | none => citation.sourceId

/-- The loop of `bind_citations`, with the keys already seen. -/
def bindCitationsFrom (seen : List Text) : List RetrievedChunk → List Citation
  | [] => []
  | item :: rest =>
    let citation := bindCitation item.chunk
    if citationKey citation ∈ seen then bindCitationsFrom seen rest
    else citation :: bindCitationsFrom (citationKey citation :: seen) rest

/-- Build citations for retrieved chunks, preserving rank order and deduping. -/
def bindCitations (chunks : List RetrievedChunk) : List Citation := bindCitationsFrom [] chunks

/-- `CitationResolver.resolve` over the in-process store. -/
def resolveInMemory (store : InMemoryVectorStore) (citation : Citation) : Option KnowledgeChunkRecord :=
  match citation.chunkId with
  | none => none
  | some chunkId => if chunkId = [] then none else store.getChunk chunkId

/-- What `CitationResolver.resolve` over PostgreSQL may answer. -/
def ResolvesPg (store : PgVectorStore) (citation : Citation) (answer : Option KnowledgeChunkRecord) : Prop :=
  match citation.chunkId with
  | none => answer = none
  | some chunkId => if chunkId = [] then answer = none else store.ChunkAnswer chunkId answer

/-! ### Successful ingestions -/

/-- A source is ingested at a time, from the documents fetched for it. -/
structure Ingestion where
  now : Int
  sourceId : Text
  documents : List SourceDocument

section
variable [Interpreter] (pipeline : IngestionPipeline)

def IngestsInMemory (store : InMemoryVectorStore) (ingestion : Ingestion) (next : InMemoryVectorStore) : Prop :=
  ∃ report, pipeline.ingestInMemory ingestion.sourceId (.ok ingestion.documents) store = (next,.ok report)

def IngestsPg (store : PgVectorStore) (ingestion : Ingestion) (next : PgVectorStore) : Prop :=
  ∃ report, pipeline.ingestPg ingestion.now ingestion.sourceId (.ok ingestion.documents) store = (next,.ok report)

omit [Interpreter] in
theorem chunkId_ne_nil {documents : List SourceDocument} {record : KnowledgeChunkRecord} (cut : record ∈ pipeline.records documents) :
    record.chunkId ≠ [] := by
  obtain ⟨document,_,inside⟩ := List.mem_flatMap.mp cut
  obtain ⟨ordinal,_,rfl⟩ := List.mem_mapIdx.mp inside
  simp [lit]

/-- What an ingestion stores. -/
def brought (ingestion : Ingestion) : List KnowledgeChunkRecord := stored pipeline ingestion.sourceId ingestion.documents

theorem inMemory_history {before : List Ingestion} {store next : InMemoryVectorStore} (run : Run (IngestsInMemory pipeline) store before next) :
    next.chunks.map (·.toKnowledgeChunkRecord) = store.chunks.map (·.toKnowledgeChunkRecord) ++ before.flatMap (brought pipeline) := by
  induction run with
  | stop => simp
  | @go store middle last ingestion rest step _ ih =>
    obtain ⟨report,ingested⟩ := step
    obtain ⟨_,prepared,done,rfl⟩ := ingestInMemory_ok pipeline ingestion.sourceId ingested
    rw [ih,List.flatMap_cons,← List.append_assoc,brought,← stored_chunks pipeline ingestion.sourceId done]
    simp [InMemoryVectorStore.addChunks,InMemoryVectorStore.activateVersion,Function.comp_def]

/-- The rows ever stored, each with the time it was: a flip leaves both as they are. -/
def rowsOf (store : PgVectorStore) : List (KnowledgeChunkRecord × Int) :=
  store.chunks.map fun row => (row.toKnowledgeChunkRecord,row.createdAt)

omit [Interpreter] in
theorem rowsOf_activate (store : PgVectorStore) (now : Int) (sourceId version : Text) :
    rowsOf (store.activateVersion now sourceId version) = rowsOf store := by
  simp only [rowsOf,PgVectorStore.activateVersion,List.map_map]
  refine List.map_congr_left fun row _ => ?_
  simp only [Function.comp_apply,PgVectorStore.retire]
  split_ifs <;> rfl

theorem pg_history {before : List Ingestion} {store next : PgVectorStore} (run : Run (IngestsPg pipeline) store before next) :
    rowsOf next = rowsOf store ++ before.flatMap fun ingestion => (brought pipeline ingestion).map (·,ingestion.now) := by
  induction run with
  | stop => simp
  | @go store middle last ingestion rest step _ ih =>
    obtain ⟨report,ingested⟩ := step
    obtain ⟨_,prepared,registered,built,done,recorded,added,rfl⟩ := ingestPg_ok pipeline ingestion.sourceId ingested
    obtain ⟨chunks,_,_⟩ := recordVersion_ok recorded
    obtain ⟨rows,_⟩ := addChunks_ok added
    rw [ih,List.flatMap_cons,← List.append_assoc,rowsOf_activate,brought,← stored_chunks pipeline ingestion.sourceId done]
    simp [rowsOf,rows,chunks,PgVectorStore.toRow,Function.comp_def]

/-! ### Which passage an id names -/

/-- The chunks the snapshots of some ingestions put under an id, in order. -/
def under (history : List Ingestion) (chunkId : Text) : List KnowledgeChunkRecord :=
  (history.flatMap fun ingestion => pipeline.records ingestion.documents).filter fun record => record.chunkId = chunkId

/-- The first chunk ever ingested under the id has the content. -/
def FirstUnder (history : List Ingestion) (chunkId content : Text) : Prop :=
  (under pipeline history chunkId).head?.map (·.content) = some content

/-- Every chunk that a latest of the ingestions to bring the id puts under it has the content. -/
def LatestUnder (history : List Ingestion) (chunkId content : Text) : Prop :=
  ∀ ingestion ∈ history, (∀ other ∈ history, under pipeline [other] chunkId ≠ [] → other.now ≤ ingestion.now) →
    ∀ record ∈ under pipeline [ingestion] chunkId, record.content = content

omit [Interpreter] in
theorem mem_under {history : List Ingestion} {chunkId : Text} {record : KnowledgeChunkRecord} :
    record ∈ under pipeline history chunkId ↔
      (∃ ingestion ∈ history, record ∈ pipeline.records ingestion.documents) ∧ record.chunkId = chunkId := by
  simp [under]

omit [Interpreter] in
/-- Under their version the chunks have the same ids and contents. -/
theorem under_brought (history : List Ingestion) (chunkId : Text) :
    ((history.flatMap (brought pipeline)).filter fun record => record.chunkId = chunkId).map (·.content) =
      (under pipeline history chunkId).map (·.content) := by
  unfold under
  induction history with
  | nil => rfl
  | cons ingestion rest ih =>
    simp only [List.flatMap_cons,List.filter_append,List.map_append,ih,brought,stored,List.filter_map,List.map_map]
    rfl

omit [Interpreter] in
theorem getChunk_head (store : InMemoryVectorStore) (chunkId : Text) :
    store.getChunk chunkId = ((store.chunks.map (·.toKnowledgeChunkRecord)).filter fun record => record.chunkId = chunkId).head? := by
  rw [List.head?_filter,List.find?_map]
  rfl

theorem resolveInMemory_iff {before after : List Ingestion} {store later : InMemoryVectorStore}
    (past : Run (IngestsInMemory pipeline) .empty before store) (since : Run (IngestsInMemory pipeline) store after later)
    {chunk : EmbeddedChunk} (retrieved : chunk ∈ store.searchable) :
    (resolveInMemory later (bindCitation chunk.toKnowledgeChunkRecord)).map (·.content) = some chunk.content ↔
      FirstUnder pipeline before chunk.chunkId chunk.content := by
  have held := inMemory_history pipeline past
  have kept := inMemory_history pipeline (past.append since)
  have listed : chunk.toKnowledgeChunkRecord ∈ before.flatMap (brought pipeline) := by
    have there : chunk.toKnowledgeChunkRecord ∈ store.chunks.map (·.toKnowledgeChunkRecord) :=
      List.mem_map_of_mem (List.mem_filter.mp retrieved).1
    rw [held] at there
    simpa [InMemoryVectorStore.empty] using there
  have named : chunk.chunkId ≠ [] := by
    obtain ⟨ingestion,_,inside⟩ := List.mem_flatMap.mp listed
    obtain ⟨record,cut,same⟩ := List.mem_map.mp inside
    have nonempty := chunkId_ne_nil pipeline cut
    rw [← same]
    exact nonempty
  have some_under : ((before.flatMap (brought pipeline)).filter fun record => record.chunkId = chunk.chunkId) ≠ [] :=
    List.ne_nil_of_mem (List.mem_filter.mpr ⟨listed,by simp⟩)
  simp only [resolveInMemory,bindCitation,named,if_false]
  rw [getChunk_head,kept,InMemoryVectorStore.empty,List.map_nil,List.nil_append,List.flatMap_append,List.filter_append,
    List.head?_append_of_ne_nil _ some_under,← List.head?_map,under_brought,List.head?_map,FirstUnder]

theorem mem_rows {history : List Ingestion} {store : PgVectorStore} (run : Run (IngestsPg pipeline) .empty history store) {chunkId content : Text}
    {time : Int} : (∃ row ∈ store.chunks, row.chunkId = chunkId ∧ row.content = content ∧ row.createdAt = time) ↔
      ∃ ingestion ∈ history, ingestion.now = time ∧ ∃ record ∈ under pipeline [ingestion] chunkId, record.content = content := by
  have rows := pg_history pipeline run
  constructor
  · rintro ⟨row,there,rfl,rfl,rfl⟩
    have listed : (row.toKnowledgeChunkRecord,row.createdAt) ∈ rowsOf store := List.mem_map_of_mem there
    rw [rows] at listed
    obtain ⟨ingestion,member,stamped,time⟩ : ∃ ingestion ∈ history, row.toKnowledgeChunkRecord ∈ brought pipeline ingestion ∧
      ingestion.now = row.createdAt := by simpa [rowsOf,PgVectorStore.empty] using listed
    obtain ⟨record,cut,equal⟩ := List.mem_map.mp stamped
    refine ⟨ingestion,member,time,record,?_,?_⟩
    · rw [mem_under]
      exact ⟨⟨ingestion,List.mem_singleton_self _,cut⟩,congrArg (·.chunkId) equal⟩
    · exact congrArg (·.content) equal
  · rintro ⟨ingestion,member,rfl,record,placed,rfl⟩
    obtain ⟨⟨_,single,cut⟩,named⟩ := (mem_under pipeline).mp placed
    rw [List.mem_singleton.mp single] at cut
    have listed : ({ record with indexVersion := some (pipeline.versionOf ingestion.sourceId ingestion.documents) },ingestion.now) ∈
        rowsOf store := by
      rw [rows]
      exact List.mem_append_right _ (List.mem_flatMap.mpr ⟨ingestion,member,List.mem_map_of_mem (List.mem_map_of_mem cut)⟩)
    obtain ⟨row,there,same⟩ := List.mem_map.mp listed
    obtain ⟨equal,time⟩ := Prod.mk.injEq .. ▸ same
    exact ⟨row,there,(congrArg (·.chunkId) equal).trans named,congrArg (·.content) equal,time⟩

theorem resolvesPg_iff {before after : List Ingestion} {store later : PgVectorStore}
    (past : Run (IngestsPg pipeline) .empty before store) (since : Run (IngestsPg pipeline) store after later)
    {row : KnowledgeChunk} (retrieved : row ∈ store.searchable) :
    (∀ answer, ResolvesPg later (bindCitation row.toKnowledgeChunkRecord) answer → answer.map (·.content) = some row.content) ↔
      LatestUnder pipeline (before ++ after) row.chunkId row.content := by
  have run := past.append since
  obtain ⟨first,listed,_,record,placed,_⟩ := (mem_rows pipeline past).mp ⟨row,(mem_searchable.mp retrieved).1,rfl,rfl,rfl⟩
  have named : row.chunkId ≠ [] := by
    obtain ⟨⟨_,_,cut⟩,same⟩ := (mem_under pipeline).mp placed
    rw [← same]
    exact chunkId_ne_nil pipeline cut
  simp only [ResolvesPg,bindCitation,named,if_false]
  constructor
  · intro resolves ingestion member latest record placed
    obtain ⟨stored,there,titled,holds,time⟩ := (mem_rows pipeline run).mpr ⟨ingestion,member,rfl,record,placed,rfl⟩
    have answered := resolves (some stored.toKnowledgeChunkRecord) ⟨stored,there,titled,rfl,by
      intro other present same
      obtain ⟨origin,also,when_,_,given,_⟩ := (mem_rows pipeline run).mp ⟨other,present,same,rfl,rfl⟩
      rw [time,← when_]
      exact latest origin also (List.ne_nil_of_mem given)⟩
    rw [← holds]
    exact Option.some.inj answered
  · intro latest answer answered
    cases answer with
    | none =>
      obtain ⟨stored,there,titled,_⟩ := (mem_rows pipeline run).mpr ⟨first,List.mem_append_left _ listed,rfl,record,placed,rfl⟩
      exact absurd titled (answered stored there)
    | some found =>
      obtain ⟨stored,there,titled,rfl,newest⟩ := answered
      obtain ⟨ingestion,member,time,record,placed,holds⟩ := (mem_rows pipeline run).mp ⟨stored,there,titled,rfl,rfl⟩
      have same := latest ingestion member (by
        intro other also nonempty
        obtain ⟨given,brings⟩ := List.exists_mem_of_ne_nil _ nonempty
        obtain ⟨present,inside,called,_,moment⟩ := (mem_rows pipeline run).mpr ⟨other,also,rfl,given,brings,rfl⟩
        rw [time,← moment]
        exact newest present inside called) record placed
      rw [Option.map_some,← holds,same]

/-- A citation keeps naming its passage in memory exactly when the first chunk ever
    ingested under its id, up to the retrieval, is that passage; in PostgreSQL, exactly
    when the latest ingestions to bring its id bring that passage. -/
theorem resolves_iff_id_not_reused :
    (∀ before after store later, Run (IngestsInMemory pipeline) .empty before store → Run (IngestsInMemory pipeline) store after later →
      ∀ chunk ∈ store.searchable,
        ((resolveInMemory later (bindCitation chunk.toKnowledgeChunkRecord)).map (·.content) = some chunk.content ↔
          FirstUnder pipeline before chunk.chunkId chunk.content)) ∧
    ∀ before after store later, Run (IngestsPg pipeline) .empty before store → Run (IngestsPg pipeline) store after later →
      ∀ row ∈ store.searchable,
        ((∀ answer, ResolvesPg later (bindCitation row.toKnowledgeChunkRecord) answer → answer.map (·.content) = some row.content) ↔
          LatestUnder pipeline (before ++ after) row.chunkId row.content) :=
  ⟨fun _ _ _ _ past since _ retrieved => resolveInMemory_iff pipeline past since retrieved,
    fun _ _ _ _ past since _ retrieved => resolvesPg_iff pipeline past since retrieved⟩

end

def sampleIngestion (now : Int) (content : Text) : Ingestion := ⟨now,lit "nvd",[sampleDocument content]⟩

theorem sample_under {now : Int} {content : Text} {record : KnowledgeChunkRecord}
    (placed : record ∈ under samplePipeline [sampleIngestion now content] (lit "CVE-2021-44228#0")) : record.content = content := by
  have listed : record.content ∈ (under samplePipeline [sampleIngestion now content] (lit "CVE-2021-44228#0")).map (·.content) :=
    List.mem_map_of_mem placed
  exact List.mem_singleton.mp listed

theorem sample_inMemory : ∃ first second, @IngestsInMemory ascii samplePipeline .empty (sampleIngestion 0 (lit "2.14.1")) first ∧
    @IngestsInMemory ascii samplePipeline first (sampleIngestion 1 (lit "2.17.1")) second ∧
    (∃ chunk ∈ first.searchable, chunk.chunkId = lit "CVE-2021-44228#0" ∧ chunk.content = lit "2.14.1") ∧
    ∃ chunk ∈ second.searchable, chunk.chunkId = lit "CVE-2021-44228#0" ∧ chunk.content = lit "2.17.1" :=
  ⟨_,_,⟨_,rfl⟩,⟨_,rfl⟩,⟨_,List.mem_cons_self,rfl,rfl⟩,_,List.mem_cons_self,rfl,rfl⟩

theorem sample_pg : ∃ first second, @IngestsPg ascii samplePipeline .empty (sampleIngestion 0 (lit "2.14.1")) first ∧
    @IngestsPg ascii samplePipeline first (sampleIngestion 1 (lit "2.17.1")) second ∧
    (∃ row ∈ first.searchable, row.chunkId = lit "CVE-2021-44228#0" ∧ row.content = lit "2.14.1") ∧
    ∃ row ∈ second.searchable, row.chunkId = lit "CVE-2021-44228#0" ∧ row.content = lit "2.17.1" :=
  ⟨_,_,⟨_,rfl⟩,⟨_,rfl⟩,⟨_,List.mem_cons_self,rfl,rfl⟩,_,List.mem_cons_self,rfl,rfl⟩

/-- In memory the first passage stays cited, in PostgreSQL the last one. -/
theorem one_passage_stays_cited :
    (∃ store later chunk, Run (@IngestsInMemory ascii samplePipeline) .empty [sampleIngestion 0 (lit "2.14.1")] store ∧
      Run (@IngestsInMemory ascii samplePipeline) store [sampleIngestion 1 (lit "2.17.1")] later ∧ chunk ∈ store.searchable ∧
      (resolveInMemory later (bindCitation chunk.toKnowledgeChunkRecord)).map (·.content) = some chunk.content) ∧
    ∃ later row, Run (@IngestsPg ascii samplePipeline) .empty [sampleIngestion 0 (lit "2.14.1"),sampleIngestion 1 (lit "2.17.1")] later ∧
      row ∈ later.searchable ∧ ∀ answer, ResolvesPg later (bindCitation row.toKnowledgeChunkRecord) answer →
        answer.map (·.content) = some row.content := by
  refine ⟨?_,?_⟩
  · obtain ⟨first,second,early,late,⟨chunk,seen,named,holds⟩,_⟩ := sample_inMemory
    refine ⟨first,second,chunk,.go early (.stop _),.go late (.stop _),seen,?_⟩
    refine ((@resolves_iff_id_not_reused ascii samplePipeline).1 _ _ first second (.go early (.stop _)) (.go late (.stop _)) chunk seen).mpr ?_
    rw [FirstUnder,named,holds]
    rfl
  · obtain ⟨first,second,early,late,_,row,seen,named,holds⟩ := sample_pg
    have run : Run (@IngestsPg ascii samplePipeline) .empty [sampleIngestion 0 (lit "2.14.1"),sampleIngestion 1 (lit "2.17.1")] second :=
      .go early (.go late (.stop _))
    refine ⟨second,row,run,seen,((@resolves_iff_id_not_reused ascii samplePipeline).2 _ [] second second run (.stop _) row seen).mpr ?_⟩
    rw [named,holds]
    intro ingestion member latest record placed
    have newest := latest (sampleIngestion 1 (lit "2.17.1")) (by simp) (by decide)
    rcases List.mem_pair.mp member with rfl | rfl
    · exact absurd newest (by decide)
    · exact sample_under placed

theorem citation_names_another_passage :
    (∃ store chunk, Run (@IngestsInMemory ascii samplePipeline) .empty [sampleIngestion 0 (lit "2.14.1"),sampleIngestion 1 (lit "2.17.1")] store ∧
      chunk ∈ store.searchable ∧
      (resolveInMemory store (bindCitation chunk.toKnowledgeChunkRecord)).map (·.content) ≠ some chunk.content) ∧
    ∃ store later row answer, Run (@IngestsPg ascii samplePipeline) .empty [sampleIngestion 0 (lit "2.14.1")] store ∧
      Run (@IngestsPg ascii samplePipeline) store [sampleIngestion 1 (lit "2.17.1")] later ∧ row ∈ store.searchable ∧
      ResolvesPg later (bindCitation row.toKnowledgeChunkRecord) answer ∧ answer.map (·.content) ≠ some row.content := by
  refine ⟨?_,?_⟩
  · obtain ⟨first,second,early,late,_,chunk,seen,named,holds⟩ := sample_inMemory
    have run : Run (@IngestsInMemory ascii samplePipeline) .empty [sampleIngestion 0 (lit "2.14.1"),sampleIngestion 1 (lit "2.17.1")] second :=
      .go early (.go late (.stop _))
    refine ⟨second,chunk,run,seen,fun resolved => ?_⟩
    have first := (@resolveInMemory_iff ascii samplePipeline _ [] second second run (.stop _) chunk seen).mp resolved
    rw [FirstUnder,named,holds] at first
    exact absurd first (by decide)
  · obtain ⟨first,second,early,late,⟨row,seen,named,holds⟩,_⟩ := sample_pg
    have moved : ¬ LatestUnder samplePipeline ([sampleIngestion 0 (lit "2.14.1")] ++ [sampleIngestion 1 (lit "2.17.1")]) row.chunkId row.content := by
      rw [named,holds]
      intro latest
      obtain ⟨record,placed⟩ : ∃ record, record ∈ under samplePipeline [sampleIngestion 1 (lit "2.17.1")] (lit "CVE-2021-44228#0") :=
        ⟨_,List.mem_cons_self⟩
      have moved := latest (sampleIngestion 1 (lit "2.17.1")) (by simp) (by simp [sampleIngestion]) record placed
      exact absurd ((sample_under placed).symm.trans moved) (by decide)
    have unresolved := (not_congr (@resolvesPg_iff ascii samplePipeline _ _ first second (.go early (.stop _)) (.go late (.stop _)) row seen)).mpr moved
    simp only [not_forall] at unresolved
    obtain ⟨answer,answered,other⟩ := unresolved
    exact ⟨first,second,row,answer,.go early (.stop _),.go late (.stop _),seen,answered,other⟩

end SocAnalyst.Citations
