import SocAnalyst.Runs
import SocAnalyst.VectorStores

/-!
# Ingestion

`IngestionPipeline.ingest_source` of `rag/ingestion.py` over both stores, with the
cleaning of `rag/chunking.py`. Where a document is cut into passages, how a passage is
embedded and the digest are parameters.
-/
namespace SocAnalyst.Ingestion
open SocAnalyst.Builtins SocAnalyst.Times SocAnalyst.Dicts SocAnalyst.Assessments SocAnalyst.Knowledge SocAnalyst.VectorStores
open SocAnalyst.Runs

/-! ### Cleaning -/

/-- Every line break as a line feed. -/
def unixBreaks : Text → Text
  | [] => []
  | 13 :: 10 :: rest => 10 :: unixBreaks rest
  | 13 :: rest => 10 :: unixBreaks rest
  | c :: rest => c :: unixBreaks rest

/-- Every run of blanks and tabs as one blank; whether one is being skipped. -/
def collapseBlanks : Bool → Text → Text
  | _, [] => []
  | skipping, c :: rest =>
    if c = 32 ∨ c = 9 then if skipping then collapseBlanks true rest else 32 :: collapseBlanks true rest
    else c :: collapseBlanks false rest

/-- Every run of line feeds cut to two; how many of it were kept. -/
def collapseBreaks : Nat → Text → Text
  | _, [] => []
  | kept, c :: rest =>
    if c = 10 then if kept < 2 then 10 :: collapseBreaks (kept + 1) rest else collapseBreaks kept rest
    else c :: collapseBreaks 0 rest

/-- Normalize whitespace without destroying structure. -/
def cleanText (text : Text) : Text :=
  strip (joined [10] (((collapseBreaks 0 (collapseBlanks false (unixBreaks text))).splitOn 10).map fun line =>
    line.rdropWhile isSpace))

/-! ### The pipeline -/

/-- Why an ingestion does not return. -/
inductive IngestError where
  | untrustedSource (message : Text)
  | raised (error : PyError)
  | store (error : StoreError)

/-- The outcome of ingesting or refreshing one source. -/
structure IngestionReport where
  sourceId : Text
  indexVersion : Text
  documentsFetched : Nat := 0
  documentsIngested : Nat := 0
  duplicatesSkipped : Nat := 0
  chunksIndexed : Nat := 0
  chunksRetired : Nat := 0
  failed : Bool := false
  error : Option Text := none

/-- The configured pipeline: the registered sources, the embedding model, the passages a
    document is cut into (with the parent each belongs to), and the digest. -/
structure IngestionPipeline where
  registry : List Text
  model : Text
  dimensions : Nat
  embed : Text → Except PyError (List ℚ)
  passages : SourceDocument → List (Text × Option Text)
  sha256 : Text → Text

namespace IngestionPipeline
variable [Interpreter] (pipeline : IngestionPipeline)

/-- Derive a deterministic index version from the model and the corpus snapshot. -/
def buildIndexVersion (sourceId : Text) (documents : List Text) : Except PyError Text :=
  if ∀ text ∈ pipeline.model :: documents, Encodable text then
    .ok (sourceId ++ lit "-" ++ (pipeline.sha256 (pipeline.model ++ (sortedBy id documents).flatten)).take 16)
  else .error .UnicodeEncodeError

/-- The passages of a document as records, numbered. -/
def chunk (document : SourceDocument) : List KnowledgeChunkRecord :=
  (pipeline.passages document).mapIdx fun ordinal passage => {
    chunkId := document.documentId ++ lit "#" ++ lit (toString ordinal)
    documentId := document.documentId
    title := some document.title
    content := passage.1
    metadata := document.metadata
    ordinal := ordinal
    parentChunkId := passage.2 }

/-- The loop that drops repeats by content digest; the unique documents and how many
    were dropped. -/
def deduplicateFrom (sourceId : Text) : List SourceDocument → List Text → Except IngestError (List SourceDocument × Nat)
  | [], _ => .ok ([],0)
  | document :: rest, seen =>
    if document.metadata.sourceId ≠ sourceId then .error (.untrustedSource (lit "document " ++ Interpreter.repr document.documentId ++
      lit " claims source " ++ Interpreter.repr document.metadata.sourceId ++ lit " but was fetched for " ++
      Interpreter.repr sourceId))
    else if ¬ Encodable (cleanText document.content) then .error (.raised .UnicodeEncodeError)
    else
      let digest := pipeline.sha256 (cleanText document.content)
      if digest ∈ seen then (deduplicateFrom sourceId rest seen).map fun found => (found.1,found.2 + 1)
      else (deduplicateFrom sourceId rest (digest :: seen)).map fun found => (document :: found.1,found.2)

omit [Interpreter] in
theorem metadata_chunk {document : SourceDocument} {record : KnowledgeChunkRecord} (cut : record ∈ pipeline.chunk document) :
    record.metadata = document.metadata := by
  obtain ⟨ordinal,inside,rfl⟩ := List.mem_mapIdx.mp cut
  rfl

/-- What deduplication keeps comes from the documents, each of the source it was fetched for. -/
theorem deduplicateFrom_mem {sourceId : Text} {documents : List SourceDocument} {seen : List Text} {unique : List SourceDocument}
    {duplicates : Nat} (done : pipeline.deduplicateFrom sourceId documents seen = .ok (unique,duplicates)) :
    ∀ document ∈ unique, document ∈ documents ∧ document.metadata.sourceId = sourceId := by
  induction documents generalizing seen unique duplicates with
  | nil =>
    cases done
    simp
  | cons first rest ih =>
    unfold deduplicateFrom at done
    split_ifs at done with foreign unencodable
    dsimp only at done
    split_ifs at done with repeated
    · obtain ⟨⟨kept,count⟩,later,same⟩ := map_ok.mp done
      cases same
      exact fun document member => ⟨List.mem_cons_of_mem _ (ih later document member).1,(ih later document member).2⟩
    · obtain ⟨⟨kept,count⟩,later,same⟩ := map_ok.mp done
      cases same
      rw [List.forall_mem_cons]
      refine ⟨⟨by simp,by simpa using foreign⟩,?_⟩
      exact fun document member => ⟨List.mem_cons_of_mem _ (ih later document member).1,(ih later document member).2⟩

def embedChunk (record : KnowledgeChunkRecord) : Except PyError EmbeddedChunk :=
  (pipeline.embed record.content).map fun vector => { record with embedding := vector }

omit [Interpreter] in
theorem record_embedChunk {record : KnowledgeChunkRecord} {chunk : EmbeddedChunk} (embedded : pipeline.embedChunk record = .ok chunk) :
    chunk.toKnowledgeChunkRecord = record := by
  obtain ⟨vector,_,rfl⟩ := map_ok.mp embedded
  rfl

/-- What is built of a snapshot before the store is touched. -/
structure Prepared where
  unique : List SourceDocument
  duplicates : Nat
  version : Text
  chunks : List EmbeddedChunk

def prepare (sourceId : Text) (documents : List SourceDocument) : Except IngestError Prepared :=
  match pipeline.deduplicateFrom sourceId documents [] with
  | .error e => .error e
  | .ok (unique,duplicates) =>
    match pipeline.buildIndexVersion sourceId (unique.map (·.content)) with
    | .error e => .error (.raised e)
    | .ok version =>
      match mapRaising pipeline.embedChunk (unique.flatMap pipeline.chunk) with
      | .error e => .error (.raised e)
      | .ok chunks => .ok ⟨unique,duplicates,version,chunks⟩

/-- A snapshot is prepared once it is deduplicated, its version named, and each of its
    chunks embedded. -/
theorem prepare_ok {sourceId : Text} {documents : List SourceDocument} {prepared : Prepared} :
    pipeline.prepare sourceId documents = .ok prepared ↔
      pipeline.deduplicateFrom sourceId documents [] = .ok (prepared.unique,prepared.duplicates) ∧
      pipeline.buildIndexVersion sourceId (prepared.unique.map (·.content)) = .ok prepared.version ∧
      mapRaising pipeline.embedChunk (prepared.unique.flatMap pipeline.chunk) = .ok prepared.chunks := by
  unfold prepare
  constructor
  · intro done
    split at done
    · cases done
    · rename_i unique duplicates deduplicated
      split at done
      · cases done
      · rename_i version named
        split at done
        · cases done
        · rename_i chunks embedded
          cases done
          exact ⟨deduplicated,named,embedded⟩
  · rintro ⟨deduplicated,named,embedded⟩
    simp only [deduplicated,named,embedded]

/-- Every chunk of a prepared snapshot is of the source it was fetched for. -/
theorem prepare_own {sourceId : Text} {documents : List SourceDocument} {prepared : Prepared}
    (done : pipeline.prepare sourceId documents = .ok prepared) : ∀ chunk ∈ prepared.chunks, chunk.metadata.sourceId = sourceId := by
  obtain ⟨deduplicated,_,embedded⟩ := pipeline.prepare_ok.mp done
  intro chunk listed
  obtain ⟨record,cut,same⟩ := (mapRaising_mem embedded chunk).mp listed
  obtain ⟨document,kept,inside⟩ := List.mem_flatMap.mp cut
  rw [pipeline.record_embedChunk same,pipeline.metadata_chunk inside]
  exact (pipeline.deduplicateFrom_mem deduplicated document kept).2

/-! ### What a snapshot amounts to -/

/-- The documents whose cleaned content is not seen before, given the digests seen. -/
def uniqueFrom : List SourceDocument → List Text → List SourceDocument
  | [], _ => []
  | document :: rest, seen =>
    let digest := pipeline.sha256 (cleanText document.content)
    if digest ∈ seen then uniqueFrom rest seen else document :: uniqueFrom rest (digest :: seen)

def unique (documents : List SourceDocument) : List SourceDocument := pipeline.uniqueFrom documents []

/-- The version a snapshot is named by its contents. -/
def versionOf (sourceId : Text) (documents : List SourceDocument) : Text :=
  sourceId ++ lit "-" ++
    (pipeline.sha256 (pipeline.model ++ (sortedBy id ((pipeline.unique documents).map (·.content))).flatten)).take 16

/-- The chunks of a snapshot, in order. -/
def records (documents : List SourceDocument) : List KnowledgeChunkRecord := (pipeline.unique documents).flatMap pipeline.chunk

/-- A snapshot that an allow-listed source may bring: its documents are its own, their
    text can be encoded, and every chunk can be embedded. -/
structure Ingestible (sourceId : Text) (documents : List SourceDocument) : Prop where
  registered : sourceId ∈ pipeline.registry
  own : ∀ document ∈ documents, document.metadata.sourceId = sourceId ∧ Encodable (cleanText document.content)
  encodable : ∀ text ∈ pipeline.model :: (pipeline.unique documents).map (·.content), Encodable text
  embeddable : ∀ record ∈ pipeline.records documents, ∃ vector, pipeline.embed record.content = .ok vector

/-- Deduplication returns the unique documents exactly when each document passes. -/
theorem deduplicateFrom_returns (sourceId : Text) (documents : List SourceDocument) (seen : List Text) :
    (∃ duplicates, pipeline.deduplicateFrom sourceId documents seen = .ok (pipeline.uniqueFrom documents seen,duplicates)) ↔
      ∀ document ∈ documents, document.metadata.sourceId = sourceId ∧ Encodable (cleanText document.content) := by
  induction documents generalizing seen with
  | nil => simp [deduplicateFrom,uniqueFrom]
  | cons first rest ih =>
    unfold deduplicateFrom uniqueFrom
    rw [List.forall_mem_cons]
    by_cases own : first.metadata.sourceId = sourceId
    · by_cases encodable : Encodable (cleanText first.content)
      · by_cases repeated : pipeline.sha256 (cleanText first.content) ∈ seen
        · rw [← ih seen]
          simp [own,encodable,repeated,map_ok]
        · rw [← ih (pipeline.sha256 (cleanText first.content) :: seen)]
          simp [own,encodable,repeated,map_ok]
      · simp [own,encodable]
    · simp [own]

theorem deduplicateFrom_unique {sourceId : Text} {documents : List SourceDocument} {seen : List Text} {unique : List SourceDocument}
    {duplicates : Nat} (done : pipeline.deduplicateFrom sourceId documents seen = .ok (unique,duplicates)) :
    unique = pipeline.uniqueFrom documents seen := by
  induction documents generalizing seen unique duplicates with
  | nil =>
    cases done
    rfl
  | cons first rest ih =>
    unfold deduplicateFrom at done
    unfold uniqueFrom
    split_ifs at done with foreign unencodable
    dsimp only at done ⊢
    split_ifs at done ⊢ with repeated
    all_goals
      obtain ⟨⟨kept,count⟩,later,same⟩ := map_ok.mp done
      cases same
      rw [ih later]

/-- What is prepared of a snapshot is what the snapshot amounts to. -/
theorem prepare_amounts {sourceId : Text} {documents : List SourceDocument} {prepared : Prepared}
    (done : pipeline.prepare sourceId documents = .ok prepared) : prepared.version = pipeline.versionOf sourceId documents ∧
      prepared.chunks.map (·.toKnowledgeChunkRecord) = pipeline.records documents := by
  obtain ⟨deduplicated,named,embedded⟩ := pipeline.prepare_ok.mp done
  have same := pipeline.deduplicateFrom_unique deduplicated
  refine ⟨?_,?_⟩
  · unfold buildIndexVersion at named
    split_ifs at named
    rw [same] at named
    exact (Except.ok.inj named).symm
  · rw [same] at embedded
    have paired := mapRaising_ok.mp embedded
    have equal := paired.imp fun record chunk returned => pipeline.record_embedChunk returned
    exact List.forall₂_eq_eq_eq ▸ (List.forall₂_map_left_iff.mpr equal.flip)

theorem prepare_returns {sourceId : Text} {documents : List SourceDocument} :
    (sourceId ∈ pipeline.registry ∧ ∃ prepared, pipeline.prepare sourceId documents = .ok prepared) ↔
      pipeline.Ingestible sourceId documents := by
  constructor
  · rintro ⟨registered,prepared,done⟩
    obtain ⟨deduplicated,named,embedded⟩ := pipeline.prepare_ok.mp done
    have same := pipeline.deduplicateFrom_unique deduplicated
    rw [same] at deduplicated named embedded
    refine ⟨registered,(pipeline.deduplicateFrom_returns ..).mp ⟨_,deduplicated⟩,?_,?_⟩
    · unfold buildIndexVersion at named
      split_ifs at named with encodable
      exact encodable
    · intro record cut
      obtain ⟨chunk,returned⟩ := mapRaising_returns.mp ⟨_,embedded⟩ record cut
      obtain ⟨vector,made,_⟩ := map_ok.mp returned
      exact ⟨vector,made⟩
  · rintro ⟨registered,own,encodable,embeddable⟩
    obtain ⟨duplicates,deduplicated⟩ := (pipeline.deduplicateFrom_returns sourceId documents []).mpr own
    have embedded : ∃ chunks, mapRaising pipeline.embedChunk (pipeline.records documents) = .ok chunks := by
      refine mapRaising_returns.mpr fun record cut => ?_
      obtain ⟨vector,made⟩ := embeddable record cut
      exact ⟨_,map_ok.mpr ⟨vector,made,rfl⟩⟩
    obtain ⟨chunks,embedded⟩ := embedded
    exact ⟨registered,⟨pipeline.unique documents,duplicates,pipeline.versionOf sourceId documents,chunks⟩,
      pipeline.prepare_ok.mpr ⟨deduplicated,if_pos encodable,embedded⟩⟩

/-- The version row a snapshot is registered under. -/
def versionRow (sourceId : Text) (prepared : Prepared) : KnowledgeIndexVersion where
  sourceId := sourceId
  version := prepared.version
  embeddingModel := pipeline.model
  embeddingDimensions := pipeline.dimensions
  documentCount := prepared.unique.length
  chunkCount := prepared.chunks.length

def report (sourceId : Text) (documents : List SourceDocument) (prepared : Prepared) (retired : Nat) : IngestionReport where
  sourceId := sourceId
  indexVersion := prepared.version
  documentsFetched := documents.length
  documentsIngested := prepared.unique.length
  duplicatesSkipped := prepared.duplicates
  chunksIndexed := prepared.chunks.length
  chunksRetired := retired

/-- The report of a source that could not be fetched. -/
def fetchFailed (sourceId : Text) (active : Option Text) (error : Text) : IngestionReport where
  sourceId := sourceId
  indexVersion := active.getD []
  failed := true
  error := some error

/-- The refusal of a source that is not registered. -/
def untrusted (sourceId : Text) : IngestError := .untrustedSource (lit "source is not allow-listed: " ++ Interpreter.repr sourceId)

/-- Ingest one source into the in-process store. -/
def ingestInMemory (sourceId : Text) (fetched : Except Text (List SourceDocument)) (store : InMemoryVectorStore) :
    InMemoryVectorStore × Except IngestError IngestionReport :=
  if sourceId ∉ pipeline.registry then (store,.error (untrusted sourceId))
  else match fetched with
    | .error message => (store,.ok (fetchFailed sourceId (store.activeVersion sourceId) message))
    | .ok documents =>
      match pipeline.prepare sourceId documents with
      | .error e => (store,.error e)
      | .ok prepared =>
        let flipped := (store.addChunks prepared.chunks prepared.version).activateVersion sourceId prepared.version
        (flipped.1,.ok (report sourceId documents prepared flipped.2))

/-- Ingest one source into PostgreSQL, in three transactions. -/
def ingestPg (now : Int) (sourceId : Text) (fetched : Except Text (List SourceDocument)) (store : PgVectorStore) :
    PgVectorStore × Except IngestError IngestionReport :=
  if sourceId ∉ pipeline.registry then (store,.error (untrusted sourceId))
  else match fetched with
    | .error message =>
      match store.activeVersion sourceId with
      | .error e => (store,.error (.store e))
      | .ok active => (store,.ok (fetchFailed sourceId active message))
    | .ok documents =>
      match pipeline.prepare sourceId documents with
      | .error e => (store,.error e)
      | .ok prepared =>
        match store.recordVersion (pipeline.versionRow sourceId prepared) with
        | .error e => (store,.error (.store e))
        | .ok registered =>
          match registered.addChunks now prepared.chunks prepared.version with
          | .error e => (registered,.error (.store e))
          | .ok built => (built.activateVersion now sourceId prepared.version,
              .ok (report sourceId documents prepared (built.retirements sourceId prepared.version)))

end IngestionPipeline
end SocAnalyst.Ingestion
