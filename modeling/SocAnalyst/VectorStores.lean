import Mathlib.Data.List.ReduceOption
import SocAnalyst.Knowledge

/-!
# The knowledge index

The two vector stores of `rag/index.py`: the in-process one, and the PostgreSQL one with
the tables, unique constraints and queries it rests on. How two embeddings are compared is
a parameter; a query whose row order is left open has more than one answer.
-/
namespace SocAnalyst.VectorStores
open SocAnalyst.Builtins SocAnalyst.Times SocAnalyst.Dicts SocAnalyst.Assessments SocAnalyst.Knowledge

/-- What a search returns: records with their scores. -/
abbrev Found := List (KnowledgeChunkRecord × ℚ)

/-- The chunks that match, with their scores. -/
def scoreMatching (score : EmbeddedChunk → Except PyError ℚ) (filters : RetrievalFilters) (chunks : List EmbeddedChunk) :
    Except PyError Found :=
  (mapRaising (fun chunk : EmbeddedChunk => do
    if ← matchesFilters chunk.toKnowledgeChunkRecord filters then return some (chunk.toKnowledgeChunkRecord,← score chunk)
    else return none) chunks).map List.reduceOption

/-- The best of the scored records, of those with a score. -/
def best (limit : Nat) (scored : Found) : Found :=
  ((sortedBy (fun found => (toLex (-found.2,found.1.chunkId) : ℚ ×ₗ Text)) scored).take limit).filter fun found => 0 < found.2

theorem mem_best {limit : Nat} {scored : Found} {item : KnowledgeChunkRecord × ℚ} (member : item ∈ best limit scored) :
    item ∈ scored := by
  have taken := List.mem_of_mem_take (List.mem_filter.mp member).1
  simpa using taken

/-- A loop that keeps some of the records it goes through finds no others. -/
theorem kept_mem {α : Type} {body : α → Except PyError (Option (KnowledgeChunkRecord × ℚ))} {record : α → KnowledgeChunkRecord}
    {xs : List α} {found : Found} (run : (mapRaising body xs).map List.reduceOption = .ok found)
    (keeps : ∀ x item, body x = .ok (some item) → item.1 = record x) {item : KnowledgeChunkRecord × ℚ} (member : item ∈ found) :
    ∃ x ∈ xs, item.1 = record x := by
  obtain ⟨kept,looped,rfl⟩ := map_ok.mp run
  obtain ⟨x,inside,returned⟩ := (mapRaising_mem looped _).mp (List.reduceOption_mem_iff.mp member)
  exact ⟨x,inside,keeps x item returned⟩

/-- A record is kept as it is, whatever its score. -/
theorem keeps_record {passes : Except PyError Bool} {score : Except PyError ℚ} {record : KnowledgeChunkRecord}
    {item : KnowledgeChunkRecord × ℚ}
    (returned : (do if ← passes then return some (record,← score) else return none : Except PyError (Option (KnowledgeChunkRecord × ℚ))) =
      .ok (some item)) : item.1 = record := by
  obtain ⟨matched,_,rest⟩ := bind_ok.mp returned
  cases matched with
  | false => cases rest
  | true =>
    obtain ⟨value,_,same⟩ := bind_ok.mp rest
    cases same
    rfl

theorem scoreMatching_mem {score : EmbeddedChunk → Except PyError ℚ} {filters : RetrievalFilters} {chunks : List EmbeddedChunk}
    {found : Found} (run : scoreMatching score filters chunks = .ok found) {item : KnowledgeChunkRecord × ℚ} (member : item ∈ found) :
    ∃ chunk ∈ chunks, item.1 = chunk.toKnowledgeChunkRecord :=
  kept_mem run (fun _ _ returned => keeps_record returned) member

/-! ### The in-process store -/

structure InMemoryVectorStore where
  chunks : List EmbeddedChunk
  active : Dict Text Text

namespace InMemoryVectorStore

def empty : InMemoryVectorStore := ⟨[],.empty⟩

def addChunks (store : InMemoryVectorStore) (chunks : List EmbeddedChunk) (indexVersion : Text) : InMemoryVectorStore :=
  { store with chunks := store.chunks ++ chunks.map fun chunk => { chunk with indexVersion := some indexVersion } }

/-- Flip the live version of a source; how many chunks that supersedes. -/
def activateVersion (store : InMemoryVectorStore) (sourceId indexVersion : Text) : InMemoryVectorStore × Nat :=
  ({ store with active := store.active.set sourceId indexVersion },
    match store.active.get? sourceId with
    | none => 0
    | some previous =>
      if previous = indexVersion then 0
      else (store.chunks.filter fun chunk => chunk.metadata.sourceId = sourceId ∧ chunk.indexVersion = some previous).length)

def activeVersion (store : InMemoryVectorStore) (sourceId : Text) : Option Text := store.active.get? sourceId

def searchable (store : InMemoryVectorStore) : List EmbeddedChunk :=
  store.chunks.filter fun chunk => store.active.get? chunk.metadata.sourceId = chunk.indexVersion

def denseSearch (similarity : List ℚ → List ℚ → Except PyError ℚ) (store : InMemoryVectorStore) (embedding : List ℚ)
    (filters : RetrievalFilters) (limit : Nat) : Except PyError Found :=
  (scoreMatching (fun chunk => similarity embedding chunk.embedding) filters store.searchable).map (best limit)

def keywordSearch [Interpreter] (store : InMemoryVectorStore) (query : Text) (filters : RetrievalFilters) (limit : Nat) :
    Except PyError Found :=
  (scoreMatching (fun chunk => .ok (keywordOverlapScore query chunk.toKnowledgeChunkRecord)) filters store.searchable).map (best limit)

theorem denseSearch_mem {similarity : List ℚ → List ℚ → Except PyError ℚ} {store : InMemoryVectorStore} {embedding : List ℚ}
    {filters : RetrievalFilters} {limit : Nat} {found : Found}
    (search : store.denseSearch similarity embedding filters limit = .ok found) {item : KnowledgeChunkRecord × ℚ}
    (member : item ∈ found) : ∃ chunk ∈ store.searchable, item.1 = chunk.toKnowledgeChunkRecord := by
  obtain ⟨scored,run,rfl⟩ := map_ok.mp search
  exact scoreMatching_mem run (mem_best member)

theorem keywordSearch_mem [Interpreter] {store : InMemoryVectorStore} {query : Text} {filters : RetrievalFilters} {limit : Nat}
    {found : Found} (search : store.keywordSearch query filters limit = .ok found) {item : KnowledgeChunkRecord × ℚ}
    (member : item ∈ found) : ∃ chunk ∈ store.searchable, item.1 = chunk.toKnowledgeChunkRecord := by
  obtain ⟨scored,run,rfl⟩ := map_ok.mp search
  exact scoreMatching_mem run (mem_best member)

def getChunk (store : InMemoryVectorStore) (chunkId : Text) : Option KnowledgeChunkRecord :=
  (store.chunks.find? fun chunk => chunk.chunkId = chunkId).map (·.toKnowledgeChunkRecord)

end InMemoryVectorStore

/-! ### The tables -/

/-- Lifecycle of a knowledge index version. -/
inductive IndexStatus where
  | BUILDING
  | ACTIVE
  | RETIRED
  deriving DecidableEq, Repr

/-- A row of `knowledge_chunks`. The time of its transaction orders it among others. -/
structure KnowledgeChunk extends EmbeddedChunk where
  createdAt : Int
  retiredAt : Option Int := none

/-- A row of `knowledge_index_versions`. -/
structure KnowledgeIndexVersion where
  sourceId : Text
  version : Text
  embeddingModel : Text
  embeddingDimensions : Nat
  status : IndexStatus := .BUILDING
  documentCount : Nat := 0
  chunkCount : Nat := 0
  activatedAt : Option Int := none
  retiredAt : Option Int := none

/-- The columns of `uq_knowledge_chunks_chunk_id_index_version`. -/
def KnowledgeChunk.key (row : KnowledgeChunk) : Text × Option Text := (row.chunkId,row.indexVersion)
/-- The columns of `uq_knowledge_index_versions_source_id_version`. -/
def KnowledgeIndexVersion.key (row : KnowledgeIndexVersion) : Text × Text := (row.sourceId,row.version)

/-- Why a statement does not go through. -/
inductive StoreError where
  | IntegrityError
  | MultipleResultsFound
  deriving DecidableEq, Repr

/-- The tables, within their unique constraints. -/
structure PgVectorStore where
  chunks : List KnowledgeChunk
  versions : List KnowledgeIndexVersion
  chunkKeys : (chunks.map KnowledgeChunk.key).Nodup
  versionKeys : (versions.map KnowledgeIndexVersion.key).Nodup

namespace PgVectorStore

def empty : PgVectorStore := ⟨[],[],.nil,.nil⟩

/-- The row a chunk is stored as. -/
def toRow (now : Int) (indexVersion : Text) (chunk : EmbeddedChunk) : KnowledgeChunk :=
  { chunk with indexVersion := some indexVersion, createdAt := now }

def addChunks (store : PgVectorStore) (now : Int) (chunks : List EmbeddedChunk) (indexVersion : Text) :
    Except StoreError PgVectorStore :=
  if fresh : ((store.chunks ++ chunks.map (toRow now indexVersion)).map KnowledgeChunk.key).Nodup then
    .ok { store with chunks := store.chunks ++ chunks.map (toRow now indexVersion), chunkKeys := fresh }
  else .error .IntegrityError

/-- Register a newly built index version (status: building). -/
def recordVersion (store : PgVectorStore) (row : KnowledgeIndexVersion) : Except StoreError PgVectorStore :=
  if fresh : ((store.versions ++ [row]).map KnowledgeIndexVersion.key).Nodup then
    .ok { store with versions := store.versions ++ [row], versionKeys := fresh }
  else .error .IntegrityError

/-- The live versions of a source other than the given one. -/
def superseded (store : PgVectorStore) (sourceId indexVersion : Text) : List Text :=
  (store.versions.filter fun row => row.sourceId = sourceId ∧ row.status = .ACTIVE ∧ row.version ≠ indexVersion).map (·.version)

/-- The row is live under one of the versions that a flip of its source retires. -/
def Retires (sourceId : Text) (previous : List Text) (row : KnowledgeChunk) : Prop :=
  row.metadata.sourceId = sourceId ∧ (∃ version ∈ previous, row.indexVersion = some version) ∧ row.retiredAt = none

instance (sourceId : Text) (previous : List Text) (row : KnowledgeChunk) : Decidable (Retires sourceId previous row) :=
  inferInstanceAs (Decidable (_ ∧ _))

/-- A chunk row after its source flips from the superseded versions. -/
def retire (now : Int) (sourceId : Text) (previous : List Text) (row : KnowledgeChunk) : KnowledgeChunk :=
  if Retires sourceId previous row then { row with retiredAt := some now } else row

/-- A version row after its source flips to the given version. -/
def flip (now : Int) (sourceId indexVersion : Text) (row : KnowledgeIndexVersion) : KnowledgeIndexVersion :=
  if row.sourceId = sourceId then
    if row.version = indexVersion then { row with status := .ACTIVE, activatedAt := some now }
    else if row.status = .ACTIVE then { row with status := .RETIRED, retiredAt := some now }
    else row
  else row

@[simp] theorem key_retire (now : Int) (sourceId : Text) (previous : List Text) (row : KnowledgeChunk) :
    (retire now sourceId previous row).key = row.key := by
  unfold retire
  split_ifs <;> rfl

@[simp] theorem metadata_retire (now : Int) (sourceId : Text) (previous : List Text) (row : KnowledgeChunk) :
    (retire now sourceId previous row).metadata = row.metadata := by
  unfold retire
  split_ifs <;> rfl

@[simp] theorem indexVersion_retire (now : Int) (sourceId : Text) (previous : List Text) (row : KnowledgeChunk) :
    (retire now sourceId previous row).indexVersion = row.indexVersion := by
  unfold retire
  split_ifs <;> rfl

@[simp] theorem key_flip (now : Int) (sourceId indexVersion : Text) (row : KnowledgeIndexVersion) :
    (flip now sourceId indexVersion row).key = row.key := by
  unfold flip
  split_ifs <;> rfl

/-- Flip the live version for a source and retire the previous one. -/
def activateVersion (store : PgVectorStore) (now : Int) (sourceId indexVersion : Text) : PgVectorStore where
  chunks := store.chunks.map (retire now sourceId (store.superseded sourceId indexVersion))
  versions := store.versions.map (flip now sourceId indexVersion)
  chunkKeys := by simpa [Function.comp_def] using store.chunkKeys
  versionKeys := by simpa [Function.comp_def] using store.versionKeys

/-- How many chunks a flip retires. -/
def retirements (store : PgVectorStore) (sourceId indexVersion : Text) : Nat :=
  (store.chunks.filter fun row => Retires sourceId (store.superseded sourceId indexVersion) row).length

def activeVersion (store : PgVectorStore) (sourceId : Text) : Except StoreError (Option Text) :=
  match store.versions.filter fun row => row.sourceId = sourceId ∧ row.status = .ACTIVE with
  | [] => .ok none
  | [row] => .ok (some row.version)
  | _ => .error .MultipleResultsFound

/-! ### Queries -/

/-- The rows a search may return. -/
def searchable (store : PgVectorStore) : List KnowledgeChunk := store.chunks.filter fun row => row.retiredAt = none

/-- `_base_query`: the searchable rows within the filters SQL knows. -/
def baseQuery (store : PgVectorStore) (filters : RetrievalFilters) : List KnowledgeChunk :=
  store.searchable.filter fun row =>
    (filters.sourceKinds = [] || filters.sourceKinds.contains row.metadata.sourceKind) &&
    (filters.cveIds = [] || row.metadata.cveId.any (filters.cveIds.contains ·)) &&
    (filters.techniqueIds = [] || row.metadata.techniqueId.any (filters.techniqueIds.contains ·)) &&
    (filters.publishedAfter.all fun after => row.metadata.publishedAt.any fun published => after.instant ≤ published.instant) &&
    (filters.minimumTrust.all fun minimum => trustRank row.metadata.trustTier ≤ trustRank minimum)

/-- The filters that ask for nothing pass every row. -/
theorem baseQuery_default (store : PgVectorStore) : store.baseQuery {} = store.searchable := by simp [baseQuery]

/-- `LIKE`: a percent sign stands for any text, an underscore for any character, and a
    backslash takes the next one literally. -/
def like : Text → Text → Bool
  | [], text => text = []
  | 37 :: pattern, text => text.tails.any (like pattern)
  | 92 :: escaped :: pattern, text =>
    match text with
    | [] => false
    | c :: rest => escaped = c && like pattern rest
  | p :: pattern, text =>
    match text with
    | [] => false
    | c :: rest => (p = 95 || p = c) && like pattern rest

/-- An ASCII token in capitals. -/
def upper (token : Text) : Text := token.map fun c => if 97 ≤ c ∧ c ≤ 122 then c - 32 else c

/-- The rows the keyword query selects before its limit. -/
def keywordCandidates [Interpreter] (store : PgVectorStore) (query : Text) (filters : RetrievalFilters) : List KnowledgeChunk :=
  let tokens := tokenize query
  let ilike (pattern text : Text) : Bool := like (lower pattern) (lower text)
  (store.baseQuery filters).filter fun row =>
    tokens = [] ||
    ([row.metadata.cveId,row.metadata.techniqueId,row.metadata.cweId].any fun value =>
      value.any ((tokens.map upper).contains ·)) ||
    (tokens.any fun token => 2 < token.length && ilike (lit "%" ++ token ++ lit "%") row.content) ||
    row.title.any (ilike (lit "%" ++ query ++ lit "%"))

/-- What a dense search may answer: the nearest rows, in an order their distances allow. -/
def DenseAnswer (distance : List ℚ → List ℚ → ℚ) (store : PgVectorStore) (embedding : List ℚ) (filters : RetrievalFilters)
    (limit : Nat) (answer : Except PyError Found) : Prop :=
  ∃ rows : List KnowledgeChunk, rows.Perm (store.baseQuery filters) ∧
    rows.Pairwise (fun near far => distance near.embedding embedding ≤ distance far.embedding embedding) ∧
    answer = (mapRaising (fun row : KnowledgeChunk => do
      if ← matchesFilters row.toKnowledgeChunkRecord filters then
        return some (row.toKnowledgeChunkRecord,1 - distance row.embedding embedding)
      else return none) (rows.take limit)).map fun found => found.reduceOption.filter fun item => 0 < item.2

/-- What a keyword search may answer: scores over as many candidates as the limit admits. -/
def KeywordAnswer [Interpreter] (store : PgVectorStore) (query : Text) (filters : RetrievalFilters) (limit : Nat) (answer : Found) : Prop :=
  ∃ rows : List KnowledgeChunk, rows.Perm (store.keywordCandidates query filters) ∧
    answer = best limit ((rows.take limit).map fun row =>
      (row.toKnowledgeChunkRecord,keywordOverlapScore query row.toKnowledgeChunkRecord))

theorem DenseAnswer.mem {distance : List ℚ → List ℚ → ℚ} {store : PgVectorStore} {embedding : List ℚ}
    {filters : RetrievalFilters} {limit : Nat} {found : Found}
    (answered : DenseAnswer distance store embedding filters limit (.ok found)) {item : KnowledgeChunkRecord × ℚ}
    (member : item ∈ found) : ∃ row ∈ store.searchable, item.1 = row.toKnowledgeChunkRecord := by
  obtain ⟨rows,order,_,answer⟩ := answered
  obtain ⟨kept,run,rfl⟩ := map_ok.mp answer.symm
  have listed : item ∈ kept.reduceOption := (List.mem_filter.mp member).1
  obtain ⟨row,taken,same⟩ := kept_mem (map_ok.mpr ⟨kept,run,rfl⟩)
    (fun row _ returned => @keeps_record _ (.ok (1 - distance row.embedding embedding)) _ _ returned) listed
  exact ⟨row,(List.mem_filter.mp (order.mem_iff.mp (List.mem_of_mem_take taken))).1,same⟩

theorem KeywordAnswer.mem [Interpreter] {store : PgVectorStore} {query : Text} {filters : RetrievalFilters} {limit : Nat}
    {found : Found} (answered : KeywordAnswer store query filters limit found) {item : KnowledgeChunkRecord × ℚ}
    (member : item ∈ found) : ∃ row ∈ store.searchable, item.1 = row.toKnowledgeChunkRecord := by
  obtain ⟨rows,order,rfl⟩ := answered
  obtain ⟨row,taken,rfl⟩ := List.mem_map.mp (mem_best member)
  have candidate := (List.mem_filter.mp (order.mem_iff.mp (List.mem_of_mem_take taken))).1
  exact ⟨row,(List.mem_filter.mp candidate).1,rfl⟩

/-- What resolving a chunk id may answer: a newest row of that id. -/
def ChunkAnswer (store : PgVectorStore) (chunkId : Text) : Option KnowledgeChunkRecord → Prop
  | none => ∀ row ∈ store.chunks, row.chunkId ≠ chunkId
  | some record => ∃ row ∈ store.chunks, row.chunkId = chunkId ∧ row.toKnowledgeChunkRecord = record ∧
      ∀ other ∈ store.chunks, other.chunkId = chunkId → other.createdAt ≤ row.createdAt

end PgVectorStore
end SocAnalyst.VectorStores
