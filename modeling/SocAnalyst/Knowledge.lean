import Mathlib.Data.List.Dedup
import SocAnalyst.Assessments
import SocAnalyst.Dicts

/-!
# Knowledge contracts

The shapes of `models/knowledge.py` that flow through ingestion and retrieval, and the
functions of `rag/index.py` and `rag/embeddings.py` that read a single record. Scores
are exact rationals where the program has floats.
-/
namespace SocAnalyst.Knowledge
open SocAnalyst.Builtins SocAnalyst.Times SocAnalyst.Dicts SocAnalyst.Assessments

inductive KnowledgeSourceKind where
  | NVD
  | MITRE_ATTACK
  | ADVISORY
  | INTERNAL_RUNBOOK
  deriving DecidableEq, Repr

/-- Filtering, freshness, and citation metadata carried by every chunk. -/
structure ChunkMetadata where
  sourceKind : KnowledgeSourceKind
  sourceId : Text
  sourceName : Text
  trustTier : SourceTrustTier
  sourceVersion : Option Text := none
  publishedAt : Option DateTime := none
  updatedAt : Option DateTime := none
  cveId : Option Text := none
  cweId : Option Text := none
  techniqueId : Option Text := none
  products : List Text := []
  url : Option Text := none

/-- A raw document fetched from a knowledge source, before chunking. -/
structure SourceDocument where
  documentId : Text
  title : Text
  content : Text
  metadata : ChunkMetadata

/-- A chunk ready to be indexed, or read back from the index. -/
structure KnowledgeChunkRecord where
  chunkId : Text
  documentId : Text
  title : Option Text := none
  content : Text
  metadata : ChunkMetadata
  ordinal : Nat := 0
  parentChunkId : Option Text := none
  indexVersion : Option Text := none

/-- A chunk paired with the embedding that will be indexed for it. -/
structure EmbeddedChunk extends KnowledgeChunkRecord where
  embedding : List ℚ

/-- Which retrieval path surfaced a chunk. -/
inductive MatchedBy where
  | dense
  | keyword
  deriving DecidableEq, Repr

/-- A retrieved chunk with the scores that earned it its place. -/
structure RetrievedChunk where
  chunk : KnowledgeChunkRecord
  denseScore : ℚ := 0
  keywordScore : ℚ := 0
  freshnessWeight : ℚ := 1
  trustWeight : ℚ := 1
  score : ℚ := 0
  matchedBy : List MatchedBy := []

/-- Grounded context for one query, with everything needed to reproduce it. -/
structure RetrievalResult where
  query : Text
  chunks : List RetrievedChunk := []
  citations : List Citation := []
  indexVersion : Option Text := none
  estimatedTokens : Nat := 0
  stale : Bool := false
  cached : Bool := false

/-- Metadata filters narrowing a retrieval to the relevant slice of the corpus. -/
structure RetrievalFilters where
  sourceKinds : List KnowledgeSourceKind := []
  cveIds : List Text := []
  techniqueIds : List Text := []
  products : List Text := []
  publishedAfter : Option DateTime := none
  minimumTrust : Option SourceTrustTier := none

/-- Lower is more authoritative. -/
def trustRank : SourceTrustTier → Nat
  | .AUTHORITATIVE => 0
  | .VENDOR => 1
  | .COMMUNITY => 2
  | .INTERNAL => 3

/-- Whether the record was published no earlier than the filter asks. -/
def publishedSince (published : Option DateTime) : Option DateTime → Except PyError Bool
  | none => .ok true
  | some after =>
    match published with
    | none => .ok false
    | some published => (published.lt after).map (!·)

/-- Whether a chunk satisfies every metadata filter. -/
def matchesFilters (record : KnowledgeChunkRecord) (filters : RetrievalFilters) : Except PyError Bool :=
  let metadata := record.metadata
  if filters.sourceKinds ≠ [] ∧ metadata.sourceKind ∉ filters.sourceKinds then .ok false
  else if filters.cveIds ≠ [] ∧ metadata.cveId.getD [] ∉ filters.cveIds then .ok false
  else if filters.techniqueIds ≠ [] ∧ metadata.techniqueId.getD [] ∉ filters.techniqueIds then .ok false
  else if filters.products ≠ [] ∧ ¬ filters.products.any (metadata.products.contains ·) then .ok false
  else (publishedSince metadata.publishedAt filters.publishedAfter).map fun recent =>
    recent && !(match filters.minimumTrust with
      | none => false
      | some minimum => trustRank minimum < trustRank metadata.trustTier)

theorem matchesFilters_default (record : KnowledgeChunkRecord) : matchesFilters record {} = .ok true := by
  simp [matchesFilters,publishedSince,Except.map]

/-! ### Tokens -/

def tokenStart (c : Nat) : Bool := (97 ≤ c && c ≤ 122) || (48 ≤ c && c ≤ 57)
def tokenPart (c : Nat) : Bool := tokenStart c || c == 46 || c == 95 || c == 45

/-- The tokens of a text, given the one being read. -/
def tokensFrom : Text → Text → List Text
  | [], [] => []
  | current, [] => [current]
  | [], c :: rest => if tokenStart c then tokensFrom [c] rest else tokensFrom [] rest
  | current, c :: rest => if tokenPart c then tokensFrom (current ++ [c]) rest else current :: tokensFrom [] rest

section
variable [Interpreter]

/-- Split text into lowercase tokens. -/
def tokenize (text : Text) : List Text := tokensFrom [] (lower text)

/-- Lexical score: query-token coverage, boosted by exact identifier hits. -/
def keywordOverlapScore (query : Text) (record : KnowledgeChunkRecord) : ℚ :=
  let queryTokens := (tokenize query).dedup
  if queryTokens = [] then 0
  else
    let documentTokens := tokenize (record.title.getD [] ++ lit " " ++ record.content)
    let overlap := queryTokens.filter (documentTokens.contains ·)
    let metadata := record.metadata
    let identifiers := ([metadata.cveId,metadata.techniqueId,metadata.cweId].filterMap fun value =>
      value.bind fun text => if text = [] then none else some (lower text)) ++ metadata.products.map lower
    (overlap.length : ℚ) / queryTokens.length + if identifiers.any (queryTokens.contains ·) then 1 else 0

end

example : tokensFrom [] (lit "see cve-2021-44228, log4j_core.") = [lit "see",lit "cve-2021-44228",lit "log4j_core."] := by
  decide

end SocAnalyst.Knowledge
