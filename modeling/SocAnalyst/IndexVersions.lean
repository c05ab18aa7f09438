import SocAnalyst.Groups
import SocAnalyst.Ingestion

/-!
# Index versions

What a version of an index identifies. The digest is fed the model and the sorted
contents one after another, so that it cannot tell where one text ends and the next begins.
-/
namespace SocAnalyst.IndexVersions
open SocAnalyst.Builtins SocAnalyst.Dicts SocAnalyst.Groups SocAnalyst.Ingestion

/-- An embedding model and the contents of a source's documents. -/
structure Snapshot where
  model : Text
  documents : List Text

namespace Snapshot

/-- The texts that are digested, in order. -/
def texts (snapshot : Snapshot) : List Text := snapshot.model :: sortedBy id snapshot.documents

/-- The same model and the same contents, each as often. -/
def Same (first second : Snapshot) : Prop := first.model = second.model ∧ first.documents.Perm second.documents

/-- Two different divisions of one text. -/
def Redivided (first second : Snapshot) : Prop := first.texts ≠ second.texts ∧ first.texts.flatten = second.texts.flatten

instance (first second : Snapshot) : Decidable (first.Redivided second) := inferInstanceAs (Decidable (_ ∧ _))

/-- The version a pipeline of the snapshot's model gives the source. -/
def version (pipeline : IngestionPipeline) (sourceId : Text) (snapshot : Snapshot) : Except PyError Text :=
  { pipeline with model := snapshot.model }.buildIndexVersion sourceId snapshot.documents

variable {pipeline : IngestionPipeline} {sourceId : Text} {first second : Snapshot}

theorem texts_eq_iff : first.texts = second.texts ↔ first.Same second := by
  rw [texts,texts,List.cons.injEq,Same]
  refine and_congr_right fun _ => ⟨fun same => ?_,fun same => ?_⟩
  · have sorted : (sortedBy id first.documents).Perm (sortedBy id second.documents) := .of_eq same
    exact ((perm_sortedBy id _).symm.trans sorted).trans (perm_sortedBy id _)
  · have sorted := ((perm_sortedBy id first.documents).trans same).trans (perm_sortedBy id second.documents).symm
    exact List.Perm.eq_of_pairwise (fun _ _ _ _ => le_antisymm) (pairwise_sortedBy id first.documents)
      (pairwise_sortedBy id second.documents) sorted

/-- Two snapshots that can be digested, whose digests are the same only for the same text. -/
structure Digests (pipeline : IngestionPipeline) (first second : Snapshot) : Prop where
  encodes : ∀ text ∈ first.texts ++ second.texts, Encodable text
  injective : (pipeline.sha256 first.texts.flatten).take 16 = (pipeline.sha256 second.texts.flatten).take 16 →
    first.texts.flatten = second.texts.flatten

theorem version_ok (encodes : ∀ text ∈ first.texts, Encodable text) :
    first.version pipeline sourceId = .ok (sourceId ++ lit "-" ++ (pipeline.sha256 first.texts.flatten).take 16) := by
  have all : ∀ text ∈ first.model :: first.documents, Encodable text := by
    intro text member
    refine encodes text ?_
    simpa [texts] using member
  rw [version,IngestionPipeline.buildIndexVersion,if_pos all]
  rfl

theorem version_eq_iff (digests : Digests pipeline first second) :
    first.version pipeline sourceId = second.version pipeline sourceId ↔ first.texts.flatten = second.texts.flatten := by
  have encodes : ∀ text ∈ first.texts, Encodable text := fun text member => digests.encodes text (List.mem_append_left _ member)
  have encodes' : ∀ text ∈ second.texts, Encodable text := fun text member => digests.encodes text (List.mem_append_right _ member)
  rw [version_ok encodes,version_ok encodes']
  constructor
  · intro same
    exact digests.injective (List.append_cancel_left (Except.ok.inj same))
  · intro same
    rw [same]

/-- A version identifies the model and the contents just when the two snapshots are not
    different divisions of one text. -/
theorem version_identifies_iff (digests : Digests pipeline first second) :
    (first.version pipeline sourceId = second.version pipeline sourceId ↔ first.Same second) ↔ ¬ first.Redivided second := by
  rw [version_eq_iff digests,← texts_eq_iff,Redivided]
  constructor
  · rintro identifies ⟨differ,same⟩
    exact differ (identifies.mp same)
  · intro undivided
    refine ⟨fun same => ?_,fun same => by rw [same]⟩
    by_contra differ
    exact undivided ⟨differ,same⟩

end Snapshot

/-- A snapshot of one document, one that has another too, and one whose document is both. -/
def alpha : Snapshot := ⟨lit "model-a",[lit "alpha"]⟩
def alphaAndBeta : Snapshot := ⟨lit "model-a",[lit "alpha",lit "beta"]⟩
def alphabeta : Snapshot := ⟨lit "model-a",[lit "alphabeta"]⟩

/-- A pipeline with a digest of two texts. -/
def alphaPipeline : IngestionPipeline where
  registry := [lit "nvd"]
  model := lit "model-a"
  dimensions := 0
  embed _ := .ok []
  passages document := [(document.content,none)]
  sha256 text :=
    if text = lit "model-aalpha" then lit "1a23b3f4314913b13f23bd01e986d86d841073ba2266a9d7247b562c9afd2e97"
    else lit "d8111b80bac3f37e37669870b1df2f0f9c9bf1bd49450279a4c19737211fa693"

theorem alphaDigests : Snapshot.Digests alphaPipeline alpha alphaAndBeta := ⟨by decide +kernel,by decide +kernel⟩

theorem beta_changes_version :
    alpha.version alphaPipeline (lit "nvd") = alphaAndBeta.version alphaPipeline (lit "nvd") ↔ alpha.Same alphaAndBeta :=
  (Snapshot.version_identifies_iff alphaDigests).mpr (by decide +kernel)

/-- One document shares its version with two that spell the same text. -/
theorem divided_alike : ¬ ∀ (pipeline : IngestionPipeline) (sourceId : Text) (first second : Snapshot), Snapshot.Digests pipeline first second →
    (first.version pipeline sourceId = second.version pipeline sourceId ↔ first.Same second) := by
  intro law
  have digests : Snapshot.Digests alphaPipeline alphaAndBeta alphabeta := ⟨by decide +kernel,by decide +kernel⟩
  have same : alphaAndBeta.version alphaPipeline (lit "nvd") = alphabeta.version alphaPipeline (lit "nvd") :=
    (Snapshot.version_eq_iff digests).mpr (by decide +kernel)
  have whole := ((law alphaPipeline (lit "nvd") alphaAndBeta alphabeta digests).mp same).2.length_eq
  exact absurd whole (by decide)

end SocAnalyst.IndexVersions
