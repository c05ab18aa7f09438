import SocAnalyst.Calendar
import SocAnalyst.Ingestion
import SocAnalyst.Scanners

/-!
# Chunking

`rag/chunking.py`: a document is cut into its sections, small sections are packed together,
and a section that is too large is split with overlap. Nothing but whitespace is lost.
-/
namespace SocAnalyst.Chunking
open SocAnalyst.Builtins SocAnalyst.Scanners SocAnalyst.Knowledge
open SocAnalyst.Ingestion (cleanText)

/-! ### Sections -/

/-- `_HEADING`, at the start of a line. -/
def heading : Scanner Nat Unit := do
  let _ ← run isSpace 0 (some 3)
  let _ ← run (· == 35) 1 (some 6)
  let _ ← run isSpace 1 none
  let _ ← run (fun c => !isSpace c) 1 (some 1)
  return ()

/-- Where `_HEADING.finditer` matches, from a position on that starts a line or not, after
    characters still to be skipped. -/
def headingsFrom : Nat → Nat → Bool → Text → List Nat
  | _,_,_,[] => []
  | position,skipped + 1,_,c :: rest => headingsFrom (position + 1) skipped (c == 10) rest
  | position,0,starts,c :: rest =>
    match (if starts then heading (c :: rest) else none) with
    | none => headingsFrom (position + 1) 0 (c == 10) rest
    | some found => position :: headingsFrom (position + 1) (rest.length - found.2.length) (c == 10) rest

def headingPositions (text : Text) : List Nat := headingsFrom 0 0 true text

/-- `text[start:stop]`. -/
def slice (text : Text) (start stop : Nat) : Text := (text.take stop).drop start

/-- A text from each boundary to the next, or to its end. -/
def cutAt (text : Text) : List Nat → List Text
  | [] => []
  | [start] => [slice text start text.length]
  | start :: stop :: rest => slice text start stop :: cutAt text (stop :: rest)

/-- The boundaries of sections: a preamble before the first heading is a section of its own. -/
def boundaries (positions : List Nat) : List Nat := (if 0 < positions.headD 0 then [0] else []) ++ positions

/-- `text.split("\n\n")`. -/
def splitBlocks : Text → List Text
  | [] => [[]]
  | [c] => [[c]]
  | c :: d :: rest =>
    if c = 10 ∧ d = 10 then [] :: splitBlocks rest
    else match splitBlocks (d :: rest) with
      | [] => [[c]]
      | first :: others => (c :: first) :: others

/-- Split a document into structural sections, preferring headings. -/
def splitSections (text : Text) : List Text :=
  ((if headingPositions text = [] then splitBlocks text else cutAt text (boundaries (headingPositions text))).map strip).filter (· ≠ [])

/-! ### The chunker -/

/-- A chunker, whose overlap is smaller than its chunks. -/
structure Chunker where
  maxCharacters : Nat
  overlapCharacters : Nat
  smaller : overlapCharacters < maxCharacters

/-- The validated constructor. -/
def chunker (maxCharacters overlapCharacters : Nat) : Except PyError Chunker :=
  if smaller : overlapCharacters < maxCharacters then .ok ⟨maxCharacters,overlapCharacters,smaller⟩ else .error .ValueError

/-- `text.rfind(" ", start, stop)`. -/
def rfindBlank (text : Text) (start : Nat) : Nat → Option Nat
  | 0 => none
  | stop + 1 => if start ≤ stop ∧ text[stop]? = some 32 then some stop else rfindBlank text start stop

namespace Chunker
variable (chunker : Chunker)

/-- Merge consecutive small sections, from a buffer on. -/
def packFrom : Text → List Text → List Text
  | buffer,[] => if buffer = [] then [] else [buffer]
  | buffer,piece :: rest =>
    if buffer = [] then packFrom piece rest
    else if buffer.length + piece.length + 2 ≤ chunker.maxCharacters then packFrom (buffer ++ [10,10] ++ piece) rest
    else buffer :: packFrom piece rest

def pack (sections : List Text) : List Text := chunker.packFrom [] sections

def stride : Nat := chunker.maxCharacters - chunker.overlapCharacters

/-- Where the part that starts at a position ends: at a blank, if there is one late enough. -/
def partEnd (whole : Text) (start : Nat) : Nat :=
  let stop := min (start + chunker.maxCharacters) whole.length
  if stop < whole.length then
    match rfindBlank whole (start + chunker.stride) stop with
    | none => stop
    | some boundary => if start < boundary then boundary else stop
  else stop

/-- The parts of an oversized section from a position on. Every start is later than the one
    before, so the loop ends. -/
def partsFrom (whole : Text) (start : Nat) : List Text :=
  if _inside : start < whole.length then
    strip (slice whole start (chunker.partEnd whole start)) ::
      if whole.length ≤ chunker.partEnd whole start then []
      else partsFrom whole (max (chunker.partEnd whole start - chunker.overlapCharacters) (start + 1))
  else []
termination_by whole.length - start

/-- Split an oversized section on whitespace, with overlap for continuity. -/
def splitOversized (whole : Text) : List Text := (chunker.partsFrom whole 0).filter (· ≠ [])

end Chunker

/-- The record of a passage. -/
def record (document : SourceDocument) (content : Text) (ordinal : Nat) (parentChunkId : Option Text) : KnowledgeChunkRecord where
  chunkId := document.documentId ++ lit "#" ++ lit (toString ordinal)
  documentId := document.documentId
  title := some document.title
  content
  metadata := document.metadata
  ordinal
  parentChunkId

/-- Records numbered on from an ordinal. -/
def recordsFrom (document : SourceDocument) (parentChunkId : Option Text) : Nat → List Text → List KnowledgeChunkRecord
  | _,[] => []
  | ordinal,content :: rest => record document content ordinal parentChunkId :: recordsFrom document parentChunkId (ordinal + 1) rest

namespace Chunker
variable (chunker : Chunker)

/-- The records of the packed sections, with so many records before them. -/
def chunkFrom (document : SourceDocument) : Nat → List Text → List KnowledgeChunkRecord
  | _,[] => []
  | ordinal,whole :: rest =>
    if whole.length ≤ chunker.maxCharacters then record document whole ordinal none :: chunkFrom document (ordinal + 1) rest
    else
      let parts := chunker.splitOversized whole
      recordsFrom document (some (document.documentId ++ lit "#s" ++ lit (toString ordinal))) ordinal parts ++
        chunkFrom document (ordinal + parts.length) rest

/-- Chunk a document, preserving its structural boundaries. -/
def chunk (document : SourceDocument) : List KnowledgeChunkRecord :=
  if cleanText document.content = [] then []
  else chunker.chunkFrom document 0 (chunker.pack (splitSections (cleanText document.content)))

end Chunker

/-! ### What trimming keeps -/

/-- The characters of a text that are not whitespace. -/
def ink (text : Text) : Text := text.filter fun c => !isSpace c

@[simp] theorem ink_append (text more : Text) : ink (text ++ more) = ink text ++ ink more := List.filter_append ..

theorem ink_blank {text : Text} : ink text = [] ↔ ∀ c ∈ text, isSpace c = true := by
  simp [ink,List.filter_eq_nil_iff]

theorem ink_strip (text : Text) : ink (strip text) = ink text := by
  obtain ⟨before,after,left,right,whole⟩ := strip_within text
  have inked : ink (before ++ strip text ++ after) = ink (strip text) := by
    rw [ink_append,ink_append,ink_blank.mpr left,ink_blank.mpr right,List.nil_append,List.append_nil]
  rw [← inked,whole]

/-- A trimmed text is empty just when there was nothing but whitespace. -/
theorem strip_eq_nil {text : Text} : strip text = [] ↔ ink text = [] := by
  constructor
  · intro empty
    rw [← ink_strip,empty]
    rfl
  · intro blank
    by_contra some
    obtain ⟨c,rest,shape⟩ := List.exists_cons_of_ne_nil some
    have front : strip text <+: text.dropWhile isSpace := List.rdropWhile_prefix isSpace _
    rw [shape] at front
    obtain ⟨more,start⟩ := front
    have solid := List.head?_dropWhile_not isSpace text
    rw [← start] at solid
    have member : c ∈ text := List.dropWhile_sublist isSpace |>.subset (start ▸ by simp)
    have spaced := ink_blank.mp blank c member
    simp [spaced] at solid

theorem rdropWhile_append (p : Nat → Bool) (text more : Text) :
    (text ++ more).rdropWhile p = if more.rdropWhile p = [] then text.rdropWhile p else text ++ more.rdropWhile p := by
  simp only [List.rdropWhile,List.reverse_append,List.dropWhile_append,List.reverse_eq_nil_iff,List.isEmpty_iff]
  split_ifs
  · rfl
  · rw [List.reverse_append,List.reverse_reverse]

/-- A front that is trimmed opens the trimmed whole. -/
theorem strip_prefix (text more : Text) : strip text <+: strip (text ++ more) := by
  by_cases blank : text.dropWhile isSpace = []
  · have empty : strip text = [] := by rw [strip,blank]; rfl
    rw [empty]
    exact List.nil_prefix
  · have kept : (text ++ more).dropWhile isSpace = text.dropWhile isSpace ++ more := by
      rw [List.dropWhile_append,if_neg (by simpa using blank)]
    rw [strip,strip,kept,rdropWhile_append]
    split_ifs
    · exact List.prefix_rfl
    · exact (List.rdropWhile_prefix isSpace _).trans (List.prefix_append _ _)

theorem strip_rdropWhile (text : Text) : strip text <:+ text.rdropWhile isSpace := by
  have whole := rdropWhile_append isSpace (text.takeWhile isSpace) (text.dropWhile isSpace)
  rw [List.takeWhile_append_dropWhile] at whole
  rw [whole,strip]
  split_ifs with empty
  · rw [empty]
    exact List.nil_suffix
  · exact List.suffix_append _ _

theorem strip_suffix (before text : Text) : strip text <:+ strip (before ++ text) := by
  by_cases blank : before.dropWhile isSpace = []
  · rw [strip,strip,List.dropWhile_append,if_pos (by simpa using blank)]
  · have trimmed : strip (before ++ text) = if text.rdropWhile isSpace = [] then (before.dropWhile isSpace).rdropWhile isSpace
        else before.dropWhile isSpace ++ text.rdropWhile isSpace := by
      rw [strip,List.dropWhile_append,if_neg (by simpa using blank),rdropWhile_append]
    have late := strip_rdropWhile text
    rw [trimmed]
    split_ifs with empty
    · rw [empty] at late
      exact List.suffix_nil.mp late ▸ List.nil_suffix
    · exact late.trans (List.suffix_append _ _)

/-! ### Sections keep the text -/

theorem slice_drop {text : Text} {start stop : Nat} (forward : start ≤ stop) (inside : stop ≤ text.length) :
    slice text start stop ++ text.drop stop = text.drop start := by
  have whole := congrArg (List.drop start) (List.take_append_drop stop text)
  rwa [List.drop_append_of_le_length (by rw [List.length_take]; omega)] at whole

/-- The pieces between ascending boundaries make up the text from the first one on. -/
theorem cutAt_flatten {text : Text} {start : Nat} {rest : List Nat} (ascending : (start :: rest).Pairwise (· ≤ ·))
    (inside : ∀ position ∈ start :: rest, position ≤ text.length) : (cutAt text (start :: rest)).flatten = text.drop start := by
  induction rest generalizing start with
  | nil => simp [cutAt,slice]
  | cons stop rest ih =>
    rw [cutAt,List.flatten_cons,ih ascending.of_cons fun position member => inside position (List.mem_cons_of_mem _ member)]
    exact slice_drop (List.rel_of_pairwise_cons ascending (by simp)) (inside stop (by simp))

/-- The headings of a text start in it, one after the other. -/
theorem headingsFrom_ascending (position skipped : Nat) (starts : Bool) (text : Text) :
    (headingsFrom position skipped starts text).Pairwise (· < ·) ∧
      ∀ found ∈ headingsFrom position skipped starts text, position ≤ found ∧ found < position + text.length := by
  induction text generalizing position skipped starts with
  | nil => cases skipped <;> exact ⟨.nil,nofun⟩
  | cons c rest ih =>
    have onward : ∀ skipped, (headingsFrom (position + 1) skipped (c == 10) rest).Pairwise (· < ·) ∧
        ∀ found ∈ headingsFrom (position + 1) skipped (c == 10) rest, position < found ∧ found < position + (c :: rest).length := by
      intro skipped
      obtain ⟨sorted,bounds⟩ := ih (position + 1) skipped (c == 10)
      refine ⟨sorted,fun found member => ?_⟩
      have bound := bounds found member
      rw [List.length_cons]
      omega
    cases skipped with
    | succ skipped =>
      obtain ⟨sorted,bounds⟩ := onward skipped
      exact ⟨sorted,fun found member => ⟨(bounds found member).1.le,(bounds found member).2⟩⟩
    | zero =>
      simp only [headingsFrom]
      split
      · obtain ⟨sorted,bounds⟩ := onward 0
        exact ⟨sorted,fun found member => ⟨(bounds found member).1.le,(bounds found member).2⟩⟩
      · rename_i matched _
        obtain ⟨sorted,bounds⟩ := onward (rest.length - matched.2.length)
        refine ⟨List.pairwise_cons.mpr ⟨fun found member => (bounds found member).1,sorted⟩,?_⟩
        intro found member
        rcases List.mem_cons.mp member with rfl | later
        · exact ⟨le_rfl,by rw [List.length_cons]; omega⟩
        · exact ⟨(bounds found later).1.le,(bounds found later).2⟩

/-- The boundaries ascend from the start of the text. -/
theorem boundaries_ascending {text : Text} (some : headingPositions text ≠ []) :
    ∃ rest, boundaries (headingPositions text) = 0 :: rest ∧ (0 :: rest).Pairwise (· ≤ ·) ∧ ∀ position ∈ 0 :: rest, position ≤ text.length := by
  obtain ⟨sorted,bounds⟩ := headingsFrom_ascending 0 0 true text
  rw [← headingPositions] at sorted bounds
  obtain ⟨first,others,shape⟩ := List.exists_cons_of_ne_nil some
  rw [shape] at sorted bounds ⊢
  have inside : ∀ position ∈ first :: others, position ≤ text.length := by
    intro position member
    have bound := (bounds position member).2
    omega
  have weak : (first :: others).Pairwise (· ≤ ·) := sorted.imp Nat.le_of_lt
  by_cases later : 0 < first
  · refine ⟨first :: others,by simp [boundaries,later],List.pairwise_cons.mpr ⟨fun position _ => Nat.zero_le position,weak⟩,?_⟩
    intro position member
    rcases List.mem_cons.mp member with rfl | heading
    · exact Nat.zero_le _
    · exact inside position heading
  · obtain rfl : first = 0 := by omega
    exact ⟨others,by simp [boundaries],weak,inside⟩

theorem ink_flatten (pieces : List Text) : pieces.flatMap ink = ink pieces.flatten := by
  induction pieces with
  | nil => rfl
  | cons piece rest ih => rw [List.flatMap_cons,List.flatten_cons,ink_append,ih]

theorem splitBlocks_ink (text : Text) : (splitBlocks text).flatMap ink = ink text := by
  induction text using splitBlocks.induct with
  | case1 => rfl
  | case2 c => simp [splitBlocks]
  | case3 c d rest both ih =>
    obtain ⟨rfl,rfl⟩ := both
    have blank : ink [10,10] = [] := by decide
    rw [splitBlocks,if_pos ⟨rfl,rfl⟩,List.flatMap_cons,ih]
    exact (congrArg (· ++ ink rest) blank).symm.trans (ink_append [10,10] rest).symm
  | case4 c d rest apart empty ih =>
    rw [splitBlocks,if_neg apart,empty]
    rw [empty] at ih
    rw [List.flatMap_nil] at ih
    simpa [← ih] using (ink_append [c] (d :: rest)).symm
  | case5 c d rest apart first others found ih =>
    rw [splitBlocks,if_neg apart,found]
    rw [found,List.flatMap_cons] at ih
    rw [List.flatMap_cons]
    have front := ink_append [c] first
    have whole := ink_append [c] (d :: rest)
    rw [List.singleton_append] at front whole
    rw [front,whole,← ih,List.append_assoc]

/-- The sections together have the characters of the text. -/
theorem splitSections_ink (text : Text) : (splitSections text).flatMap ink = ink text := by
  have kept : ∀ pieces : List Text, ((pieces.map strip).filter (· ≠ [])).flatMap ink = pieces.flatMap ink := by
    intro pieces
    induction pieces with
    | nil => rfl
    | cons piece rest ih =>
      rw [List.flatMap_cons,← ih,← ink_strip piece]
      by_cases empty : strip piece = []
      · simp [empty,ink]
      · simp [empty]
  rw [splitSections,kept]
  split_ifs with none
  · exact splitBlocks_ink text
  · obtain ⟨rest,shape,ascending,inside⟩ := boundaries_ascending none
    rw [shape,ink_flatten,cutAt_flatten ascending inside,List.drop_zero]

/-- No section is blank. -/
theorem splitSections_inked {text piece : Text} (member : piece ∈ splitSections text) : ink piece ≠ [] := by
  obtain ⟨listed,some⟩ := List.mem_filter.mp member
  obtain ⟨raw,_,rfl⟩ := List.mem_map.mp listed
  rw [ink_strip]
  exact fun blank => absurd (strip_eq_nil.mpr blank) (by simpa using some)

/-! ### Packing keeps the text -/

namespace Chunker
variable (chunker : Chunker)

theorem packFrom_ink (buffer : Text) (sections : List Text) :
    (chunker.packFrom buffer sections).flatMap ink = ink buffer ++ sections.flatMap ink := by
  induction sections generalizing buffer with
  | nil =>
    by_cases empty : buffer = []
    · simp [packFrom,empty,ink]
    · simp [packFrom,empty]
  | cons piece rest ih =>
    have breaks : ink [10,10] = [] := by decide
    simp only [packFrom]
    split_ifs with empty fits
    · rw [ih,empty]
      rfl
    · rw [ih,ink_append,ink_append,breaks,List.append_nil,List.append_assoc,List.flatMap_cons]
    · rw [List.flatMap_cons,ih,List.flatMap_cons]

theorem packFrom_inked {buffer : Text} {sections : List Text} (buffered : buffer = [] ∨ ink buffer ≠ [])
    (each : ∀ piece ∈ sections, ink piece ≠ []) : ∀ packed ∈ chunker.packFrom buffer sections, ink packed ≠ [] := by
  induction sections generalizing buffer with
  | nil =>
    intro packed member
    simp only [packFrom] at member
    split_ifs at member with empty
    · cases member
    · rw [List.mem_singleton.mp member]
      exact buffered.resolve_left empty
  | cons piece rest ih =>
    have first := each piece (by simp)
    have later := fun {buffer : Text} (some : buffer = [] ∨ ink buffer ≠ []) => ih some fun other member => each other (List.mem_cons_of_mem _ member)
    intro packed member
    simp only [packFrom] at member
    split_ifs at member with empty fits
    · exact later (.inr first) packed member
    · refine later (.inr fun blank => first ?_) packed member
      rw [ink_append] at blank
      exact (List.append_eq_nil_iff.mp blank).2
    · rcases List.mem_cons.mp member with rfl | next
      · exact buffered.resolve_left empty
      · exact later (.inr first) packed next

end Chunker

/-! ### Splitting an oversized section -/

theorem rfindBlank_some {text : Text} {start stop boundary : Nat} (found : rfindBlank text start stop = some boundary) :
    start ≤ boundary ∧ boundary < stop ∧ text[boundary]? = some 32 ∧ ∀ i, boundary < i → i < stop → text[i]? ≠ some 32 := by
  induction stop with
  | zero => cases found
  | succ stop ih =>
    rw [rfindBlank] at found
    split_ifs at found with here
    · cases found
      exact ⟨here.1,Nat.lt_succ_self _,here.2,fun i above below => by omega⟩
    · obtain ⟨after,before,blank,last⟩ := ih found
      refine ⟨after,by omega,blank,fun i above below => ?_⟩
      by_cases final : i = stop
      · subst final
        exact fun same => here ⟨by omega,same⟩
      · exact last i above (by omega)

theorem rfindBlank_none {text : Text} {start stop : Nat} (found : rfindBlank text start stop = none) :
    ∀ i, start ≤ i → i < stop → text[i]? ≠ some 32 := by
  induction stop with
  | zero => intro i _ below; omega
  | succ stop ih =>
    rw [rfindBlank] at found
    split_ifs at found with here
    intro i after below
    by_cases final : i = stop
    · subst final
      exact fun same => here ⟨after,same⟩
    · exact ih found i after (by omega)

namespace Chunker
variable {chunker : Chunker} {whole : Text} {start done : Nat}

theorem stride_spec (chunker : Chunker) : 0 < chunker.stride ∧ chunker.overlapCharacters + chunker.stride = chunker.maxCharacters := by
  have smaller := chunker.smaller
  unfold stride
  omega

/-- Where a part ends: with the section, at the limit when no blank is late enough, or at the
    last such blank. -/
theorem partEnd_cases (chunker : Chunker) (whole : Text) (start : Nat) :
    (whole.length ≤ start + chunker.maxCharacters ∧ chunker.partEnd whole start = whole.length) ∨
      (start + chunker.maxCharacters < whole.length ∧ chunker.partEnd whole start = start + chunker.maxCharacters ∧
        ∀ i, start + chunker.stride ≤ i → i < start + chunker.maxCharacters → whole[i]? ≠ some 32) ∨
      (start + chunker.maxCharacters < whole.length ∧ start + chunker.stride ≤ chunker.partEnd whole start ∧
        chunker.partEnd whole start < start + chunker.maxCharacters ∧ whole[chunker.partEnd whole start]? = some 32 ∧
        ∀ i, chunker.partEnd whole start < i → i < start + chunker.maxCharacters → whole[i]? ≠ some 32) := by
  obtain ⟨positive,_⟩ := chunker.stride_spec
  by_cases short : whole.length ≤ start + chunker.maxCharacters
  · refine .inl ⟨short,?_⟩
    simp only [partEnd,Nat.min_eq_right short,Nat.lt_irrefl,if_false]
  · have long : start + chunker.maxCharacters < whole.length := by omega
    refine .inr ?_
    cases found : rfindBlank whole (start + chunker.stride) (start + chunker.maxCharacters) with
    | none =>
      refine .inl ⟨long,?_,rfindBlank_none found⟩
      simp only [partEnd,Nat.min_eq_left long.le,long,if_true,found]
    | some boundary =>
      obtain ⟨after,before,blank,last⟩ := rfindBlank_some found
      have ends : chunker.partEnd whole start = boundary := by
        have late : start < boundary := by omega
        simp only [partEnd,Nat.min_eq_left long.le,long,if_true,found,late]
      rw [ends]
      exact .inr ⟨long,after,before,blank,last⟩

theorem partEnd_bounds (chunker : Chunker) {whole : Text} {start : Nat} (inside : start < whole.length) :
    start < chunker.partEnd whole start ∧ chunker.partEnd whole start ≤ whole.length ∧
      chunker.partEnd whole start ≤ start + chunker.maxCharacters := by
  obtain ⟨positive,_⟩ := chunker.stride_spec
  rcases chunker.partEnd_cases whole start with ⟨_,ends⟩ | ⟨_,ends,_⟩ | ⟨_,_,_,_,_⟩ <;> omega

/-- A start at which nothing before `done` is new. No gap is left, and the blank that ended
    the part before is found again. -/
structure Ready (chunker : Chunker) (whole : Text) (start done : Nat) : Prop where
  reached : start ≤ done
  within : done < start + chunker.maxCharacters
  inside : done < whole.length
  ended : whole[done]? = some 32 ∨ ∀ i, start + chunker.stride ≤ i → i < done → whole[i]? ≠ some 32

variable {chunker : Chunker} {whole : Text} {start done : Nat}

theorem Ready.onward (ready : Ready chunker whole start done) : done ≤ chunker.partEnd whole start := by
  have within := ready.within
  have inside := ready.inside
  rcases chunker.partEnd_cases whole start with ⟨_,ends⟩ | ⟨_,ends,_⟩ | ⟨_,late,_,blank,last⟩
  · omega
  · omega
  · by_contra back
    rcases ready.ended with here | free
    · exact last done (by omega) within here
    · exact free _ late (by omega) blank

theorem Ready.next (chunker : Chunker) (inside : start < whole.length) (more : chunker.partEnd whole start < whole.length) :
    Ready chunker whole (max (chunker.partEnd whole start - chunker.overlapCharacters) (start + 1)) (chunker.partEnd whole start) := by
  obtain ⟨positive,total⟩ := chunker.stride_spec
  obtain ⟨later,_,_⟩ := chunker.partEnd_bounds inside
  rcases chunker.partEnd_cases whole start with ⟨_,ends⟩ | ⟨_,ends,free⟩ | ⟨_,_,_,blank,_⟩
  · omega
  · exact ⟨by omega,by omega,more,.inr fun i after before => free i (by omega) (by omega)⟩
  · exact ⟨by omega,by omega,more,.inl blank⟩

end Chunker

/-! ### What each part adds -/

/-- Parts as what ends the part before and what is new. -/
def Continues : Text → List (Text × Text) → Prop
  | _,[] => True
  | previous,part :: rest => part.1 <:+ previous ∧ Continues (part.1 ++ part.2) rest

theorem slice_append {text : Text} {start middle stop : Nat} (first : start ≤ middle) (second : middle ≤ stop) (inside : middle ≤ text.length) :
    slice text start middle ++ slice text middle stop = slice text start stop := by
  have cut : middle ≤ (text.take stop).length := by rw [List.length_take]; omega
  have whole := slice_drop first cut
  have same : slice (text.take stop) start middle = slice text start middle := by
    rw [slice,slice,List.take_take,Nat.min_eq_left second]
  rwa [same] at whole

theorem slice_length_le (text : Text) (start stop : Nat) : (slice text start stop).length ≤ stop - start := by
  rw [slice,List.length_drop,List.length_take]
  omega

namespace Chunker
variable {chunker : Chunker}

/-- The parts from a start on continue the part before and add the rest of the section. -/
theorem partsFrom_continues {whole : Text} {start done : Nat} (ready : Ready chunker whole start done) {previous : Text}
    (shared : strip (slice whole start done) <:+ previous) :
    ∃ parts : List (Text × Text), (chunker.partsFrom whole start).filter (· ≠ []) = parts.map (fun part => part.1 ++ part.2) ∧
      Continues previous parts ∧ parts.flatMap (fun part => ink part.2) = ink (whole.drop done) := by
  induction remaining : whole.length - start using Nat.strong_induction_on generalizing start done previous with
  | _ n ih =>
    have inside : start < whole.length := ready.reached.trans_lt ready.inside
    have onward := ready.onward
    obtain ⟨later,within,_⟩ := chunker.partEnd_bounds inside
    rw [partsFrom,dif_pos inside]
    generalize ends : chunker.partEnd whole start = stop at onward later within
    have split := slice_append ready.reached onward ready.inside.le
    obtain ⟨fresh,glued⟩ := strip_prefix (slice whole start done) (slice whole done stop)
    rw [split] at glued
    have added : ink fresh = ink (slice whole done stop) := by
      have total := congrArg ink glued
      rw [ink_append,ink_strip,ink_strip,← split,ink_append] at total
      exact List.append_cancel_left total
    have left : ink (whole.drop done) = ink fresh ++ ink (whole.drop stop) := by
      rw [added,← ink_append,slice_drop onward within]
    -- The parts after this one continue whatever was kept last.
    have rest : ∀ before, strip (slice whole start stop) <:+ before → ∃ parts : List (Text × Text),
        (if whole.length ≤ stop then [] else chunker.partsFrom whole (max (stop - chunker.overlapCharacters) (start + 1))).filter (· ≠ []) =
          parts.map (fun part => part.1 ++ part.2) ∧
        Continues before parts ∧ parts.flatMap (fun part => ink part.2) = ink (whole.drop stop) := by
      intro before kept
      by_cases last : whole.length ≤ stop
      · rw [if_pos last,List.drop_eq_nil_of_le last]
        exact ⟨[],rfl,trivial,rfl⟩
      · rw [if_neg last]
        have next := Ready.next chunker inside (by omega)
        rw [ends] at next
        refine ih _ (by omega) next ?_ rfl
        have tail : slice whole start _ ++ slice whole _ stop = slice whole start stop := slice_append (by omega) next.reached (by omega)
        rw [← tail] at kept
        exact (strip_suffix _ _).trans kept
    by_cases blank : strip (slice whole start stop) = []
    · obtain ⟨parts,texts,chain,total⟩ := rest previous (blank ▸ List.nil_suffix)
      have nothing : fresh = [] := by
        rw [blank] at glued
        exact (List.append_eq_nil_iff.mp glued).2
      refine ⟨parts,?_,chain,?_⟩
      · rw [List.filter_cons_of_neg (by simp [blank]),texts]
      · rw [left,total,nothing]
        rfl
    · obtain ⟨parts,texts,chain,total⟩ := rest _ List.suffix_rfl
      refine ⟨(strip (slice whole start done),fresh) :: parts,?_,⟨shared,?_⟩,?_⟩
      · rw [List.filter_cons_of_pos (by simp [blank]),texts,List.map_cons,glued]
      · exact glued ▸ chain
      · rw [List.flatMap_cons,total,left]

theorem splitOversized_continues {whole : Text} (some : 0 < whole.length) :
    ∃ parts : List (Text × Text), chunker.splitOversized whole = parts.map (fun part => part.1 ++ part.2) ∧ Continues [] parts ∧
      parts.flatMap (fun part => ink part.2) = ink whole := by
  have room : 0 < chunker.maxCharacters := chunker.smaller.trans_le' (Nat.zero_le _)
  have ready : Ready chunker whole 0 0 := ⟨le_rfl,by omega,some,.inr fun i _ below => by omega⟩
  have nothing : strip (slice whole 0 0) = [] := by simp [slice,strip]
  exact partsFrom_continues ready (by rw [nothing])

/-- Every part is a trimmed piece of the section that is no longer than a chunk may be. -/
theorem partsFrom_pieces (whole : Text) (start : Nat) :
    ∀ part ∈ chunker.partsFrom whole start, ∃ piece, part = strip piece ∧ piece.length ≤ chunker.maxCharacters := by
  induction remaining : whole.length - start using Nat.strong_induction_on generalizing start with
  | _ n ih =>
    intro part member
    by_cases inside : start < whole.length
    · obtain ⟨_,_,limit⟩ := chunker.partEnd_bounds inside
      have short := slice_length_le whole start (chunker.partEnd whole start)
      rw [partsFrom,dif_pos inside] at member
      rcases List.mem_cons.mp member with rfl | later
      · exact ⟨_,rfl,by omega⟩
      · split_ifs at later with last
        · cases later
        · exact ih _ (by omega) _ rfl part later
    · rw [partsFrom,dif_neg inside] at member
      cases member

/-- The parts of a section fit a chunk and are not blank. -/
theorem splitOversized_fits {whole part : Text} (member : part ∈ chunker.splitOversized whole) :
    part.length ≤ chunker.maxCharacters ∧ ink part ≠ [] := by
  obtain ⟨listed,some⟩ := List.mem_filter.mp member
  obtain ⟨piece,rfl,limit⟩ := partsFrom_pieces whole 0 part listed
  refine ⟨(strip_sublist piece).length_le.trans limit,?_⟩
  rw [ink_strip]
  exact fun blank => absurd (strip_eq_nil.mpr blank) (by simpa using some)

end Chunker

/-! ### The records -/

theorem mem_recordsFrom {document : SourceDocument} {parent : Option Text} {ordinal : Nat} {contents : List Text}
    {chunk : KnowledgeChunkRecord} (member : chunk ∈ recordsFrom document parent ordinal contents) :
    ∃ content ∈ contents, ∃ n, chunk = record document content n parent := by
  induction contents generalizing ordinal with
  | nil => cases member
  | cons content rest ih =>
    rcases List.mem_cons.mp member with rfl | later
    · exact ⟨content,by simp,ordinal,rfl⟩
    · obtain ⟨other,listed,made⟩ := ih later
      exact ⟨other,List.mem_cons_of_mem _ listed,made⟩

theorem ordinals_recordsFrom (document : SourceDocument) (parent : Option Text) (ordinal : Nat) (contents : List Text) :
    (recordsFrom document parent ordinal contents).map (·.ordinal) = List.range' ordinal contents.length := by
  induction contents generalizing ordinal with
  | nil => rfl
  | cons content rest ih => rw [recordsFrom,List.map_cons,ih]; rfl

/-- A prefix that a chunk shares with the one before it: none, unless both are parts of one
    section, and else one that ends the part before. -/
def Shares (previous : Option KnowledgeChunkRecord) (chunk : KnowledgeChunkRecord) (shared : Text) : Prop :=
  shared = [] ∨ ∃ before, previous = some before ∧ chunk.parentChunkId.isSome ∧ before.parentChunkId = chunk.parentChunkId ∧
    shared <:+ before.content

/-- The characters that are left of chunks, in order, without the prefix that each shares with
    the one before it. -/
inductive Adds : Option KnowledgeChunkRecord → List KnowledgeChunkRecord → Text → Prop where
  | stop (previous : Option KnowledgeChunkRecord) : Adds previous [] []
  | go {previous : Option KnowledgeChunkRecord} {chunk : KnowledgeChunkRecord} {rest : List KnowledgeChunkRecord}
      {shared fresh characters : Text} (content : chunk.content = shared ++ fresh) (shares : Shares previous chunk shared)
      (later : Adds (some chunk) rest characters) : Adds previous (chunk :: rest) (ink fresh ++ characters)

theorem recordsFrom_adds {document : SourceDocument} {parent : Text} {rest : List KnowledgeChunkRecord} {characters : Text}
    (after : ∀ previous, Adds previous rest characters) (ordinal : Nat) {parts : List (Text × Text)} {text : Text}
    (chain : Continues text parts) {previous : Option KnowledgeChunkRecord}
    (last : text = [] ∨ ∃ before, previous = some before ∧ before.parentChunkId = some parent ∧ before.content = text) :
    Adds previous (recordsFrom document (some parent) ordinal (parts.map fun part => part.1 ++ part.2) ++ rest)
      (parts.flatMap (fun part => ink part.2) ++ characters) := by
  induction parts generalizing ordinal text previous with
  | nil => exact after previous
  | cons part more ih =>
    obtain ⟨shared,later⟩ := chain
    rw [List.flatMap_cons,List.append_assoc]
    refine .go rfl ?_ (ih (ordinal + 1) later (.inr ⟨_,rfl,rfl,rfl⟩))
    rcases last with rfl | ⟨before,rfl,parts,rfl⟩
    · exact .inl (List.suffix_nil.mp shared)
    · exact .inr ⟨before,rfl,rfl,parts,shared⟩

namespace Chunker
variable (chunker : Chunker) (document : SourceDocument)

theorem chunkFrom_adds (ordinal : Nat) {sections : List Text} (each : ∀ whole ∈ sections, ink whole ≠ [])
    (previous : Option KnowledgeChunkRecord) : Adds previous (chunker.chunkFrom document ordinal sections) (sections.flatMap ink) := by
  induction sections generalizing ordinal previous with
  | nil => exact .stop previous
  | cons whole rest ih =>
    have later := fun ordinal => ih ordinal fun other member => each other (List.mem_cons_of_mem _ member)
    simp only [chunkFrom]
    split_ifs with short
    · exact .go rfl (.inl rfl) (later (ordinal + 1) _)
    · have some : 0 < whole.length := by omega
      obtain ⟨parts,texts,chain,total⟩ := @splitOversized_continues chunker whole some
      rw [List.flatMap_cons,← total]
      rw [texts]
      exact recordsFrom_adds (later _) ordinal chain (.inl rfl)

theorem ordinals_chunkFrom (ordinal : Nat) (sections : List Text) :
    (chunker.chunkFrom document ordinal sections).map (·.ordinal) =
      List.range' ordinal (chunker.chunkFrom document ordinal sections).length := by
  induction sections generalizing ordinal with
  | nil => rfl
  | cons whole rest ih =>
    simp only [chunkFrom]
    split_ifs with short
    · rw [List.map_cons,ih,List.length_cons,List.range'_succ]
      rfl
    · have count : ∀ (parent : Option Text) (contents : List Text), (recordsFrom document parent ordinal contents).length = contents.length := by
        intro parent contents
        simpa using congrArg List.length (ordinals_recordsFrom document parent ordinal contents)
      rw [List.map_append,ordinals_recordsFrom,ih,List.length_append,count,List.range'_append_1]

theorem mem_chunkFrom {ordinal : Nat} {sections : List Text} (each : ∀ whole ∈ sections, ink whole ≠ []) {chunk : KnowledgeChunkRecord}
    (member : chunk ∈ chunker.chunkFrom document ordinal sections) :
    ∃ content n parent, chunk = record document content n parent ∧ content.length ≤ chunker.maxCharacters ∧ ink content ≠ [] := by
  induction sections generalizing ordinal with
  | nil => cases member
  | cons whole rest ih =>
    have others := fun other (listed : other ∈ rest) => each other (List.mem_cons_of_mem _ listed)
    simp only [chunkFrom] at member
    split_ifs at member with short
    · rcases List.mem_cons.mp member with rfl | next
      · exact ⟨whole,ordinal,none,rfl,short,each whole (by simp)⟩
      · exact ih others next
    · rcases List.mem_append.mp member with part | next
      · obtain ⟨content,listed,n,made⟩ := mem_recordsFrom part
        exact ⟨content,n,_,made,splitOversized_fits listed⟩
      · exact ih others next

end Chunker

/-! ### Chunking a document -/

theorem number_injective {n m : Nat} (same : lit (toString n) = lit (toString m)) : n = m := by
  have bare : ∀ n, Times.padded 0 n = lit (toString n) := fun n => by rw [Times.padded,Nat.zero_sub,List.replicate_zero,List.nil_append]
  rw [← bare,← bare] at same
  exact Calendar.padded_injective same

/-- What the chunks of a document are. -/
structure Chunked (chunker : Chunker) (document : SourceDocument) (chunks : List KnowledgeChunkRecord) : Prop where
  bounded : ∀ chunk ∈ chunks, chunk.content.length ≤ chunker.maxCharacters
  inked : ∀ chunk ∈ chunks, strip chunk.content ≠ []
  ordinals : chunks.map (·.ordinal) = List.range chunks.length
  ids : (chunks.map (·.chunkId)).Nodup
  lossless : Adds none chunks (ink (cleanText document.content))

/-- Every document is chunked within the limit, and nothing but whitespace is lost. -/
theorem chunk_chunked (chunker : Chunker) (document : SourceDocument) : Chunked chunker document (chunker.chunk document) := by
  unfold Chunker.chunk
  split_ifs with empty
  · refine ⟨by simp,by simp,rfl,List.nodup_nil,?_⟩
    rw [empty]
    exact .stop none
  · generalize sections : chunker.pack (splitSections (cleanText document.content)) = packed
    have each : ∀ whole ∈ packed, ink whole ≠ [] := sections ▸ chunker.packFrom_inked (.inl rfl) fun _ => splitSections_inked
    have kept : packed.flatMap ink = ink (cleanText document.content) := by
      rw [← sections,Chunker.pack,Chunker.packFrom_ink,splitSections_ink]
      rfl
    have ordinals := chunker.ordinals_chunkFrom document 0 packed
    have made : ∀ chunk ∈ chunker.chunkFrom document 0 packed, ∃ content n parent, chunk = record document content n parent ∧
        content.length ≤ chunker.maxCharacters ∧ ink content ≠ [] := fun chunk => chunker.mem_chunkFrom document each
    refine ⟨?_,?_,?_,?_,?_⟩
    · intro chunk member
      obtain ⟨content,n,parent,rfl,short,_⟩ := made chunk member
      exact short
    · intro chunk member
      obtain ⟨content,n,parent,rfl,_,inked⟩ := made chunk member
      exact fun blank => inked (strip_eq_nil.mp blank)
    · rw [ordinals,List.range_eq_range']
    · have ids : (chunker.chunkFrom document 0 packed).map (·.chunkId) =
          ((chunker.chunkFrom document 0 packed).map (·.ordinal)).map fun n => document.documentId ++ lit "#" ++ lit (toString n) := by
        rw [List.map_map]
        refine List.map_congr_left fun chunk member => ?_
        obtain ⟨content,n,parent,rfl,_,_⟩ := made chunk member
        rfl
      rw [ids,ordinals]
      exact List.Nodup.map (fun n m same => number_injective (List.append_cancel_left same)) List.nodup_range'
    · have adds := chunker.chunkFrom_adds document 0 each none
      rwa [kept] at adds

/-- The passages of a document as the pipeline takes them. -/
def Chunker.passages (chunker : Chunker) (document : SourceDocument) : List (Text × Option Text) :=
  (chunker.chunk document).map fun chunk => (chunk.content,chunk.parentChunkId)

/-- The pipeline with these passages indexes what the chunker makes. -/
theorem pipeline_chunk [Interpreter] {pipeline : Ingestion.IngestionPipeline} {chunker : Chunker} (configured : pipeline.passages = chunker.passages)
    (document : SourceDocument) : pipeline.chunk document = chunker.chunk document := by
  have ordinals := (chunk_chunked chunker document).ordinals
  have records : ∀ chunk ∈ chunker.chunk document, chunk = record document chunk.content chunk.ordinal chunk.parentChunkId := by
    intro chunk member
    unfold Chunker.chunk at member
    split_ifs at member with empty
    · cases member
    · have each : ∀ whole ∈ chunker.pack (splitSections (cleanText document.content)), ink whole ≠ [] :=
        chunker.packFrom_inked (.inl rfl) fun _ => splitSections_inked
      obtain ⟨content,n,parent,rfl,_⟩ := chunker.mem_chunkFrom document each member
      rfl
  rw [Ingestion.IngestionPipeline.chunk,configured,Chunker.passages]
  refine List.ext_getElem (by simp) fun i _ inside => ?_
  have position : (chunker.chunk document)[i].ordinal = i := by
    have found := congrArg (fun numbers => numbers[i]?) ordinals
    simpa [inside] using found
  rw [List.getElem_mapIdx,List.getElem_map]
  conv_rhs => rw [records _ (List.getElem_mem inside),position]
  rfl

end SocAnalyst.Chunking
