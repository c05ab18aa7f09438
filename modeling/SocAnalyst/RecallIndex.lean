import SocAnalyst.Detections
import SocAnalyst.Groups

/-!
# The recall index

`memory/history.py` with its repository in `backend/db/repositories/memory.py`: closed
investigations are indexed by what analysts pivot on, in process or in the database.
-/
namespace SocAnalyst.RecallIndex
open SocAnalyst.Builtins SocAnalyst.Dicts SocAnalyst.Iocs
open SocAnalyst.Detections (unique mem_unique unique_nodup)

/-- Dimension a closed investigation is indexed by for recall. -/
inductive MemoryIndexKind where
  | ASSET
  | IOC
  | TECHNIQUE
  | CVE
  deriving DecidableEq, Repr

/-- A prior investigation surfaced by the recall index. -/
structure RelatedInvestigation where
  investigationId : Text
  kind : MemoryIndexKind
  value : Text
  deriving DecidableEq

/-- What an investigation is indexed under. -/
abbrev Pointer := MemoryIndexKind × Text

/-- A call of `index_investigation`, with the time its transaction would begin. -/
structure Call where
  investigationId : Text
  values : List (MemoryIndexKind × List Text)
  now : Int

def Call.pointers (call : Call) : List Pointer := call.values.flatMap fun item => item.2.map fun value => (item.1,value)

/-! ### In process -/

/-- The investigations under each pointer, in the order they were indexed. -/
abbrev InMemoryIndex := Dict Pointer (List Text)

def addPointer (investigationId : Text) (index : InMemoryIndex) (pointer : Pointer) : InMemoryIndex :=
  index.set pointer (appendUnique ((index.get? pointer).getD []) investigationId)

/-- The index after a call. -/
def indexInMemory (index : InMemoryIndex) (call : Call) : InMemoryIndex := call.pointers.foldl (addPointer call.investigationId) index

def findInMemory (index : InMemoryIndex) (kind : MemoryIndexKind) (value : Text) (limit : Nat) : List RelatedInvestigation :=
  (((index.get? (kind,value)).getD []).take limit).map fun item => ⟨item,kind,value⟩

/-! ### In the database -/

/-- `investigation_memory_index`. -/
structure IndexRow where
  investigationId : Text
  pointer : Pointer
  createdAt : Int
  deriving DecidableEq

/-- `InvestigationMemoryIndexRepository.index`. -/
def addRow (investigationId : Text) (now : Int) (rows : List IndexRow) (pointer : Pointer) : List IndexRow :=
  if rows.any fun row => row.investigationId = investigationId ∧ row.pointer = pointer then rows
  else rows ++ [⟨investigationId,pointer,now⟩]

/-- The table after a call. -/
def indexSql (rows : List IndexRow) (call : Call) : List IndexRow := call.pointers.foldl (addRow call.investigationId call.now) rows

def matching (rows : List IndexRow) (pointer : Pointer) : List IndexRow := rows.filter fun row => row.pointer = pointer

/-- An answer of `find_related`: the newest rows first, in any order of those of one time. -/
def FindsSql (rows : List IndexRow) (kind : MemoryIndexKind) (value : Text) (limit : Nat) (answer : List RelatedInvestigation) : Prop :=
  ∃ ordered : List IndexRow, ordered.Perm (matching rows (kind,value)) ∧ (ordered.Pairwise fun first second => second.createdAt ≤ first.createdAt) ∧
    answer = (ordered.take limit).map fun row => ⟨row.investigationId,kind,value⟩

/-! ### What was indexed -/

/-- One pointer of an investigation. -/
structure Entry where
  investigationId : Text
  pointer : Pointer
  now : Int

def Call.entries (call : Call) : List Entry := call.pointers.map fun pointer => ⟨call.investigationId,pointer,call.now⟩

/-- The investigations indexed under a pointer, each once, in the order they first were. -/
def indexed (entries : List Entry) (pointer : Pointer) : List Text :=
  unique ((entries.filter fun entry => entry.pointer = pointer).map (·.investigationId))

theorem indexed_snoc (entries : List Entry) (entry : Entry) (pointer : Pointer) : indexed (entries ++ [entry]) pointer =
    if entry.pointer = pointer then appendUnique (indexed entries pointer) entry.investigationId else indexed entries pointer := by
  unfold indexed
  split_ifs with own
  · simp [own,unique]
  · simp [own]

theorem memory_entries (calls : List Call) (index : InMemoryIndex) : calls.foldl indexInMemory index =
    (calls.flatMap Call.entries).foldl (fun index entry => addPointer entry.investigationId index entry.pointer) index := by
  rw [List.foldl_flatMap]
  congr 1
  funext index call
  rw [indexInMemory,Call.entries,List.foldl_map]

theorem sql_entries (calls : List Call) (rows : List IndexRow) : calls.foldl indexSql rows =
    (calls.flatMap Call.entries).foldl (fun rows entry => addRow entry.investigationId entry.now rows entry.pointer) rows := by
  rw [List.foldl_flatMap]
  congr 1
  funext rows call
  rw [indexSql,Call.entries,List.foldl_map]

theorem memory_indexed (entries : List Entry) (pointer : Pointer) :
    ((entries.foldl (fun index entry => addPointer entry.investigationId index entry.pointer) Dict.empty).get? pointer).getD [] =
      indexed entries pointer := by
  induction entries using List.reverseRecOn with
  | nil => rfl
  | append_singleton entries entry ih =>
    rw [List.foldl_append,List.foldl_cons,List.foldl_nil,indexed_snoc,addPointer,Dict.get?_set]
    by_cases own : entry.pointer = pointer
    · rw [if_pos own.symm,if_pos own,own,ih]
      rfl
    · rw [if_neg (fun same => own same.symm),if_neg own,ih]

/-- The table after some entries. -/
def rowsOf (entries : List Entry) : List IndexRow := entries.foldl (fun rows entry => addRow entry.investigationId entry.now rows entry.pointer) []

theorem rowsOf_snoc (entries : List Entry) (entry : Entry) :
    rowsOf (entries ++ [entry]) = addRow entry.investigationId entry.now (rowsOf entries) entry.pointer := by
  rw [rowsOf,List.foldl_append]
  rfl

/-- The rows of a pointer, oldest first. -/
theorem rows_indexed (entries : List Entry) (pointer : Pointer) :
    (matching (rowsOf entries) pointer).map (·.investigationId) = indexed entries pointer := by
  induction entries using List.reverseRecOn generalizing pointer with
  | nil => rfl
  | append_singleton entries entry ih =>
    have known : ((rowsOf entries).any fun row => row.investigationId = entry.investigationId ∧ row.pointer = entry.pointer) = true ↔
        entry.investigationId ∈ indexed entries entry.pointer := by
      rw [← ih,List.any_eq_true,List.mem_map]
      simp only [matching,List.mem_filter,decide_eq_true_eq]
      exact exists_congr fun row => by tauto
    rw [rowsOf_snoc,indexed_snoc,addRow]
    by_cases own : entry.pointer = pointer
    · subst own
      rw [if_pos rfl,appendUnique]
      by_cases there : entry.investigationId ∈ indexed entries entry.pointer
      · rw [if_pos (known.mpr there),if_pos there,ih]
      · rw [if_neg (fun any => there (known.mp any)),if_neg there,← ih]
        simp [matching]
    · rw [if_neg own]
      split_ifs
      · exact ih pointer
      · rw [← ih]
        simp [matching,own]

theorem rows_times (entries : List Entry) : ((rowsOf entries).map (·.createdAt)).Sublist (entries.map (·.now)) := by
  induction entries using List.reverseRecOn with
  | nil => exact List.Sublist.refl _
  | append_singleton entries entry ih =>
    rw [rowsOf_snoc,addRow,List.map_append]
    split_ifs
    · exact ih.trans (List.sublist_append_left _ _)
    · rw [List.map_append]
      exact ih.append (List.Sublist.refl _)

theorem mem_rowsOf {entries : List Entry} {row : IndexRow} (listed : row ∈ rowsOf entries) :
    ∃ entry ∈ entries, entry.investigationId = row.investigationId ∧ entry.now = row.createdAt := by
  induction entries using List.reverseRecOn with
  | nil => cases listed
  | append_singleton entries entry ih =>
    rw [rowsOf_snoc,addRow] at listed
    have earlier : row ∈ rowsOf entries → ∃ entry' ∈ entries ++ [entry], entry'.investigationId = row.investigationId ∧ entry'.now = row.createdAt := by
      intro before
      obtain ⟨entry',known,same⟩ := ih before
      exact ⟨entry',List.mem_append_left _ known,same⟩
    split_ifs at listed
    · exact earlier listed
    · rcases List.mem_append.mp listed with before | new
      · exact earlier before
      · cases List.mem_singleton.mp new
        exact ⟨entry,by simp,rfl,rfl⟩

/-! ### Both answers -/

section
variable {calls : List Call}

theorem entries_ordered (ordered : calls.Pairwise fun first second => first.now ≤ second.now) :
    ((calls.flatMap Call.entries).map (·.now)).Pairwise (· ≤ ·) := by
  rw [List.pairwise_map,List.pairwise_flatMap]
  constructor
  · intro call _
    rw [Call.entries,List.pairwise_map]
    exact List.pairwise_of_forall fun _ _ => le_rfl
  · refine ordered.imp fun {first second} before x one y two => ?_
    simp only [Call.entries,List.mem_map] at one two
    obtain ⟨_,_,rfl⟩ := one
    obtain ⟨_,_,rfl⟩ := two
    exact before

theorem matching_ordered (ordered : calls.Pairwise fun first second => first.now ≤ second.now) (pointer : Pointer) :
    (matching (rowsOf (calls.flatMap Call.entries)) pointer).Pairwise fun first second => first.createdAt ≤ second.createdAt :=
  (List.pairwise_map.mp ((entries_ordered ordered).sublist (rows_times _))).filter _

theorem mem_entries {entry : Entry} (listed : entry ∈ calls.flatMap Call.entries) :
    ∃ call ∈ calls, call.investigationId = entry.investigationId ∧ call.now = entry.now := by
  obtain ⟨call,known,inside⟩ := List.mem_flatMap.mp listed
  rw [Call.entries,List.mem_map] at inside
  obtain ⟨pointer,-,rfl⟩ := inside
  exact ⟨call,known,rfl,rfl⟩

/-- When no two calls begin at one time, no two rows of a pointer are of one time. -/
theorem matching_strict (strict : calls.Pairwise fun first second => first.now < second.now) (pointer : Pointer) :
    (matching (rowsOf (calls.flatMap Call.entries)) pointer).Pairwise fun first second => first.createdAt < second.createdAt := by
  have apart : (calls.map (·.now)).Nodup := List.pairwise_map.mpr (strict.imp fun before => before.ne)
  have once : (matching (rowsOf (calls.flatMap Call.entries)) pointer).Pairwise fun first second =>
      first.investigationId ≠ second.investigationId := by
    rw [← List.pairwise_map,rows_indexed]
    exact unique_nodup _
  have ordered := matching_ordered (strict.imp fun before => before.le) pointer
  refine (ordered.and once).imp_of_mem fun {first second} one two both => lt_of_le_of_ne both.1 fun same => both.2 ?_
  obtain ⟨entry,listed,own,time⟩ := mem_rowsOf (List.mem_filter.mp one).1
  obtain ⟨other,known,theirs,later⟩ := mem_rowsOf (List.mem_filter.mp two).1
  obtain ⟨call,made,caller,began⟩ := mem_entries listed
  obtain ⟨call',made',caller',began'⟩ := mem_entries known
  -- rows of one time come from one call, which is about one investigation
  have equal : call = call' := List.inj_on_of_nodup_map apart made made' (by rw [began,began',time,later,same])
  rw [← own,← theirs,← caller,← caller',equal]

/-- After any calls at times that do not go back, both indexes hold the investigations
    indexed under a pointer, each once. In process the ones indexed first are found; the
    database finds as many of them, and in the reverse order when no two calls began at one
    time. Where the limit leaves none out, both find the same. -/
theorem recall_exact (calls : List Call) (ordered : calls.Pairwise fun first second => first.now ≤ second.now)
    (kind : MemoryIndexKind) (value : Text) (limit : Nat) :
    let known := indexed (calls.flatMap Call.entries) (kind,value)
    let related : Text → RelatedInvestigation := fun id => ⟨id,kind,value⟩
    (known.Nodup ∧ ∀ id, id ∈ known ↔ ∃ call ∈ calls, call.investigationId = id ∧ (kind,value) ∈ call.pointers) ∧
    findInMemory (calls.foldl indexInMemory Dict.empty) kind value limit = (known.take limit).map related ∧
    (∃ answer, FindsSql (calls.foldl indexSql []) kind value limit answer) ∧
    ∀ answer, FindsSql (calls.foldl indexSql []) kind value limit answer →
      answer.Subperm (known.map related) ∧ answer.length = min limit known.length ∧
      (known.length ≤ limit → answer.Perm (findInMemory (calls.foldl indexInMemory Dict.empty) kind value limit)) ∧
      ((calls.Pairwise fun first second => first.now < second.now) → answer = (known.reverse.take limit).map related) := by
  intro known related
  have memory : findInMemory (calls.foldl indexInMemory Dict.empty) kind value limit = (known.take limit).map related := by
    rw [findInMemory,memory_entries,memory_indexed]
  have table : calls.foldl indexSql [] = rowsOf (calls.flatMap Call.entries) := sql_entries calls []
  have ids : (matching (rowsOf (calls.flatMap Call.entries)) (kind,value)).map (·.investigationId) = known := rows_indexed _ _
  rw [memory,table]
  refine ⟨⟨unique_nodup _,fun id => ?_⟩,rfl,?_,?_⟩
  · simp only [known,indexed,mem_unique,List.mem_map,List.mem_filter,List.mem_flatMap,Call.entries,decide_eq_true_eq]
    constructor
    · rintro ⟨_,⟨⟨call,listed,pointer,pointed,rfl⟩,rfl⟩,rfl⟩
      exact ⟨call,listed,rfl,pointed⟩
    · rintro ⟨call,listed,rfl,pointed⟩
      exact ⟨_,⟨⟨call,listed,_,pointed,rfl⟩,rfl⟩,rfl⟩
  · refine ⟨_,(matching (rowsOf (calls.flatMap Call.entries)) (kind,value)).reverse,List.reverse_perm _,?_,rfl⟩
    exact List.pairwise_reverse.mpr (matching_ordered ordered _)
  · rintro answer ⟨listing,same,newest,rfl⟩
    have whole : (listing.map fun row => related row.investigationId).Perm (known.map related) := by
      have mapped := same.map fun row => related row.investigationId
      rwa [← ids,List.map_map]
    rw [List.map_take]
    refine ⟨(List.take_sublist _ _).subperm.trans whole.subperm,?_,fun few => ?_,fun strict => ?_⟩
    · rw [List.length_take,whole.length_eq,List.length_map]
    · rw [List.take_of_length_le (by rw [whole.length_eq,List.length_map]; exact few),List.take_of_length_le few]
      exact whole
    · have reversed : listing = (matching (rowsOf (calls.flatMap Call.entries)) (kind,value)).reverse := by
        have rising := matching_strict strict (kind,value)
        have apart : (listing.map (·.createdAt)).Nodup :=
          (same.map _).nodup_iff.mpr (List.pairwise_map.mpr (rising.imp fun before => before.ne))
        have falling : listing.Pairwise fun first second => OrderDual.toDual first.createdAt < OrderDual.toDual second.createdAt :=
          (newest.and (List.pairwise_map.mp apart)).imp fun both => lt_of_le_of_ne both.1 fun equal => both.2 equal
        exact strict_unique falling (List.pairwise_reverse.mpr rising) fun row => same.mem_iff.trans List.mem_reverse.symm
      rw [reversed,← ids,← List.map_reverse,← List.map_take,← List.map_take,List.map_map]
      rfl

/-- Three investigations of one host, one of them indexed twice. -/
def closings : List Call :=
  [⟨lit "inv-1",[(.ASSET,[lit "web-1"]),(.CVE,[lit "CVE-2021-44228"])],1⟩,⟨lit "inv-2",[(.ASSET,[lit "web-1",lit "web-1"])],2⟩,
    ⟨lit "inv-1",[(.ASSET,[lit "web-1"])],3⟩,⟨lit "inv-3",[(.ASSET,[lit "web-1"])],4⟩]

/-- With room for two, the indexes tell of different investigations. -/
theorem closings_recalled : findInMemory (closings.foldl indexInMemory Dict.empty) .ASSET (lit "web-1") 2 =
      [⟨lit "inv-1",.ASSET,lit "web-1"⟩,⟨lit "inv-2",.ASSET,lit "web-1"⟩] ∧
    ∀ answer, FindsSql (closings.foldl indexSql []) .ASSET (lit "web-1") 2 answer →
      answer = [⟨lit "inv-3",.ASSET,lit "web-1"⟩,⟨lit "inv-2",.ASSET,lit "web-1"⟩] := by
  have strict : closings.Pairwise fun first second => first.now < second.now := by decide
  obtain ⟨-,memory,-,sql⟩ := recall_exact closings (strict.imp fun before => before.le) .ASSET (lit "web-1") 2
  exact ⟨memory.trans (by decide),fun answer found => ((sql answer found).2.2.2 strict).trans (by decide)⟩

end
end SocAnalyst.RecallIndex
