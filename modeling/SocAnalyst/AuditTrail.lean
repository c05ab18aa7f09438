import SocAnalyst.Decisions
import SocAnalyst.JsonTexts
import SocAnalyst.Runs
import SocAnalyst.Times

/-!
# The audit trail

`AuditLogRepository` of `db/repositories/audit.py`: each entry carries a digest of what it
says. The trail is changed from outside by whoever can write the table, but not the digests.
-/
namespace SocAnalyst.AuditTrail
open SocAnalyst.Builtins SocAnalyst.Times SocAnalyst.Runs SocAnalyst.Decisions SocAnalyst.JsonTexts

/-- What is signed of an entry; the time of its creation is not. -/
def payload (id : Text) (entry : AuditEntry) : List (Text × Option Text) :=
  [(lit "id",some id),(lit "action",some entry.action),(lit "entity_type",some entry.entityType),(lit "entity_id",entry.entityId),
    (lit "actor_id",entry.actorId),(lit "before_ref",entry.beforeRef),(lit "after_ref",entry.afterRef),(lit "ip_address",entry.ipAddress)]

/-- A row of the `audit_logs` table: its texts could be encoded. -/
structure AuditLog extends AuditEntry where
  id : Text
  createdAt : DateTime
  signature : Text
  stored : ∀ pair ∈ payload id toAuditEntry, EncodablePair pair

section
variable (sha256 : Text → Text)

/-- A digest of the fields. -/
def computeSignature (payload : List (Text × Option Text)) : Text := sha256 (canonicalJson payload)

/-- Append an entry and return it. -/
def append (id : Text) (now : DateTime) (entry : AuditEntry) : Except PyError AuditLog :=
  if stored : ∀ pair ∈ payload id entry, EncodablePair pair then
    .ok { entry with
      id
      createdAt := now
      signature := computeSignature sha256 (payload id entry)
      stored }
  else .error .ValueError

/-! ### The trail -/

/-- The rows there are, and what was appended so far. -/
structure Trail where
  rows : List AuditLog := []
  written : List AuditLog := []

inductive Change where
  | append
  | outside
  deriving DecidableEq, Repr

/-- An entry is appended under a new id, or the table is rewritten from outside with digests that
    were issued before. -/
inductive Step : Trail → Change → Trail → Prop where
  | append {trail : Trail} {id : Text} {now : DateTime} {entry : AuditEntry} {row : AuditLog} (new : ∀ other ∈ trail.written, other.id ≠ id)
    (ran : append sha256 id now entry = .ok row) : Step trail .append ⟨trail.rows ++ [row],trail.written ++ [row]⟩
  | outside {trail : Trail} {rows : List AuditLog} (issued : ∀ row ∈ rows, ∃ entry ∈ trail.written, row.signature = entry.signature) :
    Step trail .outside { trail with rows }

/-- The digest of a row is that of its fields. -/
def Intact (row : AuditLog) : Prop := row.signature = computeSignature sha256 (payload row.id row.toAuditEntry)

instance : DecidablePred (Intact sha256) := fun row =>
  inferInstanceAs (Decidable (row.signature = computeSignature sha256 (payload row.id row.toAuditEntry)))

/-- Two rows that differ in what is signed and have the same digest. -/
def Collide (row other : AuditLog) : Prop :=
  canonicalJson (payload row.id row.toAuditEntry) ≠ canonicalJson (payload other.id other.toAuditEntry) ∧
    computeSignature sha256 (payload row.id row.toAuditEntry) = computeSignature sha256 (payload other.id other.toAuditEntry)

/-- What is signed of two rows is the same. -/
def Agrees (row other : AuditLog) : Prop := row.id = other.id ∧ row.toAuditEntry = other.toAuditEntry

/-- Every row has the digest of an entry that was appended, and it fits the row exactly when the row
    agrees with that entry, or else a collision was found. -/
structure Evident (trail : Trail) : Prop where
  rows : ∀ row ∈ trail.rows, ∃ entry ∈ trail.written, row.signature = entry.signature ∧
    (Intact sha256 row ↔ Agrees row entry ∨ Collide sha256 row entry)
  written : ∀ entry ∈ trail.written, Intact sha256 entry
  /-- No digest is that of two entries. -/
  distinct : trail.written.Pairwise fun entry other => entry.signature = other.signature → Collide sha256 entry other

variable {sha256}

theorem payload_inj {row other : AuditLog}
    (same : canonicalJson (payload row.id row.toAuditEntry) = canonicalJson (payload other.id other.toAuditEntry)) : Agrees row other := by
  have once : ((payload row.id row.toAuditEntry).map Prod.fst).Nodup := by
    show [lit "id",lit "action",lit "entity_type",lit "entity_id",lit "actor_id",lit "before_ref",lit "after_ref",lit "ip_address"].Nodup
    decide
  have equal := canonicalJson_inj row.stored other.stored rfl once same
  simp only [payload,List.cons.injEq,Prod.mk.injEq,true_and,and_true,Option.some.injEq] at equal
  obtain ⟨id,action,entityType,entityId,actorId,beforeRef,afterRef,ipAddress⟩ := equal
  refine ⟨id,?_⟩
  rcases row with ⟨⟨_,_,_,_,_,_,_⟩,_,_,_,_⟩
  rcases other with ⟨⟨_,_,_,_,_,_,_⟩,_,_,_,_⟩
  simp_all

theorem append_ok {id : Text} {now : DateTime} {entry : AuditEntry} {row : AuditLog} (ran : append sha256 id now entry = .ok row) :
    row.id = id ∧ row.toAuditEntry = entry ∧ Intact sha256 row := by
  unfold append at ran
  split_ifs at ran
  cases ran
  exact ⟨rfl,rfl,rfl⟩

/-- A row with the digest of an entry fits it when it agrees with the entry, or collides with it. -/
theorem intact_iff {row entry : AuditLog} (written : Intact sha256 entry) (issued : row.signature = entry.signature) :
    Intact sha256 row ↔ Agrees row entry ∨ Collide sha256 row entry := by
  rw [Intact] at written
  constructor
  · intro intact
    have digests : computeSignature sha256 (payload row.id row.toAuditEntry) = computeSignature sha256 (payload entry.id entry.toAuditEntry) :=
      intact.symm.trans (issued.trans written)
    by_cases same : canonicalJson (payload row.id row.toAuditEntry) = canonicalJson (payload entry.id entry.toAuditEntry)
    · exact .inl (payload_inj same)
    · exact .inr ⟨same,digests⟩
  · rintro (⟨id,fields⟩ | ⟨_,digests⟩)
    · rw [Intact,issued,written,id,fields]
    · rw [Intact,issued,written,digests]

theorem Evident.append {trail : Trail} (evident : Evident sha256 trail) {id : Text} {now : DateTime} {entry : AuditEntry} {row : AuditLog}
    (new : ∀ other ∈ trail.written, other.id ≠ id) (ran : append sha256 id now entry = .ok row) :
    Evident sha256 ⟨trail.rows ++ [row],trail.written ++ [row]⟩ := by
  obtain ⟨named,_,intact⟩ := append_ok ran
  refine ⟨fun other member => ?_,fun other member => ?_,List.pairwise_append.mpr ⟨evident.distinct,List.pairwise_singleton _ _,?_⟩⟩
  · rcases List.mem_append.mp member with old | own
    · obtain ⟨written,there,issued,fits⟩ := evident.rows other old
      exact ⟨written,List.mem_append_left _ there,issued,fits⟩
    · rw [List.mem_singleton.mp own]
      exact ⟨row,List.mem_append_right _ (List.mem_singleton_self _),rfl,intact_iff intact rfl⟩
  · rcases List.mem_append.mp member with old | own
    · exact evident.written other old
    · rw [List.mem_singleton.mp own]
      exact intact
  · intro other old own single issued
    rw [List.mem_singleton.mp single] at issued ⊢
    have written := evident.written other old
    refine ((intact_iff intact issued).mp written).resolve_left fun agrees => ?_
    exact new other old (agrees.1.trans named)

theorem Evident.outside {trail : Trail} (evident : Evident sha256 trail) {rows : List AuditLog}
    (issued : ∀ row ∈ rows, ∃ entry ∈ trail.written, row.signature = entry.signature) : Evident sha256 { trail with rows } := by
  refine ⟨fun row member => ?_,evident.written,evident.distinct⟩
  obtain ⟨entry,there,same⟩ := issued row member
  exact ⟨entry,there,same,intact_iff (evident.written entry there) same⟩

/-- Whatever is appended, and however the table is rewritten from outside in between: a row whose
    digest fits says what some entry said when it was appended, unless SHA-256 collides. -/
theorem trail_evident {trail : Trail} {changes : List Change} (run : Run (Step sha256) {} changes trail) : Evident sha256 trail := by
  have keeps : ∀ here change next, Evident sha256 here → Step sha256 here change next → Evident sha256 next := by
    rintro here change next evident (⟨new,ran⟩ | issued)
    · exact evident.append new ran
    · exact evident.outside issued
  refine run.invariant keeps ⟨fun row member => ?_,fun entry member => ?_,List.Pairwise.nil⟩
  · exact absurd member List.not_mem_nil
  · exact absurd member List.not_mem_nil

end

private theorem noon_in_range : (0 : Int) ≤ 43200000000 ∧ (43200000000 : Int) < maxDays * dayMicros := by decide

/-- A login of `ana`, and the row it leaves. -/
def login : AuditEntry := { action := lit "auth.login", entityType := lit "user", entityId := some (lit "ana") }

theorem login_stored : ∀ pair ∈ payload (lit "1") login, EncodablePair pair := by decide
theorem blamed_stored : ∀ pair ∈ payload (lit "1") { login with entityId := some (lit "bob") }, EncodablePair pair := by decide

/-- The login is appended and then blamed on `bob`, under the digest that was issued. -/
theorem blame_evident :
    ∃ trail, Run (Step id) {} [.append,.outside] trail ∧ (∃ row ∈ trail.rows, ¬ Intact id row) ∧ Evident id trail := by
  let row : AuditLog := { login with
    id := lit "1", createdAt := ⟨43200000000,some 0,noon_in_range⟩, stored := login_stored
    signature := computeSignature id (payload (lit "1") login) }
  let blamed : AuditLog := { login with
    entityId := some (lit "bob"), id := lit "1", createdAt := row.createdAt, stored := blamed_stored, signature := row.signature }
  have appended : append id (lit "1") row.createdAt login = .ok row := dif_pos login_stored
  have run : Run (Step id) {} [.append,.outside] ⟨[blamed],[row]⟩ :=
    .go (.append (fun _ none => absurd none List.not_mem_nil) appended)
      (.go (.outside fun _ own => ⟨row,List.mem_singleton_self _,by rw [List.mem_singleton.mp own]⟩) (.stop _))
  exact ⟨_,run,⟨blamed,List.mem_singleton_self _,by decide⟩,trail_evident run⟩

end SocAnalyst.AuditTrail
