import Mathlib.Data.List.Sort
import SocAnalyst.Dicts
import SocAnalyst.Runs

/-!
# Pages

A listing is read page by page, newest first, while its table is written. A page is two
statements: how many rows there are, and the rows of the page.
-/
namespace SocAnalyst.Pages
open SocAnalyst.Dicts SocAnalyst.Runs

variable {ρ κ : Type*} [LinearOrder κ]

/-- Which rows are listed, and what they are ordered by. -/
structure Listing (ρ κ : Type*) where
  key : ρ → κ
  wanted : ρ → Bool

section
variable (listing : Listing ρ κ) (rows : List ρ)

def Listing.listed : List ρ := rows.filter listing.wanted
/-- The listed rows in descending order. -/
def Listing.newestFirst : List ρ := (sortedBy listing.key (listing.listed rows)).reverse
/-- The keys of the listed rows in descending order. -/
def Listing.keys : List κ := (listing.newestFirst rows).map listing.key

end

/-- `LIMIT` and `OFFSET`. -/
def page {α : Type*} (limit offset : Nat) (items : List α) : List α := (items.drop offset).take limit

variable {listing : Listing ρ κ} {rows next : List ρ}

theorem map_page {α β : Type*} (f : α → β) (limit offset : Nat) (items : List α) :
    (page limit offset items).map f = page limit offset (items.map f) := by
  rw [page,page,List.map_take,List.map_drop]

@[simp] theorem mem_newestFirst {row : ρ} : row ∈ listing.newestFirst rows ↔ row ∈ rows ∧ listing.wanted row = true := by
  simp [Listing.newestFirst,Listing.listed]

theorem mem_keys {key : κ} : key ∈ listing.keys rows ↔ ∃ row ∈ rows, listing.wanted row = true ∧ listing.key row = key := by
  simp only [Listing.keys,List.mem_map,mem_newestFirst,and_assoc]

theorem length_newestFirst : (listing.newestFirst rows).length = (listing.listed rows).length := by
  simp [Listing.newestFirst,sortedBy]

theorem length_keys : (listing.keys rows).length = (listing.listed rows).length := by
  rw [Listing.keys,List.length_map,length_newestFirst]

theorem descending (once : (rows.map listing.key).Nodup) : (listing.keys rows).Pairwise (· > ·) := by
  have few : ((listing.listed rows).map listing.key).Nodup := once.sublist ((List.filter_sublist).map _)
  rw [Listing.keys,Listing.newestFirst,List.map_reverse,List.pairwise_reverse,List.pairwise_map]
  exact strict_sortedBy few

/-- Where the listed rows stay listed, the order of their keys is kept. -/
theorem keys_sublist (once : (rows.map listing.key).Nodup) (later : (next.map listing.key).Nodup)
    (lasts : ∀ key ∈ listing.keys rows, key ∈ listing.keys next) : (listing.keys rows).Sublist (listing.keys next) := by
  have here := descending once
  have there := descending later
  have distinct : (listing.keys rows).Nodup := here.imp fun above => above.ne'
  exact List.sublist_of_subperm_of_pairwise (List.subperm_of_subset distinct lasts) here there

/-! ### Reading page after page -/

/-- A page, with the number of rows that were counted for it. -/
structure Page (ρ : Type*) where
  total : Nat
  items : List ρ

/-- A table, and the pages a reader has got; between its two statements the count. -/
structure Reading (ρ : Type*) where
  rows : List ρ
  counted : Option Nat := none
  pages : List (Page ρ) := []

inductive Action where
  | write
  | count
  | list
  deriving DecidableEq, Repr

/-- The next page, of the rows there are. -/
def Reading.turn (listing : Listing ρ κ) (size total : Nat) (reading : Reading ρ) : Reading ρ :=
  { reading with
    counted := none
    pages := reading.pages ++ [⟨total,page size (reading.pages.length * size) (listing.newestFirst reading.rows)⟩] }

/-- A reader goes from page to page of one size, in any interleaving with the writes. -/
inductive Step (listing : Listing ρ κ) (size : Nat) (writes : List ρ → List ρ → Prop) : Reading ρ → Action → Reading ρ → Prop where
  | write {reading : Reading ρ} {next : List ρ} (written : writes reading.rows next) :
    Step listing size writes reading .write { reading with rows := next }
  | count {reading : Reading ρ} (free : reading.counted = none) :
    Step listing size writes reading .count { reading with counted := some (listing.listed reading.rows).length }
  | list {reading : Reading ρ} {total : Nat} (counted : reading.counted = some total) :
    Step listing size writes reading .list (reading.turn listing size total)

/-- Writes keep the keys distinct and the listed rows listed. -/
structure Lasting (listing : Listing ρ κ) (writes : List ρ → List ρ → Prop) : Prop where
  distinct : ∀ rows next, writes rows next → (rows.map listing.key).Nodup → (next.map listing.key).Nodup
  lasts : ∀ rows next, writes rows next → ∀ key ∈ listing.keys rows, key ∈ listing.keys next

/-- The keys a reader was shown. -/
def Reading.shown (listing : Listing ρ κ) (reading : Reading ρ) : List κ := reading.pages.flatMap fun page => page.items.map listing.key

/-- What a reader has seen of the rows listed at the start: what is not shown is still ahead. -/
structure Covers (listing : Listing ρ κ) (size : Nat) (start reading : Reading ρ) : Prop where
  distinct : (reading.rows.map listing.key).Nodup
  lasting : (listing.keys start.rows).Sublist (listing.keys reading.rows)
  ahead : ∀ key ∈ listing.keys start.rows,
    key ∈ reading.shown listing ∨ key ∈ (listing.keys reading.rows).drop (reading.pages.length * size)
  /-- A page that is not full is the last one. -/
  short : ∀ page ∈ reading.pages, page.items.length < size → ∀ key ∈ listing.keys start.rows, key ∈ reading.shown listing
  counted : ∀ total, reading.counted = some total → (listing.keys start.rows).length ≤ total ∧ total ≤ (listing.keys reading.rows).length
  pages : ∀ page ∈ reading.pages, (page.items.map listing.key).Pairwise (· > ·) ∧ page.items.length ≤ size ∧
    (∀ row ∈ page.items, listing.wanted row = true) ∧ (listing.keys start.rows).length ≤ page.total

variable {size : Nat} {writes : List ρ → List ρ → Prop} {start reading after : Reading ρ}

theorem Covers.write (covers : Covers listing size start reading) (lasting : Lasting listing writes)
    (written : writes reading.rows next) : Covers listing size start { reading with rows := next } := by
  have distinct := lasting.distinct _ _ written covers.distinct
  have grows := keys_sublist covers.distinct distinct (lasting.lasts _ _ written)
  refine ⟨distinct,covers.lasting.trans grows,fun key here => ?_,covers.short,fun total counted => ?_,covers.pages⟩
  · exact (covers.ahead key here).imp_right fun ahead => (grows.drop _).subset ahead
  · exact ⟨(covers.counted total counted).1,(covers.counted total counted).2.trans grows.length_le⟩

theorem Covers.count (covers : Covers listing size start reading) :
    Covers listing size start { reading with counted := some (listing.listed reading.rows).length } := by
  refine ⟨covers.distinct,covers.lasting,covers.ahead,covers.short,?_,covers.pages⟩
  rintro total ⟨⟩
  rw [← length_keys]
  exact ⟨covers.lasting.length_le,le_rfl⟩

/-- What is ahead is on the next page or behind it. -/
theorem mem_page {α : Type*} {item : α} {items : List α} {limit offset : Nat} (ahead : item ∈ items.drop offset) :
    item ∈ page limit offset items ∨ item ∈ items.drop (offset + limit) := by
  rw [← List.take_append_drop limit (items.drop offset),List.mem_append,List.drop_drop] at ahead
  exact ahead

/-- Nothing is behind a page that is not full. -/
theorem drop_of_short {α : Type*} {items : List α} {limit offset : Nat} (short : (page limit offset items).length < limit) :
    items.drop (offset + limit) = [] := by
  rw [page,List.length_take,List.length_drop] at short
  exact List.drop_eq_nil_of_le (by omega)

theorem mem_shown_turn {total : Nat} {key : κ} : key ∈ (reading.turn listing size total).shown listing ↔
    key ∈ page size (reading.pages.length * size) (listing.keys reading.rows) ∨ key ∈ reading.shown listing := by
  rw [Reading.shown,Reading.turn,List.flatMap_append,List.mem_append,List.flatMap_singleton,map_page,or_comm]
  rfl

theorem Covers.list (covers : Covers listing size start reading) {total : Nat} (counted : reading.counted = some total) :
    Covers listing size start (reading.turn listing size total) := by
  have ahead : ∀ key ∈ listing.keys start.rows, (key ∈ page size (reading.pages.length * size) (listing.keys reading.rows) ∨
      key ∈ reading.shown listing) ∨ key ∈ (listing.keys reading.rows).drop (reading.pages.length * size + size) := by
    intro key here
    rcases covers.ahead key here with before | ahead
    · exact .inl (.inr before)
    · exact (mem_page ahead).imp_left .inl
  refine ⟨covers.distinct,covers.lasting,fun key here => ?_,fun page' member short key here => ?_,nofun,fun page' member => ?_⟩
  · rw [mem_shown_turn,Reading.turn,List.length_append,List.length_singleton,Nat.add_one_mul]
    exact ahead key here
  · rw [mem_shown_turn]
    rcases List.mem_append.mp member with old | new
    · exact .inr (covers.short page' old short key here)
    · rw [List.mem_singleton.mp new] at short
      have short' : (page size (reading.pages.length * size) (listing.keys reading.rows)).length < size := by
        rw [Listing.keys,← map_page,List.length_map]
        exact short
      refine (ahead key here).resolve_right fun behind => ?_
      rw [drop_of_short short'] at behind
      exact List.not_mem_nil behind
  · rcases List.mem_append.mp member with old | new
    · exact covers.pages page' old
    · rw [List.mem_singleton.mp new]
      refine ⟨?_,?_,fun row here => ?_,(covers.counted total counted).1⟩
      · rw [map_page]
        exact (descending covers.distinct).sublist ((List.take_sublist _ _).trans (List.drop_sublist _ _))
      · exact List.length_take_le _ _
      · exact (mem_newestFirst.mp (List.mem_of_mem_drop (List.mem_of_mem_take here))).2

/-- Whatever is written meanwhile: every row listed at the start is shown or still ahead. -/
theorem covers_run (lasting : Lasting listing writes) (distinct : (start.rows.map listing.key).Nodup) (fresh : start.pages = [])
    (idle : start.counted = none) {actions : List Action} (run : Run (Step listing size writes) start actions after) :
    Covers listing size start after := by
  have keeps : ∀ here action next, Covers listing size start here → Step listing size writes here action next →
      Covers listing size start next := by
    rintro here action next covers (written | free | counted)
    · exact covers.write lasting written
    · exact covers.count
    · exact covers.list counted
  refine run.invariant keeps ⟨distinct,.refl _,fun key here => .inr ?_,fun page member => ?_,fun total counted => ?_,fun page member => ?_⟩
  · rw [fresh,List.length_nil,Nat.zero_mul]
    exact here
  · rw [fresh] at member
    exact absurd member List.not_mem_nil
  · rw [idle] at counted
    cases counted
  · rw [fresh] at member
    exact absurd member List.not_mem_nil

/-- Where the writes keep something of every row, the last table has it of every row that
    was shown. -/
theorem shown_last {τ : Type*} {part : ρ → τ} (keeps : ∀ rows next, writes rows next → rows.map part ⊆ next.map part)
    (fresh : start.pages = []) {actions : List Action} (run : Run (Step listing size writes) start actions after) :
    ∀ page ∈ after.pages, page.items.map part ⊆ after.rows.map part := by
  have step : ∀ here action next, (∀ page ∈ here.pages, page.items.map part ⊆ here.rows.map part) →
      Step listing size writes here action next → ∀ page ∈ next.pages, page.items.map part ⊆ next.rows.map part := by
    rintro here action next shown (written | free | counted) page' member
    · exact List.Subset.trans (shown page' member) (keeps _ _ written)
    · exact shown page' member
    · rcases List.mem_append.mp member with old | new
      · exact shown page' old
      · rw [List.mem_singleton.mp new]
        refine List.map_subset _ fun row here => ?_
        exact (mem_newestFirst.mp (List.mem_of_mem_drop (List.mem_of_mem_take here))).1
  refine run.invariant step fun page member => ?_
  rw [fresh] at member
  exact absurd member List.not_mem_nil

/-- What a reader has got of rows that nobody writes. -/
structure Reads (listing : Listing ρ κ) (size : Nat) (start reading : Reading ρ) : Prop where
  rows : reading.rows = start.rows
  items : (reading.pages.flatMap (·.items)) = (listing.newestFirst start.rows).take (reading.pages.length * size)
  counted : ∀ total, reading.counted = some total → total = (listing.listed start.rows).length
  totals : ∀ page ∈ reading.pages, page.total = (listing.listed start.rows).length

theorem Reads.list (reads : Reads listing size start reading) {total : Nat} (counted : reading.counted = some total) :
    Reads listing size start (reading.turn listing size total) := by
  refine ⟨reads.rows,?_,nofun,fun page' member => ?_⟩
  · rw [Reading.turn,List.flatMap_append,List.flatMap_singleton,reads.items,reads.rows,List.length_append,List.length_singleton,
      Nat.add_one_mul,List.take_add]
    rfl
  · rcases List.mem_append.mp member with old | new
    · exact reads.totals page' old
    · rw [List.mem_singleton.mp new]
      exact reads.counted total counted

/-- Without writes the pages are the rows in order, and every total is their number. -/
theorem reads_run (fresh : start.pages = []) (idle : start.counted = none) {actions : List Action}
    (run : Run (Step listing size fun _ _ => False) start actions after) : Reads listing size start after := by
  have keeps : ∀ here action next, Reads listing size start here → Step listing size (fun _ _ => False) here action next →
      Reads listing size start next := by
    rintro here action next reads (written | free | counted)
    · exact written.elim
    · refine ⟨reads.rows,reads.items,?_,reads.totals⟩
      rintro total ⟨⟩
      rw [reads.rows]
    · exact reads.list counted
  refine run.invariant keeps ⟨rfl,?_,fun total counted => ?_,fun page member => ?_⟩
  · rw [fresh]
    simp
  · rw [idle] at counted
    cases counted
  · rw [fresh] at member
    exact absurd member List.not_mem_nil

/-- A run that does not write is a run without writers. -/
theorem run_unwritten {actions : List Action} (run : Run (Step listing size writes) start actions after) (quiet : .write ∉ actions) :
    Run (Step listing size fun _ _ => False) start actions after := by
  induction run with
  | stop reading => exact .stop reading
  | go first _ ih =>
    rw [List.mem_cons,not_or] at quiet
    refine .go ?_ (ih quiet.2)
    cases first with
    | write => exact absurd rfl quiet.1
    | count free => exact .count free
    | list counted => exact .list counted

end SocAnalyst.Pages
