import Mathlib.Data.List.Nodup

/-!
# Jobs on parts of one state

A loop that runs one job after another and stops at the first that fails, over a state of
which each job uses a part of its own.
-/
namespace SocAnalyst.Isolation

variable {ι σ ε ρ : Type*}

/-- Run the jobs in order, up to the first that fails. -/
def runAll (job : ι → σ → σ × Except ε ρ) : List ι → σ → σ × Except ε (List ρ)
  | [], state => (state,.ok [])
  | i :: rest, state =>
    match job i state with
    | (next,.error e) => (next,.error e)
    | (next,.ok result) =>
      match runAll job rest next with
      | (final,.error e) => (final,.error e)
      | (final,.ok results) => (final,.ok (result :: results))

/-- States agree on the part of a job when it runs alike from both, and no job touches the
    part of another. -/
structure Independent (agree : ι → σ → σ → Prop) (job : ι → σ → σ × Except ε ρ) : Prop where
  same : ∀ i, Equivalence (agree i)
  frame : ∀ {i j : ι} (s : σ), j ≠ i → agree j s (job i s).1
  result : ∀ {i : ι} {s t : σ}, agree i s t → (job i s).2 = (job i t).2
  state : ∀ {i : ι} {s t : σ}, agree i s t → agree i (job i s).1 (job i t).1

variable {agree : ι → σ → σ → Prop} {job : ι → σ → σ × Except ε ρ}

theorem runAll_cons {i : ι} {rest : List ι} {s final : σ} {all : List ρ} :
    runAll job (i :: rest) s = (final,.ok all) ↔
      ∃ result results, (job i s).2 = .ok result ∧ runAll job rest (job i s).1 = (final,.ok results) ∧ all = result :: results := by
  simp only [runAll]
  rcases job i s with ⟨next,e | result⟩
  · simp
  · simp only [Except.ok.injEq]
    rcases later : runAll job rest next with ⟨last,e | results⟩
    · simp
    · simp only [Prod.mk.injEq,Except.ok.injEq]
      constructor
      · rintro ⟨rfl,rfl⟩
        exact ⟨result,results,rfl,⟨rfl,rfl⟩,rfl⟩
      · rintro ⟨_,_,rfl,⟨rfl,rfl⟩,rfl⟩
        exact ⟨rfl,rfl⟩

/-- When the loop returns, each job did what it would have done alone. -/
theorem runAll_ok (independent : Independent agree job) {xs : List ι} (distinct : xs.Nodup) {s final : σ} {results : List ρ}
    (ran : runAll job xs s = (final,.ok results)) :
    List.Forall₂ (fun i result => (job i s).2 = .ok result) xs results ∧ (∀ i ∈ xs, agree i (job i s).1 final) ∧
      ∀ i, i ∉ xs → agree i s final := by
  induction xs generalizing s results with
  | nil =>
    cases ran
    exact ⟨.nil,by simp,fun i _ => (independent.same i).refl _⟩
  | cons i rest ih =>
    obtain ⟨result,others,own,later,rfl⟩ := runAll_cons.mp ran
    obtain ⟨fresh,apart⟩ := List.nodup_cons.mp distinct
    obtain ⟨paired,ended,untouched⟩ := ih apart later
    have first : ∀ j ∈ rest, agree j s (job i s).1 := fun j member => independent.frame s fun same => fresh (same ▸ member)
    refine ⟨.cons own ?_,List.forall_mem_cons.mpr ⟨untouched i fresh,fun j member => ?_⟩,fun j outside => ?_⟩
    · refine List.forall₂_iff_zip.mpr ⟨paired.length_eq,fun {j found} pair => ?_⟩
      rw [independent.result (first j (List.of_mem_zip pair).1)]
      exact (List.forall₂_iff_zip.mp paired).2 pair
    · exact (independent.same j).trans (independent.state (first j member)) (ended j member)
    · obtain ⟨other,notIn⟩ := not_or.mp (List.mem_cons.not.mp outside)
      exact (independent.same j).trans (independent.frame s other) (untouched j notIn)

/-- The loop returns just when each job would alone. -/
theorem runAll_returns (independent : Independent agree job) {xs : List ι} (distinct : xs.Nodup) (s : σ) :
    (∃ final results, runAll job xs s = (final,.ok results)) ↔ ∀ i ∈ xs, ∃ result, (job i s).2 = .ok result := by
  induction xs generalizing s with
  | nil => simp [runAll]
  | cons i rest ih =>
    obtain ⟨fresh,apart⟩ := List.nodup_cons.mp distinct
    have first : ∀ j ∈ rest, agree j s (job i s).1 := fun j member => independent.frame s fun same => fresh (same ▸ member)
    rw [List.forall_mem_cons]
    constructor
    · rintro ⟨final,all,ran⟩
      obtain ⟨result,results,own,later,rfl⟩ := runAll_cons.mp ran
      refine ⟨⟨result,own⟩,fun j member => ?_⟩
      rw [independent.result (first j member)]
      exact (ih apart (job i s).1).mp ⟨final,results,later⟩ j member
    · rintro ⟨⟨result,own⟩,others⟩
      obtain ⟨final,results,later⟩ := (ih apart (job i s).1).mpr fun j member => by
        rw [← independent.result (first j member)]
        exact others j member
      exact ⟨final,result :: results,runAll_cons.mpr ⟨result,results,own,later,rfl⟩⟩

end SocAnalyst.Isolation
