import Mathlib.Logic.Basic

/-!
# Runs of a step relation

Finite runs with labelled steps, and the rules that carry a fact about one step to a
whole run.
-/
namespace SocAnalyst.Runs

variable {σ ι : Type*} {step other : σ → ι → σ → Prop}

/-- A finite run, with the labels of its steps in order. -/
inductive Run (step : σ → ι → σ → Prop) : σ → List ι → σ → Prop where
  | stop (s : σ) : Run step s [] s
  | go {s t u : σ} {label : ι} {rest : List ι} : step s label t → Run step t rest u → Run step s (label :: rest) u

/-- A step taken only where the guard allows it. -/
def Guarded (guard : σ → ι → Prop) (step : σ → ι → σ → Prop) : σ → ι → σ → Prop :=
  fun s label t => guard s label ∧ step s label t

/-- What every step preserves, a run preserves. -/
theorem Run.invariant {inv : σ → Prop} (keeps : ∀ s label t, inv s → step s label t → inv t) {s t : σ} {labels : List ι}
    (run : Run step s labels t) (start : inv s) : inv t := by
  induction run with
  | stop => exact start
  | go first _ ih => exact ih (keeps _ _ _ start first)

/-- What holds across every step and composes holds across a run. -/
theorem Run.relates {R : σ → σ → Prop} (refl : ∀ s, R s s) (trans : ∀ s t u, R s t → R t u → R s u)
    (each : ∀ s label t, step s label t → R s t) {s t : σ} {labels : List ι} (run : Run step s labels t) : R s t := by
  induction run with
  | stop s => exact refl s
  | go first _ ih => exact trans _ _ _ (each _ _ _ first) ih

/-- A run's steps may be replaced by what an invariant makes of them. -/
theorem Run.strengthen {inv : σ → Prop} (keeps : ∀ s label t, inv s → step s label t → inv t)
    (each : ∀ s label t, inv s → step s label t → other s label t) {s t : σ} {labels : List ι}
    (run : Run step s labels t) (start : inv s) : Run other s labels t := by
  induction run with
  | stop s => exact .stop s
  | go first _ ih => exact .go (each _ _ _ start first) (ih (keeps _ _ _ start first))

theorem Run.mono (each : ∀ s label t, step s label t → other s label t) {s t : σ} {labels : List ι}
    (run : Run step s labels t) : Run other s labels t := by
  induction run with
  | stop s => exact .stop s
  | go first _ ih => exact .go (each _ _ _ first) ih

theorem Run.append {s t u : σ} {labels more : List ι} (first : Run step s labels t) (second : Run step t more u) :
    Run step s (labels ++ more) u := by
  induction first with
  | stop => exact second
  | go head _ ih => exact .go head (ih second)

/-- A run through labels in two parts passes through a state between them. -/
theorem Run.split {s u : σ} {labels more : List ι} (run : Run step s (labels ++ more) u) :
    ∃ t, Run step s labels t ∧ Run step t more u := by
  induction labels generalizing s with
  | nil => exact ⟨s,.stop s,run⟩
  | cons label labels ih =>
    cases run with
    | go first rest =>
      obtain ⟨t,front,back⟩ := ih rest
      exact ⟨t,.go first front,back⟩

/-- What every step preserves of the labels so far and the state, a run preserves. -/
theorem Run.accumulates {P : List ι → σ → Prop} (keeps : ∀ done s label t, P done s → step s label t → P (done ++ [label]) t)
    {s t : σ} {labels : List ι} (run : Run step s labels t) (done : List ι) (start : P done s) : P (done ++ labels) t := by
  induction run generalizing done with
  | stop => simpa using start
  | go first _ ih => simpa using ih _ (keeps _ _ _ _ start first)

/-- What a run reaches after a first step. -/
theorem Run.reaches {P : σ → Prop} {s t : σ} {label : ι} {rest : List ι} (first : step s label t) (reached : ∃ u, Run step t rest u ∧ P u) :
    ∃ u, Run step s (label :: rest) u ∧ P u := by
  obtain ⟨u,run,holds⟩ := reached
  exact ⟨u,.go first run,holds⟩

/-- A run of a last step is a run followed by the step. -/
theorem Run.snoc {s t u : σ} {labels : List ι} {label : ι} (run : Run step s labels t) (last : step t label u) :
    Run step s (labels ++ [label]) u :=
  run.append (.go last (.stop u))

/-- A run is empty or ends with a step. -/
theorem Run.last {s t : σ} {labels : List ι} (run : Run step s labels t) :
    (labels = [] ∧ s = t) ∨ ∃ front label m, labels = front ++ [label] ∧ Run step s front m ∧ step m label t := by
  rcases List.eq_nil_or_concat labels with rfl | ⟨front,label,rfl⟩
  · cases run
    exact .inl ⟨rfl,rfl⟩
  · rw [List.concat_eq_append] at run ⊢
    obtain ⟨m,first,final⟩ := run.split
    cases final with
    | go step rest =>
      cases rest
      exact .inr ⟨front,label,m,rfl,first,step⟩

/-! ### Events of a history -/

/-- An event of a history with one more is that one, or an earlier one before it. -/
theorem split_snoc {history : List ι} {last event : ι} {P : List ι → List ι → Prop} :
    (∃ before later, history ++ [last] = before ++ event :: later ∧ P before later) ↔
      (last = event ∧ P history []) ∨ ∃ before later, history = before ++ event :: later ∧ P before (later ++ [last]) := by
  constructor
  · rintro ⟨before,later,whole,holds⟩
    rcases List.eq_nil_or_concat later with rfl | ⟨front,final,rfl⟩
    · obtain ⟨rfl,same⟩ := List.append_inj' whole rfl
      exact .inl ⟨(List.cons.inj same).1,holds⟩
    · rw [List.concat_eq_append] at whole holds
      rw [← List.cons_append,← List.append_assoc] at whole
      obtain ⟨earlier,same⟩ := List.append_inj' whole rfl
      obtain rfl := (List.cons.inj same).1
      exact .inr ⟨before,front,earlier,holds⟩
  · rintro (⟨rfl,holds⟩ | ⟨before,later,rfl,holds⟩)
    · exact ⟨history,[],rfl,holds⟩
    · exact ⟨before,later ++ [last],by simp,holds⟩

end SocAnalyst.Runs
