import SocAnalyst.Builtins

/-!
# Exceptions past a handler

A step returns, or raises an exception that the handler around it catches, or raises one
that escapes it. `Charted` says on which inputs a step does the first and the last; the
rules carry this through sequences and loops.
-/
namespace SocAnalyst.Raising
open SocAnalyst.Builtins

variable {α β γ ε : Type} {fatal : ε → Prop}

def Returns (step : Except ε α) : Prop := ∃ a, step = .ok a

/-- The step raises, and nothing catches it. -/
def Escapes (fatal : ε → Prop) (step : Except ε α) : Prop := ∃ e, step = .error e ∧ fatal e

@[simp] theorem returns_ok (a : α) : Returns (.ok a : Except ε α) := ⟨a,rfl⟩
@[simp] theorem not_returns_error (e : ε) : ¬ Returns (.error e : Except ε α) := by simp [Returns]
@[simp] theorem not_escapes_ok (a : α) : ¬ Escapes fatal (.ok a) := by simp [Escapes]
@[simp] theorem escapes_error (e : ε) : Escapes fatal (.error e : Except ε α) ↔ fatal e := by simp [Escapes]

@[simp] theorem returns_map (step : Except ε α) (g : α → β) : Returns (step.map g) ↔ Returns step := by
  cases step <;> simp [Except.map]

@[simp] theorem escapes_map (step : Except ε α) (g : α → β) : Escapes fatal (step.map g) ↔ Escapes fatal step := by
  cases step <;> simp [Except.map]

theorem returns_bind (step : Except ε α) (next : α → Except ε β) :
    Returns (step >>= next) ↔ ∃ a, step = .ok a ∧ Returns (next a) := by
  cases step <;> simp [bind,Except.bind]

theorem escapes_bind (step : Except ε α) (next : α → Except ε β) :
    Escapes fatal (step >>= next) ↔ Escapes fatal step ∨ ∃ a, step = .ok a ∧ Escapes fatal (next a) := by
  cases step <;> simp [bind,Except.bind]

theorem returns_not_escapes {step : Except ε α} (returns : Returns step) : ¬ Escapes fatal step := by
  obtain ⟨a,rfl⟩ := returns
  simp

/-! ### Charted steps -/

/-- A step, with the inputs on which it returns and those on which its exception escapes. -/
structure Charted (fatal : ε → Prop) (step : α → Except ε β) (passes breaks : α → Prop) : Prop where
  returns : ∀ a, Returns (step a) ↔ passes a
  escapes : ∀ a, Escapes fatal (step a) ↔ breaks a

variable {step : α → Except ε β} {passes breaks : α → Prop}

theorem Charted.map (charted : Charted fatal step passes breaks) (g : α → β → γ) :
    Charted fatal (fun a => (step a).map (g a)) passes breaks where
  returns a := by rw [returns_map,charted.returns]
  escapes a := by rw [escapes_map,charted.escapes]

/-- One step after another on the same input. -/
theorem Charted.andThen {next : β → α → Except ε γ} {passes' breaks' : α → Prop} (first : Charted fatal step passes breaks)
    (second : ∀ b, Charted fatal (next b) passes' breaks') :
    Charted fatal (fun a => step a >>= fun b => next b a) (fun a => passes a ∧ passes' a) fun a => breaks a ∨ passes a ∧ breaks' a where
  returns a := by
    rw [returns_bind,← first.returns]
    constructor
    · rintro ⟨b,returned,later⟩
      exact ⟨⟨b,returned⟩,((second b).returns a).mp later⟩
    · rintro ⟨⟨b,returned⟩,later⟩
      exact ⟨b,returned,((second b).returns a).mpr later⟩
  escapes a := by
    rw [escapes_bind,first.escapes,← first.returns]
    constructor
    · rintro (broke | ⟨b,returned,later⟩)
      · exact .inl broke
      · exact .inr ⟨⟨b,returned⟩,((second b).escapes a).mp later⟩
    · rintro (broke | ⟨⟨b,returned⟩,later⟩)
      · exact .inl broke
      · exact .inr ⟨b,returned,((second b).escapes a).mpr later⟩

/-- A loop is broken by the first item whose step does not return, if its exception escapes. -/
theorem Charted.loop (charted : Charted fatal step passes breaks) :
    Charted fatal (mapRaising step) (fun items => ∀ item ∈ items, passes item) (Reaches passes breaks) where
  returns items := by
    rw [Returns,mapRaising_returns]
    exact forall₂_congr fun item _ => charted.returns item
  escapes items := by
    induction items with
    | nil => simp [mapRaising]
    | cons item rest ih =>
      rw [reaches_cons,← ih,← charted.escapes,← charted.returns,mapRaising]
      cases outcome : step item with
      | error e => simp
      | ok b => simp

/-! ### Searches -/

/-- The first result the step finds, if it finds one before it raises. -/
def firstRaising (step : α → Except ε (Option β)) : List α → Except ε (Option β)
  | [] => .ok none
  | item :: rest =>
    match step item with
    | .error e => .error e
    | .ok (some b) => .ok (some b)
    | .ok none => firstRaising step rest

/-- A search is broken by an item behind others that hold nothing. -/
theorem firstRaising_escapes (step : α → Except ε (Option β)) (items : List α) :
    Escapes fatal (firstRaising step items) ↔ Reaches (fun item => step item = .ok none) (fun item => Escapes fatal (step item)) items := by
  induction items with
  | nil => simp [firstRaising]
  | cons item rest ih =>
    rw [reaches_cons,← ih,firstRaising]
    cases outcome : step item with
    | error e => simp
    | ok found => cases found <;> simp

/-- Where no item raises what the handler would catch, the search does not either. -/
theorem firstRaising_returns {step : α → Except ε (Option β)} {items : List α}
    (sharp : ∀ item ∈ items, Returns (step item) ∨ Escapes fatal (step item)) :
    Returns (firstRaising step items) ↔ ¬ Escapes fatal (firstRaising step items) := by
  refine ⟨returns_not_escapes,fun unbroken => ?_⟩
  induction items with
  | nil => exact returns_ok none
  | cons item rest ih =>
    rw [firstRaising] at unbroken ⊢
    cases outcome : step item with
    | error e =>
      rw [outcome] at unbroken
      have escapes := (sharp item (by simp)).resolve_left (by simp [outcome])
      rw [outcome] at escapes
      exact absurd escapes unbroken
    | ok found =>
      rw [outcome] at unbroken
      cases found with
      | some b => exact returns_ok _
      | none => exact ih (fun other member => sharp other (List.mem_cons_of_mem _ member)) unbroken

end SocAnalyst.Raising
