import Mathlib.Logic.Function.Basic
import Mathlib.Data.List.Basic

/-!
# Tickets

Tickets that are taken, held and used up, each by one party.
-/
namespace SocAnalyst.Tickets

variable {ι κ : Type*} {held : ι → Option κ} {used : List κ}

/-- Tickets that parties hold and that are used up: none is held twice, used twice or held after its use. -/
structure Exclusive (held : ι → Option κ) (used : List κ) : Prop where
  once : used.Nodup
  apart : ∀ i ticket, held i = some ticket → ticket ∉ used
  alone : ∀ i j ticket, held i = some ticket → held j = some ticket → i = j

variable [DecidableEq ι] (exclusive : Exclusive held used) (i : ι)
include exclusive

theorem Exclusive.drop : Exclusive (Function.update held i none) used where
  once := exclusive.once
  apart j ticket holds := by
    by_cases same : j = i
    · simp [same] at holds
    · exact exclusive.apart j ticket (by simpa [same] using holds)
  alone j k ticket first second := by
    by_cases here : j = i
    · simp [here] at first
    · by_cases there : k = i
      · simp [there] at second
      · exact exclusive.alone j k ticket (by simpa [here] using first) (by simpa [there] using second)

/-- A party takes a ticket that nobody holds. -/
theorem Exclusive.take {ticket : κ} (free : ∀ j, held j ≠ some ticket) (unused : ticket ∉ used) :
    Exclusive (Function.update held i (some ticket)) used where
  once := exclusive.once
  apart j other holds := by
    by_cases same : j = i
    · subst same
      rw [Function.update_self,Option.some.injEq] at holds
      exact holds ▸ unused
    · exact exclusive.apart j other (by simpa [same] using holds)
  alone j k other first second := by
    by_cases here : j = i
    · subst here
      rw [Function.update_self,Option.some.injEq] at first
      subst first
      by_contra there
      exact free k (by simpa [Ne.symm there] using second)
    · rw [Function.update_of_ne here] at first
      by_cases there : k = i
      · subst there
        rw [Function.update_self,Option.some.injEq] at second
        exact absurd (second ▸ first) (free j)
      · exact exclusive.alone j k other first (by simpa [there] using second)

/-- A party uses its ticket up. -/
theorem Exclusive.use {ticket : κ} (holds : held i = some ticket) : Exclusive (Function.update held i none) (ticket :: used) where
  once := List.nodup_cons.mpr ⟨exclusive.apart i ticket holds,exclusive.once⟩
  apart j other still := by
    have kept := (exclusive.drop i).apart j other still
    rintro (_ | ⟨_,later⟩)
    · by_cases same : j = i
      · simp [same] at still
      · exact same (exclusive.alone j i ticket (by simpa [same] using still) holds)
    · exact kept later
  alone := (exclusive.drop i).alone

end SocAnalyst.Tickets
