import Mathlib.Data.Nat.Basic
import Mathlib.Logic.Function.Basic

/-!
# Calls that interleave

Any number of calls work on one shared state. Each stands in a phase of its own; a step of a
call looks at its phase and at the shared state, and changes both. A schedule is the list of
the steps taken, each with the chance it meets; a statement about every schedule is one about
every interleaving.
-/
namespace OidcProvider.InterleavedCalls

structure Pool (S P : Type) where
  shared : S
  phase : ℕ → P

section Steps
variable {S P E : Type} (advance : ℕ → E → S → P → S × P)

def step (σ : Pool S P) (m : ℕ × E) : Pool S P where
  shared := (advance m.1 m.2 σ.shared (σ.phase m.1)).1
  phase := Function.update σ.phase m.1 (advance m.1 m.2 σ.shared (σ.phase m.1)).2

def run (σ : Pool S P) (schedule : List (ℕ × E)) : Pool S P := schedule.foldl (step advance) σ

/-- Every step of the schedule is taken where `ok` holds. -/
def Along (ok : Pool S P → ℕ × E → Prop) : Pool S P → List (ℕ × E) → Prop
  | _, [] => True
  | σ, m :: schedule => ok σ m ∧ Along ok (step advance σ m) schedule

variable {advance}

/-- A step is one of those that a description `R` of `advance` allows. -/
theorem step_cases {R : ℕ → E → S → P → S → P → Prop}
    (hadv : ∀ i e s p, R i e s p (advance i e s p).1 (advance i e s p).2) (σ : Pool S P)
    (m : ℕ × E) :
    ∃ p s' p', σ.phase m.1 = p ∧ R m.1 m.2 σ.shared p s' p' ∧
      step advance σ m = ⟨s', Function.update σ.phase m.1 p'⟩ :=
  ⟨_, _, _, rfl, hadv .., rfl⟩

/-- A call that takes no step stays where it is. -/
theorem phase_run {i : ℕ} {schedule : List (ℕ × E)} (h : ∀ m ∈ schedule, m.1 ≠ i)
    (σ : Pool S P) : (run advance σ schedule).phase i = σ.phase i := by
  induction schedule generalizing σ with
  | nil => rfl
  | cons m schedule ih =>
    rw [List.forall_mem_cons] at h
    exact (ih h.2 _).trans (Function.update_of_ne h.1.symm _ _)

variable {ok : Pool S P → ℕ × E → Prop} {Inv : Pool S P → Prop}

/-- What a step keeps where `ok` holds, a schedule keeps along which it does. -/
theorem run_invariant (hstep : ∀ σ m, Inv σ → ok σ m → Inv (step advance σ m))
    (schedule : List (ℕ × E)) {σ : Pool S P} (h : Inv σ) (hok : Along advance ok σ schedule) :
    Inv (run advance σ schedule) := by
  induction schedule generalizing σ with
  | nil => exact h
  | cons m schedule ih => exact ih (hstep σ m h hok.1) hok.2

/-- Conditions that agree wherever the invariant holds, and where they hold keep it, hold along
the same schedules. -/
theorem along_congr {ok' : Pool S P → ℕ × E → Prop}
    (hstep : ∀ σ m, Inv σ → ok σ m → Inv (step advance σ m))
    (hok : ∀ σ m, Inv σ → (ok σ m ↔ ok' σ m)) (schedule : List (ℕ × E)) {σ : Pool S P} (h : Inv σ) :
    Along advance ok σ schedule ↔ Along advance ok' σ schedule := by
  induction schedule generalizing σ with
  | nil => exact Iff.rfl
  | cons m schedule ih =>
    rw [Along, Along, ← hok σ m h]
    exact and_congr_right fun hm => ih (hstep σ m h hm)

end Steps

end OidcProvider.InterleavedCalls
