import Mathlib.Data.List.Basic
import Mathlib.Order.Defs.PartialOrder

/-!
# Transactions against direct execution

A store answers calls directly, or through a staged view that a transaction
opens on it and later commits or rolls back. A simulation between the staged
and the direct states carries the replies of one call, and by induction those
of every sequence of calls. Guards on single calls are collected along the run
of the view, since whether a call is harmless depends on what the transaction
staged before it.
-/
namespace OidcProvider.TransactionalStores

def run {S C R : Type} (step : S → C → S × R) : S → List C → S × List R
  | s, [] => (s, [])
  | s, c :: cs =>
    let r := step s c
    let rest := run step r.1 cs
    (rest.1, r.2 :: rest.2)

/-- `P` holds of every call in the state in which it is made. -/
def Along {S C R : Type} (step : S → C → S × R) (P : S → C → Prop) : S → List C → Prop
  | _, [] => True
  | s, c :: cs => P s c ∧ Along step P (step s c).1 cs

section Runs
variable {S C R : Type} {step : S → C → S × R}

lemma run_invariant {P : S → Prop} (h : ∀ s c, P s → P (step s c).1) {s : S} (hs : P s)
    (cs : List C) : P (run step s cs).1 := by
  induction cs generalizing s with
  | nil => exact hs
  | cons c cs ih => exact ih (h s c hs)

lemma run_fixed {B : Type} {f : S → B} (h : ∀ s c, f (step s c).1 = f s) (s : S)
    (cs : List C) : f (run step s cs).1 = f s :=
  run_invariant (P := fun s' => f s' = f s) (fun s' c hs => (h s' c).trans hs) rfl cs

end Runs

section Clocks
variable {C τ : Type} [LE τ] (clock : C → τ)

/-- The clock never goes back between calls, and stays at or past `now`. -/
def ClockedFrom : τ → List C → Prop
  | _, [] => True
  | now, c :: cs => now ≤ clock c ∧ ClockedFrom (clock c) cs

def lastClock : τ → List C → τ
  | now, [] => now
  | _, c :: cs => lastClock (clock c) cs

variable {clock}

lemma clockedFrom_append {now : τ} {cs cs' : List C} :
    ClockedFrom clock now (cs ++ cs') ↔
      ClockedFrom clock now cs ∧ ClockedFrom clock (lastClock clock now cs) cs' := by
  induction cs generalizing now with
  | nil => simp [ClockedFrom, lastClock]
  | cons c cs ih => exact (and_congr_right fun _ => ih).trans and_assoc.symm

end Clocks

lemma le_lastClock {C τ : Type} [Preorder τ] {clock : C → τ} {now : τ} {cs : List C}
    (h : ClockedFrom clock now cs) : now ≤ lastClock clock now cs := by
  induction cs generalizing now with
  | nil => exact le_refl now
  | cons c cs ih => exact le_trans h.1 (ih h.2)

lemma clock_le_lastClock {C τ : Type} [Preorder τ] {clock : C → τ} {now : τ} {cs : List C}
    (h : ClockedFrom clock now cs) {c : C} (hc : c ∈ cs) :
    clock c ≤ lastClock clock now cs := by
  induction cs generalizing now with
  | nil => cases hc
  | cons c' cs ih =>
    rcases List.mem_cons.mp hc with rfl | hc
    · exact le_lastClock h.2
    · exact ih h.2 hc

/-- A store with a direct and a transactional way to make a call. `E` is what a
commit depends on besides the staged state, and `U` are the direct operations
without a transactional counterpart. -/
structure TransactionalStore (S T C R E U : Type) where
  direct : S → C → S × R
  staged : T → C → T × R
  openTx : S → T
  commit : T → E → S
  rollback : T → S
  outside : S → U → S

namespace TransactionalStore
variable {S T C R E U : Type} (A : TransactionalStore S T C R E U)

/-- One thing that happens to a store: a direct operation, or a whole transaction. -/
inductive Event (C E U : Type) where
  | call (c : C)
  | outside (u : U)
  | committed (cs : List C) (e : E)
  | rolledBack (cs : List C)

def Event.calls : Event C E U → List C
  | .call c => [c]
  | .outside _ => []
  | .committed cs _ => cs
  | .rolledBack cs => cs

def apply (s : S) : Event C E U → S
  | .call c => (A.direct s c).1
  | .outside u => A.outside s u
  | .committed cs e => A.commit (run A.staged (A.openTx s) cs).1 e
  | .rolledBack cs => A.rollback (run A.staged (A.openTx s) cs).1

def after (s : S) (history : List (Event C E U)) : S := history.foldl A.apply s

/-- Every event of a history is admissible in the state in which it happens. -/
def Throughout (ok : S → Event C E U → Prop) : S → List (Event C E U) → Prop
  | _, [] => True
  | s, e :: es => ok s e ∧ Throughout ok (A.apply s e) es

/-- `P` holds in every state of a history, the first and the last included. -/
def Always (P : S → Prop) : S → List (Event C E U) → Prop
  | s, [] => P s
  | s, e :: es => P s ∧ Always P (A.apply s e) es

variable {A} {Sim : T → S → Prop} {P : S → Prop} {s : S}

lemma always_iff_throughout {ok : S → Event C E U → Prop}
    (h : ∀ s e, P s → (P (A.apply s e) ↔ ok s e)) (hs : P s) (history : List (Event C E U)) :
    A.Always P s history ↔ A.Throughout ok s history := by
  induction history generalizing s with
  | nil => exact iff_of_true hs trivial
  | cons e es ih =>
    constructor
    · rintro ⟨_, hrest⟩
      have hnext : P (A.apply s e) := by cases es with
        | nil => exact hrest
        | cons _ _ => exact hrest.1
      exact ⟨(h s e hs).mp hnext, (ih hnext).mp hrest⟩
    · rintro ⟨hok, hrest⟩
      have hnext := (h s e hs).mpr hok
      exact ⟨hs, (ih hnext).mpr hrest⟩

lemma Always.after {history : List (Event C E U)} (h : A.Always P s history) :
    P (A.after s history) := by
  induction history generalizing s with
  | nil => exact h
  | cons e es ih => exact ih h.2

lemma after_preserves (h : ∀ s e, P s → P (A.apply s e)) (hs : P s)
    (history : List (Event C E U)) : P (A.after s history) := by
  induction history generalizing s with
  | nil => exact hs
  | cons e es ih => exact ih (h s e hs)

/-- A simulation whose calls are admissible gives the same replies, and its
states still correspond at the end. -/
theorem run_simulates {ok : T → C → Prop} (h : ∀ t s c, Sim t s → ok t c →
      Sim (A.staged t c).1 (A.direct s c).1 ∧ (A.staged t c).2 = (A.direct s c).2) {t : T}
    (hsim : Sim t s) {cs : List C} (hok : Along A.staged ok t cs) :
    Sim (run A.staged t cs).1 (run A.direct s cs).1 ∧
      (run A.staged t cs).2 = (run A.direct s cs).2 := by
  induction cs generalizing t s with
  | nil => exact ⟨hsim, rfl⟩
  | cons c cs ih =>
    obtain ⟨hstep, hreply⟩ := h t s c hsim hok.1
    obtain ⟨hend, hreplies⟩ := ih hstep hok.2
    refine ⟨hend, ?_⟩
    simp only [run, hreply, hreplies]

/-- Under a simulation that every call keeps, the replies of a whole run agree
exactly when each call meets the condition under which its own replies agree. -/
theorem run_agrees_iff {ok : S → C → Prop}
    (h : ∀ t s c, Sim t s → Sim (A.staged t c).1 (A.direct s c).1 ∧
      ((A.staged t c).2 = (A.direct s c).2 ↔ ok s c)) {t : T} (hsim : Sim t s) (cs : List C) :
    Sim (run A.staged t cs).1 (run A.direct s cs).1 ∧
      ((run A.staged t cs).2 = (run A.direct s cs).2 ↔ Along A.direct ok s cs) := by
  induction cs generalizing t s with
  | nil => exact ⟨hsim, iff_of_true rfl trivial⟩
  | cons c cs ih =>
    obtain ⟨hstep, hreply⟩ := h t s c hsim
    obtain ⟨hend, hreplies⟩ := ih hstep
    refine ⟨hend, ?_⟩
    simp only [run, Along, List.cons.injEq]
    exact and_congr hreply hreplies

lemma along_simulates {P ok : T → C → Prop}
    (h : ∀ t s c, Sim t s → P t c → ok t c ∧ Sim (A.staged t c).1 (A.direct s c).1) {t : T}
    (hsim : Sim t s) {cs : List C} (hP : Along A.staged P t cs) : Along A.staged ok t cs := by
  induction cs generalizing t s with
  | nil => trivial
  | cons c cs ih =>
    obtain ⟨hok, hstep⟩ := h t s c hsim hP.1
    exact ⟨hok, ih hstep hP.2⟩

end TransactionalStore

end OidcProvider.TransactionalStores
