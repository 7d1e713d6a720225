import Mathlib.Data.List.Basic
import Mathlib.Order.Nat

/-!
# Rows stamped from a counter

The rows of a shared state are written with stamps drawn from one counter that
never goes back. So no two rows have the same stamp, and a stamp that is on a
row now and comes up again later is still on the same row and has been there all
the time: nothing has written the row or removed it in between, since a later
write draws a later stamp.
-/
namespace OidcProvider.FreshStamps

/-- A state machine with a counter and rows `K` that carry stamps of it. -/
structure Stamping (S O K : Type) where
  step : S → O → S
  counter : S → ℕ
  /-- The stamp on a row. -/
  row : S → K → Option ℕ
  /-- The operation writes the row or removes it. -/
  touches : S → O → K → Bool
  counter_le : ∀ s o, counter s ≤ counter (step s o)
  kept : ∀ s o k, touches s o k = false → row (step s o) k = row s k
  fresh : ∀ s o k v, touches s o k = true → row (step s o) k = some v →
    counter s < v ∧ v ≤ counter (step s o)
  sole : ∀ s o k k', touches s o k = true → touches s o k' = true → k = k'

namespace Stamping
variable {S O K : Type} (T : Stamping S O K) {s : S}

def run (s : S) (ops : List O) : S := ops.foldl T.step s

def Untouched (k : K) : S → List O → Prop
  | _, [] => True
  | s, o :: ops => T.touches s o k = false ∧ Untouched k (T.step s o) ops

/-- The stamps on the rows have been drawn, each for one row. -/
structure Sound (s : S) : Prop where
  drawn : ∀ k v, T.row s k = some v → v ≤ T.counter s
  distinct : ∀ k k' v, T.row s k = some v → T.row s k' = some v → k = k'

lemma drawn_step (h : T.Sound s) (o : O) (k : K) (v : ℕ) (hv : T.row (T.step s o) k = some v) :
    v ≤ T.counter (T.step s o) := by
  cases ht : T.touches s o k with
  | true => exact (T.fresh s o k v ht hv).2
  | false =>
    rw [T.kept s o k ht] at hv
    exact (h.drawn k v hv).trans (T.counter_le s o)

lemma fresh_ne (h : T.Sound s) {o : O} {k k' : K} {v : ℕ} (ht : T.touches s o k = true)
    (ht' : T.touches s o k' = false) (hv : T.row (T.step s o) k = some v) :
    T.row (T.step s o) k' ≠ some v := by
  intro hv'
  rw [T.kept s o k' ht'] at hv'
  exact absurd (h.drawn k' v hv') (not_le.mpr (T.fresh s o k v ht hv).1)

lemma sound_step (h : T.Sound s) (o : O) : T.Sound (T.step s o) := by
  refine ⟨T.drawn_step h o, fun k k' v hv hv' => ?_⟩
  cases ht : T.touches s o k with
  | true =>
    cases ht' : T.touches s o k' with
    | true => exact T.sole s o k k' ht ht'
    | false => exact absurd hv' (T.fresh_ne h ht ht' hv)
  | false =>
    cases ht' : T.touches s o k' with
    | true => exact absurd hv (T.fresh_ne h ht' ht hv')
    | false =>
      rw [T.kept s o k ht] at hv
      rw [T.kept s o k' ht'] at hv'
      exact h.distinct k k' v hv hv'

lemma sound_run (h : T.Sound s) (ops : List O) : T.Sound (T.run s ops) := by
  induction ops generalizing s with
  | nil => exact h
  | cons o ops ih => exact ih (T.sound_step h o)

lemma row_of_untouched {k : K} {ops : List O} (h : T.Untouched k s ops) :
    T.row (T.run s ops) k = T.row s k := by
  induction ops generalizing s with
  | nil => rfl
  | cons o ops ih => exact (ih h.2).trans (T.kept s o k h.1)

/-- After a run a row is untouched, or its stamp is later than all there were. -/
theorem untouched_or_later (k : K) (ops : List O) :
    T.Untouched k s ops ∨ ∀ v, T.row (T.run s ops) k = some v → T.counter s < v := by
  induction ops generalizing s with
  | nil => exact .inl trivial
  | cons o ops ih =>
    have hle := T.counter_le s o
    rcases ih (s := T.step s o) with hrest | hlater
    · cases ht : T.touches s o k with
      | false => exact .inl ⟨ht, hrest⟩
      | true =>
        right
        intro v hv
        have hrow : T.row (T.step s o) k = some v := (T.row_of_untouched hrest).symm.trans hv
        exact (T.fresh s o k v ht hrow).1
    · exact .inr fun v hv => hle.trans_lt (hlater v hv)

/-- A stamp that comes up again is on the same row and has never left it. -/
theorem untouched_of_stamp (h : T.Sound s) {ops : List O} {k k' : K} {v : ℕ}
    (hv : T.row s k = some v) (hv' : T.row (T.run s ops) k' = some v) :
    k' = k ∧ T.Untouched k s ops := by
  rcases T.untouched_or_later (s := s) k' ops with huntouched | hlater
  · have hrow : T.row s k' = some v := (T.row_of_untouched huntouched).symm.trans hv'
    obtain rfl := h.distinct k' k v hrow hv
    exact ⟨rfl, huntouched⟩
  · exact absurd (h.drawn k v hv) (not_le.mpr (hlater v hv'))

/-! ### The stamps drawn in a run -/

variable (target : O → Option K)

def draw (s : S) (o : O) : Option ℕ :=
  match target o with
  | none => none
  | some k => if T.touches s o k then T.row (T.step s o) k else none

def drawnStamps : S → List O → List ℕ
  | _, [] => []
  | s, o :: ops => (T.draw target s o).toList ++ drawnStamps (T.step s o) ops

variable {target}

lemma fresh_draw {o : O} {v : ℕ} (h : T.draw target s o = some v) :
    T.counter s < v ∧ v ≤ T.counter (T.step s o) := by
  unfold draw at h
  cases hk : target o with
  | none =>
    rw [hk] at h
    cases h
  | some k =>
    rw [hk] at h
    dsimp only at h
    split_ifs at h with ht
    exact T.fresh s o k v ht h

lemma lt_of_mem_drawnStamps {ops : List O} {v : ℕ} (hv : v ∈ T.drawnStamps target s ops) :
    T.counter s < v := by
  induction ops generalizing s with
  | nil => cases hv
  | cons o ops ih =>
    rcases List.mem_append.mp hv with hnow | hlater
    · exact (T.fresh_draw (Option.mem_toList.mp hnow)).1
    · exact (T.counter_le s o).trans_lt (ih hlater)

lemma drawnStamps_pairwise (s : S) (ops : List O) :
    (T.drawnStamps target s ops).Pairwise (· < ·) := by
  induction ops generalizing s with
  | nil => exact .nil
  | cons o ops ih =>
    refine List.pairwise_append.mpr ⟨?_, ih (T.step s o), ?_⟩
    · cases T.draw target s o <;> simp
    · intro v hv v' hv'
      have hnow := (T.fresh_draw (Option.mem_toList.mp hv)).2
      exact hnow.trans_lt (T.lt_of_mem_drawnStamps hv')

end Stamping

end OidcProvider.FreshStamps
