import OidcProvider.FiniteMaps

/-!
# A staged view of a finite map

An overlay collects the writes and the deletions of a transaction over a base
map that stays as it was. A lookup sees the written row first, then the
deletion, then the base. The overlay is addressed by its keys like a map, so
range loops through it have the same closed form as loops on the map they
would run on directly. A commit copies the deletions and then the writes into
the base, and leaves exactly the rows the view showed.
-/
namespace OidcProvider.StagedOverlay
open FiniteMaps

/-- The staged view of one base map: rows written in the transaction, plus
keys deleted in it. -/
structure Overlay (K V : Type) [DecidableEq K] where
  base : FiniteMap K V
  written : FiniteMap K V
  deleted : Finset K

section
variable {K V : Type} [DecidableEq K]

namespace Overlay

def new (base : FiniteMap K V) : Overlay K V := ⟨base, ∅, ∅⟩

def lookup (o : Overlay K V) (key : K) : Option V :=
  match o.written.lookup key with
  | some row => some row
  | none => if key ∈ o.deleted then none else o.base.lookup key

def stage (o : Overlay K V) (key : K) (row : V) : Overlay K V :=
  { o with deleted := o.deleted.erase key, written := o.written.insert key row }

def drop (o : Overlay K V) (key : K) : Overlay K V :=
  { o with written := o.written.erase key, deleted := insert key o.deleted }

def set (o : Overlay K V) (key : K) : Option V → Overlay K V
  | some row => o.stage key row
  | none => o.drop key

def Consistent (o : Overlay K V) : Prop := ∀ key ∈ o.deleted, o.written.lookup key = none

variable {o : Overlay K V}

@[simp] lemma base_set (o : Overlay K V) (key : K) (w : Option V) :
    (o.set key w).base = o.base := by
  cases w <;> rfl

lemma written_set (o : Overlay K V) (key key' : K) (w : Option V) :
    (o.set key w).written.lookup key' = if key' = key then w else o.written.lookup key' := by
  cases w with
  | none => exact lookup_erase_ite o.written key key'
  | some row => exact lookup_insert_ite o.written key key' row

lemma mem_deleted_set (o : Overlay K V) (key key' : K) (w : Option V) :
    key' ∈ (o.set key w).deleted ↔ if key' = key then w = none else key' ∈ o.deleted := by
  cases w <;> by_cases h : key' = key <;> simp [set, stage, drop, h]

lemma lookup_set (o : Overlay K V) (key key' : K) (w : Option V) :
    (o.set key w).lookup key' = if key' = key then w else o.lookup key' := by
  unfold lookup
  simp only [written_set, mem_deleted_set, base_set]
  by_cases h : key' = key
  · cases w <;> simp [h]
  · simp only [h, ↓reduceIte]

lemma consistent_new (base : FiniteMap K V) : (new base).Consistent := by
  intro key h
  exact absurd h (Finset.notMem_empty key)

lemma consistent_set (h : o.Consistent) (key : K) (w : Option V) : (o.set key w).Consistent := by
  intro key' hd
  rw [mem_deleted_set] at hd
  rw [written_set]
  split_ifs at hd ⊢ with hk
  · exact hd
  · exact h key' hd

lemma lookup_cases {key : K} {row : V} (h : o.lookup key = some row) :
    o.written.lookup key = some row ∨
      (o.written.lookup key = none ∧ key ∉ o.deleted ∧ o.base.lookup key = some row) := by
  unfold lookup at h
  cases hw : o.written.lookup key with
  | some r => exact .inl (by simpa [hw] using h)
  | none =>
    simp only [hw] at h
    split_ifs at h with hd
    exact .inr ⟨rfl, hd, h⟩

lemma lookup_of_written {key : K} {row : V} (h : o.written.lookup key = some row) :
    o.lookup key = some row := by
  simp [lookup, h]

lemma mem_keys_of_view {key : K} {row : V} (h : o.lookup key = some row) :
    key ∈ o.written.keys ∪ o.base.keys := by
  rw [Finset.mem_union, mem_keys_iff, mem_keys_iff]
  rcases lookup_cases h with h | ⟨_, _, h⟩
  · exact .inl ⟨row, h⟩
  · exact .inr ⟨row, h⟩

end Overlay

def overlayCells (K V : Type) [DecidableEq K] : Cells (Overlay K V) K V where
  get := Overlay.lookup
  set := Overlay.set
  get_set_self o key w := by rw [Overlay.lookup_set, if_pos rfl]
  get_set_ne o key w key' h := by rw [Overlay.lookup_set, if_neg h]

lemma rangeLoop_base (act : Overlay K V → K → Option (Option V)) (ks : List K)
    (o : Overlay K V) : (rangeLoop (overlayCells K V) act ks o).1.base = o.base :=
  rangeLoop_invariant (P := fun o' => o'.base = o.base)
    (fun o' key w h _ => (Overlay.base_set o' key w).trans h) ks o rfl

lemma rangeLoop_consistent (act : Overlay K V → K → Option (Option V)) (ks : List K)
    {o : Overlay K V} (h : o.Consistent) :
    (rangeLoop (overlayCells K V) act ks o).1.Consistent :=
  rangeLoop_invariant (P := Overlay.Consistent)
    (fun _ key w h _ => Overlay.consistent_set h key w) ks o h

section Reclaim
variable (stale : V → Bool) (ρ : RangeOrder K) (o : Overlay K V) (key : K)

/-- The body of a pass over the written rows that drops the stale ones. -/
def dropWritten (o : Overlay K V) (key : K) : Option (Option V) :=
  match o.written.lookup key with
  | some row => if stale row then some none else none
  | none => none

/-- The body of a pass over the base rows: a key written or deleted in the
transaction is skipped. -/
def dropBase (o : Overlay K V) (key : K) : Option (Option V) :=
  if (o.written.lookup key).isSome then none
  else if key ∈ o.deleted then none
  else match o.base.lookup key with
    | some row => if stale row then some none else none
    | none => none

/-- Drops every visible stale row, the written rows first, and counts them. -/
def reclaim (ρ : RangeOrder K) (o : Overlay K V) : Overlay K V × ℕ :=
  let r₁ := rangeLoop (overlayCells K V) (dropWritten stale) (ρ.visit o.written.keys) o
  let r₂ := rangeLoop (overlayCells K V) (dropBase stale) (ρ.visit o.base.keys) r₁.1
  (r₂.1, r₁.2 + r₂.2)

lemma dropWritten_local : Local (overlayCells K V) (dropWritten (K := K) stale) := by
  intro o key w key' h
  simp [dropWritten, overlayCells, Overlay.written_set, h]

lemma dropBase_local : Local (overlayCells K V) (dropBase (K := K) stale) := by
  intro o key w key' h
  simp [dropBase, overlayCells, Overlay.written_set, Overlay.mem_deleted_set, h]

/-- A stale row written in the transaction turns into a deletion, and nothing
else that is staged changes. -/
theorem staged_dropWritten (ρ : RangeOrder K) (o : Overlay K V) (key : K) :
    let o₁ := (rangeLoop (overlayCells K V) (dropWritten stale) (ρ.visit o.written.keys) o).1
    o₁.written.lookup key = (o.written.lookup key).filter (fun row => !stale row) ∧
      (key ∈ o₁.deleted ↔ key ∈ o.deleted ∨
        ∃ row, o.written.lookup key = some row ∧ stale row) := by
  intro o₁
  have h := rangeLoop_visit_obs (dropWritten_local stale)
    (g := fun o k => (o.written.lookup k, k ∈ o.deleted))
    (fun s k w k' h => by simp [overlayCells, Overlay.written_set, Overlay.mem_deleted_set, h])
    (fun s s' k w _ => by simp [overlayCells, Overlay.written_set, Overlay.mem_deleted_set])
    ρ o.written.keys o key
  change (o₁.written.lookup key, key ∈ o₁.deleted) = _ at h
  simp only [overlayCells, Overlay.written_set, Overlay.mem_deleted_set, ↓reduceIte,
    dropWritten] at h
  cases hw : o.written.lookup key with
  | none =>
    simp [hw] at h
    simp [h]
  | some row =>
    have hk := mem_keys_of_lookup hw
    cases hs : stale row <;> simp [hw, hs, hk] at h <;> simp [h, hs, Option.filter_some]

lemma lookup_dropBase :
    (rangeLoop (overlayCells K V) (dropBase stale) (ρ.visit o.base.keys) o).1.lookup key =
      match o.written.lookup key with
      | some row => some row
      | none => (o.lookup key).filter fun row => !stale row := by
  have h := rangeLoop_visit_get (dropBase_local stale) ρ o.base.keys o key
  change Overlay.lookup _ key = if key ∈ o.base.keys then _ else Overlay.lookup o key at h
  rw [h]
  simp only [dropBase, Overlay.lookup, overlayCells]
  cases hw : o.written.lookup key with
  | some row => simp
  | none =>
    by_cases hd : key ∈ o.deleted
    · simp [hd]
    · cases hb : o.base.lookup key with
      | none => simp
      | some row =>
        have hk := mem_keys_of_lookup hb
        cases hs : stale row <;> simp [hd, hs, hk, Option.filter_some]

lemma lookup_reclaim :
    (reclaim stale ρ o).1.lookup key = (o.lookup key).filter fun row => !stale row := by
  obtain ⟨hw, hd⟩ := staged_dropWritten stale ρ o key
  have hb := rangeLoop_base (dropWritten stale) (ρ.visit o.written.keys) o
  have h := lookup_dropBase stale ρ
    (rangeLoop (overlayCells K V) (dropWritten stale) (ρ.visit o.written.keys) o).1 key
  rw [hb, hw] at h
  refine h.trans ?_
  unfold Overlay.lookup
  rw [hw, hb]
  cases hrow : o.written.lookup key with
  | none => simp [hd, hrow]
  | some row => cases hs : stale row <;> simp [hd, hs, hrow, Option.filter_some]

lemma dropWritten_isSome :
    (dropWritten stale o key).isSome = (o.written.lookup key).any stale := by
  unfold dropWritten
  cases o.written.lookup key with
  | none => rfl
  | some row => cases hs : stale row <;> simp [hs]

/-- After the pass over the written rows, the pass over the base acts on the
visible base rows that are stale. -/
theorem dropBase_isSome :
    (dropBase stale (rangeLoop (overlayCells K V) (dropWritten stale)
        (ρ.visit o.written.keys) o).1 key).isSome =
      ((o.written.lookup key).isNone && (o.lookup key).any stale) := by
  obtain ⟨hw, hd⟩ := staged_dropWritten stale ρ o key
  have hb := rangeLoop_base (dropWritten stale) (ρ.visit o.written.keys) o
  unfold dropBase Overlay.lookup
  rw [hw, hb]
  cases hrow : o.written.lookup key with
  | none =>
    by_cases hdel : key ∈ o.deleted
    · simp [hd, hdel]
    · cases hbase : o.base.lookup key with
      | none => simp
      | some row => cases hs : stale row <;> simp [hd, hdel, hrow, hs]
  | some row => cases hs : stale row <;> simp [hd, hs, hrow, Option.filter_some]

lemma reclaim_count :
    (reclaim stale ρ o).2 =
      ((o.written.keys ∪ o.base.keys).filter fun k => (o.lookup k).any stale = true).card := by
  have h₁ := rangeLoop_visit_count (dropWritten_local stale) ρ o.written.keys o
  have h₂ := rangeLoop_visit_count (dropBase_local stale) ρ o.base.keys
    (rangeLoop (overlayCells K V) (dropWritten stale) (ρ.visit o.written.keys) o).1
  simp only [dropWritten_isSome] at h₁
  simp only [dropBase_isSome] at h₂
  change (rangeLoop _ _ _ _).2 + (rangeLoop _ _ _ _).2 = _
  rw [h₁, h₂, ← Finset.card_union_of_disjoint]
  · congr 1
    ext k
    simp only [Finset.mem_union, Finset.mem_filter, mem_keys_iff, Bool.and_eq_true]
    cases hw : o.written.lookup k with
    | none => simp
    | some row => simp [Overlay.lookup_of_written hw]
  · rw [Finset.disjoint_left]
    intro k hk
    cases hw : o.written.lookup k <;> simp [hw] at hk ⊢

lemma reclaim_count_of_rows {o : Overlay K V} {m : FiniteMap K V}
    (h : ∀ k, o.lookup k = m.lookup k) (ρ : RangeOrder K) :
    (reclaim stale ρ o).2 = (m.keys.filter fun k => (m.lookup k).any stale = true).card := by
  rw [reclaim_count]
  congr 1
  ext k
  simp only [Finset.mem_filter, h k]
  constructor
  · rintro ⟨_, hk⟩
    obtain ⟨row, hrow, _⟩ := (Option.any_eq_true _ _).mp hk
    exact ⟨mem_keys_of_lookup hrow, hk⟩
  · rintro ⟨_, hk⟩
    obtain ⟨row, hrow, _⟩ := (Option.any_eq_true _ _).mp hk
    exact ⟨Overlay.mem_keys_of_view ((h k).trans hrow), hk⟩

end Reclaim

section Commit
variable {X : Type} (onDrop onPut : X → K → V → X)

/-- A committed map together with the state that follows its rows. -/
structure Tracked (K V X : Type) where
  m : FiniteMap K V
  idx : X

/-- One change of a committed row: a stored row is reported to `onPut`, a
deleted one to `onDrop`. -/
def Tracked.commit (s : Tracked K V X) (key : K) : Option V → Tracked K V X
  | some row => ⟨s.m.insert key row, onPut s.idx key row⟩
  | none =>
    ⟨s.m.erase key,
      match s.m.lookup key with
      | some row => onDrop s.idx key row
      | none => s.idx⟩

lemma Tracked.m_commit (s : Tracked K V X) (key : K) (w : Option V) :
    (s.commit onDrop onPut key w).m = put s.m key w := by
  cases w <;> rfl

def commitCells : Cells (Tracked K V X) K V where
  get s key := s.m.lookup key
  set := Tracked.commit onDrop onPut
  get_set_self s key w := by simp [Tracked.m_commit, lookup_put]
  get_set_ne s key w key' h := by simp [Tracked.m_commit, lookup_put, h]

/-- Copies the overlay into the base: the deletions, then the written rows. -/
def Overlay.flush (ρ : RangeOrder K) (o : Overlay K V) (x : X) : Tracked K V X :=
  let s := (rangeLoop (commitCells onDrop onPut) (fun _ _ => some none) (ρ.visit o.deleted)
    ⟨o.base, x⟩).1
  (rangeLoop (commitCells onDrop onPut) (fun _ key => (o.written.lookup key).map some)
    (ρ.visit o.written.keys) s).1

lemma lookup_flush_deleted (ρ : RangeOrder K) (o : Overlay K V) (x : X) (key : K) :
    (rangeLoop (commitCells onDrop onPut) (fun _ _ => some none) (ρ.visit o.deleted)
      ⟨o.base, x⟩).1.m.lookup key = if key ∈ o.deleted then none else o.base.lookup key :=
  rangeLoop_visit_get (C := commitCells onDrop onPut) (fun _ _ _ _ _ => rfl) ρ o.deleted
    ⟨o.base, x⟩ key

lemma lookup_flush (ρ : RangeOrder K) (o : Overlay K V) (x : X) (key : K) :
    (o.flush onDrop onPut ρ x).m.lookup key = o.lookup key := by
  have hl : Local (commitCells onDrop onPut) fun _ key => (o.written.lookup key).map some :=
    fun _ _ _ _ _ => rfl
  have h := rangeLoop_visit_get hl ρ o.written.keys (rangeLoop (commitCells onDrop onPut)
    (fun _ _ => some none) (ρ.visit o.deleted) ⟨o.base, x⟩).1 key
  refine h.trans ?_
  change (if _ then Option.getD _ (Finmap.lookup _ _) else Finmap.lookup _ _) = _
  rw [lookup_flush_deleted]
  unfold Overlay.lookup
  cases hw : o.written.lookup key with
  | none => simp
  | some row => simp [mem_keys_of_lookup hw]

end Commit

section Layers

/-- The row of the newest layer that holds the key: updated rows over added rows
over the base. -/
def stagedLookup (key : K) (updated added base : FiniteMap K V) : Option V :=
  match updated.lookup key with
  | some row => some row
  | none =>
    match added.lookup key with
    | some row => some row
    | none => base.lookup key

lemma stagedLookup_eq (key : K) (updated added base : FiniteMap K V) :
    stagedLookup key updated added base =
      (updated.lookup key).or ((added.lookup key).or (base.lookup key)) := by
  unfold stagedLookup
  cases updated.lookup key <;> cases added.lookup key <;> rfl

lemma stagedLookup_insert_updated (key key' : K) (updated added base : FiniteMap K V) (row : V) :
    stagedLookup key' (updated.insert key row) added base =
      if key' = key then some row else stagedLookup key' updated added base := by
  simp only [stagedLookup_eq, lookup_insert_ite]
  split_ifs <;> rfl

lemma stagedLookup_insert_added {key : K} {updated added base : FiniteMap K V}
    (hfresh : stagedLookup key updated added base = none) (key' : K) (row : V) :
    stagedLookup key' updated (added.insert key row) base =
      if key' = key then some row else stagedLookup key' updated added base := by
  simp only [stagedLookup_eq, lookup_insert_ite] at hfresh ⊢
  split_ifs with hk
  · subst hk
    rw [Option.or_eq_none_iff] at hfresh
    rw [hfresh.1, Option.none_or, Option.some_or]
  · rfl

end Layers

end

end OidcProvider.StagedOverlay
