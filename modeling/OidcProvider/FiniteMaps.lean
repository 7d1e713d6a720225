import Mathlib.Data.Finmap
import Mathlib.Data.Finset.Card
import Mathlib.Data.List.Sort
import Mathlib.Data.String.Basic

/-!
# Finite maps, addressable cells and range loops

A finite map is extensional: two maps with the same lookups are equal. A range
loop visits every key of a finite set once, in an order the program does not
choose, and at each key either continues or writes that key. Such a loop is
given by its visiting list and by the action of its body; the results below say
what one pass leaves at every key and how often the body acted. They hold for
every visiting list without repetitions, so no result depends on the order.
-/
namespace OidcProvider.FiniteMaps

/-- A finite map whose value type does not depend on the key. -/
abbrev FiniteMap (K V : Type) := Finmap (fun _ : K => V)

abbrev StringMap := FiniteMap String

section Maps
variable {K V : Type} [DecidableEq K]

@[grind =] lemma lookup_insert_ite (m : FiniteMap K V) (k k' : K) (v : V) :
    (m.insert k v).lookup k' = if k' = k then some v else m.lookup k' := by
  split_ifs with h
  · subst h
    exact Finmap.lookup_insert m
  · exact Finmap.lookup_insert_of_ne m h

@[grind =] lemma lookup_erase_ite (m : FiniteMap K V) (k k' : K) :
    (m.erase k).lookup k' = if k' = k then none else m.lookup k' := by
  split_ifs with h
  · subst h
    exact Finmap.lookup_erase k' m
  · exact Finmap.lookup_erase_ne h

lemma lookup_union (m₁ m₂ : FiniteMap K V) (k : K) :
    (m₁ ∪ m₂).lookup k = (m₁.lookup k).or (m₂.lookup k) := by
  by_cases h : k ∈ m₁
  · obtain ⟨v, hv⟩ := Finmap.mem_iff.mp h
    simp [hv]
  · rw [Finmap.lookup_union_right h, Finmap.lookup_eq_none.mpr h, Option.none_or]

lemma mem_keys_iff (m : FiniteMap K V) (k : K) : k ∈ m.keys ↔ ∃ v, m.lookup k = some v := by
  rw [Finmap.mem_keys, Finmap.mem_iff]

lemma mem_keys_of_lookup {m : FiniteMap K V} {k : K} {v : V} (h : m.lookup k = some v) :
    k ∈ m.keys :=
  (mem_keys_iff m k).mpr ⟨v, h⟩

/-- Writes an optional value: `some` stores it and `none` deletes the key. -/
def put (m : FiniteMap K V) (k : K) : Option V → FiniteMap K V
  | some v => m.insert k v
  | none => m.erase k

@[grind =] lemma lookup_put (m : FiniteMap K V) (k k' : K) (w : Option V) :
    (put m k w).lookup k' = if k' = k then w else m.lookup k' := by
  cases w with
  | none => exact lookup_erase_ite m k k'
  | some v => exact lookup_insert_ite m k k' v

def modify (f : V → V) (m : FiniteMap K V) (k : K) : FiniteMap K V :=
  match m.lookup k with
  | none => m
  | some v => m.insert k (f v)

@[grind =] lemma lookup_modify (f : V → V) (m : FiniteMap K V) (k k' : K) :
    (modify f m k).lookup k' = if k' = k then (m.lookup k').map f else m.lookup k' := by
  unfold modify
  cases hv : m.lookup k with
  | none =>
    split_ifs with h
    · rw [h, hv, Option.map_none]
    · rfl
  | some v =>
    rw [lookup_insert_ite]
    split_ifs with h
    · rw [h, hv, Option.map_some]
    · rfl

lemma lookup_foldl_modify (f : V → V) {ks : List K} (hn : ks.Nodup) (m : FiniteMap K V) (k : K) :
    (ks.foldl (modify f) m).lookup k = if k ∈ ks then (m.lookup k).map f else m.lookup k := by
  induction ks generalizing m with
  | nil => simp
  | cons j ks ih =>
    obtain ⟨hj, hn⟩ := List.nodup_cons.mp hn
    rw [List.foldl_cons, ih hn, lookup_modify]
    by_cases hk : k = j
    · subst hk
      simp [hj]
    · simp [hk]

/-- Copies every entry of `src` into `dst`, as a loop over `src` does. -/
def copyInto (dst src : FiniteMap K V) : FiniteMap K V := src ∪ dst

lemma lookup_copyInto (dst src : FiniteMap K V) (k : K) :
    (copyInto dst src).lookup k = (src.lookup k).or (dst.lookup k) :=
  lookup_union src dst k

end Maps

/-- The order in which a loop ranges over a finite set of keys. -/
structure RangeOrder (K : Type) where
  visit : Finset K → List K
  nodup_visit : ∀ s, (visit s).Nodup
  mem_visit : ∀ s k, k ∈ visit s ↔ k ∈ s

/-- An order of iteration over a map with string keys. -/
abbrev KeyOrder := RangeOrder String

/-- The ascending order, one of the admissible ones. -/
def RangeOrder.ascending (K : Type) [LinearOrder K] : RangeOrder K where
  visit s := Quot.liftOn s.val (List.insertionSort (· ≤ ·)) fun a b h =>
    List.Perm.eq_of_pairwise' (List.pairwise_insertionSort _ a) (List.pairwise_insertionSort _ b)
      (((List.perm_insertionSort _ a).trans h).trans (List.perm_insertionSort _ b).symm)
  nodup_visit := by
    rintro ⟨⟨l⟩, hl⟩
    exact (List.perm_insertionSort _ l).nodup_iff.mpr hl
  mem_visit := by
    rintro ⟨⟨l⟩, hl⟩ k
    exact (List.perm_insertionSort _ l).mem_iff

abbrev ascending : KeyOrder := .ascending String

/-- Only the visited set decides how many visits satisfy a test. -/
theorem RangeOrder.length_filter {K : Type} [DecidableEq K] (ρ : RangeOrder K)
    (s : Finset K) (p : K → Bool) :
    ((ρ.visit s).filter p).length = (s.filter fun k => p k = true).card := by
  rw [← List.toFinset_card_of_nodup ((ρ.nodup_visit s).filter p)]
  congr 1
  ext k
  simp [ρ.mem_visit]

section Pairs
variable {K V : Type} [DecidableEq K]

/-- The entries a range over the map sees, in visiting order. -/
def pairs (ρ : RangeOrder K) (m : FiniteMap K V) : List (K × V) :=
  (ρ.visit m.keys).filterMap fun k => (m.lookup k).map fun v => (k, v)

lemma mem_pairs (ρ : RangeOrder K) (m : FiniteMap K V) (k : K) (v : V) :
    (k, v) ∈ pairs ρ m ↔ m.lookup k = some v := by
  simp only [pairs, List.mem_filterMap, ρ.mem_visit, Option.map_eq_some_iff, Prod.mk.injEq]
  constructor
  · rintro ⟨_, _, _, hv, rfl, rfl⟩
    exact hv
  · intro hv
    exact ⟨k, mem_keys_of_lookup hv, v, hv, rfl, rfl⟩

lemma nodup_pairs (ρ : RangeOrder K) (m : FiniteMap K V) : (pairs ρ m).Nodup := by
  apply (ρ.nodup_visit m.keys).filterMap
  intro k k' p hp hp'
  simp only [Option.mem_def, Option.map_eq_some_iff] at hp hp'
  obtain ⟨_, _, rfl⟩ := hp
  obtain ⟨_, _, he⟩ := hp'
  exact (congrArg Prod.fst he).symm

end Pairs

/-- A state addressed by keys: reading a key sees the last write to it and no
write to another key. -/
structure Cells (S K V : Type) where
  get : S → K → Option V
  set : S → K → Option V → S
  get_set_self : ∀ s k w, get (set s k w) k = w
  get_set_ne : ∀ s k w k', k' ≠ k → get (set s k w) k' = get s k'

def mapCells (K V : Type) [DecidableEq K] : Cells (FiniteMap K V) K V where
  get m k := m.lookup k
  set := put
  get_set_self m k w := by simp [lookup_put]
  get_set_ne m k w k' h := by simp [lookup_put, h]

section Loops
variable {S K V : Type} (C : Cells S K V) (act : S → K → Option (Option V))

/-- One pass over the visiting list. The body answers `none` to continue and
`some w` to write `w` at the visited key; the second result counts the writes. -/
def rangeLoop : List K → S → S × ℕ
  | [], s => (s, 0)
  | k :: ks, s =>
    match act s k with
    | none => rangeLoop ks s
    | some w =>
      let r := rangeLoop ks (C.set s k w)
      (r.1, r.2 + 1)

/-- The body at one key is not influenced by writes to other keys. -/
def Local : Prop := ∀ s k w k', k' ≠ k → act (C.set s k w) k' = act s k'

variable {C act}

section Observation
variable {B : Type} {g : S → K → B}

lemma rangeLoop_obs_of_not_mem (hne : ∀ s k w k', k' ≠ k → g (C.set s k w) k' = g s k')
    {ks : List K} {s : S} {k : K} (hk : k ∉ ks) :
    g (rangeLoop C act ks s).1 k = g s k := by
  induction ks generalizing s with
  | nil => rfl
  | cons j ks ih =>
    obtain ⟨hj, hks⟩ : k ≠ j ∧ k ∉ ks := by simpa using hk
    simp only [rangeLoop]
    cases act s j with
    | none => exact ih hks
    | some w => exact (ih hks).trans (hne s j w k hj)

/-- What one pass leaves of anything that is observed key by key: the body's
write on the entering state at the visited keys where it acts, and the old
content everywhere else. -/
theorem rangeLoop_obs [DecidableEq K] (hl : Local C act)
    (hne : ∀ s k w k', k' ≠ k → g (C.set s k w) k' = g s k')
    (hself : ∀ s s' k w, g s k = g s' k → g (C.set s k w) k = g (C.set s' k w) k)
    {ks : List K} (hn : ks.Nodup) (s : S) (k : K) :
    g (rangeLoop C act ks s).1 k =
      if k ∈ ks then (act s k).elim (g s k) (fun w => g (C.set s k w) k) else g s k := by
  induction ks generalizing s with
  | nil => rfl
  | cons j ks ih =>
    obtain ⟨hj, hn⟩ := List.nodup_cons.mp hn
    by_cases hkj : k = j
    · subst hkj
      rw [if_pos List.mem_cons_self]
      simp only [rangeLoop]
      cases act s k with
      | none => exact rangeLoop_obs_of_not_mem hne hj
      | some w => exact rangeLoop_obs_of_not_mem hne hj
    · have hmem : k ∈ j :: ks ↔ k ∈ ks := by simp [hkj]
      simp only [rangeLoop, hmem]
      cases act s j with
      | none => exact ih hn s
      | some w =>
        have hobs := hne s j w k hkj
        rw [ih hn, hl s j w k hkj, hobs]
        cases act s k with
        | none => rfl
        | some w' => simp only [Option.elim_some, hself _ _ k w' hobs]

end Observation

lemma rangeLoop_get [DecidableEq K] (hl : Local C act) {ks : List K} (hn : ks.Nodup)
    (s : S) (k : K) :
    C.get (rangeLoop C act ks s).1 k =
      if k ∈ ks then (act s k).getD (C.get s k) else C.get s k := by
  rw [rangeLoop_obs hl C.get_set_ne (fun s s' k w _ => by simp only [C.get_set_self]) hn]
  cases act s k with
  | none => rfl
  | some w => simp only [Option.elim_some, C.get_set_self, Option.getD_some]

/-- The count of one pass is the number of visited keys where the body acts on
the entering state. -/
theorem rangeLoop_count (hl : Local C act) {ks : List K} (hn : ks.Nodup) (s : S) :
    (rangeLoop C act ks s).2 = (ks.filter fun k => (act s k).isSome).length := by
  induction ks generalizing s with
  | nil => rfl
  | cons j ks ih =>
    obtain ⟨hj, hn⟩ := List.nodup_cons.mp hn
    simp only [rangeLoop]
    cases ha : act s j with
    | none =>
      rw [List.filter_cons_of_neg (by simp [ha])]
      exact ih hn s
    | some w =>
      rw [List.filter_cons_of_pos (by simp [ha]), List.length_cons]
      change (rangeLoop C act ks (C.set s j w)).2 + 1 = _
      rw [ih hn]
      congr 2
      apply List.filter_congr
      intro k hk
      rw [hl s j w k (fun h => hj (h ▸ hk))]

/-- What every single write of the body preserves, the whole pass preserves. -/
theorem rangeLoop_invariant {P : S → Prop}
    (hstep : ∀ s k w, P s → act s k = some w → P (C.set s k w))
    (ks : List K) (s : S) (hs : P s) : P (rangeLoop C act ks s).1 := by
  induction ks generalizing s with
  | nil => exact hs
  | cons j ks ih =>
    simp only [rangeLoop]
    cases ha : act s j with
    | none => exact ih s hs
    | some w => exact ih (C.set s j w) (hstep s j w hs ha)

lemma rangeLoop_visit_obs [DecidableEq K] {B : Type} {g : S → K → B} (hl : Local C act)
    (hne : ∀ s k w k', k' ≠ k → g (C.set s k w) k' = g s k')
    (hself : ∀ s s' k w, g s k = g s' k → g (C.set s k w) k = g (C.set s' k w) k)
    (ρ : RangeOrder K) (ks : Finset K) (s : S) (k : K) :
    g (rangeLoop C act (ρ.visit ks) s).1 k =
      if k ∈ ks then (act s k).elim (g s k) (fun w => g (C.set s k w) k) else g s k := by
  rw [rangeLoop_obs hl hne hself (ρ.nodup_visit ks)]
  simp only [ρ.mem_visit]

lemma rangeLoop_visit_get [DecidableEq K] (hl : Local C act) (ρ : RangeOrder K)
    (ks : Finset K) (s : S) (k : K) :
    C.get (rangeLoop C act (ρ.visit ks) s).1 k =
      if k ∈ ks then (act s k).getD (C.get s k) else C.get s k := by
  rw [rangeLoop_get hl (ρ.nodup_visit ks)]
  simp only [ρ.mem_visit]

lemma rangeLoop_visit_count [DecidableEq K] (hl : Local C act) (ρ : RangeOrder K)
    (ks : Finset K) (s : S) :
    (rangeLoop C act (ρ.visit ks) s).2 =
      (ks.filter fun k => (act s k).isSome = true).card := by
  rw [rangeLoop_count hl (ρ.nodup_visit ks), ρ.length_filter]

end Loops

section Sweep
variable {K V : Type} [DecidableEq K] (stale : V → Bool)

def sweepBody (m : FiniteMap K V) (k : K) : Option (Option V) :=
  match m.lookup k with
  | some v => if stale v then some none else none
  | none => none

def sweep (ρ : RangeOrder K) (m : FiniteMap K V) : FiniteMap K V :=
  (rangeLoop (mapCells K V) (sweepBody stale) (ρ.visit m.keys) m).1

def sweepCount (ρ : RangeOrder K) (m : FiniteMap K V) : ℕ :=
  (rangeLoop (mapCells K V) (sweepBody stale) (ρ.visit m.keys) m).2

lemma sweepBody_local : Local (mapCells K V) (sweepBody (K := K) stale) := by
  intro m k w k' h
  simp only [sweepBody, mapCells, lookup_put, h, ↓reduceIte]

lemma lookup_sweep (ρ : RangeOrder K) (m : FiniteMap K V) (k : K) :
    (sweep stale ρ m).lookup k = (m.lookup k).filter fun v => !stale v := by
  refine (rangeLoop_visit_get (sweepBody_local stale) ρ m.keys m k).trans ?_
  simp only [sweepBody, mapCells]
  cases hv : m.lookup k with
  | none => simp
  | some v =>
    cases hs : stale v <;> simp [mem_keys_of_lookup hv, hs, Option.filter_some]

lemma sweepCount_eq (ρ : RangeOrder K) (m : FiniteMap K V) :
    sweepCount stale ρ m = (m.keys.filter fun k => (m.lookup k).any stale = true).card := by
  refine (rangeLoop_visit_count (sweepBody_local stale) ρ m.keys m).trans ?_
  congr 1
  apply Finset.filter_congr
  intro k _
  simp only [sweepBody]
  cases m.lookup k with
  | none => rfl
  | some v => cases hs : stale v <;> simp [hs]

end Sweep

end OidcProvider.FiniteMaps
