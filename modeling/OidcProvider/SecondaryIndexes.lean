import OidcProvider.FiniteMaps

/-!
# Secondary indexes over a primary map

A secondary index lists, under each value of one attribute of the rows, the
primary keys of the rows that carry the value. The empty value is not listed.
The index is maintained row by row: storing a row lists its key, and deleting a
row unlists it. Nothing is unlisted when a row is stored over another one, so
an index stays exact only while rows are not replaced by rows with a different
attribute; it never loses a key that it should list.
-/
namespace OidcProvider.SecondaryIndexes
open FiniteMaps

/-- The keys listed under each attribute value. -/
abbrev Index := StringMap (Finset String)

namespace Index

/-- The keys listed under `value`; an absent bucket lists nothing. -/
def ids (i : Index) (value : String) : Finset String := (i.lookup value).getD ∅

def add (i : Index) (value id : String) : Index :=
  if value = "" then i else i.insert value (insert id (i.ids value))

/-- Unlists one key. A bucket that became empty is dropped. -/
def remove (i : Index) (value id : String) : Index :=
  if (i.ids value).erase id = ∅ then i.erase value
  else i.insert value ((i.ids value).erase id)

/-- Lists one key, under the empty value as well. -/
def enter (i : Index) (value id : String) : Index := i.insert value (insert id (i.ids value))

variable (i : Index) (v id v' id' : String)

lemma ids_insert (b : Finset String) :
    ids (i.insert v b) v' = if v' = v then b else i.ids v' := by
  unfold ids
  rw [lookup_insert_ite]
  split_ifs <;> rfl

lemma ids_erase : ids (i.erase v) v' = if v' = v then ∅ else i.ids v' := by
  unfold ids
  rw [lookup_erase_ite]
  split_ifs <;> rfl

lemma mem_ids_add :
    id' ∈ (i.add v id).ids v' ↔ id' ∈ i.ids v' ∨ (v ≠ "" ∧ v' = v ∧ id' = id) := by
  unfold add
  split_ifs with h
  · simp [h]
  · rw [ids_insert]
    split_ifs with hv
    · subst hv
      simp [h, or_comm]
    · simp [hv]

lemma mem_ids_enter : id' ∈ (i.enter v id).ids v' ↔ id' ∈ i.ids v' ∨ (v' = v ∧ id' = id) := by
  unfold enter
  rw [ids_insert]
  split_ifs with hv
  · subst hv
    simp [or_comm]
  · simp [hv]

lemma ids_remove : (i.remove v id).ids v' = if v' = v then (i.ids v).erase id else i.ids v' := by
  unfold remove
  split_ifs with h hv hv
  · rw [ids_erase, if_pos hv, h]
  · rw [ids_erase, if_neg hv]
  · rw [ids_insert, if_pos hv]
  · rw [ids_insert, if_neg hv]

lemma mem_ids_remove : id' ∈ (i.remove v id).ids v' ↔ id' ∈ i.ids v' ∧ ¬(v' = v ∧ id' = id) := by
  rw [ids_remove]
  split_ifs with hv
  · subst hv
    simp [Finset.mem_erase, and_comm]
  · simp [hv]

def entries (i : Index) : Finset String := i.keys.biUnion i.ids

lemma mem_entries {i : Index} {v id : String} (h : id ∈ i.ids v) : id ∈ i.entries := by
  refine Finset.mem_biUnion.mpr ⟨v, ?_, h⟩
  rw [mem_keys_iff]
  unfold ids at h
  cases hb : i.lookup v with
  | none => simp [hb] at h
  | some b => exact ⟨b, rfl⟩

end Index

section Tracking
variable {V : Type} (attr : V → String)

/-- The upkeep of an index when the row at `key` goes from `old` to `new`: a
stored row is listed, and a deleted row is unlisted. -/
def reindex (key : String) (old new : Option V) (i : Index) : Index :=
  match new, old with
  | some row, _ => i.add (attr row) key
  | none, some row => i.remove (attr row) key
  | none, none => i

def Complete (m : StringMap V) (i : Index) : Prop :=
  ∀ key row, m.lookup key = some row → attr row ≠ "" → key ∈ i.ids (attr row)

/-- Every entry belongs to a row that carries the value, or is a known stale one. -/
def SoundUpTo (stale : String → String → Prop) (m : StringMap V) (i : Index) : Prop :=
  ∀ key value, key ∈ i.ids value →
    stale key value ∨ ∃ row, m.lookup key = some row ∧ attr row = value

/-- The entries exactness does not speak about: those of the empty value. -/
def Blank (_ value : String) : Prop := value = ""

def Exact (m : StringMap V) (i : Index) : Prop :=
  ∀ key value, value ≠ "" →
    (key ∈ i.ids value ↔ ∃ row, m.lookup key = some row ∧ attr row = value)

/-- Replacing `old` by `new` leaves no entry of `old` behind. -/
def SameAttribute (old new : Option V) : Prop :=
  ∀ row row', old = some row → new = some row' → attr row = "" ∨ attr row = attr row'

/-- A property of a map and its index that survives every change of a row the
index follows, as long as the change is a permitted one, and that depends on
the rows only through the indexed attribute. -/
structure Maintained (permits : Option V → Option V → Prop)
    (P : StringMap V → Index → Prop) : Prop where
  put : ∀ {m i}, P m i → ∀ key new, permits (m.lookup key) new →
    P (put m key new) (reindex attr key (m.lookup key) new i)
  congr : ∀ {m m' i}, (∀ key, (m'.lookup key).map attr = (m.lookup key).map attr) →
    P m i → P m' i
  permits_insert : ∀ new, permits none new
  permits_erase : ∀ old, permits old none
  permits_refl : ∀ row, permits row row

variable {attr} {m : StringMap V} {i : Index} {key : String} {m' : StringMap V}

lemma mem_ids_reindex (key : String) (old new : Option V) (i : Index) (key' value : String) :
    key' ∈ (reindex attr key old new i).ids value ↔
      (key' ∈ i.ids value ∧
          ¬(new = none ∧ key' = key ∧ ∃ row, old = some row ∧ attr row = value)) ∨
        (key' = key ∧ value ≠ "" ∧ ∃ row, new = some row ∧ attr row = value) := by
  cases new with
  | some row =>
    simp only [reindex, Index.mem_ids_add]
    grind
  | none =>
    cases old with
    | none => simp [reindex]
    | some row =>
      simp only [reindex, Index.mem_ids_remove]
      grind

lemma exact_iff (m : StringMap V) (i : Index) :
    Exact attr m i ↔ Complete attr m i ∧ SoundUpTo attr Blank m i := by
  constructor
  · intro h
    refine ⟨fun key row hrow hne => (h key (attr row) hne).mpr ⟨row, hrow, rfl⟩, ?_⟩
    intro key value hkey
    by_cases hv : value = ""
    · exact .inl hv
    · exact .inr ((h key value hv).mp hkey)
  · rintro ⟨hc, hs⟩ key value hv
    refine ⟨fun hkey => (hs key value hkey).resolve_left hv, ?_⟩
    rintro ⟨row, hrow, rfl⟩
    exact hc key row hrow hv

lemma complete_maintained : Maintained attr (fun _ _ => True) (Complete attr) where
  put := by
    intro m i h key new _ key' row hrow hne
    rw [mem_ids_reindex]
    rw [lookup_put] at hrow
    by_cases hk : key' = key
    · rw [if_pos hk] at hrow
      exact .inr ⟨hk, hne, row, hrow, rfl⟩
    · rw [if_neg hk] at hrow
      exact .inl ⟨h key' row hrow hne, fun hc => hk hc.2.1⟩
  congr := by
    intro m m' i h hm key row hrow hne
    have hattr := h key
    rw [hrow, Option.map_some, eq_comm, Option.map_eq_some_iff] at hattr
    obtain ⟨row', hrow', heq⟩ := hattr
    exact heq ▸ hm key row' hrow' (heq ▸ hne)
  permits_insert _ := trivial
  permits_erase _ := trivial
  permits_refl _ := trivial

lemma sameAttribute_none_left (new : Option V) : SameAttribute attr none new := by
  intro _ _ hold
  cases hold

lemma sameAttribute_none_right (old : Option V) : SameAttribute attr old none := by
  intro _ _ _ hnew
  cases hnew

lemma sameAttribute_refl (row : Option V) : SameAttribute attr row row := by
  intro r r' hold hnew
  exact .inr (by rw [Option.some.inj (hold.symm.trans hnew)])

/-- A stored row adds no stale entry unless it replaces a row with another
attribute; a deleted row takes its own entry with it. -/
theorem soundUpTo_maintained {stale : String → String → Prop} (hblank : ∀ key, stale key "") :
    Maintained attr (SameAttribute attr) (SoundUpTo attr stale) where
  put := by
    intro m i h key new hsame key' value hmem
    rw [mem_ids_reindex] at hmem
    rw [lookup_put]
    by_cases hk : key' = key
    · rw [if_pos hk]
      rcases hmem with ⟨hold, hkept⟩ | ⟨_, _, hnew⟩
      · rcases h key' value hold with hstale | ⟨row, hrow, rfl⟩
        · exact .inl hstale
        · subst hk
          cases new with
          | none => exact absurd ⟨rfl, rfl, row, hrow, rfl⟩ hkept
          | some row' =>
            rcases hsame row row' hrow rfl with hempty | heq
            · exact .inl (hempty ▸ hblank key')
            · exact .inr ⟨row', rfl, heq.symm⟩
      · exact .inr hnew
    · rw [if_neg hk]
      exact h key' value (hmem.resolve_right fun hnew => hk hnew.1).1
  congr := by
    intro m m' i h hm key value hkey
    refine (hm key value hkey).imp_right ?_
    simp only [← Option.map_eq_some_iff, h key]
    exact id
  permits_insert := sameAttribute_none_left
  permits_erase := sameAttribute_none_right
  permits_refl := sameAttribute_refl

lemma sound_maintained : Maintained attr (SameAttribute attr) (SoundUpTo attr Blank) :=
  soundUpTo_maintained fun _ => rfl

lemma exact_maintained : Maintained attr (SameAttribute attr) (Exact attr) where
  put := by
    intro m i h key new hsame
    rw [exact_iff] at h ⊢
    exact ⟨complete_maintained.put h.1 key new trivial,
      sound_maintained.put h.2 key new hsame⟩
  congr := by
    intro m m' i heq h
    rw [exact_iff] at h ⊢
    exact ⟨complete_maintained.congr heq h.1,
      sound_maintained.congr heq h.2⟩
  permits_insert := sameAttribute_none_left
  permits_erase := sameAttribute_none_right
  permits_refl := sameAttribute_refl

/-- Exactness for the empty value too: it lists nothing. -/
def Lists (attr : V → String) (m : StringMap V) (i : Index) : Prop :=
  ∀ key value, key ∈ i.ids value ↔ value ≠ "" ∧ ∃ row, m.lookup key = some row ∧ attr row = value

lemma Lists.insert (h : Lists attr m i) (hfresh : m.lookup key = none) (row : V) :
    Lists attr (m.insert key row) (i.add (attr row) key) := by
  intro key' value
  rw [Index.mem_ids_add, h key' value, lookup_insert_ite]
  by_cases hk : key' = key
  · subst hk
    simp only [hfresh, reduceCtorEq, false_and, exists_false, and_false, and_true, false_or,
      ↓reduceIte, Option.some.injEq, exists_eq_left']
    constructor
    · rintro ⟨hne, rfl⟩
      exact ⟨hne, rfl⟩
    · rintro ⟨hne, rfl⟩
      exact ⟨hne, rfl⟩
  · simp [hk]

lemma Lists.congr (hm : Lists attr m i)
    (h : ∀ key, (m'.lookup key).map attr = (m.lookup key).map attr) : Lists attr m' i := by
  intro key value
  rw [hm key value]
  simp only [← Option.map_eq_some_iff, h key]

/-- Listed under every value, the empty one too, are exactly the rows that carry it. -/
def Follows (attr : V → String) (m : StringMap V) (i : Index) : Prop :=
  ∀ key value, key ∈ i.ids value ↔ ∃ row, m.lookup key = some row ∧ attr row = value

lemma follows_empty : Follows attr ∅ ∅ := by
  intro key value
  simp [Index.ids]

lemma Follows.insert (h : Follows attr m i) (hfresh : m.lookup key = none) (row : V) :
    Follows attr (m.insert key row) (i.enter (attr row) key) := by
  intro key' value
  rw [Index.mem_ids_enter, h key' value, lookup_insert_ite]
  by_cases hk : key' = key
  · subst hk
    simp [hfresh, eq_comm]
  · simp [hk]

lemma Follows.erase (h : Follows attr m i) {row : V} (hrow : m.lookup key = some row) :
    Follows attr (m.erase key) (i.remove (attr row) key) := by
  intro key' value
  rw [Index.mem_ids_remove, h key' value, lookup_erase_ite]
  by_cases hk : key' = key
  · subst hk
    simp [hrow, eq_comm]
  · simp [hk]

lemma Follows.congr (hm : Follows attr m i)
    (h : ∀ key, (m'.lookup key).map attr = (m.lookup key).map attr) : Follows attr m' i := by
  intro key value
  rw [hm key value]
  simp only [← Option.map_eq_some_iff, h key]

end Tracking

end OidcProvider.SecondaryIndexes
