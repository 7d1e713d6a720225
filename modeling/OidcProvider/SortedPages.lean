import Mathlib.Data.Finset.Sort
import Mathlib.Data.List.Sort

/-!
# Pages of the smallest distinct values

A page collects values one at a time and keeps the smallest distinct ones, at
most `limit` of them, in ascending order. It remembers whether a value was left
out. The page is determined by the set of values that were offered: neither
their order nor their repetitions matter.
-/
namespace OidcProvider.SortedPages

section
variable {α : Type} [LinearOrder α]

structure Page (α : Type) where
  limit : ℕ
  items : List α
  more : Bool

/-- The first position whose value is not below `value`, or the length. -/
def searchSorted (items : List α) (value : α) : ℕ :=
  items.findIdx fun x => decide (value ≤ x)

def Page.insert (b : Page α) (value : α) : Page α :=
  let index := searchSorted b.items value
  if b.items[index]? = some value then b
  else if b.items.length < b.limit then
    { b with items := b.items.insertIdx index value }
  else if index = b.items.length then { b with more := true }
  else
    -- the tail moves up by one place and its last value falls off
    { b with more := true,
             items := b.items.take index ++ value :: (b.items.drop index).dropLast }

def Page.insertAll (b : Page α) (values : List α) : Page α := values.foldl Page.insert b

structure Page.Selects (b : Page α) (P : Finset α) : Prop where
  items : b.items = (P.sort (· ≤ ·)).take b.limit
  more : b.more = decide (b.limit < P.card)

/-! ### Insertion into a sorted list -/

variable {b : Page α} {P : Finset α} {value : α}

lemma insertIdx_searchSorted (l : List α) (value : α) :
    l.insertIdx (searchSorted l value) value = l.orderedInsert (· ≤ ·) value := by
  induction l with
  | nil => rfl
  | cons x l ih =>
    by_cases h : value ≤ x
    · simp [searchSorted, List.findIdx_cons, h]
    · simpa [searchSorted, List.findIdx_cons, h] using ih

lemma getElem?_searchSorted {l : List α} (hl : l.Pairwise (· ≤ ·)) (value : α) :
    l[searchSorted l value]? = some value ↔ value ∈ l := by
  induction l with
  | nil => simp [searchSorted]
  | cons x l ih =>
    obtain ⟨hx, hl⟩ := List.pairwise_cons.mp hl
    by_cases h : value ≤ x
    · have hmem : value ∈ l → x = value := fun hv => le_antisymm (hx value hv) h
      simp only [searchSorted, List.findIdx_cons, h, decide_true, cond_true,
        List.getElem?_cons_zero, Option.some.injEq, List.mem_cons]
      exact ⟨fun he => .inl he.symm, fun hv => hv.elim Eq.symm hmem⟩
    · have hne : value ≠ x := fun he => h he.le
      simpa [searchSorted, List.findIdx_cons, h, hne] using ih hl

/-- Values past the page do not influence what an insertion leaves on it. -/
theorem take_orderedInsert (n : ℕ) (l : List α) (value : α) :
    (l.orderedInsert (· ≤ ·) value).take n =
      ((l.take n).orderedInsert (· ≤ ·) value).take n := by
  induction l generalizing n with
  | nil => simp
  | cons x l ih =>
    cases n with
    | zero => rfl
    | succ n =>
      by_cases h : value ≤ x
      · simp only [List.orderedInsert_cons, h, ↓reduceIte, List.take_succ_cons,
          List.cons.injEq, true_and]
        cases n with
        | zero => rfl
        | succ n => simp [List.take_take]
      · simp [h, ih n]

lemma orderedInsert_of_forall_lt {l : List α} (h : ∀ x ∈ l, x < value) :
    l.orderedInsert (· ≤ ·) value = l ++ [value] := by
  induction l with
  | nil => rfl
  | cons x l ih =>
    have hx : ¬value ≤ x := not_le.mpr (h x List.mem_cons_self)
    rw [List.orderedInsert_of_not_le _ _ hx, ih fun y hy => h y (List.mem_cons_of_mem x hy)]
    rfl

omit [LinearOrder α] in
/-- Dropping the last value of a full page is what makes room for the new one. -/
theorem insert_full (l : List α) (value : α) {index : ℕ} (h : index ≤ l.length) :
    (l.insertIdx index value).take l.length =
      if index = l.length then l
      else l.take index ++ value :: (l.drop index).dropLast := by
  induction l generalizing index with
  | nil =>
    have h0 : index = 0 := Nat.le_zero.mp h
    simp [h0]
  | cons x l ih =>
    cases index with
    | zero => simp [List.dropLast_eq_take]
    | succ i =>
      simp only [List.insertIdx_succ_cons, List.length_cons, List.take_succ_cons,
        ih (Nat.succ_le_succ_iff.mp h), Nat.add_right_cancel_iff, List.drop_succ_cons]
      split_ifs <;> rfl

lemma sort_insert_of_notMem (h : value ∉ P) :
    (insert value P).sort (· ≤ ·) = (P.sort (· ≤ ·)).orderedInsert (· ≤ ·) value := by
  apply List.Perm.eq_of_pairwise' (Finset.pairwise_sort _ _)
    (List.Pairwise.orderedInsert value _ (Finset.pairwise_sort _ _))
  rw [← Multiset.coe_eq_coe, Finset.sort_eq,
    Multiset.coe_eq_coe.mpr (List.perm_orderedInsert _ _ _),
    ← Multiset.cons_coe, Finset.sort_eq, Finset.insert_val_of_notMem h]

/-! ### What a page holds -/

lemma items_insert (hlen : b.items.length ≤ b.limit)
    (hnew : b.items[searchSorted b.items value]? ≠ some value) :
    (b.insert value).items = (b.items.orderedInsert (· ≤ ·) value).take b.limit := by
  rw [← insertIdx_searchSorted]
  have hle : searchSorted b.items value ≤ b.items.length := List.findIdx_le_length
  simp only [Page.insert, hnew, ↓reduceIte]
  by_cases hroom : b.items.length < b.limit
  · rw [if_pos hroom, List.take_of_length_le]
    exact (List.length_insertIdx_le_succ ..).trans hroom
  · have hfull : b.limit = b.items.length := by omega
    rw [if_neg hroom, hfull, insert_full _ _ hle]
    split_ifs <;> rfl

lemma length_le_of_selects (h : b.Selects P) : b.items.length ≤ b.limit := by
  rw [h.items, List.length_take]
  exact Nat.min_le_left _ _

lemma pairwise_of_selects (h : b.Selects P) : b.items.Pairwise (· ≤ ·) := by
  rw [h.items]
  exact (Finset.pairwise_sort P _).sublist (List.take_sublist _ _)

@[simp] lemma limit_insert (b : Page α) (value : α) : (b.insert value).limit = b.limit := by
  unfold Page.insert
  dsimp only
  split_ifs <;> rfl

lemma more_insert (hnew : b.items[searchSorted b.items value]? ≠ some value) :
    (b.insert value).more = (b.more || decide (b.limit ≤ b.items.length)) := by
  simp only [Page.insert, hnew, ↓reduceIte]
  by_cases hroom : b.items.length < b.limit
  · simp [hroom, Nat.not_le.mpr hroom]
  · rw [if_neg hroom, decide_eq_true (Nat.not_lt.mp hroom), Bool.or_true]
    split_ifs <;> rfl

lemma left_out (h : b.Selects P) (hmem : value ∈ P) (hon : value ∉ b.items) :
    b.limit < P.card ∧ ∀ x ∈ b.items, x < value := by
  have hsplit := List.take_append_drop b.limit (P.sort (· ≤ ·))
  rw [← h.items] at hsplit
  have hdrop : value ∈ (P.sort (· ≤ ·)).drop b.limit := by
    have hsort : value ∈ P.sort (· ≤ ·) := (Finset.mem_sort _).mpr hmem
    rw [← hsplit, List.mem_append] at hsort
    exact hsort.resolve_left hon
  constructor
  · have hpos := List.length_pos_of_mem hdrop
    rw [List.length_drop, Finset.length_sort] at hpos
    omega
  · intro x hx
    have hp := Finset.pairwise_sort P (· ≤ ·)
    rw [← hsplit] at hp
    have hle := (List.pairwise_append.mp hp).2.2 x hx value hdrop
    exact lt_of_le_of_ne hle fun he => hon (he ▸ hx)

lemma selects_insert (h : b.Selects P) (value : α) :
    (b.insert value).Selects (insert value P) := by
  have hlen := length_le_of_selects h
  have hfound := getElem?_searchSorted (pairwise_of_selects h) value
  have hlength : b.items.length = min b.limit P.card := by
    rw [h.items, List.length_take, Finset.length_sort]
  by_cases hon : value ∈ b.items
  · have hsame : b.insert value = b := by
      simp only [Page.insert, hfound.mpr hon, ↓reduceIte]
    have hmem : value ∈ P := by
      rw [h.items] at hon
      exact (Finset.mem_sort _).mp (List.mem_of_mem_take hon)
    rw [hsame, Finset.insert_eq_of_mem hmem]
    exact h
  have hnew := mt hfound.mp hon
  have hitems := items_insert hlen hnew
  have hmore := more_insert hnew
  by_cases hmem : value ∈ P
  · -- the value fell off the page before, so the page is full and stays as it is
    rw [Finset.insert_eq_of_mem hmem]
    obtain ⟨hcard, habove⟩ := left_out h hmem hon
    have hfull : b.items.length = b.limit := by omega
    constructor
    · rw [hitems, orderedInsert_of_forall_lt habove, limit_insert, ← h.items,
        List.take_left' hfull]
    · rw [hmore, h.more, limit_insert, decide_eq_true hcard, Bool.true_or]
  · constructor
    · rw [hitems, limit_insert, sort_insert_of_notMem hmem,
        take_orderedInsert _ (P.sort (· ≤ ·)), ← h.items]
    · rw [hmore, h.more, limit_insert, Finset.card_insert_of_notMem hmem, hlength]
      rw [← Bool.decide_or, decide_eq_decide]
      omega

lemma selects_insertAll (h : b.Selects P) (values : List α) :
    (b.insertAll values).Selects (P ∪ values.toFinset) := by
  induction values generalizing b P with
  | nil => simpa [Page.insertAll] using h
  | cons v vs ih =>
    have hrest := ih (selects_insert h v)
    rwa [List.toFinset_cons, Finset.union_insert, ← Finset.insert_union]

@[simp] lemma limit_insertAll (b : Page α) (values : List α) :
    (b.insertAll values).limit = b.limit := by
  induction values generalizing b with
  | nil => rfl
  | cons v vs ih => exact (ih (b.insert v)).trans (limit_insert b v)

lemma selects_empty (limit : ℕ) : (⟨limit, [], false⟩ : Page α).Selects ∅ where
  items := by simp
  more := by simp

/-- The order of the values and their repetitions do not matter. -/
theorem insertAll_eq_of_toFinset_eq {values values' : List α}
    (h : values.toFinset = values'.toFinset) (limit : ℕ) :
    (⟨limit, [], false⟩ : Page α).insertAll values =
      (⟨limit, [], false⟩ : Page α).insertAll values' := by
  have hs := selects_insertAll (selects_empty limit) values
  have hs' := selects_insertAll (selects_empty limit) values'
  rw [h] at hs
  generalize hb : (⟨limit, [], false⟩ : Page α).insertAll values = b at hs
  generalize hb' : (⟨limit, [], false⟩ : Page α).insertAll values' = b' at hs'
  have hl : b.limit = b'.limit := by rw [← hb, ← hb', limit_insertAll, limit_insertAll]
  obtain ⟨limit, items, more⟩ := b
  cases hl
  congr 1
  · exact hs.items.trans hs'.items.symm
  · exact hs.more.trans hs'.more.symm

end

end OidcProvider.SortedPages
