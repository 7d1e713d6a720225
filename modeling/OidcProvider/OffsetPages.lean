import Mathlib.Order.MinMax
import Mathlib.Data.Int.Notation

/-!
# Offset pagination

`op/storeadapter/patterns/patterns.go`: a page of a list is a window that starts at an
offset. Offsets and page sizes are 64-bit integers, so the end of a window can wrap.
-/
namespace OidcProvider.OffsetPages
variable {T : Type}

def maxInt : ℤ := 9223372036854775807

/-- What a 64-bit addition stores. -/
def wrap (x : ℤ) : ℤ := (x + (maxInt + 1)) % (2 * (maxInt + 1)) - (maxInt + 1)

/-- The slice `items[start:stop]`; out of range it panics. -/
def slice (items : List T) (start stop : ℤ) : Option (List T) :=
  if 0 ≤ start ∧ start ≤ stop ∧ stop ≤ items.length then
    some ((items.take stop.toNat).drop start.toNat)
  else none

structure Page (T : Type) where
  page : List T
  nextOffset : ℤ
  hasMore : Bool
  deriving DecidableEq

/-- Where the window from an offset inside the list ends. -/
def pageEnd (length offset pageSize : ℤ) : ℤ :=
  if 0 < pageSize ∧ wrap (offset + pageSize) < length then wrap (offset + pageSize) else length

def paginate (items : List T) (offset pageSize : ℤ) : Option (Page T) :=
  let offset := if offset < 0 then 0 else offset
  if items.length ≤ offset then some ⟨[], items.length, false⟩
  else
    let stop := pageEnd items.length offset pageSize
    (slice items offset stop).map fun page => ⟨page, stop, decide (stop < items.length)⟩

/-- The end of a window is right unless the sum is too large; then it is negative. -/
theorem pageEnd_eq {length offset pageSize : ℤ} (hlength : offset < length) (hoffset : 0 ≤ offset)
    (hle : offset ≤ maxInt) (hsize : pageSize ≤ maxInt) :
    (0 < pageSize → maxInt < offset + pageSize → pageEnd length offset pageSize < 0) ∧
    (0 < pageSize → offset + pageSize ≤ maxInt →
      pageEnd length offset pageSize = min (offset + pageSize) length) ∧
    (pageSize ≤ 0 → pageEnd length offset pageSize = length) := by
  unfold pageEnd wrap maxInt at *
  split_ifs <;> omega

variable {items : List T}

/-- A page panics exactly where the end of its window wraps. -/
theorem paginate_eq_none_iff {offset pageSize : ℤ}
    (hoffset : offset ≤ maxInt) (hsize : pageSize ≤ maxInt) :
    paginate items offset pageSize = none ↔
      max offset 0 < items.length ∧ 0 < pageSize ∧ maxInt < max offset 0 + pageSize := by
  have hclamp : (if offset < 0 then 0 else offset) = max offset 0 := by
    split_ifs <;> omega
  have hmax : (0 : ℤ) ≤ maxInt := by decide
  simp only [paginate, slice, hclamp]
  by_cases hlt : max offset 0 < items.length
  · obtain ⟨hwrapped, hexact, hrest⟩ := pageEnd_eq hlt (by omega) (by omega) hsize
    rw [if_neg (by omega), Option.map_eq_none_iff, ite_eq_right_iff]
    simp only [reduceCtorEq, imp_false]
    omega
  · rw [if_pos (by omega)]
    simp [hlt]

lemma paginate_eq {start size : ℕ} (hlt : start < items.length)
    (hsize : 0 < size) (hsum : (start + size : ℤ) ≤ maxInt) :
    ∃ more, paginate items start size =
        some ⟨(items.drop start).take size, (min (start + size) items.length : ℕ), more⟩ ∧
      (more = true ↔ start + size < items.length) := by
  have hclamp : (if (start : ℤ) < 0 then 0 else (start : ℤ)) = start := if_neg (by omega)
  have hstop : pageEnd items.length start size = (min (start + size) items.length : ℕ) := by
    have hend := (pageEnd_eq (show (start : ℤ) < items.length by omega) (by omega) (by omega)
      (show (size : ℤ) ≤ maxInt by omega)).2.1 (by omega) hsum
    omega
  simp only [paginate, slice, hclamp, hstop]
  rw [if_neg (by omega), if_pos (by omega), Option.map_some, Int.toNat_natCast,
    Int.toNat_natCast, List.drop_take]
  have hpage : (items.drop start).take (min (start + size) items.length - start) =
      (items.drop start).take size := by
    rw [List.take_eq_take_iff, List.length_drop]
    omega
  rw [hpage]
  refine ⟨_, rfl, ?_⟩
  rw [decide_eq_true_iff]
  omega

/-! ### A traversal -/

/-- The pages a caller reads from an offset on, while there are more. -/
def follow (items : List T) (pageSize : ℤ) : ℕ → ℤ → Option (List (List T))
  | 0, _ => none
  | calls + 1, offset =>
    (paginate items offset pageSize).bind fun p =>
      if p.hasMore then (follow items pageSize calls p.nextOffset).map (p.page :: ·)
      else some [p.page]

/-- The traversal of a list none of whose windows wraps. -/
theorem follow_drop {size : ℕ} (hsize : 0 < size) {calls start : ℕ}
    (hlt : start < items.length) (hcalls : items.length ≤ start + calls)
    (hsums : ∀ k, start + size * k < items.length → (start + size * k + size : ℕ) ≤ maxInt) :
    ∃ pages, follow items size calls start = some pages ∧ pages.flatten = items.drop start ∧
      ∀ page ∈ pages, page.length ≤ size := by
  -- Each page is followed by one that starts where it ends.
  induction calls generalizing start with
  | zero => omega
  | succ calls ih =>
    have hsum : (start + size : ℤ) ≤ maxInt := by simpa using hsums 0 hlt
    obtain ⟨more, hpage, hmore⟩ := paginate_eq hlt hsize hsum
    rw [follow, hpage, Option.bind_some]
    have hlength : ((items.drop start).take size).length ≤ size := List.length_take_le size _
    by_cases hend : start + size < items.length
    · have hnext : ∀ k, start + size + size * k < items.length →
          (start + size + size * k + size : ℕ) ≤ maxInt := by
        intro k hk
        have hsum := hsums (k + 1) (by rw [Nat.mul_succ]; omega)
        rw [Nat.mul_succ] at hsum
        omega
      obtain ⟨pages, hpages, hflatten, hlengths⟩ := ih hend (by omega) hnext
      refine ⟨(items.drop start).take size :: pages, ?_, ?_, ?_⟩
      · simp only [if_pos (hmore.mpr hend), min_eq_left hend.le, hpages, Option.map_some]
      · rw [List.flatten_cons, hflatten, ← List.drop_drop, List.take_append_drop]
      · exact List.forall_mem_cons.mpr ⟨hlength, hlengths⟩
    · refine ⟨[(items.drop start).take size], if_neg (mt hmore.mp hend), ?_, ?_⟩
      · rw [List.flatten_singleton, List.take_of_length_le]
        rw [List.length_drop]
        omega
      · exact List.forall_mem_singleton.mpr hlength

/-- No traversal gets past a window that wraps. -/
theorem follow_eq_none {size : ℕ} (hsize : 0 < size)
    (hle : (size : ℤ) ≤ maxInt) {start k : ℕ} (hstart : (start : ℤ) ≤ maxInt)
    (hlt : start + size * k < items.length)
    (hwrap : maxInt < (start + size * k + size : ℕ)) (calls : ℕ) :
    follow items size calls start = none := by
  induction calls generalizing start k with
  | zero => rfl
  | succ calls ih =>
    have hstart' : start < items.length := by omega
    by_cases hsum : (start + size : ℤ) ≤ maxInt
    · obtain ⟨more, hpage, hmore⟩ := paginate_eq hstart' hsize hsum
      cases k with
      | zero => omega
      | succ k =>
        rw [Nat.mul_succ] at hlt hwrap
        have hend : start + size < items.length := by omega
        have hnext := @ih (start + size) k (by omega) (by omega) (by omega)
        simp only [follow, hpage, Option.bind_some, if_pos (hmore.mpr hend), min_eq_left hend.le,
          hnext, Option.map_none]
    · rw [follow, (paginate_eq_none_iff hstart hle).mpr (by omega), Option.bind_none]

/-- The last window decides. -/
theorem windows_le_iff {length size : ℕ} (hsize : 0 < size) :
    (∀ k, size * k < length → (size * k + size : ℕ) ≤ maxInt) ↔
      (size * ((length - 1) / size + 1) : ℤ) ≤ maxInt := by
  cases length with
  | zero =>
    have hquot : (-1 : ℤ) / size = -1 := by
      rw [Int.ediv_eq_neg_one_of_neg_of_le] <;> omega
    simp [hquot, maxInt]
  | succ n =>
    have hquot : (size * (((n + 1 : ℕ) - 1) / size + 1) : ℤ) = (size * (n / size) + size : ℕ) := by
      simp [Int.mul_add]
    rw [hquot]
    constructor
    · exact fun h => h (n / size) (Nat.lt_succ_of_le (Nat.mul_div_le n size))
    · intro h k hk
      have hk' : k ≤ n / size := (Nat.le_div_iff_mul_le hsize).mpr (by rw [Nat.mul_comm]; omega)
      have hmul : size * k ≤ size * (n / size) := Nat.mul_le_mul_left size hk'
      omega

/-- A page panics exactly where the end of its window wraps, and a traversal of positive
pages enumerates the list exactly if the last of its windows does not wrap. -/
theorem pages_enumerate (items : List T) (pageSize : ℤ) (hsize : pageSize ≤ maxInt) :
    (∀ offset ≤ maxInt, paginate items offset pageSize = none ↔
      max offset 0 < items.length ∧ 0 < pageSize ∧ maxInt < max offset 0 + pageSize) ∧
    (0 < pageSize →
      ((∃ pages, follow items pageSize (items.length + 1) 0 = some pages ∧
        pages.flatten = items ∧ ∀ page ∈ pages, (page.length : ℤ) ≤ pageSize) ↔
      pageSize * ((items.length - 1) / pageSize + 1) ≤ maxInt)) := by
  refine ⟨fun offset hoffset => paginate_eq_none_iff hoffset hsize, fun hpos => ?_⟩
  obtain ⟨size, rfl⟩ := Int.eq_ofNat_of_zero_le (Int.le_of_lt hpos)
  have hpos : 0 < size := by omega
  rw [← windows_le_iff hpos]
  constructor
  · rintro ⟨pages, hpages, _⟩ k hk
    by_contra hwrap
    have hnone := @follow_eq_none T items size hpos hsize 0 k (by decide) (by omega) (by omega)
      (items.length + 1)
    cases hnone.symm.trans hpages
  · intro hsums
    by_cases hlt : 0 < items.length
    · obtain ⟨pages, hpages, hflatten, hlengths⟩ := @follow_drop T items size hpos
        (items.length + 1) 0 hlt (by omega) (by simpa using hsums)
      exact ⟨pages, hpages, hflatten, fun page hpage => by exact_mod_cast hlengths page hpage⟩
    · obtain rfl : items = [] := by simpa using hlt
      exact ⟨[[]], rfl, rfl, by simp⟩

theorem pages_enumerate_pair :
    ∃ pages, follow [1, 2] 1 3 0 = some pages ∧ pages.flatten = [1, 2] ∧
      ∀ page ∈ pages, (page.length : ℤ) ≤ 1 :=
  ((pages_enumerate [1, 2] 1 (by decide)).2 (by decide)).mpr (by decide)

/-- The second of two items, in a page of the largest size. -/
theorem paginate_panics : paginate [1, 2] 1 maxInt = none := by decide

end OidcProvider.OffsetPages
