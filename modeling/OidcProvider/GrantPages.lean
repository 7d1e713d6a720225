import OidcProvider.GrantTransactions

/-!
# Following the cursor of the grant listings

`ListClientIDsBySubject` and `ListSubjectsByClient`, of the store and of a transaction,
called again and again with the cursor of the page before, each time with the map ranged
over in an order of its own. A page holds the first values above its cursor, so the next
cursor, its last value, cuts the ascending list of all values exactly where the page ends.
-/
namespace OidcProvider.GrantPages
open FiniteMaps SortedPages StoreRecords GrantStore GrantTransactions

/-- The pages from `cursor` on, in at most `calls` calls. -/
def followPages (list : ℕ → String → Fallible GrantPage) : ℕ → String → Option (List (List String))
  | 0, _ => none
  | calls + 1, cursor =>
    match list calls cursor with
    | .error _ => none
    | .ok page =>
      if page.nextCursor = "" then some [page.values]
      else (followPages list calls page.nextCursor).map (page.values :: ·)

/-- The pages end, none is longer than `limit`, and together they are the ascending list of
the wanted values. -/
def Enumerates (list : ℕ → String → Fallible GrantPage) (limit : ℕ)
    (wanted : String → Prop) : Prop :=
  ∃ needed, ∀ calls ≥ needed, ∃ pages, followPages list calls "" = some pages ∧
    (∀ page ∈ pages, page.length ≤ limit) ∧ pages.flatten.Pairwise (· < ·) ∧
    ∀ v, v ∈ pages.flatten ↔ wanted v

lemma filter_lt_last {α : Type} [LinearOrder α] {l : List α} (hl : l.Pairwise (· < ·)) {k : ℕ}
    {x : α} (hx : (l.take k).getLast? = some x) : l.filter (x < ·) = l.drop k := by
  obtain ⟨init, hinit⟩ := List.getLast?_eq_some_iff.mp hx
  have hsplit := List.take_append_drop k l
  rw [hinit] at hsplit
  rw [← hsplit, List.append_assoc, List.pairwise_append, List.singleton_append] at hl
  obtain ⟨-, htail, hbefore⟩ := hl
  have hlow : (init ++ [x]).filter (x < ·) = [] := by
    simp only [List.filter_eq_nil_iff, List.mem_append, List.mem_singleton, decide_eq_true_eq]
    rintro y (hy | rfl)
    · exact (hbefore y hy x List.mem_cons_self).asymm
    · exact lt_irrefl y
  have hhigh : (l.drop k).filter (x < ·) = l.drop k :=
    List.filter_eq_self.mpr fun y hy => decide_eq_true (List.rel_of_pairwise_cons htail hy)
  calc l.filter (x < ·) = (init ++ [x] ++ l.drop k).filter (x < ·) := by rw [hsplit]
    _ = l.drop k := by rw [List.filter_append, hlow, hhigh, List.nil_append]

section
variable {list : ℕ → String → Fallible GrantPage} {limit : ℕ} {values : List String}

/-- Every call answers with the page of the values above its cursor. -/
def Pages (list : ℕ → String → Fallible GrantPage) (limit : ℕ) (values : List String) : Prop :=
  ∀ n cursor, list n cursor =
    .ok ⟨(values.filter (cursor < ·)).take limit,
      if limit < (values.filter (cursor < ·)).length then
        ((values.filter (cursor < ·)).take limit).getLast?.getD "" else ""⟩

lemma empty_le (s : String) : "" ≤ s := by
  rw [String.le_iff_toList_le]
  exact not_lt.mp (List.not_lt_nil _)

lemma followPages_eq (hlist : Pages list limit values) (hlimit : 0 < limit)
    (hvalues : values.Pairwise (· < ·)) (calls : ℕ) (cursor : String)
    (hcalls : (values.filter (cursor < ·)).length < calls) :
    ∃ pages, followPages list calls cursor = some pages ∧ (∀ page ∈ pages, page.length ≤ limit) ∧
      pages.flatten = values.filter (cursor < ·) := by
  -- the values above the cursor are fewer after each call
  induction calls generalizing cursor with
  | zero => omega
  | succ calls ih =>
    rw [followPages, hlist]
    dsimp only
    generalize hrest : values.filter (cursor < ·) = rest at hcalls ⊢
    by_cases hmore : limit < rest.length
    · have hpage : rest.take limit ≠ [] := by
        rw [← List.length_pos_iff, List.length_take]
        omega
      obtain ⟨x, hx⟩ := Option.isSome_iff_exists.mp (List.getLast?_isSome.mpr hpage)
      have hmem : x ∈ rest := List.mem_of_mem_take (List.mem_of_getLast? hx)
      have habove : cursor < x := by
        rw [← hrest, List.mem_filter] at hmem
        exact of_decide_eq_true hmem.2
      have hnext : values.filter (x < ·) = rest.drop limit := by
        rw [← filter_lt_last (hrest ▸ hvalues.filter _) hx, ← hrest, List.filter_filter]
        congr 1
        funext v
        by_cases hv : x < v
        · simp [hv, habove.trans hv]
        · simp [hv]
      obtain ⟨pages, hpages, hlengths, hflatten⟩ := ih x (by
        rw [hnext, List.length_drop]
        omega)
      have hnamed : x ≠ "" := ((empty_le cursor).trans_lt habove).ne'
      rw [if_pos hmore, hx, Option.getD_some, if_neg hnamed, hpages]
      refine ⟨rest.take limit :: pages, rfl, ?_, ?_⟩
      · rintro page (_ | ⟨_, hpage⟩)
        · exact List.length_take_le _ _
        · exact hlengths page hpage
      · rw [List.flatten_cons, hflatten, hnext, List.take_append_drop]
    · rw [if_neg hmore, if_pos rfl, List.take_of_length_le (not_lt.mp hmore)]
      refine ⟨[rest], rfl, ?_, List.flatten_singleton⟩
      rintro page (_ | ⟨_, h⟩)
      · exact not_lt.mp hmore
      · cases h

end

lemma listed_iff (cursor v : String) : listed cursor v = true ↔ cursor < v := by
  simp only [listed, Bool.not_eq_true', decide_eq_false_iff_not, not_or, not_le]
  exact ⟨And.right, fun h => ⟨((empty_le cursor).trans_lt h).ne', h⟩⟩

lemma result_of_selects {b : SortedPageBuilder} {P : Finset String} (h : b.page.Selects P) :
    b.result = ⟨(P.sort (· ≤ ·)).take b.page.limit, if b.page.limit < P.card then
      ((P.sort (· ≤ ·)).take b.page.limit).getLast?.getD "" else ""⟩ := by
  simp only [SortedPageBuilder.result, h.items, h.more, decide_eq_true_eq]

lemma sort_filter (P : Finset String) (cursor : String) :
    (P.filter (cursor < ·)).sort (· ≤ ·) = (P.sort (· ≤ ·)).filter (cursor < ·) := by
  apply List.Perm.eq_of_pairwise' (Finset.pairwise_sort _ _) ((Finset.pairwise_sort _ _).filter _)
  rw [List.perm_ext_iff_of_nodup (Finset.sort_nodup _ _) ((Finset.sort_nodup _ _).filter _)]
  simp

lemma enumerates_of_loop {body : SortedPageBuilder → Grant → SortedPageBuilder}
    {keep : Grant → Prop} [DecidablePred keep] {value : Grant → String}
    (hbody : ∀ b rec, body b rec = if keep rec then b.add (value rec) else b)
    {rs : ℕ → List Grant} {Visible : Grant → Prop} (hrs : ∀ n rec, rec ∈ rs n ↔ Visible rec)
    {list : ℕ → String → Fallible GrantPage} {limit : ℕ} (hlimit : 0 < limit)
    (hlist : ∀ n cursor, list n cursor =
      .ok ((rs n).foldl body (newSortedPageBuilder cursor limit)).result) :
    Enumerates list limit fun v => v ≠ "" ∧ ∃ rec, Visible rec ∧ keep rec ∧ value rec = v := by
  have hloop : ∀ b rec, body b rec = if decide (keep rec) then b.add (value rec) else b := by
    simp [hbody]
  let offered (n : ℕ) : Finset String := (((rs n).filter (keep ·)).map value).toFinset
  have hoffered : ∀ n v, v ∈ offered n ↔ ∃ rec, Visible rec ∧ keep rec ∧ value rec = v := by
    intro n v
    simp [offered, hrs, and_assoc]
  have hsame : ∀ n, offered n = offered 0 := fun n => by
    ext v
    rw [hoffered, hoffered]
  have hsort := Finset.sortedLT_sort (offered 0)
  have hpages : Pages list limit ((offered 0).sort (· ≤ ·)) := by
    intro n cursor
    have hselects := selects_insertAll (selects_empty limit)
      ((((rs n).filter (keep ·)).map value).filter (listed cursor))
    have hset : ∅ ∪ ((((rs n).filter (keep ·)).map value).filter (listed cursor)).toFinset =
        (offered 0).filter (cursor < ·) := by
      ext v
      rw [← hsame n]
      simp [offered, listed_iff]
    rw [hset] at hselects
    rw [hlist, add_foldl hloop, result_of_selects hselects, ← sort_filter, Finset.length_sort]
    dsimp only
    rw [limit_insertAll]
    rfl
  refine ⟨((offered 0).sort (· ≤ ·)).length + 1, fun calls hcalls => ?_⟩
  obtain ⟨pages, hfollow, hlengths, hflatten⟩ := followPages_eq hpages hlimit hsort.pairwise
    calls "" (Nat.lt_of_le_of_lt (List.length_filter_le _ _) hcalls)
  refine ⟨pages, hfollow, hlengths, ?_, fun v => ?_⟩
  · rw [hflatten]
    exact hsort.pairwise.filter _
  · rw [hflatten, List.mem_filter, Finset.mem_sort, hoffered, decide_eq_true_eq, and_comm]
    have hpos : "" < v ↔ v ≠ "" := ⟨ne_of_gt, fun h => lt_of_le_of_ne (empty_le v) h.symm⟩
    rw [hpos]

/-- The grant that the staged adds and deletes show under the id. -/
def Shows (st : GrantStaging) (id : String) (g : Grant) : Prop :=
  id ∉ st.deleted ∧ (st.written.lookup id = some g ∨
    st.written.lookup id = none ∧ st.base.lookup id = some g)

lemma mem_rows (ρ : KeyOrder) (m : GrantMap) (g : Grant) :
    g ∈ rows ρ m ↔ ∃ id, m.lookup id = some g := by
  simp [rows, mem_pairs]

lemma mem_visitedRows (w : WalkOrder) (st : GrantStaging) (g : Grant) :
    g ∈ (visited w st).map Prod.snd ↔ ∃ id, Shows st id g := by
  simp only [visited, List.mem_map, Prod.exists, exists_eq_right, List.mem_append,
    List.mem_filter, mem_pairs, mem_keys_iff, decide_eq_true_eq]
  refine exists_congr fun id => ?_
  unfold Shows
  cases st.written.lookup id <;> simp [and_comm]

/-- Whatever the limit, the grants and the orders in which the calls range over them, the
cursor leads through the client ids of a subject, and through the subjects of a client, each
once and in ascending order; the view of a transaction lists what its adds and deletes show. -/
theorem cursors_enumerate (limit : ℤ) (hlimit : 1 ≤ limit) :
    (∀ (m : GrantMap) (orders : ℕ → KeyOrder) (key : String),
      Enumerates (fun n cursor => listClientIDsBySubject (orders n) m key cursor limit)
        limit.toNat (fun v => v ≠ "" ∧
          ∃ g, (∃ id, m.lookup id = some g) ∧ g.subject = key ∧ g.clientID = v) ∧
      Enumerates (fun n cursor => listSubjectsByClient (orders n) m key cursor limit)
        limit.toNat fun v => v ≠ "" ∧
          ∃ g, (∃ id, m.lookup id = some g) ∧ g.clientID = key ∧ g.subject = v) ∧
    ∀ (st : GrantStaging) (orders : ℕ → WalkOrder) (key : String),
      Enumerates (fun n cursor => txListClientIDsBySubject (orders n) st key cursor limit)
        limit.toNat (fun v => v ≠ "" ∧
          ∃ g, (∃ id, Shows st id g) ∧ g.subject = key ∧ g.clientID = v) ∧
      Enumerates (fun n cursor => txListSubjectsByClient (orders n) st key cursor limit)
        limit.toNat fun v => v ≠ "" ∧
          ∃ g, (∃ id, Shows st id g) ∧ g.clientID = key ∧ g.subject = v := by
  have hpos : ¬limit ≤ 0 := by omega
  have hnat : 0 < limit.toNat := by omega
  refine ⟨fun m orders key => ⟨?_, ?_⟩, fun st orders key => ⟨?_, ?_⟩⟩
  · exact enumerates_of_loop (fun _ _ => rfl) (fun n => mem_rows (orders n) m) hnat
      fun n cursor => if_neg hpos
  · exact enumerates_of_loop (fun _ _ => rfl) (fun n => mem_rows (orders n) m) hnat
      fun n cursor => if_neg hpos
  · exact enumerates_of_loop (fun _ _ => rfl) (fun n => mem_visitedRows (orders n) st) hnat
      fun n cursor => (if_neg hpos).trans (by rw [each_all]; rfl)
  · exact enumerates_of_loop (fun _ _ => rfl) (fun n => mem_visitedRows (orders n) st) hnat
      fun n cursor => (if_neg hpos).trans (by rw [each_all]; rfl)

def grantOf (id subject : String) : Grant :=
  { sampleGrant id with subject := subject, clientID := "rp" }

def threeGrants : GrantMap :=
  (((∅ : GrantMap).insert "g1" (grantOf "g1" "carol")).insert "g2" (grantOf "g2" "alice")).insert
    "g3" (grantOf "g3" "bob")

/-- The cursor of a full page of two leads to the third subject. -/
theorem cursors_enumerate_threeGrants :
    Enumerates (fun _ cursor => listSubjectsByClient ascending threeGrants "rp" cursor 2)
      2 (fun v => v ≠ "" ∧
        ∃ g, (∃ id, threeGrants.lookup id = some g) ∧ g.clientID = "rp" ∧ g.subject = v) ∧
    followPages (fun _ cursor => listSubjectsByClient ascending threeGrants "rp" cursor 2)
      2 "" = some [["alice", "bob"], ["carol"]] :=
  ⟨((cursors_enumerate 2 (by decide)).1 threeGrants (fun _ => ascending) "rp").2,
    by decide +kernel⟩

end OidcProvider.GrantPages
