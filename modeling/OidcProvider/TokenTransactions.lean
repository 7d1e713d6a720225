import OidcProvider.AccessTokenStores

/-!
# Token transactions against direct execution

A transaction on a token store is compared with the same calls made directly.
The two states correspond when the view shows the committed rows, no index
misses a row, and every entry of the direct index is either accounted for by a
row or already in the index the transaction reads. All calls keep the
correspondence except a revocation by grant: it takes every row written in the
transaction for a candidate, whatever its grant, so it agrees with the direct
call exactly when its candidates belong to the grant.
-/
namespace OidcProvider.TokenTransactions
open FiniteMaps SecondaryIndexes StagedOverlay StoreRecords TokenRows TransactionalStores
open AccessTokenStores

section Correspondence
variable {V : Type} (ops : TokenRowOps V)

structure Sim (t : TokenTx V) (s : TokenStore V) : Prop where
  rows : ∀ key, t.st.lookup key = s.m.lookup key
  complete : Complete ops.grantID s.m s.idx.byGrant
  committed : Complete ops.grantID t.st.base t.idx.byGrant
  entries : SoundUpTo ops.grantID (fun key g => g = "" ∨ key ∈ t.idx.byGrant.ids g) s.m
    s.idx.byGrant

/-- Every row a revocation of grant `g` inside the transaction would flip
belongs to `g`. -/
def OnlyGrant (t : TokenTx V) (g : String) (accept : V → Bool) : Prop :=
  ∀ key ∈ t.idx.byGrant.ids g ∪ t.st.written.keys, ∀ row, t.st.lookup key = some row →
    ops.revoked row = false → accept row = true → ops.grantID row = g

/-- From one view to the next, exactly the accepted not-yet-revoked rows of
grant `g` were flipped. -/
def RevokesExactly (g : String) (accept : V → Bool) (st st' : Overlay String V) : Prop :=
  ∀ key, st'.lookup key =
    (st.lookup key).map fun row => if ops.grantID row = g then flipRow ops accept row else row

/-- Every key is listed under a grant, and under a client, exactly when its row
carries it. -/
def IndexesExact (s : TokenStore V) : Prop := ∀ col : Column, col.Holds (Exact (col.attr ops)) s

variable {ops} {accept : V → Bool} {t : TokenTx V} {s : TokenStore V} {g : String}

lemma sim_open (h : Complete ops.grantID s.m s.idx.byGrant) : Sim ops (TokenTx.openOn s) s where
  rows _ := rfl
  complete := h
  committed := h
  entries _ _ hkey := .inl (.inr hkey)

lemma flipRow_of_not {row : V} (h : ¬(ops.revoked row = false ∧ accept row = true)) :
    flipRow ops accept row = row := by
  unfold flipRow
  grind

lemma mem_candidates (hc : Complete ops.grantID t.st.base t.idx.byGrant) {key : String} {row : V}
    (hrow : t.st.lookup key = some row) (hne : ops.grantID row ≠ "") :
    key ∈ t.idx.byGrant.ids (ops.grantID row) ∪ t.st.written.keys := by
  rw [Finset.mem_union]
  rcases Overlay.lookup_cases hrow with h | ⟨_, _, h⟩
  · exact .inr (mem_keys_of_lookup h)
  · exact .inl (hc key row h hne)

/-- The staged revocation flips the rows of its grant and no other exactly when
its candidates are rows of the grant. -/
theorem revokeStaged_exactly_iff (hc : Complete ops.grantID t.st.base t.idx.byGrant) (hg : g ≠ "")
    (accept : V → Bool) (ρ : KeyOrder) : RevokesExactly ops g accept t.st
        (revokeStaged ops ρ t.st (t.idx.byGrant.ids g) accept).1 ↔
      OnlyGrant ops t g accept := by
  constructor
  · intro h key hkey row hrow hrev hacc
    by_contra hne
    have hflip := h key
    rw [lookup_revokeStaged, if_pos hkey, hrow, Option.map_some, Option.map_some, if_neg hne,
      Option.some.injEq] at hflip
    have hset : flipRow ops accept row = ops.setRevoked row := by
      simp [flipRow, hrev, hacc]
    have := ops.revoked_setRevoked row
    rw [← hset, hflip, hrev] at this
    cases this
  · intro h key
    rw [lookup_revokeStaged]
    cases hrow : t.st.lookup key with
    | none => simp
    | some row =>
      simp only [Option.map_some]
      by_cases hgr : ops.grantID row = g
      · subst hgr
        rw [if_pos (mem_candidates hc hrow hg), if_pos rfl]
      · split_ifs with hkey
        · rw [flipRow_of_not fun hlive => hgr (h key hkey row hrow hlive.1 hlive.2)]
        · rfl

lemma revokeIndexed_exactly (h : Sim ops t s) (hg : g ≠ "") (honly : OnlyGrant ops t g accept)
    (ρ : KeyOrder) (key : String) :
    (revokeIndexed ops ρ s (s.idx.byGrant.ids g) accept).1.m.lookup key =
      (s.m.lookup key).map
        fun row => if ops.grantID row = g then flipRow ops accept row else row := by
  rw [lookup_revokeIndexed]
  cases hrow : s.m.lookup key with
  | none => simp
  | some row =>
    simp only [Option.map_some]
    by_cases hgr : ops.grantID row = g
    · subst hgr
      rw [if_pos (h.complete key row hrow hg), if_pos rfl]
    · split_ifs with hkey
      · rw [flipRow_of_not fun hlive => ?_]
        rcases h.entries key g hkey with (hempty | hknown) | ⟨row', hrow', hgr'⟩
        · exact hg hempty
        · exact hgr (honly key (Finset.mem_union_left _ hknown) row ((h.rows key).trans hrow)
            hlive.1 hlive.2)
        · exact hgr (Option.some.inj (hrow'.symm.trans hrow) ▸ hgr')
      · rfl

lemma revoke_counts_agree (h : Sim ops t s) (hg : g ≠ "") (honly : OnlyGrant ops t g accept)
    (ρ ρ' : KeyOrder) : (revokeStaged ops ρ t.st (t.idx.byGrant.ids g) accept).2 =
      (revokeIndexed ops ρ' s (s.idx.byGrant.ids g) accept).2 := by
  rw [revokeStaged_count, revokeIndexed_count]
  congr 1
  ext key
  simp only [Finset.mem_filter, h.rows key, Option.any_eq_true, Bool.and_eq_true,
    Bool.not_eq_true']
  constructor
  · rintro ⟨hkey, row, hrow, hrev, hacc⟩
    have hgr := honly key hkey row ((h.rows key).trans hrow) hrev hacc
    exact ⟨hgr ▸ h.complete key row hrow (hgr ▸ hg), row, hrow, hrev, hacc⟩
  · rintro ⟨hkey, row, hrow, hrev, hacc⟩
    refine ⟨?_, row, hrow, hrev, hacc⟩
    rcases h.entries key g hkey with (hempty | hknown) | ⟨row', hrow', hgr⟩
    · exact absurd hempty hg
    · exact Finset.mem_union_left _ hknown
    · exact hgr ▸ mem_candidates h.committed ((h.rows key).trans hrow') (hgr ▸ hg)

section Steps
variable {t : TokenTx V} {s : TokenStore V} (h : Sim ops t s)
include h

/-- The known entries of the index a transaction reads do not change, so all that
a call has to show is the row correspondence. -/
theorem Sim.next {st' : Overlay String V} {s' : TokenStore V}
    (hrows : ∀ key, st'.lookup key = s'.m.lookup key) (hbase : st'.base = t.st.base)
    (hkeep : ∀ {permits P}, Maintained (Column.grant.attr ops) permits P →
      Column.grant.Holds P s → Column.grant.Holds P s') : Sim ops ⟨t.idx, st'⟩ s' where
  rows := hrows
  complete := hkeep complete_maintained h.complete
  committed := hbase ▸ h.committed
  entries := hkeep (soundUpTo_maintained fun _ => .inl rfl) h.entries

lemma sim_revoke {g : String} (hg : g ≠ "") {accept : V → Bool}
    (honly : OnlyGrant ops t g accept) (ρ ρ' : KeyOrder) :
    Sim ops (TokenTx.revokeGrant ops ρ t g accept).1
        (revokeIndexed ops ρ' s (s.idx.byGrant.ids g) accept).1 ∧
      (TokenTx.revokeGrant ops ρ t g accept).2 =
        (revokeIndexed ops ρ' s (s.idx.byGrant.ids g) accept).2 := by
  refine ⟨h.next (fun key => ?_) (rangeLoop_base _ _ _)
    (fun M hs => revokeIndexed_maintains M hs ρ' _ accept),
    revoke_counts_agree h hg honly ρ ρ'⟩
  rw [(revokeStaged_exactly_iff h.committed hg accept ρ).mpr honly key,
    revokeIndexed_exactly h hg honly ρ' key, h.rows key]

lemma sim_insert (key : String) (row : V) :
    Sim ops (t.insert key row).1 (insertRow ops s key row).1 ∧
      (t.insert key row).2 = (insertRow ops s key row).2 := by
  have hlookup := h.rows key
  unfold TokenTx.insert insertStaged
  refine ⟨h.next (fun key' => ?_) ?_ (fun M hs => insertRow_maintains M hs key row), ?_⟩
  · unfold insertRow
    rw [hlookup]
    cases s.m.lookup key with
    | some _ => exact h.rows key'
    | none =>
      exact (Overlay.lookup_set t.st key key' (some row)).trans
        (by rw [h.rows key', lookup_insert_ite])
  · cases t.st.lookup key <;> rfl
  · unfold insertRow
    rw [hlookup]
    cases s.m.lookup key <;> rfl

lemma sim_revokeRow (key : String) : Sim ops (t.revokeKey ops key) (revokeRow ops s key) := by
  have hlookup := h.rows key
  unfold TokenTx.revokeKey revokeRowStaged
  refine h.next (fun key' => ?_) ?_ (fun M hs => revokeRow_maintains M hs key)
  · unfold revokeRow
    rw [hlookup]
    cases s.m.lookup key with
    | none => exact h.rows key'
    | some row =>
      exact (Overlay.lookup_set t.st key key' (some (ops.setRevoked row))).trans
        (by rw [h.rows key', lookup_insert_ite])
  · cases t.st.lookup key <;> rfl

lemma sim_gc (cutoff : Time) (ρ ρ' : KeyOrder) :
    Sim ops (TokenTx.gc ops ρ t cutoff).1 (gcRows ops ρ' s cutoff).1 ∧
      (TokenTx.gc ops ρ t cutoff).2 = (gcRows ops ρ' s cutoff).2 := by
  refine ⟨h.next (fun key => ?_) ?_ (fun M hs => gcRows_maintains M hs ρ' cutoff), ?_⟩
  · rw [lookup_gcRows]
    exact (lookup_reclaim _ ρ t.st key).trans (by rw [h.rows key])
  · exact (rangeLoop_base _ _ _).trans (rangeLoop_base _ _ _)
  · rw [gcRows_count]
    exact reclaim_count_of_rows _ h.rows ρ

end Steps

end Correspondence

abbrev TokenEvent (C : Type) :=
  TransactionalStore.Event (Ranged C) KeyOrder RevokeByClient

/-- A step of an open transaction touches its overlay only, and never leaves a
key both written and deleted there. -/
def TokenTx.Steps {V : Type} (t t' : TokenTx V) : Prop :=
  t'.rollback = t.rollback ∧ (t.st.Consistent → t'.st.Consistent)

lemma TokenTx.Steps.refl {V : Type} (t : TokenTx V) : TokenTx.Steps t t := ⟨rfl, id⟩

section
variable {V : Type} (ops : TokenRowOps V) (t : TokenTx V)

lemma steps_insert (key : String) (row : V) : TokenTx.Steps t (t.insert key row).1 := by
  unfold TokenTx.insert insertStaged
  cases t.st.lookup key with
  | some _ => exact .refl t
  | none => exact ⟨rfl, fun h => Overlay.consistent_set h key (some row)⟩

lemma steps_revokeKey (key : String) : TokenTx.Steps t (t.revokeKey ops key) := by
  unfold TokenTx.revokeKey revokeRowStaged
  cases t.st.lookup key with
  | none => exact .refl t
  | some row => exact ⟨rfl, fun h => Overlay.consistent_set h key (some (ops.setRevoked row))⟩

lemma steps_revokeGrant (ρ : KeyOrder) (g : String) (accept : V → Bool) :
    TokenTx.Steps t (TokenTx.revokeGrant ops ρ t g accept).1 := by
  refine ⟨?_, fun h => rangeLoop_consistent _ _ h⟩
  simp only [TokenTx.revokeGrant, TokenTx.rollback, revokeStaged, rangeLoop_base]

lemma steps_gc (ρ : KeyOrder) (cutoff : Time) :
    TokenTx.Steps t (TokenTx.gc ops ρ t cutoff).1 := by
  refine ⟨?_, fun h => rangeLoop_consistent _ _ (rangeLoop_consistent _ _ h)⟩
  simp only [TokenTx.gc, TokenTx.rollback, gcStaged, reclaim, rangeLoop_base]

lemma steps_staged (ρ : KeyOrder) (op : RowOp V) : TokenTx.Steps t (op.staged ops ρ t).1 := by
  cases op with
  | refuse reply => exact .refl t
  | read key answer => exact .refl t
  | insert key row => exact steps_insert t key row
  | revokeKey key => exact steps_revokeKey ops t key
  | revokeGrant g accept => exact steps_revokeGrant ops t ρ g accept
  | gc cutoff => exact steps_gc ops t ρ cutoff

end

/-- What the two token stores have in common: every call comes to an operation on
the rows, and a revocation by grant names its grant. -/
structure TokenApi {V : Type} (ops : TokenRowOps V) (C : Type) extends
    TransactionalStore (TokenStore V) (TokenTx V) (Ranged C) (Reply V) KeyOrder
      RevokeByClient where
  op : C → RowOp V
  op_named : ∀ c accept, op c ≠ .revokeGrant "" accept
  direct_eq : ∀ s (c : Ranged C), direct s c = (op c.call).direct ops c.direct s
  staged_eq : ∀ t (c : Ranged C), staged t c = (op c.call).staged ops c.staged t
  outside_maintains : ∀ {col : Column} {permits P}, Maintained (col.attr ops) permits P →
    ∀ s u, col.Holds P s → col.Holds P (outside s u)
  openTx_eq : ∀ s, openTx s = TokenTx.openOn s
  commit_eq : ∀ t ρ, commit t ρ = TokenTx.commit ops t ρ
  rollback_eq : ∀ t, rollback t = TokenTx.rollback t

namespace TokenApi
variable {V C : Type} {ops : TokenRowOps V} (A : TokenApi ops C) (s : TokenStore V)
  (cs : List (Ranged C))

def revokes (c : C) : Option (String × (V → Bool)) := (A.op c).revokes

/-- Every row that the call would flip belongs to the grant it names. -/
def Admissible (t : TokenTx V) (c : Ranged C) : Prop :=
  ∀ g accept, A.revokes c.call = some (g, accept) → OnlyGrant ops t g accept

/-- A revocation by grant or by chain flips exactly the rows it names. -/
def RevokesItsGrant (t : TokenTx V) (c : Ranged C) : Prop :=
  ∀ g accept, A.revokes c.call = some (g, accept) →
    RevokesExactly ops g accept t.st (A.staged t c).1.st

/-- The transaction returns what the direct calls return and commits the rows
they leave. -/
def SameAsDirect (s : TokenStore V) (cs : List (Ranged C)) : Prop :=
  (run A.staged (A.openTx s) cs).2 = (run A.direct s cs).2 ∧
    ∀ ρ, (A.commit (run A.staged (A.openTx s) cs).1 ρ).m = (run A.direct s cs).1.m

lemma of_revokes {c : C} {g : String} {accept : V → Bool}
    (h : A.revokes c = some (g, accept)) : A.op c = .revokeGrant g accept ∧ g ≠ "" := by
  have hop : A.op c = .revokeGrant g accept := by
    unfold revokes at h
    cases hop : A.op c <;> rw [hop] at h <;> cases h
    rfl
  refine ⟨hop, ?_⟩
  rintro rfl
  exact A.op_named c accept hop

lemma revokesItsGrant_iff {t : TokenTx V} (h : Complete ops.grantID t.st.base t.idx.byGrant)
    (c : Ranged C) : A.RevokesItsGrant t c ↔ A.Admissible t c := by
  refine forall₃_congr fun g accept hc => ?_
  obtain ⟨hop, hg⟩ := A.of_revokes hc
  rw [A.staged_eq, hop]
  exact revokeStaged_exactly_iff h hg accept c.staged

lemma simulates (t : TokenTx V) (s : TokenStore V) (c : Ranged C) (h : Sim ops t s)
    (hok : A.Admissible t c) :
    Sim ops (A.staged t c).1 (A.direct s c).1 ∧ (A.staged t c).2 = (A.direct s c).2 := by
  rw [A.staged_eq, A.direct_eq]
  cases hop : A.op c.call with
  | refuse reply => exact ⟨h, rfl⟩
  | read key answer => exact ⟨h, congrArg answer (h.rows key)⟩
  | insert key row => exact (sim_insert h key row).imp_right (congrArg _)
  | revokeKey key => exact ⟨sim_revokeRow h key, rfl⟩
  | revokeGrant g accept =>
    have hc : A.revokes c.call = some (g, accept) := by rw [revokes, hop]; rfl
    have hsim := sim_revoke h (A.of_revokes hc).2 (hok g accept hc) c.staged c.direct
    exact hsim.imp_right (congrArg _)
  | gc cutoff => exact (sim_gc h cutoff c.staged c.direct).imp_right (congrArg _)

lemma rollback_run (t : TokenTx V) (cs : List (Ranged C)) :
    (run A.staged t cs).1.rollback = t.rollback :=
  run_fixed (fun t c => by rw [A.staged_eq]; exact (steps_staged ops t _ _).1) t cs

lemma apply_rolledBack : A.apply s (.rolledBack cs) = s := by
  change A.rollback (run A.staged (A.openTx s) cs).1 = s
  rw [A.rollback_eq, A.rollback_run, A.openTx_eq]
  rfl

lemma committed_parts :
    (run A.staged (A.openTx s) cs).1.st.base = s.m ∧
      (run A.staged (A.openTx s) cs).1.idx = s.idx := by
  have h := A.rollback_run (A.openTx s) cs
  rw [A.openTx_eq] at h ⊢
  exact Tracked.mk.inj h

/-- The rows that a transaction is about to write over committed rows. -/
def Overwrites (permits : Option V → Option V → Prop) (s : TokenStore V) : TokenEvent C → Prop
  | .committed cs _ => ∀ key,
      permits (s.m.lookup key) ((run A.staged (A.openTx s) cs).1.st.written.lookup key)
  | _ => True

lemma apply_maintains {col : Column} {permits : Option V → Option V → Prop}
    {P : StringMap V → Index → Prop} (M : Maintained (col.attr ops) permits P)
    (s : TokenStore V) (e : TokenEvent C) (hs : col.Holds P s) (hok : A.Overwrites permits s e) :
    col.Holds P (A.apply s e) := by
  cases e with
  | call c =>
    change col.Holds P (A.direct s c).1
    rw [A.direct_eq]
    exact RowOp.direct_maintains c.direct M hs _
  | outside u => exact A.outside_maintains M s u hs
  | committed cs ρ =>
    obtain ⟨hbase, hidx⟩ := A.committed_parts s cs
    change col.Holds P (A.commit (run A.staged (A.openTx s) cs).1 ρ)
    rw [A.commit_eq]
    exact flush_maintains M (by rw [hbase, hidx]; exact hs) ρ (fun key => hbase ▸ hok key)
  | rolledBack cs =>
    rw [A.apply_rolledBack]
    exact hs

lemma after_complete (history : List (TokenEvent C)) :
    Complete ops.grantID (A.after emptyStore history).m
      (A.after emptyStore history).idx.byGrant := by
  have M : Maintained (Column.grant.attr ops) _ _ := complete_maintained
  refine TransactionalStore.after_preserves (P := Column.grant.Holds (Complete ops.grantID))
    (fun s e hs => A.apply_maintains M s e hs ?_) ?_ history
  · cases e <;> simp [Overwrites]
  · intro key row hrow
    simp [emptyStore] at hrow

/-- A transaction on a reachable store is the same as its direct calls, with
revocations that hit their own rows only, exactly when no revocation has a
candidate of another grant. -/
theorem sameAsDirect_iff (history : List (TokenEvent C)) (cs : List (Ranged C)) :
    (A.SameAsDirect (A.after emptyStore history) cs ∧
        Along A.staged A.RevokesItsGrant (A.openTx (A.after emptyStore history)) cs) ↔
      Along A.staged A.Admissible (A.openTx (A.after emptyStore history)) cs := by
  have hsim : Sim ops (A.openTx (A.after emptyStore history)) (A.after emptyStore history) := by
    rw [A.openTx_eq]
    exact sim_open (A.after_complete history)
  have hstep : ∀ t s c, Sim ops t s → A.Admissible t c →
      A.RevokesItsGrant t c ∧ Sim ops (A.staged t c).1 (A.direct s c).1 := fun t s c h hok =>
    ⟨(A.revokesItsGrant_iff h.committed c).mpr hok, (A.simulates t s c h hok).1⟩
  constructor
  · rintro ⟨_, hexact⟩
    refine TransactionalStore.along_simulates (fun t s c h hP => ?_) hsim hexact
    have hok := (A.revokesItsGrant_iff h.committed c).mp hP
    exact ⟨hok, (hstep t s c h hok).2⟩
  · intro hok
    obtain ⟨hend, hreplies⟩ := TransactionalStore.run_simulates A.simulates hsim hok
    refine ⟨⟨hreplies, fun ρ => Finmap.ext_lookup fun key => ?_⟩,
      TransactionalStore.along_simulates hstep hsim hok⟩
    rw [A.commit_eq, TokenTx.commit, lookup_flush]
    exact hend.rows key

/-- Every row a commit writes over a committed row carries its grant and client. -/
def OverwritesInPlace (s : TokenStore V) (e : TokenEvent C) : Prop :=
  ∀ col : Column, A.Overwrites (SameAttribute (col.attr ops)) s e

lemma consistent_run : (run A.staged (A.openTx s) cs).1.st.Consistent := by
  refine run_invariant (P := fun t : TokenTx V => t.st.Consistent) (fun t c h => ?_) ?_ cs
  · rw [A.staged_eq]
    exact (steps_staged ops t _ _).2 h
  · rw [A.openTx_eq]
    exact Overlay.consistent_new s.m

/-- A commit that writes a row over one of another grant or client leaves the
old entry behind. -/
theorem exact_commit_inv {col : Column} {s : TokenStore V} (ρ : KeyOrder)
    (hs : col.Holds (Exact (col.attr ops)) s)
    (h : col.Holds (Exact (col.attr ops)) (A.apply s (.committed cs ρ))) :
    A.Overwrites (SameAttribute (col.attr ops)) s (.committed cs ρ) := by
  obtain ⟨hbase, hidx⟩ := A.committed_parts s cs
  have hcons := A.consistent_run s cs
  change col.Holds _ (A.commit (run A.staged (A.openTx s) cs).1 ρ) at h
  rw [A.commit_eq] at h
  intro key row row' hrow hrow'
  by_contra hdiff
  obtain ⟨hne, hdiff⟩ := not_or.mp hdiff
  have hd : key ∉ (run A.staged (A.openTx s) cs).1.st.deleted := by
    intro hd
    have := hcons key hd
    rw [hrow'] at this
    cases this
  have hlisted : key ∈ (col.index (run A.staged (A.openTx s) cs).1.idx).ids (col.attr ops row) := by
    rw [hidx]
    exact (hs key _ hne).mpr ⟨row, hrow, rfl⟩
  obtain ⟨row'', hrow'', hattr⟩ := (h key _ hne).mp (mem_ids_flush hlisted hd ρ)
  rw [TokenTx.commit, lookup_flush, Overlay.lookup_of_written hrow'] at hrow''
  cases hrow''
  exact hdiff hattr.symm

/-- The indexes are exact in every state of a history exactly when every commit
of the history writes in place. -/
theorem always_exact_iff (history : List (TokenEvent C)) :
    A.Always (IndexesExact ops) emptyStore history ↔
      A.Throughout A.OverwritesInPlace emptyStore history := by
  refine TransactionalStore.always_iff_throughout (fun s e hs => ?_) ?_ history
  · refine forall_congr' fun col => ⟨fun h => ?_, fun hok => ?_⟩
    · cases e with
      | committed cs ρ => exact A.exact_commit_inv cs ρ (hs col) h
      | _ => trivial
    · exact A.apply_maintains exact_maintained s e (hs col) hok
  · intro col key value _
    cases col <;> simp [emptyStore, Column.index, Index.ids]

end TokenApi

/-! ### The two stores -/

namespace Registry
open AccessTokens

def api : TokenApi accessTokenRowOps Call where
  toTransactionalStore := registry
  op := op
  op_named := op_named
  direct_eq := direct_eq
  staged_eq := staged_eq
  outside_maintains := by
    rintro col permits P M s ⟨clientID, ρ⟩ hs
    simp only [registry, revokeByClient]
    split_ifs
    · exact hs
    · exact revokeIndexed_maintains M hs ρ _ matchAnyToken
  openTx_eq _ := rfl
  commit_eq _ _ := rfl
  rollback_eq _ := rfl

end Registry

namespace Opaque
open OpaqueAccessTokens

def api (D : KeyDigest) : TokenApi opaqueTokenRowOps Call where
  toTransactionalStore := tokens D
  op := op D
  op_named := op_named D
  direct_eq := direct_eq D
  staged_eq := staged_eq D
  outside_maintains := by
    rintro col permits P M s ⟨clientID, ρ⟩ hs
    simp only [tokens, revokeByClient]
    split_ifs
    · exact hs
    · exact revokeIndexed_maintains M hs ρ _ matchAnyToken
  openTx_eq _ := rfl
  commit_eq _ _ := rfl
  rollback_eq _ := rfl

end Opaque

/-! ### Main results -/

/-- On every reachable registry and opaque store: a transaction answers and
commits like the direct calls, its revocations flipping the rows of their grant
and no other, exactly when no revocation meets an unrevoked candidate of
another grant. -/
theorem token_transaction_same_as_direct_iff (D : KeyDigest) :
    (∀ history cs,
      (Registry.api.SameAsDirect (Registry.api.after emptyStore history) cs ∧
          Along Registry.api.staged Registry.api.RevokesItsGrant
            (Registry.api.openTx (Registry.api.after emptyStore history)) cs) ↔
        Along Registry.api.staged Registry.api.Admissible
          (Registry.api.openTx (Registry.api.after emptyStore history)) cs) ∧
    (∀ history cs,
      ((Opaque.api D).SameAsDirect ((Opaque.api D).after emptyStore history) cs ∧
          Along (Opaque.api D).staged (Opaque.api D).RevokesItsGrant
            ((Opaque.api D).openTx ((Opaque.api D).after emptyStore history)) cs) ↔
        Along (Opaque.api D).staged (Opaque.api D).Admissible
          ((Opaque.api D).openTx ((Opaque.api D).after emptyStore history)) cs) :=
  ⟨Registry.api.sameAsDirect_iff, (Opaque.api D).sameAsDirect_iff⟩

def sampleToken (jti grantID : String) : AccessTokenRecord :=
  ⟨jti, grantID, "subject", "client", ["openid"], 1, 100, false⟩

def ranged {C : Type} (c : C) : Ranged C :=
  ⟨c, ascending, ascending⟩

/-- Two tokens of different grants registered in the transaction that then
revokes the first grant. -/
def revokeAfterRegister : List (Ranged AccessTokens.Call) :=
  [ranged (.register (sampleToken "t1" "g1")), ranged (.register (sampleToken "t2" "g2")),
    ranged (.revokeByGrant "g1")]

/-- The transaction revokes the token of the other grant as well. -/
theorem staged_revocation_hits_other_grant :
    ((run Registry.api.staged (Registry.api.openTx emptyStore) revokeAfterRegister).1.st.lookup
        "t2").map (·.revoked) = some true ∧
      ((run Registry.api.direct emptyStore revokeAfterRegister).1.m.lookup "t2").map (·.revoked) =
        some false ∧
      ¬Registry.api.SameAsDirect emptyStore revokeAfterRegister := by
  refine ⟨by decide, by decide, fun h => ?_⟩
  have hrow := congrArg (fun m => (m.lookup "t2").map (·.revoked))
    (h.2 ascending)
  revert hrow
  decide

/-- The grant and client indexes of both stores are exact in every state of a
history exactly when every commit that writes over a committed row keeps the
row's grant and client. -/
theorem token_indexes_exact_iff (D : KeyDigest) :
    (∀ history, Registry.api.Always (IndexesExact accessTokenRowOps) emptyStore history ↔
      Registry.api.Throughout Registry.api.OverwritesInPlace emptyStore history) ∧
    (∀ history, (Opaque.api D).Always (IndexesExact opaqueTokenRowOps) emptyStore history ↔
      (Opaque.api D).Throughout (Opaque.api D).OverwritesInPlace emptyStore history) :=
  ⟨Registry.api.always_exact_iff, (Opaque.api D).always_exact_iff⟩

/-- A transaction reclaims an expired row and registers its key again under
another grant. -/
def reclaimThenRegister : List (TokenEvent AccessTokens.Call) :=
  [.call (ranged (.register (sampleToken "t1" "g1"))),
    .committed [ranged (.gc 200), ranged (.register (sampleToken "t1" "g2"))]
      ascending]

/-- The entry of the reclaimed row is still there. -/
theorem stale_entry_after_reregister :
    "t1" ∈ (Registry.api.after emptyStore reclaimThenRegister).idx.byGrant.ids "g1" ∧
      ((Registry.api.after emptyStore reclaimThenRegister).m.lookup "t1").map (·.grantID) =
        some "g2" ∧
      ¬IndexesExact accessTokenRowOps (Registry.api.after emptyStore reclaimThenRegister) := by
  have hentry : "t1" ∈
      (Registry.api.after emptyStore reclaimThenRegister).idx.byGrant.ids "g1" := by decide
  have hgrant : ((Registry.api.after emptyStore reclaimThenRegister).m.lookup "t1").map
      (·.grantID) = some "g2" := by decide
  refine ⟨hentry, hgrant, fun h => ?_⟩
  obtain ⟨row, hrow, hg⟩ := (h .grant "t1" "g1" (by decide)).mp hentry
  rw [hrow, Option.map_some, Option.some.injEq] at hgrant
  change row.grantID = "g1" at hg
  rw [hgrant] at hg
  revert hg
  decide

end OidcProvider.TokenTransactions
