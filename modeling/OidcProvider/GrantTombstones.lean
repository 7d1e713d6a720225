import OidcProvider.GrantRevocationStore
import Mathlib.Data.Prod.Lex

/-!
# Tombstones under every order of writes

Cascades against one grant write their tombstones in no particular order, and
the store merges them into one row. The three instants of the row are widened
independently, so the order does not matter and nothing that was covered is
uncovered by a later write. What a sweep may drop is another matter: to the
sweep a zero expiry means that the row is kept for good, to the merge it is the
earliest instant there is. A ledger keeps the tombstones that were merged into
each row next to the store, so that the two readings can be compared.
-/
namespace OidcProvider.GrantTombstones
open FiniteMaps StoreRecords GrantRevocationStore

/-! ### What a row covers -/

/-- The instants of a row: the whole-grant cutoff, the access-token cutoff and
the retention. -/
structure Coverage where
  wholeGrant : Time
  accessTokens : Time
  retention : Time
  deriving DecidableEq

def coverage (r : TombstoneRow) : Coverage := ⟨r.revokedAt, r.accessRevokedAt, r.expiresAt⟩

variable {s s' : GrantRevocations} {r r' : TombstoneRow} {l : Ledger} {iat : Time}
  (history : List Event)

lemma widen_eq_max (stored supplied : Time) : widen stored supplied = max stored supplied := by
  unfold widen
  split_ifs with h
  · exact (max_eq_right h.le).symm
  · exact (max_eq_left (not_lt.mp h)).symm

lemma le_widen (stored supplied : Time) : stored ≤ widen stored supplied := by
  rw [widen_eq_max]
  exact le_max_left stored supplied

lemma coverage_merge_comm (r : TombstoneRow) (t t' : GrantTombstone) :
    coverage ((r.merge t).merge t') = coverage ((r.merge t').merge t) := by
  simp only [coverage, TombstoneRow.merge, widen_eq_max]
  congr 1
  · split_ifs
    · rfl
    · rfl
    · rfl
    · exact max_right_comm r.revokedAt t.revokedAt t'.revokedAt
  · split_ifs
    · exact max_right_comm r.accessRevokedAt t.revokedAt t'.revokedAt
    · rfl
    · rfl
    · rfl
  · exact max_right_comm r.expiresAt t.expiresAt t'.expiresAt

lemma coverage_merge_congr (h : coverage r = coverage r') (t : GrantTombstone) :
    coverage (r.merge t) = coverage (r'.merge t) := by
  obtain ⟨hwhole, haccess, hretention⟩ := Coverage.mk.inj h
  simp only [coverage, TombstoneRow.merge, hwhole, haccess, hretention]

lemma covers_mono {cutoff cutoff' : Time} (hle : cutoff ≤ cutoff') (hpos : 0 ≤ cutoff)
    (h : TombstoneRow.covers cutoff iat = true) : TombstoneRow.covers cutoff' iat = true := by
  simp only [TombstoneRow.covers, Bool.and_eq_true, Bool.not_eq_true', decide_eq_false_iff_not,
    not_lt] at h ⊢
  have hpos' : 0 < cutoff := lt_of_le_of_ne hpos (Ne.symm h.1)
  exact ⟨(hpos'.trans_le hle).ne', h.2.trans hle⟩

structure Widens (r r' : TombstoneRow) : Prop where
  nonneg : 0 ≤ r.revokedAt ∧ 0 ≤ r.accessRevokedAt
  wholeGrant : r.revokedAt ≤ r'.revokedAt
  accessTokens : r.accessRevokedAt ≤ r'.accessRevokedAt

lemma widens_merge (h : 0 ≤ r.revokedAt ∧ 0 ≤ r.accessRevokedAt) (t : GrantTombstone) :
    Widens r (r.merge t) where
  nonneg := h
  wholeGrant := by
    simp only [TombstoneRow.merge]
    split_ifs
    · exact le_rfl
    · exact le_widen _ _
  accessTokens := by
    simp only [TombstoneRow.merge]
    split_ifs
    · exact le_widen _ _
    · exact le_rfl

lemma Widens.nonneg_right (h : Widens r r') : 0 ≤ r'.revokedAt ∧ 0 ≤ r'.accessRevokedAt :=
  ⟨h.nonneg.1.trans h.wholeGrant, h.nonneg.2.trans h.accessTokens⟩

lemma Widens.trans {a b c : TombstoneRow} (h : Widens a b) (h' : Widens b c) : Widens a c :=
  ⟨h.nonneg, h.wholeGrant.trans h'.wholeGrant, h.accessTokens.trans h'.accessTokens⟩

lemma Widens.refusesIssuance (h : Widens r r') {issuedAt : Time}
    (hr : r.refusesIssuance issuedAt = true) : r'.refusesIssuance issuedAt = true :=
  covers_mono h.wholeGrant h.nonneg.1 hr

lemma Widens.revokes (h : Widens r r') (hr : r.revokes iat = true) : r'.revokes iat = true := by
  simp only [TombstoneRow.revokes, Bool.or_eq_true] at hr ⊢
  exact hr.imp (covers_mono h.wholeGrant h.nonneg.1) (covers_mono h.accessTokens h.nonneg.2)

/-! ### Writes in any order -/

def SameCoverage (s s' : GrantRevocations) : Prop :=
  ∀ grantID, (s.tombstones.lookup grantID).map coverage =
    (s'.tombstones.lookup grantID).map coverage

lemma lookup_revokeGrant (s : GrantRevocations) (t : GrantTombstone) (grantID : String) :
    (revokeGrant s t).tombstones.lookup grantID =
      if t.grantID ≠ "" ∧ grantID = t.grantID then
        some (entombed (s.tombstones.lookup grantID) t)
      else s.tombstones.lookup grantID := by
  unfold revokeGrant
  by_cases hid : t.grantID = ""
  · rw [if_pos hid, if_neg fun h => h.1 hid]
  · rw [if_neg hid]
    rw [lookup_insert_ite]
    by_cases hg : grantID = t.grantID
    · rw [if_pos hg, if_pos ⟨hid, hg⟩, hg]
    · rw [if_neg hg, if_neg fun h => hg h.2]

lemma coverage_entombed (existing : Option TombstoneRow) (t : GrantTombstone) :
    coverage (entombed existing t) = coverage ((existing.getD ⟨0, 0, 0, ""⟩).merge t) := by
  cases existing <;> rfl

lemma sameCoverage_revokeGrant (h : SameCoverage s s') (t : GrantTombstone) :
    SameCoverage (revokeGrant s t) (revokeGrant s' t) := by
  intro grantID
  rw [lookup_revokeGrant, lookup_revokeGrant]
  by_cases hg : t.grantID ≠ "" ∧ grantID = t.grantID
  · rw [if_pos hg, if_pos hg, Option.map_some, Option.map_some, coverage_entombed,
      coverage_entombed]
    have hrow : coverage ((s.tombstones.lookup grantID).getD ⟨0, 0, 0, ""⟩) =
        coverage ((s'.tombstones.lookup grantID).getD ⟨0, 0, 0, ""⟩) := by
      have hmap := h grantID
      cases hl : s.tombstones.lookup grantID with
      | none =>
        rw [hl, Option.map_none, eq_comm, Option.map_eq_none_iff] at hmap
        rw [hmap]
      | some r =>
        rw [hl, Option.map_some, eq_comm, Option.map_eq_some_iff] at hmap
        obtain ⟨r', hr', hcov⟩ := hmap
        rw [hr']
        exact hcov.symm
    rw [coverage_merge_congr hrow]
  · rw [if_neg hg, if_neg hg]
    exact h grantID

lemma sameCoverage_comm (s : GrantRevocations) (t t' : GrantTombstone) :
    SameCoverage (revokeGrant (revokeGrant s t) t') (revokeGrant (revokeGrant s t') t) := by
  intro grantID
  simp only [lookup_revokeGrant]
  by_cases hg : t.grantID ≠ "" ∧ grantID = t.grantID
  · by_cases hg' : t'.grantID ≠ "" ∧ grantID = t'.grantID
    · rw [if_pos hg, if_pos hg', if_pos hg', if_pos hg]
      cases s.tombstones.lookup grantID with
      | none => exact congrArg some (coverage_merge_comm ⟨0, 0, 0, ""⟩ t t')
      | some r => exact congrArg some (coverage_merge_comm r t t')
    · rw [if_pos hg, if_neg hg', if_neg hg', if_pos hg]
  · by_cases hg' : t'.grantID ≠ "" ∧ grantID = t'.grantID
    · rw [if_pos hg', if_neg hg, if_neg hg, if_pos hg']
    · rw [if_neg hg', if_neg hg, if_neg hg, if_neg hg']

lemma SameCoverage.trans {a b c : GrantRevocations} (h : SameCoverage a b)
    (h' : SameCoverage b c) : SameCoverage a c := fun grantID => (h grantID).trans (h' grantID)

lemma sameCoverage_foldl (h : SameCoverage s s') (ts : List GrantTombstone) :
    SameCoverage (ts.foldl revokeGrant s) (ts.foldl revokeGrant s') := by
  induction ts generalizing s s' with
  | nil => exact h
  | cons t ts ih => exact ih (sameCoverage_revokeGrant h t)

/-- The order of the writes does not show in what is covered. -/
theorem sameCoverage_perm {ts ts' : List GrantTombstone} (h : ts.Perm ts')
    (s : GrantRevocations) : SameCoverage (ts.foldl revokeGrant s) (ts'.foldl revokeGrant s) := by
  induction h generalizing s with
  | nil => exact fun _ => rfl
  | cons t _ ih => exact ih (revokeGrant s t)
  | swap t t' ts => exact sameCoverage_foldl (sameCoverage_comm s t' t) ts
  | trans _ _ ih ih' => exact (ih s).trans (ih' s)

/-! ### The ledger -/

inductive Event where
  | revokeGrant (t : GrantTombstone)
  | revokeJTI (r : RevokedJTI)
  | gc (ρ : KeyOrder) (cutoff : Time)

/-- A revocation, as opposed to a sweep. -/
def Event.Writes : Event → Prop
  | .gc _ _ => False
  | _ => True

def apply (s : GrantRevocations) : Event → GrantRevocations
  | .revokeGrant t => revokeGrant s t
  | .revokeJTI r => revokeJTI s r
  | .gc ρ cutoff => (gc ρ s cutoff).1

/-- The store, and for every grant the tombstones merged into its row. -/
structure Ledger where
  store : GrantRevocations
  merged : String → List GrantTombstone

def Ledger.new : Ledger := ⟨newGrantRevocations, fun _ => []⟩

/-- A tombstone is entered under its grant, and a row that is swept is forgotten
with all that was merged into it. -/
def Ledger.apply (l : Ledger) (e : Event) : Ledger where
  store := GrantTombstones.apply l.store e
  merged grantID :=
    match e with
    | .revokeGrant t =>
      if t.grantID ≠ "" ∧ grantID = t.grantID then l.merged grantID ++ [t] else l.merged grantID
    | .revokeJTI _ => l.merged grantID
    | .gc _ _ =>
      if (GrantTombstones.apply l.store e).tombstones.lookup grantID = none then []
      else l.merged grantID

def ledger (history : List Event) : Ledger := history.foldl Ledger.apply .new

def rowOf (ts : List GrantTombstone) : Option TombstoneRow :=
  ts.foldl (fun row t => some (entombed row t)) none

def Ledger.Sound (l : Ledger) : Prop :=
  ∀ grantID, l.store.tombstones.lookup grantID = rowOf (l.merged grantID)

lemma rowOf_append (ts : List GrantTombstone) (t : GrantTombstone) :
    rowOf (ts ++ [t]) = some (entombed (rowOf ts) t) := by
  simp only [rowOf, List.foldl_append, List.foldl_cons, List.foldl_nil]

lemma lookup_gc (ρ : KeyOrder) (s : GrantRevocations) (cutoff : Time) (grantID : String) :
    (gc ρ s cutoff).1.tombstones.lookup grantID =
      (s.tombstones.lookup grantID).filter fun row => !staleTombstone cutoff row :=
  lookup_sweep (staleTombstone cutoff) ρ s.tombstones grantID

lemma tombstones_revokeJTI (s : GrantRevocations) (r : RevokedJTI) :
    (revokeJTI s r).tombstones = s.tombstones := by
  unfold revokeJTI
  split_ifs
  · rfl
  · split <;> rfl

lemma sound_apply (h : l.Sound) (e : Event) : (l.apply e).Sound := by
  intro grantID
  cases e with
  | revokeGrant t =>
    change (revokeGrant l.store t).tombstones.lookup grantID = _
    rw [lookup_revokeGrant]
    by_cases hg : t.grantID ≠ "" ∧ grantID = t.grantID
    · have hmerged : (l.apply (.revokeGrant t)).merged grantID = l.merged grantID ++ [t] :=
        if_pos hg
      rw [if_pos hg, hmerged, rowOf_append, h grantID]
    · have hmerged : (l.apply (.revokeGrant t)).merged grantID = l.merged grantID := if_neg hg
      rw [if_neg hg, hmerged, h grantID]
  | revokeJTI r =>
    change (revokeJTI l.store r).tombstones.lookup grantID = rowOf (l.merged grantID)
    rw [tombstones_revokeJTI, h grantID]
  | gc ρ cutoff =>
    change (gc ρ l.store cutoff).1.tombstones.lookup grantID = _
    by_cases hgone : (gc ρ l.store cutoff).1.tombstones.lookup grantID = none
    · have hmerged : (l.apply (.gc ρ cutoff)).merged grantID = [] := if_pos hgone
      rw [hgone, hmerged]
      rfl
    · have hmerged : (l.apply (.gc ρ cutoff)).merged grantID = l.merged grantID := if_neg hgone
      rw [hmerged, ← h grantID]
      -- a row that stays is the row it was
      rw [lookup_gc] at hgone ⊢
      cases hrow : l.store.tombstones.lookup grantID with
      | none => rfl
      | some row =>
        rw [hrow, Option.filter_some] at hgone
        rw [Option.filter_some]
        split_ifs at hgone ⊢ with hstale
        · rfl
        · exact absurd rfl hgone

lemma sound_ledger : (ledger history).Sound := by
  have hstep : ∀ (l : Ledger) (es : List Event), l.Sound → (es.foldl Ledger.apply l).Sound := by
    intro l es
    induction es generalizing l with
    | nil => exact id
    | cons e es ih => exact fun h => ih (l.apply e) (sound_apply h e)
  exact hstep .new history fun grantID => by simp [Ledger.new, newGrantRevocations, rowOf]

/-! ### What a row is made of -/

lemma nonneg_entombed {existing : Option TombstoneRow}
    (h : ∀ row, existing = some row → 0 ≤ row.revokedAt ∧ 0 ≤ row.accessRevokedAt)
    (t : GrantTombstone) :
    0 ≤ (entombed existing t).revokedAt ∧ 0 ≤ (entombed existing t).accessRevokedAt := by
  cases existing with
  | none => exact (widens_merge ⟨le_rfl, le_rfl⟩ t).nonneg_right
  | some row => exact (widens_merge (h row rfl) t).nonneg_right

/-- The retention of a row: no tombstone asked for a later one, and some
tombstone asked for it, unless none asked for any. -/
structure Retains (ts : List GrantTombstone) (retention : Time) : Prop where
  nonneg : 0 ≤ retention
  upper : ∀ t ∈ ts, t.expiresAt ≤ retention
  attained : retention = 0 ∨ ∃ t ∈ ts, t.expiresAt = retention

structure Made (ts : List GrantTombstone) (row : TombstoneRow) : Prop where
  nonneg : 0 ≤ row.revokedAt ∧ 0 ≤ row.accessRevokedAt
  retains : Retains ts row.expiresAt

lemma retains_widen {ts : List GrantTombstone} {retention : Time} (h : Retains ts retention)
    (t : GrantTombstone) : Retains (ts ++ [t]) (widen retention t.expiresAt) := by
  have hle : retention ≤ widen retention t.expiresAt := le_widen _ _
  refine ⟨h.nonneg.trans hle, fun t' ht' => ?_, ?_⟩
  · rcases List.mem_append.mp ht' with ht' | ht'
    · exact (h.upper t' ht').trans hle
    · rw [List.mem_singleton.mp ht', widen_eq_max]
      exact le_max_right _ _
  · unfold widen
    split_ifs with hlt
    · exact .inr ⟨t, by simp, rfl⟩
    · exact h.attained.imp_right fun ⟨t', ht', heq⟩ => ⟨t', List.mem_append_left _ ht', heq⟩

lemma made_rowOf (ts : List GrantTombstone) {row : TombstoneRow} (h : rowOf ts = some row) :
    Made ts row := by
  induction ts using List.reverseRecOn generalizing row with
  | nil => cases h
  | append_singleton ts t ih =>
    rw [rowOf_append, Option.some.injEq] at h
    subst h
    refine ⟨nonneg_entombed (fun r hr => (ih hr).nonneg) t, ?_⟩
    cases hrow : rowOf ts with
    | some r => exact retains_widen (ih hrow).retains t
    | none =>
      -- no row yet, so no tombstone yet
      have hnil : ts = [] := by
        cases ts using List.reverseRecOn with
        | nil => rfl
        | append_singleton ts t =>
          rw [rowOf_append] at hrow
          cases hrow
      subst hnil
      exact retains_widen ⟨le_rfl, fun _ h => (by cases h), .inl rfl⟩ t

/-! ### Coverage is never lost -/

structure Covers (s s' : GrantRevocations) : Prop where
  tombstones : ∀ grantID row, s.tombstones.lookup grantID = some row →
    ∃ row', s'.tombstones.lookup grantID = some row' ∧ Widens row row'
  denylist : ∀ jti, (s.denylist.lookup jti).isSome = true → (s'.denylist.lookup jti).isSome = true

lemma Covers.trans {a b c : GrantRevocations} (h : Covers a b) (h' : Covers b c) :
    Covers a c where
  tombstones grantID row hrow := by
    obtain ⟨row', hrow', hwide⟩ := h.tombstones grantID row hrow
    obtain ⟨row'', hrow'', hwide'⟩ := h'.tombstones grantID row' hrow'
    exact ⟨row'', hrow'', hwide.trans hwide'⟩
  denylist jti hjti := h'.denylist jti (h.denylist jti hjti)

lemma Covers.isRevoked (h : Covers s s') {grantID jti : String}
    (hr : isRevoked s grantID jti iat = true) : isRevoked s' grantID jti iat = true := by
  rw [isRevoked_iff] at hr ⊢
  rcases hr with ⟨hjti, hdeny⟩ | ⟨hg, row, hrow, hrevokes⟩
  · exact .inl ⟨hjti, h.denylist jti hdeny⟩
  · obtain ⟨row', hrow', hwide⟩ := h.tombstones grantID row hrow
    exact .inr ⟨hg, row', hrow', hwide.revokes hrevokes⟩

lemma Covers.isIssuanceRevoked (h : Covers s s') {grantID : String} {issuedAt : Time}
    (hr : isIssuanceRevoked s grantID issuedAt = true) :
    isIssuanceRevoked s' grantID issuedAt = true := by
  rw [isIssuanceRevoked_iff] at hr ⊢
  obtain ⟨hg, row, hrow, hrefuses⟩ := hr
  obtain ⟨row', hrow', hwide⟩ := h.tombstones grantID row hrow
  exact ⟨hg, row', hrow', hwide.refusesIssuance hrefuses⟩

lemma Ledger.Sound.covers_refl (h : l.Sound) : Covers l.store l.store where
  tombstones grantID row hrow :=
    ⟨row, hrow, (made_rowOf _ ((h grantID).symm.trans hrow)).nonneg, le_rfl, le_rfl⟩
  denylist _ := id

lemma covers_apply (h : l.Sound) {e : Event} (he : e.Writes) :
    Covers l.store (l.apply e).store := by
  cases e with
  | gc ρ cutoff => exact he.elim
  | revokeGrant t =>
    refine ⟨fun grantID row hrow => ?_, fun jti hjti => ?_⟩
    · have hnonneg := (made_rowOf _ ((h grantID).symm.trans hrow)).nonneg
      change ∃ row', (revokeGrant l.store t).tombstones.lookup grantID = some row' ∧ _
      rw [lookup_revokeGrant, hrow]
      split_ifs
      · exact ⟨row.merge t, rfl, widens_merge hnonneg t⟩
      · exact ⟨row, rfl, hnonneg, le_rfl, le_rfl⟩
    · change ((revokeGrant l.store t).denylist.lookup jti).isSome = true
      unfold revokeGrant
      split_ifs <;> exact hjti
  | revokeJTI r =>
    refine ⟨fun grantID row hrow => ?_, fun jti hjti => ?_⟩
    · change ∃ row', (revokeJTI l.store r).tombstones.lookup grantID = some row' ∧ _
      rw [tombstones_revokeJTI]
      exact h.covers_refl.tombstones grantID row hrow
    · change ((revokeJTI l.store r).denylist.lookup jti).isSome = true
      unfold revokeJTI
      split_ifs
      · exact hjti
      · split
        · exact hjti
        · rw [lookup_insert_ite]
          split_ifs
          · rfl
          · exact hjti

lemma ledger_append (e : Event) : ledger (history ++ [e]) = (ledger history).apply e := by
  simp only [ledger, List.foldl_append, List.foldl_cons, List.foldl_nil]

lemma covers_writes (writes : List Event) (hw : ∀ e ∈ writes, e.Writes) :
    Covers (ledger history).store (ledger (history ++ writes)).store := by
  induction writes using List.reverseRecOn with
  | nil =>
    rw [List.append_nil]
    exact (sound_ledger history).covers_refl
  | append_singleton writes e ih =>
    rw [← List.append_assoc, ledger_append]
    exact (ih fun e' he' => hw e' (List.mem_append_left _ he')).trans
      (covers_apply (sound_ledger _) (hw e (by simp)))

/-! ### What a sweep drops -/

def Drops (ρ : KeyOrder) (cutoff : Time) (s : GrantRevocations) (grantID : String) : Prop :=
  (s.tombstones.lookup grantID).isSome = true ∧
    (gc ρ s cutoff).1.tombstones.lookup grantID = none

/-- Every tombstone merged into a row may be collected at a cutoff. -/
def Collectable (cutoff : Time) (ts : List GrantTombstone) : Prop :=
  ∀ t ∈ ts, t.expiresAt ≠ 0 ∧ t.expiresAt < cutoff

/-- Some tombstone is to be kept for good while another one has an expiry. -/
def Mixed (ts : List GrantTombstone) : Prop :=
  (∃ t ∈ ts, t.expiresAt = 0) ∧ ∃ t ∈ ts, 0 < t.expiresAt

lemma drops_iff (h : l.Sound) (ρ : KeyOrder) (cutoff : Time) (grantID : String) :
    Drops ρ cutoff l.store grantID ↔
      ∃ row, rowOf (l.merged grantID) = some row ∧ row.expiresAt ≠ 0 ∧ row.expiresAt < cutoff := by
  unfold Drops
  rw [lookup_gc, h grantID]
  cases rowOf (l.merged grantID) with
  | none => simp
  | some row => simp [Option.filter_some, staleTombstone, isExpiredStrict_iff]

/-- A sweep drops a row only when all of it may be collected, unless the
tombstones of the row are mixed. -/
theorem drops_collectable_iff (h : l.Sound) (grantID : String) :
    (∀ ρ cutoff, Drops ρ cutoff l.store grantID → Collectable cutoff (l.merged grantID)) ↔
      ¬Mixed (l.merged grantID) := by
  constructor
  · rintro hdrops ⟨⟨t, ht, hzero⟩, t', ht', hpos⟩
    cases hrow : rowOf (l.merged grantID) with
    | none =>
      cases hts : l.merged grantID using List.reverseRecOn with
      | nil => rw [hts] at ht; cases ht
      | append_singleton ts t =>
        rw [hts, rowOf_append] at hrow
        cases hrow
    | some row =>
      have hmade := (made_rowOf _ hrow).retains
      have hpos' : 0 < row.expiresAt := hpos.trans_le (hmade.upper t' ht')
      have hgone := (drops_iff h ascending (row.expiresAt + 1) grantID).mpr
        ⟨row, hrow, hpos'.ne', Int.lt_succ _⟩
      exact (hdrops _ _ hgone t ht).1 hzero
  · intro hmixed ρ cutoff hgone t ht
    obtain ⟨row, hrow, hne, hlt⟩ := (drops_iff h ρ cutoff grantID).mp hgone
    have hmade := (made_rowOf _ hrow).retains
    obtain ⟨t', ht', heq⟩ := hmade.attained.resolve_left hne
    refine ⟨fun hzero => hmixed ⟨⟨t, ht, hzero⟩, t', ht', ?_⟩, (hmade.upper t ht).trans_lt hlt⟩
    rw [heq]
    exact lt_of_le_of_ne hmade.nonneg (Ne.symm hne)

/-- Tombstones written in any order cover the same and are retained as long.
What is revoked, or refused issuance, after some writes and sweeps stays so
after any further writes. And a sweep drops the row of a grant only when every
tombstone merged into it has an expiry before the cutoff, if and only if there
is no tombstone without an expiry among tombstones with one. -/
theorem tombstones_converge_iff (history : List Event) (grantID : String) :
    (∀ (s : GrantRevocations) (ts ts' : List GrantTombstone), ts.Perm ts' →
      ((ts.foldl revokeGrant s).tombstones.lookup grantID).map coverage =
        ((ts'.foldl revokeGrant s).tombstones.lookup grantID).map coverage) ∧
    (∀ writes : List Event, (∀ e ∈ writes, e.Writes) → ∀ jti iat,
      (isRevoked (ledger history).store grantID jti iat = true →
        isRevoked (ledger (history ++ writes)).store grantID jti iat = true) ∧
      (isIssuanceRevoked (ledger history).store grantID iat = true →
        isIssuanceRevoked (ledger (history ++ writes)).store grantID iat = true)) ∧
    ((∀ ρ cutoff, Drops ρ cutoff (ledger history).store grantID →
        Collectable cutoff ((ledger history).merged grantID)) ↔
      ¬Mixed ((ledger history).merged grantID)) := by
  refine ⟨fun s ts ts' h => sameCoverage_perm h s grantID, fun writes hw jti iat => ?_,
    drops_collectable_iff (sound_ledger history) grantID⟩
  have hcovers := covers_writes history writes hw
  exact ⟨hcovers.isRevoked, hcovers.isIssuanceRevoked⟩

/-- A tombstone without an expiry, and a later one with one. -/
def keptThenDated : List Event :=
  [.revokeGrant ⟨"g", 5, 0, "logout", false⟩, .revokeGrant ⟨"g", 6, 10, "", false⟩]

/-- The sweep drops the row, though the first tombstone is never to be collected,
and the tokens it revoked verify again. -/
theorem dated_tombstone_ends_retention :
    Drops ascending 20 (ledger keptThenDated).store "g" ∧
      ¬Collectable 20 ((ledger keptThenDated).merged "g") ∧
      isRevoked (ledger keptThenDated).store "g" "" 5 = true ∧
      isRevoked (ledger (keptThenDated ++ [.gc ascending 20])).store
        "g" "" 5 = false := by
  refine ⟨⟨by decide, by decide⟩, fun h => ?_, by decide, by decide⟩
  have hmem : (⟨"g", 5, 0, "logout", false⟩ : GrantTombstone) ∈
      (ledger keptThenDated).merged "g" := by
    decide
  exact (h _ hmem).1 rfl

end OidcProvider.GrantTombstones
