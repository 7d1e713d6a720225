import OidcProvider.RefreshTokenStore

/-!
# Rotation chains in the refresh-token store

The parent index makes the rows a forest. `Lineage` is what rotation keeps true
of it: a row with a parent was stored under a consumed row of the same grant,
and below a revoked row everything is revoked. `DeadChain` is what a revocation
leaves behind for good: the rows above a key are consumed, the key and all rows
below it are revoked, and no call of the store undoes that or adds a row below.
-/
namespace OidcProvider.RotationLineage
open FiniteMaps SecondaryIndexes StoreRecords RefreshTokenStore

/-- Every row below a root was revoked. -/
def ChainMarked (s : RefreshStore) (root : String) : Prop :=
  ∀ key, Descends s.byParent root key → ∃ row, s.m.lookup key = some row ∧
    row.revoked = true ∧ row.consumedAt.isSome = true

section
variable {D : KeyDigest} {row row' : RefreshToken} {s s' : RefreshStore} {a b : String}

lemma Descends.congr {i i' : Index} (h : ∀ value, i.ids value = i'.ids value)
    (hd : Descends i a b) : Descends i' a b :=
  Relation.ReflTransGen.mono (fun p c (hc : c ∈ i.ids p) => h p ▸ hc) _ _ hd

/-- A new edge adds nothing below a root unless its parent was below it. -/
theorem descends_add {i : Index} {value id : String} (h : Descends (i.add value id) a b) :
    Descends i a b ∨ (value ≠ "" ∧ Descends i a value) := by
  induction h with
  | refl => exact .inl .refl
  | tail _ hstep ih =>
    rcases ih with ih | ih
    · rw [Index.mem_ids_add] at hstep
      rcases hstep with hold | ⟨hne, hvalue, _⟩
      · exact .inl (ih.tail hold)
      · exact .inr ⟨hne, hvalue ▸ ih⟩
    · exact .inr ih

lemma chainMarked_insert {tok : RefreshToken} (hadm : Admits D s tok) {root : String}
    (h : ChainMarked s root) :
    ChainMarked (withRow D s tok) root := by
  intro key hkey
  have hidx := index_insertRefresh (D := D) .parent s (D.hashKey tok.id) (storedRow D tok)
  simp only [Column.index] at hidx
  rw [hidx] at hkey
  have hold : Descends s.byParent root key := by
    refine (descends_add hkey).resolve_right ?_
    rintro ⟨hne, hparent⟩
    have hattr : Column.parent.attr D (storedRow D tok) = (tok.parentID.map D.hashKey).getD "" :=
      rfl
    rw [hattr] at hne hparent
    cases hp : tok.parentID with
    | none => simp [hp] at hne
    | some p =>
      obtain ⟨row, hrow, hrev, _⟩ := h _ hparent
      rw [hp] at hrow
      have := hadm.alive p hp row hrow
      rw [hrev] at this
      cases this
  obtain ⟨row, hrow, hrev, hcons⟩ := h key hold
  obtain ⟨row', hrow', hev⟩ := evolves_insert hadm.fresh (storedRow D tok) key row hrow
  exact ⟨row', hrow', hev.revoked hrev, hev.isConsumed hcons⟩

lemma chainMarked_stamps (hst : StampsRows s s') {root : String} (h : ChainMarked s root) :
    ChainMarked s' root := by
  intro key hkey
  have hidx := hst.index .parent
  simp only [Column.index] at hidx
  rw [hidx] at hkey
  obtain ⟨row, hrow, hrev, hcons⟩ := h key hkey
  obtain ⟨row', hrow', hev⟩ := hst.evolves key row hrow
  exact ⟨row', hrow', hev.revoked hrev, hev.isConsumed hcons⟩

lemma chainMarked_revokeChainLocked (h : WellFormed D s) (ρ : KeyOrder) (now : Time)
    {rootKey : String} (hroot : (s.m.lookup rootKey).isSome = true) :
    ChainMarked (revokeChainLocked ρ now s rootKey) rootKey := by
  intro key hkey
  obtain ⟨row, hrow⟩ : ∃ row, s.m.lookup key = some row := by
    rcases Relation.ReflTransGen.cases_tail hkey with rfl | ⟨p, _, hp⟩
    · exact Option.isSome_iff_exists.mp hroot
    · obtain ⟨_, row, hrow, _⟩ := (h.listed .parent key p).mp hp
      exact ⟨row, hrow⟩
  refine ⟨markRevoked now row, ?_, rfl, consumedAt_markRevoked now row⟩
  rw [(lookup_revokeChainLocked ρ now s rootKey key).1 hkey, hrow, Option.map_some]

/-! ### Links -/

lemma mem_byParent_iff (h : WellFormed D s) (key parentKey : String) :
    key ∈ s.byParent.ids parentKey ↔
      ∃ row p, s.m.lookup key = some row ∧ row.parentID = some p ∧ D.hashKey p = parentKey := by
  refine (h.listed .parent key parentKey).trans ?_
  constructor
  · rintro ⟨hne, row, hrow, hattr⟩
    cases hp : row.parentID with
    | none =>
      simp only [Column.attr, hp, Option.map_none, Option.getD_none] at hattr
      exact absurd hattr.symm hne
    | some p =>
      simp only [Column.attr, hp, Option.map_some, Option.getD_some] at hattr
      exact ⟨row, p, hrow, hp, hattr⟩
  · rintro ⟨row, p, hrow, hp, rfl⟩
    exact ⟨D.hashKey_ne_empty p, row, hrow, by simp [Column.attr, hp]⟩

section
variable (h : RowEvolves row row')
include h

lemma RowEvolves.parentID : row'.parentID = row.parentID := by
  have hfield := congrArg RefreshToken.parentID h.frozen
  exact hfield

lemma RowEvolves.grantID : row'.grantID = row.grantID := by
  have hfield := congrArg RefreshToken.grantID h.frozen
  exact hfield

lemma RowEvolves.expiresAt : row'.expiresAt = row.expiresAt := by
  have hfield := congrArg RefreshToken.expiresAt h.frozen
  exact hfield

lemma RowEvolves.origin : row'.origin = row.origin := by
  have hfield := congrArg RefreshToken.origin h.frozen
  exact hfield

end

lemma Descends.mono (h : WellFormed D s) (h' : WellFormed D s') (hev : Evolves s s')
    (hd : Descends s.byParent a b) : Descends s'.byParent a b := by
  refine Relation.ReflTransGen.mono (fun parentKey key hkey => ?_) _ _ hd
  obtain ⟨row, p, hrow, hp, hpk⟩ := (mem_byParent_iff h key parentKey).mp hkey
  obtain ⟨row', hrow', hev'⟩ := hev key row hrow
  exact (mem_byParent_iff h' key parentKey).mpr
    ⟨row', p, hrow', (RowEvolves.parentID hev').trans hp, hpk⟩

lemma StampsRows.pull (h : StampsRows s s') {key : String} (hrow' : s'.m.lookup key = some row') :
    ∃ row, s.m.lookup key = some row ∧ RowEvolves row row' := by
  rcases h.rows key with ⟨row, row₁, hrow, hrow₁, hev⟩ | ⟨_, hnone⟩
  · rw [hrow', Option.some.injEq] at hrow₁
    exact ⟨row, hrow, hrow₁ ▸ hev⟩
  · rw [hnone] at hrow'
    cases hrow'

end

/-! ### What rotation keeps true -/

/-- What a successor takes over from its parent, read off the parts of the rows
that do not change. It includes the grant. -/
structure Heritage where
  passes : RefreshToken → RefreshToken → Prop
  passes_frozen : ∀ parent row, passes (frozen parent) (frozen row) ↔ passes parent row
  grant : ∀ {parent row}, passes parent row → parent.grantID = row.grantID

lemma Heritage.evolves (H : Heritage) {parent parent' row row' : RefreshToken}
    (hparent : RowEvolves parent parent') (hrow : RowEvolves row row')
    (h : H.passes parent row) : H.passes parent' row' := by
  rw [← H.passes_frozen, hparent.frozen, hrow.frozen, H.passes_frozen]
  exact h

def Heritage.ofGrant : Heritage where
  passes parent row := parent.grantID = row.grantID
  passes_frozen _ _ := Iff.rfl
  grant h := h

structure Lineage (D : KeyDigest) (H : Heritage) (s : RefreshStore) : Prop where
  wellFormed : WellFormed D s
  named : ∀ key row, s.m.lookup key = some row → row.parentID ≠ some ""
  parent : ∀ key row p, s.m.lookup key = some row → row.parentID = some p →
    ∃ parent, s.m.lookup (D.hashKey p) = some parent ∧ parent.consumedAt.isSome = true ∧
      H.passes parent row ∧ (parent.revoked = true → row.revoked = true)
  consumed : ∀ key row, s.m.lookup key = some row → row.revoked = true →
    row.consumedAt.isSome = true

/-- What rotation promises of a token it saves: it is not revoked, and a parent
it names is stored, was consumed and passes on its heritage. -/
structure Succeeds (D : KeyDigest) (H : Heritage) (s : RefreshStore) (token : RefreshToken) :
    Prop where
  unrevoked : token.revoked = false
  named : token.parentID ≠ some ""
  parent : ∀ p, token.parentID = some p → ∃ parent, s.m.lookup (D.hashKey p) = some parent ∧
    parent.consumedAt.isSome = true ∧ H.passes parent (storedRow D token)

variable {row : RefreshToken}

section
variable {D : KeyDigest} {H : Heritage} {s s' : RefreshStore} {token : RefreshToken}

lemma lineage_new : Lineage D H newRefreshStore where
  wellFormed := wellFormed_new
  named key row h := by simp [newRefreshStore] at h
  parent key row p h := by simp [newRefreshStore] at h
  consumed key row h := by simp [newRefreshStore] at h

section
variable (h : Lineage D H s)
include h

variable (ρ : KeyOrder) (now : Time)

lemma lineage_insert (hadm : Admits D s token) (hsucc : Succeeds D H s token) :
    Lineage D H (withRow D s token) := by
  -- the new key is free, so no stored row has it as its parent
  have hkept : ∀ key row, s.m.lookup key = some row →
      (withRow D s token).m.lookup key = some row := by
    intro key row hrow
    rw [m_insertRefresh, lookup_insert_ite, if_neg, hrow]
    rintro rfl
    rw [hadm.fresh] at hrow
    cases hrow
  constructor
  case wellFormed => exact wellFormed_insert h.wellFormed hadm.fresh rfl
  case named =>
    intro key row hrow
    rw [m_insertRefresh, lookup_insert_ite] at hrow
    split_ifs at hrow with hk
    · cases hrow
      exact hsucc.named
    · exact h.named key row hrow
  case parent =>
    intro key row p hrow hp
    rw [m_insertRefresh, lookup_insert_ite] at hrow
    split_ifs at hrow with hk
    · cases hrow
      obtain ⟨parent, hparent, hcons, hpasses⟩ := hsucc.parent p hp
      have halive := hadm.alive p hp parent hparent
      exact ⟨parent, hkept _ parent hparent, hcons, hpasses, fun hrev => by simp [halive] at hrev⟩
    · obtain ⟨parent, hparent, hcons, hpasses, hdown⟩ := h.parent key row p hrow hp
      exact ⟨parent, hkept _ parent hparent, hcons, hpasses, hdown⟩
  case consumed =>
    intro key row hrow hrev
    rw [m_insertRefresh, lookup_insert_ite] at hrow
    split_ifs at hrow with hk
    · cases hrow
      have hrev : token.revoked = true := hrev
      rw [hsucc.unrevoked] at hrev
      cases hrev
    · exact h.consumed key row hrow hrev

lemma lineage_save (hsucc : Succeeds D H s token) : Lineage D H (save D s (some token)).1 := by
  rcases save_cases (D := D) s (some token) with ⟨e, heq⟩ | ⟨tok, htok, hadm, heq⟩
  · rw [heq]
    exact h
  · cases htok
    rw [heq]
    exact lineage_insert h hadm hsucc

/-- Stamping rows keeps the lineage when revoked rows stay consumed and
revocation stays closed downwards. -/
theorem lineage_stamps (hst : StampsRows s s')
    (hconsumed : ∀ key row, s'.m.lookup key = some row → row.revoked = true →
      row.consumedAt.isSome = true)
    (hdown : ∀ key row p parent, s'.m.lookup key = some row → row.parentID = some p →
      s'.m.lookup (D.hashKey p) = some parent → parent.revoked = true → row.revoked = true) :
    Lineage D H s' where
  wellFormed := hst.wellFormed h.wellFormed
  consumed := hconsumed
  named key row' hrow' := by
    obtain ⟨row, hrow, hev⟩ := StampsRows.pull hst hrow'
    rw [RowEvolves.parentID hev]
    exact h.named key row hrow
  parent key row' p hrow' hp := by
    obtain ⟨row, hrow, hev⟩ := StampsRows.pull hst hrow'
    obtain ⟨parent, hparent, hcons, hpasses, _⟩ :=
      h.parent key row p hrow ((RowEvolves.parentID hev).symm.trans hp)
    obtain ⟨parent', hparent', hevp⟩ := hst.evolves _ parent hparent
    exact ⟨parent', hparent', hevp.isConsumed hcons, H.evolves hevp hev hpasses,
      hdown key row' p parent' hrow' hp hparent'⟩

/-- The sealed response of a retryable rotation touches no row. -/
theorem lineage_saveRotationWithRetry (hsucc : Succeeds D H s token) (contents : List UInt8) :
    Lineage D H (saveRotationWithRetry D ρ now s (some token) contents).1 := by
  rcases saveRotationWithRetry_cases (D := D) ρ now s (some token) contents with
    ⟨e, heq⟩ | ⟨tok, key, rec, htok, hadm, heq⟩
  · rw [heq]
    exact h
  · cases htok
    rw [heq]
    have hsaved := lineage_insert h hadm hsucc
    have hrows : ∀ k, (putRetry (maybeGCRetries ρ now
        (withRow D s token)) key rec).m.lookup k =
          (withRow D s token).m.lookup k := by
      intro k
      rw [m_putRetry, m_maybeGCRetries]
    refine lineage_stamps hsaved (stamps_putRetry ρ now _ key rec) ?_ ?_
    · intro k row hrow
      rw [hrows] at hrow
      exact hsaved.consumed k row hrow
    · intro k row p parent hrow hp hparent
      rw [hrows] at hrow hparent
      obtain ⟨parent', hparent', _, _, hdown⟩ := hsaved.parent k row p hrow hp
      rw [hparent, Option.some.injEq] at hparent'
      exact hparent' ▸ hdown

lemma lineage_consume (id : String) : Lineage D H (consume D now s id).1 := by
  have hst := stamps_consume (D := D) now s id
  -- a consumption revokes nothing
  have hback : ∀ key row', (consume D now s id).1.m.lookup key = some row' →
      row'.revoked = true → ∃ row, s.m.lookup key = some row ∧ row.revoked = true ∧
        RowEvolves row row' := by
    intro key row' hrow' hrev
    obtain ⟨row, hrow, hev⟩ := StampsRows.pull hst hrow'
    refine ⟨row, hrow, ?_, hev⟩
    rcases consume_cases (D := D) now s id with
      ⟨e, heq⟩ | ⟨old, hold, _, _, ⟨t, _, heq⟩ | ⟨_, heq⟩⟩
    · rw [heq, hrow] at hrow'
      cases hrow'
      exact hrev
    · rw [heq, hrow] at hrow'
      cases hrow'
      exact hrev
    · rw [heq, lookup_insert_ite] at hrow'
      split_ifs at hrow' with hk
      · subst hk
        rw [hold] at hrow
        cases hrow
        cases hrow'
        exact hrev
      · rw [hrow] at hrow'
        cases hrow'
        exact hrev
  refine lineage_stamps h hst (fun key row' hrow' hrev => ?_)
    fun key row' p parent' hrow' hp hparent' hrev => ?_
  · obtain ⟨row, hrow, hrev, hev⟩ := hback key row' hrow' hrev
    exact hev.isConsumed (h.consumed key row hrow hrev)
  · obtain ⟨parent, hparent, hrevp, _⟩ := hback _ parent' hparent' hrev
    obtain ⟨row, hrow, hev⟩ := StampsRows.pull hst hrow'
    obtain ⟨parent₀, hparent₀, _, _, hdown⟩ :=
      h.parent key row p hrow ((RowEvolves.parentID hev).symm.trans hp)
    rw [hparent, Option.some.injEq] at hparent₀
    exact hev.revoked (hdown (hparent₀ ▸ hrevp))

lemma lineage_mark (hst : StampsRows s s') {now : Time} (K : String → Prop)
    (hin : ∀ key, K key → s'.m.lookup key = (s.m.lookup key).map (markRevoked now))
    (hout : ∀ key, ¬K key → s'.m.lookup key = s.m.lookup key)
    (hclosed : ∀ key row p, s.m.lookup key = some row → row.parentID = some p →
      K (D.hashKey p) → K key) : Lineage D H s' := by
  have hmarked : ∀ key row', K key → s'.m.lookup key = some row' →
      row'.revoked = true ∧ row'.consumedAt.isSome = true := by
    intro key row' hK hrow'
    rw [hin key hK, Option.map_eq_some_iff] at hrow'
    obtain ⟨row, _, rfl⟩ := hrow'
    exact ⟨rfl, consumedAt_markRevoked now row⟩
  refine lineage_stamps h hst (fun key row' hrow' hrev => ?_)
    fun key row' p parent' hrow' hp hparent' hrev => ?_
  · by_cases hK : K key
    · exact (hmarked key row' hK hrow').2
    · rw [hout key hK] at hrow'
      exact h.consumed key row' hrow' hrev
  · obtain ⟨row, hrow, hev⟩ := StampsRows.pull hst hrow'
    have hp₀ := (RowEvolves.parentID hev).symm.trans hp
    by_cases hK : K key
    · exact (hmarked key row' hK hrow').1
    · have hKp : ¬K (D.hashKey p) := fun hKp => hK (hclosed key row p hrow hp₀ hKp)
      rw [hout _ hKp] at hparent'
      obtain ⟨parent, hparent, _, _, hdown⟩ := h.parent key row p hrow hp₀
      rw [hparent', Option.some.injEq] at hparent
      exact hev.revoked (hdown (hparent ▸ hrev))

lemma lineage_revokeChain (rootID : String) : Lineage D H (revokeChain D ρ now s rootID).1 := by
  have hst := stamps_revokeChain (D := D) ρ now s rootID
  simp only [revokeChain] at hst ⊢
  cases hroot : s.m.lookup (D.hashKey rootID) with
  | none => exact h
  | some _ =>
    rw [hroot] at hst
    refine lineage_mark h hst (fun key => Descends s.byParent (D.hashKey rootID) key)
      (fun key => (lookup_revokeChainLocked ρ now s _ key).1)
      (fun key => (lookup_revokeChainLocked ρ now s _ key).2) ?_
    intro key row p hrow hp hK
    exact hK.tail ((mem_byParent_iff h.wellFormed key _).mpr ⟨row, p, hrow, hp, rfl⟩)

lemma lineage_revokeByGrant (grantID : String) : Lineage D H (revokeByGrant ρ now s grantID) := by
  have hst := stamps_revokeByGrant ρ now s grantID
  unfold revokeByGrant at hst ⊢
  split_ifs at hst ⊢ with hg
  · exact h
  · refine lineage_mark h hst (fun key => key ∈ s.byGrant.ids grantID)
      (fun key hK => by rw [lookup_revokeByIndex, if_pos hK])
      (fun key hK => by rw [lookup_revokeByIndex, if_neg hK]) ?_
    -- a row and its parent belong to the same grant
    intro key row p hrow hp hK
    obtain ⟨parent, hparent, _, hpasses, _⟩ := h.parent key row p hrow hp
    obtain ⟨_, parent₀, hparent₀, hattr⟩ := (h.wellFormed.listed .grant _ grantID).mp hK
    rw [hparent, Option.some.injEq] at hparent₀
    subst hparent₀
    exact (h.wellFormed.listed .grant key grantID).mpr ⟨hg, row, hrow,
      (H.grant hpasses).symm.trans hattr⟩

end

/-! ### Dead chains -/

lemma Lineage.chainMarked (h : Lineage D H s) {key : String}
    (hrow : s.m.lookup key = some row) (hrev : row.revoked = true) : ChainMarked s key := by
  intro k hk
  induction hk with
  | refl => exact ⟨row, hrow, hrev, h.consumed key row hrow hrev⟩
  | tail _ hstep ih =>
    obtain ⟨parent, hparent, hrevp, _⟩ := ih
    obtain ⟨child, p, hchild, hp, hpk⟩ := (mem_byParent_iff h.wellFormed _ _).mp hstep
    obtain ⟨parent₀, hparent₀, _, _, hdown⟩ := h.parent _ child p hchild hp
    rw [hpk, hparent, Option.some.injEq] at hparent₀
    have hrevc := hdown (hparent₀ ▸ hrevp)
    exact ⟨child, hchild, hrevc, h.consumed _ child hchild hrevc⟩

end

/-- Nothing of the chain through a key can be spent any more. -/
structure DeadChain (s : RefreshStore) (key : String) : Prop where
  below : ChainMarked s key
  above : ∀ k, Descends s.byParent k key → ∃ row, s.m.lookup k = some row ∧
    row.consumedAt.isSome = true

/-- The keys of the rotation chain through a key: the rows above it, the row
itself and the rows below it. -/
def InChain (s : RefreshStore) (key k : String) : Prop :=
  Descends s.byParent k key ∨ Descends s.byParent key k

section
variable {D : KeyDigest} {H : Heritage} {s s' : RefreshStore} {key : String}

lemma Lineage.deadChain (h : Lineage D H s)
    (hrow : s.m.lookup key = some row) (hrev : row.revoked = true) : DeadChain s key where
  below := h.chainMarked hrow hrev
  above k hk := by
    induction hk using Relation.ReflTransGen.head_induction_on with
    | refl => exact ⟨row, hrow, h.consumed key row hrow hrev⟩
    | head hstep _ _ =>
      obtain ⟨child, p, hchild, hp, hpk⟩ := (mem_byParent_iff h.wellFormed _ _).mp hstep
      obtain ⟨parent, hparent, hcons, _⟩ := h.parent _ child p hchild hp
      exact ⟨parent, hpk ▸ hparent, hcons⟩

lemma deadChain_stamps (hst : StampsRows s s') (h : DeadChain s key) : DeadChain s' key where
  below := chainMarked_stamps hst h.below
  above k hk := by
    have hidx := hst.index .parent
    simp only [Column.index] at hidx
    rw [hidx] at hk
    obtain ⟨row, hrow, hcons⟩ := h.above k hk
    obtain ⟨row', hrow', hev⟩ := hst.evolves k row hrow
    exact ⟨row', hrow', hev.isConsumed hcons⟩

lemma deadChain_insert {token : RefreshToken} (hadm : Admits D s token) (h : DeadChain s key) :
    DeadChain (withRow D s token) key where
  below := chainMarked_insert hadm h.below
  above k hk := by
    have hidx := index_insertRefresh (D := D) .parent s (D.hashKey token.id) (storedRow D token)
    simp only [Column.index] at hidx
    rw [hidx] at hk
    -- the new key is free, so it is not on the way up from a stored key
    have hold : Descends s.byParent k key := by
      induction hk using Relation.ReflTransGen.head_induction_on with
      | refl => exact .refl
      | head hstep _ ih =>
        rcases (Index.mem_ids_add _ _ _ _ _).mp hstep with hstep | ⟨_, _, hid⟩
        · exact .head hstep ih
        · obtain ⟨row, hrow, _⟩ := h.above _ ih
          rw [hid, hadm.fresh] at hrow
          cases hrow
    obtain ⟨row, hrow, hcons⟩ := h.above k hold
    obtain ⟨row', hrow', hev⟩ := evolves_insert hadm.fresh (storedRow D token) k row hrow
    exact ⟨row', hrow', hev.isConsumed hcons⟩

lemma deadChain_save (h : DeadChain s key) (token : Option RefreshToken) :
    DeadChain (save D s token).1 key := by
  rcases save_cases (D := D) s token with ⟨e, heq⟩ | ⟨tok, _, hadm, heq⟩
  · rw [heq]
    exact h
  · rw [heq]
    exact deadChain_insert hadm h

lemma consume_of_consumed {id : String}
    (hrow : s.m.lookup (D.hashKey id) = some row) (hcons : row.consumedAt.isSome = true)
    (now : Time) (rec : RefreshToken) : (consume D now s id).2 ≠ .consumed rec := by
  rcases consume_cases (D := D) now s id with
    ⟨e, heq⟩ | ⟨old, hold, _, _, ⟨t, _, heq⟩ | ⟨hnone, _⟩⟩
  · simp [heq]
  · simp [heq]
  · rw [hrow, Option.some.injEq] at hold
    subst hold
    simp [hnone] at hcons

lemma DeadChain.not_consumed (h : DeadChain s key) {id : String}
    (hin : InChain s key (D.hashKey id)) (now : Time) (rec : RefreshToken) :
    (consume D now s id).2 ≠ .consumed rec := by
  rcases hin with hup | hdown
  · obtain ⟨row, hrow, hcons⟩ := h.above _ hup
    exact consume_of_consumed hrow hcons now rec
  · obtain ⟨row, hrow, _, hcons⟩ := h.below _ hdown
    exact consume_of_consumed hrow hcons now rec

end

end OidcProvider.RotationLineage
