import OidcProvider.GrantTombstones
import OidcProvider.RowMarking
import OidcProvider.Teardown

/-!
# What calls do to credentials

The three credential stores are described alike: no call loses a row, and a row
becomes revoked through a sweep of its grant, through its own identifier, or,
for a refresh token with a parent, with the chain above it. Next to that, a
grant that is closed to issuance stays closed. These are the moves all parties
make, and `ledger` is the discipline of a system that logs its calls.
-/
namespace OidcProvider.CredentialLedger
open FiniteMaps SecondaryIndexes StoreRecords TokenRows AccessTokenStores GrantRevocationStore
open RefreshTokenStore GrantTombstones ResumptionPrograms RowMarking Teardown
open AccessTokens (direct_eq op register)

section
variable (D : KeyDigest)

/-! ### Causes of revocation -/

def opaqueMust : Call → String → String → Prop
  | .revokeOpaqueByGrant grantID, _, g => grantID = g ∧ g ≠ ""
  | .revokeOpaqueByID id, key, _ => id ≠ "" ∧ key = D.hashKey id
  | _, _, _ => False

def opaqueMay : Call → String → String → Prop
  | .revokeOpaqueByChain grantID _, _, g => grantID = g
  | o, key, g => opaqueMust D o key g

def registryCause : Call → String → String → Prop
  | .revokeByGrant grantID, _, g => grantID = g ∧ g ≠ ""
  | .revokeByJTI jti, key, _ => jti ≠ "" ∧ key = jti
  | _, _, _ => False

/-- Where a refresh row belongs: to its grant, and below its parent. -/
structure Place where
  grantID : String
  parentID : Option String

def place (row : RefreshToken) : Place := ⟨row.grantID, row.parentID⟩

def refreshMust : Call → String → Place → Prop
  | .revokeRefreshByGrant grantID, _, g => grantID = g.grantID ∧ g.grantID ≠ ""
  | .revokeRefreshChain rootID, key, _ => key = D.hashKey rootID
  | _, _, _ => False

/-- A chain revocation reaches below its root only rows that have a parent. -/
def refreshMay : Call → String → Place → Prop
  | .revokeRefreshChain rootID, key, g => key = D.hashKey rootID ∨ g.parentID ≠ none
  | o, key, g => refreshMust D o key g

/-- What holds of the substores between any two calls. -/
structure Coherent (w : Substores) : Prop where
  refresh : WellFormed D w.refreshTokens
  opaqueTokens : Exact opaqueTokenRowOps.grantID w.opaqueAccessTokens.m
    w.opaqueAccessTokens.idx.byGrant
  registry : Exact accessTokenRowOps.grantID w.accessTokens.m w.accessTokens.idx.byGrant
  tombstones : ∀ grantID row, w.grantRevocations.tombstones.lookup grantID = some row →
    0 ≤ row.revokedAt ∧ 0 ≤ row.accessRevokedAt

structure Advances (log : List Call) (w w' : Substores) : Prop where
  opaqueTokens : Marks opaqueTokenRowOps.grantID opaqueTokenRowOps.revoked
    (Logged (opaqueMust D) log) (Logged (opaqueMay D) log)
    w.opaqueAccessTokens.m.lookup w'.opaqueAccessTokens.m.lookup
  registry : Marks accessTokenRowOps.grantID accessTokenRowOps.revoked
    (Logged registryCause log) (Logged registryCause log)
    w.accessTokens.m.lookup w'.accessTokens.m.lookup
  refresh : Marks place RefreshToken.revoked (Logged (refreshMust D) log)
    (Logged (refreshMay D) log) w.refreshTokens.m.lookup w'.refreshTokens.m.lookup
  closure : ∀ grantID issuedAt,
    isIssuanceRevoked w.grantRevocations grantID issuedAt = true →
      isIssuanceRevoked w'.grantRevocations grantID issuedAt = true

end

section
variable {D : KeyDigest} {w : Substores} {s : RefreshStore} {row token : RefreshToken}
  {key : String} {V : Type} {ops : TokenRowOps V}
variable {must may : String → String → Prop}

lemma Advances.refl (w : Substores) : Advances D [] w w where
  opaqueTokens := .of_kept (fun _ _ h => by simp [Logged] at h) fun _ _ h => h
  registry := .of_kept (fun _ _ h => by simp [Logged] at h) fun _ _ h => h
  refresh := .of_kept (fun _ _ h => by simp [Logged] at h) fun _ _ h => h
  closure _ _ h := h

lemma Advances.append {log log' : List Call} {w' w'' : Substores} (h : Advances D log w w')
    (h' : Advances D log' w' w'') : Advances D (log ++ log') w w'' where
  opaqueTokens := h.opaqueTokens.append h'.opaqueTokens
  registry := h.registry.append h'.registry
  refresh := h.refresh.append h'.refresh
  closure grantID issuedAt hc := h'.closure grantID issuedAt (h.closure grantID issuedAt hc)

/-! ### One call -/

lemma lookup_insertRow_kept {s : TokenStore V} {key' : String} {row row' : V}
    (h : s.m.lookup key' = some row') : (insertRow ops s key row).1.m.lookup key' = some row' := by
  unfold insertRow
  cases hfree : s.m.lookup key with
  | some _ => exact h
  | none =>
    rw [lookup_insert_ite, if_neg, h]
    rintro rfl
    rw [hfree] at h
    cases h

/-- The rows an operation is sure to mark: its own, or all of a grant. -/
def Must : RowOp V → String → String → Prop
  | .revokeKey key', key, _ => key = key'
  | .revokeGrant grantID accept, _, g => g = grantID ∧ ∀ row, accept row = true
  | _, _, _ => False

def May : RowOp V → String → String → Prop
  | .revokeGrant grantID _, _, g => g = grantID
  | op, key, g => Must op key g

/-- The operation loses no row, and a sweep names its grant. -/
def Keeps : RowOp V → Prop
  | .gc _ => False
  | .revokeGrant g _ => g ≠ ""
  | _ => True

lemma marks_direct {s : TokenStore V} (h : Exact ops.grantID s.m s.idx.byGrant) (ρ : KeyOrder)
    {op : RowOp V} (hkeeps : Keeps op) (hmust : ∀ key g, must key g → Must op key g)
    (hmay : ∀ key g, May op key g → may key g) :
    Marks ops.grantID ops.revoked must may s.m.lookup (op.direct ops ρ s).1.m.lookup := by
  cases op with
  | insert key row => exact .of_kept hmust fun _ _ hrow => lookup_insertRow_kept hrow
  | revokeKey key =>
    exact .of_map ops.setRevoked (fun key' _ => key' = key) ops.grantID_setRevoked
      ops.revoked_setRevoked
      (fun key' row hrow hk => by
        rw [RowOp.direct, lookup_revokeRow, if_pos hk, hrow, Option.map_some])
      (fun key' row hrow hk => by rw [RowOp.direct, lookup_revokeRow, if_neg hk, hrow])
      (fun key' row _ hm => hmust key' _ hm) (fun key' row _ hk => hmay key' _ hk)
  | revokeGrant g accept =>
    intro key row hrow
    dsimp only [RowOp.direct] at hrow ⊢
    have hlisted : key ∈ s.idx.byGrant.ids g ↔ ops.grantID row = g := by
      rw [h key g hkeeps]
      constructor
      · rintro ⟨row', hrow', hgrant⟩
        rw [hrow, Option.some.injEq] at hrow'
        exact hrow' ▸ hgrant
      · exact fun hgrant => ⟨row, hrow, hgrant⟩
    rw [lookup_revokeIndexed, hrow]
    by_cases hin : key ∈ s.idx.byGrant.ids g
    · rw [if_pos hin, Option.map_some]
      refine ⟨_, rfl, attr_flipRow .grant accept row, fun hm => ?_,
        fun _ => .inr (hmay key _ (hlisted.mp hin))⟩
      unfold flipRow
      by_cases hrev : ops.revoked row = true
      · simp [hrev]
      · have haccept := (hmust key _ (hm.resolve_left hrev)).2 row
        simp [hrev, haccept, ops.revoked_setRevoked]
    · rw [if_neg hin]
      exact ⟨row, rfl, rfl, fun hm => hm.resolve_right fun hm => hin
        (hlisted.mpr (hmust key _ hm).1), fun hm => .inl hm⟩
  | gc cutoff => exact hkeeps.elim
  | _ => exact .of_kept hmust fun _ _ hrow => hrow

lemma exact_direct {s : TokenStore V} (h : Exact ops.grantID s.m s.idx.byGrant) (ρ : KeyOrder)
    (op : RowOp V) :
    Exact ops.grantID (op.direct ops ρ s).1.m (op.direct ops ρ s).1.idx.byGrant := by
  have M : Maintained (TokenRows.Column.grant.attr ops) (SameAttribute _)
      (Exact ops.grantID) := exact_maintained
  exact RowOp.direct_maintains ρ M h op

lemma lookup_insertRow_ok {s : TokenStore V} {row : V} (h : (insertRow ops s key row).2 = .ok ()) :
    (insertRow ops s key row).1.m.lookup key = some row := by
  unfold insertRow at h ⊢
  cases hfree : s.m.lookup key with
  | some _ => simp [hfree] at h
  | none =>
    rw [lookup_insert_ite, if_pos rfl]

lemma lookup_saveOpaque_ok {s : OpaqueAccessTokens.Store} {tok : OpaqueAccessToken}
    (h : (OpaqueAccessTokens.save D s (some tok)).2 = .ok ()) :
    (OpaqueAccessTokens.save D s (some tok)).1.m.lookup (D.hashKey tok.id) =
      some (OpaqueAccessTokens.stored D tok) := by
  unfold OpaqueAccessTokens.save at h ⊢
  dsimp only at h ⊢
  split_ifs at h ⊢
  exact lookup_insertRow_ok h

lemma lookup_register_ok {s : AccessTokens.Store} {rec : AccessTokenRecord}
    (h : (register s rec).2 = .ok ()) :
    (register s rec).1.m.lookup rec.jti = some rec := by
  unfold register at h ⊢
  split_ifs at h ⊢
  exact lookup_insertRow_ok h

/-- Below the root of a chain only rows with a parent are reached. -/
theorem parentID_of_descends (h : WellFormed D s) {rootKey : String}
    (hd : Descends s.byParent rootKey key) (hrow : s.m.lookup key = some row) :
    key = rootKey ∨ row.parentID ≠ none := by
  rcases hd.cases_tail with heq | ⟨parentKey, _, hlink⟩
  · exact .inl heq
  · obtain ⟨hne, row', hrow', hattr⟩ := (h.listed .parent key parentKey).mp hlink
    rw [hrow, Option.some.injEq] at hrow'
    subst hrow'
    refine .inr fun hnone => hne ?_
    rw [← hattr]
    simp [RefreshTokenStore.Column.attr, hnone]

lemma marks_revokeRefreshChain (h : WellFormed D s) (ρ : KeyOrder) (now : Time) (rootID : String) :
    Marks place RefreshToken.revoked (refreshMust D (.revokeRefreshChain rootID))
      (refreshMay D (.revokeRefreshChain rootID)) s.m.lookup
      (revokeChain D ρ now s rootID).1.m.lookup := by
  unfold revokeChain
  dsimp only
  cases hroot : s.m.lookup (D.hashKey rootID) with
  | none =>
    intro key row hrow
    refine ⟨row, hrow, rfl, fun hm => hm.resolve_right fun hm => ?_, fun hm => .inl hm⟩
    have hkey : key = D.hashKey rootID := hm
    dsimp only at hrow
    rw [hkey, hroot] at hrow
    cases hrow
  | some _ =>
    refine .of_map (markRevoked now) (fun key _ => Descends s.byParent (D.hashKey rootID) key)
      (fun _ => rfl) (fun _ => rfl) ?_ ?_ ?_ ?_
    · intro key row hrow hd
      rw [(lookup_revokeChainLocked ρ now s _ key).1 hd, hrow, Option.map_some]
    · intro key row hrow hd
      rw [(lookup_revokeChainLocked ρ now s _ key).2 hd, hrow]
    · intro key row _ hm
      have hkey : key = D.hashKey rootID := hm
      exact hkey ▸ .refl
    · exact fun key row hrow hd => parentID_of_descends h hd hrow

lemma marks_revokeRefreshByGrant (h : WellFormed D s) (ρ : KeyOrder) (now : Time)
    (grantID : String) :
    Marks place RefreshToken.revoked (refreshMust D (.revokeRefreshByGrant grantID))
      (refreshMay D (.revokeRefreshByGrant grantID)) s.m.lookup
      (RefreshTokenStore.revokeByGrant ρ now s grantID).m.lookup := by
  unfold RefreshTokenStore.revokeByGrant
  by_cases hg : grantID = ""
  · rw [if_pos hg]
    refine .of_kept (fun key g hm => ?_) fun _ _ hrow => hrow
    exact hm.2 (hm.1.symm.trans hg)
  · rw [if_neg hg]
    refine .of_map (markRevoked now) (fun key row => row.grantID = grantID)
      (fun _ => rfl) (fun _ => rfl) ?_ ?_ (fun _ _ _ hm => hm.1.symm)
      (fun _ _ _ hgrant => ⟨hgrant.symm, fun hempty => hg (hgrant.symm.trans hempty)⟩)
    · intro key row hrow hgrant
      have hlisted : key ∈ s.byGrant.ids grantID :=
        (h.listed .grant key grantID).mpr ⟨hg, row, hrow, hgrant⟩
      rw [lookup_revokeByIndex, if_pos hlisted, hrow, Option.map_some]
    · intro key row hrow hgrant
      rw [lookup_revokeByIndex, if_neg, hrow]
      intro hlisted
      obtain ⟨_, row', hrow', hgrant'⟩ := (h.listed .grant key grantID).mp hlisted
      rw [hrow, Option.some.injEq] at hrow'
      exact hgrant (hrow' ▸ hgrant')

lemma lookup_evolves_kept (hfresh : s.m.lookup (D.hashKey token.id) = none)
    (h : s.m.lookup key = some row) :
    (s.m.insert (D.hashKey token.id) (storedRow D token)).lookup key = some row := by
  rw [lookup_insert_ite, if_neg, h]
  rintro rfl
  rw [hfresh] at h
  cases h

lemma lookup_save_kept (h : s.m.lookup key = some row) :
    (save D s (some token)).1.m.lookup key = some row := by
  rcases save_cases (D := D) s (some token) with ⟨e, heq⟩ | ⟨tok, htok, hadm, heq⟩
  · rw [heq]
    exact h
  · rw [heq]
    exact lookup_evolves_kept hadm.fresh h

lemma lookup_saveRotation_kept {ρ : KeyOrder} {now : Time} {contents : List UInt8}
    (h : s.m.lookup key = some row) :
    (saveRotationWithRetry D ρ now s (some token) contents).1.m.lookup key = some row := by
  rcases saveRotationWithRetry_cases (D := D) ρ now s (some token) contents with
    ⟨e, heq⟩ | ⟨tok, key', rec, htok, hadm, heq⟩
  · rw [heq]
    exact h
  · rw [heq, m_putRetry, m_maybeGCRetries]
    exact lookup_evolves_kept hadm.fresh h

def opaqueOp (D : KeyDigest) : Call → RowOp OpaqueAccessToken
  | .saveOpaque tok => OpaqueAccessTokens.op D (.save (some tok))
  | .revokeOpaqueByID id => OpaqueAccessTokens.op D (.revokeByID id)
  | .revokeOpaqueByGrant g => OpaqueAccessTokens.op D (.revokeByGrant g)
  | .revokeOpaqueByChain g chainID => OpaqueAccessTokens.op D (.revokeByChain g chainID)
  | _ => .refuse (.done (.ok ()))

def registryOp : Call → RowOp AccessTokenRecord
  | .register rec => op (.register rec)
  | .revokeByJTI jti => op (.revokeByJTI jti)
  | .revokeByGrant g => op (.revokeByGrant g)
  | _ => .refuse (.done (.ok ()))

lemma opaqueAccessTokens_handle (e : Chance) (o : Call) :
    (handle D e o w).1.opaqueAccessTokens =
      ((opaqueOp D o).direct opaqueTokenRowOps e.order w.opaqueAccessTokens).1 := by
  have hdirect (c : OpaqueAccessTokens.Call) := congrArg Prod.fst
    (OpaqueAccessTokens.direct_eq D w.opaqueAccessTokens ⟨c, e.order, e.order⟩)
  cases o with
  | saveOpaque tok => exact hdirect (.save (some tok))
  | revokeOpaqueByID id => exact hdirect (.revokeByID id)
  | revokeOpaqueByGrant g => exact hdirect (.revokeByGrant g)
  | revokeOpaqueByChain g chainID => exact hdirect (.revokeByChain g chainID)
  | _ => rfl

lemma accessTokens_handle (e : Chance) (o : Call) :
    (handle D e o w).1.accessTokens =
      ((registryOp o).direct accessTokenRowOps e.order w.accessTokens).1 := by
  have hdirect (c : AccessTokens.Call) := congrArg Prod.fst
    (direct_eq w.accessTokens ⟨c, e.order, e.order⟩)
  cases o with
  | register rec => exact hdirect (.register rec)
  | revokeByJTI jti => exact hdirect (.revokeByJTI jti)
  | revokeByGrant g => exact hdirect (.revokeByGrant g)
  | _ => rfl

lemma logged_singleton {O K G : Type} {cause : O → K → G → Prop} {o : O} :
    Logged cause [o] = cause o := by
  funext key g
  simp [Logged]

lemma coherent_new (clients : Finset String) : Coherent D (newSubstores clients) where
  refresh := wellFormed_new
  opaqueTokens key value _ := by simp [newSubstores, emptyStore, Index.ids]
  registry key value _ := by simp [newSubstores, emptyStore, Index.ids]
  tombstones grantID row hrow := by simp [newSubstores, newGrantRevocations] at hrow

section
variable (h : Coherent D w) (e : Chance) (o : Call)
include h

lemma marks_refresh :
    Marks place RefreshToken.revoked (refreshMust D o) (refreshMay D o)
      w.refreshTokens.m.lookup (handle D e o w).1.refreshTokens.m.lookup := by
  cases o with
  | saveRefresh token =>
    exact .of_kept (fun _ _ hm => hm.elim) fun _ _ hrow => lookup_save_kept hrow
  | saveRotation token contents =>
    exact .of_kept (fun _ _ hm => hm.elim) fun _ _ hrow => lookup_saveRotation_kept hrow
  | revokeRefreshChain rootID => exact marks_revokeRefreshChain h.refresh e.order e.now rootID
  | revokeRefreshByGrant grantID => exact marks_revokeRefreshByGrant h.refresh e.order e.now grantID
  | _ => exact .of_kept (fun _ _ hm => hm.elim) fun _ _ hrow => hrow

lemma marks_opaqueRows :
    Marks opaqueTokenRowOps.grantID opaqueTokenRowOps.revoked (opaqueMust D o) (opaqueMay D o)
      w.opaqueAccessTokens.m.lookup (handle D e o w).1.opaqueAccessTokens.m.lookup := by
  rw [opaqueAccessTokens_handle]
  refine marks_direct h.opaqueTokens e.order ?_ ?_ ?_
  · cases o <;> grind [opaqueOp, OpaqueAccessTokens.op, Keeps]
  · cases o <;> grind [opaqueMust, opaqueOp, OpaqueAccessTokens.op, Must, matchAnyToken]
  · cases o <;> grind [opaqueMay, opaqueMust, opaqueOp, OpaqueAccessTokens.op, May, Must]

lemma marks_registry :
    Marks accessTokenRowOps.grantID accessTokenRowOps.revoked (registryCause o) (registryCause o)
      w.accessTokens.m.lookup (handle D e o w).1.accessTokens.m.lookup := by
  rw [accessTokens_handle]
  refine marks_direct h.registry e.order ?_ ?_ ?_
  · cases o <;> grind [registryOp, op, Keeps]
  · cases o <;> grind [registryCause, registryOp, op, Must, matchAnyToken]
  · cases o <;> grind [registryCause, registryOp, op, May, Must]

lemma isIssuanceRevoked_handle (grantID : String) (issuedAt : Time)
    (hc : isIssuanceRevoked w.grantRevocations grantID issuedAt = true) :
    isIssuanceRevoked (handle D e o w).1.grantRevocations grantID issuedAt =
      true := by
  cases o with
  | revokeGrant t =>
    change isIssuanceRevoked
      (revokeGrant w.grantRevocations t) grantID issuedAt = true
    rw [isIssuanceRevoked_iff] at hc ⊢
    obtain ⟨hg, row, hrow, hrefuses⟩ := hc
    refine ⟨hg, ?_⟩
    rw [lookup_revokeGrant, hrow]
    split_ifs
    · exact ⟨_, rfl, (widens_merge (h.tombstones grantID row hrow) t).refusesIssuance hrefuses⟩
    · exact ⟨row, rfl, hrefuses⟩
  | revokeJTI r =>
    change isIssuanceRevoked
      (revokeJTI w.grantRevocations r) grantID issuedAt = true
    rw [isIssuanceRevoked_iff, tombstones_revokeJTI, ← isIssuanceRevoked_iff]
    exact hc
  | _ => exact hc

lemma advances_handle : Advances D [o] w (handle D e o w).1 := by
  constructor
  case opaqueTokens =>
    rw [logged_singleton, logged_singleton]
    exact marks_opaqueRows h e o
  case registry =>
    rw [logged_singleton]
    exact marks_registry h e o
  case refresh =>
    rw [logged_singleton, logged_singleton]
    exact marks_refresh h e o
  case closure => exact isIssuanceRevoked_handle h e o

/-! ### Coherence -/

lemma wellFormed_handle : WellFormed D (handle D e o w).1.refreshTokens := by
  cases o with
  | saveRefresh token => exact wellFormed_save h.refresh _
  | saveRotation token contents => exact wellFormed_saveRotationWithRetry h.refresh _ _ _ _
  | revokeRefreshChain rootID => exact (stamps_revokeChain _ _ _ _).wellFormed h.refresh
  | revokeRefreshByGrant grantID => exact (stamps_revokeByGrant _ _ _ _).wellFormed h.refresh
  | _ => exact h.refresh

lemma tombstones_handle (grantID : String) (row : TombstoneRow)
    (hrow : (handle D e o w).1.grantRevocations.tombstones.lookup grantID = some row) :
    0 ≤ row.revokedAt ∧ 0 ≤ row.accessRevokedAt := by
  cases o with
  | revokeGrant t =>
    change (revokeGrant w.grantRevocations t).tombstones.lookup grantID =
      some row at hrow
    rw [lookup_revokeGrant] at hrow
    split_ifs at hrow
    · cases hrow
      exact nonneg_entombed (h.tombstones grantID) t
    · exact h.tombstones grantID row hrow
  | revokeJTI r =>
    change (revokeJTI w.grantRevocations r).tombstones.lookup grantID =
      some row at hrow
    rw [tombstones_revokeJTI] at hrow
    exact h.tombstones grantID row hrow
  | _ => exact h.tombstones grantID row hrow

lemma coherent_handle : Coherent D (handle D e o w).1 where
  refresh := wellFormed_handle h e o
  opaqueTokens := by
    rw [opaqueAccessTokens_handle]
    exact exact_direct h.opaqueTokens e.order _
  registry := by
    rw [accessTokens_handle]
    exact exact_direct h.registry e.order _
  tombstones := tombstones_handle h e o

end

/-! ### The discipline of the logged calls -/

/-- The tombstone refuses what was issued at the instant. -/
structure Closes (t : GrantTombstone) (issuedAt : Time) : Prop where
  grant : t.grantID ≠ ""
  whole : t.accessTokensOnly = false
  dated : 0 < t.revokedAt
  covers : issuedAt ≤ t.revokedAt

lemma isIssuanceRevoked_of_closes {t : GrantTombstone} {issuedAt : Time} (hc : Closes t issuedAt) :
    isIssuanceRevoked
      (revokeGrant w.grantRevocations t) t.grantID issuedAt = true := by
  rw [isIssuanceRevoked_iff]
  refine ⟨hc.grant, ?_⟩
  rw [lookup_revokeGrant, if_pos ⟨hc.grant, rfl⟩]
  refine ⟨_, rfl, ?_⟩
  have hrow : ∀ row : TombstoneRow, (row.merge t).refusesIssuance issuedAt = true := by
    intro row
    have hcutoff : (row.merge t).revokedAt = max row.revokedAt t.revokedAt := by
      simp only [TombstoneRow.merge, hc.whole, Bool.false_eq_true, if_false, widen_eq_max]
    rw [TombstoneRow.refusesIssuance, TombstoneRow.covers_iff, hcutoff]
    exact ⟨(lt_max_of_lt_right hc.dated).ne', le_max_of_le_right hc.covers⟩
  cases w.grantRevocations.tombstones.lookup t.grantID with
  | none => exact hrow _
  | some row => exact hrow row

abbrev LoggedStores := Substores × List Call

def logHandle (D : KeyDigest) (e : Chance) (o : Call) (s : LoggedStores) : LoggedStores × o.Reply :=
  (((handle D e o s.1).1, s.2 ++ [o]), (handle D e o s.1).2)

/-- Whoever calls, the substores stay coherent and advance by the logged calls,
and a tombstone in the log is in force. -/
def discipline (D : KeyDigest) : Discipline LoggedStores where
  Inv s := Coherent D s.1 ∧ ∀ t issuedAt, Call.revokeGrant t ∈ s.2 → Closes t issuedAt →
    isIssuanceRevoked s.1.grantRevocations t.grantID issuedAt = true
  G s s' := ∃ log, s'.2 = s.2 ++ log ∧ Advances D log s.1 s'.1
  refl s := ⟨[], (List.append_nil _).symm, .refl s.1⟩
  trans := by
    rintro a b c ⟨log, hlog, h⟩ ⟨log', hlog', h'⟩
    exact ⟨log ++ log', by rw [hlog', hlog, List.append_assoc], h.append h'⟩

lemma disciplined (e : Chance) (o : Call) {s : LoggedStores} (h : (discipline D).Inv s) :
    (discipline D).Inv (logHandle D e o s).1 ∧ (discipline D).G s (logHandle D e o s).1 := by
  obtain ⟨hcoherent, hclosed⟩ := h
  refine ⟨⟨coherent_handle hcoherent e o, fun t issuedAt hmem hc => ?_⟩,
    [o], rfl, advances_handle hcoherent e o⟩
  rcases List.mem_append.mp hmem with hmem | hmem
  · exact isIssuanceRevoked_handle hcoherent e o _ _ (hclosed t issuedAt hmem hc)
  · rw [List.mem_singleton] at hmem
    subst hmem
    exact isIssuanceRevoked_of_closes hc

/-- The outline of a program whose calls are logged. -/
abbrev Assures (D : KeyDigest) {A : Type} (Q : A → LoggedStores → Prop) (p : Program A)
    (s : LoggedStores) : Prop :=
  Upholds (logHandle D) (discipline D) Q p s

lemma upholds_any {A : Type} (p : Program A) (s : LoggedStores) :
    Assures D (fun _ _ => True) p s := by
  have hcalls : p.Calls fun _ => True := by
    induction p with
    | ret a => trivial
    | call o k ih => exact ⟨trivial, ih⟩
  exact upholds_of_calls (P := fun _ => True) (fun o _ e s h => disciplined e o h) hcalls s

lemma upholds_ask {o : Call} {Q : o.Reply → LoggedStores → Prop} {s : LoggedStores}
    (hQ : ∀ r s s', (discipline D).G s s' → Q r s → Q r s')
    (h : ∀ s', (discipline D).G s s' → (discipline D).Inv s' → ∀ e,
      Q (logHandle D e o s').2 (logHandle D e o s').1) :
    Assures D Q (ask o) s := by
  intro s' hG hInv e
  obtain ⟨hnext, hmove⟩ := disciplined e o hInv
  exact ⟨hnext, hmove, fun s'' hG' _ => hQ _ _ _ hG' (h s' hG hInv e)⟩

/-! ### Rows in the log -/

structure Table (D : KeyDigest) (V G : Type) where
  rows : Substores → String → Option V
  group : V → G
  marked : V → Bool
  must : Call → String → G → Prop
  may : Call → String → G → Prop
  advances : ∀ {log w w'}, Advances D log w w' →
    Marks group marked (Logged must log) (Logged may log) (rows w) (rows w')

def opaqueTable (D : KeyDigest) : Table D OpaqueAccessToken String where
  rows w := w.opaqueAccessTokens.m.lookup
  group := opaqueTokenRowOps.grantID
  marked := opaqueTokenRowOps.revoked
  must := opaqueMust D
  may := opaqueMay D
  advances h := h.opaqueTokens

def registryTable (D : KeyDigest) : Table D AccessTokenRecord String where
  rows w := w.accessTokens.m.lookup
  group := accessTokenRowOps.grantID
  marked := accessTokenRowOps.revoked
  must := registryCause
  may := registryCause
  advances h := h.registry

def refreshTable (D : KeyDigest) : Table D RefreshToken Place where
  rows w := w.refreshTokens.m.lookup
  group := place
  marked := RefreshToken.revoked
  must := refreshMust D
  may := refreshMay D
  advances h := h.refresh

variable {V G : Type} (T : Table D V G)

/-- The row was saved by the call, and since then is marked where it must be and
only where it may be. -/
structure Persisted (save : Call) (key : String) (g : G) (before after : List Call)
    (s : LoggedStores) : Prop where
  log : s.2 = before ++ save :: after
  row : ∃ row, T.rows s.1 key = some row ∧ T.group row = g ∧
    (Logged T.must after key g → T.marked row = true) ∧
    (T.marked row = true → Logged T.may after key g)

lemma Persisted.advance {save : Call} {g : G} {before after : List Call} {s s' : LoggedStores}
    (h : Persisted T save key g before after s) {log : List Call} (hlog : s'.2 = s.2 ++ log)
    (hadv : Advances D log s.1 s'.1) : Persisted T save key g before (after ++ log) s' := by
  obtain ⟨row, hrow, hgroup, hmust, hmay⟩ := h.row
  obtain ⟨row', hrow', hgroup', hmust', hmay'⟩ := T.advances hadv key row hrow
  rw [hgroup] at hgroup' hmust' hmay'
  refine ⟨by rw [hlog, h.log, List.append_assoc, List.cons_append], row', hrow', hgroup',
    fun hm => ?_, fun hm => ?_⟩
  · exact hmust' ((logged_append.mp hm).imp_left hmust)
  · exact logged_append.mpr ((hmay' hm).imp_left hmay)

lemma Persisted.saved {save : Call} {g : G} {s : LoggedStores} {e : Chance} {row : V}
    (hrow : T.rows (handle D e save s.1).1 key = some row) (hgroup : T.group row = g)
    (hmarked : T.marked row = false) : Persisted T save key g s.2 [] (logHandle D e save s).1 :=
  ⟨rfl, row, hrow, hgroup, fun hm => by simp [Logged] at hm, fun hm => by
    rw [hmarked] at hm
    cases hm⟩

end

end OidcProvider.CredentialLedger
