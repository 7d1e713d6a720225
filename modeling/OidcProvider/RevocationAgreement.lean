import OidcProvider.GrantTombstones
import OidcProvider.Teardown
import OidcProvider.TokenTransactions

/-!
# The two sides of JWT revocation

The revoker writes and `JWTAccessTokenRevoked` reads, each dispatching on the
strategy and on what is wired. `verdict` is what the read side answers in a
given state, and `Retires` what a teardown leaves in the registry and among the
tombstones; the agreement compares the one before with the one after.
-/
namespace OidcProvider.RevocationAgreement
open FiniteMaps SecondaryIndexes StoreRecords TokenRows AccessTokenStores GrantRevocationStore
open TransactionalStores TokenTransactions GrantTombstones ResumptionPrograms Teardown
open AccessTokens (find revokeByGrant revokeByJTI)
open Prog (ensures_call ensures_ret)
open TombstoneRow (covers covers_iff merge revokes)

variable {D : KeyDigest}

/-! ### What the read side answers -/

/-- The registry, and not the tombstones, answers for the strategy. -/
def RegistryBacked (opts : Opts) : Prop :=
  match opts.strategy with
  | .none => False
  | .jtiRegistry => opts.accessTokens = true
  | .grantTombstone => opts.grantRevocations = false ∧ opts.accessTokens = true

def TombstoneBacked (opts : Opts) : Prop :=
  opts.strategy = .grantTombstone ∧ opts.grantRevocations = true

def Backed (opts : Opts) : Prop := RegistryBacked opts ∨ TombstoneBacked opts

def registryRevokes (w : Substores) (jti : String) : Bool :=
  (find w.accessTokens jti).any (·.revoked)

variable {claims : AccessTokenClaims} {r : Revoker} {w w' : Substores} {s : Scope}
  {grantID : String} {t : GrantTombstone}

lemma ensures_byJTI {opts : Opts} (h : opts.accessTokens = true) (claims : AccessTokenClaims)
    (w : Substores) :
    (opts.jwtAccessTokenRevokedByJTI claims).Ensures (handle D)
      (fun a w' => a = ⟨registryRevokes w claims.jti, true⟩ ∧ w' = w) w := by
  intro es
  simp only [Opts.jwtAccessTokenRevokedByJTI, h]
  exact ⟨rfl, rfl⟩

lemma ensures_clientDeleted (opts : Opts) {clientID : String} (h : clientID ∈ w.clients) :
    (opts.clientDeleted clientID).Ensures (handle D)
      (fun a w' => a = ⟨false, true⟩ ∧ w' = w) w := by
  unfold Opts.clientDeleted
  split_ifs
  · exact ensures_ret ⟨rfl, rfl⟩
  · refine ensures_call fun e => ?_
    have hreply : (handle D e (.getClient clientID) w).2 = .ok () := if_pos h
    rw [hreply]
    exact ensures_ret ⟨rfl, rfl⟩

lemma ensures_registry (opts : Opts) (h : RegistryBacked opts)
    (hclient : claims.clientID ∈ w.clients) :
    (opts.jwtAccessTokenRevoked claims).Ensures (handle D)
      (fun a w' => a = ⟨registryRevokes w claims.jti, true⟩ ∧ w' = w) w := by
  unfold Opts.jwtAccessTokenRevoked
  cases hs : opts.strategy with
  | none => simp [RegistryBacked, hs] at h
  | jtiRegistry =>
    refine (ensures_clientDeleted opts hclient).bind ?_
    rintro _ _ ⟨rfl, rfl⟩
    rw [RegistryBacked, hs] at h
    exact ensures_byJTI h claims _
  | grantTombstone =>
    refine (ensures_clientDeleted opts hclient).bind ?_
    rintro _ _ ⟨rfl, rfl⟩
    rw [RegistryBacked, hs] at h
    rw [Opts.jwtAccessTokenRevokedByTombstone, h.1]
    exact ensures_byJTI h.2 claims _

/-- What the tombstone substore answers, with the registry as the fallback of a
token without a grant. -/
def tombstonesRevoke (opts : Opts) (claims : AccessTokenClaims) (w : Substores) : Bool :=
  isRevoked w.grantRevocations claims.grantID claims.jti claims.issuedAt ||
    (decide (claims.grantID = "") && opts.accessTokens && registryRevokes w claims.jti)

lemma ensures_tombstones (opts : Opts) (h : TombstoneBacked opts)
    (hclient : claims.clientID ∈ w.clients) :
    (opts.jwtAccessTokenRevoked claims).Ensures (handle D)
      (fun a w' => a = ⟨tombstonesRevoke opts claims w, true⟩ ∧ w' = w) w := by
  unfold Opts.jwtAccessTokenRevoked
  rw [h.1]
  refine (ensures_clientDeleted opts hclient).bind ?_
  rintro _ _ ⟨rfl, rfl⟩
  rw [Opts.jwtAccessTokenRevokedByTombstone, h.2]
  have hask : ∀ w : Substores, (ask (.isRevoked claims.grantID claims.jti claims.issuedAt)).Ensures
      (handle D) (fun a w' => a = .ok (isRevoked w.grantRevocations
        claims.grantID claims.jti claims.issuedAt) ∧ w' = w) w :=
    fun w => ensures_call fun e => ensures_ret ⟨rfl, rfl⟩
  refine (hask _).bind ?_
  rintro _ _ ⟨rfl, rfl⟩
  unfold tombstonesRevoke
  cases isRevoked _ claims.grantID claims.jti claims.issuedAt with
  | true => exact ensures_ret ⟨rfl, rfl⟩
  | false =>
    by_cases hg : claims.grantID = ""
    · rw [if_neg (not_not.mpr hg), decide_eq_true hg]
      cases hat : opts.accessTokens with
      | true => exact ensures_byJTI hat claims _
      | false =>
        rw [Opts.jwtAccessTokenRevokedByJTI, hat]
        exact ensures_ret ⟨rfl, rfl⟩
    · rw [if_pos hg, decide_eq_false hg]
      exact ensures_ret ⟨rfl, rfl⟩

def verdict (D : KeyDigest) (opts : Opts) (claims : AccessTokenClaims) (es : ℕ → Chance)
    (w : Substores) : Answer :=
  ((opts.jwtAccessTokenRevoked claims).runAlone (handle D) es w).2

/-- The read side as the deployment wires it: over the revoker's substores, with
or without the client registry. -/
def reader (r : Revoker) (clients : Bool) : Opts := { r.opts with clients }

section Clients
variable (hclients : w'.clients = w.clients) (hclient : claims.clientID ∈ w.clients)
include hclients hclient

lemma verdict_registry (h : RegistryBacked r.opts) (clients : Bool) (es : ℕ → Chance) :
    verdict D (reader r clients) claims es w' = ⟨registryRevokes w' claims.jti, true⟩ :=
  (ensures_registry (reader r clients) h (hclients ▸ hclient) es).1

lemma verdict_tombstones (h : TombstoneBacked r.opts) (clients : Bool) (es : ℕ → Chance) :
    verdict D (reader r clients) claims es w' =
      ⟨tombstonesRevoke (reader r clients) claims w', true⟩ :=
  (ensures_tombstones (reader r clients) h (hclients ▸ hclient) es).1

end Clients

/-! ### What the write side leaves -/

/-- The scopes that cover a whole grant. -/
def GrantWide (s : Scope) (grantID : String) : Prop :=
  s = wholeGrant grantID ∨ s = compromisedGrantAccessTokens grantID ∨
  s = accessTokensOfGrant grantID

def rungTombstone (r : Revoker) (s : Scope) : GrantTombstone :=
  ⟨s.grantID, r.now, r.now + r.tombstoneRetention, r.reason, !s.classes.issuance⟩

/-- What a grant-wide teardown leaves of the state the read side looks at. -/
structure Retires (r : Revoker) (s : Scope) (w w' : Substores) : Prop where
  clients : w'.clients = w.clients
  registry : RegistryBacked r.opts → ∃ ρ : KeyOrder,
    w'.accessTokens = (revokeByGrant ρ w.accessTokens s.grantID).1
  tombstones : TombstoneBacked r.opts →
    w'.grantRevocations = revokeGrant w.grantRevocations (rungTombstone r s)

/-- The registry, the revocations and the clients are as they were. -/
structure SameView (w w' : Substores) : Prop where
  clients : w'.clients = w.clients
  accessTokens : w'.accessTokens = w.accessTokens
  grantRevocations : w'.grantRevocations = w.grantRevocations

lemma Retires.sameView {w'' : Substores} (h : Retires r s w w') (h' : SameView w' w'') :
    Retires r s w w'' where
  clients := h'.clients.trans h.clients
  registry hb := by
    obtain ⟨ρ, hρ⟩ := h.registry hb
    exact ⟨ρ, h'.accessTokens.trans hρ⟩
  tombstones hb := h'.grantRevocations.trans (h.tombstones hb)

lemma ensures_jwtRung (hb : Backed r.opts) (hg : s.grantID ≠ "") (w : Substores) :
    (r.opts.revokeJWTAccessTokensByGrant s.grantID r.now r.tombstoneRetention r.reason
      (!s.classes.issuance)).Ensures (handle D)
      (fun a w' => a = .ok () ∧ Retires r s w w') w := by
  unfold Opts.revokeJWTAccessTokensByGrant
  rcases hb with hb | hb
  · have hask : (ask (.revokeByGrant s.grantID)).Ensures (handle D)
        (fun a w' => a = .ok () ∧ Retires r s w w') w := by
      refine ensures_call fun e => ensures_ret ⟨rfl, rfl, fun _ => ⟨e.order, rfl⟩, ?_⟩
      intro hb'
      simp [RegistryBacked, hb'.1, hb'.2] at hb
    cases hs : r.opts.strategy with
    | none => simp [RegistryBacked, hs] at hb
    | jtiRegistry =>
      rw [RegistryBacked, hs] at hb
      rw [if_pos hb]
      exact hask
    | grantTombstone =>
      rw [RegistryBacked, hs] at hb
      dsimp only at hb ⊢
      rw [if_neg (by simp [hb.1]), if_pos hb.2]
      exact hask
  · rw [hb.1]
    dsimp only
    rw [if_pos ⟨hb.2, hg⟩]
    refine ensures_call fun e => ensures_ret ⟨rfl, rfl, fun hb' => ?_, fun _ => rfl⟩
    simp [RegistryBacked, hb.1, hb.2] at hb'

lemma ensures_revokeGrantAccessTokens (hb : Backed r.opts) (hg : s.grantID ≠ "") (w : Substores) :
    (r.revokeGrantAccessTokens s {}).Ensures (handle D)
      (fun out w' => out = {} ∧ Retires r s w w') w := by
  refine (ensures_jwtRung hb hg w).bind ?_
  rintro _ w' ⟨rfl, hw'⟩
  split_ifs
  · exact ensures_call fun e => ensures_ret ⟨rfl, hw'.sameView ⟨rfl, rfl, rfl⟩⟩
  · exact ensures_ret ⟨rfl, hw'⟩

/-- The issuance tombstone is owed only where the tombstones do not back the
strategy. -/
theorem ensures_closeIssuance (hat : s.classes.accessTokens = true) (h : Retires r s w w') :
    (r.closeIssuance s {}).Ensures (handle D) (fun out w'' => out = {} ∧ Retires r s w w'') w' := by
  unfold Revoker.closeIssuance
  split_ifs with howed
  · refine ensures_call fun e => ensures_ret ⟨rfl, h.clients, h.registry, fun hb => ?_⟩
    have hs : r.strategy = .grantTombstone := hb.1
    have hgr : r.grantRevocations = true := hb.2
    simp [Revoker.owesIssuanceClosure, Revoker.jwtRungClosesIssuance, hat, hs, hgr] at howed
  · exact ensures_ret ⟨rfl, h⟩

lemma ensures_run_grantWide (hb : Backed r.opts) (hs : GrantWide s grantID) (hg : grantID ≠ "")
    (w : Substores) :
    (r.run s).Ensures (handle D) (fun out w' => out = {} ∧ Retires r s w w') w := by
  have hrun : r.run s = r.runGrant s := by rcases hs with rfl | rfl | rfl <;> rfl
  have hid : s.grantID = grantID := by rcases hs with rfl | rfl | rfl <;> rfl
  have hat : s.classes.accessTokens = true := by rcases hs with rfl | rfl | rfl <;> rfl
  have hne : s.grantID ≠ "" := hid ▸ hg
  rw [hrun, Revoker.runGrant, if_neg hne, if_pos hat]
  refine (ensures_revokeGrantAccessTokens hb hne w).bind ?_
  rintro _ w₁ ⟨rfl, h₁⟩
  refine (ensures_closeIssuance hat h₁).bind ?_
  rintro _ w₂ ⟨rfl, h₂⟩
  unfold Revoker.revokeGrantRefreshTokens
  split_ifs
  · exact ensures_call fun e => ensures_ret ⟨rfl, h₂.sameView ⟨rfl, rfl, rfl⟩⟩
  · exact ensures_ret ⟨rfl, h₂⟩

lemma run_grantWide_incomplete (r : Revoker) (hs : GrantWide s "") (es : ℕ → Chance)
    (w : Substores) : ((r.run s).runAlone (handle D) es w).2.complete = false := by
  rcases hs with rfl | rfl | rfl <;> rfl

/-- What the revocation of one token leaves of the state the read side looks at. -/
structure RetiresJTI (r : Revoker) (row : RevokedJTI) (w w' : Substores) : Prop where
  clients : w'.clients = w.clients
  registry : RegistryBacked r.opts →
    w'.accessTokens = revokeByJTI w.accessTokens row.jti
  tombstones : TombstoneBacked r.opts → w'.accessTokens = w.accessTokens ∧
    w'.grantRevocations = revokeJTI w.grantRevocations row

lemma ensures_run_jti (hb : Backed r.opts) (jti grantID : String) (expiresAt : Time)
    (w : Substores) :
    (r.run (jwtAccessTokenByJTI jti grantID expiresAt)).Ensures (handle D)
      (fun out w' => out.jtiPersisted = true ∧
        RetiresJTI r ⟨jti, grantID, expiresAt + clockSkewAllowance⟩ w w') w := by
  change (r.runJTI _).Ensures _ _ _
  unfold Revoker.runJTI Opts.revokeJWTAccessTokenByJTI
  rcases hb with hb | hb
  · have hnot : ¬TombstoneBacked r.opts := fun hb' => by
      simp [RegistryBacked, hb'.1, hb'.2] at hb
    have hask : (do return Opts.revokedOutcome (← ask (.revokeByJTI jti)) :
        Program (Bool × StoreReply)).Ensures (handle D) (fun a w' =>
          a = (true, .ok ()) ∧
            RetiresJTI r ⟨jti, grantID, expiresAt + clockSkewAllowance⟩ w w') w :=
      ensures_call fun e =>
        ensures_ret ⟨rfl, rfl, fun _ => rfl, fun hb' => absurd hb' hnot⟩
    cases hs : r.opts.strategy with
    | none => simp [RegistryBacked, hs] at hb
    | jtiRegistry =>
      rw [RegistryBacked, hs] at hb
      rw [if_pos hb]
      refine hask.bind ?_
      rintro _ w' ⟨rfl, h⟩
      exact ensures_ret ⟨rfl, h⟩
    | grantTombstone =>
      rw [RegistryBacked, hs] at hb
      dsimp only at hb ⊢
      rw [if_neg (by simp [hb.1]), if_pos hb.2]
      refine hask.bind ?_
      rintro _ w' ⟨rfl, h⟩
      exact ensures_ret ⟨rfl, h⟩
  · have hnot : ¬RegistryBacked r.opts := fun hb' => by
      simp [RegistryBacked, hb.1, hb.2] at hb'
    rw [hb.1]
    rw [if_pos hb.2]
    exact ensures_call fun e =>
      ensures_ret ⟨rfl, rfl, fun hb' => absurd hb' hnot, fun _ => ⟨rfl, rfl⟩⟩

def torndown (D : KeyDigest) (r : Revoker) (s : Scope) (es : ℕ → Chance) (w : Substores) :
    Substores × Outcome :=
  (r.run s).runAlone (handle D) es w

lemma retires_torndown (hb : Backed r.opts) (hs : GrantWide s grantID) (hg : grantID ≠ "")
    (es : ℕ → Chance) (w : Substores) : Retires r s w (torndown D r s es w).1 :=
  (ensures_run_grantWide hb hs hg w es).2

lemma retiresJTI_torndown (hb : Backed r.opts) (jti grantID : String) (expiresAt : Time)
    (es : ℕ → Chance) (w : Substores) :
    RetiresJTI r ⟨jti, grantID, expiresAt + clockSkewAllowance⟩ w
      (torndown D r (jwtAccessTokenByJTI jti grantID expiresAt) es w).1 :=
  (ensures_run_jti hb jti grantID expiresAt w es).2

/-! ### Before and after -/

/-- The states of the in-memory substores. -/
structure Reached (w : Substores) : Prop where
  registry : ∃ history, w.accessTokens = Registry.api.after emptyStore history
  revocations : ∃ history, w.grantRevocations = (ledger history).store

/-- The registry after a history whose commits overwrite in place. -/
def InPlace (w : Substores) : Prop :=
  ∃ history, Registry.api.Throughout Registry.api.OverwritesInPlace emptyStore history ∧
    w.accessTokens = Registry.api.after emptyStore history

/-- The grant index lists a row of the registry, under its own grant or, left over from
a commit, under another one. -/
def Listed (w : Substores) (jti grantID : String) : Prop :=
  grantID ≠ "" ∧ jti ∈ w.accessTokens.idx.byGrant.ids grantID ∧
    (find w.accessTokens jti).isSome = true

lemma Reached.nonneg (h : Reached w) {row : TombstoneRow}
    (hrow : w.grantRevocations.tombstones.lookup grantID = some row) :
    0 ≤ row.revokedAt ∧ 0 ≤ row.accessRevokedAt := by
  obtain ⟨history, heq⟩ := h.revocations
  rw [heq, sound_ledger history grantID] at hrow
  exact (made_rowOf _ hrow).nonneg

/-- The row a registry holds for the token, under its jti and its grant. -/
def Registered (w : Substores) (claims : AccessTokenClaims) : Prop :=
  ∃ row, find w.accessTokens claims.jti = some row ∧ row.grantID = claims.grantID

lemma find_revokeByGrant (ρ : KeyOrder) (s : AccessTokens.Store) (grantID jti : String) :
    find (revokeByGrant ρ s grantID).1 jti =
      if grantID ≠ "" ∧ jti ∈ s.idx.byGrant.ids grantID then
        (find s jti).map (flipRow accessTokenRowOps matchAnyToken)
      else find s jti := by
  unfold revokeByGrant
  by_cases hg : grantID = ""
  · rw [if_pos hg, if_neg fun h => h.1 hg]
  · rw [if_neg hg]
    unfold find
    by_cases hj : jti = ""
    · simp only [if_pos hj, Option.map_none, ite_self]
    · simp only [if_neg hj, lookup_revokeIndexed, ne_eq, hg, not_false_eq_true, true_and]

lemma revoked_flipRow (row : AccessTokenRecord) :
    (flipRow accessTokenRowOps matchAnyToken row).revoked = true := by
  unfold flipRow
  split_ifs with h
  · simpa [matchAnyToken, accessTokenRowOps] using h
  · rfl

lemma find_lookup {s : AccessTokens.Store} {jti : String} {row : AccessTokenRecord}
    (h : find s jti = some row) : s.m.lookup jti = some row := by
  unfold find at h
  split_ifs at h
  exact h

/-- Every row is listed under its grant, after any history. -/
theorem Reached.listed (hw : Reached w) (hg : claims.grantID ≠ "") (hreg : Registered w claims) :
    Listed w claims.jti claims.grantID := by
  obtain ⟨history, heq⟩ := hw.registry
  obtain ⟨row, hrow, hgrant⟩ := hreg
  refine ⟨hg, ?_, Option.isSome_of_eq_some hrow⟩
  rw [heq] at hrow ⊢
  rw [← hgrant] at hg ⊢
  exact Registry.api.after_complete history claims.jti row (find_lookup hrow) hg

lemma InPlace.not_listed (hw : InPlace w) {jti : String}
    (hrow : ∀ row, find w.accessTokens jti = some row → row.grantID ≠ grantID) :
    ¬Listed w jti grantID := by
  rintro ⟨hg, hlisted, hsome⟩
  obtain ⟨row, hfind⟩ := Option.isSome_iff_exists.mp hsome
  obtain ⟨history, hok, heq⟩ := hw
  have hexact := ((Registry.api.always_exact_iff history).mpr hok).after .grant
  rw [← heq] at hexact
  obtain ⟨row', hlookup, hgrant⟩ := (hexact jti grantID hg).mp hlisted
  cases hlookup.symm.trans (find_lookup hfind)
  exact hrow row hfind hgrant

/-- A grant-wide teardown revokes what the index lists under the grant. -/
theorem registryRevokes_iff {jti : String} {ρ : KeyOrder}
    (h : w'.accessTokens = (revokeByGrant ρ w.accessTokens grantID).1) :
    registryRevokes w' jti = true ↔ Listed w jti grantID ∨ registryRevokes w jti = true := by
  unfold registryRevokes Listed
  rw [h, find_revokeByGrant]
  split_ifs with hlisted
  · cases hfind : find w.accessTokens jti with
    | none => simp
    | some row => simp [hlisted, revoked_flipRow]
  · exact ⟨.inr, fun h => h.elim (fun h => absurd ⟨h.1, h.2.1⟩ hlisted) id⟩

lemma find_revokeByJTI (s : AccessTokens.Store) (jti jti' : String) :
    find (revokeByJTI s jti) jti' =
      if jti' = jti then (find s jti').map accessTokenRowOps.setRevoked
      else find s jti' := by
  unfold revokeByJTI find
  by_cases hj' : jti' = ""
  · simp only [if_pos hj', Option.map_none, ite_self]
  · simp only [if_neg hj']
    by_cases hj : jti = ""
    · rw [if_pos hj, if_neg fun h => hj' (h.trans hj)]
    · rw [if_neg hj, lookup_revokeRow]

/-- Where the new cutoff is after the zero time it covers the token, and where it
is not it adds nothing. -/
theorem revokes_entombed (existing : Option TombstoneRow)
    (h : ∀ row, existing = some row → 0 ≤ row.revokedAt ∧ 0 ≤ row.accessRevokedAt) {iat : Time}
    (hiat : iat ≤ t.revokedAt) :
    (entombed existing t).revokes iat = true ↔
      0 < t.revokedAt ∨ ∃ row, existing = some row ∧ row.revokes iat = true := by
  have hcovers : ∀ cutoff, 0 ≤ cutoff →
      (covers (widen cutoff t.revokedAt) iat = true ↔
        0 < t.revokedAt ∨ covers cutoff iat = true) := by
    intro cutoff hnonneg
    rw [covers_iff, covers_iff]
    unfold widen
    split_ifs with hlt
    · have hpos : 0 < t.revokedAt := hnonneg.trans_lt hlt
      exact iff_of_true ⟨hpos.ne', hiat⟩ (.inl hpos)
    · refine ⟨.inr, fun h => h.elim (fun hpos => ?_) id⟩
      have hle : t.revokedAt ≤ cutoff := not_lt.mp hlt
      exact ⟨(hpos.trans_le hle).ne', hiat.trans hle⟩
  have hmerge : ∀ row : TombstoneRow, 0 ≤ row.revokedAt ∧ 0 ≤ row.accessRevokedAt →
      ((row.merge t).revokes iat = true ↔ 0 < t.revokedAt ∨ row.revokes iat = true) := by
    intro row hrow
    simp only [revokes, merge, Bool.or_eq_true]
    cases t.accessTokensOnly with
    | true =>
      rw [if_pos rfl, if_pos rfl, hcovers _ hrow.2]
      exact or_left_comm
    | false =>
      rw [if_neg (by simp), if_neg (by simp), hcovers _ hrow.1]
      exact or_assoc
  cases existing with
  | none =>
    refine (hmerge ⟨0, 0, 0, ""⟩ ⟨le_rfl, le_rfl⟩).trans (or_congr_right ?_)
    simp [revokes, covers]
  | some row =>
    refine (hmerge row (h row rfl)).trans (or_congr_right ?_)
    simp

lemma not_registryBacked {opts : Opts} (h : TombstoneBacked opts) : ¬RegistryBacked opts := by
  simp [RegistryBacked, h.1, h.2]

lemma tombstonesRevoke_eq (hg : claims.grantID ≠ "") (opts : Opts) (w : Substores) :
    tombstonesRevoke opts claims w = isRevoked w.grantRevocations
      claims.grantID claims.jti claims.issuedAt := by
  simp [tombstonesRevoke, hg]

/-- After the JWT rung a token of the grant is revoked if the tombstone is after
the zero time, or if it was revoked before. -/
theorem isRevoked_revokeGrant (hw : Reached w) (hg : t.grantID ≠ "") (jti : String) {iat : Time}
    (hiat : iat ≤ t.revokedAt) :
    isRevoked (revokeGrant w.grantRevocations t) t.grantID jti iat = true ↔
      0 < t.revokedAt ∨ isRevoked w.grantRevocations t.grantID jti iat = true := by
  have hdeny : (revokeGrant w.grantRevocations t).denylist = w.grantRevocations.denylist := by
    rw [revokeGrant, if_neg hg]
  rw [isRevoked_iff, isRevoked_iff, hdeny, lookup_revokeGrant, if_pos ⟨hg, rfl⟩]
  have hrow := revokes_entombed (w.grantRevocations.tombstones.lookup t.grantID)
    (fun row => hw.nonneg) hiat
  grind

lemma isRevoked_revokeGrant_other {s : GrantRevocations} (hne : grantID ≠ t.grantID)
    (jti : String) (iat : Time) :
    isRevoked (revokeGrant s t) grantID jti iat = isRevoked s grantID jti iat := by
  have hdeny : (revokeGrant s t).denylist = s.denylist := by
    unfold revokeGrant
    split_ifs <;> rfl
  rw [Bool.eq_iff_iff, isRevoked_iff, isRevoked_iff, hdeny, lookup_revokeGrant,
    if_neg fun h => hne h.2]

lemma lookup_revokeJTI (s : GrantRevocations) (r : RevokedJTI) (jti : String) :
    ((revokeJTI s r).denylist.lookup jti).isSome = true ↔
      (r.jti ≠ "" ∧ jti = r.jti) ∨ (s.denylist.lookup jti).isSome = true := by
  unfold revokeJTI
  by_cases hj : r.jti = ""
  · simp [hj]
  · rw [if_neg hj]
    cases hrow : s.denylist.lookup r.jti with
    | some row =>
      refine ⟨.inr, fun h => h.elim (fun heq => ?_) id⟩
      rw [heq.2, hrow]
      rfl
    | none =>
      rw [lookup_insert_ite]
      split_ifs with heq
      · exact iff_of_true rfl (.inl ⟨hj, heq⟩)
      · simp [heq]

lemma isRevoked_revokeJTI (s : GrantRevocations) (r : RevokedJTI) (grantID jti : String)
    (iat : Time) :
    isRevoked (revokeJTI s r) grantID jti iat = true ↔
      (jti ≠ "" ∧ jti = r.jti) ∨ isRevoked s grantID jti iat = true := by
  rw [isRevoked_iff, isRevoked_iff, lookup_revokeJTI, tombstones_revokeJTI]
  grind

lemma revoked_ok_iff (b : Bool) : (⟨b, true⟩ : Answer) = ⟨true, true⟩ ↔ b = true := by
  cases b <;> decide

section Agreement
variable {r : Revoker} (clients : Bool) {w : Substores} {claims : AccessTokenClaims}
  (hb : Backed r.opts) (hclient : claims.clientID ∈ w.clients)
include hb hclient

lemma verdict_after_grant (hw : Reached w) (hs : GrantWide s claims.grantID) {es : ℕ → Chance}
    (hcomplete : (torndown D r s es w).2.complete = true) (hiat : claims.issuedAt ≤ r.now)
    (hreg : RegistryBacked r.opts → Registered w claims) (es' : ℕ → Chance) :
    verdict D (reader r clients) claims es' (torndown D r s es w).1 = ⟨true, true⟩ ↔
      (TombstoneBacked r.opts → 0 < r.now) ∨
        verdict D (reader r clients) claims es' w = ⟨true, true⟩ := by
  have hg : claims.grantID ≠ "" := by
    intro hempty
    rw [hempty] at hs
    rw [torndown, run_grantWide_incomplete r hs] at hcomplete
    cases hcomplete
  have hid : s.grantID = claims.grantID := by rcases hs with rfl | rfl | rfl <;> rfl
  have hretires := retires_torndown (D := D) hb hs hg es w
  rcases hb with hb | hb
  · obtain ⟨ρ, hρ⟩ := hretires.registry hb
    rw [hid] at hρ
    rw [verdict_registry hretires.clients hclient hb, revoked_ok_iff]
    exact iff_of_true ((registryRevokes_iff hρ).mpr (.inl (hw.listed hg (hreg hb))))
      (.inl fun hb' => absurd hb (not_registryBacked hb'))
  · have hid' : (rungTombstone r s).grantID = claims.grantID := hid
    have hrung := isRevoked_revokeGrant hw (t := rungTombstone r s) (hid' ▸ hg) claims.jti
      hiat
    rw [hid'] at hrung
    rw [verdict_tombstones hretires.clients hclient hb, verdict_tombstones rfl hclient hb,
      revoked_ok_iff, revoked_ok_iff, tombstonesRevoke_eq hg, tombstonesRevoke_eq hg,
      hretires.tombstones hb, hrung]
    exact or_congr_left ⟨fun h _ => h, fun h => h hb⟩

lemma verdict_after_jti (expiresAt : Time) (es es' : ℕ → Chance) :
    verdict D (reader r clients) claims es' (torndown D r
        (jwtAccessTokenByJTI claims.jti claims.grantID expiresAt) es w).1 = ⟨true, true⟩ ↔
      ((RegistryBacked r.opts → (find w.accessTokens claims.jti).isSome = true) ∧
          (TombstoneBacked r.opts → claims.jti ≠ "")) ∨
        verdict D (reader r clients) claims es' w = ⟨true, true⟩ := by
  have hretires := retiresJTI_torndown (D := D) hb claims.jti claims.grantID expiresAt es w
  rcases hb with hb | hb
  · have hnot : ¬TombstoneBacked r.opts := fun hb' => not_registryBacked hb' hb
    rw [verdict_registry hretires.clients hclient hb, verdict_registry rfl hclient hb,
      revoked_ok_iff, revoked_ok_iff, registryRevokes, registryRevokes, hretires.registry hb,
      find_revokeByJTI, if_pos rfl]
    cases hrow : find w.accessTokens claims.jti with
    | none => simp [hb]
    | some row => simp [hnot, accessTokenRowOps]
  · have hnot : ¬RegistryBacked r.opts := not_registryBacked hb
    obtain ⟨hat, hgr⟩ := hretires.tombstones hb
    rw [verdict_tombstones hretires.clients hclient hb, verdict_tombstones rfl hclient hb,
      revoked_ok_iff, revoked_ok_iff, tombstonesRevoke, tombstonesRevoke, registryRevokes,
      registryRevokes, hat, hgr]
    simp only [Bool.or_eq_true, isRevoked_revokeJTI, hnot, hb, false_implies, true_implies,
      true_and, and_true, or_assoc]

lemma verdict_elsewhere (hg : claims.grantID ≠ "") (hne : claims.grantID ≠ grantID)
    (hs : GrantWide s grantID ∨
      ∃ jti expiresAt, s = jwtAccessTokenByJTI jti grantID expiresAt ∧ claims.jti ≠ jti)
    (es es' : ℕ → Chance) :
    verdict D (reader r clients) claims es' (torndown D r s es w).1 =
        verdict D (reader r clients) claims es' w ↔
      (RegistryBacked r.opts → GrantWide s grantID → Listed w claims.jti grantID →
        verdict D (reader r clients) claims es' w = ⟨true, true⟩) := by
  rcases hs with hs | ⟨jti, expiresAt, rfl, hjti⟩
  · by_cases hempty : grantID = ""
    · subst hempty
      refine iff_of_true ?_ fun _ _ hlisted => absurd rfl hlisted.1
      rcases hs with rfl | rfl | rfl <;> rfl
    · have hretires := retires_torndown (D := D) hb hs hempty es w
      have hid : s.grantID = grantID := by rcases hs with rfl | rfl | rfl <;> rfl
      rcases hb with hb | hb
      · obtain ⟨ρ, hρ⟩ := hretires.registry hb
        rw [hid] at hρ
        rw [verdict_registry hretires.clients hclient hb, verdict_registry rfl hclient hb,
          revoked_ok_iff, Answer.mk.injEq, Bool.eq_iff_iff, registryRevokes_iff hρ]
        simp only [and_true, hb, hs, true_implies]
        exact ⟨fun h hlisted => h.mp (.inl hlisted), fun h => ⟨fun h' => h'.elim h id, .inr⟩⟩
      · refine iff_of_true ?_ fun hb' => absurd hb' (not_registryBacked hb)
        rw [verdict_tombstones hretires.clients hclient hb, verdict_tombstones rfl hclient hb,
          tombstonesRevoke_eq hg, tombstonesRevoke_eq hg, hretires.tombstones hb,
          isRevoked_revokeGrant_other (show claims.grantID ≠ s.grantID from hid ▸ hne)]
  · have hretires := retiresJTI_torndown (D := D) hb jti grantID expiresAt es w
    refine iff_of_true ?_ fun _ hs => by rcases hs with hs | hs | hs <;> cases hs
    rcases hb with hb | hb
    · rw [verdict_registry hretires.clients hclient hb, verdict_registry rfl hclient hb,
        registryRevokes, registryRevokes, hretires.registry hb, find_revokeByJTI, if_neg hjti]
    · rw [verdict_tombstones hretires.clients hclient hb, verdict_tombstones rfl hclient hb,
        tombstonesRevoke_eq hg, tombstonesRevoke_eq hg, (hretires.tombstones hb).2]
      congr 1
      rw [Bool.eq_iff_iff, isRevoked_revokeJTI]
      exact ⟨fun h => h.resolve_left fun h => hjti h.2, .inr⟩

end Agreement

/-- After a complete grant-wide teardown the read side answers revoked for the
tokens of the grant, save for a tombstone dated at or before the zero time.
After the revocation of one token it does so exactly if the token had something
to be revoked by: a row where the registry answers, a jti where the denylist
does. Tokens of other grants are answered as before, unless the registry answers and
the index still lists the row of such a token under the grant; after a history whose
commits overwrite in place it lists none. -/
theorem write_and_read_sides_agree_iff (D : KeyDigest) (r : Revoker) (clients : Bool)
    (w : Substores) (hb : Backed r.opts) (hw : Reached w) (es es' : ℕ → Chance)
    (claims : AccessTokenClaims) (hclient : claims.clientID ∈ w.clients) :
    (∀ s, GrantWide s claims.grantID → (torndown D r s es w).2.complete = true →
      claims.issuedAt ≤ r.now → (RegistryBacked r.opts → Registered w claims) →
      (verdict D (reader r clients) claims es' (torndown D r s es w).1 = ⟨true, true⟩ ↔
        (TombstoneBacked r.opts → 0 < r.now) ∨
          verdict D (reader r clients) claims es' w = ⟨true, true⟩)) ∧
    (∀ expiresAt, (torndown D r (jwtAccessTokenByJTI claims.jti claims.grantID expiresAt)
          es w).2.jtiPersisted = true →
      (verdict D (reader r clients) claims es' (torndown D r
          (jwtAccessTokenByJTI claims.jti claims.grantID expiresAt) es w).1 = ⟨true, true⟩ ↔
        ((RegistryBacked r.opts → (find w.accessTokens claims.jti).isSome = true) ∧
            (TombstoneBacked r.opts → claims.jti ≠ "")) ∨
          verdict D (reader r clients) claims es' w = ⟨true, true⟩)) ∧
    (∀ s grantID, claims.grantID ≠ "" → claims.grantID ≠ grantID →
      (GrantWide s grantID ∨
        ∃ jti expiresAt, s = jwtAccessTokenByJTI jti grantID expiresAt ∧ claims.jti ≠ jti) →
      (∀ row, find w.accessTokens claims.jti = some row →
        row.grantID = claims.grantID) →
      (verdict D (reader r clients) claims es' (torndown D r s es w).1 =
          verdict D (reader r clients) claims es' w ↔
        (RegistryBacked r.opts → GrantWide s grantID → Listed w claims.jti grantID →
          verdict D (reader r clients) claims es' w = ⟨true, true⟩)) ∧
      (InPlace w → ¬Listed w claims.jti grantID)) :=
  ⟨fun _ hs hcomplete hiat hreg =>
      verdict_after_grant clients hb hclient hw hs hcomplete hiat hreg es',
    fun expiresAt _ => verdict_after_jti clients hb hclient expiresAt es es',
    fun _ _ hg hne hs hrow => ⟨verdict_elsewhere clients hb hclient hg hne hs es es',
      fun hw => hw.not_listed fun row h => by rw [hrow row h]; exact hne⟩⟩

def registryRevoker : Revoker := newRevoker true true true true .jtiRegistry 0 7 "revoked"

def sampleChance : ℕ → Chance := fun _ => ⟨7, ascending⟩

def sampleClaims (jti grantID : String) : AccessTokenClaims := ⟨"client", grantID, jti, 1⟩

def registerTwo : List (TokenEvent AccessTokens.Call) :=
  [.call (ranged (.register (sampleToken "t1" "g1"))),
    .call (ranged (.register (sampleToken "t2" "g2")))]

def twoRegistered : Substores :=
  { newSubstores {"client"} with accessTokens := Registry.api.after emptyStore registerTwo }

lemma reached_twoRegistered : Reached twoRegistered where
  registry := ⟨registerTwo, rfl⟩
  revocations := ⟨[], rfl⟩

lemma inPlace_twoRegistered : InPlace twoRegistered :=
  ⟨registerTwo, ⟨fun _ => trivial, fun _ => trivial, trivial⟩, rfl⟩

theorem write_and_read_sides_agree_registered :
    verdict plainDigest (reader registryRevoker true) (sampleClaims "t1" "g1") sampleChance
        (torndown plainDigest registryRevoker (wholeGrant "g1") sampleChance twoRegistered).1 =
      ⟨true, true⟩ ∧
    verdict plainDigest (reader registryRevoker true) (sampleClaims "t1" "g1") sampleChance
        (torndown plainDigest registryRevoker (jwtAccessTokenByJTI "t1" "g1" 100) sampleChance
          twoRegistered).1 = ⟨true, true⟩ ∧
    verdict plainDigest (reader registryRevoker true) (sampleClaims "t2" "g2") sampleChance
        (torndown plainDigest registryRevoker (wholeGrant "g1") sampleChance twoRegistered).1 =
      ⟨false, true⟩ := by
  have hb : Backed registryRevoker.opts := .inl rfl
  have hnot : ¬TombstoneBacked registryRevoker.opts := fun h => by cases h.1
  have hrow : Registered twoRegistered (sampleClaims "t1" "g1") :=
    ⟨sampleToken "t1" "g1", by decide +kernel, rfl⟩
  obtain ⟨hgrant, hjti, -⟩ := write_and_read_sides_agree_iff plainDigest registryRevoker true
    twoRegistered hb reached_twoRegistered sampleChance sampleChance (sampleClaims "t1" "g1")
    (by decide)
  obtain ⟨-, -, hother⟩ := write_and_read_sides_agree_iff plainDigest registryRevoker true
    twoRegistered hb reached_twoRegistered sampleChance sampleChance (sampleClaims "t2" "g2")
    (by decide)
  refine ⟨(hgrant (wholeGrant "g1") (.inl rfl) (by decide +kernel) (by decide) fun _ => hrow).mpr
    (.inl fun h => absurd h hnot), ?_, ?_⟩
  · exact (hjti 100 (by decide +kernel)).mpr (.inl ⟨fun _ => by decide +kernel,
      fun h => absurd h hnot⟩)
  · obtain ⟨hsame, hlisted⟩ := hother (wholeGrant "g1") "g1" (by decide) (by decide)
      (.inl (.inl rfl)) fun row h => by
        have hfind : find twoRegistered.accessTokens "t2" =
          some (sampleToken "t2" "g2") := by decide +kernel
        cases h.symm.trans hfind
        rfl
    rw [hsame.mpr fun _ _ h => absurd h (hlisted inPlace_twoRegistered)]
    decide +kernel

/-- The run reports that a row was persisted, yet nothing was written for a token
the registry does not know: it keeps verifying. -/
theorem unregistered_jti_reported_persisted :
    Backed registryRevoker.opts ∧ Reached twoRegistered ∧
      (torndown plainDigest registryRevoker (jwtAccessTokenByJTI "t3" "g1" 100) sampleChance
        twoRegistered).2.jtiPersisted = true ∧
      verdict plainDigest (reader registryRevoker true) (sampleClaims "t3" "g1") sampleChance
        (torndown plainDigest registryRevoker (jwtAccessTokenByJTI "t3" "g1" 100) sampleChance
          twoRegistered).1 = ⟨false, true⟩ :=
  ⟨.inl rfl, reached_twoRegistered, by decide +kernel, by decide +kernel⟩

end OidcProvider.RevocationAgreement
