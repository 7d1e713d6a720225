import OidcProvider.StagedOverlay
import OidcProvider.StoreRecords

/-!
# The in-memory grant-revocation store

`inmem/grant_revocation.go` and its transactional view in `inmem/tx_aux.go`.
Two maps: tombstones by grant id and a denylist by jti. A tombstone keeps the
whole-grant cutoff apart from the access-token-only one, and later writes only
widen what it covers. The view holds one overlay for each map.
-/
namespace OidcProvider.GrantRevocationStore
open FiniteMaps StagedOverlay StoreRecords

/-- The two cutoffs of a grant; zero where none was written. -/
structure TombstoneRow where
  revokedAt : Time
  accessRevokedAt : Time
  expiresAt : Time
  reason : String
  deriving DecidableEq

/-- The later of the two. -/
def widen (stored supplied : Time) : Time := if stored < supplied then supplied else stored

namespace TombstoneRow

/-- The reason written first stays. -/
def merge (r : TombstoneRow) (t : GrantTombstone) : TombstoneRow where
  revokedAt := if t.accessTokensOnly then r.revokedAt else widen r.revokedAt t.revokedAt
  accessRevokedAt :=
    if t.accessTokensOnly then widen r.accessRevokedAt t.revokedAt else r.accessRevokedAt
  expiresAt := widen r.expiresAt t.expiresAt
  reason := if r.reason = "" ∧ t.reason ≠ "" then t.reason else r.reason

def new (t : GrantTombstone) : TombstoneRow := merge ⟨0, 0, 0, ""⟩ t

/-- `covers`: a zero cutoff was never written and covers nothing. -/
def covers (cutoff iat : Time) : Bool := !decide (cutoff = 0) && !decide (cutoff < iat)

lemma covers_iff (cutoff iat : Time) : covers cutoff iat = true ↔ cutoff ≠ 0 ∧ iat ≤ cutoff := by
  simp [covers]

/-- `revokes`: either cutoff revokes an access token. -/
def revokes (r : TombstoneRow) (iat : Time) : Bool :=
  covers r.revokedAt iat || covers r.accessRevokedAt iat

/-- `refusesIssuance`: only the whole-grant cutoff refuses a credential. -/
def refusesIssuance (r : TombstoneRow) (issuedAt : Time) : Bool := covers r.revokedAt issuedAt

end TombstoneRow

/-! ### The store -/

/-- Tombstones by grant id, and revoked tokens by jti. -/
structure GrantRevocations where
  tombstones : StringMap TombstoneRow
  denylist : StringMap RevokedJTI

def newGrantRevocations : GrantRevocations := ⟨∅, ∅⟩

/-- The tombstone after one more write: merged into the one that is there. -/
def entombed (existing : Option TombstoneRow) (t : GrantTombstone) : TombstoneRow :=
  match existing with
  | some row => row.merge t
  | none => TombstoneRow.new t

def revokeGrant (s : GrantRevocations) (t : GrantTombstone) : GrantRevocations :=
  if t.grantID = "" then s
  else { s with
    tombstones := s.tombstones.insert t.grantID (entombed (s.tombstones.lookup t.grantID) t) }

/-- The first entry of a jti stays. -/
def revokeJTI (s : GrantRevocations) (r : RevokedJTI) : GrantRevocations :=
  if r.jti = "" then s
  else match s.denylist.lookup r.jti with
    | some _ => s
    | none => { s with denylist := s.denylist.insert r.jti r }

/-- `IsRevoked` over any view of the two maps: the denylist, then the tombstone. -/
def isRevokedIn (denylist : String → Option RevokedJTI)
    (tombstones : String → Option TombstoneRow) (grantID jti : String) (iat : Time) : Bool :=
  if jti ≠ "" ∧ (denylist jti).isSome then true
  else if grantID = "" then false
  else match tombstones grantID with
    | none => false
    | some tomb => tomb.revokes iat

def isIssuanceRevokedIn (tombstones : String → Option TombstoneRow) (grantID : String)
    (issuedAt : Time) : Bool :=
  if grantID = "" then false
  else match tombstones grantID with
    | none => false
    | some tomb => tomb.refusesIssuance issuedAt

def isRevoked (s : GrantRevocations) (grantID jti : String) (iat : Time) : Bool :=
  isRevokedIn s.denylist.lookup s.tombstones.lookup grantID jti iat

def isIssuanceRevoked (s : GrantRevocations) (grantID : String) (issuedAt : Time) : Bool :=
  isIssuanceRevokedIn s.tombstones.lookup grantID issuedAt

lemma isRevoked_iff (s : GrantRevocations) (grantID jti : String) (iat : Time) :
    isRevoked s grantID jti iat = true ↔
      (jti ≠ "" ∧ (s.denylist.lookup jti).isSome = true) ∨
        grantID ≠ "" ∧
          ∃ tomb, s.tombstones.lookup grantID = some tomb ∧ tomb.revokes iat = true := by
  unfold isRevoked isRevokedIn
  by_cases hdeny : jti ≠ "" ∧ (s.denylist.lookup jti).isSome = true
  · simp [hdeny]
  · rw [if_neg hdeny]
    by_cases hg : grantID = ""
    · simp only [hg, if_true, ne_eq, not_true_eq_false, false_and, or_false]
      exact ⟨fun h => (by cases h), fun h => absurd h hdeny⟩
    · dsimp only
      cases hrow : s.tombstones.lookup grantID <;> simp [hdeny, hg]

lemma isIssuanceRevoked_iff (s : GrantRevocations) (grantID : String) (issuedAt : Time) :
    isIssuanceRevoked s grantID issuedAt = true ↔
      grantID ≠ "" ∧ ∃ tomb, s.tombstones.lookup grantID = some tomb ∧
        tomb.refusesIssuance issuedAt = true := by
  unfold isIssuanceRevoked isIssuanceRevokedIn
  by_cases hg : grantID = ""
  · simp [hg]
  · dsimp only
    cases hrow : s.tombstones.lookup grantID <;> simp [hg]

def staleTombstone (cutoff : Time) (row : TombstoneRow) : Bool :=
  isExpiredStrict row.expiresAt cutoff

def staleJTI (cutoff : Time) (row : RevokedJTI) : Bool := isExpiredStrict row.expiresAt cutoff

/-- `GC`: drops what expired before the cutoff, and counts it. -/
def gc (ρ : KeyOrder) (s : GrantRevocations) (cutoff : Time) : GrantRevocations × ℕ :=
  (⟨sweep (staleTombstone cutoff) ρ s.tombstones, sweep (staleJTI cutoff) ρ s.denylist⟩,
    sweepCount (staleTombstone cutoff) ρ s.tombstones + sweepCount (staleJTI cutoff) ρ s.denylist)

/-! ### The transactional view -/

/-- The view of a transaction: an overlay on each map. -/
structure GrantRevocationStaging where
  tombstones : Overlay String TombstoneRow
  denylist : Overlay String RevokedJTI

namespace GrantRevocationStaging

def openOn (s : GrantRevocations) : GrantRevocationStaging :=
  ⟨Overlay.new s.tombstones, Overlay.new s.denylist⟩

def revokeGrant (st : GrantRevocationStaging) (t : GrantTombstone) : GrantRevocationStaging :=
  if t.grantID = "" then st
  else { st with
    tombstones := st.tombstones.stage t.grantID (entombed (st.tombstones.lookup t.grantID) t) }

def revokeJTI (st : GrantRevocationStaging) (r : RevokedJTI) : GrantRevocationStaging :=
  if r.jti = "" then st
  else match st.denylist.lookup r.jti with
    | some _ => st
    | none => { st with denylist := st.denylist.stage r.jti r }

def isRevoked (st : GrantRevocationStaging) (grantID jti : String) (iat : Time) : Bool :=
  isRevokedIn st.denylist.lookup st.tombstones.lookup grantID jti iat

def isIssuanceRevoked (st : GrantRevocationStaging) (grantID : String) (issuedAt : Time) : Bool :=
  isIssuanceRevokedIn st.tombstones.lookup grantID issuedAt

def gc (ρ : KeyOrder) (st : GrantRevocationStaging) (cutoff : Time) : GrantRevocationStaging × ℕ :=
  let r₁ := reclaim (staleTombstone cutoff) ρ st.tombstones
  let r₂ := reclaim (staleJTI cutoff) ρ st.denylist
  (⟨r₁.1, r₂.1⟩, r₁.2 + r₂.2)

def flushLocked (ρ : KeyOrder) (st : GrantRevocationStaging) : GrantRevocations where
  tombstones := (st.tombstones.flush (fun (x : Unit) _ _ => x) (fun x _ _ => x) ρ ()).m
  denylist := (st.denylist.flush (fun (x : Unit) _ _ => x) (fun x _ _ => x) ρ ()).m

/-- The committed store below the overlays. -/
def parent (st : GrantRevocationStaging) : GrantRevocations :=
  ⟨st.tombstones.base, st.denylist.base⟩

/-- The view answers every lookup as the store would. -/
structure Shows (st : GrantRevocationStaging) (s : GrantRevocations) : Prop where
  tombstones : ∀ grantID, st.tombstones.lookup grantID = s.tombstones.lookup grantID
  denylist : ∀ jti, st.denylist.lookup jti = s.denylist.lookup jti

variable {st : GrantRevocationStaging} {s : GrantRevocations}

lemma shows_open (s : GrantRevocations) : (openOn s).Shows s := ⟨fun _ => rfl, fun _ => rfl⟩

lemma stage_eq_insert {V : Type} {o : Overlay String V} {m : StringMap V}
    (h : ∀ key, o.lookup key = m.lookup key) (key : String) (row : V) (key' : String) :
    (o.stage key row).lookup key' = (m.insert key row).lookup key' := by
  have hset := Overlay.lookup_set o key key' (some row)
  rw [lookup_insert_ite, ← h key']
  exact hset

lemma shows_revokeGrant (h : st.Shows s) (t : GrantTombstone) :
    (st.revokeGrant t).Shows (GrantRevocationStore.revokeGrant s t) := by
  unfold revokeGrant GrantRevocationStore.revokeGrant
  split_ifs with hid
  · exact h
  · rw [h.tombstones t.grantID]
    exact ⟨stage_eq_insert h.tombstones _ _, h.denylist⟩

lemma shows_revokeJTI (h : st.Shows s) (r : RevokedJTI) :
    (st.revokeJTI r).Shows (GrantRevocationStore.revokeJTI s r) := by
  unfold revokeJTI GrantRevocationStore.revokeJTI
  split_ifs with hjti
  · exact h
  · rw [h.denylist r.jti]
    cases s.denylist.lookup r.jti with
    | some _ => exact h
    | none => exact ⟨h.tombstones, stage_eq_insert h.denylist _ _⟩

lemma isRevoked_eq (h : st.Shows s) (grantID jti : String) (iat : Time) :
    st.isRevoked grantID jti iat = GrantRevocationStore.isRevoked s grantID jti iat := by
  unfold isRevoked GrantRevocationStore.isRevoked isRevokedIn
  rw [h.denylist, h.tombstones]

lemma isIssuanceRevoked_eq (h : st.Shows s) (grantID : String) (issuedAt : Time) :
    st.isIssuanceRevoked grantID issuedAt =
      GrantRevocationStore.isIssuanceRevoked s grantID issuedAt := by
  unfold isIssuanceRevoked GrantRevocationStore.isIssuanceRevoked isIssuanceRevokedIn
  rw [h.tombstones]

lemma shows_gc (h : st.Shows s) (ρ ρ' : KeyOrder) (cutoff : Time) :
    (st.gc ρ cutoff).1.Shows (GrantRevocationStore.gc ρ' s cutoff).1 ∧
      (st.gc ρ cutoff).2 = (GrantRevocationStore.gc ρ' s cutoff).2 := by
  refine ⟨⟨fun grantID => ?_, fun jti => ?_⟩, ?_⟩
  · exact (lookup_reclaim _ ρ st.tombstones grantID).trans
      (by rw [h.tombstones, ← lookup_sweep _ ρ' s.tombstones]; rfl)
  · exact (lookup_reclaim _ ρ st.denylist jti).trans
      (by rw [h.denylist, ← lookup_sweep _ ρ' s.denylist]; rfl)
  · have htomb := reclaim_count_of_rows (staleTombstone cutoff) h.tombstones ρ
    have hdeny := reclaim_count_of_rows (staleJTI cutoff) h.denylist ρ
    simp only [gc, GrantRevocationStore.gc, htomb, hdeny, sweepCount_eq]

lemma parent_revokeGrant (t : GrantTombstone) : (st.revokeGrant t).parent = st.parent := by
  unfold revokeGrant
  split_ifs <;> rfl

lemma parent_revokeJTI (r : RevokedJTI) : (st.revokeJTI r).parent = st.parent := by
  unfold revokeJTI
  split_ifs
  · rfl
  · split <;> rfl

lemma parent_gc (ρ : KeyOrder) (cutoff : Time) : (st.gc ρ cutoff).1.parent = st.parent := by
  simp only [parent, gc, reclaim, rangeLoop_base]

/-- A commit leaves the store that the view shows. -/
lemma flushLocked_eq (h : st.Shows s) (ρ : KeyOrder) : st.flushLocked ρ = s := by
  obtain ⟨tombstones, denylist⟩ := s
  have htomb : (st.flushLocked ρ).tombstones = tombstones :=
    Finmap.ext_lookup fun k => (lookup_flush _ _ ρ st.tombstones () k).trans (h.tombstones k)
  have hdeny : (st.flushLocked ρ).denylist = denylist :=
    Finmap.ext_lookup fun k => (lookup_flush _ _ ρ st.denylist () k).trans (h.denylist k)
  rw [← htomb, ← hdeny]

end GrantRevocationStaging

end OidcProvider.GrantRevocationStore
