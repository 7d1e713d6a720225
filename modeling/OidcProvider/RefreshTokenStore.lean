import OidcProvider.QueueTraversal
import OidcProvider.SecondaryIndexes
import OidcProvider.StoreRecords

/-!
# The refresh-token store

The in-memory store of `refreshstore.go`: its rows, the client, grant and
parent indexes, and the sealed responses kept for the delivery grace window.
Every operation is one critical section and reads the clock once; the reading
is an argument. Rows are never deleted. The parent index is keyed by the digest
of the parent's id and drives the breadth-first revocation of a chain.
-/
namespace OidcProvider.RefreshTokenStore
open FiniteMaps SecondaryIndexes StoreRecords QueueTraversal

/-- One sealed token response, kept until its predecessor expires. -/
structure RetryResponse where
  contents : List UInt8
  expiresAt : Time
  deriving DecidableEq

structure RefreshStore where
  m : StringMap RefreshToken
  byClient : Index
  byGrant : Index
  byParent : Index
  retries : StringMap RetryResponse
  retriesSinceGC : UInt32

def newRefreshStore : RefreshStore := ⟨∅, ∅, ∅, ∅, ∅, 0⟩

def errNilToken : StoreError := .other "inmem: nil refresh token"

def errRetryableRotation : StoreError :=
  .other "inmem: retryable refresh rotation requires successor, parent, and sealed response"

def retryReclaimable (now : Time) (rec : RetryResponse) : Bool :=
  isExpiredStrict rec.expiresAt now

/-- `retryRetention`: the predecessor's expiry bounds the response, and the
successor's own when the predecessor cannot be resolved. -/
def retryRetention (predecessor : Option RefreshToken) (successor : RefreshToken) : Time :=
  match predecessor with
  | some p => p.expiresAt
  | none => successor.expiresAt

/-- `markRevoked`: stamps a row consumed and revoked. -/
def markRevoked (now : Time) (rec : RefreshToken) : RefreshToken :=
  { rec with
    consumedAt := match rec.consumedAt with
      | none => some now
      | some t => some t
    revoked := true }

section
variable (D : KeyDigest)

/-- `storeRefresh`: the stored row carries the digest in place of the raw id. -/
def storeRefresh (token : RefreshToken) (key : String) : RefreshToken := { token with id := key }

/-- `assertParentAliveLocked`, over the view of the rows it is given: a root and
an absent parent pass. -/
def assertParentAlive (rows : String → Option RefreshToken) : Option String → StoreReply
  | none => .ok ()
  | some parentID =>
    match rows (D.hashKey parentID) with
    | some parent => if parent.revoked then .error .alreadyConsumed else .ok ()
    | none => .ok ()

def indexRefresh (s : RefreshStore) (id : String) (rec : RefreshToken) : RefreshStore :=
  { s with
    byClient := s.byClient.add rec.clientID id
    byGrant := s.byGrant.add rec.grantID id
    byParent := match rec.parentID with
      | none => s.byParent
      | some parentID => s.byParent.add (D.hashKey parentID) id }

/-- The insert of a checked row: the primary map, then the indexes. -/
def insertRefresh (s : RefreshStore) (id : String) (rec : RefreshToken) : RefreshStore :=
  indexRefresh D { s with m := s.m.insert id rec } id rec

def save (s : RefreshStore) : Option RefreshToken → RefreshStore × StoreReply
  | none => (s, .error errNilToken)
  | some token =>
    let key := D.hashKey token.id
    match s.m.lookup key with
    | some _ => (s, .error .alreadyExists)
    | none =>
      match assertParentAlive D s.m.lookup token.parentID with
      | .error e => (s, .error e)
      | .ok () =>
        (insertRefresh D s key (storeRefresh token key), .ok ())

def gcRetries (ρ : KeyOrder) (now : Time) (s : RefreshStore) : RefreshStore :=
  { s with retries := sweep (retryReclaimable now) ρ s.retries }

def maybeGCRetries (ρ : KeyOrder) (now : Time) (s : RefreshStore) : RefreshStore :=
  let due := Sweeper.due s.retriesSinceGC s.retries.keys.card
  let s := { s with retriesSinceGC := due.1 }
  if due.2 then gcRetries ρ now s else s

def putRetry (s : RefreshStore) (parentKey : String) (rec : RetryResponse) : RefreshStore :=
  { s with retries := s.retries.insert parentKey rec }

def saveRotationWithRetry (ρ : KeyOrder) (now : Time) (s : RefreshStore)
    (token : Option RefreshToken) (contents : List UInt8) : RefreshStore × StoreReply :=
  match token with
  | none => (s, .error errRetryableRotation)
  | some token =>
    match token.parentID with
    | none => (s, .error errRetryableRotation)
    | some parentID =>
      if contents = [] then (s, .error errRetryableRotation)
      else
        let key := D.hashKey token.id
        match s.m.lookup key with
        | some _ => (s, .error .alreadyExists)
        | none =>
          match assertParentAlive D s.m.lookup token.parentID with
          | .error e => (s, .error e)
          | .ok () =>
            let parentKey := D.hashKey parentID
            let s := maybeGCRetries ρ now (insertRefresh D s key (storeRefresh token key))
            let expiresAt := retryRetention (s.m.lookup parentKey) token
            (putRetry s parentKey ⟨contents, expiresAt⟩, .ok ())

def presentRetry (now : Time) : Option RetryResponse → Fallible (List UInt8)
  | none => .error .notFound
  | some rec => if retryReclaimable now rec then .error .notFound else .ok rec.contents

def loadRetryResponse (now : Time) (s : RefreshStore) (predecessorID : String) :
    Fallible (List UInt8) :=
  presentRetry now (s.retries.lookup (D.hashKey predecessorID))

def find (now : Time) (s : RefreshStore) (id : String) : Fallible RefreshToken :=
  let key := D.hashKey id
  match s.m.lookup key with
  | none => .error .notFound
  | some rec =>
    if rec.id ≠ key then .error .notFound
    else if isExpiredStrict rec.expiresAt now then .error .notFound
    else .ok (rec.presentedAs id)

/-- The source reads the clock for the expiry and again for the stamp; here both are one
reading. -/
def consume (now : Time) (s : RefreshStore) (id : String) :
    RefreshStore × ConsumeResult RefreshToken :=
  let key := D.hashKey id
  match s.m.lookup key with
  | none => (s, .failed .notFound)
  | some rec =>
    if rec.id ≠ key then (s, .failed .notFound)
    else if isExpiredStrict rec.expiresAt now then (s, .failed .notFound)
    else
      match rec.consumedAt with
      | some _ => (s, .alreadyConsumed (rec.presentedAs id))
      | none =>
        let updated := rec.stampConsumed now
        ({ s with m := s.m.insert key updated }, .consumed (updated.presentedAs id))

/-- `revokeChainLocked`: the root, then breadth-first its descendants through the
parent index. The number of listed keys bounds the pops. -/
def revokeChainLocked (ρ : KeyOrder) (now : Time) (s : RefreshStore)
    (rootKey : String) : RefreshStore :=
  { s with
    m := traverse (fun parentKey => ρ.visit (s.byParent.ids parentKey)) (modify (markRevoked now))
      (s.byParent.entries.card + 1) rootKey (modify (markRevoked now) s.m rootKey) }

def revokeChain (ρ : KeyOrder) (now : Time) (s : RefreshStore) (rootID : String) :
    RefreshStore × StoreReply :=
  let rootKey := D.hashKey rootID
  match s.m.lookup rootKey with
  | none => (s, .error .notFound)
  | some _ => (revokeChainLocked ρ now s rootKey, .ok ())

def revokeByIndex (ρ : KeyOrder) (now : Time) (s : RefreshStore)
    (ids : Finset String) : RefreshStore :=
  { s with m := (ρ.visit ids).foldl (modify (markRevoked now)) s.m }

def revokeByGrant (ρ : KeyOrder) (now : Time) (s : RefreshStore) (grantID : String) :
    RefreshStore :=
  if grantID = "" then s else revokeByIndex ρ now s (s.byGrant.ids grantID)

def revokeByClient (ρ : KeyOrder) (now : Time) (s : RefreshStore) (clientID : String) :
    RefreshStore :=
  if clientID = "" then s else revokeByIndex ρ now s (s.byClient.ids clientID)

end

/-! ### Columns and their indexes -/

inductive Column where
  | client
  | grant
  | parent
  deriving DecidableEq

/-- The value a row is listed under; a root row has no parent value. -/
def Column.attr (D : KeyDigest) : Column → RefreshToken → String
  | .client, rec => rec.clientID
  | .grant, rec => rec.grantID
  | .parent, rec => (rec.parentID.map D.hashKey).getD ""

def Column.index : Column → RefreshStore → Index
  | .client, s => s.byClient
  | .grant, s => s.byGrant
  | .parent, s => s.byParent

/-- Every row carries its own key, and every index lists exactly the rows that
carry the value. -/
structure WellFormed (D : KeyDigest) (s : RefreshStore) : Prop where
  ids : ∀ key row, s.m.lookup key = some row → row.id = key
  listed : ∀ c : Column, Lists (c.attr D) s.m (c.index s)

def frozen (row : RefreshToken) : RefreshToken := { row with consumedAt := none, revoked := false }

section
variable {D : KeyDigest} {s s' : RefreshStore} (ρ : KeyOrder) (now : Time)
  (row : RefreshToken) (c : Column)
variable {contents : List UInt8}

lemma wellFormed_new : WellFormed D newRefreshStore where
  ids key row h := by simp [newRefreshStore] at h
  listed c key value := by cases c <;> simp [newRefreshStore, Column.index, Index.ids]

lemma index_insertRefresh (s : RefreshStore) (id : String) (rec : RefreshToken) :
    c.index (insertRefresh D s id rec) = (c.index s).add (c.attr D rec) id := by
  cases c with
  | client => rfl
  | grant => rfl
  | parent =>
    simp only [Column.index, Column.attr, insertRefresh, indexRefresh]
    cases rec.parentID with
    | none => simp [Index.add]
    | some parentID => rfl

@[simp] lemma m_insertRefresh (s : RefreshStore) (id : String) (rec : RefreshToken) :
    (insertRefresh D s id rec).m = s.m.insert id rec := rfl

lemma wellFormed_insert (h : WellFormed D s) {id : String} (hfresh : s.m.lookup id = none)
    {rec : RefreshToken} (hid : rec.id = id) :
    WellFormed D (insertRefresh D s id rec) where
  ids key row hrow := by
    rw [m_insertRefresh, lookup_insert_ite] at hrow
    split_ifs at hrow with hk
    · cases hrow
      exact hid.trans hk.symm
    · exact h.ids key row hrow
  listed c := by
    rw [index_insertRefresh, m_insertRefresh]
    exact (h.listed c).insert hfresh rec

lemma attr_frozen : c.attr D (frozen row) = c.attr D row := by
  cases c <;> rfl

/-- Rows that change in place keep their ids and their places in the indexes. -/
theorem WellFormed.of_rows (h : WellFormed D s) (hidx : ∀ c : Column, c.index s' = c.index s)
    (hrow : ∀ key, (s'.m.lookup key).map frozen = (s.m.lookup key).map frozen) :
    WellFormed D s' := by
  constructor
  case ids =>
    intro key row hk
    have hfrozen := hrow key
    rw [hk, Option.map_some, eq_comm, Option.map_eq_some_iff] at hfrozen
    obtain ⟨row', hk', heq⟩ := hfrozen
    rw [← h.ids key row' hk']
    exact (congrArg RefreshToken.id heq).symm
  case listed =>
    intro c
    rw [hidx c]
    refine (h.listed c).congr fun key => ?_
    have hattr := congrArg (Option.map (c.attr D)) (hrow key)
    simp only [Option.map_map, Function.comp_def, attr_frozen] at hattr
    exact hattr

lemma markRevoked_of_revoked {now : Time} {row : RefreshToken} (hrev : row.revoked = true)
    (hcons : row.consumedAt.isSome = true) : markRevoked now row = row := by
  obtain ⟨t, ht⟩ := Option.isSome_iff_exists.mp hcons
  unfold markRevoked
  cases row
  simp_all

lemma consumedAt_markRevoked : (markRevoked now row).consumedAt.isSome = true := by
  unfold markRevoked
  cases row.consumedAt <;> rfl

/-- A key below another one in the parent index, or equal to it. -/
def Descends (i : Index) (a b : String) : Prop :=
  Relation.ReflTransGen (fun parentKey childKey => childKey ∈ i.ids parentKey) a b

/-- The chain revocation marks the root and all keys below it, and no other. -/
theorem lookup_revokeChainLocked (s : RefreshStore) (rootKey key : String) :
    (Descends s.byParent rootKey key → (revokeChainLocked ρ now s rootKey).m.lookup key =
        (s.m.lookup key).map (markRevoked now)) ∧
      (¬Descends s.byParent rootKey key →
        (revokeChainLocked ρ now s rootKey).m.lookup key = s.m.lookup key) := by
  have hU : ∀ k, ∀ c ∈ ρ.visit (s.byParent.ids k), c ∈ s.byParent.entries :=
    fun k c hc => Index.mem_entries ((ρ.mem_visit _ c).mp hc)
  obtain ⟨order, hn, hmem, heq⟩ := traverse_visits hU le_rfl rootKey
    (modify (markRevoked now) s.m rootKey)
  have hreach : ∀ k, Reaches (fun parentKey => ρ.visit (s.byParent.ids parentKey)) rootKey k ↔
      Descends s.byParent rootKey k := by
    intro k
    unfold Reaches Descends
    simp only [ρ.mem_visit]
  have hlookup : (revokeChainLocked ρ now s rootKey).m.lookup key =
      if key ∈ order then ((modify (markRevoked now) s.m rootKey).lookup key).map (markRevoked now)
      else (modify (markRevoked now) s.m rootKey).lookup key := by
    rw [← lookup_foldl_modify _ hn, ← heq]
    rfl
  have hin : key ∈ order ↔ key ≠ rootKey ∧ Descends s.byParent rootKey key := by
    rw [hmem, hreach]
  rw [hlookup, lookup_modify]
  constructor
  · intro h
    by_cases hk : key = rootKey
    · rw [if_neg fun h => (hin.mp h).1 hk, if_pos hk]
    · rw [if_pos (hin.mpr ⟨hk, h⟩), if_neg hk]
  · intro h
    have hk : key ≠ rootKey := by
      rintro rfl
      exact h .refl
    rw [if_neg fun hmem => h (hin.mp hmem).2, if_neg hk]

lemma lookup_revokeByIndex (s : RefreshStore) (ids : Finset String) (key : String) :
    (revokeByIndex ρ now s ids).m.lookup key =
      if key ∈ ids then (s.m.lookup key).map (markRevoked now) else s.m.lookup key := by
  refine (lookup_foldl_modify _ (ρ.nodup_visit ids) s.m key).trans ?_
  simp only [ρ.mem_visit]

/-! ### What each operation can do -/

lemma assertParentAlive_ok_iff (rows : String → Option RefreshToken) (parentID : Option String) :
    assertParentAlive D rows parentID = .ok () ↔
      ∀ p, parentID = some p → ∀ row, rows (D.hashKey p) = some row → row.revoked = false := by
  unfold assertParentAlive
  cases parentID with
  | none => simp
  | some p =>
    cases hrow : rows (D.hashKey p) with
    | none => simp [hrow]
    | some row => cases hrev : row.revoked <;> simp [hrow, hrev]

/-- A row may be inserted: its key is free and its parent is not revoked. -/
structure Admits (D : KeyDigest) (s : RefreshStore) (token : RefreshToken) : Prop where
  fresh : s.m.lookup (D.hashKey token.id) = none
  alive : ∀ p, token.parentID = some p → ∀ row, s.m.lookup (D.hashKey p) = some row →
    row.revoked = false

def storedRow (D : KeyDigest) (token : RefreshToken) : RefreshToken :=
  storeRefresh token (D.hashKey token.id)

/-- The store after the insert of a row that may be inserted. -/
abbrev withRow (D : KeyDigest) (s : RefreshStore) (token : RefreshToken) : RefreshStore :=
  insertRefresh D s (D.hashKey token.id) (storedRow D token)

lemma save_cases (s : RefreshStore) (token : Option RefreshToken) :
    (∃ e, save D s token = (s, .error e)) ∨
      ∃ tok, token = some tok ∧ Admits D s tok ∧
        save D s token = (withRow D s tok, .ok ()) := by
  cases token with
  | none => exact .inl ⟨_, rfl⟩
  | some tok =>
    simp only [save]
    cases hfree : s.m.lookup (D.hashKey tok.id) with
    | some _ => exact .inl ⟨_, rfl⟩
    | none =>
      cases halive : assertParentAlive D s.m.lookup tok.parentID with
      | error e => exact .inl ⟨e, rfl⟩
      | ok _ =>
        exact .inr ⟨tok, rfl, ⟨hfree, (assertParentAlive_ok_iff _ _).mp halive⟩, rfl⟩

lemma lookup_save {token : RefreshToken} (h : (save D s (some token)).2 = .ok ()) :
    (save D s (some token)).1.m.lookup (D.hashKey token.id) = some (storedRow D token) := by
  rcases save_cases (D := D) s (some token) with ⟨e, heq⟩ | ⟨tok, htok, _, heq⟩
  · simp [heq] at h
  · cases htok
    rw [heq, m_insertRefresh, lookup_insert_ite, if_pos rfl]

@[simp] lemma m_maybeGCRetries (s : RefreshStore) : (maybeGCRetries ρ now s).m = s.m := by
  unfold maybeGCRetries gcRetries
  dsimp only
  split <;> rfl

@[simp] lemma index_maybeGCRetries (s : RefreshStore) :
    c.index (maybeGCRetries ρ now s) = c.index s := by
  unfold maybeGCRetries gcRetries
  dsimp only
  split <;> cases c <;> rfl

@[simp] lemma m_putRetry (s : RefreshStore) (key : String) (rec : RetryResponse) :
    (putRetry s key rec).m = s.m := rfl

@[simp] lemma index_putRetry (s : RefreshStore) (key : String) (rec : RetryResponse) :
    c.index (putRetry s key rec) = c.index s := by
  cases c <;> rfl

/-- The sweep drops at most responses that can no longer be served. -/
theorem retries_maybeGCRetries (s : RefreshStore) (key : String) :
    (maybeGCRetries ρ now s).retries.lookup key = s.retries.lookup key ∨
      ((maybeGCRetries ρ now s).retries.lookup key = none ∧
        ∃ r, s.retries.lookup key = some r ∧ retryReclaimable now r = true) := by
  unfold maybeGCRetries gcRetries
  dsimp only
  split
  · simp only [lookup_sweep]
    cases hr : s.retries.lookup key with
    | none => exact .inl rfl
    | some r => cases hdead : retryReclaimable now r <;> simp [Option.filter_some, hdead]
  · exact .inl rfl

/-- A retryable rotation is a save that, when it succeeds, also stores its
response. -/
theorem saveRotationWithRetry_eq (s : RefreshStore) {tok : RefreshToken} {parentID : String}
    (hparent : tok.parentID = some parentID) (hne : contents ≠ []) :
    saveRotationWithRetry D ρ now s (some tok) contents =
      match save D s (some tok) with
      | (_, .error e) => (s, .error e)
      | (s₁, .ok ()) =>
        (putRetry (maybeGCRetries ρ now s₁) (D.hashKey parentID)
          ⟨contents, retryRetention (s₁.m.lookup (D.hashKey parentID)) tok⟩, .ok ()) := by
  simp only [saveRotationWithRetry, save, hparent, hne, ↓reduceIte]
  cases s.m.lookup (D.hashKey tok.id) with
  | some _ => rfl
  | none =>
    cases assertParentAlive D s.m.lookup (some parentID) with
    | error e => rfl
    | ok _ => simp only [m_maybeGCRetries]

lemma consume_cases (s : RefreshStore) (id : String) :
    (∃ e, consume D now s id = (s, .failed e)) ∨
      ∃ row, s.m.lookup (D.hashKey id) = some row ∧ row.id = D.hashKey id ∧
        isExpiredStrict row.expiresAt now = false ∧
        ((∃ t, row.consumedAt = some t ∧
            consume D now s id = (s, .alreadyConsumed (row.presentedAs id))) ∨
          (row.consumedAt = none ∧
            consume D now s id =
              ({ s with m := s.m.insert (D.hashKey id) (row.stampConsumed now) },
                .consumed ((row.stampConsumed now).presentedAs id)))) := by
  simp only [consume]
  cases hrow : s.m.lookup (D.hashKey id) with
  | none => exact .inl ⟨_, rfl⟩
  | some row =>
    by_cases hid : row.id = D.hashKey id
    · cases hexp : isExpiredStrict row.expiresAt now with
      | true => exact .inl ⟨.notFound, by simp [hid, hexp]⟩
      | false =>
        refine .inr ⟨row, rfl, hid, hexp, ?_⟩
        simp only [hid, hexp, ne_eq, not_true_eq_false, Bool.false_eq_true, ↓reduceIte]
        cases hcons : row.consumedAt with
        | none => exact .inr ⟨rfl, rfl⟩
        | some t => exact .inl ⟨t, rfl, rfl⟩
    · exact .inl ⟨.notFound, by simp [hid]⟩

/-! ### Rows only move forward -/

/-- A row keeps its frozen part; it may become consumed once and revoked. -/
structure RowEvolves (row row' : RefreshToken) : Prop where
  frozen : frozen row' = frozen row
  consumed : ∀ t, row.consumedAt = some t → row'.consumedAt = some t
  revoked : row.revoked = true → row'.revoked = true

lemma RowEvolves.refl : RowEvolves row row := ⟨rfl, fun _ h => h, id⟩

lemma RowEvolves.trans {a b c : RefreshToken} (h₁ : RowEvolves a b) (h₂ : RowEvolves b c) :
    RowEvolves a c :=
  ⟨h₂.frozen.trans h₁.frozen, fun t h => h₂.consumed t (h₁.consumed t h),
    fun h => h₂.revoked (h₁.revoked h)⟩

lemma RowEvolves.isConsumed {row row' : RefreshToken} (h : RowEvolves row row')
    (hcons : row.consumedAt.isSome = true) : row'.consumedAt.isSome = true := by
  obtain ⟨t, ht⟩ := Option.isSome_iff_exists.mp hcons
  rw [h.consumed t ht]
  rfl

lemma rowEvolves_markRevoked : RowEvolves row (markRevoked now row) where
  frozen := rfl
  consumed t h := by simp [markRevoked, h]
  revoked _ := rfl

/-- No row is lost, and every row moves forward. -/
def Evolves (s s' : RefreshStore) : Prop :=
  ∀ key row, s.m.lookup key = some row → ∃ row', s'.m.lookup key = some row' ∧ RowEvolves row row'

lemma Evolves.refl (s : RefreshStore) : Evolves s s :=
  fun _ row h => ⟨row, h, .refl row⟩

lemma Evolves.trans {a b c : RefreshStore} (h₁ : Evolves a b) (h₂ : Evolves b c) :
    Evolves a c := by
  intro key row hrow
  obtain ⟨row', hrow', hev⟩ := h₁ key row hrow
  obtain ⟨row'', hrow'', hev'⟩ := h₂ key row' hrow'
  exact ⟨row'', hrow'', hev.trans hev'⟩

lemma evolves_insert {id : String} (hfresh : s.m.lookup id = none) (rec : RefreshToken) :
    Evolves s (insertRefresh D s id rec) := by
  intro key row hrow
  refine ⟨row, ?_, .refl row⟩
  rw [m_insertRefresh, lookup_insert_ite, if_neg, hrow]
  rintro rfl
  rw [hfresh] at hrow
  cases hrow

lemma evolves_save (s : RefreshStore) (token : Option RefreshToken) :
    Evolves s (save D s token).1 := by
  rcases save_cases (D := D) s token with ⟨e, heq⟩ | ⟨tok, _, hadm, heq⟩
  · rw [heq]; exact .refl s
  · rw [heq]; exact evolves_insert hadm.fresh _

/-- An operation that replaces rows in place by rows ahead of them. -/
structure StampsRows (s s' : RefreshStore) : Prop where
  index : ∀ c : Column, c.index s' = c.index s
  rows : ∀ key, (∃ row row', s.m.lookup key = some row ∧ s'.m.lookup key = some row' ∧
    RowEvolves row row') ∨ (s.m.lookup key = none ∧ s'.m.lookup key = none)

lemma StampsRows.evolves (h : StampsRows s s') : Evolves s s' := by
  intro key row hrow
  rcases h.rows key with ⟨row₀, row', h₀, h', hev⟩ | ⟨hnone, _⟩
  · rw [hrow, Option.some.injEq] at h₀
    exact ⟨row', h', h₀ ▸ hev⟩
  · rw [hnone] at hrow
    cases hrow

lemma StampsRows.wellFormed (h : StampsRows s s') (hs : WellFormed D s) : WellFormed D s' := by
  refine hs.of_rows h.index fun key => ?_
  rcases h.rows key with ⟨row, row', h₀, h', hev⟩ | ⟨hnone, hnone'⟩
  · rw [h₀, h', Option.map_some, Option.map_some, hev.frozen]
  · rw [hnone, hnone']

lemma StampsRows.of_lookup (hidx : ∀ c : Column, c.index s' = c.index s)
    (h : ∀ key, s'.m.lookup key = s.m.lookup key ∨
      ∃ f : RefreshToken → RefreshToken, (∀ row, RowEvolves row (f row)) ∧
        s'.m.lookup key = (s.m.lookup key).map f) : StampsRows s s' := by
  refine ⟨hidx, fun key => ?_⟩
  cases hrow : s.m.lookup key with
  | none =>
    refine .inr ⟨rfl, ?_⟩
    rcases h key with heq | ⟨f, _, heq⟩
    · rw [heq, hrow]
    · rw [heq, hrow, Option.map_none]
  | some row =>
    refine .inl ?_
    rcases h key with heq | ⟨f, hf, heq⟩
    · exact ⟨row, row, rfl, heq.trans hrow, .refl row⟩
    · exact ⟨row, f row, rfl, by rw [heq, hrow, Option.map_some], hf row⟩

lemma stamps_revokeChainLocked (s : RefreshStore) (rootKey : String) :
    StampsRows s (revokeChainLocked ρ now s rootKey) := by
  refine .of_lookup (fun c => by cases c <;> rfl) fun key => ?_
  obtain ⟨hin, hout⟩ := lookup_revokeChainLocked ρ now s rootKey key
  by_cases h : Descends s.byParent rootKey key
  · exact .inr ⟨markRevoked now, rowEvolves_markRevoked now, hin h⟩
  · exact .inl (hout h)

lemma stamps_revokeByIndex (s : RefreshStore) (ids : Finset String) :
    StampsRows s (revokeByIndex ρ now s ids) := by
  refine .of_lookup (fun c => by cases c <;> rfl) fun key => ?_
  rw [lookup_revokeByIndex]
  split_ifs
  · exact .inr ⟨markRevoked now, rowEvolves_markRevoked now, rfl⟩
  · exact .inl rfl

lemma StampsRows.refl (s : RefreshStore) : StampsRows s s :=
  .of_lookup (fun _ => rfl) fun _ => .inl rfl

lemma stamps_consume (s : RefreshStore) (id : String) : StampsRows s (consume D now s id).1 := by
  rcases consume_cases (D := D) now s id with ⟨e, heq⟩ | ⟨row, hrow, _, _, ⟨t, _, heq⟩ | ⟨hn, heq⟩⟩
  · rw [heq]; exact .refl s
  · rw [heq]; exact .refl s
  · rw [heq]
    refine ⟨fun c => by cases c <;> rfl, fun key => ?_⟩
    simp only [lookup_insert_ite]
    split_ifs with hk
    · subst hk
      exact .inl ⟨row, _, hrow, rfl, rfl, fun t ht => by simp [hn] at ht, fun hrev => hrev⟩
    · cases hkey : s.m.lookup key with
      | none => exact .inr ⟨rfl, rfl⟩
      | some r => exact .inl ⟨r, r, rfl, rfl, .refl r⟩

lemma stamps_revokeChain (s : RefreshStore) (rootID : String) :
    StampsRows s (revokeChain D ρ now s rootID).1 := by
  simp only [revokeChain]
  cases s.m.lookup (D.hashKey rootID) with
  | none => exact .refl s
  | some _ => exact stamps_revokeChainLocked ρ now s _

lemma stamps_revokeByGrant (s : RefreshStore) (grantID : String) :
    StampsRows s (revokeByGrant ρ now s grantID) := by
  unfold revokeByGrant
  split_ifs
  · exact .refl s
  · exact stamps_revokeByIndex ρ now s _

lemma stamps_revokeByClient (s : RefreshStore) (clientID : String) :
    StampsRows s (revokeByClient ρ now s clientID) := by
  unfold revokeByClient
  split_ifs
  · exact .refl s
  · exact stamps_revokeByIndex ρ now s _

lemma stamps_putRetry (s : RefreshStore) (key : String) (rec : RetryResponse) :
    StampsRows s (putRetry (maybeGCRetries ρ now s) key rec) :=
  .of_lookup (fun c => by rw [index_putRetry, index_maybeGCRetries])
    fun k => .inl (by rw [m_putRetry, m_maybeGCRetries])

lemma wellFormed_save (h : WellFormed D s) (token : Option RefreshToken) :
    WellFormed D (save D s token).1 := by
  rcases save_cases (D := D) s token with ⟨e, heq⟩ | ⟨tok, _, hadm, heq⟩
  · rw [heq]; exact h
  · rw [heq]; exact wellFormed_insert h hadm.fresh rfl

lemma saveRotationWithRetry_cases (s : RefreshStore) (token : Option RefreshToken)
    (contents : List UInt8) :
    (∃ e, saveRotationWithRetry D ρ now s token contents = (s, .error e)) ∨
      ∃ tok key rec, token = some tok ∧ Admits D s tok ∧
        saveRotationWithRetry D ρ now s token contents = (putRetry (maybeGCRetries ρ now
          (withRow D s tok)) key rec, .ok ()) := by
  cases token with
  | none => exact .inl ⟨_, rfl⟩
  | some tok =>
    cases hparent : tok.parentID with
    | none => exact .inl ⟨errRetryableRotation, by simp [saveRotationWithRetry, hparent]⟩
    | some parentID =>
      by_cases hne : contents = []
      · exact .inl ⟨errRetryableRotation, by simp [saveRotationWithRetry, hparent, hne]⟩
      · rw [saveRotationWithRetry_eq ρ now s hparent hne]
        rcases save_cases (D := D) s (some tok) with ⟨e, heq⟩ | ⟨tok', htok, hadm, heq⟩
        · exact .inl ⟨e, by rw [heq]⟩
        · cases htok
          exact .inr ⟨tok, _, _, rfl, hadm, by rw [heq]⟩

lemma lookup_saveRotationWithRetry {ρ : KeyOrder} {now : Time} {token : RefreshToken}
    (h : (saveRotationWithRetry D ρ now s (some token) contents).2 = .ok ()) :
    (saveRotationWithRetry D ρ now s (some token) contents).1.m.lookup (D.hashKey token.id) =
      some (storedRow D token) := by
  rcases saveRotationWithRetry_cases (D := D) ρ now s (some token) contents with
    ⟨e, heq⟩ | ⟨tok, key, rec, htok, _, heq⟩
  · simp [heq] at h
  · cases htok
    rw [heq, m_putRetry, m_maybeGCRetries, m_insertRefresh, lookup_insert_ite, if_pos rfl]

lemma evolves_saveRotationWithRetry (s : RefreshStore) (token : Option RefreshToken)
    (contents : List UInt8) : Evolves s (saveRotationWithRetry D ρ now s token contents).1 := by
  rcases saveRotationWithRetry_cases (D := D) ρ now s token contents with
    ⟨e, heq⟩ | ⟨tok, key, rec, _, hadm, heq⟩
  · rw [heq]; exact .refl s
  · rw [heq]
    exact (evolves_insert hadm.fresh _).trans (stamps_putRetry ρ now _ key rec).evolves

lemma wellFormed_saveRotationWithRetry (h : WellFormed D s) (ρ : KeyOrder) (now : Time)
    (token : Option RefreshToken) (contents : List UInt8) :
    WellFormed D (saveRotationWithRetry D ρ now s token contents).1 := by
  rcases saveRotationWithRetry_cases (D := D) ρ now s token contents with
    ⟨e, heq⟩ | ⟨tok, key, rec, _, hadm, heq⟩
  · rw [heq]; exact h
  · rw [heq]
    exact (stamps_putRetry ρ now _ key rec).wellFormed (wellFormed_insert h hadm.fresh rfl)

end

end OidcProvider.RefreshTokenStore
