import OidcProvider.RotationLineage
import OidcProvider.StagedOverlay
import OidcProvider.TransactionalStores

/-!
# Transactions on the refresh-token store

The staging of `tx.go` keeps added rows, updated rows, a grant and a parent
index of the added rows, the roots of revoked chains and the sealed responses.
Its calls answer from the staged view. A commit merges the layers into the
store, sweeps the responses once and walks the revoked chains again.

The walk at commit time changes nothing: when a chain is revoked in the
transaction all rows below its root are marked, and a later row under a marked
parent is refused, so no row ever joins the marked ones. With that the
transaction is the same as the direct calls.
-/
namespace OidcProvider.RefreshTransactions
open FiniteMaps SecondaryIndexes StagedOverlay StoreRecords QueueTraversal TransactionalStores
open RefreshTokenStore RotationLineage

structure RefreshStaging where
  added : StringMap RefreshToken
  updated : StringMap RefreshToken
  byGrant : Index
  byParent : Index
  revoked : Finset String
  retries : StringMap RetryResponse

structure RefreshTx where
  parent : RefreshStore
  st : RefreshStaging

namespace RefreshTx

def openOn (s : RefreshStore) : RefreshTx := ⟨s, ⟨∅, ∅, ∅, ∅, ∅, ∅⟩⟩

def lookup (t : RefreshTx) (id : String) : Option RefreshToken :=
  stagedLookup id t.st.updated t.st.added t.parent.m

def rollback (t : RefreshTx) : RefreshStore := t.parent

section
variable (D : KeyDigest)

def stageAdded (t : RefreshTx) (key : String) (stored : RefreshToken) : RefreshTx :=
  { t with st := { t.st with
      added := t.st.added.insert key stored
      byGrant := t.st.byGrant.add stored.grantID key
      byParent := match stored.parentID with
        | none => t.st.byParent
        | some parentID => t.st.byParent.add (D.hashKey parentID) key } }

def stageUpdated (t : RefreshTx) (key : String) (row : RefreshToken) : RefreshTx :=
  { t with st := { t.st with updated := t.st.updated.insert key row } }

def stageRetry (t : RefreshTx) (parentKey : String) (rec : RetryResponse) : RefreshTx :=
  { t with st := { t.st with retries := t.st.retries.insert parentKey rec } }

def save (t : RefreshTx) : Option RefreshToken → RefreshTx × StoreReply
  | none => (t, .error errNilToken)
  | some token =>
    let key := D.hashKey token.id
    if (t.st.added.lookup key).isSome then (t, .error .alreadyExists)
    else if (t.parent.m.lookup key).isSome then (t, .error .alreadyExists)
    else
      match assertParentAlive D t.lookup token.parentID with
      | .error e => (t, .error e)
      | .ok () => (stageAdded D t key (storeRefresh token key), .ok ())

def saveRotationWithRetry (t : RefreshTx) (token : Option RefreshToken)
    (contents : List UInt8) : RefreshTx × StoreReply :=
  match token with
  | none => (t, .error errRetryableRotation)
  | some token =>
    match token.parentID with
    | none => (t, .error errRetryableRotation)
    | some parentID =>
      if contents = [] then (t, .error errRetryableRotation)
      else
        match save D t (some token) with
        | (t, .error e) => (t, .error e)
        | (t, .ok ()) =>
          let parentKey := D.hashKey parentID
          let expiresAt := retryRetention (t.lookup parentKey) token
          (t.stageRetry parentKey ⟨contents, expiresAt⟩, .ok ())

def lookupRetry (t : RefreshTx) (key : String) : Option RetryResponse :=
  match t.st.retries.lookup key with
  | some rec => some rec
  | none => t.parent.retries.lookup key

def loadRetryResponse (now : Time) (t : RefreshTx) (predecessorID : String) :
    Fallible (List UInt8) :=
  presentRetry now (t.lookupRetry (D.hashKey predecessorID))

def find (now : Time) (t : RefreshTx) (id : String) : Fallible RefreshToken :=
  match t.lookup (D.hashKey id) with
  | none => .error .notFound
  | some rec =>
    if isExpiredStrict rec.expiresAt now then .error .notFound else .ok (rec.presentedAs id)

def consume (now : Time) (t : RefreshTx) (id : String) : RefreshTx × ConsumeResult RefreshToken :=
  let key := D.hashKey id
  match t.lookup key with
  | none => (t, .failed .notFound)
  | some rec =>
    if isExpiredStrict rec.expiresAt now then (t, .failed .notFound)
    else
      match rec.consumedAt with
      | some _ => (t, .alreadyConsumed (rec.presentedAs id))
      | none =>
        let updated := (rec.stampConsumed now).presentedAs key
        (t.stageUpdated key updated, .consumed (updated.presentedAs id))

def stageRevoked (now : Time) (t : RefreshTx) (id : String) : RefreshTx :=
  match t.lookup id with
  | none => t
  | some rec => t.stageUpdated id ((markRevoked now rec).presentedAs id)

/-- `markChainStaged`: children come from the committed and the staged index. -/
def markChainStaged (ρ : KeyOrder) (now : Time) (t : RefreshTx) (rootID : String) : RefreshTx :=
  traverse
    (fun parentKey => ρ.visit (t.parent.byParent.ids parentKey) ++
      ρ.visit (t.st.byParent.ids parentKey))
    (stageRevoked now) ((t.parent.byParent.entries ∪ t.st.byParent.entries).card + 1) rootID t

def revokeChain (ρ : KeyOrder) (now : Time) (t : RefreshTx) (rootID : String) :
    RefreshTx × StoreReply :=
  let rootKey := D.hashKey rootID
  match t.lookup rootKey with
  | none => (t, .error .notFound)
  | some rec =>
    let t := t.stageUpdated rootKey ((markRevoked now rec).presentedAs rootKey)
    let t := { t with st := { t.st with revoked := insert rootKey t.st.revoked } }
    (markChainStaged ρ now t rootKey, .ok ())

def revokeIDs (ρ : KeyOrder) (now : Time) (t : RefreshTx) (ids : Finset String) : RefreshTx :=
  (ρ.visit ids).foldl (stageRevoked now) t

def revokeByGrant (ρ : KeyOrder) (now : Time) (t : RefreshTx) (grantID : String) : RefreshTx :=
  if grantID = "" then t
  else
    let t := revokeIDs ρ now t (t.parent.byGrant.ids grantID)
    revokeIDs ρ now t (t.st.byGrant.ids grantID)

def flushAdded (added : StringMap RefreshToken) (s : RefreshStore) (id : String) : RefreshStore :=
  match added.lookup id with
  | some rec => insertRefresh D s id rec
  | none => s

/-- `Commit`: added rows, updated rows, responses, one sweep of the responses if
any was staged, and the walk from every revoked root. -/
def commit (t : RefreshTx) (ρ : KeyOrder) (now : Time) : RefreshStore :=
  let s := (ρ.visit t.st.added.keys).foldl (flushAdded D t.st.added) t.parent
  let s := { s with m := copyInto s.m t.st.updated }
  let s := { s with retries := copyInto s.retries t.st.retries }
  let s := if t.st.retries.keys.card > 0 then maybeGCRetries ρ now s else s
  (ρ.visit t.st.revoked).foldl (revokeChainLocked ρ now) s

end

end RefreshTx

open RefreshTx (flushAdded lookupRetry openOn stageRevoked)

/-! ### Calls -/

inductive Call where
  | save (token : Option RefreshToken)
  | saveRotationWithRetry (token : Option RefreshToken) (contents : List UInt8)
  | find (id : String)
  | consume (id : String)
  | revokeChain (rootID : String)
  | revokeByGrant (grantID : String)
  | loadRetryResponse (predecessorID : String)

structure TimedCall where
  call : Call
  now : Time
  direct : KeyOrder
  staged : KeyOrder

inductive Reply where
  | done (result : StoreReply)
  | found (result : Fallible RefreshToken)
  | consumed (result : ConsumeResult RefreshToken)
  | retry (result : Fallible (List UInt8))

section
variable (D : KeyDigest)

def direct (s : RefreshStore) (c : TimedCall) : RefreshStore × Reply :=
  match c.call with
  | .save token => let r := save D s token; (r.1, .done r.2)
  | .saveRotationWithRetry token contents =>
    let r := saveRotationWithRetry D c.direct c.now s token contents
    (r.1, .done r.2)
  | .find id => (s, .found (find D c.now s id))
  | .consume id => let r := consume D c.now s id; (r.1, .consumed r.2)
  | .revokeChain rootID => let r := revokeChain D c.direct c.now s rootID; (r.1, .done r.2)
  | .revokeByGrant g => (revokeByGrant c.direct c.now s g, .done (.ok ()))
  | .loadRetryResponse id => (s, .retry (loadRetryResponse D c.now s id))

def staged (t : RefreshTx) (c : TimedCall) : RefreshTx × Reply :=
  match c.call with
  | .save token => let r := t.save D token; (r.1, .done r.2)
  | .saveRotationWithRetry token contents =>
    let r := t.saveRotationWithRetry D token contents
    (r.1, .done r.2)
  | .find id => (t, .found (RefreshTx.find D c.now t id))
  | .consume id => let r := RefreshTx.consume D c.now t id; (r.1, .consumed r.2)
  | .revokeChain rootID =>
    let r := RefreshTx.revokeChain D c.staged c.now t rootID
    (r.1, .done r.2)
  | .revokeByGrant g => (RefreshTx.revokeByGrant c.staged c.now t g, .done (.ok ()))
  | .loadRetryResponse id => (t, .retry (RefreshTx.loadRetryResponse D c.now t id))

structure Commit where
  order : KeyOrder
  now : Time

/-- `RevokeByClient` has no transactional counterpart. -/
structure RevokeByClient where
  clientID : String
  order : KeyOrder
  now : Time

def refreshes : TransactionalStore RefreshStore RefreshTx TimedCall Reply Commit
    RevokeByClient where
  direct := direct D
  staged := staged D
  openTx := openOn
  commit t e := t.commit D e.order e.now
  rollback := RefreshTx.rollback
  outside s u := revokeByClient u.order u.now s u.clientID

end

/-! ### The staged layers -/

/-- The staged indexes list the added rows, an added row is new, and an updated
row differs from the row it updates only where rows may change. -/
structure Staged (D : KeyDigest) (t : RefreshTx) : Prop where
  committed : WellFormed D t.parent
  ids : ∀ key row, t.st.added.lookup key = some row → row.id = key
  grants : Lists (Column.grant.attr D) t.st.added t.st.byGrant
  parents : Lists (Column.parent.attr D) t.st.added t.st.byParent
  fresh : ∀ key row, t.st.added.lookup key = some row → t.parent.m.lookup key = none
  updated : ∀ key row, t.st.updated.lookup key = some row → ∃ old,
    (t.st.added.lookup key).or (t.parent.m.lookup key) = some old ∧ frozen row = frozen old

section Layers
variable {D : KeyDigest} {t : RefreshTx} {row : RefreshToken} {key : String}

lemma staged_open {s : RefreshStore} (h : WellFormed D s) : Staged D (.openOn s) where
  committed := h
  ids key row hrow := by simp [openOn] at hrow
  grants key value := by simp [openOn, Index.ids]
  parents key value := by simp [openOn, Index.ids]
  fresh key row hrow := by simp [openOn] at hrow
  updated key row hrow := by simp [openOn] at hrow

/-- The view shows the added or committed row, with the changes of the
transaction. -/
theorem Staged.frozen_lookup (h : Staged D t) (key : String) :
    (t.lookup key).map frozen =
      ((t.st.added.lookup key).or (t.parent.m.lookup key)).map frozen := by
  unfold RefreshTx.lookup
  rw [stagedLookup_eq]
  cases hu : t.st.updated.lookup key with
  | none => rfl
  | some row =>
    obtain ⟨old, hold, heq⟩ := h.updated key row hu
    rw [hold, Option.some_or, Option.map_some, Option.map_some, heq]

lemma Staged.lookup_eq_none (h : Staged D t) (key : String) :
    t.lookup key = none ↔ t.st.added.lookup key = none ∧ t.parent.m.lookup key = none := by
  have heq := congrArg Option.isNone (h.frozen_lookup key)
  simp only [Option.isNone_map] at heq
  rw [← Option.isNone_iff_eq_none, heq, Option.isNone_iff_eq_none, Option.or_eq_none_iff]

lemma Staged.id_of_lookup (h : Staged D t) (hrow : t.lookup key = some row) : row.id = key := by
  have heq := h.frozen_lookup key
  rw [hrow, Option.map_some, eq_comm, Option.map_eq_some_iff] at heq
  obtain ⟨old, hold, hfrozen⟩ := heq
  have hid : old.id = key := by
    rcases Option.or_eq_some_iff.mp hold with hold | ⟨_, hold⟩
    · exact h.ids key old hold
    · exact h.committed.ids key old hold
  rw [← hid]
  exact (congrArg RefreshToken.id hfrozen).symm

lemma staged_stageAdded (h : Staged D t) (hfree : t.lookup key = none) (hid : row.id = key) :
    Staged D (t.stageAdded D key row) := by
  obtain ⟨hadded, hparent⟩ := (h.lookup_eq_none key).mp hfree
  have hparents : (t.stageAdded D key row).st.byParent =
      t.st.byParent.add (Column.parent.attr D row) key := by
    simp only [RefreshTx.stageAdded, Column.attr]
    cases row.parentID with
    | none => simp [Index.add]
    | some _ => rfl
  constructor
  case committed => exact h.committed
  case ids =>
    intro key' row' hrow'
    rw [show (t.stageAdded D key row).st.added = t.st.added.insert key row from rfl,
      lookup_insert_ite] at hrow'
    split_ifs at hrow' with hk
    · cases hrow'
      exact hid.trans hk.symm
    · exact h.ids key' row' hrow'
  case grants => exact h.grants.insert hadded row
  case parents =>
    rw [hparents]
    exact h.parents.insert hadded row
  case fresh =>
    intro key' row' hrow'
    rw [show (t.stageAdded D key row).st.added = t.st.added.insert key row from rfl,
      lookup_insert_ite] at hrow'
    split_ifs at hrow' with hk
    · exact hk ▸ hparent
    · exact h.fresh key' row' hrow'
  case updated =>
    intro key' row' hrow'
    obtain ⟨old, hold, heq⟩ := h.updated key' row' hrow'
    refine ⟨old, ?_, heq⟩
    have hk : key' ≠ key := by
      rintro rfl
      rw [hadded, hparent] at hold
      cases hold
    rw [show (t.stageAdded D key row).st.added = t.st.added.insert key row from rfl,
      lookup_insert_ite, if_neg hk]
    exact hold

lemma staged_stageUpdated (h : Staged D t) {rec : RefreshToken} (hrec : t.lookup key = some rec)
    (hrow : frozen row = frozen rec) : Staged D (t.stageUpdated key row) := by
  refine ⟨h.committed, h.ids, h.grants, h.parents, h.fresh, fun key' row' hrow' => ?_⟩
  rw [show (t.stageUpdated key row).st.updated = t.st.updated.insert key row from rfl,
    lookup_insert_ite] at hrow'
  split_ifs at hrow' with hk
  · cases hrow'
    have hview := h.frozen_lookup key
    rw [hrec, Option.map_some, eq_comm, Option.map_eq_some_iff] at hview
    obtain ⟨old, hold, heq⟩ := hview
    exact ⟨old, hk ▸ hold, hrow.trans heq.symm⟩
  · exact h.updated key' row' hrow'

/-- The views differ in their updated rows only. -/
structure SameBut (t t' : RefreshTx) : Prop where
  parent : t'.parent = t.parent
  added : t'.st.added = t.st.added
  byGrant : t'.st.byGrant = t.st.byGrant
  byParent : t'.st.byParent = t.st.byParent
  revoked : t'.st.revoked = t.st.revoked
  retries : t'.st.retries = t.st.retries

lemma SameBut.refl (t : RefreshTx) : SameBut t t := ⟨rfl, rfl, rfl, rfl, rfl, rfl⟩

lemma SameBut.trans {t₁ t₂ t₃ : RefreshTx} (h : SameBut t₁ t₂) (h' : SameBut t₂ t₃) :
    SameBut t₁ t₃ :=
  ⟨h'.parent.trans h.parent, h'.added.trans h.added, h'.byGrant.trans h.byGrant,
    h'.byParent.trans h.byParent, h'.revoked.trans h.revoked, h'.retries.trans h.retries⟩

lemma sameBut_stageUpdated (t : RefreshTx) (key : String) (row : RefreshToken) :
    SameBut t (t.stageUpdated key row) := ⟨rfl, rfl, rfl, rfl, rfl, rfl⟩

lemma lookup_stageUpdated (t : RefreshTx) (key key' : String) (row : RefreshToken) :
    (t.stageUpdated key row).lookup key' = if key' = key then some row else t.lookup key' :=
  stagedLookup_insert_updated key key' t.st.updated t.st.added t.parent.m row

/-- Some rows of the view were marked revoked, and nothing else happened. -/
structure Marks (D : KeyDigest) (now : Time) (hit : String → Prop) (t t' : RefreshTx) :
    Prop where
  staged : Staged D t'
  same : SameBut t t'
  marked : ∀ key, hit key → t'.lookup key = (t.lookup key).map (markRevoked now)
  kept : ∀ key, ¬hit key → t'.lookup key = t.lookup key

lemma presentedAs_self (h : row.id = key) : row.presentedAs key = row := by
  subst h
  rfl

lemma marks_stageRevoked (h : Staged D t) (now : Time) (id : String) :
    Marks D now (· = id) t (t.stageRevoked now id) := by
  unfold stageRevoked
  cases hrow : t.lookup id with
  | none =>
    refine ⟨h, .refl t, fun key hk => ?_, fun _ _ => rfl⟩
    rw [hk, hrow, Option.map_none]
  | some row =>
    have hid : row.id = id := h.id_of_lookup hrow
    have hself : (markRevoked now row).presentedAs id = markRevoked now row :=
      presentedAs_self hid
    simp only [hself]
    refine ⟨staged_stageUpdated h hrow rfl, sameBut_stageUpdated _ _ _,
      fun key hk => ?_, fun key hk => ?_⟩
    · rw [lookup_stageUpdated, if_pos hk, hk, hrow, Option.map_some]
    · rw [lookup_stageUpdated, if_neg hk]

lemma marks_foldl (h : Staged D t) (now : Time) {ks : List String} (hn : ks.Nodup) :
    Marks D now (· ∈ ks) t (ks.foldl (stageRevoked now) t) := by
  induction ks generalizing t with
  | nil => exact ⟨h, .refl t, fun key hk => absurd hk List.not_mem_nil, fun _ _ => rfl⟩
  | cons id ks ih =>
    obtain ⟨hid, hn⟩ := List.nodup_cons.mp hn
    have h₁ := marks_stageRevoked h now id
    have h₂ := ih h₁.staged hn
    refine ⟨h₂.staged, h₁.same.trans h₂.same, fun key hk => ?_, fun key hk => ?_⟩
    · rcases List.mem_cons.mp hk with rfl | hk
      · rw [List.foldl_cons, h₂.kept key hid, h₁.marked key rfl]
      · have hne : key ≠ id := fun heq => hid (heq ▸ hk)
        rw [List.foldl_cons, h₂.marked key hk, h₁.kept key hne]
    · obtain ⟨hne, hk⟩ : key ≠ id ∧ key ∉ ks := by simpa using hk
      rw [List.foldl_cons, h₂.kept key hk, h₁.kept key hne]

lemma Marks.congr {now : Time} {hit hit' : String → Prop} {t' : RefreshTx}
    (h : Marks D now hit t t') (heq : ∀ key, hit' key ↔ hit key) : Marks D now hit' t t' :=
  ⟨h.staged, h.same, fun key hk => h.marked key ((heq key).mp hk),
    fun key hk => h.kept key fun hit => hk ((heq key).mpr hit)⟩

lemma markRevoked_idem (now : Time) (row : RefreshToken) :
    markRevoked now (markRevoked now row) = markRevoked now row :=
  markRevoked_of_revoked rfl (consumedAt_markRevoked now row)

lemma Marks.trans {now : Time} {hit hit' : String → Prop} {t₁ t₂ t₃ : RefreshTx}
    (h : Marks D now hit t₁ t₂) (h' : Marks D now hit' t₂ t₃) :
    Marks D now (fun key => hit key ∨ hit' key) t₁ t₃ := by
  refine ⟨h'.staged, h.same.trans h'.same, fun key hk => ?_, fun key hk => ?_⟩
  · by_cases h₁ : hit key <;> by_cases h₂ : hit' key
    · rw [h'.marked key h₂, h.marked key h₁, Option.map_map]
      congr 1
      exact funext (markRevoked_idem now)
    · rw [h'.kept key h₂, h.marked key h₁]
    · rw [h'.marked key h₂, h.kept key h₁]
    · exact absurd hk (not_or.mpr ⟨h₁, h₂⟩)
  · obtain ⟨h₁, h₂⟩ := not_or.mp hk
    rw [h'.kept key h₂, h.kept key h₁]

/-- The children of a key in the committed and the staged parent index. -/
def StagedDescends (t : RefreshTx) (a b : String) : Prop :=
  Relation.ReflTransGen (fun parentKey childKey =>
    childKey ∈ t.parent.byParent.ids parentKey ∨ childKey ∈ t.st.byParent.ids parentKey) a b

lemma marks_markChainStaged (h : Staged D t) (ρ : KeyOrder) (now : Time) (rootID : String) :
    Marks D now (fun key => key ≠ rootID ∧ StagedDescends t rootID key) t
      (t.markChainStaged ρ now rootID) := by
  have hU : ∀ k, ∀ c ∈ ρ.visit (t.parent.byParent.ids k) ++ ρ.visit (t.st.byParent.ids k),
      c ∈ t.parent.byParent.entries ∪ t.st.byParent.entries := by
    intro k c hc
    rw [List.mem_append, ρ.mem_visit, ρ.mem_visit] at hc
    rw [Finset.mem_union]
    exact hc.imp Index.mem_entries Index.mem_entries
  obtain ⟨order, hn, hmem, heq⟩ := traverse_visits hU le_rfl rootID t
  unfold RefreshTx.markChainStaged
  rw [heq]
  refine (marks_foldl h now hn).congr fun key => ?_
  rw [hmem]
  unfold Reaches StagedDescends
  simp only [List.mem_append, ρ.mem_visit]

end Layers

/-! ### The correspondence -/

/-- The direct store may have swept a response that the view still holds and
that can no longer be served. -/
def SameResponse (now : Time) (view direct : Option RetryResponse) : Prop :=
  direct = view ∨ (direct = none ∧ ∃ r, view = some r ∧ retryReclaimable now r = true)

/-- The view shows the rows of the store and, while they serve, its responses. -/
structure Sim (D : KeyDigest) (now : Time) (t : RefreshTx) (s : RefreshStore) : Prop where
  staged : Staged D t
  direct : WellFormed D s
  rows : ∀ key, t.lookup key = s.m.lookup key
  marked : ∀ root ∈ t.st.revoked, ChainMarked s root
  retries : ∀ key, SameResponse now (t.lookupRetry key) (s.retries.lookup key)

variable {s' : RefreshStore}

section Correspondence
variable {D : KeyDigest} {s : RefreshStore} {t : RefreshTx} {now : Time}

lemma lookup_copyRetries (t : RefreshTx) (key : String) :
    (copyInto t.parent.retries t.st.retries).lookup key = t.lookupRetry key := by
  rw [lookup_copyInto]
  unfold lookupRetry
  cases t.st.retries.lookup key <;> rfl

lemma SameResponse.mono {later : Time} (hle : now ≤ later) {view direct : Option RetryResponse}
    (h : SameResponse now view direct) : SameResponse later view direct :=
  h.imp_right fun ⟨hnone, r, hr, hdead⟩ => ⟨hnone, r, hr, isExpiredStrict_mono hdead hle⟩

lemma SameResponse.present {view direct : Option RetryResponse}
    (h : SameResponse now view direct) : presentRetry now view = presentRetry now direct := by
  rcases h with rfl | ⟨rfl, r, rfl, hdead⟩
  · rfl
  · simp only [presentRetry, hdead, ↓reduceIte]

lemma Sim.later {later : Time} (h : Sim D now t s) (hle : now ≤ later) : Sim D later t s :=
  ⟨h.staged, h.direct, h.rows, h.marked, fun key => (h.retries key).mono hle⟩

lemma sim_open (h : WellFormed D s) (now : Time) : Sim D now (.openOn s) s where
  staged := staged_open h
  direct := h
  rows _ := rfl
  marked root hroot := absurd hroot (Finset.notMem_empty root)
  retries _ := .inl rfl

lemma Sim.mem_ids (h : Sim D now t s) {c : Column} {i : Index}
    (hi : Lists (c.attr D) t.st.added i) (key value : String) :
    key ∈ (c.index s).ids value ↔ key ∈ (c.index t.parent).ids value ∨ key ∈ i.ids value := by
  have hattr : (s.m.lookup key).map (c.attr D) =
      ((t.st.added.lookup key).or (t.parent.m.lookup key)).map (c.attr D) := by
    have hfrozen := congrArg (Option.map (c.attr D)) (h.staged.frozen_lookup key)
    simpa only [Option.map_map, Function.comp_def, attr_frozen, h.rows key] using hfrozen
  rw [h.direct.listed c, h.staged.committed.listed c, hi]
  simp only [← Option.map_eq_some_iff, hattr]
  cases hadded : t.st.added.lookup key with
  | none => simp
  | some row => simp [h.staged.fresh key row hadded]

lemma Sim.descends_iff (h : Sim D now t s) (a b : String) :
    StagedDescends t a b ↔ Descends s.byParent a b := by
  have hids := fun v k => h.mem_ids (c := .parent) h.staged.parents k v
  unfold StagedDescends Descends
  simp only [Column.index] at hids
  simp only [hids]

section Steps
variable {now : Time} {t : RefreshTx} {s : RefreshStore} (h : Sim D now t s)
include h

variable (id : String) (ρ : KeyOrder)

lemma Sim.stamp {t' : RefreshTx} (hst : Staged D t') (hsame : SameBut t t')
    (hstamps : StampsRows s s') (hretries : s'.retries = s.retries)
    (hrows : ∀ key, t'.lookup key = s'.m.lookup key) : Sim D now t' s' where
  staged := hst
  direct := hstamps.wellFormed h.direct
  rows := hrows
  marked root hroot := chainMarked_stamps hstamps (h.marked root (hsame.revoked ▸ hroot))
  retries key := by
    have hview : t'.lookupRetry key = t.lookupRetry key := by
      unfold lookupRetry
      rw [hsame.retries, hsame.parent]
    rw [hview, hretries]
    exact h.retries key

lemma sim_insert {tok : RefreshToken} (hadm : Admits D s tok) :
    Sim D now (t.stageAdded D (D.hashKey tok.id) (storedRow D tok))
      (withRow D s tok) where
  staged := staged_stageAdded h.staged ((h.rows _).trans hadm.fresh) rfl
  direct := wellFormed_insert h.direct hadm.fresh rfl
  rows key := by
    have hfree : t.lookup (D.hashKey tok.id) = none := (h.rows _).trans hadm.fresh
    rw [m_insertRefresh, lookup_insert_ite, ← h.rows key]
    exact stagedLookup_insert_added hfree key _
  marked root hroot := chainMarked_insert hadm (h.marked root hroot)
  retries key := h.retries key

lemma Sim.save_eq (token : RefreshToken) :
    t.save D (some token) =
      match (save D s (some token)).2 with
      | .ok () => (t.stageAdded D (D.hashKey token.id) (storedRow D token), .ok ())
      | .error e => (t, .error e) := by
  have hrows : t.lookup = s.m.lookup := funext h.rows
  have hkey := h.staged.lookup_eq_none (D.hashKey token.id)
  rw [h.rows] at hkey
  unfold RefreshTx.save save
  dsimp only
  rw [hrows]
  cases hfree : s.m.lookup (D.hashKey token.id) with
  | none =>
    obtain ⟨ha, hp⟩ := hkey.mp hfree
    simp only [ha, hp, Option.isSome_none, Bool.false_eq_true, ↓reduceIte]
    cases assertParentAlive D s.m.lookup token.parentID <;> rfl
  | some row =>
    have hsome : ¬(t.st.added.lookup (D.hashKey token.id) = none ∧
        t.parent.m.lookup (D.hashKey token.id) = none) := fun hnone => by
      rw [hkey.mpr hnone] at hfree
      cases hfree
    split_ifs with ha hp
    · rfl
    · rfl
    · exact absurd ⟨Option.not_isSome_iff_eq_none.mp ha, Option.not_isSome_iff_eq_none.mp hp⟩ hsome

lemma sim_save (token : Option RefreshToken) :
    Sim D now (t.save D token).1 (save D s token).1 ∧
      (t.save D token).2 = (save D s token).2 ∧ (t.save D token).1.parent = t.parent := by
  cases token with
  | none => exact ⟨h, rfl, rfl⟩
  | some tok =>
    rw [h.save_eq]
    rcases save_cases (D := D) s (some tok) with ⟨e, heq⟩ | ⟨tok', htok, hadm, heq⟩
    · rw [heq]
      exact ⟨h, rfl, rfl⟩
    · cases htok
      rw [heq]
      exact ⟨sim_insert h hadm, rfl, rfl⟩

lemma sim_find : RefreshTx.find D now t id = find D now s id := by
  unfold RefreshTx.find find
  dsimp only
  rw [h.rows]
  cases hrow : s.m.lookup (D.hashKey id) with
  | none => rfl
  | some row => simp only [h.direct.ids _ row hrow, ne_eq, not_true_eq_false, ↓reduceIte]

lemma Sim.consume_eq :
    RefreshTx.consume D now t id =
      match (consume D now s id).2 with
      | .consumed rec =>
        (t.stageUpdated (D.hashKey id) (rec.presentedAs (D.hashKey id)), .consumed rec)
      | .alreadyConsumed rec => (t, .alreadyConsumed rec)
      | .failed e => (t, .failed e) := by
  unfold RefreshTx.consume consume
  dsimp only
  rw [h.rows]
  cases hrow : s.m.lookup (D.hashKey id) with
  | none => rfl
  | some row =>
    simp only [h.direct.ids _ row hrow, ne_eq, not_true_eq_false, ↓reduceIte]
    cases isExpiredStrict row.expiresAt now with
    | true => rfl
    | false => cases row.consumedAt <;> rfl

lemma sim_consume :
    Sim D now (RefreshTx.consume D now t id).1 (consume D now s id).1 ∧
      (RefreshTx.consume D now t id).2 = (consume D now s id).2 ∧
      (RefreshTx.consume D now t id).1.parent = t.parent := by
  have hstamps := stamps_consume (D := D) now s id
  rw [h.consume_eq]
  rcases consume_cases (D := D) now s id with
    ⟨e, heq⟩ | ⟨row, hrow, hid, _, ⟨_, _, heq⟩ | ⟨_, heq⟩⟩
  · rw [heq]
    exact ⟨h, rfl, rfl⟩
  · rw [heq]
    exact ⟨h, rfl, rfl⟩
  · rw [heq] at hstamps ⊢
    have hself : ((row.stampConsumed now).presentedAs id).presentedAs (D.hashKey id) =
        row.stampConsumed now := by
      have hid' : (row.stampConsumed now).id = D.hashKey id := hid
      exact presentedAs_self hid'
    refine ⟨h.stamp (staged_stageUpdated h.staged ((h.rows _).trans hrow) ?_)
      (sameBut_stageUpdated _ _ _) hstamps rfl fun key => ?_, rfl, rfl⟩
    · rw [hself]
      rfl
    · rw [lookup_stageUpdated, hself, lookup_insert_ite, h.rows key]

lemma Sim.mark {hit : String → Prop} {t' : RefreshTx}
    (hmarks : Marks D now hit t t') (hstamps : StampsRows s s') (hretries : s'.retries = s.retries)
    (hin : ∀ key, hit key → s'.m.lookup key = (s.m.lookup key).map (markRevoked now))
    (hout : ∀ key, ¬hit key → s'.m.lookup key = s.m.lookup key) : Sim D now t' s' := by
  refine h.stamp hmarks.staged hmarks.same hstamps hretries fun key => ?_
  by_cases hk : hit key
  · rw [hmarks.marked key hk, hin key hk, h.rows]
  · rw [hmarks.kept key hk, hout key hk, h.rows]

lemma sim_revokeByGrant (ρ' : KeyOrder) (grantID : String) :
    Sim D now (RefreshTx.revokeByGrant ρ now t grantID) (revokeByGrant ρ' now s grantID) ∧
      (RefreshTx.revokeByGrant ρ now t grantID).parent = t.parent := by
  unfold RefreshTx.revokeByGrant revokeByGrant
  split_ifs with hg
  · exact ⟨h, rfl⟩
  · have h₁ := marks_foldl h.staged now (ρ.nodup_visit (t.parent.byGrant.ids grantID))
    have h₂ := marks_foldl h₁.staged now (ρ.nodup_visit (t.st.byGrant.ids grantID))
    have hids := fun key => h.mem_ids (c := .grant) h.staged.grants key grantID
    have hmarks : Marks D now (· ∈ s.byGrant.ids grantID) t _ :=
      (h₁.trans h₂).congr fun key => by
        rw [ρ.mem_visit, ρ.mem_visit]
        exact hids key
    have hbucket : (RefreshTx.revokeIDs ρ now t (t.parent.byGrant.ids grantID)).st.byGrant =
        t.st.byGrant := h₁.same.byGrant
    dsimp only
    rw [hbucket]
    refine ⟨h.mark hmarks (stamps_revokeByIndex ρ' now s _) rfl (fun key hk => ?_)
      fun key hk => ?_, hmarks.same.parent⟩
    · rw [lookup_revokeByIndex, if_pos hk]
    · rw [lookup_revokeByIndex, if_neg hk]

lemma Sim.marks_revokeChain (ρ : KeyOrder) {rootKey : String} {row : RefreshToken}
    (hrow : t.lookup rootKey = some row) :
    let t₁ := t.stageUpdated rootKey ((markRevoked now row).presentedAs rootKey)
    let t₂ : RefreshTx := { t₁ with st := { t₁.st with revoked := insert rootKey t₁.st.revoked } }
    let t₃ := t₂.markChainStaged ρ now rootKey
    Staged D t₃ ∧ SameBut t₂ t₃ ∧
      (∀ key, Descends s.byParent rootKey key →
        t₃.lookup key = (t.lookup key).map (markRevoked now)) ∧
      ∀ key, ¬Descends s.byParent rootKey key → t₃.lookup key = t.lookup key := by
  intro t₁ t₂ t₃
  have h₁ : Marks D now (· = rootKey) t t₁ := by
    have hstep := marks_stageRevoked h.staged now rootKey
    simp only [stageRevoked, hrow] at hstep
    exact hstep
  have hst : Staged D t₂ := ⟨h₁.staged.committed, h₁.staged.ids, h₁.staged.grants,
    h₁.staged.parents, h₁.staged.fresh, h₁.staged.updated⟩
  have h₃ := marks_markChainStaged hst ρ now rootKey
  have hdesc : ∀ key, StagedDescends t₂ rootKey key ↔ Descends s.byParent rootKey key :=
    h.descends_iff rootKey
  refine ⟨h₃.staged, h₃.same, fun key hk => ?_, fun key hk => ?_⟩
  · by_cases hroot : key = rootKey
    · rw [h₃.kept key fun hc => hc.1 hroot]
      exact h₁.marked key hroot
    · rw [h₃.marked key ⟨hroot, (hdesc key).mpr hk⟩]
      exact congrArg _ (h₁.kept key hroot)
  · have hroot : key ≠ rootKey := by
      rintro rfl
      exact hk .refl
    rw [h₃.kept key fun hc => hk ((hdesc key).mp hc.2)]
    exact h₁.kept key hroot

lemma sim_revokeChain (ρ' : KeyOrder) (rootID : String) :
    Sim D now (RefreshTx.revokeChain D ρ now t rootID).1 (revokeChain D ρ' now s rootID).1 ∧
      (RefreshTx.revokeChain D ρ now t rootID).2 = (revokeChain D ρ' now s rootID).2 ∧
      (RefreshTx.revokeChain D ρ now t rootID).1.parent = t.parent := by
  have hview := h.rows (D.hashKey rootID)
  unfold RefreshTx.revokeChain revokeChain
  dsimp only
  cases hrow : s.m.lookup (D.hashKey rootID) with
  | none =>
    rw [hview, hrow]
    exact ⟨h, rfl, rfl⟩
  | some row =>
    have hrow' : t.lookup (D.hashKey rootID) = some row := hview.trans hrow
    obtain ⟨hst, hsame, hin, hout⟩ := h.marks_revokeChain ρ hrow'
    have hstamps := stamps_revokeChainLocked ρ' now s (D.hashKey rootID)
    simp only [hrow']
    refine ⟨⟨hst, hstamps.wellFormed h.direct, fun key => ?_, fun root hroot => ?_, fun key => ?_⟩,
      trivial, hsame.parent⟩
    · obtain ⟨hd, hd'⟩ := lookup_revokeChainLocked ρ' now s (D.hashKey rootID) key
      by_cases hk : Descends s.byParent (D.hashKey rootID) key
      · rw [hin key hk, hd hk, h.rows]
      · rw [hout key hk, hd' hk, h.rows]
    · rw [hsame.revoked] at hroot
      rcases Finset.mem_insert.mp hroot with rfl | hroot
      · exact chainMarked_revokeChainLocked h.direct ρ' now (by rw [hrow]; rfl)
      · exact chainMarked_stamps hstamps (h.marked root hroot)
    · have hretry : ∀ k, lookupRetry _ k = t.lookupRetry k := fun k => by
        unfold lookupRetry
        rw [hsame.retries, hsame.parent]
        rfl
      rw [hretry]
      exact h.retries key

lemma sim_putRetry (key : String) (rec : RetryResponse) :
    Sim D now (t.stageRetry key rec) (putRetry (maybeGCRetries ρ now s) key rec) where
  staged := ⟨h.staged.committed, h.staged.ids, h.staged.grants, h.staged.parents, h.staged.fresh,
    h.staged.updated⟩
  direct := (stamps_putRetry ρ now s key rec).wellFormed h.direct
  rows k := by
    rw [m_putRetry, m_maybeGCRetries]
    exact h.rows k
  marked root hroot := chainMarked_stamps (stamps_putRetry ρ now s key rec) (h.marked root hroot)
  retries k := by
    have hview : (t.stageRetry key rec).lookupRetry k =
        if k = key then some rec else t.lookupRetry k := by
      simp only [lookupRetry, RefreshTx.stageRetry, lookup_insert_ite]
      split_ifs <;> rfl
    have hdirect : (putRetry (maybeGCRetries ρ now s) key rec).retries.lookup k =
        if k = key then some rec else (maybeGCRetries ρ now s).retries.lookup k :=
      lookup_insert_ite _ _ _ _
    rw [hview, hdirect]
    split_ifs with hk
    · exact .inl rfl
    · rcases retries_maybeGCRetries ρ now s k with hsame | ⟨hnone, r, hr, hdead⟩
      · rw [hsame]
        exact h.retries k
      · rcases h.retries k with heq | ⟨hgone, _⟩
        · exact .inr ⟨hnone, r, heq.symm.trans hr, hdead⟩
        · rw [hr] at hgone
          cases hgone

lemma sim_saveRotationWithRetry (token : Option RefreshToken) (contents : List UInt8) :
    Sim D now (t.saveRotationWithRetry D token contents).1
        (saveRotationWithRetry D ρ now s token contents).1 ∧
      (t.saveRotationWithRetry D token contents).2 =
        (saveRotationWithRetry D ρ now s token contents).2 ∧
      (t.saveRotationWithRetry D token contents).1.parent = t.parent := by
  cases token with
  | none => exact ⟨h, rfl, rfl⟩
  | some tok =>
    cases hparent : tok.parentID with
    | none =>
      simp only [RefreshTx.saveRotationWithRetry, saveRotationWithRetry, hparent]
      exact ⟨h, trivial, trivial⟩
    | some parentID =>
      by_cases hne : contents = []
      · simp only [RefreshTx.saveRotationWithRetry, saveRotationWithRetry, hparent, hne,
          ↓reduceIte]
        exact ⟨h, trivial, trivial⟩
      · rw [saveRotationWithRetry_eq ρ now s hparent hne]
        simp only [RefreshTx.saveRotationWithRetry, hparent, hne, ↓reduceIte, h.save_eq]
        rcases save_cases (D := D) s (some tok) with ⟨e, heq⟩ | ⟨tok', htok, hadm, heq⟩
        · rw [heq]
          exact ⟨h, rfl, rfl⟩
        · cases htok
          rw [heq]
          have hins := sim_insert h hadm
          refine ⟨?_, rfl, rfl⟩
          dsimp only
          rw [hins.rows]
          exact sim_putRetry hins ρ _ _

end Steps

/-- One call, made through the view and directly. -/
lemma staged_simulates (h : Sim D now t s) {c : TimedCall} (hle : now ≤ c.now) :
    Sim D c.now (staged D t c).1 (direct D s c).1 ∧ (staged D t c).2 = (direct D s c).2 ∧
      (staged D t c).1.parent = t.parent := by
  have h := h.later hle
  obtain ⟨call, now', ρ, ρ'⟩ := c
  cases call with
  | save token =>
    obtain ⟨hsim, hreply, hparent⟩ := sim_save h token
    exact ⟨hsim, congrArg _ hreply, hparent⟩
  | saveRotationWithRetry token contents =>
    obtain ⟨hsim, hreply, hparent⟩ := sim_saveRotationWithRetry h ρ token contents
    exact ⟨hsim, congrArg _ hreply, hparent⟩
  | find id => exact ⟨h, congrArg _ (sim_find h id), rfl⟩
  | consume id =>
    obtain ⟨hsim, hreply, hparent⟩ := sim_consume h id
    exact ⟨hsim, congrArg _ hreply, hparent⟩
  | revokeChain rootID =>
    obtain ⟨hsim, hreply, hparent⟩ := sim_revokeChain h ρ' ρ rootID
    exact ⟨hsim, congrArg _ hreply, hparent⟩
  | revokeByGrant g =>
    obtain ⟨hsim, hparent⟩ := sim_revokeByGrant h ρ' ρ g
    exact ⟨hsim, rfl, hparent⟩
  | loadRetryResponse id => exact ⟨h, congrArg _ (h.retries (D.hashKey id)).present, rfl⟩

/-- The clock of the correspondence matters to the sealed responses only: a store that has
swept none of them corresponds at any time. -/
theorem Sim.unswept (h : Sim D now t s) (now' : Time) :
    Sim D now' t { s with retries := copyInto t.parent.retries t.st.retries } where
  staged := h.staged
  direct := h.direct.of_rows (fun c => by cases c <;> rfl) fun _ => rfl
  rows := h.rows
  marked := h.marked
  retries key := .inl (lookup_copyRetries t key)

lemma sim_run (h : WellFormed D s) (cs : List TimedCall) :
    (∃ now s', Sim D now (run (staged D) (.openOn s) cs).1 s') ∧
      (run (staged D) (.openOn s) cs).1.parent = s := by
  refine run_invariant (P := fun t => (∃ now s', Sim D now t s') ∧ t.parent = s) ?_
    ⟨⟨0, s, sim_open h 0⟩, rfl⟩ cs
  rintro t c ⟨⟨now, s', hsim⟩, hparent⟩
  obtain ⟨hnext, -, hsame⟩ := staged_simulates (hsim.unswept c.now) le_rfl
  exact ⟨⟨c.now, _, hnext⟩, hsame.trans hparent⟩

lemma run_simulates (h : Sim D now t s) {cs : List TimedCall}
    (hclock : ClockedFrom TimedCall.now now cs) :
    Sim D (lastClock TimedCall.now now cs) (run (staged D) t cs).1 (run (direct D) s cs).1 ∧
      (run (staged D) t cs).2 = (run (direct D) s cs).2 := by
  induction cs generalizing now t s with
  | nil => exact ⟨h, rfl⟩
  | cons c cs ih =>
    obtain ⟨hstep, hreply, -⟩ := staged_simulates h hclock.1
    obtain ⟨hend, hreplies⟩ := ih hstep hclock.2
    refine ⟨hend, ?_⟩
    simp only [run, hreply, hreplies]

end Correspondence

/-! ### The commit -/

section Commit
variable {D : KeyDigest} {s : RefreshStore} {t : RefreshTx}

lemma flushAdded_fold {added : StringMap RefreshToken}
    (hids : ∀ key row, added.lookup key = some row → row.id = key) {ks : List String}
    (hn : ks.Nodup) (h : WellFormed D s)
    (hfresh : ∀ key ∈ ks, ∀ row, added.lookup key = some row → s.m.lookup key = none) :
    let s' := ks.foldl (flushAdded D added) s
    WellFormed D s' ∧ s'.retries = s.retries ∧
      ∀ key, s'.m.lookup key = if key ∈ ks then (added.lookup key).or (s.m.lookup key)
        else s.m.lookup key := by
  induction ks generalizing s with
  | nil => exact ⟨h, rfl, fun key => by simp⟩
  | cons id ks ih =>
    obtain ⟨hid, hn⟩ := List.nodup_cons.mp hn
    rw [List.foldl_cons]
    cases hrow : added.lookup id with
    | none =>
      have hskip : flushAdded D added s id = s := by
        simp only [flushAdded, hrow]
      rw [hskip]
      obtain ⟨hwf, hretries, hlook⟩ :=
        ih hn h fun key hk => hfresh key (List.mem_cons_of_mem id hk)
      refine ⟨hwf, hretries, fun key => ?_⟩
      rw [hlook]
      by_cases hk : key = id
      · subst hk
        simp [hid, hrow]
      · simp [hk]
    | some row =>
      have hins : flushAdded D added s id = insertRefresh D s id row := by
        simp only [flushAdded, hrow]
      have hfree := hfresh id List.mem_cons_self row hrow
      rw [hins]
      obtain ⟨hwf, hretries, hlook⟩ := ih hn (wellFormed_insert h hfree (hids id row hrow))
        fun key hk r hr => by
          have hne : key ≠ id := fun heq => hid (heq ▸ hk)
          rw [m_insertRefresh, lookup_insert_ite, if_neg hne]
          exact hfresh key (List.mem_cons_of_mem id hk) r hr
      refine ⟨hwf, hretries, fun key => ?_⟩
      rw [hlook, m_insertRefresh, lookup_insert_ite]
      by_cases hk : key = id
      · subst hk
        simp [hid, hrow]
      · simp [hk]

/-- The store after the layers were merged and before the walk. -/
def merged (D : KeyDigest) (t : RefreshTx) (ρ : KeyOrder) (now : Time) : RefreshStore :=
  let s := (ρ.visit t.st.added.keys).foldl (flushAdded D t.st.added) t.parent
  let s := { s with m := copyInto s.m t.st.updated }
  let s := { s with retries := copyInto s.retries t.st.retries }
  if t.st.retries.keys.card > 0 then maybeGCRetries ρ now s else s

lemma commit_eq (t : RefreshTx) (ρ : KeyOrder) (now : Time) : t.commit D ρ now =
      (ρ.visit t.st.revoked).foldl (revokeChainLocked ρ now) (merged D t ρ now) := rfl

lemma merged_spec (h : Staged D t) (ρ : KeyOrder) (now : Time) :
    WellFormed D (merged D t ρ now) ∧ (∀ key, (merged D t ρ now).m.lookup key = t.lookup key) ∧
      ∀ key, SameResponse now (t.lookupRetry key) ((merged D t ρ now).retries.lookup key) := by
  obtain ⟨hwf, hretries, hlook⟩ := flushAdded_fold h.ids (ρ.nodup_visit t.st.added.keys)
    h.committed fun key _ row hrow => h.fresh key row hrow
  unfold merged
  set s₁ := (ρ.visit t.st.added.keys).foldl (flushAdded D t.st.added) t.parent with hs₁
  have hrows₁ : ∀ key, s₁.m.lookup key = (t.st.added.lookup key).or (t.parent.m.lookup key) := by
    intro key
    rw [hlook]
    cases hadded : t.st.added.lookup key with
    | none => simp
    | some row => rw [if_pos ((ρ.mem_visit _ _).mpr (mem_keys_of_lookup hadded))]
  have hrows : ∀ key, (copyInto s₁.m t.st.updated).lookup key = t.lookup key := by
    intro key
    rw [lookup_copyInto, hrows₁]
    exact (stagedLookup_eq _ _ _ _).symm
  have hresp : ∀ key, (copyInto s₁.retries t.st.retries).lookup key = t.lookupRetry key := by
    rw [hretries]
    exact lookup_copyRetries t
  have hwf₂ : WellFormed D { s₁ with
      m := copyInto s₁.m t.st.updated, retries := copyInto s₁.retries t.st.retries } := by
    refine hwf.of_rows (fun c => by cases c <;> rfl) fun key => ?_
    rw [hrows, h.frozen_lookup, hrows₁]
  split_ifs
  · refine ⟨hwf₂.of_rows (fun c => index_maybeGCRetries ρ now c _) fun key => ?_, fun key => ?_,
      fun key => ?_⟩
    · rw [m_maybeGCRetries]
    · rw [m_maybeGCRetries, hrows]
    · rcases retries_maybeGCRetries ρ now { s₁ with
          m := copyInto s₁.m t.st.updated, retries := copyInto s₁.retries t.st.retries } key with
        hsame | ⟨hnone, r, hr, hdead⟩
      · exact .inl (hsame.trans (hresp key))
      · exact .inr ⟨hnone, r, (hresp key).symm.trans hr, hdead⟩
  · exact ⟨hwf₂, hrows, fun key => .inl (hresp key)⟩

lemma wellFormed_commit (h : Staged D t) (ρ : KeyOrder) (now : Time) :
    WellFormed D (t.commit D ρ now) := by
  rw [commit_eq]
  have hmerged := (merged_spec h ρ now).1
  generalize merged D t ρ now = s at hmerged
  induction ρ.visit t.st.revoked generalizing s with
  | nil => exact hmerged
  | cons root roots ih =>
    exact ih _ ((stamps_revokeChainLocked ρ now s root).wellFormed hmerged)

lemma revokeChainLocked_of_chainMarked {root : String} (h : ChainMarked s root)
    (ρ : KeyOrder) (now : Time) : revokeChainLocked ρ now s root = s := by
  have hm : (revokeChainLocked ρ now s root).m = s.m := by
    refine Finmap.ext_lookup fun key => ?_
    obtain ⟨hin, hout⟩ := lookup_revokeChainLocked ρ now s root key
    by_cases hk : Descends s.byParent root key
    · obtain ⟨row, hrow, hrev, hcons⟩ := h key hk
      rw [hin hk, hrow, Option.map_some, markRevoked_of_revoked hrev hcons]
    · exact hout hk
  unfold revokeChainLocked at hm ⊢
  dsimp only at hm
  rw [hm]

lemma ids_eq_of_rows (h : WellFormed D s) (h' : WellFormed D s')
    (hrows : ∀ key, s.m.lookup key = s'.m.lookup key) (c : Column) (value : String) :
    (c.index s).ids value = (c.index s').ids value := by
  ext key
  rw [h.listed c key value, h'.listed c key value, hrows key]

/-- What a commit leaves: the rows and indexes of the direct store, and responses
that are served alike from then on. -/
theorem Sim.commit {now : Time} (h : Sim D now t s) (ρ : KeyOrder) : (t.commit D ρ now).m = s.m ∧
      (∀ (c : Column) value, (c.index (t.commit D ρ now)).ids value = (c.index s).ids value) ∧
      ∀ later predecessorID, now ≤ later →
        loadRetryResponse D later (t.commit D ρ now) predecessorID =
          loadRetryResponse D later s predecessorID := by
  obtain ⟨hwf, hrows, hresp⟩ := merged_spec h.staged ρ now
  have hrows' : ∀ key, (merged D t ρ now).m.lookup key = s.m.lookup key :=
    fun key => (hrows key).trans (h.rows key)
  have hids := ids_eq_of_rows hwf h.direct hrows'
  have hmarked : ∀ root ∈ t.st.revoked, ChainMarked (merged D t ρ now) root := by
    intro root hroot key hkey
    rw [hrows']
    exact h.marked root hroot key (Descends.congr (hids .parent) hkey)
  have hwalk : t.commit D ρ now = merged D t ρ now := by
    rw [commit_eq]
    have hroots : ∀ root ∈ ρ.visit t.st.revoked, root ∈ t.st.revoked :=
      fun root hroot => (ρ.mem_visit _ _).mp hroot
    generalize ρ.visit t.st.revoked = roots at hroots
    induction roots with
    | nil => rfl
    | cons root roots ih =>
      rw [List.foldl_cons,
        revokeChainLocked_of_chainMarked (hmarked root (hroots root List.mem_cons_self))]
      exact ih fun r hr => hroots r (List.mem_cons_of_mem root hr)
  rw [hwalk]
  refine ⟨Finmap.ext_lookup hrows', hids, fun later predecessorID hle => ?_⟩
  have hview := ((hresp (D.hashKey predecessorID)).mono hle).present
  have hdirect := ((h.retries (D.hashKey predecessorID)).mono hle).present
  exact hview.symm.trans hdirect

end Commit

/-! ### Main result -/

section
variable {D : KeyDigest} {t : RefreshTx}

lemma wellFormed_direct {s : RefreshStore} (h : WellFormed D s) (c : TimedCall) :
    WellFormed D (direct D s c).1 := by
  obtain ⟨call, now, ρ, ρ'⟩ := c
  cases call with
  | save token => exact wellFormed_save h token
  | saveRotationWithRetry token contents =>
    exact wellFormed_saveRotationWithRetry h ρ now token contents
  | find id => exact h
  | consume id => exact (stamps_consume now s id).wellFormed h
  | revokeChain rootID => exact (stamps_revokeChain ρ now s rootID).wellFormed h
  | revokeByGrant g => exact (stamps_revokeByGrant ρ now s g).wellFormed h
  | loadRetryResponse id => exact h

lemma wellFormed_after (history : List (TransactionalStore.Event TimedCall Commit RevokeByClient)) :
    WellFormed D ((refreshes D).after newRefreshStore history) := by
  refine TransactionalStore.after_preserves (P := WellFormed D) (fun s e h => ?_) wellFormed_new
    history
  cases e with
  | call c => exact wellFormed_direct h c
  | outside u => exact (stamps_revokeByClient u.order u.now s u.clientID).wellFormed h
  | committed cs e =>
    obtain ⟨⟨now, s', hsim⟩, -⟩ := sim_run h cs
    exact wellFormed_commit hsim.staged e.order e.now
  | rolledBack cs =>
    change WellFormed D (run (staged D) (.openOn s) cs).1.parent
    rw [(sim_run h cs).2]
    exact h

/-- A transaction on a reachable refresh store is the same as its calls made
directly: call by call the same replies; after the commit the same rows, the
same index contents and the same answers for sealed responses; and after a
rollback the store it was opened on. -/
theorem refresh_transaction_same_as_direct
    (history : List (TransactionalStore.Event TimedCall Commit RevokeByClient))
    (start now : Time) (cs : List TimedCall) (ρ : KeyOrder)
    (hclock : ClockedFrom TimedCall.now start cs)
    (hcommit : lastClock TimedCall.now start cs ≤ now) :
    let s := (refreshes D).after newRefreshStore history
    let staged := run (refreshes D).staged ((refreshes D).openTx s) cs
    let direct := run (refreshes D).direct s cs
    let committed := (refreshes D).commit staged.1 ⟨ρ, now⟩
    staged.2 = direct.2 ∧
      committed.m = direct.1.m ∧
      (∀ (c : Column) value, (c.index committed).ids value = (c.index direct.1).ids value) ∧
      (∀ later predecessorID, now ≤ later →
        loadRetryResponse D later committed predecessorID =
          loadRetryResponse D later direct.1 predecessorID) ∧
      (refreshes D).rollback staged.1 = s := by
  intro s staged direct committed
  have hwf : WellFormed D s := wellFormed_after history
  obtain ⟨hsim, hreplies⟩ := run_simulates (sim_open hwf start) hclock
  obtain ⟨hrows, hids, hresp⟩ := (hsim.later hcommit).commit ρ
  exact ⟨hreplies, hrows, hids, hresp, (sim_run hwf cs).2⟩

end

def sampleRefresh (id : String) (parentID : Option String) : RefreshToken :=
  { (default : RefreshToken) with
    id := id, clientID := "client", grantID := "grant", parentID := parentID, expiresAt := 100 }

def timed (now : Time) (call : Call) : TimedCall :=
  ⟨call, now, ascending, ascending⟩

/-- A rotation and the revocation of its chain, in one transaction. -/
def rotateThenRevoke : List TimedCall :=
  [timed 1 (.save (some (sampleRefresh "r0" none))), timed 2 (.consume "r0"),
    timed 3 (.saveRotationWithRetry (some (sampleRefresh "r1" (some "r0"))) [7]),
    timed 4 (.revokeChain "r0"), timed 5 (.save (some (sampleRefresh "r2" (some "r1")))),
    timed 6 (.loadRetryResponse "r0")]

theorem refresh_transaction_rotateThenRevoke :
    (run (refreshes plainDigest).staged ((refreshes plainDigest).openTx newRefreshStore)
        rotateThenRevoke).2 =
      (run (refreshes plainDigest).direct newRefreshStore rotateThenRevoke).2 ∧
    ((refreshes plainDigest).commit (run (refreshes plainDigest).staged
        ((refreshes plainDigest).openTx newRefreshStore) rotateThenRevoke).1
          ⟨ascending, 6⟩).m =
      (run (refreshes plainDigest).direct newRefreshStore rotateThenRevoke).1.m := by
  have h := refresh_transaction_same_as_direct (D := plainDigest) [] 0 6 rotateThenRevoke
    ascending (by simp [ClockedFrom, rotateThenRevoke, timed])
    (by simp [lastClock, rotateThenRevoke, timed])
  exact ⟨h.1, h.2.1⟩

example : ((run (refreshes plainDigest).direct newRefreshStore rotateThenRevoke).1.m.lookup
    "#r1").map (·.revoked) = some true := by decide

end OidcProvider.RefreshTransactions
