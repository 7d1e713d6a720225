import OidcProvider.SecondaryIndexes
import OidcProvider.StagedOverlay
import OidcProvider.StoreRecords

/-!
# Rows shared by the two access-token stores

The registry of JWT access tokens and the store of opaque access tokens keep
their rows, their grant and client indexes and their transactional views with
the same code (`token_rows.go`, `tx_aux.go`). It is written here once over the
fields that the two row types share. Each operation comes twice: on the
committed rows, and through the overlay of an open transaction. The results
describe what each leaves at every key and what it counts, for any order in
which Go ranges over its maps.
-/
namespace OidcProvider.TokenRows
open FiniteMaps SecondaryIndexes StagedOverlay StoreRecords

/-- `tokenRowOps`: the fields the two row types share. Revoking a row changes
none of the fields the rows are indexed and reclaimed by. -/
structure TokenRowOps (V : Type) where
  grantID : V → String
  clientID : V → String
  expiresAt : V → Time
  revoked : V → Bool
  setRevoked : V → V
  grantID_setRevoked : ∀ row, grantID (setRevoked row) = grantID row
  clientID_setRevoked : ∀ row, clientID (setRevoked row) = clientID row
  expiresAt_setRevoked : ∀ row, expiresAt (setRevoked row) = expiresAt row
  revoked_setRevoked : ∀ row, revoked (setRevoked row) = true

structure TokenIndex where
  byGrant : Index
  byClient : Index
  deriving DecidableEq

abbrev TokenStore (V : Type) := Tracked String V TokenIndex

def matchAnyToken {V : Type} (_ : V) : Bool := true

section
variable {V : Type} (ops : TokenRowOps V) (ρ : KeyOrder) (s : TokenStore V)
  (accept : V → Bool)

def emptyStore : TokenStore V := ⟨∅, ⟨∅, ∅⟩⟩

def track (idx : TokenIndex) (key : String) (row : V) : TokenIndex :=
  ⟨idx.byGrant.add (ops.grantID row) key, idx.byClient.add (ops.clientID row) key⟩

def untrack (idx : TokenIndex) (key : String) (row : V) : TokenIndex :=
  ⟨idx.byGrant.remove (ops.grantID row) key, idx.byClient.remove (ops.clientID row) key⟩

/-- The committed rows, addressed by key, with the indexes following. -/
abbrev rowCells : Cells (TokenStore V) String V := commitCells (untrack ops) (track ops)

/-- The body of the revocation loops on the row it reads: absent, revoked and
unmatched rows are skipped. -/
def revokeBody (accept : V → Bool) : Option V → Option (Option V)
  | none => none
  | some row => if ops.revoked row || !accept row then none else some (some (ops.setRevoked row))

/-- `revokeIndexed`: flips the not-yet-revoked rows named by `ids` that are
accepted, and counts them. -/
def revokeIndexed (ρ : KeyOrder) (s : TokenStore V) (ids : Finset String)
    (accept : V → Bool) : TokenStore V × ℕ :=
  let r := rangeLoop (mapCells String V) (fun m key => revokeBody ops accept (m.lookup key))
    (ρ.visit ids) s.m
  (⟨r.1, s.idx⟩, r.2)

/-- The rows the reclamation with this cutoff removes. -/
def reclaimable (cutoff : Time) (row : V) : Bool := isExpiredStrict (ops.expiresAt row) cutoff

def gcBody (cutoff : Time) (s : TokenStore V) (key : String) : Option (Option V) :=
  match s.m.lookup key with
  | some row => if reclaimable ops cutoff row then some none else none
  | none => none

/-- `gcRows`: drops every row whose expiry is strictly before the cutoff,
together with its index entries. -/
def gcRows (ρ : KeyOrder) (s : TokenStore V) (cutoff : Time) : TokenStore V × ℕ :=
  rangeLoop (rowCells ops) (gcBody ops cutoff) (ρ.visit s.m.keys) s

/-- `revokeStaged`: the candidates are the committed rows named by `ids` plus
every row written in the transaction, each resolved through the overlay. -/
def revokeStaged (ρ : KeyOrder) (st : Overlay String V) (ids : Finset String)
    (accept : V → Bool) : Overlay String V × ℕ :=
  rangeLoop (overlayCells String V) (fun st key => revokeBody ops accept (st.lookup key))
    (ρ.visit (ids ∪ st.written.keys)) st

/-- `txAccessTokens.GC` and `txOpaqueAccessTokens.GC`. -/
def gcStaged (ρ : KeyOrder) (st : Overlay String V) (cutoff : Time) : Overlay String V × ℕ :=
  reclaim (reclaimable ops cutoff) ρ st

/-- The insert of `Register` and `Save` on the committed rows. -/
def insertRow (s : TokenStore V) (key : String) (row : V) : TokenStore V × StoreReply :=
  match s.m.lookup key with
  | some _ => (s, .error .alreadyExists)
  | none => (⟨s.m.insert key row, track ops s.idx key row⟩, .ok ())

/-- The insert of `Register` and `Save` through the overlay. -/
def insertStaged (st : Overlay String V) (key : String) (row : V) : Overlay String V × StoreReply :=
  match st.lookup key with
  | some _ => (st, .error .alreadyExists)
  | none => (st.stage key row, .ok ())

/-- `RevokeByJTI` and `RevokeByID` past their check for an empty id. -/
def revokeRow (s : TokenStore V) (key : String) : TokenStore V :=
  match s.m.lookup key with
  | none => s
  | some row => ⟨s.m.insert key (ops.setRevoked row), s.idx⟩

def revokeRowStaged (st : Overlay String V) (key : String) : Overlay String V :=
  match st.lookup key with
  | none => st
  | some row => st.stage key (ops.setRevoked row)

def flipRow (accept : V → Bool) (row : V) : V :=
  if ops.revoked row || !accept row then row else ops.setRevoked row

lemma revokeBody_getD (row : Option V) :
    (revokeBody ops accept row).getD row = row.map (flipRow ops accept) := by
  cases row with
  | none => rfl
  | some row =>
    simp only [revokeBody, flipRow, Option.map_some]
    split_ifs <;> rfl

lemma revokeBody_isSome (row : Option V) :
    (revokeBody ops accept row).isSome = row.any fun r => !ops.revoked r && accept r := by
  cases row with
  | none => rfl
  | some row =>
    simp only [revokeBody, Option.any_some]
    cases ops.revoked row <;> cases accept row <;> rfl

lemma revokeIndexed_local :
    Local (mapCells String V) fun m key => revokeBody ops accept (m.lookup key) := by
  intro m key w key' h
  simp only [mapCells, lookup_put, h, ↓reduceIte]

lemma revokeStaged_local :
    Local (overlayCells String V) fun st key => revokeBody ops accept (st.lookup key) := by
  intro st key w key' h
  simp only [overlayCells, Overlay.lookup_set, h, ↓reduceIte]

lemma lookup_revokeIndexed (ids : Finset String) (accept : V → Bool) (key : String) :
    (revokeIndexed ops ρ s ids accept).1.m.lookup key =
      if key ∈ ids then (s.m.lookup key).map (flipRow ops accept) else s.m.lookup key := by
  have h := rangeLoop_visit_get (revokeIndexed_local ops accept) ρ ids s.m key
  rw [← revokeBody_getD]
  exact h

lemma lookup_revokeRow (key key' : String) :
    (revokeRow ops s key).m.lookup key' =
      if key' = key then (s.m.lookup key').map ops.setRevoked else s.m.lookup key' := by
  have hm : (revokeRow ops s key).m = FiniteMaps.modify ops.setRevoked s.m key := by
    unfold revokeRow FiniteMaps.modify
    cases s.m.lookup key <;> rfl
  rw [hm, lookup_modify]

lemma revokeIndexed_count (ids : Finset String) (accept : V → Bool) :
    (revokeIndexed ops ρ s ids accept).2 =
      (ids.filter fun key =>
        ((s.m.lookup key).any fun row => !ops.revoked row && accept row) = true).card := by
  have h := rangeLoop_visit_count (revokeIndexed_local ops accept) ρ ids s.m
  simp only [revokeBody_isSome] at h
  exact h

lemma lookup_revokeStaged (st : Overlay String V) (ids : Finset String) (accept : V → Bool)
    (key : String) :
    (revokeStaged ops ρ st ids accept).1.lookup key =
      if key ∈ ids ∪ st.written.keys then (st.lookup key).map (flipRow ops accept)
      else st.lookup key := by
  have h := rangeLoop_visit_get (revokeStaged_local ops accept) ρ (ids ∪ st.written.keys) st key
  rw [← revokeBody_getD]
  exact h

lemma revokeStaged_count (st : Overlay String V) (ids : Finset String) (accept : V → Bool) :
    (revokeStaged ops ρ st ids accept).2 =
      ((ids ∪ st.written.keys).filter fun key =>
        ((st.lookup key).any fun row => !ops.revoked row && accept row) = true).card := by
  have h := rangeLoop_visit_count (revokeStaged_local ops accept) ρ (ids ∪ st.written.keys) st
  simp only [revokeBody_isSome] at h
  exact h

lemma gcBody_local (cutoff : Time) : Local (rowCells ops) (gcBody ops cutoff) := by
  intro s key w key' h
  simp only [gcBody, rowCells, commitCells, Tracked.m_commit, lookup_put, h, ↓reduceIte]

lemma lookup_gcRows (cutoff : Time) (key : String) :
    (gcRows ops ρ s cutoff).1.m.lookup key =
      (s.m.lookup key).filter fun row => !reclaimable ops cutoff row := by
  have h := rangeLoop_visit_get (gcBody_local ops cutoff) ρ s.m.keys s key
  refine h.trans ?_
  simp only [gcBody, rowCells, commitCells]
  cases hrow : s.m.lookup key with
  | none => simp
  | some row =>
    cases hr : reclaimable ops cutoff row <;>
      simp [mem_keys_of_lookup hrow, hr, Option.filter_some]

lemma gcRows_count (cutoff : Time) :
    (gcRows ops ρ s cutoff).2 =
      (s.m.keys.filter fun key =>
        (s.m.lookup key).any (reclaimable ops cutoff) = true).card := by
  have h := rangeLoop_visit_count (gcBody_local ops cutoff) ρ s.m.keys s
  refine h.trans ?_
  congr 1
  apply Finset.filter_congr
  intro key _
  simp only [gcBody]
  cases s.m.lookup key with
  | none => rfl
  | some row => cases hr : reclaimable ops cutoff row <;> simp [hr]

inductive Column where
  | grant
  | client
  deriving DecidableEq

namespace Column

def attr : Column → V → String
  | .grant => ops.grantID
  | .client => ops.clientID

def index : Column → TokenIndex → Index
  | .grant, idx => idx.byGrant
  | .client, idx => idx.byClient

/-- A property of the rows and of the index of one column. -/
def Holds (c : Column) (P : StringMap V → Index → Prop) (s : TokenStore V) : Prop :=
  P s.m (c.index s.idx)

end Column

variable {ops}

lemma attr_setRevoked (c : Column) (row : V) :
    c.attr ops (ops.setRevoked row) = c.attr ops row := by
  cases c with
  | grant => exact ops.grantID_setRevoked row
  | client => exact ops.clientID_setRevoked row

lemma attr_flipRow (c : Column) (accept : V → Bool) (row : V) :
    c.attr ops (flipRow ops accept row) = c.attr ops row := by
  unfold flipRow
  split_ifs
  · rfl
  · exact attr_setRevoked c row

lemma index_commit (c : Column) (s : TokenStore V) (key : String) (w : Option V) :
    c.index (s.commit (untrack ops) (track ops) key w).idx =
      reindex (c.attr ops) key (s.m.lookup key) w (c.index s.idx) := by
  cases w with
  | some row => cases c <;> rfl
  | none =>
    simp only [Tracked.commit]
    cases s.m.lookup key <;> cases c <;> rfl

section Maintenance
variable {c : Column} {permits : Option V → Option V → Prop} {P : StringMap V → Index → Prop}
  (M : Maintained (c.attr ops) permits P)
include M

variable {s : TokenStore V}

lemma commit_maintains (h : c.Holds P s) (key : String) (w : Option V)
    (hw : permits (s.m.lookup key) w) : c.Holds P (s.commit (untrack ops) (track ops) key w) := by
  unfold Column.Holds
  rw [Tracked.m_commit, index_commit]
  exact M.put h key w hw

lemma insertRow_maintains (h : c.Holds P s) (key : String) (row : V) :
    c.Holds P (insertRow ops s key row).1 := by
  unfold insertRow
  cases hrow : s.m.lookup key with
  | some _ => exact h
  | none => exact commit_maintains M h key (some row) (hrow ▸ M.permits_insert _)

lemma revokeRow_maintains (h : c.Holds P s) (key : String) : c.Holds P (revokeRow ops s key) := by
  unfold revokeRow
  cases hrow : s.m.lookup key with
  | none => exact h
  | some row =>
    refine M.congr (fun key' => ?_) h
    rw [lookup_insert_ite]
    split_ifs with hk
    · rw [hk, hrow, Option.map_some, Option.map_some, attr_setRevoked]
    · rfl

lemma revokeIndexed_maintains (h : c.Holds P s) (ρ : KeyOrder) (ids : Finset String)
    (accept : V → Bool) : c.Holds P (revokeIndexed ops ρ s ids accept).1 := by
  refine M.congr (fun key => ?_) h
  rw [lookup_revokeIndexed]
  split_ifs
  · rw [Option.map_map]
    congr 1
    exact funext (attr_flipRow c accept)
  · rfl

lemma gcRows_maintains (h : c.Holds P s) (ρ : KeyOrder) (cutoff : Time) :
    c.Holds P (gcRows ops ρ s cutoff).1 := by
  refine rangeLoop_invariant (P := c.Holds P) (fun s key w hs hact => ?_) _ s h
  have hw : w = none := by
    simp only [gcBody] at hact
    grind
  subst hw
  exact commit_maintains M hs key none (M.permits_erase _)

/-- The flush keeps what is maintained when each written row may replace the
committed row it lands on. -/
theorem flush_maintains {st : Overlay String V} {idx : TokenIndex}
    (h : P st.base (c.index idx)) (ρ : KeyOrder)
    (hw : ∀ key, permits (st.base.lookup key) (st.written.lookup key)) :
    c.Holds P (st.flush (untrack ops) (track ops) ρ idx) := by
  have h₁ : c.Holds P (rangeLoop (rowCells ops) (fun _ _ => some none) (ρ.visit st.deleted)
      ⟨st.base, idx⟩).1 := by
    refine rangeLoop_invariant (P := c.Holds P) (fun s key w hs hact => ?_) _ _ h
    cases Option.some.inj hact
    exact commit_maintains M hs key none (M.permits_erase _)
  let Q (s : TokenStore V) : Prop := c.Holds P s ∧ ∀ key, s.m.lookup key = none ∨
    s.m.lookup key = st.base.lookup key ∨ s.m.lookup key = st.written.lookup key
  refine (rangeLoop_invariant (P := Q) (fun s key w hs hact => ?_) _ _ ⟨h₁, ?_⟩).1
  · obtain ⟨row, hrow, rfl⟩ := Option.map_eq_some_iff.mp hact
    refine ⟨commit_maintains M hs.1 key _ ?_, fun key' => ?_⟩
    · rcases hs.2 key with hold | hold | hold
      · exact hold ▸ M.permits_insert _
      · exact hold ▸ hrow ▸ hw key
      · rw [hold, hrow]
        exact M.permits_refl _
    · have hset : ((rowCells ops).set s key (some row)).m = put s.m key (some row) :=
        Tracked.m_commit _ _ s key _
      rw [hset, lookup_put]
      split_ifs with hk
      · exact .inr (.inr (hk ▸ hrow.symm))
      · exact hs.2 key'
  · intro key
    rw [lookup_flush_deleted]
    split_ifs
    · exact .inl rfl
    · exact .inr (.inl rfl)

end Maintenance

lemma mem_ids_flush {c : Column} {st : Overlay String V} {idx : TokenIndex} {key value : String}
    (hkey : key ∈ (c.index idx).ids value) (hd : key ∉ st.deleted) (ρ : KeyOrder) :
    key ∈ (c.index (st.flush (untrack ops) (track ops) ρ idx).idx).ids value := by
  have hne : ∀ (s : TokenStore V) k w k', k' ≠ k →
      (k' ∈ (c.index ((rowCells ops).set s k w).idx).ids value) =
        (k' ∈ (c.index s.idx).ids value) := by
    intro s k w k' hk
    rw [show ((rowCells ops).set s k w).idx = (s.commit (untrack ops) (track ops) k w).idx from rfl,
      index_commit, mem_ids_reindex]
    simp [hk]
  have h₁ : key ∈ (c.index (rangeLoop (rowCells ops) (fun _ _ => some none)
      (ρ.visit st.deleted) ⟨st.base, idx⟩).1.idx).ids value := by
    have hmem : key ∉ ρ.visit st.deleted := fun h => hd ((ρ.mem_visit _ _).mp h)
    exact (rangeLoop_obs_of_not_mem (C := rowCells ops)
      (g := fun s k => k ∈ (c.index s.idx).ids value) hne hmem).mpr hkey
  refine rangeLoop_invariant (P := fun s : TokenStore V => key ∈ (c.index s.idx).ids value)
    (fun s k w hs hact => ?_) _ _ h₁
  obtain ⟨row, _, rfl⟩ := Option.map_eq_some_iff.mp hact
  change key ∈ (c.index (s.commit (untrack ops) (track ops) k (some row)).idx).ids value
  rw [index_commit, mem_ids_reindex]
  exact .inl ⟨hs, by simp⟩

end

end OidcProvider.TokenRows
