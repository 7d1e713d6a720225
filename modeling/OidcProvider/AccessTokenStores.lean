import OidcProvider.TokenRows
import OidcProvider.TransactionalStores

/-!
# The JWT access-token registry and the opaque access-token store

Both stores of the in-memory adapter, each with its direct operations
(`access_tokens.go`, `opaque_access_tokens.go`) and the operations of its
transactional view (`tx_aux.go`). A transaction reads the committed indexes of
the store it was opened on and writes nothing but its overlay until it commits.
Calls are made on an open transaction with a live context.
-/
namespace OidcProvider.AccessTokenStores
open FiniteMaps SecondaryIndexes StagedOverlay StoreRecords TokenRows TransactionalStores

/-- A transaction on one token store: the committed indexes it reads, and its
overlay on the committed rows. -/
structure TokenTx (V : Type) where
  idx : TokenIndex
  st : Overlay String V

namespace TokenTx
variable {V : Type} (ops : TokenRowOps V)

def openOn (s : TokenStore V) : TokenTx V := ⟨s.idx, Overlay.new s.m⟩

/-- `Commit`: the flush of the overlay, with the indexes in step. -/
def commit (t : TokenTx V) (ρ : KeyOrder) : TokenStore V :=
  t.st.flush (untrack ops) (track ops) ρ t.idx

/-- `Rollback`: the store as it was opened. -/
def rollback (t : TokenTx V) : TokenStore V := ⟨t.st.base, t.idx⟩

def insert (t : TokenTx V) (key : String) (row : V) : TokenTx V × StoreReply :=
  let r := insertStaged t.st key row
  (⟨t.idx, r.1⟩, r.2)

def revokeKey (t : TokenTx V) (key : String) : TokenTx V :=
  ⟨t.idx, revokeRowStaged ops t.st key⟩

/-- The candidates come from the committed grant index. -/
def revokeGrant (ρ : KeyOrder) (t : TokenTx V) (grantID : String) (accept : V → Bool) :
    TokenTx V × ℕ :=
  let r := revokeStaged ops ρ t.st (t.idx.byGrant.ids grantID) accept
  (⟨t.idx, r.1⟩, r.2)

def gc (ρ : KeyOrder) (t : TokenTx V) (cutoff : Time) : TokenTx V × ℕ :=
  let r := gcStaged ops ρ t.st cutoff
  (⟨t.idx, r.1⟩, r.2)

end TokenTx

/-- `RevokeByClient`, with the order in which it ranges over the index. It has no
transactional counterpart. -/
structure RevokeByClient where
  clientID : String
  order : KeyOrder

/-- A call together with the orders in which Go happens to range over the maps
when it is made directly and when it is made through the transaction. -/
structure Ranged (C : Type) where
  call : C
  direct : KeyOrder
  staged : KeyOrder

/-- What the calls of both stores answer with. -/
inductive Reply (V : Type) where
  | done (result : StoreReply)
  | found (result : Fallible (Option V))
  | count (n : ℕ)

/-- What a call of either store comes to, past its checks. -/
inductive RowOp (V : Type) where
  | refuse (reply : Reply V)
  | read (key : String) (answer : Option V → Reply V)
  | insert (key : String) (row : V)
  | revokeKey (key : String)
  | revokeGrant (grantID : String) (accept : V → Bool)
  | gc (cutoff : Time)

namespace RowOp
variable {V : Type} (ops : TokenRowOps V) (ρ : KeyOrder)

/-- The call on the committed store. -/
def direct (s : TokenStore V) : RowOp V → TokenStore V × Reply V
  | .refuse reply => (s, reply)
  | .read key answer => (s, answer (s.m.lookup key))
  | .insert key row => let r := insertRow ops s key row; (r.1, .done r.2)
  | .revokeKey key => (revokeRow ops s key, .done (.ok ()))
  | .revokeGrant g accept =>
    let r := revokeIndexed ops ρ s (s.idx.byGrant.ids g) accept
    (r.1, .count r.2)
  | .gc cutoff => let r := gcRows ops ρ s cutoff; (r.1, .count r.2)

/-- The call through a transaction. -/
def staged (t : TokenTx V) : RowOp V → TokenTx V × Reply V
  | .refuse reply => (t, reply)
  | .read key answer => (t, answer (t.st.lookup key))
  | .insert key row => let r := t.insert key row; (r.1, .done r.2)
  | .revokeKey key => (t.revokeKey ops key, .done (.ok ()))
  | .revokeGrant g accept => let r := TokenTx.revokeGrant ops ρ t g accept; (r.1, .count r.2)
  | .gc cutoff => let r := TokenTx.gc ops ρ t cutoff; (r.1, .count r.2)

/-- The grant whose rows the call revokes, and the rows it accepts. -/
def revokes : RowOp V → Option (String × (V → Bool))
  | .revokeGrant g accept => some (g, accept)
  | _ => none

variable {ops}

lemma direct_maintains {col : Column} {permits : Option V → _ → Prop}
    {P : StringMap V → Index → Prop} (M : Maintained (col.attr ops) permits P)
    {s : TokenStore V} (h : col.Holds P s) (op : RowOp V) :
    col.Holds P (op.direct ops ρ s).1 := by
  cases op with
  | refuse reply => exact h
  | read key answer => exact h
  | insert key row => exact insertRow_maintains M h key row
  | revokeKey key => exact revokeRow_maintains M h key
  | revokeGrant g accept => exact revokeIndexed_maintains M h ρ _ accept
  | gc cutoff => exact gcRows_maintains M h ρ cutoff

end RowOp

/-! ### The JWT access-token registry -/

/-- How the generic row code reads a JWT record. -/
def accessTokenRowOps : TokenRowOps AccessTokenRecord where
  grantID r := r.grantID
  clientID r := r.clientID
  expiresAt r := r.expiresAt
  revoked r := r.revoked
  setRevoked r := { r with revoked := true }
  grantID_setRevoked _ := rfl
  clientID_setRevoked _ := rfl
  expiresAt_setRevoked _ := rfl
  revoked_setRevoked _ := rfl

namespace AccessTokens

abbrev Store := TokenStore AccessTokenRecord
abbrev Tx := TokenTx AccessTokenRecord

def errEmptyJTI : StoreError := .other "inmem: AccessTokenRecord requires a non-empty JTI"

/-- `Register`: a JTI is entered once. -/
def register (s : Store) (rec : AccessTokenRecord) : Store × StoreReply :=
  if rec.jti = "" then (s, .error errEmptyJTI)
  else insertRow accessTokenRowOps s rec.jti rec

def find (s : Store) (jti : String) : Option AccessTokenRecord :=
  if jti = "" then none else s.m.lookup jti

def revokeByJTI (s : Store) (jti : String) : Store :=
  if jti = "" then s else revokeRow accessTokenRowOps s jti

def revokeByGrant (ρ : KeyOrder) (s : Store) (grantID : String) : Store × ℕ :=
  if grantID = "" then (s, 0)
  else revokeIndexed accessTokenRowOps ρ s (s.idx.byGrant.ids grantID) matchAnyToken

def revokeByClient (ρ : KeyOrder) (s : Store) (clientID : String) : Store :=
  if clientID = "" then s
  else (revokeIndexed accessTokenRowOps ρ s (s.idx.byClient.ids clientID) matchAnyToken).1

def gc (ρ : KeyOrder) (s : Store) (cutoff : Time) : Store × ℕ :=
  gcRows accessTokenRowOps ρ s cutoff

def txRegister (t : Tx) (rec : AccessTokenRecord) : Tx × StoreReply :=
  if rec.jti = "" then (t, .error errEmptyJTI)
  else t.insert rec.jti rec

def txFind (t : Tx) (jti : String) : Option AccessTokenRecord :=
  if jti = "" then none else t.st.lookup jti

def txRevokeByJTI (t : Tx) (jti : String) : Tx :=
  if jti = "" then t else t.revokeKey accessTokenRowOps jti

def txRevokeByGrant (ρ : KeyOrder) (t : Tx) (grantID : String) : Tx × ℕ :=
  if grantID = "" then (t, 0)
  else TokenTx.revokeGrant accessTokenRowOps ρ t grantID matchAnyToken

def txGC (ρ : KeyOrder) (t : Tx) (cutoff : Time) : Tx × ℕ :=
  TokenTx.gc accessTokenRowOps ρ t cutoff

inductive Call where
  | register (rec : AccessTokenRecord)
  | find (jti : String)
  | revokeByJTI (jti : String)
  | revokeByGrant (grantID : String)
  | gc (cutoff : Time)

def direct (s : Store) (c : Ranged Call) : Store × Reply AccessTokenRecord :=
  match c.call with
  | .register rec => let r := register s rec; (r.1, .done r.2)
  | .find jti => (s, .found (.ok (find s jti)))
  | .revokeByJTI jti => (revokeByJTI s jti, .done (.ok ()))
  | .revokeByGrant g => let r := revokeByGrant c.direct s g; (r.1, .count r.2)
  | .gc cutoff => let r := gc c.direct s cutoff; (r.1, .count r.2)

def staged (t : Tx) (c : Ranged Call) : Tx × Reply AccessTokenRecord :=
  match c.call with
  | .register rec => let r := txRegister t rec; (r.1, .done r.2)
  | .find jti => (t, .found (.ok (txFind t jti)))
  | .revokeByJTI jti => (txRevokeByJTI t jti, .done (.ok ()))
  | .revokeByGrant g => let r := txRevokeByGrant c.staged t g; (r.1, .count r.2)
  | .gc cutoff => let r := txGC c.staged t cutoff; (r.1, .count r.2)

def op : Call → RowOp AccessTokenRecord
  | .register rec =>
    if rec.jti = "" then .refuse (.done (.error errEmptyJTI)) else .insert rec.jti rec
  | .find jti =>
    if jti = "" then .refuse (.found (.ok none)) else .read jti fun row => .found (.ok row)
  | .revokeByJTI jti => if jti = "" then .refuse (.done (.ok ())) else .revokeKey jti
  | .revokeByGrant g => if g = "" then .refuse (.count 0) else .revokeGrant g matchAnyToken
  | .gc cutoff => .gc cutoff

lemma op_named (c : Call) (accept : AccessTokenRecord → Bool) :
    op c ≠ .revokeGrant "" accept := by
  cases c <;> grind [op]

lemma direct_eq (s : Store) (c : Ranged Call) :
    direct s c = (op c.call).direct accessTokenRowOps c.direct s := by
  obtain ⟨c, ρ, ρ'⟩ := c
  cases c with
  | gc cutoff => rfl
  | _ =>
    simp only [direct, op, register, find, revokeByJTI, revokeByGrant]
    split_ifs <;> rfl

lemma staged_eq (t : Tx) (c : Ranged Call) :
    staged t c = (op c.call).staged accessTokenRowOps c.staged t := by
  obtain ⟨c, ρ, ρ'⟩ := c
  cases c with
  | gc cutoff => rfl
  | _ =>
    simp only [staged, op, txRegister, txFind, txRevokeByJTI, txRevokeByGrant]
    split_ifs <;> rfl

/-- The registry with its transactions. -/
def registry : TransactionalStore Store Tx (Ranged Call) (Reply AccessTokenRecord)
    KeyOrder RevokeByClient where
  direct := direct
  staged := staged
  openTx := TokenTx.openOn
  commit := TokenTx.commit accessTokenRowOps
  rollback := TokenTx.rollback
  outside s r := revokeByClient r.order s r.clientID

end AccessTokens

/-! ### The opaque access-token store -/

/-- How the generic row code reads an opaque token. -/
def opaqueTokenRowOps : TokenRowOps OpaqueAccessToken where
  grantID r := r.grantID
  clientID r := r.clientID
  expiresAt r := r.expiresAt
  revoked r := r.revoked
  setRevoked r := { r with revoked := true }
  grantID_setRevoked _ := rfl
  clientID_setRevoked _ := rfl
  expiresAt_setRevoked _ := rfl
  revoked_setRevoked _ := rfl

/-- The rows of one refresh chain. -/
def matchChain (chainID : String) (r : OpaqueAccessToken) : Bool := r.chainID = chainID

namespace OpaqueAccessTokens

abbrev Store := TokenStore OpaqueAccessToken
abbrev Tx := TokenTx OpaqueAccessToken

def errNil : StoreError := .other "inmem: nil opaque access token"

def errEmptyID : StoreError := .other "inmem: OpaqueAccessToken requires a non-empty ID"

section
variable (D : KeyDigest)

/-- The stored row carries the digest in place of the bearer secret. -/
def stored (tok : OpaqueAccessToken) : OpaqueAccessToken := { tok with id := D.hashKey tok.id }

/-- `Save`, under the digest of the id. -/
def save (s : Store) : Option OpaqueAccessToken → Store × StoreReply
  | none => (s, .error errNil)
  | some tok =>
    if tok.id = "" then (s, .error errEmptyID)
    else insertRow opaqueTokenRowOps s (D.hashKey tok.id) (stored D tok)

/-- The read past the lookup: the stored digest is compared with the key, and
the presented id is restored. -/
def present (id : String) : Option OpaqueAccessToken → Fallible OpaqueAccessToken
  | none => .error .notFound
  | some rec => if rec.id = D.hashKey id then .ok { rec with id := id } else .error .notFound

def find (s : Store) (id : String) : Fallible OpaqueAccessToken :=
  if id = "" then .error .notFound else present D id (s.m.lookup (D.hashKey id))

def revokeByID (s : Store) (id : String) : Store :=
  if id = "" then s else revokeRow opaqueTokenRowOps s (D.hashKey id)

def revokeByGrant (ρ : KeyOrder) (s : Store) (grantID : String) : Store × ℕ :=
  if grantID = "" then (s, 0)
  else revokeIndexed opaqueTokenRowOps ρ s (s.idx.byGrant.ids grantID) matchAnyToken

def revokeByChain (ρ : KeyOrder) (s : Store) (grantID chainID : String) : Store × ℕ :=
  if grantID = "" ∨ chainID = "" then (s, 0)
  else revokeIndexed opaqueTokenRowOps ρ s (s.idx.byGrant.ids grantID) (matchChain chainID)

def revokeByClient (ρ : KeyOrder) (s : Store) (clientID : String) : Store :=
  if clientID = "" then s
  else (revokeIndexed opaqueTokenRowOps ρ s (s.idx.byClient.ids clientID) matchAnyToken).1

def gc (ρ : KeyOrder) (s : Store) (cutoff : Time) : Store × ℕ :=
  gcRows opaqueTokenRowOps ρ s cutoff

def txSave (t : Tx) : Option OpaqueAccessToken → Tx × StoreReply
  | none => (t, .error errNil)
  | some tok =>
    if tok.id = "" then (t, .error errEmptyID)
    else t.insert (D.hashKey tok.id) (stored D tok)

def txFind (t : Tx) (id : String) : Fallible OpaqueAccessToken :=
  if id = "" then .error .notFound else present D id (t.st.lookup (D.hashKey id))

def txRevokeByID (t : Tx) (id : String) : Tx :=
  if id = "" then t else t.revokeKey opaqueTokenRowOps (D.hashKey id)

def txRevokeByGrant (ρ : KeyOrder) (t : Tx) (grantID : String) : Tx × ℕ :=
  if grantID = "" then (t, 0)
  else TokenTx.revokeGrant opaqueTokenRowOps ρ t grantID matchAnyToken

def txRevokeByChain (ρ : KeyOrder) (t : Tx) (grantID chainID : String) : Tx × ℕ :=
  if grantID = "" ∨ chainID = "" then (t, 0)
  else TokenTx.revokeGrant opaqueTokenRowOps ρ t grantID (matchChain chainID)

def txGC (ρ : KeyOrder) (t : Tx) (cutoff : Time) : Tx × ℕ :=
  TokenTx.gc opaqueTokenRowOps ρ t cutoff

inductive Call where
  | save (tok : Option OpaqueAccessToken)
  | find (id : String)
  | revokeByID (id : String)
  | revokeByGrant (grantID : String)
  | revokeByChain (grantID chainID : String)
  | gc (cutoff : Time)

def direct (s : Store) (c : Ranged Call) : Store × Reply OpaqueAccessToken :=
  match c.call with
  | .save tok => let r := save D s tok; (r.1, .done r.2)
  | .find id => (s, .found ((find D s id).map some))
  | .revokeByID id => (revokeByID D s id, .done (.ok ()))
  | .revokeByGrant g => let r := revokeByGrant c.direct s g; (r.1, .count r.2)
  | .revokeByChain g ch => let r := revokeByChain c.direct s g ch; (r.1, .count r.2)
  | .gc cutoff => let r := gc c.direct s cutoff; (r.1, .count r.2)

def staged (t : Tx) (c : Ranged Call) : Tx × Reply OpaqueAccessToken :=
  match c.call with
  | .save tok => let r := txSave D t tok; (r.1, .done r.2)
  | .find id => (t, .found ((txFind D t id).map some))
  | .revokeByID id => (txRevokeByID D t id, .done (.ok ()))
  | .revokeByGrant g => let r := txRevokeByGrant c.staged t g; (r.1, .count r.2)
  | .revokeByChain g ch => let r := txRevokeByChain c.staged t g ch; (r.1, .count r.2)
  | .gc cutoff => let r := txGC c.staged t cutoff; (r.1, .count r.2)

def op : Call → RowOp OpaqueAccessToken
  | .save none => .refuse (.done (.error errNil))
  | .save (some tok) =>
    if tok.id = "" then .refuse (.done (.error errEmptyID))
    else .insert (D.hashKey tok.id) (stored D tok)
  | .find id =>
    if id = "" then .refuse (.found (.error .notFound))
    else .read (D.hashKey id) fun row => .found ((present D id row).map some)
  | .revokeByID id => if id = "" then .refuse (.done (.ok ())) else .revokeKey (D.hashKey id)
  | .revokeByGrant g => if g = "" then .refuse (.count 0) else .revokeGrant g matchAnyToken
  | .revokeByChain g ch =>
    if g = "" ∨ ch = "" then .refuse (.count 0) else .revokeGrant g (matchChain ch)
  | .gc cutoff => .gc cutoff

lemma op_named (c : Call) (accept : OpaqueAccessToken → Bool) :
    op D c ≠ .revokeGrant "" accept := by
  rcases c with (_ | tok) | _ | _ | _ | _ | _ <;> grind [op]

lemma direct_eq (s : Store) (c : Ranged Call) :
    direct D s c = (op D c.call).direct opaqueTokenRowOps c.direct s := by
  obtain ⟨c, ρ, ρ'⟩ := c
  rcases c with (_ | tok) | _ | _ | _ | _ | _
  case save.none => rfl
  case gc => rfl
  all_goals
    simp only [direct, op, save, find, revokeByID, revokeByGrant, revokeByChain]
    split_ifs <;> rfl

lemma staged_eq (t : Tx) (c : Ranged Call) :
    staged D t c = (op D c.call).staged opaqueTokenRowOps c.staged t := by
  obtain ⟨c, ρ, ρ'⟩ := c
  rcases c with (_ | tok) | _ | _ | _ | _ | _
  case save.none => rfl
  case gc => rfl
  all_goals
    simp only [staged, op, txSave, txFind, txRevokeByID, txRevokeByGrant, txRevokeByChain]
    split_ifs <;> rfl

/-- The opaque store with its transactions. -/
def tokens : TransactionalStore Store Tx (Ranged Call) (Reply OpaqueAccessToken)
    KeyOrder RevokeByClient where
  direct := direct D
  staged := staged D
  openTx := TokenTx.openOn
  commit := TokenTx.commit opaqueTokenRowOps
  rollback := TokenTx.rollback
  outside s r := revokeByClient r.order s r.clientID

end

end OpaqueAccessTokens

end OidcProvider.AccessTokenStores
