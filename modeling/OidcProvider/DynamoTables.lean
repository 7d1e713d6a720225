import OidcProvider.FiniteMaps
import OidcProvider.StoreRecords

/-!
# The DynamoDB tables of refresh tokens and grants

The items that `op/storeadapter/dynamodb` keeps for refresh tokens and grants, and the calls
it makes on them: a strongly consistent read, an atomic write of several items under
conditions, single updates and deletions, and a query of a secondary index, which may miss any
of the matching items. A token is kept under the digest of its id. Beside the tokens, one item
for each grant lists the roots of its chains.
-/
namespace OidcProvider.DynamoTables
open FiniteMaps StoreRecords

/-! ### Attributes -/

/-- The seconds from the zero time to the Unix epoch. -/
abbrev unixEpoch : ℤ := 62135596800

def unix (t : Time) : ℤ := t / Time.second - unixEpoch

/-- `Time.UnixNano`, which wraps around in 64 bits. -/
def unixNano (t : Time) : ℤ := Int.bmod (t - unixEpoch * Time.second) (2 ^ 64)

def avTime (t : Time) : ℤ := if t = 0 then 0 else unixNano t

def nanosToTime (nanos : ℤ) : Time := if nanos = 0 then 0 else nanos + unixEpoch * Time.second

/-- `avTTL`: the second in which an item ends. -/
def avTTL (t : Time) : Option ℤ := if t = 0 then none else some (unix t)

/-- No number of 64 bits other than zero is rendered as the zero time. -/
def optionalTime (nanos : ℤ) : Option Time := if nanos = 0 then none else some (nanosToTime nanos)

/-- A token with the attributes beside its document. An empty string and an empty set stand for
an attribute that is absent. -/
structure TokenItem where
  doc : RefreshToken
  expiresAt : ℤ
  ttl : Option ℤ
  clientID : String
  grantID : String
  parentID : String
  consumedAt : ℤ
  revoked : Bool
  children : List String
  retryResponse : List UInt8
  deriving DecidableEq, Inhabited

/-- The chain roots of a grant, each with its expiry (`grantRootElement`). -/
structure RootList where
  roots : List (String × ℤ)
  ttl : Option ℤ
  recordVersion : ℤ
  deriving DecidableEq, Inhabited

structure GrantItem where
  doc : Grant
  subject : String
  clientID : String
  subjectClient : String
  recordVersion : Option ℤ
  deriving DecidableEq, Inhabited

/-- An item of the cascade-links table has nothing beside its key. -/
inductive Item where
  | token (t : TokenItem)
  | list (l : RootList)
  | grant (g : GrantItem)
  | cascade
  deriving DecidableEq

inductive Key where
  | refresh (pk : String)
  | grant (pk : String)
  | cascade (partition member : String)
  deriving DecidableEq

namespace Item

/-- `revoked` and `consumed_at` are not kept on a root list, where nobody reads them. -/
def revoked : Item → Option Bool
  | .token t => some t.revoked
  | _ => none

def consumedAt : Item → Option ℤ
  | .token t => some t.consumedAt
  | _ => none

def children : Item → List String
  | .token t => t.children
  | _ => []

def recordVersion : Item → Option ℤ
  | .list l => some l.recordVersion
  | .grant g => g.recordVersion
  | _ => none

def ttl : Item → Option ℤ
  | .token t => t.ttl
  | .list l => l.ttl
  | _ => none

/-- `attrGrantID`. -/
def grantID : Item → String
  | .token t => t.grantID
  | _ => ""

/-- `attrParentID`. -/
def parentID : Item → String
  | .token t => t.parentID
  | _ => ""

def token? : Item → Option TokenItem
  | .token t => some t
  | _ => none

def modify (f : TokenItem → TokenItem) : Item → Item
  | .token t => .token (f t)
  | item => item

@[simp] lemma token?_modify (f : TokenItem → TokenItem) (item : Item) :
    (item.modify f).token? = item.token?.map f := by
  cases item <;> rfl

lemma token?_eq_some {item : Item} {t : TokenItem} : item.token? = some t ↔ item = .token t := by
  cases item <;> simp [token?]

end Item

/-! ### Keys -/

def grantRootsKey (grantID : String) : String := "grant-roots#" ++ grantID

/-- `digestKey`: a hex digest, which is not the key of a root list. -/
structure TokenDigest extends KeyDigest where
  hashKey_ne_roots : ∀ id grantID, hashKey id ≠ grantRootsKey grantID

/-- The digest that keeps ids readable. -/
def plainTokenDigest : TokenDigest where
  toKeyDigest := plainDigest
  hashKey_ne_roots id grantID h := by
    have hlist := congrArg String.toList h
    simp [plainDigest, grantRootsKey, String.toList_append] at hlist

/-! ### Conditions -/

/-- The attribute values a write asserts; a value that is absent is asserted to be absent. -/
structure Match where
  children : Option (List String)
  revoked : Option (Option Bool)
  recordVersion : Option (Option ℤ)
  deriving DecidableEq

def Match.empty : Match := ⟨none, none, none⟩

/-- Two sets are equal up to the order of their members. -/
def sameMembers (a b : List String) : Bool := a.all (b.contains ·) && b.all (a.contains ·)

def Match.holds (m : Match) (item : Item) : Bool :=
  m.children.all (sameMembers item.children) && m.revoked.all (item.revoked == ·) &&
    m.recordVersion.all (item.recordVersion == ·)

inductive Guard where
  | always
  | absent
  | present
  | unconsumed (m : Match)
  | matching (m : Match)
  deriving DecidableEq

def Guard.holds : Guard → Option Item → Bool
  | .always, _ => true
  | .absent, stored => stored.isNone
  | .present, stored => stored.isSome
  | .unconsumed m, stored => stored.any fun item => m.holds item && item.consumedAt == some 0
  | .matching m, stored => stored.any m.holds

/-! ### Writes -/

inductive Action where
  /-- `seen` is not sent: it is the item as the writer has read it before. -/
  | put (key : Key) (item : Item) (guard : Guard) (seen : Option Item)
  /-- The update of a rotation's parent (`rotationWrites`); an empty `retry` is not set. -/
  | link (parent child : String) (retry : List UInt8)
  | delete (key : Key)
  deriving DecidableEq

namespace Action

def key : Action → Key
  | .put key _ _ _ => key
  | .link parent _ _ => .refresh parent
  | .delete key => key

/-- `parentAliveCondition`. -/
def parentAlive (stored : Option Item) : Bool := stored.any fun item => item.revoked != some true

lemma parentAlive_iff {stored : Option Item} :
    parentAlive stored = true ↔ ∃ item, stored = some item ∧ item.revoked ≠ some true := by
  cases stored <;> simp [parentAlive]

def holds : Action → Option Item → Bool
  | .put _ _ guard _, stored => guard.holds stored
  | .link _ _ _, stored => parentAlive stored
  | .delete _, _ => true

end Action

/-- `ADD #children :child`. -/
def addChild (children : List String) (child : String) : List String :=
  if child ∈ children then children else children ++ [child]

def TokenItem.link (child : String) (retry : List UInt8) (t : TokenItem) : TokenItem :=
  { t with
    children := addChild t.children child
    retryResponse := if retry = [] then t.retryResponse else retry }

def Action.result : Action → Option Item → Option Item
  | .put _ item _ _, _ => some item
  | .link _ child retry, stored => stored.map (Item.modify (TokenItem.link child retry))
  | .delete _, _ => none

structure Database where
  items : FiniteMap Key Item
  now : Time

def Database.token? (s : Database) (pk : String) : Option TokenItem :=
  (s.items.lookup (.refresh pk)).bind Item.token?

def applyAction (m : FiniteMap Key Item) (a : Action) : FiniteMap Key Item :=
  put m a.key (a.result (m.lookup a.key))

/-- What `TransactWriteItems` answers: which conditions failed, in the order of the actions, or
that the request names an item twice. -/
inductive WriteReply where
  | done
  | canceled (failed : List Bool)
  | invalid
  deriving DecidableEq

/-- All actions are applied, or none. `PutItem` is the case of one action. -/
def write (m : FiniteMap Key Item) (actions : List Action) : FiniteMap Key Item × WriteReply :=
  if ¬ (actions.map Action.key).Nodup then (m, .invalid)
  else if actions.all fun a => a.holds (m.lookup a.key) then
    (actions.foldl applyAction m, .done)
  else (m, .canceled (actions.map fun a => !a.holds (m.lookup a.key)))

/-! ### Calls -/

inductive Index where
  | byParent
  | byGrant
  deriving DecidableEq

def Index.attribute : Index → Item → String
  | .byParent => Item.parentID
  | .byGrant => Item.grantID

def Index.lists (index : Index) (value : String) (stored : Option Item) : Bool :=
  stored.any fun item => index.attribute item != "" && index.attribute item == value

inductive Call where
  | clock
  | getItem (key : Key)
  | write (actions : List Action)
  /-- `SET #revoked = :true`, on an item of the grant if `grantID` is not empty; answers with
  the new `consumed_at` and `children`. -/
  | revoke (pk grantID : String)
  /-- `stampConsumedInput`; answers whether the condition held. -/
  | stampConsumed (pk : String) (consumedAt : ℤ)
  | query (index : Index) (value : String)
  /-- `putBumpingVersion`. -/
  | bumpGrant (pk : String) (entry : GrantItem)
  /-- `deleteReturningOld`. -/
  | deleteItem (key : Key)

abbrev Reply : Call → Type
  | .clock => Time
  | .getItem _ => Option Item
  | .write _ => WriteReply
  | .revoke _ _ => Option (ℤ × List String)
  | .stampConsumed _ _ => Bool
  | .query _ _ => List String
  | .bumpGrant _ _ => Unit
  | .deleteItem _ => Option Item

def revocable (grantID : String) (stored : Option Item) : Bool :=
  stored.any fun item => grantID == "" || item.grantID == grantID

def TokenItem.revoke (t : TokenItem) : TokenItem := { t with revoked := true }

def TokenItem.stamp (consumedAt : ℤ) (t : TokenItem) : TokenItem :=
  { t with consumedAt := consumedAt }

/-- An attribute that `entry` does not carry is left as it is stored. -/
def GrantItem.over (entry : GrantItem) : Option Item → GrantItem
  | some (.grant old) =>
    { entry with
      subject := if entry.subject = "" then old.subject else entry.subject
      recordVersion := some (old.recordVersion.getD 0 + 1) }
  | _ => { entry with recordVersion := some 1 }

/-- What is taken of DynamoDB: a conditional write or a transaction is atomic, reads of
items are consistent, an index may miss items but returns none that is not there (`hits`
are the keys it comes up with), and no call fails by a conflict or by throttling. -/
def handle (hits : List String) : (o : Call) → Database → Database × Reply o
  | .clock, s => (s, s.now)
  | .getItem key, s => (s, s.items.lookup key)
  | .write actions, s =>
    ({ s with items := (write s.items actions).1 }, (write s.items actions).2)
  | .revoke pk grantID, s =>
    if revocable grantID (s.items.lookup (.refresh pk)) then
      ({ s with items := modify (Item.modify TokenItem.revoke) s.items (.refresh pk) },
        (s.items.lookup (.refresh pk)).map fun item => (item.consumedAt.getD 0, item.children))
    else (s, none)
  | .stampConsumed pk consumedAt, s =>
    if (s.items.lookup (.refresh pk)).any fun item => item.consumedAt == some 0 then
      let stamp := Item.modify (TokenItem.stamp consumedAt)
      ({ s with items := modify stamp s.items (.refresh pk) }, true)
    else (s, false)
  | .query index value, s =>
    (s, hits.filter fun pk => index.lists value (s.items.lookup (.refresh pk)))
  | .bumpGrant pk entry, s =>
    let merged := entry.over (s.items.lookup (.grant pk))
    ({ s with items := s.items.insert (.grant pk) (.grant merged) }, ())
  | .deleteItem key, s => ({ s with items := s.items.erase key }, s.items.lookup key)

/-! ### What the calls do to the tokens -/

lemma Database.token?_eq_some {s : Database} {pk : String} {t : TokenItem} :
    s.token? pk = some t ↔ s.items.lookup (.refresh pk) = some (.token t) := by
  simp [Database.token?, Option.bind_eq_some_iff, Item.token?_eq_some]

section Keys
variable {D : TokenDigest} {s : Database}

lemma Database.token?_roots
    (hkeyed : ∀ pk t, s.token? pk = some t → ∃ id, pk = D.hashKey id) (grantID : String) :
    s.token? (grantRootsKey grantID) = none := by
  cases ht : s.token? (grantRootsKey grantID) with
  | none => rfl
  | some t =>
    obtain ⟨id, hid⟩ := hkeyed _ t ht
    exact absurd hid.symm (D.hashKey_ne_roots id grantID)

lemma Database.token?_of_lookup
    (hplaced : ∀ pk item, s.items.lookup (.refresh pk) = some item → s.token? pk = none →
      ∃ grantID, pk = grantRootsKey grantID) {id : String} {item : Item}
    (hitem : s.items.lookup (.refresh (D.hashKey id)) = some item) :
    ∃ t, item = .token t ∧ s.token? (D.hashKey id) = some t := by
  cases ht : s.token? (D.hashKey id) with
  | none =>
    obtain ⟨grantID, hroots⟩ := hplaced _ item hitem ht
    exact absurd hroots (D.hashKey_ne_roots id grantID)
  | some t =>
    rw [Database.token?_eq_some, hitem, Option.some.injEq] at ht
    exact ⟨t, ht, rfl⟩

end Keys

lemma token?_modify (f : TokenItem → TokenItem) (s : Database) (pk k : String) :
    ({ s with items := modify (Item.modify f) s.items (.refresh pk) } : Database).token? k =
      if k = pk then (s.token? k).map f else s.token? k := by
  simp only [Database.token?, lookup_modify, Key.refresh.injEq]
  split_ifs
  · cases s.items.lookup (.refresh k) with
    | none => rfl
    | some item => exact Item.token?_modify f item
  · rfl

lemma write_cases (m : FiniteMap Key Item) (actions : List Action) :
    (write m actions).1 = m ∧ (write m actions).2 ≠ .done ∨
      (actions.map Action.key).Nodup ∧ (∀ a ∈ actions, a.holds (m.lookup a.key) = true) ∧
        write m actions = (actions.foldl applyAction m, .done) := by
  unfold write
  split_ifs with hnodup hholds
  · exact .inr ⟨hnodup, List.all_eq_true.mp hholds, rfl⟩
  · exact .inl ⟨rfl, nofun⟩
  · exact .inl ⟨rfl, nofun⟩

lemma handle_write_of_ne {hits : List String} {actions : List Action} {s : Database}
    (h : (handle hits (.write actions) s).2 ≠ .done) : (handle hits (.write actions) s).1 = s := by
  dsimp only [handle] at h ⊢
  rcases write_cases s.items actions with ⟨hsame, _⟩ | ⟨_, _, hdone⟩
  · rw [hsame]
  · exact absurd (by rw [hdone]) h

lemma lookup_applyAction (m : FiniteMap Key Item) (a : Action) (k : Key) :
    (applyAction m a).lookup k = if k = a.key then a.result (m.lookup k) else m.lookup k := by
  unfold applyAction
  rw [lookup_put]
  split_ifs with h
  · rw [h]
  · rfl

lemma lookup_pair (m : FiniteMap Key Item) {a b : Action} (h : a.key ≠ b.key) (k : Key) :
    ([a, b].foldl applyAction m).lookup k =
      if k = a.key then a.result (m.lookup k)
      else if k = b.key then b.result (m.lookup k) else m.lookup k := by
  simp only [List.foldl_cons, List.foldl_nil, lookup_applyAction]
  by_cases ha : k = a.key
  · subst ha
    simp only [h, ↓reduceIte]
  · simp only [ha, ↓reduceIte]

/-! ### The surroundings -/

/-- DynamoDB compares a TTL with the present second. -/
def ttlPassed (now : Time) (ttl : Option ℤ) : Bool := ttl.any fun second => second < unix now

def reclaim (pk : Key) (s : Database) : Database :=
  if (s.items.lookup pk).any fun item => ttlPassed s.now item.ttl then
    { s with items := s.items.erase pk }
  else s

end OidcProvider.DynamoTables
