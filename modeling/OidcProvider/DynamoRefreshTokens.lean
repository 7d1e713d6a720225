import OidcProvider.DynamoTables
import OidcProvider.ResumptionPrograms

/-!
# Refresh tokens in DynamoDB, called directly

The methods of `refreshStore` in `op/storeadapter/dynamodb/refresh_tokens.go`, outside of a
transaction. Each is a program over the calls of `DynamoTables`, so that others may come in
between any two of its calls. A rotation is written together with its place in the children of
its parent, and a token that starts a chain together with its place in the root list of its
grant. A revocation walks over the children breadth-first.
-/
namespace OidcProvider.DynamoRefreshTokens
open FiniteMaps StoreRecords ResumptionPrograms DynamoTables Prog

abbrev Program (A : Type) := Prog Call Reply A

/-! ### Calls -/

abbrev now : Program Time := perform Call.clock

abbrev get (pk : String) : Program (Option Item) := perform (Call.getItem (.refresh pk))

abbrev transactWriteItems (actions : List Action) : Program WriteReply :=
  perform (Call.write actions)

/-- The update of `revokeOne`. -/
abbrev updateRevoked (pk grantID : String) : Program (Option (ℤ × List String)) :=
  perform (Call.revoke pk grantID)

/-- The update of `stampConsumedInput`. -/
abbrev updateConsumed (pk : String) (instant : Time) : Program Bool :=
  perform (Call.stampConsumed pk (avTime instant))

abbrev queryIndex (index : Index) (value : String) : Program (List String) :=
  perform (Call.query index value)

variable (D : TokenDigest)

/-! ### Items -/

def refreshItem (t : RefreshToken) : TokenItem where
  doc := { t with
    id := D.hashKey t.id
    parentID := t.parentID.map D.hashKey
    consumedAt := none
    revoked := false }
  expiresAt := avTime t.expiresAt
  ttl := avTTL t.expiresAt
  clientID := t.clientID
  grantID := t.grantID
  parentID := (t.parentID.map D.hashKey).getD ""
  consumedAt := avTime (t.consumedAt.getD 0)
  revoked := t.revoked
  children := []
  retryResponse := []

/-- The insert of a token, under a key that must be unused. -/
def insertToken (t : RefreshToken) : Action :=
  .put (.refresh (D.hashKey t.id)) (.token (refreshItem D t)) .absent none

/-- The record of an item, under the id it was asked for (`load`). -/
def record (id : String) (t : TokenItem) : RefreshToken :=
  { t.doc with id := id, consumedAt := optionalTime t.consumedAt, revoked := t.revoked }

/-- `ErrInvalidDocument` of an item without a document. -/
def errNoDocument : StoreError :=
  .other "oidcdynamo: record is not a valid stored document: item has no doc attribute"

/-- `unmarshalDoc`, after a read. -/
def decode (id : String) : Option Item → Fallible RefreshToken
  | none => .error .notFound
  | some (.token t) => .ok (record id t)
  | some _ => .error errNoDocument

/-! ### Chain roots -/

def rootsOf : Option Item → List (String × ℤ)
  | some (.list l) => l.roots
  | _ => []

/-- `liveGrantRoots`: the clock is read for every element. -/
def liveGrantRoots : List (String × ℤ) → Program (List (String × ℤ))
  | [] => pure []
  | (root, nanos) :: rest =>
    now >>= fun instant =>
    liveGrantRoots rest >>= fun live =>
    pure (if isExpiredStrict (nanosToTime nanos) instant then live else (root, nanos) :: live)

/-- The latest expiry of a list of roots, and none if one of them never expires. -/
def latestExpiry : List (String × ℤ) → Time → Option Time
  | [], latest => some latest
  | (_, nanos) :: rest, latest =>
    if nanosToTime nanos = 0 then none
    else latestExpiry rest (if latest < nanosToTime nanos then nanosToTime nanos else latest)

/-- `grantRootsItem`, over the roots that are still alive. -/
def grantRootsItem (live : List (String × ℤ)) (t : RefreshToken) (version : ℤ) : RootList :=
  let roots := live ++ [(D.hashKey t.id, avTime t.expiresAt)]
  { roots := roots, ttl := (latestExpiry roots 0).bind avTTL, recordVersion := version }

/-- The condition on a root list that was read before. -/
def listGuard : Option Item → Guard
  | none => .absent
  | some item => .matching { Match.empty with recordVersion := some item.recordVersion }

def listVersion (found : Option Item) : ℤ := (found.bind Item.recordVersion).getD 0

/-- The two writes of `putRootAndList`. -/
def rootWrites (t : RefreshToken) (found : Option Item) (live : List (String × ℤ)) : List Action :=
  [insertToken D t,
    .put (.refresh (grantRootsKey t.grantID))
      (.list (grantRootsItem D live t (listVersion found + 1))) (listGuard found) found]

/-- `wrapErr` of a request DynamoDB refuses. -/
def errInvalid (op : String) : StoreError := .other ("oidcdynamo: " ++ op)

/-- What the first action decides: `firstActionFailedCondition`. -/
def insertRejected (failed : List Bool) : StoreError :=
  if failed.head? = some true then .alreadyExists else .conflict

def putRootAndList (t : RefreshToken) : Program StoreReply :=
  get (grantRootsKey t.grantID) >>= fun found =>
  liveGrantRoots (rootsOf found) >>= fun live =>
  transactWriteItems (rootWrites D t found live) >>= fun reply =>
  match reply with
  | .done => pure (.ok ())
  | .canceled failed => pure (.error (insertRejected failed))
  | .invalid => pure (.error (errInvalid "refreshes.Save"))

/-- Runs `putRootAndList` again while it reports a conflict. -/
def attemptRoot (t : RefreshToken) : ℕ → Program StoreReply
  | 0 => putRootAndList D t
  | n + 1 =>
    putRootAndList D t >>= fun result =>
    match result with
    | .error .conflict => attemptRoot t n
    | result => pure result

def grantRootsAttempts : ℕ := 5

def saveRoot (t : RefreshToken) : Program StoreReply :=
  if t.grantID = "" then
    transactWriteItems [insertToken D t] >>= fun reply =>
    match reply with
    | .done => pure (.ok ())
    | .canceled _ => pure (.error .alreadyExists)
    | .invalid => pure (.error (errInvalid "refreshes.Save"))
  else attemptRoot D t (grantRootsAttempts - 1)

/-! ### Rotations -/

def rotationWrites (t : RefreshToken) (parent : String) (retry : List UInt8) : List Action :=
  [insertToken D t,
    .link (D.hashKey parent) (D.hashKey t.id) retry]

/-- `saveRotation` after one of its conditions has failed. -/
def rotationCanceled (t : RefreshToken) (parent : String) (failed : List Bool) :
    Program StoreReply :=
  if failed.head? = some true then pure (.error .alreadyExists)
  else
    get (D.hashKey parent) >>= fun found =>
    match found with
    | none => saveRoot D t
    | some item =>
      pure (.error (if item.revoked = some true then .alreadyConsumed else .conflict))

def saveRotation (t : RefreshToken) (parent : String) : Program StoreReply :=
  transactWriteItems (rotationWrites D t parent []) >>= fun reply =>
  match reply with
  | .done => pure (.ok ())
  | .canceled failed => rotationCanceled D t parent failed
  | .invalid => pure (.error (errInvalid "refreshes.Save"))

def save (t : RefreshToken) : Program StoreReply :=
  match t.parentID with
  | none => saveRoot D t
  | some parent => saveRotation D t parent

/-- `findByHandle`: the digest of the handle, or the handle itself. -/
def findByHandle (handle : String) : Program (Fallible RefreshToken) :=
  get (D.hashKey handle) >>= fun found =>
  match found with
  | some item => pure (decode handle (some item))
  | none =>
    get handle >>= fun found =>
    pure (decode handle found)

def rotationRejected (parent : String) (failed : List Bool) : Program StoreError :=
  if failed[1]? = some false then pure (insertRejected failed)
  else
    findByHandle D parent >>= fun found =>
    match found with
    | .error err => pure err
    | .ok rec => pure (if rec.revoked then .alreadyConsumed else insertRejected failed)

def errIncompleteRotation : StoreError :=
  .other "oidcdynamo: retryable refresh rotation requires successor, parent, and sealed response"

/-- `SaveRotationWithRetry` after one of its conditions has failed. -/
def retryCanceled (t : RefreshToken) (parent : String) (failed : List Bool) : Program StoreReply :=
  rotationRejected D parent failed >>= fun err =>
  match err with
  | .notFound => save D t
  | err => pure (.error err)

def saveRotationWithRetry (t : RefreshToken) (retry : List UInt8) : Program StoreReply :=
  match t.parentID with
  | none => pure (.error errIncompleteRotation)
  | some parent =>
    if retry = [] then pure (.error errIncompleteRotation)
    else
      transactWriteItems (rotationWrites D t parent retry) >>= fun reply =>
      match reply with
      | .done => pure (.ok ())
      | .canceled failed => retryCanceled D t parent failed
      | .invalid => pure (.error (errInvalid "refreshes.SaveRotationWithRetry"))

/-! ### Reads and consumption -/

def loadRetryResponse (predecessor : String) : Program (Fallible (List UInt8)) :=
  get (D.hashKey predecessor) >>= fun found =>
  match found with
  | some (.token t) =>
    now >>= fun instant =>
    if isExpiredStrict (nanosToTime t.expiresAt) instant || t.retryResponse.isEmpty then
      pure (.error .notFound)
    else pure (.ok t.retryResponse)
  | _ => pure (.error .notFound)

def findByCredential (id : String) : Program (Fallible RefreshToken) :=
  get (D.hashKey id) >>= fun found =>
  pure (decode id found)

def find (id : String) : Program (Fallible RefreshToken) :=
  findByCredential D id >>= fun found =>
  match found with
  | .error err => pure (.error err)
  | .ok rec =>
    now >>= fun instant =>
    pure (if isExpiredStrict rec.expiresAt instant then .error .notFound else .ok rec)

def rejectedConsume (id : String) : Program (ConsumeResult RefreshToken) :=
  findByCredential D id >>= fun found =>
  match found with
  | .error err => pure (.failed err)
  | .ok rec => pure (.alreadyConsumed rec)

/-- The update of `Consume`, on a record that was read as live and unconsumed. -/
def consumeRecord (id : String) (rec : RefreshToken) : Program (ConsumeResult RefreshToken) :=
  now >>= fun instant =>
  updateConsumed (D.hashKey id) instant >>= fun placed =>
  match placed with
  | true => pure (.consumed (rec.stampConsumed instant))
  | false => rejectedConsume D id

def consume (id : String) : Program (ConsumeResult RefreshToken) :=
  findByCredential D id >>= fun found =>
  match found with
  | .error err => pure (.failed err)
  | .ok rec =>
    now >>= fun instant =>
    if isExpiredStrict rec.expiresAt instant then pure (.failed .notFound)
    else if rec.consumedAt.isSome then pure (.alreadyConsumed rec)
    else consumeRecord D id rec

/-! ### Revocation -/

/-- `revokeOne`: the children as they were in the write that revoked the item. -/
def revokeOne (pk grantID : String) (instant : Time) : Program (List String) :=
  updateRevoked pk grantID >>= fun reply =>
  match reply with
  | none => pure []
  | some (consumedAt, children) =>
    if consumedAt = 0 then
      updateConsumed pk instant >>= fun _ => pure children
    else pure children

/-- The keys a walk has seen and those it has still to visit. -/
structure Walk where
  visited : List String
  queue : List String
  deriving DecidableEq

def Walk.offer (w : Walk) (pk : String) : Walk :=
  if pk = "" ∨ pk ∈ w.visited then w
  else { visited := pk :: w.visited, queue := w.queue ++ [pk] }

def Walk.enqueue (w : Walk) (pks : List String) : Walk := pks.foldl Walk.offer w

lemma Walk.mem_visited_enqueue {w : Walk} {pks : List String} {k : String} :
    k ∈ (w.enqueue pks).visited ↔ k ∈ w.visited ∨ k ∈ pks ∧ k ≠ "" := by
  induction pks generalizing w with
  | nil => simp [Walk.enqueue]
  | cons pk pks ih =>
    change k ∈ ((w.offer pk).enqueue pks).visited ↔ _
    unfold Walk.offer
    split_ifs with h
    · rcases h with rfl | h <;> grind
    · grind

lemma Walk.mem_queue_enqueue {w : Walk} {pks : List String} {k : String} :
    k ∈ (w.enqueue pks).queue ↔ k ∈ w.queue ∨ k ∈ pks ∧ k ≠ "" ∧ k ∉ w.visited := by
  induction pks generalizing w with
  | nil => simp [Walk.enqueue]
  | cons pk pks ih =>
    change k ∈ ((w.offer pk).enqueue pks).queue ↔ _
    unfold Walk.offer
    split_ifs with h
    · rcases h with rfl | h <;> grind
    · grind

/-- The `by_parent` index, for a walk that follows it. -/
def indexedChildren (withParentIndex : Bool) (pk : String) : Program (List String) :=
  if withParentIndex then queryIndex .byParent pk else pure []

/-- The loop of `revokeTree`. It answers `false` if `fuel` visits were not enough. -/
def walk (grantID : String) (withParentIndex : Bool) (instant : Time) : ℕ → Walk → Program Bool
  | _, ⟨_, []⟩ => pure true
  | 0, ⟨_, _ :: _⟩ => pure false
  | fuel + 1, ⟨visited, current :: queue⟩ =>
    revokeOne current grantID instant >>= fun children =>
    indexedChildren withParentIndex current >>= fun indexed =>
    walk grantID withParentIndex instant fuel
      ((Walk.enqueue ⟨visited, queue⟩ children).enqueue indexed)

def revokeTree (fuel : ℕ) (starts : List String) (grantID : String) (withParentIndex : Bool) :
    Program Bool :=
  now >>= fun instant =>
  walk grantID withParentIndex instant fuel (Walk.enqueue ⟨[], []⟩ starts)

/-- What a revocation has come to. A walk is `running` while its queue is not empty. -/
inductive Revocation where
  | done
  | failed (err : StoreError)
  | running
  deriving DecidableEq

def Revocation.ofWalk : Bool → Revocation
  | true => .done
  | false => .running

def resolveChainRoot (rootID : String) : Program (Option String) :=
  get (D.hashKey rootID) >>= fun found =>
  match found with
  | some _ => pure (some (D.hashKey rootID))
  | none =>
    get rootID >>= fun found =>
    pure (found.map fun _ => rootID)

def revokeChain (fuel : ℕ) (rootID : String) : Program Revocation :=
  resolveChainRoot D rootID >>= fun root =>
  match root with
  | none => pure (.failed .notFound)
  | some root => revokeTree fuel [root] "" true >>= fun finished => pure (.ofWalk finished)

def revokeByGrant (fuel : ℕ) (grantID : String) : Program Revocation :=
  if grantID = "" then pure .done
  else
    get (grantRootsKey grantID) >>= fun found =>
    queryIndex .byGrant grantID >>= fun indexed =>
    revokeTree fuel ((rootsOf found).map Prod.fst ++ indexed) grantID false >>= fun finished =>
    pure (.ofWalk finished)

/-! ### The methods together -/

inductive Op where
  | save (t : RefreshToken)
  | saveRotationWithRetry (t : RefreshToken) (retry : List UInt8)
  | consume (id : String)
  | revokeChain (fuel : ℕ) (rootID : String)

inductive Answer where
  | saved (result : StoreReply)
  | consumed (result : ConsumeResult RefreshToken)
  | revoked (result : Revocation)
  deriving DecidableEq

def program : Op → Program Answer
  | .save t => save D t >>= fun result => pure (.saved result)
  | .saveRotationWithRetry t retry =>
    saveRotationWithRetry D t retry >>= fun result => pure (.saved result)
  | .consume id => consume D id >>= fun result => pure (.consumed result)
  | .revokeChain fuel rootID =>
    revokeChain D fuel rootID >>= fun result => pure (.revoked result)

/-! ### What the writes leave -/

section Writes
variable {D} {m : FiniteMap Key Item} {t : RefreshToken}

lemma mem_addChild {children : List String} {child c : String} :
    c ∈ addChild children child ↔ c ∈ children ∨ c = child := by
  unfold addChild
  split_ifs with h
  · exact ⟨.inl, fun hc => hc.elim id fun hc => hc ▸ h⟩
  · simp

lemma lookup_rotation {parent : String} {retry : List UInt8}
    (hne : D.hashKey t.id ≠ D.hashKey parent) (k : String) :
    ((rotationWrites D t parent retry).foldl applyAction m).lookup (.refresh k) =
      if k = D.hashKey t.id then some (.token (refreshItem D t))
      else if k = D.hashKey parent then
        (m.lookup (.refresh k)).map (Item.modify (TokenItem.link (D.hashKey t.id) retry))
      else m.lookup (.refresh k) := by
  have hkeys : Key.refresh (D.hashKey t.id) ≠ .refresh (D.hashKey parent) := by simpa using hne
  unfold rotationWrites
  rw [lookup_pair _ (by exact hkeys)]
  simp only [insertToken, Action.key, Action.result, Key.refresh.injEq]

lemma token?_rotation {parent : String} (hne : D.hashKey t.id ≠ D.hashKey parent)
    (retry : List UInt8) (s : Database) (k : String) :
    ({ s with items := (rotationWrites D t parent retry).foldl applyAction s.items } :
        Database).token? k =
      if k = D.hashKey t.id then some (refreshItem D t)
      else if k = D.hashKey parent then (s.token? k).map (TokenItem.link (D.hashKey t.id) retry)
      else s.token? k := by
  simp only [Database.token?, lookup_rotation hne]
  split_ifs
  · rfl
  · cases s.items.lookup (.refresh k) with
    | none => rfl
    | some item => exact Item.token?_modify _ item
  · rfl

lemma lookup_root {found : Option Item} {live : List (String × ℤ)} (k : String) :
    ((rootWrites D t found live).foldl applyAction m).lookup (.refresh k) =
      if k = D.hashKey t.id then some (.token (refreshItem D t))
      else if k = grantRootsKey t.grantID then
        some (.list (grantRootsItem D live t (listVersion found + 1)))
      else m.lookup (.refresh k) := by
  have hkeys : Key.refresh (D.hashKey t.id) ≠ .refresh (grantRootsKey t.grantID) := by
    simpa using D.hashKey_ne_roots t.id t.grantID
  unfold rootWrites
  rw [lookup_pair _ (by exact hkeys)]
  simp only [insertToken, Action.key, Action.result, Key.refresh.injEq]

lemma token?_root {s : Database}
    (hkeyed : ∀ pk t, s.token? pk = some t → ∃ id, pk = D.hashKey id) (found : Option Item)
    (live : List (String × ℤ)) (k : String) :
    ({ s with items := (rootWrites D t found live).foldl applyAction s.items } :
        Database).token? k =
      if k = D.hashKey t.id then some (refreshItem D t) else s.token? k := by
  simp only [Database.token?, lookup_root]
  split_ifs with hk hk'
  · rfl
  · -- a root list comes in where no token was
    rw [hk']
    exact (Database.token?_roots hkeyed t.grantID).symm
  · rfl

lemma lookup_insertToken (k : String) :
    ([insertToken D t].foldl applyAction m).lookup (.refresh k) =
      if k = D.hashKey t.id then some (.token (refreshItem D t)) else m.lookup (.refresh k) := by
  rw [List.foldl_cons, List.foldl_nil, lookup_applyAction]
  simp only [insertToken, Action.key, Action.result, Key.refresh.injEq]

lemma token?_insertToken (s : Database) (k : String) :
    ({ s with items := [insertToken D t].foldl applyAction s.items } : Database).token? k =
      if k = D.hashKey t.id then some (refreshItem D t) else s.token? k := by
  simp only [Database.token?, lookup_insertToken]
  split_ifs
  · rfl
  · rfl

lemma insertToken_fresh (h : (insertToken D t).holds (m.lookup (insertToken D t).key) = true) :
    m.lookup (.refresh (D.hashKey t.id)) = none := by
  simpa [insertToken, Action.holds, Guard.holds, Action.key] using h

lemma rotation_cases (m : FiniteMap Key Item) (t : RefreshToken) (parent : String)
    (retry : List UInt8) :
    (write m (rotationWrites D t parent retry)).1 = m ∨
      D.hashKey t.id ≠ D.hashKey parent ∧ m.lookup (.refresh (D.hashKey t.id)) = none ∧
        (∃ item, m.lookup (.refresh (D.hashKey parent)) = some item ∧ item.revoked ≠ some true) ∧
        (write m (rotationWrites D t parent retry)).1 =
          (rotationWrites D t parent retry).foldl applyAction m := by
  rcases write_cases m (rotationWrites D t parent retry) with ⟨hsame, _⟩ | ⟨hnodup, hholds, hdone⟩
  · exact .inl hsame
  · refine .inr ⟨?_, insertToken_fresh (hholds _ List.mem_cons_self), ?_, by rw [hdone]⟩
    · simpa [rotationWrites, insertToken, Action.key] using hnodup
    · exact Action.parentAlive_iff.mp (hholds (.link (D.hashKey parent) (D.hashKey t.id) retry)
        (List.mem_cons_of_mem _ List.mem_cons_self))

end Writes

/-! ### Methods that insert nothing -/

/-- The calls that read, or mark a stored item. -/
inductive Quiet : Call → Prop
  | clock : Quiet .clock
  | getItem (key : Key) : Quiet (.getItem key)
  | revoke (pk grantID : String) : Quiet (.revoke pk grantID)
  | stampConsumed (pk : String) (consumedAt : ℤ) : Quiet (.stampConsumed pk consumedAt)
  | query (index : Index) (value : String) : Quiet (.query index value)

variable {D}

lemma liveGrantRoots_quiet (roots : List (String × ℤ)) : (liveGrantRoots roots).Calls Quiet := by
  induction roots with
  | nil => trivial
  | cons root rest ih => exact ⟨.clock, fun _ => ih.bind fun _ => trivial⟩

lemma findByCredential_quiet (id : String) : (findByCredential D id).Calls Quiet :=
  ⟨.getItem _, fun _ => trivial⟩

lemma rejectedConsume_quiet (id : String) : (rejectedConsume D id).Calls Quiet := by
  refine (findByCredential_quiet id).bind fun found => ?_
  cases found <;> trivial

lemma consume_quiet (id : String) : (consume D id).Calls Quiet := by
  refine (findByCredential_quiet id).bind fun found => ?_
  cases found with
  | error err => trivial
  | ok rec =>
    refine calls_perform .clock fun instant => ?_
    split_ifs
    · trivial
    · trivial
    · refine calls_perform .clock fun instant => ?_
      refine calls_perform (.stampConsumed _ _) fun placed => ?_
      cases placed with
      | true => trivial
      | false => exact rejectedConsume_quiet id

lemma revokeOne_quiet (pk grantID : String) (instant : Time) :
    (revokeOne pk grantID instant).Calls Quiet := by
  refine calls_perform (.revoke _ _) fun reply => ?_
  rcases reply with _ | ⟨consumedAt, children⟩
  · trivial
  · dsimp only
    split_ifs
    · exact ⟨.stampConsumed _ _, fun _ => trivial⟩
    · trivial

lemma indexedChildren_quiet (withParentIndex : Bool) (pk : String) :
    (indexedChildren withParentIndex pk).Calls Quiet := by
  cases withParentIndex with
  | true => exact ⟨.query _ _, fun _ => trivial⟩
  | false => trivial

lemma walk_quiet (grantID : String) (withParentIndex : Bool) (instant : Time) (fuel : ℕ)
    (w : Walk) : (walk grantID withParentIndex instant fuel w).Calls Quiet := by
  induction fuel generalizing w with
  | zero => rcases w with ⟨visited, _ | ⟨current, queue⟩⟩ <;> trivial
  | succ fuel ih =>
    rcases w with ⟨visited, _ | ⟨current, queue⟩⟩
    · trivial
    · exact (revokeOne_quiet _ _ _).bind fun _ =>
        (indexedChildren_quiet _ _).bind fun _ => ih _

lemma resolveChainRoot_quiet (rootID : String) : (resolveChainRoot D rootID).Calls Quiet := by
  refine calls_perform (.getItem _) fun found => ?_
  cases found with
  | some item => trivial
  | none => exact ⟨.getItem _, fun _ => trivial⟩

lemma revokeChain_quiet (fuel : ℕ) (rootID : String) :
    (revokeChain D fuel rootID).Calls Quiet := by
  refine (resolveChainRoot_quiet rootID).bind fun root => ?_
  cases root with
  | none => trivial
  | some root => exact ⟨.clock, fun _ => (walk_quiet _ _ _ _ _).bind fun _ => trivial⟩

end OidcProvider.DynamoRefreshTokens
