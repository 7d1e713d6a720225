import OidcProvider.RefreshTokenStore
import OidcProvider.ResumptionPrograms

/-!
# Retiring a rotation chain

The cascade of `internal/revocation/chain_root.go` and `chain_retire.go`, as
programs over the calls of the refresh-token store. A walk follows the parent
pointers towards the root, one `Find` a hop, and stops at the deepest record it
can resolve; the retirement revokes from there, or falls back to the whole
grant. Between two calls the store is anybody's.
-/
namespace OidcProvider.ChainRetirement
open StoreRecords FiniteMaps RefreshTokenStore ResumptionPrograms

/-- The calls the refresh grant makes, each one critical section of the store.
`now` is the caller's own reading of the clock. -/
inductive StoreCall where
  | find (id : String)
  | consume (id : String)
  | save (token : RefreshToken)
  | saveRotationWithRetry (token : RefreshToken) (contents : List UInt8)
  | revokeChain (rootID : String)
  | revokeByGrant (grantID : String)
  | now

@[reducible] def StoreCall.Reply : StoreCall → Type
  | find _ => Fallible RefreshToken
  | consume _ => ConsumeResult RefreshToken
  | save _ => StoreReply
  | saveRotationWithRetry _ _ => StoreReply
  | revokeChain _ => StoreReply
  | revokeByGrant _ => StoreReply
  | now => Time

abbrev Program (A : Type) := Prog StoreCall StoreCall.Reply A

def ask (o : StoreCall) : Program o.Reply := Prog.perform o

structure World where
  store : RefreshStore
  clock : Time

/-- The in-memory store answers. Each call reads the clock once; a range order
is the order in which Go visits an index. -/
def handle (D : KeyDigest) (ρ : KeyOrder) : (o : StoreCall) → World → World × o.Reply
  | .find id, w => (w, RefreshTokenStore.find D w.clock w.store id)
  | .consume id, w =>
    let r := RefreshTokenStore.consume D w.clock w.store id
    (⟨r.1, w.clock⟩, r.2)
  | .save token, w =>
    let r := RefreshTokenStore.save D w.store (some token)
    (⟨r.1, w.clock⟩, r.2)
  | .saveRotationWithRetry token contents, w =>
    let r := RefreshTokenStore.saveRotationWithRetry D ρ w.clock w.store (some token) contents
    (⟨r.1, w.clock⟩, r.2)
  | .revokeChain rootID, w =>
    let r := RefreshTokenStore.revokeChain D ρ w.clock w.store rootID
    (⟨r.1, w.clock⟩, r.2)
  | .revokeByGrant grantID, w =>
    (⟨RefreshTokenStore.revokeByGrant ρ w.clock w.store grantID, w.clock⟩, .ok ())
  | .now, w => (w, w.clock)

/-! ### The walk to the root -/

/-- What `FindRoot` returns: a handle, or nothing with the fault that kept the
start itself from resolving. -/
inductive RootWalk where
  | found (rootID : String)
  | unresolved (err : Option StoreError)
  deriving DecidableEq

/-- `findRootErrorOutcome`: a resolved node is worth cascading from. -/
def findRootErrorOutcome (err : StoreError) (firstHop : Bool) (deepest : String) : RootWalk :=
  if deepest ≠ "" then .found deepest
  else if firstHop ∧ err ≠ .notFound then .unresolved (some err)
  else .unresolved none

/-- The loop of `FindRoot` with `hops` iterations left. The in-memory store has
no handle resolver, so every hop is a `Find`. -/
def findRootFrom : ℕ → Bool → (current clientID deepest : String) → Program RootWalk
  | 0, _, _, _, _ => pure (.unresolved none)
  | hops + 1, firstHop, current, clientID, deepest => do
      match ← ask (.find current) with
      | .error err => pure (findRootErrorOutcome err firstHop deepest)
      | .ok rec =>
        if clientID ≠ "" ∧ rec.clientID ≠ clientID then pure (.unresolved none)
        else
          match rec.parentID with
          | none => pure (.found current)
          | some parentID =>
            findRootFrom hops false parentID (if clientID = "" then rec.clientID else clientID)
              current

def findRoot (startID : String) (limit : ℕ) : Program RootWalk :=
  if startID = "" ∨ limit = 0 then pure (.unresolved none)
  else findRootFrom limit true startID "" ""

/-! ### The retirement -/

def chainWalkLimit : ℕ := 1024

structure Retirement where
  rootErr : Option StoreError := none
  rootUnresolved : Bool := false
  chainErr : Option StoreError := none
  grantUnresolved : Bool := false
  grantErr : Option StoreError := none
  deriving DecidableEq

def errorOf : StoreReply → Option StoreError
  | .error e => some e
  | .ok () => none

def retireGrant (grantID : String) (out : Retirement) : Program Retirement :=
  if grantID = "" then pure { out with grantUnresolved := true }
  else do
    let r ← ask (.revokeByGrant grantID)
    pure { out with grantErr := errorOf r }

def retire (startID grantID : String) : Program Retirement := do
  match ← findRoot startID chainWalkLimit with
  | .found rootID =>
    match ← ask (.revokeChain rootID) with
    | .ok () => pure {}
    | .error e => retireGrant grantID { chainErr := some e }
  | .unresolved err => retireGrant grantID { rootErr := err, rootUnresolved := true }

/-- `JoinsForeignGrant`: a token-exchange chain names another client's consent. -/
def joinsForeignGrant (rec : RefreshToken) : Bool := decide (rec.origin = .customGrant)

def retireRecord (startID : String) (rec : RefreshToken) : Program Retirement :=
  retire startID (if joinsForeignGrant rec then "" else rec.grantID)

end OidcProvider.ChainRetirement
