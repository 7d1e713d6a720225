import Mathlib.Data.Int.Order.Basic
import Mathlib.Data.String.Basic

/-!
# Instants, key digests, checks and the stored records

The records are the ones of `op/store`, with every field the substores and the
refresh grant read or write. A Go pointer that may be nil is an `Option`. JSON
members are kept as their encoded text, since no modelled function looks inside
them. Cloning a record is the identity on values and is not modelled.
-/
namespace OidcProvider.StoreRecords

/-- An instant in nanoseconds. The zero time of Go is `0`; it stands for an
expiry that was never set. -/
abbrev Time := ℤ

namespace Time

abbrev second : ℤ := 1000000000
abbrev minute : ℤ := 60 * second
abbrev hour : ℤ := 60 * minute

end Time

/-- `patterns.IsExpiredStrict`: a record dated exactly `now` is live, and the
zero time never expires. -/
def isExpiredStrict (t now : Time) : Bool :=
  if t = 0 then false else decide (t < now)

lemma isExpiredStrict_iff (t now : Time) : isExpiredStrict t now = true ↔ t ≠ 0 ∧ t < now := by
  unfold isExpiredStrict
  split_ifs with h <;> simp [h]

lemma isExpiredStrict_mono {t now later : Time} (h : isExpiredStrict t now = true)
    (hle : now ≤ later) : isExpiredStrict t later = true := by
  rw [isExpiredStrict_iff] at h ⊢
  exact ⟨h.1, lt_of_lt_of_le h.2 hle⟩

/-- `hashKey`: the digest under which a bearer secret is stored. It is a hex
string of fixed length, hence never empty. -/
structure KeyDigest where
  hashKey : String → String
  hashKey_ne_empty : ∀ id, hashKey id ≠ ""

abbrev KeyDigest.Injective (D : KeyDigest) : Prop := Function.Injective D.hashKey

/-- A digest that keeps the id readable, for concrete runs. -/
def plainDigest : KeyDigest where
  hashKey id := "#" ++ id
  hashKey_ne_empty id h := by
    have hlen := congrArg String.length h
    rw [String.length_append] at hlen
    exact absurd hlen (by simp)

lemma plainDigest_injective : Function.Injective plainDigest.hashKey := by
  intro a b h
  exact (String.append_right_inj "#").mp h

/-- The sentinels of `op/store/errors.go`, and errors known by their text. -/
inductive StoreError where
  | notFound
  | alreadyExists
  | alreadyConsumed
  | conflict
  | other (text : String)
  deriving DecidableEq

/-- What a call answers that returns a value and an `error`. -/
abbrev Fallible := Except StoreError

/-- What a call answers that returns an `error` only. -/
abbrev StoreReply := Fallible Unit

/-- What a `Consume` returns. A replay carries the record next to its error. -/
inductive ConsumeResult (V : Type) where
  | consumed (rec : V)
  | alreadyConsumed (rec : V)
  | failed (err : StoreError)
  deriving DecidableEq

abbrev JsonObject := List (String × String)

structure AccessTokenRecord where
  jti : String
  grantID : String
  subject : String
  clientID : String
  scopes : List String
  issuedAt : Time
  expiresAt : Time
  revoked : Bool
  deriving DecidableEq

structure OpaqueAccessToken where
  id : String
  grantID : String
  subject : String
  clientID : String
  scope : List String
  audience : String
  acr : String
  amr : List String
  authTime : Time
  authorizationDetails : List JsonObject
  claims : JsonObject
  authorizationRecorded : Bool
  dpopJKT : String
  mtlsCertThumbprint : String
  chainID : String
  issuedAt : Time
  expiresAt : Time
  revoked : Bool
  deriving DecidableEq

/-- The grant types a refresh chain can start from. -/
inductive RefreshTokenOrigin where
  | unset
  | authCode
  | customGrant
  | deviceCode
  | ciba
  deriving DecidableEq, Inhabited

structure RefreshToken where
  id : String
  clientID : String
  subject : String
  subjectPublic : Bool
  grantID : String
  scope : List String
  resource : String
  origin : RefreshTokenOrigin
  authTime : Time
  acr : String
  amr : List String
  authorizationDetails : List JsonObject
  claims : JsonObject
  authorizationRecorded : Bool
  accessTokenExtra : JsonObject
  parentID : Option String
  consumedAt : Option Time
  expiresAt : Time
  createdAt : Time
  dpopJKT : String
  mtlsCertThumbprint : String
  nonce : String
  chainID : String
  revoked : Bool
  deriving DecidableEq, Inhabited

/-- A row handed to a caller carries the id it was looked up with. -/
def RefreshToken.presentedAs (rec : RefreshToken) (id : String) : RefreshToken :=
  { rec with id := id }

def RefreshToken.stampConsumed (rec : RefreshToken) (now : Time) : RefreshToken :=
  { rec with consumedAt := some now }

structure Grant where
  id : String
  subject : String
  clientID : String
  scope : List String
  claims : JsonObject
  authTime : Time
  acr : String
  amr : List String
  authorizationDetails : List JsonObject
  createdAt : Time
  updatedAt : Time
  deriving DecidableEq, Inhabited

structure AuthorizationCode where
  id : String
  clientID : String
  subject : String
  grantID : String
  redirectURI : String
  scope : List String
  resource : String
  codeChallenge : String
  codeChallengeMethod : String
  nonce : String
  state : String
  dpopJKT : String
  authTime : Time
  acr : String
  amr : List String
  authorizationDetails : List JsonObject
  claims : JsonObject
  authorizationRecorded : Bool
  expiresAt : Time
  consumedAt : Option Time
  createdAt : Time
  deriving DecidableEq, Inhabited

structure PushedAuthRequest where
  uri : String
  clientID : String
  rawParams : List UInt8
  expiresAt : Time
  consumedAt : Option Time
  createdAt : Time
  deriving DecidableEq, Inhabited

structure GrantTombstone where
  grantID : String
  revokedAt : Time
  expiresAt : Time
  reason : String
  accessTokensOnly : Bool
  deriving DecidableEq

structure RevokedJTI where
  jti : String
  grantID : String
  expiresAt : Time
  deriving DecidableEq

def AuthorizationCode.presentedAs (rec : AuthorizationCode) (id : String) : AuthorizationCode :=
  { rec with id := id }

def AuthorizationCode.stampConsumed (rec : AuthorizationCode) (now : Time) : AuthorizationCode :=
  { rec with consumedAt := some now }

def PushedAuthRequest.presentedAs (rec : PushedAuthRequest) (uri : String) : PushedAuthRequest :=
  { rec with uri := uri }

def PushedAuthRequest.stampConsumed (rec : PushedAuthRequest) (now : Time) : PushedAuthRequest :=
  { rec with consumedAt := some now }

/-! ### Checks that refuse -/

section
variable {E A B : Type}

def ensure (passed : Bool) (error : E) : Except E Unit :=
  if passed then .ok () else .error error

lemma ensure_ok {passed : Bool} {error : E} {u : Unit} :
    ensure passed error = .ok u ↔ passed = true := by
  cases passed <;> simp [ensure]

lemma ok_of_bind {x : Except E A} {f : A → Except E B} {b : B} (h : x >>= f = .ok b) :
    ∃ a, x = .ok a ∧ f a = .ok b := by
  cases x with
  | error err => cases h
  | ok a => exact ⟨a, rfl, h⟩

end

/-! ### The amortised sweep -/

def fullGCInterval : ℕ := 64

/-- `sweepDue`: the threshold grows with half the map. -/
def sweepDue (writes : UInt32) (live : ℕ) : Bool :=
  decide (max fullGCInterval (live / 2) ≤ writes.toNat)

/-- `sweeper.due`: counts one write and reports whether a sweep is owed; when it
is, the count restarts. -/
def Sweeper.due (w : UInt32) (live : ℕ) : UInt32 × Bool :=
  if sweepDue (w + 1) live then (0, true) else (w + 1, false)

end OidcProvider.StoreRecords
