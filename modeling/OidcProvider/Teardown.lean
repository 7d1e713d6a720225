import OidcProvider.AccessTokenStores
import OidcProvider.DeviceCodeStore
import OidcProvider.GrantRevocationStore
import OidcProvider.RefreshTokenStore
import OidcProvider.ResumptionPrograms

/-!
# Teardown of credentials

`internal/revocation/teardown.go` and `jwt.go`: the revoker retires the
credentials a scope names, rung by rung, and the read side tells whether a JWT
access token has been retired. Both are programs over the calls of the
substores that the token endpoint works on. Each call is one critical section
of the in-memory adapter; it reads the clock once and ranges over its maps in
some order, and both are left open. The in-memory revocations do not fail, but
the programs are written against replies that may.
-/
namespace OidcProvider.Teardown
open FiniteMaps StoreRecords AccessTokenStores GrantRevocationStore RefreshTokenStore
open ResumptionPrograms

/-- The substores a teardown and the token endpoint share, and the clients that
are registered. -/
structure Substores where
  refreshTokens : RefreshStore
  opaqueAccessTokens : OpaqueAccessTokens.Store
  accessTokens : AccessTokens.Store
  grantRevocations : GrantRevocations
  deviceCodes : DeviceCodeStore.DeviceCodes
  clients : Finset String

def newSubstores (clients : Finset String) : Substores :=
  ⟨newRefreshStore, TokenRows.emptyStore, TokenRows.emptyStore, newGrantRevocations,
    DeviceCodeStore.newDeviceCodes, clients⟩

inductive Call where
  | saveRefresh (token : RefreshToken)
  | saveRotation (token : RefreshToken) (contents : List UInt8)
  | revokeRefreshChain (rootID : String)
  | revokeRefreshByGrant (grantID : String)
  | saveOpaque (tok : OpaqueAccessToken)
  | revokeOpaqueByID (id : String)
  | revokeOpaqueByGrant (grantID : String)
  | revokeOpaqueByChain (grantID chainID : String)
  | register (rec : AccessTokenRecord)
  | find (jti : String)
  | revokeByJTI (jti : String)
  | revokeByGrant (grantID : String)
  | revokeGrant (t : GrantTombstone)
  | revokeJTI (r : RevokedJTI)
  | isRevoked (grantID jti : String) (iat : Time)
  | isIssuanceRevoked (grantID : String) (issuedAt : Time)
  | device (c : DeviceCodeStore.Call)
  | getClient (id : String)
  deriving DecidableEq

@[reducible] def Call.Reply : Call → Type
  | .find _ => Fallible (Option AccessTokenRecord)
  | .isRevoked _ _ _ => Fallible Bool
  | .isIssuanceRevoked _ _ => Fallible Bool
  | .device c => c.Reply
  | _ => StoreReply

/-- What a call leaves open: the clock reading of its critical section, and the
order in which Go happens to range over the maps. -/
structure Chance where
  now : Time
  order : KeyOrder

def handle (D : KeyDigest) (e : Chance) : (o : Call) → Substores → Substores × o.Reply
  | .saveRefresh token, w =>
    let r := save D w.refreshTokens (some token)
    ({ w with refreshTokens := r.1 }, r.2)
  | .saveRotation token contents, w =>
    let r := saveRotationWithRetry D e.order e.now w.refreshTokens (some token) contents
    ({ w with refreshTokens := r.1 }, r.2)
  | .revokeRefreshChain rootID, w =>
    let r := revokeChain D e.order e.now w.refreshTokens rootID
    ({ w with refreshTokens := r.1 }, r.2)
  | .revokeRefreshByGrant grantID, w =>
    ({ w with
      refreshTokens := RefreshTokenStore.revokeByGrant e.order e.now w.refreshTokens grantID },
      .ok ())
  | .saveOpaque tok, w =>
    let r := OpaqueAccessTokens.save D w.opaqueAccessTokens (some tok)
    ({ w with opaqueAccessTokens := r.1 }, r.2)
  | .revokeOpaqueByID id, w =>
    ({ w with
      opaqueAccessTokens := OpaqueAccessTokens.revokeByID D w.opaqueAccessTokens id }, .ok ())
  | .revokeOpaqueByGrant grantID, w =>
    ({ w with opaqueAccessTokens :=
      (OpaqueAccessTokens.revokeByGrant e.order w.opaqueAccessTokens grantID).1 }, .ok ())
  | .revokeOpaqueByChain grantID chainID, w =>
    ({ w with opaqueAccessTokens :=
      (OpaqueAccessTokens.revokeByChain e.order w.opaqueAccessTokens grantID chainID).1 }, .ok ())
  | .register rec, w =>
    let r := AccessTokens.register w.accessTokens rec
    ({ w with accessTokens := r.1 }, r.2)
  | .find jti, w => (w, .ok (AccessTokens.find w.accessTokens jti))
  | .revokeByJTI jti, w =>
    ({ w with accessTokens := AccessTokens.revokeByJTI w.accessTokens jti }, .ok ())
  | .revokeByGrant grantID, w =>
    ({ w with accessTokens := (AccessTokens.revokeByGrant e.order w.accessTokens grantID).1 },
      .ok ())
  | .revokeGrant t, w =>
    ({ w with grantRevocations := GrantRevocationStore.revokeGrant w.grantRevocations t }, .ok ())
  | .revokeJTI r, w =>
    ({ w with grantRevocations := GrantRevocationStore.revokeJTI w.grantRevocations r }, .ok ())
  | .isRevoked grantID jti iat, w =>
    (w, .ok (GrantRevocationStore.isRevoked w.grantRevocations grantID jti iat))
  | .isIssuanceRevoked grantID issuedAt, w =>
    (w, .ok (GrantRevocationStore.isIssuanceRevoked w.grantRevocations grantID issuedAt))
  | .device c, w =>
    let r := DeviceCodeStore.handle D e.order e.now c w.deviceCodes
    ({ w with deviceCodes := r.1 }, r.2)
  | .getClient id, w => (w, if id ∈ w.clients then .ok () else .error .notFound)

abbrev Program (A : Type) := Prog Call Call.Reply A

def ask (o : Call) : Program o.Reply := Prog.perform o

/-! ### Scopes and outcomes -/

/-- `AccessTokenRevocationStrategy`. A value outside the three constants is
treated like the first by every function that reads it. -/
inductive AccessTokenRevocationStrategy where
  | grantTombstone
  | jtiRegistry
  | none
  deriving DecidableEq

/-- `class`: the bitmask of credential classes. -/
structure Classes where
  accessTokens : Bool := false
  refresh : Bool := false
  issuance : Bool := false
  deriving DecidableEq

inductive Width where
  | none
  | grant
  | chain
  | token
  | jti
  deriving DecidableEq

structure Scope where
  grantID : String := ""
  accessTokenID : String := ""
  refreshToken : String := ""
  chainID : String := ""
  jti : String := ""
  expiresAt : Time := 0
  width : Width := .none
  classes : Classes := {}
  deriving DecidableEq

def wholeGrant (grantID : String) : Scope :=
  { grantID, width := .grant, classes := ⟨true, true, true⟩ }

def compromisedGrantAccessTokens (grantID : String) : Scope :=
  { grantID, width := .grant, classes := ⟨true, false, true⟩ }

def accessTokensOfGrant (grantID : String) : Scope :=
  { grantID, width := .grant, classes := ⟨true, false, false⟩ }

def issuedCredentials (accessTokenID refreshToken : String) : Scope :=
  { accessTokenID, refreshToken, width := .token, classes := ⟨true, true, false⟩ }

def jwtAccessTokenByJTI (jti grantID : String) (expiresAt : Time) : Scope :=
  { grantID, jti, expiresAt, width := .jti, classes := ⟨true, false, false⟩ }

inductive Surface where
  | jwtAccessTokens
  | opaqueAccessTokens
  | refreshTokens
  | grantIssuance
  deriving DecidableEq

structure Failure where
  surface : Surface
  err : StoreError
  deriving DecidableEq

structure Outcome where
  failures : List Failure := []
  unresolvedGrant : Bool := false
  jtiPersisted : Bool := false
  deriving DecidableEq

namespace Outcome

def complete (o : Outcome) : Bool := decide (o.failures = []) && !o.unresolvedGrant

def add (o : Outcome) (surface : Surface) (err : StoreError) : Outcome :=
  { o with failures := o.failures ++ [⟨surface, err⟩] }

def note (o : Outcome) (surface : Surface) : StoreReply → Outcome
  | .ok () => o
  | .error err => o.add surface err

end Outcome

def clockSkewAllowance : Time := 5 * Time.minute

def tombstoneRetention (accessTokenTTL : Time) : Time :=
  (if accessTokenTTL ≤ 0 then Time.hour else accessTokenTTL) + clockSkewAllowance

/-! ### The JWT rung -/

/-- `JWTGrantCascadeOpts` and the fields of `JWTRevocationOpts`: which substores
are wired, and the strategy. -/
structure Opts where
  accessTokens : Bool
  grantRevocations : Bool
  clients : Bool
  strategy : AccessTokenRevocationStrategy
  deriving DecidableEq

namespace Opts
variable (opts : Opts)

def revokeJWTAccessTokensByGrant (grantID : String) (now retention : Time) (reason : String)
    (accessTokensOnly : Bool) : Program StoreReply :=
  match opts.strategy with
  | .none => pure (.ok ())
  | .jtiRegistry => if opts.accessTokens then ask (.revokeByGrant grantID) else pure (.ok ())
  | .grantTombstone =>
    if opts.grantRevocations ∧ grantID ≠ "" then
      ask (.revokeGrant ⟨grantID, now, now + retention, reason, accessTokensOnly⟩)
    else if opts.accessTokens then ask (.revokeByGrant grantID)
    else pure (.ok ())

/-- `revokedOutcome`: whether the row counts as persisted, next to the error. -/
def revokedOutcome (r : StoreReply) : Bool × StoreReply :=
  (match r with
    | .ok () => true
    | .error _ => false, r)

def revokeJWTAccessTokenByJTI (jti grantID : String) (expiresAt : Time) :
    Program (Bool × StoreReply) :=
  match opts.strategy with
  | .none => pure (false, .ok ())
  | .jtiRegistry =>
    if opts.accessTokens then do return revokedOutcome (← ask (.revokeByJTI jti))
    else pure (false, .ok ())
  | .grantTombstone =>
    if opts.grantRevocations then do
      return revokedOutcome (← ask (.revokeJTI ⟨jti, grantID, expiresAt⟩))
    else if opts.accessTokens then do return revokedOutcome (← ask (.revokeByJTI jti))
    else pure (false, .ok ())

end Opts

/-! ### The revoker -/

structure Revoker where
  refreshTokens : Bool
  opaqueAccessTokens : Bool
  accessTokens : Bool
  grantRevocations : Bool
  strategy : AccessTokenRevocationStrategy
  now : Time
  tombstoneRetention : Time
  reason : String
  deriving DecidableEq

def newRevoker (refreshTokens opaqueAccessTokens accessTokens grantRevocations : Bool)
    (strategy : AccessTokenRevocationStrategy) (accessTokenTTL now : Time) (reason : String) :
    Revoker :=
  ⟨refreshTokens, opaqueAccessTokens, accessTokens, grantRevocations, strategy, now,
    tombstoneRetention accessTokenTTL, reason⟩

namespace Revoker
variable (r : Revoker)

def opts : Opts := ⟨r.accessTokens, r.grantRevocations, false, r.strategy⟩

def jwtRungClosesIssuance : Bool :=
  match r.strategy with
  | .jtiRegistry => false
  | .none => false
  | .grantTombstone => r.grantRevocations

def owesIssuanceClosure (s : Scope) : Bool :=
  if !s.classes.issuance || !r.grantRevocations then false
  else !s.classes.accessTokens || !r.jwtRungClosesIssuance

def issuanceTombstone (grantID : String) : GrantTombstone :=
  ⟨grantID, r.now, r.now + r.tombstoneRetention, r.reason, false⟩

def revokeGrantAccessTokens (s : Scope) (out : Outcome) : Program Outcome := do
  let out := out.note .jwtAccessTokens (← r.opts.revokeJWTAccessTokensByGrant s.grantID r.now
    r.tombstoneRetention r.reason (!s.classes.issuance))
  if r.opaqueAccessTokens then
    return out.note .opaqueAccessTokens (← ask (.revokeOpaqueByGrant s.grantID))
  else return out

/-- The issuance tombstone, where the JWT rung did not write it. -/
def closeIssuance (s : Scope) (out : Outcome) : Program Outcome := do
  if r.owesIssuanceClosure s then
    return out.note .grantIssuance (← ask (.revokeGrant (r.issuanceTombstone s.grantID)))
  else return out

def revokeGrantRefreshTokens (s : Scope) (out : Outcome) : Program Outcome := do
  if s.classes.refresh && r.refreshTokens then
    return out.note .refreshTokens (← ask (.revokeRefreshByGrant s.grantID))
  else return out

def runGrant (s : Scope) : Program Outcome := do
  if s.grantID = "" then return { unresolvedGrant := true }
  else
    let out ← if s.classes.accessTokens then r.revokeGrantAccessTokens s {} else pure {}
    let out ← r.closeIssuance s out
    r.revokeGrantRefreshTokens s out

/-- The in-memory store can revoke by chain. -/
def runChain (s : Scope) : Program Outcome := do
  if s.grantID = "" then return { unresolvedGrant := true }
  else if !r.opaqueAccessTokens then return {}
  else if s.chainID ≠ "" then
    return ({} : Outcome).note .opaqueAccessTokens
      (← ask (.revokeOpaqueByChain s.grantID s.chainID))
  else return ({} : Outcome).note .opaqueAccessTokens (← ask (.revokeOpaqueByGrant s.grantID))

def runToken (s : Scope) : Program Outcome := do
  let out ←
    if s.classes.accessTokens ∧ s.accessTokenID ≠ "" ∧ r.opaqueAccessTokens then do
      pure (({} : Outcome).note .opaqueAccessTokens (← ask (.revokeOpaqueByID s.accessTokenID)))
    else pure {}
  if s.classes.refresh ∧ s.refreshToken ≠ "" ∧ r.refreshTokens then
    return out.note .refreshTokens (← ask (.revokeRefreshChain s.refreshToken))
  else return out

def runJTI (s : Scope) : Program Outcome := do
  let (persisted, err) ← r.opts.revokeJWTAccessTokenByJTI s.jti s.grantID
    (s.expiresAt + clockSkewAllowance)
  return ({ jtiPersisted := persisted } : Outcome).note .jwtAccessTokens err

def run (s : Scope) : Program Outcome :=
  match s.width with
  | .grant => r.runGrant s
  | .chain => r.runChain s
  | .token => r.runToken s
  | .jti => r.runJTI s
  | .none => pure {}

end Revoker

/-! ### The read side -/

/-- The claims of a JWT access token that the revocation checks read. -/
structure AccessTokenClaims where
  clientID : String
  grantID : String
  jti : String
  issuedAt : Time
  deriving DecidableEq

/-- What the read side answers: whether the token is revoked, and whether the
lookup succeeded. -/
structure Answer where
  revoked : Bool
  ok : Bool
  deriving DecidableEq

namespace Opts
variable (opts : Opts) (claims : AccessTokenClaims)

/-- `clientDeleted`: whether the client is gone, and whether that is known. -/
def clientDeleted (clientID : String) : Program Answer := do
  if !opts.clients ∨ clientID = "" then return ⟨false, true⟩
  else match ← ask (.getClient clientID) with
    | .error .notFound => return ⟨true, true⟩
    | .error _ => return ⟨false, false⟩
    | .ok () => return ⟨false, true⟩

def jwtAccessTokenRevokedByJTI : Program Answer := do
  if !opts.accessTokens then return ⟨false, true⟩
  else match ← ask (.find claims.jti) with
    | .error .notFound => return ⟨false, true⟩
    | .error _ => return ⟨false, false⟩
    | .ok rec => return ⟨rec.any (·.revoked), true⟩

def jwtAccessTokenRevokedByTombstone : Program Answer := do
  if opts.grantRevocations then
    match ← ask (.isRevoked claims.grantID claims.jti claims.issuedAt) with
    | .error _ => return ⟨false, false⟩
    | .ok true => return ⟨true, true⟩
    | .ok false =>
      -- a grant-bound token is fully described by the tombstone substore
      if claims.grantID ≠ "" then return ⟨false, true⟩
      else opts.jwtAccessTokenRevokedByJTI claims
  else opts.jwtAccessTokenRevokedByJTI claims

def jwtAccessTokenRevoked : Program Answer := do
  if opts.strategy = .none then return ⟨false, true⟩
  else
    let gone ← opts.clientDeleted claims.clientID
    if !gone.ok then return ⟨false, false⟩
    else if gone.revoked then return ⟨true, true⟩
    else match opts.strategy with
      | .none => return ⟨false, true⟩
      | .jtiRegistry => opts.jwtAccessTokenRevokedByJTI claims
      | .grantTombstone => opts.jwtAccessTokenRevokedByTombstone claims

end Opts

end OidcProvider.Teardown
