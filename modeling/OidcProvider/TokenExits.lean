import OidcProvider.Teardown

/-!
# Exits of the token endpoint

What an exit of `/token` does once the request is accepted: it persists the
access token, then the refresh token, asks whether the grant was closed in the
meantime, and releases the response or retires what it persisted
(`authcode.go`, `refreshissue.go`, `grant_closure.go`). The random identifiers,
the signed tokens and the other fields of the rows are given with the exit.
-/
namespace OidcProvider.TokenExits
open StoreRecords ResumptionPrograms Teardown

/-- The substores that are wired, the strategy and the lifetime of access tokens. -/
structure Deps where
  refreshTokens : Bool
  opaqueAccessTokens : Bool
  accessTokens : Bool
  grantRevocations : Bool
  strategy : AccessTokenRevocationStrategy
  accessTokenTTL : Time
  deriving DecidableEq

def grantTeardown (deps : Deps) (now : Time) (reason : String) : Revoker :=
  newRevoker deps.refreshTokens deps.opaqueAccessTokens deps.accessTokens deps.grantRevocations
    deps.strategy deps.accessTokenTTL now reason

def teardownReasonOrphanedMint : String := "orphaned_mint"
def teardownReasonGrantTombstoned : String := "grant_tombstoned"
def teardownReasonPreparedPoll : String := "prepared_poll_lost"

/-- An access token about to be minted: an opaque value with its row, or a signed
JWT with its registry record. -/
inductive AccessToken where
  | opaqueToken (tok : OpaqueAccessToken)
  | jwt (signed : String) (rec : AccessTokenRecord)
  deriving DecidableEq

def AccessToken.wire : AccessToken → String
  | .opaqueToken tok => tok.id
  | .jwt signed _ => signed

/-- A refresh token about to be issued; a rotation may bring the sealed response
that answers a retry. -/
structure RefreshMint where
  token : RefreshToken
  contents : Option (List UInt8)
  deriving DecidableEq

def errOpaqueUnwired : StoreError :=
  .other "tokenendpoint: opaque format requested but OpaqueAccessTokens substore is nil"

def errRefreshUnwired : StoreError := .other "refresh: store is required"

section
variable (deps : Deps) (grantID : String)

/-- The rows as they are minted: under the grant, and not revoked. -/
def opaqueRow (tok : OpaqueAccessToken) : OpaqueAccessToken :=
  { tok with grantID, revoked := false }

def registryRow (rec : AccessTokenRecord) : AccessTokenRecord :=
  { rec with grantID, revoked := false }

def refreshRow (token : RefreshToken) : RefreshToken :=
  { token with grantID, consumedAt := none, revoked := false }

def registers : Bool := decide (deps.strategy = .jtiRegistry) && deps.accessTokens

/-- `mintAccessToken`: a JWT leaves a row only under the registry strategy. -/
def mintAccessToken : AccessToken → Program (Fallible String)
  | .opaqueToken tok => do
      if !deps.opaqueAccessTokens then return .error errOpaqueUnwired
      else return (← ask (.saveOpaque (opaqueRow grantID tok))).map fun _ => tok.id
  | .jwt signed rec => do
      if registers deps then
        return (← ask (.register (registryRow grantID rec))).map fun _ => signed
      else return .ok signed

def RefreshMint.saveCall (mint : RefreshMint) : Call :=
  match mint.contents with
  | none => .saveRefresh (refreshRow grantID mint.token)
  | some contents => .saveRotation (refreshRow grantID mint.token) contents

/-- `issueRefreshToken`, and the rotation of the refresh grant. A token that is
withheld is the empty string. -/
def issueRefreshToken : Option RefreshMint → Program (Fallible String)
  | none => pure (.ok "")
  | some mint => do
      if !deps.refreshTokens then return .error errRefreshUnwired
      else match mint.contents with
        | none =>
          return (← ask (.saveRefresh (refreshRow grantID mint.token))).map
            fun _ => mint.token.id
        | some contents =>
          return (← ask (.saveRotation (refreshRow grantID mint.token) contents)).map
            fun _ => mint.token.id

end

/-- Retires the credentials one exit produced, and nothing else. -/
def retireIssued (deps : Deps) (now : Time) (reason accessToken refreshToken : String) :
    Program Outcome :=
  (grantTeardown deps now reason).run (issuedCredentials accessToken refreshToken)

inductive Closure where
  | proceed
  | refused
  | serverError
  deriving DecidableEq

structure IssuedUnderGrant where
  grantID : String
  issuedAt : Time
  accessToken : String
  refreshToken : String
  deriving DecidableEq

/-- `refuseIssuanceUnderClosedGrant`. The in-memory store keeps access-token-only
tombstones apart, so the answer comes from `IsIssuanceRevoked`. -/
def refuseIssuanceUnderClosedGrant (deps : Deps) (now : Time) (issued : IssuedUnderGrant) :
    Program Closure := do
  if !deps.grantRevocations ∨ issued.grantID = "" then return .proceed
  else
    match ← ask (.isIssuanceRevoked issued.grantID issued.issuedAt) with
    | .ok false => return .proceed
    | .ok true =>
      let _ ← retireIssued deps now teardownReasonGrantTombstoned issued.accessToken
        issued.refreshToken
      return .refused
    | .error _ =>
      let _ ← retireIssued deps now teardownReasonGrantTombstoned issued.accessToken
        issued.refreshToken
      return .serverError

structure Exit where
  grantID : String
  issuedAt : Time
  now : Time
  accessToken : AccessToken
  /-- whether the id_token, if one is asked for, is minted -/
  idToken : Bool
  refreshToken : Option RefreshMint
  deriving DecidableEq

inductive Response where
  | released
  | refused
  | serverError
  deriving DecidableEq

/-- `issueAuthCodeResponse` from the first persistence on. -/
def Exit.issue (deps : Deps) (x : Exit) : Program Response := do
  match ← mintAccessToken deps x.grantID x.accessToken with
  | .error _ => return .serverError
  | .ok accessToken =>
    if !x.idToken then
      let _ ← retireIssued deps x.now teardownReasonOrphanedMint accessToken ""
      return .serverError
    else
      match ← issueRefreshToken deps x.grantID x.refreshToken with
      | .error _ =>
        let _ ← retireIssued deps x.now teardownReasonOrphanedMint accessToken ""
        return .serverError
      | .ok refreshToken =>
        match ← refuseIssuanceUnderClosedGrant deps x.now
          ⟨x.grantID, x.issuedAt, accessToken, refreshToken⟩ with
        | .proceed => return .released
        | .refused => return .refused
        | .serverError => return .serverError

end OidcProvider.TokenExits
