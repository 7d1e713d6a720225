import OidcProvider.RefreshEndpoint
import OidcProvider.TokenExits

/-!
# Polls of a device code, and its revocation

`internal/tokenendpoint/devicecode.go` and `pollgrant.go`: a poll finds the
record, keeps to the polling interval, passes the authorization gates, persists
its credentials under the grant id derived from the device code, and consumes
the record. Only the poll whose `Consume` succeeds may release its response; the
others retire what they persisted. Next to it `Revoke` of `op/devicecodekit`,
which closes the record and then sweeps the credentials of the derived grant.
The consent record of the grant lies in a store of its own and is left out.
-/
namespace OidcProvider.DevicePolls
open StoreRecords DeviceCodeStore ResumptionPrograms Teardown TokenExits
open RefreshEndpoint (Client Registry)

/-! ### The polling interval -/

namespace PollInterval

def defaultInterval : Time := 5 * Time.second
def slowDownIncrement : Time := 5 * Time.second
def intervalTolerance : Time := Time.second
def fastPollFloor : Time := 500000000
def maxPollViolations : UInt8 := 5

inductive Outcome where
  | emit
  | pending
  | slowDown
  | denied
  | expired
  | consumed
  deriving DecidableEq

structure Input where
  now : Time
  lastPolledAt : Time
  effectiveInterval : Time
  expiresAt : Time
  approved : Bool
  denied : Bool
  consumed : Bool
  pollViolations : UInt8
  maxPollViolations : UInt8 := 0
  deriving DecidableEq

structure Output where
  decision : Outcome
  nextInterval : Time := 0
  countThisAsViolation : Bool := false
  deriving DecidableEq

def nextInterval (current : Time) : Time :=
  if current ≤ 0 then defaultInterval else current + slowDownIncrement

def intervalBar (effective : Time) : Time := max (effective - intervalTolerance) 0

/-- `Decide`. -/
def Input.verdict (i : Input) : Output :=
  let threshold := if i.maxPollViolations = 0 then PollInterval.maxPollViolations
    else i.maxPollViolations
  let gap := i.now - i.lastPolledAt
  if i.consumed then ⟨.consumed, 0, false⟩
  else if i.expiresAt ≠ 0 ∧ i.expiresAt ≤ i.now then ⟨.expired, 0, false⟩
  else if i.denied then ⟨.denied, 0, false⟩
  else if threshold ≤ i.pollViolations then ⟨.denied, 0, false⟩
  else if i.lastPolledAt ≠ 0 ∧ (gap < fastPollFloor ∨ gap < intervalBar i.effectiveInterval) then
    ⟨.slowDown, nextInterval i.effectiveInterval, true⟩
  else if i.approved then ⟨.emit, 0, false⟩
  else ⟨.pending, 0, false⟩

/-- `DecideAs`: a consumed record is reported as the flow wants it. -/
def Input.verdictAs (i : Input) (consumedAs : Outcome) : Output :=
  if i.verdict.decision = .consumed then { i.verdict with decision := consumedAs } else i.verdict

end PollInterval

open PollInterval (Input Output)

def decidePoll (i : Input) : Output := i.verdictAs .expired

/-! ### Answers -/

structure OAuthError where
  code : String
  description : String
  deriving DecidableEq

inductive PollResponse where
  | released
  | refused (err : OAuthError)
  | serverError
  deriving DecidableEq

def expiredOrConsumed : OAuthError := ⟨"expired_token", "device_code expired or already consumed"⟩

/-! ### The poll decision -/

/-- `pollSpec`, without its audit events. -/
structure PollSpec where
  recordPoll : Time → Time → Program StoreReply
  slowDown : Output → Program Unit
  expiredDescription : String
  redeemedDescription : String

/-- `applyPollOutcome`: the response, unless the poll goes on. A failure to record
the poll is not fatal. -/
def applyPollOutcome (spec : PollSpec) (d : Output) (now currentInterval : Time) :
    Program (Option PollResponse) := do
  let _ ← spec.recordPoll now
    (if d.decision = .slowDown then d.nextInterval else currentInterval)
  match d.decision with
  | .pending =>
    return some (.refused ⟨"authorization_pending", "authorization request is still pending"⟩)
  | .slowDown =>
    spec.slowDown d
    return some (.refused ⟨"slow_down", "polling interval has been increased; back off and retry"⟩)
  | .denied => return some (.refused ⟨"access_denied", "authorization request was denied"⟩)
  | .expired => return some (.refused ⟨"expired_token", spec.expiredDescription⟩)
  | .consumed => return some (.refused ⟨"invalid_grant", spec.redeemedDescription⟩)
  | .emit => return none

/-- Too many polls inside the interval deny the record. -/
def recordViolation (deviceCode : String) (d : Output) : Program Unit := do
  if d.countThisAsViolation then
    match ← ask (.device (.incrementPollViolation deviceCode)) with
    | .ok strikes =>
      if PollInterval.maxPollViolations ≤ strikes then
        let _ ← ask (.device (.deny deviceCode "poll_abuse"))
        return ()
      else return ()
    | .error _ => return ()
  else return ()

def applyPollDecision (now : Time) (rec : DeviceCode) (deviceCode : String) :
    Program (Option PollResponse) :=
  applyPollOutcome
    { recordPoll := fun at_ interval => ask (.device (.recordPoll deviceCode at_ interval))
      slowDown := recordViolation deviceCode
      expiredDescription := "device_code expired or already consumed"
      redeemedDescription := "device_code expired or already consumed" }
    (decidePoll
      { now
        lastPolledAt := rec.lastPolledAt.getD 0
        effectiveInterval := rec.interval
        expiresAt := rec.expiresAt
        approved := rec.status = .approved
        denied := rec.status = .denied
        consumed := rec.status = .consumed
        pollViolations := rec.pollViolations })
    now rec.interval

/-! ### Authorization -/

structure Presented where
  dpopJKT : String
  mtlsCertS256 : String
  deriving DecidableEq

/-- The sentinels of `internal/grants/devicecode`. -/
inductive AuthorizeError where
  | grantNotPermitted
  | scopeForbidden
  | cnfBindingMismatch
  | cnfBindingMissing
  | pendingApproval
  | denied
  | expiredOrConsumed
  | subjectMissing
  deriving DecidableEq

/-- `Approval`, and `Authorized` of the device grant. -/
structure Authorized where
  scope : List String
  audience : List String
  subject : String
  authTime : Time
  senderConstraint : String
  deriving DecidableEq

/-- One confirmation method the record may have committed to. -/
def matchMethod (committed presented method : String) : Except AuthorizeError (List String) :=
  if committed = "" then .ok []
  else if presented = "" then .error .cnfBindingMissing
  else if presented ≠ committed then .error .cnfBindingMismatch
  else .ok [method]

def matchCnfBinding (rec : DeviceCode) (presented : Presented) : Except AuthorizeError String := do
  let dpop ← matchMethod rec.dpopJKT presented.dpopJKT "dpop"
  let mtls ← matchMethod rec.mtlsCertS256 presented.mtlsCertS256 "mtls"
  return if dpop ++ mtls = [] then "bearer" else "+".intercalate (dpop ++ mtls)

def mapStatusToError : DeviceCodeStatus → Option AuthorizeError
  | .approved => none
  | .pending => some .pendingApproval
  | .denied => some .denied
  | .consumed => some .expiredOrConsumed
  | .unspecified => some .expiredOrConsumed

def grantTypeDeviceCode : String := "urn:ietf:params:oauth:grant-type:device_code"

/-- `Authorize`, with the gates of `pollgrant.Authorize` in their order. -/
def authorize (client : Client) (rec : DeviceCode) (presented : Presented) :
    Except AuthorizeError Authorized := do
  if grantTypeDeviceCode ∉ client.grantTypes then throw .grantNotPermitted
  match mapStatusToError rec.status with
  | some e => throw e
  | none =>
    if rec.subject = "" then throw .subjectMissing
    let binding ← matchCnfBinding rec presented
    if rec.scope.all (· ∈ client.scopes) then
      return ⟨rec.scope, rec.resource, rec.subject, rec.authTime, binding⟩
    else throw .scopeForbidden

def deviceCodeAuthError : AuthorizeError → OAuthError
  | .expiredOrConsumed => expiredOrConsumed
  | .grantNotPermitted =>
    ⟨"unauthorized_client", "client is not authorized for the device_code grant"⟩
  | .scopeForbidden => ⟨"invalid_scope", "granted scope exceeds the client's registered set"⟩
  | .cnfBindingMismatch | .cnfBindingMissing =>
    ⟨"invalid_grant", "sender-constraint binding does not match the device-authorization record"⟩
  | .subjectMissing =>
    ⟨"invalid_grant", "device authorization is not associated with an end user"⟩
  | .pendingApproval => ⟨"authorization_pending", "authorization request is still pending"⟩
  | .denied => ⟨"access_denied", "authorization request was denied"⟩

def authorizeDeviceCodePoll (scopes : Registry) (client : Client) (rec : DeviceCode)
    (presented : Presented) : Except OAuthError Authorized :=
  match authorize client rec presented with
  | .error e => .error (deviceCodeAuthError e)
  | .ok authorized =>
    if scopes.allowsAll authorized.scope client.id then .ok authorized
    else .error ⟨"invalid_scope", "scope is restricted to a different client"⟩

/-! ### The poll -/

/-- `GrantID`: the grant id derived from a device code, an encoded digest and
hence never empty. -/
structure GrantDeriver where
  grantID : String → String
  grantID_ne_empty : ∀ deviceCode, grantID deviceCode ≠ ""

/-- A refresh token that starts a chain; its random value is not empty. -/
structure RefreshRoot where
  token : RefreshToken
  root : token.parentID = none
  named : token.id ≠ ""
  deriving DecidableEq

def RefreshRoot.mint (root : RefreshRoot) : RefreshMint := ⟨root.token, none⟩

/-- `lookupLiveSubject`. -/
inductive SubjectLookup where
  | live
  | deprovisioned
  | failed
  deriving DecidableEq

/-- One authenticated poll: what it presents, and what the parts of the assembly
that lie elsewhere come to. The tokens are the ones it would mint. -/
structure Poll where
  client : Client
  presented : Presented
  now : Time
  subject : SubjectLookup
  /-- whether the consent record of the grant is written -/
  grantRecorded : Bool
  /-- whether the authentication time, the public subject and the chain id are there -/
  assembled : Bool
  accessToken : AccessToken
  /-- whether the id_token, if one is asked for, is minted -/
  idToken : Bool
  refreshToken : Option RefreshRoot
  deriving DecidableEq

/-- What a poll answers, and which of its credentials it has persisted. -/
structure PollReport where
  response : PollResponse
  accessMinted : Bool := false
  refreshIssued : Bool := false
  deriving DecidableEq

/-- A response that is assembled, or a failure after which nothing is left. -/
inductive Preparation where
  | failed (accessMinted : Bool)
  | ready (accessToken refreshToken : String)
  deriving DecidableEq

def AccessToken.isOpaque : AccessToken → Bool
  | .opaqueToken _ => true
  | .jwt _ _ => false

section
variable (scopes : Registry) (deps : Deps) (H : GrantDeriver) (deviceCode : String) (x : Poll)

def lookupDeviceCode : Program (Except PollResponse DeviceCode) := do
  match ← ask (.device (.findByDeviceCode deviceCode)) with
  | .error .notFound => return .error (.refused expiredOrConsumed)
  | .error _ => return .error .serverError
  | .ok rec =>
    if rec.clientID ≠ x.client.id then
      return .error (.refused ⟨"invalid_grant", "device_code rejected"⟩)
    else return .ok rec

/-- `cleanupPreparedCredentials`: a JWT access token has no row to retire. -/
def cleanupPreparedCredentials (accessToken refreshToken : String) : Program Outcome :=
  retireIssued deps x.now teardownReasonPreparedPoll
    (if AccessToken.isOpaque x.accessToken then accessToken else "") refreshToken

/-- `preparePolledResponse`; whatever fails rolls back what was minted before. -/
def preparePolledResponse : Program Preparation := do
  if !x.grantRecorded then return .failed false
  else if !x.assembled then
    let _ ← cleanupPreparedCredentials deps x "" ""
    return .failed false
  else
    match ← mintAccessToken deps (H.grantID deviceCode) x.accessToken with
    | .error _ =>
      let _ ← cleanupPreparedCredentials deps x "" ""
      return .failed false
    | .ok accessToken =>
      if !x.idToken then
        let _ ← cleanupPreparedCredentials deps x accessToken ""
        return .failed true
      else
        match ← issueRefreshToken deps (H.grantID deviceCode)
            (x.refreshToken.map RefreshRoot.mint) with
        | .error _ =>
          let _ ← cleanupPreparedCredentials deps x accessToken ""
          return .failed true
        | .ok refreshToken => return .ready accessToken refreshToken

def consumeDeviceCode : Program (Option PollResponse) := do
  match ← ask (.device (.consume deviceCode)) with
  | .ok _ => return none
  | .error .alreadyConsumed => return some (.refused expiredOrConsumed)
  | .error .notFound => return some (.refused expiredOrConsumed)
  | .error .conflict =>
    return some (.refused ⟨"invalid_grant", "device_code is not in a consumable state"⟩)
  | .error _ => return some .serverError

def closureResponse : Closure → PollResponse
  | .proceed => .released
  | .refused => .refused ⟨"invalid_grant", "device_code rejected"⟩
  | .serverError => .serverError

/-- The prepared response: consume the record, then release or retire. -/
def redeem (rec : DeviceCode) (accessToken refreshToken : String) : Program PollReport := do
  match ← consumeDeviceCode deviceCode with
  | some response =>
    let _ ← cleanupPreparedCredentials deps x accessToken refreshToken
    return ⟨response, true, true⟩
  | none =>
    let closure ← refuseIssuanceUnderClosedGrant deps x.now
      ⟨H.grantID deviceCode, rec.issuedAt, accessToken, refreshToken⟩
    return ⟨closureResponse closure, true, true⟩

/-- The poll from the subject lookup on. -/
def issuePolled (rec : DeviceCode) : Program PollReport := do
  match x.subject with
  | .deprovisioned =>
    -- the approval is spent, whether or not this succeeds
    let _ ← ask (.device (.consume deviceCode))
    return { response := .refused ⟨"invalid_grant", "grant subject no longer exists"⟩ }
  | .failed => return { response := .serverError }
  | .live =>
    match ← preparePolledResponse deps H deviceCode x with
    | .failed accessMinted => return ⟨.serverError, accessMinted, false⟩
    | .ready accessToken refreshToken => redeem deps H deviceCode x rec accessToken refreshToken

/-- `handleDeviceCode`, once the client is authenticated. -/
def handleDeviceCode : Program PollReport := do
  match ← lookupDeviceCode deviceCode x with
  | .error response => return { response }
  | .ok rec =>
    match ← applyPollDecision x.now rec deviceCode with
    | some response => return { response }
    | none =>
      match authorizeDeviceCodePoll scopes x.client rec x.presented with
      | .error e => return { response := .refused e }
      | .ok _ => issuePolled deps H deviceCode x rec

end

/-! ### Revocation -/

inductive KitError where
  | invalidArgument
  | unknownDeviceCode
  | missingRevocationBackend
  | store (err : StoreError)
  deriving DecidableEq

def mapNotFound : StoreError → KitError
  | .notFound => .unknownDeviceCode
  | e => .store e

def joined : StoreReply → List KitError
  | .ok () => []
  | .error e => [.store e]

section
variable (deps : Deps) (now : Time) (grantID reason : String)

def revokeJWTRegistryCredentials : Program (List KitError) := do
  return joined (← ask (.revokeByGrant grantID))

def revokeJWTTombstoneCredentials : Program (List KitError) := do
  if deps.grantRevocations then
    return joined (← ask (.revokeGrant
      ⟨grantID, now, now + tombstoneRetention deps.accessTokenTTL, reason, false⟩))
  else if deps.accessTokens then revokeJWTRegistryCredentials grantID
  else return [.missingRevocationBackend]

def revokeJWTGrantCredentials : Program (List KitError) :=
  match deps.strategy with
  | .none => pure []
  | .jtiRegistry =>
    if deps.accessTokens then revokeJWTRegistryCredentials grantID
    else pure [.missingRevocationBackend]
  | .grantTombstone => revokeJWTTombstoneCredentials deps now grantID reason

def revokeOpaqueGrantCredentials : Program (List KitError) := do
  if deps.opaqueAccessTokens then return joined (← ask (.revokeOpaqueByGrant grantID))
  else return []

def revokeRefreshGrantCredentials : Program (List KitError) := do
  if deps.refreshTokens then return joined (← ask (.revokeRefreshByGrant grantID))
  else return []

/-- All three are attempted, and their errors joined. -/
def revokeGrantCredentials : Program (List KitError) := do
  let jwt ← revokeJWTGrantCredentials deps now grantID reason
  let opaqueTokens ← revokeOpaqueGrantCredentials deps grantID
  let refresh ← revokeRefreshGrantCredentials deps grantID
  return jwt ++ opaqueTokens ++ refresh

end

/-- `devicecodekit.Revoke`: the errors, none when it has completed. -/
def revoke (deps : Deps) (H : GrantDeriver) (now : Time) (deviceCode reason : String) :
    Program (List KitError) := do
  if deviceCode = "" then return [.invalidArgument]
  else
    match ← ask (.device (.findByDeviceCode deviceCode)) with
    | .error e => return [mapNotFound e]
    | .ok _ =>
      match ← ask (.device (.revoke deviceCode reason)) with
      | .error e => return [mapNotFound e]
      | .ok _ => revokeGrantCredentials deps now (H.grantID deviceCode) reason

end OidcProvider.DevicePolls
