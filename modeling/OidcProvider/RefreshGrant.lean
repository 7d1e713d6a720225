import OidcProvider.ChainRetirement

/-!
# The refresh grant

`internal/grants/refresh/refresh.go`: the issuer that mints and saves refresh
tokens, and the exchanger that consumes them, with the delivery grace window
and the cascade that follows a replay. Both are programs over the calls of the
store. Fresh identifiers come from the random source and are arguments.
-/
namespace OidcProvider.RefreshGrant
open StoreRecords ResumptionPrograms ChainRetirement

inductive RefreshError where
  | tokenMissing
  | tokenExpired
  | tokenReplayed
  | clientMismatch
  | scopeWidening
  | wrapped (context : String) (err : StoreError)
  | other (text : String)
  deriving DecidableEq

/-! ### The issuer -/

def refreshTokenTTLDefault : Time := 30 * 24 * Time.hour

structure IssuerConfig where
  ttl : Time
  deriving DecidableEq

structure Issuer where
  ttl : Time
  deriving DecidableEq

def newIssuer (cfg : IssuerConfig) : Issuer :=
  ⟨if cfg.ttl ≤ 0 then refreshTokenTTLDefault else cfg.ttl⟩

structure IssueInput where
  clientID : String
  subject : String
  grantID : String
  scope : List String
  resource : String
  parentID : Option String
  origin : RefreshTokenOrigin
  subjectPublic : Bool
  authTime : Time
  acr : String
  amr : List String
  authorizationDetails : List JsonObject
  accessTokenExtra : JsonObject
  claims : JsonObject
  authorizationRecorded : Bool
  dpopJKT : String
  mtlsCertThumbprint : String
  nonce : String
  chainID : String
  deriving DecidableEq, Inhabited

def validateIssue (input : IssueInput) : Except RefreshError Unit :=
  if input.clientID = "" then .error (.other "refresh: Issue requires ClientID")
  else if input.subject = "" then .error (.other "refresh: Issue requires Subject")
  else if input.scope = [] then .error (.other "refresh: Issue requires Scope")
  else .ok ()

/-- The two values `Prepare` draws from the random source. -/
structure Fresh where
  id : String
  chainID : String
  deriving DecidableEq

/-- The record `Prepare` fills in at the instant `now`. -/
def Issuer.record (i : Issuer) (fresh : Fresh) (now : Time) (input : IssueInput) : RefreshToken :=
  -- the fields that are not named are those of the input
  { input with
    id := fresh.id
    consumedAt := none
    expiresAt := now + i.ttl
    createdAt := now
    chainID := if input.chainID = "" then fresh.chainID else input.chainID
    revoked := false }

def Issuer.prepare (i : Issuer) (fresh : Fresh) (input : IssueInput) :
    Program (Except RefreshError RefreshToken) :=
  match validateIssue input with
  | .error e => pure (.error e)
  | .ok () => do
      let now ← ask .now
      pure (.ok (i.record fresh now input))

/-- `Issue`: the raw id of the saved record. -/
def Issuer.issue (i : Issuer) (fresh : Fresh) (input : IssueInput) :
    Program (Except RefreshError String) := do
  match ← i.prepare fresh input with
  | .error e => pure (.error e)
  | .ok rec =>
    match ← ask (.save rec) with
    | .error e => pure (.error (.wrapped "refresh: save" e))
    | .ok () => pure (.ok rec.id)

/-! ### The exchanger -/

def graceTTLDefault : Time := 60 * Time.second

structure ExchangerConfig where
  graceTTL : Time
  deferReplayCascade : Bool
  rotationDisabled : Bool
  deriving DecidableEq

structure Exchanger where
  graceTTL : Time
  deferCascade : Bool
  rotationDisabled : Bool
  deriving DecidableEq

/-- `NewExchanger`: zero asks for the default window, a negative one disables it. -/
def newExchanger (cfg : ExchangerConfig) : Exchanger where
  graceTTL :=
    if cfg.graceTTL = 0 then graceTTLDefault
    else if cfg.graceTTL < 0 then 0
    else cfg.graceTTL
  deferCascade := cfg.deferReplayCascade
  rotationDisabled := cfg.rotationDisabled

structure ExchangeInput where
  token : String
  clientID : String
  requestedScope : List String
  deriving DecidableEq

structure Exchanged where
  consumedID : String
  clientID : String
  subject : String
  subjectPublic : Bool
  grantID : String
  scope : List String
  boundScope : List String
  resource : String
  origin : RefreshTokenOrigin
  authTime : Time
  acr : String
  amr : List String
  authorizationDetails : List JsonObject
  accessTokenExtra : JsonObject
  claims : JsonObject
  authorizationRecorded : Bool
  consumedAt : Time
  issuedAt : Time
  dpopJKT : String
  mtlsCertThumbprint : String
  nonce : String
  chainID : String
  inGrace : Bool
  deriving DecidableEq

def exchangedFrom (rec : RefreshToken) (scope : List String) : Exchanged :=
  { rec with
    consumedID := rec.id
    scope := scope
    boundScope := rec.scope
    consumedAt := rec.consumedAt.getD 0
    issuedAt := rec.createdAt
    inGrace := false }

/-- `resolveScope`: nothing requested asks for all of the bound scope. -/
def resolveScope (bound requested : List String) : Except RefreshError (List String) :=
  if requested = [] then .ok bound
  else if requested.all (· ∈ bound) then .ok requested
  else .error .scopeWidening

/-- The events the exchanger raises. A detected replay carries a fingerprint of
the presented token. -/
inductive AuditEvent where
  | replayDetected (presentedID : String)
  | chainRevokeFailed (message reason : String)
  deriving DecidableEq

/-- What an exchange leaves behind: its answer and the events it raised. -/
structure Answer where
  result : Except RefreshError Exchanged
  events : List AuditEvent
  deriving DecidableEq

def answer (result : Except RefreshError Exchanged) : Answer := ⟨result, []⟩

/-- `Error()` of the sentinels of `op/store/errors.go`. -/
def errorText : StoreError → String
  | .notFound => "store: record not found"
  | .alreadyExists => "store: record already exists"
  | .alreadyConsumed => "store: record already consumed"
  | .conflict => "store: concurrent modification"
  | .other text => text

def reportRetirement (r : Retirement) : List AuditEvent :=
  (if r.rootUnresolved then
    [.chainRevokeFailed "refresh chain root lookup failed after replay detection"
      (match r.rootErr with
        | some e => errorText e
        | none => "chain_root_lookup_failed")]
  else
    match r.chainErr with
    | some e => [.chainRevokeFailed "refresh chain revoke failed after replay detection"
      (errorText e)]
    | none => []) ++
  if r.grantUnresolved then
    [.chainRevokeFailed "refresh grant lookup failed after replay detection" "grant_lookup_failed"]
  else
    match r.grantErr with
    | some e => [.chainRevokeFailed "refresh grant revoke failed after replay detection"
      (errorText e)]
    | none => []

structure ReplayedChain where
  grantID : String
  chainID : String
  joinedGrant : Bool
  deriving DecidableEq

/-- `revokeChainBestEffort`, with the events it raises. -/
def revokeChainBestEffort (presentedID : String) : Program (ReplayedChain × List AuditEvent) := do
  match ← ask (.find presentedID) with
  | .error err =>
    let r ← retire presentedID ""
    let r := if r.rootUnresolved ∧ r.rootErr = none ∧ err ≠ .notFound
      then { r with rootErr := some err } else r
    pure (⟨"", "", false⟩, reportRetirement r)
  | .ok rec =>
    let r ← retireRecord presentedID rec
    pure (⟨rec.grantID, rec.chainID, joinsForeignGrant rec⟩, reportRetirement r)

/-- `RevokeReplayedChain`: the cascade of a caller that deferred it. -/
def revokeReplayedChain (presentedToken : String) : Program (ReplayedChain × List AuditEvent) :=
  if presentedToken = "" then pure (⟨"", "", false⟩, []) else revokeChainBestEffort presentedToken

namespace Exchanger
variable (e : Exchanger)

/-- `onReplayDetected`: the events of the detection and of an inline cascade. -/
def onReplayDetected (presentedID : String) : Program (List AuditEvent) :=
  if e.deferCascade then pure [.replayDetected presentedID]
  else do
    let cascade ← revokeChainBestEffort presentedID
    pure (.replayDetected presentedID :: cascade.2)

def replayed (presentedID : String) : Program Answer := do
  let events ← e.onReplayDetected presentedID
  pure ⟨.error .tokenReplayed, events⟩

def mapConsumeError (presentedID : String) : StoreError → Program Answer
  | .notFound => pure (answer (.error .tokenMissing))
  | .alreadyConsumed => e.replayed presentedID
  | err => pure (answer (.error (.wrapped "refresh: consume" err)))

def checkRecord (rec : RefreshToken) (input : ExchangeInput) :
    Program (Except RefreshError Exchanged) := do
  let now ← ask .now
  if rec.expiresAt < now then pure (.error .tokenExpired)
  else if rec.clientID ≠ input.clientID then pure (.error .clientMismatch)
  else
    match resolveScope rec.scope input.requestedScope with
    | .error err => pure (.error err)
    | .ok scope => pure (.ok (exchangedFrom rec scope))

def graceExchange (rec : RefreshToken) (input : ExchangeInput) :
    Program (Except RefreshError Exchanged) := do
  match ← checkRecord rec input with
  | .error err => pure (.error err)
  | .ok ex => pure (.ok { ex with inGrace := true })

/-- `withinGraceWindow`: a consumed record, not revoked, not long ago. -/
def withinGraceWindow (rec : RefreshToken) : Program Bool :=
  match rec.consumedAt with
  | none => pure false
  | some consumedAt =>
    if e.graceTTL ≤ 0 ∨ rec.revoked then pure false
    else do
      let now ← ask .now
      pure (decide (0 ≤ now - consumedAt ∧ now - consumedAt ≤ e.graceTTL))

/-- `tryGrace`: no answer means that the window does not apply. -/
def tryGrace (input : ExchangeInput) : Program (Option Answer) :=
  if e.graceTTL ≤ 0 then pure none
  else do
    match ← ask (.find input.token) with
    | .error .notFound => pure none
    | .error err => pure (some (answer (.error (.wrapped "refresh: grace lookup" err))))
    | .ok rec =>
      if ← e.withinGraceWindow rec then
        match ← graceExchange rec input with
        | .error .tokenExpired => pure (some (answer (.error .tokenExpired)))
        | .error _ => return some (← e.replayed input.token)
        | .ok ex => pure (some (answer (.ok ex)))
      else pure none

def exchangeWithoutRotation (input : ExchangeInput) : Program Answer := do
  match ← ask (.find input.token) with
  | .error .notFound => pure (answer (.error .tokenMissing))
  | .error err => pure (answer (.error (.wrapped "refresh: find" err)))
  | .ok rec =>
    if rec.consumedAt ≠ none ∨ rec.revoked then e.mapConsumeError input.token .alreadyConsumed
    else return answer (← checkRecord rec input)

def exchange (input : ExchangeInput) : Program Answer :=
  if input.token = "" then pure (answer (.error .tokenMissing))
  else if e.rotationDisabled then e.exchangeWithoutRotation input
  else do
    match ← ask (.consume input.token) with
    | .consumed rec =>
      if rec.consumedAt = none then
        pure (answer (.error (.other "refresh: store returned record without ConsumedAt")))
      else return answer (← checkRecord rec input)
    | .alreadyConsumed _ =>
      match ← e.tryGrace input with
      | some handled => pure handled
      | none => e.mapConsumeError input.token .alreadyConsumed
    | .failed .alreadyConsumed =>
      match ← e.tryGrace input with
      | some handled => pure handled
      | none => e.mapConsumeError input.token .alreadyConsumed
    | .failed err => e.mapConsumeError input.token err

end Exchanger

end OidcProvider.RefreshGrant
