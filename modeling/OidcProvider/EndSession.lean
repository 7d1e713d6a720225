import OidcProvider.GrantStore
import OidcProvider.Interference
import OidcProvider.SessionManager
import OidcProvider.Teardown

/-!
# RP-initiated logout

`internal/endsession`: one `/end_session` request after its parameters have been parsed
and its hint verified, from the reading of the session cookie to the teardown of the
grants. The request is a program over the calls of the session manager, the listing of
grants and the calls of a teardown.
-/
namespace OidcProvider.EndSession
open FiniteMaps Interference ResumptionPrograms SessionStore StoreRecords
open SessionManager (ManagerError Payload)

/-! ### Calls -/

inductive Call where
  | session (c : SessionManager.Call)
  | listGrants (subject : String)
  | tokens (c : Teardown.Call)
  deriving DecidableEq

@[reducible] def Call.Reply : Call → Type
  | .session c => c.Reply
  | .listGrants _ => List Grant
  | .tokens c => c.Reply

structure Grants where
  m : GrantStore.GrantMap
  keyed : ∀ id g, m.lookup id = some g → g.id = id

structure World where
  manager : SessionManager.World
  grants : Grants
  substores : Teardown.Substores

/-- What a call leaves open; the clock may move before it. -/
structure Chance where
  elapsed : ℕ
  session : SessionManager.Chance
  tokens : Teardown.Chance

def handle (supply : ℕ → String) (D : KeyDigest) (e : Chance) : (o : Call) → World → World × o.Reply
  | .session c, w =>
    let r := SessionManager.handle supply e.session c (w.manager.advance e.elapsed)
    ({ w with manager := r.1 }, r.2)
  | .listGrants subject, w =>
    ({ w with manager := w.manager.advance e.elapsed },
      GrantStore.listBySubject e.session.order w.grants.m subject)
  | .tokens c, w =>
    let r := Teardown.handle D e.tokens c w.substores
    ({ w with manager := w.manager.advance e.elapsed, substores := r.1 }, r.2)

abbrev Program (A : Type) := Prog Call Call.Reply A

def ask (o : Call) : Program o.Reply := Prog.perform o

def onSessions {A : Type} (p : SessionManager.Program A) : Program A :=
  embed Call.session (fun _ r => r) p

lemma onSessions_snapshotGroup {groupID : String} (h : groupID ≠ "") :
    onSessions (SessionManager.snapshotGroup groupID) =
      Prog.call (Call.session (.listByChooserGroup groupID)) fun rows => .ret (.ok rows) := by
  unfold SessionManager.snapshotGroup
  rw [if_neg h]
  rfl

def onTokens {A : Type} (p : Teardown.Program A) : Program A :=
  embed Call.tokens (fun _ r => r) p

/-! ### The session of the cookie -/

structure SessionFingerprint where
  sessionID : String
  subject : String
  chooserGroupID : String
  deriving DecidableEq

inductive SessionLookup where
  | storeUnavailable
  | absent
  | active (fingerprint : SessionFingerprint)
  deriving DecidableEq

/-- What the answer of `Resolve` proves about the session. -/
def lookupAnswer : Except ManagerError SessionManager.Active → SessionLookup
  | .error .cookieInvalid => .absent
  | .error .currentSessionExpired => .absent
  | .error _ => .storeUnavailable
  | .ok active =>
    .active ⟨active.session.id, active.session.subject, active.session.chooserGroupID⟩

/-- The cookie is `none` if the request carries none, and `some none` if its value does
not decrypt. -/
def readSessionLookup (cookie : Option (Option Payload)) : Program SessionLookup := do
  match cookie with
  | none => return .absent
  | some value =>
    let active ← onSessions (SessionManager.resolve value)
    return lookupAnswer active

/-! ### The gate -/

inductive LogoutScope where
  | all
  | current
  deriving DecidableEq

structure Request where
  cookie : Option (Option Payload)
  idTokenHint : String
  hintSubject : String
  logoutScope : LogoutScope
  /-- A confirmation that passes the other checks of the gate. -/
  confirmed : Bool

structure Deps where
  /-- `SubjectProjector` for the client of the request, which may fail. -/
  subjectProjector : Option (String → Option String)
  grants : Bool
  refreshTokens : Bool
  opaqueAccessTokens : Bool
  accessTokens : Bool
  grantRevocations : Bool
  revocationStrategy : Teardown.AccessTokenRevocationStrategy
  accessTokenTTL : Time

def projectSessionSubject (deps : Deps) (raw : String) : Option String :=
  match deps.subjectProjector with
  | none => some raw
  | some project => (project raw).filter fun projected => decide (projected ≠ "")

def onlySubject (subject : String) : Except ManagerError (List Session) → Bool
  | .error _ => false
  | .ok group => group.all fun row => decide (row.subject = subject)

def scopeTouchesOnlySubject (scope : LogoutScope) (sess : SessionFingerprint) : Program Bool := do
  if scope = .current ∨ sess.chooserGroupID = "" then return true
  else
    let group ← onSessions (SessionManager.snapshotGroup sess.chooserGroupID)
    return onlySubject sess.subject group

def hintAuthorizesSession (deps : Deps) (req : Request) (lookup : SessionLookup) :
    Program Bool := do
  if req.idTokenHint = "" then return false
  else
    match lookup with
    | .absent => return true
    | .storeUnavailable => return false
    | .active sess =>
      if req.hintSubject = "" ∨ sess.subject = "" ∨
          projectSessionSubject deps sess.subject ≠ some req.hintSubject then return false
      else scopeTouchesOnlySubject req.logoutScope sess

/-! ### The termination -/

/-- What the termination worked on and the errors of the session store. -/
structure Termination where
  snapshot : List Session
  sessionErr : List ManagerError

/-- The row that stands for the session of the cookie. -/
def SessionFingerprint.row (sess : SessionFingerprint) : Session where
  id := sess.sessionID
  subject := sess.subject
  authTime := 0
  amr := []
  acr := ""
  chooserGroupID := sess.chooserGroupID
  expiresAt := 0
  createdAt := 0
  updatedAt := 0

def failed {A : Type} : Except ManagerError A → List ManagerError
  | .error e => [e]
  | .ok _ => []

def destroyCurrent (sess : SessionFingerprint) : Program Termination := do
  if sess.chooserGroupID = "" then
    let done ← onSessions (SessionManager.logout sess.sessionID)
    return ⟨[sess.row], failed done⟩
  else
    let removal ← onSessions
      (SessionManager.remove sess.chooserGroupID sess.sessionID sess.sessionID)
    return ⟨[sess.row], failed removal⟩

def destroyRows (snapshot : List Session) : Program Termination := do
  let errs ← onSessions (SessionManager.logoutAllSnapshot snapshot)
  return ⟨snapshot, errs.map Prod.snd⟩

/-- Where the group cannot be read, the current session is logged out alone. -/
def destroyAll (sess : SessionFingerprint) : Program Termination := do
  if sess.chooserGroupID = "" then
    return ⟨[], [.text "endsession: active session has no chooser group"]⟩
  else
    match ← onSessions (SessionManager.snapshotGroup sess.chooserGroupID) with
    | .error e =>
      let done ← onSessions (SessionManager.logout sess.sessionID)
      return ⟨[sess.row], e :: failed done⟩
    | .ok snapshot => destroyRows snapshot

/-- The first row of each subject. -/
def distinctSubjects (seen : List String) : List Session → List Session
  | [] => []
  | row :: rows =>
    if row.subject = "" ∨ row.subject ∈ seen then distinctSubjects seen rows
    else row :: distinctSubjects (row.subject :: seen) rows

def logoutRevoker (deps : Deps) (now : Time) : Teardown.Revoker :=
  Teardown.newRevoker deps.refreshTokens deps.opaqueAccessTokens deps.accessTokens
    deps.grantRevocations deps.revocationStrategy deps.accessTokenTTL now "logout"

def revokeGrants (r : Teardown.Revoker) : List Grant → Program (List Teardown.Failure)
  | [] => pure []
  | g :: grants =>
    if g.id = "" then revokeGrants r grants
    else do
      let out ← onTokens (r.run (Teardown.wholeGrant g.id))
      let rest ← revokeGrants r grants
      return out.failures ++ rest

def revokeAccessTokens (deps : Deps) (subject : String) : Program (List Teardown.Failure) := do
  if deps.grants then
    let grants ← ask (.listGrants subject)
    let now ← ask (.session .now)
    revokeGrants (logoutRevoker deps now) grants
  else return []

def revokeRows (deps : Deps) : List Session → Program (List Teardown.Failure)
  | [] => pure []
  | row :: rows => do
      let failures ← revokeAccessTokens deps row.subject
      let rest ← revokeRows deps rows
      return failures ++ rest

def revokeAccessTokensForSnapshot (deps : Deps) (snapshot : List Session) :
    Program (List Teardown.Failure) :=
  revokeRows deps (distinctSubjects [] snapshot)

/-- The failures of the token cascade are audited and do not fail the logout. -/
def cascade (deps : Deps) (done : Termination) : Program Termination := do
  let _ ← revokeAccessTokensForSnapshot deps done.snapshot
  return done

def terminateSession (deps : Deps) (sess : SessionFingerprint) (scope : LogoutScope) :
    Program Termination :=
  match scope with
  | .current => destroyCurrent sess >>= cascade deps
  | .all => destroyAll sess >>= cascade deps

def terminateSessionForScope (deps : Deps) (lookup : SessionLookup) (scope : LogoutScope) :
    Program Termination := do
  match lookup with
  | .absent => return ⟨[], []⟩
  | .storeUnavailable =>
    return ⟨[], [.text "endsession: session termination could not be confirmed"]⟩
  | .active sess =>
    if sess.sessionID = "" then return ⟨[], []⟩ else terminateSession deps sess scope

inductive Response where
  | unavailable
  | confirmation
  | terminated (done : Termination)

/-- `serve`, from the reading of the cookie on. -/
def admitted (deps : Deps) (req : Request) (lookup : SessionLookup) : Program Response := do
  match lookup with
  | .storeUnavailable => return .unavailable
  | lookup =>
    let authorized ← hintAuthorizesSession deps req lookup
    if authorized || req.confirmed then
      let done ← terminateSessionForScope deps lookup req.logoutScope
      return .terminated done
    else return .confirmation

def serve (deps : Deps) (req : Request) : Program Response := do
  let lookup ← readSessionLookup req.cookie
  admitted deps req lookup

end OidcProvider.EndSession
