import OidcProvider.ResumptionPrograms
import OidcProvider.SessionStore

/-!
# The session manager

`internal/sessions`: the operations on the sessions of a chooser group, as
programs that call the session store, the clock, the source of random ids and
the cookie codec. A sealed cookie is its payload; a value that does not decrypt is
`none`.
-/
namespace OidcProvider.SessionManager
open FiniteMaps ResumptionPrograms SessionStore StoreRecords

/-! ### Calls -/

structure Payload where
  chooserGroupID : String
  currentSessionID : String
  issuedAt : ℤ
  deriving DecidableEq

/-- How a saved session came about. The store does not see it. -/
inductive Origin where
  | established
  | rotated (oldSessionID : String)
  deriving DecidableEq

inductive Call where
  | now
  | newID
  | encode (payload : Payload)
  | save (origin : Origin) (sess : Session)
  | find (id : String)
  | touch (id : String) (expiresAt updatedAt : Time)
  | delete (id : String)
  | listByChooserGroup (groupID : String)
  deriving DecidableEq

@[reducible] def Call.Reply : Call → Type
  | .now => Time
  | .newID => Option String
  | .encode _ => Option Payload
  | .save _ _ => StoreReply
  | .find _ => Fallible Session
  | .touch _ _ _ => StoreReply
  | .delete _ => StoreReply
  | .listByChooserGroup _ => List Session

/-- The store and the clock, and how many ids have been drawn. -/
structure World where
  sessions : Sessions
  clock : Time
  drawn : ℕ

def World.advance (w : World) (elapsed : ℕ) : World := { w with clock := w.clock + elapsed }

/-- What a call leaves open: the order of a range, and whether the entropy source
answers. -/
structure Chance where
  order : KeyOrder
  entropy : Bool

/-- `Codec.Encode` and `Codec.Decode` refuse these payloads. -/
def Payload.incomplete (p : Payload) : Bool :=
  decide (p.chooserGroupID = "" ∨ p.currentSessionID = "" ∨ p.issuedAt = 0)

/-- The calls, with the ids in the order the source gives them out. -/
def handle (supply : ℕ → String) (e : Chance) : (o : Call) → World → World × o.Reply
  | .now, w => (w, w.clock)
  | .newID, w =>
    if e.entropy then ({ w with drawn := w.drawn + 1 }, some (supply w.drawn)) else (w, none)
  | .encode p, w => (w, if p.incomplete || !e.entropy then none else some p)
  | .save _ sess, w => ({ w with sessions := w.sessions.save e.order w.clock sess }, .ok ())
  | .find id, w => (w, w.sessions.find w.clock id)
  | .touch id expiresAt updatedAt, w =>
    let t := w.sessions.touch w.clock id expiresAt updatedAt
    ({ w with sessions := t.1 }, t.2)
  | .delete id, w =>
    let t := w.sessions.delete w.clock id
    ({ w with sessions := t.1 }, t.2)
  | .listByChooserGroup groupID, w =>
    (w, w.sessions.listByChooserGroup e.order w.clock groupID)

section
variable {supply : ℕ → String} {e : Chance} {o : Call} {w : World}

lemma clock_handle : (handle supply e o w).1.clock = w.clock := by
  cases o with
  | newID =>
    unfold handle
    split_ifs <;> rfl
  | _ => rfl

/-- A row after a call has just been saved, or was there before and has at most been
refreshed while it was live. -/
theorem row_handle {id : String} {rec : Session}
    (h : (handle supply e o w).1.sessions.m.lookup id = some rec) :
    (rec.id = id ∧ ∃ origin, o = .save origin rec) ∨ w.sessions.m.lookup id = some rec ∨
      ∃ row expiresAt updatedAt, o = .touch id expiresAt updatedAt ∧
        w.sessions.m.lookup id = some row ∧ isExpiredStrict row.expiresAt w.clock = false ∧
        rec = { row with expiresAt, updatedAt } := by
  cases o with
  | newID =>
    unfold handle at h
    split_ifs at h <;> exact .inr (.inl h)
  | save origin sess =>
    rcases Sessions.lookup_save _ h with ⟨rfl, rfl⟩ | ⟨_, h⟩
    · exact .inl ⟨rfl, origin, rfl⟩
    · exact .inr (.inl h)
  | touch key expiresAt updatedAt =>
    change (w.sessions.touch w.clock key expiresAt updatedAt).1.m.lookup id = some rec at h
    rcases Sessions.touch_cases w.sessions w.clock key expiresAt updatedAt with
      heq | ⟨row, hrow, hlive, _, hlookup⟩
    · rw [heq] at h
      exact .inr (.inl h)
    · rw [hlookup] at h
      split_ifs at h with hkey
      · cases h
        exact .inr (.inr ⟨row, _, _, hkey ▸ rfl, hkey ▸ hrow, hlive, rfl⟩)
      · exact .inr (.inl h)
  | delete key =>
    change (w.sessions.delete w.clock key).1.m.lookup id = some rec at h
    rw [Sessions.lookup_delete] at h
    split_ifs at h
    exact .inr (.inl h)
  | _ => exact .inr (.inl h)

end

abbrev Program (A : Type) := Prog Call Call.Reply A

def ask (o : Call) : Program o.Reply := Prog.perform o

/-! ### The manager -/

def idleTTLDefault : Time := 14 * 24 * Time.hour
def absoluteTTLDefault : Time := 30 * 24 * Time.hour

structure Config where
  idleTTL : Time
  absoluteTTL : Time

structure Manager where
  idleTTL : Time
  absoluteTTL : Time

/-- `NewManager`: zero means the default, and a negative cap means none. -/
def newManager (cfg : Config) : Manager where
  idleTTL := if cfg.idleTTL = 0 then idleTTLDefault else cfg.idleTTL
  absoluteTTL :=
    if cfg.absoluteTTL = 0 then absoluteTTLDefault else if cfg.absoluteTTL < 0 then 0
    else cfg.absoluteTTL

inductive ManagerError where
  | currentSessionExpired
  | cookieInvalid
  | entropy
  | store (err : StoreError)
  | text (message : String)
  deriving DecidableEq

/-- `time.Time.Unix`, for instants counted from the zero time of Go. -/
def unix (t : Time) : ℤ := t / Time.second - 62135596800

structure Active where
  payload : Payload
  session : Session

structure Outcome where
  cookie : Option Payload
  chooserGroupID : String
  sessionID : String

structure TouchOutcome where
  cookie : Payload
  expiresAt : Time
  updatedAt : Time

structure Removal where
  cookie : Option Payload
  currentSessionID : String
  expiresAt : Time
  remaining : List String

/-- A row that is not there counts as an expired session. -/
def expiredIfMissing {A : Type} : Fallible A → Except ManagerError A
  | .error .notFound => .error .currentSessionExpired
  | .error e => .error (.store e)
  | .ok a => .ok a

lemma lookup_of_found {s : Sessions} {now : Time} {id : String} {sess : Session}
    (h : expiredIfMissing (s.find now id) = .ok sess) : s.m.lookup id = some sess := by
  cases hfind : s.find now id with
  | error e =>
    rw [hfind, Sessions.find_eq_error _ hfind] at h
    cases h
  | ok rec =>
    rw [hfind] at h
    cases h
    exact ((Sessions.find_eq_ok _).mp hfind).1

def findSession (id : String) : Program (Except ManagerError Session) := do
  let found ← ask (.find id)
  return expiredIfMissing found

def sessionExpired (expiresAt now : Time) : Bool := decide (expiresAt ≠ 0 ∧ expiresAt ≤ now)

def resolve (cookie : Option Payload) : Program (Except ManagerError Active) := do
  match cookie.filter fun p => !p.incomplete with
  | none => return .error .cookieInvalid
  | some payload =>
    match ← findSession payload.currentSessionID with
    | .error e => return .error e
    | .ok sess =>
      if sess.chooserGroupID ≠ payload.chooserGroupID then return .error .cookieInvalid
      else
        let now ← ask .now
        if sessionExpired sess.expiresAt now then return .error .currentSessionExpired
        else return .ok ⟨payload, sess⟩

/-- `Manager.seal`. -/
def encode (chooserGroupID currentSessionID : String) (issuedAt : ℤ) :
    Program (Except ManagerError Payload) := do
  let sealed ← ask (.encode ⟨chooserGroupID, currentSessionID, issuedAt⟩)
  return sealed.elim (.error .entropy) .ok

/-- A `Delete` that finds nothing counts as done. -/
def doneIfMissing : StoreReply → Except ManagerError Unit
  | .error .notFound => .ok ()
  | .error e => .error (.store e)
  | .ok () => .ok ()

def deleteQuietly (id : String) : Program (Except ManagerError Unit) := do
  let deleted ← ask (.delete id)
  return doneIfMissing deleted

section
variable (m : Manager)

def refreshedExpiry (sess : Session) (now : Time) : Time :=
  if 0 < m.absoluteTTL ∧ sess.createdAt + m.absoluteTTL < now + m.idleTTL then
    sess.createdAt + m.absoluteTTL
  else now + m.idleTTL

def touch (sessionID : String) : Program (Except ManagerError Unit) := do
  let now ← ask .now
  match ← findSession sessionID with
  | .error e => return .error e
  | .ok sess =>
    if 0 < m.absoluteTTL ∧ sess.createdAt + m.absoluteTTL ≤ now then
      match ← deleteQuietly sessionID with
      | .error e => return .error e
      | .ok () => return .error .currentSessionExpired
    else
      let touched ← ask (.touch sessionID (refreshedExpiry m sess now) now)
      return expiredIfMissing touched

def touchAndReissue (active : Option Active) : Program (Except ManagerError TouchOutcome) := do
  match active with
  | none => return .error (.text "sessions: TouchAndReissue requires active session")
  | some active =>
    if active.payload.chooserGroupID = "" ∨ active.payload.currentSessionID = "" ∨
        active.session.id ≠ active.payload.currentSessionID ∨
        active.session.chooserGroupID ≠ active.payload.chooserGroupID then
      return .error .cookieInvalid
    else
      match ← touch m active.session.id with
      | .error e => return .error e
      | .ok () =>
        match ← findSession active.session.id with
        | .error e => return .error e
        | .ok sess =>
          let now ← ask .now
          match ← encode active.payload.chooserGroupID active.payload.currentSessionID
              (unix now) with
          | .error e => return .error e
          | .ok cookie => return .ok ⟨cookie, sess.expiresAt, sess.updatedAt⟩

/-- The session `Rotate` saves: the creation time is carried over, and the expiry is
not held down to the cap. -/
def rotatedSession (sess : Session) (newID : String) (now : Time) : Session where
  id := newID
  subject := sess.subject
  authTime := sess.authTime
  amr := sess.amr
  acr := sess.acr
  chooserGroupID := sess.chooserGroupID
  expiresAt := now + m.idleTTL
  createdAt := sess.createdAt
  updatedAt := now

def rotate (oldSessionID : String) : Program (Except ManagerError Outcome) := do
  if oldSessionID = "" then return .error (.text "sessions: Rotate requires oldSessionID")
  else
    match ← findSession oldSessionID with
    | .error e => return .error e
    | .ok sess =>
      let now ← ask .now
      match ← ask .newID with
      | none => return .error .entropy
      | some newID =>
        match ← ask (.save (.rotated oldSessionID) (rotatedSession m sess newID now)) with
        | .error e => return .error (.store e)
        | .ok () =>
          match ← deleteQuietly oldSessionID with
          | .error e => return .error e
          | .ok () =>
            match ← encode sess.chooserGroupID newID (unix now) with
            | .error e => return .error e
            | .ok cookie => return .ok ⟨some cookie, sess.chooserGroupID, newID⟩

end

def logout (sessionID : String) : Program (Except ManagerError Unit) := deleteQuietly sessionID

def switch (chooserGroupID targetSessionID : String) : Program (Except ManagerError Outcome) := do
  if chooserGroupID = "" ∨ targetSessionID = "" then
    return .error (.text "sessions: Switch requires ChooserGroupID and SessionID")
  else
    match ← findSession targetSessionID with
    | .error e => return .error e
    | .ok sess =>
      if sess.chooserGroupID ≠ chooserGroupID then return .error .cookieInvalid
      else
        let now ← ask .now
        match ← encode chooserGroupID targetSessionID (unix now) with
        | .error e => return .error e
        | .ok cookie => return .ok ⟨some cookie, chooserGroupID, targetSessionID⟩

def mostRecent (best : Session) (rest : List Session) : Session :=
  rest.foldl (fun best s => if best.updatedAt < s.updatedAt then s else best) best

/-- Whether `Remove` refuses to delete what it has found under the id. -/
def foreign (chooserGroupID : String) : Fallible Session → Option ManagerError
  | .ok target => if target.chooserGroupID ≠ chooserGroupID then some .cookieInvalid else none
  | .error .notFound => none
  | .error e => some (.store e)

/-- The end of `Remove`: a removed current account hands over to the most recent one. -/
def rebind (chooserGroupID currentSessionID removeID : String) (remaining : List Session) :
    Program (Except ManagerError Removal) := do
  match remaining with
  | [] => return .ok ⟨none, "", 0, []⟩
  | first :: rest =>
    if removeID ≠ currentSessionID then return .ok ⟨none, "", 0, remaining.map (·.id)⟩
    else
      let next := mostRecent first rest
      let now ← ask .now
      match ← encode chooserGroupID next.id (unix now) with
      | .error e => return .error e
      | .ok cookie =>
        return .ok ⟨some cookie, next.id, next.expiresAt, remaining.map (·.id)⟩

def removeChecked (chooserGroupID currentSessionID removeID : String) :
    Option ManagerError → Program (Except ManagerError Removal)
  | some e => pure (.error e)
  | none => do
      match ← deleteQuietly removeID with
      | .error e => return .error e
      | .ok () =>
        let remaining ← ask (.listByChooserGroup chooserGroupID)
        rebind chooserGroupID currentSessionID removeID remaining

def remove (chooserGroupID currentSessionID removeID : String) :
    Program (Except ManagerError Removal) := do
  if chooserGroupID = "" ∨ removeID = "" then
    return .error (.text "sessions: Remove requires ChooserGroupID and removeID")
  else
    let target ← ask (.find removeID)
    removeChecked chooserGroupID currentSessionID removeID (foreign chooserGroupID target)

def snapshotGroup (chooserGroupID : String) : Program (Except ManagerError (List Session)) := do
  if chooserGroupID = "" then
    return .error (.text "sessions: SnapshotGroup requires ChooserGroupID")
  else return .ok (← ask (.listByChooserGroup chooserGroupID))

/-- `LogoutAllSnapshot`: the failures do not keep the other rows from being deleted. -/
def logoutAllSnapshot : List Session → Program (List (String × ManagerError))
  | [] => pure []
  | sess :: rest =>
    if sess.id = "" then logoutAllSnapshot rest
    else do
      match ← deleteQuietly sess.id with
      | .error e => return (sess.id, e) :: (← logoutAllSnapshot rest)
      | .ok () => logoutAllSnapshot rest

/-! ### Establishing a session -/

structure Login where
  subject : String
  authTime : Time
  amr : List String
  acr : String

inductive EstablishMode where
  | reuse
  | issue
  | rotate
  | addAccount
  | switch
  deriving DecidableEq

structure Establishment where
  mode : EstablishMode
  record : Session
  previousSessionID : String

structure EstablishPlan where
  active : Option Active
  login : Login
  freshAuthn : Bool
  stableSessionID : String
  stableChooserGroupID : String
  chooserGroupID : String
  chooserSelectedSessionID : String
  chooserAddAccount : Bool
  chooserAddAccountGroupID : String
  now : Time

section
variable (m : Manager)

def planFromSession (plan : EstablishPlan) (base : Session) (keep : EstablishMode) :
    Establishment :=
  if plan.freshAuthn then
    { mode := .rotate
      record :=
        { base with
          id := plan.stableSessionID
          authTime := plan.login.authTime
          amr := plan.login.amr
          acr := plan.login.acr
          expiresAt := plan.now + m.idleTTL
          createdAt := plan.now
          updatedAt := plan.now }
      previousSessionID := base.id }
  else ⟨keep, base, ""⟩

def findChooserSelection (plan : EstablishPlan) : Program (Except ManagerError Session) := do
  match ← findSession plan.chooserSelectedSessionID with
  | .error e => return .error e
  | .ok target =>
    if target.id ≠ plan.chooserSelectedSessionID ∨ target.subject ≠ plan.login.subject ∨
        target.chooserGroupID ≠ plan.chooserGroupID then return .error .cookieInvalid
    else return .ok target

/-- A plan for a session of its own. -/
def planIssue (plan : EstablishPlan) : Except ManagerError Establishment :=
  let joins := plan.chooserAddAccount && decide (plan.chooserAddAccountGroupID ≠ "")
  let groupID := if joins then plan.chooserAddAccountGroupID else plan.stableChooserGroupID
  if plan.stableSessionID = "" ∨ groupID = "" ∨ plan.login.subject = "" then
    .error (.text "sessions: stable SessionID, ChooserGroupID, and Subject required")
  else
    .ok
      { mode := if joins then .addAccount else .issue
        record :=
          { id := plan.stableSessionID
            subject := plan.login.subject
            authTime := plan.login.authTime
            amr := plan.login.amr
            acr := plan.login.acr
            chooserGroupID := groupID
            expiresAt := plan.now + m.idleTTL
            createdAt := plan.now
            updatedAt := plan.now }
        previousSessionID := "" }

def planEstablishment (plan : EstablishPlan) : Program (Except ManagerError Establishment) := do
  match plan.active.filter fun active => active.session.subject = plan.login.subject with
  | some active => return .ok (planFromSession m plan active.session .reuse)
  | none =>
    if plan.chooserGroupID ≠ "" ∧ plan.chooserSelectedSessionID ≠ "" then
      match ← findChooserSelection plan with
      | .error e => return .error e
      | .ok target => return .ok (planFromSession m plan target .switch)
    else return planIssue m plan

end

def validateEstablishment (e : Establishment) : Except ManagerError Unit :=
  if e.record.id = "" ∨ e.record.chooserGroupID = "" then
    .error (.text "sessions: Establish requires SessionID and ChooserGroupID")
  else if e.mode = .rotate ∧
      (e.previousSessionID = "" ∨ e.previousSessionID = e.record.id) then
    .error (.text "sessions: Establish rotate requires a distinct previous SessionID")
  else .ok ()

/-- `sameStableSession`, of what has been found. -/
def sameStableSession (expected : Session) : Fallible Session → Fallible Bool
  | .error e => .error e
  | .ok actual => .ok (decide (actual = expected))

def validateStableSession (expected : Session) : Program (Fallible Bool) := do
  let actual ← ask (.find expected.id)
  return sameStableSession expected actual

def errCollision : ManagerError := .text "sessions: stable SessionID collision"

/-- What `validateStableSession` answers, as the error of its caller. -/
def stableAnswer : Fallible Bool → Except ManagerError Unit
  | .error e => .error (.store e)
  | .ok false => .error errCollision
  | .ok true => .ok ()

def saveStable (expected : Session) : Fallible Bool → Program (Except ManagerError Unit)
  | .error .notFound => do
      match ← ask (.save .established expected) with
      | .error .alreadyExists => return stableAnswer (← validateStableSession expected)
      | .error e => return .error (.store e)
      | .ok () => return .ok ()
  | answer => pure (stableAnswer answer)

def ensureStableSession (expected : Session) : Program (Except ManagerError Unit) := do
  let answer ← validateStableSession expected
  saveStable expected answer

def sealEstablished (e : Establishment) : Program (Except ManagerError Outcome) := do
  match ← encode e.record.chooserGroupID e.record.id (unix e.record.updatedAt) with
  | .error err => return .error err
  | .ok cookie => return .ok ⟨some cookie, e.record.chooserGroupID, e.record.id⟩

def establish (e : Establishment) : Program (Except ManagerError Outcome) := do
  match validateEstablishment e with
  | .error err => return .error err
  | .ok () =>
    match e.mode with
    | .reuse => return .ok ⟨none, e.record.chooserGroupID, e.record.id⟩
    | .switch =>
      match stableAnswer (← validateStableSession e.record) with
      | .error err => return .error err
      | .ok () => sealEstablished e
    | .issue | .addAccount =>
      match ← ensureStableSession e.record with
      | .error err => return .error err
      | .ok () => sealEstablished e
    | .rotate =>
      match ← ensureStableSession e.record with
      | .error err => return .error err
      | .ok () =>
        match ← deleteQuietly e.previousSessionID with
        | .error err => return .error err
        | .ok () => sealEstablished e

end OidcProvider.SessionManager
