import OidcProvider.SharedSignals

/-!
# Managing a shared-signals stream

The status, PATCH and PUT handlers of `internal/ssf/mgmt.go`. Each loads the stream, edits
a copy, and stores the whole of it, so a request is two steps on the store with an edit
in between. Authorization, the reading of the body and its JSON syntax come before the
first step; the check of a push endpoint and the sealing of a header are given.
-/
namespace OidcProvider.StreamManagement
open FiniteMaps StoreRecords SharedSignals

/-! ### Request bodies -/

/-- The value of a member, as far as the handlers tell values apart. Null members have
been dropped. -/
inductive Value where
  | text (s : String)
  | texts (l : List String)
  | object (members : List (String × Value))
  | other

abbrev MgmtObject := List (String × Value)

inductive MgmtError where
  | badRequest (text : String)
  | notFound
  | serverError
  deriving DecidableEq

def mgmtString (obj : MgmtObject) (name : String) : Except MgmtError (Option String) :=
  match obj.lookup name with
  | none => .ok none
  | some (.text s) => .ok (some s)
  | some _ => .error (.badRequest (name ++ " must be a string"))

def mgmtStrings (obj : MgmtObject) (name : String) : Except MgmtError (Option (List String)) :=
  match obj.lookup name with
  | none => .ok none
  | some (.texts l) => .ok (some l)
  | some _ => .error (.badRequest (name ++ " must be an array of strings"))

def mgmtStreamID (obj : MgmtObject) : Except MgmtError String := do
  let id ← mgmtString obj "stream_id"
  if id.getD "" = "" then .error (.badRequest "stream_id is required") else .ok (id.getD "")

def mgmtStatus (obj : MgmtObject) : Except MgmtError StreamStatus := do
  match (← mgmtString obj "status").getD "" with
  | "enabled" => .ok .enabled
  | "paused" => .ok .paused
  | "disabled" => .ok .disabled
  | _ => .error (.badRequest "status must be enabled, paused or disabled")

/-! ### Editing the configuration -/

structure Handlers where
  issuer : String
  /-- The text of the refusal, if the endpoint is refused. -/
  checkPushEndpoint : String → Option String

structure Chance where
  order : KeyOrder
  now : Time
  /-- `Sealer.Seal`, with the nonce of this request. -/
  encrypt : String → String → String
  jti : String
  claims : String

def supportedEvents : List String :=
  ["https://schemas.openid.net/secevent/caep/event-type/session-revoked",
    "https://schemas.openid.net/secevent/caep/event-type/credential-change",
    "https://schemas.openid.net/secevent/risc/event-type/account-disabled",
    "https://schemas.openid.net/secevent/risc/event-type/account-enabled",
    "https://schemas.openid.net/secevent/risc/event-type/account-purged",
    "https://schemas.openid.net/secevent/risc/event-type/credential-compromise"]

def mgmtDeliverable (requested : List String) : List String :=
  supportedEvents.filter fun e => decide (e ∈ requested)

def mgmtMaxDescription : ℕ := 256

def mgmtMaxAuthzHeader : ℕ := 4 * 1024

def mgmtTruncate (s : String) (n : ℕ) : String :=
  if s.length ≤ n then s else String.ofList (s.toList.take n)

def mgmtSameSet (a b : List String) : Bool :=
  a.all (fun v => decide (v ∈ b)) && b.all fun v => decide (v ∈ a)

/-- The audience a member names; one string stands for a list of one. -/
def audience : Value → Option (List String)
  | .text s => some [s]
  | .texts l => some l
  | _ => none

def checkAudience (s : Stream) (obj : MgmtObject) : Except MgmtError Unit :=
  match obj.lookup "aud" with
  | none => .ok ()
  | some value =>
    match audience value with
    | none => .error (.badRequest "aud must be a string or an array of strings")
    | some many =>
      if many ≠ [s.clientID] then .error (.badRequest "aud cannot be changed") else .ok ()

def checkImmutable (h : Handlers) (s : Stream) (obj : MgmtObject) : Except MgmtError Unit := do
  let iss ← mgmtString obj "iss"
  if iss.any fun iss => decide (iss ≠ h.issuer) then
    throw (.badRequest "iss cannot be changed")
  checkAudience s obj
  let delivered ← mgmtStrings obj "events_delivered"
  if delivered.any fun delivered => !mgmtSameSet delivered s.eventsDelivered then
    throw (.badRequest "events_delivered cannot be set by the receiver")

structure DeliveryInput where
  method : Option DeliveryMethod
  endpoint : Option String
  header : Option String

def deliveryMethod : Option String → Except MgmtError (Option DeliveryMethod)
  | none => .ok none
  | some "urn:ietf:rfc:8935" => .ok (some .push)
  | some "urn:ietf:rfc:8936" => .ok (some .poll)
  | some _ => .error (.badRequest "delivery.method is not supported")

def mgmtDecodeDelivery : Value → Except MgmtError DeliveryInput
  | .object obj => do
      let method ← deliveryMethod (← mgmtString obj "method")
      let endpoint ← mgmtString obj "endpoint_url"
      let header ← mgmtString obj "authorization_header"
      return ⟨method, endpoint, header⟩
  | _ => .error (.badRequest "delivery must be an object")

def mgmtCheckHeader (v : String) : Except MgmtError Unit :=
  if mgmtMaxAuthzHeader < v.utf8ByteSize then
    .error (.badRequest "delivery.authorization_header is too long")
  else if v.any fun c => decide (c.toNat < 0x20) || decide (c.toNat = 0x7F) then
    .error (.badRequest "delivery.authorization_header contains a control character")
  else .ok ()

def keptDelivery (cur : Option Delivery) : Delivery :=
  match cur with
  | some ⟨.push, endpointURL, header⟩ => ⟨.push, endpointURL, header⟩
  | _ => ⟨.push, "", none⟩

/-- `cur` is none where the source passes an empty delivery. -/
def pushDelivery (h : Handlers) (e : Chance) (streamID : String) (cur : Option Delivery)
    (input : DeliveryInput) : Except MgmtError Delivery :=
  let kept := keptDelivery cur
  let endpoint := input.endpoint.getD kept.endpointURL
  match h.checkPushEndpoint endpoint, input.header with
  | some text, _ => .error (.badRequest text)
  | none, none =>
    if kept.sealedAuthorizationHeader.isSome ∧
        endpoint ≠ (cur.map Delivery.endpointURL).getD "" then
      .error (.badRequest
        "delivery.authorization_header is required when endpoint_url changes")
    else .ok { kept with endpointURL := endpoint }
  | none, some header => do
      mgmtCheckHeader header
      return ⟨.push, endpoint, if header = "" then none else some (e.encrypt streamID header)⟩

def pollDelivery : Delivery := ⟨.poll, "", none⟩

/-- The delivery that the member makes of the current one. -/
def mergedDelivery (h : Handlers) (e : Chance) (s : Stream) (input : DeliveryInput)
    (replace : Bool) : Except MgmtError Delivery :=
  if replace ∧ input.method = none then .error (.badRequest "delivery.method is required")
  else
    match input.method.getD s.delivery.method with
    | .poll => .ok pollDelivery
    | .push => pushDelivery h e s.id (if replace then none else some s.delivery) input

def applyDelivery (h : Handlers) (e : Chance) (s : Stream) (obj : MgmtObject) (replace : Bool) :
    Except MgmtError Stream :=
  match obj.lookup "delivery" with
  | none => .ok (if replace then { s with delivery := pollDelivery } else s)
  | some raw => do
      let input ← mgmtDecodeDelivery raw
      let delivery ← mergedDelivery h e s input replace
      return { s with delivery }

def applyRequested (s : Stream) (requested : Option (List String)) (replace : Bool) : Stream :=
  if requested.isSome ∨ replace then
    { s with
      eventsRequested := requested.getD []
      eventsDelivered := mgmtDeliverable (requested.getD []) }
  else s

def applyDescription (s : Stream) (desc : Option String) (replace : Bool) : Stream :=
  if desc.isSome ∨ replace then
    { s with description := mgmtTruncate (desc.getD "") mgmtMaxDescription }
  else s

def applyConfig (h : Handlers) (e : Chance) (s : Stream) (obj : MgmtObject) (replace : Bool) :
    Except MgmtError Stream := do
  let requested ← mgmtStrings obj "events_requested"
  let desc ← mgmtString obj "description"
  applyDelivery h e (applyDescription (applyRequested s requested replace) desc replace) obj replace

/-! ### Requests -/

inductive Verb where
  | status
  | patch
  | put
  deriving DecidableEq

structure Request where
  verb : Verb
  clientID : String
  body : MgmtObject

/-- What the handler makes of the stream it has loaded: the copy it stores, and whether
it announces a new status. -/
def edit (h : Handlers) (r : Request) (e : Chance) (s : Stream) :
    Except MgmtError (Stream × Bool) :=
  match r.verb with
  | .status => do
      let status ← mgmtStatus r.body
      let reason ← mgmtString r.body "reason"
      return ({ s with status := status, statusReason := reason.getD "", updatedAt := e.now },
        decide (s.status ≠ status))
  | verb => do
      checkImmutable h s r.body
      let next ← applyConfig h e s r.body (decide (verb = .put))
      return ({ next with updatedAt := e.now }, false)

def ownedStream (st : SSFState) (clientID id : String) : Except MgmtError Stream :=
  match st.get id with
  | .error .notFound => .error .notFound
  | .error _ => .error .serverError
  | .ok s => if s.clientID ≠ clientID then .error .notFound else .ok s

def noticeEvent (e : Chance) (s : Stream) : Event where
  jti := e.jti
  streamID := s.id
  kind := .streamUpdated
  delivery := s.delivery.method
  held := false
  claims := e.claims
  attempts := 0
  nextAttemptAt := e.now
  expiresAt := e.now + 7 * 24 * Time.hour

def updateStream (st : SSFState) (e : Chance) (s : Stream) (notice : Bool) :
    SSFState × StoreReply :=
  st.update e.order (some s) (if notice then some (noticeEvent e s) else none)

/-! ### Interleaved requests -/

structure State where
  store : SSFState
  loaded : FiniteMap ℕ (Request × Stream)

inductive Step where
  | load (i : ℕ) (r : Request)
  | save (i : ℕ) (e : Chance)

structure Saved where
  request : Request
  chance : Chance

/-- The outcome of a save: the request that succeeded, over the stream it had loaded. -/
structure Write where
  saved : Saved
  seen : Stream
  store : SSFState

section
variable (h : Handlers)

def loadStep (st : SSFState) (r : Request) : Except MgmtError Stream := do
  let id ← mgmtStreamID r.body
  ownedStream st r.clientID id

/-- The write a save comes to, if the request succeeds. -/
def saveStep (s : State) (i : ℕ) (e : Chance) : Option Write :=
  match s.loaded.lookup i with
  | none => none
  | some (r, seen) =>
    match edit h r e seen with
    | .error _ => none
    | .ok (next, notice) =>
      match updateStream s.store e next notice with
      | (_, .error _) => none
      | (store, .ok ()) => some ⟨⟨r, e⟩, seen, store⟩

def step (s : State) : Step → State
  | .load i r =>
    match loadStep s.store r with
    | .error _ => s
    | .ok seen => { s with loaded := s.loaded.insert i (r, seen) }
  | .save i e =>
    match saveStep h s i e with
    | none => { s with loaded := s.loaded.erase i }
    | some w => ⟨w.store, s.loaded.erase i⟩

def successes : State → List Step → List Saved
  | _, [] => []
  | s, .load i r :: rest => successes (step h s (.load i r)) rest
  | s, .save i e :: rest =>
    ((saveStep h s i e).map Write.saved).toList ++ successes (step h s (.save i e)) rest

/-- No write goes over a stream that is not the one its request had loaded. -/
def Uncrossed (id : String) : State → List Step → Prop
  | _, [] => True
  | s, .load i r :: rest => Uncrossed id (step h s (.load i r)) rest
  | s, .save i e :: rest =>
    (∀ w, saveStep h s i e = some w → s.store.streams.lookup id = some w.seen) ∧
      Uncrossed id (step h s (.save i e)) rest

/-- One request after the other, each on the stream the one before it has left. It fails
where a request would be refused in its turn. -/
def serially : List Saved → Stream → Option Stream
  | [], s => some s
  | a :: rest, s =>
    match edit h a.request a.chance s with
    | .error _ => none
    | .ok (next, _) => serially rest next

end

/-! ### What an edit leaves alone -/

/-- The members of a stream that no configuration names. -/
structure SameStanding (s s' : Stream) : Prop where
  id : s'.id = s.id
  clientID : s'.clientID = s.clientID
  status : s'.status = s.status

variable {s next : Stream} {h : Handlers} {e : Chance}

lemma SameStanding.trans {s s' s'' : Stream} (h : SameStanding s s') (h' : SameStanding s' s'') :
    SameStanding s s'' :=
  ⟨h'.id.trans h.id, h'.clientID.trans h.clientID, h'.status.trans h.status⟩

lemma sameStanding_applyRequested (s : Stream) (requested : Option (List String))
    (replace : Bool) : SameStanding s (applyRequested s requested replace) := by
  unfold applyRequested
  split_ifs <;> exact ⟨rfl, rfl, rfl⟩

lemma sameStanding_applyDescription (s : Stream) (desc : Option String) (replace : Bool) :
    SameStanding s (applyDescription s desc replace) := by
  unfold applyDescription
  split_ifs <;> exact ⟨rfl, rfl, rfl⟩

lemma sameStanding_applyDelivery {obj : MgmtObject} {replace : Bool}
    (hok : applyDelivery h e s obj replace = .ok next) : SameStanding s next := by
  unfold applyDelivery at hok
  split at hok
  · cases hok
    split_ifs <;> exact ⟨rfl, rfl, rfl⟩
  · obtain ⟨input, _, hok⟩ := ok_of_bind hok
    obtain ⟨delivery, _, hok⟩ := ok_of_bind hok
    cases hok
    exact ⟨rfl, rfl, rfl⟩

lemma sameStanding_applyConfig {obj : MgmtObject} {replace : Bool}
    (hok : applyConfig h e s obj replace = .ok next) : SameStanding s next := by
  obtain ⟨requested, _, hok⟩ := ok_of_bind hok
  obtain ⟨desc, _, hok⟩ := ok_of_bind hok
  exact ((sameStanding_applyRequested s requested replace).trans
    (sameStanding_applyDescription _ desc replace)).trans (sameStanding_applyDelivery hok)

def statusAfter (r : Request) (status : StreamStatus) : StreamStatus :=
  match r.verb with
  | .status => (mgmtStatus r.body).toOption.getD status
  | _ => status

lemma edit_ok {r : Request} {notice : Bool} (hok : edit h r e s = .ok (next, notice)) :
    next.id = s.id ∧ next.clientID = s.clientID ∧ next.status = statusAfter r s.status := by
  -- PATCH and PUT share their handler.
  have hconfigured {replace : Bool}
      (hok : (do
        checkImmutable h s r.body
        let next ← applyConfig h e s r.body replace
        return ({ next with updatedAt := e.now }, false)) = Except.ok (next, notice)) :
      SameStanding s next := by
    obtain ⟨_, _, hok⟩ := ok_of_bind hok
    obtain ⟨configured, hconfigured, hok⟩ := ok_of_bind hok
    cases hok
    obtain ⟨hid, hclient, hstatus⟩ := sameStanding_applyConfig hconfigured
    exact ⟨hid, hclient, hstatus⟩
  unfold edit at hok
  unfold statusAfter
  cases hverb : r.verb with
  | status =>
    rw [hverb] at hok
    obtain ⟨status, hstatus, hok⟩ := ok_of_bind hok
    obtain ⟨reason, _, hok⟩ := ok_of_bind hok
    cases hok
    rw [hstatus]
    exact ⟨rfl, rfl, rfl⟩
  | patch =>
    rw [hverb] at hok
    obtain ⟨hid, hclient, hstatus⟩ := hconfigured hok
    exact ⟨hid, hclient, hstatus⟩
  | put =>
    rw [hverb] at hok
    obtain ⟨hid, hclient, hstatus⟩ := hconfigured hok
    exact ⟨hid, hclient, hstatus⟩

/-! ### Uncrossed requests are serial -/

section Serial
variable {h : Handlers} {id : String} {s : State} {cur : Stream} {e : Chance}

/-- The stream is stored under its id, and so is every copy of it. -/
structure Holds (id : String) (s : State) (cur : Stream) : Prop where
  stored : s.store.streams.lookup id = some cur
  named : cur.id = id
  copies : ∀ i r seen, s.loaded.lookup i = some (r, seen) → seen.id = id

lemma loadStep_ok {st : SSFState} {r : Request} {seen : Stream}
    (hbody : mgmtStreamID r.body = .ok id) (hok : loadStep st r = .ok seen) :
    st.streams.lookup id = some seen := by
  unfold loadStep at hok
  rw [hbody] at hok
  change ownedStream st r.clientID id = .ok seen at hok
  unfold ownedStream SSFState.get at hok
  cases hs : st.streams.lookup id with
  | none =>
    rw [hs] at hok
    cases hok
  | some s =>
    rw [hs] at hok
    dsimp only at hok
    split_ifs at hok
    cases hok
    rfl

lemma holds_load (hs : Holds id s cur) (i : ℕ) {r : Request}
    (hbody : mgmtStreamID r.body = .ok id) : Holds id (step h s (.load i r)) cur := by
  unfold step
  dsimp only
  split
  · exact hs
  · rename_i seen hok
    refine ⟨hs.stored, hs.named, ?_⟩
    intro j r' seen' hj
    rw [lookup_insert_ite] at hj
    split_ifs at hj
    · cases hj
      cases (loadStep_ok hbody hok).symm.trans hs.stored
      exact hs.named
    · exact hs.copies j r' seen' hj

lemma saveStep_some {i : ℕ} {w : Write} (hw : saveStep h s i e = some w) :
    ∃ next notice, s.loaded.lookup i = some (w.saved.request, w.seen) ∧ w.saved.chance = e ∧
      edit h w.saved.request e w.seen = .ok (next, notice) ∧
      updateStream s.store e next notice = (w.store, .ok ()) := by
  unfold saveStep at hw
  split at hw
  · cases hw
  · rename_i r seen hloaded
    split at hw
    · cases hw
    · rename_i next notice hedit
      split at hw
      · cases hw
      · rename_i store hupdate
        cases hw
        exact ⟨next, notice, hloaded, rfl, hedit, hupdate⟩

/-- A write over the stream that was loaded is the edit of the stream that is stored. -/
theorem holds_save (hs : Holds id s cur) {i : ℕ} {w : Write} (hw : saveStep h s i e = some w)
    (hseen : s.store.streams.lookup id = some w.seen) :
    ∃ next notice, edit h w.saved.request w.saved.chance cur = .ok (next, notice) ∧
      Holds id (step h s (.save i e)) next := by
  obtain ⟨next, notice, hloaded, hchance, hedit, hupdate⟩ := saveStep_some hw
  cases hseen.symm.trans hs.stored
  obtain ⟨hid, hclient, _⟩ := edit_ok hedit
  have hnext : next.id = id := hid.trans hs.named
  obtain ⟨old, hold, hstreams⟩ := SSFState.streams_update hupdate
  rw [hnext] at hold
  cases hold.symm.trans hseen
  refine ⟨next, notice, hchance ▸ hedit, ?_⟩
  unfold step
  dsimp only
  rw [hw]
  refine ⟨?_, hnext, ?_⟩
  · rw [hstreams, lookup_insert_ite, if_pos hnext.symm, ← hclient]
  · intro j r seen hj
    rw [lookup_erase_ite] at hj
    split_ifs at hj
    exact hs.copies j r seen hj

lemma holds_failed (hs : Holds id s cur) {i : ℕ} (hw : saveStep h s i e = none) :
    Holds id (step h s (.save i e)) cur := by
  unfold step
  dsimp only
  rw [hw]
  refine ⟨hs.stored, hs.named, ?_⟩
  intro j r seen hj
  rw [lookup_erase_ite] at hj
  split_ifs at hj
  exact hs.copies j r seen hj

lemma serially_run (steps : List Step) :
    ∀ {s : State} {cur : Stream}, Holds id s cur →
      (∀ i r, .load i r ∈ steps → mgmtStreamID r.body = .ok id) → Uncrossed h id s steps →
      ∃ final, (steps.foldl (step h) s).store.streams.lookup id = some final ∧
        serially h (successes h s steps) cur = some final := by
  induction steps with
  | nil =>
    intro s cur hs _ _
    exact ⟨cur, hs.stored, rfl⟩
  | cons a rest ih =>
    intro s cur hs hbodies huncrossed
    have hrest : ∀ i r, .load i r ∈ rest → mgmtStreamID r.body = .ok id :=
      fun i r hr => hbodies i r (List.mem_cons_of_mem _ hr)
    cases a with
    | load i r =>
      exact ih (holds_load hs i (hbodies i r List.mem_cons_self)) hrest huncrossed
    | save i e =>
      obtain ⟨hseen, huncrossed⟩ := huncrossed
      rw [successes]
      cases hw : saveStep h s i e with
      | none => exact ih (holds_failed hs hw) hrest huncrossed
      | some w =>
        obtain ⟨next, notice, hedit, hnext⟩ := holds_save hs hw (hseen w hw)
        obtain ⟨final, hfinal, hserial⟩ := ih hnext hrest huncrossed
        refine ⟨final, hfinal, ?_⟩
        rw [Option.map_some, Option.toList_some, List.singleton_append, serially, hedit]
        exact hserial

lemma status_serially (saved : List Saved) :
    ∀ {s final : Stream}, serially h saved s = some final →
      final.status = saved.foldl (fun status a => statusAfter a.request status) s.status := by
  induction saved with
  | nil =>
    intro s final hs
    cases hs
    rfl
  | cons a rest ih =>
    intro s final hs
    unfold serially at hs
    split at hs
    · cases hs
    · rename_i next notice hedit
      rw [ih hs, List.foldl_cons, (edit_ok hedit).2.2]

end Serial

/-- Where no write goes over a stream its request had not loaded, the stream ends as if
the successful requests had run one after another, in the order of their writes. Its
status is then the one the last status request has set. -/
theorem management_serial (h : Handlers) (st : SSFState) (id : String) (s₀ : Stream)
    (hstored : st.streams.lookup id = some s₀) (hnamed : s₀.id = id) (steps : List Step)
    (hbodies : ∀ i r, .load i r ∈ steps → mgmtStreamID r.body = .ok id)
    (huncrossed : Uncrossed h id ⟨st, ∅⟩ steps) :
    ∃ final, (steps.foldl (step h) ⟨st, ∅⟩).store.streams.lookup id = some final ∧
      serially h (successes h ⟨st, ∅⟩ steps) s₀ = some final ∧
      final.status = (successes h ⟨st, ∅⟩ steps).foldl
        (fun status a => statusAfter a.request status) s₀.status := by
  have hholds : Holds id ⟨st, ∅⟩ s₀ := ⟨hstored, hnamed, fun _ _ _ hnone => nomatch hnone⟩
  obtain ⟨final, hfinal, hserial⟩ := serially_run steps hholds hbodies huncrossed
  exact ⟨final, hfinal, hserial, status_serially _ hserial⟩

/-! ### A PATCH across a status request -/

def handlers : Handlers := ⟨"https://op", fun _ => none⟩

def storedStream : SSFState := (newSSFState.create (some (receiverStream .enabled .poll))).1

def chance (now : Time) (jti : String) : Chance where
  order := ascending
  now := now
  encrypt _ header := header
  jti := jti
  claims := ""

def pause : Request := ⟨.status, "rp", [("stream_id", .text "s"), ("status", .text "paused")]⟩

def describe : Request := ⟨.patch, "rp", [("stream_id", .text "s"), ("description", .text "d")]⟩

def inTurn : List Step :=
  [.load 0 describe, .save 0 (chance 2 "a"), .load 1 pause, .save 1 (chance 3 "b")]

/-- The PATCH has loaded the stream before it is paused, and stores it afterwards. -/
def crossed : List Step :=
  [.load 0 describe, .load 1 pause, .save 1 (chance 3 "b"), .save 0 (chance 4 "a")]

lemma bodies_inTurn : ∀ i r, .load i r ∈ inTurn → mgmtStreamID r.body = .ok "s" := by
  intro i r hr
  simp only [inTurn, List.mem_cons, Step.load.injEq, reduceCtorEq, List.not_mem_nil, or_false,
    false_or] at hr
  rcases hr with ⟨_, rfl⟩ | ⟨_, rfl⟩ <;> rfl

lemma uncrossed_inTurn : Uncrossed handlers "s" ⟨storedStream, ∅⟩ inTurn := by
  refine ⟨?_, ?_, trivial⟩
  · rintro w ⟨⟩
    decide +kernel
  · rintro w ⟨⟩
    decide +kernel

theorem management_serial_inTurn :
    ∃ final, (inTurn.foldl (step handlers) ⟨storedStream, ∅⟩).store.streams.lookup "s" =
        some final ∧ final.status = .paused := by
  obtain ⟨final, hfinal, _, hstatus⟩ := management_serial handlers storedStream "s"
    (receiverStream .enabled .poll) (by decide +kernel) rfl inTurn bodies_inTurn uncrossed_inTurn
  refine ⟨final, hfinal, hstatus.trans ?_⟩
  decide +kernel

/-- Both requests succeed, and the stream is enabled again: neither order of the two
gives that. -/
theorem patch_undoes_the_pause :
    (successes handlers ⟨storedStream, ∅⟩ crossed).length = 2 ∧
      ((crossed.foldl (step handlers) ⟨storedStream, ∅⟩).store.streams.lookup "s").map
        Stream.status = some .enabled ∧
      (serially handlers [⟨describe, chance 4 "a"⟩, ⟨pause, chance 3 "b"⟩]
        (receiverStream .enabled .poll)).map Stream.status = some .paused ∧
      (serially handlers [⟨pause, chance 3 "b"⟩, ⟨describe, chance 4 "a"⟩]
        (receiverStream .enabled .poll)).map Stream.status = some .paused := by
  decide +kernel

end OidcProvider.StreamManagement
