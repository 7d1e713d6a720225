import OidcProvider.StreamManagement

/-!
# The push credential of a stream

A receiver may hand the transmitter a header to send with every push. `applyDelivery` merges
header and endpoint separately, over the stored pair or over nothing, so that the pairing of the
two is a matter of the whole sequence of create, PATCH and PUT requests. A worker reads endpoint
and header from one stored stream.
-/
namespace OidcProvider.PushCredentials
open StoreRecords SharedSignals StreamManagement

inductive Verb where
  | create
  | patch
  | put
  deriving DecidableEq

/-- An authorized request, with the identifier and the chances it draws. -/
structure Request where
  verb : Verb
  clientID : String
  body : MgmtObject
  newID : String
  chance : Chance

/-- The stream `createStream` starts from; `applyConfig` replaces its delivery. -/
def newStream (r : Request) : Stream where
  id := r.newID
  clientID := r.clientID
  delivery := pollDelivery
  eventsRequested := []
  eventsDelivered := []
  description := ""
  status := .enabled
  statusReason := ""
  createdAt := r.chance.now
  updatedAt := r.chance.now

/-- PATCH and PUT share their handler. -/
def Verb.edit : Verb → StreamManagement.Verb
  | .patch => .patch
  | _ => .put

def respond (h : Handlers) (stored : Option Stream) (r : Request) : Option Stream :=
  match r.verb, stored with
  | .create, some _ => none
  | .create, none => (applyConfig h r.chance (newStream r) r.body true).toOption
  | _, none => none
  | verb, some s =>
    if (mgmtStreamID r.body).toOption = some s.id ∧ r.clientID = s.clientID then
      (edit h ⟨verb.edit, r.clientID, r.body⟩ r.chance s).toOption.map Prod.fst
    else none

/-- The stored stream, and the requests that have succeeded, each with the stream it left. -/
structure State where
  stored : Option Stream
  successes : List (Request × Stream)

def apply (h : Handlers) (σ : State) (r : Request) : State :=
  match respond h σ.stored r with
  | none => σ
  | some s => ⟨some s, σ.successes ++ [(r, s)]⟩

def suppliedHeader (body : MgmtObject) : Option String :=
  match body.lookup "delivery" with
  | some (.object delivery) => ((mgmtString delivery "authorization_header").toOption).join
  | _ => none

/-! ### One request -/

section Requests
variable {h : Handlers} {e : Chance} {s next : Stream} {body : MgmtObject} {replace : Bool}
  {sealedHeader : String}

lemma pushDelivery_sealed {id : String} {cur : Option Delivery} {input : DeliveryInput}
    {delivery : Delivery} (hok : pushDelivery h e id cur input = .ok delivery)
    (hsealed : delivery.sealedAuthorizationHeader = some sealedHeader) :
    (∃ header, input.header = some header ∧ header ≠ "" ∧ sealedHeader = e.encrypt id header) ∨
      ∃ kept, cur = some kept ∧ kept.sealedAuthorizationHeader = some sealedHeader ∧
        kept.endpointURL = delivery.endpointURL := by
  unfold pushDelivery at hok
  dsimp only at hok
  split at hok
  · cases hok
  · unfold keptDelivery at hok
    split_ifs at hok with hmoved
    cases hok
    right
    grind
  · next header _ hheader =>
      obtain ⟨_, _, hok⟩ := ok_of_bind hok
      cases hok
      split_ifs at hsealed with hempty
      exact .inl ⟨header, hheader, hempty, (Option.some.inj hsealed).symm⟩

lemma applyDelivery_sealed (hok : applyDelivery h e s body replace = .ok next)
    (hsealed : next.delivery.sealedAuthorizationHeader = some sealedHeader) :
    (∃ header, suppliedHeader body = some header ∧ header ≠ "" ∧
        sealedHeader = e.encrypt s.id header) ∨
      replace = false ∧ s.delivery.sealedAuthorizationHeader = some sealedHeader ∧
        s.delivery.endpointURL = next.delivery.endpointURL := by
  unfold applyDelivery at hok
  split at hok
  · cases hok
    cases replace with
    | true => cases hsealed
    | false => exact .inr ⟨rfl, hsealed, rfl⟩
  · next raw hraw =>
      obtain ⟨input, hinput, hok⟩ := ok_of_bind hok
      obtain ⟨delivery, hdelivery, hok⟩ := ok_of_bind hok
      cases hok
      have hsupplied : suppliedHeader body = input.header := by
        unfold mgmtDecodeDelivery at hinput
        split at hinput
        · obtain ⟨_, _, hinput⟩ := ok_of_bind hinput
          obtain ⟨_, _, hinput⟩ := ok_of_bind hinput
          obtain ⟨_, _, hinput⟩ := ok_of_bind hinput
          obtain ⟨header, hheader, hinput⟩ := ok_of_bind hinput
          cases hinput
          simp [suppliedHeader, hraw, hheader, Except.toOption]
        · cases hinput
      unfold mergedDelivery at hdelivery
      by_cases hmissing : replace = true ∧ input.method = none
      · rw [if_pos hmissing] at hdelivery
        cases hdelivery
      rw [if_neg hmissing] at hdelivery
      split at hdelivery
      · cases hdelivery
        cases hsealed
      · rcases pushDelivery_sealed hdelivery hsealed with hnew | ⟨kept, hkept, hsame, hendpoint⟩
        · exact .inl (hsupplied ▸ hnew)
        · cases replace with
          | true => cases hkept
          | false =>
            cases hkept
            exact .inr ⟨rfl, hsame, hendpoint⟩

lemma applyConfig_sealed (hok : applyConfig h e s body replace = .ok next)
    (hsealed : next.delivery.sealedAuthorizationHeader = some sealedHeader) :
    (∃ header, suppliedHeader body = some header ∧ header ≠ "" ∧
        sealedHeader = e.encrypt s.id header) ∨
      replace = false ∧ s.delivery.sealedAuthorizationHeader = some sealedHeader ∧
        s.delivery.endpointURL = next.delivery.endpointURL := by
  obtain ⟨requested, _, hok⟩ := ok_of_bind hok
  obtain ⟨desc, _, hok⟩ := ok_of_bind hok
  have hsame := (sameStanding_applyRequested s requested replace).trans
    (sameStanding_applyDescription _ desc replace)
  have hkept : (applyDescription (applyRequested s requested replace) desc replace).delivery =
      s.delivery := by
    unfold applyDescription applyRequested
    split_ifs <;> rfl
  have hcase := applyDelivery_sealed hok hsealed
  rwa [hsame.id, hkept] at hcase

lemma edit_config {verb : Verb} {clientID : String} {edited : Stream × Bool}
    (hok : edit h ⟨verb.edit, clientID, body⟩ e s = .ok edited) :
    ∃ replace configured, applyConfig h e s body replace = .ok configured ∧
      edited.1 = { configured with updatedAt := e.now } := by
  cases verb <;>
  · obtain ⟨_, _, hok⟩ := ok_of_bind hok
    obtain ⟨configured, hconfig, hok⟩ := ok_of_bind hok
    cases hok
    exact ⟨_, configured, hconfig, rfl⟩

lemma respond_sealed {stored : Option Stream} {r : Request} (hr : respond h stored r = some next)
    (hsealed : next.delivery.sealedAuthorizationHeader = some sealedHeader) :
    (∃ header, suppliedHeader r.body = some header ∧ header ≠ "" ∧
        sealedHeader = r.chance.encrypt next.id header) ∨
      ∃ s, stored = some s ∧ s.id = next.id ∧
        s.delivery.sealedAuthorizationHeader = some sealedHeader ∧
        s.delivery.endpointURL = next.delivery.endpointURL := by
  unfold respond at hr
  split at hr
  · cases hr
  · cases hconfig : applyConfig h r.chance (newStream r) r.body true with
    | error err => simp [hconfig, Except.toOption] at hr
    | ok created =>
      simp only [hconfig, Except.toOption, Option.some.injEq] at hr
      subst hr
      rw [(sameStanding_applyConfig hconfig).id]
      exact .inl ((applyConfig_sealed hconfig hsealed).resolve_right nofun)
  · cases hr
  · next s _ =>
      split_ifs at hr
      cases hedit : edit h ⟨r.verb.edit, r.clientID, r.body⟩ r.chance s with
      | error err => simp [hedit, Except.toOption] at hr
      | ok edited =>
        simp only [hedit, Except.toOption, Option.map_some, Option.some.injEq] at hr
        subst hr
        obtain ⟨replace, configured, hconfig, hnext⟩ := edit_config hedit
        rw [hnext] at hsealed ⊢
        have hid := (sameStanding_applyConfig hconfig).id
        rcases applyConfig_sealed hconfig hsealed with hnew | ⟨_, hsame, hendpoint⟩
        · exact .inl (by rwa [← hid] at hnew)
        · exact .inr ⟨s, rfl, hid.symm, hsame, hendpoint⟩

end Requests

/-! ### Sequences of requests -/

/-- The header was supplied with the endpoint, and both have stayed since. -/
def Supplied (successes : List (Request × Stream)) (s : Stream) (sealedHeader : String) : Prop :=
  ∃ before r left after header, successes = before ++ (r, left) :: after ∧
    suppliedHeader r.body = some header ∧ header ≠ "" ∧
    sealedHeader = r.chance.encrypt s.id header ∧
    ∀ p ∈ (r, left) :: after, p.2.delivery.endpointURL = s.delivery.endpointURL ∧
      p.2.delivery.sealedAuthorizationHeader = some sealedHeader

def Traced (σ : State) : Prop :=
  ∀ s sealedHeader, σ.stored = some s →
    s.delivery.sealedAuthorizationHeader = some sealedHeader →
    Supplied σ.successes s sealedHeader

lemma traced_apply {h : Handlers} {σ : State} (hσ : Traced σ) (r : Request) :
    Traced (apply h σ r) := by
  unfold apply
  cases hr : respond h σ.stored r with
  | none => exact hσ
  | some s =>
    intro s' sealedHeader hs' hsealed
    cases hs'
    rcases respond_sealed hr hsealed with ⟨header, hheader, hne, rfl⟩ | ⟨s₀, hs₀, hid, hkept, hsame⟩
    · exact ⟨σ.successes, r, s, [], header, rfl, hheader, hne, rfl, by simp [hsealed]⟩
    · obtain ⟨before, r₀, left, after, header, hlist, hheader, hne, henc, hstay⟩ :=
        hσ s₀ sealedHeader hs₀ hkept
      refine ⟨before, r₀, left, after ++ [(r, s)], header, by simp [hlist], hheader, hne,
        by rw [henc, hid], fun p hp => ?_⟩
      rcases List.mem_append.mp (show p ∈ ((r₀, left) :: after) ++ [(r, s)] from hp) with hp | hp
      · exact ⟨(hstay p hp).1.trans hsame, (hstay p hp).2⟩
      · cases List.mem_singleton.mp hp
        exact ⟨rfl, hsealed⟩

/-- Whatever sequence of requests a stream has met, a header it holds was supplied by a request
that left the present endpoint, and no request since has changed either. -/
theorem push_credential_stays_with_endpoint (h : Handlers) (requests : List Request) :
    Traced (requests.foldl (apply h) ⟨none, []⟩) := by
  induction requests using List.reverseRecOn with
  | nil => exact fun s sealedHeader hs => by cases hs
  | append_singleton requests r ih =>
    rw [List.foldl_append]
    exact traced_apply ih r

end OidcProvider.PushCredentials
