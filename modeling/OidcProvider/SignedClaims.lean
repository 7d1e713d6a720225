import OidcProvider.JsonObjects
import OidcProvider.StoreRecords

/-!
# Access tokens as signed claims

`tokens.SignAccessToken` flattens the typed claims and the extra claims of a
token into one map and signs its encoding. `AccessTokenVerifier.Verify` decodes
the payload again and checks the required claims and the two time bounds. The
signature is taken as given: a payload here is one that this provider signed.

The two are not inverse on every token. The extra claims may have any name that
is not literally a standard one, while the decoder folds the case of the names,
so an extra claim can be read as a standard one. `reads_back` says when it is not.
-/
namespace OidcProvider.SignedClaims

open JsonObjects StoreRecords

/-! ## Scope strings -/

/-- `oidcscope.Parse`. -/
def parseScope (s : String) : List String :=
  ((s.toList.splitOn ' ').filter fun p => decide (p ≠ [])).map String.ofList

/-- `oidcscope.Join`. -/
def joinScope (scopes : List String) : String :=
  String.ofList ([' '].intercalate (scopes.map String.toList))

/-- The members of a `cnf` claim; an empty one is absent. -/
structure Confirmation where
  jkt : String
  x5tS256 : String
  deriving DecidableEq

/-- `tokens.AccessTokenClaims`; times are Unix seconds. The confirmation is the
map that `tokens.Confirmation` builds from its two members. -/
structure AccessTokenClaims where
  issuer : String
  subject : String
  audience : List String
  clientID : String
  issuedAt : ℤ
  expiresAt : ℤ
  jti : String
  scope : List String
  authTime : ℤ
  acr : String
  amr : List String
  confirmation : Confirmation
  grantID : String
  authorizationDetails : List Members
  userInfoClaims : Option Members
  extra : JsonMap

def accessTokenStandardKeys : List String :=
  ["iss", "sub", "aud", "client_id", "iat", "exp", "jti", "scope", "auth_time", "acr", "amr",
    "cnf", "gid", "authorization_details", "userinfo_claims"]

def encodeAudience : List String → Json
  | [] => .text ""
  | [aud] => .text aud
  | auds => .array (auds.map .text)

/-- A claim that is left out when its value is the zero value. -/
def omitted (zero : Bool) (name : String) (value : Json) : Members :=
  if zero then [] else [(name, value)]

variable {m : String × Json}

lemma mem_omitted {zero : Bool} {name : String} {value : Json} :
    m ∈ omitted zero name value ↔ zero = false ∧ m = (name, value) := by
  unfold omitted
  split_ifs with h <;> simp [h]

/-- `encodeConfirmation`; the source writes no claim where this is empty. -/
def encodeConfirmation (cnf : Confirmation) : Members :=
  omitted (cnf.jkt = "") "jkt" (.text cnf.jkt) ++
    omitted (cnf.x5tS256 = "") "x5t#S256" (.text cnf.x5tS256)

/-- The claims `mergeAccessTokenClaims` writes before it copies the extra ones. -/
def standardMembers (c : AccessTokenClaims) : Members :=
  [("iss", .text c.issuer), ("sub", .text c.subject), ("aud", encodeAudience c.audience),
    ("client_id", .text c.clientID), ("iat", .number c.issuedAt),
    ("exp", .number c.expiresAt)] ++
  omitted (c.jti = "") "jti" (.text c.jti) ++
  omitted c.scope.isEmpty "scope" (.text (joinScope c.scope)) ++
  omitted (c.authTime = 0) "auth_time" (.number c.authTime) ++
  omitted (c.acr = "") "acr" (.text c.acr) ++
  omitted c.amr.isEmpty "amr" (.array (c.amr.map .text)) ++
  omitted (encodeConfirmation c.confirmation).isEmpty "cnf"
    (.object (encodeConfirmation c.confirmation)) ++
  omitted (c.grantID = "") "gid" (.text c.grantID) ++
  omitted c.authorizationDetails.isEmpty "authorization_details"
    (.array (c.authorizationDetails.map .object)) ++
  omitted c.userInfoClaims.isNone "userinfo_claims" (.object (c.userInfoClaims.getD []))

/-- `mergeAccessTokenClaims` and the encoding of its map. Extra claims never have
a standard name here (`validateNoStandardCollisions`), so copying them over the
standard ones adds them. -/
def mergeAccessTokenClaims (c : AccessTokenClaims) : Members :=
  written (standardMembers c ++ c.extra.members)

def validateNoStandardCollisions (extra : JsonMap) : Bool :=
  extra.members.all fun m => decide (m.1 ∉ accessTokenStandardKeys)

/-- An access token of this provider, by the claims that were signed. -/
structure SignedToken where
  claims : AccessTokenClaims
  subject_ne : claims.subject ≠ ""
  uncollided : validateNoStandardCollisions claims.extra = true

def SignedToken.payload (t : SignedToken) : Members := mergeAccessTokenClaims t.claims

inductive SignError where
  | subjectMissing
  | collision
  deriving DecidableEq

def signAccessToken (c : AccessTokenClaims) : Except SignError SignedToken :=
  if hs : c.subject = "" then .error .subjectMissing
  else if hc : validateNoStandardCollisions c.extra = true then .ok ⟨c, hs, hc⟩
  else .error .collision

lemma signAccessToken_claims {c : AccessTokenClaims} {t : SignedToken}
    (h : signAccessToken c = .ok t) : t.claims = c := by
  unfold signAccessToken at h
  split_ifs at h
  cases h
  rfl

/-! ## Verification -/

def accessTokenWire : List (String × FieldKind) :=
  [("iss", .text), ("sub", .text), ("aud", .raw), ("client_id", .text), ("iat", .number),
    ("exp", .number), ("jti", .text), ("scope", .text), ("auth_time", .number),
    ("acr", .text), ("amr", .texts), ("cnf", .textMap), ("gid", .text),
    ("authorization_details", .objects), ("userinfo_claims", .object)]

def decodeAudience : Option Json → Option (List String)
  | none => some []
  | some .null => some []
  | some (.text aud) => some (if aud = "" then [] else [aud])
  | some (.array items) => if items.all Json.isText then some (items.map Json.textOr) else none
  | some _ => none

structure VerifiedClaims where
  issuer : String
  subject : String
  audience : List String
  clientID : String
  issuedAt : ℤ
  expiresAt : ℤ
  jti : String
  scope : List String
  authTime : ℤ
  confirmation : List (String × String)
  grantID : String
  deriving DecidableEq

def decodeAccessTokenClaims (payload : Members) : Option VerifiedClaims :=
  if decodes accessTokenWire payload then
    (decodeAudience (rawField "aud" payload)).map fun audience =>
      { issuer := textField "iss" payload
        subject := textField "sub" payload
        audience := audience
        clientID := textField "client_id" payload
        issuedAt := numberField "iat" payload
        expiresAt := numberField "exp" payload
        jti := textField "jti" payload
        scope := parseScope (textField "scope" payload)
        authTime := numberField "auth_time" payload
        confirmation := textMapField "cnf" payload
        grantID := textField "gid" payload }
  else none

inductive VerifyError where
  | malformed
  | signature
  | typeMismatch
  | issuerMismatch
  | expired
  deriving DecidableEq

structure AccessTokenVerifier where
  issuer : String
  leeway : ℤ
  requireJTI : Bool
  deriving DecidableEq

namespace AccessTokenVerifier

def requireClaims (v : AccessTokenVerifier) (c : VerifiedClaims) : Bool :=
  decide (c.issuer ≠ "") && decide (c.subject ≠ "") && decide (c.audience ≠ []) &&
    decide (c.clientID ≠ "") && decide (0 < c.issuedAt) && decide (0 < c.expiresAt) &&
    (!v.requireJTI || decide (c.jti ≠ ""))

def accept (v : AccessTokenVerifier) (now : Time) (c : VerifiedClaims) :
    Except VerifyError VerifiedClaims :=
  if v.requireClaims c = false then .error .malformed
  else if v.issuer ≠ "" ∧ c.issuer ≠ v.issuer then .error .issuerMismatch
  else if c.expiresAt * Time.second + v.leeway < now then .error .expired
  else if now + v.leeway < c.issuedAt * Time.second then .error .malformed
  else .ok c

/-- `Verify`, once the signature and the type of the token are checked. -/
def verify (v : AccessTokenVerifier) (now : Time) (payload : Members) :
    Except VerifyError VerifiedClaims :=
  match decodeAccessTokenClaims payload with
  | none => .error .malformed
  | some claims => v.accept now claims

lemma verify_ok {v : AccessTokenVerifier} {now : Time} {payload : Members}
    {c : VerifiedClaims} (h : v.verify now payload = .ok c) :
    decodeAccessTokenClaims payload = some c ∧ v.requireClaims c = true ∧
      now ≤ c.expiresAt * Time.second + v.leeway := by
  unfold verify at h
  cases hd : decodeAccessTokenClaims payload with
  | none => simp [hd] at h
  | some claims =>
    simp only [hd, accept] at h
    split_ifs at h with hclaims _ hexp
    cases h
    exact ⟨rfl, by simpa using hclaims, not_lt.mp hexp⟩

end AccessTokenVerifier

lemma decodeAccessTokenClaims_some {payload : Members} {c : VerifiedClaims}
    (h : decodeAccessTokenClaims payload = some c) :
    c.expiresAt = numberField "exp" payload ∧ c.clientID = textField "client_id" payload ∧
      c.scope = parseScope (textField "scope" payload) ∧
      c.confirmation = textMapField "cnf" payload ∧
      decodeAudience (rawField "aud" payload) = some c.audience := by
  unfold decodeAccessTokenClaims at h
  split_ifs at h with hd
  obtain ⟨audience, haudience, rfl⟩ := Option.map_eq_some_iff.mp h
  exact ⟨rfl, rfl, rfl, rfl, haudience⟩

/-! ## What the verifier reads of a signed token -/

lemma standard_eq_of_reads {field name : String} (hf : field ∈ accessTokenStandardKeys)
    (hn : name ∈ accessTokenStandardKeys) (h : Reads field name) : name = field := by
  have hall : ∀ f ∈ accessTokenStandardKeys, ∀ n ∈ accessTokenStandardKeys,
      Reads f n → n = f := by
    decide +kernel
  exact hall field hf name hn h

lemma standardMembers_keys (c : AccessTokenClaims) :
    ((standardMembers c).map Prod.fst).Sublist accessTokenStandardKeys := by
  have homit : ∀ (zero : Bool) (name : String) (value : Json),
      ((omitted zero name value).map Prod.fst).Sublist [name] := by
    intro zero name value
    cases zero <;> simp [omitted]
  simp only [standardMembers, List.map_append]
  exact ((((((((((List.Sublist.refl _).append (homit _ _ _)).append (homit _ _ _)).append
    (homit _ _ _)).append (homit _ _ _)).append (homit _ _ _)).append (homit _ _ _)).append
    (homit _ _ _)).append (homit _ _ _)).append (homit _ _ _))

lemma standardMembers_unique {c : AccessTokenClaims} {m m' : String × Json}
    (h : m ∈ standardMembers c) (h' : m' ∈ standardMembers c) (hname : m.1 = m'.1) : m = m' := by
  have hnodup : ((standardMembers c).map Prod.fst).Nodup :=
    (standardMembers_keys c).nodup (by decide +kernel)
  exact List.inj_on_of_nodup_map hnodup h h' hname

namespace SignedToken
variable {t : SignedToken}

lemma extra_not_standard (h : m ∈ t.claims.extra.members) :
    m.1 ∉ accessTokenStandardKeys := by
  have hall := t.uncollided
  exact of_decide_eq_true (List.all_eq_true.mp hall m h)

lemma mem_keys (h : m ∈ standardMembers t.claims) :
    m.1 ∈ accessTokenStandardKeys :=
  (standardMembers_keys t.claims).subset (List.mem_map_of_mem h)

/-- A standard claim is read back as signed when no extra claim whose name folds
to its own is written after it. -/
theorem reads_back {field : String} {v : Json} (hmem : (field, v) ∈ standardMembers t.claims)
    (hafter : ∀ m ∈ t.claims.extra.members, Reads field m.1 → m.1 ≤ field) :
    ∃ earlier, assigned field t.payload = earlier ++ [v] := by
  refine assigned_written_last (List.mem_append_left _ hmem) ?_ ?_
  · intro m hm hname
    rcases List.mem_append.mp hm with hm | hm
    · rw [standardMembers_unique hm hmem hname]
    · exact absurd (hname ▸ mem_keys hmem) (extra_not_standard hm)
  · intro m hm hreads
    rcases List.mem_append.mp hm with hm | hm
    · exact le_of_eq (standard_eq_of_reads (mem_keys hmem) (mem_keys hm) hreads)
    · exact hafter m hm hreads

/-- A claim whose name comes after all its variants is read back as signed,
whatever the extra claims are. -/
theorem reads_back_settled {field : String} {v : Json}
    (hmem : (field, v) ∈ standardMembers t.claims) (hs : field.toList.all settled = true) :
    ∃ earlier, assigned field t.payload = earlier ++ [v] :=
  reads_back hmem fun _ _ hreads => le_of_reads hs hreads

lemma exp_read : numberField "exp" t.payload = t.claims.expiresAt := by
  have hmem : ("exp", .number t.claims.expiresAt) ∈ standardMembers t.claims := by
    simp [standardMembers]
  obtain ⟨earlier, h⟩ := reads_back_settled hmem (by decide +kernel)
  exact numberField_of_last h

lemma aud_read : rawField "aud" t.payload = some (encodeAudience t.claims.audience) := by
  have hmem : ("aud", encodeAudience t.claims.audience) ∈ standardMembers t.claims := by
    simp [standardMembers]
  obtain ⟨earlier, h⟩ := reads_back_settled hmem (by decide +kernel)
  exact rawField_of_last h

lemma clientID_read : textField "client_id" t.payload = t.claims.clientID := by
  have hmem : ("client_id", .text t.claims.clientID) ∈ standardMembers t.claims := by
    simp [standardMembers]
  obtain ⟨earlier, h⟩ := reads_back_settled hmem (by decide +kernel)
  exact textField_of_last h

/-- No extra claim is spelled like the scope or the `act` claim in other letter
cases. -/
def Unambiguous (extra : JsonMap) : Prop :=
  ∀ m ∈ extra.members, ¬ Reads "scope" m.1 ∧ (Reads "act" m.1 → m.1 = "act")

lemma scope_read (hplain : Unambiguous t.claims.extra) :
    textField "scope" t.payload = joinScope t.claims.scope := by
  by_cases hs : t.claims.scope = []
  · have hnil : assigned "scope" t.payload = [] := by
      refine assigned_written_eq_nil fun m hm hreads => ?_
      rcases List.mem_append.mp hm with hm | hm
      · have hname : m.1 = "scope" :=
          standard_eq_of_reads (by decide +kernel) (mem_keys hm) hreads
        obtain ⟨name, value⟩ := m
        subst hname
        simp [standardMembers, mem_omitted, hs] at hm
      · exact (hplain m hm).1 hreads
    rw [textField, hnil, hs]
    rfl
  · have hmem : ("scope", .text (joinScope t.claims.scope)) ∈ standardMembers t.claims := by
      simp [standardMembers, mem_omitted, hs]
    obtain ⟨earlier, h⟩ := reads_back hmem fun m hm hreads => absurd hreads (hplain m hm).1
    exact textField_of_last h

lemma act_read (hplain : Unambiguous t.claims.extra) :
    rawField "act" t.payload = t.claims.extra.get "act" := by
  have hstandard : ∀ m ∈ standardMembers t.claims, ¬ Reads "act" m.1 := by
    have hkeys : ∀ n ∈ accessTokenStandardKeys, ¬ Reads "act" n := by decide +kernel
    exact fun m hm => hkeys m.1 (mem_keys hm)
  cases hget : t.claims.extra.get "act" with
  | none =>
    rw [JsonMap.get_eq_none_iff] at hget
    have hnil : assigned "act" t.payload = [] := by
      refine assigned_written_eq_nil fun m hm hreads => ?_
      rcases List.mem_append.mp hm with hm | hm
      · exact hstandard m hm hreads
      · have hname := (hplain m hm).2 hreads
        exact hget m.2 (hname ▸ hm)
    rw [rawField, hnil]
    rfl
  | some v =>
    rw [JsonMap.get_eq_some_iff] at hget
    obtain ⟨earlier, h⟩ : ∃ earlier, assigned "act" t.payload = earlier ++ [v] := by
      refine assigned_written_last (List.mem_append_right _ hget) ?_ ?_
      · intro m hm hname
        rcases List.mem_append.mp hm with hm | hm
        · exact absurd (hname ▸ Reads.refl _) (hstandard m hm)
        · exact JsonMap.value_unique (hname ▸ hm) hget
      · intro m hm hreads
        rcases List.mem_append.mp hm with hm | hm
        · exact absurd hreads (hstandard m hm)
        · exact le_of_eq ((hplain m hm).2 hreads)
    exact rawField_of_last h

end SignedToken

end OidcProvider.SignedClaims
