import Mathlib.Data.Finset.Sort
import OidcProvider.FiniteMaps
import OidcProvider.SignedClaims

/-!
# Dynamic client registration

`internal/registrationendpoint`: `POST /register` admits a client within the scopes of its
initial access token, and `PUT /register/{client_id}` replaces its metadata, held to the same
ceiling through the registration access token. Validation reads a scope text with
`strings.Fields`, which parts it at any white space, and storing reads it with
`oidcscope.Parse`, which parts it at the ASCII space. The members of the metadata that are
only checked and copied are a type parameter, and their checks are given.
-/
namespace OidcProvider.ClientRegistration
open FiniteMaps StoreRecords SignedClaims

/-! ### White space -/

def isSpace (c : Char) : Bool :=
  let n := c.toNat
  decide (9 ≤ n ∧ n ≤ 13) || decide (n = 0x20) || decide (n = 0x85) || decide (n = 0xA0) ||
    decide (n = 0x1680) || decide (0x2000 ≤ n ∧ n ≤ 0x200A) || decide (n = 0x2028) ||
    decide (n = 0x2029) || decide (n = 0x202F) || decide (n = 0x205F) || decide (n = 0x3000)

def fields (s : String) : List String :=
  ((s.toList.splitOnP isSpace).filter fun p => decide (p ≠ [])).map String.ofList

/-- The only white space is the ASCII space. -/
def Plain (s : String) : Prop := ∀ c ∈ s.toList, isSpace c = true → c = ' '

instance (s : String) : Decidable (Plain s) :=
  List.decidableBAll (fun c => isSpace c = true → c = ' ') s.toList

lemma splitOnP_congr {α : Type} {p q : α → Bool} {l : List α} (h : ∀ x ∈ l, p x = q x) :
    l.splitOnP p = l.splitOnP q := by
  induction l with
  | nil => rfl
  | cons x l ih =>
    rw [List.splitOnP_cons_eq_if_modifyHead, List.splitOnP_cons_eq_if_modifyHead,
      h x List.mem_cons_self, ih fun y hy => h y (List.mem_cons_of_mem x hy)]

/-- Where there is no other white space the two readings agree. -/
theorem fields_eq_parseScope {s : String} (h : Plain s) : fields s = parseScope s := by
  have hspace : isSpace ' ' = true := by decide
  have hsplit : s.toList.splitOnP isSpace = s.toList.splitOn ' ' := by
    refine splitOnP_congr fun c hc => ?_
    by_cases hc' : isSpace c = true
    · rw [hc', h c hc hc']
      rfl
    · have hne : c ≠ ' ' := fun he => hc' (he ▸ hspace)
      rw [Bool.eq_false_iff.mpr hc']
      exact (beq_eq_false_iff_ne.mpr hne).symm
  rw [fields, parseScope, hsplit]

lemma mem_part_of_mem {x c : Char} {l : List Char} (h : c ∈ l) (hne : c ≠ x) :
    ∃ part ∈ l.splitOn x, c ∈ part := by
  induction l with
  | nil => cases h
  | cons d l ih =>
    rw [List.splitOn, List.splitOnP_cons_eq_if_modifyHead]
    change ∃ part ∈ if (d == x) = true then [] :: l.splitOn x
      else (l.splitOn x).modifyHead (List.cons d), c ∈ part
    split_ifs with hd
    · have hc : c ∈ l := (List.mem_cons.mp h).resolve_left
        fun he => hne (he.trans (beq_iff_eq.mp hd))
      obtain ⟨part, hpart, hmem⟩ := ih hc
      exact ⟨part, List.mem_cons_of_mem [] hpart, hmem⟩
    · cases hparts : l.splitOn x with
      | nil => exact absurd hparts (List.splitOnP_ne_nil _ _)
      | cons head tail =>
        rw [hparts] at ih
        rcases List.mem_cons.mp h with rfl | hc
        · exact ⟨c :: head, by simp, List.mem_cons_self⟩
        · obtain ⟨part, hpart, hmem⟩ := ih hc
          rcases List.mem_cons.mp hpart with rfl | hpart
          · exact ⟨d :: part, by simp, List.mem_cons_of_mem d hmem⟩
          · exact ⟨part, by simp [hpart], hmem⟩

/-- Other white space ends up inside a stored scope. -/
theorem plain_of_parseScope {s : String}
    (h : ∀ t ∈ parseScope s, ∀ c ∈ t.toList, isSpace c = false) : Plain s := by
  intro c hc hspace
  by_contra hne
  obtain ⟨part, hpart, hmem⟩ := mem_part_of_mem hc hne
  have hscope : String.ofList part ∈ parseScope s := by
    refine List.mem_map.mpr ⟨part, List.mem_filter.mpr ⟨hpart, ?_⟩, rfl⟩
    exact decide_eq_true (List.ne_nil_of_mem hmem)
  have hfree := h _ hscope c (by simpa using hmem)
  rw [hspace] at hfree
  cases hfree

/-! ### The scope catalogue -/

/-- `scoperegistry.Entry`. Nothing checks the identifiers of a restricted scope. -/
structure Entry where
  isPublic : Bool
  allowedClients : List String

structure Registry where
  byName : StringMap Entry

namespace Registry
variable (r : Registry)

def isRegistered (name : String) : Bool := (r.byName.lookup name).isSome

def allows (scope clientID : String) : Bool :=
  match r.byName.lookup scope with
  | none => true
  | some e => e.allowedClients.isEmpty || e.allowedClients.contains clientID

def publicNames : List String :=
  (r.byName.keys.filter fun name => (r.byName.lookup name).any Entry.isPublic).sort (· ≤ ·)

end Registry

/-! ### Records -/

inductive RegistrationError where
  | invalidRedirectURI (text : String)
  | invalidClientMetadata (text : String)
  | invalidSoftwareStatement (text : String)
  | invalidRequest (text : String)
  | invalidToken (text : String)
  | serverError
  deriving DecidableEq

/-- What a check answers: nothing, or the error of the response. -/
abbrev Verdict := Except RegistrationError Unit

/-- `M` stands for the members that are checked and copied as they are. -/
structure ClientMetadata (M : Type) where
  redirectURIs : List String
  grantTypes : List String
  responseTypes : List String
  scope : String
  tokenEndpointAuthMethod : String
  applicationType : String
  subjectType : String
  idTokenSignedResponseAlg : String
  introspectionSignedResponseAlg : String
  rest : M
  deriving DecidableEq

inductive ClientSource where
  | unset
  | static
  | dynamic
  deriving DecidableEq

structure Client (M : Type) where
  id : String
  clientIDIssuedAt : Time
  source : ClientSource
  redirectURIs : List String
  grantTypes : List String
  responseTypes : List String
  scopes : List String
  resources : List String
  tokenEndpointAuthMethod : String
  secretHash : String
  previousSecretHash : String
  previousSecretExpiresAt : Time
  publicClient : Bool
  applicationType : String
  subjectType : String
  idTokenSignedResponseAlg : String
  introspectionSignedResponseAlg : String
  rest : M
  deriving DecidableEq

structure RegistrationAccessToken where
  clientID : String
  hashedValue : String
  allowedScopes : List String
  createdAt : Time
  deriving DecidableEq

structure Deps (M : Type) where
  scopes : Registry
  openRegistrationDefaultScopes : List String
  allowedGrantTypes : List String
  allowedResponseTypes : List String
  pairwiseEnabled : Bool
  signingAlg : String
  authMethods : List String
  mtlsClientAuth : Bool
  /-- The shape of the redirect URIs. -/
  checkRedirectURIs : ClientMetadata M → Verdict
  /-- The rules on TLS matchers, algorithms, keys, other URIs, subject types and ages. -/
  checkMembers : ClientMetadata M → Verdict
  /-- The sector identifier document, and the hook `ValidateMetadata`. -/
  admitMetadata : ClientMetadata M → Verdict

/-- What a request draws at random, and its clock. A secret's hash is never empty. -/
structure Minted where
  clientID : String
  secretHash : String
  secret : secretHash ≠ ""
  ratDigest : String
  now : Time

/-! ### Validation -/

section Policy
variable {M : Type} (deps : Deps M)

def Deps.opAlg : String := if deps.signingAlg = "" then "ES256" else deps.signingAlg

def registrationDefaultScopeNames : List String :=
  deps.scopes.publicNames.filter fun name => deps.scopes.allows name ""

/-- How `POST /register` was admitted. -/
inductive Admission where
  | openRegistration
  | initialAccessToken (allowedScopes : List String)

def iatAllowedScopes : Admission → List String
  | .openRegistration => []
  | .initialAccessToken allowedScopes => allowedScopes

def defaultScopeIfEmpty (scope : String) (admission : Admission) : String :=
  if scope ≠ "" then scope
  else if iatAllowedScopes admission ≠ [] then joinScope (iatAllowedScopes admission)
  else match admission with
    | .openRegistration => joinScope deps.openRegistrationDefaultScopes
    | .initialAccessToken _ => joinScope (registrationDefaultScopeNames deps)

def applyMetadataDefaults (m : ClientMetadata M) : ClientMetadata M :=
  { m with
    grantTypes := if m.grantTypes = [] then ["authorization_code"] else m.grantTypes
    responseTypes := if m.responseTypes = [] then deps.allowedResponseTypes else m.responseTypes
    tokenEndpointAuthMethod :=
      if m.tokenEndpointAuthMethod = "" then "client_secret_basic" else m.tokenEndpointAuthMethod
    subjectType := if m.subjectType = "" then "public" else m.subjectType
    idTokenSignedResponseAlg :=
      if m.idTokenSignedResponseAlg = "" then deps.opAlg else m.idTokenSignedResponseAlg
    applicationType := if m.applicationType = "" then "web" else m.applicationType }

/-- `signedResponseAlgSurface`. -/
structure SignedResponseSurface where
  field : String
  signed : Bool
  unsigned : Bool
  refusal : String

def idTokenSignedResponseSurface : SignedResponseSurface :=
  ⟨"id_token_signed_response_alg", true, false, "the OP always signs an ID Token"⟩

def introspectionSignedResponseSurface : SignedResponseSurface :=
  ⟨"introspection_signed_response_alg", true, true, ""⟩

def validateSignedResponseAlg (surface : SignedResponseSurface) (opAlg alg : String) : Verdict :=
  if alg = "" then .ok ()
  else if alg = "none" then
    ensure surface.unsigned (.invalidClientMetadata
      (surface.field ++ " " ++ alg ++ " is not supported: " ++ surface.refusal))
  else if alg = opAlg then
    ensure surface.signed (.invalidClientMetadata
      (surface.field ++ " " ++ alg ++ " is not supported: " ++ surface.refusal))
  else .error (.invalidClientMetadata
    (surface.field ++ " " ++ alg ++ " is not supported (the OP signs with " ++ opAlg ++ ")"))

def normalizeIntrospectionSignedResponseAlg (alg : String) : String :=
  if alg = "none" then "" else alg

def validateAllowed (field : String) (allowed : List String) : List String → Verdict
  | [] => .ok ()
  | v :: rest =>
    if !allowed.contains v then
      .error (.invalidClientMetadata (field ++ " " ++ v ++ " is not allowed"))
    else validateAllowed field allowed rest

def validateGrantResponseTypeConsistency (grantTypes : List String) : List String → Verdict
  | [] => .ok ()
  | rt :: rest =>
    let tokens := fields rt
    if tokens.contains "code" && !grantTypes.contains "authorization_code" then
      .error (.invalidClientMetadata
        ("response_type " ++ rt ++ " requires grant_type authorization_code"))
    else if (tokens.contains "token" || tokens.contains "id_token") &&
        !grantTypes.contains "implicit" then
      .error (.invalidClientMetadata ("response_type " ++ rt ++ " requires grant_type implicit"))
    else validateGrantResponseTypeConsistency grantTypes rest

def validateProfileAuthMethod (method : String) : Verdict :=
  ensure (deps.authMethods.isEmpty || deps.authMethods.contains method) (.invalidClientMetadata
    ("token_endpoint_auth_method " ++ method ++ " is not allowed by active profile"))

def validateAuthMethod (method : String) : Verdict :=
  if ["client_secret_basic", "client_secret_post", "private_key_jwt", "none"].contains method then
    validateProfileAuthMethod deps method
  else if ["tls_client_auth", "self_signed_tls_client_auth"].contains method &&
      deps.mtlsClientAuth then
    validateProfileAuthMethod deps method
  else .error (.invalidClientMetadata
    ("token_endpoint_auth_method " ++ method ++ " is not supported"))

def validateSubjectType (subjectType : String) : Verdict :=
  if subjectType = "public" then .ok ()
  else if subjectType = "pairwise" then
    ensure deps.pairwiseEnabled
      (.invalidClientMetadata "subject_type pairwise requires WithPairwiseSubject")
  else .error (.invalidClientMetadata ("subject_type " ++ subjectType ++ " is not supported"))

/-- The loop of `validateRequestedScopes`. -/
def validateScopeNames (iatAllowed : List String) : List String → Verdict
  | [] => .ok ()
  | s :: rest =>
    if !iatAllowed.isEmpty && !iatAllowed.contains s then
      .error (.invalidClientMetadata "scope outside IAT allowlist")
    else if !deps.scopes.isRegistered s then
      .error (.invalidClientMetadata ("scope " ++ s ++ " is not registered"))
    else if !deps.scopes.allows s "" then
      .error (.invalidClientMetadata ("scope " ++ s ++ " is restricted to specific clients"))
    else validateScopeNames iatAllowed rest

def validateRequestedScopes (scope : String) (iatAllowed : List String) : Verdict :=
  if scope = "" then .ok () else validateScopeNames deps iatAllowed (fields scope)

/-- The checks of `validatePolicy`, on the metadata with its defaults. -/
def checkPolicy (m : ClientMetadata M) (iatScopes : List String) : Verdict := do
  deps.checkRedirectURIs m
  validateAllowed "grant_type" deps.allowedGrantTypes m.grantTypes
  validateAllowed "response_type" deps.allowedResponseTypes m.responseTypes
  validateGrantResponseTypeConsistency m.grantTypes m.responseTypes
  validateAuthMethod deps m.tokenEndpointAuthMethod
  validateSubjectType deps m.subjectType
  validateSignedResponseAlg idTokenSignedResponseSurface deps.opAlg m.idTokenSignedResponseAlg
  validateRequestedScopes deps m.scope iatScopes
  deps.checkMembers m

def normalized (m : ClientMetadata M) : ClientMetadata M :=
  { m with introspectionSignedResponseAlg :=
      normalizeIntrospectionSignedResponseAlg m.introspectionSignedResponseAlg }

def validatePolicy (m : ClientMetadata M) (iatScopes : List String) :
    Except RegistrationError (ClientMetadata M) := do
  ensure (!m.redirectURIs.isEmpty) (.invalidRedirectURI "redirect_uris is required")
  let canonical := applyMetadataDefaults deps m
  validateSignedResponseAlg introspectionSignedResponseSurface deps.opAlg
    canonical.introspectionSignedResponseAlg
  checkPolicy deps (normalized canonical) iatScopes
  .ok (normalized canonical)

end Policy

/-! ### Registering and updating -/

def isConfidentialAuthMethod (method : String) : Bool :=
  decide (method = "client_secret_basic") || decide (method = "client_secret_post")

def isPublicAuthMethod (method : String) : Bool := decide (method = "none")

section Handlers
variable {M : Type} (deps : Deps M)

def clientFromMetadata (m : ClientMetadata M) (clientID secretHash : String) : Client M where
  id := clientID
  clientIDIssuedAt := 0
  source := .unset
  redirectURIs := m.redirectURIs
  grantTypes := m.grantTypes
  responseTypes := m.responseTypes
  scopes := parseScope m.scope
  resources := []
  tokenEndpointAuthMethod := m.tokenEndpointAuthMethod
  secretHash := secretHash
  previousSecretHash := ""
  previousSecretExpiresAt := 0
  publicClient := isPublicAuthMethod m.tokenEndpointAuthMethod
  applicationType := m.applicationType
  subjectType := m.subjectType
  idTokenSignedResponseAlg := m.idTokenSignedResponseAlg
  introspectionSignedResponseAlg := m.introspectionSignedResponseAlg
  rest := m.rest

/-- The records of a client: it, and the token that manages it. -/
structure Registration (M : Type) where
  client : Client M
  token : RegistrationAccessToken
  deriving DecidableEq

/-- The records `persistRegistration` writes. -/
def newRegistration (m : ClientMetadata M) (minted : Minted) (iatScopes : List String) :
    Registration M where
  client :=
    { clientFromMetadata m minted.clientID
        (if isConfidentialAuthMethod m.tokenEndpointAuthMethod then minted.secretHash else "") with
      clientIDIssuedAt := minted.now, source := .dynamic }
  token := ⟨minted.clientID, minted.ratDigest, iatScopes, minted.now⟩

structure Submission (M : Type) where
  /-- The outcome of the checks on its form, and on the members that are not stored. -/
  wellFormed : Verdict
  metadata : ClientMetadata M
  minted : Minted

/-- `handleRegister`; `consumed` is the outcome of spending the initial access token, without
which the records are removed again. -/
def register (admission : Admission) (consumed : Verdict)
    (post : Submission M) : Except RegistrationError (Registration M) := do
  post.wellFormed
  let canonical ← validatePolicy deps
    { post.metadata with scope := defaultScopeIfEmpty deps post.metadata.scope admission }
    (iatAllowedScopes admission)
  deps.admitMetadata canonical
  consumed
  .ok (newRegistration canonical post.minted (iatAllowedScopes admission))

/-- The hash `secretMaterialForUpdate` decides on. -/
def secretMaterialForUpdate (existing : Client M) (confidential : Bool) (minted : Minted) :
    String :=
  if !confidential then ""
  else if existing.secretHash = "" then minted.secretHash
  else existing.secretHash

def applyMetadataToClient (existing : Client M) (m : ClientMetadata M) (secretHash : String) :
    Client M :=
  { existing with
    introspectionSignedResponseAlg :=
      normalizeIntrospectionSignedResponseAlg m.introspectionSignedResponseAlg
    redirectURIs := m.redirectURIs
    grantTypes := m.grantTypes
    responseTypes := m.responseTypes
    scopes := parseScope m.scope
    tokenEndpointAuthMethod := m.tokenEndpointAuthMethod
    secretHash := secretHash
    -- A secret that was cleared or minted anew takes the one before it along.
    previousSecretHash :=
      if secretHash ≠ existing.secretHash then "" else existing.previousSecretHash
    previousSecretExpiresAt :=
      if secretHash ≠ existing.secretHash then 0 else existing.previousSecretExpiresAt
    publicClient := isPublicAuthMethod m.tokenEndpointAuthMethod
    applicationType := m.applicationType
    subjectType := m.subjectType
    idTokenSignedResponseAlg := m.idTokenSignedResponseAlg
    rest := m.rest }

/-- The records `rotateAndUpdate` writes. -/
def rotated (existing : Registration M) (m : ClientMetadata M) (minted : Minted) :
    Registration M where
  client := applyMetadataToClient existing.client m (secretMaterialForUpdate existing.client
    (isConfidentialAuthMethod m.tokenEndpointAuthMethod) minted)
  token := ⟨existing.client.id, minted.ratDigest, existing.token.allowedScopes, minted.now⟩

/-- `handleUpdate` of a verified request, up to its writes. -/
def update (existing : Registration M) (put : Submission M) :
    Except RegistrationError (Registration M) := do
  put.wellFormed
  let canonical ← validatePolicy deps put.metadata existing.token.allowedScopes
  deps.admitMetadata canonical
  .ok (rotated existing canonical put.minted)

def updates : Registration M → List (Submission M) → Except RegistrationError (Registration M)
  | r, [] => .ok r
  | r, put :: rest => do
      let r' ← update deps r put
      updates r' rest

def lastScope : String → List (Submission M) → String
  | text, [] => text
  | _, put :: rest => lastScope put.metadata.scope rest

end Handlers

/-! ### What validation guarantees -/

section Invariants
variable {M : Type} {deps : Deps M} {ceiling : List String} {existing r : Registration M}

/-- The catalogue has the scope, for every client, and the ceiling does too if there is one. -/
structure Grantable (deps : Deps M) (ceiling : List String) (s : String) : Prop where
  registered : deps.scopes.isRegistered s = true
  unrestricted : ∀ e, deps.scopes.byName.lookup s = some e → e.allowedClients = []
  within : ceiling ≠ [] → s ∈ ceiling

/-- What is checked of a requested scope: a restricted one passes if it lists the empty
client identifier, the one registration asks for. -/
structure Checked (deps : Deps M) (ceiling : List String) (s : String) : Prop where
  registered : deps.scopes.isRegistered s = true
  allowed : deps.scopes.allows s "" = true
  within : ceiling ≠ [] → s ∈ ceiling

/-- No scope of the text is restricted to a list with the empty client identifier. -/
def ListsNoEmpty (deps : Deps M) (text : String) : Prop :=
  ∀ s ∈ fields text, ∀ e ∈ deps.scopes.byName.lookup s, "" ∉ e.allowedClients

lemma Checked.grantable {s : String} (h : Checked deps ceiling s)
    (hlists : ∀ e ∈ deps.scopes.byName.lookup s, "" ∉ e.allowedClients) :
    Grantable deps ceiling s := by
  refine ⟨h.registered, fun e he => ?_, h.within⟩
  have hallowed := h.allowed
  simp only [Registry.allows, he, Bool.or_eq_true, List.isEmpty_iff,
    List.contains_iff_mem] at hallowed
  exact hallowed.resolve_right (hlists e he)

lemma validateScopeNames_ok {ceiling names : List String}
    (h : validateScopeNames deps ceiling names = .ok ()) :
    ∀ s ∈ names, Checked deps ceiling s := by
  induction names with
  | nil => simp
  | cons name names ih =>
    unfold validateScopeNames at h
    split_ifs at h with hceiling hregistered hallows
    intro s hs
    rcases List.mem_cons.mp hs with rfl | hs
    · refine ⟨by simpa using hregistered, by simpa using hallows, fun hne => ?_⟩
      by_contra hnot
      exact hceiling (by simp [hne, hnot])
    · exact ih h s hs

lemma validateRequestedScopes_ok {scope : String}
    (h : validateRequestedScopes deps scope ceiling = .ok ()) :
    ∀ s ∈ fields scope, Checked deps ceiling s := by
  unfold validateRequestedScopes at h
  split_ifs at h with hempty
  · subst hempty
    intro s hs
    cases hs
  · exact validateScopeNames_ok h

lemma validateGrantResponseTypeConsistency_ok {grantTypes responseTypes : List String}
    (h : validateGrantResponseTypeConsistency grantTypes responseTypes = .ok ()) :
    ∀ rt ∈ responseTypes, "code" ∈ fields rt → "authorization_code" ∈ grantTypes := by
  induction responseTypes with
  | nil => simp
  | cons rt responseTypes ih =>
    unfold validateGrantResponseTypeConsistency at h
    dsimp only at h
    split_ifs at h with hcode himplicit
    intro rt' hrt' hmem
    rcases List.mem_cons.mp hrt' with rfl | hrt'
    · by_contra hnot
      exact hcode (by simp [hmem, hnot])
    · exact ih h rt' hrt' hmem

/-- What a metadata that passed the policy has. -/
structure Canonical (deps : Deps M) (ceiling : List String) (text : String)
    (m : ClientMetadata M) : Prop where
  scope : m.scope = text
  scopes : ∀ s ∈ fields text, Checked deps ceiling s
  codes : ∀ rt ∈ m.responseTypes, "code" ∈ fields rt → "authorization_code" ∈ m.grantTypes

lemma validatePolicy_ok {m canonical : ClientMetadata M}
    (h : validatePolicy deps m ceiling = .ok canonical) :
    Canonical deps ceiling m.scope canonical := by
  obtain ⟨_, -, h⟩ := ok_of_bind h
  obtain ⟨_, -, h⟩ := ok_of_bind h
  obtain ⟨_, hpolicy, h⟩ := ok_of_bind h
  cases h
  obtain ⟨_, -, hpolicy⟩ := ok_of_bind hpolicy
  obtain ⟨_, -, hpolicy⟩ := ok_of_bind hpolicy
  obtain ⟨_, -, hpolicy⟩ := ok_of_bind hpolicy
  obtain ⟨_, hcodes, hpolicy⟩ := ok_of_bind hpolicy
  obtain ⟨_, -, hpolicy⟩ := ok_of_bind hpolicy
  obtain ⟨_, -, hpolicy⟩ := ok_of_bind hpolicy
  obtain ⟨_, -, hpolicy⟩ := ok_of_bind hpolicy
  obtain ⟨_, hscopes, hpolicy⟩ := ok_of_bind hpolicy
  exact ⟨rfl, validateRequestedScopes_ok hscopes, validateGrantResponseTypeConsistency_ok hcodes⟩

/-- What the records of a client keep: `text` is the scope text stored last. -/
structure Admitted (deps : Deps M) (ceiling : List String) (text : String)
    (r : Registration M) : Prop where
  scopes : r.client.scopes = parseScope text
  validated : ∀ s ∈ fields text, Checked deps ceiling s
  ceiling : r.token.allowedScopes = ceiling
  secret : r.client.secretHash ≠ "" ↔
    r.client.tokenEndpointAuthMethod = "client_secret_basic" ∨
      r.client.tokenEndpointAuthMethod = "client_secret_post"
  isPublic : r.client.publicClient = true ↔ r.client.tokenEndpointAuthMethod = "none"
  codes : ∀ rt ∈ r.client.responseTypes, "code" ∈ fields rt →
    "authorization_code" ∈ r.client.grantTypes

lemma isConfidentialAuthMethod_iff (method : String) :
    isConfidentialAuthMethod method = true ↔
      method = "client_secret_basic" ∨ method = "client_secret_post" := by
  simp [isConfidentialAuthMethod]

lemma admitted_register {admission : Admission} {consumed : Verdict}
    {post : Submission M} {r : Registration M}
    (h : register deps admission consumed post = .ok r) :
    Admitted deps (iatAllowedScopes admission)
      (defaultScopeIfEmpty deps post.metadata.scope admission) r := by
  obtain ⟨_, -, h⟩ := ok_of_bind h
  obtain ⟨m, hpolicy, h⟩ := ok_of_bind h
  obtain ⟨_, -, h⟩ := ok_of_bind h
  obtain ⟨_, -, h⟩ := ok_of_bind h
  cases h
  have hcanonical := validatePolicy_ok hpolicy
  refine ⟨congrArg parseScope hcanonical.scope, hcanonical.scopes, rfl, ?_, ?_, hcanonical.codes⟩
  · rw [← isConfidentialAuthMethod_iff]
    have hsecret := post.minted.secret
    cases hc : isConfidentialAuthMethod m.tokenEndpointAuthMethod <;>
      simp [newRegistration, clientFromMetadata, hc, hsecret]
  · simp [newRegistration, clientFromMetadata, isPublicAuthMethod]

lemma admitted_update {text : String} (hexisting : Admitted deps ceiling text existing)
    {put : Submission M} (h : update deps existing put = .ok r) :
    Admitted deps ceiling put.metadata.scope r := by
  obtain ⟨_, -, h⟩ := ok_of_bind h
  obtain ⟨m, hpolicy, h⟩ := ok_of_bind h
  obtain ⟨_, -, h⟩ := ok_of_bind h
  cases h
  rw [hexisting.ceiling] at hpolicy
  have hcanonical := validatePolicy_ok hpolicy
  refine ⟨congrArg parseScope hcanonical.scope, hcanonical.scopes, hexisting.ceiling, ?_, ?_,
    hcanonical.codes⟩
  · rw [← isConfidentialAuthMethod_iff]
    have hsecret := put.minted.secret
    cases hc : isConfidentialAuthMethod m.tokenEndpointAuthMethod with
    | false => simp [rotated, applyMetadataToClient, secretMaterialForUpdate, hc]
    | true =>
      by_cases hempty : existing.client.secretHash = "" <;>
        simp [rotated, applyMetadataToClient, secretMaterialForUpdate, hc, hempty, hsecret]
  · simp [rotated, applyMetadataToClient, isPublicAuthMethod]

lemma admitted_updates {puts : List (Submission M)} {text : String}
    (hexisting : Admitted deps ceiling text existing) (h : updates deps existing puts = .ok r) :
    Admitted deps ceiling (lastScope text puts) r := by
  induction puts generalizing text existing with
  | nil =>
    cases h
    exact hexisting
  | cons put puts ih =>
    obtain ⟨r', hput, hrest⟩ := ok_of_bind h
    exact ih (admitted_update hexisting hput) hrest

/-- A previous secret stays only beside the current one. -/
theorem previous_update {put : Submission M} (h : update deps existing put = .ok r)
    (hprevious : r.client.previousSecretHash ≠ "") :
    r.client.secretHash = existing.client.secretHash ∧
      r.client.previousSecretHash = existing.client.previousSecretHash := by
  obtain ⟨_, -, h⟩ := ok_of_bind h
  obtain ⟨m, -, h⟩ := ok_of_bind h
  obtain ⟨_, -, h⟩ := ok_of_bind h
  cases h
  simp only [rotated, applyMetadataToClient] at hprevious ⊢
  split_ifs at hprevious ⊢ with hsame
  · exact absurd rfl hprevious
  · exact ⟨not_not.mp hsame, rfl⟩

end Invariants

/-- A self-registered client through any sequence of updates. Its scopes stay within what it
was admitted for if the scope text stored last has no white space but ASCII spaces and names
no scope restricted to the empty client identifier, and, in a catalogue whose names have no
white space, only then. -/
theorem self_registered_within_admission {M : Type} (deps : Deps M) (admission : Admission)
    (consumed : Verdict) (post : Submission M) (puts : List (Submission M))
    (first last : Registration M) (hpost : register deps admission consumed post = .ok first)
    (hputs : updates deps first puts = .ok last) :
    let text := lastScope (defaultScopeIfEmpty deps post.metadata.scope admission) puts
    (Plain text ∧ ListsNoEmpty deps text →
      ∀ s ∈ last.client.scopes, Grantable deps (iatAllowedScopes admission) s) ∧
    ((∀ name, deps.scopes.isRegistered name = true → ∀ c ∈ name.toList, isSpace c = false) →
      (∀ s ∈ last.client.scopes, Grantable deps (iatAllowedScopes admission) s) →
        Plain text ∧ ListsNoEmpty deps text) ∧
    (last.client.secretHash ≠ "" ↔
      last.client.tokenEndpointAuthMethod = "client_secret_basic" ∨
        last.client.tokenEndpointAuthMethod = "client_secret_post") ∧
    (last.client.publicClient = true ↔ last.client.tokenEndpointAuthMethod = "none") ∧
    (∀ rt ∈ last.client.responseTypes, "code" ∈ fields rt →
      "authorization_code" ∈ last.client.grantTypes) ∧
    ∀ (existing r : Registration M) (put : Submission M), update deps existing put = .ok r →
      r.client.previousSecretHash ≠ "" → r.client.secretHash = existing.client.secretHash := by
  intro text
  have hlast : Admitted deps (iatAllowedScopes admission) text last :=
    admitted_updates (admitted_register hpost) hputs
  refine ⟨fun ⟨hplain, hlists⟩ s hs => ?_, fun hnames hscopes => ?_, hlast.secret,
    hlast.isPublic, hlast.codes, fun existing r put h hprevious => (previous_update h hprevious).1⟩
  · rw [hlast.scopes, ← fields_eq_parseScope hplain] at hs
    exact (hlast.validated s hs).grantable (hlists s hs)
  · rw [hlast.scopes] at hscopes
    have hplain : Plain text := plain_of_parseScope fun s hs => hnames s (hscopes s hs).registered
    refine ⟨hplain, fun s hs e he => ?_⟩
    rw [fields_eq_parseScope hplain] at hs
    rw [(hscopes s hs).unrestricted e he]
    exact List.not_mem_nil

/-! ### A tab in the scope -/

def everyClient : Entry := ⟨true, []⟩

def smallDeps : Deps Unit where
  scopes := ⟨((∅ : StringMap Entry).insert "openid" everyClient).insert "email" everyClient⟩
  openRegistrationDefaultScopes := []
  allowedGrantTypes := ["authorization_code", "refresh_token"]
  allowedResponseTypes := ["code"]
  pairwiseEnabled := false
  signingAlg := ""
  authMethods := []
  mtlsClientAuth := false
  checkRedirectURIs _ := .ok ()
  checkMembers _ := .ok ()
  admitMetadata _ := .ok ()

lemma drawnHash_ne : "hash" ≠ "" := by decide

def submitted (scope : String) : Submission Unit where
  wellFormed := .ok ()
  metadata := ⟨["https://rp/cb"], [], [], scope, "", "", "", "", "", ()⟩
  minted := ⟨"c", "hash", drawnHash_ne, "digest", 1⟩

def admittedFor : Admission := .initialAccessToken ["openid", "email"]

def clientAfter (post : Submission Unit) (puts : List (Submission Unit)) : Option (Client Unit) :=
  match register smallDeps admittedFor (.ok ()) post with
  | .error _ => none
  | .ok r => (updates smallDeps r puts).toOption.map Registration.client

theorem self_registered_within_admission_narrowed :
    ∃ first last, register smallDeps admittedFor (.ok ()) (submitted "") = .ok first ∧
      updates smallDeps first [submitted "email"] = .ok last ∧
      ∀ s ∈ last.client.scopes, Grantable smallDeps ["openid", "email"] s := by
  refine ⟨_, _, rfl, rfl, ?_⟩
  exact (self_registered_within_admission smallDeps admittedFor (.ok ()) (submitted "")
    [submitted "email"] _ _ rfl rfl).1 ⟨by decide +kernel, by unfold ListsNoEmpty; decide +kernel⟩

/-- Each side of the tab is checked, and both are stored as one scope. -/
theorem tab_joins_two_scopes :
    (clientAfter (submitted "openid\temail") []).map Client.scopes = some ["openid\temail"] ∧
      smallDeps.scopes.isRegistered "openid\temail" = false := by
  decide +kernel

end OidcProvider.ClientRegistration
