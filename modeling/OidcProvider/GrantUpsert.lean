import OidcProvider.GrantStore

/-!
# Amending grants

`internal/authorizeendpoint/grant_upsert.go`: what an authorization writes to the grant
of its subject and client. The calls run inside one transaction, so an upsert is a
function of the grants. A list that Go may leave nil is the empty list, which none of
these functions tells apart from it.
-/
namespace OidcProvider.GrantUpsert
open FiniteMaps StoreRecords GrantStore

/-- The Grant Management action of the request; the empty string is the ordinary
upsert. -/
inductive GMAction where
  | ordinary
  | create
  | replace
  | merge
  deriving DecidableEq

structure Input where
  subject : String
  clientID : String
  scope : List String
  authTime : Time
  acr : String
  amr : List String
  declinedScope : List String
  /-- `EncodeClaimsToGrant` of the claims request, which may be nil. -/
  claims : Option JsonObject
  authorizationDetails : List JsonObject
  gmAction : GMAction
  gmGrantID : String
  newGrantID : String
  now : Time

inductive UpsertError where
  | grantNotOwned
  | entropy
  | text (message : String)
  deriving DecidableEq

/-- The base with those of the added elements that are missing, once each. -/
def appendMissing {A : Type} [DecidableEq A] (base add : List A) : List A :=
  add.foldl (fun out el => if el ∈ out then out else out ++ [el]) base

lemma mem_appendMissing {A : Type} [DecidableEq A] (base add : List A) (el : A) :
    el ∈ appendMissing base add ↔ el ∈ base ∨ el ∈ add := by
  unfold appendMissing
  induction add generalizing base with
  | nil => simp
  | cons a add ih =>
    rw [List.foldl_cons, ih]
    split_ifs with ha
    · rw [List.mem_cons]
      constructor
      · exact fun h => h.imp_right .inr
      · rintro (h | rfl | h)
        · exact .inl h
        · exact .inl ha
        · exact .inr h
    · rw [List.mem_append, List.mem_singleton, List.mem_cons, or_assoc]

/-- `oidcscope.Union`. -/
def unionScopes (base add : List String) : List String := appendMissing base add

/-- Elements are compared with `reflect.DeepEqual`. -/
def appendAuthorizationDetails (base add : List JsonObject) : List JsonObject :=
  appendMissing base add

def removeScopes (base drop : List String) : List String := base.filter fun s => !decide (s ∈ drop)

/-- A context that names nothing is not written through. -/
def stampReusedGrantAuthContext (g : Grant) (i : Input) : Grant :=
  if i.authTime = 0 ∧ i.acr = "" ∧ i.amr = [] then g
  else { g with authTime := i.authTime, acr := i.acr, amr := i.amr }

def reusedGrant (existing : Grant) (i : Input) : Grant :=
  let stamped := stampReusedGrantAuthContext existing i
  { stamped with
    scope := unionScopes (removeScopes existing.scope i.declinedScope) i.scope
    updatedAt := i.now
    claims := i.claims.getD existing.claims
    authorizationDetails :=
      appendAuthorizationDetails existing.authorizationDetails i.authorizationDetails }

def newGrant (grantID : String) (i : Input) : Grant where
  id := grantID
  subject := i.subject
  clientID := i.clientID
  scope := i.scope
  claims := i.claims.getD []
  authTime := i.authTime
  acr := i.acr
  amr := i.amr
  authorizationDetails := i.authorizationDetails
  createdAt := i.now
  updatedAt := i.now

def managedGrant (g : Grant) (i : Input) : Grant :=
  let stamped := stampReusedGrantAuthContext g i
  { stamped with
    scope := if i.gmAction = .replace then i.scope else unionScopes g.scope i.scope
    authorizationDetails :=
      if i.gmAction = .replace then i.authorizationDetails
      else appendAuthorizationDetails g.authorizationDetails i.authorizationDetails
    claims := i.claims.getD g.claims
    updatedAt := i.now }

/-- What an upsert leaves open: the order of a range, and the random id, which may be
unavailable. -/
structure Chance where
  order : KeyOrder
  random : Option String

section
variable (e : Chance) (m : GrantMap) (i : Input)

/-- The id of a new grant: the one the caller derived, or a random one. -/
def grantIDFor : Option String := if i.newGrantID = "" then e.random else some i.newGrantID

def createGrant : GrantMap × Except UpsertError Grant :=
  match grantIDFor e i with
  | none => (m, .error .entropy)
  | some grantID => (m.insert grantID (newGrant grantID i), .ok (newGrant grantID i))

/-- `checkLookedUpGrant`. -/
def mismatched (g : Grant) (subject clientID : String) : Bool :=
  decide (g.id = "" ∨ g.subject ≠ subject ∨ g.clientID ≠ clientID)

def reuseOrCreateGrant : GrantMap × Except UpsertError Grant :=
  match findBySubjectClient e.order m i.subject i.clientID with
  | .error .notFound => createGrant e m i
  | .error _ => (m, .error (.text "authorizeendpoint: find reusable grant"))
  | .ok existing =>
    if mismatched existing i.subject i.clientID then
      (m, .error
        (.text "authorizeendpoint: reusable grant lookup returned mismatched record"))
    else (m.insert existing.id (reusedGrant existing i), .ok (reusedGrant existing i))

def mutateManagedGrant : GrantMap × Except UpsertError Grant :=
  match find m i.gmGrantID with
  | .error .notFound => (m, .error .grantNotOwned)
  | .error _ => (m, .error (.text "authorizeendpoint: find managed grant"))
  | .ok g =>
    if g.id = "" ∨ g.id ≠ i.gmGrantID then
      (m, .error (.text "authorizeendpoint: managed grant lookup returned mismatched record"))
    else if g.clientID ≠ i.clientID ∨ g.subject ≠ i.subject then (m, .error .grantNotOwned)
    else (m.insert g.id (managedGrant g i), .ok (managedGrant g i))

def upsertGrant : GrantMap × Except UpsertError Grant :=
  match i.gmAction with
  | .replace | .merge => mutateManagedGrant m i
  | .create => createGrant e m i
  | .ordinary => reuseOrCreateGrant e m i

end

/-! ### What an upsert does to the grants -/

def Keyed (m : GrantMap) : Prop := ∀ id g, m.lookup id = some g → g.id = id

variable {m : GrantMap} {g : Grant}

lemma findBySubjectClient_ok {ρ : KeyOrder} (hm : Keyed m) {subject clientID : String}
    (h : findBySubjectClient ρ m subject clientID = .ok g) :
    m.lookup g.id = some g ∧ g.subject = subject ∧ g.clientID = clientID := by
  have hlatest : Latest subject clientID (rows ρ m)
      ((rows ρ m).foldl (keepLatest subject clientID) none) := by
    have hnone : Latest subject clientID [] none := fun _ => nofun
    simpa using latest_foldl hnone (rows ρ m)
  unfold findBySubjectClient at h
  cases hbest : (rows ρ m).foldl (keepLatest subject clientID) none with
  | none =>
    rw [hbest] at h
    cases h
  | some best =>
    rw [hbest] at h hlatest
    cases h
    obtain ⟨hmem, hsubject, hclient, _⟩ := hlatest
    obtain ⟨⟨id, g'⟩, hpair, rfl⟩ := List.mem_map.mp hmem
    have hlookup := (mem_pairs ρ m id g').mp hpair
    refine ⟨?_, hsubject, hclient⟩
    rw [hm id g' hlookup]
    exact hlookup

lemma find_ok {id : String} (h : find m id = .ok g) : m.lookup id = some g := by
  unfold find at h
  cases hrec : m.lookup id with
  | none =>
    rw [hrec] at h
    cases h
  | some rec =>
    rw [hrec] at h
    cases h
    rfl

def Creates (e : Chance) (m : GrantMap) (i : Input) : Prop :=
  i.gmAction = .create ∨
    i.gmAction = .ordinary ∧
      findBySubjectClient e.order m i.subject i.clientID = .error .notFound

instance (e : Chance) (m : GrantMap) (i : Input) : Decidable (Creates e m i) :=
  inferInstanceAs (Decidable (_ ∨ _ ∧ _))

/-- What an upsert can do: nothing, a new grant, or an amended one. -/
inductive Effect (e : Chance) (m : GrantMap) (i : Input) :
    GrantMap × Except UpsertError Grant → Prop
  | failed (err : UpsertError) : Effect e m i (m, .error err)
  | created (grantID : String) (hid : grantIDFor e i = some grantID) (hnew : Creates e m i) :
      Effect e m i (m.insert grantID (newGrant grantID i), .ok (newGrant grantID i))
  | reused (g : Grant) (hg : m.lookup g.id = some g) (hsubject : g.subject = i.subject)
      (hclient : g.clientID = i.clientID) (hgm : i.gmAction = .ordinary) :
      Effect e m i (m.insert g.id (reusedGrant g i), .ok (reusedGrant g i))
  | managed (g : Grant) (hg : m.lookup g.id = some g) (hid : g.id = i.gmGrantID)
      (hsubject : g.subject = i.subject) (hclient : g.clientID = i.clientID)
      (hgm : i.gmAction = .replace ∨ i.gmAction = .merge) :
      Effect e m i (m.insert g.id (managedGrant g i), .ok (managedGrant g i))

lemma effect_createGrant {e : Chance} {i : Input} (hnew : Creates e m i) :
    Effect e m i (createGrant e m i) := by
  unfold createGrant
  cases hid : grantIDFor e i with
  | none => exact .failed _
  | some grantID => exact .created grantID hid hnew

lemma effect_upsertGrant (e : Chance) (hm : Keyed m) (i : Input) :
    Effect e m i (upsertGrant e m i) := by
  have hmanaged (hgm : i.gmAction = .replace ∨ i.gmAction = .merge) :
      Effect e m i (mutateManagedGrant m i) := by
    unfold mutateManagedGrant
    split
    · exact .failed _
    · exact .failed _
    · rename_i g hfind
      split_ifs with hid howner
      · exact .failed _
      · exact .failed _
      · obtain ⟨_, hid⟩ := not_or.mp hid
        obtain ⟨hclient, hsubject⟩ := not_or.mp howner
        refine .managed g ?_ (not_not.mp hid) (not_not.mp hsubject) (not_not.mp hclient) hgm
        rw [not_not.mp hid]
        exact find_ok hfind
  unfold upsertGrant
  cases hgm : i.gmAction with
  | replace => exact hmanaged (.inl hgm)
  | merge => exact hmanaged (.inr hgm)
  | create => exact effect_createGrant (.inl hgm)
  | ordinary =>
    dsimp only
    unfold reuseOrCreateGrant
    split
    · rename_i hfind
      exact effect_createGrant (.inr ⟨hgm, hfind⟩)
    · exact .failed _
    · rename_i g hfind
      obtain ⟨hg, hsubject, hclient⟩ := findBySubjectClient_ok hm hfind
      split_ifs
      · exact .failed _
      · exact .reused g hg hsubject hclient hgm

@[simp] lemma stamped_id (g : Grant) (i : Input) :
    (stampReusedGrantAuthContext g i).id = g.id := by
  unfold stampReusedGrantAuthContext
  split_ifs <;> rfl

@[simp] lemma stamped_clientID (g : Grant) (i : Input) :
    (stampReusedGrantAuthContext g i).clientID = g.clientID := by
  unfold stampReusedGrantAuthContext
  split_ifs <;> rfl

@[simp] lemma reusedGrant_id (g : Grant) (i : Input) : (reusedGrant g i).id = g.id :=
  stamped_id g i

@[simp] lemma reusedGrant_clientID (g : Grant) (i : Input) :
    (reusedGrant g i).clientID = g.clientID :=
  stamped_clientID g i

@[simp] lemma managedGrant_id (g : Grant) (i : Input) : (managedGrant g i).id = g.id :=
  stamped_id g i

@[simp] lemma managedGrant_clientID (g : Grant) (i : Input) :
    (managedGrant g i).clientID = g.clientID :=
  stamped_clientID g i

lemma Keyed.insert (hm : Keyed m) {id : String} (hg : g.id = id) : Keyed (m.insert id g) := by
  intro id' g' h
  rw [lookup_insert_ite] at h
  split_ifs at h with hid
  · cases h
    exact hg.trans hid.symm
  · exact hm id' g' h

lemma keyed_upsertGrant (e : Chance) (hm : Keyed m) (i : Input) :
    Keyed (upsertGrant e m i).1 := by
  have heffect := effect_upsertGrant e hm i
  generalize upsertGrant e m i = r at heffect
  cases heffect with
  | failed err => exact hm
  | created grantID hid hnew => exact hm.insert rfl
  | reused g hg hsubject hclient hgm => exact hm.insert (reusedGrant_id g i)
  | managed g hg hid hsubject hclient hgm => exact hm.insert (managedGrant_id g i)

end OidcProvider.GrantUpsert
