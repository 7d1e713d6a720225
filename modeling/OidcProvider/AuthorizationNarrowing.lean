import OidcProvider.GrantUpsert

/-!
# Withdrawing authorization details

`ResolveAuthorization` of `internal/tokens/authorization.go` narrows the details an
artifact recorded at its issuance to those its grant still holds. The grant is followed
through any sequence of upserts of the store. A grant without details narrows nothing,
so that a replace which names none withdraws none.
-/
namespace OidcProvider.AuthorizationNarrowing
open FiniteMaps StoreRecords GrantStore GrantUpsert

structure Authorization where
  authTime : Time
  acr : String
  amr : List String
  authorizationDetails : List JsonObject
  claims : JsonObject
  deriving DecidableEq

def narrowAuthorizationDetails (own granted : List JsonObject) : List JsonObject :=
  if own = [] ∨ granted = [] then own else own.filter fun el => decide (el ∈ granted)

def fillFromGrant (out : Authorization) (g : Grant) : Authorization where
  authTime :=
    if out.authTime = 0 then (if g.authTime = 0 then g.updatedAt else g.authTime)
    else out.authTime
  acr := if out.acr = "" then g.acr else out.acr
  amr := if out.amr = [] then g.amr else out.amr
  authorizationDetails :=
    if g.authorizationDetails = [] then out.authorizationDetails else g.authorizationDetails
  claims := if g.claims = [] then out.claims else g.claims

def resolveAuthorization (own : Authorization) (recorded : Bool) (g : Option Grant)
    (clientID : String) : Authorization :=
  match g with
  | none => own
  | some g =>
    if g.clientID ≠ clientID then own
    else if !recorded then fillFromGrant own g
    else { own with authorizationDetails :=
            narrowAuthorizationDetails own.authorizationDetails g.authorizationDetails }

def findGrant (m : GrantMap) (grantID : String) : Option Grant :=
  if grantID = "" then none else m.lookup grantID

def codeAuthorizationDetails (i : Input) (g : Grant) : List JsonObject :=
  match i.gmAction with
  | .replace | .merge => g.authorizationDetails
  | .create | .ordinary => i.authorizationDetails

/-- What a code, a refresh token and an access token have in common: the state of their
authorization, recorded at issuance, and the grant they were issued under. -/
structure Artifact where
  own : Authorization
  grantID : String
  clientID : String

/-- The details the artifact stands for over these grants. -/
def Artifact.details (a : Artifact) (m : GrantMap) : List JsonObject :=
  (resolveAuthorization a.own true (findGrant m a.grantID) a.clientID).authorizationDetails

/-! ### Narrowing -/

variable {m : GrantMap} {id : String} {g : Grant}

lemma mem_narrow (own granted : List JsonObject) (el : JsonObject) :
    el ∈ narrowAuthorizationDetails own granted ↔ el ∈ own ∧ (granted = [] ∨ el ∈ granted) := by
  unfold narrowAuthorizationDetails
  by_cases hgranted : granted = []
  · simp [hgranted]
  · by_cases hown : own = []
    · simp [hown]
    · simp [hown, hgranted]

/-- Narrowing leaves only what is granted, unless it has nothing to go by. -/
theorem narrow_subset_granted_iff (own granted : List JsonObject) :
    narrowAuthorizationDetails own granted ⊆ granted ↔ own = [] ∨ granted ≠ [] := by
  constructor
  · intro h
    by_cases hgranted : granted = []
    · left
      apply List.eq_nil_iff_forall_not_mem.mpr
      intro el hel
      have hmem := h ((mem_narrow own granted el).mpr ⟨hel, .inl hgranted⟩)
      rw [hgranted] at hmem
      exact List.not_mem_nil hmem
    · exact .inr hgranted
  · intro h el hel
    obtain ⟨hown, hin⟩ := (mem_narrow own granted el).mp hel
    rcases h with hnil | hne
    · rw [hnil] at hown
      exact absurd hown List.not_mem_nil
    · exact hin.resolve_left hne

lemma narrow_mono_iff {granted granted' : List JsonObject} (own : List JsonObject)
    (hsub : granted ⊆ granted') :
    narrowAuthorizationDetails own granted ⊆ narrowAuthorizationDetails own granted' ↔
      (granted = [] → granted' = [] ∨ own ⊆ granted') := by
  constructor
  · intro h hnil
    refine or_iff_not_imp_left.mpr fun hne el hel => ?_
    have hmem := h ((mem_narrow own granted el).mpr ⟨hel, .inl hnil⟩)
    exact ((mem_narrow own granted' el).mp hmem).2.resolve_left hne
  · intro h el hel
    obtain ⟨hown, hin⟩ := (mem_narrow own granted el).mp hel
    refine (mem_narrow own granted' el).mpr ⟨hown, ?_⟩
    rcases hin with hnil | hin
    · exact (h hnil).imp_right fun hall => hall hown
    · exact .inr (hsub hin)

/-! ### A grant under a sequence of upserts -/

structure Step where
  chance : Chance
  input : Input

def upserts (m : GrantMap) (steps : List Step) : GrantMap :=
  steps.foldl (fun m step => (upsertGrant step.chance m step.input).1) m

/-- No upsert of the run mints a second grant under the id. -/
def Spares (id : String) : GrantMap → List Step → Prop
  | _, [] => True
  | m, step :: rest =>
    ¬(Creates step.chance m step.input ∧ grantIDFor step.chance step.input = some id) ∧
      Spares id (upsertGrant step.chance m step.input).1 rest

instance (id : String) : (m : GrantMap) → (steps : List Step) → Decidable (Spares id m steps)
  | _, [] => isTrue trivial
  | m, step :: rest =>
    have := instDecidableSpares id (upsertGrant step.chance m step.input).1 rest
    inferInstanceAs (Decidable (_ ∧ _))

/-- The upserts of the run that were applied to the grant. -/
def amendments (id : String) : GrantMap → List Step → List Input
  | _, [] => []
  | m, step :: rest =>
    let r := upsertGrant step.chance m step.input
    let later := amendments id r.1 rest
    if (r.2.toOption.map Grant.id) = some id then step.input :: later else later

/-- What one upsert makes of the details of the grant it is applied to. -/
def amendDetails (details : List JsonObject) (i : Input) : List JsonObject :=
  if i.gmAction = .replace then i.authorizationDetails
  else appendAuthorizationDetails details i.authorizationDetails

lemma lookup_of_findGrant (h : findGrant m id = some g) : id ≠ "" ∧ m.lookup id = some g := by
  unfold findGrant at h
  split_ifs at h with hid
  exact ⟨hid, h⟩

lemma findGrant_insert (hid : id ≠ "") (id' : String) (g : Grant) :
    findGrant (m.insert id' g) id = if id = id' then some g else findGrant m id := by
  unfold findGrant
  rw [if_neg hid, if_neg hid, lookup_insert_ite]

lemma findGrant_written {i : Input} {g h h' : Grant} (hid : id ≠ "")
    (hg : findGrant m id = some g) (hh' : h'.id = h.id)
    (hsame : id = h.id → h'.clientID = g.clientID ∧
      h'.authorizationDetails = amendDetails g.authorizationDetails i) :
    ∃ g', findGrant (m.insert h.id h') id = some g' ∧ g'.clientID = g.clientID ∧
      g'.authorizationDetails =
        if some h'.id = some id then amendDetails g.authorizationDetails i
        else g.authorizationDetails := by
  by_cases heq : id = h.id
  · obtain ⟨hclient, hdetails⟩ := hsame heq
    refine ⟨h', ?_, hclient, ?_⟩
    · rw [findGrant_insert hid, if_pos heq]
    · rw [if_pos (congrArg some (hh'.trans heq.symm)), hdetails]
  · refine ⟨g, ?_, rfl, ?_⟩
    · rw [findGrant_insert hid, if_neg heq, hg]
    · rw [if_neg]
      intro hsome
      exact heq ((Option.some.inj hsome).symm.trans hh')

/-- One upsert keeps the client of the grant, and amends its details if it was applied
to it. -/
theorem upsertGrant_details {e : Chance} {i : Input} (hm : Keyed m) (hg : findGrant m id = some g)
    (hspares : ¬(Creates e m i ∧ grantIDFor e i = some id)) :
    ∃ g', findGrant (upsertGrant e m i).1 id = some g' ∧ g'.clientID = g.clientID ∧
      g'.authorizationDetails =
        if (upsertGrant e m i).2.toOption.map Grant.id = some id then
          amendDetails g.authorizationDetails i
        else g.authorizationDetails := by
  obtain ⟨hid, hlookup⟩ := lookup_of_findGrant hg
  have heffect := effect_upsertGrant e hm i
  generalize upsertGrant e m i = r at heffect
  cases heffect with
  | failed err => exact ⟨g, hg, rfl, rfl⟩
  | created grantID hgrant hnew =>
    refine findGrant_written (h := newGrant grantID i) hid hg rfl ?_
    rintro rfl
    exact absurd ⟨hnew, hgrant⟩ hspares
  | reused h hh hsubject hclient hgm =>
    refine findGrant_written hid hg (reusedGrant_id h i) ?_
    rintro rfl
    obtain rfl : h = g := Option.some.inj (hh.symm.trans hlookup)
    refine ⟨reusedGrant_clientID h i, ?_⟩
    rw [amendDetails, hgm]
    rfl
  | managed h hh hgmid hsubject hclient hgm =>
    refine findGrant_written hid hg (managedGrant_id h i) ?_
    rintro rfl
    obtain rfl : h = g := Option.some.inj (hh.symm.trans hlookup)
    exact ⟨managedGrant_clientID h i, rfl⟩

lemma upserts_details (steps : List Step) :
    ∀ {m : GrantMap} {g : Grant}, Keyed m → findGrant m id = some g → Spares id m steps →
      ∃ g', findGrant (upserts m steps) id = some g' ∧ g'.clientID = g.clientID ∧
        g'.authorizationDetails =
          (amendments id m steps).foldl amendDetails g.authorizationDetails := by
  induction steps with
  | nil =>
    intro m g _ hg _
    exact ⟨g, hg, rfl, rfl⟩
  | cons step rest ih =>
    intro m g hm hg hspares
    obtain ⟨g₁, hg₁, hclient₁, hdetails₁⟩ := upsertGrant_details hm hg hspares.1
    obtain ⟨g', hg', hclient, hdetails⟩ :=
      ih (keyed_upsertGrant step.chance hm step.input) hg₁ hspares.2
    refine ⟨g', hg', hclient.trans hclient₁, ?_⟩
    rw [hdetails, hdetails₁, amendments]
    split_ifs <;> rfl

/-! ### Grants that were emptied -/

/-- A replace named no details, and nothing after it did. -/
def Emptied (ops : List Input) : Prop :=
  ∃ before r after, ops = before ++ r :: after ∧ r.gmAction = .replace ∧
    r.authorizationDetails = [] ∧ ∀ i ∈ after, i.authorizationDetails = []

lemma amendDetails_eq_nil_iff (details : List JsonObject) (i : Input) :
    amendDetails details i = [] ↔
      i.authorizationDetails = [] ∧ (i.gmAction = .replace ∨ details = []) := by
  unfold amendDetails
  split_ifs with hgm
  · simp [hgm]
  · have hmem := mem_appendMissing details i.authorizationDetails
    simp only [appendAuthorizationDetails, List.eq_nil_iff_forall_not_mem, hmem, not_or,
      forall_and, hgm, false_or]
    exact and_comm

lemma foldl_amendDetails_eq_nil_iff (ops : List Input) :
    ∀ details : List JsonObject, ops.foldl amendDetails details = [] ↔
      Emptied ops ∨ details = [] ∧ ∀ i ∈ ops, i.authorizationDetails = [] := by
  induction ops with
  | nil =>
    intro details
    simp [Emptied]
  | cons i ops ih =>
    intro details
    rw [List.foldl_cons, ih, amendDetails_eq_nil_iff, List.forall_mem_cons]
    constructor
    · rintro (⟨before, r, after, rfl, hrest⟩ | ⟨⟨hi, hgm | hnil⟩, hops⟩)
      · exact .inl ⟨i :: before, r, after, rfl, hrest⟩
      · exact .inl ⟨[], i, ops, rfl, hgm, hi, hops⟩
      · exact .inr ⟨hnil, hi, hops⟩
    · rintro (⟨before, r, after, heq, hgm, hr, hafter⟩ | ⟨hnil, hi, hops⟩)
      · cases before with
        | nil =>
          obtain ⟨rfl, rfl⟩ := List.cons.inj heq
          exact .inr ⟨⟨hr, .inl hgm⟩, hafter⟩
        | cons b before =>
          obtain ⟨rfl, rfl⟩ := List.cons.inj heq
          exact .inl ⟨before, r, after, rfl, hgm, hr, hafter⟩
      · exact .inr ⟨⟨hi, .inr hnil⟩, hops⟩

lemma emptied_of_replaced {ops : List Input} (hops : ∃ i ∈ ops, i.gmAction = .replace)
    (hnil : ∀ i ∈ ops, i.authorizationDetails = []) : Emptied ops := by
  obtain ⟨r, hr, hgm⟩ := hops
  obtain ⟨before, after, rfl⟩ := List.append_of_mem hr
  refine ⟨before, r, after, rfl, hgm, hnil r hr, ?_⟩
  intro i hi
  exact hnil i (List.mem_append_right _ (List.mem_cons_of_mem _ hi))

/-! ### What an artifact stands for -/

def currentDetails (m : GrantMap) (id : String) : List JsonObject :=
  ((findGrant m id).map Grant.authorizationDetails).getD []

/-- The artifact's grant is there, it is its own client's, and its details are what the
upserts of the run made of them. -/
theorem details_upserts {a : Artifact} (hm : Keyed m) (hg : findGrant m a.grantID = some g)
    (hclient : g.clientID = a.clientID) {steps : List Step} (hspares : Spares a.grantID m steps) :
    a.details (upserts m steps) =
        narrowAuthorizationDetails a.own.authorizationDetails
          (currentDetails (upserts m steps) a.grantID) ∧
      currentDetails (upserts m steps) a.grantID =
        (amendments a.grantID m steps).foldl amendDetails g.authorizationDetails := by
  obtain ⟨g', hg', hclient', hdetails⟩ := upserts_details steps hm hg hspares
  unfold Artifact.details currentDetails
  rw [hg']
  refine ⟨?_, hdetails⟩
  have hown : ¬g'.clientID ≠ a.clientID := not_not.mpr (hclient'.trans hclient)
  unfold resolveAuthorization
  dsimp only
  rw [if_neg hown]
  rfl

/-- An artifact never stands for more than it recorded. A replace is effective exactly
when it, or an upsert after it, names a detail, and of two states of the grant the
smaller one yields less exactly when it is not the empty one. -/
theorem details_withdrawn_iff (a : Artifact) (m : GrantMap) (g : Grant) (hm : Keyed m)
    (hg : findGrant m a.grantID = some g) (hclient : g.clientID = a.clientID)
    (steps : List Step) (hspares : Spares a.grantID m steps) :
    a.details (upserts m steps) ⊆ a.own.authorizationDetails ∧
    ((∃ i ∈ amendments a.grantID m steps, i.gmAction = .replace) →
      (a.details (upserts m steps) ⊆ currentDetails (upserts m steps) a.grantID ↔
        a.own.authorizationDetails = [] ∨ ¬Emptied (amendments a.grantID m steps))) ∧
    ∀ steps', Spares a.grantID m steps' →
      currentDetails (upserts m steps) a.grantID ⊆
        currentDetails (upserts m steps') a.grantID →
      (a.details (upserts m steps) ⊆ a.details (upserts m steps') ↔
        (currentDetails (upserts m steps) a.grantID = [] →
          currentDetails (upserts m steps') a.grantID = [] ∨
            a.own.authorizationDetails ⊆ currentDetails (upserts m steps') a.grantID)) := by
  obtain ⟨hyield, hcurrent⟩ := details_upserts hm hg hclient hspares
  refine ⟨?_, ?_, ?_⟩
  · rw [hyield]
    intro el hel
    exact ((mem_narrow _ _ el).mp hel).1
  · intro hreplaced
    rw [hyield, narrow_subset_granted_iff, hcurrent, ne_eq, foldl_amendDetails_eq_nil_iff]
    have hsame : (Emptied (amendments a.grantID m steps) ∨ g.authorizationDetails = [] ∧
        ∀ i ∈ amendments a.grantID m steps, i.authorizationDetails = []) ↔
        Emptied (amendments a.grantID m steps) := by
      constructor
      · rintro (h | ⟨_, hnil⟩)
        · exact h
        · exact emptied_of_replaced hreplaced hnil
      · exact .inl
    rw [hsame]
  · intro steps' hspares' hsub
    rw [hyield, (details_upserts hm hg hclient hspares').1]
    exact narrow_mono_iff _ hsub

/-! ### A replace that names nothing -/

def payment : JsonObject := [("type", "payment_initiation")]

def account : JsonObject := [("type", "account_information")]

def request (gmAction : GMAction) (details : List JsonObject) (now : Time) : Step where
  chance := ⟨ascending, none⟩
  input :=
    { subject := "sub", clientID := "app", scope := ["openid"], authTime := 1, acr := "",
      amr := ["pwd"], declinedScope := [], claims := none, authorizationDetails := details,
      gmAction, gmGrantID := if gmAction = .ordinary then "" else "g", newGrantID := "g", now }

def paid : GrantMap := upserts ∅ [request .ordinary [payment] 1]

def code : Artifact where
  own :=
    { authTime := 1, acr := "", amr := ["pwd"], claims := [],
      authorizationDetails :=
        codeAuthorizationDetails (request .ordinary [payment] 1).input (default : Grant) }
  grantID := "g"
  clientID := "app"

lemma keyed_paid : Keyed paid := by
  apply keyed_upsertGrant
  intro id g h
  cases h

/-- The replace that names another detail withdraws the payment, and so the smaller of
the two grants it is compared with yields less. -/
theorem details_withdrawn_iff_replaced :
    code.details (upserts paid [request .replace [account] 2]) ⊆ [payment] ∧
      code.details (upserts paid [request .replace [account] 2]) ⊆
        currentDetails (upserts paid [request .replace [account] 2]) "g" ∧
      code.details (upserts paid [request .replace [account] 2]) ⊆
        code.details (upserts paid [request .merge [account] 2]) := by
  obtain ⟨g, hg, hclient⟩ : ∃ g, findGrant paid code.grantID = some g ∧ g.clientID = "app" :=
    ⟨_, rfl, by decide +kernel⟩
  obtain ⟨hown, hreplace, hmono⟩ := details_withdrawn_iff code paid g keyed_paid hg hclient
    [request .replace [account] 2] (by decide +kernel)
  have hamended : amendments "g" paid [request .replace [account] 2] =
      [(request .replace [account] 2).input] := by
    rfl
  refine ⟨hown, ?_, ?_⟩
  · refine (hreplace ⟨(request .replace [account] 2).input, ?_, rfl⟩).mpr (.inr ?_)
    · exact hamended ▸ List.mem_singleton_self _
    · rintro ⟨before, r, after, heq, _, hnil, _⟩
      have hmem : r ∈ [(request .replace [account] 2).input] := by
        rw [← hamended]
        exact heq ▸ List.mem_append_right _ List.mem_cons_self
      rw [List.mem_singleton.mp hmem] at hnil
      exact absurd hnil (by decide)
  · refine (hmono [request .merge [account] 2] (by decide +kernel) ?_).mpr ?_
    · decide +kernel
    · intro hnil
      exact absurd hnil (by decide +kernel)

/-- The replace without details leaves the payment with the code, and a grant with other
details then yields less than the empty one. -/
theorem payment_outlives_the_replace :
    Spares "g" paid [request .replace [] 2] ∧
      currentDetails (upserts paid [request .replace [] 2]) "g" = [] ∧
      code.details (upserts paid [request .replace [] 2]) = [payment] ∧
      currentDetails (upserts paid [request .replace [account] 2]) "g" = [account] ∧
      code.details (upserts paid [request .replace [account] 2]) = [] := by
  decide +kernel

end OidcProvider.AuthorizationNarrowing
