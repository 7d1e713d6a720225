import OidcProvider.EndpointTransactions

/-!
# What a rotation chain stays bound to

The binding of a refresh token passes through four projections on its way to
the successor: the record as it is exchanged, the chain id that is filled in,
the authorization that is stamped anew, and the record that is issued. `Carries`
says what comes out at the other end, and as a heritage it holds between all
records of a chain, whatever requests the endpoint has accepted and however
their calls and transactions were interleaved.
-/
namespace OidcProvider.ChainBinding
open FiniteMaps SecondaryIndexes StoreRecords RefreshTokenStore RotationLineage ResumptionPrograms
open ChainRetirement RefreshGrant ReplayCascade RefreshSessions RefreshEndpoint
open EndpointTransactions

/-- What a record passes on to the records rotated from it. The chain id and
the proof key may still be filled in. -/
structure Carries (parent row : RefreshToken) : Prop where
  clientID : row.clientID = parent.clientID
  subject : row.subject = parent.subject
  subjectPublic : row.subjectPublic = parent.subjectPublic
  grantID : row.grantID = parent.grantID
  scope : row.scope = parent.scope
  resource : row.resource = parent.resource
  origin : row.origin = parent.origin
  nonce : row.nonce = parent.nonce
  mtlsCertThumbprint : row.mtlsCertThumbprint = parent.mtlsCertThumbprint
  chainID : parent.chainID ≠ "" → row.chainID = parent.chainID
  dpopJKT : parent.dpopJKT ≠ "" → row.dpopJKT = parent.dpopJKT

lemma Carries.refl (row : RefreshToken) : Carries row row :=
  ⟨rfl, rfl, rfl, rfl, rfl, rfl, rfl, rfl, rfl, fun _ => rfl, fun _ => rfl⟩

lemma Carries.trans {a b c : RefreshToken} (h : Carries a b) (h' : Carries b c) :
    Carries a c where
  clientID := h'.clientID.trans h.clientID
  subject := h'.subject.trans h.subject
  subjectPublic := h'.subjectPublic.trans h.subjectPublic
  grantID := h'.grantID.trans h.grantID
  scope := h'.scope.trans h.scope
  resource := h'.resource.trans h.resource
  origin := h'.origin.trans h.origin
  nonce := h'.nonce.trans h.nonce
  mtlsCertThumbprint := h'.mtlsCertThumbprint.trans h.mtlsCertThumbprint
  chainID hne := by
    have hb := h.chainID hne
    exact (h'.chainID (hb ▸ hne)).trans hb
  dpopJKT hne := by
    have hb := h.dpopJKT hne
    exact (h'.dpopJKT (hb ▸ hne)).trans hb

/-- The binding does not touch the fields that change in place. -/
def binding : Heritage where
  passes := Carries
  passes_frozen _ _ :=
    ⟨fun ⟨h₁, h₂, h₃, h₄, h₅, h₆, h₇, h₈, h₉, h₁₀, h₁₁⟩ =>
        ⟨h₁, h₂, h₃, h₄, h₅, h₆, h₇, h₈, h₉, h₁₀, h₁₁⟩,
      fun ⟨h₁, h₂, h₃, h₄, h₅, h₆, h₇, h₈, h₉, h₁₀, h₁₁⟩ =>
        ⟨h₁, h₂, h₃, h₄, h₅, h₆, h₇, h₈, h₉, h₁₀, h₁₁⟩⟩
  grant h := h.grantID.symm

/-- In a lineage of bindings the records of a chain are bound alike. -/
theorem carries_of_descends {D : KeyDigest} {s : RefreshStore} (h : Lineage D binding s)
    {a b : String} (hd : Descends s.byParent a b) {row row' : RefreshToken}
    (hrow : s.m.lookup a = some row) (hrow' : s.m.lookup b = some row') : Carries row row' := by
  induction hd generalizing row' with
  | refl =>
    rw [hrow, Option.some.injEq] at hrow'
    exact hrow' ▸ .refl row
  | tail _ hstep ih =>
    obtain ⟨child, p, hchild, hp, hpk⟩ := (mem_byParent_iff h.wellFormed _ _).mp hstep
    obtain ⟨parent, hparent, _, hpasses, _⟩ := h.parent _ child p hchild hp
    rw [hchild, Option.some.injEq] at hrow'
    exact hrow' ▸ (ih (hpk ▸ hparent)).trans hpasses

/-! ### What the checks let through -/

/-- The proof and the certificate of a request fit a binding. -/
structure Presents (x : Request) (dpopJKT mtlsCertThumbprint : String) : Prop where
  proof : dpopJKT ≠ "" → ∃ proof, x.proof = some proof ∧ proof.jkt = dpopJKT
  certificate : mtlsCertThumbprint ≠ "" → x.certificate = .ok mtlsCertThumbprint

section
variable {x : Request} {ex : Exchanged}

lemma enforceDPoPRefreshBinding_ok {jkt : String}
    (h : enforceDPoPRefreshBinding x.deps x.dpopOut jkt = .ok ()) (hbound : jkt ≠ "") :
    (∃ proof, x.proof = some proof ∧ proof.jkt = jkt) ∧ x.dpopOut.jkt = jkt := by
  unfold enforceDPoPRefreshBinding at h
  by_cases hdpop : x.deps.dpop = true
  · cases hproof : x.proof with
    | none => simp [Request.dpopOut, newDPoPOutcome, hdpop, hproof, require_ok, hbound] at h
    | some proof =>
      simp [Request.dpopOut, newDPoPOutcome, hdpop, hproof, require_ok, hbound] at h ⊢
      exact h
  · simp [hdpop, require_ok, hbound] at h

lemma requireMTLSMatch_ok {deps : Deps} {certificate : Except MTLSError String} {bound : String}
    (h : requireMTLSMatch deps certificate bound = .ok ()) (hbound : bound ≠ "") :
    certificate = .ok bound := by
  unfold requireMTLSMatch verifyBoundRequest at h
  rw [if_neg hbound] at h
  split_ifs at h with hmtls
  · cases certificate with
    | error err => cases h
    | ok got =>
      by_cases hgot : got = "" ∨ got ≠ bound
      · simp [hgot] at h
      · rw [not_or, not_not] at hgot
        rw [hgot.2]

lemma acceptExchanged_ok {b : TokenBinding} (h : x.acceptExchanged ex = .ok b) :
    b = ⟨x.dpopOut.jkt, ex.mtlsCertThumbprint⟩ ∧ Presents x ex.dpopJKT ex.mtlsCertThumbprint ∧
      (ex.dpopJKT ≠ "" → x.dpopOut.jkt = ex.dpopJKT) := by
  obtain ⟨_, _, h⟩ := ok_of_bind h
  obtain ⟨_, _, h⟩ := ok_of_bind h
  obtain ⟨_, _, h⟩ := ok_of_bind h
  obtain ⟨_, hdpop, h⟩ := ok_of_bind h
  obtain ⟨_, hmtls, h⟩ := ok_of_bind h
  obtain ⟨_, _, h⟩ := ok_of_bind h
  cases h
  exact ⟨rfl, ⟨fun hne => (enforceDPoPRefreshBinding_ok hdpop hne).1, requireMTLSMatch_ok hmtls⟩,
    fun hne => (enforceDPoPRefreshBinding_ok hdpop hne).2⟩

/-! ### The four projections -/

/-- The chain id is the only field that the second projection touches. -/
theorem withChainID_keeps (x : Request) (ex : Exchanged) {A : Type} (f : Exchanged → A)
    (hf : ∀ c, f { ex with chainID := c } = f ex) :
    f (x.withChainID ex) = f ex := by
  unfold Request.withChainID
  split_ifs
  · rfl
  · exact hf _

/-- What is exchanged of a record, by its own client and with what it asks for,
comes back in the record of the successor. -/
theorem carries_successor {D : KeyDigest} {row : RefreshToken} {b : TokenBinding}
    (hout : HandedOut ex row) (hclient : ex.clientID = x.client.id)
    (haccept : x.acceptExchanged ex = .ok b) (i : Issuer) (authCtx : AuthContext)
    (details : List JsonObject) (now : Time) :
    Carries row (storedRow D (i.record x.fresh now
      (x.rotationInput (refreshExchangedForRotation (x.withChainID ex) authCtx details) b))) := by
  obtain ⟨_, scope, _, hex⟩ := hout
  obtain ⟨rfl, _, hjkt⟩ := acceptExchanged_ok haccept
  have hfields : ex.clientID = row.clientID ∧ ex.subject = row.subject ∧
      ex.subjectPublic = row.subjectPublic ∧ ex.grantID = row.grantID ∧
      ex.boundScope = row.scope ∧ ex.resource = row.resource ∧ ex.origin = row.origin ∧
      ex.nonce = row.nonce ∧ ex.mtlsCertThumbprint = row.mtlsCertThumbprint ∧
      ex.chainID = row.chainID ∧ ex.dpopJKT = row.dpopJKT := by
    rw [hex]
    exact ⟨rfl, rfl, rfl, rfl, rfl, rfl, rfl, rfl, rfl, rfl, rfl⟩
  obtain ⟨hc, hsub, hpub, hgrant, hscope, hres, horig, hnonce, hmtls, hchain, hdpop⟩ := hfields
  constructor
  case clientID => exact hclient.symm.trans hc
  case subject => exact (withChainID_keeps x ex Exchanged.subject fun _ => rfl).trans hsub
  case subjectPublic =>
    exact (withChainID_keeps x ex Exchanged.subjectPublic fun _ => rfl).trans hpub
  case grantID => exact (withChainID_keeps x ex Exchanged.grantID fun _ => rfl).trans hgrant
  case scope => exact (withChainID_keeps x ex Exchanged.boundScope fun _ => rfl).trans hscope
  case resource => exact (withChainID_keeps x ex Exchanged.resource fun _ => rfl).trans hres
  case origin => exact (withChainID_keeps x ex Exchanged.origin fun _ => rfl).trans horig
  case nonce => exact (withChainID_keeps x ex Exchanged.nonce fun _ => rfl).trans hnonce
  case mtlsCertThumbprint => exact hmtls
  case chainID =>
    intro hne
    rw [← hchain] at hne ⊢
    have hkept : (x.withChainID ex).chainID = ex.chainID := by
      unfold Request.withChainID
      rw [if_pos hne]
    change (if (x.withChainID ex).chainID = "" then _ else (x.withChainID ex).chainID) = ex.chainID
    rw [hkept, if_neg hne]
  case dpopJKT =>
    intro hne
    rw [← hdpop] at hne ⊢
    have hkept := withChainID_keeps x ex Exchanged.dpopJKT fun _ => rfl
    change (if (x.withChainID ex).dpopJKT = "" then _ else x.dpopOut.jkt) = ex.dpopJKT
    rw [hkept, if_neg hne]
    exact hjkt hne

end

/-! ### The outline of a request -/

/-- What stands behind an issued response: the presented record is stored, the
access token keeps within its scope, the request has shown what the record is
bound to, and the successor is stored under it. -/
structure Issues (D : KeyDigest) (x : Request) (minted : AccessTokenInput)
    (response : SuccessResponse) (w : World) : Prop where
  backed : Known (fun row => minted.scope ⊆ row.scope ∧
    Presents x row.dpopJKT row.mtlsCertThumbprint) (D.hashKey x.token) w
  linked : response.refreshToken ≠ "" → SavedUnder D (some x.token) response.refreshToken w

def Writes (D : KeyDigest) (x : Request) (written : Written) (w : World) : Prop :=
  ∀ minted response, written = .issued minted response →
    x.deps.refreshTokenRotationDisabled = false → Issues D x minted response w

/-- What a completion leaves; a rollback is asked for only with a refusal. -/
structure Completes (D : KeyDigest) (x : Request) (c : Completion) (w : World) : Prop where
  writes : Writes D x c.written w
  rollback : c.rollback = true → ∃ refusal, c.written = .refused refusal

variable {w w' : World}

section
variable {D : KeyDigest} {x : Request} {w : World} {ex : Exchanged} {b : TokenBinding}
  {c : Completion}

lemma Issues.stable {minted : AccessTokenInput} {response : SuccessResponse}
    (hG : (rotation D binding).G w w') (h : Issues D x minted response w) :
    Issues D x minted response w' where
  backed := by
    refine Known.moves hG (fun row row' hev hrow => ?_) h.backed
    have hscope : row'.scope = row.scope := by
      have := congrArg RefreshToken.scope hev.frozen
      exact this
    have hdpop : row'.dpopJKT = row.dpopJKT := by
      have := congrArg RefreshToken.dpopJKT hev.frozen
      exact this
    have hmtls : row'.mtlsCertThumbprint = row.mtlsCertThumbprint := by
      have := congrArg RefreshToken.mtlsCertThumbprint hev.frozen
      exact this
    rw [hscope, hdpop, hmtls]
    exact hrow
  linked hne := (h.linked hne).stable hG

lemma Writes.stable {written : Written} (hG : (rotation D binding).G w w')
    (h : Writes D x written w) : Writes D x written w' :=
  fun minted response hw hrot => (h minted response hw hrot).stable hG

lemma Completes.stable (hG : (rotation D binding).G w w') (h : Completes D x c w) :
    Completes D x c w' :=
  ⟨h.writes.stable hG, h.rollback⟩

lemma writes_refused (refusal : Refusal) (w : World) : Writes D x (.refused refusal) w :=
  fun _ _ h => by cases h

lemma upholds_refuse (refusal : Refusal) (hc : c.written = .refused refusal) (w : World) :
    Rotates D binding (Completes D x) (pure c) w :=
  upholds_ret fun w' _ _ => ⟨hc ▸ writes_refused refusal w', fun _ => ⟨refusal, hc⟩⟩

/-- What the handler has in hand once it has accepted what was exchanged. -/
structure Accepted (D : KeyDigest) (x : Request) (ex : Exchanged) (b : TokenBinding)
    (w : World) : Prop where
  spent : Spent D ex w
  consumedID : ex.consumedID = x.token
  clientID : ex.clientID = x.client.id
  accept : x.acceptExchanged ex = .ok b

lemma Accepted.stable (hG : (rotation D binding).G w w')
    (h : Accepted D x ex b w) : Accepted D x ex b w' :=
  { h with spent := h.spent.stable hG }

lemma Accepted.succeeds (h : Accepted D x ex b w) (i : Issuer) (authCtx : AuthContext)
    (details : List JsonObject) (now : Time) :
    Succeeds D binding w.store (i.record x.fresh now
      (x.rotationInput (refreshExchangedForRotation (x.withChainID ex) authCtx details) b)) := by
  have hparent := withChainID_keeps x ex Exchanged.consumedID fun _ => rfl
  obtain ⟨hne, row, hrow, hout⟩ := h.spent
  refine ⟨rfl, fun hp => ?_, fun p hp => ?_⟩
  · change some (x.withChainID ex).consumedID = some "" at hp
    rw [hparent, Option.some.injEq] at hp
    exact hne hp
  · change some (x.withChainID ex).consumedID = some p at hp
    rw [hparent, Option.some.injEq] at hp
    subst hp
    exact ⟨row, hrow, hout.1, carries_successor hout h.clientID h.accept i authCtx details now⟩

lemma upholds_rotateRefreshToken (hw : Lineage D binding w.store) (h : Accepted D x ex b w)
    (authCtx : AuthContext) (details : List JsonObject) (response : SuccessResponse)
    (hnone : response.refreshToken = "") :
    Rotates D binding
      (fun r w => ∀ response', r = some response' → response'.refreshToken ≠ "" →
        SavedUnder D (some x.token) response'.refreshToken w)
      (x.rotateRefreshToken (refreshExchangedForRotation (x.withChainID ex) authCtx details) b
        response) w := by
  have hparent : (x.rotationInput (refreshExchangedForRotation (x.withChainID ex) authCtx details)
      b).parentID = some x.token := by
    rw [← h.consumedID]
    exact congrArg some (withChainID_keeps x ex Exchanged.consumedID fun _ => rfl)
  have hsucc := fun i now (w' : World) (hG : (rotation D binding).G w w') =>
    (h.stable hG).succeeds i authCtx details now
  unfold Request.rotateRefreshToken
  generalize newIssuer ⟨pickRefreshTokenTTL x.deps
    (refreshExchangedForRotation (x.withChainID ex) authCtx details).boundScope⟩ = i
  generalize x.rotationInput (refreshExchangedForRotation (x.withChainID ex) authCtx details) b =
    input at hparent hsucc ⊢
  split_ifs with henabled hretry
  · refine upholds_ret fun w' _ _ response' hr hne => ?_
    cases hr
    exact absurd hnone hne
  · refine (upholds_issue (hsucc i)).bind hw fun r w₁ _ hr => ?_
    cases r with
    | error err => exact upholds_ret fun _ _ _ _ hr => by cases hr
    | ok token =>
      refine upholds_ret fun w₂ hG₂ _ response' hr' _ => ?_
      cases hr'
      exact hparent ▸ (hr token rfl).stable hG₂
  · unfold Issuer.prepare
    cases validateIssue input with
    | error err => exact upholds_ret fun _ _ _ _ hr => by cases hr
    | ok _ =>
      refine upholds_now fun w₁ hG₁ _ => ?_
      dsimp only [Prog.pure_eq, Prog.ret_bind]
      generalize x.lookups.sealRetryResponse _ _ = contents
      cases contents with
      | none => exact upholds_ret fun _ _ _ _ hr => by cases hr
      | some contents =>
        refine upholds_saving (o :=
          .saveRotationWithRetry (i.record x.fresh w₁.clock input) contents)
          rfl (fun w' hG => hsucc i w₁.clock w' ((rotation D binding).trans hG₁ hG)) fun w₂ ρ => ?_
        cases hreply : (handle D ρ (.saveRotationWithRetry (i.record x.fresh w₁.clock input)
            contents) w₂).2 with
        | error err => exact upholds_ret fun _ _ _ _ hr => by cases hr
        | ok _ =>
          refine upholds_ret fun w₃ hG₃ _ response' hr' _ => ?_
          cases hr'
          have hsaved : SavedUnder D (some x.token) (i.record x.fresh w₁.clock input).id
              (handle D ρ (.saveRotationWithRetry (i.record x.fresh w₁.clock input)
                contents) w₂).1 :=
            ⟨_, lookup_saveRotationWithRetry hreply, hparent⟩
          exact hsaved.stable hG₃

lemma Accepted.backed (h : Accepted D x ex b w) :
    Known (fun row => ex.scope ⊆ row.scope ∧ Presents x row.dpopJKT row.mtlsCertThumbprint)
      (D.hashKey x.token) w := by
  obtain ⟨_, row, hrow, _, scope, hscope, hex⟩ := h.spent
  have hfields : ex.scope = scope ∧ ex.dpopJKT = row.dpopJKT ∧
      ex.mtlsCertThumbprint = row.mtlsCertThumbprint := by
    rw [hex]
    exact ⟨rfl, rfl, rfl⟩
  obtain ⟨hs, hd, hm⟩ := hfields
  refine ⟨row, h.consumedID ▸ hrow, hs ▸ hscope, ?_⟩
  rw [← hd, ← hm]
  exact (acceptExchanged_ok h.accept).2.1

lemma upholds_mintAndRotate (hw : Lineage D binding w.store)
    (h : x.deps.refreshTokenRotationDisabled = false → Accepted D x ex b w) (authCtx : AuthContext)
    (details : List JsonObject) (now : Time) :
    Rotates D binding (Completes D x)
      (x.mintAndRotate (x.refreshIssuanceChain ex) authCtx b details now) w := by
  unfold Request.mintAndRotate Request.rotateOrKeepRefreshToken
  dsimp only
  split
  · next accessToken idToken _ _ =>
      by_cases hdis : x.deps.refreshTokenRotationDisabled = true
      · rw [if_pos hdis]
        refine upholds_ret fun _ _ _ => ⟨fun _ _ _ hrot => ?_, fun hr => by cases hr⟩
        rw [hdis] at hrot
        cases hrot
      · rw [if_neg hdis]
        have hacc := h (Bool.eq_false_of_not_eq_true hdis)
        have hchain : x.refreshIssuanceChain ex = x.withChainID ex := by
          unfold Request.refreshIssuanceChain
          rw [if_neg hdis]
        have hscope : (x.withChainID ex).scope = ex.scope :=
          withChainID_keeps x ex Exchanged.scope fun _ => rfl
        rw [hchain]
        refine ((upholds_rotateRefreshToken hw hacc authCtx details _ rfl).frame
          (fun _ _ hG => Accepted.stable hG) hacc).bind hw fun r w₁ _ hr => ?_
        obtain ⟨hsaved, hacc₁⟩ := hr
        cases r with
        | none => exact upholds_refuse serverError rfl w₁
        | some response' =>
          refine upholds_ret fun w₂ hG₂ _ => ⟨fun minted response hwritten _ => ?_,
            fun hr => by cases hr⟩
          cases hwritten
          refine Issues.stable hG₂ ⟨?_, hsaved response' rfl⟩
          have hbacked := hacc₁.backed
          rw [← hscope] at hbacked
          exact hbacked
  · exact upholds_refuse serverError rfl w

lemma calls_refuseIssuanceUnderClosedGrant (closure : Closure) (issued : IssuedUnderGrant) :
    (refuseIssuanceUnderClosedGrant closure issued).Calls Harmless := by
  have hretire : (retireIssued issued).Calls Harmless := by
    unfold retireIssued
    split_ifs
    · trivial
    · exact calls_ask trivial fun _ => trivial
  unfold refuseIssuanceUnderClosedGrant
  split_ifs
  · trivial
  · cases closure with
    | notClosed => trivial
    | closed => exact hretire.bind fun _ => trivial
    | unknown => exact hretire.bind fun _ => trivial

lemma upholds_issueRefreshResponse
    (h : ex.inGrace = false → x.deps.refreshTokenRotationDisabled = false → Accepted D x ex b w)
    (details : List JsonObject) :
    Rotates D binding (Completes D x)
      (x.issueRefreshResponse ex b details) w := by
  unfold Request.issueRefreshResponse
  by_cases hgrace : ex.inGrace = true
  · rw [if_pos hgrace]
    exact upholds_ret fun _ _ _ => ⟨fun _ _ hw => (by cases hw), fun hr => by cases hr⟩
  rw [if_neg hgrace]
  refine upholds_now fun w₁ hG₁ h₁ => ?_
  cases x.lookups.authContext ex with
  | none => exact upholds_refuse serverError rfl w₁
  | some authCtx =>
    dsimp only
    cases requireAuthTimeForIDToken x.client ex.scope authCtx.authTime with
    | error refusal => exact upholds_refuse refusal rfl w₁
    | ok _ =>
      split_ifs with hprior
      · exact upholds_refuse serverError rfl w₁
      have hclosed := upholds_harmless (D := D) (H := binding)
        (calls_refuseIssuanceUnderClosedGrant (x.lookups.closedBeforeMint ex)
          (refreshIssuedUnderGrant ex)) w₁
      have hacc := fun hrot => (h (Bool.eq_false_of_not_eq_true hgrace) hrot).stable hG₁
      refine (hclosed.frame (F := fun w => x.deps.refreshTokenRotationDisabled = false →
        Accepted D x ex b w) (fun _ _ hG hF hrot => (hF hrot).stable hG) hacc).bind h₁
          fun r w₂ h₂ hr => ?_
      cases r with
      | some refusal => exact upholds_refuse refusal rfl w₂
      | none => exact upholds_mintAndRotate h₂ hr.2 authCtx details w₁.clock

lemma upholds_finishExchanged
    (h : ex.inGrace = false → x.deps.refreshTokenRotationDisabled = false →
      Spent D ex w ∧ ex.consumedID = x.token ∧ ex.clientID = x.client.id) (transactional : Bool)
    (details : List JsonObject) :
    Rotates D binding (Completes D x)
      (x.finishExchanged transactional details ex) w := by
  unfold Request.finishExchanged
  generalize (if transactional then x.lookups.revalidateDetails ex else .ok ()) = revalidated
  cases revalidated with
  | error refusal => exact upholds_refuse refusal rfl w
  | ok _ =>
    cases haccept : x.acceptExchanged ex with
    | error refusal => exact upholds_refuse refusal rfl w
    | ok b =>
      cases x.lookups.liveSubject ex with
      | failed => exact upholds_refuse serverError rfl w
      | deprovisioned => exact upholds_refuse _ rfl w
      | live =>
        refine upholds_issueRefreshResponse (fun hgrace hrot => ?_) details
        obtain ⟨hspent, hid, hclient⟩ := h hgrace hrot
        exact ⟨hspent, hid, hclient, haccept⟩

lemma upholds_completeRefreshToken (hw : Lineage D binding w.store) (transactional : Bool)
    (details : List JsonObject) :
    Rotates D binding (Completes D x)
      (x.completeRefreshToken transactional details) w := by
  have hexchange : Rotates D binding
      (Leaves D (newRefreshExchanger x.deps) x.exchangeInput)
      ((newRefreshExchanger x.deps).exchange x.exchangeInput) w := upholds_exchange w
  refine hexchange.bind hw fun a w₁ _ ha => ?_
  cases hres : a.result with
  | error err => exact upholds_refuse _ rfl w₁
  | ok ex =>
    exact upholds_finishExchanged (fun hgrace hrot => ha.spent ex hres hgrace hrot) transactional
      details

/-! ### Around the exchange -/

lemma calls_preflight : x.preflightRefreshBeforeConsume.Calls Harmless := by
  refine calls_ask trivial fun reply => ?_
  cases reply with
  | error err => cases err <;> trivial
  | ok rec =>
    dsimp only
    split_ifs
    · trivial
    · refine calls_ask trivial fun now => ?_
      cases x.preflightRecord rec now <;> trivial

lemma calls_cascade (c : Cascade) : c.run.Calls Harmless := by
  have hreplay : (revokeReplayedChain c.token >>= fun _ => pure ()).Calls Harmless := by
    refine Prog.Calls.bind ?_ fun _ => trivial
    unfold revokeReplayedChain
    split_ifs
    · trivial
    · exact calls_revokeChainBestEffort _
  unfold Cascade.run
  cases c.deprovisioned with
  | none => exact hreplay
  | some grantID =>
    dsimp only
    split_ifs
    · exact hreplay
    · exact calls_ask trivial fun _ => hreplay

lemma upholds_confirm (hw : Lineage D binding w.store) (h : Writes D x c.written w) :
    Rotates D binding (Writes D x) (x.confirm c) w := by
  unfold Request.confirm
  cases c.issued with
  | none => exact upholds_ret fun _ hG _ => h.stable hG
  | some issued =>
    have hclosed := upholds_harmless (D := D) (H := binding)
      (calls_refuseIssuanceUnderClosedGrant (x.lookups.closedAfterwards issued) issued) w
    refine (hclosed.frame (fun _ _ hG => Writes.stable hG) h).bind hw fun r w₁ _ hr => ?_
    cases r with
    | none => exact upholds_ret fun _ hG _ => hr.2.stable hG
    | some refusal => exact upholds_ret fun w₂ _ _ => writes_refused refusal w₂

lemma upholds_afterwards {written : Written} (hw : Lineage D binding w.store)
    (h : Writes D x written w) :
    Upholds (handleEndpoint D) (rotation D binding) (Writes D x)
      (onStore c.cascade.run >>= fun _ => pure written) w := by
  have hcascade := upholds_harmless (D := D) (H := binding) (calls_cascade c.cascade) w
  exact (upholds_onStore (hcascade.frame (fun _ _ hG => Writes.stable hG) h)).bind hw
    fun _ _ _ hr => fun _ hG _ => hr.2.stable hG

lemma refused_of_not_commits (h : c.rollback = true → ∃ refusal, c.written = .refused refusal)
    (hcommit : ¬commits c = true) : ∃ refusal, c.written = .refused refusal := by
  by_cases hroll : c.rollback = true
  · exact h hroll
  · cases hwritten : c.written with
    | refused refusal => exact ⟨refusal, rfl⟩
    | issued minted response => simp [commits, hroll, hwritten, Written.status] at hcommit
    | graceRetry ex b => simp [commits, hroll, hwritten, Written.status] at hcommit

lemma upholds_redeem (hw : Lineage D binding w.store) (details : List JsonObject) :
    Upholds (handleEndpoint D) (rotation D binding) (Writes D x) (x.redeem details) w := by
  unfold Request.redeem
  split_ifs with htx
  · intro w₁ _ h₁ e
    have hcomplete := upholds_completeRefreshToken (x := x) h₁ true details
    obtain ⟨h₂, hG₂, ⟨w', hsome⟩, hcommitted⟩ := handleEndpoint_transact (Q := Completes D x)
      (fun _ _ _ hG => Completes.stable hG) hcomplete h₁ e
    refine ⟨h₂, hG₂, ?_⟩
    generalize (handleEndpoint D e (.transact (x.completeRefreshToken true details)) w₁).1 = w₂
      at h₂ hcommitted ⊢
    generalize (handleEndpoint D e (.transact (x.completeRefreshToken true details)) w₁).2 = c
      at hsome hcommitted ⊢
    change Upholds _ _ _ (if commits c = true then _ else _) w₂
    by_cases hcommit : commits c = true
    · rw [if_pos hcommit]
      exact (upholds_onStore (upholds_confirm h₂ (hcommitted hcommit).writes)).bind h₂
        fun written w₃ h₃ hwritten => upholds_afterwards h₃ hwritten
    · obtain ⟨refusal, hrefused⟩ := refused_of_not_commits hsome.rollback hcommit
      rw [if_neg hcommit, hrefused]
      exact upholds_afterwards h₂ (writes_refused refusal w₂)
  · refine (upholds_onStore (upholds_completeRefreshToken hw false details)).bind hw
      fun c w₁ h₁ hc => ?_
    exact (upholds_onStore (upholds_confirm h₁ hc.writes)).bind h₁
      fun written w₂ h₂ hwritten => upholds_afterwards h₂ hwritten

def Answers (D : KeyDigest) (out : Handled) (w : World) : Prop := Writes D out.request out.written w

lemma upholds_handleRefreshToken (hw : Lineage D binding w.store) :
    Upholds (handleEndpoint D) (rotation D binding) (Answers D) x.handleRefreshToken w := by
  have hrefuse : ∀ (refusal : Refusal) (w : World), Upholds (handleEndpoint D) (rotation D binding)
      (Answers D) (pure ⟨x, .refused refusal⟩) w :=
    fun refusal _ w' _ _ => writes_refused refusal w'
  unfold Request.handleRefreshToken
  split_ifs
  · exact hrefuse _ w
  cases checkTokenScopeAllowlist x.deps x.client.id x.requestedScope with
  | error refusal => exact hrefuse refusal w
  | ok _ =>
    cases x.lookups.requestedDetails with
    | error refusal => exact hrefuse refusal w
    | ok requested =>
      have hpreflight := upholds_harmless (D := D) (H := binding) (calls_preflight (x := x)) w
      refine (upholds_onStore hpreflight).bind hw fun r w₁ h₁ _ => ?_
      cases r with
      | error refusal => exact hrefuse refusal w₁
      | ok presented =>
        dsimp only
        cases x.lookups.effectiveDetails presented requested with
        | error refusal => exact hrefuse refusal w₁
        | ok details =>
          exact (upholds_redeem h₁ details).bind h₁
            fun written w₂ _ hwritten => fun _ hG _ => hwritten.stable hG

end

/-! ### Every run of the endpoint -/

/-- In every run of the endpoint, whatever scopes, proofs and certificates its
requests come with: a record rotated from another, in any number of steps, keeps
its binding; a response to a rotation was issued for a stored record, its access
token keeps within the scope of every record above, the request has shown the
proof key and the certificate they are bound to, and the refresh token it hands
out is stored below. -/
theorem rotation_keeps_binding (D : KeyDigest) (clock : Time)
    (ms : List (Move Choices Surroundings Request))
    (hms : ∀ m ∈ ms, m.Ok Surroundings.Rootless fun _ => True) :
    let c := (refreshEndpoint D).execute (idle clock) ms
    let s := c.shared.store
    (∀ a b row row', Descends s.byParent a b → s.m.lookup a = some row →
        s.m.lookup b = some row' → Carries row row') ∧
      ∀ i out minted response, System.outcome c i = some out →
        out.written = .issued minted response →
        out.request.deps.refreshTokenRotationDisabled = false →
        (∃ row, s.m.lookup (D.hashKey out.request.token) = some row) ∧
          (∀ root row, Descends s.byParent root (D.hashKey out.request.token) →
            s.m.lookup root = some row → minted.scope ⊆ row.scope ∧
              Presents out.request row.dpopJKT row.mtlsCertThumbprint) ∧
          (response.refreshToken ≠ "" →
            D.hashKey response.refreshToken ∈ s.byParent.ids (D.hashKey out.request.token)) := by
  intro c s
  have hidle : Outlined (rotation D binding) (handleEndpoint D) (Answers D) (idle clock) :=
    ⟨lineage_new, fun i p hp => by simp [idle] at hp⟩
  have houtlined : Outlined (rotation D binding) (handleEndpoint D) (Answers D) c :=
    outlined_execute (Y := refreshEndpoint D) (fun _ _ hu hw => surroundings_disciplined hu hw)
      (fun _ _ _ hw => upholds_handleRefreshToken hw) hidle hms
  have hlineage : Lineage D binding s := houtlined.inv
  refine ⟨fun a b row row' hd hrow hrow' => carries_of_descends hlineage hd hrow hrow', ?_⟩
  intro i out minted response hout hwritten hrot
  have hwrites := (houtlined.threads i _ (System.outcome_eq_some.mp hout)).result houtlined.inv
  obtain ⟨⟨row, hrow, hscope, hpresents⟩, hlinked⟩ := hwrites minted response hwritten hrot
  refine ⟨⟨row, hrow⟩, fun root row₀ hd hrow₀ => ?_, fun hne => ?_⟩
  · have hcarries := carries_of_descends hlineage hd hrow₀ hrow
    refine ⟨hcarries.scope ▸ hscope, fun hne => ?_, ?_⟩
    · have hsame := hcarries.dpopJKT hne
      rw [← hsame] at hne ⊢
      exact hpresents.proof hne
    · rw [← hcarries.mtlsCertThumbprint]
      exact hpresents.certificate
  · obtain ⟨child, hchild, hparent⟩ := hlinked hne
    exact (mem_byParent_iff hlineage.wellFormed _ _).mpr ⟨child, _, hchild, hparent, rfl⟩

/-- Every lookup answers in the request's favour. -/
def willing : Lookups where
  requestedDetails := .ok []
  effectiveDetails _ _ := .ok []
  revalidateDetails _ := .ok ()
  liveSubject _ := .live
  authContext _ := some ⟨7, "", [], []⟩
  retirePriorOpaqueAccessTokens _ := true
  closedBeforeMint _ := .notClosed
  mintAccessToken _ := some "at"
  mintIDToken _ _ := some ""
  sealRetryResponse _ _ := some [1]
  closedAfterwards _ := .notClosed

def permissive (transactions : Bool) : Deps where
  scopes := none
  enabledGrants := none
  strictOfflineAccess := false
  dpop := true
  mtls := true
  requireSenderConstrainedTokens := false
  refreshTokenRotationDisabled := false
  refreshTokenGraceTTL := 0
  refreshTokenTTL := 100
  refreshTokenOfflineTTL := 0
  refreshRetryEncryption := true
  accessTokenTTL := 10
  grantManagementEnabled := false
  transactions := transactions

/-- A public client with the key "k" and the certificate "t". -/
def refreshing (token successor : String) (scope : List String) (transactions : Bool) :
    Request where
  deps := permissive transactions
  client := ⟨"c", true, "none", ["openid", "profile"], ["refresh_token"], false⟩
  token := token
  requestedScope := scope
  proof := some ⟨"k", "j"⟩
  certificate := .ok "t"
  fresh := ⟨successor, "x"⟩
  freshChainID := "y"
  lookups := willing

/-- "a" is rotated to "b" with part of its scope, call by call, and "b" to "d" in
one transaction. -/
def rotatedTwice : List (Move Choices Surroundings Request) :=
  let choices : Choices := ⟨ascending, fun _ => ⟨ascending, 0⟩⟩
  [.ambient (.root (newIssuer ⟨100⟩) ⟨"a", "x"⟩ 1
      { (default : IssueInput) with
        clientID := "c", subject := "u", grantID := "g", scope := ["openid", "profile"],
        origin := .authCode, dpopJKT := "k", mtlsCertThumbprint := "t" }),
    .start (refreshing "a" "b" ["openid"] false)] ++ List.replicate 8 (.act 0 choices) ++
  [.start (refreshing "b" "d" [] true)] ++ List.replicate 4 (.act 1 choices)

theorem rotation_keeps_binding_rotatedTwice :
    let c := (refreshEndpoint plainDigest).execute (idle 1) rotatedTwice
    (System.outcome c 0).map (fun out => out.written.status) = some 200 ∧
      (System.outcome c 1).map (fun out => out.written.status) = some 200 ∧
      ∃ row row', c.shared.store.m.lookup "#a" = some row ∧
        c.shared.store.m.lookup "#d" = some row' ∧ Carries row row' := by
  intro c
  have hms : ∀ m ∈ rotatedTwice, m.Ok Surroundings.Rootless fun _ => True := by
    simp only [rotatedTwice, List.forall_mem_append, List.forall_mem_cons,
      List.forall_mem_replicate, Move.Ok, Surroundings.Rootless, List.not_mem_nil, false_imp_iff,
      implies_true, and_true, or_true]
    rfl
  have hab : "#b" ∈ c.shared.store.byParent.ids "#a" := by decide +kernel
  have hbd : "#d" ∈ c.shared.store.byParent.ids "#b" := by decide +kernel
  have ha : (c.shared.store.m.lookup "#a").isSome = true := by decide +kernel
  have hd : (c.shared.store.m.lookup "#d").isSome = true := by decide +kernel
  obtain ⟨row, hrow⟩ := Option.isSome_iff_exists.mp ha
  obtain ⟨row', hrow'⟩ := Option.isSome_iff_exists.mp hd
  exact ⟨by decide +kernel, by decide +kernel, row, row', hrow, hrow',
    (rotation_keeps_binding plainDigest 1 rotatedTwice hms).1 "#a" "#d" row row'
      ((Relation.ReflTransGen.single hab).tail hbd) hrow hrow'⟩

/-- In every run of the endpoint, transactions included: what was rotated from a revoked
record, in any number of steps, is revoked and consumed; and the client, grant and parent
indexes list exactly the stored records. -/
theorem revoked_chain_closed (D : KeyDigest) (clock : Time)
    (ms : List (Move Choices Surroundings Request))
    (hms : ∀ m ∈ ms, m.Ok Surroundings.Rootless fun _ => True) :
    let s := ((refreshEndpoint D).execute (idle clock) ms).shared.store
    (∀ a b row row', Descends s.byParent a b → s.m.lookup a = some row →
        s.m.lookup b = some row' → row.revoked = true →
          row'.revoked = true ∧ row'.consumedAt.isSome = true) ∧
      WellFormed D s := by
  intro s
  have hidle : Outlined (rotation D binding) (handleEndpoint D) (Answers D) (idle clock) :=
    ⟨lineage_new, fun i p hp => by simp [idle] at hp⟩
  have h : Lineage D binding s := (outlined_execute (Y := refreshEndpoint D)
    (fun _ _ hu hw => surroundings_disciplined hu hw)
    (fun _ _ _ hw => upholds_handleRefreshToken hw) hidle hms).inv
  refine ⟨fun a b row row' hd hrow hrow' hrevoked => ?_, h.wellFormed⟩
  have hclosed : row'.revoked = true := by
    induction hd generalizing row' with
    | refl =>
      rw [hrow, Option.some.injEq] at hrow'
      exact hrow' ▸ hrevoked
    | tail _ hstep ih =>
      obtain ⟨child, p, hchild, hp, hpk⟩ := (mem_byParent_iff h.wellFormed _ _).mp hstep
      obtain ⟨parent, hparent, _, _, hpasses⟩ := h.parent _ child p hchild hp
      rw [hchild, Option.some.injEq] at hrow'
      exact hrow' ▸ hpasses (ih parent (hpk ▸ hparent))
  exact ⟨hclosed, h.consumed b row' hrow' hclosed⟩

theorem revoked_chain_closed_rotatedTwice :
    let s := ((refreshEndpoint plainDigest).execute (idle 1)
      (rotatedTwice ++ [.ambient (.revokeChain ascending "a")])).shared.store
    ∃ row', s.m.lookup "#d" = some row' ∧ row'.revoked = true ∧ row'.consumedAt.isSome = true := by
  intro s
  have hab : "#b" ∈ s.byParent.ids "#a" := by decide +kernel
  have hbd : "#d" ∈ s.byParent.ids "#b" := by decide +kernel
  have ha : (s.m.lookup "#a").map (·.revoked) = some true := by decide +kernel
  have hd : (s.m.lookup "#d").isSome = true := by decide +kernel
  obtain ⟨row, hrow, hrevoked⟩ := Option.map_eq_some_iff.mp ha
  obtain ⟨row', hrow'⟩ := Option.isSome_iff_exists.mp hd
  refine ⟨row', hrow', (revoked_chain_closed plainDigest 1 _ ?_).1 "#a" "#d" row row'
    ((Relation.ReflTransGen.single hab).tail hbd) hrow hrow' hrevoked⟩
  simp only [rotatedTwice, List.forall_mem_append, List.forall_mem_cons,
    List.forall_mem_replicate, Move.Ok, Surroundings.Rootless, List.not_mem_nil, false_imp_iff,
    implies_true, and_true, or_true]
  rfl

end OidcProvider.ChainBinding
