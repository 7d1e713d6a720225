import OidcProvider.CredentialLedger
import OidcProvider.TokenExits

/-!
# Issuance against a grant teardown

An exit of the token endpoint persists its credentials and then asks whether the
grant is closed; a teardown of the whole grant sweeps the stores and writes the
tombstone that closes it. Both go call by call on the same substores, any number
of each, in any interleaving. A credential that is released yet not revoked when
the teardown is done was persisted after the sweep of its store and checked
before the tombstone; where the tombstone comes before the sweep this cannot be.
-/
namespace OidcProvider.GrantClosure
open FiniteMaps StoreRecords TokenRows AccessTokenStores RefreshTokenStore
open ResumptionPrograms RowMarking Teardown CredentialLedger TokenExits

inductive Party where
  | exit (x : Exit)
  | teardown (now : Time) (reason grantID : String)

abbrev Moves := List (Move Chance Empty Party)

inductive Report where
  | exit (x : Exit) (response : Response)
  | teardown (now : Time) (reason grantID : String) (outcome : Outcome)
  deriving DecidableEq

def party (deps : Deps) : Party → Program Report
  | .exit x => do return .exit x (← x.issue deps)
  | .teardown now reason grantID => do
      return .teardown now reason grantID
        (← (grantTeardown deps now reason).run (wholeGrant grantID))

def issuance (D : KeyDigest) (deps : Deps) :
    System Substores Call Call.Reply Report Chance Empty Party where
  handle := handle D
  ambient u := nomatch u
  program := party deps

variable {grantID : String} {deps : Deps}

section
variable {D : KeyDigest}

/-! ### What an exit persists -/

/-- A row an exit persists: its table, the call that saves it, its key and group. -/
structure Entry (D : KeyDigest) where
  V : Type
  G : Type
  table : Table D V G
  save : Call
  key : String
  group : G

def opaqueEntry (D : KeyDigest) (grantID : String) (tok : OpaqueAccessToken) : Entry D :=
  ⟨_, _, opaqueTable D, .saveOpaque (opaqueRow grantID tok), D.hashKey tok.id, grantID⟩

def registryEntry (D : KeyDigest) (grantID : String) (rec : AccessTokenRecord) : Entry D :=
  ⟨_, _, registryTable D, .register (registryRow grantID rec), rec.jti, grantID⟩

def refreshEntry (D : KeyDigest) (grantID : String) (mint : RefreshMint) : Entry D :=
  ⟨_, _, refreshTable D, mint.saveCall grantID, D.hashKey mint.token.id,
    ⟨grantID, mint.token.parentID⟩⟩

def accessEntries (D : KeyDigest) (deps : Deps) (grantID : String) : AccessToken → List (Entry D)
  | .opaqueToken tok => [opaqueEntry D grantID tok]
  | .jwt _ rec => if registers deps then [registryEntry D grantID rec] else []

def refreshEntries (D : KeyDigest) (grantID : String) : Option RefreshMint → List (Entry D)
  | none => []
  | some mint => [refreshEntry D grantID mint]

def AllPersisted (entries : List (Entry D)) (s : LoggedStores) : Prop :=
  ∀ en ∈ entries, ∃ before after,
    Persisted en.table en.save en.key en.group before after s

lemma AllPersisted.stable {entries : List (Entry D)} {s s' : LoggedStores}
    (hG : (discipline D).G s s') (h : AllPersisted entries s) : AllPersisted entries s' := by
  obtain ⟨log, hlog, hadv⟩ := hG
  intro en hen
  obtain ⟨before, after, hp⟩ := h en hen
  exact ⟨before, after ++ log, hp.advance _ hlog hadv⟩

/-- Whatever is returned, if the program succeeds the entries are persisted. -/
def Persists (entries : List (Entry D)) (r : Fallible String) (s : LoggedStores) : Prop :=
  ∀ wire, r = .ok wire → AllPersisted entries s

variable {s : LoggedStores}

lemma upholds_save (en : Entry D) (f : en.save.Reply → Fallible String)
    (h : ∀ e w wire, f (handle D e en.save w).2 = .ok wire →
      ∃ row, en.table.rows (handle D e en.save w).1 en.key = some row ∧
        en.table.group row = en.group ∧ en.table.marked row = false)
    (hInv : (discipline D).Inv s) : Assures D (Persists [en]) (do return f (← ask en.save)) s := by
  refine (upholds_ask (Q := fun r s' => Persists [en] (f r) s')
    (fun r s s' hG hs wire hr => (hs wire hr).stable hG) ?_).bind hInv
    fun r s' _ hQ s'' hG _ wire hr => (hQ wire hr).stable hG
  intro s' _ _ e wire hr en' hen
  cases List.mem_singleton.mp hen
  obtain ⟨row, hrow, hgroup, hmarked⟩ := h e s'.1 wire hr
  exact ⟨s'.2, [], .saved _ hrow hgroup hmarked⟩

lemma ok_of_map_ok {r : StoreReply} {a wire : String}
    (h : (r.map fun _ => a) = .ok wire) : r = .ok () := by
  cases r with
  | error e => cases h
  | ok _ => rfl

lemma upholds_error (entries : List (Entry D)) (e : StoreError) (s : LoggedStores) :
    Assures D (Persists entries) (pure (.error e)) s :=
  fun _ _ _ wire h => by cases h

lemma upholds_mintAccessToken (deps : Deps) (grantID : String) (a : AccessToken)
    (hInv : (discipline D).Inv s) :
    Assures D (Persists (accessEntries D deps grantID a)) (mintAccessToken deps grantID a) s := by
  cases a with
  | opaqueToken tok =>
    unfold mintAccessToken
    dsimp only
    split_ifs
    · exact upholds_error _ _ s
    · refine upholds_save (opaqueEntry D grantID tok) _ (fun e w wire h => ?_) hInv
      exact ⟨_, lookup_saveOpaque_ok (ok_of_map_ok h), rfl, rfl⟩
  | jwt signed rec =>
    unfold mintAccessToken accessEntries
    dsimp only
    by_cases hreg : registers deps = true
    · rw [if_pos hreg, if_pos hreg]
      refine upholds_save (registryEntry D grantID rec) _ (fun e w wire h => ?_) hInv
      exact ⟨_, lookup_register_ok (ok_of_map_ok h), rfl, rfl⟩
    · rw [if_neg hreg, if_neg hreg]
      exact fun s' _ _ wire _ en hen => by cases hen

lemma upholds_issueRefreshToken (deps : Deps) (grantID : String) (mint : Option RefreshMint)
    (hInv : (discipline D).Inv s) :
    Assures D (Persists (refreshEntries D grantID mint))
      (issueRefreshToken deps grantID mint) s := by
  cases mint with
  | none => exact fun s' _ _ wire _ en hen => by cases hen
  | some mint =>
    unfold issueRefreshToken
    split_ifs
    · exact upholds_error _ _ s
    · obtain ⟨token, contents⟩ := mint
      cases contents with
      | none =>
        refine upholds_save (refreshEntry D grantID ⟨token, none⟩) _ (fun e w wire h => ?_) hInv
        exact ⟨_, lookup_save (ok_of_map_ok h), rfl, rfl⟩
      | some contents =>
        refine upholds_save (refreshEntry D grantID ⟨token, some contents⟩) _
          (fun e w wire h => ?_) hInv
        exact ⟨_, lookup_saveRotationWithRetry (ok_of_map_ok h), rfl, rfl⟩

/-! ### The check -/

/-- The entries are persisted, and at the check that came later no tombstone that
refuses them had been written. -/
def AllCleared (entries : List (Entry D)) (grantID : String) (issuedAt : Time)
    (s : LoggedStores) : Prop :=
  ∀ en ∈ entries, ∃ before between after,
    Persisted en.table en.save en.key en.group before
      (between ++ Call.isIssuanceRevoked grantID issuedAt :: after) s ∧
    ∀ t : GrantTombstone, t.grantID = grantID → Closes t issuedAt →
      Call.revokeGrant t ∉ before ++ en.save :: between

variable {s : LoggedStores} {entries : List (Entry D)}

lemma AllCleared.stable {issuedAt : Time} {s' : LoggedStores}
    (hG : (discipline D).G s s') (h : AllCleared entries grantID issuedAt s) :
    AllCleared entries grantID issuedAt s' := by
  obtain ⟨log, hlog, hadv⟩ := hG
  intro en hen
  obtain ⟨before, between, after, hp, hopen⟩ := h en hen
  refine ⟨before, between, after ++ log, ?_, hopen⟩
  have hadvance := hp.advance _ hlog hadv
  rw [List.append_assoc, List.cons_append] at hadvance
  exact hadvance

lemma cleared_of_open {issuedAt : Time} (hInv : (discipline D).Inv s)
    (h : AllPersisted entries s) {e : Chance}
    (hopen : GrantRevocationStore.isIssuanceRevoked s.1.grantRevocations grantID issuedAt = false) :
    AllCleared entries grantID issuedAt
      (logHandle D e (.isIssuanceRevoked grantID issuedAt) s).1 := by
  intro en hen
  obtain ⟨before, after, hp⟩ := h en hen
  obtain ⟨log, hlog, hadv⟩ := (disciplined e (.isIssuanceRevoked grantID issuedAt) hInv).2
  refine ⟨before, after, [], ?_, fun t hgrant hcloses hmem => ?_⟩
  · have hone : log = [.isIssuanceRevoked grantID issuedAt] :=
      (List.append_cancel_left hlog).symm
    have hadvance := hp.advance _ hlog hadv
    rw [hone] at hadvance
    exact hadvance
  · rw [← hp.log] at hmem
    have hclosed := hInv.2 t issuedAt hmem hcloses
    rw [hgrant, hopen] at hclosed
    cases hclosed

lemma upholds_then_return {A B : Type} (p : Program A) {b : B} {Q : B → LoggedStores → Prop}
    (hInv : (discipline D).Inv s) (h : ∀ s', Q b s') :
    Assures D Q (do let _ ← p; return b) s :=
  (upholds_any p s).bind hInv fun _ _ _ _ s'' _ _ => h s''

lemma upholds_refuseIssuance (hwired : deps.grantRevocations = true) (now : Time)
    (issued : IssuedUnderGrant) (hInv : (discipline D).Inv s) (h : AllPersisted entries s) :
    Assures D (fun c s' => c = .proceed → issued.grantID ≠ "" →
        AllCleared entries issued.grantID issued.issuedAt s')
      (refuseIssuanceUnderClosedGrant deps now issued) s := by
  unfold refuseIssuanceUnderClosedGrant
  by_cases hg : issued.grantID = ""
  · rw [if_pos (.inr hg)]
    exact fun _ _ _ _ hne => absurd hg hne
  · rw [if_neg (by simp [hwired, hg])]
    refine (upholds_ask (o := .isIssuanceRevoked issued.grantID issued.issuedAt)
      (Q := fun r s' => r = .ok false → AllCleared entries issued.grantID issued.issuedAt s')
      (fun r s s' hG hs hr => (hs hr).stable hG) ?_).bind hInv ?_
    · intro s' hG hInv' e hr
      exact cleared_of_open hInv' (h.stable hG) (Except.ok.inj hr)
    · intro r s' hInv' hr
      match r with
      | .ok false => exact fun s'' hG _ _ _ => (hr rfl).stable hG
      | .ok true => exact upholds_then_return _ hInv' fun _ h => by cases h
      | .error _ => exact upholds_then_return _ hInv' fun _ h => by cases h

lemma upholds_issue (hwired : deps.grantRevocations = true) (x : Exit)
    (hInv : (discipline D).Inv s) :
    Assures D (fun r s' => r = .released → x.grantID ≠ "" →
        AllCleared (accessEntries D deps x.grantID x.accessToken ++
          refreshEntries D x.grantID x.refreshToken) x.grantID x.issuedAt s')
      (x.issue deps) s := by
  refine (upholds_mintAccessToken deps x.grantID x.accessToken hInv).bind hInv ?_
  intro r s₁ hInv₁ haccess
  match r with
  | .error _ => exact fun _ _ _ h => by cases h
  | .ok accessToken =>
    have haccess := haccess accessToken rfl
    split_ifs
    · exact upholds_then_return _ hInv₁ fun _ h => by cases h
    · refine ((upholds_issueRefreshToken deps x.grantID x.refreshToken hInv₁).frame
        (fun s s' hG h => AllPersisted.stable hG h) haccess).bind hInv₁ ?_
      intro r s₂ hInv₂ ⟨hrefresh, haccess⟩
      match r with
      | .error _ => exact upholds_then_return _ hInv₂ fun _ h => by cases h
      | .ok refreshToken =>
        have hall : AllPersisted (accessEntries D deps x.grantID x.accessToken ++
            refreshEntries D x.grantID x.refreshToken) s₂ := fun en hen =>
          (List.mem_append.mp hen).elim (haccess en) (hrefresh refreshToken rfl en)
        refine (upholds_refuseIssuance hwired x.now
          ⟨x.grantID, x.issuedAt, accessToken, refreshToken⟩ hInv₂ hall).bind hInv₂ ?_
        intro c s₃ _ hcleared
        cases c with
        | proceed => exact fun s' hG _ _ hg => (hcleared rfl hg).stable hG
        | refused => exact fun _ _ _ h => by cases h
        | serverError => exact fun _ _ _ h => by cases h

/-! ### The teardown -/

section Rungs
variable (r : Revoker) (grantID : String)

def jwtRung : List Call :=
  match r.strategy with
  | .none => []
  | .jtiRegistry => if r.accessTokens then [.revokeByGrant grantID] else []
  | .grantTombstone => [.revokeGrant (r.issuanceTombstone grantID)]

def opaqueRung : List Call :=
  if r.opaqueAccessTokens then [.revokeOpaqueByGrant grantID] else []

def issuanceRung : List Call :=
  if r.strategy = .grantTombstone then [] else [.revokeGrant (r.issuanceTombstone grantID)]

def refreshRung : List Call := if r.refreshTokens then [.revokeRefreshByGrant grantID] else []

/-- The calls of a teardown of the whole grant, in their order. -/
def rungs : List Call :=
  jwtRung r grantID ++ opaqueRung r grantID ++ issuanceRung r grantID ++ refreshRung r grantID

end Rungs

variable {r : Revoker}

lemma tombstone_mem_rungs (r : Revoker) (grantID : String) :
    Call.revokeGrant (r.issuanceTombstone grantID) ∈ rungs r grantID := by
  unfold rungs jwtRung issuanceRung
  cases r.strategy <;> simp

/-- The refresh rung comes after the tombstone, whatever the strategy. -/
theorem tombstone_before_refresh (h : r.refreshTokens = true) (grantID : String) :
    [Call.revokeGrant (r.issuanceTombstone grantID), .revokeRefreshByGrant grantID].Sublist
      (rungs r grantID) := by
  have htomb : [Call.revokeGrant (r.issuanceTombstone grantID)].Sublist
      (jwtRung r grantID ++ opaqueRung r grantID ++ issuanceRung r grantID) := by
    unfold jwtRung issuanceRung
    cases r.strategy <;> simp
  have hrung : refreshRung r grantID = [.revokeRefreshByGrant grantID] := if_pos h
  unfold rungs
  rw [hrung]
  exact htomb.append (List.Sublist.refl _)

/-- Under the tombstone strategy the opaque rung comes after the tombstone. -/
theorem tombstone_before_opaqueRung (h : r.opaqueAccessTokens = true)
    (hs : r.strategy = .grantTombstone) (grantID : String) :
    [Call.revokeGrant (r.issuanceTombstone grantID), .revokeOpaqueByGrant grantID].Sublist
      (rungs r grantID) := by
  unfold rungs jwtRung opaqueRung
  rw [hs, if_pos h, List.append_assoc]
  exact List.sublist_append_left _ _

lemma opaque_mem_rungs (h : r.opaqueAccessTokens = true) (grantID : String) :
    Call.revokeOpaqueByGrant grantID ∈ rungs r grantID := by
  simp [rungs, opaqueRung, h]

lemma registry_mem_rungs (h : r.accessTokens = true) (hs : r.strategy = .jtiRegistry)
    (grantID : String) : Call.revokeByGrant grantID ∈ rungs r grantID := by
  simp [rungs, jwtRung, h, hs]

/-- The calls were made, in this order, perhaps with others in between. -/
def Made (calls : List Call) (s : LoggedStores) : Prop := calls.Sublist s.2

variable {s : LoggedStores} {calls : List Call} {r : Revoker}

lemma Made.stable {s' : LoggedStores} (hG : (discipline D).G s s') (h : Made calls s) :
    Made calls s' := by
  obtain ⟨log, hlog, _⟩ := hG
  unfold Made
  rw [hlog]
  exact h.trans (List.sublist_append_left _ _)

lemma upholds_rung (o : Call) (h : Made calls s) :
    Assures D (fun _ => Made (calls ++ [o])) (ask o) s := by
  refine upholds_ask (fun _ _ _ hG hm => hm.stable hG) fun s' hG _ e => ?_
  exact (h.stable hG).append (List.Sublist.refl [o])

lemma upholds_note {o : Call} (hInv : (discipline D).Inv s) (f : o.Reply → Outcome)
    (h : Made calls s) :
    Assures D (fun _ => Made (calls ++ [o])) (do return f (← ask o)) s :=
  (upholds_rung o h).bind hInv fun _ _ _ hm _ hG _ => hm.stable hG

lemma upholds_skip {A : Type} (a : A) (h : Made calls s) :
    Assures D (fun _ => Made (calls ++ [])) (pure a) s := by
  rw [List.append_nil]
  exact fun _ hG _ => h.stable hG

lemma upholds_jwtRung (hwired : r.grantRevocations = true) (hg : grantID ≠ "")
    (calls : List Call) (h : Made calls s) :
    Assures D (fun _ => Made (calls ++ jwtRung r grantID))
      (r.opts.revokeJWTAccessTokensByGrant grantID r.now r.tombstoneRetention r.reason false)
        s := by
  unfold Opts.revokeJWTAccessTokensByGrant jwtRung
  have hstrategy : r.opts.strategy = r.strategy := rfl
  rw [hstrategy]
  cases r.strategy with
  | none => exact upholds_skip _ h
  | jtiRegistry =>
    by_cases hat : r.accessTokens = true
    · rw [if_pos hat, if_pos (show r.opts.accessTokens = true from hat)]
      exact upholds_rung _ h
    · rw [if_neg hat, if_neg (show ¬r.opts.accessTokens = true from hat)]
      exact upholds_skip _ h
  | grantTombstone =>
    dsimp only
    rw [if_pos ⟨hwired, hg⟩]
    exact upholds_rung _ h

lemma owesIssuanceClosure_wholeGrant (hwired : r.grantRevocations = true) (grantID : String) :
    r.owesIssuanceClosure (wholeGrant grantID) = !decide (r.strategy = .grantTombstone) := by
  unfold Revoker.owesIssuanceClosure Revoker.jwtRungClosesIssuance wholeGrant
  rw [hwired]
  cases r.strategy <;> rfl

lemma upholds_teardown (hwired : r.grantRevocations = true) (hg : grantID ≠ "")
    (hInv : (discipline D).Inv s) :
    Assures D (fun _ => Made (rungs r grantID)) (r.run (wholeGrant grantID)) s := by
  change Upholds _ _ _ (r.runGrant (wholeGrant grantID)) s
  unfold Revoker.runGrant
  rw [if_neg (show ¬(wholeGrant grantID).grantID = "" from hg)]
  refine Upholds.bind (Q := fun _ => Made (jwtRung r grantID ++ opaqueRung r grantID)) ?_ hInv ?_
  · refine (upholds_jwtRung hwired hg [] (List.nil_sublist _)).bind hInv ?_
    intro _ s₁ hInv₁ h₁
    unfold opaqueRung
    by_cases ho : r.opaqueAccessTokens = true
    · rw [if_pos ho, if_pos ho]
      exact upholds_note hInv₁ _ h₁
    · rw [if_neg ho, if_neg ho]
      exact upholds_skip _ h₁
  intro out s₂ hInv₂ h₂
  refine Upholds.bind
    (Q := fun _ => Made (jwtRung r grantID ++ opaqueRung r grantID ++ issuanceRung r grantID))
    ?_ hInv₂ ?_
  · unfold Revoker.closeIssuance issuanceRung
    rw [owesIssuanceClosure_wholeGrant hwired]
    by_cases hs : r.strategy = .grantTombstone
    · rw [if_pos hs, if_neg (by simp [hs])]
      exact upholds_skip _ h₂
    · rw [if_neg hs, if_pos (by simp [hs])]
      exact upholds_note hInv₂ _ h₂
  intro out s₃ hInv₃ h₃
  unfold Revoker.revokeGrantRefreshTokens rungs refreshRung
  by_cases hr : r.refreshTokens = true
  · rw [if_pos hr, if_pos (by simp [hr, wholeGrant])]
    exact upholds_note hInv₃ _ h₃
  · rw [if_neg hr, if_neg (by simp [hr])]
    exact upholds_skip _ h₃

/-! ### The handshake -/

lemma sublist_pair_of_notMem {O : Type} {a b c : O} {p q : List O} (ha : a ∉ p) (hne : a ≠ c)
    (h : [a, b].Sublist (p ++ c :: q)) : b ∈ q := by
  obtain ⟨l₁, l₂, heq, hl₁, hl₂⟩ := List.sublist_append_iff.mp h
  cases l₁ with
  | cons a' l₁ =>
    obtain ⟨rfl, _⟩ := List.cons_eq_cons.mp heq
    exact absurd (hl₁.subset (by simp)) ha
  | nil =>
    subst heq
    have htail := List.Sublist.of_cons_of_ne hne hl₂
    exact htail.subset (by simp)

def Revoked (en : Entry D) (w : Substores) : Prop :=
  ∃ row, en.table.rows w en.key = some row ∧ en.table.marked row = true

lemma Revoked.any {en : Entry D} {w : Substores} (h : Revoked en w) :
    (en.table.rows w en.key).any en.table.marked = true := by
  obtain ⟨row, hrow, hmarked⟩ := h
  rw [hrow]
  exact hmarked

section Handshake
variable {en : Entry D} {grantID : String} {issuedAt : Time} {s : LoggedStores}
  (hcleared : AllCleared [en] grantID issuedAt s) {t : GrantTombstone}
  (hgrant : t.grantID = grantID) (hcloses : Closes t issuedAt) (rung : Call)
  (hmust : en.table.must rung en.key en.group)
include hcleared hgrant hcloses hmust

lemma revoked_of_tombstone_first (h : Made [.revokeGrant t, rung] s) : Revoked en s.1 := by
  obtain ⟨before, between, after, hp, hopen⟩ := hcleared en (List.mem_singleton_self en)
  obtain ⟨row, hrow, _, hmark, _⟩ := hp.row
  refine ⟨row, hrow, hmark ⟨rung, ?_, hmust⟩⟩
  unfold Made at h
  rw [hp.log, ← List.cons_append, ← List.append_assoc] at h
  have hmem := sublist_pair_of_notMem (hopen t hgrant hcloses) (fun h => by cases h) h
  exact List.mem_append_right _ (List.mem_cons_of_mem _ hmem)

/-- A cleared row is swept, unless it was persisted after the sweep and checked
before the tombstone. -/
theorem revoked_or_overtaken (hne : rung ≠ en.save) (hrung : rung ∈ s.2)
    (htomb : Call.revokeGrant t ∈ s.2) :
    Revoked en s.1 ∨
      Made [rung, en.save, .isIssuanceRevoked grantID issuedAt, .revokeGrant t] s := by
  obtain ⟨before, between, after, hp, hopen⟩ := hcleared en (List.mem_singleton_self en)
  obtain ⟨row, hrow, _, hmark, _⟩ := hp.row
  by_cases hlate : rung ∈ between ++ Call.isIssuanceRevoked grantID issuedAt :: after
  · exact .inl ⟨row, hrow, hmark ⟨rung, hlate, hmust⟩⟩
  · right
    have hbefore : rung ∈ before := by
      rw [hp.log, List.mem_append, List.mem_cons] at hrung
      exact hrung.resolve_right fun h => h.elim hne hlate
    have hafter : Call.revokeGrant t ∈ after := by
      rw [hp.log, ← List.cons_append, ← List.append_assoc, List.mem_append] at htomb
      have hmem := htomb.resolve_left (hopen t hgrant hcloses)
      exact (List.mem_cons.mp hmem).resolve_left fun h => by cases h
    have hcheck : [Call.isIssuanceRevoked grantID issuedAt, .revokeGrant t].Sublist
        (between ++ Call.isIssuanceRevoked grantID issuedAt :: after) :=
      (List.Sublist.cons_cons _ (List.singleton_sublist.mpr hafter)).trans
        (List.sublist_append_right _ _)
    unfold Made
    rw [hp.log]
    exact (List.singleton_sublist.mpr hbefore).append (hcheck.cons_cons en.save)

end Handshake

/-! ### Runs -/

/-- What an exit that was released had wired. -/
structure Wired (deps : Deps) (x : Exit) : Prop where
  opaqueTokens : ∀ tok, x.accessToken = .opaqueToken tok → deps.opaqueAccessTokens = true
  refreshTokens : ∀ mint, x.refreshToken = some mint → deps.refreshTokens = true

lemma issue_returns_wired (deps : Deps) (x : Exit) :
    (x.issue deps).Returns fun r => r = .released → Wired deps x := by
  have haccess : (mintAccessToken deps x.grantID x.accessToken).Returns fun r =>
      ∀ wire, r = .ok wire → ∀ tok, x.accessToken = .opaqueToken tok →
        deps.opaqueAccessTokens = true := by
    cases x.accessToken with
    | jwt signed rec => exact (Prog.returns_true _).mono fun _ _ _ _ _ h => by cases h
    | opaqueToken tok =>
      unfold mintAccessToken
      dsimp only
      split_ifs with hwired
      · exact fun _ h => by cases h
      · exact (Prog.returns_true _).mono fun _ _ _ _ _ _ => by simpa using hwired
  have hrefresh : (issueRefreshToken deps x.grantID x.refreshToken).Returns fun r =>
      ∀ wire, r = .ok wire → ∀ mint, x.refreshToken = some mint → deps.refreshTokens = true := by
    cases x.refreshToken with
    | none => exact (Prog.returns_true _).mono fun _ _ _ _ _ h => by cases h
    | some mint =>
      unfold issueRefreshToken
      split_ifs with hwired
      · exact fun _ h => by cases h
      · exact (Prog.returns_true _).mono fun _ _ _ _ _ _ => by simpa using hwired
  refine haccess.bind fun r hr => ?_
  match r with
  | .error _ => exact fun h => by cases h
  | .ok accessToken =>
    split_ifs
    · exact (Prog.returns_true _).bind fun _ _ h => by cases h
    · refine hrefresh.bind fun r' hr' => ?_
      match r' with
      | .error _ => exact (Prog.returns_true _).bind fun _ _ h => by cases h
      | .ok refreshToken =>
        refine (Prog.returns_true _).bind fun c _ => ?_
        cases c with
        | proceed => exact fun _ => ⟨hr accessToken rfl, hr' refreshToken rfl⟩
        | refused => exact fun h => by cases h
        | serverError => exact fun h => by cases h

def Says (D : KeyDigest) (deps : Deps) : Report → LoggedStores → Prop
  | .exit x response, s => response = .released → Wired deps x ∧ (x.grantID ≠ "" →
      AllCleared (accessEntries D deps x.grantID x.accessToken ++
        refreshEntries D x.grantID x.refreshToken) x.grantID x.issuedAt s)
  | .teardown now reason grantID outcome, s => outcome.complete = true →
      grantID ≠ "" ∧ Made (rungs (grantTeardown deps now reason) grantID) s

lemma upholds_party (hwired : deps.grantRevocations = true) (x : Party)
    {s : LoggedStores} (hInv : (discipline D).Inv s) :
    Assures D (Says D deps) (party deps x) s := by
  cases x with
  | exit x =>
    refine ((upholds_issue hwired x hInv).returns (issue_returns_wired deps x)).bind hInv ?_
    rintro response s' _ ⟨hcleared, hw⟩ s'' hG _ hreleased
    exact ⟨hw hreleased, fun hg => (hcleared hreleased hg).stable hG⟩
  | teardown now reason grantID =>
    by_cases hg : grantID = ""
    · subst hg
      exact fun _ _ _ h => by cases h
    · refine (upholds_teardown (r := grantTeardown deps now reason) hwired hg hInv).bind hInv ?_
      exact fun _ s' _ hmade s'' hG _ _ => ⟨hg, hmade.stable hG⟩

end

def storesAfter (D : KeyDigest) (clients : Finset String) (history : List (Chance × Call)) :
    Substores :=
  history.foldl (fun w c => (handle D c.1 c.2 w).1) (newSubstores clients)

lemma coherent_storesAfter (D : KeyDigest) (clients : Finset String)
    (history : List (Chance × Call)) : Coherent D (storesAfter D clients history) := by
  have hrun : ∀ (w : Substores), Coherent D w →
      Coherent D (history.foldl (fun w c => (handle D c.1 c.2 w).1) w) := by
    induction history with
    | nil => exact fun w h => h
    | cons c cs ih => exact fun w h => ih _ (coherent_handle h c.1 c.2)
  exact hrun _ (coherent_new clients)

lemma says_of_outcome {D : KeyDigest} (hwired : deps.grantRevocations = true)
    {w : Substores} (hw : Coherent D w) (ms : Moves) {i : ℕ}
    {report : Report}
    (h : System.outcome ((issuance D deps).execute ⟨w, []⟩ ms) i = some report) :
    Says D deps report (((issuance D deps).execute ⟨w, []⟩ ms).shared,
      (issuance D deps).calls ⟨w, []⟩ ms) :=
  outlined_outcome (Y := issuance D deps) (fun o _ => o)
    (fun x _ hInv => upholds_party hwired x hInv) ⟨hw, fun _ _ hmem => by cases hmem⟩ ms h

/-- Once an exit has released its response and a complete teardown of its grant,
dated no earlier than what the exit redeemed, is done, the refresh token of the
exit is revoked. So is its opaque access token and its registered JWT access
token, unless the call that saved the row came after the sweep of its store and
the check of the exit before the tombstone; under the tombstone strategy the
tombstone comes first. -/
theorem no_credential_outlives_teardown (D : KeyDigest) (deps : Deps)
    (hwired : deps.grantRevocations = true) (clients : Finset String)
    (history : List (Chance × Call)) (ms : Moves) {i j : ℕ} {x : Exit}
    {now : Time} {reason : String} {outcome : Outcome}
    (hexit : System.outcome ((issuance D deps).execute ⟨storesAfter D clients history, []⟩ ms) i =
      some (.exit x .released))
    (hteardown : System.outcome ((issuance D deps).execute ⟨storesAfter D clients history, []⟩ ms)
      j = some (.teardown now reason x.grantID outcome))
    (hcomplete : outcome.complete = true) (hissued : x.issuedAt ≤ now) (hnow : 0 < now) :
    let w := ((issuance D deps).execute ⟨storesAfter D clients history, []⟩ ms).shared
    let calls := (issuance D deps).calls ⟨storesAfter D clients history, []⟩ ms
    let tombstone := (grantTeardown deps now reason).issuanceTombstone x.grantID
    (∀ tok, x.accessToken = .opaqueToken tok →
      (deps.strategy = .grantTombstone ∨ ¬[Call.revokeOpaqueByGrant x.grantID,
        .saveOpaque (opaqueRow x.grantID tok), .isIssuanceRevoked x.grantID x.issuedAt,
        .revokeGrant tombstone].Sublist calls) →
      (w.opaqueAccessTokens.m.lookup (D.hashKey tok.id)).any (·.revoked) = true) ∧
    (∀ signed rec, x.accessToken = .jwt signed rec → registers deps = true →
      ¬[Call.revokeByGrant x.grantID, .register (registryRow x.grantID rec),
        .isIssuanceRevoked x.grantID x.issuedAt, .revokeGrant tombstone].Sublist calls →
      (w.accessTokens.m.lookup rec.jti).any (·.revoked) = true) ∧
    ∀ mint, x.refreshToken = some mint →
      (w.refreshTokens.m.lookup (D.hashKey mint.token.id)).any (·.revoked) = true := by
  have hw := coherent_storesAfter D clients history
  obtain ⟨hwiring, hcleared⟩ := says_of_outcome hwired hw ms hexit rfl
  obtain ⟨hg, hmade⟩ := says_of_outcome hwired hw ms hteardown hcomplete
  have hcleared := hcleared hg
  have hcloses : Closes ((grantTeardown deps now reason).issuanceTombstone x.grantID) x.issuedAt :=
    ⟨hg, rfl, hnow, hissued⟩
  intro w calls tombstone
  have hone : ∀ en ∈ accessEntries D deps x.grantID x.accessToken ++
      refreshEntries D x.grantID x.refreshToken, AllCleared [en] x.grantID x.issuedAt (w, calls) :=
    fun en hen en' hen' => hcleared en' (List.mem_singleton.mp hen' ▸ hen)
  have htomb : Call.revokeGrant tombstone ∈ calls := hmade.subset (tombstone_mem_rungs _ _)
  refine ⟨fun tok htok hsafe => ?_, fun signed rec hrec hreg hsafe => ?_, fun mint hmint => ?_⟩
  · have hopaque := hwiring.opaqueTokens tok htok
    have hcl := hone (opaqueEntry D x.grantID tok) (by simp [htok, accessEntries])
    have hrevoked : Revoked (opaqueEntry D x.grantID tok) w := by
      rcases hsafe with hs | hsafe
      · exact revoked_of_tombstone_first hcl rfl hcloses (.revokeOpaqueByGrant x.grantID)
          ⟨rfl, hg⟩ ((tombstone_before_opaqueRung hopaque hs x.grantID).trans hmade)
      · refine (revoked_or_overtaken hcl rfl hcloses (.revokeOpaqueByGrant x.grantID)
          ⟨rfl, hg⟩ (fun h => by cases h) ?_ htomb).resolve_right hsafe
        exact hmade.subset (opaque_mem_rungs hopaque x.grantID)
    exact hrevoked.any
  · have hcl := hone (registryEntry D x.grantID rec) (by simp [hrec, accessEntries, hreg])
    obtain ⟨hs, hat⟩ : deps.strategy = .jtiRegistry ∧ deps.accessTokens = true := by
      simpa [registers] using hreg
    have hrevoked : Revoked (registryEntry D x.grantID rec) w := by
      refine (revoked_or_overtaken hcl rfl hcloses (.revokeByGrant x.grantID)
        ⟨rfl, hg⟩ (fun h => by cases h) ?_ htomb).resolve_right hsafe
      exact hmade.subset (registry_mem_rungs hat hs x.grantID)
    exact hrevoked.any
  · have hcl := hone (refreshEntry D x.grantID mint) (by simp [hmint, refreshEntries])
    have hrevoked : Revoked (refreshEntry D x.grantID mint) w :=
      revoked_of_tombstone_first hcl rfl hcloses (.revokeRefreshByGrant x.grantID)
        ⟨rfl, hg⟩
        ((tombstone_before_refresh (hwiring.refreshTokens mint hmint) x.grantID).trans hmade)
    exact hrevoked.any

/-! ### Two runs -/

/-- A deployment with all substores under the registry strategy. -/
def registryDeps : Deps := ⟨true, true, true, true, .jtiRegistry, Time.hour⟩

def sampleOpaque : OpaqueAccessToken :=
  ⟨"at", "", "subject", "client", ["openid"], "", "", [], 0, [], [], true, "", "", "", 6, 100,
    false⟩

def sampleRefresh : RefreshToken :=
  { (default : RefreshToken) with
    id := "rt", clientID := "client", expiresAt := 100, createdAt := 6 }

def sampleRecord : AccessTokenRecord :=
  ⟨"jti", "", "subject", "client", ["openid"], 6, 100, false⟩

/-- An exit that redeems a code issued at 5 under the grant. -/
def exitWith (accessToken : AccessToken) : Exit :=
  ⟨"g", 5, 6, accessToken, true, some ⟨sampleRefresh, none⟩⟩

def acts (is : List ℕ) : Moves :=
  is.map fun i => .act i ⟨8, ascending⟩

/-- The exit and a teardown at 7, with their calls in the given order. -/
def schedule (accessToken : AccessToken) (is : List ℕ) : Moves :=
  [.start (.exit (exitWith accessToken)), .start (.teardown 7 "code_replay" "g")] ++ acts is

def exitFirst : Moves :=
  schedule (.opaqueToken sampleOpaque) [0, 0, 0, 1, 1, 1, 1]

/-- The exit runs between the opaque rung and the tombstone. -/
def exitBetween (accessToken : AccessToken) : Moves :=
  schedule accessToken [1, 1, 0, 0, 0, 1, 1]

/-- The run of a schedule, from empty substores. -/
abbrev registryRun (ms : Moves) :=
  (issuance plainDigest registryDeps).execute ⟨storesAfter plainDigest ∅ [], []⟩ ms

theorem no_credential_outlives_teardown_exitFirst :
    let w := (registryRun exitFirst).shared
    (w.opaqueAccessTokens.m.lookup "#at").any (·.revoked) = true ∧
      (w.refreshTokens.m.lookup "#rt").any (·.revoked) = true := by
  have hexit : System.outcome (registryRun exitFirst) 0 =
      some (.exit (exitWith (.opaqueToken sampleOpaque)) .released) := by decide +kernel
  have hteardown : System.outcome (registryRun exitFirst) 1 =
      some (.teardown 7 "code_replay" "g" {}) := by decide +kernel
  have hrun := no_credential_outlives_teardown plainDigest registryDeps rfl ∅ [] exitFirst hexit
    hteardown rfl (by decide) (by decide)
  exact ⟨hrun.1 sampleOpaque rfl (.inr (by decide +kernel)), hrun.2.2 ⟨sampleRefresh, none⟩ rfl⟩

/-- Under the registry strategy an access token of either form that is persisted
after its rung and checked before the tombstone is released and stays live. -/
theorem released_between_rung_and_tombstone :
    (∀ accessToken ∈ [AccessToken.opaqueToken sampleOpaque, .jwt "jwt" sampleRecord],
      let c := registryRun (exitBetween accessToken)
      System.outcome c 0 = some (.exit (exitWith accessToken) .released) ∧
        System.outcome c 1 = some (.teardown 7 "code_replay" "g" {})) ∧
    ((registryRun (exitBetween (.opaqueToken sampleOpaque))).shared.opaqueAccessTokens.m.lookup
      "#at").map (·.revoked) = some false ∧
    ((registryRun (exitBetween (.jwt "jwt" sampleRecord))).shared.accessTokens.m.lookup
      "jti").map (·.revoked) = some false := by
  refine ⟨by decide +kernel, by decide +kernel, by decide +kernel⟩

end OidcProvider.GrantClosure
