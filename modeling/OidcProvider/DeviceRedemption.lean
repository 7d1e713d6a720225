import OidcProvider.DevicePolls
import OidcProvider.ExclusiveWins
import OidcProvider.GrantClosure

/-!
# Redemption of one device code

Any number of polls of one device code, decisions of the user and revocations go
call by call on the same substores. `Consume` is a stake that one poll wins; the
rows a poll persists are stakes of their own, so that a poll retires only rows it
has saved itself. A revocation closes the record before it sweeps the grant:
whatever poll consumed the record had persisted its credentials before, and is
swept.
-/
namespace OidcProvider.DeviceRedemption
open FiniteMaps StoreRecords TokenRows AccessTokenStores RefreshTokenStore
open ResumptionPrograms RowMarking Teardown CredentialLedger TokenExits GrantClosure
open DevicePolls ExclusiveWins
open DeviceCodeStore (Terminal)
open RefreshEndpoint (Registry)

inductive Decision where
  | approve (deviceCode subject : String) (authTime : Time)
  | approveByUserCode (userCode subject : String) (authTime : Time)
  | deny (deviceCode reason : String)
  | denyByUserCode (userCode reason : String)
  | strike (deviceCode : String)
  | strikeByUserCode (userCode : String)
  deriving DecidableEq

def Decision.call : Decision → DeviceCodeStore.Call
  | .approve deviceCode subject authTime => .approve deviceCode subject authTime
  | .approveByUserCode userCode subject authTime => .approveByUserCode userCode subject authTime
  | .deny deviceCode reason => .deny deviceCode reason
  | .denyByUserCode userCode reason => .denyByUserCode userCode reason
  | .strike deviceCode => .incrementUserCodeStrike deviceCode
  | .strikeByUserCode userCode => .incrementUserCodeStrikeByUserCode userCode

inductive Party where
  | poll (x : Poll)
  | decide (d : Decision)
  | revoke (now : Time) (deviceCode reason : String)

inductive Report where
  | poll (x : Poll) (r : PollReport)
  | decided
  | revoked (deviceCode : String) (errors : List KitError)
  deriving DecidableEq

def party (scopes : Registry) (deps : Deps) (H : GrantDeriver) (deviceCode : String) :
    Party → Program Report
  | .poll x => do return .poll x (← handleDeviceCode scopes deps H deviceCode x)
  | .decide d => do
      let _ ← ask (.device d.call)
      return .decided
  | .revoke now code reason => do return .revoked code (← revoke deps H now code reason)

/-- Polls of the device code, decisions and revocations on shared substores. -/
def redemption (D : KeyDigest) (scopes : Registry) (deps : Deps) (H : GrantDeriver)
    (deviceCode : String) : System Substores Call Call.Reply Report Chance Empty Party where
  handle := handle D
  ambient u := nomatch u
  program := party scopes deps H deviceCode

/-! ### Which calls are made -/

def NoSave (o : Call) : Prop := ∀ code, o ≠ .device (.save code)

variable {P : Call → Prop} (deps : Deps) (now : Time) {o : Call}

lemma calls_ask (h : P o) : (ask o).Calls P := ⟨h, fun _ => trivial⟩

lemma retireIssued_eq (reason accessToken refreshToken : String) :
    retireIssued deps now reason accessToken refreshToken =
      ((if accessToken ≠ "" ∧ deps.opaqueAccessTokens = true then do
          return ({} : Outcome).note .opaqueAccessTokens (← ask (.revokeOpaqueByID accessToken))
        else return {}) : Program Outcome) >>= fun out =>
      if refreshToken ≠ "" ∧ deps.refreshTokens = true then do
        return out.note .refreshTokens (← ask (.revokeRefreshChain refreshToken))
      else return out := by
  change Revoker.runToken _ (issuedCredentials accessToken refreshToken) = _
  unfold Revoker.runToken
  simp only [issuedCredentials, grantTeardown, newRevoker, true_and]
  split_ifs <;> rfl

lemma calls_retireIssued {reason accessToken refreshToken : String}
    (haccess : accessToken ≠ "" → P (.revokeOpaqueByID accessToken))
    (hrefresh : refreshToken ≠ "" → P (.revokeRefreshChain refreshToken)) :
    (retireIssued deps now reason accessToken refreshToken).Calls P := by
  rw [retireIssued_eq]
  refine Prog.Calls.bind ?_ fun out => ?_
  · split_ifs with h
    · exact (calls_ask (haccess h.1)).bind fun _ => trivial
    · trivial
  · split_ifs with h
    · exact (calls_ask (hrefresh h.1)).bind fun _ => trivial
    · trivial

lemma calls_refuseIssuance {issued : IssuedUnderGrant}
    (hcheck : P (.isIssuanceRevoked issued.grantID issued.issuedAt))
    (haccess : issued.accessToken ≠ "" → P (.revokeOpaqueByID issued.accessToken))
    (hrefresh : issued.refreshToken ≠ "" → P (.revokeRefreshChain issued.refreshToken)) :
    (refuseIssuanceUnderClosedGrant deps now issued).Calls P := by
  unfold refuseIssuanceUnderClosedGrant
  split_ifs
  · trivial
  · refine ⟨hcheck, fun r => ?_⟩
    match r with
    | .ok false => trivial
    | .ok true => exact (calls_retireIssued deps now haccess hrefresh).bind fun _ => trivial
    | .error _ => exact (calls_retireIssued deps now haccess hrefresh).bind fun _ => trivial

lemma calls_mintAccessToken (grantID : String) (a : AccessToken)
    (haccessRow : ∀ tok, P (.saveOpaque tok)) (hregister : ∀ rec, P (.register rec)) :
    (mintAccessToken deps grantID a).Calls P := by
  cases a with
  | opaqueToken tok =>
    unfold mintAccessToken
    dsimp only
    split_ifs
    · trivial
    · exact ⟨haccessRow _, fun _ => trivial⟩
  | jwt signed rec =>
    unfold mintAccessToken
    dsimp only
    split_ifs
    · exact ⟨hregister _, fun _ => trivial⟩
    · trivial

lemma calls_issueRefreshToken (grantID : String) (mint : Option RefreshMint)
    (hsave : ∀ token, P (.saveRefresh token))
    (hrotation : ∀ token contents, P (.saveRotation token contents)) :
    (issueRefreshToken deps grantID mint).Calls P := by
  cases mint with
  | none => trivial
  | some mint =>
    unfold issueRefreshToken
    dsimp only
    split_ifs
    · trivial
    · cases mint.contents with
      | none => exact ⟨hsave _, fun _ => trivial⟩
      | some contents => exact ⟨hrotation _ _, fun _ => trivial⟩

lemma calls_lookupDeviceCode {deviceCode : String} (x : Poll)
    (h : P (.device (.findByDeviceCode deviceCode))) : (lookupDeviceCode deviceCode x).Calls P := by
  refine (calls_ask h).bind fun r => ?_
  split
  · trivial
  · trivial
  · split <;> trivial

lemma calls_applyPollDecision (rec : DeviceCodeStore.DeviceCode) (deviceCode : String)
    (hdevice : ∀ o, (∀ code, o ≠ .save code) → P (.device o)) :
    (applyPollDecision now rec deviceCode).Calls P := by
  refine (calls_ask (hdevice _ fun _ h => by cases h)).bind fun _ => ?_
  split
  case h_2 =>
    refine Prog.Calls.bind ?_ fun _ => trivial
    dsimp only
    unfold recordViolation
    split
    · refine (calls_ask (hdevice _ fun _ h => by cases h)).bind fun r => ?_
      split
      · split
        · exact (calls_ask (hdevice _ fun _ h => by cases h)).bind fun _ => trivial
        · trivial
      · trivial
    · trivial
  all_goals trivial

/-- The calls a poll makes: on the device code, on the rows it saves, and on
nothing by grant. -/
def PollCall : Call → Prop
  | .device (.save _) => False
  | .revokeOpaqueByGrant _ => False
  | .revokeOpaqueByChain _ _ => False
  | .revokeRefreshByGrant _ => False
  | _ => True

lemma PollCall.noSave (h : PollCall o) : NoSave o := by
  rintro code rfl
  exact h

lemma pollCall_device {o : DeviceCodeStore.Call} (h : ∀ code, o ≠ .save code) :
    PollCall (.device o) := by
  cases o with
  | save code => exact h code rfl
  | _ => trivial

lemma calls_cleanup (x : Poll) (accessToken refreshToken : String) :
    (cleanupPreparedCredentials deps x accessToken refreshToken).Calls PollCall :=
  calls_retireIssued deps x.now (fun _ => trivial) fun _ => trivial

lemma calls_preparePolledResponse (H : GrantDeriver) (deviceCode : String) (x : Poll) :
    (preparePolledResponse deps H deviceCode x).Calls PollCall := by
  unfold preparePolledResponse
  split
  · trivial
  split
  · exact (calls_cleanup deps x _ _).bind fun _ => trivial
  refine (calls_mintAccessToken deps _ _ (fun _ => trivial) fun _ => trivial).bind fun r => ?_
  split
  · exact (calls_cleanup deps x _ _).bind fun _ => trivial
  split
  · exact (calls_cleanup deps x _ _).bind fun _ => trivial
  refine (calls_issueRefreshToken deps _ _ (fun _ => trivial) fun _ _ => trivial).bind fun r => ?_
  split
  · exact (calls_cleanup deps x _ _).bind fun _ => trivial
  · trivial

lemma calls_handleDeviceCode (scopes : Registry) (deps : Deps) (H : GrantDeriver)
    (deviceCode : String) (x : Poll) :
    (handleDeviceCode scopes deps H deviceCode x).Calls PollCall := by
  have hconsume : (consumeDeviceCode deviceCode).Calls PollCall := by
    refine (calls_ask trivial).bind fun r => ?_
    split <;> trivial
  refine (calls_lookupDeviceCode x trivial).bind fun r => ?_
  split
  · trivial
  refine (calls_applyPollDecision x.now _ deviceCode fun o h => pollCall_device h).bind
    fun answer => ?_
  split
  · trivial
  split
  · trivial
  unfold issuePolled
  split
  · exact (calls_ask trivial).bind fun _ => trivial
  · trivial
  refine (calls_preparePolledResponse deps H deviceCode x).bind fun p => ?_
  split
  · trivial
  refine hconsume.bind fun answer => ?_
  split
  · exact (calls_cleanup deps x _ _).bind fun _ => trivial
  · exact (calls_refuseIssuance deps x.now trivial (fun _ => trivial)
      fun _ => trivial).bind fun _ => trivial

/-! ### What a poll persists and retires -/

variable {accessToken refreshToken : String}

section
variable {D : KeyDigest} {s : LoggedStores}

def opaqueEntries (D : KeyDigest) (grantID : String) : AccessToken → List (Entry D)
  | .opaqueToken tok => [opaqueEntry D grantID tok]
  | .jwt _ _ => []

def rootEntries (D : KeyDigest) (grantID : String) : Option RefreshRoot → List (Entry D)
  | none => []
  | some root => [refreshEntry D grantID root.mint]

/-- The call is sent, and marks the entries for certain. -/
def Sweeps (sent : Prop) (o : Call) (entries : List (Entry D)) : Prop :=
  ∀ en ∈ entries, sent ∧ en.table.must o en.key en.group

/-- The row was saved, and since then a call was made that marks it. -/
def Retired (en : Entry D) (s : LoggedStores) : Prop :=
  ∃ before after, Persisted en.table en.save en.key en.group before after s ∧
    Logged en.table.must after en.key en.group

lemma Retired.revoked {en : Entry D} (h : Retired en s) : Revoked en s.1 := by
  obtain ⟨before, after, hp, hlogged⟩ := h
  obtain ⟨row, hrow, _, hmust, _⟩ := hp.row
  exact ⟨row, hrow, hmust hlogged⟩

def AllRetired (entries : List (Entry D)) (s : LoggedStores) : Prop := ∀ en ∈ entries, Retired en s

lemma AllRetired.stable {entries : List (Entry D)} {s' : LoggedStores}
    (hG : (discipline D).G s s') (h : AllRetired entries s) : AllRetired entries s' := by
  obtain ⟨log, hlog, hadv⟩ := hG
  intro en hen
  obtain ⟨before, after, hp, hlogged⟩ := h en hen
  exact ⟨before, after ++ log, hp.advance _ hlog hadv, logged_append.mpr (.inl hlogged)⟩

lemma upholds_ask_retires {entries : List (Entry D)} (h : AllPersisted entries s)
    (hmust : ∀ en ∈ entries, en.table.must o en.key en.group) :
    Assures D (fun _ => AllRetired entries) (ask o) s := by
  refine upholds_ask (fun _ _ _ hG hr => hr.stable hG) fun s' hG hInv e en hen => ?_
  obtain ⟨before, after, hp⟩ := h.stable hG en hen
  have hadv := advances_handle hInv.1 e o
  exact ⟨before, after ++ [o], hp.advance _ rfl hadv,
    logged_append.mpr (.inr ⟨o, List.mem_singleton_self o, hmust en hen⟩)⟩

lemma upholds_retireIssued (reason : String)
    {as rs : List (Entry D)} (hInv : (discipline D).Inv s) (h : AllPersisted (as ++ rs) s)
    (has : Sweeps (accessToken ≠ "" ∧ deps.opaqueAccessTokens = true)
      (.revokeOpaqueByID accessToken) as)
    (hrs : Sweeps (refreshToken ≠ "" ∧ deps.refreshTokens = true)
      (.revokeRefreshChain refreshToken) rs) :
    Assures D (fun _ => AllRetired (as ++ rs))
      (retireIssued deps now reason accessToken refreshToken) s := by
  have hpa : AllPersisted as s := fun en hen => h en (List.mem_append_left _ hen)
  have hpr : AllPersisted rs s := fun en hen => h en (List.mem_append_right _ hen)
  rw [retireIssued_eq]
  refine Upholds.bind (Q := fun _ s' => AllRetired as s' ∧ AllPersisted rs s') ?_ hInv ?_
  · split_ifs with hcond
    · refine ((upholds_ask_retires hpa fun en hen => (has en hen).2).frame
        (fun s s' hG hp => AllPersisted.stable hG hp) hpr).bind hInv ?_
      exact fun _ _ _ hdone _ hG _ => ⟨hdone.1.stable hG, hdone.2.stable hG⟩
    · exact fun s' hG _ => ⟨fun en hen => absurd (has en hen).1 hcond, hpr.stable hG⟩
  · rintro out s₁ hInv₁ ⟨hra, hpr⟩
    have hjoin : ∀ s', AllRetired rs s' → AllRetired as s' → AllRetired (as ++ rs) s' :=
      fun s' hr ha en hen => (List.mem_append.mp hen).elim (ha en) (hr en)
    split_ifs with hcond
    · refine ((upholds_ask_retires hpr fun en hen => (hrs en hen).2).frame
        (fun s s' hG hp => AllRetired.stable hG hp) hra).bind hInv₁ ?_
      exact fun _ _ _ hdone s' hG _ => hjoin s' (hdone.1.stable hG) (hdone.2.stable hG)
    · exact fun s' hG _ => hjoin s' (fun en hen => absurd (hrs en hen).1 hcond) (hra.stable hG)

abbrev pollEntries (D : KeyDigest) (grantID : String) (x : Poll) : List (Entry D) :=
  opaqueEntries D grantID x.accessToken ++ rootEntries D grantID x.refreshToken

def IssuedAccess (deps : Deps) (x : Poll) (accessToken : String) : Prop :=
  ∀ tok, x.accessToken = .opaqueToken tok →
    accessToken = tok.id ∧ tok.id ≠ "" ∧ deps.opaqueAccessTokens = true

def IssuedRefresh (deps : Deps) (x : Poll) (refreshToken : String) : Prop :=
  ∀ root, x.refreshToken = some root → refreshToken = root.token.id ∧ deps.refreshTokens = true

/-- What the prepared tokens are, where they left rows. -/
structure Issued (deps : Deps) (x : Poll) (accessToken refreshToken : String) : Prop where
  access : IssuedAccess deps x accessToken
  refresh : IssuedRefresh deps x refreshToken

section Poll
variable {deps : Deps} {x : Poll} {grantID accessToken refreshToken : String} {s : LoggedStores}

lemma retires_access (h : IssuedAccess deps x accessToken) :
    Sweeps (accessToken ≠ "" ∧ deps.opaqueAccessTokens = true) (.revokeOpaqueByID accessToken)
      (opaqueEntries D grantID x.accessToken) := by
  cases ha : x.accessToken with
  | jwt signed rec => exact fun en hen => by cases hen
  | opaqueToken tok =>
    intro en hen
    cases List.mem_singleton.mp hen
    obtain ⟨rfl, hne, hwired⟩ := h tok ha
    exact ⟨⟨hne, hwired⟩, hne, rfl⟩

lemma retires_refresh (h : IssuedRefresh deps x refreshToken) :
    Sweeps (refreshToken ≠ "" ∧ deps.refreshTokens = true) (.revokeRefreshChain refreshToken)
      (rootEntries D grantID x.refreshToken) := by
  cases hr : x.refreshToken with
  | none => exact fun en hen => by cases hen
  | some root =>
    intro en hen
    cases List.mem_singleton.mp hen
    obtain ⟨rfl, hwired⟩ := h root hr
    exact ⟨⟨root.named, hwired⟩, rfl⟩

lemma upholds_cleanup {rs : List (Entry D)} (hInv : (discipline D).Inv s)
    (h : AllPersisted (opaqueEntries D grantID x.accessToken ++ rs) s)
    (has : IssuedAccess deps x accessToken)
    (hrs : Sweeps (refreshToken ≠ "" ∧ deps.refreshTokens = true)
      (.revokeRefreshChain refreshToken) rs) :
    Assures D (fun _ => AllRetired (opaqueEntries D grantID x.accessToken ++ rs))
      (cleanupPreparedCredentials deps x accessToken refreshToken) s := by
  refine upholds_retireIssued deps x.now _ hInv h (retires_access fun tok htok => ?_) hrs
  rw [if_pos (by rw [htok]; rfl)]
  exact has tok htok

lemma upholds_mint (hInv : (discipline D).Inv s) :
    Assures D (fun r s' => ∀ wire, r = .ok wire →
        AllPersisted (opaqueEntries D grantID x.accessToken) s' ∧ IssuedAccess deps x wire)
      (mintAccessToken deps grantID x.accessToken) s := by
  cases ha : x.accessToken with
  | jwt signed rec =>
    refine (upholds_any _ s).imp fun r s' _ _ wire _ => ⟨fun en hen => ?_, fun tok h => ?_⟩
    · cases hen
    · cases ha.symm.trans h
  | opaqueToken tok =>
    have hpersist := upholds_mintAccessToken deps grantID (.opaqueToken tok) hInv
    unfold mintAccessToken at hpersist ⊢
    dsimp only at hpersist ⊢
    by_cases hwired : deps.opaqueAccessTokens = true
    · rw [if_neg (by simp [hwired])] at hpersist ⊢
      have hnamed : Assures D (fun r _ => ∀ wire, r = .ok wire → wire = tok.id ∧ tok.id ≠ "")
          (do return (← ask (.saveOpaque (opaqueRow grantID tok))).map fun _ => tok.id) s := by
        refine (upholds_ask (o := .saveOpaque (opaqueRow grantID tok))
          (Q := fun r _ => r = .ok () → tok.id ≠ "") (fun _ _ _ _ h => h)
            fun s' _ _ e hr hempty => ?_).bind hInv ?_
        · change (OpaqueAccessTokens.save D s'.1.opaqueAccessTokens
            (some (opaqueRow grantID tok))).2 = .ok () at hr
          unfold OpaqueAccessTokens.save at hr
          dsimp only at hr
          rw [if_pos (show (opaqueRow grantID tok).id = "" from hempty)] at hr
          cases hr
        · intro r s' _ hr s'' _ _ wire hwire
          have hok := ok_of_map_ok hwire
          subst hok
          exact ⟨(Except.ok.inj hwire).symm, hr rfl⟩
      refine (hpersist.and hnamed).imp fun r s' _ h wire hwire => ⟨h.1 wire hwire, ?_⟩
      intro tok' htok'
      cases ha.symm.trans htok'
      exact ⟨(h.2 wire hwire).1, (h.2 wire hwire).2, hwired⟩
    · rw [if_pos (by simp [hwired])]
      exact fun _ _ _ wire h => by cases h

lemma upholds_issueRoot (hInv : (discipline D).Inv s) :
    Assures D
      (fun r s' => ∀ wire, r = .ok wire →
        AllPersisted (rootEntries D grantID x.refreshToken) s' ∧ IssuedRefresh deps x wire)
      (issueRefreshToken deps grantID (x.refreshToken.map RefreshRoot.mint)) s := by
  have hpersist := upholds_issueRefreshToken deps grantID (x.refreshToken.map RefreshRoot.mint) hInv
  have hreturns : (issueRefreshToken deps grantID (x.refreshToken.map RefreshRoot.mint)).Returns
      fun r => ∀ wire, r = .ok wire → IssuedRefresh deps x wire := by
    unfold IssuedRefresh
    cases x.refreshToken with
    | none => exact fun _ _ _ h => by cases h
    | some root =>
      unfold issueRefreshToken
      split_ifs with hwired
      · exact fun _ h => by cases h
      · refine (Prog.returns_true _).bind fun r _ wire hwire => ?_
        have hok := ok_of_map_ok hwire
        subst hok
        rintro _ ⟨rfl⟩
        exact ⟨(Except.ok.inj hwire).symm, by simpa using hwired⟩
  have hentries : refreshEntries D grantID (x.refreshToken.map RefreshRoot.mint) =
      rootEntries D grantID x.refreshToken := by
    cases x.refreshToken <;> rfl
  rw [hentries] at hpersist
  exact (hpersist.returns hreturns).imp fun r s' _ h wire hwire => ⟨h.1 wire hwire, h.2 wire hwire⟩

def Prepared (D : KeyDigest) (deps : Deps) (grantID : String) (x : Poll) :
    Preparation → LoggedStores → Prop
  | .failed minted, s => minted = true → AllRetired (opaqueEntries D grantID x.accessToken) s
  | .ready accessToken refreshToken, s =>
    Issued deps x accessToken refreshToken ∧ AllPersisted (pollEntries D grantID x) s

lemma upholds_prepare (deps : Deps) (H : GrantDeriver) (deviceCode : String) (x : Poll)
    (hInv : (discipline D).Inv s) :
    Assures D (Prepared D deps (H.grantID deviceCode) x)
      (preparePolledResponse deps H deviceCode x) s := by
  unfold preparePolledResponse
  split
  · exact fun _ _ _ h => by cases h
  split
  · exact upholds_then_return _ hInv fun _ h => by cases h
  refine (upholds_mint hInv).bind hInv fun r s₁ hInv₁ hminted => ?_
  cases r with
  | error e => exact upholds_then_return _ hInv₁ fun _ h => by cases h
  | ok accessToken =>
    obtain ⟨haccess, hissued⟩ := hminted accessToken rfl
    have hrollback : ∀ s₂, (discipline D).Inv s₂ →
        AllPersisted (opaqueEntries D (H.grantID deviceCode) x.accessToken) s₂ →
        Assures D (Prepared D deps (H.grantID deviceCode) x)
          (do let _ ← cleanupPreparedCredentials deps x accessToken ""; return .failed true)
          s₂ := by
      intro s₂ hInv₂ hp
      rw [← List.append_nil (opaqueEntries D (H.grantID deviceCode) x.accessToken)] at hp
      refine (upholds_cleanup hInv₂ hp hissued fun en hen => by cases hen).bind hInv₂ ?_
      intro _ s₃ _ hretired s₄ hG _ _
      rw [List.append_nil] at hretired
      exact hretired.stable hG
    dsimp only
    split
    · exact hrollback s₁ hInv₁ haccess
    refine ((upholds_issueRoot hInv₁).frame (fun s s' hG hp => AllPersisted.stable hG hp)
      haccess).bind hInv₁ fun r s₂ hInv₂ h => ?_
    obtain ⟨hrefresh, haccess⟩ := h
    cases r with
    | error e => exact hrollback s₂ hInv₂ haccess
    | ok refreshToken =>
      obtain ⟨hroot, hrefreshIssued⟩ := hrefresh refreshToken rfl
      intro s₃ hG _
      refine ⟨⟨hissued, hrefreshIssued⟩, fun en hen => ?_⟩
      rcases List.mem_append.mp hen with hen | hen
      · exact haccess.stable hG en hen
      · exact hroot.stable hG en hen

lemma upholds_refuseIssuance_retires (issuedAt : Time)
    (hissued : Issued deps x accessToken refreshToken) (hInv : (discipline D).Inv s)
    (h : AllPersisted (pollEntries D grantID x) s) :
    Assures D (fun c s' => c ≠ .proceed → AllRetired (pollEntries D grantID x) s')
      (refuseIssuanceUnderClosedGrant deps now ⟨grantID, issuedAt, accessToken, refreshToken⟩)
      s := by
  have hretire : ∀ (c : Closure) s₁, (discipline D).Inv s₁ →
      AllPersisted (pollEntries D grantID x) s₁ →
      Assures D (fun c s' => c ≠ .proceed → AllRetired (pollEntries D grantID x) s')
        (do
          let _ ← retireIssued deps now teardownReasonGrantTombstoned accessToken refreshToken
          return c) s₁ := by
    intro c s₁ hInv₁ hp
    refine (upholds_retireIssued deps now _ hInv₁ hp (retires_access hissued.access)
      (retires_refresh hissued.refresh)).bind hInv₁ ?_
    exact fun _ _ _ hr _ hG _ _ => hr.stable hG
  unfold refuseIssuanceUnderClosedGrant
  split
  · exact fun _ _ _ hne => absurd rfl hne
  refine ((upholds_any (ask (.isIssuanceRevoked grantID issuedAt)) s).frame
    (fun s s' hG hp => AllPersisted.stable hG hp) h).bind hInv ?_
  rintro r s₁ hInv₁ ⟨_, hp⟩
  match r with
  | .ok false => exact fun _ _ _ hne => absurd rfl hne
  | .ok true => exact hretire .refused s₁ hInv₁ hp
  | .error _ => exact hretire .serverError s₁ hInv₁ hp

end Poll

end

/-! ### Transitions in the log -/

/-- Whether the call is a transition of a device record that took place. -/
def took : (o : Call) → o.Reply → Bool
  | .device (.revoke _ _), .ok _ => true
  | .device (.consume _), .ok _ => true
  | _, _ => false

/-- A call, and whether it was a transition that took place. -/
abbrev Note := Call × Bool

def note (o : Call) (r : o.Reply) : Note := (o, took o r)

abbrev NotedStores := Substores × List Note

def view (s : NotedStores) : LoggedStores := (s.1, s.2.map Prod.fst)

def noteHandle (D : KeyDigest) (e : Chance) (o : Call) (s : NotedStores) : NotedStores × o.Reply :=
  (((handle D e o s.1).1, s.2 ++ [note o (handle D e o s.1).2]), (handle D e o s.1).2)

/-- The record of the device code will not be redeemed any more. -/
def Closed (D : KeyDigest) (deviceCode : String) (w : Substores) : Prop :=
  ∃ rec, w.deviceCodes.m.lookup (D.hashKey deviceCode) = some rec ∧ Terminal rec.status

def Consumed (D : KeyDigest) (deviceCode : String) (w : Substores) : Prop :=
  ∃ rec, w.deviceCodes.m.lookup (D.hashKey deviceCode) = some rec ∧ rec.status = .consumed

variable {calls : List Call}

section
variable {D : KeyDigest} {deviceCode : String} {s s' : NotedStores} {o : Call} {e : Chance}
  {w : Substores} (deps : Deps) (H : GrantDeriver) (now : Time)

lemma status_call (ho : NoSave o) {rec : DeviceCodeStore.DeviceCode} {key : String}
    (hrec : w.deviceCodes.m.lookup key = some rec) (hterminal : Terminal rec.status) :
    ∃ rec', (handle D e o w).1.deviceCodes.m.lookup key = some rec' ∧
      rec'.status = rec.status := by
  cases o with
  | device c =>
    exact DeviceCodeStore.status_handle e.order e.now (fun code hc => ho code (hc ▸ rfl)) hrec
      hterminal
  | _ => exact ⟨rec, hrec, rfl⟩

lemma Closed.call (ho : NoSave o) (h : Closed D deviceCode w) :
    Closed D deviceCode (handle D e o w).1 := by
  obtain ⟨rec, hrec, hterminal⟩ := h
  obtain ⟨rec', hrec', hstatus⟩ := status_call (D := D) (e := e) ho hrec hterminal
  exact ⟨rec', hrec', hstatus ▸ hterminal⟩

lemma Consumed.call (ho : NoSave o) (h : Consumed D deviceCode w) :
    Consumed D deviceCode (handle D e o w).1 := by
  obtain ⟨rec, hrec, hstatus⟩ := h
  obtain ⟨rec', hrec', hsame⟩ := status_call (D := D) (e := e) ho hrec (.inr hstatus)
  exact ⟨rec', hrec', hsame.trans hstatus⟩

/-- A revocation in the log that took place has closed the record. -/
def devices (D : KeyDigest) (deviceCode : String) : Discipline NotedStores where
  Inv s := (discipline D).Inv (view s) ∧
    ∀ reason, (Call.device (.revoke deviceCode reason), true) ∈ s.2 → Closed D deviceCode s.1
  G s s' := ∃ notes, s'.2 = s.2 ++ notes ∧ Advances D (notes.map Prod.fst) s.1 s'.1
  refl s := ⟨[], (List.append_nil _).symm, .refl s.1⟩
  trans := by
    rintro a b c ⟨notes, hnotes, h⟩ ⟨notes', hnotes', h'⟩
    exact ⟨notes ++ notes', by rw [hnotes', hnotes, List.append_assoc], by
      rw [List.map_append]
      exact h.append h'⟩

lemma view_noteHandle (e : Chance) (o : Call) (s : NotedStores) :
    view (noteHandle D e o s).1 = (logHandle D e o (view s)).1 ∧
      (noteHandle D e o s).2 = (logHandle D e o (view s)).2 := by
  refine ⟨?_, rfl⟩
  unfold view noteHandle logHandle
  rw [List.map_append]
  rfl

lemma devices_view (h : (devices D deviceCode).G s s') : (discipline D).G (view s) (view s') := by
  obtain ⟨notes, hnotes, hadv⟩ := h
  exact ⟨notes.map Prod.fst, by rw [view, view, hnotes, List.map_append], hadv⟩

lemma devices_call (ho : NoSave o) (e : Chance) (h : (devices D deviceCode).Inv s) :
    (devices D deviceCode).Inv (noteHandle D e o s).1 ∧
      (devices D deviceCode).G s (noteHandle D e o s).1 := by
  obtain ⟨hview, hclosed⟩ := h
  refine ⟨⟨?_, fun reason hmem => ?_⟩, [note o (handle D e o s.1).2], rfl,
    advances_handle hview.1 e o⟩
  · rw [(view_noteHandle e o s).1]
    exact (disciplined e o hview).1
  · rcases List.mem_append.mp hmem with hmem | hmem
    · exact (hclosed reason hmem).call ho
    · rw [List.mem_singleton] at hmem
      obtain ⟨rfl, htook⟩ := Prod.mk.inj hmem
      have hok : (handle D e (.device (.revoke deviceCode reason)) s.1).2 = .ok () := by
        revert htook
        cases (handle D e (.device (.revoke deviceCode reason)) s.1).2 with
        | ok _ => exact fun _ => rfl
        | error err => exact fun h => by cases h
      exact DeviceCodeStore.revoke_ok hok

/-- The outline of a program whose calls are noted. -/
abbrev Notes (D : KeyDigest) (deviceCode : String) {A : Type} (Q : A → NotedStores → Prop)
    (p : Program A) (s : NotedStores) : Prop :=
  Upholds (noteHandle D) (devices D deviceCode) Q p s

lemma upholds_of_view (deviceCode : String) {A : Type} {Q : A → LoggedStores → Prop}
    {p : Program A} (hp : Assures D Q p (view s))
    (hcalls : p.Calls NoSave) :
    Notes D deviceCode (fun a s' => Q a (view s')) p s := by
  have hInv : ∀ s, (devices D deviceCode).Inv s → (discipline D).Inv (view s) := fun _ h => h.1
  exact hp.transfer view_noteHandle hInv (fun _ _ h => devices_view h)
    (fun _ ho e _ h => devices_call ho e h) hcalls

lemma upholds_noted {A : Type} {p : Program A} (hcalls : p.Calls NoSave) (s : NotedStores) :
    Notes D deviceCode (fun _ _ => True) p s :=
  upholds_of_calls (fun _ ho e _ h => devices_call ho e h) hcalls s

lemma upholds_noted_ask (ho : NoSave o) {Q : o.Reply → NotedStores → Prop}
    (hQ : ∀ r s s', (devices D deviceCode).G s s' → Q r s → Q r s')
    (h : ∀ s', (devices D deviceCode).G s s' → (devices D deviceCode).Inv s' → ∀ e,
      Q (noteHandle D e o s').2 (noteHandle D e o s').1) :
    Notes D deviceCode Q (ask o) s := by
  intro s' hG hInv e
  obtain ⟨hnext, hmove⟩ := devices_call ho e hInv
  exact ⟨hnext, hmove, fun s'' hG' _ => hQ _ _ _ hG' (h s' hG hInv e)⟩

/-! ### Redemption -/

/-- The record was consumed after the entries were persisted, and before any
revocation of the device code took place. -/
def Claimed (deviceCode : String) (entries : List (Entry D)) (s : NotedStores) : Prop :=
  ∃ p q, s.2 = p ++ (Call.device (.consume deviceCode), true) :: q ∧
    (∀ reason, (Call.device (.revoke deviceCode reason), true) ∉ p) ∧
    ∀ en ∈ entries, ∃ before between, p.map Prod.fst = before ++ en.save :: between ∧
      Persisted en.table en.save en.key en.group before
        (between ++ Call.device (.consume deviceCode) :: q.map Prod.fst) (view s)

lemma Claimed.stable {entries : List (Entry D)} (hG : (devices D deviceCode).G s s')
    (h : Claimed deviceCode entries s) : Claimed deviceCode entries s' := by
  obtain ⟨notes, hnotes, hadv⟩ := hG
  obtain ⟨p, q, hlog, hopen, hall⟩ := h
  refine ⟨p, q ++ notes, by rw [hnotes, hlog, List.append_assoc, List.cons_append], hopen, ?_⟩
  intro en hen
  obtain ⟨before, between, hp, hpersisted⟩ := hall en hen
  refine ⟨before, between, hp, ?_⟩
  have hview : (view s').2 = (view s).2 ++ notes.map Prod.fst := by
    rw [view, view, hnotes, List.map_append]
  have hadvance := hpersisted.advance _ hview hadv
  rw [List.append_assoc, List.cons_append] at hadvance
  rw [List.map_append]
  exact hadvance

lemma claimed_of_consume {entries : List (Entry D)} (hInv : (devices D deviceCode).Inv s)
    (h : AllPersisted entries (view s)) {answer : DeviceCodeStore.DeviceCode}
    (hok : (noteHandle D e (.device (.consume deviceCode)) s).2 = .ok answer) :
    Claimed deviceCode entries (noteHandle D e (.device (.consume deviceCode)) s).1 := by
  change (handle D e (.device (.consume deviceCode)) s.1).2 = .ok answer at hok
  have hnote : note (.device (.consume deviceCode))
      (handle D e (.device (.consume deviceCode)) s.1).2 =
        (Call.device (.consume deviceCode), true) := by
    rw [hok]
    rfl
  have hlog : (noteHandle D e (.device (.consume deviceCode)) s).1.2 =
      s.2 ++ [(Call.device (.consume deviceCode), true)] := by
    rw [← hnote]
    rfl
  refine ⟨s.2, [], hlog, fun reason hmem => ?_, fun en hen => ?_⟩
  · obtain ⟨rec, hrec, hterminal⟩ := hInv.2 reason hmem
    obtain ⟨⟨rec', hrec', happroved⟩, _⟩ := DeviceCodeStore.consume_ok hok
    rw [hrec, Option.some.injEq] at hrec'
    subst hrec'
    rcases hterminal with hs | hs
    · rw [happroved] at hs
      cases hs
    · rw [happroved] at hs
      cases hs
  · obtain ⟨before, after, hp⟩ := h en hen
    refine ⟨before, after, hp.log, ?_⟩
    have hadv := advances_handle hInv.1.1 e (.device (.consume deviceCode))
    exact hp.advance _ (by rw [view, view, hlog, List.map_append]; rfl) hadv

def PollSays (D : KeyDigest) (deps : Deps) (H : GrantDeriver) (deviceCode : String) (x : Poll)
    (r : PollReport) (s : NotedStores) : Prop :=
  (r.response = .released →
    (∃ accessToken refreshToken, Issued deps x accessToken refreshToken) ∧
    Claimed deviceCode (pollEntries D (H.grantID deviceCode) x) s) ∧
  (r.response ≠ .released →
    (r.accessMinted = true →
      AllRetired (opaqueEntries D (H.grantID deviceCode) x.accessToken) (view s)) ∧
    (r.refreshIssued = true →
      AllRetired (rootEntries D (H.grantID deviceCode) x.refreshToken) (view s)))

lemma pollSays_refused {deps : Deps} {H : GrantDeriver} {x : Poll} {response : PollResponse}
    (h : response ≠ .released) (s : NotedStores) :
    PollSays D deps H deviceCode x { response } s :=
  ⟨fun hr => absurd hr h, fun _ => ⟨nofun, nofun⟩⟩

lemma AllRetired.split {as rs : List (Entry D)} {s : LoggedStores} (h : AllRetired (as ++ rs) s) :
    AllRetired as s ∧ AllRetired rs s :=
  ⟨fun en hen => h en (List.mem_append_left _ hen),
   fun en hen => h en (List.mem_append_right _ hen)⟩

lemma upholds_redeem (x : Poll) (rec : DeviceCodeStore.DeviceCode)
    (hInv : (devices D deviceCode).Inv s)
    (hissued : Issued deps x accessToken refreshToken)
    (h : AllPersisted (pollEntries D (H.grantID deviceCode) x) (view s)) :
    Notes D deviceCode (PollSays D deps H deviceCode x)
      (redeem deps H deviceCode x rec accessToken refreshToken) s := by
  have hconsume : Notes D deviceCode (fun answer s' => (answer = none → Claimed deviceCode
          (pollEntries D (H.grantID deviceCode) x) s') ∧ answer ≠ some .released)
      (consumeDeviceCode deviceCode) s := by
    refine (upholds_noted_ask (o := .device (.consume deviceCode)) (fun _ h => by cases h)
      (Q := fun r s' => ∀ answer, r = .ok answer → Claimed deviceCode
        (pollEntries D (H.grantID deviceCode) x) s')
      (fun r s s' hG hq answer hr => (hq answer hr).stable hG)
      fun s' hG hInv' e answer hr => ?_).bind hInv fun r s' _ hr => ?_
    · exact claimed_of_consume hInv' (h.stable (devices_view hG)) hr
    · split
      · exact fun s'' hG _ => ⟨fun _ => (hr _ rfl).stable hG, nofun⟩
      all_goals exact fun s'' _ _ => ⟨nofun, nofun⟩
  refine (hconsume.frame (F := fun s' => AllPersisted
    (pollEntries D (H.grantID deviceCode) x) (view s'))
    (fun s s' hG hp => hp.stable (devices_view hG)) h).bind hInv ?_
  rintro answer s₁ hInv₁ ⟨⟨hclaimed, hanswer⟩, hp⟩
  cases answer with
  | some response =>
    -- lost: the clean-up runs before the answer is written
    have hcleanup := upholds_of_view deviceCode
      (upholds_cleanup hInv₁.1 hp hissued.access (retires_refresh hissued.refresh))
      ((calls_cleanup deps x accessToken refreshToken).mono fun _ ho => PollCall.noSave ho)
    refine hcleanup.bind hInv₁ fun _ s₂ _ hretired s₃ hG _ => ⟨fun hr => ?_, fun _ => ?_⟩
    · exact absurd (congrArg some hr) hanswer
    · obtain ⟨ha, hr⟩ := (hretired.stable (devices_view hG)).split
      exact ⟨fun _ => ha, fun _ => hr⟩
  | none =>
    have hclosure := upholds_of_view deviceCode
      (upholds_refuseIssuance_retires x.now rec.issuedAt hissued hInv₁.1 hp)
      ((calls_refuseIssuance (P := PollCall) deps x.now trivial (fun _ => trivial)
        fun _ => trivial).mono fun _ ho => PollCall.noSave ho)
    refine (hclosure.frame (F := Claimed deviceCode
      (pollEntries D (H.grantID deviceCode) x))
      (fun s s' hG hc => hc.stable hG) (hclaimed rfl)).bind hInv₁ ?_
    rintro closure s₂ _ ⟨hretired, hclaimed⟩ s₃ hG _
    refine ⟨fun _ => ⟨⟨accessToken, refreshToken, hissued⟩, hclaimed.stable hG⟩, fun hne => ?_⟩
    have hclosed : closure ≠ .proceed := fun hc => hne (by rw [hc]; rfl)
    obtain ⟨ha, hr⟩ := ((hretired hclosed).stable (devices_view hG)).split
    exact ⟨fun _ => ha, fun _ => hr⟩

lemma returns_lookupDeviceCode (x : Poll) :
    (lookupDeviceCode deviceCode x).Returns fun r => r ≠ .error .released := by
  refine (Prog.returns_true (ask (.device (.findByDeviceCode deviceCode)))).bind fun r _ => ?_
  split
  · exact fun h => by cases h
  · exact fun h => by cases h
  · split
    · exact fun h => by cases h
    · exact fun h => by cases h

lemma returns_applyPollDecision (rec : DeviceCodeStore.DeviceCode) :
    (applyPollDecision now rec deviceCode).Returns fun r => r ≠ some .released := by
  refine (Prog.returns_true _).bind fun _ _ => ?_
  split
  case h_2 => exact (Prog.returns_true _).bind fun _ _ h => by cases h
  all_goals exact fun h => by cases h

lemma upholds_issuePolled (x : Poll) (rec : DeviceCodeStore.DeviceCode)
    (hInv : (devices D deviceCode).Inv s) :
    Notes D deviceCode (PollSays D deps H deviceCode x)
      (issuePolled deps H deviceCode x rec) s := by
  unfold issuePolled
  split
  · exact (upholds_noted (calls_ask fun _ h => by cases h) s).bind hInv
      fun _ _ _ _ s' _ _ => pollSays_refused (fun h => by cases h) s'
  · exact fun s' _ _ => pollSays_refused (fun h => by cases h) s'
  · have hcalls : (preparePolledResponse deps H deviceCode x).Calls NoSave :=
      (calls_preparePolledResponse deps H deviceCode x).mono fun _ ho => PollCall.noSave ho
    refine (upholds_of_view deviceCode (upholds_prepare deps H deviceCode x hInv.1) hcalls).bind
      hInv ?_
    intro p s₁ hInv₁ hp
    cases p with
    | failed minted =>
      exact fun s' hG _ => ⟨nofun, fun _ => ⟨fun hm => (hp hm).stable (devices_view hG), nofun⟩⟩
    | ready accessToken refreshToken => exact upholds_redeem deps H x rec hInv₁ hp.1 hp.2

lemma upholds_handleDeviceCode (scopes : Registry) (deps : Deps) (H : GrantDeriver) (x : Poll)
    (hInv : (devices D deviceCode).Inv s) :
    Notes D deviceCode (PollSays D deps H deviceCode x)
      (handleDeviceCode scopes deps H deviceCode x) s := by
  have hlookup : (lookupDeviceCode deviceCode x).Calls NoSave :=
    calls_lookupDeviceCode x fun _ h => by cases h
  refine ((upholds_noted hlookup s).returns (returns_lookupDeviceCode x)).bind hInv ?_
  rintro r s₁ hInv₁ ⟨_, hr⟩
  split
  · exact fun s' _ _ => pollSays_refused (fun h => hr (by rw [h])) s'
  rename_i rec
  have hdecide : (applyPollDecision x.now rec deviceCode).Calls NoSave :=
    calls_applyPollDecision x.now rec deviceCode fun o ho code h => ho code (by cases h; rfl)
  refine ((upholds_noted hdecide s₁).returns (returns_applyPollDecision x.now rec)).bind hInv₁ ?_
  rintro answer s₂ hInv₂ ⟨_, hanswer⟩
  split
  · exact fun s' _ _ => pollSays_refused (fun h => hanswer (by rw [h])) s'
  split
  · exact fun s' _ _ => pollSays_refused (fun h => by cases h) s'
  · exact upholds_issuePolled deps H x rec hInv₂

/-! ### Revocation -/

/-- Since a revocation of the device code took place, the calls were made. -/
def MadeSince (deviceCode : String) (calls : List Call) (s : NotedStores) : Prop :=
  ∃ p q reason, s.2 = p ++ (Call.device (.revoke deviceCode reason), true) :: q ∧
    ∀ o ∈ calls, o ∈ q.map Prod.fst

lemma MadeSince.stable (hG : (devices D deviceCode).G s s')
    (h : MadeSince deviceCode calls s) : MadeSince deviceCode calls s' := by
  obtain ⟨notes, hnotes, _⟩ := hG
  obtain ⟨p, q, reason, hlog, hmade⟩ := h
  refine ⟨p, q ++ notes, reason, by rw [hnotes, hlog, List.append_assoc, List.cons_append], ?_⟩
  intro o ho
  rw [List.map_append]
  exact List.mem_append_left _ (hmade o ho)

lemma upholds_sweep (ho : NoSave o) (h : MadeSince deviceCode calls s) :
    Notes D deviceCode (fun _ => MadeSince deviceCode (o :: calls)) (ask o) s := by
  refine upholds_noted_ask ho (fun _ _ _ hG hm => hm.stable hG) fun s' hG _ e => ?_
  obtain ⟨p, q, reason, hlog, hmade⟩ := h.stable hG
  refine ⟨p, q ++ [note o (handle D e o s'.1).2], reason, ?_, fun o' ho' => ?_⟩
  · change s'.2 ++ [note o (handle D e o s'.1).2] = _
    rw [hlog, List.append_assoc, List.cons_append]
  · rw [List.map_append]
    rcases List.mem_cons.mp ho' with rfl | ho'
    · exact List.mem_append_right _ (List.mem_singleton_self _)
    · exact List.mem_append_left _ (hmade o' ho')

/-- The sweeps a revocation owes to the grant. -/
def sweeps (deps : Deps) (grantID : String) : List Call :=
  (if deps.refreshTokens then [.revokeRefreshByGrant grantID] else []) ++
    if deps.opaqueAccessTokens then [.revokeOpaqueByGrant grantID] else []

/-- The calls of a revocation: nothing by the identifier of a credential. -/
def KitCall : Call → Prop
  | .device (.save _) => False
  | .revokeOpaqueByID _ => False
  | .revokeOpaqueByChain _ _ => False
  | .revokeRefreshChain _ => False
  | _ => True

lemma KitCall.noSave (h : KitCall o) : NoSave o := by
  rintro code rfl
  exact h

lemma calls_revokeJWT (grantID reason : String) :
    (revokeJWTGrantCredentials deps now grantID reason).Calls KitCall := by
  unfold revokeJWTGrantCredentials revokeJWTTombstoneCredentials revokeJWTRegistryCredentials
  split
  · trivial
  · split
    · exact (calls_ask trivial).bind fun _ => trivial
    · trivial
  · split
    · exact (calls_ask trivial).bind fun _ => trivial
    · split
      · exact (calls_ask trivial).bind fun _ => trivial
      · trivial

lemma upholds_revokeGrantCredentials (grantID reason : String)
    (hInv : (devices D deviceCode).Inv s) (h : MadeSince deviceCode [] s) :
    Notes D deviceCode (fun _ => MadeSince deviceCode (sweeps deps grantID))
      (revokeGrantCredentials deps now grantID reason) s := by
  have hjwt : (revokeJWTGrantCredentials deps now grantID reason).Calls NoSave :=
    (calls_revokeJWT deps now grantID reason).mono fun _ ho => ho.noSave
  refine ((upholds_noted hjwt s).frame
    (fun s s' hG hm => MadeSince.stable hG hm) h).bind hInv ?_
  rintro _ s₁ hInv₁ ⟨_, h₁⟩
  refine Upholds.bind (Q := fun _ => MadeSince deviceCode
    (if deps.opaqueAccessTokens then [.revokeOpaqueByGrant grantID] else [])) ?_ hInv₁ ?_
  · unfold revokeOpaqueGrantCredentials
    split
    · exact (upholds_sweep
        (fun _ h => by cases h) h₁).bind hInv₁ fun _ _ _ hm _ hG _ => hm.stable hG
    · exact fun _ hG _ => h₁.stable hG
  intro _ s₂ hInv₂ h₂
  refine Upholds.bind (Q := fun _ => MadeSince deviceCode (sweeps deps grantID)) ?_ hInv₂
    fun _ _ _ hm _ hG _ => hm.stable hG
  unfold revokeRefreshGrantCredentials sweeps
  split
  · exact (upholds_sweep (fun _ h => by cases h) h₂).bind hInv₂ fun _ _ _ hm _ hG _ => hm.stable hG
  · exact fun _ hG _ => h₂.stable hG

lemma upholds_revoke (reason : String) (hInv : (devices D deviceCode).Inv s) :
    Notes D deviceCode
      (fun errors s' => errors = [] → MadeSince deviceCode (sweeps deps (H.grantID deviceCode)) s')
      (revoke deps H now deviceCode reason) s := by
  unfold revoke
  split
  · exact fun _ _ _ h => by cases h
  refine (upholds_noted (calls_ask fun _ h => by cases h) s).bind hInv fun r s₁ hInv₁ _ => ?_
  split
  · exact fun _ _ _ h => by cases h
  refine (upholds_noted_ask (o := .device (.revoke deviceCode reason)) (fun _ h => by cases h)
    (Q := fun r s' => r = .ok () → MadeSince deviceCode [] s')
    (fun _ _ _ hG hm hr => (hm hr).stable hG) fun s' _ _ e hr => ?_).bind hInv₁ ?_
  · refine ⟨s'.2, [], reason, ?_, fun o ho => by cases ho⟩
    change s'.2 ++ [note (.device (.revoke deviceCode reason))
      (noteHandle D e (.device (.revoke deviceCode reason)) s').2] = _
    rw [hr]
    rfl
  · intro r s₂ hInv₂ hr
    split
    · exact fun _ _ _ h => by cases h
    · refine (upholds_revokeGrantCredentials deps now _ reason hInv₂ (hr rfl)).imp ?_
      exact fun _ _ _ hm _ => hm

lemma calls_revoke (code reason : String) : (revoke deps H now code reason).Calls KitCall := by
  unfold revoke
  split
  · trivial
  refine (calls_ask trivial).bind fun r => ?_
  split
  · trivial
  refine (calls_ask trivial).bind fun r => ?_
  split
  · trivial
  unfold revokeGrantCredentials revokeOpaqueGrantCredentials revokeRefreshGrantCredentials
  refine (calls_revokeJWT deps now _ reason).bind fun _ => Prog.Calls.bind ?_ fun _ =>
    Prog.Calls.bind ?_ fun _ => trivial
  · split
    · exact (calls_ask trivial).bind fun _ => trivial
    · trivial
  · split
    · exact (calls_ask trivial).bind fun _ => trivial
    · trivial

/-! ### Runs -/

def Says (D : KeyDigest) (deps : Deps) (H : GrantDeriver) (deviceCode : String) :
    Report → NotedStores → Prop
  | .poll x r, s => PollSays D deps H deviceCode x r s
  | .decided, _ => True
  | .revoked code errors, s => code = deviceCode → errors = [] →
      MadeSince deviceCode (sweeps deps (H.grantID deviceCode)) s

lemma PollSays.stable {deps : Deps} {H : GrantDeriver} {x : Poll} {r : PollReport}
    (hG : (devices D deviceCode).G s s') (h : PollSays D deps H deviceCode x r s) :
    PollSays D deps H deviceCode x r s' := by
  refine ⟨fun hr => ⟨(h.1 hr).1, (h.1 hr).2.stable hG⟩, fun hr => ⟨fun hm => ?_, fun hm => ?_⟩⟩
  · exact ((h.2 hr).1 hm).stable (devices_view hG)
  · exact ((h.2 hr).2 hm).stable (devices_view hG)

lemma upholds_party (scopes : Registry) (deps : Deps) (H : GrantDeriver) (x : Party)
    (hInv : (devices D deviceCode).Inv s) :
    Notes D deviceCode (Says D deps H deviceCode) (party scopes deps H deviceCode x) s := by
  cases x with
  | poll x =>
    exact (upholds_handleDeviceCode scopes deps H x hInv).bind hInv
      fun _ _ _ hs _ hG _ => hs.stable hG
  | decide d =>
    have hcall : NoSave (.device d.call) := by
      intro code h
      cases d <;> cases h
    exact (upholds_noted (calls_ask hcall) s).bind hInv fun _ _ _ _ _ _ _ => trivial
  | revoke now code reason =>
    by_cases hcode : code = deviceCode
    · subst hcode
      exact (upholds_revoke deps H now reason hInv).bind hInv
        fun _ _ _ hm _ hG _ _ he => (hm he).stable hG
    · have hcalls : (revoke deps H now code reason).Calls NoSave :=
        (calls_revoke deps H now code reason).mono fun _ ho => ho.noSave
      exact (upholds_noted hcalls s).bind hInv fun _ _ _ _ _ _ _ h => absurd h hcode

end

lemma says_of_outcome {D : KeyDigest} (scopes : Registry) (deps : Deps) (H : GrantDeriver)
    (deviceCode : String) {w : Substores} (hw : Coherent D w) (ms : List (Move Chance Empty Party))
    {i : ℕ} {report : Report}
    (h : System.outcome ((redemption D scopes deps H deviceCode).execute ⟨w, []⟩ ms) i =
      some report) :
    Says D deps H deviceCode report
      (((redemption D scopes deps H deviceCode).execute ⟨w, []⟩ ms).shared,
        (redemption D scopes deps H deviceCode).notes note ⟨w, []⟩ ms) :=
  outlined_outcome (Y := redemption D scopes deps H deviceCode) note
    (fun x _ hInv => upholds_party scopes deps H x hInv) ⟨⟨hw, nofun⟩, nofun⟩ ms h

/-! ### What one poll wins -/

/-- What a poll is out for: the record of the device code, and the rows under two
keys, if there are any. -/
structure Prize where
  deviceCode : String
  opaqueKey : Option String
  refreshKey : Option String

/-- The consumption of the record, and the rows under two keys. -/
inductive Stake where
  | code
  | opaqueRow
  | refreshRow
  deriving DecidableEq, Nonempty

section
variable (D : KeyDigest) (z : Prize)

def ConsumedBy : (o : Call) → o.Reply → Prop
  | .device (.consume code), .ok _ => D.hashKey code = D.hashKey z.deviceCode
  | _, _ => False

def SavedOpaque (key : String) : (o : Call) → o.Reply → Prop
  | .saveOpaque tok, .ok _ => D.hashKey tok.id = key
  | _, _ => False

def SavedRefresh (key : String) : (o : Call) → o.Reply → Prop
  | .saveRefresh token, .ok _ => D.hashKey token.id = key
  | .saveRotation token _, .ok _ => D.hashKey token.id = key
  | _, _ => False

/-- Without a key there is no row to win beyond the record. -/
def stakeWins : Stake → (o : Call) → o.Reply → Prop
  | .code, o, r => ConsumedBy D z o r
  | .opaqueRow, o, r =>
    match z.opaqueKey with
    | none => ConsumedBy D z o r
    | some key => SavedOpaque D key o r
  | .refreshRow, o, r =>
    match z.refreshKey with
    | none => ConsumedBy D z o r
    | some key => SavedRefresh D key o r

def stakeSpent : Stake → Substores → Prop
  | .code, w => Consumed D z.deviceCode w
  | .opaqueRow, w =>
    match z.opaqueKey with
    | none => Consumed D z.deviceCode w
    | some key => ∃ row, w.opaqueAccessTokens.m.lookup key = some row
  | .refreshRow, w =>
    match z.refreshKey with
    | none => Consumed D z.deviceCode w
    | some key => ∃ row, w.refreshTokens.m.lookup key = some row

/-- A call that may retire the row under one of the keys, and is not a sweep of
its grant. -/
def retiresKey : Call → Prop
  | .revokeOpaqueByID id => z.opaqueKey = some (D.hashKey id)
  | .revokeOpaqueByChain _ _ => z.opaqueKey ≠ none
  | .revokeRefreshChain id => z.refreshKey = some (D.hashKey id)
  | _ => False

/-- The poll was released, with tokens under the keys. -/
def Winning : Report → Prop
  | .poll x r => r.response = .released ∧
      (∀ key, z.opaqueKey = some key →
        ∃ tok, x.accessToken = .opaqueToken tok ∧ D.hashKey tok.id = key) ∧
      ∀ key, z.refreshKey = some key →
        ∃ root, x.refreshToken = some root ∧ D.hashKey root.token.id = key
  | _ => False

variable {D z} {w : Substores} {e : Chance} {o : Call}

lemma consumedBy_spent (h : ConsumedBy D z o (handle D e o w).2) :
    ¬Consumed D z.deviceCode w ∧ Consumed D z.deviceCode (handle D e o w).1 := by
  cases o with
  | device c =>
    cases c with
    | consume code =>
      cases hr : (handle D e (.device (.consume code)) w).2 with
      | error err =>
        rw [hr] at h
        exact h.elim
      | ok answer =>
        rw [hr] at h
        have hcode : D.hashKey code = D.hashKey z.deviceCode := h
        obtain ⟨⟨rec, hrec, happroved⟩, hconsumed⟩ := DeviceCodeStore.consume_ok hr
        rw [hcode] at hrec hconsumed
        refine ⟨?_, hconsumed⟩
        rintro ⟨rec', hrec', hstatus⟩
        rw [hrec, Option.some.injEq] at hrec'
        rw [← hrec', happroved] at hstatus
        cases hstatus
    | _ => exact h.elim
  | _ => exact h.elim

lemma savedOpaque_spent {key : String} (h : SavedOpaque D key o (handle D e o w).2) :
    (¬∃ row, w.opaqueAccessTokens.m.lookup key = some row) ∧
      ∃ row, (handle D e o w).1.opaqueAccessTokens.m.lookup key = some row := by
  cases o with
  | saveOpaque tok =>
    cases hr : (handle D e (.saveOpaque tok) w).2 with
    | error err =>
      rw [hr] at h
      exact h.elim
    | ok _ =>
      rw [hr] at h
      have hkey : D.hashKey tok.id = key := h
      subst hkey
      refine ⟨?_, _, lookup_saveOpaque_ok hr⟩
      rintro ⟨row, hrow⟩
      change (OpaqueAccessTokens.save D w.opaqueAccessTokens (some tok)).2 = .ok () at hr
      unfold OpaqueAccessTokens.save insertRow at hr
      dsimp only at hr
      split_ifs at hr
      simp [hrow] at hr
  | _ => exact h.elim

lemma savedRefresh_spent {key : String} (h : SavedRefresh D key o (handle D e o w).2) :
    (¬∃ row, w.refreshTokens.m.lookup key = some row) ∧
      ∃ row, (handle D e o w).1.refreshTokens.m.lookup key = some row := by
  cases o with
  | saveRefresh token =>
    cases hr : (handle D e (.saveRefresh token) w).2 with
    | error err =>
      rw [hr] at h
      exact h.elim
    | ok _ =>
      rw [hr] at h
      have hkey : D.hashKey token.id = key := h
      subst hkey
      refine ⟨?_, _, lookup_save hr⟩
      rintro ⟨row, hrow⟩
      change (save D w.refreshTokens (some token)).2 = .ok () at hr
      rcases save_cases (D := D) w.refreshTokens (some token) with
        ⟨err, heq⟩ | ⟨tok, htok, hadm, heq⟩
      · rw [heq] at hr
        cases hr
      · cases htok
        rw [hadm.fresh] at hrow
        cases hrow
  | saveRotation token contents =>
    cases hr : (handle D e (.saveRotation token contents) w).2 with
    | error err =>
      rw [hr] at h
      exact h.elim
    | ok _ =>
      rw [hr] at h
      have hkey : D.hashKey token.id = key := h
      subst hkey
      refine ⟨?_, _, lookup_saveRotationWithRetry hr⟩
      rintro ⟨row, hrow⟩
      change (saveRotationWithRetry D e.order e.now w.refreshTokens (some token) contents).2 =
        .ok () at hr
      rcases saveRotationWithRetry_cases (D := D) e.order e.now w.refreshTokens (some token)
        contents with ⟨err, heq⟩ | ⟨tok, key', rec, htok, hadm, heq⟩
      · rw [heq] at hr
        cases hr
      · cases htok
        rw [hadm.fresh] at hrow
        cases hrow
  | _ => exact h.elim

variable (D z)

def stakes : Stakes Stake (handle D) NoSave where
  wins := stakeWins D z
  Spent := stakeSpent D z
  Inv := Coherent D
  inv e o _ _ h := coherent_handle h e o
  won x e o w _ h := by
    cases x with
    | code => exact consumedBy_spent h
    | opaqueRow =>
      rcases z with ⟨deviceCode, _ | key, refreshKey⟩
      · exact consumedBy_spent h
      · exact savedOpaque_spent h
    | refreshRow =>
      rcases z with ⟨deviceCode, opaqueKey, _ | key⟩
      · exact consumedBy_spent h
      · exact savedRefresh_spent h
  kept x e o w ho hw h := by
    have hadv := advances_handle hw e o
    cases x with
    | code => exact Consumed.call ho h
    | opaqueRow =>
      rcases z with ⟨deviceCode, _ | key, refreshKey⟩
      · exact Consumed.call ho h
      · obtain ⟨row, hrow⟩ := h
        obtain ⟨row', hrow', _⟩ := hadv.opaqueTokens key row hrow
        exact ⟨row', hrow'⟩
    | refreshRow =>
      rcases z with ⟨deviceCode, opaqueKey, _ | key⟩
      · exact Consumed.call ho h
      · obtain ⟨row, hrow⟩ := h
        obtain ⟨row', hrow', _⟩ := hadv.refresh key row hrow
        exact ⟨row', hrow'⟩

end

section Guards
variable {D : KeyDigest} {z : Prize} {W : Set Stake} {x : Poll} (deps : Deps) (scopes : Registry)

/-- If the access token is the one under the key, its row has been won. -/
def HoldsAccess (D : KeyDigest) (z : Prize) (x : Poll) (W : Set Stake) : Prop :=
  ∀ tok, x.accessToken = .opaqueToken tok → z.opaqueKey = some (D.hashKey tok.id) →
    Stake.opaqueRow ∈ W

def HoldsRefresh (D : KeyDigest) (z : Prize) (x : Poll) (W : Set Stake) : Prop :=
  ∀ root, x.refreshToken = some root → z.refreshKey = some (D.hashKey root.token.id) →
    Stake.refreshRow ∈ W

/-- The wire value stands for the opaque token of the poll. -/
def Carries (x : Poll) (accessToken : String) : Prop :=
  ∀ tok, x.accessToken = .opaqueToken tok → accessToken = tok.id

/-- What a part of a poll wins, and that it retires no row under a key before it has won. -/
abbrev TracksStakes (D : KeyDigest) (z : Prize) {A : Type} (F : A → Prop)
    (Q : A → Set Stake → Prop) (W : Set Stake) (p : Program A) : Prop :=
  Tracks (stakeWins D z) (retiresKey D z) F Q W p

lemma tracks_mint (grantID : String) (x : Poll) (W : Set Stake) :
    TracksStakes D z (fun _ => False)
      (fun r W' => ∀ wire, r = .ok wire → Carries x wire ∧ HoldsAccess D z x W') W
      (mintAccessToken deps grantID x.accessToken) := by
  cases ha : x.accessToken with
  | jwt signed rec =>
    have hnone : ∀ (r : Fallible String) (W' : Set Stake),
        ∀ wire, r = .ok wire → Carries x wire ∧ HoldsAccess D z x W' := by
      intro r W' wire _
      refine ⟨fun tok h => ?_, fun tok h => ?_⟩
      · rw [ha] at h
        cases h
      · rw [ha] at h
        cases h
    refine (tracks_of_calls ?_).mono fun r W' _ => hnone r W'
    exact calls_mintAccessToken deps grantID _ (fun _ => id) fun _ => id
  | opaqueToken tok =>
    unfold mintAccessToken
    dsimp only
    split
    · exact fun wire h => by cases h
    · refine ⟨fun h => h.elim, fun r wire hwire => ?_⟩
      have hok := ok_of_map_ok hwire
      subst hok
      refine ⟨fun tok' h => ?_, fun tok' h hkey => ?_⟩
      · rw [ha] at h
        cases h
        exact (Except.ok.inj hwire).symm
      · rw [ha] at h
        cases h
        obtain ⟨_, _, _⟩ := z
        cases hkey
        exact Set.mem_union_right _ rfl

lemma tracks_issueRoot (grantID : String) (x : Poll) (W : Set Stake) :
    TracksStakes D z (fun _ => False)
      (fun r W' => W ⊆ W' ∧ ∀ wire, r = .ok wire → HoldsRefresh D z x W' ∧
        (wire ≠ "" → z.refreshKey = some (D.hashKey wire) → Stake.refreshRow ∈ W')) W
      (issueRefreshToken deps grantID (x.refreshToken.map RefreshRoot.mint)) := by
  cases hr : x.refreshToken with
  | none =>
    refine ⟨subset_rfl, fun wire hwire => ⟨fun root h => ?_, fun hne => ?_⟩⟩
    · rw [hr] at h
      cases h
    · exact absurd (Except.ok.inj hwire).symm hne
  | some root =>
    change Tracks _ _ _ _ W (issueRefreshToken deps grantID (some root.mint))
    unfold issueRefreshToken
    dsimp only
    split
    · exact ⟨subset_rfl, fun wire h => by cases h⟩
    · refine ⟨fun h => h.elim, fun r => ⟨subset_gained W _ r, fun wire hwire => ?_⟩⟩
      have hok := ok_of_map_ok hwire
      subst hok
      have hwon : z.refreshKey = some (D.hashKey root.token.id) → Stake.refreshRow ∈
          gained (stakeWins D z) W
            (.saveRefresh (refreshRow grantID root.mint.token)) (.ok ()) := by
        obtain ⟨_, _, _⟩ := z
        rintro ⟨⟩
        exact Set.mem_union_right _ rfl
      refine ⟨fun root' h hkey => ?_, fun _ hkey => ?_⟩
      · rw [hr] at h
        cases h
        exact hwon hkey
      · rw [← Except.ok.inj hwire] at hkey
        exact hwon hkey

lemma calls_cleanup_guarded (hcarries : Carries x accessToken) (haccess : HoldsAccess D z x W)
    (hrefresh : refreshToken ≠ "" → z.refreshKey = some (D.hashKey refreshToken) →
      Stake.refreshRow ∈ W) :
    (cleanupPreparedCredentials deps x accessToken refreshToken).Calls
      fun o => retiresKey D z o → W.Nonempty := by
  refine calls_retireIssued deps x.now (fun hne hkey => ?_) fun hne hkey => ?_
  · cases ha : x.accessToken with
    | jwt signed rec =>
      rw [ha] at hne
      exact absurd rfl hne
    | opaqueToken tok =>
      rw [ha, hcarries tok ha] at hkey
      exact ⟨_, haccess tok ha hkey⟩
  · exact ⟨_, hrefresh hne hkey⟩

def HoldsPrepared (D : KeyDigest) (z : Prize) (x : Poll) (p : Preparation) (W : Set Stake) : Prop :=
  ∀ accessToken refreshToken, p = .ready accessToken refreshToken →
    Carries x accessToken ∧ HoldsAccess D z x W ∧ HoldsRefresh D z x W ∧
      (refreshToken ≠ "" → z.refreshKey = some (D.hashKey refreshToken) → Stake.refreshRow ∈ W)

lemma tracks_rollback {accessToken : String} (hcarries : Carries x accessToken)
    (haccess : HoldsAccess D z x W) (minted : Bool) :
    TracksStakes D z
      (fun p => ∃ m, p = .failed m) (HoldsPrepared D z x) W
      (do
        let _ ← cleanupPreparedCredentials deps x accessToken ""
        return Preparation.failed minted) := by
  refine tracks_of_returns ?_ ?_ ?_
  · exact (Prog.returns_true _).bind fun _ _ => ⟨minted, rfl⟩
  · exact (calls_cleanup_guarded deps hcarries haccess
      fun hne => absurd rfl hne).bind fun _ => trivial
  · rintro _ _ ⟨m, rfl⟩ _ _ _ h
    cases h

lemma tracks_prepare (H : GrantDeriver) (x : Poll) (W : Set Stake) :
    TracksStakes D z
      (fun p => ∃ m, p = .failed m) (HoldsPrepared D z x) W
      (preparePolledResponse deps H z.deviceCode x) := by
  have hempty : ∀ W' : Set Stake,
      TracksStakes D z
        (fun p => ∃ m, p = .failed m) (HoldsPrepared D z x) W'
        (do
          let _ ← cleanupPreparedCredentials deps x "" ""
          return Preparation.failed false) := by
    intro W'
    refine tracks_of_returns ?_ ?_ ?_
    · exact (Prog.returns_true _).bind fun _ _ => ⟨false, rfl⟩
    · refine (calls_retireIssued deps x.now (fun hne => ?_) fun hne => ?_).bind fun _ => trivial
      · exact absurd (by split <;> rfl) hne
      · exact absurd rfl hne
    · rintro _ _ ⟨m, rfl⟩ _ _ _ h
      cases h
  unfold preparePolledResponse
  split
  · intro _ _ h
    cases h
  split
  · exact hempty W
  refine (tracks_mint deps _ x W).bind (fun _ h => h.elim) fun r W₁ hminted => ?_
  split
  · exact hempty W₁
  obtain ⟨hcarries, haccess⟩ := hminted _ rfl
  split
  · exact tracks_rollback deps hcarries haccess true
  refine (tracks_issueRoot deps _ x W₁).bind (fun _ h => h.elim) fun r W₂ hissued => ?_
  have haccess₂ : HoldsAccess D z x W₂ := fun tok h hkey => hissued.1 (haccess tok h hkey)
  split
  · exact tracks_rollback deps hcarries haccess₂ true
  · obtain ⟨hrefresh, hwire⟩ := hissued.2 _ rfl
    rintro _ _ ⟨rfl, rfl⟩
    exact ⟨hcarries, haccess₂, hrefresh, hwire⟩

/-- A released poll has won the record, and its rows where they are the ones. -/
def HoldsReleased (D : KeyDigest) (z : Prize) (x : Poll) (r : PollReport) (W : Set Stake) : Prop :=
  r.response = .released → (Stake.code ∈ W ∧ (z.opaqueKey = none → Stake.opaqueRow ∈ W) ∧
    (z.refreshKey = none → Stake.refreshRow ∈ W)) ∧
    HoldsAccess D z x W ∧ HoldsRefresh D z x W

lemma tracks_consume (W : Set Stake) :
    TracksStakes D z (fun _ => False)
      (fun answer W' => W ⊆ W' ∧ answer ≠ some .released ∧ (answer = none → Stake.code ∈ W' ∧
        (z.opaqueKey = none → Stake.opaqueRow ∈ W') ∧
        (z.refreshKey = none → Stake.refreshRow ∈ W')))
      W (consumeDeviceCode z.deviceCode) := by
  have hask : TracksStakes D z (fun _ => False)
      (fun r W' => W ⊆ W' ∧ ∀ answer, r = .ok answer → Stake.code ∈ W' ∧
        (z.opaqueKey = none → Stake.opaqueRow ∈ W') ∧ (z.refreshKey = none → Stake.refreshRow ∈ W'))
      W (ask (.device (.consume z.deviceCode))) := by
    refine ⟨fun h => h.elim, fun r => ⟨subset_gained W _ r, fun answer hr => ?_⟩⟩
    subst hr
    obtain ⟨_, _, _⟩ := z
    refine ⟨Set.mem_union_right _ rfl, ?_, ?_⟩
    · rintro ⟨⟩
      exact Set.mem_union_right _ rfl
    · rintro ⟨⟩
      exact Set.mem_union_right _ rfl
  refine hask.bind (fun _ h => h.elim) fun r W' hr => ?_
  split
  · exact ⟨hr.1, nofun, fun _ => hr.2 _ rfl⟩
  all_goals exact ⟨hr.1, nofun, nofun⟩

lemma tracks_refuseIssuance (now : Time) (issued : IssuedUnderGrant) (h : Stake.code ∈ W) :
    TracksStakes D z
      (fun c => c ≠ .proceed) (fun _ W' => W ⊆ W') W
      (refuseIssuanceUnderClosedGrant deps now issued) := by
  have hretire : ∀ (c : Closure) (W' : Set Stake), c ≠ .proceed → W ⊆ W' →
      TracksStakes D z
        (fun c => c ≠ .proceed) (fun _ W' => W ⊆ W') W'
        (do
          let _ ← retireIssued deps now teardownReasonGrantTombstoned issued.accessToken
            issued.refreshToken
          return c) := by
    intro c W' hc hW
    refine tracks_of_returns ?_ ?_ fun _ _ _ hW' => hW.trans hW'
    · exact (Prog.returns_true _).bind fun _ _ => hc
    · exact (calls_retireIssued deps now (fun _ _ => ⟨_, hW h⟩) fun _ _ => ⟨_, hW h⟩).bind
        fun _ => trivial
  unfold refuseIssuanceUnderClosedGrant
  split
  · exact subset_rfl
  have hask : TracksStakes D z (fun _ => False) (fun _ W' => W ⊆ W') W
      (ask (.isIssuanceRevoked issued.grantID issued.issuedAt)) :=
    tracks_of_calls (calls_ask id)
  refine hask.bind (fun _ h => h.elim) fun r W' hW => ?_
  split
  · exact hW
  · exact hretire .refused W' nofun hW
  · exact hretire .serverError W' nofun hW

lemma tracks_redeem (H : GrantDeriver) (x : Poll) (rec : DeviceCodeStore.DeviceCode)
    (h : HoldsPrepared D z x (.ready accessToken refreshToken) W) :
    TracksStakes D z
      (fun r => r.response ≠ .released) (HoldsReleased D z x) W
      (redeem deps H z.deviceCode x rec accessToken refreshToken) := by
  obtain ⟨hcarries, haccess, hrefresh, hwire⟩ := h accessToken refreshToken rfl
  refine (tracks_consume W).bind (fun _ h => h.elim) fun answer W₁ hanswer => ?_
  obtain ⟨hW, hne, hwon⟩ := hanswer
  have haccess₁ : HoldsAccess D z x W₁ := fun tok h hkey => hW (haccess tok h hkey)
  split
  · rename_i response
    have hresponse : response ≠ .released := fun hr => hne (by rw [hr])
    refine tracks_of_returns ?_ ?_ fun r _ hr _ hreleased => absurd hreleased hr
    · exact (Prog.returns_true _).bind fun _ _ => hresponse
    · exact (calls_cleanup_guarded deps hcarries haccess₁
        fun hne hkey => hW (hwire hne hkey)).bind fun _ => trivial
  · obtain ⟨hcode, haccessRow, hroot⟩ := hwon rfl
    refine (tracks_refuseIssuance deps x.now _ hcode).bind ?_ fun closure W₂ hW₂ hreleased => ?_
    · intro closure hclosure hreleased
      cases closure with
      | proceed => exact hclosure rfl
      | refused => cases hreleased
      | serverError => cases hreleased
    · exact ⟨⟨hW₂ hcode, fun hkey => hW₂ (haccessRow hkey), fun hkey => hW₂ (hroot hkey)⟩,
        fun tok h hkey => hW₂ (haccess₁ tok h hkey),
        fun root h hkey => hW₂ (hW (hrefresh root h hkey))⟩

lemma holdsReleased_refused {response : PollResponse} (h : response ≠ .released) (W : Set Stake) :
    HoldsReleased D z x { response } W :=
  fun hr => absurd hr h

lemma tracks_handleDeviceCode (deps : Deps) (H : GrantDeriver) (x : Poll) :
    TracksStakes D z
      (fun r => r.response ≠ .released) (HoldsReleased D z x) ∅
      (handleDeviceCode scopes deps H z.deviceCode x) := by
  have hlookup : (lookupDeviceCode z.deviceCode x).Calls
      fun o => ¬retiresKey D z o := calls_lookupDeviceCode x id
  have hdecide : ∀ rec, (applyPollDecision x.now rec z.deviceCode).Calls
      fun o => ¬retiresKey D z o := fun rec =>
    calls_applyPollDecision x.now rec z.deviceCode fun _ _ => id
  refine ((tracks_of_calls hlookup).returns (returns_lookupDeviceCode x)).bind
    (F := fun _ => False) (fun _ h => h.elim) fun r W₁ hr => ?_
  split
  · exact holdsReleased_refused (fun h => hr.2 (by rw [h])) W₁
  refine ((tracks_of_calls (hdecide _)).returns (returns_applyPollDecision x.now _)).bind
    (F := fun _ => False) (fun _ h => h.elim) fun answer W₂ hanswer => ?_
  split
  · exact holdsReleased_refused (fun h => hanswer.2 (by rw [h])) W₂
  split
  · exact holdsReleased_refused (fun h => by cases h) W₂
  unfold issuePolled
  split
  · refine tracks_of_returns ?_ ?_ fun r _ hr _ hreleased => absurd hreleased hr
    · exact (Prog.returns_true _).bind fun _ _ => nofun
    · exact (calls_ask fun h => h.elim).bind fun _ => trivial
  · exact holdsReleased_refused (fun h => by cases h) W₂
  · refine (tracks_prepare deps H x W₂).bind ?_ fun p W₃ hp => ?_
    · rintro _ ⟨m, rfl⟩
      exact nofun
    · split
      · intro hreleased
        cases hreleased
      · exact tracks_redeem deps H x _ hp

lemma stake_of_winning {r : PollReport} (h : HoldsReleased D z x r W)
    (hwin : Winning D z (.poll x r)) (k : Stake) : k ∈ W := by
  obtain ⟨hreleased, haccess, hrefresh⟩ := hwin
  obtain ⟨⟨hcode, haccessRow, hroot⟩, hholdsA, hholdsR⟩ := h hreleased
  cases k with
  | code => exact hcode
  | opaqueRow =>
    cases hkey : z.opaqueKey with
    | none => exact haccessRow hkey
    | some key =>
      obtain ⟨tok, htok, heq⟩ := haccess key hkey
      exact hholdsA tok htok (by rw [hkey, heq])
  | refreshRow =>
    cases hkey : z.refreshKey with
    | none => exact hroot hkey
    | some key =>
      obtain ⟨root, htok, heq⟩ := hrefresh key hkey
      exact hholdsR root htok (by rw [hkey, heq])

lemma guarded_party (deps : Deps) (H : GrantDeriver) (x : Party) :
    Guarded (stakeWins D z) (retiresKey D z) (fun report => ¬Winning D z report) ∅
      (party scopes deps H z.deviceCode x) := by
  cases x with
  | poll x =>
    refine (tracks_handleDeviceCode scopes deps H x).bind ?_ ?_
    · exact fun r hr hwin => hr hwin.1
    · rintro r W h ⟨k, hk⟩ hwin
      exact hk (stake_of_winning h hwin k)
  | decide d =>
    refine guarded_of_returns ?_ ((calls_ask fun h => h.elim).bind fun _ => trivial)
    exact (Prog.returns_true _).bind fun _ _ => id
  | revoke now code reason =>
    refine guarded_of_returns ?_ ?_
    · exact (Prog.returns_true _).bind fun _ _ => id
    · refine Prog.Calls.bind ((calls_revoke deps H now code reason).mono ?_) fun _ => trivial
      intro o ho hkey
      cases o with
      | revokeOpaqueByID id => exact ho.elim
      | revokeOpaqueByChain grantID chainID => exact ho.elim
      | revokeRefreshChain id => exact ho.elim
      | _ => exact hkey.elim

lemma calls_party (deps : Deps) (H : GrantDeriver) (deviceCode : String) (x : Party) :
    (party scopes deps H deviceCode x).Calls NoSave := by
  cases x with
  | poll x =>
    refine Prog.Calls.bind ?_ fun _ => trivial
    exact (calls_handleDeviceCode scopes deps H deviceCode x).mono fun _ ho => ho.noSave
  | decide d =>
    refine (calls_ask fun code h => ?_).bind fun _ => trivial
    cases d <;> cases h
  | revoke now code reason =>
    refine Prog.Calls.bind ?_ fun _ => trivial
    exact (calls_revoke deps H now code reason).mono fun _ ho => ho.noSave

end Guards

/-! ### The claim of one poll -/

section
variable {D : KeyDigest} {scopes : Registry} {deps : Deps} {H : GrantDeriver} {deviceCode : String}

lemma guarded_redemption (z : Prize) (x : Party) :
    Guarded (stakes D z).wins (retiresKey D z) (fun report => ¬Winning D z report) ∅
      ((redemption D scopes deps H z.deviceCode).program x) :=
  guarded_party scopes deps H x

variable {w : Substores} (hw : Coherent D w) {ms : List (Move Chance Empty Party)}
include hw

lemma released_unique {i j : ℕ} {x y : Poll} {r r' : PollReport}
    (hi : System.outcome ((redemption D scopes deps H deviceCode).execute ⟨w, []⟩ ms) i =
      some (.poll x r))
    (hj : System.outcome ((redemption D scopes deps H deviceCode).execute ⟨w, []⟩ ms) j =
      some (.poll y r'))
    (hr : r.response = .released) (hr' : r'.response = .released) : i = j :=
  winner_unique (fun u => nomatch u) (calls_party scopes deps H deviceCode)
    (guarded_redemption ⟨deviceCode, none, none⟩) hw hi hj
    (fun h => h ⟨hr, nofun, nofun⟩) (fun h => h ⟨hr', nofun, nofun⟩)

lemma not_retired_of_winning (z : Prize) {i : ℕ} {report : Report}
    (hi : System.outcome ((redemption D scopes deps H z.deviceCode).execute ⟨w, []⟩ ms) i =
      some report) (hwin : Winning D z report) :
    ∀ o ∈ (redemption D scopes deps H z.deviceCode).calls ⟨w, []⟩ ms, ¬retiresKey D z o :=
  no_foul (fun u => nomatch u) (calls_party scopes deps H z.deviceCode) (guarded_redemption z) hw
    hi (fun h => h hwin)

omit hw in
lemma calls_eq_notes :
    (redemption D scopes deps H deviceCode).calls ⟨w, []⟩ ms =
      ((redemption D scopes deps H deviceCode).notes note ⟨w, []⟩ ms).map Prod.fst :=
  (redemption D scopes deps H deviceCode).notes_map note Prod.fst ⟨w, []⟩ ms

omit hw in
/-- The rows a poll has claimed are there, and what marked them came after. -/
theorem claimed_row {entries : List (Entry D)} {s : NotedStores}
    (h : Claimed deviceCode entries s) {en : Entry D} (hen : en ∈ entries) :
    ∃ row, en.table.rows s.1 en.key = some row ∧
      (en.table.marked row = true → ∃ o ∈ s.2.map Prod.fst, en.table.may o en.key en.group) := by
  obtain ⟨p, q, hlog, _, hall⟩ := h
  obtain ⟨before, between, _, hp⟩ := hall en hen
  obtain ⟨row, hrow, _, _, hmay⟩ := hp.row
  refine ⟨row, hrow, fun hmarked => ?_⟩
  obtain ⟨o, ho, hcause⟩ := hmay hmarked
  have hview : s.2.map Prod.fst = _ := hp.log
  exact ⟨o, by rw [hview]; exact List.mem_append_right _ (List.mem_cons_of_mem _ ho), hcause⟩

omit hw in
lemma claimed_swept {entries : List (Entry D)} {s : NotedStores}
    (h : Claimed deviceCode entries s) (hmade : MadeSince deviceCode calls s)
    {en : Entry D} (hen : en ∈ entries) (sweep : Call) (hsweep : sweep ∈ calls)
    (hmust : en.table.must sweep en.key en.group) : Revoked en s.1 := by
  obtain ⟨p, q, hlog, hopen, hall⟩ := h
  obtain ⟨p', q', reason, hlog', hcalls⟩ := hmade
  obtain ⟨before, between, _, hp⟩ := hall en hen
  obtain ⟨row, hrow, _, hmark, _⟩ := hp.row
  obtain ⟨⟨o, b⟩, hn, rfl⟩ := List.mem_map.mp (hcalls sweep hsweep)
  have hpair : [(Call.device (.revoke deviceCode reason), true), (o, b)].Sublist
      (p ++ (Call.device (.consume deviceCode), true) :: q) := by
    rw [← hlog, hlog']
    exact ((List.singleton_sublist.mpr hn).cons_cons _).trans (List.sublist_append_right _ _)
  have hlate : (o, b) ∈ q := sublist_pair_of_notMem (hopen reason) (fun h => by cases h) hpair
  refine ⟨row, hrow, hmark ⟨o, ?_, hmust⟩⟩
  exact List.mem_append_right _ (List.mem_cons_of_mem _ (List.mem_map_of_mem hlate))

end

/-- Beyond a sweep of its grant, only its own identifier or chain marks a row. -/
theorem sweep_of_opaqueMay {D : KeyDigest} {deviceCode key grantID : String}
    (h : opaqueMay D o key grantID) (hfoul : ¬retiresKey D ⟨deviceCode, some key, none⟩ o) :
    o = .revokeOpaqueByGrant grantID := by
  cases o with
  | revokeOpaqueByGrant g => exact congrArg Call.revokeOpaqueByGrant h.1
  | revokeOpaqueByID id => exact absurd (congrArg some h.2) hfoul
  | revokeOpaqueByChain g chainID => exact absurd nofun hfoul
  | _ => exact h.elim

lemma sweep_of_refreshMay {D : KeyDigest} {deviceCode key : String} {place : Place}
    (hroot : place.parentID = none) (h : refreshMay D o key place)
    (hfoul : ¬retiresKey D ⟨deviceCode, none, some key⟩ o) :
    o = .revokeRefreshByGrant place.grantID := by
  cases o with
  | revokeRefreshByGrant g => exact congrArg Call.revokeRefreshByGrant h.1
  | revokeRefreshChain id =>
    rcases h with hkey | hparent
    · exact absurd (congrArg some hkey) hfoul
    · exact absurd hroot hparent
  | _ => exact h.elim

/-- Polls of one device code, decisions of the user and revocations, in any
interleaving of their calls and from any state of the stores: at most one poll
is released; whatever opaque and refresh rows a poll persisted that is not
released are revoked when it is done; the rows of the released poll are there,
and revoked only through a sweep of the grant, which no poll makes; and they are
revoked once a revocation of the device code is done. -/
theorem device_code_redeemed_once (D : KeyDigest) (scopes : Registry) (deps : Deps)
    (H : GrantDeriver) (deviceCode : String) (clients : Finset String)
    (history : List (Chance × Call)) (ms : List (Move Chance Empty Party)) :
    let system := redemption D scopes deps H deviceCode
    let run := system.execute ⟨storesAfter D clients history, []⟩ ms
    let calls := system.calls ⟨storesAfter D clients history, []⟩ ms
    let grantID := H.grantID deviceCode
    (∀ i j x y r r', System.outcome run i = some (.poll x r) →
      System.outcome run j = some (.poll y r') →
      r.response = .released → r'.response = .released → i = j) ∧
    (∀ i x r, System.outcome run i = some (.poll x r) → r.response ≠ .released →
      (∀ tok, x.accessToken = .opaqueToken tok → r.accessMinted = true →
        (run.shared.opaqueAccessTokens.m.lookup (D.hashKey tok.id)).any (·.revoked) = true) ∧
      ∀ root, x.refreshToken = some root → r.refreshIssued = true →
        (run.shared.refreshTokens.m.lookup (D.hashKey root.token.id)).any (·.revoked) = true) ∧
    (∀ i x r, System.outcome run i = some (.poll x r) → r.response = .released →
      (∀ tok, x.accessToken = .opaqueToken tok →
        ∃ row, run.shared.opaqueAccessTokens.m.lookup (D.hashKey tok.id) = some row ∧
          (row.revoked = true → Call.revokeOpaqueByGrant grantID ∈ calls)) ∧
      ∀ root, x.refreshToken = some root →
        ∃ row, run.shared.refreshTokens.m.lookup (D.hashKey root.token.id) = some row ∧
          (row.revoked = true → Call.revokeRefreshByGrant grantID ∈ calls)) ∧
    (∀ x, (handleDeviceCode scopes deps H deviceCode x).Calls fun o =>
      o ≠ .revokeOpaqueByGrant grantID ∧ o ≠ .revokeRefreshByGrant grantID) ∧
    ∀ i j x r, System.outcome run i = some (.poll x r) → r.response = .released →
      System.outcome run j = some (.revoked deviceCode []) →
      (∀ tok, x.accessToken = .opaqueToken tok →
        (run.shared.opaqueAccessTokens.m.lookup (D.hashKey tok.id)).any (·.revoked) = true) ∧
      ∀ root, x.refreshToken = some root →
        (run.shared.refreshTokens.m.lookup (D.hashKey root.token.id)).any (·.revoked) = true := by
  intro system run calls grantID
  have hw := coherent_storesAfter D clients history
  have hg : grantID ≠ "" := H.grantID_ne_empty deviceCode
  have hcalls : calls = (system.notes note ⟨storesAfter D clients history, []⟩ ms).map Prod.fst :=
    calls_eq_notes
  have hreport : ∀ i report, System.outcome run i = some report → Says D deps H deviceCode report
      (run.shared, system.notes note ⟨storesAfter D clients history, []⟩ ms) :=
    fun i report h => says_of_outcome scopes deps H deviceCode hw ms h
  have haccessRow : ∀ (x : Poll) tok, x.accessToken = .opaqueToken tok →
      opaqueEntry D grantID tok ∈ opaqueEntries D grantID x.accessToken := by
    intro x tok htok
    simp [htok, opaqueEntries]
  have hroot : ∀ (x : Poll) root, x.refreshToken = some root →
      refreshEntry D grantID root.mint ∈ rootEntries D grantID x.refreshToken := by
    intro x root hr
    simp [hr, rootEntries]
  refine ⟨fun i j x y r r' hi hj hr hr' => released_unique hw hi hj hr hr', ?_, ?_, ?_, ?_⟩
  · intro i x r hi hr
    obtain ⟨haccess, hrefresh⟩ := (hreport i _ hi).2 hr
    exact ⟨fun tok htok hm => (haccess hm _ (haccessRow x tok htok)).revoked.any,
      fun root hx hm => (hrefresh hm _ (hroot x root hx)).revoked.any⟩
  · intro i x r hi hr
    obtain ⟨_, hclaimed⟩ := (hreport i _ hi).1 hr
    refine ⟨fun tok htok => ?_, fun root hx => ?_⟩
    · obtain ⟨row, hrow, hmay⟩ := claimed_row hclaimed
        (List.mem_append_left _ (haccessRow x tok htok))
      refine ⟨row, hrow, fun hrevoked => ?_⟩
      obtain ⟨o, ho, hcause⟩ := hmay hrevoked
      rw [← hcalls] at ho
      have hfoul := not_retired_of_winning hw ⟨deviceCode, some (D.hashKey tok.id), none⟩ hi
        ⟨hr, fun key hkey => ⟨tok, htok, Option.some.inj hkey⟩, nofun⟩ o ho
      exact sweep_of_opaqueMay hcause hfoul ▸ ho
    · obtain ⟨row, hrow, hmay⟩ := claimed_row hclaimed (List.mem_append_right _ (hroot x root hx))
      refine ⟨row, hrow, fun hrevoked => ?_⟩
      obtain ⟨o, ho, hcause⟩ := hmay hrevoked
      rw [← hcalls] at ho
      have hfoul := not_retired_of_winning hw ⟨deviceCode, none, some (D.hashKey root.token.id)⟩ hi
        ⟨hr, nofun, fun key hkey => ⟨root, hx, Option.some.inj hkey⟩⟩ o ho
      exact sweep_of_refreshMay root.root hcause hfoul ▸ ho
  · intro x
    refine (calls_handleDeviceCode scopes deps H deviceCode x).mono fun o ho => ⟨?_, ?_⟩
    · rintro rfl
      exact ho
    · rintro rfl
      exact ho
  · intro i j x r hi hr hj
    obtain ⟨⟨accessToken, refreshToken, hissued⟩, hclaimed⟩ := (hreport i _ hi).1 hr
    have hmade := hreport j _ hj rfl rfl
    refine ⟨fun tok htok => ?_, fun root hx => ?_⟩
    · have hwired := (hissued.access tok htok).2.2
      exact (claimed_swept hclaimed hmade (List.mem_append_left _ (haccessRow x tok htok))
        (.revokeOpaqueByGrant grantID) (by simp [sweeps, hwired, grantID]) ⟨rfl, hg⟩).any
    · have hwired := (hissued.refresh root hx).2
      exact (claimed_swept hclaimed hmade (List.mem_append_right _ (hroot x root hx))
        (.revokeRefreshByGrant grantID) (by simp [sweeps, hwired, grantID]) ⟨rfl, hg⟩).any

/-! ### A run -/

/-- A derivation that keeps the device code readable, for concrete runs. -/
def plainDeriver : GrantDeriver where
  grantID deviceCode := "g:" ++ deviceCode
  grantID_ne_empty deviceCode h := by
    have hlen := congrArg String.length h
    rw [String.length_append] at hlen
    exact absurd hlen (by simp)

def sampleClient : RefreshEndpoint.Client :=
  ⟨"client", false, "client_secret_basic", ["openid"], [grantTypeDeviceCode], false⟩

def approvedCode : List (Chance × Call) :=
  [(⟨2, ascending⟩, .device (.save
      { (default : DeviceCodeStore.DeviceCode) with
        id := "dc", userCode := "uc", clientID := "client", scope := ["openid"], issuedAt := 1,
        expiresAt := 1000 })),
    (⟨3, ascending⟩, .device (.approve "dc" "subject" 3))]

def samplePoll (accessToken refreshToken : String) (h : refreshToken ≠ "") : Poll :=
  ⟨sampleClient, ⟨"", ""⟩, 8, .live, true, true,
    .opaqueToken { sampleOpaque with id := accessToken }, true,
    some ⟨{ sampleRefresh with id := refreshToken }, rfl, h⟩⟩

def pollA : Poll := samplePoll "atA" "rtA" (by decide)
def pollB : Poll := samplePoll "atB" "rtB" (by decide)

/-- Both polls prepare a response, the first one consumes the record, and the
device code is revoked after that. -/
def racingPolls : List (Move Chance Empty Party) :=
  [.start (.poll pollA), .start (.poll pollB), .start (.revoke 9 "dc" "user_revoked_device")] ++
    [0, 1, 0, 1, 0, 0, 1, 1, 0, 1, 0, 1, 1, 2, 2, 2, 2, 2].map
      fun i => .act i ⟨8, ascending⟩

theorem device_code_redeemed_once_racingPolls :
    let run := (redemption plainDigest none registryDeps plainDeriver "dc").execute
      ⟨storesAfter plainDigest ∅ approvedCode, []⟩ racingPolls
    System.outcome run 0 = some (.poll pollA ⟨.released, true, true⟩) ∧
      System.outcome run 1 = some (.poll pollB ⟨.refused expiredOrConsumed, true, true⟩) ∧
      (run.shared.opaqueAccessTokens.m.lookup "#atA").any (·.revoked) = true ∧
      (run.shared.refreshTokens.m.lookup "#rtB").any (·.revoked) = true := by
  intro run
  have hA : System.outcome run 0 = some (.poll pollA ⟨.released, true, true⟩) := by decide +kernel
  have hB : System.outcome run 1 = some (.poll pollB ⟨.refused expiredOrConsumed, true, true⟩) := by
    decide +kernel
  have hrevoked : System.outcome run 2 = some (.revoked "dc" []) := by decide +kernel
  obtain ⟨_, hlost, _, _, hswept⟩ := device_code_redeemed_once plainDigest none registryDeps
    plainDeriver "dc" ∅ approvedCode racingPolls
  exact ⟨hA, hB, (hswept 0 2 pollA _ hA rfl hrevoked).1 _ rfl,
    (hlost 1 pollB _ hB nofun).2 _ rfl rfl⟩

end OidcProvider.DeviceRedemption
