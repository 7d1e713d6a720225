import OidcProvider.EndSession

/-!
# Logout on the strength of a hint

A hint that names the account of the session skips the confirmation if the logout would
destroy nothing of other accounts. The chooser group is read for that decision and read
again to be destroyed. Each session id belongs to one account here, as random ids do.
-/
namespace OidcProvider.HintedLogout
open FiniteMaps Interference ResumptionPrograms SessionStore StoreRecords EndSession
open SessionManager (ManagerError Payload clock_handle deleteQuietly expiredIfMissing foreign
  logoutAllSnapshot lookup_of_found rebind remove removeChecked resolve row_handle sessionExpired)

/-! ### What a logout may touch -/

def retires : Teardown.Call → Option String
  | .revokeRefreshByGrant grantID => some grantID
  | .revokeOpaqueByGrant grantID => some grantID
  | .revokeByGrant grantID => some grantID
  | .revokeGrant t => some t.grantID
  | _ => none

/-- The call deletes no session row and tears down no grant but those of the subject. -/
def Spares (subject : Option String) (w : World) : Call → Prop
  | .session (.delete id) =>
    ∀ rec, w.manager.sessions.m.lookup id = some rec → subject = some rec.subject
  | .tokens c =>
    ∃ grantID, retires c = some grantID ∧
      ∀ g, w.grants.m.lookup grantID = some g → subject = some g.subject
  | _ => True

def authenticated : SessionLookup → Option SessionFingerprint
  | .active sess => some sess
  | _ => none

lemma eq_active_of_authenticated {lookup : SessionLookup} {sess : SessionFingerprint}
    (h : authenticated lookup = some sess) : lookup = .active sess := by
  cases lookup with
  | active found =>
    cases h
    rfl
  | _ => cases h

/-! ### The accounts of the ids -/

section
variable (owner : String → String)

def Owned (s : Sessions) : Prop := ∀ id rec, s.m.lookup id = some rec → rec.subject = owner id

/-- A call that saves a session only for the account of its id. -/
def SavesOwned : Call → Prop
  | .session (.save _ sess) => sess.subject = owner sess.id
  | _ => True

structure Settled (grants : Grants) (w : World) : Prop where
  owned : Owned owner w.manager.sessions
  grants : w.grants = grants

end

section
variable {supply : ℕ → String} {D : KeyDigest} {owner : String → String} {grants : Grants}

lemma owned_manager {o : SessionManager.Call} (ho : SavesOwned owner (.session o))
    (e : SessionManager.Chance) {w : SessionManager.World} (hw : Owned owner w.sessions) :
    Owned owner (SessionManager.handle supply e o w).1.sessions := by
  intro id rec hrec
  rcases row_handle hrec with
    ⟨rfl, origin, rfl⟩ | hrec | ⟨row, _, _, _, hrow, _, rfl⟩
  · exact ho
  · exact hw id rec hrec
  · exact hw id row hrow

lemma Settled.handle {o : Call} (ho : SavesOwned owner o) (e : Chance) {w : World}
    (hw : Settled owner grants w) : Settled owner grants (handle supply D e o w).1 := by
  cases o with
  | session c => exact ⟨owned_manager ho e.session hw.owned, hw.grants⟩
  | listGrants _ => exact ⟨hw.owned, hw.grants⟩
  | tokens _ => exact ⟨hw.owned, hw.grants⟩

/-! ### The calls of the request -/

variable {S groupID : String} {sess : SessionFingerprint} {rows : List Session} {w : World}
  {o : Call} {A : Type} (deps : Deps) (r : Teardown.Revoker)
variable {slots : ℕ → Slot Chance Call} {snapshot : List Session}

lemma observes_call {Q : A → Prop} {subject : Option String} {k : o.Reply → Program A}
    (ho : SavesOwned owner o) (hspares : ∀ w, Settled owner grants w → Spares subject w o)
    (hk : ∀ e w, Settled owner grants w →
      Observes (handle supply D) (Settled owner grants) (Spares subject) Q
        (k (handle supply D e o w).2)) :
    Observes (handle supply D) (Settled owner grants) (Spares subject) Q (.call o k) :=
  fun w hw => ⟨hspares w hw, fun e => ⟨hw.handle ho e, hk e w hw⟩⟩

def Quiet : Call → Prop
  | .session (.delete _) | .session (.save _ _) | .tokens _ => False
  | _ => True

lemma Quiet.savesOwned (h : Quiet o) : SavesOwned owner o := by
  cases o with
  | session c =>
    cases c with
    | save _ _ => exact h.elim
    | _ => exact trivial
  | _ => exact trivial

lemma Quiet.spares (h : Quiet o) (subject : Option String) (w : World) : Spares subject w o := by
  cases o with
  | session c =>
    cases c with
    | delete _ => exact h.elim
    | _ => exact trivial
  | listGrants _ => exact trivial
  | tokens _ => exact h.elim

variable (supply D owner grants S) in
/-- Whatever settled world its calls meet, the program spares the other accounts. -/
abbrev Sparing {A : Type} (p : Program A) : Prop :=
  Observes (handle supply D) (Settled owner grants) (Spares (some S)) (fun _ => True) p

lemma observes_of_quiet {p : Program A} (hp : p.Calls Quiet) :
    Sparing supply D owner grants S p := by
  induction p with
  | ret a => exact trivial
  | call o k ih =>
    exact observes_call hp.1.savesOwned (fun w _ => hp.1.spares _ w) fun _ _ _ => ih _ (hp.2 _)

lemma observes_deleteQuietly {id : String} (hid : owner id = S) :
    Sparing supply D owner grants S (onSessions (deleteQuietly id)) := by
  refine observes_call trivial (fun w hw rec hrec => ?_) fun _ _ _ => trivial
  rw [hw.owned id rec hrec, hid]

lemma quiet_rebind (groupID current removeID : String) (remaining : List Session) :
    (onSessions (rebind groupID current removeID remaining)).Calls Quiet := by
  unfold rebind
  cases remaining with
  | nil => exact trivial
  | cons first rest =>
    split_ifs
    · exact trivial
    refine ⟨trivial, fun now => ⟨trivial, fun r => ?_⟩⟩
    cases r <;> exact trivial

lemma observes_remove {id : String} (hid : owner id = S) (groupID current : String) :
    Sparing supply D owner grants S (onSessions (remove groupID current id)) := by
  unfold remove
  split_ifs
  · exact trivial
  refine observes_call trivial (fun _ _ => trivial) fun e w _ => ?_
  generalize (handle supply D e (.session (.find id)) w).2 = target
  change Observes _ _ _ _ (onSessions (removeChecked groupID current id
    (foreign groupID target)))
  cases foreign groupID target with
  | some e => exact trivial
  | none =>
    unfold onSessions removeChecked
    rw [embed_bind]
    refine (observes_deleteQuietly hid).bind fun r _ => ?_
    cases r with
    | error e => exact trivial
    | ok _ => exact observes_of_quiet ⟨trivial, fun remaining => quiet_rebind _ _ _ remaining⟩

lemma observes_logoutAllSnapshot (hrows : ∀ row ∈ rows, owner row.id = S) :
    Sparing supply D owner grants S (onSessions (logoutAllSnapshot rows)) := by
  induction rows with
  | nil => exact trivial
  | cons row rows ih =>
    have hrest := ih fun row' hrow' => hrows row' (List.mem_cons_of_mem row hrow')
    unfold logoutAllSnapshot
    split_ifs
    · exact hrest
    unfold onSessions at hrest ⊢
    rw [embed_bind]
    refine (observes_deleteQuietly (hrows row List.mem_cons_self)).bind fun r _ => ?_
    cases r with
    | error e =>
      rw [embed_bind]
      exact hrest.bind fun _ _ => trivial
    | ok _ => exact hrest

/-! ### The token cascade -/

lemma retires_jwtRung (grantID : String) :
    (r.opts.revokeJWTAccessTokensByGrant grantID r.now r.tombstoneRetention r.reason false).Calls
      fun o => retires o = some grantID := by
  unfold Teardown.Opts.revokeJWTAccessTokensByGrant
  cases r.opts.strategy with
  | none => exact trivial
  | jtiRegistry =>
    dsimp only
    split_ifs
    · exact ⟨rfl, fun _ => trivial⟩
    · exact trivial
  | grantTombstone =>
    dsimp only
    split_ifs
    · exact ⟨rfl, fun _ => trivial⟩
    · exact ⟨rfl, fun _ => trivial⟩
    · exact trivial

lemma retires_run (grantID : String) :
    (r.run (Teardown.wholeGrant grantID)).Calls fun o => retires o = some grantID := by
  change (r.runGrant (Teardown.wholeGrant grantID)).Calls _
  unfold Teardown.Revoker.runGrant
  split_ifs
  · exact trivial
  · refine Prog.Calls.bind ?_ fun out => Prog.Calls.bind ?_ fun out => ?_
    · refine Prog.Calls.bind (retires_jwtRung r grantID) fun _ => ?_
      split_ifs
      · exact ⟨rfl, fun _ => trivial⟩
      · exact trivial
    · unfold Teardown.Revoker.closeIssuance
      split_ifs
      · exact ⟨rfl, fun _ => trivial⟩
      · exact trivial
    · unfold Teardown.Revoker.revokeGrantRefreshTokens
      split_ifs
      · exact ⟨rfl, fun _ => trivial⟩
      · exact trivial
  · rename_i h
    exact (h rfl).elim

lemma observes_onTokens {p : Teardown.Program A} {grantID : String}
    (hp : p.Calls fun o => retires o = some grantID)
    (hgrant : ∀ g, grants.m.lookup grantID = some g → g.subject = S) :
    Sparing supply D owner grants S (onTokens p) := by
  induction p with
  | ret a => exact trivial
  | call o k ih =>
    refine observes_call trivial (fun w hw => ⟨grantID, hp.1, fun g hg => ?_⟩) fun _ _ _ =>
      ih _ (hp.2 _)
    rw [hw.grants] at hg
    rw [hgrant g hg]

lemma observes_revokeGrants {gs : List Grant}
    (hgs : ∀ g ∈ gs, g.subject = S ∧ grants.m.lookup g.id = some g) :
    Sparing supply D owner grants S (revokeGrants r gs) := by
  induction gs with
  | nil => exact trivial
  | cons g gs ih =>
    have hrest := ih fun g' hg' => hgs g' (List.mem_cons_of_mem g hg')
    obtain ⟨hsubject, hstored⟩ := hgs g List.mem_cons_self
    unfold revokeGrants
    split_ifs
    · exact hrest
    refine (observes_onTokens (retires_run r g.id) fun g' hg' => ?_).bind fun _ _ =>
      hrest.bind fun _ _ => trivial
    cases hstored.symm.trans hg'
    exact hsubject

lemma mem_listBySubject (ρ : KeyOrder) {subject : String} {g : Grant}
    (h : g ∈ GrantStore.listBySubject ρ grants.m subject) :
    g.subject = subject ∧ grants.m.lookup g.id = some g := by
  rw [GrantStore.listBySubject, GrantStore.collectSubject_foldl, List.nil_append] at h
  obtain ⟨hrow, hsubject⟩ := List.mem_filter.mp h
  obtain ⟨⟨id, g'⟩, hpair, rfl⟩ := List.mem_map.mp hrow
  have hlookup := (mem_pairs ρ grants.m id g').mp hpair
  refine ⟨of_decide_eq_true hsubject, ?_⟩
  rw [grants.keyed id g' hlookup]
  exact hlookup

lemma observes_revokeAccessTokens :
    Sparing supply D owner grants S (revokeAccessTokens deps S) := by
  unfold revokeAccessTokens
  split_ifs
  · refine observes_call trivial (fun _ _ => trivial) fun e w hw => ?_
    refine observes_call trivial (fun _ _ => trivial) fun _ _ _ => ?_
    refine observes_revokeGrants _ fun g hg => ?_
    have hlisted := mem_listBySubject e.session.order hg
    rw [hw.grants] at hlisted
    exact hlisted
  · exact trivial

lemma mem_distinctSubjects {seen : List String} {row : Session}
    (h : row ∈ distinctSubjects seen rows) : row ∈ rows := by
  induction rows generalizing seen with
  | nil => cases h
  | cons first rest ih =>
    unfold distinctSubjects at h
    split_ifs at h
    · exact List.mem_cons_of_mem first (ih h)
    · rcases List.mem_cons.mp h with rfl | h
      · exact List.mem_cons_self
      · exact List.mem_cons_of_mem first (ih h)

lemma observes_revokeRows (hrows : ∀ row ∈ rows, row.subject = S) :
    Sparing supply D owner grants S (revokeRows deps rows) := by
  induction rows with
  | nil => exact trivial
  | cons row rows ih =>
    have hrest := ih fun row' hrow' => hrows row' (List.mem_cons_of_mem row hrow')
    unfold revokeRows
    rw [hrows row List.mem_cons_self]
    exact (observes_revokeAccessTokens deps).bind fun _ _ => hrest.bind fun _ _ => trivial

lemma observes_revokeAccessTokensForSnapshot (h : ∀ row ∈ snapshot, row.subject = S) :
    Sparing supply D owner grants S (revokeAccessTokensForSnapshot deps snapshot) :=
  observes_revokeRows deps fun row hrow => h row (mem_distinctSubjects hrow)

/-! ### The termination -/

lemma observes_cascade {done : Termination} (h : ∀ row ∈ done.snapshot, row.subject = S) :
    Sparing supply D owner grants S (cascade deps done) :=
  (observes_revokeAccessTokensForSnapshot deps h).bind fun _ _ => trivial

lemma observes_destroyCurrent (hid : owner sess.sessionID = S) :
    Observes (handle supply D) (Settled owner grants) (Spares (some S))
      (fun done => done.snapshot = [sess.row]) (destroyCurrent sess) := by
  unfold destroyCurrent
  split_ifs
  · exact (observes_deleteQuietly hid).bind fun _ _ => rfl
  · exact (observes_remove hid _ _).bind fun _ _ => rfl

lemma observes_terminateCurrent (hsubject : sess.subject = S) (hid : owner sess.sessionID = S) :
    Sparing supply D owner grants S (terminateSession deps sess .current) := by
  refine (observes_destroyCurrent hid).bind fun done hdone => observes_cascade deps ?_
  rw [hdone]
  intro row hrow
  cases List.mem_singleton.mp hrow
  exact hsubject

lemma observes_destroyRows (h : ∀ row ∈ snapshot, owner row.id = S) :
    Observes (handle supply D) (Settled owner grants) (Spares (some S))
      (fun done => done.snapshot = snapshot) (destroyRows snapshot) :=
  (observes_logoutAllSnapshot h).bind fun _ _ => rfl

/-! ### The two readings of the group -/

def Sole (groupID subject : String) (w : SessionManager.World) : Prop :=
  ∀ id rec, w.sessions.m.lookup id = some rec → rec.chooserGroupID = groupID →
    isExpiredStrict rec.expiresAt w.clock = false → rec.subject = subject

/-- A call that puts no session of another account into the group. -/
def JoinsAs (groupID subject : String) : Call → Prop
  | .session (.save _ sess) => sess.chooserGroupID = groupID → sess.subject = subject
  | _ => True

lemma Sole.advance {w : SessionManager.World} (h : Sole groupID S w) (elapsed : ℕ) :
    Sole groupID S (w.advance elapsed) := by
  intro id rec hrec hgroup hlive
  refine h id rec hrec hgroup (Bool.eq_false_iff.mpr fun hexp => ?_)
  have hlater : isExpiredStrict rec.expiresAt (w.advance elapsed).clock = true :=
    isExpiredStrict_mono hexp (le_add_of_nonneg_right (Int.natCast_nonneg elapsed))
  rw [hlater] at hlive
  cases hlive

lemma Sole.manager {o : SessionManager.Call} (ho : JoinsAs groupID S (.session o))
    (e : SessionManager.Chance) {w : SessionManager.World} (h : Sole groupID S w) :
    Sole groupID S (SessionManager.handle supply e o w).1 := by
  intro id rec hrec hgroup hlive
  rcases row_handle hrec with
    ⟨_, origin, rfl⟩ | hrec | ⟨row, _, _, _, hrow, hbefore, rfl⟩
  · exact ho hgroup
  · rw [clock_handle] at hlive
    exact h id rec hrec hgroup hlive
  · -- a refreshed row was live before
    exact h id row hrow hgroup hbefore

lemma Sole.handle (ho : JoinsAs groupID S o) (e : Chance) (h : Sole groupID S w.manager) :
    Sole groupID S (handle supply D e o w).1.manager := by
  cases o with
  | session c => exact (h.advance e.elapsed).manager ho e.session
  | listGrants _ => exact h.advance e.elapsed
  | tokens _ => exact h.advance e.elapsed

lemma sole_of_onlySubject {e : Chance} (h : onlySubject S (.ok (handle supply D e
      (.session (.listByChooserGroup groupID)) w).2) = true) :
    Sole groupID S (w.manager.advance e.elapsed) := by
  intro id rec hrec hgroup hlive
  have hkey : rec.id = id := w.manager.sessions.keyed id rec hrec
  subst hkey
  exact of_decide_eq_true (List.all_eq_true.mp h rec
    ((Sessions.mem_listByChooserGroup _ _ _ _ rec).mpr ⟨hrec, hgroup, hlive⟩))

lemma subject_of_listed {e : Chance} (hsole : Sole groupID S w.manager)
    (howned : Owned owner w.manager.sessions) {row : Session}
    (h : row ∈ (handle supply D e (.session (.listByChooserGroup groupID)) w).2) :
    row.subject = S ∧ owner row.id = S := by
  obtain ⟨hrec, hgroup, hlive⟩ := (Sessions.mem_listByChooserGroup _ _ _ _ row).mp h
  have hsubject := hsole.advance e.elapsed row.id row hrec hgroup hlive
  exact ⟨hsubject, by rw [← howned row.id row hrec, hsubject]⟩

/-! ### The session of the cookie -/

/-- The calls behind a cookie with a payload: what is checked of the row, -/
def checked (payload : Payload) : Except ManagerError Session → Program SessionLookup
  | .error err => .ret (lookupAnswer (.error err))
  | .ok sess =>
    if sess.chooserGroupID ≠ payload.chooserGroupID then .ret .absent
    else .call (.session .now) fun now =>
      if sessionExpired sess.expiresAt now then .ret .absent
      else .ret (.active ⟨sess.id, sess.subject, sess.chooserGroupID⟩)

/-- and the reading of it. -/
def resolved (payload : Payload) : Program SessionLookup :=
  .call (.session (.find payload.currentSessionID)) fun found =>
    checked payload (expiredIfMissing found)

lemma readSessionLookup_eq (cookie : Option (Option Payload)) :
    readSessionLookup cookie = .ret .absent ∨
      ∃ payload, readSessionLookup cookie = resolved payload := by
  unfold readSessionLookup resolve
  cases cookie with
  | none => exact .inl rfl
  | some value =>
    dsimp only
    cases value.filter fun p => !p.incomplete with
    | none => exact .inl rfl
    | some payload =>
      refine .inr ⟨payload, ?_⟩
      refine congrArg (Prog.call (Call.session (.find payload.currentSessionID)))
        (funext fun found => ?_)
      change Prog.bind (embed _ _ (match expiredIfMissing found with
        | .error e => _ | .ok sess => _)) _ = _
      cases expiredIfMissing found with
      | error err => rfl
      | ok sess =>
        unfold checked
        dsimp only
        split_ifs
        · rfl
        refine congrArg (Prog.call (Call.session .now)) (funext fun now => ?_)
        change Prog.bind (embed _ _ (if sessionExpired sess.expiresAt now then
          _ else _)) _ = _
        split_ifs <;> rfl

lemma observes_readSessionLookup (subject : Option String) (cookie : Option (Option Payload)) :
    Observes (handle supply D) (Settled owner grants) (Spares subject)
      (fun lookup => ∀ sess, lookup = .active sess → sess.subject = owner sess.sessionID)
      (readSessionLookup cookie) := by
  rcases readSessionLookup_eq cookie with heq | ⟨payload, heq⟩
  · rw [heq]
    exact fun _ => nofun
  rw [heq]
  refine observes_call trivial (fun _ _ => trivial) fun e w hw => ?_
  change Observes _ _ _ _ (checked payload (expiredIfMissing
    (w.manager.sessions.find (w.manager.clock + e.elapsed) payload.currentSessionID)))
  cases hfound : expiredIfMissing
      (w.manager.sessions.find (w.manager.clock + e.elapsed) payload.currentSessionID) with
  | error err => cases err <;> exact fun _ => nofun
  | ok sess =>
    have hrec := lookup_of_found hfound
    unfold checked
    dsimp only
    split_ifs
    · exact fun _ => nofun
    refine observes_call trivial (fun _ _ => trivial) fun e' w' _ => ?_
    split_ifs
    · exact fun _ => nofun
    · rintro _ ⟨⟩
      rw [w.manager.sessions.keyed _ _ hrec]
      exact hw.owned _ _ hrec

lemma calls_checked {payload : Payload} {found : Except ManagerError Session}
    (h : (among (handle supply D) (checked payload found) slots w).result =
      .active sess) :
    (among (handle supply D) (checked payload found) slots w).calls = 1 := by
  cases found with
  | error err => cases err <;> cases h
  | ok row =>
    unfold checked at h ⊢
    dsimp only at h ⊢
    split_ifs at h ⊢
    · cases h
    rw [calls_call]
    split_ifs <;> rfl

lemma calls_readSessionLookup {cookie : Option (Option Payload)}
    (h : (among (handle supply D) (readSessionLookup cookie) slots w).result =
      .active sess) :
    (among (handle supply D) (readSessionLookup cookie) slots w).calls = 2 := by
  rcases readSessionLookup_eq cookie with heq | ⟨payload, heq⟩
  · rw [heq] at h
    cases h
  rw [heq] at h ⊢
  unfold resolved at h ⊢
  rw [calls_call, calls_checked h]

/-! ### The request -/

variable {deps : Deps} {req : Request} {sess : SessionFingerprint}

lemma admitted_of_absent (deps : Deps) (req : Request) {lookup : SessionLookup}
    (h : authenticated lookup = none) :
    ∃ response, admitted deps req lookup = .ret response := by
  cases lookup with
  | storeUnavailable => exact ⟨_, rfl⟩
  | absent =>
    unfold admitted hintAuthorizesSession
    split_ifs
    · cases req.confirmed <;> exact ⟨_, rfl⟩
    · exact ⟨_, rfl⟩
  | active sess => cases h

lemma hintAuthorizesSession_cases (deps : Deps) (req : Request) (sess : SessionFingerprint) :
    hintAuthorizesSession deps req (.active sess) = .ret false ∨
      hintAuthorizesSession deps req (.active sess) =
        scopeTouchesOnlySubject req.logoutScope sess := by
  unfold hintAuthorizesSession
  dsimp only
  split_ifs
  · exact .inl rfl
  · exact .inl rfl
  · exact .inr rfl

lemma observes_admitted (hconfirmed : req.confirmed = false)
    (hgate : scopeTouchesOnlySubject req.logoutScope sess = .ret true)
    (hterminate : Sparing supply D owner grants sess.subject
      (terminateSession deps sess req.logoutScope)) :
    Sparing supply D owner grants sess.subject (admitted deps req (.active sess)) := by
  unfold admitted
  dsimp only
  rcases hintAuthorizesSession_cases deps req sess with h | h
  · rw [h]
    rw [hconfirmed]
    exact trivial
  · rw [h, hgate]
    unfold terminateSessionForScope
    dsimp only
    split_ifs
    · exact trivial
    · exact hterminate.bind fun _ _ => trivial

lemma observes_ungated (hgate : req.logoutScope = .current ∨ sess.chooserGroupID = "")
    (hsubject : sess.subject = owner sess.sessionID) :
    Sparing supply D owner grants sess.subject (terminateSession deps sess req.logoutScope) := by
  cases hscope : req.logoutScope with
  | current => exact observes_terminateCurrent deps rfl hsubject.symm
  | all =>
    have hgroup : sess.chooserGroupID = "" := hgate.resolve_left (by rw [hscope]; decide)
    unfold terminateSession destroyAll
    rw [if_pos hgroup]
    exact observes_cascade deps fun _ => nofun

/-- A logout of the whole group: what lies between the two readings decides. -/
theorem spares_admitted_all (hall : req.logoutScope = .all) (hconfirmed : req.confirmed = false)
    (hgroup : sess.chooserGroupID ≠ "") {slots : ℕ → Slot Chance Call}
    (hids : ∀ n, ∀ c ∈ (slots n).others, SavesOwned owner c.2)
    (hjoins : ∀ c ∈ (slots 1).others, JoinsAs sess.chooserGroupID sess.subject c.2)
    (hw : Settled owner grants w) :
    OwnCalls (Spares (some sess.subject))
      (among (handle supply D) (admitted deps req (.active sess)) slots w).trace := by
  have hkeep (n : ℕ) (c : Chance × Call) (hc : c ∈ (slots n).others) (s : World)
      (hs : Settled owner grants s) :
      Settled owner grants (handle supply D c.1 c.2 s).1 :=
    hs.handle (hids n c hc) c.1
  unfold admitted
  dsimp only
  rcases hintAuthorizesSession_cases deps req sess with h | h
  · rw [h]
    rw [hconfirmed]
    exact fun _ => nofun
  have hscope : ¬ (LogoutScope.all = .current ∨ sess.chooserGroupID = "") :=
    fun hor => hor.elim nofun hgroup
  rw [h, hall, scopeTouchesOnlySubject, if_neg hscope, onSessions_snapshotGroup hgroup]
  refine ownCalls_call trivial ?_
  obtain ⟨w₁, hw₁⟩ : ∃ w₁, w₁ = meanwhile (handle supply D) (slots 0).others w :=
    ⟨_, rfl⟩
  rw [← hw₁]
  have hsettled₁ : Settled owner grants w₁ := hw₁ ▸ meanwhile_keeps (hkeep 0) hw
  change OwnCalls _ (among _ (if (onlySubject sess.subject (.ok _) || req.confirmed) = true then
    _ else _) _ _).trace
  rw [hconfirmed, Bool.or_false]
  split_ifs with honly
  · -- the gate has let the request pass, and the group is read again
    have hsole : Sole sess.chooserGroupID sess.subject
        (handle supply D (slots 0).chance
          (.session (.listByChooserGroup sess.chooserGroupID)) w₁).1.manager :=
      sole_of_onlySubject honly
    unfold terminateSessionForScope
    dsimp only
    split_ifs
    · exact fun _ => nofun
    unfold terminateSession destroyAll
    rw [if_neg hgroup, onSessions_snapshotGroup hgroup]
    refine ownCalls_call trivial ?_
    obtain ⟨w₂, hw₂⟩ : ∃ w₂, w₂ = meanwhile (handle supply D) (slots 1).others
        (handle supply D (slots 0).chance
          (.session (.listByChooserGroup sess.chooserGroupID)) w₁).1 := ⟨_, rfl⟩
    have hsettled₂ : Settled owner grants w₂ :=
      hw₂ ▸ meanwhile_keeps (hkeep 1) ⟨hsettled₁.owned, hsettled₁.grants⟩
    have hsole₂ : Sole sess.chooserGroupID sess.subject w₂.manager := by
      rw [hw₂]
      exact meanwhile_keeps (P := fun w : World => Sole _ _ w.manager)
        (fun c hc s hs => Sole.handle (hjoins c hc) c.1 hs) hsole
    rw [← hw₂]
    have hrows (row : Session) (hrow : row ∈ (handle supply D (slots 1).chance
        (.session (.listByChooserGroup sess.chooserGroupID)) w₂).2) :=
      subject_of_listed hsole₂ hsettled₂.owned hrow
    have hobserves : Sparing supply D owner grants sess.subject
        ((destroyRows (handle supply D (slots 1).chance
          (.session (.listByChooserGroup sess.chooserGroupID)) w₂).2 >>= cascade deps) >>=
            fun done => Prog.ret (Response.terminated done)) := by
      refine ((observes_destroyRows fun row hrow => (hrows row hrow).2).bind
        fun done hdone => observes_cascade deps ?_).bind fun _ _ => trivial
      rw [hdone]
      exact fun row hrow => (hrows row hrow).1
    have hsettled₃ : Settled owner grants (handle supply D (slots 1).chance
        (.session (.listByChooserGroup sess.chooserGroupID)) w₂).1 :=
      ⟨hsettled₂.owned, hsettled₂.grants⟩
    exact (hobserves.among (fun n => hkeep (n + 2)) hsettled₃).1
  · exact fun _ => nofun

end

/-- In every interleaving of the store steps of a request that is admitted on its hint
with calls of others, between the two readings of the group nobody saves a session of
another account into it, and session ids belong to one account each: then the request
deletes no row and tears down no grant but those of the account of the cookie. -/
theorem hinted_logout_spares_others (supply : ℕ → String) (D : KeyDigest) (deps : Deps)
    (req : Request) (hconfirmed : req.confirmed = false) (owner : String → String) (w : World)
    (howned : Owned owner w.manager.sessions) (slots : ℕ → Slot Chance Call)
    (hids : ∀ n, ∀ c ∈ (slots n).others, SavesOwned owner c.2)
    (hjoins : req.logoutScope = .all → ∀ sess,
      authenticated (among (handle supply D) (readSessionLookup req.cookie) slots
        w).result = some sess →
      ∀ c ∈ (slots 3).others, JoinsAs sess.chooserGroupID sess.subject c.2) :
    OwnCalls (Spares ((authenticated (among (handle supply D)
        (readSessionLookup req.cookie) slots w).result).map (·.subject)))
      (among (handle supply D) (serve deps req) slots w).trace := by
  have hkeep (n : ℕ) (c : Chance × Call) (hc : c ∈ (slots n).others) (s : World)
      (hs : Settled owner w.grants s) :
      Settled owner w.grants (handle supply D c.1 c.2 s).1 :=
    hs.handle (hids n c hc) c.1
  obtain ⟨hfirst, hsettled, hread⟩ :=
    (observes_readSessionLookup _ req.cookie).among hkeep ⟨howned, rfl⟩
  unfold serve
  rw [among_bind]
  refine hfirst.append ?_
  cases hauth : authenticated (among (handle supply D) (readSessionLookup req.cookie)
      slots w).result with
  | none =>
    obtain ⟨response, hresponse⟩ := admitted_of_absent deps req hauth
    rw [hresponse]
    exact fun _ => nofun
  | some sess =>
    have hlookup := eq_active_of_authenticated hauth
    have hcalls := calls_readSessionLookup hlookup
    rw [hcalls]
    have hsubject := hread sess hlookup
    rw [hlookup]
    by_cases hgate : req.logoutScope = .current ∨ sess.chooserGroupID = ""
    · exact ((observes_admitted hconfirmed (if_pos hgate) (observes_ungated hgate hsubject)).among
        (fun n => hkeep (n + 2)) hsettled).1
    · obtain ⟨hcurrent, hgroup⟩ := not_or.mp hgate
      have hall : req.logoutScope = .all := by
        cases hs : req.logoutScope with
        | all => rfl
        | current => exact (hcurrent hs).elim
      exact spares_admitted_all hall hconfirmed hgroup (fun n => hids (n + 2))
          (hjoins hall sess hauth) hsettled

/-! ### A second account joins between the readings -/

def sampleSession (id subject : String) : Session where
  id := id
  subject := subject
  authTime := 1
  amr := ["pwd"]
  acr := ""
  chooserGroupID := "g1"
  expiresAt := 100
  createdAt := 1
  updatedAt := 1

def sampleChance : Chance := ⟨0, ⟨ascending, true⟩, ⟨1, ascending⟩⟩

def bobsGrants : Grants where
  m := (∅ : GrantStore.GrantMap).insert "grant-b" { (default : Grant) with
    id := "grant-b", subject := "bob" }
  keyed := by
    intro id g h
    rw [lookup_insert_ite] at h
    split_ifs at h with hid
    · cases h
      exact hid.symm
    · cases h

def aliceWorld : World where
  manager := ⟨Sessions.empty.save ascending 1 (sampleSession "s1" "alice"), 1, 0⟩
  grants := bobsGrants
  substores := Teardown.newSubstores ∅

def aliceLogout : Request where
  cookie := some (some ⟨"g1", "s1", 1⟩)
  idTokenHint := "hint"
  hintSubject := "alice"
  logoutScope := .all
  confirmed := false

def sampleDeps : Deps := ⟨none, true, true, true, true, true, .grantTombstone, Time.hour⟩

/-- Bob adds their account before the fourth call, the second reading of the group. -/
def bobJoins : ℕ → Slot Chance Call
  | 3 => ⟨[(sampleChance, .session (.save .established (sampleSession "s2" "bob")))], sampleChance⟩
  | _ => ⟨[], sampleChance⟩

/-- Before the request Bob signs in elsewhere. Between the two readings of the group Alice
signs in once more in it, and Bob replaces their session. -/
def elsewhere : ℕ → List Call
  | 0 => [.session (.save .established { sampleSession "s2" "bob" with chooserGroupID := "g2" })]
  | 3 => [.session (.save .established (sampleSession "s3" "alice")),
      .session (.save .established { sampleSession "s4" "bob" with chooserGroupID := "g2" }),
      .session (.delete "s2")]
  | _ => []

def bobElsewhere (n : ℕ) : Slot Chance Call :=
  ⟨(elsewhere n).map (sampleChance, ·), sampleChance⟩

def sampleOwner (id : String) : String := if id = "s1" ∨ id = "s3" then "alice" else "bob"

lemma elsewhere_joins {n : ℕ} {o : Call} (h : o ∈ elsewhere n) :
    SavesOwned sampleOwner o ∧ JoinsAs "g1" "alice" o := by
  unfold elsewhere at h
  split at h
  · obtain rfl := List.mem_singleton.mp h
    exact ⟨rfl, fun hgroup => absurd hgroup (by decide)⟩
  · simp only [List.mem_cons, List.not_mem_nil, or_false] at h
    rcases h with rfl | rfl | rfl
    · exact ⟨rfl, fun _ => rfl⟩
    · exact ⟨rfl, fun hgroup => absurd hgroup (by decide)⟩
    · exact ⟨trivial, trivial⟩
  · cases h

lemma owned_aliceWorld : Owned sampleOwner aliceWorld.manager.sessions := by
  intro id rec hrec
  rcases Sessions.lookup_save _ hrec with ⟨rfl, rfl⟩ | ⟨_, hrec⟩
  · rfl
  · cases hrec

/-- Both sessions of Alice are deleted, and the new one of Bob is stored at the end. -/
theorem hinted_logout_spares_others_elsewhere :
    OwnCalls (Spares (some "alice")) (among (handle toString plainDigest)
      (serve sampleDeps aliceLogout) bobElsewhere aliceWorld).trace ∧
    (∀ id ∈ ["s1", "s3"], (among (handle toString plainDigest)
      (serve sampleDeps aliceLogout) bobElsewhere aliceWorld).trace.any (fun ev =>
        ev.own && decide (ev.call = .session (.delete id))) = true) ∧
    ((among (handle toString plainDigest) (serve sampleDeps aliceLogout) bobElsewhere
      aliceWorld).final.manager.sessions.m.lookup "s4").map (·.subject) = some "bob" := by
  refine ⟨?_, by decide +kernel, by decide +kernel⟩
  have hcookie : authenticated (among (handle toString plainDigest)
      (readSessionLookup aliceLogout.cookie) bobElsewhere aliceWorld).result =
        some ⟨"s1", "alice", "g1"⟩ := by decide +kernel
  have hspares := hinted_logout_spares_others toString plainDigest sampleDeps aliceLogout rfl
    sampleOwner aliceWorld owned_aliceWorld bobElsewhere
    (fun n c hc => by
      obtain ⟨o, ho, rfl⟩ := List.mem_map.mp hc
      exact (elsewhere_joins ho).1)
    (fun _ sess hsess c hc => by
      obtain ⟨o, ho, rfl⟩ := List.mem_map.mp hc
      cases hcookie.symm.trans hsess
      exact (elsewhere_joins ho).2)
  rw [hcookie] at hspares
  exact hspares

/-- The logout of Alice deletes the session of Bob and tears down the grant of Bob. -/
theorem logout_takes_the_joining_account :
    (among (handle toString plainDigest) (serve sampleDeps aliceLogout) bobJoins
      aliceWorld).trace.any (fun ev => ev.own && decide (ev.call = .session (.delete "s2")) &&
        decide ((ev.before.manager.sessions.m.lookup "s2").map (·.subject) = some "bob")) = true ∧
    (among (handle toString plainDigest) (serve sampleDeps aliceLogout) bobJoins
      aliceWorld).trace.any (fun ev => ev.own &&
        decide (ev.call = .tokens (.revokeRefreshByGrant "grant-b"))) = true := by
  decide +kernel

end OidcProvider.HintedLogout
