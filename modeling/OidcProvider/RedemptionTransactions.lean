import OidcProvider.GrantRevocationStore
import OidcProvider.SingleUseStores
import OidcProvider.TransactionalStores

/-!
# Transactions over codes, pushed requests and grant revocations

One transaction spans the authorization-code, pushed-request and
grant-revocation substores. It is compared with the same calls made directly,
for saves of ids and request URIs that were never saved before. The codes of
the two executions correspond up to expired rows, which no answer shows. The
pushed requests correspond row by row until a direct save runs its sweep over a
row past retention: the transaction never sweeps them, and `Consume` still
redeems such a row where it is kept.
-/
namespace OidcProvider.RedemptionTransactions
open FiniteMaps StagedOverlay StoreRecords TransactionalStores SingleUseStores
open GrantRevocationStore
open RecordStaging (lookup_add lookup_copied)
open GrantRevocationStaging (flushLocked_eq isIssuanceRevoked_eq isRevoked_eq parent_gc
  parent_revokeGrant parent_revokeJTI shows_gc shows_open shows_revokeGrant shows_revokeJTI)

structure Stores where
  codes : AuthCodeStore
  pars : PARStore
  revocations : GrantRevocations

def newStores : Stores := ⟨newRecordStore _, newRecordStore _, newGrantRevocations⟩

structure Staging where
  codes : AuthCodeStaging
  pars : PARStaging
  revocations : GrantRevocationStaging

inductive Call where
  | saveCode (code : Option AuthorizationCode)
  | findCode (id : String)
  | consumeCode (id : String)
  | savePAR (par : Option PushedAuthRequest)
  | findPAR (uri : String)
  | consumePAR (uri : String)
  | revokeGrant (t : GrantTombstone)
  | revokeJTI (r : RevokedJTI)
  | isRevoked (grantID jti : String) (iat : Time)
  | isIssuanceRevoked (grantID : String) (issuedAt : Time)
  | gc (cutoff : Time)

/-- A call with the clock it reads and the orders its loops happen to take. -/
structure TimedCall where
  call : Call
  now : Time
  direct : KeyOrder
  staged : KeyOrder

inductive Reply where
  | done (res : StoreReply)
  | code (res : Fallible AuthorizationCode)
  | consumedCode (res : ConsumeResult AuthorizationCode)
  | par (res : Fallible PushedAuthRequest)
  | answer (revoked : Bool)
  | reclaimed (n : ℕ)

section Execution
variable (D : KeyDigest)

def direct (s : Stores) (c : TimedCall) : Stores × Reply :=
  match c.call with
  | .saveCode code =>
    let r := saveCode D c.direct c.now s.codes code
    ({ s with codes := r.1 }, .done r.2)
  | .findCode id => (s, .code (findCode D c.now s.codes id))
  | .consumeCode id =>
    let r := consumeCode D c.now s.codes id
    ({ s with codes := r.1 }, .consumedCode r.2)
  | .savePAR par =>
    let r := savePAR D c.direct c.now s.pars par
    ({ s with pars := r.1 }, .done r.2)
  | .findPAR uri => (s, .par (findPAR D c.now s.pars uri))
  | .consumePAR uri =>
    let r := consumePAR D c.now s.pars uri
    ({ s with pars := r.1 }, .par r.2)
  | .revokeGrant t => ({ s with revocations := revokeGrant s.revocations t }, .done (.ok ()))
  | .revokeJTI r => ({ s with revocations := revokeJTI s.revocations r }, .done (.ok ()))
  | .isRevoked grantID jti iat => (s, .answer (isRevoked s.revocations grantID jti iat))
  | .isIssuanceRevoked grantID issuedAt =>
    (s, .answer (isIssuanceRevoked s.revocations grantID issuedAt))
  | .gc cutoff =>
    let r := gc c.direct s.revocations cutoff
    ({ s with revocations := r.1 }, .reclaimed r.2)

def staged (t : Staging) (c : TimedCall) : Staging × Reply :=
  match c.call with
  | .saveCode code =>
    let r := txSaveCode D t.codes code
    ({ t with codes := r.1 }, .done r.2)
  | .findCode id => (t, .code (txFindCode D c.now t.codes id))
  | .consumeCode id =>
    let r := txConsumeCode D c.now t.codes id
    ({ t with codes := r.1 }, .consumedCode r.2)
  | .savePAR par =>
    let r := txSavePAR D c.now t.pars par
    ({ t with pars := r.1 }, .done r.2)
  | .findPAR uri => (t, .par (txFindPAR D c.now t.pars uri))
  | .consumePAR uri =>
    let r := txConsumePAR D c.now t.pars uri
    ({ t with pars := r.1 }, .par r.2)
  | .revokeGrant w => ({ t with revocations := t.revocations.revokeGrant w }, .done (.ok ()))
  | .revokeJTI r => ({ t with revocations := t.revocations.revokeJTI r }, .done (.ok ()))
  | .isRevoked grantID jti iat => (t, .answer (t.revocations.isRevoked grantID jti iat))
  | .isIssuanceRevoked grantID issuedAt =>
    (t, .answer (t.revocations.isIssuanceRevoked grantID issuedAt))
  | .gc cutoff =>
    let r := t.revocations.gc c.staged cutoff
    ({ t with revocations := r.1 }, .reclaimed r.2)

structure Commit where
  order : KeyOrder
  now : Time

def redemptions : TransactionalStore Stores Staging TimedCall Reply Commit Empty where
  direct := direct D
  staged := staged D
  openTx s :=
    ⟨RecordStaging.openOn s.codes, RecordStaging.openOn s.pars,
      GrantRevocationStaging.openOn s.revocations⟩
  commit t e :=
    ⟨flushCodes e.order e.now t.codes, flushPARs t.pars, t.revocations.flushLocked e.order⟩
  rollback t := ⟨t.codes.parent, t.pars.parent, t.revocations.parent⟩
  outside _ u := nomatch u

end Execution

/-! ### Saved ids -/

def Call.SavesCode (c : Call) (id : String) : Prop :=
  ∃ code, c = .saveCode (some code) ∧ code.id = id

def Call.SavesPAR (c : Call) (uri : String) : Prop := ∃ par, c = .savePAR (some par) ∧ par.uri = uri

/-- No id or request URI the call saves was saved by a call of `past`. -/
@[mk_iff]
structure Fresh (past : List TimedCall) (c : TimedCall) : Prop where
  code : ∀ id, c.call.SavesCode id → ∀ p ∈ past, ¬p.call.SavesCode id
  par : ∀ uri, c.call.SavesPAR uri → ∀ p ∈ past, ¬p.call.SavesPAR uri

/-- Every save of the sequence is of an id or request URI never saved before. -/
def NeverSavedBefore : List TimedCall → List TimedCall → Prop
  | _, [] => True
  | past, c :: cs => Fresh past c ∧ NeverSavedBefore (c :: past) cs

/-- The rows of both record stores carry their keys, and their keys are the
digests of what was saved. -/
structure Stored (D : KeyDigest) (past : List TimedCall)
    (codes : String → Option AuthorizationCode) (pars : String → Option PushedAuthRequest) :
    Prop where
  codeIds : Keyed AuthorizationCode.id codes
  parURIs : Keyed PushedAuthRequest.uri pars
  codeKeys : ∀ key rec, codes key = some rec →
    ∃ p ∈ past, ∃ id, p.call.SavesCode id ∧ D.hashKey id = key
  parKeys : ∀ key rec, pars key = some rec →
    ∃ p ∈ past, ∃ uri, p.call.SavesPAR uri ∧ D.hashKey uri = key

/-- What a call does to the rows, whether of the stores or of the view of a transaction. -/
inductive RowStep (D : KeyDigest) (c : TimedCall) :
    (codes codes' : String → Option AuthorizationCode) →
    (pars pars' : String → Option PushedAuthRequest) → Prop
  | saveCode {codes codes' pars code} (hcall : c.call = .saveCode (some code))
      (h : Arises AuthorizationCode.id (· = D.hashKey code.id) codes codes') :
      RowStep D c codes codes' pars pars
  | consumeCode {codes codes' pars id} (h : ∀ key, codes' key =
      if key = D.hashKey id then spendCode c.now (codes key) else codes key) :
      RowStep D c codes codes' pars pars
  | savePAR {codes pars pars' par} (hcall : c.call = .savePAR (some par))
      (h : Arises PushedAuthRequest.uri (· = D.hashKey par.uri) pars pars') :
      RowStep D c codes codes pars pars'
  | consumePAR {codes pars pars' uri} (h : ∀ key, pars' key =
      if key = D.hashKey uri then spendPAR c.now (pars key) else pars key) :
      RowStep D c codes codes pars pars'
  | other {codes pars} : RowStep D c codes codes pars pars

variable {t : Staging} {s : Stores}

section Rows
variable {D : KeyDigest} {past : List TimedCall} {codes codes' : String → Option AuthorizationCode}
  {pars pars' : String → Option PushedAuthRequest} {c : TimedCall}

section
variable (h : Stored D past codes pars)
include h

lemma Stored.mono {past' : List TimedCall}
    (hsub : ∀ p ∈ past, p ∈ past') : Stored D past' codes pars where
  codeIds := h.codeIds
  parURIs := h.parURIs
  codeKeys key rec hrec := by
    obtain ⟨p, hp, hid⟩ := h.codeKeys key rec hrec
    exact ⟨p, hsub p hp, hid⟩
  parKeys key rec hrec := by
    obtain ⟨p, hp, huri⟩ := h.parKeys key rec hrec
    exact ⟨p, hsub p hp, huri⟩

lemma Stored.sub (hcodes : ∀ key rec, codes' key = some rec → codes key = some rec)
    (hpars : ∀ key rec, pars' key = some rec → pars key = some rec) :
    Stored D past codes' pars' where
  codeIds key rec hrec := h.codeIds key rec (hcodes key rec hrec)
  parURIs key rec hrec := h.parURIs key rec (hpars key rec hrec)
  codeKeys key rec hrec := h.codeKeys key rec (hcodes key rec hrec)
  parKeys key rec hrec := h.parKeys key rec (hpars key rec hrec)

lemma Stored.step (hcodes : Arises AuthorizationCode.id
      (fun key => ∃ id, c.call.SavesCode id ∧ D.hashKey id = key) codes codes')
    (hpars : Arises PushedAuthRequest.uri
      (fun key => ∃ uri, c.call.SavesPAR uri ∧ D.hashKey uri = key) pars pars') :
    Stored D (c :: past) codes' pars' where
  codeIds := hcodes.keyed h.codeIds
  parURIs := hpars.keyed h.parURIs
  codeKeys key rec hrec := by
    rcases hcodes key rec hrec with ⟨rec₀, hold, _⟩ | ⟨_, hnew⟩
    · obtain ⟨p, hp, hid⟩ := h.codeKeys key rec₀ hold
      exact ⟨p, List.mem_cons_of_mem c hp, hid⟩
    · exact ⟨c, List.mem_cons_self, hnew⟩
  parKeys key rec hrec := by
    rcases hpars key rec hrec with ⟨rec₀, hold, _⟩ | ⟨_, hnew⟩
    · obtain ⟨p, hp, huri⟩ := h.parKeys key rec₀ hold
      exact ⟨p, List.mem_cons_of_mem c hp, huri⟩
    · exact ⟨c, List.mem_cons_self, hnew⟩

/-- With an injective digest, a fresh code finds its key free. -/
theorem Stored.code_free (hD : D.Injective)
    (hfresh : Fresh past c) {id : String} (hid : c.call.SavesCode id) :
    codes (D.hashKey id) = none := by
  rw [Option.eq_none_iff_forall_ne_some]
  intro rec hrec
  obtain ⟨p, hp, id', hsaved, hkey⟩ := h.codeKeys _ _ hrec
  exact hfresh.code id hid p hp (hD hkey ▸ hsaved)

lemma Stored.par_free (hD : D.Injective)
    (hfresh : Fresh past c) {uri : String} (huri : c.call.SavesPAR uri) :
    pars (D.hashKey uri) = none := by
  rw [Option.eq_none_iff_forall_ne_some]
  intro rec hrec
  obtain ⟨p, hp, uri', hsaved, hkey⟩ := h.parKeys _ _ hrec
  exact hfresh.par uri huri p hp (hD hkey ▸ hsaved)

end

lemma Stored.rowStep (h : Stored D past codes pars)
    (hstep : RowStep D c codes codes' pars pars') : Stored D (c :: past) codes' pars' := by
  cases hstep with
  | saveCode hcall hnew =>
    exact h.step (hnew.imp fun key hk => ⟨_, ⟨_, hcall, rfl⟩, hk.symm⟩) (.refl _)
  | consumeCode hspent =>
    exact h.step (Arises.of_write (fun _ => by split_ifs <;> rfl) hspent) (.refl _)
  | savePAR hcall hnew =>
    exact h.step (.refl _) (hnew.imp fun key hk => ⟨_, ⟨_, hcall, rfl⟩, hk.symm⟩)
  | consumePAR hspent =>
    exact h.step (.refl _) (Arises.of_write (fun _ => by split_ifs <;> rfl) hspent)
  | other => exact h.step (.refl _) (.refl _)

lemma Stored.direct_step (h : Stored D past s.codes.m.lookup s.pars.m.lookup) (c : TimedCall) :
    Stored D (c :: past) (direct D s c).1.codes.m.lookup (direct D s c).1.pars.m.lookup := by
  refine h.rowStep ?_
  obtain ⟨call, now, ρ, ρ'⟩ := c
  rcases call with (_ | code) | _ | id | (_ | par) | _ | uri
  case saveCode.some => exact .saveCode rfl (arises_saveCode D ρ now s.codes code)
  case consumeCode => exact .consumeCode (lookup_consumeCode D h.codeIds now id)
  case savePAR.some => exact .savePAR rfl (arises_savePAR D ρ now s.pars par)
  case consumePAR => exact .consumePAR (lookup_consumePAR D h.parURIs now uri)
  all_goals exact .other

lemma Stored.staged_step (h : Stored D past t.codes.lookup t.pars.lookup) (c : TimedCall) :
    Stored D (c :: past) (staged D t c).1.codes.lookup (staged D t c).1.pars.lookup := by
  refine h.rowStep ?_
  obtain ⟨call, now, ρ, ρ'⟩ := c
  rcases call with (_ | code) | _ | id | (_ | par) | _ | uri
  case saveCode.some => exact .saveCode rfl (arises_txSaveCode D t.codes code)
  case consumeCode => exact .consumeCode (lookup_txConsumeCode D h.codeIds now id)
  case savePAR.some => exact .savePAR rfl (arises_txSavePAR D now t.pars par)
  case consumePAR => exact .consumePAR (lookup_txConsumePAR D h.parURIs now uri)
  all_goals exact .other

lemma Stored.staged_run (h : Stored D past t.codes.lookup t.pars.lookup) (cs : List TimedCall) :
    Stored D (cs ++ past) (run (staged D) t cs).1.codes.lookup
      (run (staged D) t cs).1.pars.lookup := by
  induction cs generalizing t past with
  | nil => exact h
  | cons c cs ih =>
    apply (ih (h.staged_step c)).mono
    intro p hp
    simp only [List.mem_append, List.mem_cons] at hp ⊢
    tauto

end Rows

/-! ### Reachable stores -/

section Histories
variable (D : KeyDigest) {past : List TimedCall}

abbrev RedemptionEvent := TransactionalStore.Event TimedCall Commit Empty

lemma rollback_staged (t : Staging) (c : TimedCall) :
    (redemptions D).rollback (staged D t c).1 = (redemptions D).rollback t := by
  obtain ⟨call, now, ρ, ρ'⟩ := c
  cases call with
  | saveCode code => simp only [redemptions, staged, parent_txSaveCode]
  | consumeCode id => simp only [redemptions, staged, parent_txConsumeCode]
  | savePAR par => simp only [redemptions, staged, parent_txSavePAR]
  | consumePAR uri => simp only [redemptions, staged, parent_txConsumePAR]
  | revokeGrant t => simp only [redemptions, staged, parent_revokeGrant]
  | revokeJTI r => simp only [redemptions, staged, parent_revokeJTI]
  | gc cutoff => simp only [redemptions, staged, parent_gc]
  | findCode _ | findPAR _ | isRevoked _ _ _ | isIssuanceRevoked _ _ => rfl

lemma rollback_run (s : Stores) (cs : List TimedCall) :
    (redemptions D).rollback (run (staged D) ((redemptions D).openTx s) cs).1 = s :=
  run_fixed (rollback_staged D) ((redemptions D).openTx s) cs

lemma stored_apply (h : Stored D past s.codes.m.lookup s.pars.m.lookup) (e : RedemptionEvent) :
    Stored D (e.calls ++ past) ((redemptions D).apply s e).codes.m.lookup
      ((redemptions D).apply s e).pars.m.lookup := by
  cases e with
  | call c => exact h.direct_step c
  | outside u => exact nomatch u
  | committed cs e =>
    have hrun := Stored.staged_run (t := (redemptions D).openTx s) h cs
    apply hrun.sub
    · intro key rec hrec
      rw [← lookup_copied]
      exact lookup_of_maybeGC _ e.order _ hrec
    · intro key rec hrec
      rw [← lookup_copied]
      exact hrec
  | rolledBack cs =>
    have hsame : (redemptions D).apply s (.rolledBack cs) = s := rollback_run D s cs
    rw [hsame]
    exact h.mono fun p hp => List.mem_append_right cs hp

lemma stored_after (h : Stored D past s.codes.m.lookup s.pars.m.lookup)
    (history : List RedemptionEvent) :
    Stored D (history.flatMap TransactionalStore.Event.calls ++ past)
      ((redemptions D).after s history).codes.m.lookup
      ((redemptions D).after s history).pars.m.lookup := by
  induction history generalizing past s with
  | nil => exact h
  | cons e es ih =>
    apply (ih (stored_apply D h e)).mono
    intro p hp
    simp only [List.flatMap_cons, List.mem_append] at hp ⊢
    tauto

end Histories

/-! ### The correspondence -/

section Correspondence
variable {D : KeyDigest} {now : Time} {past cs : List TimedCall} {t : Staging} {s : Stores}
  {c : TimedCall}

/-- The view and the stores: the codes agree on their live rows, and the other
substores on all rows. -/
structure Sim (D : KeyDigest) (now : Time) (past : List TimedCall) (t : Staging) (s : Stores) :
    Prop where
  view : Stored D past t.codes.lookup t.pars.lookup
  stores : Stored D past s.codes.m.lookup s.pars.m.lookup
  codes : ∀ key, live now (t.codes.lookup key) = live now (s.codes.m.lookup key)
  pars : ∀ key, t.pars.lookup key = s.pars.m.lookup key
  revocations : t.revocations.Shows s.revocations

/-- The sweep a direct save of a pushed request owes meets no row past retention. -/
def KeepsRedeemable (s : Stores) (c : TimedCall) : Prop :=
  ∀ par, c.call = .savePAR (some par) →
    (Sweeper.due s.pars.savesSinceGC s.pars.m.keys.card).2 = true →
    ∀ key rec, s.pars.m.lookup key = some rec → parReclaimable c.now rec = false

section
variable (h : Sim D now past t s)
include h

lemma codes_at {later : Time} (hle : now ≤ later) (key : String) :
    live later (t.codes.lookup key) = live later (s.codes.m.lookup key) :=
  live_mono hle (h.codes key)

lemma codes_saveCode (hD : D.Injective)
    (hle : now ≤ c.now) (hfresh : Fresh past c) {code : AuthorizationCode}
    (hc : c.call = .saveCode (some code)) :
    (∀ key, live c.now ((txSaveCode D t.codes (some code)).1.lookup key) =
        live c.now ((saveCode D c.direct c.now s.codes (some code)).1.m.lookup key)) ∧
      (txSaveCode D t.codes (some code)).2 = (saveCode D c.direct c.now s.codes (some code)).2 := by
  have hsaves : c.call.SavesCode code.id := ⟨code, hc, rfl⟩
  have hview := h.view.code_free hD hfresh hsaves
  rw [txSaveCode_fresh D hview, saveCode_fresh D (h.stores.code_free hD hfresh hsaves)]
  refine ⟨fun key => ?_, rfl⟩
  dsimp only [RecordStore.put]
  rw [lookup_add hview, lookup_insert_ite]
  split_ifs
  · rfl
  · exact (codes_at h hle key).trans (filter_maybeGC _ c.direct s.codes key).symm

lemma pars_savePAR (hD : D.Injective)
    (hfresh : Fresh past c) (hkeeps : KeepsRedeemable s c) {par : PushedAuthRequest}
    (hc : c.call = .savePAR (some par)) :
    (∀ key, (txSavePAR D c.now t.pars (some par)).1.lookup key =
        (savePAR D c.direct c.now s.pars (some par)).1.m.lookup key) ∧
      (txSavePAR D c.now t.pars (some par)).2 =
        (savePAR D c.direct c.now s.pars (some par)).2 := by
  have hsaves : c.call.SavesPAR par.uri := ⟨par, hc, rfl⟩
  have hview := h.view.par_free hD hfresh hsaves
  rw [txSavePAR_fresh D hview, savePAR_fresh D (h.stores.par_free hD hfresh hsaves)]
  refine ⟨fun key => ?_, rfl⟩
  dsimp only [RecordStore.put]
  rw [lookup_add hview, lookup_insert_ite, lookup_maybeGC, h.pars key]
  split_ifs with hkey hdue
  · rfl
  · cases hrow : s.pars.m.lookup key with
    | none => rfl
    | some rec => simp [hkeeps par hc hdue key rec hrow, Option.filter_some]
  · rfl

lemma codes_consumeCode {later : Time} (hle : now ≤ later) (id : String) :
    (∀ key, live later ((txConsumeCode D later t.codes id).1.lookup key) =
        live later ((consumeCode D later s.codes id).1.m.lookup key)) ∧
      (txConsumeCode D later t.codes id).2 = (consumeCode D later s.codes id).2 := by
  constructor
  · intro key
    rw [lookup_txConsumeCode D h.view.codeIds, lookup_consumeCode D h.stores.codeIds]
    split_ifs
    · rw [live_spendCode, live_spendCode, codes_at h hle]
    · exact codes_at h hle key
  · rw [txConsumeCode_reply, consumeCode_reply D h.stores.codeIds, codes_at h hle]

lemma pars_consumePAR (later : Time) (uri : String) :
    (∀ key, (txConsumePAR D later t.pars uri).1.lookup key =
        (consumePAR D later s.pars uri).1.m.lookup key) ∧
      (txConsumePAR D later t.pars uri).2 = (consumePAR D later s.pars uri).2 := by
  constructor
  · intro key
    rw [lookup_txConsumePAR D h.view.parURIs, lookup_consumePAR D h.stores.parURIs, h.pars key]
  · rw [txConsumePAR_reply, consumePAR_reply D h.stores.parURIs, h.pars]

lemma Sim.next (hcodes : ∀ key, live c.now ((staged D t c).1.codes.lookup key) =
      live c.now ((direct D s c).1.codes.m.lookup key))
    (hpars : ∀ key, (staged D t c).1.pars.lookup key = (direct D s c).1.pars.m.lookup key)
    (hrevs : (staged D t c).1.revocations.Shows (direct D s c).1.revocations) :
    Sim D c.now (c :: past) (staged D t c).1 (direct D s c).1 :=
  ⟨h.view.staged_step c, h.stores.direct_step c, hcodes, hpars, hrevs⟩

lemma staged_simulates (hD : D.Injective)
    (hle : now ≤ c.now) (hfresh : Fresh past c) (hkeeps : KeepsRedeemable s c) :
    Sim D c.now (c :: past) (staged D t c).1 (direct D s c).1 ∧
      (staged D t c).2 = (direct D s c).2 := by
  have hcodes := codes_at h hle
  have hpars := h.pars
  have hrevs := h.revocations
  obtain ⟨call, now', ρ, ρ'⟩ := c
  cases call with
  | saveCode code =>
    cases code with
    | none => exact ⟨h.next hcodes hpars hrevs, rfl⟩
    | some code =>
      obtain ⟨hrows, hreply⟩ := codes_saveCode h hD hle hfresh rfl
      exact ⟨h.next hrows hpars hrevs, congrArg Reply.done hreply⟩
  | findCode id =>
    refine ⟨h.next hcodes hpars hrevs, ?_⟩
    simp only [staged, direct, txFindCode_eq, findCode_eq D h.stores.codeIds,
      hcodes (D.hashKey id)]
  | consumeCode id =>
    obtain ⟨hrows, hreply⟩ := codes_consumeCode h hle id
    exact ⟨h.next hrows hpars hrevs, congrArg Reply.consumedCode hreply⟩
  | savePAR par =>
    cases par with
    | none => exact ⟨h.next hcodes hpars hrevs, rfl⟩
    | some par =>
      obtain ⟨hrows, hreply⟩ := pars_savePAR h hD hfresh hkeeps rfl
      exact ⟨h.next hcodes hrows hrevs, congrArg Reply.done hreply⟩
  | findPAR uri =>
    refine ⟨h.next hcodes hpars hrevs, ?_⟩
    simp only [staged, direct, txFindPAR_eq, findPAR_eq D h.stores.parURIs, hpars]
  | consumePAR uri =>
    obtain ⟨hrows, hreply⟩ := pars_consumePAR h now' uri
    exact ⟨h.next hcodes hrows hrevs, congrArg Reply.par hreply⟩
  | revokeGrant w =>
    have hshows := shows_revokeGrant hrevs w
    exact ⟨h.next hcodes hpars hshows, rfl⟩
  | revokeJTI r =>
    have hshows := shows_revokeJTI hrevs r
    exact ⟨h.next hcodes hpars hshows, rfl⟩
  | isRevoked grantID jti iat =>
    have hanswer := isRevoked_eq hrevs grantID jti iat
    exact ⟨h.next hcodes hpars hrevs, congrArg Reply.answer hanswer⟩
  | isIssuanceRevoked grantID issuedAt =>
    have hanswer := isIssuanceRevoked_eq hrevs grantID issuedAt
    exact ⟨h.next hcodes hpars hrevs, congrArg Reply.answer hanswer⟩
  | gc cutoff =>
    obtain ⟨hshows, hcount⟩ := shows_gc hrevs ρ' ρ cutoff
    exact ⟨h.next hcodes hpars hshows, congrArg Reply.reclaimed hcount⟩

end

/-! ### A request the direct store has swept -/

/-- The view still shows a request that the direct store no longer has. -/
structure Lost (D : KeyDigest) (past : List TimedCall) (key : String) (t : Staging) (s : Stores) :
    Prop where
  view : Stored D past t.codes.lookup t.pars.lookup
  stores : Stored D past s.codes.m.lookup s.pars.m.lookup
  swept : s.pars.m.lookup key = none
  shown : ∃ rec, t.pars.lookup key = some rec

lemma staged_loses (h : Sim D now past t s) (hD : D.Injective)
    (hfresh : Fresh past c) (hkeeps : ¬KeepsRedeemable s c) :
    ∃ key, Lost D (c :: past) key (staged D t c).1 (direct D s c).1 := by
  unfold KeepsRedeemable at hkeeps
  push Not at hkeeps
  obtain ⟨par, hc, hdue, key, rec, hrow, hstale⟩ := hkeeps
  have hview := h.view.par_free hD hfresh ⟨par, hc, rfl⟩
  have hstores := h.stores.par_free hD hfresh ⟨par, hc, rfl⟩
  have hne : key ≠ D.hashKey par.uri := by
    intro he
    rw [he, hstores] at hrow
    cases hrow
  refine ⟨key, h.view.staged_step c, h.stores.direct_step c, ?_, rec, ?_⟩
  · simp only [direct, hc, savePAR_fresh D hstores, RecordStore.put]
    rw [lookup_insert_ite, if_neg hne, lookup_maybeGC, if_pos hdue, hrow]
    simp [Option.filter_some, hstale]
  · simp only [staged, hc, txSavePAR_fresh D hview]
    rw [lookup_add hview, if_neg hne, h.pars key, hrow]

lemma Lost.step {key : String} (h : Lost D past key t s) (hD : D.Injective)
    (hfresh : Fresh past c) : Lost D (c :: past) key (staged D t c).1 (direct D s c).1 := by
  have hview' := h.view.staged_step c
  have hstores' := h.stores.direct_step c
  obtain ⟨rec, hrec⟩ := h.shown
  obtain ⟨call, now', ρ, ρ'⟩ := c
  cases call with
  | savePAR par =>
    cases par with
    | none => exact ⟨hview', hstores', h.swept, rec, hrec⟩
    | some par =>
      have hview := h.view.par_free hD hfresh ⟨par, rfl, rfl⟩
      have hstores := h.stores.par_free hD hfresh ⟨par, rfl, rfl⟩
      have hne : key ≠ D.hashKey par.uri := by
        intro he
        rw [he, hview] at hrec
        cases hrec
      refine ⟨hview', hstores', ?_, rec, ?_⟩
      · simp only [direct, savePAR_fresh D hstores, RecordStore.put]
        rw [lookup_insert_ite, if_neg hne, lookup_maybeGC_none _ ρ h.swept]
      · simp only [staged, txSavePAR_fresh D hview]
        rw [lookup_add hview, if_neg hne, hrec]
  | consumePAR uri =>
    refine ⟨hview', hstores', ?_, ?_⟩
    · simp only [direct]
      rw [lookup_consumePAR D h.stores.parURIs, h.swept]
      exact ite_self none
    · simp only [staged]
      rw [lookup_txConsumePAR D h.view.parURIs, hrec]
      split_ifs
      · exact ⟨_, rfl⟩
      · exact ⟨rec, rfl⟩
  | saveCode _ | findCode _ | consumeCode _ | findPAR _ | revokeGrant _ | revokeJTI _
  | isRevoked _ _ _ | isIssuanceRevoked _ _ | gc _ => exact ⟨hview', hstores', h.swept, rec, hrec⟩

/-! ### Whole sequences -/

lemma run_simulates (h : Sim D now past t s) (hD : D.Injective)
    (hclock : ClockedFrom TimedCall.now now cs) (hfresh : NeverSavedBefore past cs)
    (hkeeps : Along (direct D) KeepsRedeemable s cs) :
    (∃ past', Sim D (lastClock TimedCall.now now cs) past' (run (staged D) t cs).1
        (run (direct D) s cs).1) ∧
      (run (staged D) t cs).2 = (run (direct D) s cs).2 := by
  induction cs generalizing now past t s with
  | nil => exact ⟨⟨past, h⟩, rfl⟩
  | cons c cs ih =>
    obtain ⟨hstep, hreply⟩ := staged_simulates h hD hclock.1 hfresh.1 hkeeps.1
    obtain ⟨hend, hreplies⟩ := ih hstep hclock.2 hfresh.2 hkeeps.2
    refine ⟨hend, ?_⟩
    simp only [run, hreply, hreplies]

lemma Lost.throughout {key : String} (h : Lost D past key t s) (hD : D.Injective)
    (hfresh : NeverSavedBefore past cs) :
    ∃ past', Lost D past' key (run (staged D) t cs).1 (run (direct D) s cs).1 := by
  induction cs generalizing past t s with
  | nil => exact ⟨past, h⟩
  | cons c cs ih => exact ih (h.step hD hfresh.1) hfresh.2

/-- If some sweep of the direct run meets a row past retention, a request is
lost at the end. -/
theorem run_loses (h : Sim D now past t s) (hD : D.Injective)
    (hclock : ClockedFrom TimedCall.now now cs) (hfresh : NeverSavedBefore past cs)
    (hkeeps : ¬Along (direct D) KeepsRedeemable s cs) :
    ∃ past' key, Lost D past' key (run (staged D) t cs).1 (run (direct D) s cs).1 := by
  induction cs generalizing now past t s with
  | nil => exact absurd trivial hkeeps
  | cons c cs ih =>
    by_cases hc : KeepsRedeemable s c
    · have hstep := (staged_simulates h hD hclock.1 hfresh.1 hc).1
      exact ih hstep hclock.2 hfresh.2 fun hrest => hkeeps ⟨hc, hrest⟩
    · obtain ⟨key, hlost⟩ := staged_loses h hD hfresh.1 hc
      obtain ⟨past', hend⟩ := hlost.throughout hD hfresh.2
      exact ⟨past', key, hend⟩

end Correspondence

/-! ### Later answers -/

def Call.IsQuery : Call → Prop
  | .findCode _ | .consumeCode _ | .findPAR _ | .consumePAR _ | .isRevoked _ _ _
  | .isIssuanceRevoked _ _ => True
  | _ => False

section Answers
variable {D : KeyDigest} {s s' : Stores} {past : List TimedCall} {now : Time}

/-- Two stores with the same answers from `now` on: every sequence of finds,
redemptions and revocation checks gets the same replies from both. -/
def AnswerAlike (D : KeyDigest) (now : Time) (s s' : Stores) : Prop :=
  ∀ later : List TimedCall, (∀ c ∈ later, c.call.IsQuery) →
    ClockedFrom TimedCall.now now later → (run (direct D) s later).2 = (run (direct D) s' later).2

structure RowsAlike (now : Time) (s s' : Stores) : Prop where
  ids : Keyed AuthorizationCode.id s.codes.m.lookup
  ids' : Keyed AuthorizationCode.id s'.codes.m.lookup
  uris : Keyed PushedAuthRequest.uri s.pars.m.lookup
  uris' : Keyed PushedAuthRequest.uri s'.pars.m.lookup
  codes : ∀ key, live now (s.codes.m.lookup key) = live now (s'.codes.m.lookup key)
  pars : ∀ key, s.pars.m.lookup key = s'.pars.m.lookup key
  revocations : s.revocations = s'.revocations

lemma RowsAlike.later {later : Time} (h : RowsAlike now s s') (hle : now ≤ later) :
    RowsAlike later s s' :=
  { h with codes := fun key => live_mono hle (h.codes key) }

lemma keyed_consumeCode {s : AuthCodeStore}
    (h : Keyed AuthorizationCode.id s.m.lookup) (now : Time) (id : String) :
    Keyed AuthorizationCode.id (consumeCode D now s id).1.m.lookup :=
  Arises.keyed (N := fun _ => False)
    (Arises.of_write (fun _ => by split_ifs <;> rfl) (lookup_consumeCode D h now id)) h

lemma keyed_consumePAR {s : PARStore}
    (h : Keyed PushedAuthRequest.uri s.m.lookup) (now : Time) (uri : String) :
    Keyed PushedAuthRequest.uri (consumePAR D now s uri).1.m.lookup :=
  Arises.keyed (N := fun _ => False)
    (Arises.of_write (fun _ => by split_ifs <;> rfl) (lookup_consumePAR D h now uri)) h

lemma RowsAlike.step {c : TimedCall} (h : RowsAlike c.now s s') (hquery : c.call.IsQuery) :
    RowsAlike c.now (direct D s c).1 (direct D s' c).1 ∧ (direct D s c).2 = (direct D s' c).2 := by
  obtain ⟨call, now, ρ, ρ'⟩ := c
  cases call with
  | findCode id =>
    have hrow := h.codes (D.hashKey id)
    simp only [direct, findCode_eq D h.ids, findCode_eq D h.ids', hrow]
    exact ⟨h, trivial⟩
  | consumeCode id =>
    simp only [direct, consumeCode_reply D h.ids, consumeCode_reply D h.ids', h.codes]
    refine ⟨{ h with ids := keyed_consumeCode h.ids now id,
                     ids' := keyed_consumeCode h.ids' now id, codes := fun key => ?_ }, trivial⟩
    rw [lookup_consumeCode D h.ids, lookup_consumeCode D h.ids']
    split_ifs
    · rw [live_spendCode, live_spendCode, h.codes]
    · exact h.codes key
  | findPAR uri =>
    simp only [direct, findPAR_eq D h.uris, findPAR_eq D h.uris', h.pars]
    exact ⟨h, trivial⟩
  | consumePAR uri =>
    simp only [direct, consumePAR_reply D h.uris, consumePAR_reply D h.uris', h.pars]
    refine ⟨{ h with uris := keyed_consumePAR h.uris now uri,
                     uris' := keyed_consumePAR h.uris' now uri, pars := fun key => ?_ }, trivial⟩
    rw [lookup_consumePAR D h.uris, lookup_consumePAR D h.uris', h.pars key]
  | isRevoked grantID jti iat =>
    simp only [direct, h.revocations]
    exact ⟨h, trivial⟩
  | isIssuanceRevoked grantID issuedAt =>
    simp only [direct, h.revocations]
    exact ⟨h, trivial⟩
  | saveCode _ | savePAR _ | revokeGrant _ | revokeJTI _ | gc _ => exact absurd hquery id

lemma answerAlike_of_rows (h : RowsAlike now s s') : AnswerAlike D now s s' := by
  intro later hquery hclock
  induction later generalizing now s s' with
  | nil => rfl
  | cons c cs ih =>
    obtain ⟨hc, hcs⟩ := List.forall_mem_cons.mp hquery
    obtain ⟨hstep, hreply⟩ := (h.later hclock.1).step (D := D) hc
    simp only [run, hreply, ih hstep hcs hclock.2]

lemma Sim.commit (h : Sim D now past t s) {e : Commit} (hle : now ≤ e.now) :
    AnswerAlike D e.now ((redemptions D).commit t e) s := by
  apply answerAlike_of_rows
  constructor
  · intro key rec hrec
    apply h.view.codeIds key rec
    rw [← lookup_copied]
    exact lookup_of_maybeGC _ e.order _ hrec
  · exact h.stores.codeIds
  · intro key rec hrec
    apply h.view.parURIs key rec
    rw [← lookup_copied]
    exact hrec
  · exact h.stores.parURIs
  · intro key
    refine (filter_maybeGC _ e.order t.codes.copied key).trans ?_
    rw [lookup_copied]
    exact codes_at h hle key
  · intro key
    exact (lookup_copied t.pars key).trans (h.pars key)
  · exact flushLocked_eq h.revocations e.order

/-- A lost request tells the commit from the direct stores: redeeming it is
refused as unknown by these alone. -/
theorem Lost.not_answerAlike {key : String} (h : Lost D past key t s) (e : Commit) :
    ¬AnswerAlike D e.now ((redemptions D).commit t e) s := by
  intro halike
  obtain ⟨rec, hrec⟩ := h.shown
  obtain ⟨p, _, uri, _, rfl⟩ := h.view.parKeys key rec hrec
  have hcommitted : ((redemptions D).commit t e).pars.m.lookup (D.hashKey uri) = some rec :=
    (lookup_copied t.pars (D.hashKey uri)).trans hrec
  have hkeyed : Keyed PushedAuthRequest.uri ((redemptions D).commit t e).pars.m.lookup := by
    intro key' rec' hrec'
    apply h.view.parURIs key' rec'
    rw [← lookup_copied]
    exact hrec'
  have hreplies := halike [⟨.consumePAR uri, e.now, e.order, e.order⟩]
    (by simp [Call.IsQuery]) ⟨le_refl _, trivial⟩
  simp only [run, direct, consumePAR_reply D hkeyed, consumePAR_reply D h.stores.parURIs,
    hcommitted, h.swept, List.cons.injEq, Reply.par.injEq, and_true] at hreplies
  exact redeemPAR_some e.now rec uri hreplies

end Answers

/-! ### Main result -/

section Main
variable (D : KeyDigest)

/-- Call by call the same replies, and a commit at any later time leaves stores
with the same answers. -/
def SameAsDirect (s : Stores) (start : Time) (cs : List TimedCall) : Prop :=
  (run (redemptions D).staged ((redemptions D).openTx s) cs).2 =
      (run (redemptions D).direct s cs).2 ∧
    ∀ e : Commit, lastClock TimedCall.now start cs ≤ e.now →
      AnswerAlike D e.now
        ((redemptions D).commit (run (redemptions D).staged ((redemptions D).openTx s) cs).1 e)
        (run (redemptions D).direct s cs).1

lemma sim_open {past : List TimedCall}
    (h : Stored D past s.codes.m.lookup s.pars.m.lookup) (now : Time) :
    Sim D now past ((redemptions D).openTx s) s where
  view := h
  stores := h
  codes _ := rfl
  pars _ := rfl
  revocations := shows_open s.revocations

lemma stored_new : Stored D [] newStores.codes.m.lookup newStores.pars.m.lookup :=
  ⟨nofun, nofun, nofun, nofun⟩

/-- On every reachable state, a transaction whose saves are of new ids and
request URIs is the same as its calls made directly exactly when no sweep owed
by a direct save of a pushed request meets a request past its retention. A
rollback leaves the stores as they were. -/
theorem redemption_transaction_same_as_direct_iff (hD : D.Injective)
    (history : List RedemptionEvent) (start : Time) (cs : List TimedCall)
    (hclock : ClockedFrom TimedCall.now start cs)
    (hfresh : NeverSavedBefore (history.flatMap TransactionalStore.Event.calls) cs) :
    let s := (redemptions D).after newStores history
    (SameAsDirect D s start cs ↔ Along (redemptions D).direct KeepsRedeemable s cs) ∧
      (redemptions D).rollback (run (redemptions D).staged ((redemptions D).openTx s) cs).1 =
        s := by
  intro s
  have hstored := stored_after D (stored_new D) history
  rw [List.append_nil] at hstored
  have hsim := sim_open D hstored start
  refine ⟨⟨fun hsame => ?_, fun hkeeps => ?_⟩, rollback_run D s cs⟩
  · by_contra hkeeps
    obtain ⟨past, key, hlost⟩ := run_loses hsim hD hclock hfresh hkeeps
    exact hlost.not_answerAlike ⟨ascending, lastClock TimedCall.now start cs⟩
      (hsame.2 _ (le_refl _))
  · obtain ⟨⟨past, hend⟩, hreplies⟩ := run_simulates hsim hD hclock hfresh hkeeps
    exact ⟨hreplies, fun e hle => hend.commit hle⟩

end Main

def timed (c : Call) (now : Time) : TimedCall :=
  ⟨c, now, ascending, ascending⟩

def pushed (uri : String) (expiresAt : Time) : PushedAuthRequest :=
  { (default : PushedAuthRequest) with uri := uri, expiresAt := expiresAt }

/-- A code and a request are saved and redeemed, and a grant is revoked. -/
def redeemOnce : List TimedCall :=
  [timed (.savePAR (some (pushed "r" 60))) 1,
    timed (.saveCode (some { (default : AuthorizationCode) with id := "c", expiresAt := 60 })) 2,
    timed (.consumeCode "c") 3,
    timed (.consumePAR "r") 100, timed (.revokeGrant ⟨"g", 100, 0, "logout", false⟩) 100,
    timed (.isIssuanceRevoked "g" 99) 100]

theorem redemption_transaction_redeemOnce : SameAsDirect plainDigest newStores 0 redeemOnce := by
  have hfresh : NeverSavedBefore [] redeemOnce := by
    simp [NeverSavedBefore, fresh_iff, redeemOnce, timed, Call.SavesCode, Call.SavesPAR]
  have hkeeps : Along (redemptions plainDigest).direct KeepsRedeemable newStores redeemOnce := by
    have hquiet : ∀ s (c : Call) now, (∀ par, c ≠ .savePAR par) → KeepsRedeemable s (timed c now) :=
      fun s c now hc par he => absurd he (hc (some par))
    have hnotDue : ¬(Sweeper.due newStores.pars.savesSinceGC newStores.pars.m.keys.card).2 =
        true := by
      decide
    refine ⟨fun par _ hdue => absurd hdue hnotDue, hquiet _ _ _ (by simp),
      hquiet _ _ _ (by simp), hquiet _ _ _ (by simp), hquiet _ _ _ (by simp),
      hquiet _ _ _ (by simp), trivial⟩
  exact ((redemption_transaction_same_as_direct_iff plainDigest plainDigest_injective [] 0
    redeemOnce (by simp [ClockedFrom, redeemOnce, timed]) hfresh).1).mpr hkeeps

/-- Sixty-three requests, pushed directly, that expire at 10. -/
def sixtyThreePushes : List RedemptionEvent :=
  (List.range 63).map fun n =>
    .call (timed (.savePAR (some (pushed (String.singleton (Char.ofNat (48 + n))) 10))) 1)

/-- Past the retention of them all, one more push and the redemption of the first. -/
def pushThenRedeem : List TimedCall :=
  [timed (.savePAR (some (pushed "next" 0))) (parRetention + 11),
    timed (.consumePAR "0") (parRetention + 11)]

def unknownRequest : Reply → Bool
  | .par (.error .notFound) => true
  | _ => false

def pushedOut : Stores := (redemptions plainDigest).after newStores sixtyThreePushes

def directAnswers : List Bool :=
  (run (redemptions plainDigest).direct pushedOut pushThenRedeem).2.map unknownRequest

def stagedAnswers : List Bool :=
  (run (redemptions plainDigest).staged ((redemptions plainDigest).openTx pushedOut)
    pushThenRedeem).2.map unknownRequest

/-- The direct push sweeps the request, so that its redemption fails; in the
transaction it is redeemed. -/
theorem direct_push_sweeps_redeemable_request :
    directAnswers = [false, true] ∧ stagedAnswers = [false, false] ∧
      ¬SameAsDirect plainDigest pushedOut (parRetention + 11) pushThenRedeem := by
  have hdirect : directAnswers = [false, true] := by decide +kernel
  have hstaged : stagedAnswers = [false, false] := by decide +kernel
  refine ⟨hdirect, hstaged, fun h => ?_⟩
  have hreplies : stagedAnswers = directAnswers := congrArg (List.map unknownRequest) h.1
  rw [hdirect, hstaged] at hreplies
  cases hreplies

end OidcProvider.RedemptionTransactions
