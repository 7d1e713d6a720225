import OidcProvider.ReplayCascade

/-!
# Clients that exchange and rotate

A session presents a refresh token and, when the exchange succeeds outside the
grace window, has its successor issued under it. Any number of sessions run on
one store, call by call, while chains are started and time passes. The outline
of an exchange says what its two answers leave behind: a success leaves the
presented record consumed, so the successor may be saved under it, and a replay
leaves the record settled by the cascade.
-/
namespace OidcProvider.RefreshSessions
open FiniteMaps SecondaryIndexes StoreRecords RefreshTokenStore RotationLineage ResumptionPrograms
open ChainRetirement RefreshGrant ReplayCascade

/-! ### The outline of an exchange -/

/-- A consumed row and what was handed out of it: its fields, with part of its
scope. -/
def HandedOut (ex : Exchanged) (row : RefreshToken) : Prop :=
  row.consumedAt.isSome = true ∧
    ∃ scope, scope ⊆ row.scope ∧ ex = exchangedFrom (row.presentedAs ex.consumedID) scope

def Spent (D : KeyDigest) (ex : Exchanged) (w : World) : Prop :=
  ex.consumedID ≠ "" ∧ Known (HandedOut ex) (D.hashKey ex.consumedID) w

structure Leaves (D : KeyDigest) (e : Exchanger) (input : ExchangeInput) (a : Answer)
    (w : World) : Prop where
  replayed : a.result = .error .tokenReplayed → e.deferCascade = false →
    Settled (D.hashKey input.token) a.events w
  spent : ∀ ex, a.result = .ok ex → ex.inGrace = false → e.rotationDisabled = false →
    Spent D ex w ∧ ex.consumedID = input.token ∧ ex.clientID = input.clientID

section
variable {D : KeyDigest} {H : Heritage} {e : Exchanger} {input : ExchangeInput} {w : World}
  {id : String} {s : RefreshStore} {a : Answer} {now : Time} (rec : RefreshToken)

lemma HandedOut.evolves {ex : Exchanged} {row row' : RefreshToken} (hev : RowEvolves row row')
    (h : HandedOut ex row) : HandedOut ex row' := by
  obtain ⟨hcons, scope, hscope, hex⟩ := h
  obtain ⟨t, ht⟩ := Option.isSome_iff_exists.mp hcons
  have hfrozen : ∀ r : RefreshToken, r.consumedAt = some t →
      exchangedFrom (r.presentedAs ex.consumedID) scope =
        exchangedFrom (((frozen r).stampConsumed t).presentedAs ex.consumedID) scope := by
    intro r hr
    simp only [exchangedFrom, RefreshToken.presentedAs, RefreshToken.stampConsumed, frozen, hr]
  have hfield : row'.scope = row.scope := by
    have h := congrArg RefreshToken.scope hev.frozen
    exact h
  refine ⟨hev.isConsumed hcons, scope, ?_, hex.trans ?_⟩
  · rw [hfield]
    exact hscope
  · rw [hfrozen row ht, hfrozen row' (hev.consumed t ht), hev.frozen]

lemma Spent.stable {ex : Exchanged} {w' : World} (hG : (rotation D H).G w w') (h : Spent D ex w) :
    Spent D ex w' :=
  ⟨h.1, Known.moves hG (fun _ _ hev => HandedOut.evolves hev) h.2⟩

lemma Leaves.stable {w' : World} (hG : (rotation D H).G w w') (h : Leaves D e input a w) :
    Leaves D e input a w' where
  replayed hr hd := (h.replayed hr hd).stable hG
  spent ex hex hgrace hrot := (h.spent ex hex hgrace hrot).imp_left (Spent.stable hG)

lemma leaves_error {err : RefreshError} (hne : err ≠ .tokenReplayed) (w : World) :
    Leaves D e input (answer (.error err)) w where
  replayed hr := by
    cases hr
    exact absurd rfl hne
  spent ex hex := by cases hex

lemma upholds_answer (h : Leaves D e input a w) : Rotates D H (Leaves D e input) (pure a) w :=
  upholds_ret fun _ hG _ => h.stable hG

lemma upholds_onReplayDetected (h : Lineage D H w.store) (hid : id ≠ "")
    (hstored : Stored (D.hashKey id) w) :
    Rotates D H
      (fun events w => e.deferCascade = false → Settled (D.hashKey id) events w)
      (e.onReplayDetected id) w := by
  unfold Exchanger.onReplayDetected
  by_cases hdefer : e.deferCascade = true
  · rw [if_pos hdefer]
    refine upholds_ret fun w' _ _ hd => ?_
    rw [hdefer] at hd
    cases hd
  · rw [if_neg hdefer]
    refine (upholds_revokeChainBestEffort hid hstored).bind h fun out w₁ h₁ hout => ?_
    refine upholds_ret fun w₂ hG _ _ => ?_
    obtain ⟨row, hrow, hsettled⟩ := hout.stable hG
    exact ⟨row, hrow, hsettled.imp_right fun hexp => ⟨hexp.1, List.mem_cons_of_mem _ hexp.2⟩⟩

lemma upholds_replayed (h : Lineage D H w.store) (htoken : input.token ≠ "")
    (hstored : Stored (D.hashKey input.token) w) :
    Rotates D H (Leaves D e input) (e.replayed input.token) w := by
  refine (upholds_onReplayDetected h htoken hstored).bind h fun events w₁ h₁ hevents => ?_
  exact upholds_answer ⟨fun _ => hevents, fun ex hex => by cases hex⟩

lemma resolveScope_ok {bound requested scope : List String}
    (h : resolveScope bound requested = .ok scope) : scope ⊆ bound := by
  unfold resolveScope at h
  split_ifs at h with hempty hall
  · cases h
    exact List.Subset.refl _
  · cases h
    intro s hs
    exact of_decide_eq_true (List.all_eq_true.mp hall s hs)

lemma resolveScope_error {bound requested : List String} {err : RefreshError}
    (h : resolveScope bound requested = .error err) : err = .scopeWidening := by
  unfold resolveScope at h
  split_ifs at h
  cases h
  rfl

/-- The checks hand out the record's fields with part of its scope, to its own
client, and they never report a replay. -/
theorem checkRecord_returns (input : ExchangeInput) :
    (Exchanger.checkRecord rec input).Returns fun r =>
      r ≠ .error .tokenReplayed ∧
        ∀ ex, r = .ok ex → rec.clientID = input.clientID ∧
          ∃ scope, scope ⊆ rec.scope ∧ ex = exchangedFrom rec scope := by
  intro now
  change Prog.Returns _ (if rec.expiresAt < now then _ else _)
  split_ifs with _ hclient
  · exact ⟨by simp, fun ex hex => by cases hex⟩
  · exact ⟨by simp, fun ex hex => by cases hex⟩
  · cases hscope : resolveScope rec.scope input.requestedScope with
    | error err =>
      rw [resolveScope_error hscope]
      exact ⟨by simp, fun ex hex => by cases hex⟩
    | ok scope =>
      refine ⟨by simp, fun ex hex => ?_⟩
      cases hex
      exact ⟨not_not.mp hclient, scope, resolveScope_ok hscope, rfl⟩

lemma calls_checkRecord (input : ExchangeInput) :
    (Exchanger.checkRecord rec input).Calls Reads := by
  refine calls_ask trivial fun now => ?_
  split_ifs
  · trivial
  · trivial
  · cases resolveScope rec.scope input.requestedScope <;> trivial

lemma upholds_reads {A : Type} {p : Program A} (hp : p.Calls Reads) {Q : A → Prop}
    (hret : p.Returns Q) {key : String} (hstored : Stored key w) :
    Rotates D H (fun a w => Q a ∧ Stored key w) p w := by
  have hcalls := upholds_harmless (D := D) (H := H) (hp.mono harmless_of_reads) w
  exact ((hcalls.returns hret).frame (fun _ _ hG => Stored.stable hG) hstored).imp
    fun a w' _ h => ⟨h.1.2, h.2⟩

lemma graceExchange_returns (input : ExchangeInput) :
    (Exchanger.graceExchange rec input).Returns fun r => ∀ ex, r = .ok ex → ex.inGrace = true := by
  refine (checkRecord_returns rec input).bind fun r _ => ?_
  cases r with
  | error err => exact fun ex hex => by cases hex
  | ok ex =>
    intro ex' hex'
    cases hex'
    rfl

lemma calls_graceExchange (input : ExchangeInput) :
    (Exchanger.graceExchange rec input).Calls Reads := by
  refine (calls_checkRecord rec input).bind fun r => ?_
  cases r <;> trivial

lemma calls_withinGraceWindow : (e.withinGraceWindow rec).Calls Reads := by
  unfold Exchanger.withinGraceWindow
  cases rec.consumedAt with
  | none => trivial
  | some t =>
    split_ifs
    · trivial
    · exact calls_ask trivial fun _ => trivial

/-- What the grace window leaves behind: its answer, if it has one. -/
def GraceLeaves (D : KeyDigest) (e : Exchanger) (input : ExchangeInput) (out : Option Answer)
    (w : World) : Prop :=
  (∀ a, out = some a → Leaves D e input a w) ∧ Stored (D.hashKey input.token) w

lemma upholds_unhandled (hstored : Stored (D.hashKey input.token) w) :
    Rotates D H (GraceLeaves D e input) (pure none) w :=
  upholds_ret fun _ hG _ => ⟨fun _ ha => (by cases ha), hstored.stable hG⟩

lemma upholds_handled (ha : Leaves D e input a w) (hstored : Stored (D.hashKey input.token) w) :
    Rotates D H (GraceLeaves D e input) (pure (some a)) w := by
  refine upholds_ret fun _ hG _ => ⟨fun a' ha' => ?_, hstored.stable hG⟩
  cases ha'
  exact ha.stable hG

lemma upholds_tryGrace (htoken : input.token ≠ "") (hstored : Stored (D.hashKey input.token) w) :
    Rotates D H (GraceLeaves D e input) (e.tryGrace input) w := by
  unfold Exchanger.tryGrace
  split_ifs with httl
  · exact upholds_unhandled hstored
  refine upholds_find fun w₁ hG h₁ => ?_
  have hstored₁ := hstored.stable hG
  cases hfind : find D w₁.clock w₁.store input.token with
  | error err =>
    obtain ⟨row, hrow, _⟩ := hstored₁
    obtain ⟨rfl, _⟩ := find_error h₁.wellFormed hrow hfind
    exact upholds_unhandled ⟨row, hrow, trivial⟩
  | ok rec =>
    have hwindow := upholds_reads (D := D) (H := H) (calls_withinGraceWindow (e := e) rec)
      (Prog.returns_true _) hstored₁
    refine hwindow.bind h₁ fun inside w₂ h₂ hin => ?_
    obtain ⟨_, hstored₂⟩ := hin
    cases inside with
    | false => exact upholds_unhandled hstored₂
    | true =>
      have hgrace := upholds_reads (D := D) (H := H) (calls_graceExchange rec input)
        (graceExchange_returns rec input) hstored₂
      refine hgrace.bind h₂ fun r w₃ h₃ hr => ?_
      obtain ⟨hgrace, hstored₃⟩ := hr
      -- a failed check inside the window is a replay, an expired record is not
      have hreplay : Rotates D H (GraceLeaves D e input)
          (do return some (← e.replayed input.token)) w₃ :=
        ((upholds_replayed h₃ htoken hstored₃).frame (fun _ _ hG => Stored.stable hG)
          hstored₃).bind h₃ fun a w₄ _ ha => upholds_handled ha.1 ha.2
      cases r with
      | ok ex =>
        refine upholds_handled ⟨fun hr => (by cases hr), fun ex' hex' hno => ?_⟩ hstored₃
        cases hex'
        rw [hgrace ex rfl] at hno
        cases hno
      | error err =>
        cases err with
        | tokenExpired => exact upholds_handled (leaves_error (by decide) w₃) hstored₃
        | _ => exact hreplay

lemma upholds_exchangeWithoutRotation (htoken : input.token ≠ "")
    (hrotation : e.rotationDisabled = true) :
    Rotates D H (Leaves D e input) (e.exchangeWithoutRotation input) w := by
  refine upholds_find fun w₁ hG h₁ => ?_
  cases hfind : find D w₁.clock w₁.store input.token with
  | error err =>
    cases err with
    | notFound => exact upholds_answer (leaves_error (by decide) w₁)
    | _ => exact upholds_answer (leaves_error (by simp) w₁)
  | ok rec =>
    obtain ⟨row, hrow, rfl⟩ := find_ok hfind
    have hstored : Stored (D.hashKey input.token) w₁ := ⟨row, hrow, trivial⟩
    dsimp only
    by_cases hused : (row.presentedAs input.token).consumedAt ≠ none ∨
        (row.presentedAs input.token).revoked = true
    · rw [if_pos hused]
      exact upholds_replayed h₁ htoken hstored
    · rw [if_neg hused]
      have hcheck := upholds_reads (D := D) (H := H)
        (calls_checkRecord (row.presentedAs input.token) input) (checkRecord_returns _ input)
          hstored
      refine hcheck.bind h₁ fun r w₂ h₂ hr => ?_
      obtain ⟨⟨hno, _⟩, _⟩ := hr
      refine upholds_answer ⟨fun hreplay => absurd hreplay hno, fun _ _ _ hrot => ?_⟩
      rw [hrotation] at hrot
      cases hrot

lemma consume_failed {err : StoreError} (h : (consume D now s id).2 = .failed err) :
    err = .notFound := by
  simp only [consume] at h
  cases hrow : s.m.lookup (D.hashKey id) with
  | none =>
    rw [hrow] at h
    cases h
    rfl
  | some row =>
    rw [hrow] at h
    dsimp only at h
    split_ifs at h
    · cases h
      rfl
    · cases h
      rfl
    · cases hcons : row.consumedAt with
      | none => simp [hcons] at h
      | some t => simp [hcons] at h

lemma consume_consumed {rec : RefreshToken} (h : (consume D now s id).2 = .consumed rec) :
    rec.id = id ∧ ∃ row, (consume D now s id).1.m.lookup (D.hashKey id) = some row ∧
      row.consumedAt.isSome = true ∧ rec = row.presentedAs id := by
  rcases consume_cases (D := D) now s id with
    ⟨e, heq⟩ | ⟨row, _, _, _, ⟨t, _, heq⟩ | ⟨_, heq⟩⟩
  · simp [heq] at h
  · simp [heq] at h
  · rw [heq] at h ⊢
    cases h
    exact ⟨rfl, row.stampConsumed now, by rw [lookup_insert_ite, if_pos rfl], rfl, rfl⟩

lemma consume_replayed {rec : RefreshToken} (h : (consume D now s id).2 = .alreadyConsumed rec) :
    ∃ row, (consume D now s id).1.m.lookup (D.hashKey id) = some row := by
  rcases consume_cases (D := D) now s id with
    ⟨e, heq⟩ | ⟨row, hrow, _, _, ⟨t, _, heq⟩ | ⟨_, heq⟩⟩
  · simp [heq] at h
  · exact ⟨row, by rw [heq]; exact hrow⟩
  · simp [heq] at h

lemma upholds_consume {A : Type} {Q : A → World → Prop} {k : ConsumeResult RefreshToken → Program A}
    (hk : ∀ w' : World, Lineage D H (consume D w'.clock w'.store id).1 →
      Rotates D H Q (k (consume D w'.clock w'.store id).2)
        ⟨(consume D w'.clock w'.store id).1, w'.clock⟩) :
    Rotates D H Q (ask (.consume id) >>= k) w :=
  upholds_ask (o := .consume id) rfl fun w' _ _ _ _ h => hk w' h

lemma upholds_exchange (w : World) : Rotates D H (Leaves D e input) (e.exchange input) w := by
  unfold Exchanger.exchange
  split_ifs with htoken hrotation
  · exact upholds_answer (leaves_error (by decide) w)
  · exact upholds_exchangeWithoutRotation htoken hrotation
  refine upholds_consume fun w₁ h₂ => ?_
  cases hreply : (consume D w₁.clock w₁.store input.token).2 with
  | consumed rec =>
    obtain ⟨hid, row, hrow, hcons, rfl⟩ := consume_consumed hreply
    have hne : (row.presentedAs input.token).consumedAt ≠ none :=
      Option.isSome_iff_ne_none.mp hcons
    dsimp only
    rw [if_neg hne]
    have hcalls := upholds_harmless (D := D) (H := H)
      ((calls_checkRecord (row.presentedAs input.token) input).mono harmless_of_reads)
      ⟨(consume D w₁.clock w₁.store input.token).1, w₁.clock⟩
    -- whatever part of the scope the checks grant, the row stays the one handed out
    have hknown : ∀ scope, scope ⊆ row.scope →
        Known (HandedOut (exchangedFrom (row.presentedAs input.token) scope))
          (D.hashKey input.token) ⟨(consume D w₁.clock w₁.store input.token).1, w₁.clock⟩ :=
      fun scope hscope => ⟨row, hrow, hcons, scope, hscope, rfl⟩
    have hcheck := (hcalls.returns (checkRecord_returns _ input)).frame
      (F := fun w => ∀ scope, scope ⊆ row.scope →
        Known (HandedOut (exchangedFrom (row.presentedAs input.token) scope))
          (D.hashKey input.token) w)
      (fun _ _ hG h scope hscope => Known.moves hG (fun _ _ => HandedOut.evolves) (h scope hscope))
      hknown
    refine hcheck.bind h₂ fun r w₃ _ hr => ?_
    obtain ⟨⟨_, hno, hex⟩, hknown⟩ := hr
    refine upholds_answer ⟨fun hreplay => absurd hreplay hno, fun ex hok _ _ => ?_⟩
    obtain ⟨hclient, scope, hscope, rfl⟩ := hex ex hok
    exact ⟨⟨htoken, hknown scope hscope⟩, rfl, hclient⟩
  | alreadyConsumed rec =>
    obtain ⟨row, hrow⟩ := consume_replayed hreply
    refine (upholds_tryGrace htoken ⟨row, hrow, trivial⟩).bind h₂ fun out w₃ h₃ hout => ?_
    obtain ⟨hleaves, hstored⟩ := hout
    cases out with
    | some handled => exact upholds_answer (hleaves handled rfl)
    | none => exact upholds_replayed h₃ htoken hstored
  | failed err =>
    cases consume_failed hreply
    exact upholds_answer (leaves_error (by decide) _)

/-! ### Sessions -/

end

/-- One client: the token it presents, and the input of the successor it has
issued when the exchange succeeds. -/
structure Session where
  exchanger : Exchanger
  issuer : Issuer
  input : ExchangeInput
  fresh : Fresh
  rotate : Exchanged → IssueInput

structure Outcome where
  session : Session
  answer : Answer
  issued : Option (Except RefreshError String)

/-- Unless the exchange failed or answered from the grace window, the successor
is issued. -/
def Session.proceed (x : Session) (a : Answer) : Program Outcome :=
  match a.result with
  | .error _ => pure ⟨x, a, none⟩
  | .ok ex =>
    if ex.inGrace ∨ x.exchanger.rotationDisabled then pure ⟨x, a, none⟩
    else do
      let issued ← x.issuer.issue x.fresh (x.rotate ex)
      pure ⟨x, a, some issued⟩

def Session.run (x : Session) : Program Outcome := x.exchanger.exchange x.input >>= x.proceed

def Session.Rotates (x : Session) : Prop := ∀ ex, (x.rotate ex).parentID = some ex.consumedID

/-- The successor stays with the client and the grant of the consumed token. -/
def Session.StaysInGrant (x : Session) : Prop :=
  ∀ ex, (x.rotate ex).clientID = ex.clientID ∧ (x.rotate ex).grantID = ex.grantID

/-- What happens around the sessions: time passes, a chain is started by an
issue that names no parent, or somebody revokes. -/
inductive Surroundings where
  | tick (elapsed : ℕ)
  | root (issuer : Issuer) (fresh : Fresh) (now : Time) (input : IssueInput)
  | revokeChain (ρ : KeyOrder) (rootID : String)
  | revokeByGrant (ρ : KeyOrder) (grantID : String)

def Surroundings.apply (D : KeyDigest) : Surroundings → World → World
  | .tick elapsed, w => ⟨w.store, w.clock + elapsed⟩
  | .root issuer fresh now input, w =>
    match validateIssue input with
    | .error _ => w
    | .ok () => ⟨(save D w.store (some (issuer.record fresh now input))).1, w.clock⟩
  | .revokeChain ρ rootID, w =>
    ⟨(RefreshTokenStore.revokeChain D ρ w.clock w.store rootID).1, w.clock⟩
  | .revokeByGrant ρ grantID, w =>
    ⟨RefreshTokenStore.revokeByGrant ρ w.clock w.store grantID, w.clock⟩

def Surroundings.Rootless : Surroundings → Prop
  | .root _ _ _ input => input.parentID = none
  | _ => True

section
variable {D : KeyDigest} {H : Heritage} {w : World}

/-- A record was stored under the digest of an id, as the successor of its
parent. -/
def SavedUnder (D : KeyDigest) (parentID : Option String) (id : String) (w : World) : Prop :=
  Known (fun row => row.parentID = parentID) (D.hashKey id) w

lemma SavedUnder.stable {parentID : Option String} {id : String} {w' : World}
    (hG : (rotation D H).G w w') (h : SavedUnder D parentID id w) : SavedUnder D parentID id w' :=
  Known.moves hG (fun _ _ hev hp => (RowEvolves.parentID hev).trans hp) h

lemma upholds_issue {i : Issuer} {fresh : Fresh} {input : IssueInput}
    (hsucc : ∀ now w', (rotation D H).G w w' → Succeeds D H w'.store (i.record fresh now input)) :
    Rotates D H
      (fun r w => ∀ token, r = .ok token → SavedUnder D input.parentID token w)
      (i.issue fresh input) w := by
  unfold Issuer.issue Issuer.prepare
  cases validateIssue input with
  | error err => exact upholds_ret fun _ _ _ token htoken => by cases htoken
  | ok _ =>
    refine upholds_now fun w₁ hG₁ _ => ?_
    refine upholds_saving (o := .save (i.record fresh w₁.clock input)) rfl
      (fun w' hG => hsucc w₁.clock w' ((rotation D H).trans hG₁ hG)) fun w₂ ρ => ?_
    cases hreply : (handle D ρ (.save (i.record fresh w₁.clock input)) w₂).2 with
    | error err => exact upholds_ret fun _ _ _ token htoken => by cases htoken
    | ok _ =>
      refine upholds_ret fun w₃ hG₃ _ token htoken => ?_
      cases htoken
      have hsaved : SavedUnder D input.parentID (i.record fresh w₁.clock input).id
          (handle D ρ (.save (i.record fresh w₁.clock input)) w₂).1 :=
        ⟨_, lookup_save hreply, rfl⟩
      exact hsaved.stable hG₃

lemma succeeds_root {i : Issuer} {fresh : Fresh} {now : Time} {input : IssueInput}
    (hroot : input.parentID = none) (s : RefreshStore) :
    Succeeds D H s (i.record fresh now input) where
  unrevoked := rfl
  named h := by
    change input.parentID = some "" at h
    rw [hroot] at h
    cases h
  parent p hp := by
    change input.parentID = some p at hp
    rw [hroot] at hp
    cases hp

lemma surroundings_disciplined {u : Surroundings} (hroot : u.Rootless) (h : Lineage D H w.store) :
    (rotation D H).Inv (u.apply D w) ∧ (rotation D H).G w (u.apply D w) := by
  cases u with
  | tick elapsed => exact ⟨h, .refl w.store, by simp [Surroundings.apply]⟩
  | root issuer fresh now input =>
    dsimp only [Surroundings.apply]
    cases validateIssue input with
    | error _ => exact ⟨h, (rotation D H).refl w⟩
    | ok _ => exact ⟨lineage_save h (succeeds_root hroot _), evolves_save w.store _, le_rfl⟩
  | revokeChain ρ rootID => exact handle_notSave (o := .revokeChain rootID) rfl ρ w h
  | revokeByGrant ρ grantID => exact handle_notSave (o := .revokeByGrant grantID) rfl ρ w h

end

abbrev Moves := List (Move KeyOrder Surroundings Session)

def refreshSystem (D : KeyDigest) :
    System World StoreCall StoreCall.Reply Outcome KeyOrder Surroundings Session where
  handle := handle D
  ambient := Surroundings.apply D
  program := Session.run

def start (clock : Time) : Config World StoreCall StoreCall.Reply Outcome :=
  ⟨⟨newRefreshStore, clock⟩, []⟩

/-- A run from the empty store. -/
abbrev refreshRun (D : KeyDigest) (clock : Time) := (refreshSystem D).execute (start clock)

/-! ### A chain of one rotation -/

/-- The successor takes over the grant of the consumed token. -/
def inPlace (ex : Exchanged) : IssueInput :=
  { (default : IssueInput) with
    clientID := ex.clientID, subject := ex.subject, grantID := ex.grantID, scope := ex.boundScope,
    origin := ex.origin, parentID := some ex.consumedID }

def presenting (graceTTL : Time) (successor : String) : Session where
  exchanger := newExchanger ⟨graceTTL, false, false⟩
  issuer := newIssuer ⟨100⟩
  input := ⟨"a", "c", []⟩
  fresh := ⟨successor, "x"⟩
  rotate := inPlace

/-- The chain is started by an authorization code of the grant "g". -/
def opening : IssueInput :=
  { (default : IssueInput) with
    clientID := "c", subject := "u", grantID := "g", scope := ["o"], origin := .authCode }

/-- The chain of "a", rotated to "b" half way through the life of "a". -/
def rotated (graceTTL : Time) : Moves :=
  [.ambient (.root (newIssuer ⟨100⟩) ⟨"a", "x"⟩ 1 opening), .ambient (.tick 49),
    .start (presenting graceTTL "b")] ++
  List.replicate 4 (.act 0 ascending)

lemma presenting_rotates (graceTTL : Time) (successor : String) :
    (presenting graceTTL successor).Rotates := fun _ => rfl

lemma presenting_staysInGrant (graceTTL : Time) (successor : String) :
    (presenting graceTTL successor).StaysInGrant := fun _ => ⟨rfl, rfl⟩

end OidcProvider.RefreshSessions
