import OidcProvider.RefreshGrant
import OidcProvider.RotationLineage

/-!
# What the cascade after a replay achieves

Between two calls of the cascade other parties rotate, revoke and let time
pass. `rotation` is the discipline they keep to: the lineage of the store, rows
that only move forward, a clock that does not go back. Under it a walk towards
the root only ever returns a record above the presented one, so revoking from
there, or the whole grant, revokes the presented record. Only when the record
itself has expired does the cascade find nothing, and then it says so.
-/
namespace OidcProvider.ReplayCascade
open FiniteMaps SecondaryIndexes StoreRecords RefreshTokenStore RotationLineage ResumptionPrograms
open ChainRetirement RefreshGrant

/-- Lineage is kept, and between two calls rows only evolve. -/
def rotation (D : KeyDigest) (H : Heritage) : Discipline World where
  Inv w := Lineage D H w.store
  G w w' := Evolves w.store w'.store ∧ w.clock ≤ w'.clock
  refl w := ⟨.refl w.store, le_refl w.clock⟩
  trans h₁ h₂ := ⟨h₁.1.trans h₂.1, le_trans h₁.2 h₂.2⟩

/-- The outline of a program over the refresh-token store. -/
abbrev Rotates (D : KeyDigest) (H : Heritage) {A : Type} (Q : A → World → Prop) (p : Program A)
    (w : World) : Prop :=
  Upholds (handle D) (rotation D H) Q p w

def saved : StoreCall → Option RefreshToken
  | .save token => some token
  | .saveRotationWithRetry token _ => some token
  | _ => none

def NotSave (o : StoreCall) : Prop := saved o = none

/-- Neither saves nor consumes. -/
def Harmless : StoreCall → Prop
  | .save _ => False
  | .saveRotationWithRetry _ _ => False
  | .consume _ => False
  | _ => True

def Reads : StoreCall → Prop
  | .find _ => True
  | .now => True
  | _ => False

lemma harmless_of_reads (o : StoreCall) (h : Reads o) : Harmless o := by
  cases o <;> first | exact h | trivial

lemma notSave_of_harmless (o : StoreCall) (h : Harmless o) : NotSave o := by
  cases o <;> first | exact h.elim | rfl

section
variable {D : KeyDigest} {H : Heritage} {w w' : World} {id key grantID : String} {A : Type}
  {Q : A → World → Prop} {o : StoreCall} {k : o.Reply → Program A} {row : RefreshToken}

lemma handle_disciplined (ρ : KeyOrder) (o : StoreCall) (h : Lineage D H w.store)
    (hsave : ∀ token, saved o = some token → Succeeds D H w.store token) :
    (rotation D H).Inv (handle D ρ o w).1 ∧ (rotation D H).G w (handle D ρ o w).1 := by
  cases o with
  | find id => exact ⟨h, (rotation D H).refl w⟩
  | now => exact ⟨h, (rotation D H).refl w⟩
  | consume id =>
    exact ⟨lineage_consume h w.clock id, (stamps_consume w.clock w.store id).evolves, le_rfl⟩
  | save token =>
    exact ⟨lineage_save h (hsave token rfl), evolves_save w.store (some token), le_rfl⟩
  | saveRotationWithRetry token contents =>
    exact ⟨lineage_saveRotationWithRetry h ρ w.clock (hsave token rfl) contents,
      evolves_saveRotationWithRetry ρ w.clock w.store (some token) contents, le_rfl⟩
  | revokeChain rootID =>
    exact ⟨lineage_revokeChain h ρ w.clock rootID,
      (stamps_revokeChain ρ w.clock w.store rootID).evolves, le_rfl⟩
  | revokeByGrant grantID =>
    exact ⟨lineage_revokeByGrant h ρ w.clock grantID,
      (stamps_revokeByGrant ρ w.clock w.store grantID).evolves, le_rfl⟩

lemma handle_notSave (ho : NotSave o) (ρ : KeyOrder) (w : World) (h : (rotation D H).Inv w) :
    (rotation D H).Inv (handle D ρ o w).1 ∧ (rotation D H).G w (handle D ρ o w).1 := by
  refine handle_disciplined ρ o h fun token htoken => ?_
  rw [ho] at htoken
  cases htoken

lemma upholds_ask (ho : NotSave o) (hk : ∀ w', (rotation D H).G w w' → Lineage D H w'.store → ∀ ρ,
      (rotation D H).G w' (handle D ρ o w').1 → Lineage D H (handle D ρ o w').1.store →
        Rotates D H Q (k (handle D ρ o w').2) (handle D ρ o w').1) :
    Rotates D H Q (ask o >>= k) w := by
  intro w' hG hInv ρ
  obtain ⟨hnext, hmove⟩ := handle_notSave ho ρ w' hInv
  exact ⟨hnext, hmove, hk w' hG hInv ρ hmove hnext⟩

lemma upholds_saving {token : RefreshToken} (ho : saved o = some token)
    (hsucc : ∀ w', (rotation D H).G w w' → Succeeds D H w'.store token)
    (hk : ∀ w' ρ, Rotates D H Q (k (handle D ρ o w').2) (handle D ρ o w').1) :
    Rotates D H Q (ask o >>= k) w := by
  intro w' hG hInv ρ
  obtain ⟨hnext, hmove⟩ := handle_disciplined ρ o hInv fun token' htoken' => by
    rw [ho, Option.some.injEq] at htoken'
    exact htoken' ▸ hsucc w' hG
  exact ⟨hnext, hmove, hk w' ρ⟩

lemma upholds_find {k : Fallible RefreshToken → Program A}
    (hk : ∀ w', (rotation D H).G w w' → Lineage D H w'.store →
      Rotates D H Q (k (find D w'.clock w'.store id)) w') :
    Rotates D H Q (ask (.find id) >>= k) w :=
  upholds_ask (o := .find id) rfl fun w' hG h _ _ _ => hk w' hG h

lemma upholds_now {k : Time → Program A} (hk : ∀ w', (rotation D H).G w w' → Lineage D H w'.store →
      Rotates D H Q (k w'.clock) w') :
    Rotates D H Q (ask .now >>= k) w :=
  upholds_ask (o := .now) rfl fun w' hG h _ _ _ => hk w' hG h

lemma upholds_harmless {p : Program A} (hp : p.Calls Harmless) (w : World) :
    Rotates D H (fun _ _ => True) p w :=
  upholds_of_calls (fun o ho ρ w => handle_notSave (notSave_of_harmless o ho) ρ w) hp w

lemma upholds_ret {a : A} (h : ∀ w', (rotation D H).G w w' → Lineage D H w'.store → Q a w') :
    Rotates D H Q (.ret a) w :=
  h

/-! ### Facts that stay -/

def Known (P : RefreshToken → Prop) (key : String) (w : World) : Prop :=
  ∃ row, w.store.m.lookup key = some row ∧ P row

lemma Known.moves {P P' : RefreshToken → Prop} (hG : (rotation D H).G w w')
    (hP : ∀ row row', RowEvolves row row' → P row → P' row') (h : Known P key w) :
    Known P' key w' := by
  obtain ⟨row, hrow, hp⟩ := h
  obtain ⟨row', hrow', hev⟩ := hG.1 key row hrow
  exact ⟨row', hrow', hP row row' hev hp⟩

def Stored (key : String) (w : World) : Prop := Known (fun _ => True) key w

def Revoked (key : String) (w : World) : Prop := Known (fun row => row.revoked = true) key w

def InGrant (grantID key : String) (w : World) : Prop :=
  Known (fun row => row.grantID = grantID) key w

/-- The row is stored and `Find` does not hand it out any more. -/
def Expired (key : String) (w : World) : Prop :=
  Known (fun row => isExpiredStrict row.expiresAt w.clock = true) key w

lemma Stored.stable (hG : (rotation D H).G w w') (h : Stored key w) : Stored key w' :=
  Known.moves hG (fun _ _ _ h => h) h

lemma Revoked.stable (hG : (rotation D H).G w w') (h : Revoked key w) : Revoked key w' :=
  Known.moves hG (fun _ _ hev => hev.revoked) h

lemma InGrant.stable (hG : (rotation D H).G w w') (h : InGrant grantID key w) :
    InGrant grantID key w' :=
  Known.moves hG (fun _ _ hev hg => (RowEvolves.grantID hev).trans hg) h

lemma Expired.stable (hG : (rotation D H).G w w') (h : Expired key w) : Expired key w' := by
  refine Known.moves hG (fun row row' hev hexp => ?_) h
  rw [RowEvolves.expiresAt hev]
  exact isExpiredStrict_mono hexp hG.2

/-! ### The walk -/

/-- An id whose record has the key below it. -/
def Above (D : KeyDigest) (key id : String) (w : World) : Prop :=
  id ≠ "" ∧ Descends w.store.byParent (D.hashKey id) key

lemma Above.stable (h : Lineage D H w.store) (h' : Lineage D H w'.store)
    (hG : (rotation D H).G w w') (ha : Above D key id w) : Above D key id w' :=
  ⟨ha.1, Descends.mono h.wellFormed h'.wellFormed hG.1 ha.2⟩

lemma find_ok {now : Time} {s : RefreshStore} {rec : RefreshToken} (h : find D now s id = .ok rec) :
    ∃ row, s.m.lookup (D.hashKey id) = some row ∧ rec = row.presentedAs id := by
  simp only [find] at h
  cases hrow : s.m.lookup (D.hashKey id) with
  | none => simp [hrow] at h
  | some row =>
    rw [hrow] at h
    dsimp only at h
    split_ifs at h
    cases h
    exact ⟨row, rfl, rfl⟩

lemma find_error {now : Time} {s : RefreshStore} (hs : WellFormed D s)
    (hrow : s.m.lookup (D.hashKey id) = some row) {err : StoreError}
    (h : find D now s id = .error err) :
    err = .notFound ∧ isExpiredStrict row.expiresAt now = true := by
  simp only [find, hrow, hs.ids _ row hrow, ne_eq, not_true_eq_false, ↓reduceIte] at h
  split_ifs at h with hexp
  cases h
  exact ⟨rfl, hexp⟩

/-- The walk from an id above the key: what it returns is above the key. The
deepest node resolved so far is carried along. -/
theorem upholds_findRootFrom (hops : ℕ) (firstHop : Bool) (current clientID deepest : String)
    (w : World) (h : Lineage D H w.store) (hcurrent : Above D key current w)
    (hdeepest : deepest ≠ "" → Above D key deepest w) :
    Rotates D H (fun r w => ∀ rootID, r = .found rootID → Above D key rootID w)
      (findRootFrom hops firstHop current clientID deepest) w := by
  induction hops generalizing firstHop current clientID deepest w with
  | zero => exact upholds_ret fun w' _ _ rootID hr => by cases hr
  | succ hops ih =>
    refine upholds_find fun w' hG h' => ?_
    have hcurrent' := hcurrent.stable h h' hG
    cases hfind : find D w'.clock w'.store current with
    | error err =>
      refine upholds_ret fun w'' hG' h'' rootID hr => ?_
      unfold findRootErrorOutcome at hr
      split_ifs at hr with hd
      cases hr
      exact ((hdeepest hd).stable h h' hG).stable h' h'' hG'
    | ok rec =>
      obtain ⟨row, hrow, rfl⟩ := find_ok hfind
      dsimp only
      by_cases hclient : clientID ≠ "" ∧ (row.presentedAs current).clientID ≠ clientID
      · rw [if_pos hclient]
        exact upholds_ret fun w'' _ _ rootID hr => by cases hr
      · rw [if_neg hclient]
        cases hparent : (row.presentedAs current).parentID with
        | none =>
          refine upholds_ret fun w'' hG' h'' rootID hr => ?_
          cases hr
          exact hcurrent'.stable h' h'' hG'
        | some parentID =>
          -- the parent's key lists this record, which has the key below it
          have hlink : D.hashKey current ∈ w'.store.byParent.ids (D.hashKey parentID) :=
            (mem_byParent_iff h'.wellFormed _ _).mpr ⟨row, parentID, hrow, hparent, rfl⟩
          have hnamed : parentID ≠ "" := by
            rintro rfl
            exact h'.named _ row hrow hparent
          exact ih _ _ _ _ w' h' ⟨hnamed, .head hlink hcurrent'.2⟩ fun _ => hcurrent'

lemma upholds_findRoot (limit : ℕ) (h : Lineage D H w.store) (hid : id ≠ "") :
    Rotates D H
      (fun r w => ∀ rootID, r = .found rootID → Above D (D.hashKey id) rootID w)
      (findRoot id limit) w := by
  unfold findRoot
  split_ifs
  · exact upholds_ret fun w' _ _ rootID hr => by cases hr
  · exact upholds_findRootFrom limit true id "" "" w h ⟨hid, .refl⟩ fun hne => absurd rfl hne

lemma find_expired (h : Expired (D.hashKey id) w) :
    find D w.clock w.store id = .error .notFound := by
  obtain ⟨row, hrow, hexp⟩ := h
  simp [find, hrow, hexp]

lemma upholds_findRoot_expired {limit : ℕ} (hexp : Expired (D.hashKey id) w) :
    Rotates D H (fun r _ => r = .unresolved none) (findRoot id limit) w := by
  unfold findRoot
  split_ifs with hstart
  · exact upholds_ret fun _ _ _ => rfl
  · cases limit with
    | zero => exact upholds_ret fun _ _ _ => rfl
    | succ hops =>
      refine upholds_find fun w' hG _ => ?_
      rw [find_expired (hexp.stable hG)]
      exact upholds_ret fun _ _ _ => rfl

/-! ### The retirement -/

lemma revoked_revokeByGrant (h : Lineage D H w.store) (hne : grantID ≠ "")
    (hgrant : InGrant grantID key w) (ρ : KeyOrder) :
    Revoked key (handle D ρ (.revokeByGrant grantID) w).1 := by
  obtain ⟨row, hrow, hg⟩ := hgrant
  have hlisted : key ∈ w.store.byGrant.ids grantID :=
    (h.wellFormed.listed .grant key grantID).mpr ⟨hne, row, hrow, hg⟩
  refine ⟨markRevoked w.clock row, ?_, rfl⟩
  change (RefreshTokenStore.revokeByGrant ρ w.clock w.store grantID).m.lookup key = _
  rw [RefreshTokenStore.revokeByGrant, if_neg hne, lookup_revokeByIndex, if_pos hlisted, hrow,
    Option.map_some]

lemma revoked_revokeChain {rootID : String} (habove : Above D key rootID w) (hkey : Stored key w)
    (ρ : KeyOrder) (hok : (handle D ρ (.revokeChain rootID) w).2 = .ok ()) :
    Revoked key (handle D ρ (.revokeChain rootID) w).1 := by
  obtain ⟨row, hrow, _⟩ := hkey
  change (RefreshTokenStore.revokeChain D ρ w.clock w.store rootID).2 = .ok () at hok
  refine ⟨markRevoked w.clock row, ?_, rfl⟩
  change (RefreshTokenStore.revokeChain D ρ w.clock w.store rootID).1.m.lookup key = _
  simp only [RefreshTokenStore.revokeChain] at hok ⊢
  cases hroot : w.store.m.lookup (D.hashKey rootID) with
  | none => simp [hroot] at hok
  | some _ =>
    rw [(lookup_revokeChainLocked ρ w.clock w.store _ key).1 habove.2, hrow, Option.map_some]

lemma upholds_retireGrant (hne : grantID ≠ "") (hgrant : InGrant grantID key w) (out : Retirement) :
    Rotates D H (fun _ w => Revoked key w) (retireGrant grantID out) w := by
  unfold retireGrant
  rw [if_neg hne]
  refine upholds_ask (o := .revokeByGrant grantID) rfl fun w' hG h' ρ _ _ => ?_
  have hrev := revoked_revokeByGrant h' hne (hgrant.stable hG) ρ
  exact upholds_ret fun w'' hG' _ => hrev.stable hG'

/-- The record ends up revoked, by its chain or by its grant. -/
lemma upholds_retire (h : Lineage D H w.store) (hid : id ≠ "") (hne : grantID ≠ "")
    (hgrant : InGrant grantID (D.hashKey id) w) :
    Rotates D H (fun _ w => Revoked (D.hashKey id) w) (retire id grantID) w := by
  have hwalk := (upholds_findRoot chainWalkLimit h hid).frame
    (F := InGrant grantID (D.hashKey id)) (fun _ _ hG => InGrant.stable hG) hgrant
  refine hwalk.bind h fun r w₁ h₁ hr => ?_
  obtain ⟨habove, hgrant⟩ := hr
  cases r with
  | unresolved err => exact upholds_retireGrant hne hgrant _
  | found rootID =>
    refine upholds_ask (o := .revokeChain rootID) rfl fun w₂ hG h₂ ρ hmove h₃ => ?_
    have hgrant₂ := hgrant.stable hG
    have habove₂ := (habove rootID rfl).stable h₁ h₂ hG
    cases hreply : (handle D ρ (.revokeChain rootID) w₂).2 with
    | error e => exact upholds_retireGrant hne (hgrant₂.stable hmove) _
    | ok _ =>
      obtain ⟨row, hrow, _⟩ := hgrant₂
      have hrev := revoked_revokeChain habove₂ ⟨row, hrow, trivial⟩ ρ hreply
      exact upholds_ret fun w₄ hG' _ => hrev.stable hG'

/-- Started from an expired record without a grant, the retirement reports that
it had nothing to go by. -/
theorem upholds_retire_expired (h : Lineage D H w.store) (hexp : Expired (D.hashKey id) w) :
    Rotates D H
      (fun r _ => r = { rootUnresolved := true, grantUnresolved := true }) (retire id "") w := by
  refine (upholds_findRoot_expired hexp).bind h fun r w₁ h₁ hr => ?_
  subst hr
  exact upholds_ret fun _ _ _ => rfl

/-! ### The cascade -/

lemma calls_ask {P : StoreCall → Prop} (ho : P o) (hk : ∀ reply, (k reply).Calls P) :
    (ask o >>= k).Calls P :=
  ⟨ho, hk⟩

lemma calls_findRootFrom (hops : ℕ) (firstHop : Bool) (current clientID deepest : String) :
    (findRootFrom hops firstHop current clientID deepest).Calls Harmless := by
  induction hops generalizing firstHop current clientID deepest with
  | zero => trivial
  | succ hops ih =>
    refine calls_ask trivial fun reply => ?_
    cases reply with
    | error err => trivial
    | ok rec =>
      dsimp only
      by_cases hclient : clientID ≠ "" ∧ rec.clientID ≠ clientID
      · rw [if_pos hclient]
        trivial
      · rw [if_neg hclient]
        cases rec.parentID with
        | none => trivial
        | some parentID => exact ih _ _ _ _

lemma calls_retireGrant (grantID : String) (out : Retirement) :
    (retireGrant grantID out).Calls Harmless := by
  unfold retireGrant
  split_ifs
  · trivial
  · exact calls_ask trivial fun _ => trivial

lemma calls_retire (startID grantID : String) : (retire startID grantID).Calls Harmless := by
  unfold retire findRoot
  refine Prog.Calls.bind ?_ fun r => ?_
  · split_ifs
    · trivial
    · exact calls_findRootFrom _ _ _ _ _
  · cases r with
    | unresolved err => exact calls_retireGrant _ _
    | found rootID =>
      refine calls_ask trivial fun reply => ?_
      cases reply with
      | error e => exact calls_retireGrant _ _
      | ok _ => trivial

lemma calls_revokeChainBestEffort (id : String) : (revokeChainBestEffort id).Calls Harmless := by
  refine calls_ask trivial fun reply => ?_
  cases reply with
  | error err => exact (calls_retire id "").bind fun _ => trivial
  | ok rec => exact (calls_retire id _).bind fun _ => trivial

/-- The chain has no grant of its own to fall back on. -/
def Ungranted (row : RefreshToken) : Prop := row.grantID = "" ∨ row.origin = .customGrant

lemma Ungranted.evolves {row' : RefreshToken} (hev : RowEvolves row row') (h : Ungranted row) :
    Ungranted row' := by
  unfold Ungranted
  rwa [RowEvolves.grantID hev, RowEvolves.origin hev]

lemma upholds_retireRecord (h : Lineage D H w.store) (hid : id ≠ "")
    (hrow : w.store.m.lookup (D.hashKey id) = some row) :
    Rotates D H
      (fun _ w => Known (fun row => Ungranted row ∨ row.revoked = true) (D.hashKey id) w)
      (retireRecord id (row.presentedAs id)) w := by
  unfold retireRecord
  by_cases hforeign : Ungranted row
  · -- then nothing is claimed of the retirement but that it does no harm
    have hknown : Known Ungranted (D.hashKey id) w := ⟨row, hrow, hforeign⟩
    have hretire := upholds_harmless (D := D) (H := H)
      (calls_retire id (if joinsForeignGrant (row.presentedAs id) then "" else row.grantID)) w
    refine (hretire.frame (fun _ _ hG => Known.moves hG fun _ _ => Ungranted.evolves) hknown).imp
      fun _ w' _ hw' => ?_
    obtain ⟨row', hrow', hforeign'⟩ := hw'.2
    exact ⟨row', hrow', .inl hforeign'⟩
  · obtain ⟨hne, horigin⟩ := not_or.mp hforeign
    have hjoins : joinsForeignGrant (row.presentedAs id) = false := decide_eq_false horigin
    rw [hjoins]
    refine (upholds_retire h hid hne ⟨row, hrow, rfl⟩).imp fun _ w' _ hrev => ?_
    obtain ⟨row', hrow', hrev⟩ := hrev
    exact ⟨row', hrow', .inr hrev⟩

/-- The event of a cascade that found neither a chain nor a grant to revoke. -/
def grantLookupFailed : AuditEvent :=
  .chainRevokeFailed "refresh grant lookup failed after replay detection" "grant_lookup_failed"

/-- What a finished cascade has made of the presented record: it is revoked, or
the cascade had no grant to fall back on, or the record had expired under it
and the failure was reported. -/
def Settled (key : String) (events : List AuditEvent) (w : World) : Prop :=
  Known (fun row => (Ungranted row ∨ row.revoked = true) ∨
    (isExpiredStrict row.expiresAt w.clock = true ∧ grantLookupFailed ∈ events)) key w

lemma Settled.stable {events : List AuditEvent} (hG : (rotation D H).G w w')
    (h : Settled key events w) : Settled key events w' := by
  refine Known.moves hG (fun row row' hev hrow => ?_) h
  rw [RowEvolves.expiresAt hev]
  exact hrow.imp (Or.imp (Ungranted.evolves hev) hev.revoked)
    (And.imp_left (isExpiredStrict_mono · hG.2))

lemma upholds_revokeChainBestEffort (hid : id ≠ "") (hstored : Stored (D.hashKey id) w) :
    Rotates D H (fun out w => Settled (D.hashKey id) out.2 w)
      (revokeChainBestEffort id) w := by
  refine upholds_find fun w₁ hG h₁ => ?_
  obtain ⟨row, hrow, _⟩ := hstored.stable hG
  cases hfind : find D w₁.clock w₁.store id with
  | error err =>
    obtain ⟨rfl, hexp⟩ := find_error h₁.wellFormed hrow hfind
    have hexp : Expired (D.hashKey id) w₁ := ⟨row, hrow, hexp⟩
    have hretire := (upholds_retire_expired h₁ hexp).frame (fun _ _ hG => Expired.stable hG) hexp
    refine hretire.bind h₁ fun r w₂ h₂ hr => ?_
    obtain ⟨rfl, hexp₂⟩ := hr
    refine upholds_ret fun w₃ hG₃ _ => Settled.stable hG₃ ?_
    obtain ⟨row₂, hrow₂, hexp₂⟩ := hexp₂
    exact ⟨row₂, hrow₂, .inr ⟨hexp₂, by decide⟩⟩
  | ok rec =>
    obtain ⟨row₁, hrow₁, rfl⟩ := find_ok hfind
    refine (upholds_retireRecord h₁ hid hrow₁).bind h₁ fun r w₂ h₂ hr => ?_
    refine upholds_ret fun w₃ hG₃ _ => Settled.stable hG₃ ?_
    obtain ⟨row₂, hrow₂, hr⟩ := hr
    exact ⟨row₂, hrow₂, .inl hr⟩

end

end OidcProvider.ReplayCascade
