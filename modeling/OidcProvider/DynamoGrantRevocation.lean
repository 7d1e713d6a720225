import OidcProvider.DynamoWalks
import Mathlib.Tactic.Linarith

/-!
# A grant revocation without the indexes

Direct calls follow one another while time passes and DynamoDB reclaims what its TTL allows. A
grant revocation starts from the root list of the grant and follows the children, so it finds a
live token as long as the items that lead to it live as long as the token does: a root list ends
with its last root, and a rotation must not outlive its parent.
-/
namespace OidcProvider.DynamoGrantRevocation
open FiniteMaps StoreRecords ResumptionPrograms DynamoTables DynamoRefreshTokens DynamoWalks Prog

variable {D : TokenDigest}

/-! ### Between two calls -/

/-- Time passes, DynamoDB reclaims items, and an index comes up with some keys. -/
structure Lapse where
  elapsed : ℕ
  reclaimed : List Key
  hits : List String

def Lapse.pass (e : Lapse) (s : Database) : Database :=
  e.reclaimed.foldl (fun s key => reclaim key s) { s with now := s.now + e.elapsed }

/-- A call, after the lapse before it. -/
def lapsing (e : Lapse) (o : Call) (s : Database) : Database × Reply o := handle e.hits o (e.pass s)

def play (D : TokenDigest) (s : Database) : List (Op × (ℕ → Lapse)) → Database
  | [] => s
  | (op, es) :: rest => play D ((program D op).runAlone lapsing es s).1 rest

/-! ### Expiry and TTL -/

/-- The instant is one that `UnixNano` renders without wrapping around. -/
def Representable (t : Time) : Prop :=
  t = 0 ∨ -2 ^ 63 ≤ t - unixEpoch * Time.second ∧ t - unixEpoch * Time.second < 2 ^ 63

instance (t : Time) : Decidable (Representable t) :=
  inferInstanceAs (Decidable (_ ∨ _ ∧ _))

/-- Something that expires at `a` is alive whenever something that expires at `b` is. -/
def Outlasts (a b : Time) : Prop := a = 0 ∨ b ≠ 0 ∧ b ≤ a

instance (a b : Time) : Decidable (Outlasts a b) := inferInstanceAs (Decidable (_ ∨ _ ∧ _))

variable {s s' : Database} {t : RefreshToken} {grantID pk : String} {A : Type}
  {Q : A → Database → Prop} {p : Program A} {o : Call} {now : Time} {a b : Item}

lemma Outlasts.live {a b : Time} (h : Outlasts a b) (hlive : isExpiredStrict b now = false) :
    isExpiredStrict a now = false := by
  rw [← Bool.not_eq_true, isExpiredStrict_iff] at hlive ⊢
  rintro ⟨ha, hlt⟩
  rcases h with rfl | ⟨hb, hle⟩
  · exact ha rfl
  · exact hlive ⟨hb, lt_of_le_of_lt hle hlt⟩

lemma unix_mono {a b : Time} (h : a ≤ b) : unix a ≤ unix b :=
  sub_le_sub_right (Int.ediv_le_ediv (by norm_num) h) _

lemma expired_of_ttlPassed {t : Time} (h : ttlPassed now (avTTL t) = true) :
    isExpiredStrict t now = true := by
  unfold avTTL at h
  split_ifs at h with hzero
  · cases h
  · have hlt : unix t < unix now := by simpa [ttlPassed] using h
    refine (isExpiredStrict_iff t now).mpr ⟨hzero, ?_⟩
    by_contra hge
    exact absurd (unix_mono (not_lt.mp hge)) (not_le.mpr hlt)

lemma ttlPassed_mono {later : Time} {ttl : Option ℤ} (hle : now ≤ later)
    (h : ttlPassed now ttl = true) : ttlPassed later ttl = true := by
  cases ttl with
  | none => cases h
  | some second =>
    have hlt : second < unix now := by simpa [ttlPassed] using h
    simpa [ttlPassed] using lt_of_lt_of_le hlt (unix_mono hle)

lemma avTime_of_representable {t : Time} (h : Representable t) (hzero : t ≠ 0) :
    avTime t = t - unixEpoch * Time.second := by
  obtain ⟨hlow, hhigh⟩ := h.resolve_left hzero
  unfold avTime
  rw [if_neg hzero]
  exact Int.bmod_eq_of_le (by norm_num at *; linarith) (by norm_num at *; linarith)

lemma nanosToTime_avTime {t : Time} (h : Representable t) :
    nanosToTime (avTime t) = 0 ∨ nanosToTime (avTime t) = t := by
  by_cases hzero : t = 0
  · exact .inl (by simp [hzero, avTime, nanosToTime])
  · rw [avTime_of_representable h hzero]
    unfold nanosToTime
    split_ifs
    · exact .inl rfl
    · exact .inr (sub_add_cancel t _)

lemma live_root {t : Time} (h : Representable t) (hlive : isExpiredStrict t now = false) :
    isExpiredStrict (nanosToTime (avTime t)) now = false := by
  rcases nanosToTime_avTime h with hz | ht
  · rw [hz]
    rfl
  · rw [ht]
    exact hlive

lemma le_latestExpiry {roots : List (String × ℤ)} {latest last : Time}
    (h : latestExpiry roots latest = some last) :
    latest ≤ last ∧ ∀ root ∈ roots, nanosToTime root.2 ≠ 0 ∧ nanosToTime root.2 ≤ last := by
  induction roots generalizing latest with
  | nil =>
    cases h
    exact ⟨le_refl _, nofun⟩
  | cons root rest ih =>
    unfold latestExpiry at h
    split_ifs at h with hzero hlater
    · obtain ⟨hle, hrest⟩ := ih h
      exact ⟨hlater.le.trans hle, List.forall_mem_cons.mpr ⟨⟨hzero, hle⟩, hrest⟩⟩
    · obtain ⟨hle, hrest⟩ := ih h
      exact ⟨hle, List.forall_mem_cons.mpr ⟨⟨hzero, (not_lt.mp hlater).trans hle⟩, hrest⟩⟩

/-- A root list is not reclaimed before the last of its roots. -/
theorem root_expired {roots : List (String × ℤ)} {root : String × ℤ} (hroot : root ∈ roots)
    (h : ttlPassed now ((latestExpiry roots 0).bind avTTL) = true) :
    isExpiredStrict (nanosToTime root.2) now = true := by
  cases hlatest : latestExpiry roots 0 with
  | none =>
    rw [hlatest] at h
    cases h
  | some last =>
    rw [hlatest] at h
    obtain ⟨_, hle⟩ := le_latestExpiry hlatest
    have hlast := (isExpiredStrict_iff _ _).mp (expired_of_ttlPassed h)
    exact (isExpiredStrict_iff _ _).mpr
      ⟨(hle root hroot).1, lt_of_le_of_lt (hle root hroot).2 hlast.2⟩

/-! ### Reachable tokens -/

/-- The revocation of a grant comes to the token, over items that last as long as it does. -/
inductive Reached (s : Database) (grantID : String) : String → Prop
  | root {pk : String} {t : TokenItem} {l : RootList} (ht : s.token? pk = some t)
      (hl : s.items.lookup (.refresh (grantRootsKey grantID)) = some (.list l))
      (hroot : (pk, avTime t.doc.expiresAt) ∈ l.roots) : Reached s grantID pk
  | child {pk parent : String} {t p : TokenItem} (ht : s.token? pk = some t)
      (hp : s.token? parent = some p) (hgrant : p.grantID = grantID) (hmem : pk ∈ p.children)
      (hlasts : Outlasts p.doc.expiresAt t.doc.expiresAt) (h : Reached s grantID parent) :
      Reached s grantID pk

structure Reachable (D : TokenDigest) (s : Database) : Prop where
  keyed : ∀ pk t, s.token? pk = some t → ∃ id, pk = D.hashKey id
  placed : ∀ pk item, s.items.lookup (.refresh pk) = some item → s.token? pk = none →
    ∃ grantID, pk = grantRootsKey grantID
  timed : ∀ pk t, s.token? pk = some t →
    t.ttl = avTTL t.doc.expiresAt ∧ Representable t.doc.expiresAt
  listed : ∀ pk l, s.items.lookup (.refresh pk) = some (.list l) →
    l.ttl = (latestExpiry l.roots 0).bind avTTL
  reached : ∀ pk t, s.token? pk = some t → t.grantID ≠ "" →
    isExpiredStrict t.doc.expiresAt s.now = false → Reached s t.grantID pk

/-- What a live token is reached over is still there. -/
structure Sustains (s s' : Database) : Prop where
  clock : s.now ≤ s'.now
  token : ∀ pk t, s.token? pk = some t → isExpiredStrict t.doc.expiresAt s'.now = false →
    ∃ t', s'.token? pk = some t' ∧ t'.doc = t.doc ∧ t'.grantID = t.grantID ∧
      t.children ⊆ t'.children
  root : ∀ grantID l root, s.items.lookup (.refresh (grantRootsKey grantID)) = some (.list l) →
    root ∈ l.roots → isExpiredStrict (nanosToTime root.2) s'.now = false →
    ∃ l', s'.items.lookup (.refresh (grantRootsKey grantID)) = some (.list l') ∧ root ∈ l'.roots

lemma live_mono {t later : Time} (hle : now ≤ later) (h : isExpiredStrict t later = false) :
    isExpiredStrict t now = false := by
  rw [← Bool.not_eq_true] at h ⊢
  exact fun hexpired => h (isExpiredStrict_mono hexpired hle)

lemma Reached.sustained (hs : Reachable D s) (h : Sustains s s') (hreached : Reached s grantID pk)
    {t : TokenItem} (ht : s.token? pk = some t)
    (hlive : isExpiredStrict t.doc.expiresAt s'.now = false) : Reached s' grantID pk := by
  induction hreached generalizing t with
  | @root pk t₀ l ht₀ hl hroot =>
    rw [ht, Option.some.injEq] at ht₀
    subst ht₀
    obtain ⟨t', ht', hdoc, _⟩ := h.token pk t ht hlive
    obtain ⟨l', hl', hroot'⟩ := h.root _ l _ hl hroot (live_root (hs.timed pk t ht).2 hlive)
    exact .root ht' hl' (hdoc ▸ hroot')
  | @child pk parent t₀ p ht₀ hp hgrant hmem hlasts _ ih =>
    rw [ht, Option.some.injEq] at ht₀
    subst ht₀
    -- the parent lives at least as long
    have hparent : isExpiredStrict p.doc.expiresAt s'.now = false := hlasts.live hlive
    obtain ⟨t', ht', hdoc, _⟩ := h.token pk t ht hlive
    obtain ⟨p', hp', hpdoc, hpgrant, hsub⟩ := h.token parent p hp hparent
    exact .child ht' hp' (hpgrant.trans hgrant) (hsub hmem) (by rw [hpdoc, hdoc]; exact hlasts)
      (ih hp hparent)

/-! ### Marks -/

/-- What a revocation or a consumption changes in a token. -/
structure MarkedToken (t t' : TokenItem) : Prop where
  doc : t'.doc = t.doc
  ttl : t'.ttl = t.ttl
  grantID : t'.grantID = t.grantID
  children : t'.children = t.children
  revoked : t.revoked = true → t'.revoked = true

inductive Marks : Item → Item → Prop
  | same (item : Item) : Marks item item
  | token {t t' : TokenItem} (h : MarkedToken t t') : Marks (.token t) (.token t')

lemma MarkedToken.refl (t : TokenItem) : MarkedToken t t := ⟨rfl, rfl, rfl, rfl, id⟩

lemma Marks.trans {c : Item} (h : Marks a b) (h' : Marks b c) : Marks a c := by
  cases h with
  | same => exact h'
  | token h =>
    cases h' with
    | same => exact .token h
    | token h' =>
      exact .token ⟨h'.doc.trans h.doc, h'.ttl.trans h.ttl, h'.grantID.trans h.grantID,
        h'.children.trans h.children, h'.revoked ∘ h.revoked⟩

lemma Marks.ttl (h : Marks a b) : b.ttl = a.ttl := by
  cases h with
  | same => rfl
  | token h => exact h.ttl

lemma Marks.token_right {t' : TokenItem} (h : Marks a (.token t')) :
    ∃ t, a = .token t ∧ MarkedToken t t' := by
  cases h with
  | same => exact ⟨t', rfl, MarkedToken.refl t'⟩
  | token h => exact ⟨_, rfl, h⟩

lemma Marks.token_left {t : TokenItem} (h : Marks (.token t) b) :
    ∃ t', b = .token t' ∧ MarkedToken t t' := by
  cases h with
  | same => exact ⟨t, rfl, MarkedToken.refl t⟩
  | token h => exact ⟨_, rfl, h⟩

lemma Marks.list_right {l : RootList} (h : Marks a (.list l)) : a = .list l := by
  cases h
  rfl

lemma Marks.list_left {l : RootList} (h : Marks (.list l) b) : b = .list l := by
  cases h
  rfl

/-- Time passes, items are reclaimed, and tokens are revoked or consumed. -/
structure Marked (s s' : Database) : Prop where
  clock : s.now ≤ s'.now
  kept : ∀ pk item', s'.items.lookup (.refresh pk) = some item' →
    ∃ item, s.items.lookup (.refresh pk) = some item ∧ Marks item item'
  gone : ∀ pk item, s.items.lookup (.refresh pk) = some item →
    s'.items.lookup (.refresh pk) = none → ttlPassed s'.now item.ttl = true

lemma Marked.refl (s : Database) : Marked s s := by
  refine ⟨le_refl _, fun _ item' h => ⟨item', h, .same item'⟩, fun _ _ h hnone => ?_⟩
  rw [h] at hnone
  cases hnone

lemma Marked.trans {s₁ s₂ s₃ : Database} (h : Marked s₁ s₂) (h' : Marked s₂ s₃) :
    Marked s₁ s₃ := by
  refine ⟨h.clock.trans h'.clock, fun pk item₃ h₃ => ?_, fun pk item₁ h₁ hnone => ?_⟩
  · obtain ⟨item₂, h₂, hmarks'⟩ := h'.kept pk item₃ h₃
    obtain ⟨item₁, h₁, hmarks⟩ := h.kept pk item₂ h₂
    exact ⟨item₁, h₁, hmarks.trans hmarks'⟩
  · cases h₂ : s₂.items.lookup (.refresh pk) with
    | none => exact ttlPassed_mono h'.clock (h.gone pk item₁ h₁ h₂)
    | some item₂ =>
      obtain ⟨item, hitem, hmarks⟩ := h.kept pk item₂ h₂
      rw [h₁, Option.some.injEq] at hitem
      subst hitem
      rw [← hmarks.ttl]
      exact h'.gone pk item₂ h₂ hnone

lemma Marked.token (h : Marked s s') {t' : TokenItem} (ht' : s'.token? pk = some t') :
    ∃ t, s.token? pk = some t ∧ MarkedToken t t' := by
  obtain ⟨item, hitem, hmarks⟩ := h.kept pk _ (Database.token?_eq_some.mp ht')
  obtain ⟨t, rfl, ht⟩ := hmarks.token_right
  exact ⟨t, Database.token?_eq_some.mpr hitem, ht⟩

lemma Marked.sustains (hs : Reachable D s) (h : Marked s s') : Sustains s s' := by
  refine ⟨h.clock, fun pk t ht hlive => ?_, fun grantID l root hl hroot hlive => ?_⟩
  · have hlookup := Database.token?_eq_some.mp ht
    cases hitem : s'.items.lookup (.refresh pk) with
    | none =>
      have hpassed := h.gone pk _ hlookup hitem
      change ttlPassed s'.now t.ttl = true at hpassed
      rw [(hs.timed pk t ht).1] at hpassed
      rw [expired_of_ttlPassed hpassed] at hlive
      cases hlive
    | some item' =>
      obtain ⟨item, hold, hmarks⟩ := h.kept pk item' hitem
      rw [hlookup, Option.some.injEq] at hold
      subst hold
      obtain ⟨t', rfl, hmarked⟩ := hmarks.token_left
      exact ⟨t', Database.token?_eq_some.mpr hitem, hmarked.doc, hmarked.grantID,
        hmarked.children ▸ List.Subset.refl _⟩
  · cases hitem : s'.items.lookup (.refresh (grantRootsKey grantID)) with
    | none =>
      have hpassed := h.gone _ _ hl hitem
      change ttlPassed s'.now l.ttl = true at hpassed
      rw [hs.listed _ l hl] at hpassed
      rw [root_expired hroot hpassed] at hlive
      cases hlive
    | some item' =>
      obtain ⟨item, hold, hmarks⟩ := h.kept _ item' hitem
      rw [hl, Option.some.injEq] at hold
      subst hold
      rw [hmarks.list_left]
      exact ⟨l, rfl, hroot⟩

lemma Reachable.marked (hs : Reachable D s) (h : Marked s s') : Reachable D s' := by
  refine ⟨fun pk t' ht' => ?_, fun pk item' hitem' hnone => ?_, fun pk t' ht' => ?_,
    fun pk l hl => ?_, fun pk t' ht' hgrant hlive => ?_⟩
  · obtain ⟨t, ht, _⟩ := h.token ht'
    exact hs.keyed pk t ht
  · obtain ⟨item, hitem, hmarks⟩ := h.kept pk item' hitem'
    refine hs.placed pk item hitem ?_
    cases hmarks with
    | same => exact (congrArg (·.bind Item.token?) (hitem.trans hitem'.symm)).trans hnone
    | token _ => rw [Database.token?, hitem'] at hnone; cases hnone
  · obtain ⟨t, ht, hmarked⟩ := h.token ht'
    rw [hmarked.ttl, hmarked.doc]
    exact hs.timed pk t ht
  · obtain ⟨item, hitem, hmarks⟩ := h.kept pk _ hl
    rw [hmarks.list_right] at hitem
    exact hs.listed pk l hitem
  · obtain ⟨t, ht, hmarked⟩ := h.token ht'
    rw [hmarked.doc] at hlive
    rw [hmarked.grantID] at hgrant ⊢
    exact (hs.reached pk t ht hgrant (live_mono h.clock hlive)).sustained hs (h.sustains hs)
      ht hlive

lemma marked_reclaim (key : Key) (s : Database) : Marked s (reclaim key s) := by
  unfold reclaim
  split_ifs with hpassed
  · refine ⟨le_refl _, fun pk item' h => ⟨item', ?_, .same item'⟩, fun pk item h hnone => ?_⟩
    · rw [lookup_erase_ite] at h
      split_ifs at h
      exact h
    · rw [lookup_erase_ite] at hnone
      split_ifs at hnone with hkey
      · subst hkey
        simpa [h] using hpassed
      · rw [h] at hnone
        cases hnone
  · exact Marked.refl s

lemma marked_pass (e : Lapse) (s : Database) : Marked s (e.pass s) := by
  have hfold : ∀ (keys : List Key) (s : Database),
      Marked s (keys.foldl (fun s key => reclaim key s) s) := by
    intro keys
    induction keys with
    | nil => exact Marked.refl
    | cons key keys ih => exact fun s => (marked_reclaim key s).trans (ih _)
  have htick : Marked s { s with now := s.now + e.elapsed } :=
    ⟨le_add_of_nonneg_right (Int.natCast_nonneg _), (Marked.refl s).kept, fun pk item h hnone => by
      rw [h] at hnone
      cases hnone⟩
  exact htick.trans (hfold e.reclaimed _)

lemma marked_modify {pk : String} {f : TokenItem → TokenItem} (hf : ∀ t, MarkedToken t (f t)) :
    Marked s { s with items := modify (Item.modify f) s.items (.refresh pk) } := by
  refine ⟨le_refl _, fun k item' h => ?_, fun k item h hnone => ?_⟩
  · rw [lookup_modify] at h
    split_ifs at h
    · obtain ⟨item, hitem, rfl⟩ := Option.map_eq_some_iff.mp h
      refine ⟨item, hitem, ?_⟩
      cases item with
      | token t => exact .token (hf t)
      | list l => exact .same _
      | grant g => exact .same _
      | cascade => exact .same _
    · exact ⟨item', h, .same item'⟩
  · rw [lookup_modify, h] at hnone
    split_ifs at hnone
    cases hnone

lemma Quiet.marked (ho : Quiet o) (hits : List String) (s : Database) :
    Marked s (handle hits o s).1 := by
  cases ho with
  | clock => exact Marked.refl s
  | getItem key => exact Marked.refl s
  | query index value => exact Marked.refl s
  | revoke pk grantID =>
    simp only [handle]
    split_ifs
    · exact marked_modify fun t => ⟨rfl, rfl, rfl, rfl, fun _ => rfl⟩
    · exact Marked.refl s
  | stampConsumed pk consumedAt =>
    simp only [handle]
    split_ifs
    · exact marked_modify fun t => ⟨rfl, rfl, rfl, rfl, id⟩
    · exact Marked.refl s

/-- The moves of methods that insert nothing. -/
def discipline (D : TokenDigest) : Discipline Database where
  Inv := Reachable D
  G := Marked
  refl := Marked.refl
  trans := Marked.trans

lemma upholds_call (ho : Quiet o) {k : Reply o → Program A}
    (hk : ∀ s' hits, Marked s s' → Reachable D s' →
      Upholds handle (discipline D) Q (k (handle hits o s').2) (handle hits o s').1) :
    Upholds handle (discipline D) Q (perform o >>= k) s := by
  intro s' hG hInv hits
  have hmarked := Quiet.marked ho hits s'
  exact ⟨Reachable.marked hInv hmarked, hmarked, hk s' hits hG hInv⟩

lemma upholds_quiet (hp : p.Calls Quiet) (s : Database) :
    Upholds handle (discipline D) (fun _ _ => True) p s :=
  upholds_of_calls (fun _ ho hits s hInv =>
    ⟨Reachable.marked hInv (Quiet.marked ho hits s), Quiet.marked ho hits s⟩) hp s

lemma runAlone_of_upholds (hp : Upholds handle (discipline D) Q p s) (hs : Reachable D s)
    (es : ℕ → Lapse) :
    Reachable D (p.runAlone lapsing es s).1 ∧ Marked s (p.runAlone lapsing es s).1 ∧
      Q (p.runAlone lapsing es s).2 (p.runAlone lapsing es s).1 :=
  hp.runAlone Lapse.hits
    (fun e s hInv => ⟨Reachable.marked hInv (marked_pass e s), marked_pass e s⟩)
    hs es

/-! ### The walk over a grant -/

/-- If the token belongs to the grant, it is revoked and its children are among `cs`. -/
def Handled (s : Database) (grantID : String) (cs : List String) (k : String) : Prop :=
  ∀ t, s.token? k = some t → t.grantID = grantID →
    t.revoked = true ∧ ∀ c ∈ t.children, c ≠ "" → c ∈ cs

lemma Handled.marked {cs : List String} {k : String} (hG : Marked s s')
    (h : Handled s grantID cs k) : Handled s' grantID cs k := by
  intro t' ht' hgrant
  obtain ⟨t, ht, hmarked⟩ := hG.token ht'
  obtain ⟨hrevoked, hsub⟩ := h t ht (hmarked.grantID ▸ hgrant)
  exact ⟨hmarked.revoked hrevoked, hmarked.children ▸ hsub⟩

lemma Handled.mono {cs cs' : List String} {k : String} (hsub : ∀ c ∈ cs, c ≠ "" → c ∈ cs')
    (h : Handled s grantID cs k) : Handled s grantID cs' k := by
  intro t ht hgrant
  obtain ⟨hrevoked, hcs⟩ := h t ht hgrant
  exact ⟨hrevoked, fun c hc hne => hsub c (hcs c hc hne) hne⟩

lemma revokeOne_upholds (hgrantID : grantID ≠ "") (k : String) (instant : Time) (s : Database) :
    Upholds handle (discipline D) (fun children s' => Handled s' grantID children k)
      (revokeOne k grantID instant) s := by
  refine upholds_call (.revoke _ _) fun s₁ hits _ _ => ?_
  by_cases hrevocable : revocable grantID (s₁.items.lookup (.refresh k)) = true
  · obtain ⟨t, ht⟩ : ∃ t, s₁.token? k = some t := by
      cases hitem : s₁.items.lookup (.refresh k) with
      | none => simp [hitem, revocable] at hrevocable
      | some item =>
        cases item with
        | token t => exact ⟨t, Database.token?_eq_some.mpr hitem⟩
        | list l => simp [hitem, revocable, Item.grantID, hgrantID, hgrantID.symm] at hrevocable
        | grant g => simp [hitem, revocable, Item.grantID, hgrantID, hgrantID.symm] at hrevocable
        | cascade => simp [hitem, revocable, Item.grantID, hgrantID, hgrantID.symm] at hrevocable
    have hlookup := Database.token?_eq_some.mp ht
    rw [hlookup] at hrevocable
    have hreply : (handle hits (.revoke k grantID) s₁).2 = some (t.consumedAt, t.children) := by
      simp [handle, hlookup, hrevocable, Item.consumedAt, Item.children]
    have htoken : (handle hits (.revoke k grantID) s₁).1.token? k = some t.revoke := by
      simp [handle, hlookup, hrevocable, token?_modify, ht]
    have hhandled : Handled (handle hits (.revoke k grantID) s₁).1 grantID t.children k := by
      intro t' ht' _
      rw [htoken, Option.some.injEq] at ht'
      subst ht'
      exact ⟨rfl, fun c hc _ => hc⟩
    rw [hreply]
    generalize (handle hits (.revoke k grantID) s₁).1 = s₂ at hhandled
    dsimp only
    split_ifs
    · refine upholds_call (.stampConsumed _ _) fun s₃ hits hG _ => ?_
      exact fun s₄ hG₄ _ => ((hhandled.marked hG).marked
        (Quiet.marked (.stampConsumed _ _) hits s₃)).marked hG₄
    · exact fun s₃ hG _ => hhandled.marked hG
  · -- nothing of the grant is stored there
    have hreply : (handle hits (.revoke k grantID) s₁).2 = none := by
      simp [handle, hrevocable]
    have hsame : (handle hits (.revoke k grantID) s₁).1 = s₁ := by
      simp [handle, hrevocable]
    rw [hreply, hsame]
    intro s₂ hG _
    refine Handled.marked hG fun t ht hgrant => absurd ?_ hrevocable
    simp [Database.token?_eq_some.mp ht, revocable, Item.grantID, hgrant]

/-- The visits of a grant revocation. Any key may be visited. -/
def visiting (D : TokenDigest) {grantID : String} (hgrantID : grantID ≠ "") (instant : Time) :
    Visiting (discipline D) grantID false instant where
  Known _ _ := True
  Done s cs k := Handled s grantID cs k
  known_stable _ _ := trivial
  done_stable hG := Handled.marked hG
  done_mono := Handled.mono
  done_known _ := trivial
  visit _ := (revokeOne_upholds hgrantID _ instant _).imp fun _ _ _ h => ⟨h, fun _ _ => trivial⟩
  index _ _ := fun _ _ _ _ _ => trivial

lemma Reached.handled {ks : List String} (hs : Reachable D s)
    (hdone : ∀ k ∈ ks, Handled s grantID ks k)
    (hroots : ∀ l root, s.items.lookup (.refresh (grantRootsKey grantID)) = some (.list l) →
      root ∈ l.roots → root.1 ≠ "" → root.1 ∈ ks) (h : Reached s grantID pk) : pk ∈ ks := by
  have hne : ∀ {pk t}, s.token? pk = some t → pk ≠ "" := fun ht => by
    obtain ⟨id, rfl⟩ := hs.keyed _ _ ht
    exact D.hashKey_ne_empty id
  induction h with
  | root ht hl hroot => exact hroots _ _ hl hroot (hne ht)
  | child ht hp hgrant hmem _ _ ih => exact (hdone _ ih _ hp hgrant).2 _ hmem (hne ht)

lemma revokeByGrant_upholds (hgrantID : grantID ≠ "") (fuel : ℕ) (s : Database) :
    Upholds handle (discipline D)
      (fun result s' => result = .done → ∀ pk t, s'.token? pk = some t → t.grantID = grantID →
        isExpiredStrict t.doc.expiresAt s'.now = false → t.revoked = true)
      (revokeByGrant fuel grantID) s := by
  unfold revokeByGrant
  rw [if_neg hgrantID]
  refine upholds_call (.getItem _) fun s₁ hits₁ _ _ => ?_
  refine upholds_call (.query _ _) fun s₂ hits₂ hG₂ _ => ?_
  refine upholds_call .clock fun s₃ hits₃ hG₃ hs₃ => ?_
  have hstart :
      ∀ k ∈ (rootsOf (handle hits₁ (.getItem (.refresh (grantRootsKey grantID))) s₁).2).map
      Prod.fst ++ (handle hits₂ (.query .byGrant grantID) s₂).2,
      (visiting D hgrantID s₃.now).Known s₃ k := fun _ _ => trivial
  refine (Visiting.walk_upholds fuel hs₃ (Visiting.progress_start hstart)).frame
    (F := fun s => Marked s₁ s) (fun _ _ hG hF => hF.trans hG)
    (Marked.trans hG₂ hG₃) |>.bind hs₃ fun finished s₄ hs₄ hwalk => ?_
  intro s₅ hG₅ hs₅ hdone pk t ht hgrant hlive
  cases finished with
  | false => cases hdone
  | true =>
    obtain ⟨ks, hsub, hhandled⟩ := hwalk.1 rfl
    have hhandled₅ : ∀ k ∈ ks, Handled s₅ grantID ks k :=
      fun k hk => Handled.marked hG₅ (hhandled k hk)
    have hreached : Reached s₅ grantID pk := hgrant ▸ hs₅.reached pk t ht (hgrant ▸ hgrantID) hlive
    refine (hhandled₅ pk (hreached.handled hs₅ hhandled₅ ?_) t ht hgrant).1
    -- the list is the one the walk has started from
    intro l root hl hroot hne
    obtain ⟨item, hitem, hmarks⟩ := (hwalk.2.trans hG₅).kept _ _ hl
    rw [hmarks.list_right] at hitem
    refine hsub (Walk.mem_visited_enqueue.mpr (.inr ⟨List.mem_append_left _ ?_, hne⟩))
    have hfound : (handle hits₁ (.getItem (.refresh (grantRootsKey grantID))) s₁).2 =
        some (.list l) := hitem
    rw [hfound]
    exact List.mem_map_of_mem hroot

/-! ### Saving -/

lemma Reachable.insert (hs : Reachable D s) (h : Sustains s s') (ht : Representable t.expiresAt)
    (hnew : s'.token? (D.hashKey t.id) = some (refreshItem D t))
    (hold : ∀ pk t', pk ≠ D.hashKey t.id → s'.token? pk = some t' → ∃ old, s.token? pk = some old ∧
      t'.doc = old.doc ∧ t'.ttl = old.ttl ∧ t'.grantID = old.grantID)
    (hplaced : ∀ pk item, s'.items.lookup (.refresh pk) = some item → s'.token? pk = none →
      ∃ grantID, pk = grantRootsKey grantID)
    (hlisted : ∀ pk l, s'.items.lookup (.refresh pk) = some (.list l) →
      l.ttl = (latestExpiry l.roots 0).bind avTTL)
    (hreached : t.grantID ≠ "" → isExpiredStrict t.expiresAt s'.now = false →
      Reached s' t.grantID (D.hashKey t.id)) : Reachable D s' := by
  refine ⟨fun pk t' ht' => ?_, hplaced, fun pk t' ht' => ?_, hlisted,
    fun pk t' ht' hgrant hlive => ?_⟩
  · by_cases hpk : pk = D.hashKey t.id
    · exact ⟨t.id, hpk⟩
    · obtain ⟨old, hold, _⟩ := hold pk t' hpk ht'
      exact hs.keyed pk old hold
  · by_cases hpk : pk = D.hashKey t.id
    · rw [hpk, hnew, Option.some.injEq] at ht'
      subst ht'
      exact ⟨rfl, ht⟩
    · obtain ⟨old, hold, hdoc, httl, _⟩ := hold pk t' hpk ht'
      rw [httl, hdoc]
      exact hs.timed pk old hold
  · by_cases hpk : pk = D.hashKey t.id
    · rw [hpk, hnew, Option.some.injEq] at ht'
      subst ht' hpk
      exact hreached hgrant hlive
    · obtain ⟨old, hold, hdoc, _, hgrantID⟩ := hold pk t' hpk ht'
      rw [hdoc] at hlive
      rw [hgrantID] at hgrant ⊢
      exact (hs.reached pk old hold hgrant (live_mono h.clock hlive)).sustained hs h hold hlive

lemma ensures_call {k : Reply o → Program A} (hs : Reachable D s)
    (hk : ∀ s' hits, Marked s s' → Reachable D s' →
      (k (handle hits o s').2).Ensures lapsing Q (handle hits o s').1) :
    (perform o >>= k).Ensures lapsing Q s :=
  Prog.ensures_call fun e => hk _ e.hits (marked_pass e s) (hs.marked (marked_pass e s))

lemma liveGrantRoots_ensures (hs : Reachable D s) (roots : List (String × ℤ)) :
    (liveGrantRoots roots).Ensures lapsing (fun live s' => Marked s s' ∧ Reachable D s' ∧
      ∀ root ∈ roots, root ∉ live → isExpiredStrict (nanosToTime root.2) s'.now = true) s := by
  induction roots generalizing s with
  | nil => exact Prog.ensures_ret ⟨Marked.refl s, hs, nofun⟩
  | cons root rest ih =>
    refine ensures_call hs fun s₁ hits hG₁ hs₁ => ?_
    refine (ih hs₁).bind fun live s₂ hpost => Prog.ensures_ret ?_
    obtain ⟨hG₂, hs₂, hdropped⟩ := hpost
    refine ⟨hG₁.trans hG₂, hs₂, fun x hx hnot => ?_⟩
    change x ∉ if isExpiredStrict (nanosToTime root.2) s₁.now then live else root :: live at hnot
    by_cases hexpired : isExpiredStrict (nanosToTime root.2) s₁.now = true
    · rw [if_pos hexpired] at hnot
      rcases List.mem_cons.mp hx with rfl | hx
      · exact isExpiredStrict_mono hexpired hG₂.clock
      · exact hdropped x hx hnot
    · rw [if_neg hexpired] at hnot
      rcases List.mem_cons.mp hx with rfl | hx
      · exact absurd List.mem_cons_self hnot
      · exact hdropped x hx fun hlive => hnot (List.mem_cons_of_mem _ hlive)

lemma list_unchanged (hs : Reachable D s) (hG : Marked s s')
    (h : (listGuard (s.items.lookup (.refresh (grantRootsKey grantID)))).holds
      (s'.items.lookup (.refresh (grantRootsKey grantID))) = true) :
    s'.items.lookup (.refresh (grantRootsKey grantID)) =
      s.items.lookup (.refresh (grantRootsKey grantID)) := by
  cases hitem' : s'.items.lookup (.refresh (grantRootsKey grantID)) with
  | none =>
    cases hitem : s.items.lookup (.refresh (grantRootsKey grantID)) with
    | none => rfl
    | some item => simp [hitem, hitem', listGuard, Guard.holds] at h
  | some item' =>
    obtain ⟨item, hitem, hmarks⟩ := hG.kept _ item' hitem'
    rw [hitem]
    cases hmarks with
    | same => rfl
    | token _ =>
      have hnone := Database.token?_roots hs.keyed grantID
      rw [Database.token?, hitem] at hnone
      cases hnone

lemma reachable_root {s₁ : Database} {live : List (String × ℤ)} (hs₁ : Reachable D s₁)
    (hG : Marked s₁ s) (ht : Representable t.expiresAt)
    (hdropped : ∀ root ∈ rootsOf (s₁.items.lookup (.refresh (grantRootsKey t.grantID))),
      root ∉ live → isExpiredStrict (nanosToTime root.2) s.now = true) (hits : List String) :
    Reachable D (handle hits (.write (rootWrites D t
      (s₁.items.lookup (.refresh (grantRootsKey t.grantID))) live)) s).1 := by
  have hs := hs₁.marked hG
  simp only [handle]
  rcases write_cases s.items (rootWrites D t
    (s₁.items.lookup (.refresh (grantRootsKey t.grantID))) live) with
      ⟨hsame, _⟩ | ⟨_, hholds, hdone⟩
  · rw [hsame]
    exact hs
  rw [hdone]
  have hfresh := insertToken_fresh (hholds _ List.mem_cons_self)
  have hlist := list_unchanged hs₁ hG (hholds _ (List.mem_cons_of_mem _ List.mem_cons_self))
  generalize s₁.items.lookup (.refresh (grantRootsKey t.grantID)) = found at *
  have htoken := token?_root (t := t) hs.keyed found live
  refine hs.insert ⟨le_refl _, fun pk old hold _ => ?_, fun grantID l root hl hroot hlive => ?_⟩ ht
    (by rw [htoken, if_pos rfl]) (fun pk t' hpk ht' => ?_) (fun pk item hitem hnone => ?_)
    (fun pk l hl => ?_) fun _ _ => ?_
  · refine ⟨old, ?_, rfl, rfl, List.Subset.refl _⟩
    rw [htoken, if_neg ?_]
    · exact hold
    · rintro rfl
      rw [Database.token?, hfresh] at hold
      cases hold
  · rw [lookup_root, if_neg (D.hashKey_ne_roots _ _).symm]
    split_ifs with hkey
    · -- the roots that are dropped have expired
      rw [hkey, hlist] at hl
      refine ⟨_, rfl, List.mem_append_left _ ?_⟩
      by_contra hnot
      rw [hdropped root (by rw [hl]; exact hroot) hnot] at hlive
      cases hlive
    · exact ⟨l, hl, hroot⟩
  · rw [htoken, if_neg hpk] at ht'
    exact ⟨t', ht', rfl, rfl, rfl⟩
  · rw [lookup_root] at hitem
    rw [htoken] at hnone
    split_ifs at hitem hnone with hk hk'
    · exact ⟨_, hk'⟩
    · exact hs.placed pk item hitem hnone
  · rw [lookup_root] at hl
    split_ifs at hl
    · cases hl
    · cases hl
      rfl
    · exact hs.listed pk l hl
  · refine .root (by rw [htoken, if_pos rfl])
      (l := grantRootsItem D live t (listVersion found + 1)) ?_
      (List.mem_append_right _ (List.mem_singleton_self _))
    rw [lookup_root, if_neg (D.hashKey_ne_roots _ _).symm, if_pos rfl]

lemma putRootAndList_ensures (hs : Reachable D s) (ht : Representable t.expiresAt) :
    (putRootAndList D t).Ensures lapsing (fun _ s' => Reachable D s') s := by
  refine ensures_call hs fun s₁ hits hG₁ hs₁ => ?_
  refine (liveGrantRoots_ensures hs₁ _).bind fun live s₂ hpost => ?_
  obtain ⟨hG₂, hs₂, hdropped⟩ := hpost
  refine ensures_call hs₂ fun s₃ hits₃ hG₃ hs₃ => ?_
  have hnext := reachable_root hs₁ (hG₂.trans hG₃) ht
    (fun root hroot hnot => isExpiredStrict_mono (hdropped root hroot hnot) hG₃.clock) hits₃
  split
  · exact Prog.ensures_ret hnext
  · exact Prog.ensures_ret hnext
  · exact Prog.ensures_ret hnext

lemma attemptRoot_ensures (hs : Reachable D s) (ht : Representable t.expiresAt) (n : ℕ) :
    (attemptRoot D t n).Ensures lapsing (fun _ s' => Reachable D s') s := by
  induction n generalizing s with
  | zero => exact putRootAndList_ensures hs ht
  | succ n ih =>
    refine (putRootAndList_ensures hs ht).bind fun result s' hs' => ?_
    split
    · exact ih hs'
    · exact Prog.ensures_ret hs'

lemma reachable_insertToken (hs : Reachable D s) (ht : Representable t.expiresAt)
    (hgrant : t.grantID = "") (hits : List String) :
    Reachable D (handle hits (.write [insertToken D t]) s).1 := by
  simp only [handle]
  rcases write_cases s.items [insertToken D t] with ⟨hsame, _⟩ | ⟨_, hholds, hdone⟩
  · rw [hsame]
    exact hs
  rw [hdone]
  have hfresh := insertToken_fresh (hholds _ List.mem_cons_self)
  have htoken := token?_insertToken (D := D) (t := t) s
  refine hs.insert ⟨le_refl _, fun pk old hold _ => ?_, fun grantID l root hl hroot _ => ?_⟩ ht
    (by rw [htoken, if_pos rfl]) (fun pk t' hpk ht' => ?_) (fun pk item hitem hnone => ?_)
    (fun pk l hl => ?_) fun hne _ => absurd hgrant hne
  · refine ⟨old, ?_, rfl, rfl, List.Subset.refl _⟩
    rw [htoken, if_neg ?_]
    · exact hold
    · rintro rfl
      rw [Database.token?, hfresh] at hold
      cases hold
  · rw [lookup_insertToken, if_neg (D.hashKey_ne_roots _ _).symm]
    exact ⟨l, hl, hroot⟩
  · rw [htoken, if_neg hpk] at ht'
    exact ⟨t', ht', rfl, rfl, rfl⟩
  · rw [lookup_insertToken] at hitem
    rw [htoken] at hnone
    split_ifs at hitem hnone
    exact hs.placed pk item hitem hnone
  · rw [lookup_insertToken] at hl
    split_ifs at hl
    · cases hl
    · exact hs.listed pk l hl

lemma saveRoot_ensures (hs : Reachable D s) (ht : Representable t.expiresAt) :
    (saveRoot D t).Ensures lapsing (fun _ s' => Reachable D s') s := by
  unfold saveRoot
  split_ifs with hgrant
  · refine ensures_call hs fun s₁ hits _ hs₁ => ?_
    have hnext := reachable_insertToken hs₁ ht hgrant hits
    split
    · exact Prog.ensures_ret hnext
    · exact Prog.ensures_ret hnext
    · exact Prog.ensures_ret hnext
  · exact attemptRoot_ensures hs ht _

/-- The parent, if it is stored, is of the same grant and lasts as long. -/
def Fits (D : TokenDigest) (t : RefreshToken) (s : Database) : Prop :=
  ∀ parent, t.parentID = some parent → ∀ p, s.token? (D.hashKey parent) = some p →
    p.grantID = t.grantID ∧ Outlasts p.doc.expiresAt t.expiresAt

instance (t : RefreshToken) (s : Database) : Decidable (Fits D t s) :=
  decidable_of_iff (t.parentID.all fun parent => (s.token? (D.hashKey parent)).all fun p =>
      decide (p.grantID = t.grantID ∧ Outlasts p.doc.expiresAt t.expiresAt)) (by
    unfold Fits
    cases t.parentID with
    | none => simp
    | some parent => cases hp : s.token? (D.hashKey parent) <;> simp [hp])

lemma Fits.marked (hG : Marked s s') (h : Fits D t s) : Fits D t s' := by
  intro parent hparent p' hp'
  obtain ⟨p, hp, hmarked⟩ := hG.token hp'
  rw [hmarked.grantID, hmarked.doc]
  exact h parent hparent p hp

section
variable (hs : Reachable D s)
include hs

lemma reachable_rotation {parent : String} (hfits : Fits D t s)
    (ht : Representable t.expiresAt) (hparent : t.parentID = some parent) (retry : List UInt8)
    (hits : List String) :
    Reachable D (handle hits (.write (rotationWrites D t parent retry)) s).1 := by
  simp only [handle]
  rcases rotation_cases s.items t parent retry with hsame | ⟨hne, hfresh, hparent', hdone⟩
  · rw [hsame]
    exact hs
  rw [hdone]
  obtain ⟨item, hitem, _⟩ := hparent'
  obtain ⟨p, rfl, hp⟩ := Database.token?_of_lookup hs.placed hitem
  obtain ⟨hgrant, hlasts⟩ := hfits parent hparent p hp
  have htoken := token?_rotation hne retry s
  have hsustains : Sustains s
      { s with items := (rotationWrites D t parent retry).foldl applyAction s.items } := by
    refine ⟨le_refl _, fun pk old hold _ => ?_, fun grantID l root hl hroot _ => ?_⟩
    · rw [htoken]
      split_ifs with hpk hpk'
      · rw [hpk, Database.token?, hfresh] at hold
        cases hold
      · refine ⟨old.link (D.hashKey t.id) retry, by rw [hold, Option.map_some], rfl, rfl, ?_⟩
        exact fun c hc => mem_addChild.mpr (.inl hc)
      · exact ⟨old, hold, rfl, rfl, List.Subset.refl _⟩
    · rw [lookup_rotation hne, if_neg (D.hashKey_ne_roots _ _).symm,
        if_neg (D.hashKey_ne_roots _ _).symm]
      exact ⟨l, hl, hroot⟩
  refine hs.insert hsustains ht (by rw [htoken, if_pos rfl]) (fun pk t' hpk ht' => ?_)
    (fun pk item hitem' hnone => ?_) (fun pk l hl => ?_) fun hgrantID hlive => ?_
  · rw [htoken, if_neg hpk] at ht'
    split_ifs at ht'
    · obtain ⟨old, hold, rfl⟩ := Option.map_eq_some_iff.mp ht'
      exact ⟨old, hold, rfl, rfl, rfl⟩
    · exact ⟨t', ht', rfl, rfl, rfl⟩
  · rw [lookup_rotation hne] at hitem'
    rw [htoken] at hnone
    split_ifs at hitem' hnone with hk hk'
    · rw [hk', hp] at hnone
      cases hnone
    · exact hs.placed pk item hitem' hnone
  · rw [lookup_rotation hne] at hl
    split_ifs at hl with hk hk'
    · cases hl
    · rw [hk', hitem] at hl
      cases hl
    · exact hs.listed pk l hl
  · -- while the rotation is alive its parent is
    have hparent_live : isExpiredStrict p.doc.expiresAt s.now = false := hlasts.live hlive
    have hreached : Reached s t.grantID (D.hashKey parent) :=
      hgrant ▸ hs.reached _ p hp (hgrant ▸ hgrantID) hparent_live
    exact .child (t := refreshItem D t) (p := p.link (D.hashKey t.id) retry)
      (by rw [htoken, if_pos rfl])
      (by rw [htoken, if_neg hne.symm, if_pos rfl, hp, Option.map_some]) hgrant
      (mem_addChild.mpr (.inr rfl)) hlasts (hreached.sustained hs hsustains hp hparent_live)

lemma saveRotation_ensures {parent : String} (hfits : Fits D t s)
    (ht : Representable t.expiresAt) (hparent : t.parentID = some parent) :
    (saveRotation D t parent).Ensures lapsing (fun _ s' => Reachable D s') s := by
  refine ensures_call hs fun s₁ hits hG₁ hs₁ => ?_
  have hnext := reachable_rotation hs₁ (hfits.marked hG₁) ht hparent [] hits
  split
  · exact Prog.ensures_ret hnext
  · unfold rotationCanceled
    split_ifs
    · exact Prog.ensures_ret hnext
    · refine ensures_call hnext fun s₂ hits _ hs₂ => ?_
      split
      · exact saveRoot_ensures hs₂ ht
      · exact Prog.ensures_ret hs₂
  · exact Prog.ensures_ret hnext

lemma save_ensures (hfits : Fits D t s) (ht : Representable t.expiresAt) :
    (save D t).Ensures lapsing (fun _ s' => Reachable D s') s := by
  unfold save
  split
  · exact saveRoot_ensures hs ht
  · rename_i parent hparent
    exact saveRotation_ensures hs hfits ht hparent

lemma findByHandle_ensures (id : String) :
    (findByHandle D id).Ensures lapsing (fun _ s' => Reachable D s' ∧ Marked s s') s := by
  refine ensures_call hs fun s₁ hits hG₁ hs₁ => ?_
  split
  · exact Prog.ensures_ret ⟨hs₁, hG₁⟩
  · exact ensures_call hs₁ fun s₂ hits hG₂ hs₂ => Prog.ensures_ret ⟨hs₂, hG₁.trans hG₂⟩

lemma rotationRejected_ensures (parent : String) (failed : List Bool) :
    (rotationRejected D parent failed).Ensures lapsing
      (fun _ s' => Reachable D s' ∧ Marked s s') s := by
  unfold rotationRejected
  split_ifs
  · exact Prog.ensures_ret ⟨hs, Marked.refl s⟩
  · refine (findByHandle_ensures hs parent).bind fun found s' hpost => ?_
    split
    · exact Prog.ensures_ret hpost
    · exact Prog.ensures_ret hpost

lemma saveRotationWithRetry_ensures (hfits : Fits D t s)
    (ht : Representable t.expiresAt) (retry : List UInt8) :
    (saveRotationWithRetry D t retry).Ensures lapsing (fun _ s' => Reachable D s') s := by
  unfold saveRotationWithRetry
  split
  · exact Prog.ensures_ret hs
  rename_i parent hparent
  split_ifs
  · exact Prog.ensures_ret hs
  refine ensures_call hs fun s₁ hits hG₁ hs₁ => ?_
  have hnext := reachable_rotation hs₁ (hfits.marked hG₁) ht hparent retry hits
  split
  · exact Prog.ensures_ret hnext
  · rename_i failed hreply
    rw [handle_write_of_ne (by rw [hreply]; nofun)]
    refine (rotationRejected_ensures hs₁ parent failed).bind fun err s₂ hpost => ?_
    split
    · exact save_ensures hpost.1 ((hfits.marked hG₁).marked hpost.2) ht
    · exact Prog.ensures_ret hpost.1
  · exact Prog.ensures_ret hnext

end

/-! ### Histories -/

/-- What an operation may save: an expiry that can be rendered, and a rotation of its parent's
grant that does not outlive the parent. -/
def Orderly (D : TokenDigest) (s : Database) : Op → Prop
  | .save t => Representable t.expiresAt ∧ Fits D t s
  | .saveRotationWithRetry t _ => Representable t.expiresAt ∧ Fits D t s
  | _ => True

def OrderlyFrom (D : TokenDigest) (s : Database) : List (Op × (ℕ → Lapse)) → Prop
  | [] => True
  | (op, es) :: rest =>
    Orderly D s op ∧ OrderlyFrom D ((program D op).runAlone lapsing es s).1 rest

instance (s : Database) : (op : Op) → Decidable (Orderly D s op)
  | .save _ => inferInstanceAs (Decidable (_ ∧ _))
  | .saveRotationWithRetry _ _ => inferInstanceAs (Decidable (_ ∧ _))
  | .consume _ => .isTrue trivial
  | .revokeChain _ _ => .isTrue trivial

instance decidableOrderlyFrom : (s : Database) → (history : List (Op × (ℕ → Lapse))) →
    Decidable (OrderlyFrom D s history)
  | _, [] => .isTrue trivial
  | s, (op, es) :: rest =>
    @instDecidableAnd _ _ _
      (decidableOrderlyFrom ((program D op).runAlone lapsing es s).1 rest)

lemma reachable_quiet (hs : Reachable D s) (hp : p.Calls Quiet) :
    p.Ensures lapsing (fun _ s' => Reachable D s') s :=
  fun es => (runAlone_of_upholds (upholds_quiet hp s) hs es).1

lemma program_ensures (hs : Reachable D s) {op : Op} (h : Orderly D s op) :
    (program D op).Ensures lapsing (fun _ s' => Reachable D s') s := by
  cases op with
  | save t => exact (save_ensures hs h.2 h.1).bind fun _ _ hs' => Prog.ensures_ret hs'
  | saveRotationWithRetry t retry =>
    exact (saveRotationWithRetry_ensures hs h.2 h.1 retry).bind
      fun _ _ hs' => Prog.ensures_ret hs'
  | consume id =>
    exact (reachable_quiet hs (consume_quiet id)).bind fun _ _ hs' => Prog.ensures_ret hs'
  | revokeChain fuel rootID =>
    exact (reachable_quiet hs (revokeChain_quiet fuel rootID)).bind
      fun _ _ hs' => Prog.ensures_ret hs'

variable {history : List (Op × (ℕ → Lapse))}

lemma reachable_play (hs : Reachable D s)
    (h : OrderlyFrom D s history) : Reachable D (play D s history) := by
  induction history generalizing s with
  | nil => exact hs
  | cons entry rest ih => exact ih (program_ensures hs h.1 entry.2) h.2

lemma reachable_empty (now : Time) : Reachable D ⟨∅, now⟩ := by
  refine ⟨fun pk t ht => ?_, fun pk item hitem => ?_, fun pk t ht => ?_, fun pk l hl => ?_,
    fun pk t ht => ?_⟩
  · cases ht
  · cases hitem
  · cases ht
  · cases hl
  · cases ht

/-- After any history of orderly operations, a grant revocation that returns nil has revoked every
live token of the grant, whatever the indexes have come up with. -/
theorem grant_revocation_reaches_live_tokens {now : Time}
    (h : OrderlyFrom D ⟨∅, now⟩ history) {grantID : String} (hgrantID : grantID ≠ "") {fuel : ℕ}
    {es : ℕ → Lapse} {s : Database}
    (hrun : (revokeByGrant fuel grantID).runAlone lapsing es (play D ⟨∅, now⟩ history) =
      (s, .done)) :
    ∀ pk t, s.token? pk = some t → t.grantID = grantID →
      isExpiredStrict t.doc.expiresAt s.now = false → t.revoked = true := by
  have hs := reachable_play (reachable_empty now) h
  have hend := (runAlone_of_upholds (revokeByGrant_upholds hgrantID fuel _) hs es).2.2
  rw [hrun] at hend
  exact hend rfl

def granted (id : String) (parent : Option String) (second : ℤ) : RefreshToken :=
  { (default : RefreshToken) with
    id := id
    parentID := parent
    grantID := "g"
    expiresAt := (unixEpoch + second) * Time.second }

/-- Some seconds pass before each call, and DynamoDB tries to reclaim an item. -/
def waiting (seconds : ℕ) (pk : String) (_ : ℕ) : Lapse := ⟨seconds * 1000000000, [.refresh pk], []⟩

/-- "a" and its rotation "b" are saved, and "a" is consumed. -/
def rotated (second : ℤ) : List (Op × (ℕ → Lapse)) :=
  [(.save (granted "a" none 100), waiting 1 "#a"),
    (.saveRotationWithRetry (granted "b" (some "a") second) [1], waiting 1 "#a"),
    (.consume "a", waiting 1 "#a")]

/-- The table after these calls, and then after a revocation of the grant. -/
def revoked (second : ℤ) (seconds : ℕ) : Database × Revocation :=
  (revokeByGrant 3 "g").runAlone lapsing (waiting seconds "#a")
    (play plainTokenDigest ⟨∅, unixEpoch * Time.second⟩ (rotated second))

theorem grant_revocation_reaches_live_tokens_rotated :
    (revoked 90 1).2 = .done ∧ ∀ pk t, (revoked 90 1).1.token? pk = some t → t.grantID = "g" →
      isExpiredStrict t.doc.expiresAt (revoked 90 1).1.now = false → t.revoked = true := by
  have horderly : OrderlyFrom plainTokenDigest ⟨∅, unixEpoch * Time.second⟩ (rotated 90) := by
    decide +kernel
  have hdone : (revoked 90 1).2 = .done := by decide +kernel
  exact ⟨hdone, grant_revocation_reaches_live_tokens horderly (by decide) (Prod.ext rfl hdone)⟩

/-- A rotation that outlives its parent is lost to the revocation of its grant once DynamoDB has
reclaimed the parent. -/
theorem outliving_rotation_survives :
    ((play plainTokenDigest ⟨∅, unixEpoch * Time.second⟩ (rotated 500)).token? "#a").map
        (·.grantID) = some "g" ∧
      (revoked 500 100).2 = .done ∧
      ((revoked 500 100).1.token? "#b").map (fun t => (t.grantID, t.revoked)) =
        some ("g", false) ∧
      isExpiredStrict (granted "b" (some "a") 500).expiresAt (revoked 500 100).1.now = false := by
  decide +kernel

end OidcProvider.DynamoGrantRevocation
