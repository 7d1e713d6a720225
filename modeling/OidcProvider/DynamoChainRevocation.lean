import OidcProvider.DynamoLinks
import OidcProvider.DynamoWalks

/-!
# A chain revocation against concurrent rotations

Direct calls on the refresh table interleave at every DynamoDB call. The write which revokes a
token closes its children: what the walk reads in that write is all there will ever be. So the
walk ends with a set of keys that is closed under children for good, and every token whose
parent links lead to the root is in it.
-/
namespace OidcProvider.DynamoChainRevocation
open FiniteMaps StoreRecords ResumptionPrograms DynamoTables DynamoRefreshTokens DynamoLinks
  DynamoWalks Prog

variable {D : TokenDigest}

/-! ### The walk -/

/-- The token is revoked and consumed, and its children will never be others than `cs`. -/
def Retired (s : Database) (cs : List String) (k : String) : Prop :=
  (∃ t, s.token? k = some t ∧ t.revoked = true ∧ t.consumedAt ≠ 0 ∧
    ∀ c ∈ t.children, c ≠ "" → c ∈ cs) ∨ ∃ grantID, k = grantRootsKey grantID

variable {V : List String} {k : String} {c : State} {s s' : Database}

lemma Retired.kept {cs : List String} (hG : Kept s s') (h : Retired s cs k) :
    Retired s' cs k := by
  rcases h with ⟨t, ht, hrevoked, hconsumed, hsub⟩ | h
  · obtain ⟨t', ht', hgrown⟩ := hG k t ht
    exact .inl ⟨t', ht', hgrown.revoked hrevoked, hgrown.consumed hconsumed,
      fun c hc => hsub c (hgrown.closed hrevoked hc)⟩
  · exact .inr h

lemma Retired.mono {cs cs' : List String} (hsub : ∀ c ∈ cs, c ≠ "" → c ∈ cs')
    (h : Retired s cs k) : Retired s cs' k := by
  rcases h with ⟨t, ht, hrevoked, hconsumed, hcs⟩ | h
  · exact .inl ⟨t, ht, hrevoked, hconsumed, fun c hc hne => hsub c (hcs c hc hne) hne⟩
  · exact .inr h

lemma token?_stampConsumed {t : TokenItem} (ht : s.token? k = some t) (hits : List String)
    (consumedAt : ℤ) :
    (handle hits (.stampConsumed k consumedAt) s).1.token? k =
      some (if t.consumedAt = 0 then t.stamp consumedAt else t) := by
  have hlookup := Database.token?_eq_some.mp ht
  by_cases hzero : t.consumedAt = 0
  · simp [handle, hlookup, Item.consumedAt, hzero, token?_modify, ht]
  · simp [handle, hlookup, Item.consumedAt, hzero, ht]

lemma reply_roots (h : Linked D s) (hits : List String) (grantID : String) :
    (handle hits (.revoke (grantRootsKey grantID) "") s).2 = none ∨
      (handle hits (.revoke (grantRootsKey grantID) "") s).2 = some (0, []) := by
  have hnone := Database.token?_roots h.keyed grantID
  unfold Database.token? at hnone
  dsimp only [handle]
  cases hitem : s.items.lookup (.refresh (grantRootsKey grantID)) with
  | none => exact .inl rfl
  | some item =>
    rw [hitem] at hnone
    cases item with
    | token t => cases hnone
    | list l => exact .inr rfl
    | grant g => exact .inr rfl
    | cascade => exact .inr rfl

/-- The children come back from the write that closes them. -/
theorem revokeOne_upholds {instant : Time} (hinstant : avTime instant ≠ 0) (hk : Known s k) :
    Upholds handle (discipline D)
      (fun children s' => Retired s' children k ∧ ∀ c ∈ children, Known s' c)
      (revokeOne k "" instant) s := by
  refine upholds_call (.quiet (.revoke _ _)) fun s₁ hits hG hInv => ?_
  obtain ⟨hnext, _⟩ := revoke_disciplined hits k "" hInv
  rcases hk.kept hG with hk | ⟨grantID, rfl⟩
  · obtain ⟨t, ht⟩ := Option.isSome_iff_exists.mp hk
    have hlookup := Database.token?_eq_some.mp ht
    have hreply : (handle hits (.revoke k "") s₁).2 = some (t.consumedAt, t.children) := by
      simp [handle, hlookup, revocable, Item.consumedAt, Item.children]
    have htoken : (handle hits (.revoke k "") s₁).1.token? k = some t.revoke := by
      simp [handle, hlookup, revocable, token?_modify, ht]
    have hchildren : ∀ c ∈ t.children, Known (handle hits (.revoke k "") s₁).1 c :=
      fun c hc => .inl (hnext.1.children k _ htoken c hc)
    rw [hreply]
    generalize (handle hits (.revoke k "") s₁).1 = s₂ at htoken hchildren
    dsimp only
    split_ifs with hzero
    · refine upholds_call (.quiet (.stampConsumed _ _)) fun s₃ hits hG hInv => ?_
      obtain ⟨_, hmove⟩ := stampConsumed_disciplined hits k (avTime instant) hInv
      obtain ⟨t₃, ht₃, hgrown⟩ := hG k _ htoken
      have hretired :
          Retired (handle hits (.stampConsumed k (avTime instant)) s₃).1 t.children k := by
        refine .inl ⟨_, token?_stampConsumed ht₃ hits _, ?_, ?_, ?_⟩
        · split_ifs <;> exact hgrown.revoked rfl
        · split_ifs with hset
          · exact hinstant
          · exact hset
        · split_ifs <;> exact fun c hc _ => hgrown.closed rfl hc
      intro s₅ hG₅ _
      exact ⟨hretired.kept hG₅, fun c hc => ((hchildren c hc).kept hG).kept hmove |>.kept hG₅⟩
    · intro s₃ hG _
      exact ⟨Retired.kept hG (.inl ⟨_, htoken, rfl, hzero, fun c hc _ => hc⟩),
        fun c hc => (hchildren c hc).kept hG⟩
  · -- a root list has nothing to retire
    have hdone : ∀ s, Upholds handle (discipline D)
        (fun children s' => Retired s' children (grantRootsKey grantID) ∧
          ∀ c ∈ children, Known s' c) (.ret [] : Program (List String)) s :=
      fun _ _ _ _ => ⟨.inr ⟨grantID, rfl⟩, fun c hc => by cases hc⟩
    rcases reply_roots hInv.1 hits grantID with hreply | hreply
    · rw [hreply]
      exact hdone _
    · rw [hreply]
      exact upholds_call (.quiet (.stampConsumed _ _)) fun _ _ _ _ => hdone _

lemma indexedChildren_upholds (k : String) (s : Database) :
    Upholds handle (discipline D) (fun indexed s' => ∀ c ∈ indexed, Known s' c)
      (indexedChildren true k) s := by
  refine upholds_call (.quiet (.query _ _)) fun s₁ hits hG hInv => ?_
  intro s₂ hG₂ _ c hc
  refine Known.kept hG₂ (.inl ?_)
  have hlists := (List.mem_filter.mp hc).2
  cases hitem : s₁.items.lookup (.refresh c) with
  | none => simp [Index.lists, hitem] at hlists
  | some item =>
    cases item with
    | token t => exact Option.isSome_iff_exists.mpr ⟨t, Database.token?_eq_some.mpr hitem⟩
    | list l => simp [Index.lists, hitem, Index.attribute, Item.parentID] at hlists
    | grant g => simp [Index.lists, hitem, Index.attribute, Item.parentID] at hlists
    | cascade => simp [Index.lists, hitem, Index.attribute, Item.parentID] at hlists

lemma Retired.known {cs : List String} (h : Retired s cs k) : Known s k :=
  h.imp_left fun ⟨t, ht, _⟩ => Option.isSome_iff_exists.mpr ⟨t, ht⟩

def visiting (D : TokenDigest) {instant : Time} (hinstant : avTime instant ≠ 0) :
    Visiting (discipline D) "" true instant where
  Known := Known
  Done := Retired
  known_stable hG := Known.kept hG
  done_stable hG := Retired.kept hG
  done_mono := Retired.mono
  done_known := Retired.known
  visit := revokeOne_upholds hinstant
  index s k := indexedChildren_upholds k s

/-! ### The system of direct callers -/

abbrev State := Config Database Call Reply Answer

/-- A move of the system: the clock, the start of a method, or one DynamoDB call of a method
that is running, with the keys an index query comes up with. -/
abbrev Step := Move (List String) Time Op

/-- Any number of direct callers. Nothing is deleted. -/
def system (D : TokenDigest) : System Database Call Reply Answer (List String) Time Op where
  handle := handle
  ambient now s := { s with now := now }
  program := program D

/-- Every `ParentID` names a token that is stored by then. -/
def NamesParent (D : TokenDigest) (c : State) : Step → Prop
  | .start (.save t) => ParentStored D t c.shared
  | .start (.saveRotationWithRetry t _) => ParentStored D t c.shared
  | _ => True

/-- The clock is not set to an instant that `consumed_at` renders as unset. -/
def ClockSet : Step → Prop
  | .ambient now => avTime now ≠ 0
  | _ => True

instance (c : State) : (m : Step) → Decidable (NamesParent D c m)
  | .start (.save _) => inferInstanceAs (Decidable (ParentStored D _ c.shared))
  | .start (.saveRotationWithRetry _ _) => inferInstanceAs (Decidable (ParentStored D _ c.shared))
  | .start (.consume _) => .isTrue trivial
  | .start (.revokeChain _ _) => .isTrue trivial
  | .ambient _ => .isTrue trivial
  | .act _ _ => .isTrue trivial

instance : (m : Step) → Decidable (ClockSet m)
  | .ambient now => inferInstanceAs (Decidable (avTime now ≠ 0))
  | .start _ => .isTrue trivial
  | .act _ _ => .isTrue trivial

/-- The parent links of `k` lead to `root`. -/
inductive Leads (s : Database) (root : String) : String → Prop
  | root : Leads s root root
  | rotation {k : String} {t : TokenItem} (ht : s.token? k = some t) (hparent : t.parentID ≠ "")
      (h : Leads s root t.parentID) : Leads s root k

/-- A closed set of retired tokens takes in whatever leads to one of its members. -/
theorem Leads.mem {root k : String} (hs : Linked D s') (hG : Kept s s')
    (hV : ∀ k ∈ V, Retired s V k) (hroot : root ∈ V) (h : Leads s' root k) : k ∈ V := by
  induction h with
  | root => exact hroot
  | @rotation k t ht hparent _ ih =>
    obtain ⟨p', hp', hmem⟩ := hs.parent k t ht hparent
    have hk : Known s' k := .inl (Option.isSome_iff_exists.mpr ⟨t, ht⟩)
    rcases (hV _ ih) with ⟨p, hp, hrevoked, _, hsub⟩ | ⟨grantID, hroots⟩
    · -- the children of a revoked parent are those it had
      obtain ⟨p'', hp'', hgrown⟩ := hG _ p hp
      rw [hp', Option.some.injEq] at hp''
      subst hp''
      exact hsub k (hgrown.closed hrevoked hmem) (hs.ne_empty hk)
    · rw [hroots, Database.token?_roots hs.keyed grantID] at hp'
      cases hp'

/-- What a chain revocation that returns nil leaves behind: the keys it visited. -/
def Closed (V : List String) (s : Database) : Prop := ∀ k ∈ V, Retired s V k

lemma Closed.kept (hG : Kept s s') (h : Closed V s) : Closed V s' :=
  fun k hk => (h k hk).kept hG

/-- The key a handle stands for, for a revocation that starts on `s`. -/
def Resolves (D : TokenDigest) (s : Database) (rootID root : String) : Prop :=
  root = D.hashKey rootID ∨ root = rootID ∧ s.token? (D.hashKey rootID) = none

lemma resolveChainRoot_upholds (rootID : String) :
    Upholds handle (discipline D)
      (fun found s' => ∀ root, found = some root → Resolves D s rootID root ∧ Known s' root)
      (resolveChainRoot D rootID) s := by
  refine upholds_call (.quiet (.getItem _)) fun s₁ hits hG₁ hInv₁ => ?_
  dsimp only [handle]
  cases hitem : s₁.items.lookup (.refresh (D.hashKey rootID)) with
  | some item =>
    intro s₂ hG₂ _ root hroot
    cases hroot
    exact ⟨.inl rfl, (hInv₁.1.known hitem).kept hG₂⟩
  | none =>
    have hnone : s.token? (D.hashKey rootID) = none := by
      cases ht : s.token? (D.hashKey rootID) with
      | none => rfl
      | some t =>
        obtain ⟨t', ht', _⟩ := hG₁ _ t ht
        rw [Database.token?_eq_some, hitem] at ht'
        cases ht'
    refine upholds_call (.quiet (.getItem _)) fun s₂ hits _ hInv₂ => ?_
    intro s₃ hG₃ _ root hroot
    obtain ⟨item, hitem', rfl⟩ := Option.map_eq_some_iff.mp hroot
    exact ⟨.inr ⟨rfl, hnone⟩, (hInv₂.1.known hitem').kept hG₃⟩

lemma revokeChain_upholds (hs : (discipline D).Inv s) (fuel : ℕ) (rootID : String) :
    Upholds handle (discipline D)
      (fun result s' => result = .done →
        ∃ root V, Resolves D s rootID root ∧ root ∈ V ∧ Closed V s')
      (revokeChain D fuel rootID) s := by
  refine (resolveChainRoot_upholds (s := s) rootID).bind hs fun found s₁ hs₁ hpost => ?_
  cases found with
  | none => exact fun _ _ _ hdone => by cases hdone
  | some root =>
    obtain ⟨hresolves, hknown⟩ := hpost root rfl
    refine upholds_call (.quiet .clock) fun s₂ hits hG₂ hs₂ => ?_
    have hstart : ∀ k ∈ [root], (visiting D hs₂.2).Known s₂ k := fun k hk => by
      rw [List.mem_singleton.mp hk]
      exact hknown.kept hG₂
    refine (Visiting.walk_upholds fuel hs₂ (Visiting.progress_start hstart)).bind hs₂
      fun finished s₃ _ hwalk => ?_
    intro s₄ hG₄ _ hdone
    cases finished with
    | false => cases hdone
    | true =>
      obtain ⟨V, hsub, hclosed⟩ := hwalk rfl
      refine ⟨root, V, hresolves, hsub ?_, Closed.kept hG₄ hclosed⟩
      exact Walk.mem_visited_enqueue.mpr
        (.inr ⟨List.mem_singleton_self root, hs₁.1.ne_empty hknown⟩)

lemma findByCredential_upholds (hV : Closed V s) (id : String) :
    Upholds handle (discipline D)
      (fun found _ => ∀ rec, found = .ok rec →
        rec.id = id ∧ (D.hashKey id ∈ V → rec.consumedAt.isSome = true))
      (findByCredential D id) s := by
  refine upholds_call (.quiet (.getItem _)) fun s₁ hits hG hInv => ?_
  intro _ _ _ rec hrec
  dsimp only [handle] at hrec
  cases hitem : s₁.items.lookup (.refresh (D.hashKey id)) with
  | none =>
    rw [hitem] at hrec
    cases hrec
  | some item =>
    obtain ⟨t, rfl, ht⟩ := Database.token?_of_lookup hInv.1.listed hitem
    rw [hitem] at hrec
    cases hrec
    refine ⟨rfl, fun hmem => ?_⟩
    rcases (hV.kept hG) _ hmem with ⟨t', ht', _, hconsumed, _⟩ | ⟨grantID, hroots⟩
    · rw [ht, Option.some.injEq] at ht'
      subst ht'
      simp [record, optionalTime, hconsumed]
    · exact absurd hroots (D.hashKey_ne_roots id grantID)

lemma rejectedConsume_returns (id : String) :
    (rejectedConsume D id).Returns fun result => ∀ rec, result ≠ .consumed rec := by
  refine (returns_true (findByCredential D id)).bind fun found _ => ?_
  cases found with
  | error err => exact fun rec h => by cases h
  | ok rec => exact fun rec h => by cases h

lemma consume_upholds (hs : (discipline D).Inv s) (hV : Closed V s) (id : String) :
    Upholds handle (discipline D)
      (fun result _ => ∀ rec, result = .consumed rec → D.hashKey rec.id ∉ V) (consume D id) s := by
  refine (findByCredential_upholds hV id).bind hs fun found s₁ hs₁ hfound => ?_
  cases found with
  | error err => exact fun _ _ _ rec hrec => by cases hrec
  | ok rec =>
    obtain ⟨hid, hconsumed⟩ := hfound rec rfl
    refine upholds_call (.quiet .clock) fun s₂ hits _ hs₂ => ?_
    split_ifs with hexpired hset
    · exact fun _ _ _ rec hrec => by cases hrec
    · exact fun _ _ _ rec hrec => by cases hrec
    refine upholds_call (.quiet .clock) fun s₃ hits _ hs₃ => ?_
    refine upholds_call (.quiet (.stampConsumed _ _)) fun s₄ hits _ hs₄ => ?_
    split
    · intro _ _ _ rec' hrec'
      cases hrec'
      exact fun hmem => hset (hconsumed (hid ▸ hmem))
    · refine ((upholds_quiet (rejectedConsume_quiet id) _).returns
        (rejectedConsume_returns id)).imp fun result s' _ hQ rec' hrec' => ?_
      exact absurd hrec' (hQ.2 rec')

def Allowed (D : TokenDigest) (c : State) (m : Step) : Prop := NamesParent D c m ∧ ClockSet m

lemma ambient_disciplined {now : Time} (h : Allowed D c (.ambient now))
    (hs : (discipline D).Inv c.shared) :
    (discipline D).Inv ((system D).ambient now c.shared) ∧
      (discipline D).G c.shared ((system D).ambient now c.shared) :=
  ⟨⟨⟨hs.1.keyed, hs.1.listed, hs.1.parent, hs.1.children⟩, h.2⟩, (discipline D).refl c.shared⟩

lemma program_spares {op : Op} (h : Allowed D c (.start op)) (hs : (discipline D).Inv c.shared)
    (hV : Closed V c.shared) :
    Upholds handle (discipline D)
      (fun answer _ => ∀ rec, answer = .consumed (.consumed rec) → D.hashKey rec.id ∉ V)
      (program D op) c.shared := by
  cases op with
  | save t => exact (save_upholds h.1).bind hs fun _ _ _ _ _ _ _ rec hrec => by cases hrec
  | saveRotationWithRetry t retry =>
    exact (saveRotationWithRetry_upholds h.1 retry).bind hs
      fun _ _ _ _ _ _ _ rec hrec => by cases hrec
  | revokeChain fuel rootID =>
    exact (upholds_quiet (revokeChain_quiet fuel rootID) _).bind hs
      fun _ _ _ _ _ _ _ rec hrec => by cases hrec
  | consume id =>
    refine (consume_upholds hs hV id).bind hs fun result s' _ hspared => ?_
    intro _ _ _ rec hrec
    cases hrec
    exact hspared rec rfl

lemma program_upholds {op : Op} (h : Allowed D c (.start op)) (hs : (discipline D).Inv c.shared) :
    Upholds handle (discipline D) (fun _ _ => True) (program D op) c.shared :=
  -- nothing is to be spared where no key is retired
  (program_spares (V := []) h hs fun _ hk => absurd hk List.not_mem_nil).imp fun _ _ _ _ => trivial

lemma revoked_outlines {c₀ : State} {fuel : ℕ} {rootID : String} {during : List Step}
    (h₀ : Outlines (discipline D) handle (fun _ _ _ => True) c₀)
    (hduring : (system D).Admitted (Allowed D)
      ((system D).step c₀ (.start (.revokeChain fuel rootID))) during) :
    Outlines (discipline D) handle
      (fun i answer s => i = c₀.threads.length → answer = .revoked .done →
        ∃ root V, Resolves D c₀.shared rootID root ∧ root ∈ V ∧ Closed V s)
      ((system D).execute ((system D).step c₀ (.start (.revokeChain fuel rootID))) during) := by
  have hothers : Outlines (discipline D) (system D).handle
      (fun i answer s => i = c₀.threads.length → answer = .revoked .done →
        ∃ root V, Resolves D c₀.shared rootID root ∧ root ∈ V ∧ Closed V s) c₀ := by
    refine ⟨h₀.inv, fun i p hp => (h₀.threads i p hp).imp fun _ _ _ _ hi => ?_⟩
    have hlt : i < c₀.threads.length := (List.getElem?_eq_some_iff.mp hp).choose
    omega
  refine (outlines_execute (n := c₀.threads.length + 1) (Allowed D)
    (fun c now hm hInv => ambient_disciplined hm hInv) (fun c op hm hInv hn => ?_)
    (outlines_start hothers ?_) ?_ hduring).1
  · exact (program_upholds hm hInv).imp fun _ _ _ _ hi => by omega
  · refine (revokeChain_upholds h₀.inv fuel rootID).bind h₀.inv fun result s' _ hresult => ?_
    intro s'' hG _ _ hanswer
    cases hanswer
    obtain ⟨root, V, hresolves, hroot, hV⟩ := hresult rfl
    exact ⟨root, V, hresolves, hroot, hV.kept hG⟩
  · simp [System.step]

lemma spared_outlines {c₁ : State} {after : List Step} {Q : ℕ → Answer → Database → Prop}
    (h₁ : Outlines (discipline D) handle Q c₁) (hV : Closed V c₁.shared)
    (hafter : (system D).Admitted (Allowed D) c₁ after) :
    Outlines ((discipline D).and (Closed V)) handle
        (fun j answer _ => c₁.threads.length ≤ j → ∀ rec, answer = .consumed (.consumed rec) →
          D.hashKey rec.id ∉ V)
        ((system D).execute c₁ after) ∧
      Kept c₁.shared ((system D).execute c₁ after).shared := by
  refine outlines_execute (Y := system D) (L := (discipline D).and (Closed V))
    (n := c₁.threads.length) (Allowed D) (fun c now hm hInv => ?_) (fun c op hm hInv hn => ?_)
    ⟨⟨h₁.inv, hV⟩, fun i p hp => ?_⟩ (Nat.le_refl _) hafter
  · obtain ⟨hinv, hmove⟩ := ambient_disciplined hm hInv.1
    exact ⟨⟨hinv, hInv.2.kept hmove⟩, hmove⟩
  · exact ((program_spares hm hInv.1 hInv.2).imp fun _ _ _ h _ => h).strengthen
      fun _ _ hG hF => hF.kept hG
  · refine ((h₁.threads i p hp).imp fun _ _ _ _ hj => ?_).strengthen fun _ _ hG hF => hF.kept hG
    have hlt : i < c₁.threads.length := (List.getElem?_eq_some_iff.mp hp).choose
    omega

/-- Once a chain revocation has returned nil, every token whose parent links lead to its root is
revoked and consumed, no token comes in below the root, and no consumption that starts later
succeeds there. -/
theorem chain_revocation_wins {s : Database} (hs : Linked D s) (hnow : avTime s.now ≠ 0)
    {before during after : List Step} {fuel : ℕ} {rootID : String}
    (hnames : (system D).Admitted (NamesParent D) ⟨s, []⟩
      (before ++ (.start (.revokeChain fuel rootID) :: during) ++ after))
    (hclock : ∀ m ∈ before ++ (.start (.revokeChain fuel rootID) :: during) ++ after, ClockSet m)
    {c₀ c₁ c₂ : State} (h₀ : c₀ = (system D).execute ⟨s, []⟩ before)
    (h₁ : c₁ = (system D).execute c₀ (.start (.revokeChain fuel rootID) :: during))
    (h₂ : c₂ = (system D).execute c₁ after)
    (hdone : System.outcome c₁ c₀.threads.length = some (.revoked .done)) :
    ∃ root, Resolves D c₀.shared rootID root ∧
      (∀ k t, c₂.shared.token? k = some t → Leads c₂.shared root k →
        t.revoked = true ∧ t.consumedAt ≠ 0 ∧ (c₁.shared.token? k).isSome = true) ∧
      ∀ j rec, c₁.threads.length ≤ j →
        System.outcome c₂ j = some (.consumed (.consumed rec)) →
          ¬ Leads c₂.shared root (D.hashKey rec.id) := by
  have hallowed := hnames.and_forall _ hclock
  obtain ⟨hallowed, hafter⟩ := (system D).admitted_append.mp hallowed
  obtain ⟨hbefore, hduring⟩ := (system D).admitted_append.mp hallowed
  rw [System.execute_append] at hafter
  rw [← h₀] at hduring hafter
  rw [← h₁] at hafter
  -- until the revocation starts
  have hstart : Outlines (discipline D) handle (fun _ _ _ => True) c₀ := by
    rw [h₀]
    exact (outlines_execute (Y := system D) (Q := fun _ _ _ => True) (n := 0) (Allowed D)
      (fun c now hm hInv => ambient_disciplined hm hInv)
      (fun c op hm hInv _ => program_upholds hm hInv)
      ⟨⟨hs, hnow⟩, fun i p hp => by cases hp⟩ (Nat.zero_le _) hbefore).1
  -- until it has returned
  have hrun := revoked_outlines hstart hduring.2
  rw [show (system D).execute _ during = c₁ from h₁.symm] at hrun
  obtain ⟨root, V, hresolves, hroot, hV⟩ :=
    ((hrun.threads _ _ (System.outcome_eq_some.mp hdone)).result hrun.inv) rfl rfl
  -- from then on
  have hlater := spared_outlines hrun hV hafter
  rw [← h₂] at hlater
  obtain ⟨hend, hkept⟩ := hlater
  refine ⟨root, hresolves, fun k t ht hleads => ?_, fun j rec hj hrec hleads => ?_⟩
  · have hmem := hleads.mem hend.inv.1.1 hkept hV hroot
    rcases hV k hmem with ⟨t₁, ht₁, hrevoked, hconsumed, _⟩ | ⟨grantID, rfl⟩
    · obtain ⟨t₂, ht₂, hgrown⟩ := hkept k t₁ ht₁
      rw [ht, Option.some.injEq] at ht₂
      subst ht₂
      exact ⟨hgrown.revoked hrevoked, hgrown.consumed hconsumed,
        Option.isSome_iff_exists.mpr ⟨t₁, ht₁⟩⟩
    · rw [Database.token?_roots hend.inv.1.1.keyed grantID] at ht
      cases ht
  · exact (hend.threads j _ (System.outcome_eq_some.mp hrec)).result hend.inv hj rec rfl
      (hleads.mem hend.inv.1.1 hkept hV hroot)

lemma linked_empty (now : Time) : Linked D ⟨∅, now⟩ := by
  refine ⟨fun pk t ht => ?_, fun pk item hitem => ?_, fun pk t ht => ?_, fun pk t ht => ?_⟩
  · cases ht
  · cases hitem
  · cases ht
  · cases ht

def chained (id : String) (parent : Option String) : RefreshToken :=
  { (default : RefreshToken) with id := id, parentID := parent }

def emptyAt (second : ℤ) : Database := ⟨∅, (unixEpoch + second) * Time.second⟩

def rooted : List Step := [.start (.save (chained "a" none)), .act 0 []]

def rootedAt (second : ℤ) : State := (system plainTokenDigest).execute ⟨emptyAt second, []⟩ rooted

/-- A revocation of "a" is started, and the system goes on with `during`. -/
def revokedAt (second : ℤ) (during : List Step) : State :=
  (system plainTokenDigest).execute (rootedAt second) (.start (.revokeChain 3 "a") :: during)

/-- The calls of a revocation of "a", whose rotation "b" comes in after the root was resolved. -/
def crossed : List Step :=
  [.start (.save (chained "b" (some "a"))), .act 1 [], .act 2 [], .act 1 [], .act 1 [], .act 1 [],
    .act 1 [], .act 1 [], .act 1 [], .act 1 []]

/-- A rotation of "b" and a consumption of "b" come too late. -/
def belated : State :=
  (system plainTokenDigest).execute (revokedAt 1 crossed)
    [.start (.save (chained "c" (some "b"))), .act 3 [], .act 3 [], .start (.consume "b"),
      .act 4 [], .act 4 []]

theorem chain_revocation_wins_crossed :
    ∃ root, Resolves plainTokenDigest (rootedAt 1).shared "a" root ∧
      (∀ k t, belated.shared.token? k = some t → Leads belated.shared root k →
        t.revoked = true ∧ t.consumedAt ≠ 0 ∧
          ((revokedAt 1 crossed).shared.token? k).isSome = true) ∧
      ∀ j rec, (revokedAt 1 crossed).threads.length ≤ j →
        System.outcome belated j = some (.consumed (.consumed rec)) →
          ¬ Leads belated.shared root (plainTokenDigest.hashKey rec.id) :=
  chain_revocation_wins (linked_empty _) (by decide) (by decide +kernel) (by decide) rfl rfl rfl
    (by decide +kernel)

def consumption : List Step := [.start (.consume "a"), .act 2 [], .act 2 [], .act 2 [], .act 2 []]

/-- The calls of a revocation of "a" when it has no rotation. -/
def alone : List Step := [.act 1 [], .act 1 [], .act 1 [], .act 1 [], .act 1 []]

/-- At the Unix epoch `consumed_at` is written as zero, which stands for unset: the revoked token
can still be consumed. -/
theorem epoch_revocation_stays_consumable :
    (system plainTokenDigest).Admitted (NamesParent plainTokenDigest) ⟨emptyAt 0, []⟩
        (rooted ++ (.start (.revokeChain 3 "a") :: alone) ++ consumption) ∧
      System.outcome (revokedAt 0 alone) 1 = some (.revoked .done) ∧
      ((revokedAt 0 alone).shared.token? "#a").map (·.consumedAt) = some 0 ∧
      ∃ rec, rec.id = "a" ∧
        System.outcome ((system plainTokenDigest).execute (revokedAt 0 alone) consumption) 2 =
          some (.consumed (.consumed rec)) := by
  refine ⟨by decide +kernel, by decide +kernel, by decide +kernel, ?_⟩
  exact ⟨{ chained "a" none with revoked := true, consumedAt := some (unixEpoch * Time.second) },
    rfl, by decide +kernel⟩

/-- Direct calls, interleaved at every DynamoDB call, undo nothing of one another: a stored token
stays, revoked and consumed once it was, its children only become more, and none is added once
it is revoked. -/
theorem direct_writes_kept {s : Database} (hs : Linked D s) (hnow : avTime s.now ≠ 0)
    (before after : List Step)
    (hnames : (system D).Admitted (NamesParent D) ⟨s, []⟩ (before ++ after))
    (hclock : ∀ m ∈ before ++ after, ClockSet m) :
    Kept ((system D).execute ⟨s, []⟩ before).shared
      ((system D).execute ⟨s, []⟩ (before ++ after)).shared := by
  obtain ⟨hbefore, hafter⟩ := (system D).admitted_append.mp (hnames.and_forall _ hclock)
  have hrun : ∀ {c : State} {ms : List Step}, Outlines (discipline D) handle (fun _ _ _ => True) c →
      (system D).Admitted (Allowed D) c ms →
      Outlines (discipline D) handle (fun _ _ _ => True) ((system D).execute c ms) ∧
        Kept c.shared ((system D).execute c ms).shared :=
    fun hc hms => outlines_execute (Y := system D) (Q := fun _ _ _ => True) (n := 0)
      (Allowed D)
      (fun c now hm hInv => ambient_disciplined hm hInv)
      (fun c op hm hInv _ => program_upholds hm hInv) hc (Nat.zero_le _) hms
  rw [System.execute_append]
  exact (hrun (hrun ⟨⟨hs, hnow⟩, fun i p hp => by cases hp⟩ hbefore).1 hafter).2

theorem direct_writes_kept_crossed : Kept (rootedAt 1).shared (revokedAt 1 crossed).shared :=
  direct_writes_kept (linked_empty _) (by decide) rooted (.start (.revokeChain 3 "a") :: crossed)
    (by decide +kernel) (by decide)

end OidcProvider.DynamoChainRevocation
