import OidcProvider.DynamoRefreshTokens

/-!
# The links between refresh tokens in DynamoDB

Every rotation is stored in one write with its link from its parent, so in a table where
nothing is deleted the parent links and the children agree, whatever direct calls are running.
A token never goes back: what was revoked or consumed stays so, children only join, and none
join a revoked token.
-/
namespace OidcProvider.DynamoLinks
open FiniteMaps StoreRecords ResumptionPrograms DynamoTables DynamoRefreshTokens Prog

variable {D : TokenDigest}

/-! ### Links -/

/-- Every token is linked from its parent, and every link leads to a token. -/
structure Linked (D : TokenDigest) (s : Database) : Prop where
  keyed : ∀ pk t, s.token? pk = some t → ∃ id, pk = D.hashKey id
  listed : ∀ pk item, s.items.lookup (.refresh pk) = some item → s.token? pk = none →
    ∃ grantID, pk = grantRootsKey grantID
  parent : ∀ pk t, s.token? pk = some t → t.parentID ≠ "" →
    ∃ p, s.token? t.parentID = some p ∧ pk ∈ p.children
  children : ∀ pk t, s.token? pk = some t → ∀ c ∈ t.children, (s.token? c).isSome

/-- What may happen to a stored token. The children of a revoked one are closed. -/
structure Grown (t t' : TokenItem) : Prop where
  parentID : t'.parentID = t.parentID
  revoked : t.revoked = true → t'.revoked = true
  consumed : t.consumedAt ≠ 0 → t'.consumedAt ≠ 0
  children : t.children ⊆ t'.children
  closed : t.revoked = true → t'.children ⊆ t.children

variable {s s' : Database} {t : RefreshToken} {parent k : String} {A : Type} (hits : List String)

lemma Grown.refl (t : TokenItem) : Grown t t :=
  ⟨rfl, id, id, List.Subset.refl _, fun _ => List.Subset.refl _⟩

lemma Grown.trans {t₁ t₂ t₃ : TokenItem} (h : Grown t₁ t₂) (h' : Grown t₂ t₃) : Grown t₁ t₃ where
  parentID := h'.parentID.trans h.parentID
  revoked := h'.revoked ∘ h.revoked
  consumed := h'.consumed ∘ h.consumed
  children := List.Subset.trans h.children h'.children
  closed hr := List.Subset.trans (h'.closed (h.revoked hr)) (h.closed hr)

/-- No token is lost, and none goes back. -/
def Kept (s s' : Database) : Prop :=
  ∀ pk t, s.token? pk = some t → ∃ t', s'.token? pk = some t' ∧ Grown t t'

/-- The clock is never at an instant that `consumed_at` renders as unset. -/
def discipline (D : TokenDigest) : Discipline Database where
  Inv s := Linked D s ∧ avTime s.now ≠ 0
  G := Kept
  refl _ _ t ht := ⟨t, ht, Grown.refl t⟩
  trans h h' pk t ht := by
    obtain ⟨t₂, ht₂, hgrown⟩ := h pk t ht
    obtain ⟨t₃, ht₃, hgrown'⟩ := h' pk t₂ ht₂
    exact ⟨t₃, ht₃, hgrown.trans hgrown'⟩

lemma Kept.isSome (h : Kept s s') {pk : String} (hpk : (s.token? pk).isSome) :
    (s'.token? pk).isSome := by
  obtain ⟨t, ht⟩ := Option.isSome_iff_exists.mp hpk
  obtain ⟨t', ht', _⟩ := h pk t ht
  exact Option.isSome_iff_exists.mpr ⟨t', ht'⟩

/-- The key of a token that is stored, or of a root list. -/
def Known (s : Database) (k : String) : Prop :=
  (s.token? k).isSome ∨ ∃ grantID, k = grantRootsKey grantID

lemma Known.kept (hG : Kept s s') (h : Known s k) : Known s' k :=
  h.imp_left hG.isSome

lemma Linked.known (h : Linked D s) {item : Item}
    (hitem : s.items.lookup (.refresh k) = some item) : Known s k := by
  cases ht : s.token? k with
  | none => exact .inr (h.listed k item hitem ht)
  | some t => exact .inl (Option.isSome_iff_exists.mpr ⟨t, ht⟩)

lemma Linked.ne_empty (h : Linked D s) (hk : Known s k) : k ≠ "" := by
  rcases hk with hk | ⟨grantID, rfl⟩
  · obtain ⟨t, ht⟩ := Option.isSome_iff_exists.mp hk
    obtain ⟨id, rfl⟩ := h.keyed k t ht
    exact D.hashKey_ne_empty id
  · intro hempty
    have hlist := congrArg String.toList hempty
    simp [grantRootsKey, String.toList_append] at hlist

/-! ### Calls -/

lemma linked_modify (h : Linked D s) (pk : String) (f : TokenItem → TokenItem)
    (hf : ∀ t, s.token? pk = some t → Grown t (f t) ∧ (f t).children = t.children) :
    Linked D { s with items := modify (Item.modify f) s.items (.refresh pk) } ∧
      Kept s { s with items := modify (Item.modify f) s.items (.refresh pk) } := by
  have htoken := token?_modify f s pk
  have hback : ∀ k t', ({ s with items := modify (Item.modify f) s.items (.refresh pk) } :
      Database).token? k = some t' → ∃ t, s.token? k = some t ∧ t'.parentID = t.parentID ∧
        t'.children = t.children := by
    intro k t' ht'
    rw [htoken] at ht'
    split_ifs at ht' with hk
    · obtain ⟨t, ht, rfl⟩ := Option.map_eq_some_iff.mp ht'
      subst hk
      exact ⟨t, ht, (hf t ht).1.parentID, (hf t ht).2⟩
    · exact ⟨t', ht', rfl, rfl⟩
  have hkept : Kept s { s with items := modify (Item.modify f) s.items (.refresh pk) } := by
    intro k t ht
    rw [htoken]
    split_ifs with hk
    · subst hk
      exact ⟨f t, by rw [ht, Option.map_some], (hf t ht).1⟩
    · exact ⟨t, ht, Grown.refl t⟩
  refine ⟨⟨?_, ?_, ?_, ?_⟩, hkept⟩
  · intro k t' ht'
    obtain ⟨t, ht, _⟩ := hback k t' ht'
    exact h.keyed k t ht
  · intro k item hitem hnone
    rw [lookup_modify] at hitem
    rw [htoken] at hnone
    split_ifs at hitem hnone with hkey hk hk
    · obtain ⟨old, hold, _⟩ := Option.map_eq_some_iff.mp hitem
      exact h.listed k old hold (Option.map_eq_none_iff.mp hnone)
    · exact absurd (Key.refresh.inj hkey) hk
    · exact absurd (congrArg Key.refresh hk) hkey
    · exact h.listed k item hitem hnone
  · intro k t' ht' hparent
    obtain ⟨t, ht, hpid, _⟩ := hback k t' ht'
    rw [hpid] at hparent ⊢
    obtain ⟨p, hp, hmem⟩ := h.parent k t ht hparent
    obtain ⟨p', hp', hgrown⟩ := hkept _ p hp
    exact ⟨p', hp', hgrown.children hmem⟩
  · intro k t' ht' c hc
    obtain ⟨t, ht, _, hchildren⟩ := hback k t' ht'
    exact hkept.isSome (h.children k t ht c (hchildren ▸ hc))

lemma revoke_disciplined (pk grantID : String) (h : (discipline D).Inv s) :
    (discipline D).Inv (handle hits (.revoke pk grantID) s).1 ∧
      (discipline D).G s (handle hits (.revoke pk grantID) s).1 := by
  simp only [handle]
  split_ifs
  · have hf := linked_modify h.1 pk TokenItem.revoke fun t _ =>
      ⟨⟨rfl, fun _ => rfl, id, List.Subset.refl _, fun _ => List.Subset.refl _⟩, rfl⟩
    exact ⟨⟨hf.1, h.2⟩, hf.2⟩
  · exact ⟨h, (discipline D).refl s⟩

lemma stampConsumed_disciplined (pk : String) (consumedAt : ℤ) (h : (discipline D).Inv s) :
    (discipline D).Inv (handle hits (.stampConsumed pk consumedAt) s).1 ∧
      (discipline D).G s (handle hits (.stampConsumed pk consumedAt) s).1 := by
  simp only [handle]
  split_ifs with hzero
  · have hf := linked_modify h.1 pk (TokenItem.stamp consumedAt) fun t ht => by
      rw [Database.token?_eq_some] at ht
      -- the condition of the update
      have hunset : t.consumedAt = 0 := by simpa [ht, Item.consumedAt] using hzero
      exact ⟨⟨rfl, id, fun hset => absurd hunset hset, List.Subset.refl _,
        fun _ => List.Subset.refl _⟩, rfl⟩
    exact ⟨⟨hf.1, h.2⟩, hf.2⟩
  · exact ⟨h, (discipline D).refl s⟩

lemma linked_insert {item : TokenItem} (h : Linked D s) (id : String)
    (hchildren : item.children = []) (hnew : s'.token? (D.hashKey id) = some item)
    (hold : ∀ k t', k ≠ D.hashKey id → s'.token? k = some t' →
      ∃ t, s.token? k = some t ∧ t'.parentID = t.parentID ∧
        t'.children ⊆ D.hashKey id :: t.children) (hkept : Kept s s')
    (hlisted : ∀ pk item, s'.items.lookup (.refresh pk) = some item → s'.token? pk = none →
      ∃ grantID, pk = grantRootsKey grantID)
    (hparent : item.parentID ≠ "" →
      ∃ p, s'.token? item.parentID = some p ∧ D.hashKey id ∈ p.children) : Linked D s' := by
  refine ⟨?_, hlisted, ?_, ?_⟩
  · intro k t' ht'
    by_cases hk : k = D.hashKey id
    · exact ⟨id, hk⟩
    · obtain ⟨t, ht, _⟩ := hold k t' hk ht'
      exact h.keyed k t ht
  · intro k t' ht' hpid
    by_cases hk : k = D.hashKey id
    · subst hk
      rw [hnew, Option.some.injEq] at ht'
      subst ht'
      exact hparent hpid
    · obtain ⟨t, ht, heq, _⟩ := hold k t' hk ht'
      rw [heq] at hpid ⊢
      obtain ⟨p, hp, hmem⟩ := h.parent k t ht hpid
      obtain ⟨p', hp', hgrown⟩ := hkept _ p hp
      exact ⟨p', hp', hgrown.children hmem⟩
  · intro k t' ht' c hc
    by_cases hk : k = D.hashKey id
    · subst hk
      rw [hnew, Option.some.injEq] at ht'
      subst ht'
      rw [hchildren] at hc
      cases hc
    · obtain ⟨t, ht, _, hsub⟩ := hold k t' hk ht'
      rcases List.mem_cons.mp (hsub hc) with rfl | hc
      · exact Option.isSome_iff_exists.mpr ⟨item, hnew⟩
      · exact hkept.isSome (h.children k t ht c hc)

lemma grown_link {p : TokenItem} (halive : p.revoked = false) (child : String)
    (retry : List UInt8) : Grown p (p.link child retry) where
  parentID := rfl
  revoked := id
  consumed := id
  children _ hc := mem_addChild.mpr (.inl hc)
  closed hr := by
    rw [halive] at hr
    cases hr

lemma rotation_disciplined (hparent : t.parentID = some parent) (retry : List UInt8)
    (h : (discipline D).Inv s) :
    (discipline D).Inv (handle hits (.write (rotationWrites D t parent retry)) s).1 ∧
      (discipline D).G s (handle hits (.write (rotationWrites D t parent retry)) s).1 := by
  simp only [handle]
  rcases rotation_cases s.items t parent retry with hsame | ⟨hne, hfresh, hparent', hdone⟩
  · rw [hsame]
    exact ⟨h, (discipline D).refl s⟩
  rw [hdone]
  obtain ⟨item, hitem, halive⟩ := hparent'
  obtain ⟨p, rfl, hp⟩ := Database.token?_of_lookup h.1.listed hitem
  have hgrown : Grown p (p.link (D.hashKey t.id) retry) :=
    grown_link (by simpa [Item.revoked] using halive) _ _
  have htoken := token?_rotation hne retry s
  have hkept : Kept s
      { s with items := (rotationWrites D t parent retry).foldl applyAction s.items } := by
    intro k old hold
    rw [htoken]
    split_ifs with hk hk'
    · rw [Database.token?_eq_some, hk, hfresh] at hold
      cases hold
    · rw [hk', hp, Option.some.injEq] at hold
      subst hold
      exact ⟨_, by rw [hk', hp, Option.map_some], hgrown⟩
    · exact ⟨old, hold, Grown.refl old⟩
  refine ⟨⟨linked_insert h.1 t.id rfl (by rw [htoken, if_pos rfl]) ?_ hkept ?_ ?_, h.2⟩, hkept⟩
  · intro k t' hk ht'
    rw [htoken, if_neg hk] at ht'
    split_ifs at ht' with hk'
    · obtain ⟨old, hold, rfl⟩ := Option.map_eq_some_iff.mp ht'
      refine ⟨old, hold, rfl, fun c hc => ?_⟩
      exact List.mem_cons.mpr ((mem_addChild.mp hc).symm)
    · exact ⟨t', ht', rfl, List.subset_cons_self _ _⟩
  · intro k item hlookup hnone
    rw [htoken] at hnone
    rw [lookup_rotation hne] at hlookup
    split_ifs at hlookup hnone with hk hk'
    · rw [hk', hp] at hnone
      cases hnone
    · exact h.1.listed k item hlookup hnone
  · intro _
    have hpid : (refreshItem D t).parentID = D.hashKey parent := by simp [refreshItem, hparent]
    rw [hpid, htoken, if_neg hne.symm, if_pos rfl, hp]
    exact ⟨_, rfl, mem_addChild.mpr (.inr rfl)⟩

lemma linked_root (h : Linked D s) (s' : Database) (hparent : t.parentID = none)
    (hfresh : s.token? (D.hashKey t.id) = none)
    (htoken : ∀ k, s'.token? k = if k = D.hashKey t.id then some (refreshItem D t) else s.token? k)
    (hlisted : ∀ pk item, s'.items.lookup (.refresh pk) = some item → s'.token? pk = none →
      ∃ grantID, pk = grantRootsKey grantID) : Linked D s' ∧ Kept s s' := by
  have hkept : Kept s s' := by
    intro k old hold
    rw [htoken]
    split_ifs with hk
    · rw [hk, hfresh] at hold
      cases hold
    · exact ⟨old, hold, Grown.refl old⟩
  refine ⟨linked_insert h t.id rfl (by rw [htoken, if_pos rfl]) ?_ hkept hlisted ?_, hkept⟩
  · intro k t' hk ht'
    rw [htoken, if_neg hk] at ht'
    exact ⟨t', ht', rfl, List.subset_cons_self _ _⟩
  · intro hpid
    exact absurd (by simp [refreshItem, hparent]) hpid

lemma root_disciplined (hparent : t.parentID = none) (found : Option Item)
    (live : List (String × ℤ)) (h : (discipline D).Inv s) :
    (discipline D).Inv (handle hits (.write (rootWrites D t found live)) s).1 ∧
      (discipline D).G s (handle hits (.write (rootWrites D t found live)) s).1 := by
  simp only [handle]
  rcases write_cases s.items (rootWrites D t found live) with ⟨hsame, _⟩ | ⟨_, hholds, hdone⟩
  · rw [hsame]
    exact ⟨h, (discipline D).refl s⟩
  rw [hdone]
  have hfresh := insertToken_fresh (hholds _ List.mem_cons_self)
  have hroot := linked_root h.1
    { s with items := (rootWrites D t found live).foldl applyAction s.items } hparent
    (by rw [Database.token?, hfresh, Option.bind_none]) (token?_root h.1.keyed found live) ?_
  · exact ⟨⟨hroot.1, h.2⟩, hroot.2⟩
  · intro k item hitem hnone
    rw [Database.token?, lookup_root] at hnone
    rw [lookup_root] at hitem
    split_ifs at hitem hnone with hk hk'
    · cases hnone
    · exact ⟨_, hk'⟩
    · exact h.1.listed k item hitem hnone

lemma put_disciplined (hparent : t.parentID = none) (h : (discipline D).Inv s) :
    (discipline D).Inv (handle hits (.write [insertToken D t]) s).1 ∧
      (discipline D).G s (handle hits (.write [insertToken D t]) s).1 := by
  simp only [handle]
  rcases write_cases s.items [insertToken D t] with ⟨hsame, _⟩ | ⟨_, hholds, hdone⟩
  · rw [hsame]
    exact ⟨h, (discipline D).refl s⟩
  rw [hdone]
  have hfresh := insertToken_fresh (hholds _ List.mem_cons_self)
  have hroot := linked_root h.1 { s with items := [insertToken D t].foldl applyAction s.items }
    hparent
    (by rw [Database.token?, hfresh, Option.bind_none]) (token?_insertToken s) ?_
  · exact ⟨⟨hroot.1, h.2⟩, hroot.2⟩
  · intro k item hitem hnone
    rw [Database.token?, lookup_insertToken] at hnone
    rw [lookup_insertToken] at hitem
    split_ifs at hitem hnone
    · cases hnone
    · exact h.1.listed k item hitem hnone

/-- The calls that keep the links whatever the others do. -/
inductive Safe (D : TokenDigest) : Call → Prop
  | quiet {o : Call} (h : Quiet o) : Safe D o
  | rotation {t : RefreshToken} {parent : String} (retry : List UInt8)
      (hparent : t.parentID = some parent) : Safe D (.write (rotationWrites D t parent retry))
  | root {t : RefreshToken} (found : Option Item) (live : List (String × ℤ))
      (hparent : t.parentID = none) : Safe D (.write (rootWrites D t found live))
  | put {t : RefreshToken} (hparent : t.parentID = none) :
      Safe D (.write [insertToken D t])

lemma Safe.disciplined {o : Call} (ho : Safe D o) (hits : List String) (s : Database)
    (h : (discipline D).Inv s) :
    (discipline D).Inv (handle hits o s).1 ∧ (discipline D).G s (handle hits o s).1 := by
  cases ho with
  | quiet hquiet =>
    cases hquiet with
    | clock => exact ⟨h, (discipline D).refl s⟩
    | getItem key => exact ⟨h, (discipline D).refl s⟩
    | revoke pk grantID => exact revoke_disciplined hits pk grantID h
    | stampConsumed pk consumedAt => exact stampConsumed_disciplined hits pk consumedAt h
    | query index value => exact ⟨h, (discipline D).refl s⟩
  | rotation retry hparent => exact rotation_disciplined hits hparent retry h
  | root found live hparent => exact root_disciplined hits hparent found live h
  | put hparent => exact put_disciplined hits hparent h

lemma upholds_call {Q : A → Database → Prop} {o : Call} (ho : Safe D o) {k : Reply o → Program A}
    (hk : ∀ s' hits, (discipline D).G s s' → (discipline D).Inv s' →
      Upholds handle (discipline D) Q (k (handle hits o s').2) (handle hits o s').1) :
    Upholds handle (discipline D) Q (perform o >>= k) s := by
  intro s' hG hInv hits
  obtain ⟨hnext, hmove⟩ := ho.disciplined hits s' hInv
  exact ⟨hnext, hmove, hk s' hits hG hInv⟩

lemma upholds_safe {p : Program A} (hp : p.Calls (Safe D)) (s : Database) :
    Upholds handle (discipline D) (fun _ _ => True) p s :=
  upholds_of_calls (fun _ ho hits s => ho.disciplined hits s) hp s

lemma upholds_quiet {p : Program A} (hp : p.Calls Quiet) (s : Database) :
    Upholds handle (discipline D) (fun _ _ => True) p s :=
  upholds_safe (hp.mono fun _ => .quiet) s

/-! ### Programs -/

lemma putRootAndList_calls (hparent : t.parentID = none) :
    (putRootAndList D t).Calls (Safe D) := by
  refine calls_perform (.quiet (.getItem _)) fun found => ?_
  refine ((liveGrantRoots_quiet _).mono fun _ => .quiet).bind fun live => ?_
  refine calls_perform (.root _ _ hparent) fun reply => ?_
  cases reply <;> trivial

lemma attemptRoot_calls (hparent : t.parentID = none) (n : ℕ) :
    (attemptRoot D t n).Calls (Safe D) := by
  induction n with
  | zero => exact putRootAndList_calls hparent
  | succ n ih =>
    refine (putRootAndList_calls hparent).bind fun result => ?_
    split
    · exact ih
    · trivial

lemma saveRoot_calls (hparent : t.parentID = none) : (saveRoot D t).Calls (Safe D) := by
  unfold saveRoot
  split_ifs
  · refine calls_perform (.put hparent) fun reply => ?_
    cases reply <;> trivial
  · exact attemptRoot_calls hparent _

def ParentStored (D : TokenDigest) (t : RefreshToken) (s : Database) : Prop :=
  ∀ parent, t.parentID = some parent → (s.token? (D.hashKey parent)).isSome

instance (t : RefreshToken) (s : Database) : Decidable (ParentStored D t s) :=
  decidable_of_iff (t.parentID.all fun parent => (s.token? (D.hashKey parent)).isSome) (by
    unfold ParentStored
    cases t.parentID <;> simp)

lemma ParentStored.kept (h : ParentStored D t s) (hG : Kept s s') : ParentStored D t s' :=
  fun parent hparent => hG.isSome (h parent hparent)

lemma ParentStored.lookup (h : ParentStored D t s) (hparent : t.parentID = some parent) :
    ∃ p, s.items.lookup (.refresh (D.hashKey parent)) = some (.token p) := by
  obtain ⟨p, hp⟩ := Option.isSome_iff_exists.mp (h parent hparent)
  exact ⟨p, Database.token?_eq_some.mp hp⟩

lemma upholds_ret (a : A) (s : Database) :
    Upholds handle (discipline D) (fun _ _ => True) (.ret a : Program A) s :=
  fun _ _ _ => trivial

/-- With its parent stored, a rotation never falls back to a root. -/
theorem save_upholds (h : ParentStored D t s) :
    Upholds handle (discipline D) (fun _ _ => True) (save D t) s := by
  unfold save
  split
  · rename_i hparent
    exact upholds_safe (saveRoot_calls hparent) s
  · rename_i parent hparent
    refine upholds_call (.rotation _ hparent) fun s₁ hits hG hInv => ?_
    obtain ⟨_, hmove⟩ := (Safe.rotation (D := D) [] hparent).disciplined hits s₁ hInv
    have hstored := (h.kept hG).kept hmove
    generalize (handle hits (.write (rotationWrites D t parent [])) s₁) = next at hstored ⊢
    obtain ⟨s₂, reply⟩ := next
    cases reply with
    | done => exact upholds_ret _ _
    | invalid => exact upholds_ret _ _
    | canceled failed =>
      dsimp only [rotationCanceled]
      split_ifs
      · exact upholds_ret _ _
      · refine upholds_call (.quiet (.getItem _)) fun s₃ hits hG hInv => ?_
        obtain ⟨p, hp⟩ := (hstored.kept hG).lookup hparent
        dsimp only [handle]
        rw [hp]
        exact upholds_ret _ _

lemma insertRejected_ne_notFound (failed : List Bool) : insertRejected failed ≠ .notFound := by
  unfold insertRejected
  split_ifs
  · nofun
  · nofun

lemma rotationRejected_upholds (h : ParentStored D t s) (hparent : t.parentID = some parent)
    (failed : List Bool) :
    Upholds handle (discipline D) (fun err _ => err ≠ .notFound)
      (rotationRejected D parent failed) s := by
  unfold rotationRejected
  split_ifs
  · exact fun _ _ _ => insertRejected_ne_notFound failed
  · refine upholds_call (.quiet (.getItem _)) fun s' hits hG hInv => ?_
    obtain ⟨p, hp⟩ := (h.kept hG).lookup hparent
    dsimp only [handle]
    rw [hp]
    intro _ _ _
    split_ifs
    · nofun
    · exact insertRejected_ne_notFound failed

lemma saveRotationWithRetry_upholds (h : ParentStored D t s) (retry : List UInt8) :
    Upholds handle (discipline D) (fun _ _ => True) (saveRotationWithRetry D t retry) s := by
  unfold saveRotationWithRetry
  split
  · exact upholds_ret _ _
  rename_i parent hparent
  split_ifs
  · exact upholds_ret _ _
  refine upholds_call (.rotation _ hparent) fun s₁ hits hG hInv => ?_
  obtain ⟨hnext, hmove⟩ := (Safe.rotation (D := D) retry hparent).disciplined hits s₁ hInv
  have hstored := (h.kept hG).kept hmove
  generalize (handle hits (.write (rotationWrites D t parent retry)) s₁) = next at hstored hnext ⊢
  obtain ⟨s₂, reply⟩ := next
  cases reply with
  | done => exact upholds_ret _ _
  | invalid => exact upholds_ret _ _
  | canceled failed =>
    refine (rotationRejected_upholds hstored hparent failed).bind hnext fun err s' _ herr => ?_
    split
    · exact absurd rfl herr
    · exact upholds_ret _ _

end OidcProvider.DynamoLinks
