import OidcProvider.RefreshEndpoint

/-!
# The discipline of the endpoint's transactions

A transaction of the handler runs its program on the staged view and commits, or
rolls back. By the correspondence of the view with the store it does what the
program does when it runs on the store with nobody in between, so an outline of
the program on the store is an outline of the transaction.
-/
namespace OidcProvider.EndpointTransactions
open FiniteMaps StoreRecords RefreshTokenStore RotationLineage ResumptionPrograms ChainRetirement
open ReplayCascade RefreshSessions RefreshTransactions RefreshEndpoint

variable {D : KeyDigest} {H : Heritage} {A : Type}

def later (i : Instant) (w : World) : World := ⟨w.store, w.clock + i.elapsed⟩

/-- The open transaction corresponds to a store on which its calls were made
directly, and is still open on the store it was opened on. -/
structure Mirrors (D : KeyDigest) (s : RefreshStore) (t : TxWorld) (w : World) : Prop where
  clock : t.clock = w.clock
  sim : Sim D w.clock t.tx w.store
  parent : t.tx.parent = s

variable {w : World}

lemma mirrors_open (h : WellFormed D w.store) :
    Mirrors D w.store ⟨RefreshTx.openOn w.store, w.clock⟩ w :=
  ⟨rfl, sim_open h w.clock, rfl⟩

lemma mirrors_call {s : RefreshStore} {t : TxWorld} (h : Mirrors D s t w)
    (i : Instant) (o : StoreCall) :
    Mirrors D s (stagedHandle D i o t).1 (handle D i.order o (later i w)).1 ∧
      (stagedHandle D i o t).2 = (handle D i.order o (later i w)).2 := by
  obtain ⟨tx, clock⟩ := t
  obtain ⟨hclock, hsim, hparent⟩ := h
  subst hclock
  have hle : w.clock ≤ w.clock + i.elapsed := by simp
  have hsim := hsim.later hle
  cases o with
  | find id => exact ⟨⟨rfl, hsim, hparent⟩, sim_find hsim id⟩
  | now => exact ⟨⟨rfl, hsim, hparent⟩, rfl⟩
  | consume id =>
    obtain ⟨hnext, hreply, hsame⟩ := sim_consume hsim id
    exact ⟨⟨rfl, hnext, hsame.trans hparent⟩, hreply⟩
  | save token =>
    obtain ⟨hnext, hreply, hsame⟩ := sim_save hsim (some token)
    exact ⟨⟨rfl, hnext, hsame.trans hparent⟩, hreply⟩
  | saveRotationWithRetry token contents =>
    obtain ⟨hnext, hreply, hsame⟩ := sim_saveRotationWithRetry hsim i.order (some token) contents
    exact ⟨⟨rfl, hnext, hsame.trans hparent⟩, hreply⟩
  | revokeChain rootID =>
    obtain ⟨hnext, hreply, hsame⟩ := sim_revokeChain hsim i.order i.order rootID
    exact ⟨⟨rfl, hnext, hsame.trans hparent⟩, hreply⟩
  | revokeByGrant grantID =>
    obtain ⟨hnext, hsame⟩ := sim_revokeByGrant hsim i.order i.order grantID
    exact ⟨⟨rfl, hnext, hsame.trans hparent⟩, rfl⟩

lemma Lineage.congr {s s' : RefreshStore} (h : Lineage D H s) (hwf : WellFormed D s')
    (hrows : s'.m = s.m) : Lineage D H s' where
  wellFormed := hwf
  named := by rw [hrows]; exact h.named
  parent := by rw [hrows]; exact h.parent
  consumed := by rw [hrows]; exact h.consumed

lemma upholds_onStore {Q : A → World → Prop} {p : Program A} (h : Rotates D H Q p w) :
    Upholds (handleEndpoint D) (rotation D H) Q (onStore p) w := by
  induction p generalizing w with
  | ret a => exact h
  | call o k ih =>
    intro w' hG hInv e
    obtain ⟨hnext, hmove, hrest⟩ := h w' hG hInv e.order
    exact ⟨hnext, hmove, ih _ hrest⟩

/-- A transaction is one move, and when it commits it leaves what its program
leaves. Its result is in either case one the program comes to. -/
theorem handleEndpoint_transact {Q : Completion → World → Prop} {p : Program Completion}
    (hQ : ∀ c w w', (rotation D H).G w w' → Q c w → Q c w')
    (hp : Rotates D H Q p w) (h : Lineage D H w.store) (e : Choices) :
    (rotation D H).Inv (handleEndpoint D e (.transact p) w).1 ∧
      (rotation D H).G w (handleEndpoint D e (.transact p) w).1 ∧
      (∃ w', Q (handleEndpoint D e (.transact p) w).2 w') ∧
      (commits (handleEndpoint D e (.transact p) w).2 = true →
        Q (handleEndpoint D e (.transact p) w).2 (handleEndpoint D e (.transact p) w).1) := by
  have hcall : ∀ i o t w', Mirrors D w.store t w' →
      Mirrors D w.store (stagedHandle D i o t).1 (handle D i.order o (later i w')).1 ∧
        (stagedHandle D i o t).2 = (handle D i.order o (later i w')).2 :=
    fun i o t w' ht => mirrors_call ht i o
  have hlater : ∀ i w', (rotation D H).Inv w' →
      (rotation D H).Inv (later i w') ∧ (rotation D H).G w' (later i w') :=
    fun i w' hw' => ⟨hw', .refl w'.store, by simp [later]⟩
  obtain ⟨hmirror, hresult⟩ :=
    Prog.runAlone_simulates hcall p e.instants (mirrors_open h.wellFormed)
  obtain ⟨hinv, hG, hpost⟩ := hp.runAlone Instant.order hlater h e.instants
  dsimp only [handleEndpoint]
  generalize p.runAlone (stagedHandle D) e.instants ⟨RefreshTx.openOn w.store, w.clock⟩ = staged
    at hmirror hresult ⊢
  generalize p.runAlone (fun i o w => handle D i.order o (later i w)) e.instants w = direct
    at hmirror hresult hinv hG hpost
  obtain ⟨⟨tx, clock⟩, c⟩ := staged
  obtain ⟨w', c'⟩ := direct
  dsimp only at hmirror hresult hinv hG hpost
  obtain ⟨hclock, hsim, hparent⟩ := hmirror
  subst hclock hresult
  by_cases hcommit : commits c = true
  · rw [if_pos hcommit]
    have hrows := (hsim.commit e.order).1
    have hsame : (rotation D H).G w' ⟨tx.commit D e.order w'.clock, w'.clock⟩ := by
      refine ⟨fun key row hrow => ⟨row, ?_, .refl row⟩, le_rfl⟩
      rw [hrows]
      exact hrow
    exact ⟨Lineage.congr hinv (wellFormed_commit hsim.staged _ _) hrows,
      (rotation D H).trans hG hsame, ⟨w', hpost⟩, fun _ => hQ _ _ _ hsame hpost⟩
  · rw [if_neg hcommit]
    have hback : tx.rollback = w.store := hparent
    rw [hback]
    exact ⟨h, ⟨.refl w.store, hG.2⟩, ⟨w', hpost⟩, fun hc => absurd hc hcommit⟩

end OidcProvider.EndpointTransactions
