import OidcProvider.LinearLinks
import OidcProvider.RefreshSessions

/-!
# Rotation chains stay linear

A successful consumption is a ticket: it entitles the session to save one
successor under the consumed record. A record is consumed once, so a key has at
most one ticket, and the ticket is spent by the save. Hence no record ever has
two successors, and the ones connected by parent links form one chain whose
records are all consumed but the last. An exchange that answers from the grace
window only reads.
-/
namespace OidcProvider.RotationChains
open FiniteMaps StoreRecords RefreshTokenStore RotationLineage ResumptionPrograms LinearLinks
open ChainRetirement RefreshGrant ReplayCascade RefreshSessions

/-! ### Links between stored records -/

def Link (D : KeyDigest) (s : RefreshStore) (parentKey key : String) : Prop :=
  ∃ row p, s.m.lookup key = some row ∧ row.parentID = some p ∧ D.hashKey p = parentKey

def Consumed (s : RefreshStore) (key : String) : Prop :=
  ∃ row, s.m.lookup key = some row ∧ row.consumedAt.isSome = true

/-- Records never branch, and a record with a successor is consumed. -/
structure Straight (D : KeyDigest) (s : RefreshStore) : Prop where
  parent : ∀ a b, Link D s a b → Consumed s a
  unique : Relator.BiUnique (Link D s)

variable {key : String}

section
variable {D : KeyDigest} {s s' : RefreshStore} {token : RefreshToken}

lemma link_stamps (hst : StampsRows s s') (a b : String) : Link D s' a b ↔ Link D s a b := by
  constructor
  · rintro ⟨row', p, hrow', hp, hkey⟩
    obtain ⟨row, hrow, hev⟩ := StampsRows.pull hst hrow'
    exact ⟨row, p, hrow, (RowEvolves.parentID hev).symm.trans hp, hkey⟩
  · rintro ⟨row, p, hrow, hp, hkey⟩
    obtain ⟨row', hrow', hev⟩ := hst.evolves b row hrow
    exact ⟨row', p, hrow', (RowEvolves.parentID hev).trans hp, hkey⟩

lemma Consumed.evolves (hev : Evolves s s') (h : Consumed s key) :
    Consumed s' key := by
  obtain ⟨row, hrow, hcons⟩ := h
  obtain ⟨row', hrow', hrev⟩ := hev key row hrow
  exact ⟨row', hrow', hrev.isConsumed hcons⟩

lemma straight_new : Straight D newRefreshStore := by
  have hnone : ∀ a b, ¬Link D newRefreshStore a b := by
    rintro a b ⟨row, p, hrow, _⟩
    simp [newRefreshStore] at hrow
  exact ⟨fun a b h => absurd h (hnone a b), fun _ _ _ h => absurd h (hnone _ _),
    fun _ _ _ h => absurd h (hnone _ _)⟩

lemma straight_stamps (h : Straight D s) (hst : StampsRows s s') : Straight D s' := by
  have hlink : Link D s' = Link D s := by
    funext a b
    exact propext (link_stamps hst a b)
  refine ⟨fun a b hab => ?_, hlink ▸ h.unique⟩
  exact (h.parent a b ((link_stamps hst a b).mp hab)).evolves hst.evolves

lemma link_insert (hadm : Admits D s token) (a b : String) :
    Link D (withRow D s token) a b ↔
      Link D s a b ∨ (b = D.hashKey token.id ∧ ∃ p, token.parentID = some p ∧ D.hashKey p = a) := by
  unfold Link
  rw [m_insertRefresh, lookup_insert_ite]
  by_cases hb : b = D.hashKey token.id
  · subst hb
    simp only [↓reduceIte, Option.some.injEq, hadm.fresh, reduceCtorEq, false_and, exists_false,
      false_or, true_and, exists_and_left, exists_eq_left']
    exact Iff.rfl
  · simp only [hb, ↓reduceIte, false_and, or_false]

lemma not_link_fresh (hfresh : s.m.lookup key = none) (a : String) :
    ¬Link D s a key := by
  rintro ⟨row, p, hrow, _⟩
  rw [hfresh] at hrow
  cases hrow

lemma straight_insert_root (h : Straight D s) (hadm : Admits D s token)
    (hroot : token.parentID = none) :
    Straight D (withRow D s token) := by
  have hlink : Link D (withRow D s token) = Link D s := by
    funext a b
    simp [link_insert hadm, hroot]
  refine ⟨fun a b hab => ?_, hlink ▸ h.unique⟩
  rw [hlink] at hab
  exact (h.parent a b hab).evolves (evolves_insert hadm.fresh _)

lemma straight_insert_child (h : Straight D s) (hadm : Admits D s token) {p : String}
    (hparent : token.parentID = some p) (hcons : Consumed s (D.hashKey p))
    (hfree : ∀ b, ¬Link D s (D.hashKey p) b) :
    Straight D (withRow D s token) := by
  have hlink : Link D (withRow D s token) =
      addLink (Link D s) (D.hashKey p) (D.hashKey token.id) := by
    funext a b
    simp only [link_insert hadm, hparent, addLink, Option.some.injEq, exists_eq_left', eq_iff_iff]
    rw [and_comm, eq_comm]
  have hev := evolves_insert (D := D) hadm.fresh (storedRow D token)
  constructor
  · intro a b hab
    rw [hlink] at hab
    rcases hab with hab | ⟨rfl, _⟩
    · exact (h.parent a b hab).evolves hev
    · exact hcons.evolves hev
  · rw [hlink]
    exact biUnique_addLink h.unique hfree (not_link_fresh hadm.fresh)

end

/-! ### Tickets -/

/-- A program that may save one record under the key, and consumes nothing. -/
def Ticketed (D : KeyDigest) (key : String) {A : Type} : Program A → Prop
  | .ret _ => True
  | .call (.save token) k => (∃ p, token.parentID = some p ∧ D.hashKey p = key) ∧
      ∀ reply, (k reply).Calls Harmless
  | .call o k => Harmless o ∧ ∀ reply, Ticketed D key (k reply)

/-- A program that saves nothing until it has consumed a record. -/
def Unticketed (D : KeyDigest) {A : Type} : Program A → Prop
  | .ret _ => True
  | .call (.consume id) k =>
    (∀ rec, rec.id = id → Ticketed D (D.hashKey id) (k (.consumed rec))) ∧
    (∀ rec, (k (.alreadyConsumed rec)).Calls Harmless) ∧
    ∀ err, (k (.failed err)).Calls Harmless
  | .call o k => Harmless o ∧ ∀ reply, Unticketed D (k reply)

variable {o : StoreCall}

section
variable {D : KeyDigest} {A B : Type}

lemma ticketed_harmless {k : o.Reply → Program A}
    (ho : Harmless o) : Ticketed D key (.call o k) ↔ ∀ reply, Ticketed D key (k reply) := by
  cases o <;> simp_all [Ticketed, Harmless]

lemma unticketed_harmless {k : o.Reply → Program A} (ho : Harmless o) :
    Unticketed D (.call o k) ↔ ∀ reply, Unticketed D (k reply) := by
  cases o <;> simp_all [Unticketed, Harmless]

lemma unticketed_of_calls {p : Program A} (hp : p.Calls Harmless) : Unticketed D p := by
  induction p with
  | ret a => trivial
  | call o k ih => exact (unticketed_harmless hp.1).mpr fun reply => ih reply (hp.2 reply)

lemma ticketed_bind {Q : A → Prop} {p : Program A} {f : A → Program B}
    (hp : p.Calls Harmless) (hret : p.Returns Q) (hf : ∀ a, Q a → Ticketed D key (f a)) :
    Ticketed D key (p >>= f) := by
  induction p with
  | ret a => exact hf a hret
  | call o k ih =>
    exact (ticketed_harmless hp.1).mpr fun reply => ih reply (hp.2 reply) (hret reply)

end

/-! ### What a session is entitled to -/

/-- An answer that lets nothing be issued: an error or one from the grace window. -/
def NoIssue (a : Answer) : Prop := ∀ ex, a.result = .ok ex → ex.inGrace = true

/-- An answer that is not one of the grace window. -/
def OutsideGrace (a : Answer) : Prop := ∀ ex, a.result = .ok ex → ex.inGrace = false

/-- The answer to a token that has been consumed before. -/
abbrev afterReplay (e : Exchanger) (input : ExchangeInput) : Program Answer := do
  match ← e.tryGrace input with
  | some handled => pure handled
  | none => e.mapConsumeError input.token .alreadyConsumed

variable {a : Answer}

section
variable {D : KeyDigest} {e : Exchanger} {input : ExchangeInput} {x : Session} (id : String)

def Refuses (a : Answer) : Prop := ∃ err, a.result = .error err

lemma Refuses.ne_ok (h : Refuses a) {ex : Exchanged} (hex : a.result = .ok ex) :
    False := by
  obtain ⟨err, h⟩ := h
  rw [h] at hex
  cases hex

lemma Refuses.noIssue (h : Refuses a) : NoIssue a := fun _ hex => (h.ne_ok hex).elim

lemma Refuses.outsideGrace (h : Refuses a) : OutsideGrace a :=
  fun _ hex => (h.ne_ok hex).elim

lemma calls_replayed : (e.replayed id).Calls Harmless := by
  refine Prog.Calls.bind ?_ fun _ => trivial
  unfold Exchanger.onReplayDetected
  split_ifs
  · trivial
  · exact (calls_revokeChainBestEffort id).bind fun _ => trivial

lemma replayed_refuses : (e.replayed id).Returns Refuses :=
  (Prog.returns_true _).bind fun _ _ => ⟨_, rfl⟩

lemma calls_mapConsumeError (err : StoreError) : (e.mapConsumeError id err).Calls Harmless := by
  cases err with
  | alreadyConsumed => exact calls_replayed id
  | _ => trivial

lemma mapConsumeError_refuses (err : StoreError) :
    (e.mapConsumeError id err).Returns Refuses := by
  cases err with
  | alreadyConsumed => exact replayed_refuses id
  | _ => exact ⟨_, rfl⟩

lemma calls_tryGrace : (e.tryGrace input).Calls Harmless := by
  unfold Exchanger.tryGrace
  split_ifs
  · trivial
  refine calls_ask trivial fun reply => ?_
  cases reply with
  | error err => cases err <;> trivial
  | ok rec =>
    refine ((calls_withinGraceWindow rec).mono harmless_of_reads).bind fun inside => ?_
    cases inside with
    | false => trivial
    | true =>
      refine ((calls_graceExchange rec input).mono harmless_of_reads).bind fun r => ?_
      cases r with
      | ok ex => trivial
      | error err =>
        cases err with
        | tokenExpired => trivial
        | _ => exact (calls_replayed input.token).bind fun _ => trivial

lemma tryGrace_returns : (e.tryGrace input).Returns fun out => ∀ a, out = some a → NoIssue a := by
  have hnone : (pure none : Program (Option Answer)).Returns
      fun out => ∀ a, out = some a → NoIssue a := fun a ha => by cases ha
  have herror : ∀ err, (pure (some (answer (.error err))) : Program (Option Answer)).Returns
      fun out => ∀ a, out = some a → NoIssue a := fun err a ha => by
    cases ha
    exact Refuses.noIssue ⟨err, rfl⟩
  unfold Exchanger.tryGrace
  split_ifs
  · exact hnone
  intro reply
  cases reply with
  | error err =>
    cases err with
    | notFound => exact hnone
    | _ => exact herror _
  | ok rec =>
    refine (Prog.returns_true (e.withinGraceWindow rec)).bind fun inside _ => ?_
    cases inside with
    | false => exact hnone
    | true =>
      refine (graceExchange_returns rec input).bind fun r hr => ?_
      cases r with
      | ok ex =>
        intro a ha ex' hex'
        cases ha
        exact hr ex' hex'
      | error err =>
        cases err with
        | tokenExpired => exact herror _
        | _ =>
          refine (replayed_refuses input.token).bind fun a ha => ?_
          intro a' ha'
          cases ha'
          exact ha.noIssue

lemma calls_afterReplay (e : Exchanger) (input : ExchangeInput) :
    (afterReplay e input).Calls Harmless := by
  refine calls_tryGrace.bind fun out => ?_
  cases out with
  | some handled => trivial
  | none => exact calls_mapConsumeError _ _

lemma afterReplay_returns : (afterReplay e input).Returns NoIssue := by
  refine tryGrace_returns.bind fun out hout => ?_
  cases out with
  | some handled => exact hout handled rfl
  | none => exact (mapConsumeError_refuses _ _).mono fun _ => Refuses.noIssue

lemma calls_proceed_noIssue (ha : NoIssue a ∨ x.exchanger.rotationDisabled = true) :
    (x.proceed a).Calls Harmless := by
  unfold Session.proceed
  cases hres : a.result with
  | error err => trivial
  | ok ex =>
    dsimp only
    rw [if_pos (ha.imp_left fun h => h ex hres)]
    trivial

lemma ticketed_proceed (hrot : x.Rotates) {id : String}
    (ha : ∀ ex, a.result = .ok ex → ex.consumedID = id) :
    Ticketed D (D.hashKey id) (x.proceed a) := by
  unfold Session.proceed
  cases hres : a.result with
  | error err => trivial
  | ok ex =>
    dsimp only
    split_ifs
    · trivial
    · unfold Issuer.issue Issuer.prepare
      cases validateIssue (x.rotate ex) with
      | error err => trivial
      | ok _ =>
        refine (ticketed_harmless (o := .now) trivial).mpr
          fun now => ⟨⟨id, ?_, rfl⟩, fun reply => ?_⟩
        · change (x.rotate ex).parentID = some id
          rw [hrot ex, ha ex hres]
        · cases reply <;> trivial

lemma unticketed_run (hrot : x.Rotates) : Unticketed D x.run := by
  unfold Session.run Exchanger.exchange
  split_ifs with htoken hdisabled
  · trivial
  · refine unticketed_of_calls (Prog.Calls.bind ?_ fun a => calls_proceed_noIssue (.inr hdisabled))
    refine calls_ask trivial fun reply => ?_
    cases reply with
    | error err => cases err <;> trivial
    | ok rec =>
      dsimp only
      split_ifs
      · exact calls_mapConsumeError _ _
      · exact ((calls_checkRecord rec x.input).mono harmless_of_reads).bind fun _ => trivial
  · have hreplay := (calls_afterReplay x.exchanger x.input).bind_returns
      afterReplay_returns fun a ha => calls_proceed_noIssue (x := x) (.inl ha)
    have hfailed :=
        fun err => (calls_mapConsumeError (e := x.exchanger) x.input.token err).bind_returns
      (mapConsumeError_refuses _ err) fun a ha => calls_proceed_noIssue (x := x) (.inl ha.noIssue)
    refine ⟨fun rec hid => ?_, fun rec => ?_, fun err => ?_⟩
    · change Ticketed D _ ((if rec.consumedAt = none then _ else _) >>= x.proceed)
      split_ifs
      · rw [Prog.pure_eq, Prog.ret_bind]
        refine ticketed_proceed hrot ?_
        intro ex hex
        cases hex
      · have hcheck : (do return answer (← Exchanger.checkRecord rec x.input) :
            Program Answer).Returns
              fun a => ∀ ex, a.result = .ok ex → ex.consumedID = x.input.token := by
          refine (checkRecord_returns rec x.input).bind fun r hr => ?_
          intro ex hex
          obtain ⟨_, scope, _, rfl⟩ := hr.2 ex hex
          exact hid
        have hcalls := (calls_checkRecord rec x.input).mono harmless_of_reads
        exact ticketed_bind (hcalls.bind fun _ => trivial) hcheck
          fun a ha => ticketed_proceed hrot ha
    · exact hreplay
    · cases err with
      | alreadyConsumed => exact hreplay
      | notFound => exact hfailed .notFound
      | alreadyExists => exact hfailed .alreadyExists
      | conflict => exact hfailed .conflict
      | other text => exact hfailed (.other text)

end

/-! ### The invariant of the sessions -/

/-- The right to save a successor under the key. -/
structure Ticket (D : KeyDigest) (s : RefreshStore) (key : String) : Prop where
  consumed : Consumed s key
  unused : ∀ b, ¬Link D s key b

/-- What a session with or without a ticket may still do. -/
def Entitled (D : KeyDigest) : Option String → Program Outcome → Prop
  | none, p => Unticketed D p
  | some key, p => Ticketed D key p

/-- The tickets the sessions hold: each is valid and held by one session. -/
structure Chains (D : KeyDigest) (c : Config World StoreCall StoreCall.Reply Outcome)
    (ticket : ℕ → Option String) : Prop where
  straight : Straight D c.shared.store
  valid : ∀ i key, ticket i = some key → Ticket D c.shared.store key
  distinct : ∀ i j key, ticket i = some key → ticket j = some key → i = j
  entitled : ∀ (i : ℕ) p, c.threads[i]? = some p → Entitled D (ticket i) p
  absent : ∀ i, c.threads.length ≤ i → ticket i = none

variable {token : RefreshToken}

section
variable {D : KeyDigest} {s s' : RefreshStore}

lemma Ticket.stamps (h : Ticket D s key) (hst : StampsRows s s') :
    Ticket D s' key :=
  ⟨h.consumed.evolves hst.evolves, fun b hb => h.unused b ((link_stamps hst key b).mp hb)⟩

lemma Ticket.insert (h : Ticket D s key)
    (hadm : Admits D s token) (hother : ∀ p, token.parentID = some p → D.hashKey p ≠ key) :
    Ticket D (withRow D s token) key where
  consumed := h.consumed.evolves (evolves_insert hadm.fresh _)
  unused b hb := by
    rcases (link_insert hadm key b).mp hb with hold | ⟨_, p, hp, hkey⟩
    · exact h.unused b hold
    · exact hother p hp hkey

variable {c : Config World StoreCall StoreCall.Reply Outcome} {ticket : ℕ → Option String} {i : ℕ}

/-- One session moves: the store, its program and its ticket change. -/
theorem Chains.act (h : Chains D c ticket) {p p' : Program Outcome} (hp : c.threads[i]? = some p)
    {w' : World} (held : Option String) (hstraight : Straight D w'.store)
    (hothers : ∀ j key, j ≠ i → ticket j = some key → Ticket D w'.store key)
    (hown : ∀ key, held = some key → Ticket D w'.store key ∧ ∀ j, j ≠ i → ticket j ≠ some key)
    (hentitled : Entitled D held p') :
    Chains D ⟨w', c.threads.set i p'⟩ (Function.update ticket i held) := by
  have hi : i < c.threads.length := (List.getElem?_eq_some_iff.mp hp).choose
  constructor
  case straight => exact hstraight
  case valid =>
    intro j key hj
    by_cases hji : j = i
    · subst hji
      rw [Function.update_self] at hj
      exact (hown key hj).1
    · rw [Function.update_of_ne hji] at hj
      exact hothers j key hji hj
  case distinct =>
    intro j j' key hj hj'
    by_cases hji : j = i
    · by_cases hji' : j' = i
      · exact hji.trans hji'.symm
      · subst hji
        rw [Function.update_self] at hj
        rw [Function.update_of_ne hji'] at hj'
        exact absurd hj' ((hown key hj).2 j' hji')
    · rw [Function.update_of_ne hji] at hj
      by_cases hji' : j' = i
      · subst hji'
        rw [Function.update_self] at hj'
        exact absurd hj ((hown key hj').2 j hji)
      · rw [Function.update_of_ne hji'] at hj'
        exact h.distinct j j' key hj hj'
  case entitled =>
    intro j q hq
    rw [List.getElem?_set] at hq
    split_ifs at hq with hij
    · cases hq
      subst hij
      rw [Function.update_self]
      exact hentitled
    · rw [Function.update_of_ne (Ne.symm hij)]
      exact h.entitled j q hq
  case absent =>
    intro j hj
    rw [List.length_set] at hj
    rw [Function.update_of_ne (by omega)]
    exact h.absent j hj

lemma stamps_harmless (ho : Harmless o) (ρ : KeyOrder) (w : World) :
    StampsRows w.store (handle D ρ o w).1.store := by
  cases o with
  | find id => exact .refl w.store
  | now => exact .refl w.store
  | consume id => exact ho.elim
  | save token => exact ho.elim
  | saveRotationWithRetry token contents => exact ho.elim
  | revokeChain rootID => exact stamps_revokeChain ρ w.clock w.store rootID
  | revokeByGrant grantID => exact stamps_revokeByGrant ρ w.clock w.store grantID

lemma chains_harmless (h : Chains D c ticket) {k : o.Reply → Program Outcome}
    (hp : c.threads[i]? = some (.call o k)) (ho : Harmless o) (ρ : KeyOrder) :
    ∃ ticket', Chains D ⟨(handle D ρ o c.shared).1,
      c.threads.set i (k (handle D ρ o c.shared).2)⟩ ticket' := by
  have hst := stamps_harmless (D := D) ho ρ c.shared
  refine ⟨_, h.act hp (ticket i) (straight_stamps h.straight hst)
    (fun j key _ hj => (h.valid j key hj).stamps hst)
    (fun key hkey => ⟨(h.valid i key hkey).stamps hst, fun j hne hj => ?_⟩) ?_⟩
  · exact hne (h.distinct j i key hj hkey)
  · have hentitled := h.entitled i _ hp
    cases hheld : ticket i with
    | none =>
      rw [hheld] at hentitled
      exact (unticketed_harmless ho).mp hentitled _
    | some key =>
      rw [hheld] at hentitled
      exact (ticketed_harmless ho).mp hentitled _

lemma not_consumed_of_consume {now : Time} {id : String} {rec : RefreshToken}
    (h : (consume D now s id).2 = .consumed rec) : ¬Consumed s (D.hashKey id) := by
  rintro ⟨row, hrow, hcons⟩
  exact consume_of_consumed hrow hcons now rec h

section
variable (h : Chains D c ticket)
include h

lemma chains_consume {id : String} {k : ConsumeResult RefreshToken → Program Outcome}
    (hp : c.threads[i]? = some (.call (.consume id) k)) (ρ : KeyOrder) :
    ∃ ticket', Chains D ⟨(handle D ρ (.consume id) c.shared).1,
      c.threads.set i (k (handle D ρ (.consume id) c.shared).2)⟩ ticket' := by
  have hentitled := h.entitled i _ hp
  cases hheld : ticket i with
  | some key =>
    rw [hheld] at hentitled
    exact hentitled.1.elim
  | none =>
    rw [hheld] at hentitled
    obtain ⟨hconsumed, hreplayed, hfailed⟩ := hentitled
    have hst := stamps_consume (D := D) c.shared.clock c.shared.store id
    change ∃ ticket', Chains D ⟨⟨(consume D c.shared.clock c.shared.store id).1, c.shared.clock⟩,
      c.threads.set i (k (consume D c.shared.clock c.shared.store id).2)⟩ ticket'
    have hkeep : ∀ j key, j ≠ i → ticket j = some key →
        Ticket D (consume D c.shared.clock c.shared.store id).1 key :=
      fun j key _ hj => (h.valid j key hj).stamps hst
    cases hreply : (consume D c.shared.clock c.shared.store id).2 with
    | failed err =>
      exact ⟨_, h.act hp none (straight_stamps h.straight hst) hkeep (fun key hkey => by cases hkey)
        (unticketed_of_calls (hfailed err))⟩
    | alreadyConsumed rec =>
      exact ⟨_, h.act hp none (straight_stamps h.straight hst) hkeep (fun key hkey => by cases hkey)
        (unticketed_of_calls (hreplayed rec))⟩
    | consumed rec =>
      obtain ⟨hid, row, hrow, hcons, _⟩ := consume_consumed hreply
      have hunspent := not_consumed_of_consume hreply
      refine ⟨_, h.act hp (some (D.hashKey id)) (straight_stamps h.straight hst) hkeep
        (fun key hkey => ?_) (hconsumed rec hid)⟩
      cases hkey
      -- the record was not consumed before: it has no successor and nobody a ticket for it
      refine ⟨⟨⟨row, hrow, hcons⟩, fun b hb => ?_⟩, fun j _ hj => ?_⟩
      · exact hunspent (h.straight.parent _ b ((link_stamps hst _ b).mp hb))
      · exact hunspent (h.valid j _ hj).consumed

lemma chains_save {k : StoreReply → Program Outcome}
    (hp : c.threads[i]? = some (.call (.save token) k)) (ρ : KeyOrder) :
    ∃ ticket', Chains D ⟨(handle D ρ (.save token) c.shared).1,
      c.threads.set i (k (handle D ρ (.save token) c.shared).2)⟩ ticket' := by
  have hentitled := h.entitled i _ hp
  cases hheld : ticket i with
  | none =>
    rw [hheld] at hentitled
    exact hentitled.1.elim
  | some key =>
    rw [hheld] at hentitled
    obtain ⟨⟨p, hparent, rfl⟩, hrest⟩ := hentitled
    have hticket := h.valid i _ hheld
    change ∃ ticket', Chains D ⟨⟨(save D c.shared.store (some token)).1, c.shared.clock⟩,
      c.threads.set i (k (save D c.shared.store (some token)).2)⟩ ticket'
    rcases save_cases (D := D) c.shared.store (some token) with
      ⟨err, heq⟩ | ⟨tok, htok, hadm, heq⟩
    · rw [heq]
      exact ⟨_, h.act hp none h.straight (fun j key _ hj => h.valid j key hj)
        (fun key hkey => by cases hkey) (unticketed_of_calls (hrest _))⟩
    · cases htok
      rw [heq]
      refine ⟨_, h.act hp none
        (straight_insert_child h.straight hadm hparent hticket.consumed hticket.unused)
        (fun j key hne hj => (h.valid j key hj).insert hadm fun p' hp' hkey => ?_)
        (fun key hkey => by cases hkey) (unticketed_of_calls (hrest _))⟩
      rw [hparent, Option.some.injEq] at hp'
      subst hp' hkey
      exact hne (h.distinct j i _ hj hheld)

lemma chains_root (hroot : token.parentID = none) :
    Chains D ⟨⟨(save D c.shared.store (some token)).1, c.shared.clock⟩, c.threads⟩ ticket := by
  rcases save_cases (D := D) c.shared.store (some token) with ⟨err, heq⟩ | ⟨tok, htok, hadm, heq⟩
  · rw [heq]
    exact ⟨h.straight, h.valid, h.distinct, h.entitled, h.absent⟩
  · cases htok
    rw [heq]
    refine ⟨straight_insert_root h.straight hadm hroot, fun i key hi => ?_, h.distinct, h.entitled,
      h.absent⟩
    exact (h.valid i key hi).insert hadm fun p hp => by simp [hroot] at hp

lemma chains_stamps {w : World} (hst : StampsRows c.shared.store w.store) :
    Chains D ⟨w, c.threads⟩ ticket :=
  ⟨straight_stamps h.straight hst, fun i key hi => (h.valid i key hi).stamps hst, h.distinct,
    h.entitled, h.absent⟩

lemma chains_ambient {u : Surroundings} (hroot : u.Rootless) :
    Chains D ⟨u.apply D c.shared, c.threads⟩ ticket := by
  cases u with
  | tick elapsed => exact ⟨h.straight, h.valid, h.distinct, h.entitled, h.absent⟩
  | root issuer fresh now input =>
    dsimp only [Surroundings.apply]
    cases validateIssue input with
    | error _ => exact ⟨h.straight, h.valid, h.distinct, h.entitled, h.absent⟩
    | ok _ => exact chains_root h hroot
  | revokeChain ρ rootID => exact chains_stamps h (stamps_revokeChain ρ _ _ rootID)
  | revokeByGrant ρ grantID => exact chains_stamps h (stamps_revokeByGrant ρ _ _ grantID)

lemma chains_start {x : Session} (hrot : x.Rotates) :
    Chains D ⟨c.shared, c.threads ++ [x.run]⟩ ticket where
  straight := h.straight
  valid := h.valid
  distinct := h.distinct
  absent i hi := h.absent i (by rw [List.length_append] at hi; omega)
  entitled i p hp := by
    rw [List.getElem?_append] at hp
    split_ifs at hp with hi
    · exact h.entitled i p hp
    · rw [List.getElem?_singleton] at hp
      split_ifs at hp
      cases hp
      rw [h.absent i (by omega)]
      exact unticketed_run hrot

end

lemma chains_step (h : ∃ ticket, Chains D c ticket) {m : Move KeyOrder Surroundings Session}
    (hm : m.Ok Surroundings.Rootless Session.Rotates) :
    ∃ ticket', Chains D ((refreshSystem D).step c m) ticket' := by
  obtain ⟨ticket, h⟩ := h
  cases m with
  | ambient u => exact ⟨ticket, chains_ambient h hm⟩
  | start x => exact ⟨ticket, chains_start h hm⟩
  | act i ρ =>
    rcases (refreshSystem D).step_act (c := c) (i := i) (e := ρ) with ⟨o, k, hp, heq⟩ | heq
    · rw [heq]
      cases o with
      | save token => exact chains_save h hp ρ
      | saveRotationWithRetry token contents =>
        -- no session makes this call
        have hentitled := h.entitled i _ hp
        cases hheld : ticket i with
        | none =>
          rw [hheld] at hentitled
          exact hentitled.1.elim
        | some key =>
          rw [hheld] at hentitled
          exact hentitled.1.elim
      | consume id => exact chains_consume h hp ρ
      | find id => exact chains_harmless h hp trivial ρ
      | now => exact chains_harmless h hp trivial ρ
      | revokeChain rootID => exact chains_harmless h hp trivial ρ
      | revokeByGrant grantID => exact chains_harmless h hp trivial ρ
    · rw [heq]
      exact ⟨ticket, h⟩

lemma chains_new (clock : Time) : Chains D (start clock) fun _ => none where
  straight := straight_new
  valid i key hi := by cases hi
  distinct i j key hi := by cases hi
  entitled i p hp := by simp [start] at hp
  absent i _ := rfl

lemma straight_execute (clock : Time) {ms : Moves}
    (hms : ∀ m ∈ ms, m.Ok Surroundings.Rootless Session.Rotates) :
    Straight D (refreshRun D clock ms).shared.store := by
  obtain ⟨ticket, h⟩ := (refreshSystem D).execute_invariant
    (P := fun c => ∃ ticket, Chains D c ticket) (fun c m hm h => chains_step h hm)
    ⟨_, chains_new clock⟩ hms
  exact h.straight

end

/-! ### The grace window only reads -/

/-- Once a call of the program has changed the world, its result is in `N`. -/
def Quiet (D : KeyDigest) {A : Type} (N : A → Prop) : Program A → Prop
  | .ret _ => True
  | .call o k => (∀ ρ w, (handle D ρ o w).1 ≠ w → (k (handle D ρ o w).2).Returns N) ∧
      ∀ reply, Quiet D N (k reply)

section
variable {D : KeyDigest} {A B : Type} {N : A → Prop} {p : Program A}

lemma quiet_of_returns (hp : p.Returns N) : Quiet D N p := by
  induction p with
  | ret a => trivial
  | call o k ih => exact ⟨fun _ _ _ => hp _, fun reply => ih reply (hp reply)⟩

lemma handle_reads (ho : Reads o) (ρ : KeyOrder) (w : World) :
    (handle D ρ o w).1 = w := by
  cases o with
  | find id => rfl
  | now => rfl
  | _ => exact ho.elim

lemma quiet_of_reads (hp : p.Calls Reads) : Quiet D N p := by
  induction p with
  | ret a => trivial
  | call o k ih =>
    exact ⟨fun ρ w hne => absurd (handle_reads hp.1 ρ w) hne, fun reply => ih reply (hp.2 reply)⟩

lemma Quiet.bind {N' : B → Prop} {f : A → Program B} (hp : Quiet D N p)
    (hN : ∀ a, N a → (f a).Returns N') (hf : ∀ a, Quiet D N' (f a)) : Quiet D N' (p >>= f) := by
  induction p with
  | ret a => exact hf a
  | call o k ih => exact ⟨fun ρ w hne => (hp.1 ρ w hne).bind hN, fun reply => ih reply (hp.2 reply)⟩

lemma quiet_ask (ho : Reads o) {k : o.Reply → Program A}
    (hk : ∀ reply, Quiet D N (k reply)) : Quiet D N (ask o >>= k) :=
  ⟨fun ρ w hne => absurd (handle_reads ho ρ w) hne, hk⟩

lemma quiet_bind_reads {N' : B → Prop} {f : A → Program B} (hp : p.Calls Reads)
    (hf : ∀ a, Quiet D N' (f a)) : Quiet D N' (p >>= f) :=
  (quiet_of_reads (N := fun _ => False) hp).bind (fun _ h => h.elim) hf

end

section
variable {D : KeyDigest} {e : Exchanger} {input : ExchangeInput}

lemma checkRecord_outsideGrace (rec : RefreshToken) :
    (do return answer (← Exchanger.checkRecord rec input) : Program Answer).Returns
      OutsideGrace := by
  refine (checkRecord_returns rec input).bind fun r hr => ?_
  intro ex hex
  obtain ⟨_, scope, _, rfl⟩ := hr.2 ex hex
  rfl

lemma quiet_tryGrace :
    Quiet D (fun out => ∀ a, out = some a → OutsideGrace a) (e.tryGrace input) := by
  unfold Exchanger.tryGrace
  split_ifs
  · trivial
  refine quiet_ask (o := .find input.token) trivial fun reply => ?_
  cases reply with
  | error err => cases err <;> trivial
  | ok rec =>
    refine quiet_bind_reads (calls_withinGraceWindow rec) fun inside => ?_
    cases inside with
    | false => trivial
    | true =>
      refine quiet_bind_reads (calls_graceExchange rec input) fun r => ?_
      have hreplay : Quiet D (fun out => ∀ a, out = some a → OutsideGrace a)
          (do return some (← e.replayed input.token)) := by
        refine quiet_of_returns ((replayed_refuses input.token).bind fun a ha => ?_)
        intro a' ha'
        cases ha'
        exact ha.outsideGrace
      cases r with
      | ok ex => trivial
      | error err =>
        cases err with
        | tokenExpired => trivial
        | _ => exact hreplay

lemma consumed_of_changed {ρ : KeyOrder} {id : String} {w : World}
    (hne : (handle D ρ (.consume id) w).1 ≠ w) :
    ∃ rec, (handle D ρ (.consume id) w).2 = .consumed rec := by
  have hworld : ∀ {r}, consume D w.clock w.store id = (w.store, r) →
      (handle D ρ (.consume id) w).1 = w := by
    intro r heq
    change (⟨(consume D w.clock w.store id).1, w.clock⟩ : World) = w
    rw [heq]
  rcases consume_cases (D := D) w.clock w.store id with
    ⟨err, heq⟩ | ⟨row, _, _, _, ⟨t, _, heq⟩ | ⟨_, heq⟩⟩
  · exact absurd (hworld heq) hne
  · exact absurd (hworld heq) hne
  · exact ⟨_, congrArg Prod.snd heq⟩

lemma quiet_exchange : Quiet D OutsideGrace (e.exchange input) := by
  unfold Exchanger.exchange Exchanger.exchangeWithoutRotation
  split_ifs
  · trivial
  · refine quiet_ask (o := .find input.token) trivial fun reply => ?_
    cases reply with
    | error err => cases err <;> trivial
    | ok rec =>
      dsimp only
      split_ifs
      · exact quiet_of_returns ((mapConsumeError_refuses _ _).mono fun _ => Refuses.outsideGrace)
      · exact quiet_bind_reads (calls_checkRecord rec input) fun _ => trivial
  · have hrefused := fun err => (mapConsumeError_refuses (e := e) input.token err).mono
      fun _ => Refuses.outsideGrace
    have hfailed : ∀ err, Quiet D OutsideGrace (e.mapConsumeError input.token err) :=
      fun err => quiet_of_returns (hrefused err)
    have hafter : Quiet D OutsideGrace (afterReplay e input) := by
      refine quiet_tryGrace.bind (fun out hout => ?_) fun out => ?_
      · cases out with
        | some handled => exact hout handled rfl
        | none => exact hrefused .alreadyConsumed
      · cases out with
        | some handled => trivial
        | none => exact hfailed .alreadyConsumed
    have hconsumed : ∀ rec : RefreshToken, (if rec.consumedAt = none then
        pure (answer (.error (.other "refresh: store returned record without ConsumedAt")))
        else do return answer (← Exchanger.checkRecord rec input) :
          Program Answer).Returns OutsideGrace := by
      intro rec
      split_ifs
      · exact Refuses.outsideGrace ⟨_, rfl⟩
      · exact checkRecord_outsideGrace rec
    refine ⟨fun ρ w hne => ?_, fun reply => ?_⟩
    · obtain ⟨rec, hrec⟩ := consumed_of_changed hne
      rw [hrec]
      exact hconsumed rec
    · cases reply with
      | consumed rec => exact quiet_of_returns (hconsumed rec)
      | alreadyConsumed rec => exact hafter
      | failed err =>
        cases err with
        | alreadyConsumed => exact hafter
        | notFound => exact hfailed .notFound
        | alreadyExists => exact hfailed .alreadyExists
        | conflict => exact hfailed .conflict
        | other text => exact hfailed (.other text)

lemma proceed_returns (x : Session) (a : Answer) :
    (x.proceed a).Returns fun out => out.answer = a := by
  unfold Session.proceed
  cases a.result with
  | error err => rfl
  | ok ex =>
    dsimp only
    split_ifs
    · rfl
    · exact (Prog.returns_true _).bind fun _ _ => rfl

lemma proceed_outsideGrace (x : Session) (ha : OutsideGrace a) :
    (x.proceed a).Returns fun out => OutsideGrace out.answer :=
  (proceed_returns x a).mono fun _ hout => hout ▸ ha

lemma quiet_run (x : Session) : Quiet D (fun out => OutsideGrace out.answer) x.run := by
  refine quiet_exchange.bind (fun a ha => proceed_outsideGrace x ha) fun a => ?_
  unfold Session.proceed
  cases hres : a.result with
  | error err => trivial
  | ok ex =>
    dsimp only
    split_ifs with hstop
    · trivial
    · refine quiet_of_returns ((Prog.returns_true _).bind fun issued _ => ?_)
      intro ex' hex'
      rw [hres, Except.ok.injEq] at hex'
      subst hex'
      exact Bool.eq_false_of_not_eq_true (not_or.mp hstop).1

end

/-! ### The sessions on one store -/

/-- A call of a session that ends with an answer from the grace window leaves
the world as it is. -/
theorem grace_changes_nothing {D : KeyDigest} {clock : Time}
    {before after : Moves} {i : ℕ} {ρ : KeyOrder}
    (hms : ∀ m ∈ before, m.Ok Surroundings.Rootless Session.Rotates) {out : Outcome}
    (hout : System.outcome (refreshRun D clock (before ++ .act i ρ :: after)) i = some out)
    (hgrace : ¬OutsideGrace out.answer) :
    (refreshRun D clock (before ++ [.act i ρ])).shared = (refreshRun D clock before).shared := by
  have hquiet := (refreshSystem D).execute_threads (T := Quiet D fun out => OutsideGrace out.answer)
    (fun o k r h => h.2 r) (fun x _ => quiet_run x)
    (c := start clock) (fun j p hp => by simp [start] at hp) hms
  unfold refreshRun at hout ⊢
  rw [System.execute_append] at hout ⊢
  generalize (refreshSystem D).execute (start clock) before = c at hout hquiet ⊢
  change System.outcome ((refreshSystem D).execute ((refreshSystem D).step c (.act i ρ)) after) i =
    some out at hout
  change ((refreshSystem D).step c (.act i ρ)).shared = c.shared
  rcases (refreshSystem D).step_act (c := c) (i := i) (e := ρ) with ⟨o, k, hp, heq⟩ | heq
  · rw [heq] at hout ⊢
    by_contra hne
    -- the program has changed the world, so it cannot end in the grace window
    have hreturns := (hquiet i _ hp).1 ρ c.shared hne
    have hi : i < c.threads.length := (List.getElem?_eq_some_iff.mp hp).choose
    obtain ⟨p', hp', hend⟩ := (refreshSystem D).execute_thread
      (T := Prog.Returns fun out => OutsideGrace out.answer) (fun o k r h => h r)
      (c := ⟨(handle D ρ o c.shared).1, c.threads.set i (k (handle D ρ o c.shared).2)⟩)
      (List.getElem?_set_self hi) hreturns after
    have hsame := (System.outcome_eq_some.mp hout).symm.trans hp'
    rw [Option.some.injEq] at hsame
    rw [← hsame] at hend
    exact hgrace hend
  · rw [heq]

/-- In every interleaving of sessions that save their successor under the token
they consumed: a record is the parent of at most one stored record; of records
connected by parent links at most one is not consumed; and the calls of a
session that was answered from the grace window changed nothing. -/
theorem rotation_chains_linear (D : KeyDigest) (clock : Time) (ms : Moves)
    (hms : ∀ m ∈ ms, m.Ok Surroundings.Rootless Session.Rotates) :
    let s := (refreshRun D clock ms).shared.store
    (∀ parentKey key key', Link D s parentKey key → Link D s parentKey key' → key = key') ∧
      (∀ key key' row row', Relation.EqvGen (Link D s) key key' → s.m.lookup key = some row →
        s.m.lookup key' = some row' → row.consumedAt = none → row'.consumedAt = none →
          key = key') ∧
      ∀ before ρ after i out ex, ms = before ++ .act i ρ :: after →
        System.outcome (refreshRun D clock ms) i = some out →
        out.answer.result = .ok ex → ex.inGrace = true →
          (refreshRun D clock (before ++ [.act i ρ])).shared =
            (refreshRun D clock before).shared := by
  intro s
  have hstraight : Straight D s := straight_execute clock hms
  refine ⟨fun _ _ _ h h' => hstraight.unique.2 h h', ?_, ?_⟩
  · intro key key' row row' hconn hrow hrow' hopen hopen'
    -- a record with a successor is consumed
    have hend : ∀ {k r}, s.m.lookup k = some r → r.consumedAt = none → ∀ b, ¬Link D s k b := by
      intro k r hr hnone b hlink
      obtain ⟨r', hr', hcons⟩ := hstraight.parent k b hlink
      rw [hr, Option.some.injEq] at hr'
      rw [← hr', hnone] at hcons
      cases hcons
    exact eq_of_connected_ends hstraight.unique hconn (hend hrow hopen) (hend hrow' hopen')
  · intro before ρ after i out ex heq hout hres hgrace
    subst heq
    refine grace_changes_nothing (fun m hm => hms m (List.mem_append_left _ hm)) hout
      fun houtside => ?_
    rw [houtside ex hres] at hgrace
    cases hgrace

/-- After the rotation of "a" a retry within the grace window, call by call. -/
def retried : Moves :=
  rotated 0 ++ [.start (presenting 0 "d")] ++ List.replicate 4 (.act 1 ascending)

theorem rotation_chains_linear_retried :
    (System.outcome (refreshRun plainDigest 1 retried) 1).map
        (fun out => out.answer.result.toOption.map Exchanged.inGrace) = some (some true) ∧
      (refreshRun plainDigest 1 retried).shared.store.m.keys = {"#a", "#b"} ∧
      ∀ parentKey key key',
        Link plainDigest (refreshRun plainDigest 1 retried).shared.store parentKey key →
        Link plainDigest (refreshRun plainDigest 1 retried).shared.store parentKey key' →
          key = key' := by
  have hms : ∀ m ∈ retried, m.Ok Surroundings.Rootless Session.Rotates := by
    simp only [retried, rotated, List.forall_mem_append, List.forall_mem_cons,
      List.forall_mem_replicate, Move.Ok, Surroundings.Rootless, presenting_rotates,
      List.not_mem_nil, false_imp_iff, implies_true, and_true, or_true]
    rfl
  exact ⟨by decide +kernel, by decide +kernel, (rotation_chains_linear plainDigest 1 retried hms).1⟩

end OidcProvider.RotationChains
