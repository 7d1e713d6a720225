import OidcProvider.RefreshSessions

/-!
# A replay kills the chain

Sessions that rotate within their grant keep the lineage of the store, whatever
the interleaving, so the outline of each holds to its end. A session that was
told of a replay has therefore left the presented record revoked, and with it
the whole rotation chain dead for good, or the record expired while the cascade
ran and the failure was reported.
-/
namespace OidcProvider.ReplayedChains
open FiniteMaps SecondaryIndexes StoreRecords RefreshTokenStore RotationLineage ResumptionPrograms
open ChainRetirement RefreshGrant ReplayCascade RefreshSessions

section
variable {D : KeyDigest} {H : Heritage}

/-! ### Outlines of a session -/

lemma succeeds_record {x : Session} (hrot : x.Rotates) (hgrant : x.StaysInGrant) {ex : Exchanged}
    {w : World} (hspent : Spent D ex w) (now : Time) :
    Succeeds D .ofGrant w.store (x.issuer.record x.fresh now (x.rotate ex)) where
  unrevoked := rfl
  named := by
    change (x.rotate ex).parentID ≠ some ""
    rw [hrot ex]
    simpa using hspent.1
  parent p hp := by
    change (x.rotate ex).parentID = some p at hp
    rw [hrot ex, Option.some.injEq] at hp
    subst hp
    obtain ⟨row, hrow, hcons, scope, _, hex⟩ := hspent.2
    refine ⟨row, hrow, hcons, ?_⟩
    change row.grantID = (x.rotate ex).grantID
    rw [(hgrant ex).2, hex]
    rfl

def Finished (D : KeyDigest) (out : Outcome) (w : World) : Prop :=
  Leaves D out.session.exchanger out.session.input out.answer w

lemma upholds_session {x : Session} (hrot : x.Rotates) (hgrant : x.StaysInGrant) {w : World}
    (h : Lineage D .ofGrant w.store) :
    Upholds (handle D) (rotation D .ofGrant) (Finished D) x.run w := by
  refine (upholds_exchange w).bind h fun a w₁ h₁ ha => ?_
  have hret : ∀ issued,
      Upholds (handle D) (rotation D .ofGrant) (Finished D) (pure ⟨x, a, issued⟩) w₁ :=
    fun issued => upholds_ret fun _ hG _ => ha.stable hG
  unfold Session.proceed
  cases hres : a.result with
  | error err => exact hret none
  | ok ex =>
    dsimp only
    by_cases hstop : ex.inGrace = true ∨ x.exchanger.rotationDisabled = true
    · rw [if_pos hstop]
      exact hret none
    · rw [if_neg hstop]
      obtain ⟨hgrace, henabled⟩ := not_or.mp hstop
      have hspent := (ha.spent ex hres (Bool.eq_false_of_not_eq_true hgrace)
        (Bool.eq_false_of_not_eq_true henabled)).1
      have hissue : Upholds (handle D) (rotation D .ofGrant) (fun _ _ => True)
          (x.issuer.issue x.fresh (x.rotate ex)) w₁ :=
        (upholds_issue fun now w' hG => succeeds_record hrot hgrant (hspent.stable hG) now).imp
          fun _ _ _ _ => trivial
      refine (hissue.frame (F := Finished D ⟨x, a, none⟩) (fun _ _ hG h => h.stable hG) ha).bind h₁
        fun issued w₂ _ hw₂ => upholds_ret fun _ hG _ => hw₂.2.stable hG

end

/-! ### Every interleaving -/

/-- The moves of a system whose sessions rotate within their grant. -/
abbrev Admissible : Move KeyOrder Surroundings Session → Prop :=
  Move.Ok Surroundings.Rootless fun x => x.Rotates ∧ x.StaysInGrant

lemma outlined_of_admissible (D : KeyDigest) (clock : Time)
    {ms : Moves} (hms : ∀ m ∈ ms, Admissible m) :
    Outlined (rotation D .ofGrant) (handle D) (Finished D)
      (refreshRun D clock ms) := by
  have hstart : Outlined (rotation D .ofGrant) (handle D) (Finished D) (start clock) :=
    ⟨lineage_new, fun i p hp => by simp [start] at hp⟩
  exact outlined_execute (Y := refreshSystem D) (fun u w hu h => surroundings_disciplined hu h)
    (fun x w hx h => upholds_session hx.1 hx.2 h) hstart hms

/-! ### Dead for good -/

inductive LaterCall where
  | save (token : Option RefreshToken)
  | consume (now : Time) (id : String)
  | revokeChain (ρ : KeyOrder) (now : Time) (rootID : String)
  | revokeByGrant (ρ : KeyOrder) (now : Time) (grantID : String)

def LaterCall.apply (D : KeyDigest) (s : RefreshStore) : LaterCall → RefreshStore
  | .save token => (RefreshTokenStore.save D s token).1
  | .consume now id => (RefreshTokenStore.consume D now s id).1
  | .revokeChain ρ now rootID => (RefreshTokenStore.revokeChain D ρ now s rootID).1
  | .revokeByGrant ρ now grantID => RefreshTokenStore.revokeByGrant ρ now s grantID

lemma deadChain_later {D : KeyDigest} {s : RefreshStore} {key : String} (h : DeadChain s key)
    (calls : List LaterCall) : DeadChain (calls.foldl (LaterCall.apply D) s) key := by
  induction calls generalizing s with
  | nil => exact h
  | cons call calls ih =>
    refine ih ?_
    cases call with
    | save token => exact deadChain_save h token
    | consume now id => exact deadChain_stamps (stamps_consume now s id) h
    | revokeChain ρ now rootID => exact deadChain_stamps (stamps_revokeChain ρ now s rootID) h
    | revokeByGrant ρ now grantID => exact deadChain_stamps (stamps_revokeByGrant ρ now s grantID) h

/-- After any further calls no token of the chain through the key is consumed. -/
def Unspendable (D : KeyDigest) (s : RefreshStore) (key : String) : Prop :=
  ∀ (calls : List LaterCall) (id : String) (now : Time) (rec : RefreshToken),
    InChain (calls.foldl (LaterCall.apply D) s) key (D.hashKey id) →
      (consume D now (calls.foldl (LaterCall.apply D) s) id).2 ≠ .consumed rec

/-- In every interleaving of sessions that rotate within their grant: a session
whose inline cascade answered a replay of a granted record has killed the chain
of that record for good, or the record had expired by then and the cascade
reported that it found nothing to revoke. -/
theorem replay_kills_chain_or_reports (D : KeyDigest) (clock : Time) (ms : Moves)
    (hms : ∀ m ∈ ms, Admissible m) (i : ℕ) (out : Outcome)
    (hdone : System.outcome (refreshRun D clock ms) i = some out)
    (hreplay : out.answer.result = .error .tokenReplayed)
    (hinline : out.session.exchanger.deferCascade = false) (row : RefreshToken)
    (hrow : (refreshRun D clock ms).shared.store.m.lookup
      (D.hashKey out.session.input.token) = some row)
    (hgrant : row.grantID ≠ "") (horigin : row.origin ≠ .customGrant) :
    Unspendable D (refreshRun D clock ms).shared.store (D.hashKey out.session.input.token) ∨
      (isExpiredStrict row.expiresAt (refreshRun D clock ms).shared.clock = true ∧
        grantLookupFailed ∈ out.answer.events) := by
  have houtlined := outlined_of_admissible D clock hms
  generalize refreshRun D clock ms = c at hdone hrow houtlined ⊢
  have hfinished : Finished D out c.shared :=
    (houtlined.threads i _ (System.outcome_eq_some.mp hdone)).result houtlined.inv
  obtain ⟨row', hrow', hsettled⟩ := hfinished.replayed hreplay hinline
  rw [hrow, Option.some.injEq] at hrow'
  subst hrow'
  rcases hsettled with (hungranted | hrev) | hexpired
  · exact absurd hungranted (not_or.mpr ⟨hgrant, horigin⟩)
  · refine .inl fun calls id now rec hin => ?_
    have hlineage : Lineage D .ofGrant c.shared.store := houtlined.inv
    exact (deadChain_later (hlineage.deadChain hrow hrev) calls).not_consumed hin now rec
  · exact .inr hexpired

/-! ### Two runs -/

def replayedInTime : Moves :=
  rotated (-1) ++ [.start (presenting (-1) "d")] ++ List.replicate 4 (.act 1 ascending)

/-- A replay of "a" at its last instant: the clock moves on before the cascade. -/
def replayedLate : Moves :=
  rotated (-1) ++ [.ambient (.tick 51), .start (presenting (-1) "d"), .act 1 ascending,
    .ambient (.tick 1)] ++ List.replicate 2 (.act 1 ascending)

lemma admissible_rotated (graceTTL : Time) : ∀ m ∈ rotated graceTTL, Admissible m := by
  simp only [rotated, List.forall_mem_append, List.forall_mem_cons, List.forall_mem_replicate,
    Move.Ok, Surroundings.Rootless, presenting_rotates, presenting_staysInGrant, List.not_mem_nil,
    false_imp_iff, implies_true, and_true, or_true]
  rfl

lemma admissible_replayedInTime : ∀ m ∈ replayedInTime, Admissible m := by
  simp only [replayedInTime, List.forall_mem_append, List.forall_mem_cons,
    List.forall_mem_replicate, Move.Ok, presenting_rotates, presenting_staysInGrant,
    List.not_mem_nil, false_imp_iff,
    implies_true, and_true, or_true]
  exact admissible_rotated (-1)

lemma admissible_replayedLate : ∀ m ∈ replayedLate, Admissible m := by
  simp only [replayedLate, List.forall_mem_append, List.forall_mem_cons,
    List.forall_mem_replicate, Move.Ok, Surroundings.Rootless, presenting_rotates,
    presenting_staysInGrant,
    List.not_mem_nil, false_imp_iff, implies_true, and_true, or_true]
  exact admissible_rotated (-1)

/-- What can be compared of a finished session. -/
def Outcome.shown (out : Outcome) : Answer × Bool × String :=
  (out.answer, out.session.exchanger.deferCascade, out.session.input.token)

theorem replay_in_time_kills_chain :
    Unspendable plainDigest
      (refreshRun plainDigest 1 replayedInTime).shared.store "#a" := by
  have hshown :
      (System.outcome (refreshRun plainDigest 1 replayedInTime) 1).map
      Outcome.shown = some (⟨.error .tokenReplayed, [.replayDetected "a"]⟩, false, "a") := by
    decide +kernel
  obtain ⟨out, hdone, hshown⟩ := Option.map_eq_some_iff.mp hshown
  simp only [Outcome.shown, Prod.mk.injEq] at hshown
  obtain ⟨hanswer, hinline, htoken⟩ := hshown
  have hkey : plainDigest.hashKey out.session.input.token = "#a" := by rw [htoken]; decide
  have hstored : ((refreshRun plainDigest 1
      replayedInTime).shared.store.m.lookup "#a").map (fun row => (row.grantID, row.origin)) =
        some ("g", .authCode) := by decide +kernel
  obtain ⟨row, hrow, hfields⟩ := Option.map_eq_some_iff.mp hstored
  simp only [Prod.mk.injEq] at hfields
  have hkilled := replay_kills_chain_or_reports plainDigest 1 replayedInTime
    admissible_replayedInTime 1 out hdone (by rw [hanswer]) hinline row (by rw [hkey]; exact hrow)
    (by rw [hfields.1]; decide) (by rw [hfields.2]; decide)
  rw [hkey] at hkilled
  refine hkilled.resolve_right fun h => ?_
  rw [hanswer] at h
  exact absurd h.2 (by decide)

/-- The cascade that starts when the presented record has just expired revokes
nothing: the successor "b" is consumed after the replay was answered. -/
theorem late_replay_spares_successor :
    (∀ m ∈ replayedLate, Admissible m) ∧
      (System.outcome (refreshRun plainDigest 1 replayedLate) 1).map
          (fun out => (out.answer.result, out.session.exchanger.deferCascade,
            out.session.input.token)) = some (.error .tokenReplayed, false, "a") ∧
      ((refreshRun plainDigest 1 replayedLate).shared.store.m.lookup
          (plainDigest.hashKey "a")).map (fun row => (row.grantID, row.origin)) =
        some ("g", .authCode) ∧
      InChain (refreshRun plainDigest 1 replayedLate).shared.store
        (plainDigest.hashKey "a") (plainDigest.hashKey "b") ∧
      ∃ rec, (consume plainDigest
          (refreshRun plainDigest 1 replayedLate).shared.clock
          (refreshRun plainDigest 1 replayedLate).shared.store "b").2 =
        .consumed rec := by
  refine ⟨admissible_replayedLate, by decide +kernel, by decide +kernel, .inr ?_, ?_⟩
  · exact .single (by decide +kernel)
  · exact ⟨((newIssuer ⟨100⟩).record ⟨"b", "x"⟩ 50
      { opening with parentID := some "a" }).stampConsumed 102, by decide +kernel⟩

end OidcProvider.ReplayedChains
