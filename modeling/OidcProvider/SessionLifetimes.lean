import OidcProvider.SessionManager

/-!
# The absolute lifetime of a session

`Touch` holds the expiry down to `CreatedAt + absoluteTTL`. `Rotate` keeps the creation
time and grants a whole idle period all the same, and a new session starts with an
idle period whatever the cap is. The operations run one after the other here, and the
clock may move before each of their calls.
-/
namespace OidcProvider.SessionLifetimes
open FiniteMaps ResumptionPrograms SessionStore SessionManager StoreRecords

/-! ### Runs -/

/-- What happens at one call: time passes, and then the call is answered. -/
structure Tick where
  chance : Chance
  elapsed : ℕ

/-- The plans are those that `PlanEstablishment` has returned so far. -/
structure State where
  world : World
  plans : List Establishment

def start (clock : Time) : State := ⟨⟨Sessions.empty, clock, 0⟩, []⟩

inductive Operation where
  | plan (input : EstablishPlan)
  | establish (index : ℕ)
  | touch (sessionID : String)
  | touchAndReissue (active : Option Active)
  | rotate (oldSessionID : String)
  | switch (chooserGroupID targetSessionID : String)
  | remove (chooserGroupID currentSessionID removeID : String)
  | logout (sessionID : String)

section
variable (supply : ℕ → String)

def play {A : Type} (p : Program A) (ts : ℕ → Tick) (w : World) : World × A :=
  p.runAlone (fun t o w => handle supply t.chance o (w.advance t.elapsed)) ts w

variable (m : Manager)

def State.apply (c : State) (step : Operation × (ℕ → Tick)) : State :=
  match step.1 with
  | .plan input =>
    let planned := play supply (planEstablishment m input) step.2 c.world
    ⟨planned.1, c.plans ++ planned.2.toOption.toList⟩
  | .establish index =>
    match c.plans[index]? with
    | none => c
    | some e => { c with world := (play supply (establish e) step.2 c.world).1 }
  | .touch sessionID => { c with world := (play supply (touch m sessionID) step.2 c.world).1 }
  | .touchAndReissue active =>
    { c with world := (play supply (touchAndReissue m active) step.2 c.world).1 }
  | .rotate oldSessionID =>
    { c with world := (play supply (rotate m oldSessionID) step.2 c.world).1 }
  | .switch chooserGroupID targetSessionID =>
    { c with world := (play supply (switch chooserGroupID targetSessionID) step.2 c.world).1 }
  | .remove chooserGroupID currentSessionID removeID =>
    { c with
      world := (play supply (remove chooserGroupID currentSessionID removeID) step.2 c.world).1 }
  | .logout sessionID => { c with world := (play supply (logout sessionID) step.2 c.world).1 }

def run (clock : Time) (steps : List (Operation × (ℕ → Tick))) : State :=
  steps.foldl (State.apply supply m) (start clock)

end

/-! ### The cap -/

def Capped (m : Manager) (s : Sessions) : Prop :=
  ∀ id rec, s.m.lookup id = some rec → rec.expiresAt ≤ rec.createdAt + m.absoluteTTL

/-- What the operations do that save no session: rows may go, and the creation time of
those that stay is kept. -/
def Dwindles (s s' : Sessions) : Prop :=
  ∀ id rec', s'.m.lookup id = some rec' →
    ∃ rec, s.m.lookup id = some rec ∧ rec.createdAt = rec'.createdAt

lemma Dwindles.refl (s : Sessions) : Dwindles s s := fun _ rec h => ⟨rec, h, rfl⟩

lemma Dwindles.trans {a b c : Sessions} (hab : Dwindles a b) (hbc : Dwindles b c) :
    Dwindles a c := by
  intro id rec'' h
  obtain ⟨rec', h', hcreated'⟩ := hbc id rec'' h
  obtain ⟨rec, h'', hcreated⟩ := hab id rec' h'
  exact ⟨rec, h'', hcreated.trans hcreated'⟩

lemma Dwindles.of_subset {s s' : Sessions}
    (h : ∀ id rec, s'.m.lookup id = some rec → s.m.lookup id = some rec) : Dwindles s s' :=
  fun id rec hrec => ⟨rec, h id rec hrec, rfl⟩

lemma Capped.of_subset {m : Manager} {s s' : Sessions} (hs : Capped m s)
    (h : ∀ id rec, s'.m.lookup id = some rec → s.m.lookup id = some rec) : Capped m s' :=
  fun id rec hrec => hs id rec (h id rec hrec)

def discipline (m : Manager) : Discipline World where
  Inv w := Capped m w.sessions
  G w w' := Dwindles w.sessions w'.sessions
  refl w := Dwindles.refl w.sessions
  trans := Dwindles.trans

def Removes : Call → Prop
  | .save _ _ => False
  | .touch _ _ _ => False
  | _ => True

variable {e : Establishment}

section
variable {supply : ℕ → String} {m : Manager} {w : World} (groupID id : String)

lemma lookup_handle {o : Call} (ho : Removes o) (e : Chance) (w : World) {id : String}
    {rec : Session} (h : (handle supply e o w).1.sessions.m.lookup id = some rec) :
    w.sessions.m.lookup id = some rec := by
  rcases row_handle h with ⟨_, _, rfl⟩ | h | ⟨_, _, _, rfl, _⟩
  · exact ho.elim
  · exact h
  · exact ho.elim

lemma disciplined_of_removes {o : Call} (ho : Removes o) (e : Chance) (w : World)
    (hw : Capped m w.sessions) :
    (discipline m).Inv (handle supply e o w).1 ∧ (discipline m).G w (handle supply e o w).1 :=
  ⟨hw.of_subset fun _ _ => lookup_handle ho e w, .of_subset fun _ _ => lookup_handle ho e w⟩

lemma disciplined_touch {id : String} {expiresAt updatedAt : Time}
    (hcap : ∀ rec, w.sessions.m.lookup id = some rec → expiresAt ≤ rec.createdAt + m.absoluteTTL)
    (e : Chance) (hw : Capped m w.sessions) :
    (discipline m).Inv (handle supply e (.touch id expiresAt updatedAt) w).1 ∧
      (discipline m).G w (handle supply e (.touch id expiresAt updatedAt) w).1 := by
  constructor
  · intro key rec' h
    rcases row_handle h with ⟨_, _, ⟨⟩⟩ | h | ⟨rec, _, _, ⟨⟩, hrec, _, rfl⟩
    · exact hw key rec' h
    · exact hcap rec hrec
  · intro key rec' h
    rcases row_handle h with ⟨_, _, ⟨⟩⟩ | h | ⟨rec, _, _, ⟨⟩, hrec, _, rfl⟩
    · exact ⟨rec', h, rfl⟩
    · exact ⟨rec, hrec, rfl⟩

/-! ### The operations that save nothing -/

lemma calls_findSession : (findSession id).Calls Removes :=
  ⟨trivial, fun _ => trivial⟩

lemma calls_deleteQuietly : (deleteQuietly id).Calls Removes :=
  ⟨trivial, fun _ => trivial⟩

lemma calls_encode (issuedAt : ℤ) : (encode groupID id issuedAt).Calls Removes :=
  ⟨trivial, fun _ => trivial⟩

lemma calls_switch (target : String) : (switch groupID target).Calls Removes := by
  unfold switch
  split_ifs
  · exact trivial
  refine (calls_findSession target).bind fun r => ?_
  cases r with
  | error e => exact trivial
  | ok sess =>
    dsimp only
    split_ifs
    · exact trivial
    refine ⟨trivial, fun now => (calls_encode _ _ _).bind fun r => ?_⟩
    cases r <;> exact trivial

lemma calls_rebind (current removeID : String) (remaining : List Session) :
    (rebind groupID current removeID remaining).Calls Removes := by
  unfold rebind
  cases remaining with
  | nil => exact trivial
  | cons first rest =>
    split_ifs
    · exact trivial
    refine ⟨trivial, fun now => (calls_encode _ _ _).bind fun r => ?_⟩
    cases r <;> exact trivial

lemma calls_remove (current removeID : String) :
    (remove groupID current removeID).Calls Removes := by
  unfold remove
  split_ifs
  · exact trivial
  refine ⟨trivial, fun target => ?_⟩
  change (removeChecked groupID current removeID (foreign groupID target)).Calls Removes
  cases foreign groupID target with
  | some e => exact trivial
  | none =>
    refine (calls_deleteQuietly removeID).bind fun r => ?_
    cases r with
    | error e => exact trivial
    | ok _ => exact ⟨trivial, fun remaining => calls_rebind _ _ _ remaining⟩

lemma calls_planEstablishment (input : EstablishPlan) :
    (planEstablishment m input).Calls Removes := by
  unfold planEstablishment
  split
  · exact trivial
  split_ifs
  · refine ((calls_findSession _).bind fun r => ?_).bind fun r => ?_
    · cases r with
      | error e => exact trivial
      | ok target =>
        dsimp only
        split_ifs <;> exact trivial
    · cases r <;> exact trivial
  · exact trivial

lemma refreshedExpiry_le (hm : 0 < m.absoluteTTL) (sess : Session) (now : Time) :
    refreshedExpiry m sess now ≤ sess.createdAt + m.absoluteTTL := by
  unfold refreshedExpiry
  split_ifs with h
  · exact le_refl _
  · exact not_lt.mp fun hlt => h ⟨hm, hlt⟩

/-- As long as nobody saves, a row that has been read keeps its creation time. -/
theorem upholds_findSession (w : World) :
    Upholds (handle supply) (discipline m) (fun r w' => ∀ sess, r = .ok sess →
      ∀ rec, w'.sessions.m.lookup id = some rec → rec.createdAt = sess.createdAt)
      (findSession id) w := by
  intro w₁ _ hw₁ e
  refine ⟨hw₁, .refl _, ?_⟩
  intro w₂ hG _ sess hr rec hrec
  obtain ⟨rec₁, hrec₁, hcreated⟩ := hG id rec hrec
  cases hrec₁.symm.trans (lookup_of_found hr)
  exact hcreated.symm

/-- `Touch` reads the row and then refreshes the row with that creation time. -/
theorem upholds_touch (hm : 0 < m.absoluteTTL) (id : String) :
    Upholds (handle supply) (discipline m) (fun _ _ => True) (touch m id) w := by
  intro w₁ _ hw₁ e₁
  refine ⟨hw₁, .refl _, (upholds_findSession id _).bind hw₁ fun r w₂ hw₂ hread => ?_⟩
  cases r with
  | error e => exact fun _ _ _ => trivial
  | ok sess =>
    dsimp only
    split_ifs
    · refine upholds_of_calls (fun o ho e w => disciplined_of_removes ho e w)
        ((calls_deleteQuietly id).bind fun r => ?_) _
      cases r <;> exact trivial
    · intro w₃ hG hw₃ e₃
      have hcap : ∀ rec, w₃.sessions.m.lookup id = some rec →
          refreshedExpiry m sess w₁.clock ≤ rec.createdAt + m.absoluteTTL := by
        intro rec hrec
        obtain ⟨rec₂, hrec₂, hcreated⟩ := hG id rec hrec
        rw [← hcreated, hread sess rfl rec₂ hrec₂]
        exact refreshedExpiry_le hm sess w₁.clock
      obtain ⟨hInv, hmove⟩ := disciplined_touch hcap e₃ hw₃
      exact ⟨hInv, hmove, fun _ _ _ => trivial⟩

lemma upholds_touchAndReissue (hm : 0 < m.absoluteTTL) (active : Option Active)
    (hw : Capped m w.sessions) :
    Upholds (handle supply) (discipline m) (fun _ _ => True) (touchAndReissue m active) w := by
  unfold touchAndReissue
  cases active with
  | none => exact fun _ _ _ => trivial
  | some active =>
    dsimp only
    split_ifs
    · exact fun _ _ _ => trivial
    refine (upholds_touch hm _).bind hw fun r w₁ _ _ => ?_
    cases r with
    | error e => exact fun _ _ _ => trivial
    | ok _ =>
      refine upholds_of_calls (fun o ho e w => disciplined_of_removes ho e w)
        ((calls_findSession _).bind fun r => ?_) _
      cases r with
      | error e => exact trivial
      | ok sess =>
        refine ⟨trivial, fun now => (calls_encode _ _ _).bind fun r => ?_⟩
        cases r <;> exact trivial

lemma capped_play {A : Type} {Q : A → World → Prop} {p : Program A}
    (hp : Upholds (handle supply) (discipline m) Q p w) (hw : Capped m w.sessions) (ts : ℕ → Tick) :
    Capped m (play supply p ts w).1.sessions := by
  have hmove : ∀ (t : Tick) (w : World), (discipline m).Inv w →
      (discipline m).Inv (w.advance t.elapsed) ∧ (discipline m).G w (w.advance t.elapsed) :=
    fun _ w h => ⟨h, .refl w.sessions⟩
  exact (hp.runAlone Tick.chance hmove hw ts).1

lemma capped_play_of_calls {A : Type} {p : Program A} (hp : p.Calls Removes)
    (hw : Capped m w.sessions) (ts : ℕ → Tick) : Capped m (play supply p ts w).1.sessions :=
  capped_play (upholds_of_calls (fun _ ho e w => disciplined_of_removes ho e w) hp w) hw ts

/-! ### The operations that save

The calls of a played operation are gone through one by one. -/

section Steps
variable {A : Type} (ts : ℕ → Tick) (w : World)

lemma play_now (k : Time → Program A) :
    play supply (ask .now >>= k) ts w =
      play supply (k (w.clock + (ts 0).elapsed)) (fun n => ts (n + 1))
        (w.advance (ts 0).elapsed) := rfl

lemma play_newID (k : Option String → Program A) :
    play supply (ask .newID >>= k) ts w =
      if (ts 0).chance.entropy = true then
        play supply (k (some (supply w.drawn))) (fun n => ts (n + 1))
          { w.advance (ts 0).elapsed with drawn := w.drawn + 1 }
      else play supply (k none) (fun n => ts (n + 1)) (w.advance (ts 0).elapsed) := by
  change (fun r : World × Option String => play supply (k r.2) (fun n => ts (n + 1)) r.1)
    (if (ts 0).chance.entropy = true then (_, _) else (_, _)) = _
  split_ifs <;> rfl

lemma play_findSession (id : String) (k : Except ManagerError Session → Program A) :
    play supply (findSession id >>= k) ts w =
      play supply (k (expiredIfMissing (w.sessions.find (w.clock + (ts 0).elapsed) id)))
        (fun n => ts (n + 1)) (w.advance (ts 0).elapsed) := rfl

lemma play_save (origin : Origin) (sess : Session) (k : StoreReply → Program A) :
    play supply (ask (.save origin sess) >>= k) ts w =
      play supply (k (.ok ())) (fun n => ts (n + 1))
        { w.advance (ts 0).elapsed with
          sessions :=
            w.sessions.save (ts 0).chance.order (w.clock + (ts 0).elapsed) sess } := rfl

lemma play_deleteQuietly (id : String) (k : Except ManagerError Unit → Program A) :
    play supply (deleteQuietly id >>= k) ts w =
      play supply (k (doneIfMissing (w.sessions.delete (w.clock + (ts 0).elapsed) id).2))
        (fun n => ts (n + 1))
        { w.advance (ts 0).elapsed with
          sessions := (w.sessions.delete (w.clock + (ts 0).elapsed) id).1 } := rfl

end Steps

def Still : Call → Prop
  | .save _ _ | .touch _ _ _ | .delete _ => False
  | _ => True

variable {ts : ℕ → Tick} {w : World} {A : Type} {sess : Session}

lemma sessions_play {p : Program A} (hp : p.Calls Still) (ts : ℕ → Tick) (w : World) :
    (play supply p ts w).1.sessions = w.sessions := by
  induction p generalizing ts w with
  | ret a => rfl
  | call o k ih =>
    refine (ih _ (hp.2 _) _ _).trans ?_
    cases o with
    | save _ _ | touch _ _ _ | delete _ => exact hp.1.elim
    | newID =>
      change (handle supply _ .newID _).1.sessions = _
      unfold handle
      split_ifs <;> rfl
    | _ => rfl

lemma still_encode (groupID id : String) (issuedAt : ℤ) :
    (encode groupID id issuedAt).Calls Still :=
  ⟨trivial, fun _ => trivial⟩

/-- `Rotate` gets as far as its save. -/
structure Rotates (w : World) (ts : ℕ → Tick) (old : String) (sess : Session) : Prop where
  named : old ≠ ""
  found : w.sessions.find (w.clock + (ts 0).elapsed) old = .ok sess
  entropy : (ts 2).chance.entropy = true

lemma Rotates.sessions {old : String} (h : Rotates w ts old sess) (supply : ℕ → String)
    (m : Manager) :
    ∃ ρ now later, (play supply (rotate m old) ts w).1.sessions =
      ((w.sessions.save ρ now (rotatedSession m sess (supply w.drawn)
        (w.clock + (ts 0).elapsed + (ts 1).elapsed))).delete later old).1 := by
  unfold rotate
  rw [if_neg h.named, play_findSession, h.found]
  dsimp only [expiredIfMissing]
  rw [play_now, play_newID, if_pos h.entropy]
  rw [play_save]
  rw [play_deleteQuietly]
  refine ⟨_, _, _, sessions_play ?_ _ _⟩
  cases doneIfMissing _ with
  | error e => exact trivial
  | ok _ =>
    refine (still_encode _ _ _).bind fun r => ?_
    cases r <;> exact trivial

lemma sessions_rotate_of_not {old : String} (h : ∀ sess, ¬ Rotates w ts old sess) :
    (play supply (rotate m old) ts w).1.sessions = w.sessions := by
  unfold rotate
  by_cases hold : old = ""
  · rw [if_pos hold]
    rfl
  rw [if_neg hold, play_findSession]
  cases hfound : expiredIfMissing (w.sessions.find (w.clock + (ts 0).elapsed) old) with
  | error e => rfl
  | ok sess =>
    have hfind : w.sessions.find (w.clock + (ts 0).elapsed) old = .ok sess := by
      cases hf : w.sessions.find (w.clock + (ts 0).elapsed) old with
      | error e =>
        rw [hf, Sessions.find_eq_error _ hf] at hfound
        cases hfound
      | ok rec =>
        rw [hf] at hfound
        cases hfound
        rfl
    rw [play_now, play_newID, if_neg fun hentropy => h sess ⟨hold, hfind, hentropy⟩]
    rfl

/-- `Establish` gets as far as its save. -/
structure Saves (w : World) (ts : ℕ → Tick) (e : Establishment) : Prop where
  valid : validateEstablishment e = .ok ()
  mode : e.mode ≠ .reuse ∧ e.mode ≠ .switch
  missing : w.sessions.find (w.clock + (ts 0).elapsed) e.record.id = .error .notFound

lemma calls_sealEstablished (e : Establishment) : (sealEstablished e).Calls Still := by
  refine (still_encode _ _ _).bind fun r => ?_
  cases r <;> exact trivial

lemma play_ensureStable (sess : Session) (ts : ℕ → Tick) (w : World)
    (k : Except ManagerError Unit → Program A) :
    play supply (ensureStableSession sess >>= k) ts w =
      play supply (saveStable sess (sameStableSession sess
        (w.sessions.find (w.clock + (ts 0).elapsed) sess.id)) >>= k) (fun n => ts (n + 1))
        (w.advance (ts 0).elapsed) := rfl

lemma play_ensureStableSession
    (h : w.sessions.find (w.clock + (ts 0).elapsed) sess.id = .error .notFound)
    (k : Except ManagerError Unit → Program A) :
    play supply (ensureStableSession sess >>= k) ts w =
      play supply (k (.ok ())) (fun n => ts (n + 2))
        { (w.advance (ts 0).elapsed).advance (ts 1).elapsed with
          sessions := w.sessions.save (ts 1).chance.order
            (w.clock + (ts 0).elapsed + (ts 1).elapsed) sess } := by
  rw [play_ensureStable, h]
  rfl

lemma Saves.sessions (h : Saves w ts e) (supply : ℕ → String) :
    ∃ ρ now later, (play supply (establish e) ts w).1.sessions =
      if e.mode = .rotate then
        ((w.sessions.save ρ now e.record).delete later e.previousSessionID).1
      else w.sessions.save ρ now e.record := by
  unfold establish
  rw [h.valid]
  obtain ⟨hreuse, hswitch⟩ := h.mode
  cases hmode : e.mode with
  | reuse => exact (hreuse hmode).elim
  | switch => exact (hswitch hmode).elim
  | issue | addAccount =>
    rw [play_ensureStableSession h.missing]
    exact ⟨_, _, 0, sessions_play (calls_sealEstablished e) _ _⟩
  | rotate =>
    rw [play_ensureStableSession h.missing]
    rw [play_deleteQuietly]
    refine ⟨_, _, _, sessions_play ?_ _ _⟩
    cases doneIfMissing _ with
    | error err => exact trivial
    | ok _ => exact calls_sealEstablished e

lemma play_ensureStableSession_found {actual : Session}
    (h : w.sessions.find (w.clock + (ts 0).elapsed) sess.id = .ok actual)
    (k : Except ManagerError Unit → Program A) :
    play supply (ensureStableSession sess >>= k) ts w =
      play supply (k (stableAnswer (.ok (decide (actual = sess))))) (fun n => ts (n + 1))
        (w.advance (ts 0).elapsed) := by
  rw [play_ensureStable, h]
  rfl

lemma Removes.of_still {o : Call} (h : Still o) : Removes o := by
  cases o with
  | save _ _ | touch _ _ _ => exact h
  | _ => exact trivial

lemma capped_establish_of_not (h : ¬ Saves w ts e)
    (hw : Capped m w.sessions) : Capped m (play supply (establish e) ts w).1.sessions := by
  have hw' : Capped m (w.advance (ts 0).elapsed).sessions := hw
  have hseal : (sealEstablished e).Calls Removes :=
    (calls_sealEstablished e).mono fun _ => Removes.of_still
  unfold establish
  cases hvalid : validateEstablishment e with
  | error err => exact hw
  | ok _ =>
    have hfound : e.mode ≠ .reuse ∧ e.mode ≠ .switch →
        ∃ actual, w.sessions.find (w.clock + (ts 0).elapsed) e.record.id = .ok actual := by
      intro hmode
      cases hfind : w.sessions.find (w.clock + (ts 0).elapsed) e.record.id with
      | error err =>
        rw [Sessions.find_eq_error _ hfind] at hfind
        exact (h ⟨hvalid, hmode, hfind⟩).elim
      | ok actual => exact ⟨actual, rfl⟩
    cases hmode : e.mode with
    | reuse => exact hw
    | switch =>
      refine capped_play_of_calls ?_ hw ts
      refine ⟨trivial, fun r => ?_⟩
      change Prog.Calls _ (match stableAnswer (sameStableSession e.record r) with
        | .error err => _ | .ok _ => _)
      cases stableAnswer (sameStableSession e.record r) with
      | error err => exact trivial
      | ok _ => exact hseal
    | issue | addAccount =>
      obtain ⟨actual, hfind⟩ := hfound (by rw [hmode]; decide)
      rw [play_ensureStableSession_found hfind]
      refine capped_play_of_calls ?_ hw' _
      cases stableAnswer _ with
      | error err => exact trivial
      | ok _ => exact hseal
    | rotate =>
      obtain ⟨actual, hfind⟩ := hfound (by rw [hmode]; decide)
      rw [play_ensureStableSession_found hfind]
      refine capped_play_of_calls ?_ hw' _
      cases stableAnswer _ with
      | error err => exact trivial
      | ok _ =>
        refine (calls_deleteQuietly _).bind fun r => ?_
        cases r with
        | error err => exact trivial
        | ok _ => exact hseal

/-! ### Steps and runs -/

/-- A plan to save grants one idle period from the creation on. -/
def Dated (m : Manager) (e : Establishment) : Prop :=
  e.mode ≠ .reuse ∧ e.mode ≠ .switch → e.record.expiresAt = e.record.createdAt + m.idleTTL

lemma dated_planFromSession (input : EstablishPlan) (base : Session) {keep : EstablishMode}
    (hkeep : ¬ (keep ≠ .reuse ∧ keep ≠ .switch)) : Dated m (planFromSession m input base keep) := by
  unfold planFromSession
  split_ifs
  · exact fun _ => rfl
  · exact fun h => (hkeep h).elim

lemma returns_planEstablishment (input : EstablishPlan) :
    (planEstablishment m input).Returns fun r => ∀ e ∈ r.toOption, Dated m e := by
  unfold planEstablishment
  split
  · rintro e ⟨⟩
    exact dated_planFromSession input _ (by decide)
  split_ifs
  · refine (Prog.returns_true _).bind fun r _ => ?_
    cases r with
    | error err => exact fun _ => nofun
    | ok target =>
      rintro e ⟨⟩
      exact dated_planFromSession input _ (by decide)
  · intro e he
    unfold planIssue at he
    dsimp only at he
    split_ifs at he
    all_goals cases he
    all_goals exact fun _ => rfl

end

section
variable (supply : ℕ → String) (m : Manager)

/-- A step that saves a session beyond its cap: a rotation in the last idle period of a
session, and any new session if an idle period is longer than the whole lifetime. -/
def Overstretches (c : State) (step : Operation × (ℕ → Tick)) : Prop :=
  match step.1 with
  | .rotate old =>
    ∃ sess, Rotates c.world step.2 old sess ∧ supply c.world.drawn ≠ old ∧
      sess.createdAt + m.absoluteTTL <
        c.world.clock + (step.2 0).elapsed + (step.2 1).elapsed + m.idleTTL
  | .establish index =>
    ∃ e, c.plans[index]? = some e ∧ Saves c.world step.2 e ∧ m.absoluteTTL < m.idleTTL
  | _ => False

variable {supply m} {w : World}

lemma capped_save_iff {s : Sessions} (hs : Capped m s) (ρ : KeyOrder) (now : Time)
    (sess : Session) :
    Capped m (s.save ρ now sess) ↔ sess.expiresAt ≤ sess.createdAt + m.absoluteTTL := by
  constructor
  · exact fun h => h sess.id sess (Sessions.lookup_save_self s ρ now sess)
  · intro hsess id rec hrec
    rcases Sessions.lookup_save s hrec with ⟨_, rfl⟩ | ⟨_, hrec⟩
    · exact hsess
    · exact hs id rec hrec

lemma capped_save_delete_iff {s : Sessions} (hs : Capped m s) (ρ : KeyOrder)
    (now later : Time) {sess : Session} {old : String} (hne : sess.id ≠ old) :
    Capped m ((s.save ρ now sess).delete later old).1 ↔
      sess.expiresAt ≤ sess.createdAt + m.absoluteTTL := by
  constructor
  · intro h
    refine h sess.id sess ?_
    rw [Sessions.lookup_delete, if_neg hne, Sessions.lookup_save_self]
  · intro hsess
    refine ((capped_save_iff hs ρ now sess).mpr hsess).of_subset fun id rec hrec => ?_
    rw [Sessions.lookup_delete] at hrec
    split_ifs at hrec
    exact hrec

lemma capped_rotate_iff (hw : Capped m w.sessions) (ts : ℕ → Tick) (old : String) :
    Capped m (play supply (rotate m old) ts w).1.sessions ↔
      ¬ ∃ sess, Rotates w ts old sess ∧ supply w.drawn ≠ old ∧
        sess.createdAt + m.absoluteTTL < w.clock + (ts 0).elapsed + (ts 1).elapsed + m.idleTTL := by
  by_cases h : ∃ sess, Rotates w ts old sess
  · obtain ⟨sess, hrot⟩ := h
    have honly : ∀ sess', Rotates w ts old sess' → sess' = sess := fun sess' h' =>
      Except.ok.inj (h'.found.symm.trans hrot.found)
    obtain ⟨ρ, now, later, hafter⟩ := hrot.sessions supply m
    rw [hafter]
    by_cases hne : supply w.drawn = old
    · -- the old id drawn again: the row just saved is deleted
      refine iff_of_true (hw.of_subset fun id rec hrec => ?_) ?_
      · rw [Sessions.lookup_delete] at hrec
        split_ifs at hrec with hid
        rcases Sessions.lookup_save _ hrec with ⟨hid', _⟩ | ⟨_, hrec⟩
        · exact (hid (hid'.trans hne)).elim
        · exact hrec
      · rintro ⟨_, _, hne', _⟩
        exact hne' hne
    · rw [capped_save_delete_iff hw ρ now later
        (show (rotatedSession m sess _ _).id ≠ old from hne),
        ← not_lt]
      refine not_congr ⟨fun hlt => ⟨sess, hrot, hne, hlt⟩, ?_⟩
      rintro ⟨sess', hrot', _, hlt⟩
      exact honly sess' hrot' ▸ hlt
  · rw [sessions_rotate_of_not fun sess hs => h ⟨sess, hs⟩]
    exact iff_of_true hw fun ⟨sess, hs, _⟩ => h ⟨sess, hs⟩

lemma capped_establish_iff (hw : Capped m w.sessions) (ts : ℕ → Tick) (he : Dated m e) :
    Capped m (play supply (establish e) ts w).1.sessions ↔
      ¬ (Saves w ts e ∧ m.absoluteTTL < m.idleTTL) := by
  by_cases h : Saves w ts e
  · obtain ⟨ρ, now, later, hafter⟩ := h.sessions supply
    have hcap : e.record.expiresAt ≤ e.record.createdAt + m.absoluteTTL ↔
        ¬ (Saves w ts e ∧ m.absoluteTTL < m.idleTTL) := by
      rw [he h.mode, add_le_add_iff_left, ← not_lt]
      exact not_congr ⟨fun hlt => ⟨h, hlt⟩, And.right⟩
    rw [hafter, ← hcap]
    split_ifs with hmode
    · have hvalid := h.valid
      unfold validateEstablishment at hvalid
      split_ifs at hvalid with _ hprev
      have hne : e.record.id ≠ e.previousSessionID := fun heq => hprev ⟨hmode, .inr heq.symm⟩
      exact capped_save_delete_iff hw ρ now later hne
    · exact capped_save_iff hw ρ now e.record
  · exact iff_of_true (capped_establish_of_not h hw) fun hs => h hs.1

lemma capped_apply_iff (hm : 0 < m.absoluteTTL) {c : State} (hc : Capped m c.world.sessions)
    (hplans : ∀ e ∈ c.plans, Dated m e) (step : Operation × (ℕ → Tick)) :
    Capped m (c.apply supply m step).world.sessions ↔ ¬ Overstretches supply m c step := by
  obtain ⟨op, ts⟩ := step
  cases op with
  | plan input => exact iff_of_true (capped_play_of_calls (calls_planEstablishment input) hc ts) id
  | touch id => exact iff_of_true (capped_play (upholds_touch hm id) hc ts) fun h => h
  | touchAndReissue active =>
    exact iff_of_true (capped_play (upholds_touchAndReissue hm active hc) hc ts) id
  | switch groupID target =>
    exact iff_of_true (capped_play_of_calls (calls_switch groupID target) hc ts) id
  | remove groupID current removeID =>
    exact iff_of_true (capped_play_of_calls (calls_remove groupID current removeID) hc ts) id
  | logout id =>
    have hafter : Capped m (play supply (logout id) ts c.world).1.sessions :=
      capped_play_of_calls (calls_deleteQuietly id) hc ts
    exact iff_of_true hafter fun h => h
  | rotate old => exact capped_rotate_iff hc ts old
  | establish index =>
    unfold State.apply Overstretches
    dsimp only
    cases hplan : c.plans[index]? with
    | none =>
      refine iff_of_true hc ?_
      rintro ⟨e, he, _⟩
      cases he
    | some e =>
      have hdated : Dated m e := hplans e (List.mem_of_getElem? hplan)
      refine (capped_establish_iff hc ts hdated).trans (not_congr ⟨fun h => ⟨e, rfl, h⟩, ?_⟩)
      rintro ⟨e', he', h⟩
      cases he'
      exact h

lemma dated_apply {c : State} (hplans : ∀ e ∈ c.plans, Dated m e)
    (step : Operation × (ℕ → Tick)) : ∀ e ∈ (c.apply supply m step).plans, Dated m e := by
  obtain ⟨op, ts⟩ := step
  cases op with
  | plan input =>
    intro e he
    rcases List.mem_append.mp he with he | he
    · exact hplans e he
    · exact (returns_planEstablishment input).runAlone _ ts c.world e (Option.mem_toList.mp he)
  | establish index =>
    unfold State.apply
    dsimp only
    cases c.plans[index]? <;> exact hplans
  | _ => exact hplans

lemma run_concat (clock : Time) (done : List (Operation × (ℕ → Tick)))
    (step : Operation × (ℕ → Tick)) :
    run supply m clock (done ++ [step]) = (run supply m clock done).apply supply m step := by
  rw [run, List.foldl_append]
  rfl

lemma dated_run (clock : Time) (steps : List (Operation × (ℕ → Tick))) :
    ∀ e ∈ (run supply m clock steps).plans, Dated m e := by
  induction steps using List.reverseRecOn with
  | nil => exact fun _ => nofun
  | append_singleton done step ih =>
    rw [run_concat]
    exact dated_apply ih step

lemma capped_run_iff (hm : 0 < m.absoluteTTL) (clock : Time)
    (steps : List (Operation × (ℕ → Tick))) :
    (∀ done, done <+: steps → Capped m (run supply m clock done).world.sessions) ↔
      ∀ done step, done ++ [step] <+: steps →
        ¬ Overstretches supply m (run supply m clock done) step := by
  constructor
  · intro h done step hpre
    have hafter := h _ hpre
    rw [run_concat] at hafter
    exact (capped_apply_iff hm (h done ((List.prefix_append _ _).trans hpre))
      (dated_run clock done) step).mp hafter
  · intro h done hpre
    induction done using List.reverseRecOn with
    | nil =>
      intro id rec hrec
      cases hrec
    | append_singleton done step ih =>
      rw [run_concat]
      exact (capped_apply_iff hm (ih ((List.prefix_append _ _).trans hpre))
        (dated_run clock done) step).mpr (h done step hpre)

/-! ### `Resolve` -/

/-- What `Resolve` returns: a row the cookie names, not expired when it is done. -/
theorem resolve_ok {cookie : Option Payload} {ts : ℕ → Tick} {active : Active}
    (h : (play supply (resolve cookie) ts w).2 = .ok active) :
    ∃ payload : Payload, payload.incomplete = false ∧
      w.sessions.m.lookup payload.currentSessionID = some active.session ∧
      active.session.chooserGroupID = payload.chooserGroupID ∧
      sessionExpired active.session.expiresAt (play supply (resolve cookie) ts w).1.clock =
        false := by
  unfold resolve at h ⊢
  cases hcookie : cookie.filter fun p => !p.incomplete with
  | none =>
    rw [hcookie] at h
    cases h
  | some payload =>
    have hcomplete : payload.incomplete = false := by
      have := (Option.mem_filter_iff.mp hcookie).2
      rwa [Bool.not_eq_true'] at this
    rw [hcookie] at h
    rw [play_findSession] at h ⊢
    cases hfound : expiredIfMissing
        (w.sessions.find (w.clock + (ts 0).elapsed) payload.currentSessionID) with
    | error e =>
      rw [hfound] at h
      cases h
    | ok sess =>
      rw [hfound] at h
      dsimp only at h ⊢
      by_cases hgroup : sess.chooserGroupID ≠ payload.chooserGroupID
      · rw [if_pos hgroup] at h
        cases h
      rw [if_neg hgroup] at h ⊢
      rw [play_now] at h ⊢
      cases hexp : sessionExpired sess.expiresAt
          ((w.advance (ts 0).elapsed).clock + (ts 1).elapsed) with
      | true =>
        rw [hexp] at h
        cases h
      | false =>
        rw [hexp] at h
        cases h
        exact ⟨payload, hcomplete, lookup_of_found hfound, not_not.mp hgroup, hexp⟩

/-- A session that a cookie can name and that the zero time keeps from expiring. -/
def HoldsUndated (s : Sessions) : Prop :=
  ∃ id rec, s.m.lookup id = some rec ∧ rec.expiresAt = 0 ∧ id ≠ "" ∧ rec.chooserGroupID ≠ ""

def ResolvesWithin (supply : ℕ → String) (m : Manager) (w : World) : Prop :=
  ∀ (cookie : Option Payload) (ts : ℕ → Tick) (active : Active),
    (play supply (resolve cookie) ts w).2 = .ok active →
      (play supply (resolve cookie) ts w).1.clock < active.session.createdAt + m.absoluteTTL

lemma resolvesWithin_of_capped (hw : Capped m w.sessions) (hdated : ¬ HoldsUndated w.sessions) :
    ResolvesWithin supply m w := by
  intro cookie ts active h
  obtain ⟨payload, hcomplete, hrec, hgroup, hexp⟩ := resolve_ok h
  have hnamed := of_decide_eq_false hcomplete
  simp only [not_or] at hnamed
  have hset : active.session.expiresAt ≠ 0 := fun hzero =>
    hdated ⟨_, _, hrec, hzero, hnamed.2.1, hgroup ▸ hnamed.1⟩
  have hlive := of_decide_eq_false hexp
  exact lt_of_lt_of_le (not_le.mp fun hle => hlive ⟨hset, hle⟩) (hw _ _ hrec)

/-- A session dated zero is returned however late `Resolve` asks for it. -/
theorem not_holdsUndated (h : ResolvesWithin supply m w) : ¬ HoldsUndated w.sessions := by
  rintro ⟨id, rec, hrec, hzero, hid, hgroup⟩
  obtain ⟨late, hlate⟩ : ∃ n : ℕ, rec.createdAt + m.absoluteTTL ≤ w.clock + n :=
    ⟨(rec.createdAt + m.absoluteTTL - w.clock).toNat,
      Int.le_add_of_sub_left_le (Int.self_le_toNat _)⟩
  obtain ⟨ts, hts⟩ : ∃ ts : ℕ → Tick, ts = fun _ => ⟨⟨ascending, true⟩, late⟩ := ⟨_, rfl⟩
  obtain ⟨payload, hp⟩ : ∃ p : Payload, p = ⟨rec.chooserGroupID, id, 1⟩ := ⟨_, rfl⟩
  have hcomplete : payload.incomplete = false := by
    rw [hp]
    exact decide_eq_false fun hor => hor.elim hgroup fun hor => hor.elim hid Int.one_ne_zero
  have hplay : play supply (resolve (some payload)) ts w =
      ((w.advance late).advance late, .ok ⟨payload, rec⟩) := by
    have hfind : w.sessions.find (w.clock + (ts 0).elapsed) payload.currentSessionID = .ok rec := by
      rw [Sessions.find_eq_ok, hp, hzero]
      exact ⟨hrec, rfl⟩
    have hsame : ¬ rec.chooserGroupID ≠ payload.chooserGroupID := by rw [hp]; exact not_not.mpr rfl
    have hkept : (some payload).filter (fun p => !p.incomplete) = some payload := by
      rw [Option.filter_some, hcomplete]
      rfl
    unfold resolve
    rw [hkept]
    rw [play_findSession, hfind]
    dsimp only [expiredIfMissing]
    rw [if_neg hsame, play_now, sessionExpired, hzero, hts]
    rfl
  have hwithin := h (some payload) ts ⟨payload, rec⟩ (by rw [hplay])
  rw [hplay] at hwithin
  have hclock : w.clock + late ≤ w.clock + late + late :=
    le_add_of_nonneg_right (Int.natCast_nonneg late)
  exact absurd hwithin (not_lt.mpr (hlate.trans hclock))

end

/-- In a run of the manager over the in-memory store, every stored session expires by
`CreatedAt + absoluteTTL`, and `Resolve` returns none at or past that time, exactly if no
step overstretches a session and no session is dated to the zero time. -/
theorem within_absoluteTTL_iff (cfg : SessionManager.Config)
    (hm : 0 < (newManager cfg).absoluteTTL) (supply : ℕ → String) (clock : Time)
    (steps : List (Operation × (ℕ → Tick))) :
    (∀ done, done <+: steps →
      Capped (newManager cfg) (run supply (newManager cfg) clock done).world.sessions ∧
      ResolvesWithin supply (newManager cfg) (run supply (newManager cfg) clock done).world) ↔
    (∀ done step, done ++ [step] <+: steps →
      ¬ Overstretches supply (newManager cfg) (run supply (newManager cfg) clock done) step) ∧
    ∀ done, done <+: steps →
      ¬ HoldsUndated (run supply (newManager cfg) clock done).world.sessions := by
  rw [← capped_run_iff hm clock steps]
  constructor
  · exact fun h => ⟨fun done hpre => (h done hpre).1,
      fun done hpre => not_holdsUndated (h done hpre).2⟩
  · exact fun h done hpre =>
      ⟨h.1 done hpre, resolvesWithin_of_capped (h.1 done hpre) (h.2 done hpre)⟩

/-! ### A rotation in the last idle period -/

/-- The elapsed time falls before the first call of the operation. -/
def after (days : ℕ) : ℕ → Tick
  | 0 => ⟨⟨ascending, true⟩, days * (24 * 3600000000000)⟩
  | _ => ⟨⟨ascending, true⟩, 0⟩

def loginPlan : EstablishPlan where
  active := none
  login := ⟨"alice", 1, ["pwd"], ""⟩
  freshAuthn := true
  stableSessionID := "s1"
  stableChooserGroupID := "g1"
  chooserGroupID := ""
  chooserSelectedSessionID := ""
  chooserAddAccount := false
  chooserAddAccountGroupID := ""
  now := 1

/-- The default lifetimes are 14 and 30 days; the session is refreshed on days 13 and 26
and rotated on day 29. -/
def lateRotation : List (Operation × (ℕ → Tick)) :=
  [(.plan loginPlan, after 0), (.establish 0, after 0), (.touch "s1", after 13),
    (.touch "s1", after 13), (.rotate "s1", after 3)]

theorem within_absoluteTTL_iff_lateRotation :
    0 < (newManager ⟨0, 0⟩).absoluteTTL ∧
    ((∀ done, done <+: lateRotation →
      Capped (newManager ⟨0, 0⟩) (run toString (newManager ⟨0, 0⟩) 1 done).world.sessions ∧
      ResolvesWithin toString (newManager ⟨0, 0⟩)
        (run toString (newManager ⟨0, 0⟩) 1 done).world) ↔
    (∀ done step, done ++ [step] <+: lateRotation →
      ¬ Overstretches toString (newManager ⟨0, 0⟩)
        (run toString (newManager ⟨0, 0⟩) 1 done) step) ∧
    ∀ done, done <+: lateRotation →
      ¬ HoldsUndated (run toString (newManager ⟨0, 0⟩) 1 done).world.sessions) :=
  ⟨by decide, within_absoluteTTL_iff ⟨0, 0⟩ (by decide) toString 1 lateRotation⟩

/-- On day 31 `Resolve` returns the rotated session, which may live until day 43. -/
theorem rotated_past_the_cap :
    ((run (fun n => toString (n + 2)) (newManager ⟨0, 0⟩) 1 lateRotation).world.sessions.m.lookup
      "2").map (fun rec => (rec.createdAt, rec.expiresAt)) =
        some (1, 1 + 43 * (24 * 3600000000000)) ∧
    (newManager ⟨0, 0⟩).absoluteTTL = 30 * (24 * 3600000000000) ∧
    ((play (fun n => toString (n + 2)) (resolve (some ⟨"g1", "2", 1⟩)) (after 2)
      (run (fun n => toString (n + 2)) (newManager ⟨0, 0⟩) 1 lateRotation).world).2.toOption.map
        fun active => active.session.id) = some "2" := by
  decide +kernel

end OidcProvider.SessionLifetimes
