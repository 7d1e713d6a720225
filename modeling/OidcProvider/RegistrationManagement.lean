import OidcProvider.ClientRegistration

/-!
# Managing a registered client

`PUT` and `DELETE /register/{client_id}` (`internal/registrationendpoint/manage.go`, `rat.go`)
as the store steps they take: a request reads the client and its registration access token,
and then an update writes the client and replaces the token, a deletion removes both. No step
compares what it replaces with what the request has read. Requests on one client interleave
at every step.
-/
namespace OidcProvider.RegistrationManagement
open StoreRecords ClientRegistration

variable {M : Type}

inductive Action (M : Type) where
  | put (submission : Submission M)
  | delete

structure Request (M : Type) where
  /-- The bearer credential of the request. -/
  bearer : Option String
  action : Action M

/-- Where a request stands; the name says what it does next, or how it ended. -/
inductive Phase (M : Type) where
  | start
  | verifying (client : Client M)
  | writing (records : Registration M)
  | rotating (records : Registration M)
  | deleting
  | revoking
  | updated (records : Registration M)
  | deleted
  | refused (err : RegistrationError)

structure State (M : Type) where
  client : Option (Client M)
  token : Option RegistrationAccessToken
  phase : ℕ → Phase M

def State.enter (σ : State M) (i : ℕ) (phase : Phase M) : State M :=
  { σ with phase := Function.update σ.phase i phase }

def invalidToken : RegistrationError := .invalidToken "registration access token is invalid"

section System
variable (deps : Deps M) (D : KeyDigest)

def proceed (r : Registration M) : Action M → Phase M
  | .delete => .deleting
  | .put submission =>
    match update deps r submission with
    | .error err => .refused err
    | .ok records => .writing records

/-- `verifyRAT` once the client has been read. -/
def verifyToken (bearer : String) (client : Client M) (action : Action M) :
    Option RegistrationAccessToken → Phase M
  | none => .refused invalidToken
  | some token =>
    if token.hashedValue ≠ D.hashKey bearer then .refused invalidToken
    else proceed deps ⟨client, token⟩ action

/-- `verifyRAT` up to its reading of the token. -/
def readClient (bearer : Option String) (row : Option (Client M)) : Phase M :=
  if bearer = none then .refused (.invalidToken "registration access token is required")
  else match row with
    | none => .refused invalidToken
    | some client => if client.source ≠ .dynamic then .refused invalidToken else .verifying client

def step (requests : ℕ → Request M) (σ : State M) (i : ℕ) : State M :=
  match σ.phase i with
  | .start => σ.enter i (readClient (requests i).bearer σ.client)
  | .verifying client =>
    σ.enter i (verifyToken deps D ((requests i).bearer.getD "") client (requests i).action σ.token)
  | .writing records =>
    match σ.client with
    | none => σ.enter i (.refused invalidToken)
    | some _ => State.enter { σ with client := some records.client } i (.rotating records)
  | .rotating records => State.enter { σ with token := some records.token } i (.updated records)
  | .deleting => State.enter { σ with client := none } i .revoking
  | .revoking => State.enter { σ with token := none } i .deleted
  | _ => σ

def run (requests : ℕ → Request M) (σ : State M) (steps : List ℕ) : State M :=
  steps.foldl (step deps D requests) σ

end System

def initial (r : Registration M) : State M := ⟨some r.client, some r.token, fun _ => .start⟩

/-- The update has been authorized and has not replaced the token yet. -/
def Phase.pending : Phase M → Bool
  | .writing _ => true
  | .rotating _ => true
  | _ => false

/-- If request `i` is about to write an update, no other update is pending. -/
def Alone (σ : State M) (i : ℕ) : Prop :=
  (σ.phase i).pending = true → ∀ j, j ≠ i → (σ.phase j).pending = false

def Uncrossed (deps : Deps M) (D : KeyDigest) (requests : ℕ → Request M) : State M → List ℕ → Prop
  | _, [] => True
  | σ, i :: rest => Alone σ i ∧ Uncrossed deps D requests (step deps D requests σ i) rest

/-- The tokens that updates draw differ from each other and from the first one. -/
structure FreshTokens (requests : ℕ → Request M) (first : RegistrationAccessToken) : Prop where
  new : ∀ i s, (requests i).action = .put s → s.minted.ratDigest ≠ first.hashedValue
  distinct : ∀ i j s s', (requests i).action = .put s → (requests j).action = .put s' →
    s.minted.ratDigest = s'.minted.ratDigest → i = j

/-! ### What a step can do -/

section Steps
variable {deps : Deps M} {D : KeyDigest} {requests : ℕ → Request M} (σ : State M)

@[simp] lemma enter_client (i : ℕ) (phase : Phase M) : (σ.enter i phase).client = σ.client := rfl

@[simp] lemma enter_token (i : ℕ) (phase : Phase M) : (σ.enter i phase).token = σ.token := rfl

lemma enter_phase (i j : ℕ) (phase : Phase M) :
    (σ.enter i phase).phase j = if j = i then phase else σ.phase j := by
  simp [State.enter, Function.update_apply]

def presented (D : KeyDigest) (requests : ℕ → Request M) (i : ℕ) : String :=
  D.hashKey ((requests i).bearer.getD "")

/-- The records an update holds, before it writes them and after. -/
def Phase.records? : Phase M → Option (Registration M)
  | .writing records => some records
  | .rotating records => some records
  | .updated records => some records
  | _ => none

def Phase.removed : Phase M → Bool
  | .revoking => true
  | .deleted => true
  | _ => false

variable (D requests) in
inductive Advance (σ : State M) (i : ℕ) : State M → Prop
  /-- Nothing is written, and no update has been authorized. -/
  | quiet {phase} : (σ.phase i).removed = false → (∀ r, σ.phase i ≠ .updated r) →
      (∀ r, σ.phase i ≠ .rotating r) → phase.records? = none → phase.removed = false →
      Advance σ i (σ.enter i phase)
  | ended : Advance σ i σ
  | authorize {token records s} : (σ.phase i).records? = none → (σ.phase i).removed = false →
      σ.token = some token → token.hashedValue = presented D requests i →
      (requests i).action = .put s → records.token.hashedValue = s.minted.ratDigest →
      Advance σ i (σ.enter i (.writing records))
  | write {client records} : σ.phase i = .writing records → σ.client = some client →
      Advance σ i (State.enter { σ with client := some records.client } i (.rotating records))
  | rotate {records} : σ.phase i = .rotating records →
      Advance σ i (State.enter { σ with token := some records.token } i (.updated records))
  | delete : σ.phase i = .deleting →
      Advance σ i (State.enter { σ with client := none } i .revoking)
  | revoke : σ.phase i = .revoking →
      Advance σ i (State.enter { σ with token := none } i .deleted)

lemma readClient_quiet (bearer : Option String) (row : Option (Client M)) :
    (readClient bearer row).records? = none ∧ (readClient bearer row).removed = false := by
  unfold readClient
  split_ifs
  · exact ⟨rfl, rfl⟩
  · cases row with
    | none => exact ⟨rfl, rfl⟩
    | some client =>
      dsimp only
      split_ifs <;> exact ⟨rfl, rfl⟩

lemma update_token {existing r : Registration M} {put : Submission M}
    (h : update deps existing put = .ok r) : r.token.hashedValue = put.minted.ratDigest := by
  obtain ⟨_, -, h⟩ := ok_of_bind h
  obtain ⟨m, -, h⟩ := ok_of_bind h
  obtain ⟨_, -, h⟩ := ok_of_bind h
  cases h
  rfl

lemma verify_advance {σ : State M} {i : ℕ} {client : Client M}
    (hphase : σ.phase i = .verifying client) :
    Advance D requests σ i (σ.enter i
      (verifyToken deps D ((requests i).bearer.getD "") client (requests i).action σ.token)) := by
  have hrefused : ∀ err, Advance D requests σ i (σ.enter i (.refused err)) := fun err =>
    .quiet (by simp [hphase, Phase.removed]) (by simp [hphase]) (by simp [hphase]) rfl rfl
  cases htoken : σ.token with
  | none => exact hrefused _
  | some token =>
    unfold verifyToken
    dsimp only
    split_ifs with hmatch
    · exact hrefused _
    · cases haction : (requests i).action with
      | delete =>
        exact .quiet (by simp [hphase, Phase.removed]) (by simp [hphase]) (by simp [hphase])
          rfl rfl
      | put submission =>
        unfold proceed
        dsimp only
        cases hupdate : update deps ⟨client, token⟩ submission with
        | error err => exact hrefused err
        | ok records =>
          exact .authorize (by simp [hphase, Phase.records?])
            (by simp [hphase, Phase.removed]) htoken (not_not.mp hmatch) haction
            (update_token hupdate)

lemma step_advance (i : ℕ) : Advance D requests σ i (step deps D requests σ i) := by
  cases hphase : σ.phase i with
  | start =>
    simp only [step, hphase]
    obtain ⟨hrecords, hremoved⟩ := readClient_quiet (requests i).bearer σ.client
    exact .quiet (by simp [hphase, Phase.removed]) (by simp [hphase]) (by simp [hphase])
      hrecords hremoved
  | verifying client =>
    simp only [step, hphase]
    exact verify_advance hphase
  | writing records =>
    cases hclient : σ.client with
    | none =>
      simp only [step, hphase, hclient]
      exact .quiet (by simp [hphase, Phase.removed]) (by simp [hphase]) (by simp [hphase])
        rfl rfl
    | some client =>
      simp only [step, hphase, hclient]
      exact .write hphase hclient
  | rotating records =>
    simp only [step, hphase]
    exact .rotate hphase
  | deleting =>
    simp only [step, hphase]
    exact .delete hphase
  | revoking =>
    simp only [step, hphase]
    exact .revoke hphase
  | updated records =>
    simp only [step, hphase]
    exact .ended
  | deleted =>
    simp only [step, hphase]
    exact .ended
  | refused err =>
    simp only [step, hphase]
    exact .ended

/-- What every advance of a request that is alone keeps holds after an uncrossed run. -/
theorem run_of_advance {P : State M → Prop}
    (hadvance : ∀ σ i σ', Advance D requests σ i σ' → Alone σ i → P σ → P σ') :
    ∀ (steps : List ℕ) (σ : State M), P σ → Uncrossed deps D requests σ steps →
      P (run deps D requests σ steps)
  | [], _, h, _ => h
  | i :: rest, σ, h, huncrossed =>
    run_of_advance hadvance rest _ (hadvance σ i _ (step_advance σ i) huncrossed.1 h)
      huncrossed.2

end Steps

/-! ### Tokens -/

variable {σ σ' : State M}

section Tokens
variable {D : KeyDigest} {requests : ℕ → Request M} {first records : Registration M}
  {phase : Phase M} {σ : State M} {i : ℕ}

variable (first) in
/-- The token was the first one, or an update has returned it. -/
def Issued (σ : State M) (digest : String) : Prop :=
  digest = first.token.hashedValue ∨
    ∃ i r, σ.phase i = .updated r ∧ r.token.hashedValue = digest

variable (D requests first) in
/-- A token that has authorized a finished update is neither stored nor pending. -/
structure Chained (σ : State M) : Prop where
  drawn : ∀ i r, (σ.phase i).records? = some r →
    ∃ s, (requests i).action = .put s ∧ r.token.hashedValue = s.minted.ratDigest
  issued : ∀ i r, (σ.phase i).records? = some r → Issued first σ (presented D requests i)
  stored : ∀ t, σ.token = some t → Issued first σ t.hashedValue
  unspent : ∀ t, σ.token = some t → ∀ i r, σ.phase i = .updated r →
    presented D requests i ≠ t.hashedValue
  pending : ∀ j, (σ.phase j).pending = true → ∀ i r, σ.phase i = .updated r →
    presented D requests i ≠ presented D requests j
  once : ∀ i j r r', σ.phase i = .updated r → σ.phase j = .updated r' →
    presented D requests i = presented D requests j → i = j

lemma records_of_pending (h : phase.pending = true) : ∃ r, phase.records? = some r := by
  cases phase <;> simp_all [Phase.pending, Phase.records?]

lemma pending_of_records (h : phase.records? = none) : phase.pending = false := by
  cases phase <;> simp_all [Phase.pending, Phase.records?]

lemma records_ne_updated (h : phase.records? = none) (r : Registration M) :
    phase ≠ .updated r := by
  rintro rfl
  cases h

lemma Issued.enter {digest : String} (h : Issued first σ digest)
    (hi : ∀ r, σ.phase i ≠ .updated r) : Issued first (σ.enter i phase) digest := by
  rcases h with h | ⟨j, r, hj, hr⟩
  · exact .inl h
  · refine .inr ⟨j, r, ?_, hr⟩
    have hne : j ≠ i := by
      rintro rfl
      exact hi r hj
    rw [enter_phase, if_neg hne, hj]

lemma updated_enter {i j : ℕ} {r : Registration M} (hphase : ∀ r, phase ≠ .updated r)
    (h : (σ.enter i phase).phase j = .updated r) : σ.phase j = .updated r := by
  rw [enter_phase] at h
  split_ifs at h
  · exact absurd h (hphase r)
  · exact h

lemma Chained.quiet (h : Chained D requests first σ) (hphase : σ'.phase = (σ.enter i phase).phase)
    (htoken : ∀ t, σ'.token = some t → σ.token = some t) (hi : ∀ r, σ.phase i ≠ .updated r)
    (hrecords : phase.records? = none) : Chained D requests first σ' := by
  have hissued : ∀ {digest}, Issued first σ digest → Issued first σ' digest := by
    intro digest hd
    have hd' : Issued first (σ.enter i phase) digest := hd.enter hi
    unfold Issued at hd' ⊢
    rwa [hphase]
  have hupdated : ∀ {j r}, σ'.phase j = .updated r → σ.phase j = .updated r := by
    intro j r hj
    rw [hphase] at hj
    exact updated_enter (records_ne_updated hrecords) hj
  have hheld : ∀ j, ((σ'.phase j).records?).isSome = true → σ'.phase j = σ.phase j := by
    intro j hj
    rw [hphase, enter_phase] at hj ⊢
    split_ifs at hj ⊢
    · rw [hrecords] at hj
      cases hj
    · rfl
  refine ⟨?_, ?_, ?_, ?_, ?_, ?_⟩
  · intro j r hr
    exact h.drawn j r (hheld j (by simp [hr]) ▸ hr)
  · intro j r hr
    exact hissued (h.issued j r (hheld j (by simp [hr]) ▸ hr))
  · exact fun t ht => hissued (h.stored t (htoken t ht))
  · exact fun t ht j r hj => h.unspent t (htoken t ht) j r (hupdated hj)
  · intro j hj k r hk
    obtain ⟨r', hr'⟩ := records_of_pending hj
    exact h.pending j (hheld j (by simp [hr']) ▸ hj) k r (hupdated hk)
  · exact fun j k r r' hj hk => h.once j k r r' (hupdated hj) (hupdated hk)

lemma Chained.authorize (h : Chained D requests first σ) {token : RegistrationAccessToken}
    {s : Submission M} (hi : (σ.phase i).records? = none) (htoken : σ.token = some token)
    (hmatch : token.hashedValue = presented D requests i) (haction : (requests i).action = .put s)
    (hdrawn : records.token.hashedValue = s.minted.ratDigest) :
    Chained D requests first (σ.enter i (.writing records)) := by
  have hissued : ∀ {digest}, Issued first σ digest →
      Issued first (σ.enter i (.writing records)) digest :=
    fun hd => hd.enter (records_ne_updated hi)
  have hupdated : ∀ {j r}, (σ.enter i (.writing records)).phase j = .updated r →
      σ.phase j = .updated r := fun hj => updated_enter (by simp) hj
  refine ⟨?_, ?_, ?_, ?_, ?_, ?_⟩
  · intro j r hr
    rw [enter_phase] at hr
    split_ifs at hr with hj
    · cases hr
      exact hj ▸ ⟨s, haction, hdrawn⟩
    · exact h.drawn j r hr
  · intro j r hr
    rw [enter_phase] at hr
    split_ifs at hr with hj
    · rw [hj, ← hmatch]
      exact hissued (h.stored token htoken)
    · exact hissued (h.issued j r hr)
  · exact fun t ht => hissued (h.stored t ht)
  · exact fun t ht j r hj => h.unspent t ht j r (hupdated hj)
  · intro j hj k r hk
    rw [enter_phase] at hj
    split_ifs at hj with hji
    · rw [hji, ← hmatch]
      exact h.unspent token htoken k r (hupdated hk)
    · exact h.pending j hj k r (hupdated hk)
  · exact fun j k r r' hj hk => h.once j k r r' (hupdated hj) (hupdated hk)

lemma Chained.client (h : Chained D requests first σ) (client : Option (Client M)) :
    Chained D requests first { σ with client := client } :=
  ⟨h.drawn, h.issued, h.stored, h.unspent, h.pending, h.once⟩

lemma Chained.write (h : Chained D requests first σ) (hi : σ.phase i = .writing records) :
    Chained D requests first (σ.enter i (.rotating records)) := by
  have hsame : ∀ j, ((σ.enter i (.rotating records)).phase j).records? = (σ.phase j).records? ∧
      ((σ.enter i (.rotating records)).phase j).pending = (σ.phase j).pending := by
    intro j
    rw [enter_phase]
    split_ifs with hj
    · rw [hj, hi]
      exact ⟨rfl, rfl⟩
    · exact ⟨rfl, rfl⟩
  have hissued : ∀ {digest}, Issued first σ digest →
      Issued first (σ.enter i (.rotating records)) digest := fun hd => hd.enter (by simp [hi])
  have hupdated : ∀ {j r}, (σ.enter i (.rotating records)).phase j = .updated r →
      σ.phase j = .updated r := fun hj => updated_enter (by simp) hj
  refine ⟨?_, ?_, ?_, ?_, ?_, ?_⟩
  · exact fun j r hr => h.drawn j r ((hsame j).1 ▸ hr)
  · exact fun j r hr => hissued (h.issued j r ((hsame j).1 ▸ hr))
  · exact fun t ht => hissued (h.stored t ht)
  · exact fun t ht j r hj => h.unspent t ht j r (hupdated hj)
  · exact fun j hj k r hk => h.pending j ((hsame j).2 ▸ hj) k r (hupdated hk)
  · exact fun j k r r' hj hk => h.once j k r r' (hupdated hj) (hupdated hk)

/-- A token that was issued before an update finishes is not the one the update drew. -/
theorem Chained.drawn_ne (h : Chained D requests first σ)
    (hfresh : FreshTokens requests first.token) (hi : σ.phase i = .rotating records)
    {digest : String} (hd : Issued first σ digest) : digest ≠ records.token.hashedValue := by
  obtain ⟨s, haction, hdrawn⟩ := h.drawn i records (by rw [hi]; rfl)
  rw [hdrawn]
  rcases hd with rfl | ⟨j, r, hj, rfl⟩
  · exact (hfresh.new i s haction).symm
  · obtain ⟨s', haction', hdrawn'⟩ := h.drawn j r (by rw [hj]; rfl)
    intro hsame
    have hij := hfresh.distinct j i s' s haction' haction (hdrawn'.symm.trans hsame)
    rw [hij, hi] at hj
    cases hj

lemma Chained.rotate (h : Chained D requests first σ) (hfresh : FreshTokens requests first.token)
    (hi : σ.phase i = .rotating records) (halone : ∀ j, j ≠ i → (σ.phase j).pending = false) :
    Chained D requests first
      (State.enter { σ with token := some records.token } i (.updated records)) := by
  generalize hσ' : State.enter { σ with token := some records.token } i (.updated records) = σ'
  have htoken : σ'.token = some records.token := hσ' ▸ rfl
  have hphase : ∀ j, σ'.phase j = if j = i then .updated records else σ.phase j := by
    intro j
    rw [← hσ', enter_phase]
  have hissued : ∀ {digest}, Issued first σ digest → Issued first σ' digest := fun {digest} hd =>
    hσ' ▸ Issued.enter (σ := { σ with token := some records.token }) hd (by simp [hi])
  have hupdated : ∀ {j r}, σ'.phase j = .updated r → j = i ∨ σ.phase j = .updated r := by
    intro j r hj
    rw [hphase] at hj
    split_ifs at hj with hji
    · exact .inl hji
    · exact .inr hj
  have hheld : ∀ j r, (σ'.phase j).records? = some r → (σ.phase j).records? = some r := by
    intro j r hr
    rw [hphase] at hr
    split_ifs at hr with hji
    · cases hr
      rw [hji, hi]
      rfl
    · exact hr
  have hpresented : ∀ j r, (σ.phase j).records? = some r →
      presented D requests j ≠ records.token.hashedValue :=
    fun j r hr => h.drawn_ne hfresh hi (h.issued j r hr)
  have hpending : (σ.phase i).pending = true := by
    rw [hi]
    rfl
  refine ⟨?_, ?_, ?_, ?_, ?_, ?_⟩
  · exact fun j r hr => h.drawn j r (hheld j r hr)
  · exact fun j r hr => hissued (h.issued j r (hheld j r hr))
  · intro t ht
    cases htoken.symm.trans ht
    exact .inr ⟨i, records, by rw [hphase, if_pos rfl], rfl⟩
  · intro t ht j r hj
    cases htoken.symm.trans ht
    exact hpresented j r (hheld j r (by rw [hj]; rfl))
  · intro j hj
    rw [hphase] at hj
    split_ifs at hj with hji
    · cases hj
    · have hnone : (σ.phase j).pending = false := halone j hji
      have hsome : (σ.phase j).pending = true := hj
      rw [hnone] at hsome
      cases hsome
  · intro j k r r' hj hk hsame
    rcases hupdated hj with hji | hj'
    · rcases hupdated hk with hki | hk'
      · exact hji.trans hki.symm
      · exact absurd hsame.symm (hji ▸ h.pending i hpending k r' hk')
    · rcases hupdated hk with hki | hk'
      · exact absurd hsame (hki ▸ h.pending i hpending j r hj')
      · exact h.once j k r r' hj' hk' hsame

lemma chained_advance (h : Chained D requests first σ)
    (hfresh : FreshTokens requests first.token) (halone : Alone σ i)
    (hadvance : Advance D requests σ i σ') : Chained D requests first σ' := by
  cases hadvance with
  | quiet hremoved hupdated hrotating hrecords hphase =>
    exact h.quiet rfl (fun _ ht => ht) hupdated hrecords
  | ended => exact h
  | authorize hi hremoved htoken hmatch haction hdrawn =>
    exact h.authorize hi htoken hmatch haction hdrawn
  | write hi hclient => exact (h.client _).write hi
  | rotate hi => exact h.rotate hfresh hi (halone (by rw [hi]; rfl))
  | delete hi => exact h.quiet rfl (fun _ ht => ht) (by simp [hi]) rfl
  | revoke hi => exact h.quiet rfl (by simp) (by simp [hi]) rfl

lemma chained_initial : Chained D requests first (initial first) := by
  refine ⟨?_, ?_, ?_, ?_, ?_, ?_⟩
  · intro i r hr
    cases hr
  · intro i r hr
    cases hr
  · intro t ht
    cases ht
    exact .inl rfl
  · intro t _ i r hi
    cases hi
  · intro j hj
    cases hj
  · intro i j r r' hi
    cases hi

end Tokens

/-! ### Records -/

section Records
variable {D : KeyDigest} {requests : ℕ → Request M} {first : Registration M} {i : ℕ} {σ : State M}
  {phase : Phase M}

variable (first) in
/-- The two rows were written by one update, or are the first ones and no update has finished. -/
def Settled (σ : State M) : Prop :=
  (σ.client = some first.client ∧ σ.token = some first.token ∧ ∀ i r, σ.phase i ≠ .updated r) ∨
    ∃ i r, σ.phase i = .updated r ∧ σ.client = some r.client ∧ σ.token = some r.token

variable (first) in
/-- Unless the client has been removed, an update that has written it will find it so when it
replaces the token, and the rows agree while there is none. -/
structure Coherent (σ : State M) : Prop where
  written : (∀ j, (σ.phase j).removed = false) → ∀ i r, σ.phase i = .rotating r →
    σ.client = some r.client
  settled : (∀ j, (σ.phase j).removed = false) → (∀ i r, σ.phase i ≠ .rotating r) →
    Settled first σ

lemma Coherent.unmoved (h : Coherent first σ) (hremoved : (σ.phase i).removed = false)
    (hupdated : ∀ r, σ.phase i ≠ .updated r) (hrotating : ∀ r, σ.phase i ≠ .rotating r)
    (hupdated' : ∀ r, phase ≠ .updated r) (hrotating' : ∀ r, phase ≠ .rotating r) :
    Coherent first (σ.enter i phase) := by
  have hstanding : (∀ j, ((σ.enter i phase).phase j).removed = false) →
      ∀ j, (σ.phase j).removed = false := by
    intro hall j
    by_cases hj : j = i
    · exact hj ▸ hremoved
    · simpa [enter_phase, hj] using hall j
  have hsame : ∀ {j r}, σ.phase j = .rotating r → (σ.enter i phase).phase j = .rotating r := by
    intro j r hj
    rw [enter_phase, if_neg, hj]
    rintro rfl
    exact hrotating r hj
  constructor
  · intro hall j r hj
    rw [enter_phase] at hj
    split_ifs at hj
    · exact absurd hj (hrotating' r)
    · exact h.written (hstanding hall) j r hj
  · intro hall hnone
    rcases h.settled (hstanding hall) (fun j r hj => hnone j r (hsame hj)) with
      ⟨hclient, htoken, hfirst⟩ | ⟨j, r, hj, hclient, htoken⟩
    · exact .inl ⟨hclient, htoken, fun j r hj => hfirst j r (updated_enter hupdated' hj)⟩
    · refine .inr ⟨j, r, ?_, hclient, htoken⟩
      rw [enter_phase, if_neg, hj]
      rintro rfl
      exact hupdated r hj

lemma Coherent.removed (h : (σ.phase i).removed = true) : Coherent first σ :=
  ⟨fun hall => by simp [hall i] at h, fun hall => by simp [hall i] at h⟩

lemma not_rotating_of_pending (h : phase.pending = false) (r : Registration M) :
    phase ≠ .rotating r := by
  rintro rfl
  cases h

lemma coherent_write {records : Registration M}
    (halone : ∀ j, j ≠ i → (σ.phase j).pending = false) :
    Coherent first
      (State.enter { σ with client := some records.client } i (.rotating records)) := by
  constructor
  · intro _ j r hj
    rw [enter_phase] at hj
    split_ifs at hj with hji
    · cases hj
      rfl
    · exact absurd hj (not_rotating_of_pending (halone j hji) r)
  · intro _ hnone
    exact absurd (by rw [enter_phase, if_pos rfl]) (hnone i records)

lemma Coherent.rotate (h : Coherent first σ) {records : Registration M}
    (hi : σ.phase i = .rotating records) (halone : ∀ j, j ≠ i → (σ.phase j).pending = false) :
    Coherent first
      (State.enter { σ with token := some records.token } i (.updated records)) := by
  constructor
  · intro _ j r hj
    rw [enter_phase] at hj
    split_ifs at hj with hji
    exact absurd hj (not_rotating_of_pending (halone j hji) r)
  · intro hall _
    refine .inr ⟨i, records, by rw [enter_phase, if_pos rfl], ?_, rfl⟩
    refine h.written (fun j => ?_) i records hi
    by_cases hj : j = i
    · rw [hj, hi]
      rfl
    · simpa [enter_phase, hj] using hall j

lemma coherent_advance (h : Coherent first σ) (halone : Alone σ i)
    (hadvance : Advance D requests σ i σ') : Coherent first σ' := by
  cases hadvance with
  | quiet hremoved hupdated hrotating hrecords hphase =>
    exact h.unmoved hremoved hupdated hrotating (records_ne_updated hrecords)
      (not_rotating_of_pending (pending_of_records hrecords))
  | ended => exact h
  | authorize hi hremoved htoken hmatch haction hdrawn =>
    exact h.unmoved hremoved (records_ne_updated hi)
      (not_rotating_of_pending (pending_of_records hi)) (by simp) (by simp)
  | write hi hclient => exact coherent_write (halone (by rw [hi]; rfl))
  | rotate hi => exact h.rotate hi (halone (by rw [hi]; rfl))
  | delete hi => exact .removed (i := i) (by rw [enter_phase, if_pos rfl]; rfl)
  | revoke hi => exact .removed (i := i) (by rw [enter_phase, if_pos rfl]; rfl)

lemma coherent_initial : Coherent first (initial first) := by
  constructor
  · intro _ i r hi
    cases hi
  · intro _ _
    refine .inl ⟨rfl, rfl, fun i r hi => ?_⟩
    cases hi

/-! ### Deletions -/

/-- A deletion that has removed the client has removed it for good. -/
def Gone (σ : State M) : Prop := ∀ i, (σ.phase i).removed = true → σ.client = none

lemma Gone.unmoved (h : Gone σ) (hphase : σ'.phase = (σ.enter i phase).phase)
    (hclient : σ'.client = σ.client) (hremoved : phase.removed = false) : Gone σ' := by
  intro j hj
  rw [hphase, enter_phase] at hj
  split_ifs at hj
  · rw [hremoved] at hj
    cases hj
  · rw [hclient]
    exact h j hj

lemma gone_advance (h : Gone σ) (hadvance : Advance D requests σ i σ') :
    Gone σ' := by
  cases hadvance with
  | quiet _ _ _ _ hphase => exact h.unmoved rfl rfl hphase
  | ended => exact h
  | authorize => exact h.unmoved rfl rfl rfl
  | write hi hclient =>
    -- The row exists, so no deletion has come this far.
    intro j hj
    rw [enter_phase] at hj
    split_ifs at hj
    · cases hj
    · have hnone : σ.client = none := h j hj
      rw [hclient] at hnone
      cases hnone
  | rotate => exact h.unmoved rfl rfl rfl
  | delete => exact fun _ _ => rfl
  | revoke hi =>
    intro _ _
    exact h i (by rw [hi]; rfl)

lemma gone_run (deps : Deps M) :
    ∀ (steps : List ℕ) {σ : State M}, Gone σ → Gone (run deps D requests σ steps)
  | [], _, h => h
  | i :: rest, σ, h => gone_run deps rest (gone_advance h (step_advance σ i))

end Records

/-! ### Requests that run one after the other -/

section Serial
variable {deps : Deps M} {D : KeyDigest} {requests : ℕ → Request M}

lemma step_phase_other (σ : State M) {i j : ℕ} (hj : j ≠ i) :
    (step deps D requests σ i).phase j = σ.phase j := by
  have hadvance : Advance D requests σ i (step deps D requests σ i) := step_advance σ i
  generalize step deps D requests σ i = σ' at hadvance
  cases hadvance with
  | ended => rfl
  | _ => rw [enter_phase, if_neg hj]

lemma uncrossed_append {steps rest : List ℕ} :
    ∀ {σ : State M}, Uncrossed deps D requests σ steps →
      Uncrossed deps D requests (run deps D requests σ steps) rest →
      Uncrossed deps D requests σ (steps ++ rest) := by
  induction steps with
  | nil => exact fun _ h => h
  | cons i steps ih => exact fun h hrest => ⟨h.1, ih h.2 hrest⟩

lemma uncrossed_replicate {i : ℕ} (n : ℕ) :
    ∀ {σ : State M}, (∀ j, j ≠ i → (σ.phase j).pending = false) →
      Uncrossed deps D requests σ (List.replicate n i) ∧
        ∀ j, j ≠ i → (run deps D requests σ (List.replicate n i)).phase j = σ.phase j := by
  induction n with
  | zero => exact fun _ => ⟨trivial, fun _ _ => rfl⟩
  | succ n ih =>
    intro σ hidle
    have hsame : ∀ j, j ≠ i → (step deps D requests σ i).phase j = σ.phase j :=
      fun j hj => step_phase_other σ hj
    obtain ⟨huncrossed, hkept⟩ := ih (σ := step deps D requests σ i)
      fun j hj => hsame j hj ▸ hidle j hj
    exact ⟨⟨fun _ => hidle, huncrossed⟩, fun j hj => (hkept j hj).trans (hsame j hj)⟩

end Serial

/-! ### Any interleaving -/

def Phase.unanswered : Phase M → Bool
  | .start => false
  | .updated _ => false
  | .deleted => false
  | .refused _ => false
  | _ => true

/-- While updates do not cross, a token authorizes one of them, and the records they leave were
written by one. A deletion is final in every run. -/
theorem registration_updates_serial (deps : Deps M) (D : KeyDigest) (requests : ℕ → Request M)
    (first : Registration M) (hfresh : FreshTokens requests first.token) (steps : List ℕ) :
    (Uncrossed deps D requests (initial first) steps →
      (∀ i j r r', (run deps D requests (initial first) steps).phase i = .updated r →
        (run deps D requests (initial first) steps).phase j = .updated r' →
        (requests i).bearer = (requests j).bearer → i = j) ∧
      ((∀ i, ((run deps D requests (initial first) steps).phase i).unanswered = false) →
        (∀ i, (run deps D requests (initial first) steps).phase i ≠ .deleted) →
        Settled first (run deps D requests (initial first) steps))) ∧
    ∀ i, (run deps D requests (initial first) steps).phase i = .deleted →
      (run deps D requests (initial first) steps).client = none := by
  refine ⟨fun huncrossed => ⟨?_, ?_⟩, ?_⟩
  · have hchained : Chained D requests first (run deps D requests (initial first) steps) :=
      run_of_advance (fun _ _ _ hadvance halone h => chained_advance h hfresh halone hadvance)
        steps _ chained_initial huncrossed
    intro i j r r' hi hj hbearer
    exact hchained.once i j r r' hi hj (by rw [presented, presented, hbearer])
  · have hcoherent : Coherent first (run deps D requests (initial first) steps) :=
      run_of_advance (fun _ _ _ hadvance halone h => coherent_advance h halone hadvance)
        steps _ coherent_initial huncrossed
    intro hanswered hdeleted
    refine hcoherent.settled (fun i => ?_) (fun i r hi => ?_)
    · cases hi : (run deps D requests (initial first) steps).phase i with
      | revoking =>
        have hi' := hanswered i
        rw [hi] at hi'
        cases hi'
      | deleted => exact absurd hi (hdeleted i)
      | _ => rfl
    · have hi' := hanswered i
      rw [hi] at hi'
      cases hi'
  · intro i hi
    have hgone : Gone (run deps D requests (initial first) steps) :=
      gone_run deps steps fun j hj => by cases hj
    exact hgone i (by rw [hi]; rfl)

def registered : Registration Unit where
  client := ⟨"c", 0, .dynamic, ["https://rp/cb"], ["authorization_code"], ["code"], ["openid"], [],
    "client_secret_basic", "hash", "", 0, false, "web", "public", "RS256", "", ()⟩
  token := ⟨"c", plainDigest.hashKey "T0", [], 0⟩

/-- A body that asks for a scope; the answer returns the token. -/
def drawing (scope token : String) : Submission Unit :=
  { submitted scope with
    minted := ⟨"c", "hash", drawnHash_ne, plainDigest.hashKey token, 1⟩ }

/-- Two updates; the credential of the second is given. -/
def twoUpdates (second : String) : ℕ → Request Unit
  | 0 => ⟨some "T0", .put (drawing "openid" "T1")⟩
  | 1 => ⟨some second, .put (drawing "email" "T2")⟩
  | _ => ⟨none, .delete⟩

lemma twoUpdates_fresh (second : String) : FreshTokens (twoUpdates second) registered.token := by
  constructor
  · intro i s hs
    rcases i with _ | _ | i
    · cases hs
      decide
    · cases hs
      decide
    · cases hs
  · intro i j s s' hs hs' hsame
    rcases i with _ | _ | i
    · rcases j with _ | _ | j
      · rfl
      · cases hs
        cases hs'
        exact absurd hsame (by decide)
      · cases hs'
    · rcases j with _ | _ | j
      · cases hs
        cases hs'
        exact absurd hsame (by decide)
      · rfl
      · cases hs'
    · cases hs

/-- Four steps of the one, then four of the other. -/
def inTurn : List ℕ := List.replicate 4 0 ++ List.replicate 4 1

def crossing : List ℕ := [0, 0, 1, 1, 0, 1, 1, 0]

abbrev finish (bearer : String) :=
  run smallDeps plainDigest (twoUpdates bearer) (initial registered)

/-- The second update presents the token the first one has returned. -/
theorem twoUpdates_uncrossed :
    Uncrossed smallDeps plainDigest (twoUpdates "T1") (initial registered) inTurn := by
  have hidle : ∀ j, j ≠ 0 → ((initial registered).phase j).pending = false := fun _ _ => rfl
  obtain ⟨hfirst, hkept⟩ := uncrossed_replicate 4 hidle
  refine uncrossed_append hfirst (uncrossed_replicate 4 fun j hj => ?_).1
  by_cases h0 : j = 0
  · rw [h0]
    decide +kernel
  · rw [hkept j h0]
    rfl

theorem registration_updates_serial_replayed :
    Uncrossed smallDeps plainDigest (twoUpdates "T1") (initial registered) inTurn ∧
    ∀ i j r r', (finish "T1" inTurn).phase i = .updated r →
      (finish "T1" inTurn).phase j = .updated r' →
      (twoUpdates "T1" i).bearer = (twoUpdates "T1" j).bearer → i = j :=
  ⟨twoUpdates_uncrossed, ((registration_updates_serial smallDeps plainDigest (twoUpdates "T1")
    registered (twoUpdates_fresh "T1") _).1 twoUpdates_uncrossed).1⟩

/-- Both updates read the token before either replaces it: both succeed, and the client is the
one's, the token the other's. -/
theorem crossed_updates_both_succeed :
    ∃ r r' : Registration Unit,
      (finish "T0" crossing).phase 0 = .updated r ∧
      (finish "T0" crossing).phase 1 = .updated r' ∧
      (finish "T0" crossing).client = some r'.client ∧
      (finish "T0" crossing).token = some r.token ∧
      r.client ≠ r'.client ∧ r.token ≠ r'.token := by
  refine ⟨_, _, rfl, rfl, rfl, rfl, ?_, ?_⟩
  · decide +kernel
  · decide +kernel

end OidcProvider.RegistrationManagement
