import OidcProvider.FiniteMaps
import OidcProvider.StoreRecords

/-!
# The in-memory device-code store

`inmem/devicecodes.go`: records by the digest of the device code, and an index
from user codes to the same digests. Every state change goes through a
transition on a live record; `Consume` is the compare-and-set that makes an
approval good for one redemption.
-/
namespace OidcProvider.DeviceCodeStore
open FiniteMaps StoreRecords

inductive DeviceCodeStatus where
  | unspecified
  | pending
  | approved
  | denied
  | consumed
  deriving DecidableEq, Inhabited

structure DeviceCode where
  id : String
  userCode : String
  clientID : String
  scope : List String
  resource : List String
  dpopJKT : String
  mtlsCertS256 : String
  interval : Time
  issuedAt : Time
  expiresAt : Time
  lastPolledAt : Option Time
  status : DeviceCodeStatus
  subject : String
  authTime : Time
  denyReason : String
  userCodeStrikes : UInt8
  pollViolations : UInt8
  deriving DecidableEq, Inhabited

structure DeviceCodes where
  m : StringMap DeviceCode
  userCodeIndex : StringMap String
  savesSinceGC : UInt32

def newDeviceCodes : DeviceCodes := ⟨∅, ∅, 0⟩

def errNilCode : StoreError := .other "inmem: nil device code"

/-- `saturatingIncrement` on a `uint8` counter. -/
def saturatingIncrement (c : UInt8) : UInt8 := if c < 255 then c + 1 else c

/-! ### Saving -/

/-- `dropLocked`: the index entry goes only if it still points at the record. -/
def drop (s : DeviceCodes) (key : String) (rec : DeviceCode) : DeviceCodes :=
  { s with
    m := s.m.erase key
    userCodeIndex :=
      if s.userCodeIndex.lookup rec.userCode = some key then s.userCodeIndex.erase rec.userCode
      else s.userCodeIndex }

def deleteExpiredKey (now : Time) (s : DeviceCodes) (key : String) : DeviceCodes :=
  match s.m.lookup key with
  | none => s
  | some rec => if isExpiredStrict rec.expiresAt now then drop s key rec else s

def deleteExpiredUserCode (now : Time) (s : DeviceCodes) (userCode : String) : DeviceCodes :=
  match s.userCodeIndex.lookup userCode with
  | none => s
  | some key =>
    match s.m.lookup key with
    | none => { s with userCodeIndex := s.userCodeIndex.erase userCode }
    | some rec => if isExpiredStrict rec.expiresAt now then drop s key rec else s

def gc (ρ : KeyOrder) (now : Time) (s : DeviceCodes) : DeviceCodes :=
  (ρ.visit s.m.keys).foldl (deleteExpiredKey now) s

def maybeGC (ρ : KeyOrder) (now : Time) (s : DeviceCodes) : DeviceCodes :=
  let due := Sweeper.due s.savesSinceGC s.m.keys.card
  let s := { s with savesSinceGC := due.1 }
  if due.2 then gc ρ now s else s

section
variable (D : KeyDigest)

def save (ρ : KeyOrder) (now : Time) (s : DeviceCodes) :
    Option DeviceCode → DeviceCodes × StoreReply
  | none => (s, .error errNilCode)
  | some code =>
    let key := D.hashKey code.id
    let s := maybeGC ρ now (deleteExpiredUserCode now (deleteExpiredKey now s key) code.userCode)
    if (s.m.lookup key).isSome then (s, .error .alreadyExists)
    else if (s.userCodeIndex.lookup code.userCode).isSome then (s, .error .alreadyExists)
    else
      let status := if code.status = .unspecified then .pending else code.status
      ({ s with
        m := s.m.insert key { code with id := key, status }
        userCodeIndex := s.userCodeIndex.insert code.userCode key }, .ok ())

/-! ### Reading and transitions -/

def live (now : Time) (s : DeviceCodes) (key : String) : Option DeviceCode :=
  (s.m.lookup key).filter fun rec => !isExpiredStrict rec.expiresAt now

def findByDeviceCode (now : Time) (s : DeviceCodes) (deviceCode : String) : Fallible DeviceCode :=
  match live now s (D.hashKey deviceCode) with
  | none => .error .notFound
  | some rec =>
    if rec.id ≠ D.hashKey deviceCode then .error .notFound else .ok { rec with id := deviceCode }

/-- The device code itself is not handed out on this path. -/
def findByUserCode (now : Time) (s : DeviceCodes) (userCode : String) : Fallible DeviceCode :=
  match (s.userCodeIndex.lookup userCode).bind (live now s) with
  | none => .error .notFound
  | some rec => .ok { rec with id := "" }

/-- A change of a record, refused with an error or answered with a value. -/
abbrev Mutation (A : Type) := DeviceCode → Fallible (DeviceCode × A)

def mutate {A : Type} (now : Time) (s : DeviceCodes) (key : String) (f : Mutation A) :
    DeviceCodes × Fallible A :=
  match live now s key with
  | none => (s, .error .notFound)
  | some rec =>
    match f rec with
    | .error e => (s, .error e)
    | .ok (rec, a) => ({ s with m := s.m.insert key rec }, .ok a)

def transition {A : Type} (now : Time) (s : DeviceCodes) (deviceCode : String) (f : Mutation A) :
    DeviceCodes × Fallible A :=
  mutate now s (D.hashKey deviceCode) f

def transitionByUserCode {A : Type} (now : Time) (s : DeviceCodes) (userCode : String)
    (f : Mutation A) : DeviceCodes × Fallible A :=
  match s.userCodeIndex.lookup userCode with
  | none => (s, .error .notFound)
  | some key => mutate now s key f

end

variable {s : DeviceCodes} {rec : DeviceCode} {A : Type} {f : Mutation A} {D : KeyDigest}
  {key : String}

def approveMutation (subject : String) (authTime : Time) : Mutation Unit := fun rec =>
  if rec.status ≠ .pending then .error .conflict
  else .ok ({ rec with status := .approved, subject, authTime }, ())

def denyMutation (reason : String) : Mutation Unit := fun rec =>
  if rec.status ≠ .pending then .error .conflict
  else .ok ({ rec with status := .denied, denyReason := reason }, ())

/-- A terminal record is left as it is. -/
def revokeMutation (reason : String) : Mutation Unit := fun rec =>
  match rec.status with
  | .pending => .ok ({ rec with status := .denied, denyReason := reason }, ())
  | .approved => .ok ({ rec with status := .denied, denyReason := reason }, ())
  | .denied => .ok (rec, ())
  | .consumed => .ok (rec, ())
  | .unspecified => .error .conflict

def recordPollMutation (at_ nextInterval : Time) : Mutation Unit := fun rec =>
  .ok ({ rec with
    lastPolledAt := some at_
    interval := if rec.interval < nextInterval then nextInterval else rec.interval }, ())

def strikeMutation : Mutation UInt8 := fun rec =>
  let n := saturatingIncrement rec.userCodeStrikes
  .ok ({ rec with userCodeStrikes := n }, n)

def violationMutation : Mutation UInt8 := fun rec =>
  let n := saturatingIncrement rec.pollViolations
  .ok ({ rec with pollViolations := n }, n)

def consumeMutation (deviceCode : String) : Mutation DeviceCode := fun rec =>
  match rec.status with
  | .consumed => .error .alreadyConsumed
  | .approved =>
    let rec' := { rec with status := .consumed }
    .ok (rec', { rec' with id := deviceCode })
  | _ => .error .conflict

/-- The calls on the store. The user-code variants reach the same records. -/
inductive Call where
  | save (code : DeviceCode)
  | findByDeviceCode (deviceCode : String)
  | findByUserCode (userCode : String)
  | approve (deviceCode subject : String) (authTime : Time)
  | approveByUserCode (userCode subject : String) (authTime : Time)
  | deny (deviceCode reason : String)
  | denyByUserCode (userCode reason : String)
  | revoke (deviceCode reason : String)
  | recordPoll (deviceCode : String) (at_ nextInterval : Time)
  | incrementUserCodeStrike (deviceCode : String)
  | incrementUserCodeStrikeByUserCode (userCode : String)
  | incrementPollViolation (deviceCode : String)
  | consume (deviceCode : String)
  deriving DecidableEq

@[reducible] def Call.Reply : Call → Type
  | .findByDeviceCode _ => Fallible DeviceCode
  | .findByUserCode _ => Fallible DeviceCode
  | .incrementUserCodeStrike _ => Fallible UInt8
  | .incrementUserCodeStrikeByUserCode _ => Fallible UInt8
  | .incrementPollViolation _ => Fallible UInt8
  | .consume _ => Fallible DeviceCode
  | _ => StoreReply

def handle (D : KeyDigest) (ρ : KeyOrder) (now : Time) :
    (o : Call) → DeviceCodes → DeviceCodes × o.Reply
  | .save code, s => save D ρ now s (some code)
  | .findByDeviceCode deviceCode, s => (s, findByDeviceCode D now s deviceCode)
  | .findByUserCode userCode, s => (s, findByUserCode now s userCode)
  | .approve deviceCode subject authTime, s =>
    transition D now s deviceCode (approveMutation subject authTime)
  | .approveByUserCode userCode subject authTime, s =>
    transitionByUserCode now s userCode (approveMutation subject authTime)
  | .deny deviceCode reason, s => transition D now s deviceCode (denyMutation reason)
  | .denyByUserCode userCode reason, s => transitionByUserCode now s userCode (denyMutation reason)
  | .revoke deviceCode reason, s => transition D now s deviceCode (revokeMutation reason)
  | .recordPoll deviceCode at_ nextInterval, s =>
    transition D now s deviceCode (recordPollMutation at_ nextInterval)
  | .incrementUserCodeStrike deviceCode, s => transition D now s deviceCode strikeMutation
  | .incrementUserCodeStrikeByUserCode userCode, s =>
    transitionByUserCode now s userCode strikeMutation
  | .incrementPollViolation deviceCode, s => transition D now s deviceCode violationMutation
  | .consume deviceCode, s => transition D now s deviceCode (consumeMutation deviceCode)

/-! ### Terminal records -/

/-- A record in such a state is never redeemed. -/
def Terminal (status : DeviceCodeStatus) : Prop := status = .denied ∨ status = .consumed

/-- The mutation leaves the status of a terminal record as it is. -/
def Settles {A : Type} (f : Mutation A) : Prop :=
  ∀ rec rec' a, f rec = .ok (rec', a) → Terminal rec.status → rec'.status = rec.status

lemma settles_of_pending (h : ∀ rec, rec.status ≠ .pending → ∃ e, f rec = .error e) :
    Settles f := by
  intro rec rec' a hok hterminal
  obtain ⟨e, he⟩ := h rec (by rcases hterminal with hs | hs <;> simp [hs])
  rw [he] at hok
  cases hok

lemma settles_of_kept (h : ∀ rec rec' a, f rec = .ok (rec', a) → rec'.status = rec.status) :
    Settles f :=
  fun rec rec' a hok _ => h rec rec' a hok

lemma settles_approve (subject : String) (authTime : Time) :
    Settles (approveMutation subject authTime) :=
  settles_of_pending fun _ h => ⟨.conflict, if_pos h⟩

lemma settles_deny (reason : String) : Settles (denyMutation reason) :=
  settles_of_pending fun _ h => ⟨.conflict, if_pos h⟩

lemma settles_revoke (reason : String) : Settles (revokeMutation reason) := by
  intro rec rec' a hok hterminal
  unfold revokeMutation at hok
  rcases hterminal with hs | hs
  · rw [hs] at hok
    cases hok
    exact rfl
  · rw [hs] at hok
    cases hok
    exact rfl

lemma settles_recordPoll (at_ nextInterval : Time) :
    Settles (recordPollMutation at_ nextInterval) :=
  settles_of_kept fun rec rec' a hok => by
    cases hok
    rfl

lemma settles_strike : Settles strikeMutation :=
  settles_of_kept fun rec rec' a hok => by
    cases hok
    rfl

lemma settles_violation : Settles violationMutation :=
  settles_of_kept fun rec rec' a hok => by
    cases hok
    rfl

lemma settles_consume (deviceCode : String) : Settles (consumeMutation deviceCode) := by
  intro rec rec' a hok hterminal
  unfold consumeMutation at hok
  rcases hterminal with hs | hs
  · rw [hs] at hok
    cases hok
  · rw [hs] at hok
    cases hok

lemma mutate_cases (now : Time) (s : DeviceCodes) (key : String) (f : Mutation A) :
    (∃ e, mutate now s key f = (s, .error e)) ∨
      ∃ rec rec' a, s.m.lookup key = some rec ∧ f rec = .ok (rec', a) ∧
        mutate now s key f = ({ s with m := s.m.insert key rec' }, .ok a) := by
  unfold mutate
  cases hlive : live now s key with
  | none => exact .inl ⟨_, rfl⟩
  | some rec =>
    have hrec : s.m.lookup key = some rec := (Option.filter_eq_some_iff.mp hlive).1
    dsimp only
    cases hf : f rec with
    | error e => exact .inl ⟨e, rfl⟩
    | ok r => exact .inr ⟨rec, r.1, r.2, hrec, hf, rfl⟩

lemma status_mutate (hf : Settles f) (now : Time) (hrec : s.m.lookup key = some rec)
    (hterminal : Terminal rec.status) (key' : String) :
    ∃ rec', (mutate now s key' f).1.m.lookup key = some rec' ∧ rec'.status = rec.status := by
  rcases mutate_cases now s key' f with ⟨e, heq⟩ | ⟨old, new, a, hold, hok, heq⟩
  · rw [heq]
    exact ⟨rec, hrec, rfl⟩
  · rw [heq]
    by_cases hkey : key = key'
    · subst hkey
      rw [hrec, Option.some.injEq] at hold
      subst hold
      exact ⟨new, by rw [lookup_insert_ite, if_pos rfl], hf _ _ _ hok hterminal⟩
    · exact ⟨rec, by rw [lookup_insert_ite, if_neg hkey, hrec], rfl⟩

lemma status_transitionByUserCode (hf : Settles f) (now : Time) (hrec : s.m.lookup key = some rec)
    (hterminal : Terminal rec.status) (userCode : String) :
    ∃ rec', (transitionByUserCode now s userCode f).1.m.lookup key = some rec' ∧
      rec'.status = rec.status := by
  unfold transitionByUserCode
  cases s.userCodeIndex.lookup userCode with
  | none => exact ⟨rec, hrec, rfl⟩
  | some key' => exact status_mutate hf now hrec hterminal key'

/-- No call but a save touches the status of a terminal record. -/
theorem status_handle (ρ : KeyOrder) (now : Time) {o : Call} (ho : ∀ code, o ≠ .save code)
    (hrec : s.m.lookup key = some rec) (hterminal : Terminal rec.status) :
    ∃ rec', (handle D ρ now o s).1.m.lookup key = some rec' ∧ rec'.status = rec.status := by
  cases o with
  | save code => exact absurd rfl (ho code)
  | findByDeviceCode deviceCode => exact ⟨rec, hrec, rfl⟩
  | findByUserCode userCode => exact ⟨rec, hrec, rfl⟩
  | approve deviceCode subject authTime =>
    exact status_mutate (settles_approve _ _) now hrec hterminal _
  | approveByUserCode userCode subject authTime =>
    exact status_transitionByUserCode (settles_approve _ _) now hrec hterminal _
  | deny deviceCode reason => exact status_mutate (settles_deny _) now hrec hterminal _
  | denyByUserCode userCode reason =>
    exact status_transitionByUserCode (settles_deny _) now hrec hterminal _
  | revoke deviceCode reason => exact status_mutate (settles_revoke _) now hrec hterminal _
  | recordPoll deviceCode at_ nextInterval =>
    exact status_mutate (settles_recordPoll _ _) now hrec hterminal _
  | incrementUserCodeStrike deviceCode => exact status_mutate settles_strike now hrec hterminal _
  | incrementUserCodeStrikeByUserCode userCode =>
    exact status_transitionByUserCode settles_strike now hrec hterminal _
  | incrementPollViolation deviceCode =>
    exact status_mutate settles_violation now hrec hterminal _
  | consume deviceCode => exact status_mutate (settles_consume _) now hrec hterminal _

lemma consume_ok {ρ : KeyOrder} {now : Time} {deviceCode : String} {answer : DeviceCode}
    (h : (handle D ρ now (.consume deviceCode) s).2 = .ok answer) :
    (∃ rec, s.m.lookup (D.hashKey deviceCode) = some rec ∧ rec.status = .approved) ∧
      ∃ rec, (handle D ρ now (.consume deviceCode) s).1.m.lookup (D.hashKey deviceCode) =
        some rec ∧ rec.status = .consumed := by
  change (mutate now s (D.hashKey deviceCode) (consumeMutation deviceCode)).2 = .ok answer at h
  change _ ∧ ∃ rec, (mutate now s (D.hashKey deviceCode) (consumeMutation deviceCode)).1.m.lookup
    (D.hashKey deviceCode) = some rec ∧ rec.status = .consumed
  rcases mutate_cases now s (D.hashKey deviceCode) (consumeMutation deviceCode) with
    ⟨e, heq⟩ | ⟨old, new, a, hold, hok, heq⟩
  · rw [heq] at h
    cases h
  · rw [heq]
    unfold consumeMutation at hok
    cases hs : old.status with
    | approved =>
      rw [hs] at hok
      cases hok
      exact ⟨⟨old, hold, hs⟩, _, by rw [lookup_insert_ite, if_pos rfl], rfl⟩
    | _ =>
      rw [hs] at hok
      cases hok

lemma revoke_ok {ρ : KeyOrder} {now : Time} {deviceCode reason : String}
    (h : (handle D ρ now (.revoke deviceCode reason) s).2 = .ok ()) :
    ∃ rec, (handle D ρ now (.revoke deviceCode reason) s).1.m.lookup (D.hashKey deviceCode) =
      some rec ∧ Terminal rec.status := by
  change (mutate now s (D.hashKey deviceCode) (revokeMutation reason)).2 = .ok () at h
  change ∃ rec, (mutate now s (D.hashKey deviceCode) (revokeMutation reason)).1.m.lookup
    (D.hashKey deviceCode) = some rec ∧ Terminal rec.status
  rcases mutate_cases now s (D.hashKey deviceCode) (revokeMutation reason) with
    ⟨e, heq⟩ | ⟨old, new, a, hold, hok, heq⟩
  · rw [heq] at h
    cases h
  · rw [heq]
    refine ⟨new, by rw [lookup_insert_ite, if_pos rfl], ?_⟩
    unfold revokeMutation at hok
    cases hs : old.status with
    | unspecified =>
      rw [hs] at hok
      cases hok
    | pending =>
      rw [hs] at hok
      cases hok
      exact .inl rfl
    | approved =>
      rw [hs] at hok
      cases hok
      exact .inl rfl
    | denied =>
      rw [hs] at hok
      cases hok
      exact .inl hs
    | consumed =>
      rw [hs] at hok
      cases hok
      exact .inr hs

end OidcProvider.DeviceCodeStore
