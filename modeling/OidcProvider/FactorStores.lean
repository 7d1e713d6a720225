import OidcProvider.FiniteMaps
import OidcProvider.FreshStamps
import OidcProvider.StoreRecords

/-!
# The in-memory factor stores

`inmem/totp.go` and `inmem/emailotp.go`: one record for each subject in either
store, stamped with versions of one allocator that both stores share. A call
holds the lock of its store, and the loop of the allocator takes effect at its
one successful swap, so a run is a list of calls, whoever makes them and on
whichever store.
-/
namespace OidcProvider.FactorStores
open FiniteMaps FreshStamps StoreRecords

/-! ### Records -/

structure TOTPRecord where
  subject : String
  version : UInt64
  secretCiphertext : List UInt8
  confirmedAt : Time
  failedCount : ℤ
  firstFailureAt : Time
  lockedUntil : Time
  lastAcceptedStep : ℤ
  deriving DecidableEq

structure EmailOTPRecord where
  subject : String
  version : UInt64
  codeSalt : List UInt8
  codeHash : List UInt8
  sentAt : Time
  expiresAt : Time
  retainUntil : Time
  failedCount : ℤ
  firstFailureAt : Time
  lockedUntil : Time
  consumedAt : Time
  sendCount : ℤ
  sendWindowStart : Time
  lastSendAttemptAt : Time
  deriving DecidableEq

/-- What both stores read and write of a record. -/
class FactorRecord (R : Type) where
  subject : R → String
  version : R → UInt64
  stamped : R → UInt64 → R
  subject_stamped : ∀ r v, subject (stamped r v) = subject r
  version_stamped : ∀ r v, version (stamped r v) = v

instance : FactorRecord TOTPRecord where
  subject := (·.subject)
  version := (·.version)
  stamped r v := { r with version := v }
  subject_stamped _ _ := rfl
  version_stamped _ _ := rfl

instance : FactorRecord EmailOTPRecord where
  subject := (·.subject)
  version := (·.version)
  stamped r v := { r with version := v }
  subject_stamped _ _ := rfl
  version_stamped _ _ := rfl

/-! ### The allocator -/

/-- `math.MaxInt64`. -/
def maxMFARecordVersion : UInt64 := 9223372036854775807

def validMFARecordVersion (version : UInt64) : Bool :=
  decide (0 < version ∧ version < maxMFARecordVersion)

def errVersionExhausted : StoreError := .other "inmem: mfa record version exhausted"

/-- `mfaVersionAllocator.next`, from the value last issued. -/
def next (nextValue : UInt64) : Fallible UInt64 :=
  if maxMFARecordVersion - 1 ≤ nextValue then .error errVersionExhausted else .ok (nextValue + 1)

/-! ### One store -/

structure FactorStore (R : Type) where
  m : StringMap R
  nextValue : UInt64

abbrev TOTPStore := FactorStore TOTPRecord
abbrev EmailOTPStore := FactorStore EmailOTPRecord

namespace FactorStore
variable {R : Type} [FactorRecord R]

def putNextLocked (s : FactorStore R) (stored : R) : FactorStore R × StoreReply :=
  match next s.nextValue with
  | .error e => (s, .error e)
  | .ok version =>
    (⟨s.m.insert (FactorRecord.subject stored) (FactorRecord.stamped stored version), version⟩,
      .ok ())

def delete (s : FactorStore R) (subject : String) : FactorStore R × StoreReply :=
  match s.m.lookup subject with
  | none => (s, .error .notFound)
  | some _ => ({ s with m := s.m.erase subject }, .ok ())

end FactorStore

/-! ### TOTP -/

namespace TOTP

def errNilRecord : StoreError := .other "inmem: nil totp record"
def errInvalidSwap : StoreError := .other "inmem: invalid totp compare-and-swap record"

def get (s : TOTPStore) (subject : String) : Fallible TOTPRecord :=
  match s.m.lookup subject with
  | none => .error .notFound
  | some rec => .ok rec

def put (s : TOTPStore) : Option TOTPRecord → TOTPStore × StoreReply
  | none => (s, .error errNilRecord)
  | some r => s.putNextLocked r

def unchanged (s : TOTPStore) (previous : TOTPRecord) : Bool :=
  match s.m.lookup previous.subject with
  | none => false
  | some current => decide (current.version = previous.version ∧ current = previous)

def compareAndSwap (s : TOTPStore) : Option TOTPRecord → Option TOTPRecord → TOTPStore × StoreReply
  | some previous, some next =>
    if previous.subject = "" ∨ next.subject ≠ previous.subject then (s, .error errInvalidSwap)
    else if next.version ≠ previous.version ∨ validMFARecordVersion previous.version = false then
      (s, .error .alreadyConsumed)
    else if unchanged s previous then s.putNextLocked next
    else (s, .error .alreadyConsumed)
  | _, _ => (s, .error errInvalidSwap)

def accept (s : TOTPStore) : Option TOTPRecord → TOTPStore × StoreReply
  | none => (s, .error errNilRecord)
  | some r =>
    if validMFARecordVersion r.version = false then (s, .error .alreadyConsumed)
    else match s.m.lookup r.subject with
      | none => (s, .error .notFound)
      | some current =>
        if current.version ≠ r.version then (s, .error .alreadyConsumed)
        else if current.secretCiphertext ≠ r.secretCiphertext ∨
            current.confirmedAt ≠ r.confirmedAt then (s, .error .alreadyConsumed)
        else if r.lastAcceptedStep = 0 ∨ r.lastAcceptedStep ≤ current.lastAcceptedStep then
          (s, .error .alreadyConsumed)
        else s.putNextLocked r

end TOTP

/-! ### Email OTP -/

namespace EmailOTP

def errNilRecord : StoreError := .other "inmem: nil email otp record"
def errMissingSubject : StoreError := .other "inmem: email otp record missing Subject"
def errInvalidSwap : StoreError := .other "inmem: invalid email otp compare-and-swap record"

/-- `emailOTPExpired`: past the horizon of retention. -/
def expired (rec : EmailOTPRecord) (now : Time) : Bool :=
  isExpiredStrict (if rec.retainUntil = 0 then rec.expiresAt else rec.retainUntil) now

def get (s : EmailOTPStore) (now : Time) (subject : String) : Fallible EmailOTPRecord :=
  match s.m.lookup subject with
  | none => .error .notFound
  | some rec => if expired rec now then .error .notFound else .ok rec

def put (s : EmailOTPStore) : Option EmailOTPRecord → EmailOTPStore × StoreReply
  | none => (s, .error errNilRecord)
  | some r => if r.subject = "" then (s, .error errMissingSubject) else s.putNextLocked r

def live (s : EmailOTPStore) (now : Time) (subject : String) : Bool :=
  match s.m.lookup subject with
  | none => false
  | some current => !expired current now

def unchanged (s : EmailOTPStore) (subject : String) (previous : EmailOTPRecord) : Bool :=
  match s.m.lookup subject with
  | none => false
  | some current => decide (current.version = previous.version ∧ current = previous)

/-- With no previous record, `CompareAndSwap` inserts where no record is live. -/
def compareAndSwap (s : EmailOTPStore) (now : Time) :
    Option EmailOTPRecord → Option EmailOTPRecord →
      EmailOTPStore × StoreReply
  | _, none => (s, .error errInvalidSwap)
  | none, some next =>
    if next.subject = "" then (s, .error errInvalidSwap)
    else if live s now next.subject then (s, .error .alreadyConsumed)
    else s.putNextLocked next
  | some previous, some next =>
    if next.subject = "" then (s, .error errInvalidSwap)
    else if previous.subject ≠ next.subject then (s, .error errInvalidSwap)
    else if next.version ≠ previous.version ∨ validMFARecordVersion previous.version = false then
      (s, .error .alreadyConsumed)
    else if unchanged s next.subject previous then s.putNextLocked next
    else (s, .error .alreadyConsumed)

/-- The record as `Consume` stores it: marked, also where the caller has not. -/
def consumedRecord (r : EmailOTPRecord) (stampedAt : Time) : EmailOTPRecord :=
  { r with consumedAt := if r.consumedAt = 0 then stampedAt else r.consumedAt }

/-- `Consume`, with the clock readings of its expiry check and of its stamp. -/
def consume (s : EmailOTPStore) (now stampedAt : Time) :
    Option EmailOTPRecord → EmailOTPStore × StoreReply
  | none => (s, .error errNilRecord)
  | some r =>
    if validMFARecordVersion r.version = false then (s, .error .alreadyConsumed)
    else match s.m.lookup r.subject with
      | none => (s, .error .notFound)
      | some current =>
        if current.version ≠ r.version then (s, .error .alreadyConsumed)
        else if isExpiredStrict current.expiresAt now then (s, .error .notFound)
        else if current.consumedAt ≠ 0 then (s, .error .alreadyConsumed)
        else if current.codeSalt ≠ r.codeSalt ∨ current.codeHash ≠ r.codeHash then
          (s, .error .alreadyConsumed)
        else s.putNextLocked (consumedRecord r stampedAt)

end EmailOTP

/-! ### Both stores -/

structure Factors where
  totps : StringMap TOTPRecord
  emailotps : StringMap EmailOTPRecord
  nextValue : UInt64

def newFactors : Factors := ⟨∅, ∅, 0⟩

namespace Factors

def totp (s : Factors) : TOTPStore := ⟨s.totps, s.nextValue⟩
def email (s : Factors) : EmailOTPStore := ⟨s.emailotps, s.nextValue⟩

end Factors

inductive TOTPCall where
  | get (subject : String)
  | put (r : Option TOTPRecord)
  | compareAndSwap (previous next : Option TOTPRecord)
  | accept (r : Option TOTPRecord)
  | delete (subject : String)
  deriving DecidableEq

/-- The calls on the email store, with the clock readings they meet. -/
inductive EmailCall where
  | get (now : Time) (subject : String)
  | put (r : Option EmailOTPRecord)
  | compareAndSwap (now : Time) (previous next : Option EmailOTPRecord)
  | consume (now stampedAt : Time) (r : Option EmailOTPRecord)
  | delete (subject : String)
  deriving DecidableEq

inductive Op where
  | totp (c : TOTPCall)
  | email (c : EmailCall)
  deriving DecidableEq

/-- A call on the TOTP store. A `Get` that finds a record counts as a success. -/
def TOTPCall.apply (s : TOTPStore) : TOTPCall → TOTPStore × StoreReply
  | .get subject => (s, (TOTP.get s subject).map fun _ => ())
  | .put r => TOTP.put s r
  | .compareAndSwap previous next => TOTP.compareAndSwap s previous next
  | .accept r => TOTP.accept s r
  | .delete subject => s.delete subject

def EmailCall.apply (s : EmailOTPStore) : EmailCall → EmailOTPStore × StoreReply
  | .get now subject => (s, (EmailOTP.get s now subject).map fun _ => ())
  | .put r => EmailOTP.put s r
  | .compareAndSwap now previous next => EmailOTP.compareAndSwap s now previous next
  | .consume now stampedAt r => EmailOTP.consume s now stampedAt r
  | .delete subject => s.delete subject

def step (s : Factors) : Op → Factors
  | .totp c =>
    let t := (c.apply s.totp).1
    { s with totps := t.m, nextValue := t.nextValue }
  | .email c =>
    let t := (c.apply s.email).1
    { s with emailotps := t.m, nextValue := t.nextValue }

def run (s : Factors) (ops : List Op) : Factors := ops.foldl step s

def isOk (r : StoreReply) : Bool :=
  match r with
  | .ok _ => true
  | .error _ => false

def succeeds (s : Factors) : Op → Bool
  | .totp c => isOk (c.apply s.totp).2
  | .email c => isOk (c.apply s.email).2

inductive Key where
  | totp (subject : String)
  | email (subject : String)
  deriving DecidableEq

/-- The subject whose record a call writes or deletes when it succeeds. -/
def TOTPCall.subject : TOTPCall → Option String
  | .get _ => none
  | .put r => r.map (·.subject)
  | .compareAndSwap _ next => next.map (·.subject)
  | .accept r => r.map (·.subject)
  | .delete subject => some subject

def EmailCall.subject : EmailCall → Option String
  | .get _ _ => none
  | .put r => r.map (·.subject)
  | .compareAndSwap _ _ next => next.map (·.subject)
  | .consume _ _ r => r.map (·.subject)
  | .delete subject => some subject

def target : Op → Option Key
  | .totp c => c.subject.map .totp
  | .email c => c.subject.map .email

def versionOn (s : Factors) : Key → Option ℕ
  | .totp subject => (s.totps.lookup subject).map (·.version.toNat)
  | .email subject => (s.emailotps.lookup subject).map (·.version.toNat)

def touches (s : Factors) (o : Op) (k : Key) : Bool :=
  decide (target o = some k) && succeeds s o

/-! ### What a call does -/

lemma toNat_next {v v' : UInt64} (h : next v = .ok v') : v'.toNat = v.toNat + 1 := by
  unfold next at h
  split_ifs at h with hlast
  cases h
  have hlt : v.toNat < 9223372036854775806 := Nat.lt_of_not_le fun hle => hlast hle
  change (v.toNat + 1) % 18446744073709551616 = v.toNat + 1
  omega

/-- What a call leaves of its store: all as it was, a record less, or one record
written under the next version. -/
inductive Leaves {R : Type} [FactorRecord R] (s : FactorStore R) (subject : Option String) :
    FactorStore R × StoreReply → Prop
  | kept (r : StoreReply) (h : isOk r = true → subject = none) : Leaves s subject (s, r)
  | removed (k : String) (h : subject = some k) :
      Leaves s subject ({ s with m := s.m.erase k }, .ok ())
  | wrote (r : R) (v : UInt64) (h : subject = some (FactorRecord.subject r))
      (hv : next s.nextValue = .ok v) :
      Leaves s subject
        (⟨s.m.insert (FactorRecord.subject r) (FactorRecord.stamped r v), v⟩, .ok ())

section
variable {R : Type} [FactorRecord R] {s : FactorStore R} {subject : Option String}
  {t : FactorStore R × StoreReply}

lemma leaves_failed (e : StoreError) : Leaves s subject (s, .error e) :=
  .kept _ nofun

/-- A call that fails, or that stores a record with `P` under the next version. -/
def Stores (P : R → Prop) (s : FactorStore R) (t : FactorStore R × StoreReply) : Prop :=
  (∃ e, t = (s, .error e)) ∨ ∃ r v, P r ∧ next s.nextValue = .ok v ∧
    t = (⟨s.m.insert (FactorRecord.subject r) (FactorRecord.stamped r v), v⟩, .ok ())

variable {P : R → Prop} {k : String}

lemma stores_failed (e : StoreError) : Stores P s (s, .error e) := .inl ⟨e, rfl⟩

lemma stores_putNextLocked {r : R} (h : P r) : Stores P s (s.putNextLocked r) := by
  unfold FactorStore.putNextLocked
  cases hv : next s.nextValue with
  | error e => exact stores_failed e
  | ok v => exact .inr ⟨r, v, h, hv, rfl⟩

lemma Stores.leaves (h : Stores P s t)
    (hP : ∀ r, P r → subject = some (FactorRecord.subject r)) : Leaves s subject t := by
  obtain ⟨e, rfl⟩ | ⟨r, v, hr, hv, rfl⟩ := h
  · exact leaves_failed e
  · exact .wrote r v (hP r hr) hv

lemma Stores.lookup (h : Stores P s t) {rec : R} (hrec : t.1.m.lookup k = some rec) :
    s.m.lookup k = some rec ∨ ∃ r v, P r ∧ FactorRecord.subject r = k ∧ isOk t.2 = true ∧
      rec = FactorRecord.stamped r v := by
  obtain ⟨e, rfl⟩ | ⟨r, v, hr, hv, rfl⟩ := h
  · exact .inl hrec
  · rw [lookup_insert_ite] at hrec
    split_ifs at hrec with hk
    · exact .inr ⟨r, v, hr, hk.symm, rfl, (Option.some.inj hrec).symm⟩
    · exact .inl hrec

lemma Stores.of_ok (h : Stores P s t) (hok : isOk t.2 = true) :
    ∃ r v, P r ∧ t.1.m.lookup (FactorRecord.subject r) = some (FactorRecord.stamped r v) := by
  obtain ⟨e, rfl⟩ | ⟨r, v, hr, hv, rfl⟩ := h
  · cases hok
  · exact ⟨r, v, hr, (lookup_insert_ite _ _ _ _).trans (if_pos rfl)⟩

lemma leaves_delete (subject : String) : Leaves s (some subject) (s.delete subject) := by
  unfold FactorStore.delete
  cases s.m.lookup subject with
  | none => exact leaves_failed _
  | some _ => exact .removed subject rfl

lemma Leaves.nextValue_le (h : Leaves s subject t) : s.nextValue.toNat ≤ t.1.nextValue.toNat := by
  cases h with
  | kept r _ => exact le_rfl
  | removed k _ => exact le_rfl
  | wrote r v _ hv => exact (toNat_next hv).symm ▸ Nat.le_succ _

lemma Leaves.lookup_kept (h : Leaves s subject t) (hk : subject = some k → isOk t.2 = false) :
    t.1.m.lookup k = s.m.lookup k := by
  cases h with
  | kept r _ => rfl
  | removed k' hk' =>
    refine (lookup_erase_ite _ _ _).trans (if_neg fun heq => ?_)
    exact Bool.noConfusion (hk (heq ▸ hk'))
  | wrote r v hr hv =>
    refine (lookup_insert_ite _ _ _ _).trans (if_neg fun heq => ?_)
    exact Bool.noConfusion (hk (heq ▸ hr))

lemma Leaves.lookup_written (h : Leaves s subject t) (hk : subject = some k)
    (hok : isOk t.2 = true) {rec : R} (hrec : t.1.m.lookup k = some rec) :
    (FactorRecord.version rec).toNat = s.nextValue.toNat + 1 ∧
      t.1.nextValue.toNat = s.nextValue.toNat + 1 := by
  cases h with
  | kept r hr =>
    rw [hr hok] at hk
    cases hk
  | removed k' hk' =>
    rw [hk', Option.some.injEq] at hk
    have hnone := (lookup_erase_ite s.m k' k).trans (if_pos hk.symm)
    exact absurd (hrec.symm.trans hnone) nofun
  | wrote r v hr hv =>
    rw [hr, Option.some.injEq] at hk
    have hnew : (s.m.insert (FactorRecord.subject r) (FactorRecord.stamped r v)).lookup k =
        some (FactorRecord.stamped r v) := (lookup_insert_ite _ _ _ _).trans (if_pos hk.symm)
    have heq : rec = FactorRecord.stamped r v := Option.some.inj (hrec.symm.trans hnew)
    rw [heq, FactorRecord.version_stamped]
    exact ⟨toNat_next hv, toNat_next hv⟩

end

/-! ### When the conditional calls succeed -/

section
variable (s : TOTPStore)

lemma TOTP.compareAndSwap_stores (previous next : Option TOTPRecord) :
    Stores (fun n => next = some n ∧ ∃ p, previous = some p ∧ n.subject = p.subject ∧
      s.m.lookup p.subject = some p) s (compareAndSwap s previous next) := by
  cases previous with
  | none => exact stores_failed _
  | some p =>
    cases next with
    | none => exact stores_failed _
    | some n =>
      unfold compareAndSwap
      dsimp only
      split_ifs with hsubject hversion hsame
      any_goals exact stores_failed _
      refine stores_putNextLocked ⟨rfl, p, rfl, not_not.mp (not_or.mp hsubject).2, ?_⟩
      unfold unchanged at hsame
      cases hrec : s.m.lookup p.subject with
      | none =>
        rw [hrec] at hsame
        cases hsame
      | some current =>
        rw [hrec] at hsame
        rw [(of_decide_eq_true hsame).2]

lemma TOTP.accept_stores (r : Option TOTPRecord) :
    Stores (fun r' => r = some r' ∧ ∃ current, s.m.lookup r'.subject = some current ∧
      current.version = r'.version ∧ current.lastAcceptedStep < r'.lastAcceptedStep) s
      (accept s r) := by
  cases r with
  | none => exact stores_failed _
  | some r =>
    unfold accept
    dsimp only
    cases hrec : s.m.lookup r.subject with
    | none =>
      split_ifs <;> exact stores_failed _
    | some current =>
      dsimp only
      split_ifs with hvalid hversion hsecret hstep
      any_goals exact stores_failed _
      exact stores_putNextLocked
        ⟨rfl, current, hrec, not_not.mp hversion, not_le.mp (not_or.mp hstep).2⟩

end

section
variable (s : EmailOTPStore)

lemma EmailOTP.put_stores (r : Option EmailOTPRecord) :
    Stores (fun r' => r = some r') s (put s r) := by
  cases r with
  | none => exact stores_failed _
  | some r =>
    unfold put
    dsimp only
    split_ifs
    · exact stores_failed _
    · exact stores_putNextLocked rfl

lemma EmailOTP.compareAndSwap_stores (now : Time) (previous next : Option EmailOTPRecord) :
    Stores (fun n => next = some n ∧ (previous = none → live s now n.subject = false) ∧
      ∀ p, previous = some p → p.subject = n.subject ∧ s.m.lookup p.subject = some p) s
      (compareAndSwap s now previous next) := by
  cases next with
  | none => cases previous <;> exact stores_failed _
  | some n =>
    cases previous with
    | none =>
      unfold compareAndSwap
      dsimp only
      split_ifs with hempty hlive
      · exact stores_failed _
      · exact stores_failed _
      · exact stores_putNextLocked ⟨rfl, fun _ => Bool.eq_false_iff.mpr hlive, nofun⟩
    | some p =>
      unfold compareAndSwap
      dsimp only
      split_ifs with hempty hsubject hversion hsame
      any_goals exact stores_failed _
      refine stores_putNextLocked ⟨rfl, nofun, ?_⟩
      intro p' hp
      cases hp
      have hsubject := not_not.mp hsubject
      refine ⟨hsubject, ?_⟩
      unfold unchanged at hsame
      rw [← hsubject] at hsame
      cases hrec : s.m.lookup p.subject with
      | none =>
        rw [hrec] at hsame
        cases hsame
      | some current =>
        rw [hrec] at hsame
        rw [(of_decide_eq_true hsame).2]

lemma EmailOTP.consume_stores (now stampedAt : Time) (r : Option EmailOTPRecord) :
    Stores (fun stored => ∃ r' current, r = some r' ∧ stored = consumedRecord r' stampedAt ∧
      s.m.lookup r'.subject = some current ∧ current.version = r'.version ∧
      current.consumedAt = 0) s (consume s now stampedAt r) := by
  cases r with
  | none => exact stores_failed _
  | some r =>
    unfold consume
    dsimp only
    cases hrec : s.m.lookup r.subject with
    | none =>
      split_ifs <;> exact stores_failed _
    | some current =>
      dsimp only
      split_ifs with hvalid hversion hexpired hconsumed hcode
      any_goals exact stores_failed _
      exact stores_putNextLocked
        ⟨r, current, rfl, rfl, hrec, not_not.mp hversion, not_not.mp hconsumed⟩

end

lemma leaves_totp (s : TOTPStore) (c : TOTPCall) : Leaves s c.subject (c.apply s) := by
  cases c with
  | get subject => exact .kept _ fun _ => rfl
  | put r =>
    cases r with
    | none => exact leaves_failed _
    | some r => exact (stores_putNextLocked (P := (· = r)) rfl).leaves fun _ h => h ▸ rfl
  | compareAndSwap previous next =>
    exact (TOTP.compareAndSwap_stores s previous next).leaves fun _ h => h.1 ▸ rfl
  | accept r => exact (TOTP.accept_stores s r).leaves fun _ h => h.1 ▸ rfl
  | delete subject => exact leaves_delete subject

lemma leaves_email (s : EmailOTPStore) (c : EmailCall) : Leaves s c.subject (c.apply s) := by
  cases c with
  | get now subject => exact .kept _ fun _ => rfl
  | put r => exact (EmailOTP.put_stores s r).leaves fun _ h => h ▸ rfl
  | compareAndSwap now previous next =>
    exact (EmailOTP.compareAndSwap_stores s now previous next).leaves fun _ h => h.1 ▸ rfl
  | consume now stampedAt r =>
    refine (EmailOTP.consume_stores s now stampedAt r).leaves ?_
    rintro _ ⟨r', _, rfl, rfl, _⟩
    rfl
  | delete subject => exact leaves_delete subject

/-! ### Versions are fresh -/

lemma target_totp {c : TOTPCall} {k : Key} (h : target (.totp c) = some k) :
    ∃ subject, k = .totp subject ∧ c.subject = some subject := by
  obtain ⟨subject, hsubject, hk⟩ := Option.map_eq_some_iff.mp h
  exact ⟨subject, hk.symm, hsubject⟩

lemma target_email {c : EmailCall} {k : Key} (h : target (.email c) = some k) :
    ∃ subject, k = .email subject ∧ c.subject = some subject := by
  obtain ⟨subject, hsubject, hk⟩ := Option.map_eq_some_iff.mp h
  exact ⟨subject, hk.symm, hsubject⟩

lemma nextValue_step (s : Factors) (o : Op) : s.nextValue.toNat ≤ (step s o).nextValue.toNat := by
  cases o with
  | totp c => exact (leaves_totp s.totp c).nextValue_le
  | email c => exact (leaves_email s.email c).nextValue_le

lemma versionOn_kept (s : Factors) (o : Op) (k : Key) (h : touches s o k = false) :
    versionOn (step s o) k = versionOn s k := by
  have hfails : target o = some k → succeeds s o = false := by
    intro hk
    unfold touches at h
    rw [hk] at h
    simpa using h
  cases o with
  | totp c =>
    cases k with
    | email subject => rfl
    | totp subject =>
      have hrow := (leaves_totp s.totp c).lookup_kept (k := subject) fun hsubject =>
        hfails (by rw [target, hsubject]; rfl)
      exact congrArg (Option.map _) hrow
  | email c =>
    cases k with
    | totp subject => rfl
    | email subject =>
      have hrow := (leaves_email s.email c).lookup_kept (k := subject) fun hsubject =>
        hfails (by rw [target, hsubject]; rfl)
      exact congrArg (Option.map _) hrow

lemma versionOn_fresh (s : Factors) (o : Op) (k : Key) (v : ℕ) (h : touches s o k = true)
    (hv : versionOn (step s o) k = some v) :
    s.nextValue.toNat < v ∧ v ≤ (step s o).nextValue.toNat := by
  obtain ⟨hk, hok⟩ := Bool.and_eq_true_iff.mp h
  have hk := of_decide_eq_true hk
  cases o with
  | totp c =>
    obtain ⟨subject, rfl, hsubject⟩ := target_totp hk
    obtain ⟨rec, hrec, rfl⟩ := Option.map_eq_some_iff.mp hv
    obtain ⟨hversion, hnext⟩ := (leaves_totp s.totp c).lookup_written hsubject hok hrec
    exact ⟨Nat.lt_of_succ_le hversion.ge, (hversion.trans hnext.symm).le⟩
  | email c =>
    obtain ⟨subject, rfl, hsubject⟩ := target_email hk
    obtain ⟨rec, hrec, rfl⟩ := Option.map_eq_some_iff.mp hv
    obtain ⟨hversion, hnext⟩ := (leaves_email s.email c).lookup_written hsubject hok hrec
    exact ⟨Nat.lt_of_succ_le hversion.ge, (hversion.trans hnext.symm).le⟩

/-- Both stores as rows that are stamped from one counter. -/
def stamping : Stamping Factors Op Key where
  step := step
  counter s := s.nextValue.toNat
  row := versionOn
  touches := touches
  counter_le := nextValue_step
  kept := versionOn_kept
  fresh := versionOn_fresh
  sole s o k k' h h' := by
    have hk := of_decide_eq_true (Bool.and_eq_true_iff.mp h).1
    have hk' := of_decide_eq_true (Bool.and_eq_true_iff.mp h').1
    exact Option.some.inj (hk.symm.trans hk')

def assignedVersions (s : Factors) (ops : List Op) : List ℕ := stamping.drawnStamps target s ops

def Untouched (k : Key) (s : Factors) (ops : List Op) : Prop := stamping.Untouched k s ops

lemma sound_run (history : List Op) : stamping.Sound (run newFactors history) := by
  refine stamping.sound_run (s := newFactors) ⟨?_, ?_⟩ history
  · intro k v hv
    cases k <;> cases hv
  · intro k k' v hv
    cases k <;> cases hv

/-- A call that is about the record a version was read from succeeds on that
version only if nothing has touched the record since. -/
theorem untouched_of_version (history ops : List Op) {k k' : Key} {v : ℕ}
    (hv : versionOn (run newFactors history) k = some v)
    (hv' : versionOn (run (run newFactors history) ops) k' = some v) :
    k' = k ∧ Untouched k (run newFactors history) ops :=
  stamping.untouched_of_stamp (sound_run history) hv hv'

/-! ### Accepted steps -/

variable {o : Op}

section
variable (subject : String)

/-- The step a call stores, if it is an `Accept` of the subject that succeeds. -/
def acceptedStep (s : Factors) : Op → Option ℤ
  | .totp (.accept (some r)) =>
    if r.subject = subject ∧ succeeds s (.totp (.accept (some r))) = true then
      some r.lastAcceptedStep
    else none
  | _ => none

def acceptedSteps : Factors → List Op → List ℤ
  | _, [] => []
  | s, o :: ops => (acceptedStep subject s o).toList ++ acceptedSteps (step s o) ops

/-- The call is no `Put` of the subject, and a swap of its record carries the
accepted step over. -/
def carries : Op → Prop
  | .totp (.put (some r)) => r.subject ≠ subject
  | .totp (.compareAndSwap (some previous) (some next)) =>
    next.subject = subject → next.lastAcceptedStep = previous.lastAcceptedStep
  | _ => True

/-- The record of the subject, if there is one, has accepted the step. -/
def Floor (floor : ℤ) (s : Factors) : Prop :=
  ∀ rec, s.totps.lookup subject = some rec → floor ≤ rec.lastAcceptedStep

variable {subject} {s : Factors}

lemma lookup_delete {R : Type} (s : FactorStore R) (victim k : String) {rec : R}
    (h : (s.delete victim).1.m.lookup k = some rec) : s.m.lookup k = some rec := by
  unfold FactorStore.delete at h
  cases hv : s.m.lookup victim with
  | none =>
    rw [hv] at h
    exact h
  | some _ =>
    rw [hv] at h
    rw [lookup_erase_ite] at h
    split_ifs at h
    exact h

lemma acceptedStep_some {v : ℤ} (h : acceptedStep subject s o = some v) :
    ∃ r, o = .totp (.accept (some r)) ∧ r.subject = subject ∧ r.lastAcceptedStep = v ∧
      succeeds s o = true := by
  unfold acceptedStep at h
  split at h
  · split_ifs at h with hr
    exact ⟨_, rfl, hr.1, Option.some.inj h, hr.2⟩
  · cases h

lemma floor_step {floor : ℤ} (h : Floor subject floor s) (ho : carries subject o) :
    Floor subject floor (step s o) := by
  intro rec hrec
  cases o with
  | email c => exact h rec hrec
  | totp c =>
    cases c with
    | get _ => exact h rec hrec
    | put r =>
      cases r with
      | none => exact h rec hrec
      | some r =>
        rcases (stores_putNextLocked (P := (· = r)) rfl).lookup hrec with
          hold | ⟨_, _, rfl, hr, _⟩
        · exact h rec hold
        · exact absurd hr ho
    | delete victim => exact h rec (lookup_delete s.totp victim subject hrec)
    | compareAndSwap previous next =>
      rcases (TOTP.compareAndSwap_stores s.totp previous next).lookup hrec with
        hold | ⟨n, v, ⟨rfl, p, rfl, hsubject, hp⟩, hn, _, rfl⟩
      · exact h rec hold
      · change n.subject = subject at hn
        have hcarried : n.lastAcceptedStep = p.lastAcceptedStep := ho hn
        have hfloor : floor ≤ p.lastAcceptedStep := h p (hn ▸ hsubject ▸ hp)
        exact hfloor.trans hcarried.ge
    | accept r =>
      rcases (TOTP.accept_stores s.totp r).lookup hrec with
        hold | ⟨r', v, ⟨rfl, current, hcurrent, _, hlt⟩, hr, _, rfl⟩
      · exact h rec hold
      · have hfloor : floor ≤ current.lastAcceptedStep := h current (hr ▸ hcurrent)
        exact hfloor.trans hlt.le

lemma floor_accept {floor v : ℤ} (h : Floor subject floor s)
    (ho : acceptedStep subject s o = some v) : floor < v ∧ Floor subject v (step s o) := by
  obtain ⟨r, rfl, rfl, rfl, hok⟩ := acceptedStep_some ho
  obtain ⟨r', v, ⟨hr, current, hcurrent, _, hlt⟩, hstored⟩ :=
    (TOTP.accept_stores s.totp (some r)).of_ok hok
  cases hr
  refine ⟨(h current hcurrent).trans_lt hlt, fun rec hrec => ?_⟩
  rw [← Option.some.inj (hstored.symm.trans hrec)]
  exact le_rfl

lemma acceptedSteps_increasing {floor : ℤ} (h : Floor subject floor s) {ops : List Op}
    (hops : ∀ o ∈ ops, carries subject o) :
    (∀ v ∈ acceptedSteps subject s ops, floor < v) ∧
      (acceptedSteps subject s ops).Pairwise (· < ·) := by
  induction ops generalizing s floor with
  | nil => exact ⟨nofun, .nil⟩
  | cons o ops ih =>
    obtain ⟨ho, hops⟩ := List.forall_mem_cons.mp hops
    unfold acceptedSteps
    cases hv : acceptedStep subject s o with
    | none => exact ih (floor_step h ho) hops
    | some v =>
      obtain ⟨hlt, hfloor⟩ := floor_accept h hv
      obtain ⟨hlater, hpairwise⟩ := ih hfloor hops
      refine ⟨?_, List.pairwise_cons.mpr ⟨hlater, hpairwise⟩⟩
      exact List.forall_mem_cons.mpr ⟨hlt, fun v' hv' => hlt.trans (hlater v' hv')⟩

lemma exists_floor (s : Factors) (subject : String) : ∃ floor, Floor subject floor s := by
  cases hrec : s.totps.lookup subject with
  | none =>
    refine ⟨0, fun rec h => ?_⟩
    rw [hrec] at h
    cases h
  | some current =>
    refine ⟨current.lastAcceptedStep, fun rec h => ?_⟩
    rw [hrec] at h
    cases h
    exact le_rfl

end

/-! ### Consumed codes -/

section
variable (subject : String)

def consumes (s : Factors) : Op → Bool
  | .email (.consume now stampedAt (some r)) =>
    decide (r.subject = subject) && succeeds s (.email (.consume now stampedAt (some r)))
  | _ => false

def consumeCount : Factors → List Op → ℕ
  | _, [] => 0
  | s, o :: ops => (consumes subject s o).toNat + consumeCount (step s o) ops

/-- The call writes a new challenge: a `Put`, or a swap where there was no record,
that changes the code hash or that clears the mark. -/
def installs (s : Factors) : Op → Bool
  | .email (.put (some r)) =>
    decide (r.subject = subject) && succeeds s (.email (.put (some r)))
  | .email (.compareAndSwap now previous (some next)) =>
    decide (next.subject = subject) &&
      succeeds s (.email (.compareAndSwap now previous (some next))) &&
      match s.emailotps.lookup subject with
      | none => true
      | some current =>
        decide (next.codeHash ≠ current.codeHash ∨
          current.consumedAt ≠ 0 ∧ next.consumedAt = 0)
  | _ => false

/-- No call of the run writes a new challenge. -/
def SameChallenge : Factors → List Op → Prop
  | _, [] => True
  | s, o :: ops => installs subject s o = false ∧ SameChallenge (step s o) ops

/-- The wall clock a `Consume` marks a record with reads after the zero time. -/
def dated : Op → Prop
  | .email (.consume _ stampedAt _) => stampedAt ≠ 0
  | _ => True

def Spent (s : Factors) : Prop :=
  ∀ rec, s.emailotps.lookup subject = some rec → rec.consumedAt ≠ 0

variable {subject} {s : Factors}

lemma consumedRecord_marked {r : EmailOTPRecord} {stampedAt : Time} (h : stampedAt ≠ 0) :
    (EmailOTP.consumedRecord r stampedAt).consumedAt ≠ 0 := by
  unfold EmailOTP.consumedRecord
  split_ifs with hzero
  · exact h
  · exact hzero

lemma spent_step (h : Spent subject s) (hdated : dated o)
    (ho : installs subject s o = false) : Spent subject (step s o) := by
  intro rec hrec
  cases o with
  | totp c => exact h rec hrec
  | email c =>
    cases c with
    | get _ _ => exact h rec hrec
    | put r =>
      rcases (EmailOTP.put_stores s.email r).lookup hrec with hold | ⟨r', v, rfl, hr, hok, _⟩
      · exact h rec hold
      · change r'.subject = subject at hr
        have hput : (decide (r'.subject = subject) && _) = false := ho
        rw [show succeeds s (.email (.put (some r'))) = true from hok, decide_eq_true hr] at hput
        cases hput
    | delete victim => exact h rec (lookup_delete s.email victim subject hrec)
    | compareAndSwap now previous next =>
      rcases (EmailOTP.compareAndSwap_stores s.email now previous next).lookup hrec with
        hold | ⟨n, v, ⟨rfl, _⟩, hn, hok, rfl⟩
      · exact h rec hold
      · change n.subject = subject at hn
        have hsucceeds : succeeds s (.email (.compareAndSwap now previous (some n))) = true := hok
        unfold installs at ho
        dsimp only at ho
        rw [hsucceeds, decide_eq_true hn] at ho
        cases hcurrent : s.emailotps.lookup subject with
        | none =>
          rw [hcurrent] at ho
          cases ho
        | some current =>
          rw [hcurrent] at ho
          have hkeeps := of_decide_eq_false ho
          exact fun hzero => hkeeps (.inr ⟨h current hcurrent, hzero⟩)
    | consume now stampedAt r =>
      rcases (EmailOTP.consume_stores s.email now stampedAt r).lookup hrec with
        hold | ⟨_, v, ⟨r', _, rfl, rfl, _⟩, _, _, rfl⟩
      · exact h rec hold
      · exact consumedRecord_marked hdated

lemma consumes_spends (hdated : dated o) (h : consumes subject s o = true) :
    (∃ current, s.emailotps.lookup subject = some current ∧ current.consumedAt = 0) ∧
      ∃ rec, (step s o).emailotps.lookup subject = some rec ∧ rec.consumedAt ≠ 0 := by
  unfold consumes at h
  split at h
  · rename_i now stampedAt r
    obtain ⟨hsubject, hok⟩ := Bool.and_eq_true_iff.mp h
    obtain rfl := of_decide_eq_true hsubject
    obtain ⟨_, v, ⟨r', current, hr, rfl, hcurrent, _, hzero⟩, hstored⟩ :=
      (EmailOTP.consume_stores s.email now stampedAt (some r)).of_ok hok
    cases hr
    have hmarked : (FactorRecord.stamped (EmailOTP.consumedRecord r stampedAt) v).consumedAt ≠ 0 :=
      consumedRecord_marked hdated
    exact ⟨⟨current, hcurrent, hzero⟩, _, hstored, hmarked⟩
  · cases h

lemma consumes_of_spent (h : Spent subject s) (hdated : dated o) :
    consumes subject s o = false := by
  refine Bool.eq_false_iff.mpr fun hc => ?_
  obtain ⟨⟨current, hcurrent, hzero⟩, _⟩ := consumes_spends hdated hc
  exact h current hcurrent hzero

lemma spent_run (h : Spent subject s) {ops : List Op} (hdated : ∀ o ∈ ops, dated o)
    (hops : SameChallenge subject s ops) :
    consumeCount subject s ops = 0 ∧ Spent subject (run s ops) := by
  induction ops generalizing s with
  | nil => exact ⟨rfl, h⟩
  | cons o ops ih =>
    obtain ⟨ho, hdated⟩ := List.forall_mem_cons.mp hdated
    obtain ⟨hcount, hend⟩ := ih (spent_step h ho hops.1) hdated hops.2
    refine ⟨?_, hend⟩
    unfold consumeCount
    rw [consumes_of_spent h ho, hcount]
    rfl

lemma consumed_once {ops : List Op} (hdated : ∀ o ∈ ops, dated o)
    (hops : SameChallenge subject s ops) :
    consumeCount subject s ops ≤ 1 ∧
      (consumeCount subject s ops = 1 → Spent subject (run s ops)) := by
  induction ops generalizing s with
  | nil => exact ⟨Nat.zero_le 1, nofun⟩
  | cons o ops ih =>
    obtain ⟨ho, hrest⟩ := List.forall_mem_cons.mp hdated
    unfold consumeCount
    cases hc : consumes subject s o with
    | false =>
      rw [Bool.toNat_false, Nat.zero_add]
      exact ih hrest hops.2
    | true =>
      obtain ⟨_, rec, hrec, hmarked⟩ := consumes_spends ho hc
      have hspent : Spent subject (step s o) := by
        intro rec' hrec'
        cases hrec.symm.trans hrec'
        exact hmarked
      obtain ⟨hcount, hend⟩ := spent_run hspent hrest hops.2
      rw [hcount]
      exact ⟨le_rfl, fun _ => hend⟩

end

/-! ### Fresh swaps and codes that are spent once -/

variable {s : Factors}

lemma versionOn_get_totp {subject : String} {rec : TOTPRecord}
    (h : TOTP.get s.totp subject = .ok rec) :
    versionOn s (.totp subject) = some rec.version.toNat := by
  unfold TOTP.get at h
  cases hrec : s.totp.m.lookup subject with
  | none =>
    rw [hrec] at h
    cases h
  | some current =>
    rw [hrec] at h
    cases h
    exact congrArg (Option.map _) hrec

lemma versionOn_get_email {now : Time} {subject : String} {rec : EmailOTPRecord}
    (h : EmailOTP.get s.email now subject = .ok rec) :
    versionOn s (.email subject) = some rec.version.toNat := by
  unfold EmailOTP.get at h
  cases hrec : s.email.m.lookup subject with
  | none =>
    rw [hrec] at h
    cases h
  | some current =>
    rw [hrec] at h
    dsimp only at h
    split_ifs at h
    cases h
    exact congrArg (Option.map _) hrec

lemma versionOn_of_swap_totp {p : TOTPRecord} {next : Option TOTPRecord}
    (h : succeeds s (.totp (.compareAndSwap (some p) next)) = true) :
    versionOn s (.totp p.subject) = some p.version.toNat := by
  obtain ⟨_, _, ⟨_, p', hp, _, hrec⟩, _⟩ :=
    (TOTP.compareAndSwap_stores s.totp (some p) next).of_ok h
  cases hp
  exact congrArg (Option.map _) hrec

lemma versionOn_of_accept {r : TOTPRecord} (h : succeeds s (.totp (.accept (some r))) = true) :
    versionOn s (.totp r.subject) = some r.version.toNat := by
  obtain ⟨r', _, ⟨hr, current, hrec, hversion, _⟩, _⟩ :=
    (TOTP.accept_stores s.totp (some r)).of_ok h
  cases hr
  rw [← hversion]
  exact congrArg (Option.map _) hrec

lemma versionOn_of_swap_email {now : Time} {p : EmailOTPRecord} {next : Option EmailOTPRecord}
    (h : succeeds s (.email (.compareAndSwap now (some p) next)) = true) :
    versionOn s (.email p.subject) = some p.version.toNat := by
  obtain ⟨_, _, ⟨_, _, hp⟩, _⟩ := (EmailOTP.compareAndSwap_stores s.email now (some p) next).of_ok h
  exact congrArg (Option.map _) (hp p rfl).2

lemma versionOn_of_consume {now stampedAt : Time} {r : EmailOTPRecord}
    (h : succeeds s (.email (.consume now stampedAt (some r))) = true) :
    versionOn s (.email r.subject) = some r.version.toNat := by
  obtain ⟨_, _, ⟨r', current, hr, _, hrec, hversion, _⟩, _⟩ :=
    (EmailOTP.consume_stores s.email now stampedAt (some r)).of_ok h
  cases hr
  rw [← hversion]
  exact congrArg (Option.map _) hrec

/-- Runs of both stores on one allocator. No version is assigned twice. A swap on
a record that was read, an `Accept` or a `Consume` on its version succeeds only if
the record has been neither written nor deleted since. Between two `Put`s the
accepted steps increase, if swaps carry them over. Between two new challenges at
most one `Consume` succeeds; it leaves the record marked, and the record stays
marked. -/
theorem factor_swaps_fresh (history ops : List Op) :
    let s := run newFactors history
    (assignedVersions newFactors history).Nodup ∧
    (∀ subject rec, TOTP.get s.totp subject = .ok rec →
      (∀ next, succeeds (run s ops) (.totp (.compareAndSwap (some rec) next)) = true →
        Untouched (.totp subject) s ops) ∧
      ∀ r, r.version = rec.version → succeeds (run s ops) (.totp (.accept (some r))) = true →
        r.subject = subject ∧ Untouched (.totp subject) s ops) ∧
    (∀ now subject rec, EmailOTP.get s.email now subject = .ok rec →
      (∀ later next, succeeds (run s ops) (.email (.compareAndSwap later (some rec) next)) = true →
        Untouched (.email subject) s ops) ∧
      ∀ later stampedAt r, r.version = rec.version →
        succeeds (run s ops) (.email (.consume later stampedAt (some r))) = true →
        r.subject = subject ∧ Untouched (.email subject) s ops) ∧
    (∀ subject, (∀ o ∈ ops, carries subject o) →
      (acceptedSteps subject s ops).Pairwise (· < ·)) ∧
    (∀ subject, (∀ o ∈ ops, dated o) → SameChallenge subject s ops →
      consumeCount subject s ops ≤ 1 ∧
      (consumeCount subject s ops = 1 → Spent subject (run s ops))) ∧
    ∀ subject o, dated o → consumes subject s o = true →
      ∃ rec, (step s o).emailotps.lookup subject = some rec ∧ rec.consumedAt ≠ 0 := by
  intro s
  refine ⟨?_, ?_, ?_, ?_, ?_, ?_⟩
  · exact (stamping.drawnStamps_pairwise newFactors history).imp ne_of_lt
  · intro subject rec hget
    have hread := versionOn_get_totp hget
    refine ⟨fun next hok => ?_, fun r hversion hok => ?_⟩
    · exact (untouched_of_version history ops hread (versionOn_of_swap_totp hok)).2
    · have hnow := versionOn_of_accept hok
      rw [hversion] at hnow
      obtain ⟨hkey, huntouched⟩ := untouched_of_version history ops hread hnow
      exact ⟨Key.totp.inj hkey, huntouched⟩
  · intro now subject rec hget
    have hread := versionOn_get_email hget
    refine ⟨fun later next hok => ?_, fun later stampedAt r hversion hok => ?_⟩
    · exact (untouched_of_version history ops hread (versionOn_of_swap_email hok)).2
    · have hnow := versionOn_of_consume hok
      rw [hversion] at hnow
      obtain ⟨hkey, huntouched⟩ := untouched_of_version history ops hread hnow
      exact ⟨Key.email.inj hkey, huntouched⟩
  · intro subject hops
    obtain ⟨floor, hfloor⟩ := exists_floor s subject
    exact (acceptedSteps_increasing hfloor hops).2
  · exact fun subject hdated hops => consumed_once hdated hops
  · exact fun subject o hdated hc => (consumes_spends hdated hc).2

def emailCode : EmailOTPRecord := ⟨"alice", 0, [1], [2], 5, 100, 0, 0, 0, 0, 0, 1, 5, 5⟩

def issuedCode : EmailOTPRecord := { emailCode with version := 1 }

/-- A challenge read once and presented twice: the second `Consume` is refused. -/
example :
    let s := run newFactors [.email (.put (some emailCode))]
    EmailOTP.get s.email 6 "alice" = .ok issuedCode ∧
      consumeCount "alice" s
        [.email (.consume 7 7 (some issuedCode)), .email (.consume 8 8 (some issuedCode))] = 1 := by
  decide +kernel

/-- On a clock that reads the zero time a `Consume` leaves the record unmarked, and
the next one of the same challenge succeeds too. -/
theorem consumed_twice_at_zero_time :
    let s := run newFactors [.email (.put (some emailCode))]
    let ops : List Op := [.email (.consume 0 0 (some issuedCode)),
      .email (.consume 0 0 (some { issuedCode with version := 2 }))]
    EmailOTP.get s.email 0 "alice" = .ok issuedCode ∧
      EmailOTP.get (run s (ops.take 1)).email 0 "alice" = .ok { issuedCode with version := 2 } ∧
      ops.all (fun o => installs "alice" s o == false) = true ∧
      consumeCount "alice" s ops = 2 := by
  decide +kernel

end OidcProvider.FactorStores
