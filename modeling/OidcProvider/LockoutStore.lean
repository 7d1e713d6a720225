import OidcProvider.FiniteMaps
import OidcProvider.StoreRecords

/-!
# The in-memory lockout store

`inmem/lockout.go`: one versioned record for each subject. `CompareAndSwap`
replaces a record whose version is the expected one and stores the next version;
version zero inserts. Every call holds the lock of the store, so a run is a list
of calls, whoever makes them. The version is counted from the record itself:
when a record is deleted or swept, the count of its subject starts over, and a
version that was read before may come up again.
-/
namespace OidcProvider.LockoutStore
open FiniteMaps StoreRecords

structure AuthnLockoutRecord where
  subject : String
  failedCount : ℤ
  firstFailureAt : Time
  lockedUntil : Time
  version : UInt64
  deriving DecidableEq, Inhabited

structure AuthnLockouts where
  m : StringMap AuthnLockoutRecord
  swapsSinceGC : UInt32

def newAuthnLockouts : AuthnLockouts := ⟨∅, 0⟩

def authnLockoutRetention : Time := 48 * Time.hour

/-- `math.MaxUint64`. -/
def maxVersion : UInt64 := 18446744073709551615

def errNilRecord : StoreError := .other "inmem: nil authn lockout record"
def errMissingSubject : StoreError := .other "inmem: authn lockout record missing Subject"
def errVersionOverflow : StoreError := .other "inmem: authn lockout version overflow"

/-- `authnLockoutReclaimable`. -/
def AuthnLockoutRecord.reclaimable (rec : AuthnLockoutRecord) (now : Time) : Bool :=
  if rec.lockedUntil ≠ 0 ∧ now ≤ rec.lockedUntil then false
  else if rec.firstFailureAt = 0 then true
  else decide (authnLockoutRetention < now - rec.firstFailureAt)

def get (s : AuthnLockouts) (subject : String) : Fallible AuthnLockoutRecord :=
  match s.m.lookup subject with
  | none => .error .notFound
  | some rec => .ok rec

def delete (s : AuthnLockouts) (subject : String) : AuthnLockouts × StoreReply :=
  match s.m.lookup subject with
  | none => (s, .error .notFound)
  | some _ => ({ s with m := s.m.erase subject }, .ok ())

/-- The body of the sweep: the subject just written is skipped. -/
def reclaim (now : Time) (keep : String) (m : StringMap AuthnLockoutRecord)
    (subject : String) : Option (Option AuthnLockoutRecord) :=
  if subject = keep then none
  else match m.lookup subject with
    | none => none
    | some rec => if rec.reclaimable now then some none else none

def maybeGC (ρ : KeyOrder) (now : Time) (keep : String) (s : AuthnLockouts) : AuthnLockouts :=
  let due := Sweeper.due s.swapsSinceGC s.m.keys.card
  { m := if due.2 then (rangeLoop (mapCells String AuthnLockoutRecord) (reclaim now keep)
      (ρ.visit s.m.keys) s.m).1 else s.m
    swapsSinceGC := due.1 }

def expects (s : AuthnLockouts) (subject : String) (expectedVersion : UInt64) : Bool :=
  match s.m.lookup subject with
  | none => decide (expectedVersion = 0)
  | some current => decide (expectedVersion ≠ 0 ∧ current.version = expectedVersion)

def replaced (s : AuthnLockouts) (expectedVersion : UInt64) (next : AuthnLockoutRecord) :
    AuthnLockouts :=
  { s with m := s.m.insert next.subject { next with version := expectedVersion + 1 } }

def compareAndSwap (ρ : KeyOrder) (now : Time) (s : AuthnLockouts) (expectedVersion : UInt64) :
    Option AuthnLockoutRecord → AuthnLockouts × Fallible Bool
  | none => (s, .error errNilRecord)
  | some next =>
    if next.subject = "" then (s, .error errMissingSubject)
    else if expectedVersion = maxVersion then (s, .error errVersionOverflow)
    else if expects s next.subject expectedVersion then
      (maybeGC ρ now next.subject (replaced s expectedVersion next), .ok true)
    else (s, .ok false)

/-! ### Runs -/

/-- One call of some caller, with the clock and the map order it meets. -/
inductive Op where
  | get (subject : String)
  | compareAndSwap (order : KeyOrder) (now : Time) (expectedVersion : UInt64)
      (next : Option AuthnLockoutRecord)
  | delete (subject : String)

def step (s : AuthnLockouts) : Op → AuthnLockouts
  | .get _ => s
  | .compareAndSwap order now expectedVersion next =>
    (compareAndSwap order now s expectedVersion next).1
  | .delete subject => (delete s subject).1

def run (s : AuthnLockouts) (ops : List Op) : AuthnLockouts := ops.foldl step s

section
variable (subject : String)

def commits (s : AuthnLockouts) : Op → Bool
  | .compareAndSwap order now expectedVersion (some next) =>
    decide (next.subject = subject) &&
      match (compareAndSwap order now s expectedVersion (some next)).2 with
      | .ok committed => committed
      | .error _ => false
  | _ => false

def removes (s : AuthnLockouts) (o : Op) : Bool :=
  (s.m.lookup subject).isSome && ((step s o).m.lookup subject).isNone

def Quiet : AuthnLockouts → List Op → Prop
  | _, [] => True
  | s, o :: ops => (commits subject s o = false ∧ removes subject s o = false) ∧
      Quiet (step s o) ops

/-- The swaps committed on the subject since its record was last removed, once it
has been removed. -/
def tally : Option ℕ → AuthnLockouts → List Op → Option ℕ
  | n, _, [] => n
  | n, s, o :: ops =>
    tally (if removes subject s o then some 0
      else if commits subject s o then n.map (· + 1) else n) (step s o) ops

def sinceRemoval (s : AuthnLockouts) (ops : List Op) : Option ℕ := tally subject none s ops

/-- What a caller reads as the version: zero where there is no record. -/
def readVersion (s : AuthnLockouts) : UInt64 :=
  match get s subject with
  | .ok rec => rec.version
  | .error _ => 0

end

/-! ### Versions -/

def Versioned (s : AuthnLockouts) : Prop :=
  ∀ subject rec, s.m.lookup subject = some rec → rec.version ≠ 0

variable {subject : String}

section
variable {s : AuthnLockouts}

lemma reclaim_local (now : Time) (keep : String) :
    Local (mapCells String AuthnLockoutRecord) (reclaim now keep) := by
  intro m k w k' h
  simp only [reclaim, mapCells, lookup_put, h, ↓reduceIte]

/-- A sweep keeps a record as it is or drops it; the subject just written stays. -/
theorem lookup_maybeGC (ρ : KeyOrder) (now : Time) (keep : String) (s : AuthnLockouts)
    (subject : String) : (maybeGC ρ now keep s).m.lookup subject = s.m.lookup subject ∨
      subject ≠ keep ∧ (maybeGC ρ now keep s).m.lookup subject = none := by
  unfold maybeGC
  dsimp only
  split_ifs
  · have hget := rangeLoop_visit_get (reclaim_local now keep) ρ s.m.keys s.m subject
    change (rangeLoop (mapCells String AuthnLockoutRecord) (reclaim now keep)
      (ρ.visit s.m.keys) s.m).1.lookup subject = _ at hget
    rw [hget]
    unfold reclaim
    by_cases hkeep : subject = keep
    · subst hkeep
      simp [mapCells]
    · cases hrec : s.m.lookup subject with
      | none => simp [mapCells, hrec]
      | some rec =>
        by_cases hdead : rec.reclaimable now = true
        · simp [hdead, mem_keys_of_lookup hrec, hkeep]
        · simp [hdead, mapCells, hrec]
  · exact .inl rfl

lemma compareAndSwap_cases (ρ : KeyOrder) (now : Time) (s : AuthnLockouts)
    (expectedVersion : UInt64) (next : AuthnLockoutRecord) :
    ((compareAndSwap ρ now s expectedVersion (some next)).2 = .ok true ∧ next.subject ≠ "" ∧
        expectedVersion ≠ maxVersion ∧ expects s next.subject expectedVersion = true ∧
        (compareAndSwap ρ now s expectedVersion (some next)).1 =
          maybeGC ρ now next.subject (replaced s expectedVersion next)) ∨
      ((compareAndSwap ρ now s expectedVersion (some next)).2 ≠ .ok true ∧
        (next.subject = "" ∨ expectedVersion = maxVersion ∨
          expects s next.subject expectedVersion = false) ∧
        (compareAndSwap ρ now s expectedVersion (some next)).1 = s) := by
  unfold compareAndSwap
  dsimp only
  split_ifs with hsubject hmax hexpects
  · exact .inr ⟨nofun, .inl hsubject, rfl⟩
  · exact .inr ⟨nofun, .inr (.inl hmax), rfl⟩
  · exact .inl ⟨rfl, hsubject, hmax, hexpects, rfl⟩
  · exact .inr ⟨nofun, .inr (.inr (by simpa using hexpects)), rfl⟩

/-- The version of a subject's record as a number, zero where there is none. -/
def versionOf (s : AuthnLockouts) (subject : String) : ℕ :=
  ((s.m.lookup subject).map fun rec => rec.version.toNat).getD 0

lemma toNat_succ {v : UInt64} (h : v ≠ maxVersion) : (v + 1).toNat = v.toNat + 1 := by
  have hlt : v.toNat < 18446744073709551615 := by
    have hsize := v.toNat_lt
    have hne : v.toNat ≠ 18446744073709551615 := fun heq => h (UInt64.toNat.inj heq)
    omega
  change (v.toNat + 1) % 18446744073709551616 = v.toNat + 1
  omega

lemma succ_ne_zero {v : UInt64} (h : v ≠ maxVersion) : v + 1 ≠ 0 := by
  intro hzero
  have hnat := congrArg UInt64.toNat hzero
  rw [toNat_succ h] at hnat
  exact absurd hnat (Nat.succ_ne_zero _)

lemma versionOf_eq_readVersion (s : AuthnLockouts) (subject : String) :
    versionOf s subject = (readVersion subject s).toNat := by
  unfold versionOf readVersion get
  cases s.m.lookup subject with
  | none => rfl
  | some rec => rfl

lemma expects_iff (h : Versioned s) (subject : String) (expectedVersion : UInt64) :
    expects s subject expectedVersion = true ↔
      versionOf s subject = expectedVersion.toNat := by
  unfold expects versionOf
  cases hrec : s.m.lookup subject with
  | none =>
    simp only [decide_eq_true_eq, Option.map_none, Option.getD_none]
    exact ⟨fun h0 => by rw [h0]; rfl, fun h0 => UInt64.toNat.inj h0.symm⟩
  | some rec =>
    simp only [decide_eq_true_eq, Option.map_some, Option.getD_some]
    refine ⟨fun hv => by rw [hv.2], fun hv => ?_⟩
    have heq : rec.version = expectedVersion := UInt64.toNat.inj hv
    exact ⟨heq ▸ h subject rec hrec, heq⟩

lemma committed_iff (h : Versioned s) (ρ : KeyOrder) (now : Time)
    (expectedVersion : UInt64) (next : AuthnLockoutRecord) :
    (compareAndSwap ρ now s expectedVersion (some next)).2 = .ok true ↔
      next.subject ≠ "" ∧ expectedVersion ≠ maxVersion ∧
        versionOf s next.subject = expectedVersion.toNat := by
  rcases compareAndSwap_cases ρ now s expectedVersion next with
    ⟨hok, hsubject, hmax, hexpects, _⟩ | ⟨hno, hwhy, _⟩
  · exact ⟨fun _ => ⟨hsubject, hmax, (expects_iff h _ _).mp hexpects⟩, fun _ => hok⟩
  · refine ⟨fun hok => absurd hok hno, ?_⟩
    rintro ⟨hsubject, hmax, hversion⟩
    rcases hwhy with hempty | hlast | hunexpected
    · exact absurd hempty hsubject
    · exact absurd hlast hmax
    · rw [(expects_iff h _ _).mpr hversion] at hunexpected
      cases hunexpected

lemma versioned_new : Versioned newAuthnLockouts := by
  intro subject rec h
  simp [newAuthnLockouts] at h

lemma versioned_step (h : Versioned s) (o : Op) : Versioned (step s o) := by
  intro subject rec hrec
  cases o with
  | get _ => exact h subject rec hrec
  | delete victim =>
    change (delete s victim).1.m.lookup subject = some rec at hrec
    unfold delete at hrec
    cases hv : s.m.lookup victim with
    | none =>
      rw [hv] at hrec
      exact h subject rec hrec
    | some old =>
      rw [hv] at hrec
      rw [lookup_erase_ite] at hrec
      split_ifs at hrec
      exact h subject rec hrec
  | compareAndSwap order now expectedVersion next =>
    cases next with
    | none => exact h subject rec hrec
    | some next =>
      change (compareAndSwap order now s expectedVersion (some next)).1.m.lookup subject =
        some rec at hrec
      rcases compareAndSwap_cases order now s expectedVersion next with
        ⟨_, _, hmax, _, hstate⟩ | ⟨_, _, hstate⟩
      · rw [hstate] at hrec
        rcases lookup_maybeGC order now next.subject (replaced s expectedVersion next) subject with
          hkept | ⟨_, hgone⟩
        · rw [hkept, replaced, lookup_insert_ite] at hrec
          split_ifs at hrec
          · cases hrec
            exact succ_ne_zero hmax
          · exact h subject rec hrec
        · rw [hgone] at hrec
          cases hrec
      · rw [hstate] at hrec
        exact h subject rec hrec

lemma versioned_run (h : Versioned s) (ops : List Op) : Versioned (run s ops) := by
  induction ops generalizing s with
  | nil => exact h
  | cons o ops ih => exact ih (versioned_step h o)

lemma versionOf_of_kept {o : Op} (h : (step s o).m.lookup subject = s.m.lookup subject) :
    removes subject s o = false ∧ versionOf (step s o) subject = versionOf s subject := by
  refine ⟨?_, by rw [versionOf, versionOf, h]⟩
  unfold removes
  rw [h]
  cases s.m.lookup subject <;> rfl

lemma versionOf_of_gone {o : Op}
    (h : (step s o).m.lookup subject = none) (hcommit : commits subject s o = false) :
    versionOf (step s o) subject =
      if removes subject s o then 0
      else if commits subject s o then versionOf s subject + 1 else versionOf s subject := by
  cases hrec : s.m.lookup subject with
  | none =>
    obtain ⟨hr, hv⟩ := versionOf_of_kept (h.trans hrec.symm)
    rw [hr, hv, hcommit]
    rfl
  | some rec =>
    have hr : removes subject s o = true := by
      rw [removes, hrec, h]
      rfl
    rw [hr, versionOf, h]
    rfl

lemma commits_compareAndSwap (subject : String) (s : AuthnLockouts) (order : KeyOrder)
    (now : Time) (expectedVersion : UInt64) (next : AuthnLockoutRecord) :
    commits subject s (.compareAndSwap order now expectedVersion (some next)) =
      decide (next.subject = subject ∧
        (compareAndSwap order now s expectedVersion (some next)).2 = .ok true) := by
  unfold commits
  dsimp only
  cases (compareAndSwap order now s expectedVersion (some next)).2 with
  | error e => simp
  | ok committed => cases committed <;> simp

lemma versionOf_swap (h : Versioned s) (subject : String) (order : KeyOrder)
    (now : Time) (expectedVersion : UInt64) (next : AuthnLockoutRecord) (o : Op)
    (ho : o = .compareAndSwap order now expectedVersion (some next)) :
    versionOf (step s o) subject =
      if removes subject s o then 0
      else if commits subject s o then versionOf s subject + 1 else versionOf s subject := by
  have hcommit := commits_compareAndSwap subject s order now expectedVersion next
  have hstate : step s o = (compareAndSwap order now s expectedVersion (some next)).1 := by
    rw [ho]
    rfl
  rw [← ho] at hcommit
  rcases compareAndSwap_cases order now s expectedVersion next with
    ⟨hok, _, hmax, hexpects, hafter⟩ | ⟨hno, _, hafter⟩
  · have hlookup := lookup_maybeGC order now next.subject (replaced s expectedVersion next) subject
    rw [← hafter, ← hstate, replaced, lookup_insert_ite] at hlookup
    by_cases heq : subject = next.subject
    · subst heq
      have hkept := hlookup.resolve_right fun hr => hr.1 rfl
      rw [if_pos rfl] at hkept
      have hr : removes next.subject s o = false := by
        rw [removes, hkept]
        exact Bool.and_false _
      rw [hr, hcommit, decide_eq_true ⟨rfl, hok⟩, if_neg (by decide), if_pos rfl,
        (expects_iff h _ _).mp hexpects, ← toNat_succ hmax, versionOf, hkept]
      rfl
    · have hc : commits subject s o = false := by
        rw [hcommit]
        exact decide_eq_false fun hc => heq hc.1.symm
      rw [if_neg heq] at hlookup
      rcases hlookup with hkept | ⟨_, hgone⟩
      · obtain ⟨hr, hv⟩ := versionOf_of_kept hkept
        rw [hr, hv, hc]
        rfl
      · exact versionOf_of_gone hgone hc
  · have hkept : (step s o).m.lookup subject = s.m.lookup subject := by rw [hstate, hafter]
    obtain ⟨hr, hv⟩ := versionOf_of_kept hkept
    rw [hr, hv, hcommit, decide_eq_false fun hc => hno hc.2]
    rfl

/-- What one call does to the version of a subject: a removal takes it to zero, a
commit to the next one, and anything else leaves it. -/
theorem versionOf_step (h : Versioned s) (subject : String) (o : Op) :
    versionOf (step s o) subject =
      if removes subject s o then 0
      else if commits subject s o then versionOf s subject + 1 else versionOf s subject := by
  cases o with
  | get other =>
    have hkept : (step s (.get other)).m.lookup subject = s.m.lookup subject := rfl
    obtain ⟨hr, hv⟩ := versionOf_of_kept hkept
    rw [hr, hv]
    rfl
  | delete victim =>
    have hstep : (step s (.delete victim)).m.lookup subject =
        if subject = victim then none else s.m.lookup subject := by
      change (delete s victim).1.m.lookup subject = _
      unfold delete
      cases hv : s.m.lookup victim with
      | none =>
        split_ifs with heq
        · rw [heq, hv]
        · rfl
      | some old => exact lookup_erase_ite s.m victim subject
    by_cases heq : subject = victim
    · rw [if_pos heq] at hstep
      exact versionOf_of_gone hstep rfl
    · rw [if_neg heq] at hstep
      obtain ⟨hr, hv⟩ := versionOf_of_kept hstep
      rw [hr, hv]
      rfl
  | compareAndSwap order now expectedVersion next =>
    cases next with
    | none =>
      have hkept : (step s (.compareAndSwap order now expectedVersion none)).m.lookup subject =
          s.m.lookup subject := rfl
      obtain ⟨hr, hv⟩ := versionOf_of_kept hkept
      rw [hr, hv]
      rfl
    | some next => exact versionOf_swap h subject order now expectedVersion next _ rfl

/-! ### Swaps on a version that was read before -/

lemma versionOf_run_of_tally (h : Versioned s) (subject : String) (ops : List Op) {n : ℕ}
    (hn : versionOf s subject = n) :
    some (versionOf (run s ops) subject) = tally subject (some n) s ops := by
  induction ops generalizing s n with
  | nil => exact congrArg some hn
  | cons o ops ih =>
    have hstep := versionOf_step h subject o
    change some (versionOf (run (step s o) ops) subject) = tally subject _ (step s o) ops
    rw [ih (versioned_step h o) hstep, hn]
    split_ifs <;> rfl

/-- Without a removal the version only grows, and stays only if nothing commits. -/
theorem quiet_or_grows (h : Versioned s) (subject : String) (ops : List Op)
    (hnone : tally subject none s ops = none) :
    Quiet subject s ops ∧ versionOf (run s ops) subject = versionOf s subject ∨
      versionOf s subject < versionOf (run s ops) subject := by
  induction ops generalizing s with
  | nil => exact .inl ⟨trivial, rfl⟩
  | cons o ops ih =>
    have hstep := versionOf_step h subject o
    have hrun : run s (o :: ops) = run (step s o) ops := rfl
    unfold tally at hnone
    cases hr : removes subject s o with
    | true =>
      rw [hr, if_pos rfl] at hnone
      rw [← versionOf_run_of_tally (versioned_step h o) subject ops
        (hstep.trans (by rw [hr, if_pos rfl]))] at hnone
      cases hnone
    | false =>
      rw [hr, if_neg (by decide)] at hstep hnone
      cases hc : commits subject s o with
      | true =>
        rw [hc, if_pos rfl] at hstep hnone
        rw [hrun]
        rcases ih (versioned_step h o) hnone with ⟨_, heq⟩ | hlt
        · exact .inr (by omega)
        · exact .inr (by omega)
      | false =>
        rw [hc, if_neg (by decide)] at hstep hnone
        rw [hrun]
        rcases ih (versioned_step h o) hnone with ⟨hq, heq⟩ | hlt
        · exact .inl ⟨⟨⟨hc, hr⟩, hq⟩, heq.trans hstep⟩
        · exact .inr (by omega)

lemma tally_of_quiet {ops : List Op} (hq : Quiet subject s ops)
    (n : Option ℕ) : tally subject n s ops = n := by
  induction ops generalizing s n with
  | nil => rfl
  | cons o ops ih =>
    obtain ⟨⟨hc, hr⟩, hq⟩ := hq
    unfold tally
    rw [hr, hc, if_neg (by decide), if_neg (by decide)]
    exact ih hq n

lemma tally_none_eq (h : Versioned s) (subject : String) (ops : List Op) {n : ℕ}
    (hn : tally subject none s ops = some n) : versionOf (run s ops) subject = n := by
  induction ops generalizing s with
  | nil => cases hn
  | cons o ops ih =>
    have hstep := versionOf_step h subject o
    unfold tally at hn
    cases hr : removes subject s o with
    | true =>
      rw [hr, if_pos rfl] at hn hstep
      have hrun := versionOf_run_of_tally (versioned_step h o) subject ops hstep
      rw [hn, Option.some.injEq] at hrun
      exact hrun
    | false =>
      have hnone : (if commits subject s o = true then Option.map (· + 1) (none : Option ℕ)
          else none) = none := by
        split_ifs <;> rfl
      rw [hr, if_neg (by decide), hnone] at hn
      exact ih (versioned_step h o) hn

end

/-- A caller reads the version of a subject, any calls follow, and the caller
swaps on that version. A swap that commits has seen no commit on the subject and
no removal of its record in between, unless the record was removed and exactly
as many swaps as the version says were committed on the subject since. -/
theorem swap_fresh_iff (history ops : List Op) (subject : String) (order : KeyOrder)
    (now : Time) (next : AuthnLockoutRecord) :
    let s := run newAuthnLockouts history
    let version := readVersion subject s
    ((compareAndSwap order now (run s ops) version (some { next with subject })).2 = .ok true →
      Quiet subject s ops) ↔
    ¬(subject ≠ "" ∧ version ≠ maxVersion ∧
      sinceRemoval subject s ops = some version.toNat) := by
  intro s version
  have hs : Versioned s := versioned_run versioned_new history
  have hversion : versionOf s subject = version.toNat := versionOf_eq_readVersion s subject
  have hcommit := committed_iff (versioned_run hs ops) order now version { next with subject }
  constructor
  · rintro hquiet ⟨hsubject, hmax, hsince⟩
    have hend : versionOf (run s ops) subject = version.toNat := tally_none_eq hs subject ops hsince
    have hq := hquiet (hcommit.mpr ⟨hsubject, hmax, hend⟩)
    rw [sinceRemoval, tally_of_quiet hq none] at hsince
    cases hsince
  · intro hnot hok
    obtain ⟨hsubject, hmax, hend⟩ := hcommit.mp hok
    cases hsince : tally subject none s ops with
    | some n =>
      have hn := tally_none_eq hs subject ops hsince
      exact absurd ⟨hsubject, hmax, by rw [sinceRemoval, hsince, ← hn, hend]⟩ hnot
    | none =>
      rcases quiet_or_grows hs subject ops hsince with ⟨hq, _⟩ | hlt
      · exact hq
      · rw [hversion] at hlt
        exact absurd hend hlt.ne'

/-! ### A stale swap -/

def sampleRecord (failedCount : ℤ) : AuthnLockoutRecord := ⟨"alice", failedCount, 10, 0, 0⟩

def swapOf (expectedVersion : UInt64) (failedCount : ℤ) : Op :=
  .compareAndSwap ascending 10 expectedVersion (some (sampleRecord failedCount))

/-- A caller has read version 1; the record is deleted and written anew, by
another swap, as version 1. The stale swap commits over it. -/
theorem stale_swap_commits_after_delete :
    let s := run newAuthnLockouts [swapOf 0 1]
    let s' := run s [.delete "alice", swapOf 0 7]
    readVersion "alice" s = 1 ∧
      commits "alice" (run s [.delete "alice"]) (swapOf 0 7) = true ∧
      (compareAndSwap ascending 11 s' 1 (some (sampleRecord 2))).2 = .ok true ∧
      ((compareAndSwap ascending 11 s' 1
        (some (sampleRecord 2))).1.m.lookup "alice").map (·.failedCount) = some 2 := by
  decide +kernel

end OidcProvider.LockoutStore
