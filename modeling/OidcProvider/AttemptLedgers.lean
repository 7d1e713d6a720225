import Mathlib.Tactic.Linarith
import OidcProvider.FactorStores
import OidcProvider.GuardedLedgers
import OidcProvider.LockoutCounter

/-!
# Counted attempts on a factor record

The counters of a TOTP or email-OTP record (`lockout.Advance`), and what the calls that verify
codes against one record have in common: each reads the record, decides, and writes under the
version it has read. The ledger of these writes is kept beside the store.
-/
namespace OidcProvider.AttemptLedgers
open FiniteMaps StoreRecords FactorStores GuardedLedgers
open LockoutCounter (windowExpired escalate counterWindow thresholdShort thresholdLong
  durationShort durationLong)

/-! ### Counters -/

variable {now : Time} {c : Counters}

structure Counters where
  failedCount : ℤ
  firstFailureAt : Time
  lockedUntil : Time
  deriving DecidableEq

def noFailures : Counters := ⟨0, 0, 0⟩

/-- The counters with a window open at `now`. -/
def openWindow (c : Counters) (now : Time) : Counters :=
  if c.firstFailureAt = 0 ∨ windowExpired c.firstFailureAt now = true then
    { c with failedCount := 0, firstFailureAt := now }
  else c

/-- `Advance`: the counters after one more wrong code, and whether a reset is required. -/
def advance (c : Counters) (now : Time) : Counters × Bool :=
  let opened := openWindow c now
  let earned := escalate (opened.failedCount + 1) now
  ({ opened with
      failedCount := opened.failedCount + 1
      lockedUntil := if earned.1 = 0 then opened.lockedUntil else earned.1 },
    earned.2)

/-- Failures are counted in a window only. -/
def Anchored (c : Counters) : Prop := c.firstFailureAt = 0 → c.failedCount = 0

/-- The write of a wrong code read at `now` has counted it. -/
def Counted {K : Type} (e : Entry Counters Time K) (now : Time) : Prop :=
  e.after.failedCount = e.before.failedCount + 1 ∨
    windowExpired e.before.firstFailureAt now = true ∧ e.after.failedCount = 1

lemma advance_counts (h : Anchored c) (now : Time) :
    (advance c now).1.failedCount = c.failedCount + 1 ∨
      windowExpired c.firstFailureAt now = true ∧ (advance c now).1.failedCount = 1 := by
  unfold advance openWindow
  split_ifs with hwindow
  · rcases hwindow with hfirst | hexpired
    · exact .inl (by rw [h hfirst])
    · exact .inr ⟨hexpired, rfl⟩
  · exact .inl rfl

lemma openWindow_first (c : Counters) (now : Time) :
    (openWindow c now).firstFailureAt = now ∨
      (openWindow c now).firstFailureAt = c.firstFailureAt ∧ c.firstFailureAt ≠ 0 := by
  unfold openWindow
  split_ifs with hwindow
  · exact .inl rfl
  · exact .inr ⟨rfl, (not_or.mp hwindow).1⟩

lemma advance_anchored (c : Counters) (hnow : now ≠ 0) : Anchored (advance c now).1 := by
  intro hfirst
  rcases openWindow_first c now with h | ⟨h, hne⟩
  · exact absurd (h.symm.trans hfirst) hnow
  · exact absurd (h.symm.trans hfirst) hne

lemma advance_first_le (h : c.firstFailureAt ≤ now) : (advance c now).1.firstFailureAt ≤ now := by
  rcases openWindow_first c now with hfirst | ⟨hfirst, -⟩
  · exact hfirst.le
  · exact hfirst.trans_le h

lemma counterWindow_pos : 0 < counterWindow := by decide

lemma escalate_le (count : ℤ) (hnow : 0 < now) :
    (escalate count now).1 ≤ now + counterWindow := by
  unfold escalate
  split_ifs
  · exact le_rfl
  · have hshort : durationShort ≤ counterWindow := by decide
    exact add_le_add le_rfl hshort
  · exact (add_pos hnow counterWindow_pos).le

lemma advance_locked_le (hnow : 0 < now) (h : c.lockedUntil ≤ now) :
    (advance c now).1.lockedUntil ≤ now + counterWindow := by
  have hlock : (openWindow c now).lockedUntil = c.lockedUntil := by
    unfold openWindow
    split_ifs <;> rfl
  change (if (escalate ((openWindow c now).failedCount + 1) now).1 = 0 then
    (openWindow c now).lockedUntil else _) ≤ _
  split_ifs
  · rw [hlock]
    exact h.trans (le_add_of_nonneg_right counterWindow_pos.le)
  · exact escalate_le _ hnow

/-! ### The ledger of a record -/

section Ledger
variable {K : Type}

/-- The ledger of a record: each call has written at most once, wrong codes are counted and
locks respected. -/
structure Audited (ledger : List (Entry Counters Time K)) (current : Counters) (now : Time) :
    Prop where
  clocked : ∀ e ∈ ledger, e.clock ≤ now
  respected : Respected Counters.lockedUntil ledger current
  counted : ∀ e ∈ ledger, ∀ t, e.write = .wrong t → Counted e t
  once : (ledger.map Entry.call).Nodup

lemma audited_nil (current : Counters) (now : Time) :
    Audited ([] : List (Entry Counters Time K)) current now :=
  ⟨fun _ he => (List.not_mem_nil he).elim, respected_nil _ current,
    fun _ he => (List.not_mem_nil he).elim, List.nodup_nil⟩

variable {ledger : List (Entry Counters Time K)} {current : Counters} {now : Time}

lemma Audited.later (h : Audited ledger current now) {now' : Time} (hnow : now ≤ now') :
    Audited ledger current now' :=
  ⟨fun e he => (h.clocked e he).trans hnow, h.respected, h.counted, h.once⟩

lemma Audited.enter (h : Audited ledger current now) {e : Entry Counters Time K}
    (he : Guarded Counters.lockedUntil ledger current e) (hnow : e.clock ≤ now)
    (hcall : ∀ e' ∈ ledger, e'.call ≠ e.call) (hcounted : ∀ t, e.write = .wrong t → Counted e t) :
    Audited (e :: ledger) e.after now := by
  refine ⟨?_, h.respected.enter he, ?_, ?_⟩
  · exact List.forall_mem_cons.mpr ⟨hnow, h.clocked⟩
  · exact List.forall_mem_cons.mpr ⟨hcounted, h.counted⟩
  · refine List.nodup_cons.mpr ⟨fun hmem => ?_, h.once⟩
    obtain ⟨e', he', hsame⟩ := List.mem_map.mp hmem
    exact hcall e' he' hsame

/-- The budget of attempts is kept: each of the rejected calls has counted its wrong code in the
one write it has made, no attempt was written past a lock, and no token was spent twice. -/
structure Budgeted (ledger : List (Entry Counters Time K)) (rejected : ℕ → Prop) : Prop where
  counted : ∀ i, rejected i → ∃ e ∈ ledger, e.call = i ∧ ∃ t, e.write = .wrong t ∧ Counted e t
  once : (ledger.map Entry.call).Nodup
  respected : ledger.Pairwise fun later earlier =>
    ∀ t, later.write.reading? = some t → earlier.after.lockedUntil ≤ t
  spent : (tokens ledger).Nodup

lemma Audited.budgeted (h : Audited ledger current now) {rejected : ℕ → Prop}
    (hrejected : ∀ i, rejected i → ∃ e ∈ ledger, e.call = i ∧ ∃ t, e.write = .wrong t)
    (hspent : (tokens ledger).Nodup) : Budgeted ledger rejected := by
  refine ⟨fun i hi => ?_, h.once, h.respected.locks, hspent⟩
  obtain ⟨e, he, hcall, t, ht⟩ := hrejected i hi
  exact ⟨e, he, hcall, t, ht, h.counted e he t ht⟩

end Ledger

/-! ### Records under a version -/

class CountedRecord (R : Type) extends FactorRecord R where
  counters : R → Counters
  counters_stamped : ∀ r v, counters (stamped r v) = counters r

instance : CountedRecord TOTPRecord where
  counters r := ⟨r.failedCount, r.firstFailureAt, r.lockedUntil⟩
  counters_stamped _ _ := rfl

instance : CountedRecord EmailOTPRecord where
  counters r := ⟨r.failedCount, r.firstFailureAt, r.lockedUntil⟩
  counters_stamped _ _ := rfl

section Versions
open FactorRecord CountedRecord
variable {R K : Type} [CountedRecord R] {s : FactorStore R}

def countersAt (s : FactorStore R) (subject : String) : Counters :=
  ((s.m.lookup subject).map counters).getD noFailures

/-- `r` is the record of the subject now, but for its version. -/
structure Written (s : FactorStore R) (subject : String) (r : R) (s' : FactorStore R) : Prop where
  stored : ∃ v, s'.m.lookup subject = some (stamped r v) ∧ v.toNat = s.nextValue.toNat + 1
  drawn : s'.nextValue.toNat = s.nextValue.toNat + 1

lemma written_of_stores {P : R → Prop} {t : FactorStore R × StoreReply} (h : Stores P s t) :
    (∃ err, t = (s, .error err)) ∨
      ∃ r s', P r ∧ t = (s', .ok ()) ∧ Written s (FactorRecord.subject r) r s' := by
  obtain ⟨err, rfl⟩ | ⟨r, v, hr, hv, rfl⟩ := h
  · exact .inl ⟨err, rfl⟩
  · have hstored := (lookup_insert_ite s.m (FactorRecord.subject r) (FactorRecord.subject r)
      (stamped r v)).trans (if_pos rfl)
    exact .inr ⟨r, _, hr, rfl, ⟨v, hstored, toNat_next hv⟩, toNat_next hv⟩

lemma Written.countersAt {s' : FactorStore R} {r : R} {subject : String}
    (h : Written s subject r s') : countersAt s' subject = counters r := by
  obtain ⟨v, hv, -⟩ := h.stored
  simp [AttemptLedgers.countersAt, hv, counters_stamped]

lemma countersAt_of_lookup {r : R} {subject : String} (h : s.m.lookup subject = some r) :
    countersAt s subject = counters r := by
  simp [countersAt, h]

/-- A call has read `r`. If the version of `r` is still the stored one then so is `r`, and
nothing was written after `t`. -/
structure Held (s : FactorStore R) (subject : String) (ledger : List (Entry Counters Time K))
    (r : R) (t : Time) : Prop where
  named : FactorRecord.subject r = subject
  issued : (version r).toNat ≤ s.nextValue.toNat
  same : ∀ current, s.m.lookup subject = some current → version current = version r →
    current = r ∧ ∀ e ∈ ledger, e.clock ≤ t

variable {s s' : FactorStore R} {subject : String} {ledger ledger' : List (Entry Counters Time K)}
  {t : Time}

lemma Held.later {r : R} {t' : Time} (h : Held s subject ledger r t) (ht : t ≤ t') :
    Held s subject ledger r t' :=
  ⟨h.named, h.issued, fun current hcurrent hversion =>
    ⟨(h.same current hcurrent hversion).1, fun e he =>
      ((h.same current hcurrent hversion).2 e he).trans ht⟩⟩

lemma Held.superseded {r r' : R} (h : Held s subject ledger r t)
    (hwritten : Written s subject r' s') : Held s' subject ledger' r t := by
  obtain ⟨v, hstored, hv⟩ := hwritten.stored
  refine ⟨h.named, ?_, ?_⟩
  · rw [hwritten.drawn]
    exact h.issued.trans (Nat.le_succ _)
  · intro current hcurrent hversion
    obtain rfl : stamped r' v = current := Option.some.inj (hstored.symm.trans hcurrent)
    rw [version_stamped] at hversion
    have hissued := h.issued
    rw [← hversion, hv] at hissued
    exact absurd hissued (Nat.not_succ_le_self _)

lemma held_of_lookup {r : R} (hlookup : s.m.lookup subject = some r)
    (hnamed : FactorRecord.subject r = subject) (hissued : (version r).toNat ≤ s.nextValue.toNat)
    (hclocked : ∀ e ∈ ledger, e.clock ≤ t) : Held s subject ledger r t :=
  ⟨hnamed, hissued, fun _ hcurrent _ =>
    ⟨Option.some.inj (hcurrent.symm.trans hlookup), hclocked⟩⟩

/-- A call has verified a code against `r` at a clock reading at which `r` is not locked. -/
structure Verified (s : FactorStore R) (subject : String) (ledger : List (Entry Counters Time K))
    (r : R) (reading now : Time) : Prop where
  held : Held s subject ledger r reading
  unlocked : (counters r).lockedUntil ≤ reading
  past : reading ≤ now
  dated : 0 < reading

variable {r : R} {reading now : Time}

section
variable (h : Verified s subject ledger r reading now)
include h

lemma Verified.mono {now' : Time} (hnow : now ≤ now')
    (hheld : ∀ {t}, Held s subject ledger r t → Held s' subject ledger' r t) :
    Verified s' subject ledger' r reading now' :=
  ⟨hheld h.held, h.unlocked, h.past.trans hnow, h.dated⟩

/-- The attempt may be written while the record is still the one that was read. -/
theorem Verified.guarded {current : R}
    (hcurrent : s.m.lookup subject = some current) (hversion : version current = version r)
    (hclocked : ∀ e ∈ ledger, e.clock ≤ now) {e : Entry Counters Time K}
    (hfound : e.before = countersAt s subject) (hclock : e.clock = now)
    (hreading : e.write.reading? = some reading) :
    Guarded Counters.lockedUntil ledger (countersAt s subject) e := by
  obtain ⟨rfl, hread⟩ := h.held.same current hcurrent hversion
  refine ⟨hfound, fun e' he' => hclock ▸ hclocked e' he', ?_, ?_, ?_⟩
  · intro t ht
    obtain rfl : reading = t := Option.some.inj (hreading.symm.trans ht)
    rw [countersAt_of_lookup hcurrent, hclock]
    exact ⟨h.unlocked, h.past, hread⟩
  · intro hwrite
    rw [hwrite] at hreading
    cases hreading
  · intro hwrite
    rw [hwrite] at hreading
    cases hreading

end

end Versions

end OidcProvider.AttemptLedgers
