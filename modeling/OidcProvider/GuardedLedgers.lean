import Mathlib.Data.List.Pairwise
import Mathlib.Order.Basic

/-!
# Ledgers of guarded writes

A record carries counters with a lock. Calls write it one at a time, and each write leaves an
entry: a wrong or a successful attempt with the clock reading it was verified at, a write that
carries the counters over, or one that starts them anew. If every attempt finds the lock over
at its reading, and no entry is younger than that reading, then no attempt was written past a
lock, however many writes came in between.
-/
namespace OidcProvider.GuardedLedgers
variable {C T K : Type}

/-- What a write is for. A success spends a token. -/
inductive Write (T K : Type) where
  | wrong (reading : T)
  | success (reading : T) (token : K)
  | carried
  | renewed
  deriving DecidableEq

/-- The clock reading an attempt was verified at. -/
def Write.reading? : Write T K → Option T
  | .wrong reading => some reading
  | .success reading _ => some reading
  | _ => none

def Write.token? : Write T K → Option K
  | .success _ token => some token
  | _ => none

/-- A write, by which call and when, and the counters around it. -/
structure Entry (C T K : Type) where
  call : ℕ
  write : Write T K
  clock : T
  before : C
  after : C
  deriving DecidableEq

def tokens (ledger : List (Entry C T K)) : List K := ledger.filterMap fun e => e.write.token?

variable {ledger : List (Entry C T K)}

lemma mem_tokens {k : K} :
    k ∈ tokens ledger ↔ ∃ e ∈ ledger, e.write.token? = some k :=
  List.mem_filterMap

variable {e : Entry C T K}

lemma nodup_tokens_cons
    (h : (tokens ledger).Nodup) (he : ∀ k, e.write.token? = some k → k ∉ tokens ledger) :
    (tokens (e :: ledger)).Nodup := by
  unfold tokens
  rw [List.filterMap_cons]
  cases hk : e.write.token? with
  | none => exact h
  | some k => exact List.nodup_cons.mpr ⟨he k hk, h⟩

section Locks
variable [LE T] (lock : C → T)

/-- The write may be made when the counters are `current` and the ledger, newest entry first,
is as given. -/
structure Guarded (ledger : List (Entry C T K)) (current : C) (e : Entry C T K) : Prop where
  found : e.before = current
  clocked : ∀ e' ∈ ledger, e'.clock ≤ e.clock
  verified : ∀ t, e.write.reading? = some t →
    lock current ≤ t ∧ t ≤ e.clock ∧ ∀ e' ∈ ledger, e'.clock ≤ t
  carried : e.write = .carried → e.after = e.before
  renewed : e.write = .renewed → lock e.before ≤ e.clock

/-- No attempt was written past a lock, and a lock that is gone had ended by the time of some
entry. -/
structure Respected (ledger : List (Entry C T K)) (current : C) : Prop where
  locks : ledger.Pairwise fun later earlier =>
    ∀ t, later.write.reading? = some t → lock earlier.after ≤ t
  ended : ∀ e ∈ ledger, lock e.after ≤ lock current ∨ ∃ e' ∈ ledger, lock e.after ≤ e'.clock

lemma respected_nil (current : C) : Respected lock ([] : List (Entry C T K)) current :=
  ⟨.nil, fun _ he => (List.not_mem_nil he).elim⟩

end Locks

section Entries
variable [Preorder T] {lock : C → T}

lemma Guarded.ended {current : C} (he : Guarded lock ledger current e) :
    lock current ≤ lock e.after ∨ lock current ≤ e.clock := by
  cases hwrite : e.write with
  | wrong t =>
    obtain ⟨hlock, hclock, -⟩ := he.verified t (by rw [hwrite]; rfl)
    exact .inr (hlock.trans hclock)
  | success t token =>
    obtain ⟨hlock, hclock, -⟩ := he.verified t (by rw [hwrite]; rfl)
    exact .inr (hlock.trans hclock)
  | carried => exact .inl (by rw [he.carried hwrite, he.found])
  | renewed => exact .inr (he.found ▸ he.renewed hwrite)

lemma Respected.enter {current : C}
    (h : Respected lock ledger current) (he : Guarded lock ledger current e) :
    Respected lock (e :: ledger) e.after := by
  constructor
  · refine List.pairwise_cons.mpr ⟨fun e₀ he₀ t ht => ?_, h.locks⟩
    obtain ⟨hlock, -, hread⟩ := he.verified t ht
    rcases h.ended e₀ he₀ with hcurrent | ⟨e', he', hpast⟩
    · exact hcurrent.trans hlock
    · exact hpast.trans (hread e' he')
  · intro e₀ he₀
    rcases List.mem_cons.mp he₀ with rfl | he₀
    · exact .inl le_rfl
    · rcases h.ended e₀ he₀ with hcurrent | ⟨e', he', hpast⟩
      · rcases he.ended with hafter | hclock
        · exact .inl (hcurrent.trans hafter)
        · exact .inr ⟨e, List.mem_cons_self, hcurrent.trans hclock⟩
      · exact .inr ⟨e', List.mem_cons_of_mem e he', hpast⟩

end Entries

end OidcProvider.GuardedLedgers
