import OidcProvider.FiniteMaps
import OidcProvider.StoreRecords

/-!
# The limiter of manual user-code attempts

`InMemoryAttemptLimiter` (`op/devicecodekit/devicecodekit.go`). Entries expire a fixed time after
the attempt that opened them, and are swept only once `nextExpiry`, a lower bound of all
expiries, is due. The zero time stands for no bound.
-/
namespace OidcProvider.AttemptLimiter
open FiniteMaps StoreRecords

/-! ### The limiter -/

/-- The fixed part of a limiter. -/
structure Config where
  max : ℕ
  maxKeys : ℕ
  ttl : Time
  max_pos : 0 < max

def maxUserCodeStrikes : ℤ := 5
def defaultMaxAttemptKeys : ℕ := 4096
def defaultAttemptTTL : Time := 10 * Time.minute

/-- `NewAttemptLimiterWithOptions`. -/
def newAttemptLimiter (limit : ℤ) (ttl : Time) : Config where
  max := (min (if limit ≤ 0 then maxUserCodeStrikes else limit) 255).toNat
  maxKeys := defaultMaxAttemptKeys
  ttl := if ttl ≤ 0 then defaultAttemptTTL else ttl
  max_pos := by
    unfold maxUserCodeStrikes
    split_ifs <;> omega

structure AttemptEntry where
  strikes : ℕ
  expiresAt : Time
  deriving DecidableEq

structure Limiter where
  attempts : StringMap AttemptEntry
  nextExpiry : Time

def newLimiter : Limiter := ⟨∅, 0⟩

/-- The bound after an entry was seen. -/
def earliest (bound expiresAt : Time) : Time :=
  if bound = 0 ∨ expiresAt < bound then expiresAt else bound

def evictOne (now : Time) (l : Limiter) (visited : String × AttemptEntry) : Limiter :=
  if visited.2.expiresAt ≤ now then { l with attempts := l.attempts.erase visited.1 }
  else { l with nextExpiry := earliest l.nextExpiry visited.2.expiresAt }

def evictExpiredLocked (ρ : KeyOrder) (now : Time) (l : Limiter) : Limiter :=
  if l.nextExpiry = 0 ∨ now < l.nextExpiry then l
  else (pairs ρ l.attempts).foldl (evictOne now) { l with nextExpiry := 0 }

inductive AttemptError where
  | invalidArgument
  | saturated
  deriving DecidableEq

inductive Op where
  | allow (attemptKey : String)
  | reset (attemptKey : String)
  | count (attemptKey : String)
  deriving DecidableEq

inductive Reply where
  | allowed (reply : Except AttemptError Bool)
  | done (reply : Except AttemptError Unit)
  | counted (reply : Except AttemptError ℕ)

/-- A call, with the clock it reads and the order of its sweep. -/
structure Call where
  op : Op
  now : Time
  order : KeyOrder

/-- `Allow`, once expired entries are gone. -/
def charge (cfg : Config) (now : Time) (l : Limiter) (attemptKey : String) :
    Limiter × Except AttemptError Bool :=
  match l.attempts.lookup attemptKey with
  | none =>
    if cfg.maxKeys ≤ l.attempts.keys.card then (l, .error .saturated)
    else (⟨l.attempts.insert attemptKey ⟨1, now + cfg.ttl⟩,
      earliest l.nextExpiry (now + cfg.ttl)⟩, .ok true)
  | some entry =>
    if cfg.max ≤ entry.strikes then (l, .ok false)
    else ({ l with
      attempts := l.attempts.insert attemptKey { entry with strikes := entry.strikes + 1 } },
      .ok true)

def step (cfg : Config) (l : Limiter) (c : Call) : Limiter × Reply :=
  match c.op with
  | .allow attemptKey =>
    if attemptKey = "" then (l, .allowed (.error .invalidArgument))
    else
      let r := charge cfg c.now (evictExpiredLocked c.order c.now l) attemptKey
      (r.1, .allowed r.2)
  | .reset attemptKey =>
    if attemptKey = "" then (l, .done (.error .invalidArgument))
    else ({ l with attempts := l.attempts.erase attemptKey }, .done (.ok ()))
  | .count attemptKey =>
    if attemptKey = "" then (l, .counted (.error .invalidArgument))
    else
      let swept := evictExpiredLocked c.order c.now l
      (swept, .counted
        (.ok ((swept.attempts.lookup attemptKey).map AttemptEntry.strikes |>.getD 0)))

def run (cfg : Config) (l : Limiter) (calls : List Call) : Limiter :=
  calls.foldl (fun l c => (step cfg l c).1) l

def verdicts (cfg : Config) (key : String) (l : Limiter) : List Call → List Reply
  | [] => []
  | c :: calls =>
    if c.op = .allow key then (step cfg l c).2 :: verdicts cfg key (step cfg l c).1 calls
    else verdicts cfg key (step cfg l c).1 calls

/-! ### Sweeps -/

/-- The bound is set, and not after the instant. -/
def Bounds (bound t : Time) : Prop := bound ≠ 0 ∧ bound ≤ t

/-- `nextExpiry` bounds every entry. -/
def Sound (l : Limiter) : Prop :=
  ∀ key entry, l.attempts.lookup key = some entry →
    entry.expiresAt ≠ 0 ∧ Bounds l.nextExpiry entry.expiresAt

section Sweeps
variable {l : Limiter} {now : Time} {key : String} {entry : AttemptEntry}
  {ps : List (String × AttemptEntry)}

lemma bounds_earliest (bound : Time) {t : Time} (h : t ≠ 0) :
    Bounds (earliest bound t) t ∧ ∀ u, Bounds bound u → Bounds (earliest bound t) u := by
  unfold earliest Bounds
  split_ifs with hb
  · exact ⟨⟨h, le_rfl⟩, fun u hu => ⟨h, (hb.resolve_left hu.1).le.trans hu.2⟩⟩
  · rw [not_or, not_lt] at hb
    exact ⟨hb, fun u hu => hu⟩

lemma live_of_foldl (h : (ps.foldl (evictOne now) l).attempts.lookup key = some entry) :
    l.attempts.lookup key = some entry ∧ ((key, entry) ∈ ps → now < entry.expiresAt) := by
  induction ps generalizing l with
  | nil => simpa using h
  | cons p ps ih => grind [evictOne]

lemma foldl_of_live (hrow : l.attempts.lookup key = some entry)
    (hlive : ∀ e, (key, e) ∈ ps → now < e.expiresAt) :
    (ps.foldl (evictOne now) l).attempts.lookup key = some entry := by
  induction ps generalizing l with
  | nil => exact hrow
  | cons p ps ih => grind [evictOne]

lemma bounds_foldl (hdated : ∀ p ∈ ps, p.2.expiresAt ≠ 0) :
    (∀ u, Bounds l.nextExpiry u → Bounds (ps.foldl (evictOne now) l).nextExpiry u) ∧
      ∀ p ∈ ps, now < p.2.expiresAt →
        Bounds (ps.foldl (evictOne now) l).nextExpiry p.2.expiresAt := by
  induction ps generalizing l with
  | nil => simp
  | cons p ps ih =>
    obtain ⟨hkept, hseen⟩ := @ih (evictOne now l p) fun q hq => hdated q (List.mem_cons_of_mem p hq)
    have hp := bounds_earliest l.nextExpiry (hdated p List.mem_cons_self)
    grind [evictOne]

/-- A sweep that is not due would find nothing expired. -/
theorem lookup_evictExpiredLocked (h : Sound l) (ρ : KeyOrder) (now : Time) :
    (evictExpiredLocked ρ now l).attempts.lookup key = some entry ↔
      l.attempts.lookup key = some entry ∧ now < entry.expiresAt := by
  unfold evictExpiredLocked
  split_ifs with hdue
  · refine ⟨fun hrow => ⟨hrow, ?_⟩, And.left⟩
    obtain ⟨_, hset, hle⟩ := h key entry hrow
    exact (hdue.resolve_left hset).trans_le hle
  · constructor
    · intro hrow
      obtain ⟨hrow, hlive⟩ := live_of_foldl hrow
      exact ⟨hrow, hlive ((mem_pairs ρ l.attempts key entry).mpr hrow)⟩
    · rintro ⟨hrow, hlive⟩
      refine foldl_of_live hrow fun e he => ?_
      rw [mem_pairs, hrow] at he
      cases he
      exact hlive

lemma sound_evictExpiredLocked (h : Sound l) (ρ : KeyOrder) (now : Time) :
    Sound (evictExpiredLocked ρ now l) := by
  intro key entry hrow
  obtain ⟨hold, hlive⟩ := (lookup_evictExpiredLocked h ρ now).mp hrow
  refine ⟨(h key entry hold).1, ?_⟩
  unfold evictExpiredLocked
  split_ifs with hdue
  · exact (h key entry hold).2
  · have hpairs : ∀ p ∈ pairs ρ l.attempts, p.2.expiresAt ≠ 0 := fun p hp =>
      (h p.1 p.2 ((mem_pairs ρ l.attempts p.1 p.2).mp hp)).1
    exact (bounds_foldl hpairs).2 (key, entry) ((mem_pairs _ _ _ _).mpr hold) hlive

lemma card_evictExpiredLocked (h : Sound l) (ρ : KeyOrder) (now : Time) :
    (evictExpiredLocked ρ now l).attempts.keys.card ≤ l.attempts.keys.card := by
  apply Finset.card_le_card
  intro key hkey
  obtain ⟨entry, hrow⟩ := (mem_keys_iff _ _).mp hkey
  exact mem_keys_of_lookup ((lookup_evictExpiredLocked h ρ now).mp hrow).1

end Sweeps

/-! ### Calls -/

section Calls
variable {cfg : Config} {l : Limiter} {c : Call} {key : String}

/-- What holds between two calls: the bound is set where there is an entry, and not after its
expiry, and the entries are within the capacity. -/
structure Kept (cfg : Config) (l : Limiter) : Prop where
  sound : Sound l
  capacity : l.attempts.keys.card ≤ cfg.maxKeys

lemma Kept.swept (h : Kept cfg l) (ρ : KeyOrder) (now : Time) :
    Kept cfg (evictExpiredLocked ρ now l) :=
  ⟨sound_evictExpiredLocked h.sound ρ now, (card_evictExpiredLocked h.sound ρ now).trans h.capacity⟩

lemma keys_insert (m : StringMap AttemptEntry) (key : String) (entry : AttemptEntry) :
    (m.insert key entry).keys = insert key m.keys := by
  ext key'
  simp [Finmap.mem_keys]

lemma Kept.charge {now : Time} (h : Kept cfg l) (hdated : now + cfg.ttl ≠ 0) (key : String) :
    Kept cfg (charge cfg now l key).1 := by
  obtain ⟨hsound, hcapacity⟩ := h
  obtain ⟨hnew, hold⟩ := bounds_earliest l.nextExpiry hdated
  unfold AttemptLimiter.charge
  cases hrow : l.attempts.lookup key with
  | none =>
    dsimp only
    split_ifs with hfull
    · exact ⟨hsound, hcapacity⟩
    · refine ⟨fun key' entry hentry => ?_, ?_⟩
      · grind [Sound]
      · rw [keys_insert]
        exact (Finset.card_insert_le _ _).trans (not_le.mp hfull)
  | some entry =>
    dsimp only
    split_ifs
    · exact ⟨hsound, hcapacity⟩
    · refine ⟨fun key' entry' hentry => ?_, ?_⟩
      · grind [Sound]
      · rw [keys_insert, Finset.insert_eq_of_mem (mem_keys_of_lookup hrow)]
        exact hcapacity

lemma kept_step (h : Kept cfg l) (hdated : c.now + cfg.ttl ≠ 0) : Kept cfg (step cfg l c).1 := by
  unfold step
  cases c.op with
  | allow key =>
    dsimp only
    split_ifs
    · exact h
    · exact (h.swept c.order c.now).charge hdated key
  | reset key =>
    dsimp only
    split_ifs
    · exact h
    · refine ⟨fun key' entry hrow => ?_, ?_⟩
      · rw [lookup_erase_ite] at hrow
        split_ifs at hrow
        exact h.sound key' entry hrow
      · rw [Finmap.keys_erase]
        exact (Finset.card_erase_le).trans h.capacity
  | count key =>
    dsimp only
    split_ifs
    · exact h
    · exact h.swept c.order c.now

lemma kept_run {calls : List Call} (h : Kept cfg l)
    (hdated : ∀ c ∈ calls, c.now + cfg.ttl ≠ 0) : Kept cfg (run cfg l calls) := by
  induction calls generalizing l with
  | nil => exact h
  | cons c calls ih =>
    exact ih (kept_step h (hdated c List.mem_cons_self)) fun c' hc' =>
      hdated c' (List.mem_cons_of_mem c hc')

/-! ### The window of an entry -/

variable {strikes : ℕ} {expiresAt : Time}

variable (cfg) in
lemma step_own (h : Sound l) (hkey : key ≠ "")
    (hrow : l.attempts.lookup key = some ⟨strikes, expiresAt⟩) (hlive : c.now < expiresAt)
    (hop : c.op = .allow key) :
    (step cfg l c).2 = .allowed (.ok (decide (strikes < cfg.max))) ∧
      (step cfg l c).1.attempts.lookup key =
        some ⟨if strikes < cfg.max then strikes + 1 else strikes, expiresAt⟩ := by
  have hswept := (lookup_evictExpiredLocked h c.order c.now).mpr ⟨hrow, hlive⟩
  by_cases hmax : strikes < cfg.max
  · simp [step, hop, charge, hkey, hswept, hmax, not_le.mpr hmax]
  · simp [step, hop, charge, hkey, hswept, hmax, not_lt.mp hmax]

lemma step_other (h : Sound l) (hrow : l.attempts.lookup key = some ⟨strikes, expiresAt⟩)
    (hlive : c.now < expiresAt) (hop : c.op ≠ .allow key) (hreset : c.op ≠ .reset key) :
    (step cfg l c).1.attempts.lookup key = some ⟨strikes, expiresAt⟩ := by
  have hswept := (lookup_evictExpiredLocked h c.order c.now).mpr ⟨hrow, hlive⟩
  unfold step charge
  cases hc : c.op <;> grind

/-- The `Allow` calls of a key before the expiry of its entry pass while it has strikes left,
whatever the other keys do. -/
theorem verdicts_window {window : List Call} (h : Kept cfg l) (hkey : key ≠ "")
    (hrow : l.attempts.lookup key = some ⟨strikes, expiresAt⟩)
    (hdated : ∀ c ∈ window, c.now + cfg.ttl ≠ 0)
    (hwindow : ∀ c ∈ window, c.now < expiresAt ∧ c.op ≠ .reset key) {j : ℕ} {v : Reply}
    (hv : (verdicts cfg key l window)[j]? = some v) :
    v = .allowed (.ok (decide (strikes + j < cfg.max))) := by
  induction window generalizing l strikes j with
  | nil => simp [verdicts] at hv
  | cons c window ih =>
    rw [List.forall_mem_cons] at hdated hwindow
    obtain ⟨⟨hlive, hreset⟩, hwindow⟩ := hwindow
    have hnext := kept_step h hdated.1
    unfold verdicts at hv
    split_ifs at hv with hop
    · obtain ⟨hreply, hcharged⟩ := step_own cfg h.sound hkey hrow hlive hop
      cases j with
      | zero =>
        cases hv
        exact hreply
      | succ j =>
        rw [ih hnext hcharged hdated.2 hwindow hv]
        congr 3
        split_ifs <;> simp only [eq_iff_iff] <;> omega
    · exact ih hnext (step_other h.sound hrow hlive hop hreset) hdated.2 hwindow hv

end Calls

/-- If no clock reading is the lifetime of an entry before the zero time, the limiter stays
bounded, and an entry lets its key through as often as configured, until it expires or is reset,
and not once more. -/
theorem attempts_bounded (cfg : Config) (calls : List Call)
    (hdated : ∀ c ∈ calls, c.now + cfg.ttl ≠ 0) :
    Kept cfg (run cfg newLimiter calls) ∧
      (∀ ρ now key entry,
        (evictExpiredLocked ρ now (run cfg newLimiter calls)).attempts.lookup key =
        some entry → now < entry.expiresAt) ∧
      ∀ key before opening window, calls = before ++ opening :: window →
        opening.op = .allow key →
        (evictExpiredLocked opening.order opening.now (run cfg newLimiter before)).attempts.lookup
          key = none →
        (step cfg (run cfg newLimiter before) opening).2 = .allowed (.ok true) →
        (∀ c ∈ window, c.now < opening.now + cfg.ttl ∧ c.op ≠ .reset key) →
        ∀ (j : ℕ) v,
          (verdicts cfg key (run cfg newLimiter before) (opening :: window))[j]? = some v →
          v = .allowed (.ok (decide (j < cfg.max))) := by
  have hnew : Kept cfg newLimiter := by
    refine ⟨fun key entry hrow => ?_, Nat.zero_le _⟩
    cases hrow
  refine ⟨kept_run hnew hdated, fun ρ now key entry hrow => ?_, ?_⟩
  · exact ((lookup_evictExpiredLocked (kept_run hnew hdated).sound ρ now).mp hrow).2
  · rintro key before opening window rfl hop hfree hpass hwindow j v hv
    have hbefore := kept_run hnew fun c hc => hdated c (List.mem_append_left _ hc)
    have hafter : ∀ c ∈ opening :: window, c.now + cfg.ttl ≠ 0 :=
      fun c hc => hdated c (List.mem_append_right _ hc)
    rw [verdicts, if_pos hop] at hv
    cases j with
    | zero =>
      cases hv
      simpa [cfg.max_pos] using hpass
    | succ j =>
      have hkey : key ≠ "" := by
        rintro rfl
        simp [step, hop] at hpass
      have hrow : (step cfg (run cfg newLimiter before) opening).1.attempts.lookup key =
          some ⟨1, opening.now + cfg.ttl⟩ := by
        simp only [step, hop, hkey, if_false, charge, hfree] at hpass ⊢
        split_ifs at hpass ⊢
        · cases hpass
        · simp
      rw [verdicts_window (kept_step hbefore (hafter opening List.mem_cons_self)) hkey hrow
        (fun c hc => hafter c (List.mem_cons_of_mem _ hc)) hwindow hv, Nat.add_comm]

def attemptAt (now : Time) : Call := ⟨.allow "k", now, ascending⟩

def attemptsFrom (now : Time) : List Call :=
  [attemptAt now, attemptAt (now + 1), attemptAt (now + 2)]

/-- Two of three attempts pass, and again two of three once the entry has expired, or has
been reset. -/
theorem attempts_bounded_reopened :
    Kept (newAttemptLimiter 2 10)
      (run (newAttemptLimiter 2 10) newLimiter (attemptsFrom 1 ++ attemptsFrom 12)) ∧
    (∀ (j : ℕ) v, (verdicts (newAttemptLimiter 2 10) "k"
      (run (newAttemptLimiter 2 10) newLimiter (attemptsFrom 1)) (attemptsFrom 12))[j]? = some v →
        v = .allowed (.ok (decide (j < 2)))) ∧
    ∀ (j : ℕ) v, (verdicts (newAttemptLimiter 2 10) "k"
      (run (newAttemptLimiter 2 10) newLimiter
        (attemptsFrom 1 ++ [⟨.reset "k", 4, ascending⟩])) (attemptsFrom 5))[j]? = some v →
        v = .allowed (.ok (decide (j < 2))) := by
  obtain ⟨hkept, -, hexpired⟩ := attempts_bounded (newAttemptLimiter 2 10)
    (attemptsFrom 1 ++ attemptsFrom 12) (by decide)
  obtain ⟨-, -, hreset⟩ := attempts_bounded (newAttemptLimiter 2 10)
    ((attemptsFrom 1 ++ [⟨.reset "k", 4, ascending⟩]) ++ attemptsFrom 5) (by decide)
  exact ⟨hkept, hexpired "k" _ _ _ rfl rfl (by decide +kernel) rfl (by decide),
    hreset "k" _ _ _ rfl rfl (by decide +kernel) rfl (by decide)⟩

/-- The entry of an attempt that is to expire at the zero time is live, and nothing bounds it. -/
theorem unbounded_before_zero_time :
    (run (newAttemptLimiter 1 10) newLimiter [attemptAt (-10)]).nextExpiry = 0 ∧
      (run (newAttemptLimiter 1 10) newLimiter [attemptAt (-10)]).attempts.lookup "k" =
        some ⟨1, 0⟩ ∧ (attemptAt (-10)).now < 0 := by
  decide +kernel

end OidcProvider.AttemptLimiter
