import OidcProvider.InterleavedCalls
import OidcProvider.StoreRecords

/-!
# The cache of remote documents

`internal/remotecache/cache.go`: entries under one LRU order, loads and refreshes that are each
deduplicated by a flight key of their own, and outcomes that are stored without a look at what
has been stored meanwhile. Any number of `LoadTTL` and `RefreshTTL` calls on one key interleave
between their locked steps, and a loader takes as long as it likes.
-/
namespace OidcProvider.RemoteCache
open StoreRecords InterleavedCalls

variable {V E : Type}

/-! ### The cache -/

/-- `entry`. `began` numbers the loader call behind the entry, `stored` its store; the source has
neither. -/
structure Entry (V E : Type) where
  key : String
  value : V
  err : Option E
  negative : Bool
  hasStale : Bool
  expiry : Time
  began : ℕ
  stored : ℕ

/-- `Config`, and which errors are those of a context. -/
structure Config (E : Type) where
  ttl : Time
  negativeTTL : Time
  maxEntries : ℕ
  shouldCacheError : Option (E → Bool)
  negativeOnly : Bool
  contextual : E → Bool

/-- `New`: what is not positive selects a default. -/
def Config.new (cfg : Config E) : Config E where
  ttl := if cfg.ttl ≤ 0 then 5 * Time.minute else cfg.ttl
  negativeTTL := if cfg.negativeTTL ≤ 0 then 5 * Time.second else cfg.negativeTTL
  maxEntries := if cfg.maxEntries = 0 then 256 else cfg.maxEntries
  shouldCacheError := cfg.shouldCacheError
  negativeOnly := cfg.negativeOnly
  contextual := cfg.contextual

/-- The entries, the one used last in front. -/
abbrev Cache (V E : Type) := List (Entry V E)

def Cache.entry (c : Cache V E) (key : String) : Option (Entry V E) := c.find? (·.key = key)

def Cache.delete (c : Cache V E) (key : String) : Cache V E := c.filter (·.key ≠ key)

def Entry.prior (e : Entry V E) : Option V :=
  if e.negative = false ∨ e.hasStale = true then some e.value else none

/-- A fresh entry moves to the front. -/
def getFresh (now : Time) (c : Cache V E) (key : String) : Cache V E × Bool :=
  match c.entry key with
  | none => (c, false)
  | some e => if now < e.expiry then (e :: c.delete key, true) else (c, false)

def removeExpired (now : Time) (c : Cache V E) (key : String) : Cache V E × Option V :=
  match c.entry key with
  | none => (c, none)
  | some e => if now < e.expiry then (c, none) else (c.delete key, e.prior)

def peek (c : Cache V E) (key : String) : Option V := (c.entry key).bind Entry.prior

/-- `put`: expired entries are pruned, and the entries used least recently make room. -/
def put (cfg : Config E) (now : Time) (c : Cache V E) (e : Entry V E) : Cache V E :=
  e :: (Cache.delete (c.filter fun x => now < x.expiry) e.key).take (cfg.maxEntries - 1)

/-- `putPositive`: the time to live of the loader can only shorten that of the cache. -/
def putPositive (cfg : Config E) (now : Time) (c : Cache V E) (key : String) (value : V)
    (ttl : Time) (began stored : ℕ) : Cache V E :=
  if cfg.negativeOnly then c
  else put cfg now c ⟨key, value, none, false, false,
    now + if ttl ≤ 0 ∨ cfg.ttl < ttl then cfg.ttl else ttl, began, stored⟩

def putNegative [Inhabited V] (cfg : Config E) (now : Time) (c : Cache V E) (key : String)
    (err : E) (stale : Option V) (began stored : ℕ) : Cache V E :=
  put cfg now c ⟨key, stale.getD default, some err, true, stale.isSome, now + cfg.negativeTTL,
    began, stored⟩

def cacheableError (cfg : Config E) (err : E) : Bool :=
  !cfg.contextual err && cfg.shouldCacheError.all (· err)

/-! ### Loads and refreshes -/

inductive Kind where
  | load
  | refresh
  deriving DecidableEq

/-- A flight with the value it has found, the number of stores there had been when it looked, and
the number of its loader call. -/
structure Flight (V : Type) where
  kind : Kind
  prior : Option V
  since : ℕ
  began : ℕ

/-- Where a call stands; a flight goes by the call that has started it. -/
inductive Phase (V : Type) where
  | probing
  | joining (kind : Kind)
  | entered (kind : Kind)
  | removing (since : ℕ)
  | calling (f : Flight V)
  | loading (f : Flight V)
  | leaving (kind : Kind)
  | returned

/-- The cache, its clock, the flight keys in use, and how many loader calls and stores there have
been. -/
structure Shared (V E : Type) where
  cache : Cache V E
  now : Time
  inFlight : Kind → Bool
  calls : ℕ
  stores : ℕ

/-- The time since the last step, and what the loader answers if the step is the end of its
call. -/
structure Event (V E : Type) where
  elapsed : ℕ
  outcome : Except E (V × Time)

section System
variable [Inhabited V] (cfg : Config E) (key : String)

/-- The end of a loader call. A refresh that fails caches the failure only where it has found no
value. -/
def store (s : Shared V E) (f : Flight V) : Except E (V × Time) → Cache V E
  | .ok (value, ttl) => putPositive cfg s.now s.cache key value ttl f.began (s.stores + 1)
  | .error err =>
    if (f.kind = .load ∨ f.prior = none) ∧ cacheableError cfg err = true then
      putNegative cfg s.now s.cache key err f.prior f.began (s.stores + 1)
    else s.cache

/-- The next step of a call; `s` has the clock reading of the step. A call that meets a running
flight of its kind shares the answer of that. -/
def proceed (outcome : Except E (V × Time)) (s : Shared V E) : Phase V → Shared V E × Phase V
  | .probing =>
    let r := getFresh s.now s.cache key
    ({ s with cache := r.1 }, if r.2 then .returned else .joining .load)
  | .joining kind =>
    ({ s with inFlight := Function.update s.inFlight kind true },
      if s.inFlight kind then .returned else .entered kind)
  | .entered .load =>
    let r := getFresh s.now s.cache key
    ({ s with cache := r.1 }, if r.2 then .leaving .load else .removing s.stores)
  | .entered .refresh => (s, .calling ⟨.refresh, peek s.cache key, s.stores, 0⟩)
  | .removing since =>
    let r := removeExpired s.now s.cache key
    ({ s with cache := r.1 }, .calling ⟨.load, r.2, since, 0⟩)
  | .calling f => ({ s with calls := s.calls + 1 }, .loading { f with began := s.calls })
  | .loading f =>
    ({ s with cache := store cfg key s f outcome, stores := s.stores + 1 }, .leaving f.kind)
  | .leaving kind =>
    ({ s with inFlight := Function.update s.inFlight kind false }, .returned)
  | .returned => (s, .returned)

def advance (_ : ℕ) (e : Event V E) (s : Shared V E) (phase : Phase V) : Shared V E × Phase V :=
  proceed cfg key e.outcome { s with now := s.now + e.elapsed } phase

def initial (kinds : ℕ → Kind) (now : Time) : Pool (Shared V E) (Phase V) where
  shared := ⟨[], now, fun _ => false, 0, 0⟩
  phase i := if kinds i = .load then .probing else .joining .refresh

variable (σ : Pool (Shared V E) (Phase V)) (m : ℕ × Event V E)

/-- The step keeps freshness: a loader that fails leaves a positive unexpired entry as it is, and
a positive entry gives way to no value of an earlier loader call. -/
def Forward : Prop :=
  ∀ x, σ.shared.cache.entry key = some x → x.negative = false →
    (∀ f err, σ.phase m.1 = .loading f → m.2.outcome = .error err →
      σ.shared.now + m.2.elapsed < x.expiry →
      (step (advance cfg key) σ m).shared.cache.entry key = some x) ∧
    ∀ y, (step (advance cfg key) σ m).shared.cache.entry key = some y → y.negative = false →
      x.began ≤ y.began

/-- Since the flight that ends has looked at the entry, another one has stored a positive value:
of a later loader call, if the flight has a value to store, and one that is unexpired, if it has
a failure to cache. -/
def Overtaken : Prop :=
  ∃ f x, σ.phase m.1 = .loading f ∧ σ.shared.cache.entry key = some x ∧ x.negative = false ∧
    f.since < x.stored ∧ match m.2.outcome with
      | .ok _ => cfg.negativeOnly = false ∧ f.began < x.began
      | .error err => (f.kind = .load ∨ f.prior = none) ∧ cacheableError cfg err = true ∧
          σ.shared.now + m.2.elapsed < x.expiry

end System

/-! ### What the locked steps leave of the entry -/

variable {key : String} {x : Entry V E} {phase : Phase V} {c : Cache V E}

lemma entry_delete (c : Cache V E) (key : String) : (c.delete key).entry key = none := by
  simp [Cache.entry, Cache.delete]

lemma entry_cons {e : Entry V E} (h : e.key = key) (c : Cache V E) :
    Cache.entry (e :: c) key = some e := by
  simp [Cache.entry, h]

lemma key_entry {e : Entry V E} (h : c.entry key = some e) : e.key = key := by
  simpa using List.find?_some h

lemma entry_getFresh (now : Time) (c : Cache V E) (key : String) :
    (getFresh now c key).1.entry key = c.entry key := by
  unfold getFresh
  cases h : c.entry key with
  | none => exact h
  | some e =>
    dsimp only
    split_ifs
    · exact entry_cons (key_entry h) _
    · exact h

lemma expired_of_getFresh {now : Time} (h : (getFresh now c key).2 = false)
    (hx : c.entry key = some x) : x.expiry ≤ now := by
  unfold getFresh at h
  grind

lemma entry_removeExpired {now : Time} (hx : (removeExpired now c key).1.entry key = some x) :
    c.entry key = some x := by
  unfold removeExpired at hx
  cases h : c.entry key with
  | none => simp [h] at hx
  | some e => grind [entry_delete]

/-- What is known of an entry that was there when the flight looked. -/
def Flight.Knows (f : Flight V) (now : Time) (x : Entry V E) : Prop :=
  x.stored ≤ f.since → x.negative = false →
    if f.kind = .load then x.expiry ≤ now else f.prior ≠ none

/-- What is known of an entry from where a call stands. -/
def Justified (now : Time) (x : Entry V E) : Phase V → Prop
  | .removing since => x.stored ≤ since → x.expiry ≤ now
  | .calling f => f.Knows now x
  | .loading f => f.Knows now x ∧ (x.stored ≤ f.since → x.began ≤ f.began)
  | _ => True

/-- The numbers of a flight are of stores and of a loader call that have been. -/
def Counted (stores calls : ℕ) : Phase V → Prop
  | .removing since => since ≤ stores
  | .calling f => f.since ≤ stores
  | .loading f => f.since ≤ stores ∧ f.began < calls
  | _ => True

structure Invariant (key : String) (σ : Pool (Shared V E) (Phase V)) : Prop where
  counted : ∀ i, Counted σ.shared.stores σ.shared.calls (σ.phase i)
  entry : ∀ x, σ.shared.cache.entry key = some x → x.began < σ.shared.calls ∧
    x.stored ≤ σ.shared.stores ∧ ∀ i, Justified σ.shared.now x (σ.phase i)

lemma Justified.later {now now' : Time} (h : now ≤ now') (hx : Justified now x phase) :
    Justified now' x phase := by
  have hknows : ∀ f : Flight V, f.Knows now x → f.Knows now' x := by
    intro f hf hs hpositive
    have hf := hf hs hpositive
    split_ifs at hf ⊢
    · exact hf.trans h
    · exact hf
  cases phase with
  | removing since => exact fun hs => (hx hs).trans h
  | calling f => exact hknows f hx
  | loading f => exact ⟨hknows f hx.1, hx.2⟩
  | _ => trivial

lemma justified_stored {stores calls : ℕ} (h : Counted stores calls phase)
    (hx : stores < x.stored) (now : Time) : Justified now x phase := by
  cases phase <;> grind [Counted, Justified, Flight.Knows]

/-- A call goes on: what the others know of an entry stays, or the entry is new to them. -/
theorem Invariant.update {σ : Pool (Shared V E) (Phase V)} (h : Invariant key σ) {i : ℕ}
    {s : Shared V E} (hnow : σ.shared.now ≤ s.now) (hcalls : σ.shared.calls ≤ s.calls)
    (hstores : σ.shared.stores ≤ s.stores) (hcounted : Counted s.stores s.calls phase)
    (hentry : ∀ x, s.cache.entry key = some x → Justified s.now x phase ∧
      (σ.shared.cache.entry key = some x ∨
        x.began < s.calls ∧ σ.shared.stores < x.stored ∧ x.stored ≤ s.stores)) :
    Invariant key ⟨s, Function.update σ.phase i phase⟩ := by
  constructor
  · intro j
    have hother := h.counted j
    simp only [Function.update_apply]
    split_ifs
    · exact hcounted
    · cases hj : σ.phase j <;> grind [Counted]
  · intro x hx
    obtain ⟨hphase, hold | ⟨hbegan, hnew, hstored⟩⟩ := hentry x hx
    · obtain ⟨hbegan, hstored, hjustified⟩ := h.entry x hold
      refine ⟨hbegan.trans_le hcalls, hstored.trans hstores, fun j => ?_⟩
      simp only [Function.update_apply]
      split_ifs
      · exact hphase
      · exact (hjustified j).later hnow
    · refine ⟨hbegan, hstored, fun j => ?_⟩
      simp only [Function.update_apply]
      split_ifs
      · exact hphase
      · exact justified_stored (h.counted j) hnew _

lemma invariant_initial (key : String) (kinds : ℕ → Kind) (now : Time) :
    Invariant (V := V) (E := E) key (initial kinds now) := by
  refine ⟨fun i => ?_, fun x hx => ?_⟩
  · unfold initial
    dsimp only
    split_ifs <;> trivial
  · simp [initial, Cache.entry] at hx

section Steps
variable [Inhabited V] (cfg : Config E) (key : String)

lemma entry_store_ok (s : Shared V E) (f : Flight V) (r : V × Time) :
    ∃ expiry, (store cfg key s f (.ok r)).entry key =
      if cfg.negativeOnly then s.cache.entry key
      else some ⟨key, r.1, none, false, false, expiry, f.began, s.stores + 1⟩ := by
  refine ⟨s.now + if r.2 ≤ 0 ∨ cfg.ttl < r.2 then cfg.ttl else r.2, ?_⟩
  unfold store putPositive put
  by_cases hnegative : cfg.negativeOnly = true
  · simp [hnegative]
  · simp [hnegative, Cache.entry]

lemma entry_store_error (s : Shared V E) (f : Flight V) (err : E) :
    (store cfg key s f (.error err)).entry key =
      if (f.kind = .load ∨ f.prior = none) ∧ cacheableError cfg err = true then
        some ⟨key, f.prior.getD default, some err, true, f.prior.isSome,
          s.now + cfg.negativeTTL, f.began, s.stores + 1⟩
      else s.cache.entry key := by
  unfold store putNegative put
  dsimp only
  split_ifs
  · exact entry_cons rfl _
  · rfl

/-- A loader call that ends leaves the entry, or its own under the next number. -/
theorem entry_store {s : Shared V E} {f : Flight V} {outcome : Except E (V × Time)}
    {y : Entry V E} (hy : (store cfg key s f outcome).entry key = some y) :
    s.cache.entry key = some y ∨ y.began = f.began ∧ y.stored = s.stores + 1 := by
  cases outcome with
  | ok r =>
    obtain ⟨expiry, hstored⟩ := entry_store_ok cfg key s f r
    grind
  | error err =>
    rw [entry_store_error] at hy
    grind

/-- A step that is not the end of a loader call stores nothing and keeps the knowledge of
calls. -/
theorem proceed_moves (outcome : Except E (V × Time)) {s : Shared V E} {phase : Phase V}
    (hcounted : Counted s.stores s.calls phase) (hphase : ∀ f, phase ≠ .loading f) :
    let r := proceed cfg key outcome s phase
    (r.1.now = s.now ∧ r.1.stores = s.stores ∧ s.calls ≤ r.1.calls ∧
        Counted r.1.stores r.1.calls r.2) ∧
      ∀ x, r.1.cache.entry key = some x → s.cache.entry key = some x ∧
        (x.began < s.calls → Justified s.now x phase → Justified s.now x r.2) := by
  have hfresh := entry_getFresh s.now s.cache key
  intro r
  cases phase with
  | probing => grind [proceed, Counted, Justified]
  | joining kind => grind [proceed, Counted, Justified]
  | entered kind =>
    cases kind with
    | load =>
      have hexpired : ∀ x, (getFresh s.now s.cache key).2 = false → s.cache.entry key = some x →
          x.expiry ≤ s.now := fun _ => expired_of_getFresh
      grind [proceed, Counted, Justified]
    | refresh => grind [proceed, Counted, Justified, Flight.Knows, peek, Entry.prior]
  | removing since =>
    grind [proceed, Counted, Justified, Flight.Knows, entry_removeExpired]
  | calling f => grind [proceed, Counted, Justified, Flight.Knows]
  | loading f => exact absurd rfl (hphase f)
  | leaving kind => grind [proceed, Counted, Justified]
  | returned => grind [proceed, Counted, Justified]

variable {cfg key}

lemma invariant_step (σ : Pool (Shared V E) (Phase V)) (m : ℕ × Event V E)
    (h : Invariant key σ) : Invariant key (step (advance cfg key) σ m) := by
  obtain ⟨i, e⟩ := m
  have hnow : σ.shared.now ≤ σ.shared.now + e.elapsed := Int.le.intro e.elapsed rfl
  unfold step advance
  by_cases hphase : ∃ f, σ.phase i = .loading f
  · obtain ⟨f, hi⟩ := hphase
    have hcounted := h.counted i
    simp only [hi, proceed] at hcounted ⊢
    refine h.update hnow le_rfl (Nat.le_succ _) trivial fun x hx => ⟨trivial, ?_⟩
    rcases entry_store cfg key hx with hold | ⟨hbegan, hstored⟩
    · exact .inl hold
    · exact .inr ⟨hbegan ▸ hcounted.2, hstored ▸ Nat.lt_succ_self _, hstored.le⟩
  · obtain ⟨⟨hsame, hstores, hcalls, hcounted⟩, hentry⟩ := proceed_moves cfg key e.outcome
      (s := { σ.shared with now := σ.shared.now + e.elapsed }) (h.counted i)
      fun f hf => hphase ⟨f, hf⟩
    refine h.update (hnow.trans hsame.ge) hcalls hstores.ge hcounted fun x hx => ?_
    obtain ⟨hold, hknown⟩ := hentry x hx
    obtain ⟨hbegan, -, hjustified⟩ := h.entry x hold
    exact ⟨hsame.symm ▸ hknown hbegan ((hjustified i).later hnow), .inl hold⟩

/-- Where the invariant holds, a step keeps freshness unless the flight that ends is overtaken. -/
theorem forward_iff {σ : Pool (Shared V E) (Phase V)} (h : Invariant key σ)
    (m : ℕ × Event V E) : Forward cfg key σ m ↔ ¬Overtaken cfg key σ m := by
  by_cases hphase : ∃ f, σ.phase m.1 = .loading f
  · obtain ⟨f, hi⟩ := hphase
    have hknown : ∀ x, σ.shared.cache.entry key = some x →
        f.Knows (σ.shared.now + m.2.elapsed) x ∧ (x.stored ≤ f.since → x.began ≤ f.began) := by
      intro x hx
      have hjustified := ((h.entry x hx).2.2 m.1).later (Int.le.intro m.2.elapsed rfl)
      rw [hi] at hjustified
      exact hjustified
    have hstep : (step (advance cfg key) σ m).shared.cache =
        store cfg key { σ.shared with now := σ.shared.now + m.2.elapsed } f m.2.outcome := by
      simp only [step, advance, hi, proceed]
    unfold Forward Overtaken
    simp only [hstep, hi, Phase.loading.injEq]
    cases houtcome : m.2.outcome with
    | ok r =>
      obtain ⟨expiry, hstored⟩ := entry_store_ok cfg key
        { σ.shared with now := σ.shared.now + m.2.elapsed } f r
      grind
    | error err =>
      rw [entry_store_error]
      grind [Flight.Knows]
  · have hmoves := (proceed_moves cfg key m.2.outcome
      (s := { σ.shared with now := σ.shared.now + m.2.elapsed }) (h.counted m.1)
      fun f hf => hphase ⟨f, hf⟩).2
    refine iff_of_true (fun x hx _ => ⟨fun f _ hi => absurd ⟨f, hi⟩ hphase, fun y hy _ => ?_⟩) ?_
    · cases hx.symm.trans (hmoves y hy).1
      exact le_rfl
    · exact fun ⟨f, _, hi, _⟩ => hphase ⟨f, hi⟩

end Steps

/-- Any number of loads and refreshes on one key, in any interleaving of their locked steps:
freshness is kept at every step if and only if no flight that ends has been overtaken. -/
theorem freshness_kept_iff [Inhabited V] (cfg : Config E) (key : String) (kinds : ℕ → Kind)
    (now : Time) (schedule : List (ℕ × Event V E)) :
    Along (advance cfg.new key) (Forward cfg.new key) (initial kinds now) schedule ↔
      Along (advance cfg.new key) (fun σ m => ¬Overtaken cfg.new key σ m) (initial kinds now)
        schedule :=
  along_congr (fun σ m h _ => invariant_step σ m h) (fun _ m h => forward_iff h m) schedule
    (invariant_initial key kinds now)

/-- A load and a refresh look at the empty cache; the loader of the load is called first, that of
the refresh answers first. -/
def racing : List (ℕ × Event ℕ Unit) :=
  [0, 0, 0, 0, 0, 1, 1, 1, 1].map fun i => (i, ⟨1, .ok (2, 0)⟩)

/-- The older load then replaces the value of the refresh, by its own value and by its
failure. -/
theorem slow_load_overtaken :
    let system := advance (V := ℕ) (Config.new ⟨0, 0, 0, none, false, fun _ : Unit => false⟩) "k"
    let σ := run system (initial (fun i => if i = 0 then .load else .refresh) 0) racing
    let entry (σ : Pool (Shared ℕ Unit) (Phase ℕ)) :=
      (σ.shared.cache.entry "k").map fun x => (x.value, x.negative, x.began)
    entry σ = some (2, false, 1) ∧
      entry (step system σ (0, ⟨1, .ok (7, 0)⟩)) = some (7, false, 0) ∧
      entry (step system σ (0, ⟨1, .error ()⟩)) = some (0, true, 0) := by
  decide +kernel

end OidcProvider.RemoteCache
