import OidcProvider.DpopProofs

/-!
# Replay markers

`clientauth.ReplayKey`, and what the consumed-JTI store does for those who mark such keys.
The store deletes, replaces and sweeps markers; all that can be seen of it is a ledger of
the markers that were accepted, in which a marker stands until it expires.
-/
namespace OidcProvider.ReplayMarkers
open FiniteMaps StoreRecords SingleUseStores DpopProofs

/-! ### Keys -/

def escapeChar (c : Char) : List Char :=
  if c = '%' then ['%', '2', '5'] else if c = ':' then ['%', '3', 'A'] else [c]

def escapeID (id : String) : String := String.ofList (id.toList.flatMap escapeChar)

/-- `ReplayKey`; the namespace carries its own separator. -/
def replayKey (scope id jti : String) : String := scope ++ escapeID id ++ ":" ++ jti

variable {ledger : List Marker} {D : KeyDigest} {s : JTIStore} {key : String}

lemma colon_not_mem_escapeChar (c : Char) : ':' ∉ escapeChar c := by
  unfold escapeChar
  split_ifs with hpercent hcolon
  · decide
  · decide
  · simpa using Ne.symm hcolon

/-- An escaped character can be read off what it was put in front of. -/
theorem escapeChar_append_inj {c d : Char} {xs ys : List Char}
    (h : escapeChar c ++ xs = escapeChar d ++ ys) : c = d ∧ xs = ys := by
  unfold escapeChar at h
  split_ifs at h <;> grind

lemma flatMap_escapeChar_injective :
    Function.Injective fun cs : List Char => cs.flatMap escapeChar := by
  intro xs ys h
  dsimp only at h
  induction xs generalizing ys with
  | nil =>
    cases ys with
    | nil => rfl
    | cons d ys =>
      rw [List.flatMap_nil, List.flatMap_cons] at h
      unfold escapeChar at h
      split_ifs at h <;> simp at h
  | cons c xs ih =>
    cases ys with
    | nil =>
      rw [List.flatMap_nil, List.flatMap_cons] at h
      unfold escapeChar at h
      split_ifs at h <;> simp at h
    | cons d ys =>
      obtain ⟨hhead, htail⟩ := escapeChar_append_inj h
      rw [hhead, ih htail]

lemma escapeID_injective : Function.Injective escapeID := by
  intro id id' h
  have hlist := congrArg String.toList h
  simp only [escapeID, String.toList_ofList] at hlist
  exact String.toList_injective (flatMap_escapeChar_injective hlist)

lemma colon_not_mem_escapeID (id : String) : ':' ∉ (escapeID id).toList := by
  rw [escapeID, String.toList_ofList, List.mem_flatMap]
  rintro ⟨c, -, hc⟩
  exact colon_not_mem_escapeChar c hc

lemma replayKey_pair {scope id id' jti jti' : String}
    (h : replayKey scope id jti = replayKey scope id' jti') : id = id' ∧ jti = jti' := by
  have hlist := congrArg String.toList h
  simp only [replayKey, String.toList_append, List.append_assoc] at hlist
  obtain ⟨hid, hjti⟩ := append_separator_inj (colon_not_mem_escapeID id)
    (colon_not_mem_escapeID id') (List.append_cancel_left hlist)
  exact ⟨escapeID_injective (String.toList_injective hid), String.toList_injective hjti⟩

/-- Namespaces that part at some character share no key. -/
theorem replayKey_scope_ne {scope scope' : String} (common : List Char) {rest rest' : List Char}
    {c c' : Char} (hscope : scope.toList = common ++ c :: rest)
    (hscope' : scope'.toList = common ++ c' :: rest') (hc : c ≠ c') (id id' jti jti' : String) :
    replayKey scope id jti ≠ replayKey scope' id' jti' := by
  intro h
  have hlist := congrArg String.toList h
  simp only [replayKey, String.toList_append, List.append_assoc, hscope, hscope',
    List.cons_append] at hlist
  exact hc (List.cons.inj (List.append_cancel_left hlist)).1

/-! ### The ledger -/

structure Marker where
  key : String
  expiresAt : Time
  deriving DecidableEq

def blocked (ledger : List Marker) (key : String) (now : Time) : Bool :=
  ledger.any fun m => decide (m.key = key) && !isExpiredInclusive m.expiresAt now

/-- The ledger takes a marker unless one of the same key stands. -/
def enterMarker (now : Time) (ledger : List Marker) (m : Marker) : List Marker × StoreReply :=
  if blocked ledger m.key now then (ledger, .error .alreadyConsumed) else (m :: ledger, .ok ())

lemma blocked_iff (ledger : List Marker) (key : String) (now : Time) :
    blocked ledger key now = true ↔
      ∃ m ∈ ledger, m.key = key ∧ isExpiredInclusive m.expiresAt now = false := by
  simp [blocked, List.any_eq_true]

lemma blocked_cons (m : Marker) (ledger : List Marker) (key : String) (now : Time) :
    blocked (m :: ledger) key now =
      (decide (m.key = key) && !isExpiredInclusive m.expiresAt now || blocked ledger key now) :=
  rfl

lemma isExpiredInclusive_mono {t now later : Time} (h : isExpiredInclusive t now = true)
    (hle : now ≤ later) : isExpiredInclusive t later = true := by
  unfold isExpiredInclusive at h ⊢
  split_ifs at h ⊢
  rw [decide_eq_true_iff] at h ⊢
  exact le_trans h hle

lemma not_blocked_mono {now later : Time} (h : blocked ledger key now = false)
    (hle : now ≤ later) : blocked ledger key later = false := by
  rw [Bool.eq_false_iff, ne_eq, blocked_iff] at h ⊢
  rintro ⟨m, hm, hkey, hlive⟩
  refine h ⟨m, hm, hkey, ?_⟩
  rw [Bool.eq_false_iff]
  intro hexpired
  rw [isExpiredInclusive_mono hexpired hle] at hlive
  cases hlive

/-- From `t` on, the store has a live marker exactly where the ledger has one. -/
def Records (D : KeyDigest) (t : Time) (s : JTIStore) (ledger : List Marker) : Prop :=
  ∀ key now, t ≤ now →
    ((s.m.lookup (D.hashKey key)).any fun e => !isExpiredInclusive e now) = blocked ledger key now

lemma records_new (D : KeyDigest) (t : Time) : Records D t (newRecordStore Time) [] := by
  intro key now _
  rfl

lemma Records.later {t now : Time} (h : Records D t s ledger) (hle : t ≤ now) :
    Records D now s ledger :=
  fun key later hlater => h key later (le_trans hle hlater)

lemma any_filter_expired {row : Option Time} {now later : Time} (hle : now ≤ later) :
    ((row.filter fun e => !expiredMarker now e).any fun e => !isExpiredInclusive e later) =
      row.any fun e => !isExpiredInclusive e later := by
  cases row with
  | none => rfl
  | some e =>
    cases hexpired : isExpiredInclusive e now with
    | false => simp [Option.filter_some, expiredMarker, hexpired]
    | true =>
      simp [Option.filter_some, expiredMarker, hexpired, isExpiredInclusive_mono hexpired hle]

lemma mark_blocked {ρ : KeyOrder} {now : Time} (expiresAt : Time)
    (h : ((s.m.lookup (D.hashKey key)).any fun e => !isExpiredInclusive e now) = true) :
    mark D ρ now s key expiresAt = (s, .error .alreadyConsumed) := by
  cases hrow : s.m.lookup (D.hashKey key) with
  | none => simp [hrow] at h
  | some e => exact mark_live expiresAt hrow (by simpa [hrow] using h)

lemma mark_unblocked {ρ : KeyOrder} {now : Time} (expiresAt : Time)
    (h : ((s.m.lookup (D.hashKey key)).any fun e => !isExpiredInclusive e now) = false) :
    (mark D ρ now s key expiresAt).2 = .ok () := by
  unfold mark
  dsimp only
  cases hrow : s.m.lookup (D.hashKey key) with
  | none => rfl
  | some e =>
    have hexpired : isExpiredInclusive e now = true := by simpa [hrow] using h
    simp [hexpired]

/-- The store answers as the ledger does, and goes on to record it. -/
theorem mark_refines (hD : D.Injective) {t now : Time} (h : Records D t s ledger)
    (hle : t ≤ now) (ρ : KeyOrder) (m : Marker) :
    (mark D ρ now s m.key m.expiresAt).2 = (enterMarker now ledger m).2 ∧
      Records D now (mark D ρ now s m.key m.expiresAt).1 (enterMarker now ledger m).1 := by
  unfold enterMarker
  have hrow := h m.key now hle
  cases hblocked : blocked ledger m.key now with
  | true =>
    rw [mark_blocked m.expiresAt (hrow.trans hblocked)]
    exact ⟨rfl, h.later hle⟩
  | false =>
    have hok : (mark D ρ now s m.key m.expiresAt).2 = .ok () :=
      mark_unblocked m.expiresAt (hrow.trans hblocked)
    refine ⟨hok, fun key later hlater => ?_⟩
    simp only [Bool.false_eq_true, if_false, blocked_cons]
    obtain hmark | ⟨s', hmark, hmarker, hothers⟩ := mark_cases D ρ now s m.key m.expiresAt
    · rw [hmark] at hok
      cases hok
    · rw [hmark]
      by_cases hkey : m.key = key
      · subst hkey
        rw [hmarker, not_blocked_mono hblocked hlater]
        simp
      · have hdigest : D.hashKey key ≠ D.hashKey m.key := fun he => hkey (hD he).symm
        have hsame := h key later (le_trans hle hlater)
        rw [decide_eq_false hkey, Bool.false_and, Bool.false_or, ← hsame]
        rcases hothers _ hdigest with heq | heq
        · rw [heq]
        · rw [heq]
          exact any_filter_expired hlater

end OidcProvider.ReplayMarkers
