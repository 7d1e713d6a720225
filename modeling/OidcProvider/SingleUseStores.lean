import OidcProvider.StagedOverlay
import OidcProvider.StoreRecords

/-!
# Authorization codes and pushed authorization requests

`inmem/authcodestore.go` and `inmem/parstore.go`, with their staging in
`inmem/tx.go`. Both stores keep single-use records under the digest of their
secret, sweep at some of the inserts, and stage a transaction in two layers:
records added in it, and records it consumed. They differ in what expiry means.
An expired code is unreachable, so sweeping it is not observable. A pushed
request is presented by `Find` until it expires, but `Consume` redeems it for as
long as it is stored, and the sweep takes it once its retention has passed.
-/
namespace OidcProvider.SingleUseStores
open FiniteMaps StagedOverlay StoreRecords

/-- The maps of `authCodeStore` and `parStore`, and their sweep counters. -/
structure RecordStore (V : Type) where
  m : StringMap V
  savesSinceGC : UInt32

def newRecordStore (V : Type) : RecordStore V := ⟨∅, 0⟩

/-- `authCodeStaging` and `parStaging`. -/
structure RecordStaging (V : Type) where
  parent : RecordStore V
  added : StringMap V
  updated : StringMap V

/-- The two stores, and what a transaction stages on each. -/
abbrev AuthCodeStore := RecordStore AuthorizationCode
abbrev PARStore := RecordStore PushedAuthRequest
abbrev AuthCodeStaging := RecordStaging AuthorizationCode
abbrev PARStaging := RecordStaging PushedAuthRequest

/-- `maybeGCLocked`: counts an insert, and sweeps the stale rows when it is due. -/
def RecordStore.maybeGC {V : Type} (stale : V → Bool) (ρ : KeyOrder)
    (s : RecordStore V) : RecordStore V :=
  let due := Sweeper.due s.savesSinceGC s.m.keys.card
  ⟨if due.2 then sweep stale ρ s.m else s.m, due.1⟩

def RecordStore.put {V : Type} (s : RecordStore V) (key : String) (rec : V) : RecordStore V :=
  { s with m := s.m.insert key rec }

namespace RecordStaging
variable {V : Type}

def openOn (s : RecordStore V) : RecordStaging V := ⟨s, ∅, ∅⟩

/-- `lookup`: updated records, then added ones, then the committed map. -/
def lookup (st : RecordStaging V) (key : String) : Option V :=
  stagedLookup key st.updated st.added st.parent.m

def add (st : RecordStaging V) (key : String) (rec : V) : RecordStaging V :=
  { st with added := st.added.insert key rec }

def update (st : RecordStaging V) (key : String) (rec : V) : RecordStaging V :=
  { st with updated := st.updated.insert key rec }

/-- Both layers copied over the committed map, the consumed records last. -/
def copied (st : RecordStaging V) : RecordStore V :=
  { st.parent with m := copyInto (copyInto st.parent.m st.added) st.updated }

lemma lookup_update (st : RecordStaging V) (key : String) (rec : V) (key' : String) :
    (st.update key rec).lookup key' = if key' = key then some rec else st.lookup key' :=
  stagedLookup_insert_updated key key' st.updated st.added st.parent.m rec

lemma lookup_add {st : RecordStaging V} {key : String} (hfresh : st.lookup key = none)
    (rec : V) (key' : String) :
    (st.add key rec).lookup key' = if key' = key then some rec else st.lookup key' :=
  stagedLookup_insert_added hfresh key' rec

lemma lookup_copied (st : RecordStaging V) (key : String) :
    st.copied.m.lookup key = st.lookup key := by
  rw [copied, lookup_copyInto, lookup_copyInto, lookup, stagedLookup_eq]

end RecordStaging

section Sweep
variable {V : Type} (stale : V → Bool) (ρ : KeyOrder) (s : RecordStore V)

lemma lookup_maybeGC (key : String) :
    (s.maybeGC stale ρ).m.lookup key =
      if (Sweeper.due s.savesSinceGC s.m.keys.card).2 then
        (s.m.lookup key).filter fun rec => !stale rec
      else s.m.lookup key := by
  unfold RecordStore.maybeGC
  dsimp only
  split_ifs
  · exact lookup_sweep stale ρ s.m key
  · rfl

lemma lookup_of_maybeGC {key : String} {rec : V}
    (h : (s.maybeGC stale ρ).m.lookup key = some rec) : s.m.lookup key = some rec := by
  rw [lookup_maybeGC] at h
  split_ifs at h
  · exact (Option.filter_eq_some_iff.mp h).1
  · exact h

/-- A sweep is not seen by who skips the stale rows. -/
lemma filter_maybeGC (key : String) :
    ((s.maybeGC stale ρ).m.lookup key).filter (fun rec => !stale rec) =
      (s.m.lookup key).filter fun rec => !stale rec := by
  rw [lookup_maybeGC]
  split_ifs
  · simp
  · rfl

variable {s}

lemma lookup_maybeGC_none {key : String} (h : s.m.lookup key = none) :
    (s.maybeGC stale ρ).m.lookup key = none := by
  rw [lookup_maybeGC, h]
  simp

end Sweep

/-- Every row is stored under its own id, the digest of the secret. -/
def Keyed {V : Type} (idOf : V → String) (view : String → Option V) : Prop :=
  ∀ key rec, view key = some rec → idOf rec = key

/-! ### Authorization codes -/

/-- An expired code may be swept. -/
def staleCode (now : Time) (rec : AuthorizationCode) : Bool := isExpiredStrict rec.expiresAt now

section Codes
variable (D : KeyDigest)

/-- `Save`. The sweep runs before the check for a duplicate. -/
def saveCode (ρ : KeyOrder) (now : Time) (s : AuthCodeStore) :
    Option AuthorizationCode → AuthCodeStore × StoreReply
  | none => (s, .error (.other "inmem: nil authorization code"))
  | some code =>
    let s := s.maybeGC (staleCode now) ρ
    let key := D.hashKey code.id
    match s.m.lookup key with
    | some _ => (s, .error .alreadyExists)
    | none => (s.put key (code.presentedAs key), .ok ())

def findCode (now : Time) (s : AuthCodeStore) (id : String) : Fallible AuthorizationCode :=
  let key := D.hashKey id
  match s.m.lookup key with
  | none => .error .notFound
  | some rec =>
    if rec.id ≠ key then .error .notFound
    else if isExpiredStrict rec.expiresAt now then .error .notFound
    else .ok (rec.presentedAs id)

/-- `Consume`. A replay is answered with the record and an error. -/
def consumeCode (now : Time) (s : AuthCodeStore) (id : String) :
    AuthCodeStore × ConsumeResult AuthorizationCode :=
  let key := D.hashKey id
  match s.m.lookup key with
  | none => (s, .failed .notFound)
  | some rec =>
    if rec.id ≠ key then (s, .failed .notFound)
    else if isExpiredStrict rec.expiresAt now then (s, .failed .notFound)
    else match rec.consumedAt with
      | some _ => (s, .alreadyConsumed (rec.presentedAs id))
      | none =>
        let consumed := rec.stampConsumed now
        (s.put key consumed, .consumed (consumed.presentedAs id))

/-- `Save` in a transaction: a duplicate is looked for in both layers, and nothing is
swept. -/
def txSaveCode (st : AuthCodeStaging) : Option AuthorizationCode → AuthCodeStaging × StoreReply
  | none => (st, .error (.other "inmem: nil authorization code"))
  | some code =>
    let key := D.hashKey code.id
    match st.added.lookup key with
    | some _ => (st, .error .alreadyExists)
    | none =>
      match st.parent.m.lookup key with
      | some _ => (st, .error .alreadyExists)
      | none => (st.add key (code.presentedAs key), .ok ())

def txFindCode (now : Time) (st : AuthCodeStaging) (id : String) : Fallible AuthorizationCode :=
  match st.lookup (D.hashKey id) with
  | none => .error .notFound
  | some rec =>
    if isExpiredStrict rec.expiresAt now then .error .notFound
    else .ok (rec.presentedAs id)

def txConsumeCode (now : Time) (st : AuthCodeStaging) (id : String) :
    AuthCodeStaging × ConsumeResult AuthorizationCode :=
  let key := D.hashKey id
  match st.lookup key with
  | none => (st, .failed .notFound)
  | some rec =>
    if isExpiredStrict rec.expiresAt now then (st, .failed .notFound)
    else match rec.consumedAt with
      | some _ => (st, .alreadyConsumed (rec.presentedAs id))
      | none =>
        let updated := (rec.stampConsumed now).presentedAs key
        (st.update key updated, .consumed (updated.presentedAs id))

/-- `authCodeStaging.flushLocked`: the sweep judges the committed map. -/
def flushCodes (ρ : KeyOrder) (now : Time) (st : AuthCodeStaging) : AuthCodeStore :=
  st.copied.maybeGC (staleCode now) ρ

/-! Every answer about a code is read off its row while that is live. -/

def live (now : Time) (row : Option AuthorizationCode) : Option AuthorizationCode :=
  row.filter fun rec => !staleCode now rec

def presentCode (row : Option AuthorizationCode) (id : String) : Fallible AuthorizationCode :=
  match row with
  | none => .error .notFound
  | some rec => .ok (rec.presentedAs id)

def redeemCode (now : Time) (row : Option AuthorizationCode) (id : String) :
    ConsumeResult AuthorizationCode :=
  match row with
  | none => .failed .notFound
  | some rec =>
    if rec.consumedAt.isSome then .alreadyConsumed (rec.presentedAs id)
    else .consumed ((rec.stampConsumed now).presentedAs id)

/-- The row after a `Consume`: stamped, if it was live and unspent. -/
def spendCode (now : Time) (row : Option AuthorizationCode) : Option AuthorizationCode :=
  row.map fun rec =>
    if staleCode now rec || rec.consumedAt.isSome then rec else rec.stampConsumed now

lemma live_spendCode (now : Time) (row : Option AuthorizationCode) :
    live now (spendCode now row) = spendCode now (live now row) := by
  cases row with
  | none => rfl
  | some rec =>
    have hstamp : staleCode now (rec.stampConsumed now) = staleCode now rec := rfl
    cases hs : staleCode now rec <;> cases hc : rec.consumedAt <;>
      simp [live, spendCode, hs, hc, hstamp, Option.filter_some]

/-- Rows that agree while live agree ever after. -/
lemma live_mono {now later : Time} (hle : now ≤ later) {row row' : Option AuthorizationCode}
    (h : live now row = live now row') : live later row = live later row' := by
  have hrefine : ∀ r, live later r = live later (live now r) := by
    intro r
    cases r with
    | none => rfl
    | some rec =>
      cases hs : staleCode now rec with
      | false => simp [live, hs, Option.filter_some]
      | true =>
        have hlater : staleCode later rec = true := isExpiredStrict_mono hs hle
        simp [live, hs, hlater, Option.filter_some]
  rw [hrefine row, hrefine row', h]

section Direct
variable {s : AuthCodeStore} (hkeyed : Keyed AuthorizationCode.id s.m.lookup)
include hkeyed

lemma findCode_eq (now : Time) (id : String) :
    findCode D now s id = presentCode (live now (s.m.lookup (D.hashKey id))) id := by
  dsimp only [findCode]
  cases hrow : s.m.lookup (D.hashKey id) with
  | none => rfl
  | some rec =>
    have hid := hkeyed _ _ hrow
    cases hs : isExpiredStrict rec.expiresAt now <;>
      simp [hid, hs, live, staleCode, presentCode, Option.filter_some]

lemma consumeCode_reply (now : Time) (id : String) :
    (consumeCode D now s id).2 = redeemCode now (live now (s.m.lookup (D.hashKey id))) id := by
  dsimp only [consumeCode]
  cases hrow : s.m.lookup (D.hashKey id) with
  | none => rfl
  | some rec =>
    have hid := hkeyed _ _ hrow
    cases hs : isExpiredStrict rec.expiresAt now <;> cases hc : rec.consumedAt <;>
      simp [hid, hs, hc, live, staleCode, redeemCode, Option.filter_some]

lemma lookup_consumeCode (now : Time) (id key : String) :
    (consumeCode D now s id).1.m.lookup key =
      if key = D.hashKey id then spendCode now (s.m.lookup key) else s.m.lookup key := by
  dsimp only [consumeCode]
  cases hrow : s.m.lookup (D.hashKey id) with
  | none =>
    rcases eq_or_ne key (D.hashKey id) with rfl | hk
    · simp [hrow, spendCode]
    · simp [hk]
  | some rec =>
    have hid := hkeyed _ _ hrow
    rcases eq_or_ne key (D.hashKey id) with rfl | hk <;>
      cases hs : isExpiredStrict rec.expiresAt now <;> cases hc : rec.consumedAt <;>
        simp [*, spendCode, staleCode, RecordStore.put]

end Direct

section Staged
variable {st : AuthCodeStaging}

lemma txFindCode_eq (now : Time) (id : String) :
    txFindCode D now st id = presentCode (live now (st.lookup (D.hashKey id))) id := by
  unfold txFindCode
  cases st.lookup (D.hashKey id) with
  | none => rfl
  | some rec =>
    cases hs : isExpiredStrict rec.expiresAt now <;>
      simp [hs, live, staleCode, presentCode, Option.filter_some]

lemma txConsumeCode_reply (now : Time) (id : String) :
    (txConsumeCode D now st id).2 = redeemCode now (live now (st.lookup (D.hashKey id))) id := by
  dsimp only [txConsumeCode]
  cases st.lookup (D.hashKey id) with
  | none => rfl
  | some rec =>
    cases hs : isExpiredStrict rec.expiresAt now <;> cases hc : rec.consumedAt <;>
      simp [hs, hc, live, staleCode, redeemCode, Option.filter_some,
        AuthorizationCode.presentedAs]

lemma lookup_txConsumeCode (hkeyed : Keyed AuthorizationCode.id st.lookup) (now : Time)
    (id key : String) :
    (txConsumeCode D now st id).1.lookup key =
      if key = D.hashKey id then spendCode now (st.lookup key) else st.lookup key := by
  dsimp only [txConsumeCode]
  cases hrow : st.lookup (D.hashKey id) with
  | none =>
    rcases eq_or_ne key (D.hashKey id) with rfl | hk
    · simp [hrow, spendCode]
    · simp [hk]
  | some rec =>
    have hkey : (rec.stampConsumed now).presentedAs (D.hashKey id) = rec.stampConsumed now := by
      rw [← hkeyed _ _ hrow]; rfl
    rcases eq_or_ne key (D.hashKey id) with rfl | hk <;>
      cases hs : isExpiredStrict rec.expiresAt now <;> cases hc : rec.consumedAt <;>
        simp [*, spendCode, staleCode, RecordStaging.lookup_update]

lemma parent_txConsumeCode (now : Time) (id : String) :
    (txConsumeCode D now st id).1.parent = st.parent := by
  dsimp only [txConsumeCode]
  split
  · rfl
  · split_ifs
    · rfl
    · split <;> rfl

lemma parent_txSaveCode (code : Option AuthorizationCode) :
    (txSaveCode D st code).1.parent = st.parent := by
  cases code with
  | none => rfl
  | some code =>
    dsimp only [txSaveCode]
    split
    · rfl
    · split <;> rfl

end Staged

/-! The saves. -/

lemma saveCode_fresh {s : AuthCodeStore} {code : AuthorizationCode}
    (h : s.m.lookup (D.hashKey code.id) = none) (ρ : KeyOrder) (now : Time) :
    saveCode D ρ now s (some code) =
      ((s.maybeGC (staleCode now) ρ).put (D.hashKey code.id)
        (code.presentedAs (D.hashKey code.id)), .ok ()) := by
  dsimp only [saveCode]
  rw [lookup_maybeGC_none _ ρ h]

lemma txSaveCode_fresh {st : AuthCodeStaging} {code : AuthorizationCode}
    (h : st.lookup (D.hashKey code.id) = none) :
    txSaveCode D st (some code) =
      (st.add (D.hashKey code.id) (code.presentedAs (D.hashKey code.id)), .ok ()) := by
  rw [RecordStaging.lookup, stagedLookup_eq, Option.or_eq_none_iff, Option.or_eq_none_iff] at h
  dsimp only [txSaveCode]
  rw [h.2.1, h.2.2]

end Codes

/-! ### Pushed authorization requests -/

/-- How long an expired request is kept. -/
def parRetention : Time := 24 * Time.hour

/-- A request without expiry is never reclaimed. -/
def parReclaimable (now : Time) (rec : PushedAuthRequest) : Bool :=
  if rec.expiresAt = 0 then false else isExpiredStrict (rec.expiresAt + parRetention) now

section PushedRequests
variable (D : KeyDigest)

/-- The key of a request past its retention is freed for a new one. -/
def deleteReclaimableKey (now : Time) (s : PARStore) (key : String) : PARStore :=
  match s.m.lookup key with
  | none => s
  | some rec => if parReclaimable now rec then { s with m := s.m.erase key } else s

def savePAR (ρ : KeyOrder) (now : Time) (s : PARStore) :
    Option PushedAuthRequest → PARStore × StoreReply
  | none => (s, .error (.other "inmem: nil pushed authorization request"))
  | some par =>
    let key := D.hashKey par.uri
    let s := (deleteReclaimableKey now s key).maybeGC (parReclaimable now) ρ
    match s.m.lookup key with
    | some _ => (s, .error .alreadyExists)
    | none => (s.put key (par.presentedAs key), .ok ())

def findPAR (now : Time) (s : PARStore) (uri : String) : Fallible PushedAuthRequest :=
  let key := D.hashKey uri
  match s.m.lookup key with
  | none => .error .notFound
  | some rec =>
    if rec.uri ≠ key then .error .notFound
    else if isExpiredStrict rec.expiresAt now then .error .notFound
    else .ok (rec.presentedAs uri)

/-- Single use only: expiry is not looked at. -/
def consumePAR (now : Time) (s : PARStore) (uri : String) : PARStore × Fallible PushedAuthRequest :=
  let key := D.hashKey uri
  match s.m.lookup key with
  | none => (s, .error .notFound)
  | some rec =>
    if rec.uri ≠ key then (s, .error .notFound)
    else match rec.consumedAt with
      | some _ => (s, .error .alreadyConsumed)
      | none =>
        let consumed := rec.stampConsumed now
        (s.put key consumed, .ok (consumed.presentedAs uri))

def txSavePAR (now : Time) (st : PARStaging) : Option PushedAuthRequest → PARStaging × StoreReply
  | none => (st, .error (.other "inmem: nil pushed authorization request"))
  | some par =>
    let key := D.hashKey par.uri
    match st.added.lookup key with
    | some _ => (st, .error .alreadyExists)
    | none =>
      -- a committed row past its retention may be displaced
      if (st.parent.m.lookup key).any (fun rec => !parReclaimable now rec) then
        (st, .error .alreadyExists)
      else (st.add key (par.presentedAs key), .ok ())

def txFindPAR (now : Time) (st : PARStaging) (uri : String) : Fallible PushedAuthRequest :=
  match st.lookup (D.hashKey uri) with
  | none => .error .notFound
  | some rec =>
    if isExpiredStrict rec.expiresAt now then .error .notFound
    else .ok (rec.presentedAs uri)

/-- `Consume` in a transaction. Here too expiry is not looked at. -/
def txConsumePAR (now : Time) (st : PARStaging) (uri : String) :
    PARStaging × Fallible PushedAuthRequest :=
  let key := D.hashKey uri
  match st.lookup key with
  | none => (st, .error .notFound)
  | some rec =>
    match rec.consumedAt with
    | some _ => (st, .error .alreadyConsumed)
    | none =>
      let updated := (rec.stampConsumed now).presentedAs key
      (st.update key updated, .ok (updated.presentedAs uri))

/-- `parStaging.flushLocked` copies and never sweeps. -/
def flushPARs (st : PARStaging) : PARStore := st.copied

/-! `Find` answers from the unexpired row, `Consume` from the row itself. -/

def presentPAR (now : Time) (row : Option PushedAuthRequest) (uri : String) :
    Fallible PushedAuthRequest :=
  match row with
  | none => .error .notFound
  | some rec =>
    if isExpiredStrict rec.expiresAt now then .error .notFound else .ok (rec.presentedAs uri)

/-- The answer of `Consume`, from the row. -/
def redeemPAR (now : Time) (row : Option PushedAuthRequest) (uri : String) :
    Fallible PushedAuthRequest :=
  match row with
  | none => .error .notFound
  | some rec =>
    if rec.consumedAt.isSome then .error .alreadyConsumed
    else .ok ((rec.stampConsumed now).presentedAs uri)

/-- The row after a `Consume`: stamped, if it was unspent. -/
def spendPAR (now : Time) (row : Option PushedAuthRequest) : Option PushedAuthRequest :=
  row.map fun rec => if rec.consumedAt.isSome then rec else rec.stampConsumed now

/-- A stored request is answered for by `Consume`, one way or the other. -/
theorem redeemPAR_some (now : Time) (rec : PushedAuthRequest) (uri : String) :
    redeemPAR now (some rec) uri ≠ .error .notFound := by
  unfold redeemPAR
  dsimp only
  split_ifs <;> simp

section Direct
variable {s : PARStore} (hkeyed : Keyed PushedAuthRequest.uri s.m.lookup)
include hkeyed

lemma findPAR_eq (now : Time) (uri : String) :
    findPAR D now s uri = presentPAR now (s.m.lookup (D.hashKey uri)) uri := by
  dsimp only [findPAR]
  cases hrow : s.m.lookup (D.hashKey uri) with
  | none => rfl
  | some rec => simp [hkeyed _ _ hrow, presentPAR]

lemma consumePAR_reply (now : Time) (uri : String) :
    (consumePAR D now s uri).2 = redeemPAR now (s.m.lookup (D.hashKey uri)) uri := by
  dsimp only [consumePAR]
  cases hrow : s.m.lookup (D.hashKey uri) with
  | none => rfl
  | some rec => cases hc : rec.consumedAt <;> simp [hkeyed _ _ hrow, hc, redeemPAR]

lemma lookup_consumePAR (now : Time) (uri key : String) :
    (consumePAR D now s uri).1.m.lookup key =
      if key = D.hashKey uri then spendPAR now (s.m.lookup key) else s.m.lookup key := by
  dsimp only [consumePAR]
  cases hrow : s.m.lookup (D.hashKey uri) with
  | none =>
    rcases eq_or_ne key (D.hashKey uri) with rfl | hk
    · simp [hrow, spendPAR]
    · simp [hk]
  | some rec =>
    rcases eq_or_ne key (D.hashKey uri) with rfl | hk <;>
      cases hc : rec.consumedAt <;>
        simp [*, hkeyed _ _ hrow, spendPAR, RecordStore.put]

end Direct

section Staged
variable {st : PARStaging} (now : Time) (uri : String)

lemma txFindPAR_eq :
    txFindPAR D now st uri = presentPAR now (st.lookup (D.hashKey uri)) uri := rfl

lemma txConsumePAR_reply :
    (txConsumePAR D now st uri).2 = redeemPAR now (st.lookup (D.hashKey uri)) uri := by
  dsimp only [txConsumePAR]
  cases st.lookup (D.hashKey uri) with
  | none => rfl
  | some rec =>
    cases hc : rec.consumedAt <;> simp [hc, redeemPAR, PushedAuthRequest.presentedAs]

lemma lookup_txConsumePAR (hkeyed : Keyed PushedAuthRequest.uri st.lookup) (now : Time)
    (uri key : String) :
    (txConsumePAR D now st uri).1.lookup key =
      if key = D.hashKey uri then spendPAR now (st.lookup key) else st.lookup key := by
  dsimp only [txConsumePAR]
  cases hrow : st.lookup (D.hashKey uri) with
  | none =>
    rcases eq_or_ne key (D.hashKey uri) with rfl | hk
    · simp [hrow, spendPAR]
    · simp [hk]
  | some rec =>
    have hkey : (rec.stampConsumed now).presentedAs (D.hashKey uri) = rec.stampConsumed now := by
      rw [← hkeyed _ _ hrow]; rfl
    rcases eq_or_ne key (D.hashKey uri) with rfl | hk <;>
      cases hc : rec.consumedAt <;>
        simp [*, spendPAR, RecordStaging.lookup_update]

lemma parent_txConsumePAR : (txConsumePAR D now st uri).1.parent = st.parent := by
  dsimp only [txConsumePAR]
  split
  · rfl
  · split <;> rfl

lemma parent_txSavePAR (par : Option PushedAuthRequest) :
    (txSavePAR D now st par).1.parent = st.parent := by
  cases par with
  | none => rfl
  | some par =>
    dsimp only [txSavePAR]
    split
    · rfl
    · split_ifs <;> rfl

end Staged

lemma savePAR_fresh {s : PARStore} {par : PushedAuthRequest}
    (h : s.m.lookup (D.hashKey par.uri) = none) (ρ : KeyOrder) (now : Time) :
    savePAR D ρ now s (some par) =
      ((s.maybeGC (parReclaimable now) ρ).put (D.hashKey par.uri)
        (par.presentedAs (D.hashKey par.uri)), .ok ()) := by
  have hkeep : deleteReclaimableKey now s (D.hashKey par.uri) = s := by
    unfold deleteReclaimableKey
    rw [h]
  dsimp only [savePAR]
  rw [hkeep, lookup_maybeGC_none _ ρ h]

lemma txSavePAR_fresh {st : PARStaging} {par : PushedAuthRequest}
    (h : st.lookup (D.hashKey par.uri) = none) (now : Time) :
    txSavePAR D now st (some par) =
      (st.add (D.hashKey par.uri) (par.presentedAs (D.hashKey par.uri)), .ok ()) := by
  rw [RecordStaging.lookup, stagedLookup_eq, Option.or_eq_none_iff, Option.or_eq_none_iff] at h
  dsimp only [txSavePAR]
  rw [h.2.1, h.2.2]
  rfl

end PushedRequests

/-! ### Where rows come from

A row of a later view continues a row of the earlier one, or was just saved. -/

variable {key₀ : String}

section Origins
variable {V : Type} (idOf : V → String)

/-- Every row of `after` carries the id of the row it was before, or is stored
under the new key. -/
def Arises (N : String → Prop) (before after : String → Option V) : Prop :=
  ∀ key rec, after key = some rec →
    (∃ rec₀, before key = some rec₀ ∧ idOf rec = idOf rec₀) ∨ idOf rec = key ∧ N key

variable {idOf} {N : String → Prop} {before after : String → Option V}

lemma Arises.of_sub (h : ∀ key rec, after key = some rec → before key = some rec) :
    Arises idOf N before after :=
  fun key rec hrec => .inl ⟨rec, h key rec hrec, rfl⟩

lemma Arises.refl (before : String → Option V) : Arises idOf N before before :=
  .of_sub fun _ _ h => h

lemma Arises.imp {N' : String → Prop} (h : Arises idOf N before after)
    (himp : ∀ key, N key → N' key) : Arises idOf N' before after :=
  fun key rec hrec => (h key rec hrec).imp_right fun hnew => ⟨hnew.1, himp key hnew.2⟩

/-- Rows that arise from keyed ones are keyed. -/
lemma Arises.keyed (h : Arises idOf N before after) (hk : Keyed idOf before) :
    Keyed idOf after := by
  intro key rec hrec
  rcases h key rec hrec with ⟨rec₀, hbefore, hid⟩ | ⟨hid, _⟩
  · exact hid.trans (hk key rec₀ hbefore)
  · exact hid

lemma Arises.of_write {f : V → V} (hf : ∀ rec, idOf (f rec) = idOf rec)
    (h : ∀ key, after key = if key = key₀ then (before key).map f else before key) :
    Arises idOf N before after := by
  intro key rec hrec
  rw [h key] at hrec
  split_ifs at hrec
  · obtain ⟨rec₀, hbefore, rfl⟩ := Option.map_eq_some_iff.mp hrec
    exact .inl ⟨rec₀, hbefore, hf rec₀⟩
  · exact .inl ⟨rec, hrec, rfl⟩

lemma Arises.of_put {v : V} {old : String → Option V} (hv : idOf v = key₀)
    (hold : ∀ key rec, old key = some rec → before key = some rec)
    (h : ∀ key, after key = if key = key₀ then some v else old key) :
    Arises idOf (· = key₀) before after := by
  intro key rec hrec
  rw [h key] at hrec
  split_ifs at hrec with hk
  · cases hrec
    exact .inr ⟨hv.trans hk.symm, hk⟩
  · exact .inl ⟨rec, hold key rec hrec, rfl⟩

lemma Arises.of_add {v : V} (hv : idOf v = key₀) (st : RecordStaging V) :
    Arises idOf (· = key₀) st.lookup (st.add key₀ v).lookup := by
  intro key rec hrec
  simp only [RecordStaging.lookup, RecordStaging.add, stagedLookup_eq, lookup_insert_ite] at hrec ⊢
  cases hu : st.updated.lookup key with
  | some r => exact .inl ⟨rec, by simpa [hu] using hrec, rfl⟩
  | none =>
    rw [hu, Option.none_or] at hrec
    split_ifs at hrec with hk
    · cases hrec
      exact .inr ⟨hv.trans hk.symm, hk⟩
    · exact .inl ⟨rec, by simpa using hrec, rfl⟩

end Origins

section Saves
variable (D : KeyDigest)

lemma arises_saveCode (ρ : KeyOrder) (now : Time) (s : AuthCodeStore)
    (code : AuthorizationCode) : Arises AuthorizationCode.id (· = D.hashKey code.id) s.m.lookup
      (saveCode D ρ now s (some code)).1.m.lookup := by
  dsimp only [saveCode]
  cases (s.maybeGC (staleCode now) ρ).m.lookup (D.hashKey code.id) with
  | some _ => exact .of_sub fun _ _ => lookup_of_maybeGC _ ρ s
  | none =>
    exact .of_put rfl (fun _ _ => lookup_of_maybeGC _ ρ s) fun _ => lookup_insert_ite ..

lemma arises_txSaveCode (st : AuthCodeStaging) (code : AuthorizationCode) :
    Arises AuthorizationCode.id (· = D.hashKey code.id) st.lookup
      (txSaveCode D st (some code)).1.lookup := by
  dsimp only [txSaveCode]
  split
  · exact .refl _
  · split
    · exact .refl _
    · exact .of_add (by rfl) st

lemma lookup_of_deleteReclaimableKey {now : Time} {s : PARStore}
    {key₀ key : String} {rec : PushedAuthRequest}
    (h : (deleteReclaimableKey now s key₀).m.lookup key = some rec) :
    s.m.lookup key = some rec := by
  unfold deleteReclaimableKey at h
  cases hrow : s.m.lookup key₀ with
  | none => simpa [hrow] using h
  | some rec₀ =>
    rw [hrow] at h
    dsimp only at h
    split_ifs at h
    · rw [lookup_erase_ite] at h
      split_ifs at h
      exact h
    · exact h

lemma arises_savePAR (ρ : KeyOrder) (now : Time) (s : PARStore)
    (par : PushedAuthRequest) : Arises PushedAuthRequest.uri (· = D.hashKey par.uri) s.m.lookup
      (savePAR D ρ now s (some par)).1.m.lookup := by
  have hold : ∀ key rec, ((deleteReclaimableKey now s (D.hashKey par.uri)).maybeGC
      (parReclaimable now) ρ).m.lookup key = some rec → s.m.lookup key = some rec :=
    fun _ _ h => lookup_of_deleteReclaimableKey (lookup_of_maybeGC _ ρ _ h)
  dsimp only [savePAR]
  cases ((deleteReclaimableKey now s (D.hashKey par.uri)).maybeGC
      (parReclaimable now) ρ).m.lookup (D.hashKey par.uri) with
  | some _ => exact .of_sub hold
  | none => exact .of_put rfl hold fun _ => lookup_insert_ite ..

lemma arises_txSavePAR (now : Time) (st : PARStaging) (par : PushedAuthRequest) :
    Arises PushedAuthRequest.uri (· = D.hashKey par.uri) st.lookup
      (txSavePAR D now st (some par)).1.lookup := by
  dsimp only [txSavePAR]
  split
  · exact .refl _
  · split_ifs
    · exact .refl _
    · exact .of_add (by rfl) st

end Saves

end OidcProvider.SingleUseStores
