import OidcProvider.SecondaryIndexes
import OidcProvider.StoreRecords

/-!
# The in-memory session store

`inmem/sessionstore.go`: a map of sessions by id, listed by chooser group and by
subject. A session past its expiry is treated as absent by every call; a `Save`
sweeps such sessions now and then, and a `Delete` reclaims one on the way. Both
indexes list exactly the stored sessions, so that a range over a group never
meets an id without a session.
-/
namespace OidcProvider.SessionStore
open FiniteMaps SecondaryIndexes StoreRecords

structure Session where
  id : String
  subject : String
  authTime : Time
  amr : List String
  acr : String
  chooserGroupID : String
  expiresAt : Time
  createdAt : Time
  updatedAt : Time
  deriving DecidableEq

/-- The map with its two indexes, and that they list what it holds. -/
structure Sessions where
  m : StringMap Session
  byGroup : Index
  bySubject : Index
  savesSinceGC : UInt32
  keyed : ∀ key rec, m.lookup key = some rec → rec.id = key
  groups : Follows Session.chooserGroupID m byGroup
  subjects : Follows Session.subject m bySubject

namespace Sessions

def empty : Sessions where
  m := ∅
  byGroup := ∅
  bySubject := ∅
  savesSinceGC := 0
  keyed := nofun
  groups := follows_empty
  subjects := follows_empty

/-- The session with its entries is gone; nothing happens where there is none. -/
def dropLocked (s : Sessions) (id : String) : Sessions :=
  match h : s.m.lookup id with
  | none => s
  | some rec =>
    { m := s.m.erase id
      byGroup := s.byGroup.remove rec.chooserGroupID id
      bySubject := s.bySubject.remove rec.subject id
      savesSinceGC := s.savesSinceGC
      keyed := fun key row hrow => by
        rw [lookup_erase_ite] at hrow
        split_ifs at hrow
        exact s.keyed key row hrow
      groups := s.groups.erase h
      subjects := s.subjects.erase h }

lemma lookup_dropLocked (s : Sessions) (id key : String) :
    (s.dropLocked id).m.lookup key = if key = id then none else s.m.lookup key := by
  unfold dropLocked
  split
  · rename_i h
    split_ifs with hk
    · rw [hk, h]
    · rfl
  · exact lookup_erase_ite s.m id key

/-- The body of the sweep. -/
def gcVisit (now : Time) (s : Sessions) (id : String) : Sessions :=
  match s.m.lookup id with
  | none => s
  | some rec => if isExpiredStrict rec.expiresAt now then s.dropLocked id else s

def gcLocked (ρ : KeyOrder) (now : Time) (s : Sessions) : Sessions :=
  (ρ.visit s.m.keys).foldl (gcVisit now) s

/-- Counts a `Save`, and sweeps when it is due. -/
def maybeGCLocked (ρ : KeyOrder) (now : Time) (s : Sessions) : Sessions :=
  let due := Sweeper.due s.savesSinceGC s.m.keys.card
  let counted := { s with savesSinceGC := due.1 }
  if due.2 then gcLocked ρ now counted else counted

def enter (s : Sessions) (sess : Session) (h : s.m.lookup sess.id = none) : Sessions where
  m := s.m.insert sess.id sess
  byGroup := s.byGroup.enter sess.chooserGroupID sess.id
  bySubject := s.bySubject.enter sess.subject sess.id
  savesSinceGC := s.savesSinceGC
  keyed key row hrow := by
    rw [lookup_insert_ite] at hrow
    split_ifs at hrow with hk
    · cases hrow
      exact hk.symm
    · exact s.keyed key row hrow
  groups := s.groups.insert h sess
  subjects := s.subjects.insert h sess

/-- `Save`: a session under the same id leaves its old entries first. -/
def save (ρ : KeyOrder) (now : Time) (s : Sessions) (sess : Session) : Sessions :=
  ((maybeGCLocked ρ now s).dropLocked sess.id).enter sess
    ((lookup_dropLocked _ _ _).trans (if_pos rfl))

def find (s : Sessions) (now : Time) (id : String) : Fallible Session :=
  match s.m.lookup id with
  | none => .error .notFound
  | some rec => if isExpiredStrict rec.expiresAt now then .error .notFound else .ok rec

/-- A stored session gets another expiry; its id, group and subject stay. -/
def refresh (s : Sessions) (rec : Session) (h : s.m.lookup rec.id = some rec)
    (expiresAt updatedAt : Time) : Sessions :=
  have hsame (attr : Session → String)
      (hattr : attr { rec with expiresAt, updatedAt } = attr rec) (key : String) :
      ((s.m.insert rec.id { rec with expiresAt, updatedAt }).lookup key).map attr =
        (s.m.lookup key).map attr := by
    rw [lookup_insert_ite]
    split_ifs with hk
    · rw [hk, h, Option.map_some, Option.map_some, hattr]
    · rfl
  { m := s.m.insert rec.id { rec with expiresAt, updatedAt }
    byGroup := s.byGroup
    bySubject := s.bySubject
    savesSinceGC := s.savesSinceGC
    keyed := fun key row hrow => by
      rw [lookup_insert_ite] at hrow
      split_ifs at hrow with hk
      · cases hrow
        exact hk.symm
      · exact s.keyed key row hrow
    groups := s.groups.congr (hsame _ rfl)
    subjects := s.subjects.congr (hsame _ rfl) }

/-- `Touch`: an expired session cannot be revived. -/
def touch (s : Sessions) (now : Time) (id : String) (expiresAt updatedAt : Time) :
    Sessions × StoreReply :=
  match h : s.m.lookup id with
  | none => (s, .error .notFound)
  | some rec =>
    if isExpiredStrict rec.expiresAt now then (s, .error .notFound)
    else (s.refresh rec (s.keyed id rec h ▸ h) expiresAt updatedAt, .ok ())

/-- An expired session is reclaimed, and reported as absent. -/
def delete (s : Sessions) (now : Time) (id : String) : Sessions × StoreReply :=
  match s.m.lookup id with
  | none => (s, .error .notFound)
  | some rec =>
    (s.dropLocked id, if isExpiredStrict rec.expiresAt now then .error .notFound else .ok ())

/-- `ListByChooserGroup`: the live sessions of the group. -/
def listByChooserGroup (ρ : KeyOrder) (now : Time) (s : Sessions) (groupID : String) :
    List Session :=
  (ρ.visit (s.byGroup.ids groupID)).filterMap fun id =>
    (s.m.lookup id).filter fun rec => !isExpiredStrict rec.expiresAt now

/-! ### What the calls leave -/

section
variable (s : Sessions) {now : Time} (ρ : KeyOrder)

lemma lookup_gcVisit (now : Time) (id key : String) :
    (gcVisit now s id).m.lookup key = s.m.lookup key ∨
      (gcVisit now s id).m.lookup key = none ∧
        ∃ rec, s.m.lookup key = some rec ∧ isExpiredStrict rec.expiresAt now = true := by
  unfold gcVisit
  cases h : s.m.lookup id with
  | none => exact .inl rfl
  | some rec =>
    dsimp only
    split_ifs with hexpired
    · rw [lookup_dropLocked]
      split_ifs with hk
      · subst hk
        exact .inr ⟨rfl, rec, h, hexpired⟩
      · exact .inl rfl
    · exact .inl rfl

lemma lookup_gcVisits (now : Time) (ids : List String) (key : String) :
    (ids.foldl (gcVisit now) s).m.lookup key = s.m.lookup key ∨
      (ids.foldl (gcVisit now) s).m.lookup key = none ∧
        ∃ rec, s.m.lookup key = some rec ∧ isExpiredStrict rec.expiresAt now = true := by
  induction ids generalizing s with
  | nil => exact .inl rfl
  | cons id ids ih =>
    rcases lookup_gcVisit s now id key with hkept | ⟨hnone, hrec⟩
    · rw [← hkept]
      exact ih (gcVisit now s id)
    · rcases ih (gcVisit now s id) with hsame | ⟨_, rec, hrec', _⟩
      · exact .inr ⟨hsame.trans hnone, hrec⟩
      · rw [hnone] at hrec'
        cases hrec'

/-- A sweep takes expired sessions only. -/
lemma lookup_maybeGCLocked (now : Time) (key : String) :
    (maybeGCLocked ρ now s).m.lookup key = s.m.lookup key ∨
      (maybeGCLocked ρ now s).m.lookup key = none ∧
        ∃ rec, s.m.lookup key = some rec ∧ isExpiredStrict rec.expiresAt now = true := by
  unfold maybeGCLocked
  dsimp only
  split_ifs
  · exact lookup_gcVisits _ now _ key
  · exact .inl rfl

lemma lookup_save_self (now : Time) (sess : Session) :
    (save ρ now s sess).m.lookup sess.id = some sess :=
  (lookup_insert_ite _ _ _ _).trans (if_pos rfl)

lemma lookup_save_ne (now : Time) (sess : Session) {key : String} (hk : key ≠ sess.id) :
    (save ρ now s sess).m.lookup key = (maybeGCLocked ρ now s).m.lookup key := by
  refine (lookup_insert_ite _ _ _ _).trans ((if_neg hk).trans ?_)
  rw [lookup_dropLocked, if_neg hk]

lemma lookup_save {ρ : KeyOrder} {sess : Session} {key : String} {rec : Session}
    (h : (save ρ now s sess).m.lookup key = some rec) :
    key = sess.id ∧ rec = sess ∨ key ≠ sess.id ∧ s.m.lookup key = some rec := by
  by_cases hk : key = sess.id
  · subst hk
    rw [lookup_save_self] at h
    exact .inl ⟨rfl, (Option.some.inj h).symm⟩
  · rw [lookup_save_ne s ρ now sess hk] at h
    rcases lookup_maybeGCLocked s ρ now key with hkept | ⟨hnone, _⟩
    · exact .inr ⟨hk, hkept ▸ h⟩
    · rw [hnone] at h
      cases h

lemma find_eq_ok {id : String} {rec : Session} :
    s.find now id = .ok rec ↔
      s.m.lookup id = some rec ∧ isExpiredStrict rec.expiresAt now = false := by
  unfold find
  cases h : s.m.lookup id with
  | none => simp
  | some row =>
    dsimp only
    constructor
    · intro hfind
      split_ifs at hfind with hexpired
      cases hfind
      exact ⟨rfl, by simpa using hexpired⟩
    · rintro ⟨hrow, hlive⟩
      cases hrow
      rw [if_neg (by rw [hlive]; exact Bool.false_ne_true)]

/-- An absent and an expired session look the same. -/
lemma find_eq_error {id : String} {e : StoreError} (h : s.find now id = .error e) :
    e = .notFound := by
  unfold find at h
  cases hrec : s.m.lookup id with
  | none =>
    rw [hrec] at h
    cases h
    rfl
  | some row =>
    rw [hrec] at h
    dsimp only at h
    split_ifs at h
    cases h
    rfl

lemma touch_cases (now : Time) (id : String) (expiresAt updatedAt : Time) :
    s.touch now id expiresAt updatedAt = (s, .error .notFound) ∨
      ∃ rec, s.m.lookup id = some rec ∧ isExpiredStrict rec.expiresAt now = false ∧
        (s.touch now id expiresAt updatedAt).2 = .ok () ∧
        ∀ key, (s.touch now id expiresAt updatedAt).1.m.lookup key =
          if key = id then some { rec with expiresAt, updatedAt } else s.m.lookup key := by
  unfold touch
  split
  · exact .inl rfl
  · rename_i rec h
    split_ifs with hexpired
    · exact .inl rfl
    · have hid := s.keyed id rec h
      refine .inr ⟨rec, h, by simpa using hexpired, rfl, fun key => ?_⟩
      exact (lookup_insert_ite _ _ _ _).trans (by rw [hid])

lemma lookup_delete (now : Time) (id key : String) :
    (s.delete now id).1.m.lookup key = if key = id then none else s.m.lookup key := by
  unfold delete
  cases h : s.m.lookup id with
  | none =>
    split_ifs with hk
    · rw [hk]
      exact h
    · rfl
  | some rec => exact lookup_dropLocked s id key

lemma mem_listByChooserGroup (now : Time) (groupID : String) (rec : Session) :
    rec ∈ s.listByChooserGroup ρ now groupID ↔
      s.m.lookup rec.id = some rec ∧ rec.chooserGroupID = groupID ∧
        isExpiredStrict rec.expiresAt now = false := by
  unfold listByChooserGroup
  simp only [List.mem_filterMap, ρ.mem_visit, Option.filter_eq_some_iff, Bool.not_eq_true']
  constructor
  · rintro ⟨id, hid, hrec, hlive⟩
    obtain ⟨row, hrow, hgroup⟩ := (s.groups id groupID).mp hid
    cases hrow.symm.trans hrec
    exact ⟨(s.keyed id _ hrec).symm ▸ hrec, hgroup, hlive⟩
  · rintro ⟨hrec, hgroup, hlive⟩
    exact ⟨rec.id, (s.groups rec.id groupID).mpr ⟨rec, hrec, hgroup⟩, hrec, hlive⟩

end

end Sessions

end OidcProvider.SessionStore
