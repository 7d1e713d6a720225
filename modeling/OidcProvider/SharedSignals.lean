import OidcProvider.SecondaryIndexes
import OidcProvider.StoreRecords

/-!
# The shared-signals streams and their queue

`inmem/ssf.go`: the streams receivers configure, and the queue of events waiting for
them, under one lock. The queue is listed by stream, and each client owns one stream.
Most calls pass over some of the queued events and change each of them in place or drop
it; such a pass is described by a revision.
-/
namespace OidcProvider.SharedSignals
open FiniteMaps SecondaryIndexes StoreRecords

inductive DeliveryMethod where
  | push
  | poll
  deriving DecidableEq

inductive StreamStatus where
  | enabled
  | paused
  | disabled
  deriving DecidableEq

inductive EventKind where
  | event
  | streamUpdated
  | verification
  deriving DecidableEq

structure Delivery where
  method : DeliveryMethod
  endpointURL : String
  sealedAuthorizationHeader : Option String
  deriving DecidableEq

structure Stream where
  id : String
  clientID : String
  delivery : Delivery
  eventsRequested : List String
  eventsDelivered : List String
  description : String
  status : StreamStatus
  statusReason : String
  createdAt : Time
  updatedAt : Time
  deriving DecidableEq

structure Event where
  jti : String
  streamID : String
  kind : EventKind
  delivery : DeliveryMethod
  held : Bool
  claims : String
  attempts : ℤ
  nextAttemptAt : Time
  expiresAt : Time
  deriving DecidableEq

structure SSFState where
  streams : StringMap Stream
  byClient : StringMap String
  events : StringMap Event
  byStream : Index

def newSSFState : SSFState := ⟨∅, ∅, ∅, ∅⟩

/-! ### Passes over the queue -/

/-- What a pass does to one event: it drops it, or changes it in place. A second visit
changes nothing more. -/
structure Revision where
  revise : Event → Option Event
  keeps : ∀ ev ev', revise ev = some ev' →
    ev'.jti = ev.jti ∧ ev'.streamID = ev.streamID ∧ ev'.kind = ev.kind
  settles : ∀ ev ev', revise ev = some ev' → revise ev' = some ev'

def dropping (p : Event → Bool) : Revision where
  revise ev := if p ev then none else some ev
  keeps ev ev' h := by
    split_ifs at h
    cases h
    exact ⟨rfl, rfl, rfl⟩
  settles ev ev' h := by
    split_ifs at h with hp
    cases h
    exact if_neg hp

/-- The tags the stream's new state gives the event. -/
def realigned (next : Stream) (ev : Event) : Option Event :=
  if ev.kind ≠ .event then some { ev with delivery := next.delivery.method }
  else if next.status = .disabled then none
  else
    some { ev with
      delivery := next.delivery.method
      held := decide (next.status = .paused) }

def realigning (next : Stream) : Revision where
  revise := realigned next
  keeps ev ev' h := by
    unfold realigned at h
    split_ifs at h
    · cases h
      exact ⟨rfl, rfl, rfl⟩
    · cases h
      exact ⟨rfl, rfl, rfl⟩
  settles ev ev' h := by
    unfold realigned at h ⊢
    split_ifs at h with hkind hstatus
    · cases h
      exact if_pos hkind
    · cases h
      rw [if_neg hkind, if_neg hstatus]

def rescheduling (next : Time) (attempts : Option ℤ) : Revision where
  revise ev := some { ev with nextAttemptAt := next, attempts := attempts.getD ev.attempts }
  keeps ev ev' h := by
    cases h
    exact ⟨rfl, rfl, rfl⟩
  settles ev ev' h := by
    cases h
    cases attempts <;> rfl

namespace SSFState

def setEvent (st : SSFState) (ev : Event) : SSFState :=
  { st with
    events := st.events.insert ev.jti ev
    byStream := st.byStream.enter ev.streamID ev.jti }

def deleteEvent (st : SSFState) (jti : String) : SSFState :=
  match st.events.lookup jti with
  | none => st
  | some ev =>
    { st with
      events := st.events.erase jti
      byStream := st.byStream.remove ev.streamID jti }

def visit (r : Revision) (st : SSFState) (jti : String) : SSFState :=
  match st.events.lookup jti with
  | none => st
  | some ev =>
    match r.revise ev with
    | none => st.deleteEvent jti
    | some ev' => { st with events := st.events.insert jti ev' }

def pass (st : SSFState) (r : Revision) (jtis : List String) : SSFState := jtis.foldl (visit r) st

/-! ### The calls -/

section
variable (ρ : KeyOrder) (st : SSFState)

def create : Option Stream → SSFState × StoreReply
  | none => (st, .error (.other "inmem: nil ssf stream"))
  | some s =>
    if (st.streams.lookup s.id).isSome then (st, .error .conflict)
    else if (st.byClient.lookup s.clientID).isSome then (st, .error .conflict)
    else
      ({ st with
          streams := st.streams.insert s.id s
          byClient := st.byClient.insert s.clientID s.id }, .ok ())

def get (id : String) : Fallible Stream :=
  match st.streams.lookup id with
  | none => .error .notFound
  | some s => .ok s

/-- A control event takes the place of the one of its kind. -/
def putEvent (ev : Event) : SSFState :=
  if ev.kind ≠ .event then
    (st.pass (dropping fun queued => decide (queued.kind = ev.kind))
      (ρ.visit (st.byStream.ids ev.streamID))).setEvent ev
  else st.setEvent ev

/-- The stream is stored, and its queued events follow it. -/
def replaceStream (next : Stream) : SSFState :=
  { st with streams := st.streams.insert next.id next }.pass (realigning next)
    (ρ.visit (st.byStream.ids next.id))

def update (s : Option Stream) (notice : Option Event) : SSFState × StoreReply :=
  match s with
  | none => (st, .error (.other "inmem: nil ssf stream"))
  | some s =>
    match st.streams.lookup s.id with
    | none => (st, .error .notFound)
    | some cur =>
      let moved := st.replaceStream ρ { s with clientID := cur.clientID }
      match notice with
      | none => (moved, .ok ())
      | some ev =>
        if (st.events.lookup ev.jti).isSome then (st, .error .alreadyExists)
        else (moved.putEvent ρ ev, .ok ())

def delete (id : String) : SSFState × StoreReply :=
  match st.streams.lookup id with
  | none => (st, .error .notFound)
  | some rec =>
    ({ st with
        streams := st.streams.erase id
        byClient := st.byClient.erase rec.clientID }.pass (dropping fun _ => true)
      (ρ.visit (st.byStream.ids id)), .ok ())

end

end SSFState

def ssfEventMatchesStream (ev : Event) (s : Stream) : Bool :=
  if ev.delivery ≠ s.delivery.method then false
  else if ev.kind ≠ .event then true
  else decide (s.status ≠ .disabled) && decide (ev.held = decide (s.status = .paused))

def byDueOrder (a b : Event) : Bool :=
  decide (a.nextAttemptAt < b.nextAttemptAt) ||
    decide (a.nextAttemptAt = b.nextAttemptAt) && decide (a.jti ≤ b.jti)

namespace SSFState
variable (ρ : KeyOrder) (st : SSFState)

def enqueue : Option Event → SSFState × StoreReply
  | none => (st, .error (.other "inmem: nil ssf event"))
  | some ev =>
    if (st.events.lookup ev.jti).isSome then (st, .error .alreadyExists)
    else if (st.streams.lookup ev.streamID).any fun s => !ssfEventMatchesStream ev s then
      (st, .error .conflict)
    else (st.putEvent ρ ev, .ok ())

/-- The events queued for the stream, in the order a range visits them. -/
def queued (streamID : String) : List Event :=
  (ρ.visit (st.byStream.ids streamID)).filterMap st.events.lookup

def dueOf (now : Time) (perStream : ℕ) (streamID : String) : List Event :=
  let due := (st.queued ρ streamID).filter fun ev =>
    decide (ev.delivery = .push) && !ev.held && decide (ev.nextAttemptAt ≤ now)
  (due.insertionSort fun a b => byDueOrder a b = true).take perStream

def candidates (now : Time) (n perStream : ℕ) : List Event :=
  let due := (ρ.visit st.byStream.keys).flatMap (st.dueOf ρ now perStream)
  (due.insertionSort fun a b => byDueOrder a b = true).take n

def claimDue (now : Time) (n perStream : ℤ) (lease : ℤ) : SSFState × Fallible (List Event) :=
  if n ≤ 0 ∨ perStream ≤ 0 then
    (st, .error (.other "inmem: ssf claim sizes must be positive"))
  else
    let claimed := st.candidates ρ now n.toNat perStream.toNat
    (st.pass (rescheduling (now + lease) none) (claimed.map Event.jti),
      .ok (claimed.map fun ev => { ev with nextAttemptAt := now + lease }))

def reschedule (jti : String) (next : Time) (attempts : ℤ) : SSFState × StoreReply :=
  match st.events.lookup jti with
  | none => (st, .error .notFound)
  | some _ => (st.visit (rescheduling next (some attempts)) jti, .ok ())

def ack (streamID : String) (jtis : List String) : SSFState :=
  st.pass (dropping fun ev => decide (ev.streamID = streamID)) jtis

def pending (streamID : String) (n : ℤ) : Fallible (List Event × Bool) :=
  if n ≤ 0 then .error (.other "inmem: ssf pending size must be positive")
  else
    let polled := ((st.queued ρ streamID).filter fun ev =>
      decide (ev.delivery = .poll) && !ev.held).insertionSort fun a b => a.jti ≤ b.jti
    .ok (polled.take n.toNat, decide (n.toNat < polled.length))

/-- The second result counts the events dropped. -/
def deleteExpired (now : Time) : SSFState × ℕ :=
  let expired (ev : Event) : Bool := decide (ev.expiresAt ≤ now)
  (st.pass (dropping expired) (ρ.visit st.events.keys),
    ((ρ.visit st.events.keys).filter fun jti => (st.events.lookup jti).any expired).length)

end SSFState

/-! ### What a pass leaves -/

namespace SSFState
variable {st : SSFState}

/-- Every event is stored under its identifier and listed under its stream. -/
structure Indexed (st : SSFState) : Prop where
  keyed : ∀ jti ev, st.events.lookup jti = some ev → ev.jti = jti
  listed : Follows Event.streamID st.events st.byStream

lemma lookup_deleteEvent (st : SSFState) (jti key : String) :
    (st.deleteEvent jti).events.lookup key = if key = jti then none else st.events.lookup key := by
  unfold deleteEvent
  cases h : st.events.lookup jti with
  | none =>
    split_ifs with hkey
    · rw [hkey, h]
    · rfl
  | some ev => exact lookup_erase_ite st.events jti key

lemma streams_deleteEvent (st : SSFState) (jti : String) :
    (st.deleteEvent jti).streams = st.streams ∧ (st.deleteEvent jti).byClient = st.byClient := by
  unfold deleteEvent
  cases st.events.lookup jti <;> exact ⟨rfl, rfl⟩

lemma Indexed.deleteEvent (h : Indexed st) (jti : String) : Indexed (st.deleteEvent jti) where
  keyed key ev hev := by
    rw [lookup_deleteEvent] at hev
    split_ifs at hev
    exact h.keyed key ev hev
  listed := by
    unfold SSFState.deleteEvent
    cases hev : st.events.lookup jti with
    | none => exact h.listed
    | some ev => exact h.listed.erase hev

lemma Indexed.setEvent (h : Indexed st) {ev : Event} (hfresh : st.events.lookup ev.jti = none) :
    Indexed (st.setEvent ev) where
  keyed key ev' hev := by
    rw [SSFState.setEvent, lookup_insert_ite] at hev
    split_ifs at hev with hkey
    · cases hev
      exact hkey.symm
    · exact h.keyed key ev' hev
  listed := h.listed.insert hfresh ev

lemma lookup_visit (st : SSFState) (r : Revision) (jti key : String) :
    (st.visit r jti).events.lookup key =
      if key = jti then (st.events.lookup jti).bind r.revise else st.events.lookup key := by
  unfold visit
  cases hev : st.events.lookup jti with
  | none =>
    split_ifs with hkey
    · rw [hkey, hev, Option.bind_none]
    · rfl
  | some ev =>
    dsimp only
    rw [Option.bind_some]
    cases hrev : r.revise ev with
    | none => exact lookup_deleteEvent st jti key
    | some ev' => exact lookup_insert_ite st.events jti key ev'

lemma streams_visit (st : SSFState) (r : Revision) (jti : String) :
    (st.visit r jti).streams = st.streams ∧ (st.visit r jti).byClient = st.byClient := by
  unfold visit
  split
  · exact ⟨rfl, rfl⟩
  · split
    · exact streams_deleteEvent st jti
    · exact ⟨rfl, rfl⟩

lemma Indexed.visit (h : Indexed st) (r : Revision) (jti : String) :
    Indexed (st.visit r jti) := by
  unfold SSFState.visit
  cases hev : st.events.lookup jti with
  | none => exact h
  | some ev =>
    dsimp only
    cases hrev : r.revise ev with
    | none => exact h.deleteEvent jti
    | some ev' =>
      obtain ⟨hjti, hstream, _⟩ := r.keeps ev ev' hrev
      refine ⟨?_, h.listed.congr fun key => ?_⟩
      · intro key row hrow
        rw [lookup_insert_ite] at hrow
        split_ifs at hrow with hkey
        · cases hrow
          rw [hkey, hjti, h.keyed jti ev hev]
        · exact h.keyed key row hrow
      · rw [lookup_insert_ite]
        split_ifs with hkey
        · rw [hkey, hev, Option.map_some, Option.map_some, hstream]
        · rfl

lemma lookup_pass (r : Revision) (jtis : List String) (st : SSFState) (key : String) :
    (st.pass r jtis).events.lookup key =
      if key ∈ jtis then (st.events.lookup key).bind r.revise else st.events.lookup key := by
  induction jtis generalizing st with
  | nil => rfl
  | cons jti jtis ih =>
    refine (ih (st.visit r jti)).trans ?_
    rw [lookup_visit]
    by_cases hkey : key = jti
    · subst hkey
      rw [if_pos rfl, if_pos List.mem_cons_self]
      split_ifs
      · -- A second visit finds the event settled.
        cases hev : st.events.lookup key with
        | none => rfl
        | some ev =>
          rw [Option.bind_some]
          cases hrev : r.revise ev with
          | none => rfl
          | some ev' => exact r.settles ev ev' hrev
      · rfl
    · rw [if_neg hkey]
      simp only [List.mem_cons, hkey, false_or]

lemma streams_pass (r : Revision) (jtis : List String) (st : SSFState) :
    (st.pass r jtis).streams = st.streams ∧ (st.pass r jtis).byClient = st.byClient := by
  induction jtis generalizing st with
  | nil => exact ⟨rfl, rfl⟩
  | cons jti jtis ih =>
    obtain ⟨hstreams, hclients⟩ := ih (st.visit r jti)
    obtain ⟨hstreams', hclients'⟩ := streams_visit st r jti
    exact ⟨hstreams.trans hstreams', hclients.trans hclients'⟩

lemma Indexed.pass (h : Indexed st) (r : Revision) (jtis : List String) :
    Indexed (st.pass r jtis) := by
  induction jtis generalizing st with
  | nil => exact h
  | cons jti jtis ih => exact ih (h.visit r jti)

lemma mem_pass {r : Revision} {jtis : List String} {key : String} {ev' : Event}
    (h : (st.pass r jtis).events.lookup key = some ev') :
    ∃ ev, st.events.lookup key = some ev ∧ ev'.streamID = ev.streamID ∧ ev'.kind = ev.kind ∧
      (key ∈ jtis → r.revise ev = some ev') ∧ (key ∉ jtis → ev' = ev) := by
  rw [lookup_pass] at h
  split_ifs at h with hkey
  · obtain ⟨ev, hev, hrev⟩ := Option.bind_eq_some_iff.mp h
    obtain ⟨_, hstream, hkind⟩ := r.keeps ev ev' hrev
    exact ⟨ev, hev, hstream, hkind, fun _ => hrev, fun hn => absurd hkey hn⟩
  · exact ⟨ev', h, rfl, rfl, fun hk => absurd hk hkey, fun _ => rfl⟩

/-! ### Consistency -/

structure Consistent (st : SSFState) : Prop where
  byStream : ∀ streamID jti, jti ∈ st.byStream.ids streamID ↔
    ∃ ev, st.events.lookup jti = some ev ∧ ev.streamID = streamID
  byClient : ∀ clientID id, st.byClient.lookup clientID = some id ↔
    ∃ s, st.streams.lookup id = some s ∧ s.clientID = clientID
  delivery : ∀ jti ev s, st.events.lookup jti = some ev →
    st.streams.lookup ev.streamID = some s → ev.delivery = s.delivery.method
  disabled : ∀ jti ev s, st.events.lookup jti = some ev →
    st.streams.lookup ev.streamID = some s → ev.kind = .event → s.status ≠ .disabled
  held : ∀ jti ev s, st.events.lookup jti = some ev →
    st.streams.lookup ev.streamID = some s → ev.kind = .event →
    (ev.held = true ↔ s.status = .paused)
  single : ∀ jti jti' ev ev', st.events.lookup jti = some ev → st.events.lookup jti' = some ev' →
    ev.streamID = ev'.streamID → ev.kind = ev'.kind → ev.kind ≠ .event → jti = jti'

/-- The stream is there, and the event carries the tags its state gives. -/
def Tagged (streams : StringMap Stream) (ev : Event) : Prop :=
  ∃ s, streams.lookup ev.streamID = some s ∧ ssfEventMatchesStream ev s = true

def SingleControls (st : SSFState) : Prop :=
  ∀ jti jti' ev ev', st.events.lookup jti = some ev → st.events.lookup jti' = some ev' →
    ev.streamID = ev'.streamID → ev.kind = ev'.kind → ev.kind ≠ .event → jti = jti'

/-- What every call keeps. No event is queued for a stream that is not there. -/
structure Invariant (st : SSFState) : Prop where
  indexed : Indexed st
  named : ∀ id s, st.streams.lookup id = some s → s.id = id
  clients : ∀ clientID id, st.byClient.lookup clientID = some id ↔
    ∃ s, st.streams.lookup id = some s ∧ s.clientID = clientID
  tagged : ∀ jti ev, st.events.lookup jti = some ev → Tagged st.streams ev
  single : SingleControls st

end SSFState

lemma ssfEventMatchesStream_iff (ev : Event) (s : Stream) :
    ssfEventMatchesStream ev s = true ↔
      ev.delivery = s.delivery.method ∧
        (ev.kind = .event → s.status ≠ .disabled ∧ (ev.held = true ↔ s.status = .paused)) := by
  unfold ssfEventMatchesStream
  by_cases hdelivery : ev.delivery = s.delivery.method
  · by_cases hkind : ev.kind = .event
    · cases hheld : ev.held <;> by_cases hp : s.status = .paused <;> simp [hdelivery, hkind, hp]
    · simp [hdelivery, hkind]
  · simp [hdelivery]

lemma matches_realigned {next : Stream} {ev ev' : Event} (h : realigned next ev = some ev') :
    ssfEventMatchesStream ev' next = true := by
  rw [ssfEventMatchesStream_iff]
  unfold realigned at h
  split_ifs at h with hkind hstatus
  · cases h
    exact ⟨rfl, fun hevent => absurd hevent hkind⟩
  · cases h
    exact ⟨rfl, fun _ => ⟨hstatus, by simp⟩⟩

namespace SSFState
variable {st : SSFState}

lemma Invariant.consistent (h : Invariant st) : Consistent st where
  byStream streamID jti := h.indexed.listed jti streamID
  byClient := h.clients
  delivery jti ev s hev hs := by
    obtain ⟨s', hs', hmatches⟩ := h.tagged jti ev hev
    cases hs.symm.trans hs'
    exact ((ssfEventMatchesStream_iff ev s).mp hmatches).1
  disabled jti ev s hev hs hkind := by
    obtain ⟨s', hs', hmatches⟩ := h.tagged jti ev hev
    cases hs.symm.trans hs'
    exact (((ssfEventMatchesStream_iff ev s).mp hmatches).2 hkind).1
  held jti ev s hev hs hkind := by
    obtain ⟨s', hs', hmatches⟩ := h.tagged jti ev hev
    cases hs.symm.trans hs'
    exact (((ssfEventMatchesStream_iff ev s).mp hmatches).2 hkind).2
  single := h.single

lemma invariant_new : Invariant newSSFState where
  indexed := ⟨(fun _ _ h => nomatch h), follows_empty⟩
  named := fun _ _ h => nomatch h
  clients clientID id := by
    constructor
    · exact fun h => nomatch h
    · rintro ⟨_, h, _⟩
      cases h
  tagged := fun _ _ h => nomatch h
  single := fun _ _ _ _ h => nomatch h

lemma SingleControls.pass (h : SingleControls st) (r : Revision) (jtis : List String) :
    SingleControls (st.pass r jtis) := by
  intro jti jti' ev ev' hev hev' hstream hkind hcontrol
  obtain ⟨old, hold, hs, hk, _⟩ := mem_pass hev
  obtain ⟨old', hold', hs', hk', _⟩ := mem_pass hev'
  exact h jti jti' old old' hold hold' ((hs.symm.trans hstream).trans hs')
    ((hk.symm.trans hkind).trans hk') (hk ▸ hcontrol)

lemma Invariant.pass (h : Invariant st) (r : Revision) (jtis : List String)
    (hr : ∀ ev ev', r.revise ev = some ev' → Tagged st.streams ev → Tagged st.streams ev') :
    Invariant (st.pass r jtis) := by
  obtain ⟨hstreams, hclients⟩ := streams_pass r jtis st
  refine ⟨h.indexed.pass r jtis, ?_, ?_, ?_, h.single.pass r jtis⟩
  · rw [hstreams]
    exact h.named
  · rw [hstreams, hclients]
    exact h.clients
  · intro jti ev' hev'
    rw [hstreams]
    obtain ⟨ev, hev, _, _, hvisited, hother⟩ := mem_pass hev'
    by_cases hjti : jti ∈ jtis
    · exact hr ev ev' (hvisited hjti) (h.tagged jti ev hev)
    · exact hother hjti ▸ h.tagged jti ev hev

lemma dropping_keeps {p : Event → Bool} {ev ev' : Event}
    (h : (dropping p).revise ev = some ev') : ev' = ev := by
  unfold dropping at h
  dsimp only at h
  split_ifs at h
  exact (Option.some.inj h).symm

lemma Invariant.drop (h : Invariant st) (p : Event → Bool) (jtis : List String) :
    Invariant (st.pass (dropping p) jtis) :=
  h.pass _ _ fun _ _ hrev htagged => dropping_keeps hrev ▸ htagged

lemma Invariant.retime (h : Invariant st) (next : Time) (attempts : Option ℤ)
    (jtis : List String) : Invariant (st.pass (rescheduling next attempts) jtis) := by
  refine h.pass _ _ fun ev ev' hrev htagged => ?_
  cases hrev
  exact htagged

lemma Invariant.setEvent (h : Invariant st) {ev : Event}
    (hfresh : st.events.lookup ev.jti = none) (htagged : Tagged st.streams ev)
    (hsingle : ev.kind ≠ .event → ∀ jti ev', st.events.lookup jti = some ev' →
      ev'.streamID = ev.streamID → ev'.kind ≠ ev.kind) : Invariant (st.setEvent ev) := by
  refine ⟨h.indexed.setEvent hfresh, h.named, h.clients, ?_, ?_⟩
  · intro jti ev' hev'
    rw [SSFState.setEvent, lookup_insert_ite] at hev'
    split_ifs at hev'
    · cases hev'
      exact htagged
    · exact h.tagged jti ev' hev'
  · intro jti jti' a b ha hb hstream hkind hcontrol
    simp only [SSFState.setEvent, lookup_insert_ite] at ha hb
    split_ifs at ha hb with hj hj'
    · rw [hj, hj']
    · cases ha
      exact absurd hkind.symm (hsingle hcontrol jti' b hb hstream.symm)
    · cases hb
      exact absurd hkind (hsingle (hkind ▸ hcontrol) jti a ha hstream)
    · exact h.single jti jti' a b ha hb hstream hkind hcontrol

lemma Invariant.putEvent (h : Invariant st) (ρ : KeyOrder) {ev : Event}
    (hfresh : st.events.lookup ev.jti = none) (htagged : Tagged st.streams ev) :
    Invariant (st.putEvent ρ ev) := by
  unfold SSFState.putEvent
  split_ifs with hkind
  · have hdropped := h.drop (fun queued => decide (queued.kind = ev.kind))
      (ρ.visit (st.byStream.ids ev.streamID))
    refine hdropped.setEvent ?_ ?_ ?_
    · rw [lookup_pass, hfresh]
      simp
    · rw [(streams_pass _ _ st).1]
      exact htagged
    · intro _ jti ev' hev' hstream hsame
      obtain ⟨old, hold, hs, hk, hvisited, _⟩ := mem_pass hev'
      have hlisted : jti ∈ ρ.visit (st.byStream.ids ev.streamID) := by
        rw [ρ.mem_visit, h.indexed.listed]
        exact ⟨old, hold, hs.symm.trans hstream⟩
      have hrev := hvisited hlisted
      unfold dropping at hrev
      dsimp only at hrev
      rw [if_pos (decide_eq_true (hk.symm.trans hsame))] at hrev
      cases hrev
  · exact h.setEvent hfresh htagged fun hcontrol => absurd hcontrol hkind

/-- The streams change at one id, and the queue of that stream is revised. -/
theorem Invariant.requeue (h : Invariant st) (ρ : KeyOrder) (r : Revision) (id : String)
    {streams : StringMap Stream} {byClient : StringMap String}
    (hnamed : ∀ id s, streams.lookup id = some s → s.id = id)
    (hclients : ∀ clientID id, byClient.lookup clientID = some id ↔
      ∃ s, streams.lookup id = some s ∧ s.clientID = clientID)
    (hothers : ∀ id', id' ≠ id → streams.lookup id' = st.streams.lookup id')
    (hown : ∀ ev ev', ev.streamID = id → r.revise ev = some ev' → Tagged streams ev') :
    Invariant ({ st with streams, byClient }.pass r (ρ.visit (st.byStream.ids id))) := by
  have hindexed : Indexed { st with streams, byClient } := ⟨h.indexed.keyed, h.indexed.listed⟩
  have hsingle : SingleControls { st with streams, byClient } := h.single
  obtain ⟨hstreams, hclients'⟩ := streams_pass r (ρ.visit (st.byStream.ids id))
    { st with streams, byClient }
  refine ⟨hindexed.pass _ _, ?_, ?_, fun jti ev' hev' => ?_, hsingle.pass _ _⟩
  · rw [hstreams]
    exact hnamed
  · rw [hstreams, hclients']
    exact hclients
  · rw [hstreams]
    obtain ⟨ev, hev, _, _, hvisited, hother⟩ := mem_pass hev'
    have hjti : jti ∈ ρ.visit (st.byStream.ids id) ↔ ev.streamID = id := by
      rw [ρ.mem_visit, h.indexed.listed]
      refine ⟨?_, fun hid => ⟨ev, hev, hid⟩⟩
      rintro ⟨row, hrow, hid⟩
      cases hrow.symm.trans hev
      exact hid
    by_cases hid : ev.streamID = id
    · exact hown ev ev' hid (hvisited (hjti.mpr hid))
    · obtain rfl := hother (mt hjti.mp hid)
      obtain ⟨s, hs, hmatches⟩ := h.tagged jti ev' hev
      exact ⟨s, (hothers _ hid).trans hs, hmatches⟩

lemma Invariant.replaceStream (h : Invariant st) (ρ : KeyOrder) {cur next : Stream}
    (hcur : st.streams.lookup next.id = some cur) (hclient : next.clientID = cur.clientID) :
    Invariant (st.replaceStream ρ next) := by
  have hlookup (id : String) := lookup_insert_ite st.streams next.id id next
  refine h.requeue ρ (realigning next) next.id ?_ ?_ ?_ ?_
  · intro id s hs
    rw [hlookup] at hs
    split_ifs at hs with hid
    · cases hs
      exact hid.symm
    · exact h.named id s hs
  · intro clientID id
    rw [h.clients, hlookup]
    split_ifs with hid
    · rw [hid, hcur]
      simp [hclient]
    · rfl
  · exact fun id hid => (hlookup id).trans (if_neg hid)
  · intro ev ev' hev hrev
    refine ⟨next, ?_, matches_realigned hrev⟩
    rw [hlookup, if_pos (((realigning next).keeps ev ev' hrev).2.1.trans hev)]

/-! ### The calls keep the invariant -/

lemma Invariant.create (h : Invariant st) (s : Option Stream) : Invariant (st.create s).1 := by
  cases s with
  | none => exact h
  | some s =>
    unfold SSFState.create
    dsimp only
    split_ifs with hid hclient
    · exact h
    · exact h
    · have hid : st.streams.lookup s.id = none := by simpa using hid
      have hclient : st.byClient.lookup s.clientID = none := by simpa using hclient
      refine ⟨⟨h.indexed.keyed, h.indexed.listed⟩, ?_, ?_, ?_, h.single⟩
      · intro id s' hs'
        rw [lookup_insert_ite] at hs'
        split_ifs at hs' with heq
        · cases hs'
          exact heq.symm
        · exact h.named id s' hs'
      · intro clientID id
        rw [lookup_insert_ite, lookup_insert_ite]
        by_cases hc : clientID = s.clientID
        · -- The client had no stream before.
          subst hc
          rw [if_pos rfl]
          constructor
          · intro hsome
            cases hsome
            exact ⟨s, if_pos rfl, rfl⟩
          · rintro ⟨s', hs', hs'c⟩
            split_ifs at hs' with heq
            · rw [heq]
            · have hrow := (h.clients s.clientID id).mpr ⟨s', hs', hs'c⟩
              rw [hclient] at hrow
              cases hrow
        · rw [if_neg hc, h.clients]
          by_cases heq : id = s.id
          · subst heq
            rw [if_pos rfl, hid]
            constructor
            · rintro ⟨_, hs', _⟩
              cases hs'
            · rintro ⟨_, hs', hs'c⟩
              cases hs'
              exact absurd hs'c.symm hc
          · rw [if_neg heq]
      · intro jti ev hev
        obtain ⟨s', hs', hmatches⟩ := h.tagged jti ev hev
        refine ⟨s', ?_, hmatches⟩
        rw [lookup_insert_ite, if_neg]
        · exact hs'
        · intro heq
          rw [heq, hid] at hs'
          cases hs'

lemma Invariant.delete (h : Invariant st) (ρ : KeyOrder) (id : String) :
    Invariant (st.delete ρ id).1 := by
  unfold SSFState.delete
  cases hrec : st.streams.lookup id with
  | none => exact h
  | some rec =>
    dsimp only
    have hlookup (id' : String) := lookup_erase_ite st.streams id id'
    -- The client of the deleted stream owned no other one.
    have howner : st.byClient.lookup rec.clientID = some id :=
      (h.clients rec.clientID id).mpr ⟨rec, hrec, rfl⟩
    refine h.requeue ρ (dropping fun _ => true) id ?_ ?_ ?_ ?_
    · intro id' s hs
      rw [hlookup] at hs
      split_ifs at hs
      exact h.named id' s hs
    · intro clientID id'
      rw [hlookup, lookup_erase_ite]
      by_cases hc : clientID = rec.clientID
      · subst hc
        rw [if_pos rfl]
        constructor
        · exact fun hnone => nomatch hnone
        · rintro ⟨s, hs, hsc⟩
          split_ifs at hs with heq
          have hother := (h.clients rec.clientID id').mpr ⟨s, hs, hsc⟩
          rw [howner] at hother
          cases hother
          exact absurd rfl heq
      · rw [if_neg hc, h.clients]
        by_cases heq : id' = id
        · subst heq
          rw [if_pos rfl, hrec]
          constructor
          · rintro ⟨_, hs, hsc⟩
            cases hs
            exact absurd hsc.symm hc
          · rintro ⟨_, hs, _⟩
            cases hs
        · rw [if_neg heq]
    · exact fun id' hid => (hlookup id').trans (if_neg hid)
    · exact fun ev ev' _ hrev => nomatch hrev

/-- A notice that carries the tags of the updated stream. -/
def NoticeMatches (s : Stream) (notice : Event) : Prop :=
  notice.streamID = s.id ∧ ssfEventMatchesStream notice s = true

instance (s : Stream) (notice : Event) : Decidable (NoticeMatches s notice) :=
  inferInstanceAs (Decidable (_ ∧ _))

lemma Invariant.update (h : Invariant st) (ρ : KeyOrder) {s : Option Stream}
    {notice : Option Event} (hnotice : ∀ s' ∈ s, ∀ ev ∈ notice, NoticeMatches s' ev) :
    Invariant (st.update ρ s notice).1 := by
  cases s with
  | none => exact h
  | some s =>
    unfold SSFState.update
    dsimp only
    cases hcur : st.streams.lookup s.id with
    | none => exact h
    | some cur =>
      obtain ⟨next, hnext⟩ : ∃ next : Stream, next = { s with clientID := cur.clientID } :=
        ⟨_, rfl⟩
      have hid : next.id = s.id := by rw [hnext]
      have hmoved : Invariant (st.replaceStream ρ next) :=
        h.replaceStream ρ (hid ▸ hcur) (by rw [hnext])
      dsimp only
      rw [← hnext]
      cases notice with
      | none => exact hmoved
      | some ev =>
        dsimp only
        split_ifs with hdup
        · exact h
        · obtain ⟨hstream, hmatches⟩ := hnotice s rfl ev rfl
          have hfresh : st.events.lookup ev.jti = none := by simpa using hdup
          refine hmoved.putEvent ρ ?_ ⟨next, ?_, ?_⟩
          · unfold SSFState.replaceStream
            rw [lookup_pass]
            simp [hfresh]
          · unfold SSFState.replaceStream
            rw [(streams_pass _ _ _).1]
            rw [lookup_insert_ite, if_pos (hstream.trans hid.symm)]
          · rw [hnext]
            exact hmatches

lemma Invariant.enqueue (h : Invariant st) (ρ : KeyOrder) {ev : Option Event}
    (hstream : ∀ ev' ∈ ev, (st.streams.lookup ev'.streamID).isSome = true) :
    Invariant (st.enqueue ρ ev).1 := by
  cases ev with
  | none => exact h
  | some ev =>
    unfold SSFState.enqueue
    dsimp only
    split_ifs with hdup hconflict
    · exact h
    · exact h
    · obtain ⟨s, hs⟩ := Option.isSome_iff_exists.mp (hstream ev rfl)
      refine h.putEvent ρ (by simpa using hdup) ⟨s, hs, ?_⟩
      rw [hs] at hconflict
      simpa using hconflict

lemma Invariant.claimDue (h : Invariant st) (ρ : KeyOrder) (now : Time)
    (n perStream lease : ℤ) : Invariant (st.claimDue ρ now n perStream lease).1 := by
  unfold SSFState.claimDue
  split_ifs
  · exact h
  · exact h.retime _ _ _

lemma Invariant.reschedule (h : Invariant st) (jti : String) (next : Time) (attempts : ℤ) :
    Invariant (st.reschedule jti next attempts).1 := by
  unfold SSFState.reschedule
  split
  · exact h
  · exact h.retime next (some attempts) [jti]

lemma streams_update {ρ : KeyOrder} {s : Stream} {notice : Option Event}
    {st' : SSFState} (h : st.update ρ (some s) notice = (st', .ok ())) :
    ∃ cur, st.streams.lookup s.id = some cur ∧
      st'.streams = st.streams.insert s.id { s with clientID := cur.clientID } := by
  unfold SSFState.update at h
  dsimp only at h
  cases hcur : st.streams.lookup s.id with
  | none =>
    rw [hcur] at h
    cases h
  | some cur =>
    rw [hcur] at h
    refine ⟨cur, rfl, ?_⟩
    have hmoved : (st.replaceStream ρ { s with clientID := cur.clientID }).streams =
        st.streams.insert s.id { s with clientID := cur.clientID } :=
      (streams_pass _ _ _).1
    cases notice with
    | none =>
      cases h
      exact hmoved
    | some ev =>
      dsimp only at h
      split_ifs at h with hdup
      · cases h
      · cases h
        rw [← hmoved]
        unfold SSFState.putEvent
        split_ifs
        · exact (streams_pass _ _ _).1
        · rfl

end SSFState

/-! ### Runs -/

inductive Op where
  | create (s : Option Stream)
  | update (s : Option Stream) (notice : Option Event)
  | delete (id : String)
  | enqueue (ev : Option Event)
  | claimDue (now : Time) (n perStream lease : ℤ)
  | reschedule (jti : String) (next : Time) (attempts : ℤ)
  | ack (streamID : String) (jtis : List String)
  | pending (streamID : String) (n : ℤ)
  | deleteExpired (now : Time)

def step (st : SSFState) (call : KeyOrder × Op) : SSFState :=
  match call.2 with
  | .create s => (st.create s).1
  | .update s notice => (st.update call.1 s notice).1
  | .delete id => (st.delete call.1 id).1
  | .enqueue ev => (st.enqueue call.1 ev).1
  | .claimDue now n perStream lease => (st.claimDue call.1 now n perStream lease).1
  | .reschedule jti next attempts => (st.reschedule jti next attempts).1
  | .ack streamID jtis => st.ack streamID jtis
  | .pending _ _ => st
  | .deleteExpired now => (st.deleteExpired call.1 now).1

/-- Events are queued for streams that are there, and a notice is built against the
updated stream. -/
def Admissible (st : SSFState) : Op → Prop
  | .update s notice => ∀ s' ∈ s, ∀ ev ∈ notice, SSFState.NoticeMatches s' ev
  | .enqueue ev => ∀ ev' ∈ ev, (st.streams.lookup ev'.streamID).isSome = true
  | _ => True

def AdmissibleRun : SSFState → List (KeyOrder × Op) → Prop
  | _, [] => True
  | st, call :: rest => Admissible st call.2 ∧ AdmissibleRun (step st call) rest

lemma invariant_step {st : SSFState} (h : st.Invariant) {call : KeyOrder × Op}
    (hcall : Admissible st call.2) : (step st call).Invariant := by
  obtain ⟨ρ, op⟩ := call
  cases op with
  | create s => exact h.create s
  | update s notice => exact h.update ρ hcall
  | delete id => exact h.delete ρ id
  | enqueue ev => exact h.enqueue ρ hcall
  | claimDue now n perStream lease => exact h.claimDue ρ now n perStream lease
  | reschedule jti next attempts => exact h.reschedule jti next attempts
  | ack streamID jtis => exact h.drop _ jtis
  | pending streamID n => exact h
  | deleteExpired now => exact h.drop _ _

lemma invariant_run (calls : List (KeyOrder × Op)) :
    ∀ {st : SSFState}, st.Invariant → AdmissibleRun st calls →
      (calls.foldl step st).Invariant := by
  induction calls with
  | nil =>
    intro st h _
    exact h
  | cons call rest ih =>
    intro st h hrun
    exact ih (invariant_step h hrun.1) hrun.2

/-- In every reachable state the queue is consistent with its streams. -/
theorem queue_consistent (calls : List (KeyOrder × Op))
    (hrun : AdmissibleRun newSSFState calls) : (calls.foldl step newSSFState).Consistent :=
  (invariant_run calls SSFState.invariant_new hrun).consistent

/-! ### A stream and its notices -/

def receiverStream (status : StreamStatus) (method : DeliveryMethod) : Stream where
  id := "s"
  clientID := "rp"
  delivery := ⟨method, "", none⟩
  eventsRequested := []
  eventsDelivered := []
  description := ""
  status := status
  statusReason := ""
  createdAt := 1
  updatedAt := 1

def queuedEvent (jti : String) (kind : EventKind) (method : DeliveryMethod) (held : Bool) :
    Event where
  jti := jti
  streamID := "s"
  kind := kind
  delivery := method
  held := held
  claims := ""
  attempts := 0
  nextAttemptAt := 1
  expiresAt := 9

/-- A stream with two events is paused and moved to polling, with a notice; then its
verification is acknowledged. -/
def pausedAndMoved : List (KeyOrder × Op) :=
  [Op.create (some (receiverStream .enabled .push)),
    .enqueue (some (queuedEvent "a" .event .push false)),
    .enqueue (some (queuedEvent "v" .verification .push false)),
    .claimDue 2 1 1 5,
    .update (some (receiverStream .paused .poll))
      (some (queuedEvent "u" .streamUpdated .poll false)),
    .ack "s" ["v"], .deleteExpired 3, .pending "s" 2].map fun op => (ascending, op)

lemma admissible_pausedAndMoved : AdmissibleRun newSSFState pausedAndMoved := by
  refine ⟨trivial, ?_, ?_, trivial, ?_, trivial, trivial, trivial, trivial⟩
  · rintro ev ⟨⟩
    decide +kernel
  · rintro ev ⟨⟩
    decide +kernel
  · rintro s ⟨⟩ ev ⟨⟩
    decide

theorem queue_consistent_pausedAndMoved :
    (pausedAndMoved.foldl step newSSFState).events.lookup "a" =
        some { queuedEvent "a" .event .poll true with nextAttemptAt := 7 } ∧
      (pausedAndMoved.foldl step newSSFState).Consistent :=
  ⟨by decide +kernel, queue_consistent pausedAndMoved admissible_pausedAndMoved⟩

/-- A notice of the ordinary kind, whose stream and delivery match the paused stream. -/
def ordinaryNotice : List (KeyOrder × Op) :=
  [Op.create (some (receiverStream .paused .poll)),
    .update (some (receiverStream .paused .poll)) (some (queuedEvent "n" .event .poll false))].map
    fun op => (ascending, op)

/-- It is queued unheld: the store takes any notice for a control event. -/
theorem ordinary_notice_unheld : ¬(ordinaryNotice.foldl step newSSFState).Consistent := by
  intro h
  have hev : (ordinaryNotice.foldl step newSSFState).events.lookup "n" =
      some (queuedEvent "n" .event .poll false) := by decide +kernel
  have hs : (ordinaryNotice.foldl step newSSFState).streams.lookup "s" =
      some (receiverStream .paused .poll) := by decide +kernel
  have hheld := (h.held "n" _ _ hev hs rfl).mpr rfl
  cases hheld

end OidcProvider.SharedSignals
