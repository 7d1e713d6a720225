import OidcProvider.EndSession

/-!
# The finality of a logout

`Rotate` reads a row, saves its successor under a new id and deletes the row. A logout
reads the chooser group and deletes what it has read. A successor that is saved after
that reading survives, and a logout of the current session alone never looks for
successors.

The history of the store is the trace of everybody's calls. The calls before the
termination of the logout, its reading of the cookie among them, are its past.
-/
namespace OidcProvider.LogoutFinality
open FiniteMaps Interference ResumptionPrograms SessionStore StoreRecords EndSession
open SessionManager (ManagerError Origin ask deleteQuietly foreign logoutAllSnapshot remove
  removeChecked rotate rotatedSession row_handle unix)

abbrev Trace := List (Event Chance World Call)

/-! ### Successors -/

def RotatesFrom (old : String) : Call → Prop
  | .session (.save (.rotated old') _) => old' = old
  | _ => False

def SavesAs (id : String) : Call → Prop
  | .session (.save _ sess) => sess.id = id
  | _ => False

def Produced (trace : Trace) (old new : String) : Prop :=
  ∃ ev ∈ trace, RotatesFrom old ev.call ∧ SavesAs new ev.call

/-- The sessions of the snapshot and their descendants. -/
def Family (trace : Trace) (snapshot : List Session) (id : String) : Prop :=
  ∃ row ∈ snapshot, Relation.ReflTransGen (Produced trace) row.id id

def stored (w : World) (id : String) : Option Session := w.manager.sessions.m.lookup id

/-- What the others save: each session is saved by a `Rotate` that has read its
predecessor, in the same group and under a new id. -/
structure RotateSaves (w₀ : World) (trace : Trace) : Prop where
  named : ∀ id rec, stored w₀ id = some rec → id ≠ ""
  saves : ∀ before ev later, trace = before ++ ev :: later → ∀ origin sess,
    ev.call = .session (.save origin sess) →
      sess.id ≠ "" ∧ stored w₀ sess.id = none ∧ (∀ ev' ∈ before, ¬ SavesAs sess.id ev'.call) ∧
      ∃ old, origin = .rotated old ∧ ∃ ev' ∈ before, ∃ rec,
        stored ev'.before old = some rec ∧ sess.chooserGroupID = rec.chooserGroupID

section
variable {supply : ℕ → String} {D : KeyDigest}

/-! ### What a call does to a row -/

variable {id groupID : String} {trace : Trace} {w₀ w : World}

lemma stored_handle {e : Chance} {o : Call} {rec : Session}
    (h : stored (handle supply D e o w).1 id = some rec) :
    (∃ rec₀, stored w id = some rec₀ ∧ rec₀.chooserGroupID = rec.chooserGroupID) ∨
      SavesAs id o ∧ ∃ origin, o = .session (.save origin rec) := by
  cases o with
  | listGrants _ => exact .inl ⟨rec, h, rfl⟩
  | tokens _ => exact .inl ⟨rec, h, rfl⟩
  | session c =>
    rcases row_handle h with
      ⟨hid, origin, rfl⟩ | h | ⟨row, _, _, _, hrow, _, rfl⟩
    · exact .inr ⟨hid, origin, rfl⟩
    · exact .inl ⟨rec, h, rfl⟩
    · exact .inl ⟨row, hrow, rfl⟩

lemma stored_delete (e : Chance) (w : World) (id : String) :
    stored (handle supply D e (.session (.delete id)) w).1 id = none := by
  change ((w.manager.sessions.delete (w.manager.advance e.elapsed).clock id).1).m.lookup id = none
  rw [Sessions.lookup_delete, if_pos rfl]

/-! ### The history of an id -/

def Born (w₀ : World) (trace : Trace) (id : String) : Prop :=
  stored w₀ id ≠ none ∨ ∃ ev ∈ trace, SavesAs id ev.call

lemma born_of_stored (h : Chained (handle supply D) w₀ trace w) (hid : stored w id ≠ none) :
    Born w₀ trace id := by
  by_contra hborn
  obtain ⟨hstart, hsaves⟩ := not_or.mp hborn
  refine hid (h.keeps (P := fun w => stored w id = none) (fun ev hev hnone => ?_)
    (not_not.mp hstart))
  by_contra hrec
  obtain ⟨rec, hrec⟩ := Option.ne_none_iff_exists'.mp hrec
  rcases stored_handle hrec with ⟨rec₀, hrec₀, _⟩ | ⟨hsave, _⟩
  · rw [hnone] at hrec₀
    cases hrec₀
  · exact hsaves ⟨ev, hev, hsave⟩

lemma stays_gone {before later : Trace} (hsaves : RotateSaves w₀ trace)
    (htrace : trace = before ++ later) (hborn : Born w₀ before id) {w' : World}
    (h : Chained (handle supply D) w later w') (hgone : stored w id = none) :
    stored w' id = none := by
  refine h.keeps (P := fun w => stored w id = none) (fun ev hev hnone => ?_) hgone
  by_contra hrec
  obtain ⟨rec, hrec⟩ := Option.ne_none_iff_exists'.mp hrec
  rcases stored_handle hrec with ⟨rec₀, hrec₀, _⟩ | ⟨hsave, origin, hcall⟩
  · rw [hnone] at hrec₀
    cases hrec₀
  · obtain ⟨l, l', rfl⟩ := List.append_of_mem hev
    obtain ⟨_, hstart, hfresh, _⟩ :=
      hsaves.saves (before ++ l) ev l' (by rw [htrace, List.append_assoc]) origin rec hcall
    have hid : rec.id = id := by
      rw [hcall] at hsave
      exact hsave
    rw [hid] at hstart hfresh
    rcases hborn with hborn | ⟨ev', hev', hsave'⟩
    · exact hborn hstart
    · exact hfresh ev' (List.mem_append_left l hev') hsave'

/-! ### The group of an id -/

/-- The group of the one session that has had the id. -/
def Home (w₀ : World) (trace : Trace) (id groupID : String) : Prop :=
  (∃ rec, stored w₀ id = some rec ∧ rec.chooserGroupID = groupID) ∨
    stored w₀ id = none ∧ ∃ ev ∈ trace, ∃ origin sess,
      ev.call = .session (.save origin sess) ∧ sess.id = id ∧ sess.chooserGroupID = groupID

section
variable (hsaves : RotateSaves w₀ trace)
include hsaves

lemma save_unique {ev ev' : Event Chance World Call}
    (hev : ev ∈ trace) (hev' : ev' ∈ trace) {origin origin' : Origin} {sess sess' : Session}
    (hcall : ev.call = .session (.save origin sess))
    (hcall' : ev'.call = .session (.save origin' sess')) (hid : sess.id = sess'.id) :
    sess = sess' := by
  obtain ⟨l, l', rfl⟩ := List.append_of_mem hev
  have hsave : SavesAs sess'.id ev.call := by
    rw [hcall]
    exact hid
  have hsave' : SavesAs sess.id ev'.call := by
    rw [hcall']
    exact hid.symm
  rcases List.mem_append.mp hev' with hev' | hev'
  · exact ((hsaves.saves l ev l' rfl origin sess hcall).2.2.1 ev' hev' hsave').elim
  rcases List.mem_cons.mp hev' with rfl | hev'
  · cases hcall.symm.trans hcall'
    rfl
  · obtain ⟨m, m', rfl⟩ := List.append_of_mem hev'
    have hfresh := (hsaves.saves (l ++ ev :: m) ev' m' (by simp) origin' sess' hcall').2.2.1
    exact (hfresh ev (List.mem_append_right l List.mem_cons_self) hsave).elim

lemma Home.unique {groupID' : String}
    (h : Home w₀ trace id groupID) (h' : Home w₀ trace id groupID') : groupID = groupID' := by
  rcases h with ⟨rec, hrec, rfl⟩ | ⟨hnone, ev, hev, origin, sess, hcall, hid, rfl⟩
  · rcases h' with ⟨rec', hrec', rfl⟩ | ⟨hnone', _⟩
    · cases hrec.symm.trans hrec'
      rfl
    · cases hrec.symm.trans hnone'
  · rcases h' with ⟨rec', hrec', rfl⟩ | ⟨_, ev', hev', origin', sess', hcall', hid', rfl⟩
    · cases hnone.symm.trans hrec'
    · rw [save_unique hsaves hev hev' hcall hcall' (hid.trans hid'.symm)]

lemma home_of_stored {done : Trace}
    (hdone : ∀ ev ∈ done, ev ∈ trace) (h : Chained (handle supply D) w₀ done w) {rec : Session}
    (hrec : stored w id = some rec) : Home w₀ trace id rec.chooserGroupID := by
  refine h.keeps (P := fun w => ∀ id rec, stored w id = some rec →
    Home w₀ trace id rec.chooserGroupID) (fun ev hev hrows id rec hrec => ?_)
    (fun id rec hrec => .inl ⟨rec, hrec, rfl⟩) id rec hrec
  rcases stored_handle hrec with ⟨rec₀, hrec₀, hgroup⟩ | ⟨hsave, origin, hcall⟩
  · exact hgroup ▸ hrows id rec₀ hrec₀
  · have hid : rec.id = id := by
      rw [hcall] at hsave
      exact hsave
    obtain ⟨l, l', hl⟩ := List.append_of_mem (hdone ev hev)
    obtain ⟨_, hnone, _⟩ := hsaves.saves l ev l' hl origin rec hcall
    exact .inr ⟨hid ▸ hnone, ev, hdone ev hev, origin, rec, hcall, hid, rfl⟩

lemma home_produced (h : Chained (handle supply D) w₀ trace w)
    {old new : String} (hprod : Produced trace old new) (hold : Home w₀ trace old groupID) :
    Home w₀ trace new groupID := by
  obtain ⟨ev, hev, hfrom, hsave⟩ := hprod
  obtain ⟨l, l', hl⟩ := List.append_of_mem hev
  cases hcall : ev.call with
  | listGrants _ => rw [hcall] at hsave; exact hsave.elim
  | tokens _ => rw [hcall] at hsave; exact hsave.elim
  | session c =>
    rw [hcall] at hsave hfrom
    cases c with
    | save origin sess =>
      have hid : sess.id = new := hsave
      obtain ⟨_, hnone, _, old', rfl, ev', hev', rec, hrec, hgroup⟩ :=
        hsaves.saves l ev l' hl origin sess hcall
      have hold' : old' = old := hfrom
      subst hold'
      -- the row that was read is in the group of the old id
      have hread : Home w₀ trace old' rec.chooserGroupID := by
        obtain ⟨a, b, hab⟩ := List.append_of_mem hev'
        have hchain : Chained (handle supply D) w₀ (a ++ ev' :: (b ++ ev :: l')) w := by
          rw [hl, hab] at h
          simpa using h
        refine home_of_stored hsaves (fun ev'' h'' => ?_) hchain.split.1 hrec
        rw [hl, hab]
        exact List.mem_append_left _ (List.mem_append_left _ h'')
      have hsame := Home.unique hsaves hold hread
      exact .inr ⟨hid ▸ hnone, ev, hev, _, sess, hcall, hid, hgroup.trans hsame.symm⟩
    | _ => exact hsave.elim

end

/-! ### The deletions -/

lemma gone_of_delete {w' : World} {before later : Trace} (hsaves : RotateSaves w₀ trace)
    {ev : Event Chance World Call} (htrace : trace = before ++ ev :: later)
    (h : Chained (handle supply D) w₀ trace w') (hcall : ev.call = .session (.delete id))
    (hborn : Born w₀ before id) : stored w' id = none := by
  have hsplit := (htrace ▸ h).split
  have hgone : stored (ev.after (handle supply D)) id = none := by
    rw [Event.after, hcall]
    exact stored_delete _ _ _
  have htrace' : trace = (before ++ [ev]) ++ later := by rw [htrace, List.append_cons]
  have hborn' : Born w₀ (before ++ [ev]) id :=
    hborn.imp_right fun ⟨ev', hev', hsave⟩ => ⟨ev', List.mem_append_left _ hev', hsave⟩
  exact stays_gone hsaves htrace' hborn' hsplit.2 hgone

lemma delete_mem_deleteQuietly (supply : ℕ → String) (D : KeyDigest) (id : String)
    (slots : ℕ → Slot Chance Call) (w : World) :
    ∃ ev ∈ (among (handle supply D) (onSessions (deleteQuietly id)) slots w).trace,
      ev.call = .session (.delete id) :=
  ⟨_, List.mem_append_right _ List.mem_cons_self, rfl⟩

lemma delete_mem_logoutAllSnapshot {rows : List Session} {row : Session} (hrow : row ∈ rows)
    (hid : row.id ≠ "") (slots : ℕ → Slot Chance Call) (w : World) :
    ∃ ev ∈ (among (handle supply D) (onSessions (logoutAllSnapshot rows)) slots
      w).trace, ev.call = .session (.delete row.id) := by
  induction rows generalizing slots w with
  | nil => cases hrow
  | cons first rest ih =>
    unfold logoutAllSnapshot
    rcases List.mem_cons.mp hrow with rfl | hrow
    · rw [if_neg hid]
      unfold onSessions
      rw [embed_bind, among_bind]
      obtain ⟨ev, hev, hcall⟩ := delete_mem_deleteQuietly supply D row.id slots w
      exact ⟨ev, List.mem_append_left _ hev, hcall⟩
    · split_ifs
      · exact ih hrow slots w
      unfold onSessions
      rw [embed_bind, among_bind]
      dsimp only
      generalize (among (handle supply D) (embed Call.session (fun _ r => r)
        (deleteQuietly first.id)) slots w) = done
      cases done.result with
      | error e =>
        rw [embed_bind, among_bind]
        obtain ⟨ev, hev, hcall⟩ := ih hrow (fun n => slots (n + done.calls)) done.final
        exact ⟨ev, List.mem_append_right _ (List.mem_append_left _ hev), hcall⟩
      | ok _ =>
        obtain ⟨ev, hev, hcall⟩ := ih hrow (fun n => slots (n + done.calls)) done.final
        exact ⟨ev, List.mem_append_right _ hev, hcall⟩

lemma delete_mem_remove {current : String} {slots : ℕ → Slot Chance Call}
    (hok : failed (among (handle supply D)
      (onSessions (remove groupID current id)) slots w).result = []) :
    ∃ ev ∈ (among (handle supply D) (onSessions (remove groupID current id)) slots
      w).trace, ev.call = .session (.delete id) := by
  unfold remove at hok ⊢
  split_ifs at hok ⊢
  · cases hok
  unfold onSessions at hok ⊢
  rw [embed_bind, among_bind] at hok ⊢
  dsimp only at hok ⊢
  generalize (among (handle supply D) (embed Call.session (fun _ r => r)
    (ask (.find id))) slots w) = found at hok ⊢
  cases hforeign : foreign groupID found.result with
  | some e =>
    rw [hforeign] at hok
    cases hok
  | none =>
    unfold removeChecked
    rw [embed_bind, among_bind]
    obtain ⟨ev, hev, hcall⟩ := delete_mem_deleteQuietly supply D id
      (fun n => slots (n + found.calls)) found.final
    exact ⟨ev, List.mem_append_right _ (List.mem_append_left _ hev), hcall⟩

/-! ### The logout -/

lemma returns_destroyRows (deps : Deps) (rows : List Session) :
    (destroyRows rows >>= cascade deps).Returns fun done => done.snapshot = rows := by
  have hrows : (destroyRows rows).Returns fun done => done.snapshot = rows :=
    (Prog.returns_true _).bind fun _ _ => rfl
  exact hrows.bind fun done hdone => (Prog.returns_true _).bind fun _ _ => hdone

lemma terminate_all {deps : Deps} {sess : SessionFingerprint} (hid : sess.sessionID ≠ "")
    (hgroup : sess.chooserGroupID ≠ "") :
    terminateSessionForScope deps (.active sess) .all =
      .call (.session (.listByChooserGroup sess.chooserGroupID)) fun rows =>
        destroyRows rows >>= cascade deps := by
  unfold terminateSessionForScope terminateSession destroyAll
  dsimp only
  rw [if_neg hid, if_neg hgroup, onSessions_snapshotGroup hgroup]
  rfl

end

section
variable (supply : ℕ → String) (D : KeyDigest) (deps : Deps) (sess : SessionFingerprint)
  (scope : LogoutScope) (slots : ℕ → Slot Chance Call) (w : World)

def logoutRun : Run Chance World Call Termination :=
  among (handle supply D) (terminateSessionForScope deps (.active sess) scope) slots w

variable (past : Trace) (last : List (Chance × Call))

/-- Everybody's calls, up to the end of the last of the others. -/
def history : Trace :=
  past ++ ((logoutRun supply D deps sess scope slots w).trace ++
    events (handle supply D) last (logoutRun supply D deps sess scope slots w).final)

/-- The session descends from one that the logout has read. -/
abbrev Covered (id : String) : Prop :=
  Family (history supply D deps sess scope slots w past last)
    (logoutRun supply D deps sess scope slots w).result.snapshot id

def afterAll : World :=
  meanwhile (handle supply D) last (logoutRun supply D deps sess scope slots w).final

/-- The calls at which a successor escapes the logout: a logout of the group deletes the
successors that are there when it reads the group, and one of the current session none. -/
def escapes : Trace :=
  match scope with
  | .all =>
    ((logoutRun supply D deps sess .all slots w).trace ++
      events (handle supply D) last (logoutRun supply D deps sess .all slots w).final).drop
        ((slots 0).others.length + 1)
  | .current => history supply D deps sess .current slots w past last

end

variable {id : String}

section
variable {supply : ℕ → String} {D : KeyDigest} {deps : Deps} {sess : SessionFingerprint}
  {scope : LogoutScope} {slots : ℕ → Slot Chance Call} {w₀ w : World} {past : Trace}
  {last : List (Chance × Call)}

lemma chained_history (hpast : Chained (handle supply D) w₀ past w) :
    Chained (handle supply D) w₀ (history supply D deps sess scope slots w past last)
      (afterAll supply D deps sess scope slots w last) :=
  hpast.append ((chained_among _ _ _).append (chained_events _ _))

lemma ne_empty_of_born {trace before : Trace} (hsaves : RotateSaves w₀ trace)
    (hbefore : ∀ ev ∈ before, ev ∈ trace) (h : Born w₀ before id) : id ≠ "" := by
  rcases h with h | ⟨ev, hev, hsave⟩
  · obtain ⟨rec, hrec⟩ := Option.ne_none_iff_exists'.mp h
    exact hsaves.named id rec hrec
  · obtain ⟨l, l', hl⟩ := List.append_of_mem (hbefore ev hev)
    cases hcall : ev.call with
    | session c =>
      rw [hcall] at hsave
      cases c with
      | save origin sess =>
        have hid : sess.id = id := hsave
        exact hid ▸ (hsaves.saves l ev l' hl origin sess hcall).1
      | _ => exact hsave.elim
    | _ =>
      rw [hcall] at hsave
      exact hsave.elim

section Reading
variable {trace before late : Trace} {reading : Event Chance World Call} {w' : World}
  {groupID : String} {rows : List Session}

def LiveAt (reading : Event Chance World Call) (rec : Session) : Prop :=
  isExpiredStrict rec.expiresAt (reading.before.manager.clock + reading.chance.elapsed) = false

def Reads (reading : Event Chance World Call) (groupID : String) (rows : List Session) : Prop :=
  ∀ row, row ∈ rows ↔
    stored reading.before row.id = some row ∧ row.chooserGroupID = groupID ∧ LiveAt reading row

/-- As long as no successor is saved after the reading, every descendant was there
before it, in the group. -/
theorem family_before (hsaves : RotateSaves w₀ trace)
    (hchain : Chained (handle supply D) w₀ trace w')
    (htrace : trace = before ++ reading :: late) (hreads : Reads reading groupID rows)
    (hcall : reading.call = .session (.listByChooserGroup groupID))
    (hescapes : ∀ id, Family trace rows id → ∀ ev ∈ late, ¬ RotatesFrom id ev.call)
    (hfamily : Family trace rows id) : Born w₀ before id ∧ Home w₀ trace id groupID := by
  have hbefore : ∀ ev ∈ before, ev ∈ trace := fun ev hev => htrace ▸ List.mem_append_left _ hev
  have hread := (htrace ▸ hchain).split.1
  obtain ⟨row, hrow, hpath⟩ := hfamily
  induction hpath with
  | refl =>
    obtain ⟨hstored, hgroup, _⟩ := (hreads row).mp hrow
    refine ⟨born_of_stored hread (by rw [hstored]; nofun), ?_⟩
    exact hgroup ▸ home_of_stored hsaves hbefore hread hstored
  | @tail old new hpath hprod ih =>
    refine ⟨?_, home_produced hsaves hchain hprod ih.2⟩
    obtain ⟨ev, hev, hfrom, hsave⟩ := hprod
    rw [htrace] at hev
    rcases List.mem_append.mp hev with hev | hev
    · exact .inr ⟨ev, hev, hsave⟩
    rcases List.mem_cons.mp hev with rfl | hev
    · rw [hcall] at hsave
      exact hsave.elim
    · exact (hescapes old ⟨row, hrow, hpath⟩ ev hev hfrom).elim

/-- If what has been read is deleted afterwards, and all descendants that are there are
live, none of them is left at the end. -/
theorem gone_of_reading (hsaves : RotateSaves w₀ trace)
    (hchain : Chained (handle supply D) w₀ trace w')
    (htrace : trace = before ++ reading :: late) (hreads : Reads reading groupID rows)
    (hcall : reading.call = .session (.listByChooserGroup groupID))
    (hdeleted : ∀ row ∈ rows, row.id ≠ "" → ∃ ev ∈ late, ev.call = .session (.delete row.id))
    (hescapes : ∀ id, Family trace rows id → ∀ ev ∈ late, ¬ RotatesFrom id ev.call)
    (hlive : ∀ id, Family trace rows id → ∀ rec, stored reading.before id = some rec →
      LiveAt reading rec)
    (hfamily : Family trace rows id) : stored w' id = none := by
  obtain ⟨hborn, hhome⟩ := family_before hsaves hchain htrace hreads hcall hescapes hfamily
  have hbefore : ∀ ev ∈ before, ev ∈ trace := fun ev hev => htrace ▸ List.mem_append_left _ hev
  obtain ⟨hread, hrest⟩ := (htrace ▸ hchain).split
  cases hstored : stored reading.before id with
  | none => exact stays_gone hsaves htrace hborn ⟨rfl, hrest⟩ hstored
  | some rec =>
    have hkey : rec.id = id := reading.before.manager.sessions.keyed id rec hstored
    have hgroup : rec.chooserGroupID = groupID :=
      Home.unique hsaves (home_of_stored hsaves hbefore hread hstored) hhome
    have hrow : rec ∈ rows :=
      (hreads rec).mpr ⟨by rw [hkey]; exact hstored, hgroup, hlive id hfamily rec hstored⟩
    have hne : rec.id ≠ "" := hkey ▸ ne_empty_of_born hsaves hbefore hborn
    obtain ⟨ev, hev, hdelete⟩ := hdeleted rec hrow hne
    obtain ⟨a, b, rfl⟩ := List.append_of_mem hev
    have htrace' : trace = (before ++ reading :: a) ++ ev :: b := by
      rw [htrace, List.append_assoc]
      rfl
    refine gone_of_delete hsaves htrace' hchain (hkey ▸ hdelete) (hborn.imp_right ?_)
    exact fun ⟨ev', hev', hsave⟩ => ⟨ev', List.mem_append_left _ hev', hsave⟩

end Reading

lemma delete_mem_destroyRows {rows : List Session} {row : Session} (hrow : row ∈ rows)
    (hid : row.id ≠ "") (slots : ℕ → Slot Chance Call) (w : World) :
    ∃ ev ∈ (among (handle supply D) (destroyRows rows >>= cascade deps) slots w).trace,
      ev.call = .session (.delete row.id) := by
  obtain ⟨ev, hev, hcall⟩ := delete_mem_logoutAllSnapshot hrow hid slots w
  rw [among_bind]
  unfold destroyRows
  rw [among_bind]
  exact ⟨ev, List.mem_append_left _ (List.mem_append_left _ hev), hcall⟩

lemma returns_cascade (deps : Deps) (done : Termination) :
    (cascade deps done).Returns fun done' => done' = done :=
  (Prog.returns_true _).bind fun _ _ => rfl

lemma returns_destroyCurrent (sess : SessionFingerprint) :
    (destroyCurrent sess).Returns fun done => done.snapshot = [sess.row] := by
  unfold destroyCurrent
  split_ifs
  · exact (Prog.returns_true _).bind fun _ _ => rfl
  · exact (Prog.returns_true _).bind fun _ _ => rfl

lemma delete_mem_destroyCurrent
    (hok : (among (handle supply D) (destroyCurrent sess) slots w).result.sessionErr = []) :
    ∃ ev ∈ (among (handle supply D) (destroyCurrent sess) slots w).trace,
      ev.call = .session (.delete sess.sessionID) := by
  unfold destroyCurrent at hok ⊢
  split_ifs at hok ⊢
  · rw [among_bind]
    obtain ⟨ev, hev, hcall⟩ := delete_mem_deleteQuietly supply D sess.sessionID slots w
    exact ⟨ev, List.mem_append_left _ hev, hcall⟩
  · rw [among_bind] at hok ⊢
    obtain ⟨ev, hev, hcall⟩ := delete_mem_remove hok
    exact ⟨ev, List.mem_append_left _ hev, hcall⟩

section Final
variable {scope : LogoutScope} {id : String} (hid : sess.sessionID ≠ "")
  (hpast : Chained (handle supply D) w₀ past w)
  (hsaves : RotateSaves w₀ (history supply D deps sess scope slots w past last))
  (hescapes : ∀ id, Covered supply D deps sess scope slots w past last id →
    ∀ ev ∈ escapes supply D deps sess scope slots w past last, ¬ RotatesFrom id ev.call)
  (hfamily : Covered supply D deps sess scope slots w past last id)
include hid hpast hsaves hescapes hfamily

/-- The logout of a group. The reading of the group splits the history. -/
theorem final_all (hscope : scope = .all) (hgroup : sess.chooserGroupID ≠ "")
    (hlive : ∀ id, Covered supply D deps sess scope slots w past last id →
      ∀ rec, stored (meanwhile (handle supply D) (slots 0).others w) id = some rec →
        isExpiredStrict rec.expiresAt
          ((meanwhile (handle supply D) (slots 0).others w).manager.clock +
            (slots 0).chance.elapsed) = false) :
    stored (afterAll supply D deps sess scope slots w last) id = none := by
  subst hscope
  obtain ⟨w₁, hw₁⟩ : ∃ w₁, w₁ = meanwhile (handle supply D) (slots 0).others w := ⟨_, rfl⟩
  obtain ⟨rows, hrows⟩ : ∃ rows, rows = (handle supply D (slots 0).chance
    (.session (.listByChooserGroup sess.chooserGroupID)) w₁).2 := ⟨_, rfl⟩
  obtain ⟨rest, hrest⟩ : ∃ rest, rest = among (handle supply D) (destroyRows rows >>= cascade deps)
    (fun n => slots (n + 1)) (handle supply D (slots 0).chance
      (.session (.listByChooserGroup sess.chooserGroupID)) w₁).1 := ⟨_, rfl⟩
  obtain ⟨reading, hreading⟩ : ∃ reading : Event Chance World Call, reading = ⟨w₁, (slots 0).chance,
    .session (.listByChooserGroup sess.chooserGroupID), true⟩ := ⟨_, rfl⟩
  have hrun : logoutRun supply D deps sess .all slots w =
      ⟨events (handle supply D) (slots 0).others w ++ reading :: rest.trace, rest.final,
        rest.result⟩ := by
    rw [logoutRun, terminate_all hid hgroup, hreading, hrest, hrows, hw₁]
    rfl
  have hsnapshot : (logoutRun supply D deps sess .all slots w).result.snapshot = rows := by
    rw [hrun, hrest]
    exact returns_among _ (returns_destroyRows deps rows) _ _
  have hhistory : history supply D deps sess .all slots w past last =
      (past ++ events (handle supply D) (slots 0).others w) ++
        reading :: (rest.trace ++ events (handle supply D) last rest.final) := by
    rw [history, hrun]
    simp only [List.append_assoc, List.cons_append]
  have hlate : escapes supply D deps sess .all slots w past last =
      rest.trace ++ events (handle supply D) last rest.final := by
    unfold escapes
    have hlen : (slots 0).others.length =
        (events (handle supply D) (slots 0).others w).length := (length_events _ _).symm
    rw [hrun, List.append_assoc, hlen, List.drop_length_add_append]
    rfl
  unfold Covered at hescapes hlive hfamily
  rw [hsnapshot] at hescapes hlive hfamily
  rw [hlate] at hescapes
  rw [← hw₁] at hlive
  have hreads : Reads reading sess.chooserGroupID rows := by
    intro row
    rw [hreading, hrows]
    exact Sessions.mem_listByChooserGroup _ _ _ _ row
  refine gone_of_reading hsaves (chained_history hpast) hhistory hreads (by rw [hreading])
    (fun row hrow hne => ?_) hescapes (fun id hid rec hrec => ?_) hfamily
  · obtain ⟨ev, hev, hcall⟩ := delete_mem_destroyRows hrow hne (fun n => slots (n + 1))
      (handle supply D (slots 0).chance (.session (.listByChooserGroup sess.chooserGroupID)) w₁).1
    exact ⟨ev, List.mem_append_left _ (hrest ▸ hev), hcall⟩
  · subst hreading
    exact hlive id hid rec hrec

lemma final_current (hscope : scope = .current)
    (hread : ∃ ev ∈ past, stored ev.before sess.sessionID ≠ none)
    (hok : (logoutRun supply D deps sess scope slots w).result.sessionErr = []) :
    stored (afterAll supply D deps sess scope slots w last) id = none := by
  subst hscope
  have hprogram : terminateSessionForScope deps (.active sess) .current =
      destroyCurrent sess >>= cascade deps := by
    unfold terminateSessionForScope
    dsimp only
    rw [if_neg hid]
    rfl
  obtain ⟨first, hfirst⟩ : ∃ first, first = among (handle supply D) (destroyCurrent sess) slots w :=
    ⟨_, rfl⟩
  obtain ⟨rest, hrest⟩ : ∃ rest, rest = among (handle supply D) (cascade deps first.result)
    (fun n => slots (n + first.calls)) first.final := ⟨_, rfl⟩
  have hrun : logoutRun supply D deps sess .current slots w =
      ⟨first.trace ++ rest.trace, rest.final, rest.result⟩ := by
    rw [logoutRun, hprogram, among_bind, hrest, hfirst]
  have hresult : rest.result = first.result := by
    rw [hrest]
    exact returns_among _ (returns_cascade deps first.result) _ _
  have hsnapshot : first.result.snapshot = [sess.row] := by
    rw [hfirst]
    exact returns_among _ (returns_destroyCurrent sess) _ _
  have hfinal : (logoutRun supply D deps sess .current slots w).result = first.result := by
    rw [hrun]
    exact hresult
  unfold Covered at hescapes hfamily
  rw [hfinal] at hok hescapes hfamily
  rw [hsnapshot] at hescapes hfamily
  -- the session has no descendants
  obtain ⟨row, hrow, hpath⟩ := hfamily
  cases List.mem_singleton.mp hrow
  have hself : sess.sessionID = id := by
    rcases hpath.cases_head with heq | ⟨_, ⟨ev, hev, hfrom, _⟩, _⟩
    · exact heq
    · exact (hescapes sess.sessionID ⟨_, hrow, .refl⟩ ev hev hfrom).elim
  rw [hfirst] at hok
  obtain ⟨ev, hev, hcall⟩ := delete_mem_destroyCurrent hok
  rw [← hfirst] at hev
  obtain ⟨a, b, hab⟩ := List.append_of_mem hev
  have hhistory : history supply D deps sess .current slots w past last =
      (past ++ a) ++ ev :: (b ++ (rest.trace ++
        events (handle supply D) last rest.final)) := by
    rw [history, hrun]
    simp only [hab, List.append_assoc, List.cons_append]
  obtain ⟨ev₀, hev₀, hstored⟩ := hread
  obtain ⟨c, d, rfl⟩ := List.append_of_mem hev₀
  refine gone_of_delete hsaves hhistory (chained_history hpast) (hself ▸ hcall) ?_
  rw [← hself]
  refine (born_of_stored hpast.split.1 hstored).imp_right fun ⟨ev', hev', hsave⟩ => ⟨ev', ?_, hsave⟩
  exact List.mem_append_left _ (List.mem_append_left _ hev')

end Final

/-- In every interleaving of the calls of a successful logout with those of others, where
each session is saved by a `Rotate` that has read its predecessor, suppose that no
successor of a session of the snapshot or of a descendant is saved after the logout has
read the group (for the current session: at all), and that the descendants stored at that
reading are live. Then nothing of the snapshot and none of its descendants is stored when
all have finished. -/
theorem logout_is_final (supply : ℕ → String) (D : KeyDigest) (deps : Deps)
    (sess : SessionFingerprint) (scope : LogoutScope) (slots : ℕ → Slot Chance Call) (w₀ w : World)
    (past : Trace) (last : List (Chance × Call)) (hpast : Chained (handle supply D) w₀ past w)
    (hread : ∃ ev ∈ past, stored ev.before sess.sessionID ≠ none)
    (hok : (logoutRun supply D deps sess scope slots w).result.sessionErr = [])
    (hsaves : RotateSaves w₀ (history supply D deps sess scope slots w past last))
    (hescapes : ∀ id, Covered supply D deps sess scope slots w past last id →
      ∀ ev ∈ escapes supply D deps sess scope slots w past last, ¬ RotatesFrom id ev.call)
    (hlive : scope = .all → ∀ id, Covered supply D deps sess scope slots w past last id →
      ∀ rec, stored (meanwhile (handle supply D) (slots 0).others w) id = some rec →
        isExpiredStrict rec.expiresAt
          ((meanwhile (handle supply D) (slots 0).others w).manager.clock +
            (slots 0).chance.elapsed) = false)
    (id : String) (hfamily : Covered supply D deps sess scope slots w past last id) :
    stored (afterAll supply D deps sess scope slots w last) id = none := by
  have hid : sess.sessionID ≠ "" := by
    intro hid
    obtain ⟨row, hrow, _⟩ := hfamily
    unfold logoutRun terminateSessionForScope at hrow
    dsimp only at hrow
    rw [if_pos hid] at hrow
    cases hrow
  cases scope with
  | current => exact final_current hid hpast hsaves hescapes hfamily rfl hread hok
  | all =>
    by_cases hgroup : sess.chooserGroupID = ""
    · unfold logoutRun terminateSessionForScope terminateSession destroyAll at hok
      dsimp only at hok
      rw [if_neg hid, if_pos hgroup] at hok
      cases hok
    · exact final_all hid hpast hsaves hescapes hfamily rfl hgroup (hlive rfl)

end

/-! ### A rotation that straddles the reading -/

def aliceRow : Session where
  id := "s1"
  subject := "alice"
  authTime := 1
  amr := ["pwd"]
  acr := ""
  chooserGroupID := "g1"
  expiresAt := 100
  createdAt := 1
  updatedAt := 1

def aliceSession : SessionFingerprint := ⟨"s1", "alice", "g1"⟩

def sampleChance : Chance := ⟨0, ⟨ascending, true⟩, ⟨1, ascending⟩⟩

def aliceWorld : World where
  manager := ⟨Sessions.empty.save ascending 1 aliceRow, 1, 0⟩
  grants := ⟨∅, fun _ _ => nofun⟩
  substores := Teardown.newSubstores ∅

def sampleDeps : Deps := ⟨none, true, true, true, true, true, .grantTombstone, Time.hour⟩

def sampleManager : SessionManager.Manager := ⟨50, 1000⟩

/-- The calls `Rotate` makes for the session of Alice, up to the drawing of the new id, -/
def rotateReads : List Call :=
  [.session (.find "s1"), .session .now, .session .newID]

/-- and after it. -/
def rotateWrites : List Call :=
  [.session (.save (.rotated "s1") (rotatedSession sampleManager aliceRow "0" 1)),
    .session (.delete "s1"), .session (.encode ⟨"g1", "0", unix 1⟩)]

def alone : ℕ → Slot Chance Call := fun _ => ⟨[], sampleChance⟩

/-- `Rotate` reads the row before the logout reads the group, and saves afterwards. -/
def straddling : ℕ → Slot Chance Call
  | 0 => ⟨rotateReads.map (sampleChance, ·), sampleChance⟩
  | 1 => ⟨rotateWrites.map (sampleChance, ·), sampleChance⟩
  | _ => ⟨[], sampleChance⟩

/-- `Rotate` is done before the logout of the current session makes a call. -/
def overtaking : ℕ → Slot Chance Call
  | 0 => ⟨(rotateReads ++ rotateWrites).map (sampleChance, ·), sampleChance⟩
  | _ => ⟨[], sampleChance⟩

/-- The logout succeeds, and the successor of the session it has destroyed is stored. -/
theorem successor_survives :
    (among (handle toString plainDigest) (onSessions (rotate sampleManager "s1"))
      alone aliceWorld).trace.map (·.call) = rotateReads ++ rotateWrites ∧
    (logoutRun toString plainDigest sampleDeps aliceSession .all straddling
      aliceWorld).result.sessionErr = [] ∧
    (logoutRun toString plainDigest sampleDeps aliceSession .all straddling
      aliceWorld).result.snapshot = [aliceRow] ∧
    (stored (afterAll toString plainDigest sampleDeps aliceSession .all straddling aliceWorld [])
      "0").map (·.subject) = some "alice" ∧
    (logoutRun toString plainDigest sampleDeps aliceSession .current overtaking
      aliceWorld).result.sessionErr = [] ∧
    (stored (afterAll toString plainDigest sampleDeps aliceSession .current overtaking aliceWorld
      []) "0").map (·.subject) = some "alice" := by
  decide +kernel

/-! ### A rotation before the reading, and a touch after it -/

def isSave : Call → Bool
  | .session (.save _ _) => true
  | _ => false

lemma isSave_of_savesAs {o : Call} (h : RotatesFrom id o ∨ SavesAs id o) :
    isSave o = true := by
  cases o with
  | session c =>
    cases c with
    | save _ _ => rfl
    | _ => exact (or_self_iff.mp h).elim
  | _ => exact (or_self_iff.mp h).elim

/-- Alice has a second session in the group, and logs out with its cookie. -/
def twoSessions : World :=
  { aliceWorld with
    manager := ⟨aliceWorld.manager.sessions.save ascending 1 { aliceRow with id := "s2" },
      1, 0⟩ }

def secondSession : SessionFingerprint := ⟨"s2", "alice", "g1"⟩

def cookieRead : Trace := events (handle toString plainDigest)
  [(sampleChance, .session (.find "s2"))] twoSessions

def cookieWorld : World :=
  meanwhile (handle toString plainDigest) [(sampleChance, .session (.find "s2"))] twoSessions

/-- `Rotate` is done before the logout reads the group, and a `Touch` comes in between that
reading and the deletions. -/
def crossing : ℕ → Slot Chance Call
  | 0 => ⟨(rotateReads ++ rotateWrites).map (sampleChance, ·), sampleChance⟩
  | 1 => ⟨[(sampleChance, .session (.touch "s2" 60 1))], sampleChance⟩
  | _ => ⟨[], sampleChance⟩

def crossed : Trace :=
  history toString plainDigest sampleDeps secondSession .all crossing cookieWorld cookieRead []

def crossedWorld : World :=
  meanwhile (handle toString plainDigest) (crossing 0).others cookieWorld

lemma rotateSaves_crossed : RotateSaves twoSessions crossed where
  named id rec h := by
    have hnamed : ∀ id ∈ twoSessions.manager.sessions.m.keys, id ≠ "" := by decide +kernel
    exact hnamed id (mem_keys_of_lookup h)
  saves before ev later htrace origin sess hcall := by
    -- the save of the successor is the fifth call, and the only save
    have hsaves : ∀ n < crossed.length,
        (crossed[n]?.any fun ev => isSave ev.call) = true → n = 4 := by decide +kernel
    have hat : crossed[before.length]? = some ev := by simp [htrace]
    have hlength : before.length = 4 := by
      refine hsaves _ (List.getElem?_eq_some_iff.mp hat).1 ?_
      rw [hat, Option.any_some, hcall]
      rfl
    have hbefore : before = crossed.take 4 := by rw [htrace, ← hlength, List.take_left]
    have hsaved : crossed[4]?.map (·.call) = some (.session (.save (.rotated "s1")
        (rotatedSession sampleManager aliceRow "0" 1))) := by decide +kernel
    rw [← hlength, hat, Option.map_some, hcall] at hsaved
    cases hsaved
    have hearlier : (crossed.take 4).all (fun ev => !isSave ev.call) = true := by decide +kernel
    have hread : stored twoSessions "s1" = some aliceRow := by decide +kernel
    subst hbefore
    refine ⟨by decide, by decide +kernel, fun ev' hev' hsave => ?_, "s1", rfl, _,
      List.mem_cons_self, aliceRow, hread, rfl⟩
    have hnot := List.all_eq_true.mp hearlier ev' hev'
    rw [isSave_of_savesAs (.inr hsave)] at hnot
    cases hnot

theorem logout_is_final_crossed :
    (logoutRun toString plainDigest sampleDeps secondSession .all crossing
      cookieWorld).result.snapshot.map (·.id) = ["0", "s2"] ∧
    ∀ id ∈ ["0", "s2"], stored (afterAll toString plainDigest sampleDeps secondSession .all crossing
      cookieWorld []) id = none := by
  have hsnapshot : (logoutRun toString plainDigest sampleDeps secondSession .all crossing
      cookieWorld).result.snapshot.map (·.id) = ["0", "s2"] := by decide +kernel
  refine ⟨hsnapshot, fun id hid => ?_⟩
  rw [← hsnapshot] at hid
  obtain ⟨row, hrow, rfl⟩ := List.mem_map.mp hid
  refine logout_is_final toString plainDigest sampleDeps secondSession .all crossing twoSessions
    cookieWorld cookieRead [] (chained_events _ _) ⟨_, List.mem_cons_self, by decide +kernel⟩
    (by decide +kernel) rotateSaves_crossed ?_ ?_ row.id ⟨row, hrow, .refl⟩
  · intro id _ ev hev hfrom
    have hlate : (escapes toString plainDigest sampleDeps secondSession .all crossing cookieWorld
        cookieRead []).all (fun ev => !isSave ev.call) = true := by decide +kernel
    have hsave := List.all_eq_true.mp hlate ev hev
    rw [isSave_of_savesAs (.inl hfrom)] at hsave
    cases hsave
  · intro _ id _ rec h
    have hlive : ∀ id ∈ crossedWorld.manager.sessions.m.keys, ∀ rec ∈ stored crossedWorld id,
        isExpiredStrict rec.expiresAt (crossedWorld.manager.clock + (crossing 0).chance.elapsed) =
          false := by decide +kernel
    exact hlive id (mem_keys_of_lookup h) rec h

end OidcProvider.LogoutFinality
