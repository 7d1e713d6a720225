import OidcProvider.GrantStore
import OidcProvider.StagedOverlay
import OidcProvider.TransactionalStores

/-!
# Grant transactions against direct execution

`grantStaging` and `txGrants` of `inmem/tx.go`. The staged view is an overlay
of saved and deleted grants over the committed map: its written rows are the
`added` map of the source. Every query of the transaction ranges over the saved
grants and then over the committed ones that are neither deleted nor saved
again. The rows it visits are those of the directly maintained map, so every
query agrees with the direct one. A deletion is decided by the saved and the
committed rows alone: it does not look at the deletions staged before it.
-/
namespace OidcProvider.GrantTransactions
open FiniteMaps StagedOverlay StoreRecords TransactionalStores GrantStore

abbrev GrantStaging := Overlay String Grant

/-- The orders in which `each` ranges over the saved and the committed grants. -/
structure WalkOrder where
  added : KeyOrder
  parent : KeyOrder

def visited (w : WalkOrder) (st : GrantStaging) : List (String × Grant) :=
  (pairs w.added st.written).filter (fun p => decide (p.1 ∉ st.deleted)) ++
    (pairs w.parent st.base).filter fun p => decide (p.1 ∉ st.deleted ∧ p.1 ∉ st.written.keys)

/-- A walk that ends when the callback answers `false`. -/
def walk {B : Type} (fn : B → Grant → B × Bool) : List Grant → B → B
  | [], b => b
  | rec :: recs, b =>
    match fn b rec with
    | (b', true) => walk fn recs b'
    | (b', false) => b'

def each {B : Type} (w : WalkOrder) (st : GrantStaging) (fn : B → Grant → B × Bool) (b : B) : B :=
  walk fn ((visited w st).map Prod.snd) b

/-! ### The operations of the view -/

def txSave (st : GrantStaging) : Option Grant → GrantStaging × Option StoreError
  | none => (st, some (.other "inmem: nil grant"))
  | some g => (st.stage g.id g, none)

def txFind (st : GrantStaging) (id : String) : Fallible Grant :=
  if id ∈ st.deleted then .error .notFound
  else match st.written.lookup id with
    | some rec => .ok rec
    | none =>
      match st.base.lookup id with
      | some rec => .ok rec
      | none => .error .notFound

def txFindBySubjectClient (w : WalkOrder) (st : GrantStaging) (subject clientID : String) :
    Fallible Grant :=
  match each w st (fun best rec => (keepLatest subject clientID best rec, true)) none with
  | none => .error .notFound
  | some best => .ok best

def txListBySubject (w : WalkOrder) (st : GrantStaging) (subject : String) : List Grant :=
  each w st (fun out rec => (collectSubject subject out rec, true)) []

def txListClientIDsBySubject (w : WalkOrder) (st : GrantStaging) (subject cursor : String)
    (limit : ℤ) : Fallible GrantPage :=
  if limit ≤ 0 then .error (.other "inmem: grant client page limit must be positive")
  else .ok (each w st (fun b rec => (addClientID subject b rec, true))
    (newSortedPageBuilder cursor limit.toNat)).result

def txListSubjectsByClient (w : WalkOrder) (st : GrantStaging) (clientID cursor : String)
    (limit : ℤ) : Fallible GrantPage :=
  if limit ≤ 0 then .error (.other "inmem: grant subject page limit must be positive")
  else .ok (each w st (fun b rec => (addSubject clientID b rec, true))
    (newSortedPageBuilder cursor limit.toNat)).result

def txDelete (st : GrantStaging) (id : String) : GrantStaging × Option StoreError :=
  -- the staged deletions are not consulted
  if id ∉ st.written.keys ∧ id ∉ st.base.keys then (st, some .notFound)
  else (st.drop id, none)

def txHasAny (w : WalkOrder) (st : GrantStaging) : Bool :=
  each w st (fun _ _ => (true, false)) false

/-- `flushLocked`: the deletions, then the saved grants. -/
def flushLocked (ρ : KeyOrder) (st : GrantStaging) : GrantMap :=
  (st.flush (fun (x : Unit) _ _ => x) (fun x _ _ => x) ρ ()).m

/-! ### Calls -/

inductive Call where
  | save (g : Option Grant)
  | find (id : String)
  | listBySubject (subject : String)
  | listClientIDsBySubject (subject cursor : String) (limit : ℤ)
  | listSubjectsByClient (clientID cursor : String) (limit : ℤ)
  | hasAny
  | delete (id : String)

/-- A call with the orders its loops happen to take in either execution. -/
structure RangedCall where
  call : Call
  direct : KeyOrder
  staged : WalkOrder

/-- A reply; a list of grants is known up to order. -/
inductive Reply where
  | done (err : Option StoreError)
  | found (res : Fallible Grant)
  | grants (recs : Multiset Grant)
  | page (res : Fallible GrantPage)
  | any (found : Bool)

def direct (m : GrantMap) (c : RangedCall) : GrantMap × Reply :=
  match c.call with
  | .save g => ((save m g).1, .done (save m g).2)
  | .find id => (m, .found (find m id))
  | .listBySubject subject => (m, .grants (listBySubject c.direct m subject))
  | .listClientIDsBySubject subject cursor limit =>
    (m, .page (listClientIDsBySubject c.direct m subject cursor limit))
  | .listSubjectsByClient clientID cursor limit =>
    (m, .page (listSubjectsByClient c.direct m clientID cursor limit))
  | .hasAny => (m, .any (hasAny m))
  | .delete id => ((delete m id).1, .done (delete m id).2)

def staged (st : GrantStaging) (c : RangedCall) : GrantStaging × Reply :=
  match c.call with
  | .save g => ((txSave st g).1, .done (txSave st g).2)
  | .find id => (st, .found (txFind st id))
  | .listBySubject subject => (st, .grants (txListBySubject c.staged st subject))
  | .listClientIDsBySubject subject cursor limit =>
    (st, .page (txListClientIDsBySubject c.staged st subject cursor limit))
  | .listSubjectsByClient clientID cursor limit =>
    (st, .page (txListSubjectsByClient c.staged st clientID cursor limit))
  | .hasAny => (st, .any (txHasAny c.staged st))
  | .delete id => ((txDelete st id).1, .done (txDelete st id).2)

/-- `RevokeByClient` has no transactional counterpart. -/
structure RevokeByClient where
  clientID : String
  order : KeyOrder

def grants : TransactionalStore GrantMap GrantStaging RangedCall Reply KeyOrder RevokeByClient where
  direct := direct
  staged := staged
  openTx := Overlay.new
  commit st ρ := flushLocked ρ st
  rollback := Overlay.base
  outside m u := revokeByClient u.order m u.clientID

/-! ### The rows of the view -/

lemma mem_visited (w : WalkOrder) {st : GrantStaging} (hc : st.Consistent) (id : String)
    (rec : Grant) : (id, rec) ∈ visited w st ↔ st.lookup id = some rec := by
  simp only [visited, List.mem_append, List.mem_filter, mem_pairs, decide_eq_true_eq,
    Overlay.lookup]
  have hkey := mem_keys_iff st.written id
  cases hw : st.written.lookup id with
  | some r =>
    have hd : id ∉ st.deleted := by
      intro hd
      rw [hc id hd] at hw
      cases hw
    simp [hkey, hw, hd]
  | none =>
    by_cases hd : id ∈ st.deleted <;> simp [hkey, hw, hd]

lemma nodup_visited (w : WalkOrder) (st : GrantStaging) : (visited w st).Nodup := by
  apply List.Nodup.append ((nodup_pairs w.added st.written).filter _)
    ((nodup_pairs w.parent st.base).filter _)
  rintro ⟨id, rec⟩ hadded hparent
  simp only [List.mem_filter, mem_pairs, decide_eq_true_eq] at hadded hparent
  exact hparent.2.2 (mem_keys_of_lookup hadded.1)

/-- The view and the directly maintained map show the same grants, under the
committed map the transaction began with. -/
structure Sim (m₀ : GrantMap) (st : GrantStaging) (m : GrantMap) : Prop where
  base : st.base = m₀
  consistent : st.Consistent
  rows : ∀ id, st.lookup id = m.lookup id

variable {m₀ m : GrantMap} {st : GrantStaging}

lemma visited_perm (h : Sim m₀ st m) (w : WalkOrder) (ρ : KeyOrder) :
    ((visited w st).map Prod.snd).Perm (rows ρ m) := by
  apply List.Perm.map
  rw [List.perm_ext_iff_of_nodup (nodup_visited w st) (nodup_pairs ρ m)]
  rintro ⟨id, rec⟩
  rw [mem_visited w h.consistent, mem_pairs, h.rows]

lemma walk_all {B : Type} (fn : B → Grant → B) (recs : List Grant) (b : B) :
    walk (fun b rec => (fn b rec, true)) recs b = recs.foldl fn b := by
  induction recs generalizing b with
  | nil => rfl
  | cons rec recs ih => exact ih (fn b rec)

lemma each_all {B : Type} (w : WalkOrder) (st : GrantStaging) (fn : B → Grant → B) (b : B) :
    each w st (fun b rec => (fn b rec, true)) b = ((visited w st).map Prod.snd).foldl fn b :=
  walk_all fn _ b

lemma walk_first (recs : List Grant) :
    walk (fun _ _ => (true, false)) recs false = !recs.isEmpty := by
  cases recs <;> rfl

/-! ### Each operation against its direct counterpart -/

lemma txFind_eq (h : Sim m₀ st m) (id : String) : txFind st id = find m id := by
  unfold txFind find
  rw [← h.rows id, Overlay.lookup]
  by_cases hd : id ∈ st.deleted
  · simp only [hd, h.consistent id hd, ↓reduceIte]
  · rw [if_neg hd]
    cases hw : st.written.lookup id with
    | some rec => rfl
    | none =>
      simp only [hd, ↓reduceIte]
      cases st.base.lookup id <;> rfl

lemma txListBySubject_perm (h : Sim m₀ st m) (w : WalkOrder) (ρ : KeyOrder)
    (subject : String) : (txListBySubject w st subject).Perm (listBySubject ρ m subject) := by
  unfold txListBySubject listBySubject
  rw [each_all, collectSubject_foldl, collectSubject_foldl, List.nil_append, List.nil_append]
  exact (visited_perm h w ρ).filter _

lemma txListClientIDsBySubject_eq (h : Sim m₀ st m) (w : WalkOrder) (ρ : KeyOrder)
    (subject cursor : String) (limit : ℤ) : txListClientIDsBySubject w st subject cursor limit =
      listClientIDsBySubject ρ m subject cursor limit := by
  unfold txListClientIDsBySubject listClientIDsBySubject
  rw [each_all, add_foldl_perm (addClientID_eq subject) (visited_perm h w ρ)]

lemma txListSubjectsByClient_eq (h : Sim m₀ st m) (w : WalkOrder) (ρ : KeyOrder)
    (clientID cursor : String) (limit : ℤ) : txListSubjectsByClient w st clientID cursor limit =
      listSubjectsByClient ρ m clientID cursor limit := by
  unfold txListSubjectsByClient listSubjectsByClient
  rw [each_all, add_foldl_perm (addSubject_eq clientID) (visited_perm h w ρ)]

lemma hasAny_eq (ρ : KeyOrder) (m : GrantMap) : hasAny m = !(rows ρ m).isEmpty := by
  have hiff : 0 < m.keys.card ↔ rows ρ m ≠ [] := by
    rw [Finset.card_pos]
    constructor
    · rintro ⟨id, hid⟩ hempty
      obtain ⟨rec, hrec⟩ := (mem_keys_iff m id).mp hid
      have hmem := (mem_pairs ρ m id rec).mpr hrec
      rw [rows, List.map_eq_nil_iff] at hempty
      rw [hempty] at hmem
      cases hmem
    · intro hne
      rw [rows, Ne, List.map_eq_nil_iff] at hne
      obtain ⟨⟨id, rec⟩, hmem⟩ := List.exists_mem_of_ne_nil _ hne
      exact ⟨id, mem_keys_of_lookup ((mem_pairs ρ m id rec).mp hmem)⟩
  cases hr : rows ρ m <;> simp [hasAny, hiff, hr]

lemma txHasAny_eq (h : Sim m₀ st m) (w : WalkOrder) : txHasAny w st = hasAny m := by
  rw [hasAny_eq w.parent m]
  refine (walk_first _).trans ?_
  rw [(visited_perm h w w.parent).isEmpty_eq]

lemma sim_set (h : Sim m₀ st m) (id : String) (v : Option Grant) :
    Sim m₀ (st.set id v) (put m id v) where
  base := (Overlay.base_set st id v).trans h.base
  consistent := Overlay.consistent_set h.consistent id v
  rows id' := by rw [Overlay.lookup_set, lookup_put, h.rows id']

lemma sim_save (h : Sim m₀ st m) (g : Option Grant) :
    Sim m₀ (txSave st g).1 (save m g).1 ∧ (txSave st g).2 = (save m g).2 := by
  cases g with
  | none => exact ⟨h, rfl⟩
  | some g => exact ⟨sim_set h g.id (some g), rfl⟩

/-- A grant the store held when the transaction began, and that the calls made
so far removed. -/
def RemovedMeanwhile (m₀ m : GrantMap) (id : String) : Prop := id ∈ m₀.keys ∧ id ∉ m.keys

/-- The view has a row to delete where the direct store has one, and besides
for a grant that was removed meanwhile. -/
theorem txDelete_guard (h : Sim m₀ st m) (id : String) :
    (id ∉ st.written.keys ∧ id ∉ st.base.keys) ↔ id ∉ m.keys ∧ ¬RemovedMeanwhile m₀ m id := by
  have hm : id ∈ m.keys ↔ ∃ rec, st.lookup id = some rec := by rw [mem_keys_iff, h.rows]
  rw [RemovedMeanwhile, ← h.base, hm]
  constructor
  · rintro ⟨hw, hb⟩
    refine ⟨?_, fun hr => hb hr.1⟩
    rintro ⟨rec, hrec⟩
    have hmem := Overlay.mem_keys_of_view hrec
    rw [Finset.mem_union] at hmem
    exact hmem.elim hw hb
  · rintro ⟨hnone, hr⟩
    refine ⟨fun hw => ?_, fun hb => hr ⟨hb, hnone⟩⟩
    obtain ⟨rec, hrec⟩ := (mem_keys_iff _ _).mp hw
    exact hnone ⟨rec, Overlay.lookup_of_written hrec⟩

/-- The deletion always leaves corresponding states; its answer is the direct
one unless the grant was removed meanwhile, when it reports success again. -/
theorem sim_delete (h : Sim m₀ st m) (id : String) :
    Sim m₀ (txDelete st id).1 (delete m id).1 ∧
      ((txDelete st id).2 = (delete m id).2 ↔ ¬RemovedMeanwhile m₀ m id) := by
  unfold txDelete delete
  cases hrec : m.lookup id with
  | some rec =>
    have hmem := mem_keys_of_lookup hrec
    have hguard : ¬(id ∉ st.written.keys ∧ id ∉ st.base.keys) := by
      rw [txDelete_guard h]
      exact fun hg => hg.1 hmem
    rw [if_neg hguard]
    exact ⟨sim_set h id none, iff_of_true rfl fun hr => hr.2 hmem⟩
  | none =>
    have hmem : id ∉ m.keys := by rw [mem_keys_iff, hrec]; simp
    by_cases hr : RemovedMeanwhile m₀ m id
    · have hguard : ¬(id ∉ st.written.keys ∧ id ∉ st.base.keys) := by
        rw [txDelete_guard h]
        exact fun hg => hg.2 hr
      have hsim := sim_set h id none
      have hsame : put m id none = m := by
        apply Finmap.ext_lookup
        intro id'
        rw [lookup_put]
        split_ifs with he
        · rw [he, hrec]
        · rfl
      rw [if_neg hguard]
      exact ⟨hsame ▸ hsim, iff_of_false (by simp) (not_not.mpr hr)⟩
    · rw [if_pos ((txDelete_guard h id).mpr ⟨hmem, hr⟩)]
      exact ⟨h, iff_of_true rfl hr⟩

/-! ### Main result -/

def DeletesOnce (m₀ m : GrantMap) (c : RangedCall) : Prop :=
  ∀ id, c.call = .delete id → ¬RemovedMeanwhile m₀ m id

lemma staged_simulates (h : Sim m₀ st m) (c : RangedCall) :
    Sim m₀ (staged st c).1 (direct m c).1 ∧
      ((staged st c).2 = (direct m c).2 ↔ DeletesOnce m₀ m c) := by
  obtain ⟨call, ρ, w⟩ := c
  cases call with
  | delete id =>
    obtain ⟨hsim, hreply⟩ := sim_delete h id
    refine ⟨hsim, ?_⟩
    simp only [staged, direct, DeletesOnce, Reply.done.injEq, Call.delete.injEq]
    exact hreply.trans ⟨fun hr id' he => he ▸ hr, fun hr => hr id rfl⟩
  | save g =>
    obtain ⟨hsim, hreply⟩ := sim_save h g
    exact ⟨hsim, iff_of_true (congrArg Reply.done hreply) nofun⟩
  | find id => exact ⟨h, iff_of_true (congrArg Reply.found (txFind_eq h id)) nofun⟩
  | listBySubject subject =>
    have hperm := Multiset.coe_eq_coe.mpr (txListBySubject_perm h w ρ subject)
    exact ⟨h, iff_of_true (congrArg Reply.grants hperm) nofun⟩
  | listClientIDsBySubject subject cursor limit =>
    have hpage := txListClientIDsBySubject_eq h w ρ subject cursor limit
    exact ⟨h, iff_of_true (congrArg Reply.page hpage) nofun⟩
  | listSubjectsByClient clientID cursor limit =>
    have hpage := txListSubjectsByClient_eq h w ρ clientID cursor limit
    exact ⟨h, iff_of_true (congrArg Reply.page hpage) nofun⟩
  | hasAny => exact ⟨h, iff_of_true (congrArg Reply.any (txHasAny_eq h w)) nofun⟩

lemma sim_open (m : GrantMap) : Sim m (grants.openTx m) m where
  base := rfl
  consistent := Overlay.consistent_new m
  rows _ := rfl

lemma flushLocked_eq (h : Sim m₀ st m) (ρ : KeyOrder) : flushLocked ρ st = m := by
  apply Finmap.ext_lookup
  intro id
  rw [← h.rows id]
  exact lookup_flush _ _ ρ st () id

/-- Call by call the same replies, and after the commit the same map. -/
def SameAsDirect (m : GrantMap) (cs : List RangedCall) : Prop :=
  (run grants.staged (grants.openTx m) cs).2 = (run grants.direct m cs).2 ∧
    ∀ ρ, grants.commit (run grants.staged (grants.openTx m) cs).1 ρ =
      (run grants.direct m cs).1

/-- On every grant store a transaction is the same as its calls made directly
exactly when it never deletes a committed grant that it has already removed. A
commit leaves the map of the direct calls in any case, and a rollback leaves
the map as it was. -/
theorem grant_transaction_same_as_direct_iff (m : GrantMap) (cs : List RangedCall) :
    (SameAsDirect m cs ↔ Along grants.direct (DeletesOnce m) m cs) ∧
      (∀ ρ, grants.commit (run grants.staged (grants.openTx m) cs).1 ρ =
        (run grants.direct m cs).1) ∧
      grants.rollback (run grants.staged (grants.openTx m) cs).1 = m := by
  have hstep : ∀ t s c, Sim m t s → Sim m (grants.staged t c).1 (grants.direct s c).1 ∧
      ((grants.staged t c).2 = (grants.direct s c).2 ↔ DeletesOnce m s c) :=
    fun _ _ c h => staged_simulates h c
  obtain ⟨hsim, hreplies⟩ := grants.run_agrees_iff hstep (sim_open m) cs
  have hcommit : ∀ ρ, grants.commit (run grants.staged (grants.openTx m) cs).1 ρ =
      (run grants.direct m cs).1 := flushLocked_eq hsim
  exact ⟨⟨fun h => hreplies.mp h.1, fun h => ⟨hreplies.mpr h, hcommit⟩⟩, hcommit, hsim.base⟩

def sampleGrant (id : String) : Grant := { (default : Grant) with id := id, subject := "subject" }

def ranged (c : Call) : RangedCall :=
  ⟨c, ascending, ⟨ascending, ascending⟩⟩

/-- A store with one grant, and a transaction that deletes it twice. -/
def oneGrant : GrantMap := Finmap.singleton "g1" (sampleGrant "g1")

def deleteTwice : List RangedCall := [ranged (.delete "g1"), ranged (.delete "g1")]

/-- The second deletion reports success in the transaction and `ErrNotFound`
on the store. -/
theorem second_delete_reports_success :
    (run grants.staged (grants.openTx oneGrant) deleteTwice).2 = [.done none, .done none] ∧
      (run grants.direct oneGrant deleteTwice).2 = [.done none, .done (some .notFound)] ∧
      ¬SameAsDirect oneGrant deleteTwice := by
  have hstaged : (run grants.staged (grants.openTx oneGrant) deleteTwice).2 =
      [.done none, .done none] := rfl
  have hdirect : (run grants.direct oneGrant deleteTwice).2 =
      [.done none, .done (some .notFound)] := rfl
  refine ⟨hstaged, hdirect, fun h => ?_⟩
  have hreplies := h.1
  rw [hstaged, hdirect] at hreplies
  simp at hreplies

/-! ### The latest grant of a pair -/

/-- After any calls of a transaction, `FindBySubjectClient` finds a grant in it exactly if it
finds one on the store after the direct calls, and one that was updated at the same time,
whatever the map orders are. -/
theorem latest_same_as_direct (m : GrantMap) (cs : List RangedCall) (w : WalkOrder)
    (ρ : KeyOrder) (subject clientID : String) :
    (txFindBySubjectClient w (run grants.staged (grants.openTx m) cs).1 subject clientID).map
        Grant.updatedAt =
      (findBySubjectClient ρ (run grants.direct m cs).1 subject clientID).map Grant.updatedAt := by
  have hstep : ∀ t s c, Sim m t s → Sim m (grants.staged t c).1 (grants.direct s c).1 ∧
      ((grants.staged t c).2 = (grants.direct s c).2 ↔ DeletesOnce m s c) :=
    fun _ _ c h => staged_simulates h c
  obtain ⟨hsim, _⟩ := grants.run_agrees_iff hstep (sim_open m) cs
  have hempty : Latest subject clientID [] none := fun _ h => absurd h List.not_mem_nil
  have hdirect := latest_foldl hempty (rows ρ (run grants.direct m cs).1)
  have hsame := (latest_foldl hempty _).updatedAt_eq hdirect (visited_perm hsim w ρ)
  unfold txFindBySubjectClient findBySubjectClient
  rw [each_all]
  generalize ((visited w _).map Prod.snd).foldl (keepLatest subject clientID) none = found
    at hsame ⊢
  generalize (rows ρ _).foldl (keepLatest subject clientID) none = found' at hsame ⊢
  cases found with
  | none =>
    rw [Option.map_eq_none_iff.mp hsame.symm]
  | some g =>
    obtain ⟨g', rfl, hg⟩ := Option.map_eq_some_iff.mp hsame.symm
    exact congrArg Except.ok hg.symm

end OidcProvider.GrantTransactions
