import OidcProvider.DynamoTables
import OidcProvider.InterleavedCalls

/-!
# The cascade links of grants

Direct `Save` and `Delete` of grants (`dynamodb/grants.go`) keep, beside each grant, a link by
its subject and one by its client, which the enumerations of a cascade read. The links are put
before the item and dropped after it, each by a call of its own, and calls of any number of
savers and deleters interleave.
-/
namespace OidcProvider.DynamoGrantLinks
open FiniteMaps StoreRecords DynamoTables InterleavedCalls

/-! ### Items and links -/

def linkPK (table attr value : String) : String := table ++ "#" ++ attr ++ "#" ++ value

/-- `linkItems` of a grant: the keys of its links. An attribute that is absent has none. -/
def linkItems (table pk : String) (entry : GrantItem) : List Key :=
  ([("subject", entry.subject), ("client_id", entry.clientID)].filter fun a => a.2 ≠ "").map
    fun a => .cascade (linkPK table a.1 a.2) pk

def subjectClientKey (subject clientID : String) : String :=
  if subject = "" ∧ clientID = "" then "" else subject ++ "\x00" ++ clientID

def grantItem (g : Grant) : Fallible GrantItem :=
  if g.clientID = "" then .error (.other "oidcdynamo: grant missing ClientID")
  else .ok
    { doc := g
      subject := g.subject
      clientID := g.clientID
      subjectClient := subjectClientKey g.subject g.clientID
      recordVersion := none }

def Item.grant? : Item → Option GrantItem
  | .grant g => some g
  | _ => none

/-! ### Calls -/

inductive Op where
  | save (g : Grant)
  | delete (id : String)

/-- Where a call stands. `put` and `todo` are the links that a `Save` has put and has still to
put; the links that a `Delete` has still to drop are those of the item it has deleted. -/
inductive Phase where
  | begun
  | linking (id : String) (entry : GrantItem) (put todo : List Key)
  | dropping (id : String) (todo : List Key)
  | returned (result : StoreReply)
  deriving DecidableEq

section System
variable (table : String) (ops : ℕ → Op)

/-- The next DynamoDB call of a `Save`: `putLinks`, then `putBumpingVersion`. -/
def saveStep (db : Database) (id : String) (entry : GrantItem) (put : List Key) :
    List Key → Database × Phase
  | link :: todo =>
    ((handle [] (.write [.put link .cascade .always none]) db).1,
      .linking id entry (put ++ [link]) todo)
  | [] => ((handle [] (.bumpGrant id entry) db).1, .returned (.ok ()))

/-- The next call of `dropLinks`. -/
def dropStep (db : Database) (id : String) : List Key → Database × Phase
  | link :: todo =>
    ((handle [] (.deleteItem link) db).1,
      if todo.isEmpty then .returned (.ok ()) else .dropping id todo)
  | [] => (db, .returned (.ok ()))

/-- DynamoDB refuses an empty key. -/
def refused : StoreError := .other "ValidationException"

def begin (db : Database) : Op → Database × Phase
  | .save g =>
    match grantItem g with
    | .error err => (db, .returned (.error err))
    | .ok entry =>
      if g.id = "" then (db, .returned (.error refused))
      else saveStep db g.id entry [] (linkItems table g.id entry)
  | .delete id =>
    if id = "" then (db, .returned (.error refused))
    else match (handle [] (.deleteItem (.grant id)) db).2 with
      | some (.grant old) =>
        ((handle [] (.deleteItem (.grant id)) db).1, .dropping id (linkItems table id old))
      | _ => (db, .returned (.error .notFound))

def advance (i : ℕ) (_ : Unit) (db : Database) : Phase → Database × Phase
  | .begun => begin table db (ops i)
  | .linking id entry put todo => saveStep db id entry put todo
  | .dropping id todo => dropStep db id todo
  | .returned result => (db, .returned result)

abbrev State := Pool Database Phase

def initial (db : Database) : State := ⟨db, fun _ => .begun⟩

/-- When a `Delete` drops a link, the grant has not been stored again, and no `Save` in progress
has put the link. -/
def Undisturbed (σ : State) (m : ℕ × Unit) : Prop :=
  match σ.phase m.1 with
  | .dropping id (link :: _) => σ.shared.items.lookup (.grant id) = none ∧
      ∀ j id' entry put todo, σ.phase j = .linking id' entry put todo → link ∉ put
  | _ => True

/-! ### Enumerations -/

/-- `queryPartition` on the links: the members, in some order. -/
def linkedMembers (ρ : RangeOrder Key) (db : Database) (partition : String) : List String :=
  (ρ.visit db.items.keys).filterMap fun
    | .cascade p member => if p = partition then some member else none
    | _ => none

/-- `enumerateCommitted`; `hits` are the keys the index comes up with. -/
def enumerateCommitted (ρ : RangeOrder Key) (hits : List String) (db : Database)
    (attr value : String) : List String :=
  ((linkedMembers ρ db (linkPK table attr value) ++ hits).filter fun pk => pk ≠ "").eraseDups

/-- `Find`. -/
def findGrant (db : Database) (id : String) : Option Grant :=
  ((db.items.lookup (.grant id)).bind Item.grant?).map GrantItem.doc

def listBySubject (ρ : RangeOrder Key) (hits : List String) (db : Database) (subject : String) :
    List Grant :=
  (enumerateCommitted table ρ hits db "subject" subject).filterMap fun id =>
    (findGrant db id).filter fun g => g.subject = subject

def deleteGrant (db : Database) (id : String) : Database :=
  match (begin table db (.delete id)).2 with
  | .dropping _ todo =>
    todo.foldl (fun db link => (dropStep db id [link]).1) (begin table db (.delete id)).1
  | _ => db

def revokeByClient (ρ : RangeOrder Key) (hits : List String) (db : Database) (clientID : String) :
    Database :=
  if clientID = "" then db
  else (enumerateCommitted table ρ hits db "client_id" clientID).foldl (fun db id =>
    if (findGrant db id).any fun g => g.clientID = clientID then deleteGrant table db id else db) db

end System

/-! ### No call loses a link -/

/-- The subject and the client of a grant are those its identifier always has. -/
structure Owned (owner : String → String × String) (id : String) (entry : GrantItem) : Prop where
  named : id ≠ ""
  subject : entry.subject ≠ ""
  clientID : entry.clientID ≠ ""
  attributes : (entry.subject, entry.clientID) = owner id
  document : (entry.doc.subject, entry.doc.clientID) = owner id

def bothLinks (table : String) (owner : String → String × String) (id : String) : List Key :=
  [.cascade (linkPK table "subject" (owner id).1) id,
    .cascade (linkPK table "client_id" (owner id).2) id]

structure Linked (table : String) (owner : String → String × String) (σ : State) : Prop where
  stored : ∀ id item, σ.shared.items.lookup (.grant id) = some item →
    (∃ g, item = .grant g ∧ Owned owner id g) ∧
      ∀ link ∈ bothLinks table owner id, σ.shared.items.lookup link ≠ none
  linking : ∀ i id entry put todo, σ.phase i = .linking id entry put todo →
    Owned owner id entry ∧ put ++ todo = bothLinks table owner id ∧
      ∀ link ∈ put, σ.shared.items.lookup link ≠ none
  dropping : ∀ i id todo, σ.phase i = .dropping id todo → ∀ link ∈ todo, ∃ p, link = .cascade p id

section Steps
variable {table : String} {owner : String → String × String} {ops : ℕ → Op}
variable {id : String} {entry : GrantItem} (db : Database)

lemma linkItems_owned (h : Owned owner id entry) :
    linkItems table id entry = bothLinks table owner id := by
  simp only [bothLinks, ← h.attributes]
  simp [linkItems, h.subject, h.clientID]

lemma mem_linkItems {link : Key} (h : link ∈ linkItems table id entry) :
    ∃ p, link = .cascade p id := by
  simp only [linkItems, List.mem_map] at h
  obtain ⟨a, _, rfl⟩ := h
  exact ⟨_, rfl⟩

lemma mem_bothLinks {link : Key} (h : link ∈ bothLinks table owner id) :
    ∃ p, link = .cascade p id := by
  simp only [bothLinks, List.mem_cons, List.not_mem_nil, or_false] at h
  rcases h with rfl | rfl <;> exact ⟨_, rfl⟩

lemma Owned.over (h : Owned owner id entry) (stored : Option Item) :
    Owned owner id (entry.over stored) := by
  obtain ⟨hid, hsubject, hclient, hattributes, hdocument⟩ := h
  unfold GrantItem.over
  split
  · simp only [if_neg hsubject]
    exact ⟨hid, hsubject, hclient, hattributes, hdocument⟩
  · exact ⟨hid, hsubject, hclient, hattributes, hdocument⟩

lemma lookup_putLink (link key : Key) :
    (handle [] (.write [.put link .cascade .always none]) db).1.items.lookup key =
      if key = link then some .cascade else db.items.lookup key := by
  by_cases h : key = link <;>
    simp [handle, write, Action.key, Action.holds, Guard.holds, Action.result, h,
      lookup_applyAction]

lemma lookup_bump (id : String) (entry : GrantItem) (key : Key) :
    (handle [] (.bumpGrant id entry) db).1.items.lookup key =
      if key = .grant id then some (.grant (entry.over (db.items.lookup (.grant id))))
      else db.items.lookup key :=
  lookup_insert_ite ..

lemma lookup_delete (link key : Key) :
    (handle [] (.deleteItem link) db).1.items.lookup key =
      if key = link then none else db.items.lookup key :=
  lookup_erase_ite ..

/-- What a step does, said once. -/
inductive Advance (table : String) (owner : String → String × String) (db : Database) :
    Phase → Database → Phase → Prop
  | opened {id entry link todo} : Owned owner id entry → link :: todo = bothLinks table owner id →
      Advance table owner db .begun (handle [] (.write [.put link .cascade .always none]) db).1
        (.linking id entry [link] todo)
  | linked {id entry put link todo} :
      Advance table owner db (.linking id entry put (link :: todo))
        (handle [] (.write [.put link .cascade .always none]) db).1
        (.linking id entry (put ++ [link]) todo)
  | stored {id entry put} : Advance table owner db (.linking id entry put [])
      (handle [] (.bumpGrant id entry) db).1 (.returned (.ok ()))
  | deleted {id todo} : (∀ link ∈ todo, ∃ p, link = .cascade p id) →
      Advance table owner db .begun (handle [] (.deleteItem (.grant id)) db).1 (.dropping id todo)
  | dropped {id link todo p'} : p' = .returned (.ok ()) ∨ p' = .dropping id todo →
      Advance table owner db (.dropping id (link :: todo)) (handle [] (.deleteItem link) db).1 p'
  | returned {p result} : Advance table owner db p db (.returned result)

lemma advance_cases (table : String)
    (hops : ∀ i g, ops i = .save g → (g.subject, g.clientID) = owner g.id)
    (hsubjects : ∀ i g, ops i = .save g → g.subject ≠ "") (i : ℕ) (u : Unit) (db : Database)
    (p : Phase) :
    Advance table owner db p (advance table ops i u db p).1 (advance table ops i u db p).2 := by
  cases p with
  | begun =>
    unfold advance
    cases hop : ops i with
    | save g =>
      unfold begin grantItem
      by_cases hclient : g.clientID = ""
      · simp only [if_pos hclient]
        exact .returned
      by_cases hid : g.id = ""
      · simp only [if_neg hclient, if_pos hid]
        exact .returned
      · have howned : Owned owner g.id (⟨g, g.subject, g.clientID,
            subjectClientKey g.subject g.clientID, none⟩ : GrantItem) :=
          ⟨hid, hsubjects i g hop, hclient, hops i g hop, hops i g hop⟩
        simp only [if_neg hclient, if_neg hid, linkItems_owned howned]
        exact .opened howned rfl
    | delete id =>
      unfold begin
      by_cases hid : id = ""
      · simp only [if_pos hid]
        exact .returned
      · simp only [if_neg hid]
        split
        · exact .deleted fun link => mem_linkItems
        · exact .returned
  | linking id entry put todo =>
    cases todo with
    | nil => exact .stored
    | cons link todo => exact .linked
  | dropping id todo =>
    cases todo with
    | nil => exact .returned
    | cons link todo =>
      refine .dropped ?_
      unfold advance dropStep
      dsimp only
      split_ifs
      · exact .inl rfl
      · exact .inr rfl
  | returned result => exact .returned

lemma linked_step (hops : ∀ i g, ops i = .save g → (g.subject, g.clientID) = owner g.id)
    (hsubjects : ∀ i g, ops i = .save g → g.subject ≠ "") (σ : State) (m : ℕ × Unit)
    (h : Linked table owner σ) (hok : Undisturbed σ m) :
    Linked table owner (step (advance table ops) σ m) := by
  obtain ⟨p, db, p', hp, hadvance, hstep⟩ :=
    step_cases (R := fun _ _ => Advance table owner) (advance_cases table hops hsubjects) σ m
  obtain ⟨hstored, hlinking, hdropping⟩ := h
  rw [hstep]
  have hphase : ∀ i, Function.update σ.phase m.1 p' i = if i = m.1 then p' else σ.phase i :=
    fun i => Function.update_apply ..
  cases hadvance with
  | opened howned hboth => constructor <;> grind [lookup_putLink, mem_bothLinks]
  | linked => constructor <;> grind [lookup_putLink, mem_bothLinks]
  | stored =>
    obtain ⟨howned, hboth, hput⟩ := hlinking _ _ _ _ _ hp
    constructor
    · grind [lookup_bump, mem_bothLinks, howned.over]
    · grind [lookup_bump, mem_bothLinks]
    · grind
  | deleted hlinks =>
    have hput : ∀ i id entry put todo, σ.phase i = .linking id entry put todo →
        ∀ link ∈ put, ∃ p, link = .cascade p id := fun i id entry put todo hi link hlink =>
      mem_bothLinks ((hlinking i id entry put todo hi).2.1 ▸ List.mem_append_left todo hlink)
    constructor <;> grind [lookup_delete, mem_bothLinks]
  | dropped hnext =>
    obtain ⟨partition, rfl⟩ := hdropping _ _ _ hp _ List.mem_cons_self
    simp only [Undisturbed, hp] at hok
    constructor
    · grind [lookup_delete, mem_bothLinks]
    · grind [lookup_delete]
    · grind
  | returned => constructor <;> grind

/-! ### What the enumerations reach -/

lemma mem_enumerateCommitted {ρ : RangeOrder Key} {hits : List String} {db : Database}
    {attr value : String} (hid : id ≠ "")
    (hlink : db.items.lookup (.cascade (linkPK table attr value) id) ≠ none) :
    id ∈ enumerateCommitted table ρ hits db attr value := by
  obtain ⟨item, hitem⟩ := Option.ne_none_iff_exists'.mp hlink
  simp only [enumerateCommitted, List.mem_eraseDups, List.mem_filter, List.mem_append,
    linkedMembers, List.mem_filterMap, ρ.mem_visit]
  exact ⟨.inl ⟨_, mem_keys_of_lookup hitem, if_pos rfl⟩, by simpa using hid⟩

lemma lookup_dropLinks (todo : List Key) (db : Database) (id : String)
    (h : ∀ link ∈ todo, ∃ p, link = .cascade p id) (id' : String) :
    (todo.foldl (fun db link => (dropStep db id [link]).1) db).items.lookup (.grant id') =
      db.items.lookup (.grant id') := by
  induction todo generalizing db with
  | nil => rfl
  | cons link todo ih =>
    obtain ⟨p, rfl⟩ := h link List.mem_cons_self
    rw [List.foldl_cons, ih _ fun l hl => h l (List.mem_cons_of_mem _ hl)]
    exact (lookup_delete db _ _).trans (if_neg (by simp))

lemma findGrant_deleteGrant (table : String) (db : Database) (hid : id ≠ "") (id' : String) :
    findGrant (deleteGrant table db id) id' = if id' = id then none else findGrant db id' := by
  unfold deleteGrant begin
  simp only [if_neg hid]
  have hreply : (handle [] (.deleteItem (.grant id)) db).2 = db.items.lookup (.grant id) := rfl
  rw [hreply]
  cases hitem : db.items.lookup (.grant id) with
  | none => grind [findGrant]
  | some item =>
    cases item with
    | grant old =>
      unfold findGrant
      rw [lookup_dropLinks _ _ _ (fun link => mem_linkItems), lookup_delete]
      grind
    | _ => grind [findGrant, Item.grant?]

lemma findGrant_revokeAll (clientID : String) (ids : List String) (db : Database)
    (hids : ∀ id ∈ ids, id ≠ "") {g : Grant}
    (h : findGrant (ids.foldl (fun db id => if (findGrant db id).any fun g => g.clientID = clientID
      then deleteGrant table db id else db) db) id = some g) :
    findGrant db id = some g ∧ (id ∈ ids → g.clientID ≠ clientID) := by
  induction ids generalizing db with
  | nil => exact ⟨h, fun hmem => by cases hmem⟩
  | cons id₀ ids ih =>
    obtain ⟨hfound, hrest⟩ := ih _ (fun id hid => hids id (List.mem_cons_of_mem _ hid)) h
    have hdelete := findGrant_deleteGrant table db (hids id₀ List.mem_cons_self) id
    dsimp only at hfound
    split_ifs at hfound with hany
    · grind
    · refine ⟨hfound, fun hmem heq => ?_⟩
      rcases List.mem_cons.mp hmem with rfl | hmem
      · simp [hfound, heq] at hany
      · exact hrest hmem heq

end Steps

/-- In every interleaving of saves and deletions whose drops are undisturbed, every stored grant
has both its links at every moment; so `ListBySubject` lists it and `RevokeByClient` removes it,
whatever the indexes return. -/
theorem grant_links_kept (table : String) (owner : String → String × String) (ops : ℕ → Op)
    (hops : ∀ i g, ops i = .save g → (g.subject, g.clientID) = owner g.id)
    (hsubjects : ∀ i g, ops i = .save g → g.subject ≠ "") (db : Database)
    (hdb : Linked table owner (initial db)) (schedule : List (ℕ × Unit))
    (hok : Along (advance table ops) Undisturbed (initial db) schedule) (db' : Database)
    (hdb' : (run (advance table ops) (initial db) schedule).shared = db') :
    (∀ id item, db'.items.lookup (.grant id) = some item →
      ∀ link ∈ bothLinks table owner id, db'.items.lookup link ≠ none) ∧
    (∀ ρ hits id g, findGrant db' id = some g → g ∈ listBySubject table ρ hits db' g.subject) ∧
    ∀ ρ hits clientID id g, clientID ≠ "" →
      findGrant (revokeByClient table ρ hits db' clientID) id = some g → g.clientID ≠ clientID := by
  subst hdb'
  have hlinked := run_invariant (linked_step hops hsubjects) schedule hdb hok
  have hfound : ∀ id g,
      findGrant (run (advance table ops) (initial db) schedule).shared id = some g →
      id ≠ "" ∧ (g.subject, g.clientID) = owner id ∧ ∀ link ∈ bothLinks table owner id,
        (run (advance table ops) (initial db) schedule).shared.items.lookup link ≠ none := by
    intro id g hg
    simp only [findGrant, Option.map_eq_some_iff, Option.bind_eq_some_iff] at hg
    obtain ⟨entry, ⟨item, hitem, hentry⟩, rfl⟩ := hg
    obtain ⟨⟨entry', rfl, howned⟩, hboth⟩ := hlinked.stored id item hitem
    cases hentry
    exact ⟨howned.named, howned.document, hboth⟩
  refine ⟨fun id item hitem => (hlinked.stored id item hitem).2, fun ρ hits id g hg => ?_,
    fun ρ hits clientID id g hclient hg heq => ?_⟩
  · obtain ⟨hid, howner, hboth⟩ := hfound id g hg
    refine List.mem_filterMap.mpr ⟨id, mem_enumerateCommitted hid ?_, by simp [hg]⟩
    exact hboth _ (by simp [bothLinks, ← howner])
  · unfold revokeByClient at hg
    rw [if_neg hclient] at hg
    obtain ⟨hg, hmem⟩ := findGrant_revokeAll clientID _ _ (fun id hid => by
      simp only [enumerateCommitted, List.mem_eraseDups, List.mem_filter] at hid
      simpa using hid.2) hg
    obtain ⟨hid, howner, hboth⟩ := hfound id g hg
    refine hmem (mem_enumerateCommitted hid (hboth _ ?_)) heq
    simp [bothLinks, ← howner, heq]

def grant : Grant := { (default : Grant) with id := "g", subject := "alice", clientID := "rp" }

def resaved : ℕ → Op
  | 1 => .delete "g"
  | _ => .save grant

lemma linked_empty (table : String) (owner : String → String × String) :
    Linked table owner (initial ⟨∅, 0⟩) where
  stored id item h := by cases h
  linking i id entry put todo h := by cases h
  dropping i id todo h := by cases h

/-- The second save puts the subject link right after the deletion has dropped it, and the
client link after that one has been dropped too. -/
def resaving : List (ℕ × Unit) := [0, 0, 0, 1, 1, 2, 1, 2, 2].map (·, ())

def stage (n : ℕ) : State := run (advance "grants" resaved) (initial ⟨∅, 0⟩) (resaving.take n)

def Phase.puts : Phase → List Key
  | .linking _ _ put _ => put
  | _ => []

lemma notMem_puts {n : ℕ} {link : Key} (h : ∀ j < 3, link ∉ ((stage n).phase j).puts) :
    ∀ j id entry put todo, (stage n).phase j = .linking id entry put todo → link ∉ put := by
  intro j id entry put todo hj
  by_cases hlt : j < 3
  · have hnot := h j hlt
    rwa [hj] at hnot
  · have hcalls : ∀ m ∈ resaving, m.1 < 3 := by decide
    have hbegun : (stage n).phase j = .begun :=
      phase_run (fun m hm => (hcalls m (List.mem_of_mem_take hm)).trans_le (not_lt.mp hlt) |>.ne) _
    cases hbegun.symm.trans hj

lemma resaving_undisturbed :
    Along (advance "grants" resaved) Undisturbed (initial ⟨∅, 0⟩) resaving :=
  ⟨trivial, trivial, trivial, trivial,
    ⟨by decide +kernel, @notMem_puts 4 _ (by decide +kernel)⟩, trivial,
    ⟨by decide +kernel, @notMem_puts 6 _ (by decide +kernel)⟩, trivial, trivial, trivial⟩

theorem grant_links_kept_resaved :
    (∀ i < 3, (stage 9).phase i = .returned (.ok ())) ∧
      (stage 9).shared.items.lookup (.grant "g") ≠ none ∧
      ∀ link ∈ bothLinks "grants" (fun _ => ("alice", "rp")) "g",
        (stage 9).shared.items.lookup link ≠ none := by
  have hsaves : ∀ i g, resaved i = .save g → g = grant := by
    intro i g h
    unfold resaved at h
    split at h <;> cases h
    rfl
  have hstored : (stage 9).shared.items.lookup (.grant "g") ≠ none := by decide +kernel
  obtain ⟨item, hitem⟩ := Option.ne_none_iff_exists'.mp hstored
  refine ⟨by decide +kernel, hstored, (grant_links_kept "grants" (fun _ => ("alice", "rp")) resaved
    (fun i g h => ?_) (fun i g h => ?_) ⟨∅, 0⟩ (linked_empty _ _) resaving resaving_undisturbed
    (stage 9).shared rfl).1 "g" item hitem⟩
  · rw [hsaves i g h]
    rfl
  · rw [hsaves i g h]
    decide

/-- The second save falls between the deletion of the item and the drop of its links. -/
def crossed : State :=
  run (advance "grants" resaved) (initial ⟨∅, 0⟩) ([0, 0, 0, 1, 2, 2, 2, 1, 1].map (·, ()))

theorem crossed_save_loses_links :
    (∀ i < 3, crossed.phase i = .returned (.ok ())) ∧
      crossed.shared.items.lookup (.grant "g") ≠ none ∧
      ∀ link ∈ bothLinks "grants" (fun _ => ("alice", "rp")) "g",
        crossed.shared.items.lookup link = none := by
  decide +kernel

end OidcProvider.DynamoGrantLinks
