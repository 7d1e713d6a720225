import OidcProvider.FiniteMaps
import OidcProvider.SortedPages
import OidcProvider.StoreRecords

/-!
# The in-memory grant store

`inmem/grantstore.go`: a map of grants by id, and the queries that range over
it. A query is written over the list of rows in the order its loop visits them,
so that the same body serves the committed map and the staged view. What each
query returns is shown to depend on the visited rows only up to their order.
-/
namespace OidcProvider.GrantStore
open FiniteMaps SortedPages StoreRecords

variable {body : SortedPageBuilder → Grant → SortedPageBuilder} {value : Grant → String}
  {keep : Grant → Bool}

abbrev GrantMap := StringMap Grant

/-! ### Pages -/

/-- Collects the smallest values past the cursor, up to the limit. -/
structure SortedPageBuilder where
  cursor : String
  page : Page String

def newSortedPageBuilder (cursor : String) (limit : ℕ) : SortedPageBuilder :=
  ⟨cursor, ⟨limit, [], false⟩⟩

/-- A value at or before the cursor was on an earlier page. -/
def SortedPageBuilder.add (b : SortedPageBuilder) (value : String) : SortedPageBuilder :=
  if value = "" ∨ value ≤ b.cursor then b else { b with page := b.page.insert value }

structure GrantPage where
  values : List String
  nextCursor : String
  deriving DecidableEq

/-- The cursor of a further page is the last value of this one. -/
def SortedPageBuilder.result (b : SortedPageBuilder) : GrantPage :=
  ⟨b.page.items, if b.page.more then b.page.items.getLast?.getD "" else ""⟩

/-! ### The bodies of the range loops -/

/-- Of the grants of the pair the one updated last; among equals, the first visited. -/
def keepLatest (subject clientID : String) (best : Option Grant) (rec : Grant) : Option Grant :=
  if rec.subject ≠ subject ∨ rec.clientID ≠ clientID then best
  else match best with
    | none => some rec
    | some b => if b.updatedAt < rec.updatedAt then some rec else best

def collectSubject (subject : String) (out : List Grant) (rec : Grant) : List Grant :=
  if rec.subject = subject then out ++ [rec] else out

def addClientID (subject : String) (b : SortedPageBuilder) (rec : Grant) : SortedPageBuilder :=
  if rec.subject = subject then b.add rec.clientID else b

def addSubject (clientID : String) (b : SortedPageBuilder) (rec : Grant) : SortedPageBuilder :=
  if rec.clientID = clientID then b.add rec.subject else b

/-! ### The operations -/

def save (m : GrantMap) : Option Grant → GrantMap × Option StoreError
  | none => (m, some (.other "inmem: nil grant"))
  | some g => (m.insert g.id g, none)

def find (m : GrantMap) (id : String) : Fallible Grant :=
  match m.lookup id with
  | none => .error .notFound
  | some rec => .ok rec

/-- The stored grants in the order Go ranges over the map. -/
def rows (ρ : KeyOrder) (m : GrantMap) : List Grant := (pairs ρ m).map Prod.snd

def findBySubjectClient (ρ : KeyOrder) (m : GrantMap) (subject clientID : String) :
    Fallible Grant :=
  match (rows ρ m).foldl (keepLatest subject clientID) none with
  | none => .error .notFound
  | some best => .ok best

def listBySubject (ρ : KeyOrder) (m : GrantMap) (subject : String) : List Grant :=
  (rows ρ m).foldl (collectSubject subject) []

def listClientIDsBySubject (ρ : KeyOrder) (m : GrantMap) (subject cursor : String)
    (limit : ℤ) : Fallible GrantPage :=
  if limit ≤ 0 then .error (.other "inmem: grant client page limit must be positive")
  else .ok ((rows ρ m).foldl (addClientID subject)
    (newSortedPageBuilder cursor limit.toNat)).result

def listSubjectsByClient (ρ : KeyOrder) (m : GrantMap) (clientID cursor : String)
    (limit : ℤ) : Fallible GrantPage :=
  if limit ≤ 0 then .error (.other "inmem: grant subject page limit must be positive")
  else .ok ((rows ρ m).foldl (addSubject clientID)
    (newSortedPageBuilder cursor limit.toNat)).result

/-- `HasAny`: whether the store holds any grant at all. -/
def hasAny (m : GrantMap) : Bool := decide (0 < m.keys.card)

def delete (m : GrantMap) (id : String) : GrantMap × Option StoreError :=
  match m.lookup id with
  | none => (m, some .notFound)
  | some _ => (m.erase id, none)

/-- `RevokeByClient` deletes the grants; the empty client matches none. -/
def revokeByClient (ρ : KeyOrder) (m : GrantMap) (clientID : String) : GrantMap :=
  if clientID = "" then m else sweep (fun rec => decide (rec.clientID = clientID)) ρ m

/-! ### The queries see a multiset of rows -/

lemma collectSubject_foldl (subject : String) (rs out : List Grant) :
    rs.foldl (collectSubject subject) out =
      out ++ rs.filter fun rec => decide (rec.subject = subject) := by
  induction rs generalizing out with
  | nil => simp
  | cons r rs ih =>
    rw [List.foldl_cons, ih]
    by_cases h : r.subject = subject <;> simp [collectSubject, h]

/-- Whether the builder takes the value up. -/
def listed (cursor value : String) : Bool := !decide (value = "" ∨ value ≤ cursor)

/-- A page loop inserts the values of the rows it keeps, those past the cursor. -/
lemma add_foldl (hbody : ∀ b rec, body b rec = if keep rec then b.add (value rec) else b)
    (rs : List Grant) (b : SortedPageBuilder) :
    rs.foldl body b =
      ⟨b.cursor, b.page.insertAll (((rs.filter keep).map value).filter (listed b.cursor))⟩ := by
  induction rs generalizing b with
  | nil => rfl
  | cons r rs ih =>
    rw [List.foldl_cons, ih, hbody]
    cases hk : keep r with
    | false => simp [hk]
    | true =>
      rw [if_pos rfl, List.filter_cons_of_pos hk, List.map_cons, SortedPageBuilder.add]
      split_ifs with hv
      · have hlisted : ¬listed b.cursor (value r) = true := by simp [listed, hv]
        rw [List.filter_cons_of_neg hlisted]
      · have hlisted : listed b.cursor (value r) = true := by simp [listed, hv]
        rw [List.filter_cons_of_pos hlisted]
        rfl

/-- The page does not depend on the order of the rows. -/
lemma add_foldl_perm (hbody : ∀ b rec, body b rec = if keep rec then b.add (value rec) else b)
    {rs rs' : List Grant} (h : rs.Perm rs') (cursor : String) (limit : ℕ) :
    rs.foldl body (newSortedPageBuilder cursor limit) =
      rs'.foldl body (newSortedPageBuilder cursor limit) := by
  rw [add_foldl hbody, add_foldl hbody]
  congr 1
  apply insertAll_eq_of_toFinset_eq
  exact List.toFinset_eq_of_perm _ _ (((h.filter keep).map value).filter _)

lemma addClientID_eq (subject : String) (b : SortedPageBuilder) (rec : Grant) :
    addClientID subject b rec =
      if decide (rec.subject = subject) then b.add rec.clientID else b := by
  by_cases h : rec.subject = subject <;> simp [addClientID, h]

lemma addSubject_eq (clientID : String) (b : SortedPageBuilder) (rec : Grant) :
    addSubject clientID b rec =
      if decide (rec.clientID = clientID) then b.add rec.subject else b := by
  by_cases h : rec.clientID = clientID <;> simp [addSubject, h]

/-- `best` is a grant of the pair that no seen grant of the pair was updated after. -/
def Latest (subject clientID : String) (seen : List Grant) : Option Grant → Prop
  | none => ∀ rec ∈ seen, ¬(rec.subject = subject ∧ rec.clientID = clientID)
  | some best => best ∈ seen ∧ best.subject = subject ∧ best.clientID = clientID ∧
      ∀ rec ∈ seen, rec.subject = subject → rec.clientID = clientID →
        rec.updatedAt ≤ best.updatedAt

variable {subject clientID : String}

lemma latest_keepLatest {seen : List Grant} {best : Option Grant}
    (h : Latest subject clientID seen best) (rec : Grant) :
    Latest subject clientID (seen ++ [rec]) (keepLatest subject clientID best rec) := by
  unfold keepLatest
  cases best with
  | none =>
    split_ifs with hrec
    · simp only [Latest, List.mem_append, List.mem_singleton] at h ⊢
      rintro r (hr | rfl)
      · exact h r hr
      · tauto
    · push Not at hrec
      refine ⟨by simp, hrec.1, hrec.2, fun r hr hs hc => ?_⟩
      rcases List.mem_append.mp hr with hr | hr
      · exact absurd ⟨hs, hc⟩ (h r hr)
      · rw [List.mem_singleton.mp hr]
  | some b =>
    obtain ⟨hb, hbs, hbc, hmax⟩ := h
    split_ifs with hrec
    · refine ⟨List.mem_append_left _ hb, hbs, hbc, fun r hr hs hc => ?_⟩
      rcases List.mem_append.mp hr with hr | hr
      · exact hmax r hr hs hc
      · rw [List.mem_singleton.mp hr] at hs hc
        tauto
    · push Not at hrec
      dsimp only
      split_ifs with hlater
      · refine ⟨by simp, hrec.1, hrec.2, fun r hr hs hc => ?_⟩
        rcases List.mem_append.mp hr with hr | hr
        · exact (hmax r hr hs hc).trans hlater.le
        · rw [List.mem_singleton.mp hr]
      · refine ⟨List.mem_append_left _ hb, hbs, hbc, fun r hr hs hc => ?_⟩
        rcases List.mem_append.mp hr with hr | hr
        · exact hmax r hr hs hc
        · rw [List.mem_singleton.mp hr]
          exact not_lt.mp hlater

lemma latest_foldl {seen : List Grant} {best : Option Grant}
    (h : Latest subject clientID seen best) (rs : List Grant) :
    Latest subject clientID (seen ++ rs) (rs.foldl (keepLatest subject clientID) best) := by
  induction rs generalizing seen best with
  | nil => simpa using h
  | cons r rs ih => simpa using ih (latest_keepLatest h r)

/-- The latest grants of a pair in two orders of the same rows were updated at one time. -/
theorem Latest.updatedAt_eq {xs ys : List Grant} {b b' : Option Grant}
    (h : Latest subject clientID xs b) (h' : Latest subject clientID ys b') (hperm : xs.Perm ys) :
    b.map Grant.updatedAt = b'.map Grant.updatedAt := by
  cases b with
  | none =>
    cases b' with
    | none => rfl
    | some g => exact absurd ⟨h'.2.1, h'.2.2.1⟩ (h g (hperm.mem_iff.mpr h'.1))
  | some g =>
    cases b' with
    | none => exact absurd ⟨h.2.1, h.2.2.1⟩ (h' g (hperm.mem_iff.mp h.1))
    | some g' =>
      have hle := h'.2.2.2 g (hperm.mem_iff.mp h.1) h.2.1 h.2.2.1
      have hge := h.2.2.2 g' (hperm.mem_iff.mpr h'.1) h'.2.1 h'.2.2.1
      exact congrArg some (le_antisymm hle hge)

end OidcProvider.GrantStore
