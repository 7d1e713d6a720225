import Mathlib.Data.List.Sort
import Mathlib.Data.String.Basic
import Mathlib.Data.Char
import Mathlib.Data.List.Induction

/-!
# JSON objects as a record decoder reads them

A decoder that fills the fields of a record walks the members of an object in
document order. A member is stored in the field whose name it equals up to
letter case, and a later member overwrites an earlier one. An encoder that
writes a map puts the names in ascending order. The two together decide which of
several members with one folded name the decoder ends up with: the greatest one.
-/
namespace OidcProvider.JsonObjects

inductive Json where
  | null
  | bool (b : Bool)
  | number (n : ℤ)
  | text (s : String)
  | array (items : List Json)
  | object (members : List (String × Json))

abbrev Members := List (String × Json)

/-- The code point that stands for a character up to simple case folding, where
it matters for names of ASCII letters: besides the letters themselves only the
long s (`0x17F`) and the Kelvin sign (`0x212A`) fold to one. -/
def foldRune (c : Char) : ℕ :=
  if c.toNat = 0x17F then 0x53
  else if c.toNat = 0x212A then 0x4B
  else if 0x61 ≤ c.toNat ∧ c.toNat ≤ 0x7A then c.toNat - 0x20
  else c.toNat

def foldName (name : String) : List ℕ := name.toList.map foldRune

/-- A member of this name is stored in the field. -/
def Reads (field name : String) : Prop := foldName name = foldName field

instance (field name : String) : Decidable (Reads field name) :=
  inferInstanceAs (Decidable (foldName name = foldName field))

lemma Reads.refl (field : String) : Reads field field := rfl

def assigned (field : String) (members : Members) : List Json :=
  (members.filter fun m => decide (Reads field m.1)).map Prod.snd

/-- The value of a member in a decoded map, where the name is taken literally
and the last member of a name stands. -/
def memberOf (name : String) (members : Members) : Option Json :=
  ((members.filter fun m => decide (m.1 = name)).getLast?).map Prod.snd

/-- A map from names to values: no name occurs twice. -/
structure JsonMap where
  members : Members
  distinct : (members.map Prod.fst).Nodup

namespace JsonMap

def empty : JsonMap := ⟨[], List.nodup_nil⟩

def get (m : JsonMap) (name : String) : Option Json := memberOf name m.members

def restrict (m : JsonMap) (keep : String → Bool) : JsonMap where
  members := m.members.filter fun e => keep e.1
  distinct := m.distinct.sublist (List.filter_sublist.map Prod.fst)

def set (m : JsonMap) (name : String) (value : Json) : JsonMap where
  members := (m.restrict fun n => decide (n ≠ name)).members ++ [(name, value)]
  distinct := by
    rw [List.map_append, List.nodup_append]
    refine ⟨(m.restrict _).distinct, by simp, ?_⟩
    intro n hn k hk hnk
    obtain ⟨e, he, rfl⟩ := List.mem_map.mp hn
    have hne : e.1 ≠ name := by simpa [restrict] using (List.mem_filter.mp he).2
    exact hne (hnk.trans (by simpa using hk))

variable {m : JsonMap} {name : String}

lemma mem_restrict {keep : String → Bool} {e : String × Json} :
    e ∈ (m.restrict keep).members ↔ e ∈ m.members ∧ keep e.1 = true :=
  List.mem_filter

lemma mem_set {value : Json} {e : String × Json} :
    e ∈ (m.set name value).members ↔
      (e ∈ m.members ∧ e.1 ≠ name) ∨ e = (name, value) := by
  simp [set, mem_restrict]

lemma value_unique {v v' : Json} (h : (name, v) ∈ m.members) (h' : (name, v') ∈ m.members) :
    v = v' :=
  congrArg Prod.snd (List.inj_on_of_nodup_map m.distinct h h' rfl)

lemma get_eq_some_iff {v : Json} : m.get name = some v ↔ (name, v) ∈ m.members := by
  rw [get, memberOf, Option.map_eq_some_iff]
  constructor
  · rintro ⟨e, he, rfl⟩
    have hmem := List.mem_filter.mp (List.mem_of_getLast? he)
    rw [← of_decide_eq_true hmem.2]
    exact hmem.1
  · intro hv
    cases hlast : (m.members.filter fun e => decide (e.1 = name)).getLast? with
    | none =>
      rw [List.getLast?_eq_none_iff, List.filter_eq_nil_iff] at hlast
      exact absurd (decide_eq_true_iff.mpr rfl) (hlast _ hv)
    | some e =>
      refine ⟨e, rfl, ?_⟩
      have hmem := List.mem_filter.mp (List.mem_of_getLast? hlast)
      exact congrArg Prod.snd
        (List.inj_on_of_nodup_map m.distinct hmem.1 hv (of_decide_eq_true hmem.2))

lemma get_eq_none_iff : m.get name = none ↔ ∀ v, (name, v) ∉ m.members := by
  rw [Option.eq_none_iff_forall_ne_some]
  exact forall_congr' fun v => not_congr get_eq_some_iff

lemma get_set_self (m : JsonMap) (name : String) (value : Json) :
    (m.set name value).get name = some value :=
  get_eq_some_iff.mpr (mem_set.mpr (Or.inr rfl))

end JsonMap

def written (members : Members) : Members :=
  members.insertionSort fun a b => a.1 ≤ b.1

lemma written_perm (members : Members) : (written members).Perm members :=
  List.perm_insertionSort _ members

/-! ## Typed fields -/

inductive FieldKind where
  | text
  | number
  | raw
  | texts
  | textMap
  | objects
  | object
  deriving DecidableEq

namespace Json

def isText : Json → Bool
  | text _ | null => true
  | _ => false

def isObject : Json → Bool
  | object _ | null => true
  | _ => false

/-- The value can be stored in a field of the kind. A `null` leaves the field
alone and always can. -/
def fits : FieldKind → Json → Bool
  | .raw, _ => true
  | _, .null => true
  | .text, .text _ => true
  | .number, .number _ => true
  | .texts, .array items => items.all isText
  | .textMap, .object members => members.all fun m => m.2.isText
  | .objects, .array items => items.all isObject
  | .object, .object _ => true
  | _, _ => false

def text? : Json → Option String
  | text s => some s
  | _ => none

def number? : Json → Option ℤ
  | number n => some n
  | _ => none

/-- An element of a list or a map of strings, where `null` is the zero value. -/
def textOr : Json → String
  | text s => s
  | _ => ""

end Json

/-- Every member that is read fits its field; otherwise decoding fails. -/
def decodes (fields : List (String × FieldKind)) (members : Members) : Bool :=
  members.all fun m =>
    (fields.filter fun f => decide (Reads f.1 m.1)).all fun f => m.2.fits f.2

def textField (field : String) (members : Members) : String :=
  (((assigned field members).filterMap Json.text?).getLast?).getD ""

def numberField (field : String) (members : Members) : ℤ :=
  (((assigned field members).filterMap Json.number?).getLast?).getD 0

def rawField (field : String) (members : Members) : Option Json :=
  (assigned field members).getLast?

/-- One assignment to a field that holds a map of strings: a `null` empties the
map, an object is merged into it. The latest entry of a name comes first. -/
def mergeTexts (held : List (String × String)) : Json → List (String × String)
  | .null => []
  | .object members => (members.map fun m => (m.1, m.2.textOr)).reverse ++ held
  | _ => held

def textMapField (field : String) (members : Members) : List (String × String) :=
  (assigned field members).foldl mergeTexts []

/-! ## Which member a field is read from -/

variable {members : Members} {earlier : List Json} {field : String} {v : Json}

lemma assigned_written_eq_nil (h : ∀ m ∈ members, ¬ Reads field m.1) :
    assigned field (written members) = [] := by
  have hnil : (written members).filter (fun m => decide (Reads field m.1)) = [] := by
    rw [List.filter_eq_nil_iff]
    intro m hm
    simpa using h m ((written_perm members).mem_iff.mp hm)
  rw [assigned, hnil, List.map_nil]

/-- The encoder's order decides: when no name that is read into the field comes
after the field's own name, the member of that name is assigned last. -/
theorem assigned_written_last (hmem : (field, v) ∈ members)
    (hown : ∀ m ∈ members, m.1 = field → m.2 = v)
    (hafter : ∀ m ∈ members, Reads field m.1 → m.1 ≤ field) :
    ∃ earlier, assigned field (written members) = earlier ++ [v] := by
  obtain ⟨read, hread⟩ :
      ∃ read, read = (written members).filter fun m => decide (Reads field m.1) := ⟨_, rfl⟩
  have hin : ∀ m, m ∈ read ↔ m ∈ members ∧ Reads field m.1 := by
    intro m
    rw [hread, List.mem_filter, (written_perm members).mem_iff, decide_eq_true_iff]
  have hfield : (field, v) ∈ read := (hin _).mpr ⟨hmem, Reads.refl field⟩
  have hne : read ≠ [] := List.ne_nil_of_mem hfield
  obtain ⟨init, last, hsplit⟩ : ∃ init last, read = init ++ [last] :=
    ⟨_, _, (List.dropLast_append_getLast hne).symm⟩
  have hlast : last ∈ members ∧ Reads field last.1 :=
    (hin last).mp (by rw [hsplit]; simp)
  have hle : field ≤ last.1 := by
    have hsorted : read.Pairwise fun a b => a.1 ≤ b.1 := by
      rw [hread]
      exact (List.pairwise_insertionSort _ members).filter _
    rw [hsplit, List.pairwise_append] at hsorted
    rw [hsplit, List.mem_append, List.mem_singleton] at hfield
    rcases hfield with hfield | hfield
    · exact hsorted.2.2 _ hfield last (by simp)
    · rw [← hfield]
  have hname : last.1 = field := le_antisymm (hafter last hlast.1 hlast.2) hle
  refine ⟨init.map Prod.snd, ?_⟩
  rw [assigned, ← hread, hsplit, List.map_append, List.map_singleton,
    hown last hlast.1 hname]

lemma textField_of_last {s : String} (h : assigned field members = earlier ++ [.text s]) :
    textField field members = s := by
  simp [textField, h, Json.text?]

lemma numberField_of_last {n : ℤ} (h : assigned field members = earlier ++ [.number n]) :
    numberField field members = n := by
  simp [numberField, h, Json.number?]

lemma rawField_of_last (h : assigned field members = earlier ++ [v]) :
    rawField field members = some v := by
  simp [rawField, h]

/-- A lower-case letter to which only its own two cases fold, or the underscore. -/
def settled (c : Char) : Bool :=
  c = '_' || (0x61 ≤ c.toNat && c.toNat ≤ 0x7A && c ≠ 's' && c ≠ 'k')

lemma le_of_foldRune_eq {c d : Char} (hc : settled c = true)
    (h : foldRune d = foldRune c) : d ≤ c := by
  have hcode : c.toNat = 0x5F ∨
      (0x61 ≤ c.toNat ∧ c.toNat ≤ 0x7A ∧ c.toNat ≠ 0x73 ∧ c.toNat ≠ 0x6B) := by
    simp only [settled, Bool.or_eq_true, Bool.and_eq_true, decide_eq_true_iff] at hc
    rcases hc with hc | ⟨⟨⟨hlo, hhi⟩, hs⟩, hk⟩
    · left
      rw [hc]
      rfl
    · right
      refine ⟨hlo, hhi, fun hn => hs (Char.toNat_inj.mp hn), fun hn => hk (Char.toNat_inj.mp hn)⟩
  have hle : d.toNat ≤ c.toNat := by
    unfold foldRune at h
    split_ifs at h <;> omega
  exact hle

lemma le_of_map_foldRune_eq {xs ys : List Char} (hs : ∀ c ∈ xs, settled c = true)
    (h : ys.map foldRune = xs.map foldRune) : ys ≤ xs := by
  induction xs generalizing ys with
  | nil =>
    rw [List.map_nil, List.map_eq_nil_iff] at h
    rw [h]
  | cons c xs ih =>
    cases ys with
    | nil => simp at h
    | cons d ys =>
      rw [List.map_cons, List.map_cons, List.cons_eq_cons] at h
      have hd : d ≤ c := le_of_foldRune_eq (hs c (by simp)) h.1
      have hys : ys ≤ xs := ih (fun c hc => hs c (by simp [hc])) h.2
      rcases lt_or_eq_of_le hd with hlt | rfl
      · exact le_of_lt (List.Lex.rel hlt)
      · exact List.cons_le_cons d hys

/-- A field name of settled characters comes after every other name that is read
into the field, so an encoder writes its own member last. -/
theorem le_of_reads {field name : String} (hs : field.toList.all settled = true)
    (h : Reads field name) : name ≤ field := by
  rw [String.le_iff_toList_le]
  exact le_of_map_foldRune_eq (List.all_eq_true.mp hs) h

end OidcProvider.JsonObjects
