import OidcProvider.FiniteMaps
import Mathlib.Data.Finset.Card
import Mathlib.Order.Fin.Basic

/-!
# The assurance a login reports

`internal/authn`: the factors of a ceremony give a level, its URI and the authentication
methods, and the session a ceremony starts from adds its own.
-/
namespace OidcProvider.AssuranceLevels
open FiniteMaps

/-- The levels AAL0 to AAL3. -/
abbrev AAL := Fin 4

def acrURI : AAL → String
  | 1 => "urn:mace:incommon:iap:bronze"
  | 2 => "urn:mace:incommon:iap:silver"
  | 3 => "http://idmanagement.gov/ns/assurance/loa/4"
  | _ => ""

def aalFromACRURI (uri : String) : AAL := ([1, 2, 3].find? (uri = acrURI ·)).getD 0

def mfa : String := "mfa"

def registeredAMR : List String :=
  ["face", "fpt", "geo", "hwk", "iris", "kba", "mca", "mfa", "otp", "pin", "pop", "pwd", "rba",
    "retina", "sc", "sms", "swk", "tel", "user", "vbm", "wia"]

inductive FactorType where
  | password
  | totp
  | passkey
  | recoveryCode
  | emailOTP
  | other (name : String)
  deriving DecidableEq

structure Factor where
  type : FactorType
  assuranceLevel : AAL
  userVerified : Bool
  amr : String

def Factor.effectiveAAL (f : Factor) : AAL :=
  if f.type = .passkey ∧ !f.userVerified ∧ 1 < f.assuranceLevel then 1 else f.assuranceLevel

def Factor.amrValue (f : Factor) : String :=
  match f.type with
  | .password => "pwd"
  | .totp | .recoveryCode | .emailOTP => "otp"
  | .passkey => if f.userVerified then "hwk" else "swk"
  | .other _ => if f.amr = mfa ∨ f.amr ∉ registeredAMR then "" else f.amr

/-- One round of the loop over the factors. -/
def collect (acc : AAL × Finset String) (f : Factor) : AAL × Finset String :=
  (if acc.1 < f.effectiveAAL then f.effectiveAAL else acc.1,
    if f.amrValue = "" then acc.2 else insert f.amrValue acc.2)

def collected (factors : List Factor) : AAL × Finset String := factors.foldl collect (0, ∅)

structure Assurance where
  acr : String
  amr : List String
  level : AAL

/-- The values with `mfa` where it is earned, sorted. -/
def withMFA (values : List String) (level : AAL) : List String :=
  (values ++ if 2 ≤ values.length ∧ 2 ≤ level then [mfa] else []).insertionSort (· ≤ ·)

/-- The order is that of the range over the collected values. -/
def aggregate (ρ : KeyOrder) (factors : List Factor) : Assurance :=
  let all := collected factors
  ⟨acrURI all.1, withMFA (ρ.visit all.2) all.1, all.1⟩

structure EntryAuthn where
  subject : String
  acr : String
  amr : List String

structure State where
  subject : String
  factors : List Factor
  completedStepKinds : List String
  entryAuthn : Option EntryAuthn
  reauthRequired : Bool

structure AuthContext where
  inherited : Bool
  methods : ℕ
  completedKinds : List String
  amr : List String
  level : AAL
  acr : String

def entryStandsIn (st : State) : Option EntryAuthn :=
  st.entryAuthn.filter fun entry =>
    !st.reauthRequired && decide (entry.subject ≠ "" ∧ entry.subject = st.subject)

/-- One round of the loop over two sets of values. -/
def union (out : List String) (v : String) : List String :=
  if v = "" ∨ v = mfa ∨ v ∈ out then out else out ++ [v]

def mergeAMR (a b : List String) (level : AAL) : List String :=
  withMFA ((a ++ b).foldl union []) level

/-- What is read of the login flow: the kinds of the steps a session stands in for. -/
structure Orchestrator where
  inheritedCompletedKinds : EntryAuthn → List String

def Orchestrator.authContext (o : Orchestrator) (ρ : KeyOrder) (st : State) : AuthContext :=
  let own := aggregate ρ st.factors
  match entryStandsIn st with
  | none => ⟨false, st.factors.length, st.completedStepKinds, own.amr, own.level, acrURI own.level⟩
  | some entry =>
    let kinds := (o.inheritedCompletedKinds entry).filter (· ∉ st.completedStepKinds)
    let level := max own.level (aalFromACRURI entry.acr)
    ⟨true, st.factors.length + 1, kinds ++ st.completedStepKinds, mergeAMR entry.amr own.amr level,
      level, acrURI level⟩

/-! ### Collected values -/

lemma aalFromACRURI_acrURI (level : AAL) : aalFromACRURI (acrURI level) = level := by
  revert level
  decide

lemma collect_eq (acc : AAL × Finset String) (f : Factor) :
    collect acc f = (max acc.1 (collected [f]).1, acc.2 ∪ (collected [f]).2) := by
  simp only [collected, collect, List.foldl_cons, List.foldl_nil, ← max_def_lt]
  refine Prod.ext (by simp) ?_
  dsimp only
  split_ifs <;> simp

lemma foldl_collect (factors : List Factor) (acc : AAL × Finset String) :
    factors.foldl collect acc =
      (max acc.1 (collected factors).1, acc.2 ∪ (collected factors).2) := by
  induction factors generalizing acc with
  | nil => simp [collected]
  | cons f factors ih =>
    have hcons : collected (f :: factors) =
        (max (collected [f]).1 (collected factors).1,
          (collected [f]).2 ∪ (collected factors).2) := ih (collected [f])
    rw [List.foldl_cons, ih, hcons, collect_eq, max_assoc, Finset.union_assoc]

lemma collected_append (P F : List Factor) :
    collected (P ++ F) =
      (max (collected P).1 (collected F).1, (collected P).2 ∪ (collected F).2) := by
  rw [collected, List.foldl_append]
  exact foldl_collect F _

lemma amrValue_ne_mfa (f : Factor) : f.amrValue ≠ mfa := by
  unfold Factor.amrValue
  split
  · decide
  · decide
  · decide
  · decide
  · split_ifs <;> decide
  · split_ifs with h
    · decide
    · exact fun hmfa => h (.inl hmfa)

lemma collected_plain (factors : List Factor) :
    "" ∉ (collected factors).2 ∧ mfa ∉ (collected factors).2 := by
  induction factors with
  | nil => simp [collected]
  | cons f factors ih =>
    rw [← List.singleton_append, collected_append]
    have hvalue := amrValue_ne_mfa f
    simp only [collected, List.foldl_cons, List.foldl_nil, collect] at ih ⊢
    split_ifs <;> simp_all [Ne.symm]

/-- What is reported for a set of values. -/
def report (values : Finset String) (level : AAL) : Finset String :=
  if 2 ≤ values.card ∧ 2 ≤ level then insert mfa values else values

lemma withMFA_toFinset {values : List String} (h : values.Nodup) (level : AAL) :
    (withMFA values level).toFinset = report values.toFinset level := by
  rw [report, List.toFinset_card_of_nodup h]
  ext v
  simp only [withMFA, List.mem_toFinset, List.mem_insertionSort, List.mem_append]
  split_ifs <;> simp [or_comm]

lemma aggregate_amr (ρ : KeyOrder) (factors : List Factor) :
    (aggregate ρ factors).amr.toFinset = report (collected factors).2 (collected factors).1 := by
  have hvisit : (ρ.visit (collected factors).2).toFinset = (collected factors).2 := by
    ext v
    rw [List.mem_toFinset, ρ.mem_visit]
  rw [aggregate, withMFA_toFinset (ρ.nodup_visit _), hvisit]

lemma foldl_union (values : List String) {out : List String} (hout : out.Nodup) :
    (values.foldl union out).Nodup ∧
      ∀ u, u ∈ values.foldl union out ↔ u ∈ out ∨ u ∈ values ∧ u ≠ "" ∧ u ≠ mfa := by
  induction values generalizing out with
  | nil => simpa using hout
  | cons v values ih =>
    have hunion : (union out v).Nodup := by grind [union]
    obtain ⟨hnodup, hmem⟩ := ih hunion
    refine ⟨hnodup, fun u => ?_⟩
    rw [List.foldl_cons, hmem]
    grind [union]

lemma mergeAMR_toFinset (a b : List String) (level : AAL) :
    (mergeAMR a b level).toFinset =
      report (((a.toFinset ∪ b.toFinset).erase mfa).erase "") level := by
  obtain ⟨hnodup, hmem⟩ := foldl_union (a ++ b) List.nodup_nil
  rw [mergeAMR, withMFA_toFinset hnodup]
  congr 1
  ext v
  simp only [List.mem_toFinset, hmem, Finset.mem_erase, Finset.mem_union, List.mem_append]
  grind

/-! ### Ceremonies in a row -/

structure Ceremony where
  factors : List Factor
  completedStepKinds : List String
  order : KeyOrder

section
variable (o : Orchestrator) (subject : String)

/-- A ceremony that starts from a session with what the one before it reported. -/
def next (last : Option AuthContext) (c : Ceremony) : Option AuthContext :=
  some (o.authContext c.order ⟨subject, c.factors, c.completedStepKinds,
    last.map fun ac => ⟨subject, ac.acr, ac.amr⟩, false⟩)

def ceremonies (cs : List Ceremony) : Option AuthContext :=
  cs.foldl (next o subject) none

/-- The context reports these factors. -/
structure Reports (factors : List Factor) (ac : AuthContext) : Prop where
  level : ac.level = (collected factors).1
  acr : ac.acr = acrURI ac.level
  amr : ac.amr.toFinset = report (collected factors).2 ac.level

variable {subject} (hsubject : subject ≠ "")

variable (subject) in
lemma reports_first (c : Ceremony) :
    ∃ ac, next o subject none c = some ac ∧ Reports c.factors ac :=
  ⟨_, rfl, rfl, rfl, aggregate_amr c.order c.factors⟩

include hsubject

lemma Reports.next {factors : List Factor} {ac : AuthContext} (h : Reports factors ac)
    (c : Ceremony) : ∃ ac', next o subject (some ac) c = some ac' ∧
      Reports (factors ++ c.factors) ac' := by
  refine ⟨_, rfl, ?_⟩
  have hentry : entryStandsIn ⟨subject, c.factors, c.completedStepKinds,
      some ⟨subject, ac.acr, ac.amr⟩, false⟩ = some ⟨subject, ac.acr, ac.amr⟩ := by
    simp [entryStandsIn, hsubject]
  have hlevel : (collected (factors ++ c.factors)).1 =
      max (collected c.factors).1 (aalFromACRURI ac.acr) := by
    rw [h.acr, aalFromACRURI_acrURI, h.level, collected_append, max_comm]
  simp only [Orchestrator.authContext, Option.map_some, hentry]
  refine ⟨hlevel.symm, rfl, ?_⟩
  rw [mergeAMR_toFinset, h.amr, aggregate_amr]
  congr 1
  have hbefore := collected_plain factors
  have hown := collected_plain c.factors
  rw [collected_append]
  ext v
  simp only [report]
  grind

lemma ceremonies_report (cs : List Ceremony) {factors : List Factor} {ac : AuthContext}
    (h : Reports factors ac) :
    ∃ ac', cs.foldl (AssuranceLevels.next o subject) (some ac) = some ac' ∧
      Reports (factors ++ cs.flatMap Ceremony.factors) ac' := by
  induction cs generalizing factors ac with
  | nil => exact ⟨ac, rfl, by simpa using h⟩
  | cons c cs ih =>
    obtain ⟨ac', hac', hreports⟩ := h.next o hsubject c
    rw [List.foldl_cons, hac', List.flatMap_cons, ← List.append_assoc]
    exact ih hreports

/-- A login split over ceremonies reports what one ceremony with all their factors
reports. -/
theorem split_login (c : Ceremony) (cs : List Ceremony) (ρ : KeyOrder) :
    ∃ ac, ceremonies o subject (c :: cs) = some ac ∧
      ac.level = (aggregate ρ ((c :: cs).flatMap Ceremony.factors)).level ∧
      ac.acr = (aggregate ρ ((c :: cs).flatMap Ceremony.factors)).acr ∧
      ac.amr.toFinset = (aggregate ρ ((c :: cs).flatMap Ceremony.factors)).amr.toFinset ∧
      (mfa ∈ ac.amr ↔ 2 ≤ (ac.amr.toFinset.erase mfa).card ∧ 2 ≤ ac.level) := by
  obtain ⟨first, hfirst, hreports⟩ := reports_first o subject c
  obtain ⟨ac, hac, hall⟩ := ceremonies_report o hsubject cs hreports
  refine ⟨ac, ?_, hall.level, ?_, ?_, ?_⟩
  · rw [ceremonies, List.foldl_cons, hfirst, hac]
  · rw [hall.acr, hall.level]
    rfl
  · rw [hall.amr, hall.level, aggregate_amr]
    rfl
  · have hplain := (collected_plain (c.factors ++ cs.flatMap Ceremony.factors)).2
    rw [← List.mem_toFinset, hall.amr, report]
    split_ifs with hmfa
    · simpa [hplain] using hmfa
    · simpa [hplain] using hmfa

end

/-- A password in one ceremony, a one-time code in the next. -/
theorem split_login_stepUp :
    ∃ ac, ceremonies ⟨fun _ => []⟩ "u"
        [⟨[⟨.password, 1, false, ""⟩], [], ascending⟩,
          ⟨[⟨.totp, 2, false, ""⟩], [], ascending⟩] = some ac ∧ ac.level = 2 := by
  obtain ⟨ac, hac, hlevel, _⟩ := split_login ⟨fun _ => []⟩ (show "u" ≠ "" by decide)
    ⟨[⟨.password, 1, false, ""⟩], [], ascending⟩
    [⟨[⟨.totp, 2, false, ""⟩], [], ascending⟩] ascending
  exact ⟨ac, hac, hlevel.trans (by decide)⟩

end OidcProvider.AssuranceLevels
