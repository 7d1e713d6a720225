import OidcProvider.ReplayMarkers
import OidcProvider.TransactionalStores

/-!
# Signed request objects

`internal/jar/verify.go` over `inmem/jtistore.go`. A request object is held to bounds on
its expiry, its start and its age that depend on the claims it has, and an accepted one
leaves a marker whose life `jtiExpiry` computes from other bounds. The two meet in one
instant: without a maximal lifetime, an object dated as far ahead as the skew allows is
acceptable at the very instant at which the marker of its first use expires. Decryption,
parsing and signatures are given with the call, which reads its clock once.
-/
namespace OidcProvider.RequestObjects
open FiniteMaps StoreRecords SingleUseStores TransactionalStores DpopProofs ReplayMarkers

inductive JarError where
  | parse
  | algNotAllowed
  | sigInvalid
  | issMismatch
  | audMismatch
  | expired
  | notYetValid
  | nestedRequest
  | typeInvalid
  | keySourceUnavailable
  | noMatchingJWK
  | jwksConfigured
  | jtiMissing
  | iatMissing
  | jtiReplayed
  | encryptionUnsupported
  | encryptionAlgNotAllowed
  | decryptFailed
  | mark (err : StoreError)
  deriving DecidableEq

inductive Audience where
  | missing
  | text (aud : String)
  /-- The strings of an array. -/
  | array (auds : List String)
  | unsupported
  deriving DecidableEq

/-- The claims a verifier reads. A string that is missing, or is none, is empty. -/
structure RequestObject where
  typ : String
  /-- `request` or `request_uri` is among the claims. -/
  nested : Bool
  iss : String
  aud : Audience
  exp : Option ℤ
  nbf : Option ℤ
  iat : Option ℤ
  jti : String
  deriving DecidableEq

structure Verifier where
  issuer : String
  maxFutureSkew : ℤ
  skew_pos : 0 < maxFutureSkew
  maxAge : ℤ
  age_pos : 0 < maxAge
  requireNbf : Bool
  requireIAT : Bool
  allowMissJTI : Bool
  /-- A store is configured. -/
  jtis : Bool
  maxLifetime : ℤ

def requestObjectType : String := "oauth-authz-req+jwt"

/-- `unicode.ToLower`, as far as a comparison with ASCII text can tell: outside ASCII
only U+0130 and the Kelvin sign have a lower case in it. -/
def toLowerRune (c : Char) : Char :=
  if c.toNat = 0x130 then 'i' else if c.toNat = 0x212A then 'k' else c.toLower

def toLower (s : String) : String := String.ofList (s.toList.map toLowerRune)

def assertType (typ : String) : Except JarError Unit :=
  if toLower typ = "" ∨ toLower typ = requestObjectType ∨
      toLower typ = "application/" ++ requestObjectType then .ok ()
  else .error .typeInvalid

def assertIssuer (iss expectedClientID : String) : Except JarError Unit :=
  if iss = "" then .error .issMismatch
  else if iss ≠ expectedClientID then .error .issMismatch
  else .ok ()

def assertAudience (aud : Audience) (issuer : String) : Except JarError Unit :=
  match aud with
  | .missing => .error .audMismatch
  | .text v => if v ≠ issuer then .error .audMismatch else .ok ()
  | .array auds => if auds.contains issuer then .ok () else .error .audMismatch
  | .unsupported => .error .audMismatch

def assertExp (exp : Option ℤ) (now : Time) (maxLifetime : ℤ) : Except JarError Unit :=
  match exp with
  | none => .error .expired
  | some exp =>
    if ¬ now < unixTime exp then .error .expired
    else if 0 < maxLifetime ∧ maxLifetime < unixTime exp - now then .error .expired
    else .ok ()

def assertNbf (nbf : Option ℤ) (now : Time) (skew maxLifetime : ℤ) (requireNbf : Bool) :
    Except JarError Unit :=
  match nbf with
  | none => if requireNbf then .error .notYetValid else .ok ()
  | some nbf =>
    if now + skew < unixTime nbf then .error .notYetValid
    else if 0 < maxLifetime ∧ maxLifetime < now - unixTime nbf then .error .notYetValid
    else .ok ()

def assertIat (iat : Option ℤ) (now : Time) (skew maxAge : ℤ) (requireIAT : Bool) :
    Except JarError Unit :=
  match iat with
  | none => if requireIAT then .error .iatMissing else .ok ()
  | some iat =>
    if now + skew < unixTime iat then .error .notYetValid
    else if maxAge < now - unixTime iat then .error .expired
    else .ok ()

namespace Verifier
variable (v : Verifier)

/-- How far ahead `exp` may lie; 0 is no bound. -/
def expCeiling (obj : RequestObject) : ℤ :=
  if 0 < v.maxLifetime then v.maxLifetime
  else match obj.iat with
    | none => v.maxAge
    | some _ => 0

def validateClaims (obj : RequestObject) (expectedClientID : String) (now : Time) :
    Except JarError Unit := do
  assertType obj.typ
  ensure (!obj.nested) .nestedRequest
  assertIssuer obj.iss expectedClientID
  assertAudience obj.aud v.issuer
  assertExp obj.exp now (v.expCeiling obj)
  assertNbf obj.nbf now v.maxFutureSkew v.maxLifetime v.requireNbf
  assertIat obj.iat now v.maxFutureSkew v.maxAge v.requireIAT

end Verifier

def jtiExpiry (exp : Option ℤ) (now : Time) (maxAge skew maxLifetime : ℤ) : Option Time :=
  match exp with
  | none => none
  | some exp =>
    let expAt := unixTime exp
    if ¬ now < expAt then none
    else
      let window := if maxAge < maxLifetime then maxLifetime else maxAge
      let retain := if expAt < now + maxAge then now + maxAge else expAt
      some ((if now + window < retain then now + window else retain) + skew)

/-- `jtiUse`. -/
inductive Use where
  | authorize
  | ciba
  deriving DecidableEq

def Use.text : Use → String
  | authorize => "authz"
  | ciba => "ciba"

structure Triple where
  use : Use
  clientID : String
  jti : String
  deriving DecidableEq

def Use.scope (use : Use) : String := "jar:" ++ use.text ++ ":"

def Triple.key (x : Triple) : String := ReplayMarkers.replayKey x.use.scope x.clientID x.jti

/-- What `consumeJTI` makes of the answer of `Mark`. -/
def markAnswer : StoreReply → Except JarError Unit
  | .ok () => .ok ()
  | .error .alreadyConsumed => .error .jtiReplayed
  | .error err => .error (.mark err)

structure Call where
  now : Time
  order : KeyOrder
  use : Use
  clientID : String
  /-- The outcome of decryption, parsing, the algorithm gates and the signature. -/
  authentic : Except JarError Unit
  object : RequestObject

def Call.triple (c : Call) : Triple := ⟨c.use, c.clientID, c.object.jti⟩

section Calls
variable (D : KeyDigest) (v : Verifier)

def consumeJTI (s : JTIStore) (c : Call) : JTIStore × Except JarError Unit :=
  if c.object.jti = "" then
    if v.allowMissJTI then (s, .ok ()) else (s, .error .jtiMissing)
  else if 256 < c.object.jti.utf8ByteSize then (s, .error .parse)
  else if !v.jtis then (s, .ok ())
  else match jtiExpiry c.object.exp c.now v.maxAge v.maxFutureSkew v.maxLifetime with
    | none => (s, .error .parse)
    | some expiresAt =>
      let r := mark D c.order c.now s c.triple.key expiresAt
      (r.1, markAnswer r.2)

/-- `verifyForUse`, the body of `Verify` and of `VerifyCIBA`. -/
def verifyForUse (s : JTIStore) (c : Call) : JTIStore × Except JarError Unit :=
  match c.authentic with
  | .error err => (s, .error err)
  | .ok () =>
    match v.validateClaims c.object c.clientID c.now with
    | .error err => (s, .error err)
    | .ok () => consumeJTI D v s c

def after (s : JTIStore) (calls : List Call) : JTIStore := (run (verifyForUse D v) s calls).1

def answers (s : JTIStore) (calls : List Call) : List (Except JarError Unit) :=
  (run (verifyForUse D v) s calls).2

lemma answers_cons (s : JTIStore) (c : Call) (calls : List Call) :
    answers D v s (c :: calls) =
      (verifyForUse D v s c).2 :: answers D v (verifyForUse D v s c).1 calls := rfl

end Calls

def succeeds : Except JarError Unit → Bool
  | .ok () => true
  | .error _ => false

/-! ### What is accepted, and for how long it is marked -/

/-- The call passes every check before the one on the jti's marker. -/
def accepts (v : Verifier) (c : Call) : Prop :=
  c.authentic = .ok () ∧ v.validateClaims c.object c.clientID c.now = .ok () ∧
    c.object.jti.utf8ByteSize ≤ 256

instance (v : Verifier) (c : Call) : Decidable (accepts v c) :=
  inferInstanceAs (Decidable (_ ∧ _ ∧ _))

/-- The bounds an accepted object has met at `now`. -/
structure Bounds (v : Verifier) (obj : RequestObject) (exp : ℤ) (now : Time) : Prop where
  dated : obj.exp = some exp
  unexpired : now < unixTime exp
  ceiling : 0 < v.expCeiling obj → unixTime exp - now ≤ v.expCeiling obj
  future : ∀ iat, obj.iat = some iat → unixTime iat ≤ now + v.maxFutureSkew
  age : ∀ iat, obj.iat = some iat → now - unixTime iat ≤ v.maxAge

variable {v : Verifier} {c : Call} {exp : ℤ}

lemma assertExp_ok {date : Option ℤ} {now : Time} {ceiling : ℤ}
    (h : assertExp date now ceiling = .ok ()) :
    ∃ exp, date = some exp ∧ now < unixTime exp ∧ (0 < ceiling → unixTime exp - now ≤ ceiling) := by
  cases date with
  | none => cases h
  | some exp =>
    unfold assertExp at h
    dsimp only at h
    split_ifs at h with hexpired hfar
    refine ⟨exp, rfl, hexpired, fun hpos => ?_⟩
    by_contra hlt
    exact hfar ⟨hpos, not_le.mp hlt⟩

lemma assertIat_ok {date : Option ℤ} {now : Time} {skew maxAge : ℤ} {required : Bool}
    (h : assertIat date now skew maxAge required = .ok ()) {iat : ℤ} (hiat : date = some iat) :
    unixTime iat ≤ now + skew ∧ now - unixTime iat ≤ maxAge := by
  subst hiat
  unfold assertIat at h
  dsimp only at h
  split_ifs at h with hfuture hold
  exact ⟨not_lt.mp hfuture, not_lt.mp hold⟩

lemma accepts_bounds (h : accepts v c) : ∃ exp, Bounds v c.object exp c.now := by
  have hclaims := h.2.1
  obtain ⟨_, -, hclaims⟩ := ok_of_bind hclaims
  obtain ⟨_, -, hclaims⟩ := ok_of_bind hclaims
  obtain ⟨_, -, hclaims⟩ := ok_of_bind hclaims
  obtain ⟨_, -, hclaims⟩ := ok_of_bind hclaims
  obtain ⟨_, hexp, hclaims⟩ := ok_of_bind hclaims
  obtain ⟨_, -, hiat⟩ := ok_of_bind hclaims
  obtain ⟨exp, hsome, hunexpired, hceiling⟩ := assertExp_ok hexp
  exact ⟨exp, hsome, hunexpired, hceiling, fun iat hi => (assertIat_ok hiat hi).1,
    fun iat hi => (assertIat_ok hiat hi).2⟩

def Call.markedUntil (v : Verifier) (c : Call) : Time :=
  (jtiExpiry c.object.exp c.now v.maxAge v.maxFutureSkew v.maxLifetime).getD 0

def Call.marker (v : Verifier) (c : Call) : Marker := ⟨c.triple.key, c.markedUntil v⟩

lemma markedUntil_eq (h : Bounds v c.object exp c.now) :
    jtiExpiry c.object.exp c.now v.maxAge v.maxFutureSkew v.maxLifetime =
      some (c.markedUntil v) := by
  simp [Call.markedUntil, jtiExpiry, h.dated, h.unexpired]

lemma bounded_markedUntil (h : Bounds v c.object exp c.now)
    (hceiling : 0 < v.expCeiling c.object) : unixTime exp < c.markedUntil v := by
  have hskew := v.skew_pos
  have hle := h.ceiling hceiling
  have hwindow : v.expCeiling c.object ≤
      if v.maxAge < v.maxLifetime then v.maxLifetime else v.maxAge := by
    unfold Verifier.expCeiling
    split_ifs <;> first | linarith | (split <;> linarith [v.age_pos])
  have heq := markedUntil_eq h
  simp only [jtiExpiry, h.dated, h.unexpired, not_true_eq_false, if_false,
    Option.some.injEq] at heq
  rw [← heq]
  split_ifs at hwindow ⊢ <;> linarith

/-- Where only the age bounds an object, its marker lives for the age and the skew. -/
theorem unbounded_markedUntil (h : Bounds v c.object exp c.now) (hlifetime : v.maxLifetime ≤ 0) :
    c.markedUntil v = c.now + v.maxAge + v.maxFutureSkew := by
  have hage := v.age_pos
  have heq := markedUntil_eq h
  simp only [jtiExpiry, h.dated, h.unexpired, not_true_eq_false, if_false,
    Option.some.injEq] at heq
  rw [← heq, if_neg (show ¬ v.maxAge < v.maxLifetime by linarith)]
  split_ifs <;> linarith

/-- An accepted object is acceptable again only while its marker stands, but for one case:
nothing but the age bounds it, it was first used as early as the skew allows, and comes
back in the last instant its age allows. -/
theorem outlives_marker {first second : Call} (hobject : second.object = first.object)
    (hfirst : accepts v first) (hsecond : accepts v second)
    (hexpired : isExpiredInclusive (first.markedUntil v) second.now = true) :
    v.maxLifetime ≤ 0 ∧ ∃ iat, first.object.iat = some iat ∧
      first.now = unixTime iat - v.maxFutureSkew ∧ second.now = unixTime iat + v.maxAge ∧
      second.now ≠ 0 := by
  obtain ⟨exp, hbounds⟩ := accepts_bounds hfirst
  obtain ⟨exp', hbounds'⟩ := accepts_bounds hsecond
  rw [hobject] at hbounds'
  cases hbounds.dated.symm.trans hbounds'.dated
  have hle : first.markedUntil v ≤ second.now ∧ first.markedUntil v ≠ 0 := by
    unfold isExpiredInclusive at hexpired
    split_ifs at hexpired with hzero
    exact ⟨of_decide_eq_true hexpired, hzero⟩
  have hunbounded : ¬ 0 < v.expCeiling first.object := by
    intro hceiling
    have hlong := bounded_markedUntil hbounds hceiling
    have hvalid := hbounds'.unexpired
    linarith [hle.1]
  have hlifetime : v.maxLifetime ≤ 0 := by
    by_contra hpos
    exact hunbounded (by simp [Verifier.expCeiling, not_le.mp hpos])
  have hmarked := unbounded_markedUntil hbounds hlifetime
  cases hiat : first.object.iat with
  | none =>
    refine absurd v.age_pos fun hage => hunbounded ?_
    simpa [Verifier.expCeiling, not_lt.mpr hlifetime, hiat] using hage
  | some iat =>
    have hfuture := hbounds.future iat hiat
    have hage := hbounds'.age iat hiat
    have hstart : first.now = unixTime iat - v.maxFutureSkew := by linarith [hle.1]
    have hend : second.now = unixTime iat + v.maxAge := by linarith [hle.1]
    refine ⟨hlifetime, iat, rfl, hstart, hend, ?_⟩
    intro hzero
    exact hle.2 (by linarith)

/-! ### The ledger of a sequence of calls -/

variable {calls : List Call}

section Ledger
variable (v : Verifier)

def spend (ledger : List Marker) (c : Call) : List Marker :=
  if accepts v c then (enterMarker c.now ledger (c.marker v)).1 else ledger

def spendAll (ledger : List Marker) (calls : List Call) : List Marker :=
  calls.foldl (spend v) ledger

lemma spendAll_append (ledger : List Marker) (pre post : List Call) :
    spendAll v ledger (pre ++ post) = spendAll v (spendAll v ledger pre) post :=
  List.foldl_append

variable {v}
variable (ledger : List Marker)

lemma spend_cases (c : Call) :
    spend v ledger c = ledger ∨
      spend v ledger c = c.marker v :: ledger ∧ accepts v c ∧
        blocked ledger c.triple.key c.now = false := by
  unfold spend enterMarker
  split_ifs with haccepts hblocked
  · exact .inl rfl
  · exact .inr ⟨rfl, haccepts, Bool.eq_false_iff.mpr hblocked⟩
  · exact .inl rfl

lemma spend_of_free {ledger : List Marker} {c : Call} (haccepts : accepts v c)
    (hfree : blocked ledger c.triple.key c.now = false) :
    spend v ledger c = c.marker v :: ledger := by
  have hkey : blocked ledger (c.marker v).key c.now = false := hfree
  simp [spend, haccepts, enterMarker, hkey]

lemma suffix_spend (c : Call) : ledger <:+ spend v ledger c := by
  rcases spend_cases (v := v) ledger c with h | ⟨h, -⟩
  · rw [h]
  · rw [h]
    exact List.suffix_cons _ _

lemma suffix_spendAll (calls : List Call) : ledger <:+ spendAll v ledger calls := by
  induction calls generalizing ledger with
  | nil => exact List.suffix_refl ledger
  | cons c calls ih => exact (suffix_spend ledger c).trans (ih (spend v ledger c))

lemma mem_spendAll {ledger : List Marker} {m : Marker} (h : m ∈ spendAll v ledger calls) :
    m ∈ ledger ∨ ∃ pre c post, calls = pre ++ c :: post ∧ accepts v c ∧ m = c.marker v ∧
      spendAll v ledger (pre ++ [c]) = c.marker v :: spendAll v ledger pre := by
  induction calls generalizing ledger with
  | nil => exact .inl h
  | cons c calls ih =>
    rcases ih h with hm | ⟨pre, c', post, rfl, haccepts, hm, hspent⟩
    · rcases spend_cases (v := v) ledger c with hc | ⟨hc, haccepts, -⟩
      · exact .inl (hc ▸ hm)
      · rw [hc] at hm
        rcases List.mem_cons.mp hm with hm | hm
        · exact .inr ⟨[], c, calls, rfl, haccepts, hm, hc⟩
        · exact .inl hm
    · exact .inr ⟨c :: pre, c', post, rfl, haccepts, hm, hspent⟩

lemma longer_spendAll (h : ledger.length < (spendAll v ledger calls).length) :
    ∃ pre c post, calls = pre ++ c :: post ∧ accepts v c ∧
      blocked ledger c.triple.key c.now = false ∧ spend v ledger c = c.marker v :: ledger ∧
      spendAll v ledger calls = spendAll v (spend v ledger c) post := by
  induction calls with
  | nil => exact absurd h (lt_irrefl _)
  | cons c calls ih =>
    rcases spend_cases (v := v) ledger c with hc | ⟨hc, haccepts, hfree⟩
    · have heq : spendAll v ledger (c :: calls) = spendAll v ledger calls := by
        simp only [spendAll, List.foldl_cons, hc]
      rw [heq] at h ⊢
      obtain ⟨pre, c', post, rfl, hrest⟩ := ih h
      exact ⟨c :: pre, c', post, rfl, hrest⟩
    · exact ⟨[], c, calls, rfl, haccepts, hfree, hc, rfl⟩

end Ledger

/-! ### The store and the ledger -/

section Refinement
variable {D : KeyDigest} {v : Verifier} {ledger : List Marker} {s : JTIStore} {t : Time}

lemma markAnswer_succeeds (r : StoreReply) : succeeds (markAnswer r) = true ↔ r = .ok () := by
  unfold markAnswer
  split <;> simp [succeeds]

lemma verify_refines (hD : D.Injective) (hjtis : v.jtis = true)
    (h : Records D t s ledger) {c : Call} (hle : t ≤ c.now) (hjti : c.object.jti ≠ "") :
    Records D c.now (verifyForUse D v s c).1 (spend v ledger c) ∧
      (succeeds (verifyForUse D v s c).2 = true ↔ spend v ledger c = c.marker v :: ledger) := by
  by_cases haccepts : accepts v c
  · obtain ⟨exp, hbounds⟩ := accepts_bounds haccepts
    obtain ⟨hanswer, hrecords⟩ := mark_refines hD h hle c.order (c.marker v)
    have hverify : verifyForUse D v s c =
        ((mark D c.order c.now s (c.marker v).key (c.marker v).expiresAt).1,
          markAnswer (mark D c.order c.now s (c.marker v).key (c.marker v).expiresAt).2) := by
      simp only [verifyForUse, haccepts.1, haccepts.2.1, consumeJTI, if_neg hjti,
        if_neg (not_lt.mpr haccepts.2.2), hjtis, Bool.not_true, Bool.false_eq_true, if_false,
        markedUntil_eq hbounds]
      rfl
    rw [hverify, hanswer, markAnswer_succeeds]
    simp only [spend, if_pos haccepts]
    refine ⟨hrecords, ?_⟩
    unfold enterMarker
    split_ifs <;> simp
  · have hverify : (verifyForUse D v s c).1 = s ∧ succeeds (verifyForUse D v s c).2 = false := by
      unfold verifyForUse
      cases hauthentic : c.authentic with
      | error err => exact ⟨rfl, rfl⟩
      | ok u =>
        cases hclaims : v.validateClaims c.object c.clientID c.now with
        | error err => exact ⟨rfl, rfl⟩
        | ok u =>
          have hlong : 256 < c.object.jti.utf8ByteSize := by
            by_contra hle
            exact haccepts ⟨hauthentic, hclaims, not_lt.mp hle⟩
          simp [consumeJTI, hjti, hlong, succeeds]
    rw [hverify.1, hverify.2]
    simp only [spend, if_neg haccepts]
    exact ⟨h.later hle, by simp⟩

lemma answers_spendAll (hD : D.Injective) (hjtis : v.jtis = true)
    (hjti : ∀ c ∈ calls, c.object.jti ≠ "") (h : Records D t s ledger)
    (hclock : ClockedFrom Call.now t calls) :
    (answers D v s calls).countP succeeds + ledger.length = (spendAll v ledger calls).length := by
  induction calls generalizing t s ledger with
  | nil => simp [answers, run, spendAll]
  | cons c calls ih =>
    obtain ⟨hrecords, hanswer⟩ :=
      verify_refines hD hjtis h hclock.1 (hjti c List.mem_cons_self)
    have hrest := ih (fun c' hc' => hjti c' (List.mem_cons_of_mem c hc')) hrecords hclock.2
    have hcons : spendAll v ledger (c :: calls) = spendAll v (spend v ledger c) calls := rfl
    rw [answers_cons, hcons, ← hrest]
    by_cases hsuccess : succeeds (verifyForUse D v s c).2 = true
    · rw [List.countP_cons_of_pos hsuccess, hanswer.mp hsuccess, List.length_cons]
      omega
    · rw [List.countP_cons_of_neg hsuccess]
      rcases spend_cases (v := v) ledger c with hc | ⟨hc, -⟩
      · rw [hc]
      · exact absurd (hanswer.mpr hc) hsuccess

lemma after_refines (hD : D.Injective) (hjtis : v.jtis = true)
    (hjti : ∀ c ∈ calls, c.object.jti ≠ "") (h : Records D t s ledger)
    (hclock : ClockedFrom Call.now t calls) :
    Records D (lastClock Call.now t calls) (after D v s calls) (spendAll v ledger calls) := by
  induction calls generalizing t s ledger with
  | nil => exact h
  | cons c calls ih =>
    have hrecords := (verify_refines hD hjtis h hclock.1 (hjti c List.mem_cons_self)).1
    exact ih (fun c' hc' => hjti c' (List.mem_cons_of_mem c hc')) hrecords hclock.2

end Refinement

/-! ### Presenting one object -/

lemma eq_singleton_of_mem {ledger : List Marker} {m : Marker} (hm : m ∈ ledger)
    (h : ledger.length ≤ 1) : ledger = [m] := by
  obtain ⟨m', rfl⟩ := List.length_eq_one_iff.mp
    (le_antisymm h (List.length_pos_of_mem hm))
  rw [List.mem_singleton.mp hm]

/-- Two accepted presentations at the two ends of the object's life: as early as the skew
allows, and in the last instant its age allows, with no lifetime to bound it. -/
def Straddles (v : Verifier) (obj : RequestObject) (calls : List Call) : Prop :=
  v.maxLifetime ≤ 0 ∧ ∃ iat, obj.iat = some iat ∧ ∃ pre first mid second post,
    calls = pre ++ first :: mid ++ second :: post ∧ accepts v first ∧ accepts v second ∧
      first.now = unixTime iat - v.maxFutureSkew ∧ second.now = unixTime iat + v.maxAge ∧
      second.now ≠ 0

section Presentations
variable {v : Verifier} {x : Triple} {obj : RequestObject} {calls : List Call}
  (hsame : ∀ c ∈ calls, c.triple = x ∧ c.object = obj)
include hsame

lemma straddles_of_two (h : 1 < (spendAll v [] calls).length) : Straddles v obj calls := by
  obtain ⟨pre, first, rest, rfl, hfirst, -, hentry, hrest⟩ :=
    longer_spendAll (v := v) [] (lt_trans Nat.zero_lt_one h)
  rw [hrest, hentry] at h
  obtain ⟨mid, second, post, rfl, hsecond, hfree, -⟩ := longer_spendAll [first.marker v] h
  have hfirst' := hsame first (by simp)
  have hsecond' := hsame second (by simp)
  have hkey : (first.marker v).key = second.triple.key := by
    rw [hsecond'.1, ← hfirst'.1]
    rfl
  have hexpired : isExpiredInclusive (first.markedUntil v) second.now = true := by
    rw [blocked_cons, hkey] at hfree
    simpa [blocked, Call.marker] using hfree
  obtain ⟨hlifetime, iat, hiat, hstart, hend, hzero⟩ :=
    outlives_marker (hsecond'.2.trans hfirst'.2.symm) hfirst hsecond hexpired
  exact ⟨hlifetime, iat, hfirst'.2 ▸ hiat, pre, first, mid, second, post,
    by simp, hfirst, hsecond, hstart, hend, hzero⟩

lemma markedUntil_earliest {c : Call} {iat : ℤ} (hmem : c ∈ calls) (hc : accepts v c)
    (hiat : obj.iat = some iat) (hlifetime : v.maxLifetime ≤ 0)
    (hnow : c.now ≤ unixTime iat - v.maxFutureSkew) :
    c.markedUntil v = unixTime iat + v.maxAge := by
  obtain ⟨exp, hbounds⟩ := accepts_bounds hc
  have hfuture := hbounds.future iat ((hsame c hmem).2 ▸ hiat)
  rw [unbounded_markedUntil hbounds hlifetime]
  linarith

lemma earliest_entry {t : Time} {pre post : List Call} {first : Call} {iat : ℤ}
    (hclock : ClockedFrom Call.now t calls) (hcalls : calls = pre ++ first :: post)
    (hfirst : accepts v first) (hiat : obj.iat = some iat) (hlifetime : v.maxLifetime ≤ 0)
    (hstart : first.now = unixTime iat - v.maxFutureSkew) :
    (⟨x.key, unixTime iat + v.maxAge⟩ : Marker) ∈ spendAll v [] (pre ++ [first]) := by
  have hentered : ∀ c ∈ calls, accepts v c → c.now ≤ first.now →
      c.marker v = ⟨x.key, unixTime iat + v.maxAge⟩ := by
    intro c hmem hc hle
    rw [Call.marker, (hsame c hmem).1,
      markedUntil_earliest hsame hmem hc hiat hlifetime (hstart ▸ hle)]
  rw [spendAll_append]
  cases hledger : spendAll v [] pre with
  | nil =>
    have hnew : spendAll v [] [first] = [first.marker v] := spend_of_free hfirst rfl
    rw [hnew, hentered first (by simp [hcalls]) hfirst (le_refl _)]
    exact List.mem_singleton_self _
  | cons m ledger =>
    refine (suffix_spendAll (m :: ledger) [first]).subset ?_
    have hm : m ∈ spendAll v [] pre := by simp [hledger]
    rcases mem_spendAll hm with hnil | ⟨pre', c, post', rfl, hc, rfl, -⟩
    · cases hnil
    · rw [hcalls, clockedFrom_append] at hclock
      have hle : c.now ≤ first.now :=
        le_trans (clock_le_lastClock hclock.1 (by simp)) hclock.2.1
      rw [hentered c (by simp [hcalls]) hc hle]
      exact List.mem_cons_self

lemma two_of_straddles {t : Time} (hclock : ClockedFrom Call.now t calls)
    (h : Straddles v obj calls) : 1 < (spendAll v [] calls).length := by
  obtain ⟨hlifetime, iat, hiat, pre, first, mid, second, post, hcalls, hfirst, hsecond, hstart,
    hend, hzero⟩ := h
  have hsplit : spendAll v [] calls =
      spendAll v (spend v (spendAll v [] (pre ++ first :: mid)) second) post := by
    rw [hcalls, spendAll_append]
    rfl
  have hentry : (⟨x.key, unixTime iat + v.maxAge⟩ : Marker) ∈
      spendAll v [] (pre ++ first :: mid) := by
    have hearliest := earliest_entry hsame hclock
      (show calls = pre ++ first :: (mid ++ second :: post) by simp [hcalls])
      hfirst hiat hlifetime hstart
    rw [List.append_cons, spendAll_append]
    exact (suffix_spendAll _ mid).subset hearliest
  rw [hsplit]
  generalize spendAll v [] (pre ++ first :: mid) = ledger at hentry
  have hafter := (suffix_spendAll (v := v) (spend v ledger second) post).length_le
  have hbefore := (suffix_spend (v := v) ledger second).length_le
  by_contra hone
  -- One entry is all there is before the second presentation, which then finds it expired.
  have hfree : blocked ledger second.triple.key second.now = false := by
    rw [eq_singleton_of_mem hentry (by omega), ← hend]
    simp [blocked, isExpiredInclusive, hzero]
  have hpos := List.length_pos_of_mem hentry
  have hnew : (spend v ledger second).length = ledger.length + 1 := by
    rw [spend_of_free hsecond hfree, List.length_cons]
  omega

end Presentations

lemma replayKey_use_ne (id id' jti jti' : String) :
    ReplayMarkers.replayKey Use.authorize.scope id jti ≠
      ReplayMarkers.replayKey Use.ciba.scope id' jti' := by
  have hauthorize : Use.authorize.scope.toList = "jar:".toList ++ 'a' :: "uthz:".toList := by
    decide
  have hciba : Use.ciba.scope.toList = "jar:".toList ++ 'c' :: "iba:".toList := by decide
  exact replayKey_scope_ne _ hauthorize hciba (by decide) id id' jti jti'

lemma triple_key_injective : Function.Injective Triple.key := by
  intro x y h
  obtain ⟨use, clientID, jti⟩ := x
  obtain ⟨use', clientID', jti'⟩ := y
  have huse : use = use' := by
    cases use <;> cases use'
    · rfl
    · exact absurd h (replayKey_use_ne _ _ _ _)
    · exact absurd h.symm (replayKey_use_ne _ _ _ _)
    · rfl
  subst huse
  obtain ⟨rfl, rfl⟩ := replayKey_pair h
  rfl

/-- Of the presentations of one object at most one succeeds, unless two of them straddle its
life; and a call that passes all other checks is refused only after a success with its own
use, client and jti. -/
theorem request_object_accepted_once_iff (D : KeyDigest) (hD : D.Injective)
    (v : Verifier) (hjtis : v.jtis = true) (t : Time) (calls : List Call)
    (hclock : ClockedFrom Call.now t calls) (hjti : ∀ c ∈ calls, c.object.jti ≠ "") :
    (∀ x obj, (∀ c ∈ calls, c.triple = x ∧ c.object = obj) →
      ((answers D v (newRecordStore Time) calls).countP succeeds ≤ 1 ↔
        ¬ Straddles v obj calls)) ∧
    ∀ pre c post, calls = pre ++ c :: post → accepts v c →
      succeeds (verifyForUse D v (after D v (newRecordStore Time) pre) c).2 = false →
      ∃ pre' c' post', pre = pre' ++ c' :: post' ∧
        succeeds (verifyForUse D v (after D v (newRecordStore Time) pre') c').2 = true ∧
        c'.triple = c.triple := by
  have hrecords : Records D t (newRecordStore Time) [] := records_new D t
  constructor
  · intro x obj hsame
    have hcount := answers_spendAll hD hjtis hjti hrecords hclock
    rw [List.length_nil, add_zero] at hcount
    rw [hcount, ← not_lt, not_iff_not]
    exact ⟨straddles_of_two hsame, two_of_straddles hsame hclock⟩
  · rintro pre c post rfl haccepts hrefused
    obtain ⟨hpre, hle, -⟩ := clockedFrom_append.mp hclock
    have hjtiPre : ∀ c' ∈ pre, c'.object.jti ≠ "" := fun c' hc' => hjti c' (by simp [hc'])
    have hledger := after_refines hD hjtis hjtiPre hrecords hpre
    have hanswer := (verify_refines hD hjtis hledger hle (hjti c (by simp))).2
    have hblocked : blocked (spendAll v [] pre) c.triple.key c.now = true := by
      by_contra hfree
      rw [hanswer.mpr (spend_of_free haccepts (Bool.eq_false_iff.mpr hfree))] at hrefused
      cases hrefused
    obtain ⟨m, hm, hkey, -⟩ := (blocked_iff _ _ _).mp hblocked
    rcases mem_spendAll hm with hnil | ⟨pre', c', post', rfl, -, rfl, hentry⟩
    · cases hnil
    · obtain ⟨hpre', hle', -⟩ := clockedFrom_append.mp hpre
      have hledger' := after_refines hD hjtis
        (fun c'' hc'' => hjtiPre c'' (by simp [hc''])) hrecords hpre'
      have hanswer' := (verify_refines hD hjtis hledger' hle' (hjtiPre c' (by simp))).2
      rw [spendAll_append] at hentry
      exact ⟨pre', c', post', rfl, hanswer'.mpr hentry, triple_key_injective hkey⟩

/-! ### An object dated ahead -/

lemma defaultMaxFutureSkew_pos : 0 < 60 * Time.second := by decide

lemma defaultMaxAge_pos : 0 < 10 * Time.minute := by decide

def opVerifier : Verifier where
  issuer := "https://op"
  maxFutureSkew := 60 * Time.second
  skew_pos := defaultMaxFutureSkew_pos
  maxAge := 10 * Time.minute
  age_pos := defaultMaxAge_pos
  requireNbf := false
  requireIAT := false
  allowMissJTI := false
  jtis := true
  maxLifetime := 0

/-- Dated to second 60, without a near expiry. -/
def datedAhead : RequestObject :=
  ⟨"", false, "web", .text "https://op", some 100000, none, some 60, "j"⟩

def presentAt (now : Time) : Call := ⟨now, ascending, .authorize, "web", .ok (), datedAhead⟩

theorem request_object_accepted_once_iff_within :
    (answers plainDigest opVerifier (newRecordStore Time)
      [presentAt (unixTime 1), presentAt (unixTime 660)]).countP succeeds ≤ 1 := by
  refine ((request_object_accepted_once_iff plainDigest plainDigest_injective opVerifier rfl
    (unixTime 0) [presentAt (unixTime 1), presentAt (unixTime 660)] ?_ ?_).1
    ⟨.authorize, "web", "j"⟩ datedAhead ?_).mpr ?_
  · simp [ClockedFrom, presentAt, unixTime]
  · simp [presentAt, datedAhead]
  · simp [presentAt, Call.triple, datedAhead]
  · rintro ⟨-, iat, hiat, pre, first, mid, second, post, hcalls, -, -, hstart, -⟩
    cases hiat
    have hmem : first ∈ [presentAt (unixTime 1), presentAt (unixTime 660)] := by simp [hcalls]
    rcases List.mem_pair.mp hmem with rfl | rfl
    · exact absurd hstart (by decide)
    · exact absurd hstart (by decide)

/-- Used at second 0, as early as the skew allows, it is accepted again at second 660. -/
theorem straddled_object_accepted_twice :
    (answers plainDigest opVerifier (newRecordStore Time)
      [presentAt (unixTime 0), presentAt (unixTime 660)]).countP succeeds = 2 := by
  decide +kernel

end OidcProvider.RequestObjects
