import Mathlib.Data.Finset.Insert
import Mathlib.Data.List.TakeWhile

/-!
# Locale tags and their fallback chains

`internal/i18n`: a tag is a byte string, and its chain drops the subtags from the right. A
resolver serves a request with the first tag of a chain that has a bundle.
-/
namespace OidcProvider.LocaleFallback

abbrev Tag := List UInt8

def ascii (s : String) : Tag := s.toList.map fun c => c.toNat.toUInt8

def hyphen : UInt8 := 45

/-- The position of the last hyphen. -/
def lastHyphen : Tag → Option ℕ
  | [] => none
  | c :: rest =>
    match lastHyphen rest with
    | some i => some (i + 1)
    | none => if c = hyphen then some 0 else none

def language (t : Tag) : Tag := t.takeWhile (· ≠ hyphen)

/-- What is offered for a tag that lost its last subtag; `none` ends the loop. -/
def offered (cur : Tag) : Option Tag :=
  if (lastHyphen cur).map (cur.length - ·) = some 2 then some (cur.take (cur.length - 2))
  else if cur.length < 2 then none
  else some cur

/-- One round of the loop. -/
def shorten (cur : Tag) : Option Tag := (lastHyphen cur).bind fun i => offered (cur.take i)

/-- The tags after `cur`; `none` if the rounds do not suffice. -/
def shortened : ℕ → Tag → Option (List Tag)
  | 0, _ => none
  | rounds + 1, cur =>
    match shorten cur with
    | none => some []
    | some next => (shortened rounds next).map (next :: ·)

def fallback (t : Tag) : Option (List Tag) :=
  if t = [] then some [] else (shortened (t.length + 1) t).map (t :: ·)

/-! ### Cuts at hyphens -/

def Cut (t u : Tag) : Prop := ∃ rest, t = u ++ hyphen :: rest

/-- The tag is, or ends in, a subtag with the property. -/
def EndsIn (P : Tag → Prop) (t : Tag) : Prop :=
  ∃ s, P s ∧ hyphen ∉ s ∧ (t = s ∨ ∃ u, t = u ++ hyphen :: s)

def Byte (s : Tag) : Prop := s.length = 1

/-- A character that is encoded in several bytes. -/
def Wide (s : Tag) : Prop := 1 < s.length ∧ ∃ c : Char, s = String.utf8EncodeChar c

/-- A byte that starts no character counts as one. -/
def EndsInSingleton (t : Tag) : Prop := EndsIn (fun s => Byte s ∨ Wide s) t

/-- The endings in a single character that one round does not remove: a wide character, and
two single bytes in a row. -/
def Overlooked (v : Tag) : Prop :=
  EndsIn Wide v ∨ ∃ u c, EndsIn Byte u ∧ c ≠ hyphen ∧ v = u ++ [hyphen, c]

/-- A subtag follows such an ending. -/
def Irregular (t : Tag) : Prop := ∃ v, Cut t v ∧ Overlooked v

lemma lastHyphen_append {s : Tag} (hs : hyphen ∉ s) (p : Tag) :
    lastHyphen (p ++ hyphen :: s) = some p.length := by
  have hnone : lastHyphen s = none := by
    induction s with
    | nil => rfl
    | cons c s ih => grind [lastHyphen]
  induction p with
  | nil => simp [lastHyphen, hnone]
  | cons c p ih => simp [lastHyphen, ih]

lemma lastHyphen_cases (t : Tag) :
    (lastHyphen t = none ∧ hyphen ∉ t) ∨
      ∃ p s, t = p ++ hyphen :: s ∧ hyphen ∉ s ∧ lastHyphen t = some p.length := by
  induction t with
  | nil => exact .inl ⟨rfl, List.not_mem_nil⟩
  | cons c t ih =>
    obtain ⟨hnone, hmem⟩ | ⟨p, s, rfl, hs, _⟩ := ih
    · by_cases hc : c = hyphen
      · exact .inr ⟨[], t, by rw [hc]; rfl, hmem, by simp [lastHyphen, hnone, hc]⟩
      · exact .inl ⟨by simp [lastHyphen, hnone, hc], by simp [hmem, Ne.symm hc]⟩
    · exact .inr ⟨c :: p, s, rfl, hs, lastHyphen_append hs (c :: p)⟩

lemma append_hyphen_inj {p u s rest : Tag} (hs : hyphen ∉ s)
    (h : p ++ hyphen :: s = u ++ hyphen :: rest) : p = u ∧ s = rest ∨ Cut p u := by
  obtain ⟨a, rfl, ha⟩ | ⟨a, rfl, ha⟩ := List.append_eq_append_iff.mp h
  · cases a with
    | nil => exact .inl (by simpa using ha)
    | cons c a => exact absurd (by grind) hs
  · cases a with
    | nil => exact .inl (by simpa using ha.symm)
    | cons c a => exact .inr ⟨a, by grind⟩

lemma cut_append {p s v : Tag} (hs : hyphen ∉ s) :
    Cut (p ++ hyphen :: s) v ↔ v = p ∨ Cut p v := by
  constructor
  · rintro ⟨rest, h⟩
    obtain ⟨rfl, _⟩ | hcut := append_hyphen_inj hs h
    · exact .inl rfl
    · exact .inr hcut
  · rintro (rfl | ⟨rest, rfl⟩)
    · exact ⟨s, rfl⟩
    · exact ⟨rest ++ hyphen :: s, by simp⟩

lemma endsIn_append {P : Tag → Prop} {u s : Tag} (hs : hyphen ∉ s) :
    EndsIn P (u ++ hyphen :: s) ↔ P s := by
  constructor
  · rintro ⟨s', hP, hs', rfl | ⟨u', h⟩⟩
    · simp at hs'
    · obtain ⟨_, rfl⟩ | ⟨rest, rfl⟩ := append_hyphen_inj hs h
      · exact hP
      · obtain rfl : rest ++ hyphen :: s = s' := by simpa using h
        simp at hs'
  · exact fun hP => ⟨s, hP, hs, .inr ⟨u, rfl⟩⟩

lemma endsInSingleton_iff {t : Tag} : EndsInSingleton t ↔ EndsIn Byte t ∨ EndsIn Wide t := by
  grind [EndsInSingleton, EndsIn]

/-- A round drops the last subtag, and the one before it if that is a single byte. -/
theorem shorten_cases (cur : Tag) :
    (hyphen ∉ cur ∧ shorten cur = none) ∨
      ∃ p s, cur = p ++ hyphen :: s ∧ hyphen ∉ s ∧
        ((p.length < 2 ∧ shorten cur = none) ∨
          (2 ≤ p.length ∧ ¬EndsIn Byte p ∧ shorten cur = some p) ∨
          ∃ q c, c ≠ hyphen ∧ p = q ++ [hyphen, c] ∧ shorten cur = some q) := by
  obtain ⟨hnone, hmem⟩ | ⟨p, s, rfl, hs, hlast⟩ := lastHyphen_cases cur
  · exact .inl ⟨hmem, by rw [shorten, hnone, Option.bind_none]⟩
  refine .inr ⟨p, s, rfl, hs, ?_⟩
  rw [shorten, hlast, Option.bind_some, List.take_left]
  obtain ⟨hnone, hmem⟩ | ⟨q, s', rfl, hs', hlast'⟩ := lastHyphen_cases p
  · simp only [offered, hnone, Option.map_none, reduceCtorEq, if_false]
    split_ifs with hlt
    · exact .inl ⟨hlt, rfl⟩
    · refine .inr (.inl ⟨not_lt.mp hlt, ?_, rfl⟩)
      rintro ⟨s', hbyte, _, rfl | ⟨u, rfl⟩⟩
      · exact hlt (by rw [hbyte]; decide)
      · simp at hmem
  · by_cases hbyte : Byte s'
    · obtain ⟨c, rfl⟩ := List.length_eq_one_iff.mp hbyte
      exact .inr (.inr ⟨q, c, by simpa using Ne.symm (List.ne_of_not_mem_cons hs'), rfl,
        by simp [offered, hlast']⟩)
    · have hlength : s'.length + 1 ≠ 2 := fun h => hbyte (Nat.succ.inj h)
      by_cases hlt : (q ++ hyphen :: s').length < 2
      · exact .inl ⟨hlt, by simpa [offered, hlast', hlength] using hlt⟩
      · exact .inr (.inl ⟨not_lt.mp hlt, by rwa [endsIn_append hs'], by
          simpa [offered, hlast', hlength] using hlt⟩)

lemma Overlooked.two_le_length {v : Tag} (h : Overlooked v) : 2 ≤ v.length := by
  obtain ⟨s, ⟨hlt, _⟩, _, rfl | ⟨u, rfl⟩⟩ | ⟨u, c, _, _, rfl⟩ := h
  · exact hlt
  · simp only [List.length_append, List.length_cons]
    omega
  · simp

lemma overlooked_append_byte {q : Tag} {c : UInt8} (hc : c ≠ hyphen) :
    Overlooked (q ++ [hyphen, c]) ↔ EndsIn Byte q := by
  have hwide : ¬EndsIn Wide (q ++ [hyphen, c]) := by
    rw [endsIn_append (by simpa using hc.symm)]
    exact fun h => absurd h.1 (by simp)
  constructor
  · rintro (h | ⟨u, c', hu, _, h⟩)
    · exact absurd h hwide
    · rwa [(List.append_inj' h rfl).1]
  · exact fun h => .inr ⟨q, c, h, hc, rfl⟩

lemma Overlooked.endsInSingleton {v : Tag} (h : Overlooked v) : EndsInSingleton v := by
  obtain h | ⟨u, c, _, hc, rfl⟩ := h
  · exact endsInSingleton_iff.mpr (.inr h)
  · exact (endsIn_append (by simpa using hc.symm)).mpr (.inl rfl)

lemma irregular_append {p s : Tag} (hs : hyphen ∉ s) :
    Irregular (p ++ hyphen :: s) ↔ Overlooked p ∨ Irregular p := by
  simp only [Irregular, cut_append hs, or_and_right, exists_or, exists_eq_left]

/-- The loop ends only at a tag that is regular. -/
theorem not_irregular_of_shorten {cur : Tag} (h : shorten cur = none) : ¬Irregular cur := by
  obtain ⟨hmem, _⟩ | ⟨p, s, rfl, hs, ⟨hp, _⟩ | ⟨_, _, hsome⟩ | ⟨q, c, _, _, hsome⟩⟩ :=
    shorten_cases cur
  · rintro ⟨v, ⟨rest, rfl⟩, _⟩
    simp at hmem
  · rw [irregular_append hs]
    rintro (hover | ⟨v, ⟨rest, rfl⟩, hover⟩)
    · exact absurd hover.two_le_length (by omega)
    · have hv := hover.two_le_length
      simp only [List.length_append] at hp
      omega
  all_goals
    rw [h] at hsome
    cases hsome

/-- What is irregular about a tag is offered in the next round, or is still there after it. -/
theorem irregular_iff_of_shorten {cur next : Tag} (h : shorten cur = some next) :
    Cut cur next ∧ (Irregular cur ↔ EndsInSingleton next ∨ Irregular next) := by
  obtain ⟨_, hsome⟩ | ⟨p, s, rfl, hs, ⟨_, hsome⟩ | ⟨_, hp, hsome⟩ | ⟨q, c, hc, rfl, hsome⟩⟩ :=
    shorten_cases cur
  all_goals
    rw [h] at hsome
    cases hsome
  · refine ⟨⟨s, rfl⟩, ?_⟩
    have hover : Overlooked next ↔ EndsInSingleton next := by
      refine ⟨Overlooked.endsInSingleton, fun hends => .inl ?_⟩
      exact (endsInSingleton_iff.mp hends).resolve_left hp
    rw [irregular_append hs, hover]
  · refine ⟨⟨c :: hyphen :: s, by simp⟩, ?_⟩
    rw [irregular_append hs, irregular_append (by simpa using hc.symm), overlooked_append_byte hc,
      ← or_assoc]
    refine or_congr_left ⟨?_, fun hends => ?_⟩
    · rintro (hbyte | hover)
      · exact endsInSingleton_iff.mpr (.inl hbyte)
      · exact hover.endsInSingleton
    · exact (endsInSingleton_iff.mp hends).imp_right .inl

lemma language_append (u rest : Tag) : language (u ++ hyphen :: rest) = language u := by
  induction u with
  | nil => simp [language]
  | cons c u ih => simp_all [language, List.takeWhile_cons]

lemma shorten_none {cur : Tag} (h : shorten cur = none) (hlang : 2 ≤ (language cur).length) :
    language cur = cur := by
  obtain ⟨hmem, _⟩ | ⟨p, s, rfl, hs, ⟨hp, _⟩ | ⟨_, _, hsome⟩ | ⟨q, c, _, _, hsome⟩⟩ :=
    shorten_cases cur
  · rw [language, List.takeWhile_eq_self_iff]
    grind
  · rw [language_append] at hlang
    have hlength : (language p).length ≤ p.length := (List.takeWhile_prefix _).length_le
    omega
  all_goals
    rw [h] at hsome
    cases hsome

lemma shortened_chain {rounds : ℕ} {cur : Tag} (hrounds : cur.length < rounds) :
    ∃ chain, shortened rounds cur = some chain ∧ (cur :: chain).IsChain Cut ∧
      (Irregular cur ↔ ∃ u ∈ chain, EndsInSingleton u) ∧
      (2 ≤ (language cur).length → (cur :: chain).getLast? = some (language cur)) := by
  induction rounds generalizing cur with
  | zero => omega
  | succ rounds ih =>
    unfold shortened
    cases h : shorten cur with
    | none =>
      exact ⟨[], rfl, .singleton cur, by simp [not_irregular_of_shorten h],
        fun hl => by simp [shorten_none h hl]⟩
    | some next =>
      obtain ⟨⟨rest, hrest⟩, hirregular⟩ := irregular_iff_of_shorten h
      obtain ⟨chain, hchain, hcuts, hends, hlang⟩ := @ih next (by grind)
      refine ⟨next :: chain, by simp [hchain], .cons_cons ⟨rest, hrest⟩ hcuts, ?_, ?_⟩
      · rw [hirregular, hends, List.exists_mem_cons_iff]
      · rw [hrest, language_append]
        simpa using hlang

/-! ### The resolver -/

/-- What the resolver calls outside its package, and the parser of the header. -/
structure Library where
  trimSpace : Tag → Tag
  parseAcceptLanguage : Tag → List Tag

/-- `bundles` are the tags with a bundle. An error of the store is no preference. -/
structure Resolver where
  bundles : Finset Tag
  defTag : Tag
  defTag_mem : defTag ∈ bundles
  prefs : Option (String → Option Tag)

structure Request where
  subject : String
  uiLocales : List Tag
  cookie : Tag
  acceptLanguage : Tag

section Source
variable (lib : Library)

def parseTag (raw : Tag) : Tag :=
  let raw := lib.trimSpace raw
  if raw = [] ∨ 48 < raw.length then []
  else raw.map fun c => if 65 ≤ c ∧ c ≤ 90 then c + 32 else if c = 95 then hyphen else c

/-- The bundles in the order of their registration; `none` is a nil bundle. -/
def register : List (Option Tag) → List Tag → Except Tag (List Tag)
  | [], order => .ok order
  | none :: _, _ => .error (ascii "i18n: bundle is nil")
  | some tag :: rest, order =>
    if tag ∈ order then .error (ascii "i18n: duplicate bundle tag " ++ tag)
    else register rest (order ++ [tag])

def newResolver (defTag : Tag) (bundles : List (Option Tag)) : Except Tag Resolver :=
  match register bundles [] with
  | .error e => .error e
  | .ok [] => .error (ascii "i18n: NewResolver requires at least one bundle")
  | .ok (first :: rest) =>
    let tags := (first :: rest).toFinset
    if lib.trimSpace defTag ≠ [] then
      let canonical := parseTag lib defTag
      if h : canonical ≠ [] ∧ canonical ∈ tags then .ok ⟨tags, canonical, h.2, none⟩
      else .error (ascii "i18n: default locale " ++ defTag ++ ascii " has no registered bundle")
    else if h : ascii "en" ∈ tags then .ok ⟨tags, ascii "en", h, none⟩
    else .ok ⟨tags, first, List.mem_toFinset.mpr List.mem_cons_self, none⟩

def validLocaleCookie (raw : Tag) : Bool :=
  let raw := lib.trimSpace raw
  decide (raw ≠ [] ∧ raw.length ≤ 64) && raw.all fun c =>
    decide (65 ≤ c ∧ c ≤ 90 ∨ 97 ≤ c ∧ c ≤ 122 ∨ 48 ≤ c ∧ c ≤ 57 ∨ c = hyphen ∨ c = 95)

namespace Resolver
variable (r : Resolver)

def matchTag (tag : Tag) : Option Tag :=
  ((fallback (parseTag lib tag)).getD []).find? (· ∈ r.bundles)

/-- The tags a request asks for, in the order of the priority chain. -/
def asked (req : Request) : List Tag :=
  (if req.subject ≠ "" then r.prefs.bind (· req.subject) else none).toList ++ req.uiLocales ++
    (if validLocaleCookie lib req.cookie then [req.cookie] else []) ++
    lib.parseAcceptLanguage req.acceptLanguage

def resolve (req : Request) : Tag :=
  ((r.asked lib req).findSome? (r.matchTag lib)).getD r.defTag

end Resolver
end Source

lemma resolve_mem (lib : Library) (r : Resolver) (req : Request) :
    r.resolve lib req ∈ r.bundles := by
  unfold Resolver.resolve
  cases h : (r.asked lib req).findSome? (r.matchTag lib) with
  | none => exact r.defTag_mem
  | some u =>
    obtain ⟨tag, _, htag⟩ := List.exists_of_findSome?_eq_some h
    simpa using List.find?_some htag

/-- A tag's chain cuts it down to its language at hyphens, and offers a tag that ends in a
single character exactly if the tag is irregular; and a resolver serves the first registered
tag of a chain, so it always serves a registered one. -/
theorem fallback_served (lib : Library) :
    (∀ t ≠ [], ∃ chain, fallback t = some (t :: chain) ∧ (t :: chain).IsChain Cut ∧
      (Irregular t ↔ ∃ u ∈ chain, EndsInSingleton u) ∧
      (2 ≤ (language t).length → (t :: chain).getLast? = some (language t))) ∧
    (∀ (r : Resolver) (tag u : Tag), r.matchTag lib tag = some u ↔
      ∃ before after, fallback (parseTag lib tag) = some (before ++ u :: after) ∧
        u ∈ r.bundles ∧ ∀ v ∈ before, v ∉ r.bundles) ∧
    ∀ (r : Resolver) req, r.resolve lib req ∈ r.bundles := by
  have hends (t : Tag) (ht : t ≠ []) {chain : List Tag}
      (h : shortened (t.length + 1) t = some chain) : fallback t = some (t :: chain) := by
    rw [fallback, if_neg ht, h, Option.map_some]
  refine ⟨fun t ht => ?_, fun r tag u => ?_, resolve_mem lib⟩
  · obtain ⟨chain, hchain, hspec⟩ := shortened_chain (Nat.lt_succ_self t.length)
    exact ⟨chain, hends t ht hchain, hspec⟩
  · have hfallback : ∃ chain, fallback (parseTag lib tag) = some chain := by
      by_cases ht : parseTag lib tag = []
      · exact ⟨[], if_pos ht⟩
      · obtain ⟨chain, hchain, _⟩ := shortened_chain (Nat.lt_succ_self (parseTag lib tag).length)
        exact ⟨_, hends _ ht hchain⟩
    obtain ⟨chain, h⟩ := hfallback
    simp only [Resolver.matchTag, h, Option.getD_some, List.find?_eq_some_iff_append]
    grind

/-- Singletons in a private-use sequence: the chain offers `en-x-a`. -/
theorem fallback_offers_singleton :
    fallback (ascii "en-x-a-b-c") = some [ascii "en-x-a-b-c", ascii "en-x-a", ascii "en"] ∧
      EndsInSingleton (ascii "en-x-a") :=
  ⟨by decide +kernel, [97], .inl rfl, by decide, .inr ⟨ascii "en-x", by decide +kernel⟩⟩

end OidcProvider.LocaleFallback
