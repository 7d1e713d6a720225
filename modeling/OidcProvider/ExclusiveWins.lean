import Mathlib.Data.Set.Basic
import OidcProvider.ResumptionPrograms

/-!
# Stakes that one program wins

Some answers of the shared state can be given only once: the first one spends
the stake, and a spent stake stays spent. Programs contend for such stakes. A
guarded program ends in `Q` unless it has won all of them, makes a foul call
only once it has won one, and ends in `Q` after it. Then at most one program
ends outside of `Q`, and if one does, nobody has made a foul call.
-/
namespace OidcProvider.ExclusiveWins
open ResumptionPrograms Prog

section Programs
variable {I O A B : Type} {R : O → Type} (wins : I → (o : O) → R o → Prop) (foul : O → Prop)

def gained (W : Set I) (o : O) (r : R o) : Set I := W ∪ {x | wins x o r}

/-- With the stakes `W` won so far, the program returns with the stakes that `T`
says; a foul call is made only by the owner of a stake, and then it ends in `F`. -/
def Tracks (F : A → Prop) (T : A → Set I → Prop) : Set I → Prog O R A → Prop
  | W, .ret a => T a W
  | W, .call o k => (foul o → W.Nonempty ∧ ∀ r, (k r).Returns F) ∧
      ∀ r, Tracks F T (gained wins W o r) (k r)

/-- Unless it has won all stakes, the program ends in `Q`. -/
def Guarded (Q : A → Prop) : Set I → Prog O R A → Prop :=
  Tracks wins foul Q fun a W => (∃ x, x ∉ W) → Q a

variable {wins foul} {F : A → Prop} {T : A → Set I → Prop}
variable {p : Prog O R A} {W : Set I} {Q : A → Prop}

lemma subset_gained (W : Set I) (o : O) (r : R o) : W ⊆ gained wins W o r :=
  Set.subset_union_left

lemma Tracks.mono {T' : A → Set I → Prop} (hp : Tracks wins foul F T W p)
    (h : ∀ a W', T a W' → T' a W') : Tracks wins foul F T' W p := by
  induction p generalizing W with
  | ret a => exact h a W hp
  | call o k ih => exact ⟨hp.1, fun r => ih r (hp.2 r)⟩

lemma Guarded.mono {W' : Set I} (hp : Guarded wins foul Q W p) (h : W ⊆ W') :
    Guarded wins foul Q W' p := by
  induction p generalizing W W' with
  | ret a =>
    rintro ⟨x, hx⟩
    exact hp ⟨x, fun hW => hx (h hW)⟩
  | call o k ih =>
    obtain ⟨hfoul, hrest⟩ := hp
    refine ⟨fun ho => ?_, fun r => ih r (hrest r) (Set.union_subset_union_left _ h)⟩
    obtain ⟨hW, hreturns⟩ := hfoul ho
    exact ⟨hW.mono h, hreturns⟩

/-- A program that ends in `F` anyway has only its foul calls to answer for. -/
theorem tracks_of_returns (hp : p.Returns F) (hcalls : p.Calls fun o => foul o → W.Nonempty)
    (hT : ∀ a W', F a → W ⊆ W' → T a W') : Tracks wins foul F T W p := by
  induction p generalizing W with
  | ret a => exact hT a W hp subset_rfl
  | call o k ih =>
    refine ⟨fun ho => ⟨hcalls.1 ho, hp⟩, fun r => ih r (hp r) ?_ ?_⟩
    · exact (hcalls.2 r).mono fun o' h ho' => (h ho').mono (subset_gained W o r)
    · exact fun a W' ha hW => hT a W' ha ((subset_gained W o r).trans hW)

lemma guarded_of_returns (hp : p.Returns Q) (hcalls : p.Calls fun o => foul o → W.Nonempty) :
    Guarded wins foul Q W p :=
  tracks_of_returns hp hcalls fun _ _ ha _ _ => ha

lemma tracks_of_calls (hp : p.Calls fun o => ¬foul o) :
    Tracks wins foul F (fun _ W' => W ⊆ W') W p := by
  have hkept : ∀ W', W ⊆ W' → Tracks wins foul F (fun _ W' => W ⊆ W') W' p := by
    induction p with
    | ret a => exact fun W' h => h
    | call o k ih =>
      exact fun W' h => ⟨fun ho => absurd ho hp.1,
        fun r => ih r (hp.2 r) _ (h.trans (subset_gained W' o r))⟩
  exact hkept W subset_rfl

lemma Tracks.returns (hp : Tracks wins foul F T W p) (h : p.Returns Q) :
    Tracks wins foul F (fun a W' => T a W' ∧ Q a) W p := by
  induction p generalizing W with
  | ret a => exact ⟨hp, h⟩
  | call o k ih => exact ⟨hp.1, fun r => ih r (hp.2 r) (h r)⟩

/-- The second program starts with the stakes won by then; after a foul call of
the first one it has to end in `F'`. -/
theorem Tracks.bind {F' : B → Prop} {T' : B → Set I → Prop} {f : A → Prog O R B}
    (hp : Tracks wins foul F T W p) (hF : ∀ a, F a → (f a).Returns F')
    (hf : ∀ a W', T a W' → Tracks wins foul F' T' W' (f a)) :
    Tracks wins foul F' T' W (p >>= f) := by
  induction p generalizing W with
  | ret a => exact hf a W hp
  | call o k ih =>
    refine ⟨fun ho => ?_, fun r => ih r (hp.2 r)⟩
    obtain ⟨hW, hreturns⟩ := hp.1 ho
    exact ⟨hW, fun r => (hreturns r).bind hF⟩

end Programs

/-! ### Executions -/

section Executions
variable {S I O A E U X : Type} {R : O → Type}

/-- The rules of the stakes: what wins one, and what it means that one is spent. -/
structure Stakes (I : Type) (handle : E → (o : O) → S → S × R o) (P : O → Prop) where
  wins : I → (o : O) → R o → Prop
  Spent : I → S → Prop
  Inv : S → Prop
  inv : ∀ e o s, P o → Inv s → Inv (handle e o s).1
  won : ∀ x e o s, Inv s → wins x o (handle e o s).2 → ¬Spent x s ∧ Spent x (handle e o s).1
  kept : ∀ x e o s, P o → Inv s → Spent x s → Spent x (handle e o s).1

variable {Y : System S O R A E U X} {P : O → Prop} (K : Stakes I Y.handle P) (foul : O → Prop)
  (Q : A → Prop)

/-- Who owns which stake, in a configuration with the log of its calls. -/
structure Owned (owner : I → Option ℕ) (c : Config (S × List O) O R A) : Prop where
  inv : K.Inv c.shared.1
  spent : ∀ x, owner x ≠ none → K.Spent x c.shared.1
  calls : ∀ (i : ℕ) p, c.threads[i]? = some p → p.Calls P
  guarded : ∀ (i : ℕ) p, c.threads[i]? = some p →
    Guarded K.wins foul Q {x | owner x = some i} p
  fouled : (∃ o ∈ c.shared.2, foul o) →
    ∃ x i p, owner x = some i ∧ c.threads[i]? = some p ∧ p.Returns Q

variable {K foul Q} {c : Config (S × List O) O R A} {owner : I → Option ℕ}

open Classical in
/-- A call of a program: the stakes it wins become its own. -/
theorem Owned.act (h : Owned K foul Q owner c) {i : ℕ} {o : O} {k : R o → Prog O R A}
    (hp : c.threads[i]? = some (.call o k)) (e : E) :
    Owned K foul Q
      (fun x => if K.wins x o (Y.handle e o c.shared.1).2 then some i else owner x)
      ⟨((Y.handle e o c.shared.1).1, c.shared.2 ++ [o]),
        c.threads.set i (k (Y.handle e o c.shared.1).2)⟩ := by
  have hi : i < c.threads.length := (List.getElem?_eq_some_iff.mp hp).choose
  obtain ⟨hPo, hPk⟩ := h.calls i _ hp
  obtain ⟨hfoul, hrest⟩ := h.guarded i _ hp
  -- what is won now had no owner before
  have hfree : ∀ x, K.wins x o (Y.handle e o c.shared.1).2 → owner x = none := by
    intro x hx
    by_contra hne
    exact (K.won x e o _ h.inv hx).1 (h.spent x hne)
  have hkept : ∀ x j, owner x = some j →
      (if K.wins x o (Y.handle e o c.shared.1).2 then some i else owner x) = some j := by
    intro x j hj
    rw [if_neg, hj]
    intro hx
    rw [hfree x hx] at hj
    cases hj
  constructor
  case inv => exact K.inv e o _ hPo h.inv
  case spent =>
    intro x hx
    by_cases hw : K.wins x o (Y.handle e o c.shared.1).2
    · exact (K.won x e o _ h.inv hw).2
    · rw [if_neg hw] at hx
      exact K.kept x e o _ hPo h.inv (h.spent x hx)
  case calls =>
    intro j p hj
    rw [List.getElem?_set] at hj
    split_ifs at hj with hij
    · cases hj
      exact hPk _
    · exact h.calls j p hj
  case guarded =>
    intro j p hj
    rw [List.getElem?_set] at hj
    split_ifs at hj with hij
    · cases hj
      subst hij
      refine Guarded.mono (hrest _) ?_
      rintro x (hx | hx)
      · exact hkept x i hx
      · exact if_pos hx
    · exact (h.guarded j p hj).mono fun x hx => hkept x j hx
  case fouled =>
    rintro ⟨o', ho', hf⟩
    rcases List.mem_append.mp ho' with ho' | ho'
    · obtain ⟨x, j, p, hj, hthread, hreturns⟩ := h.fouled ⟨o', ho', hf⟩
      by_cases hij : i = j
      · subst hij
        rw [hp, Option.some.injEq] at hthread
        subst hthread
        exact ⟨x, i, _, hkept x i hj, List.getElem?_set_self hi, hreturns _⟩
      · exact ⟨x, j, p, hkept x j hj, (List.getElem?_set_ne hij).trans hthread, hreturns⟩
    · rw [List.mem_singleton] at ho'
      subst ho'
      obtain ⟨⟨x, hx⟩, hreturns⟩ := hfoul hf
      exact ⟨x, i, _, hkept x i hx, List.getElem?_set_self hi, hreturns _⟩

lemma Owned.start (h : Owned K foul Q owner c) {p : Prog O R A} (hcalls : p.Calls P)
    (hguarded : Guarded K.wins foul Q ∅ p) : Owned K foul Q owner ⟨c.shared, c.threads ++ [p]⟩ := by
  have hthread : ∀ (j : ℕ) q, (c.threads ++ [p])[j]? = some q → c.threads[j]? = some q ∨ q = p := by
    intro j q hj
    rw [List.getElem?_append] at hj
    split_ifs at hj
    · exact .inl hj
    · rw [List.getElem?_singleton] at hj
      split_ifs at hj
      exact .inr (Option.some.inj hj).symm
  refine ⟨h.inv, h.spent, fun j q hj => ?_, fun j q hj => ?_, fun hf => ?_⟩
  · rcases hthread j q hj with hold | rfl
    · exact h.calls j q hold
    · exact hcalls
  · rcases hthread j q hj with hold | rfl
    · exact h.guarded j q hold
    · exact hguarded.mono (Set.empty_subset _)
  · obtain ⟨x, i, q, hx, hq, hreturns⟩ := h.fouled hf
    have hi : i < c.threads.length := (List.getElem?_eq_some_iff.mp hq).choose
    exact ⟨x, i, q, hx, (List.getElem?_append_left hi).trans hq, hreturns⟩

section Run
variable
  (hambient : ∀ u s, K.Inv s → K.Inv (Y.ambient u s) ∧ ∀ x, K.Spent x s → K.Spent x (Y.ambient u s))
  (hcalls : ∀ x, (Y.program x).Calls P) (hguarded : ∀ x, Guarded K.wins foul Q ∅ (Y.program x))
include hambient hcalls hguarded

variable {s : S} {ms : List (Move E U X)}

lemma owned_execute (hs : K.Inv s) (ms : List (Move E U X)) :
    ∃ owner, Owned K foul Q owner (Y.logged.execute ⟨(s, []), []⟩ ms) := by
  have hstart : Owned K foul Q (fun _ => none) ⟨(s, []), []⟩ :=
    ⟨hs, fun x hx => absurd rfl hx, fun _ _ hp => by simp at hp, fun _ _ hp => by simp at hp,
      fun ⟨_, ho, _⟩ => by cases ho⟩
  have hstep : ∀ c m, True → (∃ owner, Owned K foul Q owner c) →
      ∃ owner, Owned K foul Q owner (Y.logged.step c m) := by
    rintro c m - ⟨owner, h⟩
    cases m with
    | ambient u =>
      obtain ⟨hinv, hspent⟩ := hambient u _ h.inv
      exact ⟨owner, hinv, fun x hx => hspent x (h.spent x hx), h.calls, h.guarded, h.fouled⟩
    | start x => exact ⟨owner, h.start (hcalls x) (hguarded x)⟩
    | act i e =>
      rcases Y.logged.step_act (c := c) (i := i) (e := e) with ⟨o, k, hp, heq⟩ | heq
      · rw [heq]
        exact ⟨_, h.act hp e⟩
      · rw [heq]
        exact ⟨owner, h⟩
  exact Y.logged.execute_invariant hstep ⟨_, hstart⟩ fun _ _ => trivial

lemma owner_of_outcome (hs : K.Inv s) (ms : List (Move E U X)) :
    ∃ owner : I → Option ℕ,
      (∀ i a, System.outcome (Y.execute ⟨s, []⟩ ms) i = some a → ¬Q a → ∀ x, owner x = some i) ∧
      ((∃ o ∈ Y.calls ⟨s, []⟩ ms, foul o) → ∃ x i, owner x = some i ∧
        ∀ a, System.outcome (Y.execute ⟨s, []⟩ ms) i = some a → Q a) := by
  obtain ⟨owner, h⟩ := owned_execute hambient hcalls hguarded hs ms
  have hthreads : (Y.logged.execute ⟨(s, []), []⟩ ms).threads = _ :=
    (Y.execute_noted (fun o _ => o) ⟨s, []⟩ [] ms).2
  refine ⟨owner, fun i a hi hQ x => ?_, fun hf => ?_⟩
  · rw [System.outcome_eq_some, ← hthreads] at hi
    by_contra hx
    exact hQ (h.guarded i _ hi ⟨x, hx⟩)
  · obtain ⟨x, i, p, hx, hp, hreturns⟩ := h.fouled hf
    refine ⟨x, i, hx, fun a ha => ?_⟩
    rw [System.outcome_eq_some, ← hthreads, hp, Option.some.injEq] at ha
    subst ha
    exact hreturns

lemma winner_unique [Nonempty I] (hs : K.Inv s) {i j : ℕ} {a b : A}
    (hi : System.outcome (Y.execute ⟨s, []⟩ ms) i = some a)
    (hj : System.outcome (Y.execute ⟨s, []⟩ ms) j = some b) (ha : ¬Q a) (hb : ¬Q b) : i = j := by
  obtain ⟨owner, howner, _⟩ := owner_of_outcome hambient hcalls hguarded hs ms
  obtain ⟨x⟩ := ‹Nonempty I›
  exact Option.some.inj ((howner i a hi ha x).symm.trans (howner j b hj hb x))

lemma no_foul (hs : K.Inv s) {i : ℕ} {a : A}
    (hi : System.outcome (Y.execute ⟨s, []⟩ ms) i = some a) (ha : ¬Q a) :
    ∀ o ∈ Y.calls ⟨s, []⟩ ms, ¬foul o := by
  obtain ⟨owner, howner, hfouled⟩ := owner_of_outcome hambient hcalls hguarded hs ms
  intro o ho hf
  obtain ⟨x, j, hj, hQ⟩ := hfouled ⟨o, ho, hf⟩
  have hij : j = i := Option.some.inj (hj.symm.trans (howner i a hi ha x))
  exact ha (hQ a (hij ▸ hi))

end Run

end Executions

end OidcProvider.ExclusiveWins
