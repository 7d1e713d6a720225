import Mathlib.Data.List.Basic

/-!
# Programs that call a shared state, and their interleavings

A program is a tree of calls: each call is answered by the shared state, and
the program continues on the answer. A system runs any number of programs on
one shared state, one call at a time, in an order nobody controls, together
with moves of the surroundings. `Upholds` is the outline of a program: whatever
moves the others make between its calls, its own calls are such moves as well,
and it ends with its postcondition. Outlines compose along `bind`, and in every
execution of a system of outlined programs each finished one has its
postcondition.
-/
namespace OidcProvider.ResumptionPrograms

/-- A program with calls `O`, answered by `R`, and results `A`. -/
inductive Prog (O : Type) (R : O → Type) (A : Type) where
  | ret (a : A)
  | call (o : O) (k : R o → Prog O R A)

namespace Prog
variable {O A B : Type} {R : O → Type}

def bind : Prog O R A → (A → Prog O R B) → Prog O R B
  | .ret a, f => f a
  | .call o k, f => .call o fun r => bind (k r) f

instance : Monad (Prog O R) where
  pure := .ret
  bind := bind

def perform (o : O) : Prog O R (R o) := .call o .ret

@[simp] lemma pure_eq (a : A) : (pure a : Prog O R A) = .ret a := rfl

@[simp] lemma ret_bind (a : A) (f : A → Prog O R B) : (Prog.ret a >>= f) = f a := rfl

@[simp] lemma call_bind (o : O) (k : R o → Prog O R A) (f : A → Prog O R B) :
    (Prog.call o k >>= f) = .call o fun r => k r >>= f := rfl

def Calls (P : O → Prop) : Prog O R A → Prop
  | .ret _ => True
  | .call o k => P o ∧ ∀ r, (k r).Calls P

/-- Every result the program can come to is in `Q`. -/
def Returns (Q : A → Prop) : Prog O R A → Prop
  | .ret a => Q a
  | .call _ k => ∀ r, (k r).Returns Q

variable {P : O → Prop} {Q : A → Prop} {p : Prog O R A} {f : A → Prog O R B}

lemma Calls.mono {P' : O → Prop} (hp : p.Calls P) (h : ∀ o, P o → P' o) : p.Calls P' := by
  induction p with
  | ret a => trivial
  | call o k ih => exact ⟨h o hp.1, fun r => ih r (hp.2 r)⟩

lemma Calls.bind (hp : p.Calls P) (hf : ∀ a, (f a).Calls P) : (p >>= f).Calls P := by
  induction p with
  | ret a => exact hf a
  | call o k ih => exact ⟨hp.1, fun r => ih r (hp.2 r)⟩

lemma calls_perform {o : O} {f : R o → Prog O R A} (ho : P o) (hf : ∀ r, (f r).Calls P) :
    (perform o >>= f).Calls P :=
  ⟨ho, hf⟩

/-- What the first program returns may be used for the calls of the second. -/
theorem Calls.bind_returns (hp : p.Calls P) (hret : p.Returns Q) (hf : ∀ a, Q a → (f a).Calls P) :
    (p >>= f).Calls P := by
  induction p with
  | ret a => exact hf a hret
  | call o k ih => exact ⟨hp.1, fun r => ih r (hp.2 r) (hret r)⟩

lemma Returns.mono {Q' : A → Prop} (hp : p.Returns Q) (h : ∀ a, Q a → Q' a) : p.Returns Q' := by
  induction p with
  | ret a => exact h a hp
  | call o k ih => exact fun r => ih r (hp r)

lemma Returns.bind {Q' : B → Prop} (hp : p.Returns Q) (hf : ∀ a, Q a → (f a).Returns Q') :
    (p >>= f).Returns Q' := by
  induction p with
  | ret a => exact hf a hp
  | call o k ih => exact fun r => ih r (hp r)

lemma returns_true (p : Prog O R A) : p.Returns fun _ => True := by
  induction p with
  | ret a => trivial
  | call o k ih => exact ih

/-- The program with nobody in between, on the choices `es` in their order. -/
def runAlone {S E : Type} (handle : E → (o : O) → S → S × R o) : Prog O R A → (ℕ → E) → S → S × A
  | .ret a, _, s => (s, a)
  | .call o k, es, s =>
    (k (handle (es 0) o s).2).runAlone handle (fun n => es (n + 1)) (handle (es 0) o s).1

lemma Returns.runAlone {S E : Type} (hp : p.Returns Q) (handle : E → (o : O) → S → S × R o)
    (es : ℕ → E) (s : S) : Q (p.runAlone handle es s).2 := by
  induction p generalizing es s with
  | ret a => exact hp
  | call o k ih => exact ih _ (hp _) _ _

/-- Two states that answer alike, call by call, make the program end alike. -/
theorem runAlone_simulates {S S' E : Type} {handle : E → (o : O) → S → S × R o}
    {handle' : E → (o : O) → S' → S' × R o} {Rel : S → S' → Prop}
    (hcall : ∀ e o s s', Rel s s' →
      Rel (handle e o s).1 (handle' e o s').1 ∧ (handle e o s).2 = (handle' e o s').2)
    (p : Prog O R A) (es : ℕ → E) {s : S} {s' : S'} (h : Rel s s') :
    Rel (p.runAlone handle es s).1 (p.runAlone handle' es s').1 ∧
      (p.runAlone handle es s).2 = (p.runAlone handle' es s').2 := by
  induction p generalizing es s s' with
  | ret a => exact ⟨h, rfl⟩
  | call o k ih =>
    obtain ⟨hnext, hreply⟩ := hcall (es 0) o s s' h
    simp only [runAlone, hreply]
    exact ih _ _ hnext

/-- Run with nobody in between, the program ends in `Q`, whatever the choices. -/
def Ensures {S E : Type} (handle : E → (o : O) → S → S × R o) (Q : A → S → Prop)
    (p : Prog O R A) (s : S) : Prop :=
  ∀ es, Q (p.runAlone handle es s).2 (p.runAlone handle es s).1

section Ensures
variable {S E : Type} {handle : E → (o : O) → S → S × R o} {QA : A → S → Prop}

lemma ensures_ret {a : A} {s : S} (h : QA a s) : (Prog.ret a).Ensures handle QA s :=
  fun _ => h

lemma ensures_call {o : O} {k : R o → Prog O R A} {s : S}
    (h : ∀ e, (k (handle e o s).2).Ensures handle QA (handle e o s).1) :
    (Prog.call o k).Ensures handle QA s :=
  fun es => h (es 0) fun n => es (n + 1)

lemma Ensures.bind {QB : B → S → Prop} {s : S} (hp : p.Ensures handle QA s)
    (hf : ∀ a s', QA a s' → (f a).Ensures handle QB s') : (p >>= f).Ensures handle QB s := by
  induction p generalizing s with
  | ret a => exact fun es => hf a s (hp es) es
  | call o k ih =>
    refine ensures_call fun e => ih _ fun es => ?_
    exact hp fun n => Nat.casesOn n e es

end Ensures

end Prog

open Prog

/-! ### Systems of programs -/

/-- A shared state that answers calls, its surroundings, and the programs that
may be started on it. `E` are the choices an answer leaves open. -/
structure System (S O : Type) (R : O → Type) (A E U X : Type) where
  handle : E → (o : O) → S → S × R o
  ambient : U → S → S
  program : X → Prog O R A

structure Config (S O : Type) (R : O → Type) (A : Type) where
  shared : S
  threads : List (Prog O R A)

inductive Move (E U X : Type) where
  | ambient (u : U)
  | start (x : X)
  | act (i : ℕ) (e : E)

/-- Only some surroundings and some programs are let in. -/
def Move.Ok {E U X : Type} (okAmbient : U → Prop) (okProgram : X → Prop) : Move E U X → Prop
  | .ambient u => okAmbient u
  | .start x => okProgram x
  | .act _ _ => True

namespace System
variable {S O A E U X N : Type} {R : O → Type} (Y : System S O R A E U X) {c : Config S O R A}
  {ms : List (Move E U X)} {T : Prog O R A → Prop} {i : ℕ} {p : Prog O R A}
  (note : (o : O) → R o → N)

/-- One move: of the surroundings, the start of a program, or one call of a
running program. A program that has finished does not move. -/
def step (c : Config S O R A) : Move E U X → Config S O R A
  | .ambient u => ⟨Y.ambient u c.shared, c.threads⟩
  | .start x => ⟨c.shared, c.threads ++ [Y.program x]⟩
  | .act i e =>
    match c.threads[i]? with
    | some (.call o k) =>
      ⟨(Y.handle e o c.shared).1, c.threads.set i (k (Y.handle e o c.shared).2)⟩
    | _ => c

def execute (c : Config S O R A) (ms : List (Move E U X)) : Config S O R A := ms.foldl Y.step c

def outcome (c : Config S O R A) (i : ℕ) : Option A :=
  match c.threads[i]? with
  | some (.ret a) => some a
  | _ => none

lemma outcome_eq_some {a : A} : outcome c i = some a ↔ c.threads[i]? = some (.ret a) := by
  unfold outcome
  cases hp : c.threads[i]? with
  | none => simp
  | some p => cases p <;> simp

lemma step_act {e : E} :
    (∃ o k, c.threads[i]? = some (.call o k) ∧
        Y.step c (.act i e) =
          ⟨(Y.handle e o c.shared).1, c.threads.set i (k (Y.handle e o c.shared).2)⟩) ∨
      Y.step c (.act i e) = c := by
  dsimp only [step]
  cases hp : c.threads[i]? with
  | none => exact .inr rfl
  | some p =>
    cases p with
    | ret a => exact .inr rfl
    | call o k => exact .inl ⟨o, k, rfl, rfl⟩

lemma step_call {o : O} {k : R o → Prog O R A} (hp : c.threads[i]? = some (.call o k)) (e : E) :
    Y.step c (.act i e) =
      ⟨(Y.handle e o c.shared).1, c.threads.set i (k (Y.handle e o c.shared).2)⟩ := by
  dsimp only [step]
  rw [hp]

lemma step_ret {a : A} (hp : c.threads[i]? = some (.ret a)) (e : E) :
    Y.step c (.act i e) = c := by
  dsimp only [step]
  rw [hp]

/-- The thread that was started last makes its next call. -/
theorem step_last {s : S} {ps : List (Prog O R A)} {o : O} (k : R o → Prog O R A) (e : E) :
    Y.step ⟨s, ps ++ [.call o k]⟩ (.act ps.length e) =
      ⟨(Y.handle e o s).1, ps ++ [k (Y.handle e o s).2]⟩ := by
  rw [step_call Y List.getElem?_concat_length]
  simp

lemma execute_invariant {P : Config S O R A → Prop} {ok : Move E U X → Prop}
    (h : ∀ c m, ok m → P c → P (Y.step c m)) (hc : P c) (hms : ∀ m ∈ ms, ok m) :
    P (Y.execute c ms) := by
  induction ms generalizing c with
  | nil => exact hc
  | cons m ms ih =>
    obtain ⟨hm, hms⟩ := List.forall_mem_cons.mp hms
    exact ih (h c m hm hc) hms

/-- Each move is let in by the configuration it is made in. -/
def Admitted (ok : Config S O R A → Move E U X → Prop) : Config S O R A → List (Move E U X) → Prop
  | _, [] => True
  | c, m :: ms => ok c m ∧ Admitted ok (Y.step c m) ms

instance decidableAdmitted {ok : Config S O R A → Move E U X → Prop}
    [∀ c m, Decidable (ok c m)] :
    (c : Config S O R A) → (ms : List (Move E U X)) → Decidable (Y.Admitted ok c ms)
  | _, [] => .isTrue trivial
  | c, m :: ms => @instDecidableAnd _ _ _ (decidableAdmitted (Y.step c m) ms)

lemma admitted_of_forall {ok : Move E U X → Prop} (hms : ∀ m ∈ ms, ok m) (c : Config S O R A) :
    Y.Admitted (fun _ => ok) c ms := by
  induction ms generalizing c with
  | nil => trivial
  | cons m ms ih =>
    obtain ⟨hm, hms⟩ := List.forall_mem_cons.mp hms
    exact ⟨hm, ih hms _⟩

lemma admitted_append {ok : Config S O R A → Move E U X → Prop} {ms' : List (Move E U X)} :
    Y.Admitted ok c (ms ++ ms') ↔ Y.Admitted ok c ms ∧ Y.Admitted ok (Y.execute c ms) ms' := by
  induction ms generalizing c with
  | nil => exact ⟨fun h => ⟨trivial, h⟩, fun h => h.2⟩
  | cons m ms ih =>
    change _ ∧ Y.Admitted ok (Y.step c m) (ms ++ ms') ↔ _
    rw [ih]
    exact ⟨fun h => ⟨⟨h.1, h.2.1⟩, h.2.2⟩, fun h => ⟨h.1.1, h.1.2, h.2⟩⟩

lemma Admitted.and_forall {ok : Config S O R A → Move E U X → Prop} {P : Move E U X → Prop}
    (h : Y.Admitted ok c ms) (hP : ∀ m ∈ ms, P m) : Y.Admitted (fun c m => ok c m ∧ P m) c ms := by
  induction ms generalizing c with
  | nil => trivial
  | cons m ms ih =>
    obtain ⟨hm, hms⟩ := List.forall_mem_cons.mp hP
    exact ⟨⟨h.1, hm⟩, ih h.2 hms⟩

lemma length_le_step (c : Config S O R A) (m : Move E U X) :
    c.threads.length ≤ (Y.step c m).threads.length := by
  cases m with
  | ambient u => exact Nat.le_refl _
  | start x => simp [step]
  | act i e =>
    rcases Y.step_act (c := c) (i := i) (e := e) with ⟨o, k, _, heq⟩ | heq
    · simp [heq]
    · exact Nat.le_of_eq (congrArg (·.threads.length) heq.symm)

lemma step_thread (hT : ∀ o k r, T (.call o k) → T (k r)) (hp : c.threads[i]? = some p) (h : T p)
    (m : Move E U X) : ∃ p', (Y.step c m).threads[i]? = some p' ∧ T p' := by
  have hi : i < c.threads.length := (List.getElem?_eq_some_iff.mp hp).choose
  cases m with
  | ambient u => exact ⟨p, hp, h⟩
  | start x => exact ⟨p, (List.getElem?_append_left hi).trans hp, h⟩
  | act j e =>
    rcases Y.step_act (c := c) (i := j) (e := e) with ⟨o, k, hj, heq⟩ | heq
    · rw [heq]
      by_cases hij : j = i
      · subst hij
        rw [hp, Option.some.injEq] at hj
        subst hj
        exact ⟨_, List.getElem?_set_self hi, hT o k _ h⟩
      · exact ⟨p, (List.getElem?_set_ne hij).trans hp, h⟩
    · rw [heq]
      exact ⟨p, hp, h⟩

lemma execute_thread (hT : ∀ o k r, T (.call o k) → T (k r)) (hp : c.threads[i]? = some p)
    (h : T p) (ms : List (Move E U X)) : ∃ p', (Y.execute c ms).threads[i]? = some p' ∧ T p' := by
  induction ms generalizing c p with
  | nil => exact ⟨p, hp, h⟩
  | cons m ms ih =>
    obtain ⟨p', hp', h'⟩ := Y.step_thread hT hp h m
    exact ih hp' h'

lemma execute_idle (hp : c.threads[i]? = some p) (hms : ∀ e, .act i e ∉ ms) :
    (Y.execute c ms).threads[i]? = some p := by
  induction ms generalizing c with
  | nil => exact hp
  | cons m ms ih =>
    have hi : i < c.threads.length := (List.getElem?_eq_some_iff.mp hp).choose
    refine ih ?_ fun e he => hms e (List.mem_cons_of_mem m he)
    cases m with
    | ambient u => exact hp
    | start x => exact (List.getElem?_append_left hi).trans hp
    | act j e =>
      have hij : j ≠ i := fun hij => hms e (hij ▸ List.mem_cons_self)
      rcases Y.step_act (c := c) (i := j) (e := e) with ⟨o, k, _, heq⟩ | heq
      · rw [heq]
        exact (List.getElem?_set_ne hij).trans hp
      · rw [heq]
        exact hp

/-- What every admitted program keeps as it goes on, all programs have. -/
theorem execute_threads (hT : ∀ o k r, T (.call o k) → T (k r)) {okAmbient : U → Prop}
    {okProgram : X → Prop} (hprogram : ∀ x, okProgram x → T (Y.program x))
    (hc : ∀ (i : ℕ) p, c.threads[i]? = some p → T p) (hms : ∀ m ∈ ms, m.Ok okAmbient okProgram) :
    ∀ (i : ℕ) p, (Y.execute c ms).threads[i]? = some p → T p := by
  refine Y.execute_invariant (P := fun c => ∀ (i : ℕ) p, c.threads[i]? = some p → T p)
    (fun c m hm h => ?_) hc hms
  intro i p hp
  by_cases hi : i < c.threads.length
  · obtain ⟨p', hp', h'⟩ := Y.step_thread hT (List.getElem?_eq_getElem hi) (h i _
      (List.getElem?_eq_getElem hi)) m
    rw [hp, Option.some.injEq] at hp'
    exact hp' ▸ h'
  · -- only a start reaches beyond the programs there were
    have hnone : c.threads[i]? = none := List.getElem?_eq_none (Nat.le_of_not_lt hi)
    cases m with
    | ambient u =>
      change c.threads[i]? = some p at hp
      rw [hnone] at hp
      cases hp
    | act j e =>
      rcases Y.step_act (c := c) (i := j) (e := e) with ⟨o, k, _, heq⟩ | heq
      · rw [heq] at hp
        rw [List.getElem?_eq_none (by rw [List.length_set]; exact Nat.le_of_not_lt hi)] at hp
        cases hp
      · rw [heq, hnone] at hp
        cases hp
    | start x =>
      change (c.threads ++ [Y.program x])[i]? = some p at hp
      rw [List.getElem?_append_right (Nat.le_of_not_lt hi), List.getElem?_singleton] at hp
      split_ifs at hp
      cases hp
      exact hprogram x hm

lemma execute_append (c : Config S O R A) (ms ms' : List (Move E U X)) :
    Y.execute c (ms ++ ms') = Y.execute (Y.execute c ms) ms' :=
  List.foldl_append

/-- The system with a note of each call and its answer, in their order. -/
def noted {N : Type} (note : (o : O) → R o → N) : System (S × List N) O R A E U X where
  handle e o s :=
    (((Y.handle e o s.1).1, s.2 ++ [note o (Y.handle e o s.1).2]), (Y.handle e o s.1).2)
  ambient u s := (Y.ambient u s.1, s.2)
  program := Y.program

def notes {N : Type} (note : (o : O) → R o → N) (c : Config S O R A) (ms : List (Move E U X)) :
    List N :=
  ((Y.noted note).execute ⟨(c.shared, []), c.threads⟩ ms).shared.2

lemma execute_noted (c : Config S O R A) (l : List N) (ms : List (Move E U X)) :
    ((Y.noted note).execute ⟨(c.shared, l), c.threads⟩ ms).shared.1 = (Y.execute c ms).shared ∧
      ((Y.noted note).execute ⟨(c.shared, l), c.threads⟩ ms).threads =
        (Y.execute c ms).threads := by
  induction ms generalizing c l with
  | nil => exact ⟨rfl, rfl⟩
  | cons m ms ih =>
    have hstep : ∃ l', (Y.noted note).step ⟨(c.shared, l), c.threads⟩ m =
        ⟨((Y.step c m).shared, l'), (Y.step c m).threads⟩ := by
      cases m with
      | ambient u => exact ⟨l, rfl⟩
      | start x => exact ⟨l, rfl⟩
      | act i e =>
        dsimp only [step]
        cases c.threads[i]? with
        | none => exact ⟨l, rfl⟩
        | some p =>
          cases p with
          | ret a => exact ⟨l, rfl⟩
          | call o k => exact ⟨l ++ [note o (Y.handle e o c.shared).2], rfl⟩
    obtain ⟨l', hstep⟩ := hstep
    change ((Y.noted note).execute ((Y.noted note).step _ m) ms).shared.1 = _ ∧
      ((Y.noted note).execute ((Y.noted note).step _ m) ms).threads = _
    rw [hstep]
    exact ih (Y.step c m) l'

lemma notes_append (c : Config S O R A) (ms ms' : List (Move E U X)) :
    ∃ l, Y.notes note c (ms ++ ms') = Y.notes note c ms ++ l := by
  unfold notes
  rw [execute_append]
  generalize (Y.noted note).execute ⟨(c.shared, []), c.threads⟩ ms = d
  induction ms' generalizing d with
  | nil => exact ⟨[], (List.append_nil _).symm⟩
  | cons m ms' ih =>
    have hstep : ∃ l, ((Y.noted note).step d m).shared.2 = d.shared.2 ++ l := by
      cases m with
      | ambient u => exact ⟨[], (List.append_nil _).symm⟩
      | start x => exact ⟨[], (List.append_nil _).symm⟩
      | act i e =>
        rcases (Y.noted note).step_act (c := d) (i := i) (e := e) with ⟨o, k, _, heq⟩ | heq
        · rw [heq]
          exact ⟨[_], rfl⟩
        · rw [heq]
          exact ⟨[], (List.append_nil _).symm⟩
    obtain ⟨l, hl⟩ := hstep
    obtain ⟨l', hl'⟩ := ih ((Y.noted note).step d m)
    refine ⟨l ++ l', ?_⟩
    rw [← List.append_assoc, ← hl]
    exact hl'

/-- The system with a log of the calls it has answered, in their order. -/
def logged : System (S × List O) O R A E U X := Y.noted fun o _ => o

def calls (c : Config S O R A) (ms : List (Move E U X)) : List O := Y.notes (fun o _ => o) c ms

lemma notes_map {N' : Type} (f : N → N') (c : Config S O R A) (ms : List (Move E U X)) :
    Y.notes (fun o r => f (note o r)) c ms = (Y.notes note c ms).map f := by
  have hrun : ∀ (ms : List (Move E U X)) (c : Config S O R A) (l : List N),
      ((Y.noted fun o r => f (note o r)).execute ⟨(c.shared, l.map f), c.threads⟩ ms).shared.2 =
        (((Y.noted note).execute ⟨(c.shared, l), c.threads⟩ ms).shared.2).map f := by
    intro ms
    induction ms with
    | nil => exact fun _ _ => rfl
    | cons m ms ih =>
      intro c l
      have hstep : ∃ (c' : Config S O R A) (l' : List N),
          (Y.noted note).step ⟨(c.shared, l), c.threads⟩ m =
            ⟨(c'.shared, l'), c'.threads⟩ ∧
          (Y.noted fun o r => f (note o r)).step ⟨(c.shared, l.map f), c.threads⟩ m =
            ⟨(c'.shared, l'.map f), c'.threads⟩ := by
        cases m with
        | ambient u => exact ⟨⟨Y.ambient u c.shared, c.threads⟩, l, rfl, rfl⟩
        | start x => exact ⟨⟨c.shared, c.threads ++ [Y.program x]⟩, l, rfl, rfl⟩
        | act i e =>
          dsimp only [step]
          cases c.threads[i]? with
          | none => exact ⟨c, l, rfl, rfl⟩
          | some p =>
            cases p with
            | ret a => exact ⟨c, l, rfl, rfl⟩
            | call o k =>
              refine ⟨⟨(Y.handle e o c.shared).1,
                c.threads.set i (k (Y.handle e o c.shared).2)⟩,
                l ++ [note o (Y.handle e o c.shared).2], rfl, ?_⟩
              rw [List.map_append]
              rfl
      obtain ⟨c', l', hnote, hmapped⟩ := hstep
      change ((Y.noted _).execute ((Y.noted _).step _ m) ms).shared.2 =
        (((Y.noted note).execute ((Y.noted note).step _ m) ms).shared.2).map f
      rw [hnote, hmapped]
      exact ih c' l'
  exact hrun ms c []

end System

/-! ### Outlines -/

section Outlines
variable {S O A B E U X : Type} {R : O → Type}

/-- The moves everybody keeps to: they preserve `Inv` and go along `G`. -/
structure Discipline (S : Type) where
  Inv : S → Prop
  G : S → S → Prop
  refl : ∀ s, G s s
  trans : ∀ {a b c}, G a b → G b c → G a c

variable (handle : E → (o : O) → S → S × R o) (L : Discipline S)

/-- Whatever disciplined moves happen between the calls of the program, its own
calls are disciplined, and it ends in `Q`. -/
def Upholds (Q : A → S → Prop) : Prog O R A → S → Prop
  | .ret a, s => ∀ s', L.G s s' → L.Inv s' → Q a s'
  | .call o k, s => ∀ s', L.G s s' → L.Inv s' → ∀ e,
      L.Inv (handle e o s').1 ∧ L.G s' (handle e o s').1 ∧
        Upholds Q (k (handle e o s').2) (handle e o s').1

variable {handle L} {Q : A → S → Prop} {p : Prog O R A} {s : S}

lemma Upholds.stable {s' : S} (h : Upholds handle L Q p s) (hG : L.G s s') :
    Upholds handle L Q p s' := by
  cases p with
  | ret a => exact fun s'' hG' hInv => h s'' (L.trans hG hG') hInv
  | call o k => exact fun s'' hG' hInv => h s'' (L.trans hG hG') hInv

lemma Upholds.result {a : A} (h : Upholds handle L Q (.ret a) s) (hInv : L.Inv s) : Q a s :=
  h s (L.refl s) hInv

/-- Sequential composition: the postcondition of the first program is what the
second one starts from. -/
theorem Upholds.bind {Q' : B → S → Prop} {f : A → Prog O R B} (hp : Upholds handle L Q p s)
    (hInv : L.Inv s) (hf : ∀ a s', L.Inv s' → Q a s' → Upholds handle L Q' (f a) s') :
    Upholds handle L Q' (p >>= f) s := by
  induction p generalizing s with
  | ret a => exact hf a s hInv (hp.result hInv)
  | call o k ih =>
    intro s' hG hInv' e
    obtain ⟨hnext, hmove, hrest⟩ := hp s' hG hInv' e
    exact ⟨hnext, hmove, ih _ hrest hnext⟩

lemma Upholds.imp {Q' : A → S → Prop} (hp : Upholds handle L Q p s)
    (h : ∀ a s', L.Inv s' → Q a s' → Q' a s') : Upholds handle L Q' p s := by
  induction p generalizing s with
  | ret a => exact fun s' hG hInv => h a s' hInv (hp s' hG hInv)
  | call o k ih =>
    intro s' hG hInv e
    obtain ⟨hnext, hmove, hrest⟩ := hp s' hG hInv e
    exact ⟨hnext, hmove, ih _ hrest⟩

/-- A fact that disciplined moves keep holds at the end as well. -/
theorem Upholds.frame {F : S → Prop} (hF : ∀ s s', L.G s s' → F s → F s')
    (hp : Upholds handle L Q p s) (h : F s) : Upholds handle L (fun a s' => Q a s' ∧ F s') p s := by
  induction p generalizing s with
  | ret a => exact fun s' hG hInv => ⟨hp s' hG hInv, hF s s' hG h⟩
  | call o k ih =>
    intro s' hG hInv e
    obtain ⟨hnext, hmove, hrest⟩ := hp s' hG hInv e
    exact ⟨hnext, hmove, ih _ hrest (hF _ _ hmove (hF s s' hG h))⟩

/-- The discipline with one more invariant, which its moves keep. -/
def Discipline.and (L : Discipline S) (F : S → Prop) : Discipline S where
  Inv s := L.Inv s ∧ F s
  G := L.G
  refl := L.refl
  trans := L.trans

lemma Upholds.strengthen {F : S → Prop} (hF : ∀ s s', L.G s s' → F s → F s')
    (hp : Upholds handle L Q p s) : Upholds handle (L.and F) Q p s := by
  induction p generalizing s with
  | ret a => exact fun s' hG hInv => hp s' hG hInv.1
  | call o k ih =>
    intro s' hG hInv e
    obtain ⟨hnext, hmove, hrest⟩ := hp s' hG hInv.1 e
    exact ⟨⟨hnext, hF _ _ hmove hInv.2⟩, hmove, ih _ hrest⟩

lemma Upholds.returns {Q' : A → Prop} (hp : Upholds handle L Q p s) (h : p.Returns Q') :
    Upholds handle L (fun a s' => Q a s' ∧ Q' a) p s := by
  induction p generalizing s with
  | ret a => exact fun s' hG hInv => ⟨hp s' hG hInv, h⟩
  | call o k ih =>
    intro s' hG hInv e
    obtain ⟨hnext, hmove, hrest⟩ := hp s' hG hInv e
    exact ⟨hnext, hmove, ih _ hrest (h _)⟩

lemma Upholds.and {Q' : A → S → Prop} (hp : Upholds handle L Q p s)
    (hp' : Upholds handle L Q' p s) : Upholds handle L (fun a s' => Q a s' ∧ Q' a s') p s := by
  induction p generalizing s with
  | ret a => exact fun s' hG hInv => ⟨hp s' hG hInv, hp' s' hG hInv⟩
  | call o k ih =>
    intro s' hG hInv e
    obtain ⟨hnext, hmove, hrest⟩ := hp s' hG hInv e
    obtain ⟨_, _, hrest'⟩ := hp' s' hG hInv e
    exact ⟨hnext, hmove, ih _ hrest hrest'⟩

/-- A program all of whose calls are disciplined upholds the discipline. -/
theorem upholds_of_calls {P : O → Prop}
    (hP : ∀ o, P o → ∀ e s, L.Inv s → L.Inv (handle e o s).1 ∧ L.G s (handle e o s).1)
    (hp : p.Calls P) (s : S) : Upholds handle L (fun _ _ => True) p s := by
  induction p generalizing s with
  | ret a => exact fun _ _ _ => trivial
  | call o k ih =>
    intro s' _ hInv e
    obtain ⟨hnext, hmove⟩ := hP o hp.1 e s' hInv
    exact ⟨hnext, hmove, ih _ (hp.2 _) _⟩

/-- An outline over a view of the state, for a discipline that refines the one of
the view. -/
theorem Upholds.transfer {S' : Type} {handle' : E → (o : O) → S' → S' × R o} {L' : Discipline S'}
    {view : S' → S} {P : O → Prop}
    (hview : ∀ e o s, view (handle' e o s).1 = (handle e o (view s)).1 ∧
      (handle' e o s).2 = (handle e o (view s)).2) (hInv : ∀ s, L'.Inv s → L.Inv (view s))
    (hG : ∀ s s', L'.G s s' → L.G (view s) (view s'))
    (hP : ∀ o, P o → ∀ e s, L'.Inv s → L'.Inv (handle' e o s).1 ∧ L'.G s (handle' e o s).1) {s : S'}
    (hp : Upholds handle L Q p (view s)) (hcalls : p.Calls P) :
    Upholds handle' L' (fun a s' => Q a (view s')) p s := by
  induction p generalizing s with
  | ret a => exact fun s' hG' hInv' => hp (view s') (hG s s' hG') (hInv s' hInv')
  | call o k ih =>
    intro s' hG' hInv' e
    obtain ⟨hnext, hmove⟩ := hP o hcalls.1 e s' hInv'
    obtain ⟨_, _, hrest⟩ := hp (view s') (hG s s' hG') (hInv s' hInv') e
    obtain ⟨hstate, hreply⟩ := hview e o s'
    rw [← hstate, ← hreply] at hrest
    exact ⟨hnext, hmove, ih _ hrest (hcalls.2 _)⟩

/-- A program that runs alone, with moves of its own between the calls, makes
one disciplined move and has its postcondition. -/
theorem Upholds.runAlone {F : Type} (choose : F → E) {move : F → S → S}
    (hmove : ∀ f s, L.Inv s → L.Inv (move f s) ∧ L.G s (move f s)) (hp : Upholds handle L Q p s)
    (hInv : L.Inv s) (es : ℕ → F) :
    L.Inv (p.runAlone (fun f o s => handle (choose f) o (move f s)) es s).1 ∧
      L.G s (p.runAlone (fun f o s => handle (choose f) o (move f s)) es s).1 ∧
      Q (p.runAlone (fun f o s => handle (choose f) o (move f s)) es s).2
        (p.runAlone (fun f o s => handle (choose f) o (move f s)) es s).1 := by
  induction p generalizing es s with
  | ret a => exact ⟨hInv, L.refl s, hp.result hInv⟩
  | call o k ih =>
    obtain ⟨hInv₁, hG₁⟩ := hmove (es 0) s hInv
    obtain ⟨hInv₂, hG₂, hrest⟩ := hp _ hG₁ hInv₁ (choose (es 0))
    obtain ⟨hend, hG₃, hQ⟩ := ih _ hrest hInv₂ fun n => es (n + 1)
    exact ⟨hend, L.trans (L.trans hG₁ hG₂) hG₃, hQ⟩

/-- In a system whose surroundings are disciplined and whose programs are
outlined, every program is outlined from the present state on. -/
structure Outlined (L : Discipline S) (handle : E → (o : O) → S → S × R o) (Q : A → S → Prop)
    (c : Config S O R A) : Prop where
  inv : L.Inv c.shared
  threads : ∀ (i : ℕ) p, c.threads[i]? = some p → Upholds handle L Q p c.shared

/-- Every program is outlined towards a postcondition of its own. -/
structure Outlines (L : Discipline S) (handle : E → (o : O) → S → S × R o) (Q : ℕ → A → S → Prop)
    (c : Config S O R A) : Prop where
  inv : L.Inv c.shared
  threads : ∀ (i : ℕ) p, c.threads[i]? = some p → Upholds handle L (Q i) p c.shared

section Execution
variable {Y : System S O R A E U X} {Q : ℕ → A → S → Prop} {c : Config S O R A}

lemma outlines_start {x : X} (h : Outlines L Y.handle Q c)
    (hprogram : Upholds Y.handle L (Q c.threads.length) (Y.program x) c.shared) :
    Outlines L Y.handle Q (Y.step c (.start x)) := by
  refine ⟨h.inv, fun i p hp => ?_⟩
  change (c.threads ++ [Y.program x])[i]? = some p at hp
  rw [List.getElem?_append] at hp
  split_ifs at hp with hi
  · exact h.threads i p hp
  · rw [List.getElem?_singleton] at hp
    split_ifs at hp with hlast
    cases hp
    have hlen : i = c.threads.length := by omega
    rw [hlen]
    exact hprogram

lemma outlines_act {i : ℕ} {e : E} (h : Outlines L Y.handle Q c) :
    Outlines L Y.handle Q (Y.step c (.act i e)) ∧
      L.G c.shared (Y.step c (.act i e)).shared := by
  rcases Y.step_act (c := c) (i := i) (e := e) with ⟨o, k, hp, heq⟩ | heq
  · rw [heq]
    have hrun := h.threads i _ hp
    obtain ⟨hinv, hmove, hrest⟩ := hrun c.shared (L.refl _) h.inv e
    refine ⟨⟨hinv, fun j q hq => ?_⟩, hmove⟩
    rw [List.getElem?_set] at hq
    split_ifs at hq with hij hlt
    · cases hq
      exact hij ▸ hrest
    · exact (h.threads j q hq).stable hmove
  · rw [heq]
    exact ⟨h, L.refl _⟩

/-- The programs from number `n` on are outlined when they are let in; so is every program at
the end, and the whole execution is one disciplined move. -/
theorem outlines_execute (ok : Config S O R A → Move E U X → Prop) {n : ℕ}
    (hambient : ∀ c u, ok c (.ambient u) → L.Inv c.shared →
      L.Inv (Y.ambient u c.shared) ∧ L.G c.shared (Y.ambient u c.shared))
    (hprogram : ∀ c x, ok c (.start x) → L.Inv c.shared → n ≤ c.threads.length →
      Upholds Y.handle L (Q c.threads.length) (Y.program x) c.shared) (hc : Outlines L Y.handle Q c)
    (hn : n ≤ c.threads.length) {ms : List (Move E U X)} (hms : Y.Admitted ok c ms) :
    Outlines L Y.handle Q (Y.execute c ms) ∧ L.G c.shared (Y.execute c ms).shared := by
  induction ms generalizing c with
  | nil => exact ⟨hc, L.refl _⟩
  | cons m ms ih =>
    obtain ⟨hm, hms⟩ := hms
    have hstep : Outlines L Y.handle Q (Y.step c m) ∧ L.G c.shared (Y.step c m).shared := by
      cases m with
      | ambient u =>
        obtain ⟨hinv, hmove⟩ := hambient c u hm hc.inv
        exact ⟨⟨hinv, fun i p hp => (hc.threads i p hp).stable hmove⟩, hmove⟩
      | start x => exact ⟨outlines_start hc (hprogram c x hm hc.inv hn), L.refl _⟩
      | act i e => exact outlines_act hc
    obtain ⟨hend, hmove⟩ := ih hstep.1 (Nat.le_trans hn (Y.length_le_step c m)) hms
    exact ⟨hend, L.trans hstep.2 hmove⟩

end Execution

lemma outlined_execute {Y : System S O R A E U X} {okAmbient : U → Prop} {okProgram : X → Prop}
    (hambient : ∀ u s, okAmbient u → L.Inv s → L.Inv (Y.ambient u s) ∧ L.G s (Y.ambient u s))
    (hprogram : ∀ x s, okProgram x → L.Inv s → Upholds Y.handle L Q (Y.program x) s)
    {c : Config S O R A} (hc : Outlined L Y.handle Q c) {ms : List (Move E U X)}
    (hms : ∀ m ∈ ms, m.Ok okAmbient okProgram) :
    Outlined L Y.handle Q (Y.execute c ms) := by
  have hend := (outlines_execute (Y := Y) (Q := fun _ => Q) (n := 0)
    (fun _ m => m.Ok okAmbient okProgram) (fun c u => hambient u c.shared)
    (fun c x hx hInv _ => hprogram x c.shared hx hInv) ⟨hc.inv, hc.threads⟩ (Nat.zero_le _)
    (Y.admitted_of_forall hms c)).1
  exact ⟨hend.inv, hend.threads⟩

/-- What a finished program says holds of the state and of the notes at the end. -/
theorem outlined_outcome {N : Type} {Y : System S O R A E Empty X} (note : (o : O) → R o → N)
    {L : Discipline (S × List N)} {Q : A → S × List N → Prop}
    (hprogram : ∀ x s, L.Inv s → Upholds (Y.noted note).handle L Q (Y.program x) s) {s : S}
    (hs : L.Inv (s, [])) (ms : List (Move E Empty X)) {i : ℕ} {a : A}
    (h : System.outcome (Y.execute ⟨s, []⟩ ms) i = some a) :
    Q a ((Y.execute ⟨s, []⟩ ms).shared, Y.notes note ⟨s, []⟩ ms) := by
  have hmoves : ∀ m ∈ ms, m.Ok (fun _ => True) fun _ : X => True := by
    intro m _
    cases m <;> trivial
  have hend := outlined_execute (Y := Y.noted note) (c := ⟨(s, []), []⟩)
    (fun u _ _ _ => nomatch u) (fun x s _ => hprogram x s) ⟨hs, fun _ _ hp => by simp at hp⟩ hmoves
  obtain ⟨hshared, hthreads⟩ := Y.execute_noted note ⟨s, []⟩ [] ms
  rw [System.outcome_eq_some, ← hthreads] at h
  rw [← hshared]
  exact (hend.threads i _ h).result hend.inv

end Outlines

end OidcProvider.ResumptionPrograms
