import OidcProvider.ResumptionPrograms

/-!
# A program among others

What one program sees of an interleaving: before each of its calls the others make some
calls of theirs. The trace lists all calls with the states they were made in.
-/
namespace OidcProvider.Interference
open ResumptionPrograms

variable {S O E A B : Type} {R : O → Type}

/-! ### Programs over more calls -/

section Embedding
variable {O' : Type} {R' : O' → Type}

/-- The program, over a set of calls that contains its own. -/
def embed (ι : O → O') (reply : ∀ o, R' (ι o) → R o) : Prog O R A → Prog O' R' A
  | .ret a => .ret a
  | .call o k => .call (ι o) fun r => embed ι reply (k (reply o r))

lemma embed_bind (ι : O → O') (reply : ∀ o, R' (ι o) → R o) (p : Prog O R A) (f : A → Prog O R B) :
    embed ι reply (p >>= f) = embed ι reply p >>= fun a => embed ι reply (f a) := by
  induction p with
  | ret a => rfl
  | call o k ih => exact congrArg (Prog.call (ι o)) (funext fun r => ih (reply o r))

end Embedding

/-! ### Interleavings -/

/-- The calls of the others, and then the choice for the call of the program itself. -/
structure Slot (E O : Type) where
  others : List (E × O)
  chance : E

/-- A call and the state it met; `own` if the program made it. -/
structure Event (E S O : Type) where
  before : S
  chance : E
  call : O
  own : Bool

structure Run (E S O A : Type) where
  trace : List (Event E S O)
  final : S
  result : A

variable (handle : E → (o : O) → S → S × R o)

def Event.after (ev : Event E S O) : S := (handle ev.chance ev.call ev.before).1

def meanwhile (others : List (E × O)) (s : S) : S :=
  others.foldl (fun s c => (handle c.1 c.2 s).1) s

def events : List (E × O) → S → List (Event E S O)
  | [], _ => []
  | c :: others, s => ⟨s, c.1, c.2, false⟩ :: events others (handle c.1 c.2 s).1

/-- The program's run, with the others' calls of a slot before each of its own. -/
def among : Prog O R A → (ℕ → Slot E O) → S → Run E S O A
  | .ret a, _, s => ⟨[], s, a⟩
  | .call o k, slots, s =>
    let s' := meanwhile handle (slots 0).others s
    let answered := handle (slots 0).chance o s'
    let rest := among (k answered.2) (fun n => slots (n + 1)) answered.1
    ⟨events handle (slots 0).others s ++ ⟨s', (slots 0).chance, o, true⟩ :: rest.trace,
      rest.final, rest.result⟩

/-! ### Invariants -/

/-- While everybody keeps to `Inv`, the program makes only calls that are `ok` where it
makes them, and its result is in `Q`. -/
def Observes (Inv : S → Prop) (ok : S → O → Prop) (Q : A → Prop) : Prog O R A → Prop
  | .ret a => Q a
  | .call o k => ∀ s, Inv s → ok s o ∧ ∀ e,
      Inv (handle e o s).1 ∧ Observes Inv ok Q (k (handle e o s).2)

def OwnCalls (ok : S → O → Prop) (trace : List (Event E S O)) : Prop :=
  ∀ ev ∈ trace, ev.own = true → ok ev.before ev.call

section
variable {handle} {Inv : S → Prop} {ok : S → O → Prop} {Q : A → Prop}
variable {slots : ℕ → Slot E O} {others : List (E × O)} {s : S}

lemma OwnCalls.append {l l' : List (Event E S O)} (h : OwnCalls ok l) (h' : OwnCalls ok l') :
    OwnCalls ok (l ++ l') :=
  fun ev hev hown => (List.mem_append.mp hev).elim (h ev · hown) (h' ev · hown)

lemma Observes.bind {Q' : B → Prop} {p : Prog O R A} {f : A → Prog O R B}
    (hp : Observes handle Inv ok Q p) (hf : ∀ a, Q a → Observes handle Inv ok Q' (f a)) :
    Observes handle Inv ok Q' (p >>= f) := by
  induction p with
  | ret a => exact hf a hp
  | call o k ih =>
    intro s hs
    obtain ⟨hok, hnext⟩ := hp s hs
    exact ⟨hok, fun e => ⟨(hnext e).1, ih _ (hnext e).2⟩⟩

lemma meanwhile_keeps {P : S → Prop} (h : ∀ c ∈ others, ∀ s, P s → P (handle c.1 c.2 s).1)
    (hs : P s) : P (meanwhile handle others s) := by
  induction others generalizing s with
  | nil => exact hs
  | cons c others ih =>
    exact ih (fun c' hc' => h c' (List.mem_cons_of_mem c hc')) (h c List.mem_cons_self s hs)

lemma not_own_of_mem_events {ev : Event E S O} (h : ev ∈ events handle others s) :
    ev.own = false := by
  induction others generalizing s with
  | nil => cases h
  | cons c others ih =>
    rcases List.mem_cons.mp h with rfl | h
    · rfl
    · exact ih h

lemma ownCalls_call {o : O} {k : R o → Prog O R A}
    (hok : ok (meanwhile handle (slots 0).others s) o)
    (hrest : OwnCalls ok (among handle
      (k (handle (slots 0).chance o (meanwhile handle (slots 0).others s)).2)
      (fun n => slots (n + 1))
      (handle (slots 0).chance o (meanwhile handle (slots 0).others s)).1).trace) :
    OwnCalls ok (among handle (.call o k) slots s).trace := by
  intro ev hev hown
  rcases List.mem_append.mp hev with hev | hev
  · exact absurd hown (by rw [not_own_of_mem_events hev]; decide)
  rcases List.mem_cons.mp hev with rfl | hev
  · exact hok
  · exact hrest ev hev hown

/-- The rule of the invariant: if the others keep to it as well, every call of the
program is `ok`. -/
theorem Observes.among {p : Prog O R A} (hp : Observes handle Inv ok Q p)
    (hothers : ∀ n, ∀ c ∈ (slots n).others, ∀ s, Inv s → Inv (handle c.1 c.2 s).1) (hs : Inv s) :
    OwnCalls ok (among handle p slots s).trace ∧
      Inv (among handle p slots s).final ∧ Q (among handle p slots s).result := by
  induction p generalizing slots s with
  | ret a => exact ⟨fun _ => nofun, hs, hp⟩
  | call o k ih =>
    obtain ⟨hok, hnext⟩ := hp _ (meanwhile_keeps (hothers 0) hs)
    obtain ⟨hcalls, hend⟩ :=
      ih _ (hnext (slots 0).chance).2 (fun n => hothers (n + 1)) (hnext _).1
    exact ⟨ownCalls_call hok hcalls, hend⟩

end

/-! ### Sequential composition -/

lemma returns_among {Q : A → Prop} {p : Prog O R A} (hp : p.Returns Q) (slots : ℕ → Slot E O)
    (s : S) : Q (among handle p slots s).result := by
  induction p generalizing slots s with
  | ret a => exact hp
  | call o k ih => exact ih _ (hp _) _ _

def Run.calls (r : Run E S O A) : ℕ := r.trace.countP (·.own)

lemma countP_own_events (others : List (E × O)) (s : S) :
    (events handle others s).countP (·.own) = 0 :=
  List.countP_eq_zero.mpr fun _ hev => by rw [not_own_of_mem_events hev]; decide

lemma calls_call (o : O) (k : R o → Prog O R A) (slots : ℕ → Slot E O) (s : S) :
    (among handle (.call o k) slots s).calls =
      (among handle (k (handle (slots 0).chance o (meanwhile handle (slots 0).others s)).2)
        (fun n => slots (n + 1))
        (handle (slots 0).chance o (meanwhile handle (slots 0).others s)).1).calls + 1 := by
  simp only [among, Run.calls, List.countP_append, countP_own_events, List.countP_cons_of_pos,
    Nat.zero_add]

lemma among_bind (p : Prog O R A) (f : A → Prog O R B) (slots : ℕ → Slot E O) (s : S) :
    among handle (p >>= f) slots s =
      let first := among handle p slots s
      let rest := among handle (f first.result) (fun n => slots (n + first.calls)) first.final
      ⟨first.trace ++ rest.trace, rest.final, rest.result⟩ := by
  induction p generalizing slots s with
  | ret a => rfl
  | call o k ih =>
    rw [Prog.call_bind]
    simp only [among, ih, Run.calls, List.countP_append, countP_own_events,
      List.countP_cons_of_pos, Nat.zero_add, List.append_assoc, List.cons_append, Nat.add_assoc]

/-! ### Traces -/

/-- Every call is made in the state the one before it has left. -/
def Chained : S → List (Event E S O) → S → Prop
  | s, [], s' => s = s'
  | s, ev :: trace, s' => ev.before = s ∧ Chained (ev.after handle) trace s'

section
variable {handle} {l l' : List (Event E S O)}

lemma Chained.append {s s' s'' : S} (h : Chained handle s l s') (h' : Chained handle s' l' s'') :
    Chained handle s (l ++ l') s'' := by
  induction l generalizing s with
  | nil =>
    cases h
    exact h'
  | cons ev l ih => exact ⟨h.1, ih h.2⟩

lemma Chained.split {s s'' : S} {ev : Event E S O} (h : Chained handle s (l ++ ev :: l') s'') :
    Chained handle s l ev.before ∧ Chained handle (ev.after handle) l' s'' := by
  induction l generalizing s with
  | nil => exact ⟨h.1.symm, h.2⟩
  | cons ev' l ih => exact ⟨⟨h.1, (ih h.2).1⟩, (ih h.2).2⟩

lemma Chained.keeps {P : S → Prop} {s s' : S} (h : Chained handle s l s')
    (hstep : ∀ ev ∈ l, P ev.before → P (ev.after handle)) (hs : P s) : P s' := by
  induction l generalizing s with
  | nil => exact h ▸ hs
  | cons ev l ih =>
    refine ih h.2 (fun ev' hev' => hstep ev' (List.mem_cons_of_mem ev hev')) ?_
    exact hstep ev List.mem_cons_self (h.1 ▸ hs)

lemma length_events (others : List (E × O)) (s : S) :
    (events handle others s).length = others.length := by
  induction others generalizing s with
  | nil => rfl
  | cons c others ih => exact congrArg (· + 1) (ih _)

lemma chained_events (others : List (E × O)) (s : S) :
    Chained handle s (events handle others s) (meanwhile handle others s) := by
  induction others generalizing s with
  | nil => rfl
  | cons c others ih => exact ⟨rfl, ih _⟩

lemma chained_among (p : Prog O R A) (slots : ℕ → Slot E O) (s : S) :
    Chained handle s (among handle p slots s).trace (among handle p slots s).final := by
  induction p generalizing slots s with
  | ret a => rfl
  | call o k ih => exact (chained_events _ s).append ⟨rfl, ih _ _ _⟩

end

end OidcProvider.Interference
