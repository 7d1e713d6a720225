import OidcProvider.LockoutCounter

/-!
# Executions of the lockout counter

Every swap is computed from a record the row has had, under the version of that
record, and the version counts the transitions. So a swap commits only where no
transition has committed since its read, and the row is the replay of the
transitions that have committed.
-/
namespace OidcProvider.LockoutCounter
open FiniteMaps StoreRecords LockoutStore ResumptionPrograms

/-! ### The invariant -/

abbrev NotedLockouts := AuthnLockouts × List (Option Transition)

def noteHandle (e : Chance) (o : Call) (s : NotedLockouts) : NotedLockouts × o.Reply :=
  (((handle e o s.1).1, s.2 ++ [note o (handle e o s.1).2]), (handle e o s.1).2)

/-- The row is what the noted transitions leave, all of them made within the window. -/
structure Replayed (subject : String) (w : Window) (s : NotedLockouts) : Prop where
  row : s.1.m.lookup subject = replay subject s.2.reduceOption
  bounded : s.2.reduceOption.length ≤ maxVersion.toNat
  timely : ∀ now, Transition.failure now ∈ s.2.reduceOption → w.holds now

def discipline (subject : String) (w : Window) : Discipline NotedLockouts where
  Inv := Replayed subject w
  G s s' := ∃ notes, s'.2 = s.2 ++ notes
  refl s := ⟨[], (List.append_nil _).symm⟩
  trans := by
    rintro a b c ⟨l, hl⟩ ⟨l', hl'⟩
    exact ⟨l ++ l', by rw [hl', hl, List.append_assoc]⟩

variable {t : Transition} {now : Time}

section
variable {subject : String} {w : Window} {s : NotedLockouts} {b : AuthnLockoutRecord}
variable {r : Fallible AuthnLockoutRecord} {next : AuthnLockoutRecord}

lemma lookup_around (others s : AuthnLockouts) :
    (around subject others s).m.lookup subject = s.m.lookup subject := by
  unfold around
  rw [lookup_put, if_pos rfl]

lemma Replayed.unnoted {s' : NotedLockouts} (h : Replayed subject w s)
    (hrow : s'.1.m.lookup subject = s.1.m.lookup subject)
    (hnotes : s'.2.reduceOption = s.2.reduceOption) : Replayed subject w s' :=
  ⟨by rw [hrow, hnotes, h.row], by rw [hnotes]; exact h.bounded, by rw [hnotes]; exact h.timely⟩

lemma length_of_expects (h : Replayed subject w s) {v : UInt64}
    (hv : expects s.1 subject v = true) : v.toNat = s.2.reduceOption.length := by
  have hversion := (version_base h.bounded : (base subject s.2.reduceOption).version.toNat = _)
  unfold expects at hv
  rw [h.row] at hv
  cases hr : replay subject s.2.reduceOption with
  | none =>
    rw [hr] at hv
    have hv : v = 0 := of_decide_eq_true hv
    rw [replay_eq_none hr, hv]
    rfl
  | some rec =>
    rw [hr] at hv
    rw [base, hr] at hversion
    rw [← (of_decide_eq_true hv).2]
    exact hversion

/-- The version of an earlier state is expected only if nothing has committed since. -/
theorem Replayed.eq_nil_of_expects (h : Replayed subject w s) {ts later : List Transition}
    (hnotes : s.2.reduceOption = ts ++ later)
    (hv : expects s.1 subject (base subject ts).version = true) : later = [] := by
  have hlen := length_of_expects h hv
  have hbound := h.bounded
  rw [hnotes, List.length_append] at hlen hbound
  rw [version_base (Nat.le_of_add_right_le hbound)] at hlen
  exact List.eq_nil_of_length_eq_zero (by omega)

lemma notes_noteHandle (e : Chance) (o : Call) (s : NotedLockouts) :
    (noteHandle e o s).1.2.reduceOption =
      s.2.reduceOption ++ (note o (handle e o s.1).2).toList := by
  rw [noteHandle, List.reduceOption_append]
  cases note o (handle e o s.1).2 <;> rfl

/-- A swap that is refused is not noted. -/
lemma note_refused {v : UInt64} {swapped : Fallible Bool}
    (h : swapped ≠ .ok true) : note (.compareAndSwap t v next) swapped = none := by
  rcases swapped with _ | _ | _
  · rfl
  · rfl
  · exact absurd rfl h

/-- A swap computed from an earlier state of the row: it commits only if nothing
has committed since, and then it is the next transition. -/
theorem Replayed.swap (h : Replayed subject w s) {ts later : List Transition}
    (hnotes : s.2.reduceOption = ts ++ later) (hsubject : next.subject = subject)
    (hnext : { next with version := (base subject ts).version + 1 } =
      advance subject (replay subject ts) t) (htimely : ∀ now, t = .failure now → w.holds now)
    (e : Chance) :
    Replayed subject w
      (noteHandle e (.compareAndSwap t (base subject ts).version next) s).1 := by
  have hlog := notes_noteHandle e (.compareAndSwap t (base subject ts).version next) s
  rcases compareAndSwap_cases e.order e.now s.1 (base subject ts).version next with
    ⟨hok, _, hmax, hexpects, hafter⟩ | ⟨hno, _, hafter⟩
  · obtain rfl := h.eq_nil_of_expects hnotes (hsubject ▸ hexpects)
    rw [List.append_nil] at hnotes
    have hreply : (handle e (.compareAndSwap t (base subject ts).version next) s.1).2 = .ok true :=
      hok
    rw [hreply, hnotes] at hlog
    change _ = ts ++ [t] at hlog
    have hlt : ts.length < maxVersion.toNat := by
      have hb := h.bounded
      rw [hnotes] at hb
      refine lt_of_le_of_ne hb fun heq => hmax (UInt64.toNat.inj ?_)
      rw [version_base hb, heq]
    refine ⟨?_, ?_, ?_⟩
    · rw [hlog, replay_concat]
      change (LockoutStore.compareAndSwap e.order e.now s.1 _ (some next)).1.m.lookup subject = _
      have hkept := (lookup_maybeGC e.order e.now next.subject
        (replaced s.1 (base subject ts).version next) subject).resolve_right
          fun hr => hr.1 hsubject.symm
      rw [hafter, hkept, replaced]
      rw [lookup_insert_ite, if_pos hsubject.symm, hnext]
    · rw [hlog, List.length_append]
      exact hlt
    · rw [hlog]
      intro now hmem
      rcases List.mem_append.mp hmem with hmem | hmem
      · exact h.timely now (hnotes ▸ hmem)
      · exact htimely now (List.mem_singleton.mp hmem).symm
  · refine h.unnoted (congrArg (·.m.lookup subject) hafter) ?_
    rw [hlog]
    exact (congrArg (_ ++ ·.toList) (note_refused hno)).trans (List.append_nil _)

/-! ### The calls keep to it -/

/-- The record was the base at some point of the notes. -/
def Known (subject : String) (b : AuthnLockoutRecord) (s : NotedLockouts) : Prop :=
  ∃ ts later, s.2.reduceOption = ts ++ later ∧ b = base subject ts

lemma Known.later {s' : NotedLockouts} (hG : (discipline subject w).G s s')
    (h : Known subject b s) : Known subject b s' := by
  obtain ⟨ts, later, hnotes, hb⟩ := h
  obtain ⟨notes, hnotes'⟩ := hG
  refine ⟨ts, later ++ notes.reduceOption, ?_, hb⟩
  rw [hnotes', List.reduceOption_append, hnotes, List.append_assoc]

def Brings (subject : String) (r : Fallible AuthnLockoutRecord) (s : NotedLockouts) : Prop :=
  (r = .error .notFound ∧ Known subject (blank subject) s) ∨ ∃ b, r = .ok b ∧ Known subject b s

lemma brings_get (h : Replayed subject w s) :
    Brings subject (LockoutStore.get s.1 subject) s := by
  unfold LockoutStore.get
  rw [h.row]
  cases hr : replay subject s.2.reduceOption with
  | none =>
    refine .inl ⟨rfl, [], s.2.reduceOption, rfl, rfl⟩
  | some rec =>
    refine .inr ⟨rec, rfl, s.2.reduceOption, [], (List.append_nil _).symm, ?_⟩
    rw [base, hr]
    rfl

lemma upholds_get (s : NotedLockouts) :
    Upholds noteHandle (discipline subject w) (Brings subject) (ask (.get subject)) s := by
  intro s' _ hInv e
  have hkept : Replayed subject w (noteHandle e (.get subject) s').1 := by
    refine hInv.unnoted rfl ?_
    rw [notes_noteHandle]
    exact List.append_nil _
  have hmove : (discipline subject w).G s' (noteHandle e (.get subject) s').1 := ⟨[none], rfl⟩
  refine ⟨hkept, hmove, fun s'' hG' _ => ?_⟩
  have hG := (discipline subject w).trans hmove hG'
  rcases brings_get hInv with ⟨hr, hb⟩ | ⟨b, hr, hb⟩
  · exact .inl ⟨hr, hb.later hG⟩
  · exact .inr ⟨b, hr, hb.later hG⟩

/-- The program keeps to the discipline, whatever it returns. -/
abbrev Orderly (subject : String) (w : Window) {A : Type} (p : Program A) (s : NotedLockouts) :
    Prop :=
  Upholds noteHandle (discipline subject w) (fun _ _ => True) p s

lemma upholds_swap (hb : Known subject b s) (hsubject : next.subject = b.subject)
    (hnext : ∀ ts, b = base subject ts →
      { next with version := b.version + 1 } = advance subject (replay subject ts) t)
    (htimely : ∀ now, t = .failure now → w.holds now) :
    Orderly subject w (ask (.compareAndSwap t b.version next)) s := by
  intro s' hG hInv e
  obtain ⟨ts, later, hnotes, hbase⟩ := hb.later hG
  have hrow := hnext ts hbase
  subst hbase
  exact ⟨hInv.swap hnotes (hsubject.trans (subject_base ts)) hrow htimely e, ⟨[_], rfl⟩,
    fun _ _ _ => trivial⟩

lemma upholds_ret {A : Type} (a : A) (s : NotedLockouts) :
    Orderly subject w (pure a : Program A) s :=
  fun _ _ _ => trivial

lemma readAnswer_some {version : Bool} (h : readAnswer subject version r = .ok (some b)) :
    r = .ok b := by
  rcases r with err | rec
  · cases err <;> cases h
  · unfold readAnswer at h
    dsimp only at h
    cases hcheck : checkRecord rec subject version with
    | error err =>
      rw [hcheck] at h
      cases h
    | ok _ =>
      rw [hcheck] at h
      cases h
      rfl

lemma baseAnswer_ok (h : baseAnswer subject r = .ok b) :
    r = .error .notFound ∧ b = blank subject ∨ r = .ok b := by
  rcases r with err | rec
  · cases err <;> cases h
    exact .inl ⟨rfl, rfl⟩
  · unfold baseAnswer at h
    dsimp only at h
    cases hcheck : checkRecord rec subject true with
    | error err =>
      rw [hcheck] at h
      cases h
    | ok _ =>
      rw [hcheck] at h
      cases h
      exact .inr rfl

lemma upholds_read (version : Bool) (hs : Replayed subject w s) :
    Upholds noteHandle (discipline subject w)
      (fun r s' => ∀ b, r = .ok (some b) → Known subject b s') (read subject version) s := by
  unfold read
  split_ifs
  · exact fun _ _ _ b hb => nomatch hb
  · refine (upholds_get s).bind hs fun r s₁ _ hr s₂ hG _ b hb => ?_
    have hok := readAnswer_some hb
    rcases hr with ⟨hnone, _⟩ | ⟨b', hsome, hknown⟩
    · cases hnone.symm.trans hok
    · cases hsome.symm.trans hok
      exact hknown.later hG

lemma upholds_failureBase (hs : Replayed subject w s) :
    Upholds noteHandle (discipline subject w) (fun r s' => ∀ b, r = .ok b → Known subject b s')
      (failureBase subject) s := by
  refine (upholds_get s).bind hs fun r s₁ _ hr s₂ hG _ b hb => ?_
  rcases hr with ⟨hnone, hknown⟩ | ⟨b', hsome, hknown⟩
  · rcases baseAnswer_ok hb with ⟨_, hblank⟩ | hok
    · rw [hblank]
      exact hknown.later hG
    · cases hnone.symm.trans hok
  · rcases baseAnswer_ok hb with ⟨hnone, _⟩ | hok
    · cases hsome.symm.trans hnone
    · cases hsome.symm.trans hok
      exact hknown.later hG

lemma subject_applyFailure (rec : AuthnLockoutRecord) (now : Time) :
    (applyFailure rec now).1.subject = rec.subject :=
  (subject_countFailure rec now).1

lemma upholds_failureAttempts (hnow : w.holds now) (attempts : ℕ) (hs : Replayed subject w s) :
    Orderly subject w (failureAttempts subject now attempts) s := by
  induction attempts generalizing s with
  | zero => exact upholds_ret _ s
  | succ attempts ih =>
    refine (upholds_failureBase hs).bind hs fun r s₁ hs₁ hr => ?_
    cases r with
    | error err => exact upholds_ret _ s₁
    | ok b =>
      have hswap : Orderly subject w
          (ask (.compareAndSwap (.failure now) b.version (applyFailure b now).1)) s₁ := by
        refine upholds_swap (hr b rfl) (subject_applyFailure b now) ?_ ?_
        · rintro ts rfl
          rfl
        · intro now' heq
          cases heq
          exact hnow
      refine hswap.bind hs₁ fun swapped s₂ hs₂ _ => ?_
      cases swapped with
      | error err => exact upholds_ret _ s₂
      | ok committed =>
        cases committed with
        | true => exact upholds_ret _ s₂
        | false => exact ih hs₂

lemma upholds_recordFailure (hnow : w.holds now) (hs : Replayed subject w s) :
    Orderly subject w (recordFailure subject now) s := by
  unfold recordFailure
  split_ifs
  · exact upholds_ret _ s
  · exact upholds_failureAttempts hnow maxSwapAttempts hs

lemma upholds_clear {r : Except CounterError (Option AuthnLockoutRecord)}
    (hs : Replayed subject w s) (hr : ∀ b, r = .ok (some b) → Known subject b s) :
    Orderly subject w (clear r) s := by
  match r with
  | .error _ => exact upholds_ret _ s
  | .ok none => exact upholds_ret _ s
  | .ok (some b) =>
    unfold clear
    dsimp only
    split_ifs
    · exact upholds_ret _ s
    · have hswap : Orderly subject w (ask (.compareAndSwap .reset b.version (cleared b))) s := by
        refine upholds_swap (hr b rfl) rfl ?_ nofun
        rintro ts rfl
        rfl
      refine hswap.bind hs fun swapped s₁ _ _ => ?_
      cases swapped with
      | error err => exact upholds_ret _ s₁
      | ok _ => exact upholds_ret _ s₁

lemma upholds_status (now : Time) (hs : Replayed subject w s) :
    Orderly subject w (status subject now) s := by
  refine (upholds_read false hs).bind hs fun r s₁ _ _ => ?_
  match r with
  | .error _ => exact upholds_ret _ s₁
  | .ok none => exact upholds_ret _ s₁
  | .ok (some b) =>
    dsimp only
    split_ifs <;> exact upholds_ret _ s₁

def Party.within (w : Window) : Party → Prop
  | .failure now => w.holds now
  | .reset => True
  | .status now => w.holds now

lemma upholds_party {x : Party} (hx : x.within w) (hs : Replayed subject w s) :
    Orderly subject w (party subject x) s := by
  cases x with
  | failure now =>
    exact (upholds_recordFailure hx hs).bind hs fun r s₁ _ _ => upholds_ret _ s₁
  | reset =>
    have hreset : Orderly subject w (reset subject) s :=
      (upholds_read true hs).bind hs fun r s₁ hs₁ hr => upholds_clear hs₁ hr
    exact hreset.bind hs fun r s₁ _ _ => upholds_ret _ s₁
  | status now => exact (upholds_status now hs).bind hs fun r s₁ _ _ => upholds_ret _ s₁

end

/-! ### Executions -/

def Admitted (w : Window) (ms : Moves) : Prop :=
  ∀ m ∈ ms, m.Ok (fun _ => True) (Party.within w)

def lockoutsAfter (subject : String) (s : AuthnLockouts) (ms : Moves) : AuthnLockouts :=
  ((counting subject).execute ⟨s, []⟩ ms).shared

def stored (subject : String) (s : AuthnLockouts) : AuthnLockoutRecord :=
  (s.m.lookup subject).getD (blank subject)

section
variable {subject : String} {w : Window} {s : AuthnLockouts}
  {ms ms' : Moves}

section
variable (hnew : s.m.lookup subject = none)
include hnew

lemma replayed_execute (hms : Admitted w ms) :
    Replayed subject w (((counting subject).noted note).execute ⟨(s, []), []⟩ ms).shared := by
  have hstart : Outlined (discipline subject w) noteHandle (fun (_ : Report) _ => True)
      ⟨(s, []), []⟩ := by
    refine ⟨⟨hnew, Nat.zero_le _, nofun⟩, fun i p hp => ?_⟩
    cases hp
  have hambient : ∀ u s', True → Replayed subject w s' →
      Replayed subject w (around subject u s'.1, s'.2) ∧
        (discipline subject w).G s' (around subject u s'.1, s'.2) :=
    fun u s' _ hs' => ⟨hs'.unnoted (lookup_around u s'.1) rfl, ⟨[], (List.append_nil _).symm⟩⟩
  have hprogram : ∀ x s', x.within w → Replayed subject w s' →
      Orderly subject w (party subject x) s' :=
    fun x s' hx hs' => upholds_party hx hs'
  exact (outlined_execute (Y := (counting subject).noted note) hambient hprogram hstart hms).inv

lemma replayed_after (hms : Admitted w ms) : Replayed subject w
      (lockoutsAfter subject s ms, (counting subject).notes note ⟨s, []⟩ ms) := by
  have hrun := replayed_execute hnew hms
  have hshared := ((counting subject).execute_noted note ⟨s, []⟩ [] ms).1
  refine ⟨?_, hrun.bounded, hrun.timely⟩
  rw [lockoutsAfter, ← hshared]
  exact hrun.row

lemma stored_after (hms : Admitted w ms) :
    stored subject (lockoutsAfter subject s ms) = base subject (committed subject s ms) := by
  rw [stored, (replayed_after hnew hms).row]
  rfl

lemma timely_after (hms : Admitted w ms) (now : Time)
    (h : .failure now ∈ committed subject s ms) : w.holds now :=
  (replayed_after hnew hms).timely now h

end

variable {next : AuthnLockoutRecord}

lemma committed_append (ms ms' : Moves) :
    ∃ later, committed subject s (ms ++ ms') = committed subject s ms ++ later := by
  obtain ⟨l, hl⟩ := (counting subject).notes_append note ⟨s, []⟩ ms ms'
  refine ⟨l.reduceOption, ?_⟩
  rw [committed, hl, List.reduceOption_append]
  rfl

/-- After a commit the program answers at once. -/
def CommitsOnce {A : Type} : Program A → Prop
  | .ret _ => True
  | .call o k => ∀ r, CommitsOnce (k r) ∧ (note o r ≠ none → ∃ a, k r = .ret a)

lemma CommitsOnce.report {A B : Type} {p : Program A} (hp : CommitsOnce p) (f : A → B) :
    CommitsOnce (do return f (← p)) := by
  induction p with
  | ret a => trivial
  | call o k ih =>
    intro r
    refine ⟨ih r (hp r).1, fun hnote => ?_⟩
    obtain ⟨a, ha⟩ := (hp r).2 hnote
    exact ⟨f a, by change (k r >>= _) = _; rw [ha]; rfl⟩

lemma CommitsOnce.after {A B : Type} {p : Program A} {f : A → Program B}
    (hp : p.Calls fun o => ∃ subject, o = .get subject) (hf : ∀ a, CommitsOnce (f a)) :
    CommitsOnce (p >>= f) := by
  induction p with
  | ret a => exact hf a
  | call o k ih =>
    intro r
    refine ⟨ih r (hp.2 r), fun hnote => ?_⟩
    obtain ⟨_, rfl⟩ := hp.1
    exact absurd rfl hnote

lemma commitsOnce_swap {A : Type} {v : UInt64}
    {f : Fallible Bool → Program A} (hf : ∀ r, CommitsOnce (f r))
    (hcommitted : ∃ a, f (.ok true) = .ret a) :
    CommitsOnce (ask (.compareAndSwap t v next) >>= f) := by
  intro r
  refine ⟨hf r, fun hnote => ?_⟩
  cases r with
  | error err => exact absurd rfl hnote
  | ok committed =>
    cases committed with
    | false => exact absurd rfl hnote
    | true => exact hcommitted

lemma calls_get : (ask (.get subject)).Calls fun o => ∃ subject, o = .get subject :=
  ⟨⟨subject, rfl⟩, fun _ => trivial⟩

lemma calls_read (version : Bool) :
    (read subject version).Calls fun o => ∃ subject, o = .get subject := by
  unfold read
  split_ifs
  · trivial
  · exact calls_get.bind fun _ => trivial

lemma commitsOnce_failureAttempts (now : Time) (attempts : ℕ) :
    CommitsOnce (failureAttempts subject now attempts) := by
  induction attempts with
  | zero => trivial
  | succ attempts ih =>
    refine CommitsOnce.after (calls_get.bind fun _ => trivial) fun r => ?_
    cases r with
    | error err => trivial
    | ok b =>
      refine commitsOnce_swap (fun swapped => ?_) ⟨_, rfl⟩
      cases swapped with
      | error err => trivial
      | ok committed =>
        cases committed with
        | true => trivial
        | false => exact ih

lemma commitsOnce_clear (r : Except CounterError (Option AuthnLockoutRecord)) :
    CommitsOnce (clear r) := by
  match r with
  | .error _ => trivial
  | .ok none => trivial
  | .ok (some b) =>
    unfold clear
    dsimp only
    split_ifs
    · trivial
    · refine commitsOnce_swap (fun swapped => ?_) ⟨_, rfl⟩
      cases swapped <;> trivial

lemma commitsOnce_party (x : Party) : CommitsOnce (party subject x) := by
  cases x with
  | failure now =>
    refine CommitsOnce.report ?_ Report.failure
    unfold recordFailure
    split_ifs
    · trivial
    · exact commitsOnce_failureAttempts now maxSwapAttempts
  | reset => exact (CommitsOnce.after (calls_read true) commitsOnce_clear).report Report.reset
  | status now =>
    refine CommitsOnce.report (CommitsOnce.after (calls_read false) fun r => ?_) Report.status
    match r with
    | .error _ => trivial
    | .ok none => trivial
    | .ok (some b) =>
      dsimp only
      split_ifs <;> trivial

lemma escalation_after {pre : List Transition}
    (hnew : s.m.lookup subject = none) (hms : Admitted w ms)
    (hlast : committed subject s ms = pre ++ [.failure now]) {threshold : ℤ}
    (hthreshold : threshold ≤ maxInt) (hk : threshold ≤ failuresSince pre + 1) :
    threshold ≤ (base subject (pre ++ [.failure now])).failedCount := by
  have htimely := timely_after hnew hms
  rw [hlast] at htimely
  rw [(failedCount_base htimely).1, failuresSince_failure]
  exact le_min (by exact_mod_cast hk) hthreshold

/-! ### A reset that comes too late -/

lemma clear_cases (subject : String) (r : Fallible AuthnLockoutRecord) :
    (∃ a, (do return .reset (← clear (readAnswer subject true r)) : Program Report) = .ret a) ∨
      ∃ b k, r = .ok b ∧ (do return Report.reset (← clear (readAnswer subject true r))) =
        .call (.compareAndSwap .reset b.version (cleared b)) k := by
  match hread : readAnswer subject true r with
  | .error _ => exact .inl ⟨_, rfl⟩
  | .ok none => exact .inl ⟨_, rfl⟩
  | .ok (some b) =>
    unfold clear
    dsimp only
    split_ifs
    · exact .inl ⟨_, rfl⟩
    · exact .inr ⟨b, _, readAnswer_some hread, rfl⟩

lemma party_reset (hsubject : subject ≠ "") :
    party subject .reset = .call (.get subject) fun r => do
      return .reset (← clear (readAnswer subject true r)) := by
  unfold party reset read
  rw [if_neg hsubject]
  rfl

lemma stale_swap (hnew : s.m.lookup subject = none) (hms : Admitted w (ms ++ ms'))
    (hcommit : committed subject s (ms ++ ms') ≠ committed subject s ms)
    (hsubject : next.subject = subject) (e : Chance) :
    (handle e (.compareAndSwap t (base subject (committed subject s ms)).version next)
      (lockoutsAfter subject s (ms ++ ms'))).1 = lockoutsAfter subject s (ms ++ ms') := by
  have hafter := replayed_after hnew hms
  obtain ⟨later, hlater⟩ := committed_append (s := s) ms ms'
  rcases compareAndSwap_cases e.order e.now (lockoutsAfter subject s (ms ++ ms'))
      (base subject (committed subject s ms)).version next with
    ⟨_, _, _, hexpects, _⟩ | ⟨_, _, hsame⟩
  · have hnil : later = [] := hafter.eq_nil_of_expects hlater (hsubject ▸ hexpects)
    rw [hlater, hnil, List.append_nil] at hcommit
    exact absurd rfl hcommit
  · exact hsame

/-- A reset has read; a transition commits; the reset goes on and changes
nothing. -/
theorem late_reset (hnew : s.m.lookup subject = none) {i : ℕ} {e e' : Chance}
    (hms : Admitted w (ms ++ .act i e :: ms'))
    (hreset : ((counting subject).execute ⟨s, []⟩ ms).threads[i]? = some (party subject .reset))
    (hidle : ∀ e, .act i e ∉ ms')
    (hcommit : committed subject s (ms ++ .act i e :: ms') ≠ committed subject s ms) :
    lockoutsAfter subject s (ms ++ .act i e :: ms' ++ [.act i e']) =
      lockoutsAfter subject s (ms ++ .act i e :: ms') := by
  have hlast : lockoutsAfter subject s (ms ++ .act i e :: ms' ++ [.act i e']) =
      ((counting subject).step ((counting subject).execute ⟨s, []⟩ (ms ++ .act i e :: ms'))
        (.act i e')).shared := by
    rw [lockoutsAfter, System.execute_append]
    rfl
  have hrun : (counting subject).execute ⟨s, []⟩ (ms ++ .act i e :: ms') =
      (counting subject).execute ((counting subject).step
        ((counting subject).execute ⟨s, []⟩ ms) (.act i e)) ms' := by
    rw [System.execute_append]
    rfl
  have hi := (List.getElem?_eq_some_iff.mp hreset).choose
  rw [hlast]
  by_cases hsubject : subject = ""
  · -- the reset of no subject had nothing to do
    have hdone : party subject .reset = .ret (.reset (.ok ())) := by
      rw [hsubject]
      rfl
    rw [hdone] at hreset
    have hstay := (counting subject).execute_idle hreset hidle
    rw [hrun, System.step_ret _ hreset, System.step_ret _ hstay, lockoutsAfter, hrun,
      System.step_ret _ hreset]
  · rw [party_reset hsubject] at hreset
    have hthread : ((counting subject).step ((counting subject).execute ⟨s, []⟩ ms)
        (.act i e)).threads[i]? = some (do
          return .reset (← clear (readAnswer subject true
            (LockoutStore.get (lockoutsAfter subject s ms) subject)))) := by
      rw [System.step_call _ hreset]
      exact List.getElem?_set_self hi
    have hwaits := (counting subject).execute_idle hthread hidle
    rw [← hrun] at hwaits
    rcases clear_cases subject
        (LockoutStore.get (lockoutsAfter subject s ms) subject) with
      ⟨a, hdone⟩ | ⟨b, k, hb, hswap⟩
    · rw [hdone] at hwaits
      rw [System.step_ret _ hwaits]
      rfl
    · rw [hswap] at hwaits
      rw [System.step_call _ hwaits]
      have hbase : b = base subject (committed subject s ms) := by
        rw [← stored_after hnew fun m hm => hms m (List.mem_append_left _ hm), stored]
        unfold LockoutStore.get at hb
        cases hrow : (lockoutsAfter subject s ms).m.lookup subject with
        | none =>
          rw [hrow] at hb
          cases hb
        | some rec =>
          rw [hrow] at hb
          cases hb
          rfl
      rw [hbase]
      have hcleared : (cleared (base subject (committed subject s ms))).subject = subject :=
        subject_base _
      exact stale_swap hnew hms hcommit hcleared e'

end

variable {s : AuthnLockouts}

/-- Any number of failures, resets and status readings of one subject, call by
call, with the clock readings in one window. The stored count is the number of
failures committed since the last committed reset, up to the largest integer;
each call commits at most one swap. A failure that reaches a threshold leaves a
lock of the duration of that threshold, counted from its clock reading; a failure
that meets a running lock does not bring its end forward; and a reset after whose
read a transition has committed changes nothing. -/
theorem counter_loses_no_failure {subject : String} {w : Window}
    (hnew : s.m.lookup subject = none) {ms : Moves}
    (hms : Admitted w ms) :
    (stored subject (lockoutsAfter subject s ms)).failedCount =
        min (failuresSince (committed subject s ms) : ℤ) maxInt ∧
      (∀ x, CommitsOnce (party subject x)) ∧
      (∀ pre now, committed subject s ms = pre ++ [.failure now] →
        (thresholdShort ≤ failuresSince pre + 1 →
          now + durationShort ≤ (stored subject (lockoutsAfter subject s ms)).lockedUntil) ∧
        (thresholdLong ≤ failuresSince pre + 1 →
          now + durationLong ≤ (stored subject (lockoutsAfter subject s ms)).lockedUntil)) ∧
      (∀ ms₁ ms₂ now, ms = ms₁ ++ ms₂ →
        committed subject s ms = committed subject s ms₁ ++ [.failure now] →
        now < (stored subject (lockoutsAfter subject s ms₁)).lockedUntil →
        (stored subject (lockoutsAfter subject s ms₁)).lockedUntil ≤
          (stored subject (lockoutsAfter subject s ms)).lockedUntil) ∧
      (∀ ms₁ ms₂ i e e', ms = ms₁ ++ .act i e :: ms₂ ++ [.act i e'] →
        ((counting subject).execute ⟨s, []⟩ ms₁).threads[i]? = some (party subject .reset) →
        (∀ e, .act i e ∉ ms₂) →
        committed subject s (ms₁ ++ .act i e :: ms₂) ≠ committed subject s ms₁ →
        lockoutsAfter subject s ms = lockoutsAfter subject s (ms₁ ++ .act i e :: ms₂)) := by
  have hstored := stored_after hnew hms
  refine ⟨?_, commitsOnce_party, ?_, ?_, ?_⟩
  · rw [hstored]
    exact (failedCount_base (timely_after hnew hms)).1
  · intro pre now hlast
    rw [hstored, hlast]
    have hearned : _ ≤ (base subject (pre ++ [.failure now])).lockedUntil :=
      (lockedUntil_failure pre now).1
    constructor
    · intro hk
      have hcount := escalation_after hnew hms hlast (by decide) hk
      exact (escalate_short hcount now).trans hearned
    · intro hk
      have hcount := escalation_after hnew hms hlast (by decide) hk
      rw [escalate, if_pos hcount] at hearned
      exact hearned
  · rintro ms₁ ms₂ now rfl hlast hrunning
    rw [stored_after hnew fun m hm => hms m (List.mem_append_left _ hm)] at hrunning ⊢
    rw [hstored, hlast]
    exact (lockedUntil_failure _ now).2 hrunning
  · rintro ms₁ ms₂ i e e' rfl hreset hidle hcommit
    exact late_reset hnew (fun m hm => hms m (List.mem_append_left _ hm)) hreset hidle hcommit

def calm : Chance := ⟨0, ascending⟩

/-- Two failures read before either swaps; the later one swaps again. -/
def racingFailures : Moves :=
  [.start (.failure 5), .start (.failure 7), .act 0 calm, .act 1 calm, .act 0 calm, .act 1 calm,
    .act 1 calm, .act 1 calm]

def firstDay : Window := ⟨0, 24 * Time.hour, by decide⟩

theorem counter_loses_no_failure_racing :
    (newAuthnLockouts.m.lookup "alice" = none ∧ Admitted firstDay racingFailures ∧
      committed "alice" newAuthnLockouts racingFailures = [.failure 5, .failure 7]) ∧
    (stored "alice" (lockoutsAfter "alice" newAuthnLockouts racingFailures)).failedCount =
      min (failuresSince (committed "alice" newAuthnLockouts racingFailures) : ℤ) maxInt := by
  have hnew : newAuthnLockouts.m.lookup "alice" = none := rfl
  have hms : Admitted firstDay racingFailures := by
    simp only [Admitted, racingFailures, List.forall_mem_cons, Move.Ok, Party.within,
      Window.holds, firstDay, List.not_mem_nil, false_implies, implies_true, and_true]
    decide
  exact ⟨⟨hnew, hms, by decide +kernel⟩, (counter_loses_no_failure hnew hms).1⟩

/-! ### One failure after another -/

section
variable {subject : String} {w : Window}

def alone (now : Time) (i : ℕ) : Moves :=
  [.start (.failure now), .act i calm, .act i calm]

lemma baseAnswer_get {s : NotedLockouts} (h : Replayed subject w s) :
    baseAnswer subject (LockoutStore.get s.1 subject) = .ok (base subject s.2.reduceOption) ∧
      expects s.1 subject (base subject s.2.reduceOption).version = true := by
  have hsubject : (base subject s.2.reduceOption).subject = subject := subject_base _
  have hversion : (base subject s.2.reduceOption).version.toNat = _ := version_base h.bounded
  unfold base LockoutStore.get expects at *
  rw [h.row]
  cases hr : replay subject s.2.reduceOption with
  | none => exact ⟨rfl, rfl⟩
  | some rec =>
    rw [hr] at hsubject hversion
    change rec.subject = subject at hsubject
    change rec.version.toNat = _ at hversion
    have hzero : rec.version ≠ 0 := by
      intro hzero
      rw [hzero] at hversion
      rw [List.eq_nil_of_length_eq_zero hversion.symm] at hr
      cases hr
    refine ⟨?_, decide_eq_true ⟨hzero, rfl⟩⟩
    have hcheck : checkRecord rec subject true = .ok () := by
      unfold checkRecord
      rw [if_neg (not_not_intro hsubject), if_neg fun hv => hzero hv.2]
    unfold baseAnswer
    dsimp only
    rw [hcheck]
    rfl

lemma failure_swaps (hsubject : subject ≠ "") (now : Time)
    {r : Fallible AuthnLockoutRecord} {b : AuthnLockoutRecord}
    (hb : baseAnswer subject r = .ok b) :
    ∃ k, party subject (.failure now) = .call (.get subject) k ∧
      ∃ k', k r =
        .call (.compareAndSwap (.failure now) b.version (applyFailure b now).1) k' := by
  have hparty : party subject (.failure now) = do
      return .failure (← failureAttempts subject now (31 + 1)) := by
    have hfailure : recordFailure subject now = failureAttempts subject now (31 + 1) :=
      if_neg hsubject
    rw [← hfailure]
    rfl
  refine ⟨_, hparty, ?_⟩
  change ∃ k', Prog.bind (Prog.bind (.ret (baseAnswer subject r)) _) _ = _
  rw [hb]
  exact ⟨_, rfl⟩

lemma failure_alone (hsubject : subject ≠ "") (now : Time)
    {d : Config NotedLockouts Call Call.Reply Report} (h : Replayed subject w d.shared)
    (hroom : d.shared.2.reduceOption.length < maxVersion.toNat) :
    (((counting subject).noted note).execute d (alone now d.threads.length)).threads.length =
        d.threads.length + 1 ∧
      (((counting subject).noted note).execute d
        (alone now d.threads.length)).shared.2.reduceOption =
          d.shared.2.reduceOption ++ [.failure now] := by
  obtain ⟨hbase, hexpects⟩ := baseAnswer_get h
  have hrow : (base subject d.shared.2.reduceOption).subject = subject := subject_base _
  have hversion : (base subject d.shared.2.reduceOption).version.toNat = _ :=
    version_base h.bounded
  generalize base subject d.shared.2.reduceOption = b at hbase hexpects hrow hversion
  obtain ⟨k, hparty, k', hk⟩ := failure_swaps hsubject now hbase
  have hcommits : (handle calm (.compareAndSwap (.failure now) b.version (applyFailure b now).1)
      (noteHandle calm (.get subject) d.shared).1.1).2 = .ok true := by
    rcases compareAndSwap_cases calm.order calm.now d.shared.1 b.version (applyFailure b now).1 with
      ⟨hok, _⟩ | ⟨_, hwhy, _⟩
    · exact hok
    · rw [subject_applyFailure, hrow, hexpects] at hwhy
      rcases hwhy with hempty | hlast | hunexpected
      · exact absurd hempty hsubject
      · rw [hlast] at hversion
        exact absurd hversion.symm hroom.ne
      · cases hunexpected
  have hrun : ((counting subject).noted note).execute d (alone now d.threads.length) =
      ⟨(noteHandle calm (.compareAndSwap (.failure now) b.version (applyFailure b now).1)
        (noteHandle calm (.get subject) d.shared).1).1, d.threads ++ [k' (.ok true)]⟩ := by
    have hstart : ((counting subject).noted note).step d (.start (.failure now)) =
        ⟨d.shared, d.threads ++ [.call (.get subject) k]⟩ := by
      rw [← hparty]
      rfl
    have hread : k (((counting subject).noted note).handle calm (.get subject) d.shared).2 =
        .call _ k' := hk
    rw [System.execute, alone, List.foldl_cons, List.foldl_cons, List.foldl_cons, hstart,
      System.step_last, hread, System.step_last, ← hcommits]
    rfl
  rw [hrun]
  refine ⟨List.length_append, ?_⟩
  have hlog : (noteHandle calm (.get subject) d.shared).1.2.reduceOption =
      d.shared.2.reduceOption :=
    (notes_noteHandle _ _ _).trans (List.append_nil _)
  rw [notes_noteHandle, hlog, hcommits]
  rfl

/-- So many failures, one after another, at one clock reading. -/
def inTurn (now : Time) : ℕ → Moves
  | 0 => []
  | n + 1 => inTurn now n ++ alone now n

lemma admitted_inTurn (hnow : w.holds now) (n : ℕ) : Admitted w (inTurn now n) := by
  induction n with
  | zero => exact fun m hm => nomatch hm
  | succ n ih =>
    refine List.forall_mem_append.mpr ⟨ih, ?_⟩
    simp only [alone, List.forall_mem_cons, Move.Ok, Party.within, List.not_mem_nil,
      false_implies, implies_true, and_true]
    exact hnow

lemma committed_inTurn (hsubject : subject ≠ "") (hnow : w.holds now)
    (hnew : s.m.lookup subject = none) {n : ℕ} (hn : n ≤ maxVersion.toNat) :
    (((counting subject).noted note).execute ⟨(s, []), []⟩ (inTurn now n)).threads.length = n ∧
      committed subject s (inTurn now n) = List.replicate n (.failure now) := by
  induction n with
  | zero => exact ⟨rfl, rfl⟩
  | succ n ih =>
    obtain ⟨hthreads, hcommitted⟩ := ih (Nat.le_of_succ_le hn)
    have hinv := replayed_execute hnew (admitted_inTurn hnow n)
    unfold committed System.notes at *
    rw [inTurn, System.execute_append]
    generalize ((counting subject).noted note).execute ⟨(s, []), []⟩ (inTurn now n) = d at *
    have hroom : d.shared.2.reduceOption.length < maxVersion.toNat := by
      rw [hcommitted, List.length_replicate]
      exact hn
    obtain ⟨hlength, hlog⟩ := failure_alone hsubject now hinv hroom
    rw [hthreads] at hlength hlog
    exact ⟨hlength, by rw [hlog, hcommitted, List.replicate_succ']⟩

lemma failuresSince_replicate (now : Time) (n : ℕ) :
    failuresSince (List.replicate n (.failure now)) = n := by
  induction n with
  | zero => rfl
  | succ n ih => rw [List.replicate_succ', failuresSince_failure, ih]

end

/-- After `2 ^ 63` failures in turn the count is one behind: it stops at the
largest integer. -/
theorem saturated_counter :
    Admitted firstDay (inTurn 5 (2 ^ 63)) ∧
      failuresSince (committed "alice" newAuthnLockouts (inTurn 5 (2 ^ 63))) = 2 ^ 63 ∧
      (stored "alice" (lockoutsAfter "alice" newAuthnLockouts (inTurn 5 (2 ^ 63)))).failedCount =
        2 ^ 63 - 1 := by
  have hnow : firstDay.holds 5 := by
    unfold Window.holds firstDay
    decide
  have hnew : newAuthnLockouts.m.lookup "alice" = none := rfl
  have hms := admitted_inTurn hnow (2 ^ 63)
  have hcommitted := (committed_inTurn (by decide) hnow hnew
    (by decide : 2 ^ 63 ≤ maxVersion.toNat)).2
  have hcount : failuresSince (committed "alice" newAuthnLockouts (inTurn 5 (2 ^ 63))) =
      2 ^ 63 := by
    rw [hcommitted, failuresSince_replicate]
  refine ⟨hms, hcount, ?_⟩
  rw [stored_after hnew hms, (failedCount_base (timely_after hnew hms)).1, hcount]
  rfl

/-- Any interleaving of failures, resets and status readings leaves the record that the
transitions which committed leave one after another, and its version is their number. -/
theorem record_replays_commits {subject : String} {w : Window}
    (hnew : s.m.lookup subject = none) {ms : Moves}
    (hms : Admitted w ms) :
    (lockoutsAfter subject s ms).m.lookup subject = replay subject (committed subject s ms) ∧
      (stored subject (lockoutsAfter subject s ms)).version.toNat =
        (committed subject s ms).length := by
  have hafter := replayed_after hnew hms
  rw [stored_after hnew hms]
  exact ⟨hafter.row, version_base hafter.bounded⟩

theorem record_replays_commits_inTurn :
    (lockoutsAfter "alice" newAuthnLockouts (inTurn 5 3)).m.lookup "alice" =
      replay "alice" (committed "alice" newAuthnLockouts (inTurn 5 3)) :=
  (record_replays_commits (w := firstDay) rfl
    (admitted_inTurn (by unfold Window.holds firstDay; decide) 3)).1

end OidcProvider.LockoutCounter
