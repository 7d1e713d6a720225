import OidcProvider.DynamoRefreshTokens

/-!
# The walk of a revocation, under any discipline

The walk visits a key, enqueues what the visit and the index come up with, and goes on until its
queue is empty. What a visit establishes is kept by the moves of the others. So, whatever these
do in between, a finished walk leaves a set of keys that have all been visited and that contains
the successors each visit has found.
-/
namespace OidcProvider.DynamoWalks
open StoreRecords ResumptionPrograms DynamoTables DynamoRefreshTokens Prog

/-- What one visit takes for granted and what it establishes. `Known s k` lets `k` be visited;
`Done s cs k` says that `k` has been visited and that its successors are among `cs`. -/
structure Visiting (L : Discipline Database) (grantID : String) (withParentIndex : Bool)
    (instant : Time) where
  Known : Database → String → Prop
  Done : Database → List String → String → Prop
  known_stable : ∀ {s s' k}, L.G s s' → Known s k → Known s' k
  done_stable : ∀ {s s' cs k}, L.G s s' → Done s cs k → Done s' cs k
  done_mono : ∀ {s cs cs' k}, (∀ c ∈ cs, c ≠ "" → c ∈ cs') → Done s cs k → Done s cs' k
  done_known : ∀ {s cs k}, Done s cs k → Known s k
  visit : ∀ {s k}, Known s k → Upholds handle L
    (fun children s' => Done s' children k ∧ ∀ c ∈ children, Known s' c)
    (revokeOne k grantID instant) s
  index : ∀ s k, Upholds handle L (fun indexed s' => ∀ c ∈ indexed, Known s' c)
    (indexedChildren withParentIndex k) s

namespace Visiting
variable {L : Discipline Database} {grantID : String} {withParentIndex : Bool} {instant : Time}
  (V : Visiting L grantID withParentIndex instant)

/-- What was seen has been visited, or is still in the queue. The keys of `due` have yet to be
enqueued. -/
structure Progress (s : Database) (w : Walk) (due : List String) : Prop where
  queued : w.queue ⊆ w.visited
  visited : ∀ k ∈ w.visited, k ∈ w.queue ∧ V.Known s k ∨ V.Done s (w.visited ++ due) k

variable {V} {s : Database} {w : Walk}

lemma Progress.enqueue {due : List String} (h : V.Progress s w due)
    (hdue : ∀ c ∈ due, V.Known s c) : V.Progress s (w.enqueue due) [] := by
  refine ⟨fun k hk => ?_, fun k hk => ?_⟩
  · rcases Walk.mem_queue_enqueue.mp hk with hk | ⟨hk, hne, _⟩
    · exact Walk.mem_visited_enqueue.mpr (.inl (h.queued hk))
    · exact Walk.mem_visited_enqueue.mpr (.inr ⟨hk, hne⟩)
  · rw [List.append_nil]
    by_cases hold : k ∈ w.visited
    · rcases h.visited k hold with ⟨hqueue, hknown⟩ | hdone
      · exact .inl ⟨Walk.mem_queue_enqueue.mpr (.inl hqueue), hknown⟩
      · refine .inr (V.done_mono (fun c hc hne => Walk.mem_visited_enqueue.mpr ?_) hdone)
        exact (List.mem_append.mp hc).imp_right fun hc => ⟨hc, hne⟩
    · rcases Walk.mem_visited_enqueue.mp hk with hk | ⟨hk, hne⟩
      · exact absurd hk hold
      · exact .inl ⟨Walk.mem_queue_enqueue.mpr (.inr ⟨hk, hne, hold⟩), hdue k hk⟩

lemma Progress.stable {s s' : Database} {due : List String} (hG : L.G s s')
    (h : V.Progress s w due) : V.Progress s' w due :=
  ⟨h.queued, fun k hk => (h.visited k hk).imp (fun hq => ⟨hq.1, V.known_stable hG hq.2⟩)
    (V.done_stable hG)⟩

lemma Progress.mono (h : V.Progress s w []) (due : List String) : V.Progress s w due := by
  refine ⟨h.queued, fun k hk => (h.visited k hk).imp_right fun hdone => ?_⟩
  rw [List.append_nil] at hdone
  exact V.done_mono (fun c hc _ => List.mem_append_left _ hc) hdone

lemma Progress.pop {current : String} {visited queue children : List String}
    (hqueue : queue ⊆ visited)
    (hrest : ∀ k ∈ visited, k ≠ current → k ∈ queue ∧ V.Known s k ∨ V.Done s visited k)
    (hcurrent : V.Done s children current) : V.Progress s ⟨visited, queue⟩ children := by
  refine ⟨hqueue, fun k hk => ?_⟩
  by_cases hne : k = current
  · subst hne
    exact .inr (V.done_mono (fun c hc _ => List.mem_append_right _ hc) hcurrent)
  · exact (hrest k hk hne).imp_right
      (V.done_mono fun c hc _ => List.mem_append_left _ hc)

lemma progress_start {starts : List String} (h : ∀ k ∈ starts, V.Known s k) :
    V.Progress s (Walk.enqueue ⟨[], []⟩ starts) [] :=
  have hempty : V.Progress s ⟨[], []⟩ starts := ⟨List.Subset.refl _, nofun⟩
  hempty.enqueue h

lemma finished_upholds {visited : List String} (h : V.Progress s ⟨visited, []⟩ []) :
    Upholds handle L
      (fun finished s' => finished = true → ∃ ks, visited ⊆ ks ∧ ∀ k ∈ ks, V.Done s' ks k)
      (.ret true : Program Bool) s := by
  intro s' hG _ _
  refine ⟨visited, List.Subset.refl _, fun k hk => ?_⟩
  rcases h.visited k hk with ⟨hq, _⟩ | hdone
  · cases hq
  · rw [List.append_nil] at hdone
    exact V.done_stable hG hdone

lemma walk_upholds (fuel : ℕ) (hs : L.Inv s) (h : V.Progress s w []) :
    Upholds handle L
      (fun finished s' => finished = true → ∃ ks, w.visited ⊆ ks ∧ ∀ k ∈ ks, V.Done s' ks k)
      (walk grantID withParentIndex instant fuel w) s := by
  induction fuel generalizing w s with
  | zero =>
    obtain ⟨visited, queue⟩ := w
    cases queue with
    | nil => exact finished_upholds h
    | cons current queue => exact fun _ _ _ hfalse => by cases hfalse
  | succ fuel ih =>
    obtain ⟨visited, queue⟩ := w
    cases queue with
    | nil => exact finished_upholds h
    | cons current queue =>
      have hcurrent : V.Known s current := by
        rcases h.visited current (h.queued List.mem_cons_self) with hq | hdone
        · exact hq.2
        · exact V.done_known hdone
      have hrest : ∀ k ∈ visited, k ≠ current →
          k ∈ queue ∧ V.Known s k ∨ V.Done s visited k := by
        intro k hk hne
        rcases h.visited k hk with ⟨hq, hknown⟩ | hdone
        · exact .inl ⟨(List.mem_cons.mp hq).resolve_left hne, hknown⟩
        · rw [List.append_nil] at hdone
          exact .inr hdone
      have hqueue : queue ⊆ visited := fun k hk => h.queued (List.mem_cons_of_mem _ hk)
      refine ((V.visit hcurrent).frame (F := fun s => ∀ k ∈ visited,
        k ≠ current → k ∈ queue ∧ V.Known s k ∨ V.Done s visited k)
        (fun s s' hG hF k hk hne => (hF k hk hne).imp
          (fun hq => ⟨hq.1, V.known_stable hG hq.2⟩) (V.done_stable hG))
        hrest).bind hs fun children s₁ hs₁ hpost => ?_
      obtain ⟨⟨hdone, hchildren⟩, hrest₁⟩ := hpost
      have hprogress := (Progress.pop hqueue hrest₁ hdone).enqueue hchildren
      refine ((V.index s₁ current).frame
        (F := fun s => V.Progress s (Walk.enqueue ⟨visited, queue⟩ children) [])
        (fun _ _ hG hF => hF.stable hG) hprogress).bind hs₁ fun indexed s₂ hs₂ hpost => ?_
      refine (ih hs₂ ((hpost.2.mono indexed).enqueue hpost.1)).imp ?_
      intro finished s' _ hQ hfinished
      obtain ⟨ks, hsub, hdone⟩ := hQ hfinished
      refine ⟨ks, fun k hk => hsub ?_, hdone⟩
      exact Walk.mem_visited_enqueue.mpr (.inl (Walk.mem_visited_enqueue.mpr (.inl hk)))

end Visiting

end OidcProvider.DynamoWalks
