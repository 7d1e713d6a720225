import Mathlib.Data.Finset.Card
import Mathlib.Logic.Relation

/-!
# Breadth-first traversal with a queue and a set of seen nodes

The traversal pops a node, visits the children it has not seen, marks them seen
and appends them to the queue. Visiting acts on a state that the traversal does
not read. Over a finite set of nodes that no child leaves, it visits every node
reachable from the root, other than the root, exactly once, so the state it
returns is that of a fold over a list of these nodes without repetitions.
-/
namespace OidcProvider.QueueTraversal

section
variable {K S : Type} [DecidableEq K] (children : K → List K) (visit : S → K → S)

/-- The state, the nodes seen so far and the queue. -/
structure Frontier (K S : Type) [DecidableEq K] where
  state : S
  seen : Finset K
  queue : List K

/-- The inner loop over the children of one popped node. -/
def expand : List K → Frontier K S → Frontier K S
  | [], f => f
  | c :: cs, f =>
    if c ∈ f.seen then expand cs f
    else expand cs ⟨visit f.state c, insert c f.seen, f.queue ++ [c]⟩

/-- The outer loop, for at most the given number of pops. -/
def drain : ℕ → Frontier K S → Frontier K S
  | 0, f => f
  | fuel + 1, f =>
    match f.queue with
    | [] => f
    | p :: rest => drain fuel (expand visit (children p) { f with queue := rest })

/-- The traversal from a root that counts as seen. -/
def traverse (fuel : ℕ) (root : K) (s : S) : S :=
  (drain children visit fuel ⟨s, {root}, [root]⟩).state

def Reaches (a b : K) : Prop := Relation.ReflTransGen (fun x y => y ∈ children x) a b

/-- The order of visits so far explains the frontier: no node was visited
twice, what was seen is reachable, and the children of seen nodes are seen
unless the node still waits in the queue. -/
structure Explains (s : S) (root : K) (order : List K) (f : Frontier K S) : Prop where
  state : f.state = order.foldl visit s
  nodup : order.Nodup
  seen : ∀ k, k ∈ f.seen ↔ k = root ∨ k ∈ order
  fresh : root ∉ order
  reached : ∀ k ∈ f.seen, Reaches children root k
  queued : ∀ k ∈ f.queue, k ∈ f.seen
  closed : ∀ k ∈ f.seen, k ∉ f.queue → ∀ c ∈ children k, c ∈ f.seen

variable {children visit}

lemma expand_discovers (cs : List K) (f : Frontier K S) :
    ∃ new : List K, new.Nodup ∧ (∀ k ∈ new, k ∈ cs ∧ k ∉ f.seen) ∧
      (∀ c ∈ cs, c ∈ f.seen ∨ c ∈ new) ∧
      expand visit cs f =
        ⟨new.foldl visit f.state, f.seen ∪ new.toFinset, f.queue ++ new⟩ := by
  induction cs generalizing f with
  | nil => exact ⟨[], List.nodup_nil, by simp, by simp, by simp [expand]⟩
  | cons c cs ih =>
    by_cases hc : c ∈ f.seen
    · obtain ⟨new, hn, hnew, hall, heq⟩ := ih f
      refine ⟨new, hn, fun k hk => ⟨List.mem_cons_of_mem c (hnew k hk).1, (hnew k hk).2⟩, ?_, ?_⟩
      · intro d hd
        rcases List.mem_cons.mp hd with rfl | hd
        · exact .inl hc
        · exact hall d hd
      · rw [expand, if_pos hc, heq]
    · obtain ⟨new, hn, hnew, hall, heq⟩ :=
        ih ⟨visit f.state c, insert c f.seen, f.queue ++ [c]⟩
      have hcnew : c ∉ new := fun h => (hnew c h).2 (Finset.mem_insert_self c f.seen)
      refine ⟨c :: new, List.nodup_cons.mpr ⟨hcnew, hn⟩, ?_, ?_, ?_⟩
      · intro k hk
        rcases List.mem_cons.mp hk with rfl | hk
        · exact ⟨List.mem_cons_self, hc⟩
        · exact ⟨List.mem_cons_of_mem c (hnew k hk).1,
            fun h => (hnew k hk).2 (Finset.mem_insert_of_mem h)⟩
      · intro d hd
        rcases List.mem_cons.mp hd with rfl | hd
        · exact .inr List.mem_cons_self
        · rcases hall d hd with h | h
          · rcases Finset.mem_insert.mp h with rfl | h
            · exact .inr List.mem_cons_self
            · exact .inl h
          · exact .inr (List.mem_cons_of_mem c h)
      · rw [expand, if_neg hc, heq]
        simp only [List.foldl_cons, List.toFinset_cons, Finset.insert_union, Finset.union_insert,
          List.append_assoc, List.singleton_append]

lemma Explains.start (s : S) (root : K) :
    Explains children visit s root [] ⟨s, {root}, [root]⟩ where
  state := rfl
  nodup := List.nodup_nil
  seen k := by simp
  fresh := List.not_mem_nil
  reached k hk := by
    rw [Finset.mem_singleton.mp hk]
    exact .refl
  queued k hk := by simpa using hk
  closed k hk hq := absurd (by simpa using hk) hq

lemma Explains.pop {s : S} {root p : K} {order rest : List K} {f : Frontier K S}
    (h : Explains children visit s root order f) (hq : f.queue = p :: rest) :
    ∃ new, new.Nodup ∧ (∀ k ∈ new, k ∈ children p ∧ k ∉ f.seen) ∧
      expand visit (children p) { f with queue := rest } =
        ⟨new.foldl visit f.state, f.seen ∪ new.toFinset, rest ++ new⟩ ∧
      Explains children visit s root (order ++ new)
        (expand visit (children p) { f with queue := rest }) := by
  obtain ⟨new, hn, hnew, hall, heq⟩ := expand_discovers (children p) { f with queue := rest }
  have hp : p ∈ f.seen := h.queued p (hq ▸ List.mem_cons_self)
  refine ⟨new, hn, hnew, heq, ?_⟩
  rw [heq]
  constructor
  case state => rw [List.foldl_append, ← h.state]
  case nodup =>
    refine List.nodup_append.mpr ⟨h.nodup, hn, ?_⟩
    rintro a ha b hb rfl
    exact (hnew a hb).2 ((h.seen a).mpr (.inr ha))
  case seen =>
    intro k
    rw [Finset.mem_union, List.mem_toFinset, h.seen k, List.mem_append, or_assoc]
  case fresh =>
    rw [List.mem_append]
    rintro (hr | hr)
    · exact h.fresh hr
    · exact (hnew root hr).2 ((h.seen root).mpr (.inl rfl))
  case reached =>
    intro k hk
    rcases Finset.mem_union.mp hk with hk | hk
    · exact h.reached k hk
    · exact (h.reached p hp).tail (hnew k (List.mem_toFinset.mp hk)).1
  case queued =>
    intro k hk
    rw [Finset.mem_union, List.mem_toFinset]
    rcases List.mem_append.mp hk with hk | hk
    · exact .inl (h.queued k (hq ▸ List.mem_cons_of_mem p hk))
    · exact .inr hk
  case closed =>
    intro k hk hkq c hc
    obtain ⟨hkr, hkn⟩ : k ∉ rest ∧ k ∉ new := by simpa [not_or] using hkq
    have hk : k ∈ f.seen := by simpa [hkn] using hk
    rw [Finset.mem_union, List.mem_toFinset]
    by_cases hkp : k = p
    · exact hall c (hkp ▸ hc)
    · exact .inl (h.closed k hk (by simp [hq, hkp, hkr]) c hc)

/-- With one unit of fuel for every queued and every undiscovered node the queue
runs empty. -/
theorem drain_explains {s : S} {root : K} {U : Finset K} (hU : ∀ k, ∀ c ∈ children k, c ∈ U)
    (fuel : ℕ) {order : List K} {f : Frontier K S} (h : Explains children visit s root order f)
    (hfuel : f.queue.length + (U \ f.seen).card ≤ fuel) :
    ∃ order', Explains children visit s root order' (drain children visit fuel f) ∧
      (drain children visit fuel f).queue = [] := by
  induction fuel generalizing f order with
  | zero =>
    have hempty : f.queue.length = 0 := by omega
    exact ⟨order, h, List.eq_nil_of_length_eq_zero hempty⟩
  | succ fuel ih =>
    simp only [drain]
    cases hq : f.queue with
    | nil => exact ⟨order, h, hq⟩
    | cons p rest =>
      obtain ⟨new, hn, hnew, heq, hnext⟩ := h.pop hq
      refine ih hnext ?_
      have hsub : new.toFinset ⊆ U \ f.seen := by
        intro k hk
        have hk := hnew k (List.mem_toFinset.mp hk)
        exact Finset.mem_sdiff.mpr ⟨hU p k hk.1, hk.2⟩
      have hcard : (U \ (f.seen ∪ new.toFinset)).card + new.length = (U \ f.seen).card := by
        have hsplit : U \ (f.seen ∪ new.toFinset) = (U \ f.seen) \ new.toFinset := by
          ext k
          simp [not_or, and_assoc]
        rw [← List.toFinset_card_of_nodup hn, hsplit, Finset.card_sdiff_add_card_eq_card hsub]
      rw [heq]
      simp only [hq, List.length_cons, List.length_append] at hfuel ⊢
      omega

/-- The traversal visits exactly the nodes reached from the root, other than the
root, each once. -/
theorem traverse_visits {U : Finset K} (hU : ∀ k, ∀ c ∈ children k, c ∈ U) {fuel : ℕ}
    (hfuel : U.card + 1 ≤ fuel) (root : K) (s : S) :
    ∃ order : List K, order.Nodup ∧ (∀ k, k ∈ order ↔ k ≠ root ∧ Reaches children root k) ∧
      traverse children visit fuel root s = order.foldl visit s := by
  have hcard : (U \ {root}).card ≤ U.card := Finset.card_le_card Finset.sdiff_subset
  have hstart : Explains children visit s root [] ⟨s, {root}, [root]⟩ := .start s root
  obtain ⟨order, h, hq⟩ := drain_explains hU fuel hstart
    (by simp only [List.length_singleton]; omega)
  refine ⟨order, h.nodup, fun k => ⟨fun hk => ⟨?_, h.reached k ((h.seen k).mpr (.inr hk))⟩, ?_⟩,
    h.state⟩
  · rintro rfl
    exact h.fresh hk
  · rintro ⟨hne, hreach⟩
    refine ((h.seen k).mp ?_).resolve_left hne
    clear hne
    induction hreach with
    | refl => exact (h.seen root).mpr (.inl rfl)
    | tail _ hstep ih => exact h.closed _ ih (by rw [hq]; exact List.not_mem_nil) _ hstep

end

end OidcProvider.QueueTraversal
