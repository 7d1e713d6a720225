import Mathlib.Logic.Relation
import Mathlib.Logic.Relator

/-!
# Links that never branch

A relation in which every node has at most one successor and at most one
predecessor. It stays so when a link is added from a node without a successor
to a node without a predecessor. Its connected components are chains: of two
connected nodes one is reached from the other, and a component has at most one
node without a successor.
-/
namespace OidcProvider.LinearLinks

section
variable {α : Type} {r : α → α → Prop}

def addLink (r : α → α → Prop) (a b : α) (x y : α) : Prop := r x y ∨ (x = a ∧ y = b)

/-- A link from a last node to a first one joins two chains. -/
lemma biUnique_addLink (h : Relator.BiUnique r) {a b : α} (ha : ∀ y, ¬r a y)
    (hb : ∀ x, ¬r x b) : Relator.BiUnique (addLink r a b) := by
  constructor
  · -- two predecessors of one node
    intro x x' y hx hx'
    rcases hx with hx | ⟨rfl, rfl⟩
    · rcases hx' with hx' | ⟨rfl, rfl⟩
      · exact h.1 hx hx'
      · exact absurd hx (hb x)
    · rcases hx' with hx' | ⟨rfl, _⟩
      · exact absurd hx' (hb x')
      · rfl
  · -- two successors of one node
    intro x y y' hy hy'
    rcases hy with hy | ⟨rfl, rfl⟩
    · rcases hy' with hy' | ⟨rfl, rfl⟩
      · exact h.2 hy hy'
      · exact absurd hy (ha y)
    · rcases hy' with hy' | ⟨_, rfl⟩
      · exact absurd hy' (ha y')
      · rfl

lemma reaches_of_connected (h : Relator.BiUnique r) {a b : α} (hab : Relation.EqvGen r a b) :
    Relation.ReflTransGen r a b ∨ Relation.ReflTransGen r b a := by
  have hback : Relator.RightUnique (Function.swap r) := fun _ _ _ hy hy' => h.1 hy hy'
  induction hab with
  | rel a b hstep => exact .inl (.single hstep)
  | refl a => exact .inl .refl
  | symm a b _ ih => exact ih.symm
  | trans a b c _ _ ihab ihbc =>
    rcases ihab with hab | hba
    · rcases ihbc with hbc | hcb
      · exact .inl (hab.trans hbc)
      · -- both come down to `b`, so one comes before the other
        have hup := Relation.ReflTransGen.total_of_right_unique hback
          (Relation.reflTransGen_swap.mpr hab) (Relation.reflTransGen_swap.mpr hcb)
        exact hup.symm.imp Relation.reflTransGen_swap.mp Relation.reflTransGen_swap.mp
    · rcases ihbc with hbc | hcb
      · exact Relation.ReflTransGen.total_of_right_unique h.2 hba hbc
      · exact .inr (hcb.trans hba)

/-- A chain has one end. -/
lemma eq_of_connected_ends (h : Relator.BiUnique r) {a b : α} (hab : Relation.EqvGen r a b)
    (ha : ∀ c, ¬r a c) (hb : ∀ c, ¬r b c) : a = b := by
  rcases reaches_of_connected h hab with hab | hba
  · rcases hab.cases_head with heq | ⟨c, hc, _⟩
    · exact heq
    · exact absurd hc (ha c)
  · rcases hba.cases_head with heq | ⟨c, hc, _⟩
    · exact heq.symm
    · exact absurd hc (hb c)

end

end OidcProvider.LinearLinks
