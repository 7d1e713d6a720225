import Mathlib.Data.List.Basic

/-!
# Rows that are marked by calls

Rows are stored under keys, belong to a group, and may be marked once and for
all. A stretch of a run is described by the calls made in it: `must` says which
calls mark a row for certain, and `may` which calls could have marked it. Such
descriptions compose along the log of the calls.
-/
namespace OidcProvider.RowMarking

variable {O K V G : Type}

/-- Some call of the log is a cause for the row. -/
def Logged (cause : O → K → G → Prop) (log : List O) (key : K) (g : G) : Prop :=
  ∃ o ∈ log, cause o key g

lemma logged_append {cause : O → K → G → Prop} {log log' : List O} {key : K} {g : G} :
    Logged cause (log ++ log') key g ↔ Logged cause log key g ∨ Logged cause log' key g := by
  simp only [Logged, List.mem_append, or_and_right, exists_or]

/-- No row is lost or changes its group; marks stay, are made where they must be,
and only where they may be. -/
def Marks (group : V → G) (marked : V → Bool) (must may : K → G → Prop)
    (f f' : K → Option V) : Prop :=
  ∀ key row, f key = some row → ∃ row', f' key = some row' ∧ group row' = group row ∧
    (marked row = true ∨ must key (group row) → marked row' = true) ∧
    (marked row' = true → marked row = true ∨ may key (group row))

section
variable {group : V → G} {marked : V → Bool} {must may : K → G → Prop} {f f' f'' : K → Option V}

lemma Marks.of_kept (hmust : ∀ key g, ¬must key g)
    (h : ∀ key row, f key = some row → f' key = some row) : Marks group marked must may f f' :=
  fun key row hrow =>
    ⟨row, h key row hrow, rfl, fun hm => hm.resolve_right (hmust key _), fun hm => .inl hm⟩

lemma Marks.of_map (mark : V → V) (hit : K → V → Prop)
    (hgroup : ∀ row, group (mark row) = group row) (hmark : ∀ row, marked (mark row) = true)
    (hhit : ∀ key row, f key = some row → hit key row → f' key = some (mark row))
    (hmiss : ∀ key row, f key = some row → ¬hit key row → f' key = some row)
    (hmust : ∀ key row, f key = some row → must key (group row) → hit key row)
    (hmay : ∀ key row, f key = some row → hit key row → may key (group row)) :
    Marks group marked must may f f' := by
  intro key row hrow
  by_cases h : hit key row
  · exact ⟨mark row, hhit key row hrow h, hgroup row, fun _ => hmark row,
      fun _ => .inr (hmay key row hrow h)⟩
  · exact ⟨row, hmiss key row hrow h, rfl,
      fun hm => hm.resolve_right fun hm => h (hmust key row hrow hm), fun hm => .inl hm⟩

lemma Marks.append {must may : O → K → G → Prop} {log log' : List O}
    (h : Marks group marked (Logged must log) (Logged may log) f f')
    (h' : Marks group marked (Logged must log') (Logged may log') f' f'') :
    Marks group marked (Logged must (log ++ log')) (Logged may (log ++ log')) f f'' := by
  intro key row hrow
  obtain ⟨row₁, hrow₁, hgroup₁, hmust₁, hmay₁⟩ := h key row hrow
  obtain ⟨row₂, hrow₂, hgroup₂, hmust₂, hmay₂⟩ := h' key row₁ hrow₁
  rw [hgroup₁] at hgroup₂ hmust₂ hmay₂
  refine ⟨row₂, hrow₂, hgroup₂, fun hm => ?_, fun hm => ?_⟩
  · rw [logged_append] at hm
    rcases hm with hm | hm | hm
    · exact hmust₂ (.inl (hmust₁ (.inl hm)))
    · exact hmust₂ (.inl (hmust₁ (.inr hm)))
    · exact hmust₂ (.inr hm)
  · rw [logged_append]
    rcases hmay₂ hm with hm | hm
    · exact (hmay₁ hm).imp_right .inl
    · exact .inr (.inr hm)

end

end OidcProvider.RowMarking
