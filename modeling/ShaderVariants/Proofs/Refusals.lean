/-!
What a computation is refused for. A sequence of steps ends well where all of them do; else the
first that is refused decides, so the refusal is found by looking through the steps in order.
-/

namespace ShaderVariants

/-- What a result is refused for. -/
def refusal {ε α : Type} : Except ε α → Option ε
  | .error e => some e
  | .ok _ => none

section
variable {ε α β : Type}

theorem bind_eq_ok {first : Except ε α} {next : α → Except ε β} {b : β} :
    (first >>= next) = .ok b ↔ ∃ a, first = .ok a ∧ next a = .ok b := by
  cases first with
  | error e => simp [bind, Except.bind]
  | ok a => simp [bind, Except.bind]

theorem bind_eq_error {first : Except ε α} {next : α → Except ε β} {e : ε} :
    (first >>= next) = .error e ↔
      first = .error e ∨ ∃ a, first = .ok a ∧ next a = .error e := by
  cases first with
  | error other => simp [bind, Except.bind]
  | ok a => simp [bind, Except.bind]

theorem refusal_eq_some {result : Except ε α} {e : ε} :
    refusal result = some e ↔ result = .error e := by
  cases result with
  | error other => rw [refusal, Option.some.injEq, Except.error.injEq]
  | ok a => exact ⟨nofun, nofun⟩

theorem refusal_eq_none {result : Except ε α} :
    refusal result = none ↔ ∃ a, result = .ok a := by
  cases result with
  | error e => exact ⟨nofun, nofun⟩
  | ok a => exact ⟨fun _ => ⟨a, rfl⟩, fun _ => rfl⟩

theorem refusal_map (g : α → β) (result : Except ε α) :
    refusal (g <$> result) = refusal result := by
  cases result <;> rfl

theorem refusal_bind_of_ok {first : Except ε α} {a : α} (success : first = .ok a)
    (next : α → Except ε β) : refusal (first >>= next) = refusal (next a) := by
  rw [success]
  rfl

/-- The first item that is refused decides. -/
theorem refusal_mapM (f : α → Except ε β) (l : List α) :
    refusal (l.mapM f) = l.findSome? fun a => refusal (f a) := by
  induction l with
  | nil => rfl
  | cons a l ih =>
    rw [List.mapM_cons, List.findSome?_cons]
    cases here : f a with
    | error e => rfl
    | ok b =>
      rw [refusal_bind_of_ok rfl, ← ih]
      exact refusal_map (b :: ·) (l.mapM f)

theorem mapM_eq_ok {f : α → Except ε β} {g : α → β} {l : List α}
    (each : ∀ a ∈ l, f a = .ok (g a)) : l.mapM f = .ok (l.map g) := by
  induction l with
  | nil => rfl
  | cons a l ih =>
    rw [List.forall_mem_cons] at each
    rw [List.mapM_cons, each.1, ih each.2]
    rfl

end
end ShaderVariants
