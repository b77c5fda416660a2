import CallGraph.Schema.Defect
/-!
Checks that report every defect. A check either yields a value or a list of defects; where
several checks are put together, one failing does not keep the others from reporting theirs.
-/
namespace CallGraph.Schema

/-- The value that a check yields, or what is wrong. -/
abbrev Check (α : Type) := Except (List Defect) α

namespace Check

variable {α β γ : Type}

/-- One defect at the place under check. -/
def fail (kind : Kind) : Check α := .error [⟨[], kind⟩]

/-- A check of a value inside the container under check. -/
def under (step : Step) (check : Check α) : Check α :=
  check.mapError fun defects => defects.map fun d => { d with location := step :: d.location }

/-- Both checks, with the defects of both. -/
def both (a : Check α) (b : Check β) : Check (α × β) :=
  match a, b with
  | .ok a, .ok b => .ok (a, b)
  | .ok _, .error ds => .error ds
  | .error ds, .ok _ => .error ds
  | .error ds, .error es => .error (ds ++ es)

/-- The first check's value once the second one has passed as well. -/
def keeping (a : Check α) (b : Check Unit) : Check α := (a.both b).map Prod.fst

/-- A check of every item, with the defects of all. -/
def each (check : α → Check β) : List α → Check (List β)
  | [] => .ok []
  | item :: items => ((check item).both (each check items)).map fun (b, bs) => b :: bs

/-- A check of every item under its place in the list. -/
def eachFrom (check : α → Check β) : Nat → List α → Check (List β)
  | _, [] => .ok []
  | place, item :: items =>
    (((check item).under (.index place)).both (eachFrom check (place + 1) items)).map
      fun (b, bs) => b :: bs

@[simp] theorem both_ok (a : α) (b : β) : both (.ok a) (.ok b) = .ok (a, b) := rfl

theorem both_eq_ok {a : Check α} {b : Check β} {x : α} {y : β} :
    a.both b = .ok (x, y) ↔ a = .ok x ∧ b = .ok y := by
  cases a <;> cases b <;> simp [both]

end Check

end CallGraph.Schema
