/-!
# What a roll gives back

A result together with its log, the text that tells what was rolled.
-/

namespace Tabletop

/-- A result and what it came from. -/
structure Rolled (α : Type) where
  result : α
  log : String
  deriving DecidableEq

namespace Rolled

variable {α β : Type}

/-- A result of several steps, each of which left a line. -/
def ofLines (result : α) (lines : List String) : Rolled α :=
  ⟨result, String.join (lines.map (· ++ "\n"))⟩

/-- The same log with another result. -/
def map (f : α → β) (r : Rolled α) : Rolled β := ⟨f r.result, r.log⟩

/-- The log, and the result as `write` writes it. -/
def display (write : α → String) (r : Rolled α) : String := r.log ++ " = " ++ write r.result

@[simp] theorem map_id (r : Rolled α) : r.map id = r := rfl

@[simp] theorem map_map {γ : Type} (f : α → β) (g : β → γ) (r : Rolled α) :
    (r.map f).map g = r.map (g ∘ f) := rfl

end Rolled

end Tabletop
