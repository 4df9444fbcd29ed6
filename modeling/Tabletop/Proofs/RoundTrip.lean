import Tabletop.Proofs.Notation

/-!
# Reading back what was written

The description of an expression is dice notation for that expression, as long as every constant can
be written without a minus of its own: writing follows the grammar term by term, and the one plus it
leaves out is the one the grammar does without (`Expr.notated_text`). So the description is read
back as the expression. A negative constant has no notation, whatever the text, so an expression that
holds one is read back from nothing, its own description included. Together:

> `read_description_eq_ok_iff`: an expression is read back from its description exactly when none of
> its constants is negative.
-/

namespace Tabletop

/-- Signed terms without negative constants are written as a row. -/
theorem SignedTerm.row_text :
    ∀ {ts : List SignedTerm}, (∀ t ∈ ts, ¬t.term.IsNegative) →
      Row (ts.flatMap SignedTerm.text) ts := by
  intro ts
  induction ts with
  | nil => intro _; exact .nil
  | cons t ts ih =>
    intro h
    obtain ⟨ht, hts⟩ := List.forall_mem_cons.mp h
    exact .cons (Term.notated_text ht) (ih hts)

namespace Expr

/-- An expression without negative constants is written in its own notation. -/
theorem notated_text {e : Expr} (h : ∀ t ∈ e.terms, ¬t.term.IsNegative) : Notated e.text e := by
  obtain ⟨ts⟩ := e
  match ts, h with
  | [], _ => exact .signed .nil
  | ⟨.plus, t⟩ :: ts, h =>
    obtain ⟨ht, hts⟩ := List.forall_mem_cons.mp h
    exact .unsigned (Term.notated_text ht) (SignedTerm.row_text hts)
  | ⟨.minus, t⟩ :: ts, h => exact .signed (SignedTerm.row_text h)

/-- What a description notates is what it is read as. -/
theorem read_description_eq_ok_of_notated {e e' : Expr} (h : Notated e.text e') :
    read e.description = .ok e' := by
  rw [read_eq_ok_iff, description, String.toList_ofList, Token.condensed_eq_self h.isMark]
  exact h

/-- **The round trip and its exact limits.** An expression is read back from its description, term
by term as it was, exactly when none of its constants is negative. -/
theorem read_description_eq_ok_iff (e : Expr) :
    read e.description = .ok e ↔ ∀ t ∈ e.terms, ¬t.term.IsNegative := by
  refine ⟨fun h => ?_, fun h => ?_⟩
  · exact (read_eq_ok_iff.1 h).not_isNegative
  · exact read_description_eq_ok_of_notated (notated_text h)

end Expr

end Tabletop
