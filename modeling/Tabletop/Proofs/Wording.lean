import Tabletop.Failure
import Tabletop.Proofs.Quoted

/-!
# What a message tells

A complaint about a text is worded around the tokens it is about, and these can be any texts: they may
hold quotes and backslashes, or the very words of another complaint. But they are quoted, and quoted text
tells where it ends (`Text.quoted_append_inj`). So a message that begins with a quote gives away the token
it begins with, and the words behind that token say which complaint it is and where another token begins.
The one complaint that begins with a word is about a last token. Nothing is lost in the wording,

> `ReadError.message_eq_iff`: two complaints have the same message only if they are the same,

nor among all that can be refused, where every other message begins with a letter that no complaint about
a text begins with:

> `Failure.message_tells_reading`: what was wrong with a text can be told from the message of the failure.
-/

namespace Tabletop

open Text (quoted quoted_append_inj quoted_injective)

/-- What begins with a quoted text begins with the quote. -/
theorem head?_quoted_append (s u : String) : (quoted s ++ u).toList.head? = some '\"' := by
  rw [String.toList_append]
  unfold quoted
  rw [String.toList_ofList]
  rfl

namespace ReadError

/-! ## Complaints about a text -/

theorem message_notValid (token : String) :
    (notValid token).message = quoted token ++ " is not a valid token" := rfl

theorem message_cannotFollow (earlier later : String) :
    (cannotFollow earlier later).message = quoted later ++ (" cannot follow " ++ quoted earlier) :=
  String.append_assoc

theorem message_cannotEnd (token : String) :
    (cannotEnd token).message = "an expression cannot end with " ++ quoted token := rfl

/-- Behind the token that both begin with, the words differ. -/
theorem message_notValid_ne_cannotFollow (token earlier later : String) :
    (notValid token).message ≠ (cannotFollow earlier later).message := by
  intro h
  rw [message_notValid, message_cannotFollow] at h
  obtain ⟨-, hwords⟩ := quoted_append_inj h
  have hsecond := congrArg (fun words : String => words.toList[1]?) hwords
  simp at hsecond

/-- The complaint about a last token does not begin with a token. -/
theorem message_cannotEnd_ne_quoted_append (token s u : String) :
    (cannotEnd token).message ≠ quoted s ++ u := by
  intro h
  have hhead := head?_quoted_append s u
  rw [← h, message_cannotEnd] at hhead
  simp at hhead

/-- Two complaints have the same message only if they are the same. -/
theorem message_eq_iff {e e' : ReadError} : e.message = e'.message ↔ e = e' := by
  refine ⟨fun h => ?_, fun h => by rw [h]⟩
  cases e with
  | notValid token =>
    cases e' with
    | notValid token' =>
      rw [message_notValid, message_notValid] at h
      rw [(quoted_append_inj h).1]
    | cannotFollow earlier later =>
      exact absurd h (message_notValid_ne_cannotFollow token earlier later)
    | cannotEnd token' =>
      rw [message_notValid] at h
      exact absurd h.symm (message_cannotEnd_ne_quoted_append token' token _)
  | cannotFollow earlier later =>
    cases e' with
    | notValid token =>
      exact absurd h.symm (message_notValid_ne_cannotFollow token earlier later)
    | cannotFollow earlier' later' =>
      rw [message_cannotFollow, message_cannotFollow] at h
      obtain ⟨rfl, hbehind⟩ := quoted_append_inj h
      rw [quoted_injective ((String.append_right_inj _).1 hbehind)]
    | cannotEnd token =>
      rw [message_cannotFollow] at h
      exact absurd h.symm (message_cannotEnd_ne_quoted_append token later _)
  | cannotEnd token =>
    cases e' with
    | notValid token' =>
      rw [message_notValid] at h
      exact absurd h (message_cannotEnd_ne_quoted_append token token' _)
    | cannotFollow earlier later =>
      rw [message_cannotFollow] at h
      exact absurd h (message_cannotEnd_ne_quoted_append token later _)
    | cannotEnd token' =>
      rw [message_cannotEnd, message_cannotEnd] at h
      rw [quoted_injective ((String.append_right_inj _).1 h)]

/-- A complaint about a text begins with a quote, or with the article of an expression. -/
theorem head?_message (e : ReadError) :
    e.message.toList.head? = some '\"' ∨ e.message.toList.head? = some 'a' := by
  cases e with
  | notValid token => exact .inl (head?_quoted_append token _)
  | cannotFollow earlier later =>
    rw [message_cannotFollow]
    exact .inl (head?_quoted_append later _)
  | cannotEnd token =>
    rw [message_cannotEnd]
    exact .inr (by simp)

/-- What begins otherwise is no complaint about a text. -/
theorem message_ne_of_head? (e : ReadError) {words : String} {c : Char}
    (h : words.toList.head? = some c) (hquote : c ≠ '\"') (harticle : c ≠ 'a') :
    words ≠ e.message := by
  rintro rfl
  rcases e.head?_message with hhead | hhead
  · exact hquote (Option.some.inj (h.symm.trans hhead))
  · exact harticle (Option.some.inj (h.symm.trans hhead))

end ReadError

/-! ## All failures -/

theorem OverBudget.head?_message (e : OverBudget) : e.message.toList.head? = some 't' := by
  unfold message
  simp

theorem Table.Overweight.head?_message (e : Overweight) : e.message.toList.head? = some 't' := by
  unfold message
  simp

theorem Groups.Uneven.head?_message (e : Uneven) : e.message.toList.head? = some 'c' := by
  unfold message
  simp

/-- **A message tells what was wrong with a text.** Two complaints with the same message are of the same
kind and name the same tokens in the same order, whatever characters these hold. This stays so when they
are failures of the library as a whole: a failure whose message is that of a complaint about a text is
that complaint. -/
theorem Failure.message_tells_reading (e : ReadError) :
    (∀ e' : ReadError, e'.message = e.message ↔ e' = e) ∧
    ∀ f : Failure, f.message = (reading e).message ↔ f = reading e := by
  refine ⟨fun e' => ReadError.message_eq_iff, fun f => ⟨fun h => ?_, fun h => by rw [h]⟩⟩
  cases f with
  | reading e' => rw [ReadError.message_eq_iff.1 h]
  | budget refusal => exact absurd h (e.message_ne_of_head? refusal.head?_message (by simp) (by simp))
  | weight refusal => exact absurd h (e.message_ne_of_head? refusal.head?_message (by simp) (by simp))
  | grouping refusal => exact absurd h (e.message_ne_of_head? refusal.head?_message (by simp) (by simp))

end Tabletop
