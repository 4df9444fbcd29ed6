import Tabletop.Prompt
import Tabletop.Proofs.Description
import Tabletop.Proofs.Reach
import Tabletop.Roller.Fixed

/-!
# Lines do not disturb each other

The prompt keeps one context for a whole conversation and resets its count at every line. Here a
conversation is told without it: the reply to a line (`Prompt.reply`) is found with a new context of
its own, and all that goes on to the next line is the state of the roller. A `session` is a row of
such rounds, and `shown` is what is seen of it.

> `transcript_eq_shown`: as long as no roll stops, a conversation is what is shown of its session.

The two go side by side, because a count that is reset before it is looked at has no part in a turn
(`turn_some`). What a single line can bring about is listed once (`reply_cases`). The lines that get
no result leave the roller where it was, so taking some of them out changes no other round
(`session_of_sublist`), by induction on the lines: a round is either kept, and the same round starts
the thinned session, or taken out, and the next one starts from the same state.
-/

namespace Tabletop.Prompt

open Context (highestCount)

variable {σ : Type}

/-! ## Sessions -/

/-- What becomes of a line. -/
inductive Reply where
  | silence
  | complaint (message : String)
  | result (rolled : Rolled Int64)
  | halt
  deriving DecidableEq

/-- The reply that an evaluation comes to, and the roller state after it. -/
def Reply.ofEval : EStateM.Result Stop (Context σ) (Rolled Int64) → Reply × σ
  | .ok rolled c => (.result rolled, c.source)
  | .error (.overBudget refusal) c => (.complaint refusal.message, c.source)
  | .error (.halted _) c => (.halt, c.source)

/-- The reply to a line on a new context, and the roller state after it. -/
def reply (r : Roller σ) (limit : Nat) (line : String) (s : σ) : Reply × σ :=
  if Text.isBlank line.toList then (.silence, s)
  else match Expr.read line with
    | .error error => (.complaint error.message, s)
    | .ok e => Reply.ofEval ((Context.new (some limit) s).eval r e)

/-- A line that is no notation, or whose dice are more than the limit. -/
def Refused (limit : Nat) (line : String) : Prop :=
  (∃ error, Expr.read line = .error error) ∨
    ∃ e, Expr.read line = .ok e ∧ limit < min e.draws highestCount

/-- A line with its reply, and the roller state before and after it. -/
structure Round (σ : Type) where
  line : String
  before : σ
  reply : Reply
  after : σ
  deriving DecidableEq

/-- Whether a line got a result. -/
def Round.answered (x : Round σ) : Bool :=
  match x.reply with
  | .result _ => true
  | _ => false

/-- The round of a line. -/
def round (r : Roller σ) (limit : Nat) (line : String) (s : σ) : Round σ :=
  ⟨line, s, (reply r limit line s).1, (reply r limit line s).2⟩

/-- The rounds of several lines, one after the other. -/
def session (r : Roller σ) (limit : Nat) : List String → σ → List (Round σ)
  | [], _ => []
  | line :: lines, s => round r limit line s :: session r limit lines (round r limit line s).after

/-- What is said aloud in a round: its result, on a line of its own. -/
def Reply.out : Reply → String
  | result rolled => rolled.shown ++ "\n"
  | _ => ""

/-- What is complained about in a round, on a line of its own. -/
def Reply.err : Reply → String
  | complaint message => "Error: " ++ message ++ "\n"
  | _ => ""

/-- What is seen of rounds that come to the end of the input: a mark, and a mark behind each. -/
def shown (rounds : List (Round σ)) : Transcript where
  out := mark ++ String.join (rounds.map fun x => x.reply.out ++ mark)
  err := String.join (rounds.map fun x => x.reply.err)
  code := 0

/-! ## One line -/

theorem reply_of_blank {line : String} (hblank : Text.isBlank line.toList = true) (r : Roller σ)
    (limit : Nat) (s : σ) : reply r limit line s = (.silence, s) := by
  rw [reply, if_pos hblank]

theorem reply_of_read_error {line : String} (hblank : Text.isBlank line.toList = false)
    {error : ReadError} (hread : Expr.read line = .error error) (r : Roller σ) (limit : Nat)
    (s : σ) : reply r limit line s = (.complaint error.message, s) := by
  rw [reply, hblank, hread]
  rfl

theorem reply_of_read_ok {line : String} (hblank : Text.isBlank line.toList = false)
    {e : Expr} (hread : Expr.read line = .ok e) (r : Roller σ) (limit : Nat) (s : σ) :
    reply r limit line s = Reply.ofEval ((Context.new (some limit) s).eval r e) := by
  rw [reply, hblank, hread]
  rfl

/-- A line is blank, or no notation, or over the limit, or rolled; and only the last of these asks
anything of the roller. -/
theorem reply_cases (r : Roller σ) (limit : Nat) (line : String) (s : σ) :
    Text.isBlank line.toList = true ∧ reply r limit line s = (.silence, s) ∨
    Text.isBlank line.toList = false ∧
      ((∃ error, Expr.read line = .error error ∧
        reply r limit line s = (.complaint error.message, s)) ∨
      ∃ e, Expr.read line = .ok e ∧
        (limit < min e.draws highestCount ∧
          reply r limit line s =
            (.complaint (OverBudget.mk (min e.draws highestCount) limit).message, s) ∨
        min e.draws highestCount ≤ limit ∧
          reply r limit line s = Reply.ofEval ((Context.new (some limit) s).rolledOn r e))) := by
  cases hblank : Text.isBlank line.toList with
  | true => exact .inl ⟨rfl, reply_of_blank hblank r limit s⟩
  | false =>
    refine .inr ⟨rfl, ?_⟩
    cases hread : Expr.read line with
    | error error => exact .inl ⟨error, rfl, reply_of_read_error hblank hread r limit s⟩
    | ok e =>
      have hcount : (Context.new (some limit) s).requested e.draws = min e.draws highestCount :=
        congrArg (min · highestCount) (Nat.zero_add e.draws)
      refine .inr ⟨e, rfl, ?_⟩
      rw [reply_of_read_ok hblank hread]
      rcases (Context.new (some limit) s).eval_refused_or_rolled r e with
        ⟨most, hlimit, hover, heval⟩ | ⟨hfits, heval⟩
      · cases hlimit
        rw [hcount] at hover heval
        exact .inl ⟨hover, by rw [heval]; rfl⟩
      · have hfits := hfits limit rfl
        rw [hcount] at hfits
        exact .inr ⟨hfits, by rw [heval]⟩

theorem not_refused_of_le {limit : Nat} {line : String} {e : Expr} (hread : Expr.read line = .ok e)
    (hfits : min e.draws highestCount ≤ limit) : ¬Refused limit line := by
  rintro (⟨error, herror⟩ | ⟨e', hread', hover⟩)
  · rw [hread] at herror
    cases herror
  · rw [hread] at hread'
    cases hread'
    exact absurd hover (Nat.not_lt_of_le hfits)

/-- A line gets no result when it is blank or refused, and then the roller is as it was. -/
theorem answered_eq_false_iff {r : Roller σ} {limit : Nat} {line : String} {s : σ}
    (hhalt : (round r limit line s).reply ≠ .halt) :
    ((round r limit line s).answered = false ↔
      Text.isBlank line.toList = true ∨ Refused limit line) ∧
        ((round r limit line s).answered = false → (round r limit line s).after = s) := by
  unfold Round.answered
  unfold round at hhalt ⊢
  rcases reply_cases r limit line s with
    ⟨hblank, hreply⟩ |
    ⟨hblank, ⟨error, hread, hreply⟩ | ⟨e, hread, ⟨hover, hreply⟩ | ⟨hfits, hreply⟩⟩⟩
  · rw [hreply]
    exact ⟨iff_of_true rfl (.inl hblank), fun _ => rfl⟩
  · rw [hreply]
    exact ⟨iff_of_true rfl (.inr (.inl ⟨error, hread⟩)), fun _ => rfl⟩
  · rw [hreply]
    exact ⟨iff_of_true rfl (.inr (.inr ⟨e, hread, hover⟩)), fun _ => rfl⟩
  · rw [hreply, Context.rolledOn] at hhalt ⊢
    cases hroll : e.roll r (Context.new (some limit) s).source with
    | ok rolled s' =>
      refine ⟨iff_of_false Bool.noConfusion ?_, Bool.noConfusion⟩
      rintro (htrue | hrefused)
      · rw [hblank] at htrue
        cases htrue
      · exact not_refused_of_le hread hfits hrefused
    | error halt s' =>
      rw [hroll] at hhalt
      exact absurd rfl hhalt

/-- A line is complained about when it is refused, unless it is blank. -/
theorem exists_complaint_iff (r : Roller σ) (limit : Nat) (line : String) (s : σ) :
    (∃ message, (round r limit line s).reply = .complaint message) ↔
      Text.isBlank line.toList = false ∧ Refused limit line := by
  unfold round
  rcases reply_cases r limit line s with
    ⟨hblank, hreply⟩ |
    ⟨hblank, ⟨error, hread, hreply⟩ | ⟨e, hread, ⟨hover, hreply⟩ | ⟨hfits, hreply⟩⟩⟩
  · simp [hreply, hblank]
  · rw [hreply]
    exact iff_of_true ⟨_, rfl⟩ ⟨hblank, .inl ⟨error, hread⟩⟩
  · rw [hreply]
    exact iff_of_true ⟨_, rfl⟩ ⟨hblank, .inr ⟨e, hread, hover⟩⟩
  · refine iff_of_false ?_ ?_
    · rw [hreply, Context.rolledOn]
      rintro ⟨message, hmessage⟩
      cases hroll : e.roll r (Context.new (some limit) s).source with
      | ok rolled s' =>
        rw [hroll] at hmessage
        cases hmessage
      | error halt s' =>
        rw [hroll] at hmessage
        cases hmessage
    · rintro ⟨-, hrefused⟩
      exact not_refused_of_le hread hfits hrefused

/-! ## A whole session -/

/-- The turn that a reply amounts to. -/
def Reply.turn : Reply → Turn
  | silence => {}
  | complaint message => .complaint message
  | result rolled => .answer rolled.shown
  | halt => .crash

theorem Reply.before_turn {x : Reply} (h : x ≠ halt) (rest : Transcript) :
    x.turn.before rest = ⟨x.out ++ mark ++ rest.out, x.err ++ rest.err, rest.code⟩ := by
  cases x with
  | halt => exact absurd rfl h
  | _ => rfl

/-- What was counted before has no part in a line's evaluation. -/
theorem evaluate_eq {c : Context σ} {limit : Nat} (h : c.limit = some limit) (r : Roller σ)
    (e : Expr) :
    (evaluate r e c).1 = (Reply.ofEval ((Context.new (some limit) c.source).eval r e)).1.turn ∧
      (evaluate r e c).2.source = (Reply.ofEval ((Context.new (some limit) c.source).eval r e)).2 ∧
        (evaluate r e c).2.limit = some limit := by
  have hreset : c.reset = Context.new (some limit) c.source := by
    unfold Context.reset
    rw [h]
    rfl
  have hlimit := Context.limit_leftBy_eval r (Context.new (some limit) c.source) e
  unfold evaluate
  rw [hreset]
  cases heval : (Context.new (some limit) c.source).eval r e with
  | ok rolled c' =>
    rw [heval] at hlimit
    exact ⟨rfl, rfl, hlimit⟩
  | error stop c' =>
    rw [heval] at hlimit
    cases stop with
    | overBudget refusal => exact ⟨rfl, rfl, hlimit⟩
    | halted halt => exact ⟨rfl, rfl, hlimit⟩

/-- A turn is the reply on a new context with the same limit. -/
theorem turn_some {c : Context σ} {limit : Nat} (h : c.limit = some limit) (r : Roller σ)
    (line : String) :
    (turn r (some line) c).1 = (reply r limit line c.source).1.turn ∧
      (turn r (some line) c).2.source = (reply r limit line c.source).2 ∧
        (turn r (some line) c).2.limit = some limit := by
  unfold turn
  dsimp only
  cases hblank : Text.isBlank line.toList with
  | true =>
    rw [reply_of_blank hblank]
    exact ⟨rfl, rfl, h⟩
  | false =>
    cases hread : Expr.read line with
    | error error =>
      rw [reply_of_read_error hblank hread]
      exact ⟨rfl, rfl, h⟩
    | ok e =>
      rw [reply_of_read_ok hblank hread]
      exact evaluate_eq h r e

theorem follow_eq (r : Roller σ) {limit : Nat} :
    ∀ (lines : List String) (c : Context σ), c.limit = some limit →
      (∀ x ∈ session r limit lines c.source, x.reply ≠ .halt) →
        follow r (lines.map some) c =
          ⟨String.join ((session r limit lines c.source).map fun x => x.reply.out ++ mark),
            String.join ((session r limit lines c.source).map fun x => x.reply.err), 0⟩ := by
  intro lines
  induction lines with
  | nil => exact fun c _ _ => rfl
  | cons line lines ih =>
    intro c hlimit h
    obtain ⟨hfirst, hrest⟩ := List.forall_mem_cons.mp h
    obtain ⟨hturn, hsource, hlimit'⟩ := turn_some hlimit r line
    have hnext : (turn r (some line) c).2.source = (round r limit line c.source).after := hsource
    rw [← hnext] at hrest
    have hbefore := Reply.before_turn hfirst (follow r (lines.map some) (turn r (some line) c).2)
    rw [ih _ hlimit' hrest, hnext] at hbefore
    rw [List.map_cons, follow, hturn, ih _ hlimit' hrest, hnext, session]
    simp only [List.map_cons, String.join_cons]
    exact hbefore

/-- As long as no roll stops, a conversation is what is shown of its session. -/
theorem transcript_eq_shown {r : Roller σ} {limit : Nat} {source : σ} {lines : List String}
    (h : ∀ x ∈ session r limit lines source, x.reply ≠ .halt) :
    transcript r limit source (lines.map some) = shown (session r limit lines source) := by
  have hfollow := follow_eq r lines (.new (some limit) source) rfl h
  unfold transcript
  rw [hfollow]
  rfl

/-- Every round of a session is the round of its line. -/
theorem eq_round_of_mem_session {r : Roller σ} {limit : Nat} {x : Round σ} :
    ∀ {lines : List String} {s : σ}, x ∈ session r limit lines s →
      x = round r limit x.line x.before := by
  intro lines
  induction lines with
  | nil => exact fun h => absurd h List.not_mem_nil
  | cons line lines ih =>
    intro s h
    rcases List.mem_cons.mp h with rfl | h
    · rfl
    · exact ih h

/-- To take lines out that got no result changes no other round. -/
theorem session_of_sublist (r : Roller σ) (limit : Nat) :
    ∀ (lines : List String) (s : σ) (kept : List (Round σ)),
      (∀ x ∈ session r limit lines s, x.reply ≠ .halt) →
      kept.Sublist (session r limit lines s) →
      kept.filter Round.answered = (session r limit lines s).filter Round.answered →
        session r limit (kept.map Round.line) s = kept := by
  intro lines
  induction lines with
  | nil =>
    intro s kept _ hsub _
    rw [List.sublist_nil.mp hsub]
    rfl
  | cons line lines ih =>
    intro s kept h hsub hanswered
    obtain ⟨hfirst, hrest⟩ := List.forall_mem_cons.mp h
    rw [session] at hsub hanswered
    cases hsub with
    | cons _ hsub =>
      -- a round that got a result would be missed among the results
      have hnone : (round r limit line s).answered = false := by
        rw [Bool.eq_false_iff]
        intro htrue
        rw [List.filter_cons_of_pos htrue] at hanswered
        have hle := (hsub.filter Round.answered).length_le
        rw [hanswered, List.length_cons] at hle
        omega
      rw [List.filter_cons_of_neg (Bool.not_eq_true _ ▸ hnone)] at hanswered
      rw [(answered_eq_false_iff hfirst).2 hnone] at hrest hsub hanswered
      exact ih s kept hrest hsub hanswered
    | cons_cons _ hsub =>
      rename_i kept
      have hkept : kept.filter Round.answered =
          (session r limit lines (round r limit line s).after).filter Round.answered := by
        cases hx : (round r limit line s).answered with
        | true =>
          rw [List.filter_cons_of_pos hx, List.filter_cons_of_pos hx] at hanswered
          exact (List.cons.inj hanswered).2
        | false =>
          rw [List.filter_cons_of_neg (Bool.not_eq_true _ ▸ hx),
            List.filter_cons_of_neg (Bool.not_eq_true _ ▸ hx)] at hanswered
          exact hanswered
      have hsession := ih _ kept hrest hsub hkept
      exact congrArg (round r limit line s :: ·) hsession

/-! ## Results -/

/-- The blanks that notation ignores are white space. -/
theorem isBlank_of_condensed_eq_nil {text : List Char} (h : Token.condensed text = []) :
    Text.isBlank text = true := by
  have hfiller : ∀ c ∈ text, Token.isFiller c = true := by
    simpa using List.filter_eq_nil_iff.mp (List.map_eq_nil_iff.mp h)
  rw [Text.isBlank, List.all_eq_true]
  intro c hc
  have hc := hfiller c hc
  simp only [Token.isFiller, Bool.or_eq_true, beq_iff_eq] at hc
  rcases hc with rfl | rfl
  · decide
  · decide

/-- So only a blank line can be read as nothing. -/
theorem terms_ne_nil_of_read {line : String} (hblank : Text.isBlank line.toList = false) {e : Expr}
    (hread : Expr.read line = .ok e) : e.terms ≠ [] := by
  intro hterms
  have hcondensed := (Expr.read_eq_ok_iff.1 hread).eq_nil hterms
  rw [isBlank_of_condensed_eq_nil hcondensed] at hblank
  cases hblank

/-- A result is shown on one line. -/
theorem newline_not_mem_shown (total : Int64) (e : Expr) :
    '\n' ∉ (Rolled.mk total e.description).shown.toList := by
  have hmark : Token.isMark '\n' = false := rfl
  have hlog : '\n' ∉ e.text := by
    intro hmem
    rw [e.isMark_text _ hmem] at hmark
    cases hmark
  have htotal : '\n' ∉ Numeral.ofInt64 total := by
    intro hmem
    rw [(Term.constant total).isMark_text _ hmem] at hmark
    cases hmark
  unfold Rolled.shown Rolled.display Expr.description
  simp [hlog, htotal]

/-- A result is that of a new context, and its log tells what was rolled. -/
theorem exists_eval_of_result {r : Roller σ} {limit : Nat} {line : String} {s : σ}
    {rolled : Rolled Int64} (h : (round r limit line s).reply = .result rolled) :
    ∃ e c, Expr.read line = .ok e ∧ (Context.new (some limit) s).eval r e = .ok rolled c ∧
      (round r limit line s).after = c.source ∧ rolled.log = e.description ∧ rolled.log ≠ "" ∧
        '\n' ∉ rolled.shown.toList := by
  unfold round at h ⊢
  cases hblank : Text.isBlank line.toList with
  | true =>
    rw [reply_of_blank hblank] at h
    cases h
  | false =>
    cases hread : Expr.read line with
    | error error =>
      rw [reply_of_read_error hblank hread] at h
      cases h
    | ok e =>
      rw [reply_of_read_ok hblank hread] at h ⊢
      cases heval : (Context.new (some limit) s).eval r e with
      | error stop c =>
        rw [heval] at h
        cases stop with
        | overBudget refusal => cases h
        | halted halt => cases h
      | ok rolled' c =>
        rw [heval] at h
        cases h
        have hlog := Context.log_of_eval heval
        obtain ⟨total, log⟩ := rolled
        cases hlog
        refine ⟨e, c, rfl, heval, rfl, rfl, ?_, newline_not_mem_shown total e⟩
        intro hempty
        exact Expr.text_ne_nil (terms_ne_nil_of_read hblank hread) (String.ofList_inj.mp hempty)

/-- **Lines do not disturb each other.** As long as no roll stops, what is said aloud is a mark and,
for each line in order, its result on a line of its own, or nothing, and a mark again; and what is
complained about is a message for each line that is refused and not blank. A result is what a new
context with the limit gives on the roller state that the lines before have left, and its log is not
empty, since no line is read as nothing unless it is blank. The lines without a result, which are
the blank and the refused ones, leave the roller as it was; so if some of them are taken out, every
other line is met as before. -/
theorem lines_undisturbed {r : Roller σ} {limit : Nat} {source : σ} {lines : List String}
    (h : ∀ x ∈ session r limit lines source, x.reply ≠ .halt) :
    transcript r limit source (lines.map some) = shown (session r limit lines source) ∧
    (∀ x ∈ session r limit lines source,
      (x.answered = false ↔ Text.isBlank x.line.toList = true ∨ Refused limit x.line) ∧
      (x.answered = false → x.after = x.before) ∧
      ((∃ message, x.reply = .complaint message) ↔
        Text.isBlank x.line.toList = false ∧ Refused limit x.line) ∧
      ∀ rolled, x.reply = .result rolled →
        ∃ e c, Expr.read x.line = .ok e ∧
          (Context.new (some limit) x.before).eval r e = .ok rolled c ∧ x.after = c.source ∧
            rolled.log = e.description ∧ rolled.log ≠ "" ∧ '\n' ∉ rolled.shown.toList) ∧
    (∀ kept : List (Round σ), kept.Sublist (session r limit lines source) →
      kept.filter Round.answered = (session r limit lines source).filter Round.answered →
        session r limit (kept.map Round.line) source = kept ∧
          transcript r limit source ((kept.map Round.line).map some) = shown kept) ∧
    ∀ line, Text.isBlank line.toList = false → Expr.read line ≠ .ok .empty := by
  refine ⟨transcript_eq_shown h, fun x hx => ?_, fun kept hsub hanswered => ?_, ?_⟩
  · have hround := eq_round_of_mem_session hx
    have hhalt := h x hx
    rw [hround] at hhalt ⊢
    obtain ⟨hanswered, hafter⟩ := answered_eq_false_iff hhalt
    exact ⟨hanswered, hafter, exists_complaint_iff r limit x.line x.before,
      fun rolled => exists_eval_of_result⟩
  · have hsession := session_of_sublist r limit lines source kept h hsub hanswered
    refine ⟨hsession, ?_⟩
    have hkept : ∀ x ∈ session r limit (kept.map Round.line) source, x.reply ≠ .halt := by
      rw [hsession]
      exact fun x hx => h x (hsub.subset hx)
    rw [transcript_eq_shown hkept, hsession]
  · intro line hblank hread
    exact terms_ne_nil_of_read hblank hread rfl

/-- A roll, a no-break space, a roll over the limit, no notation, and a roll that goes on with the
faces where the first one stopped, on a count of its own; and the two rolls alone. -/
theorem lines_undisturbed_scripted :
    let r : Roller (List UInt32) := .ofDie Die.scripted
    (∀ x ∈ session r 2 ["2d6", "\u00a0", "3d6", "1d", "2d6-2"] [3, 4, 5, 6], x.reply ≠ .halt) ∧
      transcript r 2 [3, 4, 5, 6] [some "2d6", some "\u00a0", some "3d6", some "1d", some "2d6-2"] =
        ⟨"> 2d6 = 7\n> > > > 2d6-2 = 9\n> ",
          "Error: too many dice rolled: 3 requested, at most 2 allowed\n" ++
            "Error: \"1d\" is not a valid token\n", 0⟩ ∧
      transcript r 2 [3, 4, 5, 6] [some "2d6", some "2d6-2"] =
        ⟨"> 2d6 = 7\n> 2d6-2 = 9\n> ", "", 0⟩ := by
  intro r
  have h : ∀ x ∈ session r 2 ["2d6", "\u00a0", "3d6", "1d", "2d6-2"] [3, 4, 5, 6],
      x.reply ≠ .halt := by decide +kernel
  obtain ⟨hshown, -, hkept, -⟩ := lines_undisturbed h
  obtain ⟨-, hthinned⟩ := hkept
    ((session r 2 ["2d6", "\u00a0", "3d6", "1d", "2d6-2"] [3, 4, 5, 6]).filter Round.answered)
    List.filter_sublist (by simp)
  exact ⟨h, hshown.trans (by decide +kernel), hthinned.trans (by decide +kernel)⟩

end Tabletop.Prompt
