import LoopScript.Proofs.Grammar.LineBreak
import LoopScript.Proofs.Lexical.LineEnding
import LoopScript.Proofs.Lexical.Trailing
import LoopScript.Validation

/-! What the layout of a text has to do with the verdict on it. -/
namespace LoopScript

/-- The same error of the grammar, or the same fault in the text. -/
inductive Failure.SameCause : Failure → Failure → Prop
  | lexical {e e'} (same : e.SameFault e') : SameCause (.lexical e) (.lexical e')
  | grammar {e} : SameCause (.grammar e) (.grammar e)

variable {source source' : String}

theorem judge_eq (verdict : List Kind → Except GrammarError Unit) (source : String) :
    judge verdict source = ((tokenize source).mapError Failure.lexical).bind fun tokens =>
      ((verdict (kindsOf tokens)).mapError Failure.grammar).bind fun _ => .ok tokens := rfl

theorem judge_of_alike (verdict : List Kind → Except GrammarError Unit)
    (h : Alike LexicalError.SameFault SameKinds (tokenize source) (tokenize source')) :
    Alike Failure.SameCause SameKinds (judge verdict source) (judge verdict source') := by
  rw [judge_eq, judge_eq]
  refine (h.mapError fun _ _ => .lexical).bind fun tokens tokens' same => ?_
  have hkinds : kindsOf tokens = kindsOf tokens' := same
  rw [← hkinds]
  cases verdict (kindsOf tokens) with
  | error error => exact .error .grammar
  | ok => exact .ok same

/-- How lines end changes neither the kinds of the tokens nor what is at fault with a text, and so
no verdict of the grammar. -/
theorem validateWhole_plainBreaks (source : String) :
    Alike LexicalError.SameFault SameKinds (tokenize source) (tokenize (plainBreaks source)) ∧
      ∀ rule : Rule, Alike Failure.SameCause SameKinds (rule.validateWhole source)
        (rule.validateWhole (plainBreaks source)) := by
  have htokens := tokenize_plainChars source
  exact ⟨htokens, fun rule => judge_of_alike rule.checkWhole htokens⟩

/-! ### What stands behind a text -/

theorem judge_eq_ok_iff {verdict : List Kind → Except GrammarError Unit} {tokens : List Token} :
    judge verdict source = .ok tokens ↔
      tokenize source = .ok tokens ∧ verdict (kindsOf tokens) = .ok () := by
  rw [judge_eq]
  cases tokenize source with
  | error error => simp [Except.mapError, Except.bind]
  | ok tokens' =>
    simp only [Except.mapError, Except.bind, Except.ok.injEq]
    constructor
    · intro h
      cases hverdict : verdict (kindsOf tokens') with
      | error error => simp [hverdict] at h
      | ok =>
        obtain rfl : tokens' = tokens := by simpa [hverdict] using h
        exact ⟨rfl, hverdict⟩
    · intro h
      obtain ⟨rfl, hverdict⟩ := h
      rw [hverdict]

theorem kindsOf_append_lineBreaks (tokens : List Token) (text : List Char) :
    kindsOf (tokens ++ lineBreaks text) =
      kindsOf tokens ++ List.replicate (text.count '\n') .newline := by
  simp [kindsOf, lineBreaks, lineBreak]

/-- Blanks and line breaks behind a text neither spoil it nor make it good. They add a token for
each line break, and nothing else. -/
theorem validateWhole_append_blanks (rule : Rule) {source behind : String}
    (h : ∀ c ∈ behind.toList, c ∈ ['\n', ' ', '\t', '\r']) :
    ((∃ tokens, rule.validateWhole (source ++ behind) = .ok tokens) ↔
        ∃ tokens, rule.validateWhole source = .ok tokens) ∧
      ∀ tokens, rule.validateWhole source = .ok tokens →
        rule.validateWhole (source ++ behind) =
          .ok (tokens ++ List.replicate (behind.toList.count '\n') ⟨.newline, "\n"⟩) := by
  have hbehind : ∀ c ∈ behind.toList, c ∈ '\n' :: blanks := h
  have hkeeps (tokens : List Token) (hs : rule.validateWhole source = .ok tokens) :
      rule.validateWhole (source ++ behind) = .ok (tokens ++ lineBreaks behind.toList) := by
    obtain ⟨htokens, hverdict⟩ := judge_eq_ok_iff.mp hs
    refine judge_eq_ok_iff.mpr ⟨tokenize_append_lineBreaks hbehind htokens, ?_⟩
    rw [kindsOf_append_lineBreaks]
    exact (Rule.checkWhole_append_iff _).mpr hverdict
  refine ⟨⟨fun hs => ?_, fun hs => ?_⟩, hkeeps⟩
  · obtain ⟨tokens, hs⟩ := hs
    obtain ⟨htokens, hverdict⟩ := judge_eq_ok_iff.mp hs
    obtain ⟨front, hfront, rfl⟩ := exists_of_tokenize_append hbehind htokens
    rw [kindsOf_append_lineBreaks] at hverdict
    exact ⟨front, judge_eq_ok_iff.mpr ⟨hfront, (Rule.checkWhole_append_iff _).mp hverdict⟩⟩
  · obtain ⟨tokens, hs⟩ := hs
    exact ⟨_, hkeeps tokens hs⟩

/-- The first line break goes with the semicolon, and the second is left behind the match. -/
theorem validateWhole_append_blanks_semicolon :
    (∀ c ∈ " \r\n\t\n".toList, c ∈ ['\n', ' ', '\t', '\r']) ∧
      Rule.assignmentStatement.validateWhole "x=1;" =
        .ok [⟨.identifier, "x"⟩, ⟨.assign, "="⟩, ⟨.number, "1"⟩, ⟨.semicolon, ";"⟩] ∧
      Rule.assignmentStatement.validateWhole ("x=1;" ++ " \r\n\t\n") =
        .ok ([⟨.identifier, "x"⟩, ⟨.assign, "="⟩, ⟨.number, "1"⟩, ⟨.semicolon, ";"⟩] ++
          [⟨.newline, "\n"⟩, ⟨.newline, "\n"⟩]) := by
  have hblanks : ∀ c ∈ " \r\n\t\n".toList, c ∈ ['\n', ' ', '\t', '\r'] := by decide
  have hsource : Rule.assignmentStatement.validateWhole "x=1;" =
      .ok [⟨.identifier, "x"⟩, ⟨.assign, "="⟩, ⟨.number, "1"⟩, ⟨.semicolon, ";"⟩] := rfl
  exact ⟨hblanks, hsource, (validateWhole_append_blanks _ hblanks).2 _ hsource⟩

end LoopScript
