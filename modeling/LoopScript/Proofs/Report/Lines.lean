import Mathlib.Algebra.GroupWithZero.Nat
import Mathlib.Data.List.Basic
import LoopScript.Proofs.Report.Listing

/-! The lines of a listing. A line break that is a token is shown as an escape, but one inside a
string is shown as it is, and breaks the line of its token. So a listing has one line for each token
if no string in it has a line break, and only then. -/
namespace LoopScript

namespace Report

/-- The lines of a text. Each is ended by a line break, and what stands behind the last one is no
line. -/
def lines (text : String) : List String :=
  (text.toList.splitOn '\n').dropLast.map String.ofList

theorem length_splitOn_newline (text : List Char) :
    (text.splitOn '\n').length = text.count '\n' + 1 := by
  induction text with
  | nil => rfl
  | cons c text ih =>
    rw [List.splitOn_cons_eq_if_modifyHead, List.count_cons]
    split
    next => rw [List.length_cons, ih]
    next => rw [List.length_modifyHead, ih, Nat.add_zero]

theorem length_lines (text : String) : (lines text).length = text.toList.count '\n' := by
  rw [lines, List.length_map, List.length_dropLast, length_splitOn_newline, Nat.add_sub_cancel]

theorem lines_newline (front : String) :
    lines (front ++ "\n") = (front.toList.splitOn '\n').map String.ofList := by
  have hchars : (front ++ "\n").toList = front.toList ++ '\n' :: [] := String.toList_append
  rw [lines, hchars, List.splitOn_append_cons_self, List.splitOn_nil, List.dropLast_concat]

theorem lines_of_newline_notMem {front : String} (h : '\n' ∉ front.toList) :
    lines (front ++ "\n") = [front] := by
  rw [lines_newline, List.splitOn_eq_singleton h, List.map_singleton, String.ofList_toList]

theorem lines_append_newline (front rest : String) :
    lines (front ++ "\n" ++ rest) = lines (front ++ "\n") ++ lines rest := by
  have hchars : (front ++ "\n" ++ rest).toList = front.toList ++ '\n' :: rest.toList := by simp
  rw [lines_newline, lines, lines, hchars, List.splitOn_append_cons_self,
    List.dropLast_append_of_ne_nil (List.splitOn_ne_nil _ _), List.map_append]

end Report

namespace Token

def entry (t : Token) : String := t.kind.name ++ " - " ++ t.shown

/-- The line breaks that a listing shows as they are. Only strings have any. -/
def openBreaks (t : Token) : Nat :=
  if t.kind = .stringLiteral then t.lexeme.toList.count '\n' else 0

theorem openBreaks_eq_zero_iff (t : Token) :
    t.openBreaks = 0 ↔ (t.kind = .stringLiteral → '\n' ∉ t.lexeme.toList) := by
  unfold openBreaks
  split
  next hstring => simp [hstring, List.count_eq_zero]
  next hstring => simp [hstring]

theorem count_newline_shown {t : Token} (h : t.WellFormed) :
    t.shown.toList.count '\n' = t.openBreaks := by
  obtain ⟨kind, lexeme⟩ := t
  by_cases hstring : kind = .stringLiteral
  · subst hstring
    rfl
  have hnone : openBreaks ⟨kind, lexeme⟩ = 0 := if_neg hstring
  rw [hnone, List.count_eq_zero]
  by_cases hnewline : kind = .newline
  · subst hnewline
    change '\n' ∉ "\\n".toList
    decide
  · rw [shown_of_ne_newline hnewline]
    exact newline_notMem_lexeme h hnewline hstring

theorem count_newline_entry {t : Token} (h : t.WellFormed) :
    t.entry.toList.count '\n' = t.openBreaks := by
  have hname : t.kind.name.toList.count '\n' = 0 := by
    rw [List.count_eq_zero]
    exact fun hmem => absurd (t.kind.isAlpha_of_mem_name _ hmem) (by decide)
  have hdash : " - ".toList.count '\n' = 0 := rfl
  rw [entry, String.toList_append, String.toList_append, List.count_append, List.count_append,
    hname, hdash, count_newline_shown h, Nat.zero_add]

/-- A token has one line, and one more for each line break of a string. -/
theorem length_lines_line {t : Token} (h : t.WellFormed) :
    (Report.lines t.line).length = t.openBreaks + 1 := by
  have hline : t.line.toList = t.entry.toList ++ ['\n'] := String.toList_append
  rw [Report.length_lines, hline, List.count_append, count_newline_entry h,
    List.count_singleton_self]

theorem lines_line_of_openBreaks {t : Token} (h : t.WellFormed) (hnone : t.openBreaks = 0) :
    Report.lines t.line = [t.entry] := by
  have hentry := count_newline_entry h
  rw [hnone, List.count_eq_zero] at hentry
  exact Report.lines_of_newline_notMem hentry

end Token

namespace Report

variable {tokens : List Token}

theorem lines_tokenLines (tokens : List Token) :
    lines (tokenLines tokens) = tokens.flatMap fun t => lines t.line := by
  induction tokens with
  | nil => rfl
  | cons t more ih =>
    have hcons : tokenLines (t :: more) = t.line ++ tokenLines more := by
      rw [← String.toList_inj, toList_tokenLines_cons, String.toList_append]
    have hlines : lines (t.line ++ tokenLines more) = lines t.line ++ lines (tokenLines more) :=
      lines_append_newline t.entry (tokenLines more)
    rw [hcons, hlines, ih, List.flatMap_cons]

theorem count_newline_tokenLines (h : ∀ t ∈ tokens, t.WellFormed) :
    (tokenLines tokens).toList.count '\n' = tokens.length + (tokens.map Token.openBreaks).sum := by
  rw [← length_lines, lines_tokenLines]
  induction tokens with
  | nil => rfl
  | cons t more ih =>
    obtain ⟨ht, hmore⟩ := List.forall_mem_cons.mp h
    have htoken := Token.length_lines_line ht
    have htokens := ih hmore
    rw [List.flatMap_cons, List.length_append, htoken, htokens, List.map_cons, List.sum_cons,
      List.length_cons]
    omega

/-- One line for each token, which says what the token is. -/
structure IsByLine (text : String) (tokens : List Token) : Prop where
  count : text.toList.count '\n' = tokens.length
  line : ∀ (i : Nat) (t : Token), tokens[i]? = some t → (lines text)[i]? = some t.entry

theorem isByLine_tokenLines_iff (h : ∀ t ∈ tokens, t.WellFormed) :
    IsByLine (tokenLines tokens) tokens ↔ ∀ t ∈ tokens, t.openBreaks = 0 := by
  have hcount := count_newline_tokenLines h
  have hsum : (tokens.map Token.openBreaks).sum = 0 ↔ ∀ t ∈ tokens, t.openBreaks = 0 := by
    rw [List.sum_eq_zero_iff_forall_eq_nat, List.forall_mem_map]
  constructor
  · intro hlines
    rw [hlines.count] at hcount
    exact hsum.mp (by omega)
  · intro hnone
    have hlines : lines (tokenLines tokens) = tokens.map Token.entry := by
      rw [lines_tokenLines, List.map_eq_flatMap]
      exact List.flatMap_congr fun t ht => Token.lines_line_of_openBreaks (h t ht) (hnone t ht)
    refine ⟨by rw [hcount, hsum.mpr hnone, Nat.add_zero], fun i t ht => ?_⟩
    rw [hlines, List.getElem?_map, ht]
    rfl

/-- The lines of a listing are those of its tokens in order. A token has one line, a string one more
for each line break in it, and so all tokens have one line when no string has a line break. -/
theorem lines_of_tokenize {source : String} (h : tokenize source = .ok tokens) :
    (IsByLine (tokenLines tokens) tokens ↔
        ∀ t ∈ tokens, t.kind = .stringLiteral → '\n' ∉ t.lexeme.toList) ∧
      lines (tokenLines tokens) = tokens.flatMap (fun t => lines t.line) ∧
      (∀ t ∈ tokens, (lines t.line).length = t.openBreaks + 1) ∧
      (tokenLines tokens).toList.count '\n' =
        tokens.length + (tokens.map Token.openBreaks).sum := by
  have hwf : ∀ t ∈ tokens, t.WellFormed :=
    wellFormed_of_spells ((tokenizeWith_eq_ok_iff (.refl _) source tokens).mp h)
  refine ⟨?_, lines_tokenLines tokens, fun t ht => Token.length_lines_line (hwf t ht),
    count_newline_tokenLines hwf⟩
  rw [isByLine_tokenLines_iff hwf]
  simp only [Token.openBreaks_eq_zero_iff]

/-- A line break behind a string, and one inside it. -/
theorem lines_of_tokenize_string :
    let tokens : List Token := [⟨.stringLiteral, "\"a\nb\""⟩, ⟨.newline, "\n"⟩]
    tokenize "\"a\nb\"\n" = .ok tokens ∧
      (IsByLine (tokenLines tokens) tokens ↔
        ∀ t ∈ tokens, t.kind = .stringLiteral → '\n' ∉ t.lexeme.toList) ∧
      lines (tokenLines tokens) = tokens.flatMap (fun t => lines t.line) ∧
      (∀ t ∈ tokens, (lines t.line).length = t.openBreaks + 1) ∧
      (tokenLines tokens).toList.count '\n' =
        tokens.length + (tokens.map Token.openBreaks).sum := by
  intro tokens
  have h : tokenize "\"a\nb\"\n" = .ok tokens := by decide +kernel
  exact ⟨h, lines_of_tokenize h⟩

/-- A string with a line break is a token with two lines. -/
theorem not_isByLine_string : tokenize "\"a\nb\"" = .ok [⟨.stringLiteral, "\"a\nb\""⟩] ∧
    ¬ ∀ source tokens, tokenize source = .ok tokens → IsByLine (tokenLines tokens) tokens := by
  have h : tokenize "\"a\nb\"" = .ok [⟨.stringLiteral, "\"a\nb\""⟩] := by decide
  refine ⟨h, fun hall => ?_⟩
  have hcount := (hall _ _ h).count
  exact absurd hcount (by decide)

end Report

end LoopScript
