import LoopScript.Proofs.Lexical.Acceptance
import LoopScript.Proofs.Report.Message

/-! The listing of a text read back. Each line of it says where it ends: a string ends at its second
quotation mark, whatever stands in between, and no other lexeme is shown with a line break. So the
lines tell the tokens, and no lines look like the message of an error. -/
namespace LoopScript

theorem Kind.isAlpha_of_mem_name (kind : Kind) : ∀ c ∈ kind.name.toList, c.isAlpha = true := by
  cases kind <;> decide

theorem Kind.name_injective : Function.Injective Kind.name := by
  intro kind kind' h
  have hread := congrArg Kind.ofName? h
  rw [Kind.ofName?_name, Kind.ofName?_name] at hread
  exact Option.some.inj hread

namespace Token

variable {kind : Kind} {lexeme lexeme' : String}

theorem lexeme_of_newline (h : WellFormed ⟨.newline, lexeme⟩) : lexeme = "\n" := by
  have hentries : ∀ entry ∈ fixedLexemes, entry.2 = .newline → entry.1 = "\n" := by decide
  exact hentries _ (mem_of_fixedKind? h) rfl

theorem newline_notMem_lexeme (h : WellFormed ⟨kind, lexeme⟩) (hnewline : kind ≠ .newline)
    (hstring : kind ≠ .stringLiteral) : '\n' ∉ lexeme.toList := by
  have hentries : ∀ entry ∈ fixedLexemes, entry.2 ≠ .newline → '\n' ∉ entry.1.toList := by decide
  by_cases hnumber : kind = .number
  · subst hnumber
    exact fun hmem => absurd (h.2 _ hmem) (by decide)
  by_cases hword : kind = .identifier
  · subst hword
    exact fun hmem => absurd (isAlphanum_of_isWord h.1 _ hmem) (by decide)
  have hfixed := (wellFormed_iff_fixedKind? (by simp [hnumber, hstring, hword])).mp h
  exact hentries _ (mem_of_fixedKind? hfixed) hnewline

theorem shown_of_ne_newline (h : kind ≠ .newline) : shown ⟨kind, lexeme⟩ = lexeme := if_neg h

/-- What is shown of a lexeme has its end at a known place. -/
theorem shown_append_inj (h : WellFormed ⟨kind, lexeme⟩) (h' : WellFormed ⟨kind, lexeme'⟩)
    {rest rest' : List Char} (htext : (shown ⟨kind, lexeme⟩).toList ++ '\n' :: rest =
      (shown ⟨kind, lexeme'⟩).toList ++ '\n' :: rest') : lexeme = lexeme' ∧ rest = rest' := by
  by_cases hnewline : kind = .newline
  · subst hnewline
    rw [lexeme_of_newline h, lexeme_of_newline h'] at htext ⊢
    exact ⟨rfl, (List.cons.inj (List.append_cancel_left htext)).2⟩
  rw [shown_of_ne_newline hnewline, shown_of_ne_newline hnewline] at htext
  by_cases hstring : kind = .stringLiteral
  · -- What stands between the marks may look like the lines of a listing.
    subst hstring
    obtain ⟨body, hlexeme, hclosed⟩ := h
    obtain ⟨body', hlexeme', hclosed'⟩ := h'
    simp only at hlexeme hlexeme'
    rw [hlexeme, hlexeme'] at htext
    simp only [List.cons_append, List.append_assoc, List.nil_append, List.cons.injEq,
      true_and] at htext
    obtain ⟨rfl, hrest⟩ := append_inj_of_notMem hclosed hclosed' htext
    exact ⟨String.toList_inj.mp (hlexeme.trans hlexeme'.symm), (List.cons.inj hrest).2⟩
  · obtain ⟨hlexeme, hrest⟩ := append_inj_of_notMem (newline_notMem_lexeme h hnewline hstring)
      (newline_notMem_lexeme h' hnewline hstring) htext
    exact ⟨String.toList_inj.mp hlexeme, hrest⟩

theorem toList_line (t : Token) : t.line.toList =
    t.kind.name.toList ++ ' ' :: '-' :: ' ' :: (t.shown.toList ++ ['\n']) := by
  simp [line]

/-- A line is the line of one token only, also where more lines follow. -/
theorem line_append_inj {t t' : Token} (h : t.WellFormed) (h' : t'.WellFormed)
    {rest rest' : List Char} (htext : t.line.toList ++ rest = t'.line.toList ++ rest') :
    t = t' ∧ rest = rest' := by
  obtain ⟨kind, lexeme⟩ := t
  obtain ⟨kind', lexeme'⟩ := t'
  simp only [toList_line, List.append_assoc, List.cons_append, List.nil_append] at htext
  obtain ⟨hname, htext⟩ := append_inj_of_stop kind.isAlpha_of_mem_name kind'.isAlpha_of_mem_name
    (by simp) (by simp) htext
  obtain rfl := Kind.name_injective (String.toList_inj.mp hname)
  simp only [List.cons.injEq, true_and] at htext
  obtain ⟨rfl, hrest⟩ := shown_append_inj h h' htext
  exact ⟨rfl, hrest⟩

end Token

namespace Report

theorem toList_tokenLines_cons (t : Token) (more : List Token) :
    (tokenLines (t :: more)).toList = t.line.toList ++ (tokenLines more).toList := by
  simp [tokenLines]

theorem tokenLines_cons_ne_empty (t : Token) (more : List Token) : tokenLines (t :: more) ≠ "" := by
  simp [tokenLines, Token.line]

theorem tokenLines_inj {tokens tokens' : List Token} (h : ∀ t ∈ tokens, t.WellFormed)
    (h' : ∀ t ∈ tokens', t.WellFormed) (htext : tokenLines tokens = tokenLines tokens') :
    tokens = tokens' := by
  induction tokens generalizing tokens' with
  | nil =>
    cases tokens' with
    | nil => rfl
    | cons t' more' => exact absurd htext.symm (tokenLines_cons_ne_empty t' more')
  | cons t more ih =>
    cases tokens' with
    | nil => exact absurd htext (tokenLines_cons_ne_empty t more)
    | cons t' more' =>
      obtain ⟨ht, hmore⟩ := List.forall_mem_cons.mp h
      obtain ⟨ht', hmore'⟩ := List.forall_mem_cons.mp h'
      have hchars := congrArg String.toList htext
      rw [toList_tokenLines_cons, toList_tokenLines_cons] at hchars
      obtain ⟨rfl, hrest⟩ := Token.line_append_inj ht ht' hchars
      rw [ih hmore hmore' (String.toList_inj.mp hrest)]

theorem exists_words_of_reason (fault : LexicalFault) :
    ∃ word letter more, fault.reason.toList = word ++ ' ' :: letter :: more ∧
      (∀ c ∈ word, c.isAlpha = true) ∧ letter ≠ '-' := by
  cases fault with
  | strayCharacter => exact ⟨"Invalid".toList, 'v', "alue reached".toList, by decide⟩
  | unknownOperator => exact ⟨"Unknown".toList, 'o', "perator".toList, by decide⟩
  | invalidWord => exact ⟨"Invalid".toList, 'i', "dentifier".toList, by decide⟩
  | openString => exact ⟨"Unterminated".toList, 's', "tring literal".toList, by decide⟩

/-- Behind its first word a line has a dash, and a message has another word. -/
theorem tokenLines_ne_message (tokens : List Token) (error : LexicalError) :
    tokenLines tokens ≠ error.message ++ "\n" := by
  intro h
  cases tokens with
  | nil => simp [tokenLines] at h
  | cons t more =>
    obtain ⟨word, letter, words, hreason, hword, hletter⟩ := exists_words_of_reason error.fault
    have hchars := congrArg String.toList h
    rw [toList_tokenLines_cons, Token.toList_line, String.toList_append, LexicalError.message_eq,
      LexicalError.toList_messageBy, hreason] at hchars
    simp only [List.append_assoc, List.cons_append] at hchars
    obtain ⟨-, hrest⟩ := append_inj_of_stop t.kind.isAlpha_of_mem_name hword
      (by simp) (by simp) hchars
    simp only [List.cons.injEq, true_and] at hrest
    exact hletter hrest.1.symm

def body : Except LexicalError (List Token) → String
  | .ok tokens => tokenLines tokens
  | .error error => error.message ++ "\n"

theorem listing_text_eq (file : String) (outcome : Except LexicalError (List Token)) :
    listing file (outcome.mapError .lexical) .text =
      frame ++ "\n" ++ file ++ "\n" ++ frame ++ "\n\n" ++ body outcome ++ frame ++ "\n" := by
  cases outcome <;> rfl

theorem body_inj {outcome outcome' : Except LexicalError (List Token)}
    (h : ∀ tokens, outcome = .ok tokens → ∀ t ∈ tokens, t.WellFormed)
    (h' : ∀ tokens, outcome' = .ok tokens → ∀ t ∈ tokens, t.WellFormed)
    (htext : body outcome = body outcome') : outcome = outcome' := by
  match outcome, outcome', h, h', htext with
  | .ok tokens, .ok tokens', h, h', htext =>
    rw [tokenLines_inj (h tokens rfl) (h' tokens' rfl) htext]
  | .ok tokens, .error error, _, _, htext => exact absurd htext (tokenLines_ne_message tokens error)
  | .error error, .ok tokens, _, _, htext =>
    exact absurd htext.symm (tokenLines_ne_message tokens error)
  | .error error, .error error', _, _, htext =>
    have hmessage : error.message = error'.message := (String.append_left_inj _).mp htext
    rw [LexicalError.message_injective hmessage]

/-- The listing of a text is that of its tokens, or its error, and of no others. -/
theorem listing_text_eq_iff (file source source' : String) :
    listing file ((tokenize source).mapError .lexical) .text =
        listing file ((tokenize source').mapError .lexical) .text ↔
      tokenize source = tokenize source' := by
  have hwf (source : String) (tokens : List Token) (h : tokenize source = .ok tokens) :
      ∀ t ∈ tokens, t.WellFormed :=
    wellFormed_of_spells ((tokenizeWith_eq_ok_iff (.refl _) source tokens).mp h)
  rw [listing_text_eq, listing_text_eq, String.append_left_inj, String.append_left_inj,
    String.append_right_inj]
  constructor
  · exact body_inj (hwf source) (hwf source')
  · exact congrArg body

end Report

end LoopScript
