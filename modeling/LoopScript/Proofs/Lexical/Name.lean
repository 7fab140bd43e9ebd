import LoopScript.Proofs.Lexical.Acceptance

/-! The names of variables as source text. A word is gathered from letters and digits, and a name can
have two marks besides. So a name without a mark is one token, and the reading of any other name
stops at its first mark. -/
namespace LoopScript

open Text

/-- A lexeme alone is one token, of the kinds that it is well-formed for. -/
theorem tokenize_lexeme_iff (t : Token) : tokenize t.lexeme = .ok [t] ↔ t.WellFormed := by
  rw [tokenize, tokenizeWith_eq_ok_iff (.refl _)]
  constructor
  · intro h
    obtain ⟨_, _, _, _, hwf, _⟩ := h
    exact hwf
  · intro hwf
    have hends : t.kind.EndsBefore none := by
      cases t.kind <;> simp [Kind.EndsBefore]
    have hspells : Spells [t] (t.lexeme.toList ++ []) :=
      spells_of_wellFormed hwf hends (spells_nil.mpr rfl)
    rwa [List.append_nil] at hspells

theorem State.opening?_of_alpha {letters : Letters} (hl : letters.AgreeOnAscii .unicode) {c : Char}
    (hc : c.isAlpha = true) : opening? letters c = some word := by
  have hbegins : letters.begins c = true := by
    rw [begins_of_isAscii hl (isAscii_of_isAlpha hc), hc]
  simp only [opening?, isDigit_of_isAlpha hc, hbegins, Bool.false_eq_true, if_false, if_true]

theorem State.opening?_of_mark {letters : Letters} (hl : letters.AgreeOnAscii .unicode)
    {mark : Char} (hmark : mark ∈ nameMarks) : opening? letters mark = none := by
  have hsigns : ∀ mark ∈ nameMarks, isAscii mark = true ∧ mark.isAlpha = false ∧
      mark.isDigit = false ∧ mark ≠ '"' ∧ mark ∉ arithmeticSigns ++ equalsSigns := by decide
  obtain ⟨hascii, halpha, hdigit, hquote, hsign⟩ := hsigns mark hmark
  have hbegins : letters.begins mark = false := by rw [begins_of_isAscii hl hascii, halpha]
  simp only [equalsSigns, List.mem_append, List.mem_cons, not_or] at hsign
  simp [opening?, hdigit, hbegins, hquote, hsign]

namespace Scanner

variable {letters : Letters} {s : Scanner} {next : Option Char}

theorem feed_of_proceed {state : State} {pending : String}
    (h : s.state.step letters s.pending next = Step.proceed state pending) :
    s.feed letters next = .ok ⟨state, pending, s.tokens⟩ := by
  have hstep : s.step letters next = .ok (.consumed, ⟨state, pending, s.tokens ++ #[]⟩) := by
    unfold step
    rw [h]
    rfl
  simp only [feed, hstep, Array.append_empty]

theorem feed_of_error {error : LexicalError} {pending : String}
    (h : s.state.step letters s.pending next = (.error error, pending)) :
    s.feed letters next = .error error := by
  have hstep : s.step letters next = .error error := by
    unfold step
    rw [h]
  simp only [feed, hstep]

theorem feed_first (hl : letters.AgreeOnAscii .unicode) {first : Char}
    (hfirst : first.isAlpha = true) : (fresh #[]).feed letters (some first) =
      .ok ⟨.word, String.singleton first, #[]⟩ := by
  have hblank : isBlank first = false := by
    have hnot := not_mem_blanks_of_isAlphanum (isAlphanum_of_isAlpha hfirst)
    rw [Bool.eq_false_iff]
    exact fun hblank => hnot (List.mem_cons_of_mem _ (isBlank_iff.mp hblank))
  apply feed_of_proceed
  change State.readBetween letters "" (some first) = Step.proceed .word ("".push first)
  simp only [State.readBetween, hblank, State.opening?_of_alpha hl hfirst, Bool.false_eq_true,
    if_false]

theorem finish_word {more : List Char} (hmore : ∀ c ∈ more, letters.continues c = true)
    (pending : String) (tokens : Array Token) (rest : List Char) :
    finish letters ⟨.word, pending, tokens⟩ (more ++ rest) =
      finish letters ⟨.word, pending ++ String.ofList more, tokens⟩ rest := by
  induction more generalizing pending with
  | nil => simp
  | cons c more ih =>
    obtain ⟨hc, hmore⟩ := List.forall_mem_cons.mp hmore
    have hfeed : feed letters ⟨.word, pending, tokens⟩ (some c) =
        .ok ⟨.word, pending.push c, tokens⟩ := by
      apply feed_of_proceed
      simp only [State.step, State.readWord, Option.filter_some, hc, if_true]
    have hpush : pending.push c ++ String.ofList more = pending ++ String.ofList (c :: more) := by
      apply String.toList_inj.mp
      simp
    rw [List.cons_append, finish_cons, hfeed, ← hpush]
    exact ih hmore _

theorem feed_mark (hl : letters.AgreeOnAscii .unicode) {mark : Char} (hmark : mark ∈ nameMarks)
    (hs : s.state = .word ∨ s = fresh #[]) :
    s.feed letters (some mark) = .error ⟨.strayCharacter, some mark, s.pending⟩ := by
  obtain ⟨hascii, halphanum, hblank, hapart, hpunctuation⟩ := nameMarks_apart mark hmark
  have hcontinues : letters.continues mark = false := by
    rw [continues_of_isAscii hl hascii, halphanum]
  have hboundary : State.atBoundary (some mark) = false := by
    rw [Bool.eq_false_iff, ne_eq, atBoundary_iff]
    exact fun h => hapart (h mark rfl)
  have hstep : s.state.step letters s.pending (some mark) =
      Step.fail .strayCharacter (some mark) s.pending := by
    rcases hs with hword | hfresh
    · simp only [hword, State.step, State.readWord, Option.filter_some, hcontinues, hboundary,
        Bool.false_eq_true, if_false]
    · simp only [hfresh, fresh, State.step, State.readBetween, hblank,
        State.opening?_of_mark hl hmark, hpunctuation, Step.fail, Bool.false_eq_true, if_false]
  exact feed_of_error hstep

end Scanner

/-- The reading of a name stops at its first mark, with what stands in front of it in hand. -/
theorem tokenize_of_mark {front rest : List Char} {mark : Char}
    (hshape : hasNameShape (front ++ mark :: rest) = true) (hfront : ∀ c ∈ front, c ∉ nameMarks)
    (hmark : mark ∈ nameMarks) : tokenize (String.ofList (front ++ mark :: rest)) =
      .error ⟨.strayCharacter, some mark, String.ofList front⟩ := by
  have hl := Letters.AgreeOnAscii.refl .unicode
  rw [tokenize, tokenizeWith_eq_finish, String.toList_ofList]
  cases front with
  | nil =>
    rw [List.nil_append, Scanner.finish_cons, Scanner.feed_mark hl hmark (.inr rfl)]
    rfl
  | cons first more =>
    have hword : IsWord (first :: more) := by
      refine isWord_iff_hasNameShape.mpr ⟨?_, hfront⟩
      simp only [hasNameShape, List.cons_append, List.all_append, Bool.and_eq_true] at hshape ⊢
      exact ⟨hshape.1, hshape.2.1⟩
    have hmore : ∀ c ∈ more, isAlphanumeric c = true := by
      intro c hc
      have hcontinues := continues_of_isAscii hl (isAscii_of_isAlphanum (hword.2 c hc))
      rw [← hword.2 c hc]
      exact hcontinues
    have hpending :
        String.singleton first ++ String.ofList more = String.ofList (first :: more) := by
      apply String.toList_inj.mp
      simp
    rw [List.cons_append, Scanner.finish_cons, Scanner.feed_first hl hword.1]
    simp only [Except.bind]
    rw [Scanner.finish_word hmore, hpending, Scanner.finish_cons,
      Scanner.feed_mark hl hmark (.inl rfl)]
    rfl

/-- A name without a mark is one token, and no other text is a name and one token. -/
theorem tokenize_name (name : String) :
    (tokenize name = .ok [⟨.identifier, name⟩] ↔
        isVariable name = true ∧ ∀ c ∈ name.toList, c ∉ nameMarks) ∧
      ∀ front mark rest, isVariable name = true → name.toList = front ++ mark :: rest →
        (∀ c ∈ front, c ∉ nameMarks) → mark ∈ nameMarks →
        tokenize name = .error ⟨.strayCharacter, some mark, String.ofList front⟩ := by
  constructor
  · calc tokenize name = .ok [⟨.identifier, name⟩]
        ↔ IsWord name.toList ∧ isReserved name = false := tokenize_lexeme_iff ⟨.identifier, name⟩
      _ ↔ isVariable name = true ∧ ∀ c ∈ name.toList, c ∉ nameMarks := by
        rw [isWord_iff_hasNameShape]
        simp only [isVariable, Bool.and_eq_true, Bool.not_eq_true']
        constructor
        · intro h
          exact ⟨⟨h.2, h.1.1⟩, h.1.2⟩
        · intro h
          exact ⟨⟨h.1.2, h.2⟩, h.1.1⟩
  · intro front mark rest hname htext hfront hmark
    have hshape : hasNameShape name.toList = true := by
      simp only [isVariable, Bool.and_eq_true] at hname
      exact hname.2
    rw [htext] at hshape
    rw [← String.ofList_toList (s := name), htext]
    exact tokenize_of_mark hshape hfront hmark

/-- The second mark is not reached. -/
theorem tokenize_name_second_mark :
    isVariable "a$b_" = true ∧ "a$b_".toList = ['a'] ++ '$' :: ['b', '_'] ∧
      (∀ c ∈ ['a'], c ∉ nameMarks) ∧ '$' ∈ nameMarks ∧
      tokenize "a$b_" = .error ⟨.strayCharacter, some '$', "a"⟩ := by
  have hname : isVariable "a$b_" = true := by decide
  have hfront : ∀ c ∈ ['a'], c ∉ nameMarks := by decide
  have hmark : '$' ∈ nameMarks := by decide
  exact ⟨hname, rfl, hfront, hmark,
    (tokenize_name "a$b_").2 ['a'] '$' ['b', '_'] hname rfl hfront hmark⟩

/-- A name can begin with a mark, and the reading stops at once. -/
theorem not_tokenize_private : isVariable "_private" = true ∧
    ¬ (tokenize "_private" = .ok [⟨.identifier, "_private"⟩] ↔ isVariable "_private" = true) := by
  have hname : isVariable "_private" = true := by decide
  have herror : tokenize "_private" = .error ⟨.strayCharacter, some '_', ""⟩ := by decide
  refine ⟨hname, fun h => ?_⟩
  rw [h.mpr hname] at herror
  cases herror

end LoopScript
