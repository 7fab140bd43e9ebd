import LoopScript.Proofs.Lexical.FirstToken
import LoopScript.Lexical.State

/-! The text in hand in each state of the tokenizer, and the kinds of token that it can be. -/
namespace LoopScript

open Text

/-- The comparison signs and what they can begin with. -/
def comparisonTexts : List (List Char) :=
  [['>'], ['<'], ['!'], ['=', '='], ['=', '=', '='], ['!', '='], ['!', '=', '='], ['>', '='],
   ['<', '=']]

/-- What the pending text can be in a state. -/
def State.Holds (letters : Letters) (pending : List Char) : State → Prop
  | between | ended => pending = []
  | number => pending ≠ [] ∧ ∀ c ∈ pending, c.isDigit = true
  | word => ∃ first more, pending = first :: more ∧ letters.begins first = true ∧
      ∀ c ∈ more, letters.continues c = true
  | arithmetic => ∃ sign ∈ arithmeticSigns, pending = [sign]
  | string => ∃ body, pending = '"' :: body ∧ '"' ∉ body
  | equals => pending = ['=']
  | comparison => pending ∈ comparisonTexts

variable {letters : Letters} {pending : String} {kind : Kind}

theorem wellFormed_of_fixedKind? (h : fixedKind? pending = some kind) :
    Token.WellFormed ⟨kind, pending⟩ := by
  have hkinds : ∀ entry ∈ fixedLexemes,
      entry.2 ∉ [Kind.number, Kind.stringLiteral, Kind.identifier] := by decide
  exact (wellFormed_iff_fixedKind? (hkinds _ (mem_of_fixedKind? h))).mpr h

/-! ### Numbers -/

theorem wellFormed_number_iff (h : State.number.Holds letters pending.toList) :
    Token.WellFormed ⟨kind, pending⟩ ↔ kind = .number := by
  constructor
  · intro hwf
    obtain ⟨hne, hdigits⟩ := h
    obtain ⟨first, more, htext⟩ := List.exists_cons_of_ne_nil hne
    have hfirst := hdigits first (htext ▸ List.mem_cons_self ..)
    cases hwf.form with
    | number => rfl
    | string text =>
      rw [text] at htext
      cases htext
      exact absurd hfirst (by decide)
    | word text hletters =>
      rw [text] at htext
      cases htext
      rw [isDigit_of_isAlpha hletters.1] at hfirst
      cases hfirst
    | comparison text sign =>
      rw [text] at htext
      cases htext
      rw [(signs_ascii _ (List.mem_append_left _ sign)).2.2.1] at hfirst
      cases hfirst
    | lone text sign =>
      rw [text] at htext
      cases htext
      rw [(signs_ascii _ (List.mem_append_right _ sign)).2.2.1] at hfirst
      cases hfirst
  · intro hkind
    rw [hkind]
    exact h

/-! ### Words and names -/

/-- What a name can have and no word is gathered over. -/
def nameMarks : List Char := ['_', '$']

theorem nameMarks_apart : ∀ c ∈ nameMarks, isAscii c = true ∧ c.isAlphanum = false ∧
    isBlank c = false ∧ c ∉ delimiters ∧ punctuationKind? c = none := by decide

theorem beginsName_iff {c : Char} : beginsName c = true ↔ c.isAlpha = true ∨ c ∈ nameMarks := by
  simp [beginsName, nameMarks, or_assoc]

theorem continuesName_iff {c : Char} : (beginsName c || c.isDigit) = true ↔
    c.isAlphanum = true ∨ c ∈ nameMarks := by
  rw [Bool.or_eq_true, beginsName_iff, Char.isAlphanum, Bool.or_eq_true, or_right_comm]

theorem isWord_iff_hasNameShape {text : List Char} :
    IsWord text ↔ hasNameShape text = true ∧ ∀ c ∈ text, c ∉ nameMarks := by
  have hunmarked {c : Char} (hc : c.isAlphanum = true) : c ∉ nameMarks := by
    intro hmark
    rw [(nameMarks_apart c hmark).2.1] at hc
    cases hc
  cases text with
  | nil => simp [IsWord, hasNameShape]
  | cons first more =>
    simp only [IsWord, hasNameShape, Bool.and_eq_true, List.all_eq_true, beginsName_iff,
      continuesName_iff, List.forall_mem_cons]
    constructor
    · intro h
      obtain ⟨hfirst, hmore⟩ := h
      have hfirst' : first.isAlphanum = true := isAlphanum_of_isAlpha hfirst
      exact ⟨⟨.inl hfirst, fun c hc => .inl (hmore c hc)⟩, hunmarked hfirst',
        fun c hc => hunmarked (hmore c hc)⟩
    · intro h
      obtain ⟨⟨hfirst, hmore⟩, hnot, hnots⟩ := h
      exact ⟨hfirst.resolve_right hnot, fun c hc => (hmore c hc).resolve_right (hnots c hc)⟩

theorem notMem_nameMarks_of_holds (hl : letters.AgreeOnAscii .unicode)
    (h : State.word.Holds letters pending.toList) : ∀ c ∈ pending.toList, c ∉ nameMarks := by
  obtain ⟨first, more, htext, hfirst, hmore⟩ := h
  rw [htext]
  refine List.forall_mem_cons.mpr ⟨fun hmark => ?_, fun c hc hmark => ?_⟩
  · obtain ⟨hascii, hnot, _⟩ := nameMarks_apart first hmark
    rw [begins_of_isAscii hl hascii] at hfirst
    rw [isAlphanum_of_isAlpha hfirst] at hnot
    cases hnot
  · obtain ⟨hascii, hnot, _⟩ := nameMarks_apart c hmark
    have hcontinues : letters.continues c = true := hmore c hc
    rw [continues_of_isAscii hl hascii, hnot] at hcontinues
    cases hcontinues

theorem hasNameShape_iff_isWord (hl : letters.AgreeOnAscii .unicode)
    (h : State.word.Holds letters pending.toList) :
    hasNameShape pending.toList = true ↔ IsWord pending.toList := by
  rw [isWord_iff_hasNameShape]
  exact (and_iff_left (notMem_nameMarks_of_holds hl h)).symm

theorem isReserved_of_fixedKind? (h : fixedKind? pending = some kind)
    (hword : IsWord pending.toList) : isReserved pending = true := by
  have hwords : ∀ entry ∈ fixedLexemes, IsWord entry.1.toList → isReserved entry.1 = true := by
    decide
  exact hwords _ (mem_of_fixedKind? h) hword

theorem wordKind?_eq_some_iff (hl : letters.AgreeOnAscii .unicode)
    (h : State.word.Holds letters pending.toList) :
    wordKind? pending = some kind ↔ Token.WellFormed ⟨kind, pending⟩ := by
  have hname : isVariable pending = true ↔
      IsWord pending.toList ∧ isReserved pending = false := by
    rw [← hasNameShape_iff_isWord hl h]
    simp [isVariable, and_comm]
  have hnumber : ¬ Token.WellFormed ⟨.number, pending⟩ := by
    intro hwf
    obtain ⟨first, more, htext, hfirst, _⟩ := h
    have hdigit := hwf.2 first (by simp [htext])
    rw [isDigit_of_begins hl hfirst] at hdigit
    cases hdigit
  have hstring : ¬ Token.WellFormed ⟨.stringLiteral, pending⟩ := by
    intro hwf
    obtain ⟨body, htext', _⟩ := hwf
    obtain ⟨first, more, htext, hfirst, _⟩ := h
    rw [htext] at htext'
    cases htext'
    rw [begins_of_isAscii hl (by decide)] at hfirst
    exact absurd hfirst (by decide)
  have hfixed (hname : kind ≠ .identifier) (hwf : Token.WellFormed ⟨kind, pending⟩) :
      fixedKind? pending = some kind := by
    apply (wellFormed_iff_fixedKind? ?_).mp hwf
    intro hkind
    simp only [List.mem_cons, List.not_mem_nil, or_false] at hkind
    rcases hkind with rfl | rfl | rfl
    · exact hnumber hwf
    · exact hstring hwf
    · exact hname rfl
  unfold wordKind?
  split
  · next hvariable =>
    obtain ⟨hword, hfree⟩ := hname.mp hvariable
    constructor
    · intro hkind
      cases hkind
      exact ⟨hword, hfree⟩
    · intro hwf
      by_cases hkind : kind = .identifier
      · rw [hkind]
      · have hreserved := isReserved_of_fixedKind? (hfixed hkind hwf) hword
        rw [hfree] at hreserved
        cases hreserved
  · next hvariable =>
    constructor
    · exact wellFormed_of_fixedKind?
    · intro hwf
      apply hfixed ?_ hwf
      intro hkind
      subst hkind
      exact hvariable (hname.mpr hwf)

/-! ### Signs -/

theorem fixedKind?_eq_some_iff {first : Char} {more : List Char}
    (htext : pending.toList = first :: more) (hsign : first ∈ equalsSigns ++ loneSigns) :
    fixedKind? pending = some kind ↔ Token.WellFormed ⟨kind, pending⟩ := by
  obtain ⟨hascii, halpha, hdigit, hquote⟩ := signs_ascii first hsign
  constructor
  · exact wellFormed_of_fixedKind?
  · intro hwf
    apply (wellFormed_iff_fixedKind? ?_).mp hwf
    intro hkind
    simp only [List.mem_cons, List.not_mem_nil, or_false] at hkind
    rcases hkind with rfl | rfl | rfl
    · have hfirst := hwf.2 first (by simp [htext])
      rw [hdigit] at hfirst
      cases hfirst
    · obtain ⟨body, htext', _⟩ := hwf
      rw [htext] at htext'
      cases htext'
      exact absurd (List.mem_cons_self ..) hquote
    · have hfirst : first.isAlpha = true := (htext ▸ hwf.1 : IsWord (first :: more)).1
      rw [halpha] at hfirst
      cases hfirst

theorem comparisonTexts_cases : ∀ text ∈ comparisonTexts,
    (∃ first ∈ equalsSigns, text.head? = some first) ∧ ∀ c ∈ text.tail, c = '=' := by decide

/-- What is pending ends up as one token, wherever it stops. A string does so only at its end. -/
theorem State.Holds.gathered (hl : letters.AgreeOnAscii .unicode) {state : State} {text : List Char}
    (h : state.Holds letters text) (hstate : state ∉ [between, string, ended]) :
    Gathered letters text := by
  cases state with
  | between => exact absurd (by simp) hstate
  | string => exact absurd (by simp) hstate
  | ended => exact absurd (by simp) hstate
  | number => exact gathered_digits h.1 h.2
  | word =>
    obtain ⟨first, more, htext, hfirst, hmore⟩ := h
    rw [htext]
    exact gathered_letters hl hfirst hmore
  | arithmetic =>
    obtain ⟨sign, hsign, htext⟩ := h
    rw [htext]
    exact gathered_lone (List.mem_append_left _ hsign)
  | equals =>
    obtain rfl : text = ['='] := h
    exact gathered_equals hl (by decide) (by simp)
  | comparison =>
    obtain ⟨⟨first, hsign, hfirst⟩, hequals⟩ := comparisonTexts_cases text h
    obtain ⟨more, htext⟩ := List.head?_eq_some_iff.mp hfirst
    rw [htext] at hequals ⊢
    exact gathered_equals hl hsign hequals

end LoopScript
