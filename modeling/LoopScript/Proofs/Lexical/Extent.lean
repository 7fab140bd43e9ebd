import Mathlib.Data.List.Basic
import LoopScript.Proofs.Lexical.Layout
import LoopScript.Text.Letters

/-! How far a token reaches. The first character of a lexeme settles which characters the lexeme goes
on with, so that a text can begin with one lexeme only. -/
namespace LoopScript

open Text

/-- Signs that an equals sign goes on with. -/
def equalsSigns : List Char := '=' :: comparisonSigns

/-- Signs that are a token by themselves. -/
def loneSigns : List Char := arithmeticSigns ++ [';', '\x7b', '\x7d', '(', ')', '\n']

/-- The forms of a well-formed token. -/
inductive Token.Form : Token → Prop
  | number {lexeme first more} (text : lexeme.toList = first :: more)
      (digits : ∀ c ∈ first :: more, c.isDigit = true) : Form ⟨.number, lexeme⟩
  | string {lexeme body} (text : lexeme.toList = '"' :: (body ++ ['"'])) (closed : '"' ∉ body) :
      Form ⟨.stringLiteral, lexeme⟩
  | word {kind lexeme first more} (text : lexeme.toList = first :: more)
      (letters : IsWord (first :: more))
      (apart : ∀ next, kind.EndsBefore next → ∀ c ∈ next, c ∈ delimiters) : Form ⟨kind, lexeme⟩
  | comparison {kind lexeme first more} (text : lexeme.toList = first :: more)
      (sign : first ∈ equalsSigns) (equals : ∀ c ∈ more, c = '=')
      (apart : ∀ next, kind.EndsBefore next → next ≠ some '=') : Form ⟨kind, lexeme⟩
  | lone {kind lexeme first} (text : lexeme.toList = [first]) (sign : first ∈ loneSigns) :
      Form ⟨kind, lexeme⟩

def Kind.keywords : List Kind :=
  [.ifWord, .elseWord, .whileWord, .trueWord, .falseWord, .nullWord, .undefinedWord]

theorem fixedLexemes_cases : ∀ entry ∈ fixedLexemes,
    (entry.2 ∈ Kind.keywords ∧ IsWord entry.1.toList ∧ isReserved entry.1 = true) ∨
    (entry.2 ∈ [Kind.assign, Kind.relOp] ∧
      (∃ first ∈ equalsSigns, entry.1.toList.head? = some first) ∧
      ∀ c ∈ entry.1.toList.tail, c = '=') ∨
    (∃ first ∈ loneSigns, entry.1.toList = [first]) := by
  decide

theorem mem_of_fixedKind? {text : String} {kind : Kind} (h : fixedKind? text = some kind) :
    (text, kind) ∈ fixedLexemes := by
  obtain ⟨front, back, hentries, _⟩ := List.lookup_eq_some_iff.mp h
  rw [hentries]
  exact List.mem_append_right front (List.mem_cons_self ..)

theorem wellFormed_iff_fixedKind? {text : String} {kind : Kind}
    (h : kind ∉ [.number, .stringLiteral, .identifier]) :
    Token.WellFormed ⟨kind, text⟩ ↔ fixedKind? text = some kind := by
  cases kind
  case number => exact absurd (by simp) h
  case stringLiteral => exact absurd (by simp) h
  case identifier => exact absurd (by simp) h
  all_goals exact Iff.rfl

theorem exists_cons_of_isWord {text : List Char} (h : IsWord text) :
    ∃ first more, text = first :: more := by
  cases text with
  | nil => exact h.elim
  | cons first more => exact ⟨first, more, rfl⟩

theorem Token.Form.of_fixed {text : String} {kind : Kind} (h : fixedKind? text = some kind) :
    Token.Form ⟨kind, text⟩ := by
  rcases fixedLexemes_cases _ (mem_of_fixedKind? h) with
    ⟨hkind, hword, _⟩ | ⟨hkind, ⟨first, hsign, hfirst⟩, hequals⟩ | ⟨first, hsign, htext⟩
  · obtain ⟨first, more, htext⟩ := exists_cons_of_isWord hword
    simp only at htext
    refine .word htext (htext ▸ hword) fun next hnext => ?_
    simp only [Kind.keywords, List.mem_cons, List.not_mem_nil, or_false] at hkind
    rcases hkind with rfl | rfl | rfl | rfl | rfl | rfl | rfl <;> exact hnext
  · obtain ⟨more, htext⟩ := List.head?_eq_some_iff.mp hfirst
    simp only at htext hequals
    rw [htext] at hequals
    refine .comparison htext hsign hequals fun next hnext => ?_
    simp only [List.mem_cons, List.not_mem_nil, or_false] at hkind
    rcases hkind with rfl | rfl <;> exact hnext
  · exact .lone htext hsign

theorem Token.WellFormed.form {t : Token} (h : t.WellFormed) : t.Form := by
  obtain ⟨kind, lexeme⟩ := t
  cases kind with
  | number =>
    obtain ⟨hne, hdigits⟩ := h
    obtain ⟨first, more, htext⟩ := List.exists_cons_of_ne_nil hne
    exact .number htext (htext ▸ hdigits)
  | stringLiteral =>
    obtain ⟨body, htext, hclosed⟩ := h
    exact .string htext hclosed
  | identifier =>
    obtain ⟨hword, _⟩ := h
    obtain ⟨first, more, htext⟩ := exists_cons_of_isWord hword
    exact .word htext (htext ▸ hword) fun _ hnext => hnext
  | _ => exact .of_fixed h

/-! ### Characters that go on with a token -/

section

variable {letters : Letters} {c : Char}

theorem isAlpha_iff_toNat : c.isAlpha = true ↔
    (65 ≤ c.toNat ∧ c.toNat ≤ 90) ∨ (97 ≤ c.toNat ∧ c.toNat ≤ 122) := by
  have hranges : c.isAlpha = (decide (c.val ≥ 'A'.val ∧ c.val ≤ 'Z'.val) ||
      (decide (c.val ≥ 'a'.val) && decide (c.val ≤ 'z'.val))) := rfl
  rw [hranges]
  simp only [Bool.or_eq_true, Bool.and_eq_true, decide_eq_true_eq, ge_iff_le,
    UInt32.le_iff_toNat_le]
  exact Iff.rfl

theorem isAscii_of_isAlphanum (h : c.isAlphanum = true) : isAscii c = true := by
  simp only [Char.isAlphanum, Bool.or_eq_true, isAlpha_iff_toNat, Char.isDigit_iff_toNat] at h
  simp only [isAscii, decide_eq_true_eq]
  have hnine : '9'.toNat = 57 := rfl
  omega

theorem isAlphanum_of_isAlpha (h : c.isAlpha = true) : c.isAlphanum = true := by
  simp [Char.isAlphanum, h]

theorem isAlphanum_of_isDigit (h : c.isDigit = true) : c.isAlphanum = true := by
  simp [Char.isAlphanum, h]

theorem isAlphanum_of_isWord {text : List Char} (h : IsWord text) :
    ∀ c ∈ text, c.isAlphanum = true := by
  obtain ⟨first, more, rfl⟩ := exists_cons_of_isWord h
  obtain ⟨hfirst, hmore⟩ := h
  exact List.forall_mem_cons.mpr ⟨isAlphanum_of_isAlpha hfirst, hmore⟩

theorem isAscii_of_isAlpha (h : c.isAlpha = true) : isAscii c = true :=
  isAscii_of_isAlphanum (isAlphanum_of_isAlpha h)

theorem delimiters_ascii : ∀ c ∈ delimiters, isAscii c = true ∧ c.isAlphanum = false := by decide

theorem begins_of_isAscii (hl : letters.AgreeOnAscii .unicode) (hc : isAscii c = true) :
    letters.begins c = c.isAlpha := by
  rw [(hl c hc).1]
  simp [Letters.unicode, isAlphabetic, hc]

theorem continues_of_isAscii (hl : letters.AgreeOnAscii .unicode) (hc : isAscii c = true) :
    letters.continues c = c.isAlphanum := by
  rw [(hl c hc).2]
  simp [Letters.unicode, isAlphanumeric, hc]

/-- A token that begins with `first` takes in such characters for as long as they come. -/
def goesOn (letters : Letters) (first c : Char) : Bool :=
  if first.isDigit then c.isDigit
  else if letters.begins first then letters.continues c
  else equalsSigns.contains first && c = '='

theorem signs_ascii : ∀ c ∈ equalsSigns ++ loneSigns,
    isAscii c = true ∧ c.isAlpha = false ∧ c.isDigit = false ∧ c ∉ '"' :: blanks := by decide

theorem not_mem_blanks_of_isAlphanum (h : c.isAlphanum = true) : c ∉ '"' :: blanks := by
  have hsigns : ∀ c ∈ '"' :: blanks, c.isAlphanum = false := by decide
  intro hc
  rw [hsigns c hc] at h
  cases h

theorem isDigit_eq_false (h : c.isAlphanum = false) : c.isDigit = false := by
  simp only [Char.isAlphanum, Bool.or_eq_false_iff] at h
  exact h.2

theorem isDigit_of_isAlpha (h : c.isAlpha = true) : c.isDigit = false := by
  rw [isAlpha_iff_toNat] at h
  rw [Bool.eq_false_iff]
  intro hdigit
  rw [Char.isDigit_iff_toNat] at hdigit
  have hnine : '9'.toNat = 57 := rfl
  omega

theorem isDigit_of_begins (hl : letters.AgreeOnAscii .unicode) (h : letters.begins c = true) :
    c.isDigit = false := by
  by_cases hc : isAscii c = true
  · rw [begins_of_isAscii hl hc] at h
    exact isDigit_of_isAlpha h
  · have hnot : c.isAlphanum ≠ true := fun h => hc (isAscii_of_isAlphanum h)
    exact isDigit_eq_false (by simpa using hnot)

theorem goesOn_of_isDigit {first : Char} (hf : first.isDigit = true) :
    goesOn letters first c = c.isDigit := by
  simp [goesOn, hf]

theorem goesOn_of_isAlpha (hl : letters.AgreeOnAscii .unicode) {first : Char}
    (hf : first.isAlpha = true) : goesOn letters first c = letters.continues c := by
  simp [goesOn, isDigit_of_isAlpha hf, begins_of_isAscii hl (isAscii_of_isAlpha hf), hf]

theorem goesOn_of_sign (hl : letters.AgreeOnAscii .unicode) {first : Char}
    (hf : first ∈ equalsSigns ++ loneSigns) :
    goesOn letters first c = (equalsSigns.contains first && c = '=') := by
  obtain ⟨hascii, halpha, hdigit, _⟩ := signs_ascii first hf
  simp [goesOn, hdigit, begins_of_isAscii hl hascii, halpha]

/-- A token in hand that is no string: all but its first character go on with it. -/
def Gathered (letters : Letters) (text : List Char) : Prop :=
  ∃ first more, text = first :: more ∧ first ∉ '"' :: blanks ∧ ∀ c ∈ more, goesOn letters first c = true

/-- The text does not go on with the character. -/
def Stops (letters : Letters) (text : List Char) (next : Option Char) : Prop :=
  ∀ first ∈ text.head?, ∀ c ∈ next, goesOn letters first c = false

theorem gathered_digits {text : List Char} (hne : text ≠ [])
    (hdigits : ∀ c ∈ text, c.isDigit = true) : Gathered letters text := by
  obtain ⟨first, more, htext⟩ := List.exists_cons_of_ne_nil hne
  rw [htext] at hdigits
  have hfirst := hdigits first (List.mem_cons_self ..)
  refine ⟨first, more, htext, not_mem_blanks_of_isAlphanum (isAlphanum_of_isDigit hfirst), ?_⟩
  intro c hc
  rw [goesOn_of_isDigit hfirst]
  exact hdigits c (List.mem_cons_of_mem _ hc)

theorem gathered_letters (hl : letters.AgreeOnAscii .unicode) {first : Char} {more : List Char}
    (hfirst : letters.begins first = true) (hmore : ∀ c ∈ more, letters.continues c = true) :
    Gathered letters (first :: more) := by
  have hsigns : ∀ c ∈ '"' :: blanks, isAscii c = true ∧ c.isAlpha = false := by decide
  refine ⟨first, more, rfl, ?_, ?_⟩
  · intro hmem
    obtain ⟨hascii, hnot⟩ := hsigns first hmem
    rw [begins_of_isAscii hl hascii, hnot] at hfirst
    cases hfirst
  · intro c hc
    simp [goesOn, isDigit_of_begins hl hfirst, hfirst, hmore c hc]

theorem gathered_equals (hl : letters.AgreeOnAscii .unicode) {first : Char} {more : List Char}
    (hsign : first ∈ equalsSigns) (hmore : ∀ c ∈ more, c = '=') :
    Gathered letters (first :: more) := by
  have hfirst := List.mem_append_left loneSigns hsign
  refine ⟨first, more, rfl, (signs_ascii first hfirst).2.2.2, ?_⟩
  intro c hc
  rw [goesOn_of_sign hl hfirst, hmore c hc]
  simpa using hsign

theorem gathered_lone {first : Char} (hsign : first ∈ loneSigns) : Gathered letters [first] := by
  have hfirst := List.mem_append_right equalsSigns hsign
  exact ⟨first, [], rfl, (signs_ascii first hfirst).2.2.2, by simp⟩

theorem Token.Form.gathered (hl : letters.AgreeOnAscii .unicode) {t : Token} (h : t.Form)
    (hquote : t.lexeme.toList.head? ≠ some '"') : Gathered letters t.lexeme.toList := by
  cases h with
  | string text => exact absurd (by rw [text]; rfl) hquote
  | number text digits =>
    rw [text]
    exact gathered_digits (List.cons_ne_nil _ _) digits
  | @word kind lexeme first more text hletters =>
    rw [text]
    obtain ⟨hfirst, hmore⟩ := hletters
    apply gathered_letters hl
    · rw [begins_of_isAscii hl (isAscii_of_isAlpha hfirst), hfirst]
    · intro c hc
      rw [continues_of_isAscii hl (isAscii_of_isAlphanum (hmore c hc)), hmore c hc]
  | comparison text sign equals =>
    rw [text]
    exact gathered_equals hl sign equals
  | lone text sign =>
    rw [text]
    exact gathered_lone sign

theorem stops_equals (hl : letters.AgreeOnAscii .unicode) {first : Char} {more : List Char}
    (hsign : first ∈ equalsSigns) {next : Option Char} (hnext : next ≠ some '=') :
    Stops letters (first :: more) next := by
  intro first' hfirst c hc
  cases hfirst
  have hne : c ≠ '=' := by
    intro heq
    subst heq
    exact hnext hc
  rw [goesOn_of_sign hl (List.mem_append_left _ hsign)]
  simp [hne]

theorem stops_lone (hl : letters.AgreeOnAscii .unicode) {first : Char} (hsign : first ∈ loneSigns)
    (next : Option Char) : Stops letters [first] next := by
  have hlone : ∀ c ∈ loneSigns, equalsSigns.contains c = false := by decide
  intro first' hfirst c _
  cases hfirst
  rw [goesOn_of_sign hl (List.mem_append_right _ hsign), hlone first hsign]
  rfl

theorem Token.Form.stops (hl : letters.AgreeOnAscii .unicode) {t : Token} (h : t.Form)
    {next : Option Char} (hnext : t.kind.EndsBefore next)
    (hquote : t.lexeme.toList.head? ≠ some '"') : Stops letters t.lexeme.toList next := by
  cases h with
  | string text => exact absurd (by rw [text]; rfl) hquote
  | number text digits =>
    intro first hfirst c hc
    have hdigit := digits first (text ▸ List.mem_of_mem_head? hfirst)
    rw [goesOn_of_isDigit hdigit]
    exact isDigit_eq_false (delimiters_ascii c (hnext c hc)).2
  | word text hletters apart =>
    intro first hfirst c hc
    rw [text] at hfirst
    cases hfirst
    obtain ⟨hascii, hnot⟩ := delimiters_ascii c (apart next hnext c hc)
    rw [goesOn_of_isAlpha hl hletters.1, continues_of_isAscii hl hascii]
    exact hnot
  | comparison text sign equals apart =>
    rw [text]
    exact stops_equals hl sign (apart next hnext)
  | lone text sign =>
    rw [text]
    exact stops_lone hl sign next

/-- Both lists begin with all that `p` holds of, so they begin alike. -/
theorem append_inj_of_stop {α : Type} {p : α → Bool} {run run' rest rest' : List α}
    (hrun : ∀ a ∈ run, p a = true) (hrun' : ∀ a ∈ run', p a = true)
    (hstop : ∀ a ∈ rest.head?, p a = false) (hstop' : ∀ a ∈ rest'.head?, p a = false)
    (h : run ++ rest = run' ++ rest') : run = run' ∧ rest = rest' := by
  have hspan (run rest : List α) (hrun : ∀ a ∈ run, p a = true)
      (hstop : ∀ a ∈ rest.head?, p a = false) : (run ++ rest).takeWhile p = run := by
    have hnil : rest.takeWhile p = [] := by
      cases rest with
      | nil => rfl
      | cons a rest => simp [hstop a rfl]
    rw [List.takeWhile_append_of_pos hrun, hnil, List.append_nil]
  have heq : run = run' := by
    rw [← hspan run rest hrun hstop, ← hspan run' rest' hrun' hstop', h]
  subst heq
  exact ⟨rfl, List.append_cancel_left h⟩

theorem append_inj_of_notMem {α : Type} [DecidableEq α] {a : α} {run run' rest rest' : List α}
    (hrun : a ∉ run) (hrun' : a ∉ run') (h : run ++ a :: rest = run' ++ a :: rest') :
    run = run' ∧ rest = rest' := by
  have hinside {run : List α} (hrun : a ∉ run) : ∀ b ∈ run, decide (b ≠ a) = true :=
    fun b hb => decide_eq_true (ne_of_mem_of_not_mem hb hrun)
  obtain ⟨heq, hrest⟩ := append_inj_of_stop (hinside hrun) (hinside hrun') (by simp) (by simp) h
  exact ⟨heq, (List.cons.inj hrest).2⟩

theorem gathered_inj {text text' rest rest' : List Char} (hg : Gathered letters text)
    (hg' : Gathered letters text') (hs : Stops letters text rest.head?)
    (hs' : Stops letters text' rest'.head?) (h : text ++ rest = text' ++ rest') :
    text = text' ∧ rest = rest' := by
  obtain ⟨first, more, htext, _, hmore⟩ := hg
  obtain ⟨first', more', htext', _, hmore'⟩ := hg'
  subst htext htext'
  rw [List.cons_append, List.cons_append] at h
  obtain ⟨hfirst, hrest⟩ := List.cons.inj h
  subst hfirst
  obtain ⟨heq, hrest⟩ := append_inj_of_stop hmore hmore' (hs first rfl) (hs' first rfl) hrest
  exact ⟨congrArg _ heq, hrest⟩

end

end LoopScript
