import Mathlib.Data.List.TakeWhile
import LoopScript.Proofs.Lexical.Pending

/-! One step of the tokenizer against the layouts of a text. A step keeps every way to lay out the
pending text and what follows as tokens, less the token that it emits. It fails only where there is
no way at all. -/
namespace LoopScript

open Text

theorem isBlank_iff {c : Char} : isBlank c = true ↔ c ∈ blanks := by
  simp [isBlank, blanks, or_assoc]

theorem isSome_punctuationKind?_iff {c : Char} : (punctuationKind? c).isSome = true ↔
    c ∈ [';', '\x7b', '\x7d', '(', ')', '\n'] := by
  unfold punctuationKind?
  split <;> simp_all

theorem isBoundary_iff {c : Char} : isBoundary c = true ↔ c ∈ delimiters := by
  constructor
  · intro h
    have hparts : ∀ c ∈ blanks ++ [';', '\x7b', '\x7d', '(', ')', '\n'] ++ arithmeticSigns ++ ['='] ++
        comparisonSigns, c ∈ delimiters := by decide
    apply hparts
    simp only [isBoundary, Bool.or_eq_true, isBlank_iff, isSome_punctuationKind?_iff,
      List.contains_iff_mem, decide_eq_true_eq] at h
    simpa only [List.mem_append, List.mem_singleton] using h
  · have hall : ∀ c ∈ delimiters, isBoundary c = true := by decide
    exact hall c

theorem atBoundary_iff {next : Option Char} :
    State.atBoundary next = true ↔ ∀ c ∈ next, c ∈ delimiters := by
  cases next with
  | none => simp [State.atBoundary]
  | some c => simp [State.atBoundary, isBoundary_iff]

/-- What is left of a text once its first character was read. -/
def Reading.left (text : List Char) : Reading → List Char
  | consumed => text.tail
  | again => text

/-- A transition in front of `text` keeps every way to lay out what is pending and what follows, less
the token that it emits. Only reading the end ends the reading. -/
structure Transition.Accounts (letters : Letters) (pending : String) (text : List Char)
    (t : Transition) (pending' : String) : Prop where
  holds : t.state.Holds letters pending'.toList
  ended : t.reading = .consumed → (t.state = .ended ↔ text = [])
  again : t.reading = .again → t.state = .between ∧ pending.toList ≠ []
  spells : ∀ tokens, Spells tokens (pending.toList ++ text) ↔
    ∃ more, tokens = t.emitted.toList ++ more ∧
      Spells more (pending'.toList ++ t.reading.left text)

/-- A step fails only where what is pending and what follows cannot be laid out as tokens. -/
def Step.Accounts (letters : Letters) (pending : String) (text : List Char) : Step → Prop
  | (.error _, _) => ∀ tokens, ¬ Spells tokens (pending.toList ++ text)
  | (.ok t, pending') => t.Accounts letters pending text pending'

namespace State

open Step

variable {letters : Letters} {pending : String} {kind : Kind} {state : State} {text : List Char}

private theorem accounts_push {c : Char} (h : state.Holds letters (pending.push c).toList) :
    (proceed state (pending.push c)).Accounts letters pending (c :: text) := by
  have hstate : state ≠ ended := by
    intro heq
    rw [heq, Holds, String.toList_push] at h
    simp at h
  refine ⟨h, by simp [hstate], by simp, fun tokens => ?_⟩
  simp [Reading.left]

private theorem accounts_complete (hl : letters.AgreeOnAscii .unicode)
    (hg : Gathered letters pending.toList) (hs : Stops letters pending.toList text.head?)
    (hkind : ∀ kind', Token.WellFormed ⟨kind', pending⟩ ↔ kind' = kind)
    (hends : kind.EndsBefore text.head?) :
    (complete kind pending .again).Accounts letters pending text := by
  have hne : pending.toList ≠ [] := by
    obtain ⟨first, more, hpending, _⟩ := hg
    simp [hpending]
  refine ⟨rfl, by simp, fun _ => ⟨rfl, hne⟩, fun tokens => ?_⟩
  exact spells_iff_of_gathered hl hg hs hkind hends

private theorem accounts_fail (hl : letters.AgreeOnAscii .unicode)
    (hg : Gathered letters pending.toList) (hs : Stops letters pending.toList text.head?)
    (hnone : ∀ kind, Token.WellFormed ⟨kind, pending⟩ → ¬ kind.EndsBefore text.head?)
    (fault : LexicalFault) (c : Option Char) (pending' : String) :
    (fail fault c pending').Accounts letters pending text := by
  intro tokens h
  obtain ⟨kind, more, _, hwf, hends, _⟩ := exists_of_gathered hl hg hs h
  exact hnone kind hwf hends

private theorem filter_head?_cases (p : Char → Bool) (text : List Char) :
    (∃ d rest, text = d :: rest ∧ p d = true ∧ text.head?.filter p = some d) ∨
      (text.head?.filter p = none ∧ ∀ c ∈ text.head?, p c = false) := by
  cases text with
  | nil => exact .inr ⟨rfl, by simp⟩
  | cons d rest =>
    by_cases hd : p d = true
    · exact .inl ⟨d, rest, rfl, hd, by simp [hd]⟩
    · exact .inr ⟨by simp [hd], by simpa using hd⟩

theorem accounts_readNumber (hl : letters.AgreeOnAscii .unicode)
    (h : number.Holds letters pending.toList) :
    (readNumber pending text.head?).Accounts letters pending text := by
  have hg : Gathered letters pending.toList := h.gathered hl (by simp)
  have hkind (kind : Kind) : Token.WellFormed ⟨kind, pending⟩ ↔ kind = .number :=
    wellFormed_number_iff h
  rcases filter_head?_cases Char.isDigit text with ⟨d, rest, htext, hd, hnext⟩ | ⟨hnext, hnot⟩
  · have hpush : number.Holds letters (pending.push d).toList := by
      rw [String.toList_push]
      refine ⟨by simp, ?_⟩
      intro c hc
      rcases List.mem_append.mp hc with hc | hc
      · exact h.2 c hc
      · rw [List.mem_singleton.mp hc, hd]
    simp only [readNumber, hnext]
    rw [htext]
    exact accounts_push hpush
  · have hs : Stops letters pending.toList text.head? := by
      intro first hfirst c hc
      have hdigit := h.2 first (List.mem_of_mem_head? hfirst)
      rw [goesOn_of_isDigit hdigit, hnot c hc]
    simp only [readNumber, hnext]
    split
    · next hboundary => exact accounts_complete hl hg hs hkind (atBoundary_iff.mp hboundary)
    · next hboundary =>
      apply accounts_fail hl hg hs
      intro kind hwf hends
      rw [(hkind kind).mp hwf] at hends
      exact hboundary (atBoundary_iff.mpr hends)

/-- Every token that a word can be keeps apart from what follows. -/
theorem endsBefore_word_iff (hl : letters.AgreeOnAscii .unicode)
    (h : word.Holds letters pending.toList) (hwf : Token.WellFormed ⟨kind, pending⟩)
    (next : Option Char) : kind.EndsBefore next ↔ ∀ c ∈ next, c ∈ delimiters := by
  have hkinds : kind ∈ Kind.identifier :: Kind.keywords := by
    have hword := (wordKind?_eq_some_iff hl h).mpr hwf
    unfold wordKind? at hword
    split at hword
    · cases hword
      exact List.mem_cons_self ..
    · have hsigns : ∀ c ∈ equalsSigns ++ loneSigns, letters.begins c = false := by
        intro c hc
        obtain ⟨hascii, halpha, _⟩ := signs_ascii c hc
        rw [begins_of_isAscii hl hascii, halpha]
      obtain ⟨first, more, htext, hfirst, _⟩ := h
      rcases fixedLexemes_cases _ (mem_of_fixedKind? hword) with
        ⟨hkind, _⟩ | ⟨_, ⟨c, hsign, hc⟩, _⟩ | ⟨c, hsign, hc⟩
      · exact List.mem_cons_of_mem _ hkind
      · simp only [htext, List.head?_cons, Option.some.injEq] at hc
        rw [hc, hsigns c (List.mem_append_left _ hsign)] at hfirst
        cases hfirst
      · simp only [htext] at hc
        cases hc
        rw [hsigns first (List.mem_append_right _ hsign)] at hfirst
        cases hfirst
  simp only [Kind.keywords, List.mem_cons, List.not_mem_nil, or_false] at hkinds
  rcases hkinds with rfl | rfl | rfl | rfl | rfl | rfl | rfl | rfl <;> exact Iff.rfl

theorem accounts_readWord (hl : letters.AgreeOnAscii .unicode)
    (h : word.Holds letters pending.toList) :
    (readWord letters pending text.head?).Accounts letters pending text := by
  have hg : Gathered letters pending.toList := h.gathered hl (by simp)
  obtain ⟨first, more, hpending, hfirst, hmore⟩ := id h
  rcases filter_head?_cases letters.continues text with ⟨d, rest, htext, hd, hnext⟩ | ⟨hnext, hnot⟩
  · have hpush : word.Holds letters (pending.push d).toList := by
      rw [String.toList_push, hpending]
      refine ⟨first, more ++ [d], rfl, hfirst, ?_⟩
      intro c hc
      rcases List.mem_append.mp hc with hc | hc
      · exact hmore c hc
      · rw [List.mem_singleton.mp hc, hd]
    simp only [readWord, hnext]
    rw [htext]
    exact accounts_push hpush
  · have hs : Stops letters pending.toList text.head? := by
      rw [hpending]
      intro first' hfirst' c hc
      cases hfirst'
      simp [goesOn, isDigit_of_begins hl hfirst, hfirst, hnot c hc]
    simp only [readWord, hnext]
    split
    · next hboundary =>
      split
      · next kind hkind =>
        have hwf := (wordKind?_eq_some_iff hl h).mp hkind
        apply accounts_complete hl hg hs
        · intro kind'
          rw [← wordKind?_eq_some_iff hl h, hkind]
          simp [eq_comm]
        · exact (endsBefore_word_iff hl h hwf _).mpr (atBoundary_iff.mp hboundary)
      · next hkind =>
        apply accounts_fail hl hg hs
        intro kind hwf _
        rw [← wordKind?_eq_some_iff hl h, hkind] at hwf
        cases hwf
    · next hboundary =>
      apply accounts_fail hl hg hs
      intro kind hwf hends
      exact hboundary (atBoundary_iff.mpr ((endsBefore_word_iff hl h hwf _).mp hends))

theorem endsBefore_of_stops (hl : letters.AgreeOnAscii .unicode) {first : Char} {more : List Char}
    (htext : pending.toList = first :: more) (hsign : first ∈ equalsSigns ++ loneSigns)
    (hkind : fixedKind? pending = some kind) {next : Option Char}
    (hs : Stops letters pending.toList next) : kind.EndsBefore next := by
  have hkinds : ∀ entry ∈ fixedLexemes, ∀ first ∈ equalsSigns ++ loneSigns,
      entry.1.toList.head? = some first → entry.2 ∈ [Kind.assign, .relOp] ∧ first ∈ equalsSigns ∨
        entry.2 ∈ [Kind.addOp, .subtractOp, .multiplyOp, .divideOp, .semicolon, .leftBrace,
          .rightBrace, .leftParen, .rightParen, .newline] := by decide
  rcases hkinds _ (mem_of_fixedKind? hkind) first hsign (by simp [htext]) with ⟨hk, hequals⟩ | hk
  · have hnext : next ≠ some '=' := by
      intro heq
      have hstop := hs first (by simp [htext]) '=' heq
      rw [goesOn_of_sign hl hsign] at hstop
      simp [hequals] at hstop
    simp only [List.mem_cons, List.not_mem_nil, or_false] at hk
    rcases hk with rfl | rfl <;> exact hnext
  · simp only [List.mem_cons, List.not_mem_nil, or_false] at hk
    rcases hk with rfl | rfl | rfl | rfl | rfl | rfl | rfl | rfl | rfl | rfl <;> trivial

theorem accounts_endSigns (hl : letters.AgreeOnAscii .unicode)
    (hg : Gathered letters pending.toList) (hs : Stops letters pending.toList text.head?)
    {first : Char} {more : List Char} (hpending : pending.toList = first :: more)
    (hsign : first ∈ equalsSigns ++ loneSigns) :
    (endSigns pending text.head?).Accounts letters pending text := by
  unfold endSigns
  split
  · next kind hkind =>
    apply accounts_complete hl hg hs
    · intro kind'
      rw [← fixedKind?_eq_some_iff hpending hsign, hkind]
      simp [eq_comm]
    · exact endsBefore_of_stops hl hpending hsign hkind hs
  · next hkind =>
    apply accounts_fail hl hg hs
    intro kind hwf _
    rw [← fixedKind?_eq_some_iff hpending hsign, hkind] at hwf
    cases hwf

theorem accounts_readArithmetic (hl : letters.AgreeOnAscii .unicode)
    (h : arithmetic.Holds letters pending.toList) :
    (endSigns pending text.head?).Accounts letters pending text := by
  have hg : Gathered letters pending.toList := h.gathered hl (by simp)
  obtain ⟨sign, hsign, hpending⟩ := h
  have hlone : sign ∈ loneSigns := List.mem_append_left _ hsign
  have hs : Stops letters pending.toList text.head? := by
    rw [hpending]
    exact stops_lone hl hlone _
  exact accounts_endSigns hl hg hs hpending (List.mem_append_right _ hlone)

theorem accounts_readEquals (hl : letters.AgreeOnAscii .unicode)
    (h : equals.Holds letters pending.toList) :
    (readEquals pending text.head?).Accounts letters pending text := by
  have hg : Gathered letters pending.toList := h.gathered hl (by simp)
  have hpending : pending.toList = ['='] := h
  unfold readEquals
  split
  · next hnext =>
    obtain ⟨rest, htext⟩ := List.head?_eq_some_iff.mp hnext
    rw [htext]
    apply accounts_push
    change (pending.push '=').toList ∈ comparisonTexts
    rw [String.toList_push, hpending]
    decide
  · next hnext =>
    have hassign : pending = "=" := String.toList_inj.mp hpending
    have hs : Stops letters pending.toList text.head? := by
      rw [hpending]
      exact stops_equals hl (by decide) hnext
    have hend : endSigns pending text.head? = complete .assign pending .again := by
      rw [hassign]
      rfl
    rw [← hend]
    exact accounts_endSigns hl hg hs hpending (by decide)

theorem accounts_readString (h : string.Holds letters pending.toList) :
    (readString pending text.head?).Accounts letters pending text := by
  obtain ⟨body, hpending, hclosed⟩ := h
  cases text with
  | nil =>
    intro tokens h
    rw [hpending, List.append_nil] at h
    exact not_spells_open hclosed h
  | cons c rest =>
    simp only [readString, List.head?_cons]
    split
    · next hc =>
      have hlexeme : (pending.push c).toList = '"' :: (body ++ ['"']) := by
        rw [String.toList_push, hpending, hc]
        rfl
      have hpush : pending.toList ++ c :: rest = (pending.push c).toList ++ rest := by simp
      refine ⟨rfl, by simp, by simp, fun tokens => ?_⟩
      rw [hpush]
      constructor
      · exact exists_of_string hclosed hlexeme
      · intro h
        obtain ⟨more, htokens, hmore⟩ := h
        rw [htokens]
        exact spells_of_wellFormed ⟨body, hlexeme, hclosed⟩ trivial hmore
    · next hc =>
      apply accounts_push
      rw [String.toList_push, hpending]
      refine ⟨body ++ [c], rfl, ?_⟩
      intro hmem
      rcases List.mem_append.mp hmem with hmem | hmem
      · exact hclosed hmem
      · exact hc (List.mem_singleton.mp hmem).symm

theorem not_spells_of_not_prefix (hl : letters.AgreeOnAscii .unicode) {first : Char}
    {more : List Char} (hsign : first ∈ equalsSigns) (hmore : ∀ c ∈ more, c = '=')
    (hnone : ∀ entry ∈ fixedLexemes, ¬ (first :: more) <+: entry.1.toList) (rest : List Char)
    (tokens : List Token) : ¬ Spells tokens (first :: more ++ rest) := by
  intro h
  let run := rest.takeWhile (· = '=')
  let full := String.ofList (first :: (more ++ run))
  have hfull : full.toList = first :: (more ++ run) := String.toList_ofList
  have htext : first :: more ++ rest = full.toList ++ rest.dropWhile (· = '=') := by
    simp [hfull, run, List.takeWhile_append_dropWhile]
  have hequals : ∀ c ∈ more ++ run, c = '=' := by
    intro c hc
    rcases List.mem_append.mp hc with hc | hc
    · exact hmore c hc
    · simpa using List.mem_takeWhile_imp hc
  have hg : Gathered letters full.toList := hfull ▸ gathered_equals hl hsign hequals
  have hs : Stops letters full.toList (rest.dropWhile (· = '=')).head? := by
    rw [hfull]
    apply stops_equals hl hsign
    intro heq
    have hnot := List.head?_dropWhile_not (· = '=') rest
    rw [heq] at hnot
    simp at hnot
  rw [htext] at h
  obtain ⟨kind, _, _, hwf, _, _⟩ := exists_of_gathered hl hg hs h
  have hkind := (fixedKind?_eq_some_iff hfull (List.mem_append_left _ hsign)).mpr hwf
  apply hnone _ (mem_of_fixedKind? hkind)
  exact ⟨run, by simp [hfull]⟩

theorem accounts_readComparison (hl : letters.AgreeOnAscii .unicode)
    (h : comparison.Holds letters pending.toList) :
    (readComparison pending text.head?).Accounts letters pending text := by
  have hg : Gathered letters pending.toList := h.gathered hl (by simp)
  obtain ⟨⟨first, hsign, hfirst⟩, hequals⟩ := comparisonTexts_cases _ h
  obtain ⟨more, hpending⟩ := List.head?_eq_some_iff.mp hfirst
  have hpush : (pending.push '=').toList = pending.toList ++ ['='] := String.toList_push '='
  unfold readComparison
  split
  · next hnext =>
    obtain ⟨rest, htext⟩ := List.head?_eq_some_iff.mp hnext
    rw [htext]
    split
    · next hsome =>
      obtain ⟨kind, hkind⟩ := Option.isSome_iff_exists.mp hsome
      have hlonger : ∀ text ∈ comparisonTexts, ∀ entry ∈ fixedLexemes,
          entry.1.toList = text ++ ['='] → entry.1.toList ∈ comparisonTexts := by decide
      exact accounts_push (hlonger _ h _ (mem_of_fixedKind? hkind) hpush)
    · next hnone =>
      have hlonger : ∀ text ∈ comparisonTexts,
          (∀ entry ∈ fixedLexemes, entry.1.toList ≠ text ++ ['=']) →
          ∀ entry ∈ fixedLexemes, ¬ text ++ ['='] <+: entry.1.toList := by decide
      have hnot : ∀ entry ∈ fixedLexemes, entry.1.toList ≠ pending.toList ++ ['='] := by
        intro entry hentry heq
        have hentry' : pending.push '=' = entry.1 := String.toList_inj.mp (hpush.trans heq.symm)
        have hlookup : fixedKind? (pending.push '=') = none := by simpa using hnone
        have hne := List.lookup_eq_none_iff.mp hlookup entry hentry
        simp [hentry'] at hne
      have hprefix := hlonger _ h hnot
      rw [hpending] at hprefix
      have hequals' : ∀ c ∈ more ++ ['='], c = '=' := by
        intro c hc
        rcases List.mem_append.mp hc with hc | hc
        · exact hequals c (by rwa [hpending])
        · exact List.mem_singleton.mp hc
      intro tokens
      have hstray := not_spells_of_not_prefix hl hsign hequals' hprefix rest tokens
      simpa [hpending] using hstray
  · next hnext =>
    have hs : Stops letters pending.toList text.head? := by
      rw [hpending]
      exact stops_equals hl hsign hnext
    exact accounts_endSigns hl hg hs hpending (List.mem_append_left _ hsign)

/-! ### Between tokens -/

theorem holds_of_opening? {c : Char} (h : opening? letters c = some state) :
    state.Holds letters [c] := by
  unfold opening? at h
  split at h
  · next hdigit =>
    cases h
    exact ⟨by simp, by simpa using hdigit⟩
  split at h
  · next hbegins =>
    cases h
    exact ⟨c, [], rfl, hbegins, by simp⟩
  split at h
  · next hsign =>
    cases h
    exact ⟨c, by simpa using hsign, rfl⟩
  split at h
  · next hquote =>
    cases h
    exact ⟨[], by rw [hquote], by simp⟩
  split at h
  · next hequals =>
    cases h
    exact congrArg (fun c => [c]) hequals
  split at h
  · next hsign =>
    cases h
    have htexts : ∀ c ∈ comparisonSigns, [c] ∈ comparisonTexts := by decide
    exact htexts c (by simpa using hsign)
  · cases h

theorem of_opening?_eq_none {c : Char} (h : opening? letters c = none) :
    c.isDigit = false ∧ letters.begins c = false ∧ c ≠ '"' ∧ c ∉ arithmeticSigns ∧
      c ∉ equalsSigns := by
  unfold opening? at h
  repeat' split at h
  all_goals simp_all [equalsSigns]

theorem not_wellFormed_of_stray (hl : letters.AgreeOnAscii .unicode) {first : Char}
    (hopen : opening? letters first = none) (hnone : punctuationKind? first = none) {t : Token}
    {more : List Char} (htext : t.lexeme.toList = first :: more) : ¬ t.WellFormed := by
  intro hwf
  obtain ⟨hdigit, hbegins, hquote, harithmetic, hequals⟩ := of_opening?_eq_none hopen
  have hpunctuation := isSome_punctuationKind?_iff.not.mp (by rw [hnone]; simp)
  cases hwf.form with
  | string text =>
    rw [htext] at text
    exact hquote (List.cons.inj text).1
  | @number lexeme first' more' text digits =>
    rw [htext] at text
    obtain ⟨rfl, rfl⟩ := List.cons.inj text
    rw [digits first (List.mem_cons_self ..)] at hdigit
    cases hdigit
  | @word kind lexeme first' more' text hletters =>
    rw [htext] at text
    obtain ⟨rfl, rfl⟩ := List.cons.inj text
    rw [begins_of_isAscii hl (isAscii_of_isAlpha hletters.1), hletters.1] at hbegins
    cases hbegins
  | comparison text sign =>
    rw [htext] at text
    exact hequals ((List.cons.inj text).1 ▸ sign)
  | lone text sign =>
    rw [htext] at text
    obtain ⟨rfl, rfl⟩ := List.cons.inj text
    rcases List.mem_append.mp sign with sign | sign
    · exact harithmetic sign
    · exact hpunctuation sign

/-- A sign of punctuation is a token at once. -/
theorem accounts_punctuation (hl : letters.AgreeOnAscii .unicode) {c : Char} {rest : List Char}
    (hpending : pending.toList = []) (hkind : punctuationKind? c = some kind) :
    Accounts letters pending (c :: rest)
      (.ok ⟨between, .consumed, some ⟨kind, String.singleton c⟩⟩, pending) := by
  have htext : (String.singleton c).toList = [c] := String.toList_singleton c
  have hsign : c ∈ loneSigns :=
    List.mem_append_right _ (isSome_punctuationKind?_iff.mp (by rw [hkind]; rfl))
  have hsign' := List.mem_append_right equalsSigns hsign
  have hg : Gathered letters (String.singleton c).toList := htext ▸ gathered_lone hsign
  have hs : Stops letters (String.singleton c).toList rest.head? := htext ▸ stops_lone hl hsign _
  have hfixed := fixedKind?_singleton hkind
  have hends : kind.EndsBefore rest.head? := endsBefore_of_stops hl htext hsign' hfixed hs
  have hunique (kind' : Kind) :
      Token.WellFormed ⟨kind', String.singleton c⟩ ↔ kind' = kind := by
    rw [← fixedKind?_eq_some_iff htext hsign', hfixed]
    simp [eq_comm]
  have hsplit : pending.toList ++ c :: rest = (String.singleton c).toList ++ rest := by
    simp [hpending]
  refine ⟨hpending, by simp, by simp, fun tokens => ?_⟩
  rw [hsplit]
  simp only [Reading.left, hpending, List.nil_append, List.tail_cons]
  exact spells_iff_of_gathered hl hg hs hunique hends

theorem accounts_readBetween (hl : letters.AgreeOnAscii .unicode)
    (h : between.Holds letters pending.toList) :
    (readBetween letters pending text.head?).Accounts letters pending text := by
  have hpending : pending.toList = [] := h
  cases text with
  | nil =>
    refine ⟨h, by simp, by simp, fun tokens => ?_⟩
    simp [Reading.left]
  | cons c rest =>
    simp only [readBetween, List.head?_cons]
    split
    · next hblank =>
      refine ⟨h, by simp, by simp, fun tokens => ?_⟩
      simp [Reading.left, hpending, spells_blank (isBlank_iff.mp hblank)]
    · next hblank =>
      split
      · next state hopen =>
        apply accounts_push
        rw [String.toList_push, hpending]
        exact holds_of_opening? hopen
      · next hopen =>
        split
        · next kind hkind =>
          exact accounts_punctuation hl hpending hkind
        · next hnone =>
          intro tokens hspells
          rw [hpending, List.nil_append] at hspells
          have hblank' : c ∉ blanks := fun hc => hblank (isBlank_iff.mpr hc)
          obtain ⟨t, _, _, _, htext, hwf, _, _⟩ := exists_of_spells hblank' hspells
          obtain ⟨first, more, hlexeme, _⟩ := head_not_mem_blanks hwf
          have hfirst : c = first := by
            rw [hlexeme] at htext
            exact (List.cons.inj htext).1
          rw [hfirst] at hopen hnone
          exact not_wellFormed_of_stray hl hopen hnone hlexeme hwf

theorem accounts_step (hl : letters.AgreeOnAscii .unicode) (hstate : state ≠ ended)
    (h : state.Holds letters pending.toList) (text : List Char) :
    (state.step letters pending text.head?).Accounts letters pending text := by
  cases state with
  | between => exact accounts_readBetween hl h
  | number => exact accounts_readNumber hl h
  | word => exact accounts_readWord hl h
  | arithmetic => exact accounts_readArithmetic hl h
  | string => exact accounts_readString h
  | equals => exact accounts_readEquals hl h
  | comparison => exact accounts_readComparison hl h
  | ended => exact absurd rfl hstate

end State

end LoopScript
