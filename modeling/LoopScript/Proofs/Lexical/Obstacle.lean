import Mathlib.Logic.ExistsUnique
import LoopScript.Proofs.Lexical.Boundary

/-! Where the reading of a text fails, and on what. The text of the error stands behind a text of
tokens, and what follows it shows the one reason for the error. -/
namespace LoopScript

open Text

/-- What the reading of a text stumbles on. -/
inductive Obstacle
  /-- A character that begins no token. -/
  | stray
  /-- A character that no number or word can end in front of. -/
  | broken
  /-- A sign that an equals sign has to go on with. -/
  | half
  /-- One equals sign too many. -/
  | overlong
  | unknownWord
  | openString
  deriving DecidableEq, Repr

/-- The obstacle is the reason for the error, with `rest` behind the text of the error. -/
inductive Obstacle.Explains (letters : Letters) : Obstacle → LexicalError → List Char → Prop
  | stray {c rest} (sign : c ∉ '"' :: delimiters) (digit : c.isDigit = false)
      (letter : letters.begins c = false) :
      Explains letters .stray ⟨.strayCharacter, some c, ""⟩ (c :: rest)
  | brokenNumber {text c rest} (number : State.number.Holds letters text.toList)
      (stops : c.isDigit = false) (apart : c ∉ delimiters) :
      Explains letters .broken ⟨.strayCharacter, some c, text⟩ (c :: rest)
  | brokenWord {text c rest} (word : State.word.Holds letters text.toList)
      (stops : letters.continues c = false) (apart : c ∉ delimiters) :
      Explains letters .broken ⟨.strayCharacter, some c, text⟩ (c :: rest)
  | half {text rest} (sign : text ∈ ["!", "<", ">"]) (next : rest.head? ≠ some '=') :
      Explains letters .half ⟨.unknownOperator, rest.head?, text⟩ rest
  | overlong {text rest} (signs : text ∈ ["====", "!===", ">==", "<=="])
      (last : text.toList.getLast? = some '=') :
      Explains letters .overlong ⟨.unknownOperator, some '=', text⟩ rest
  | unknownWord {text rest} (word : State.word.Holds letters text.toList)
      (name : isVariable text = false) (fixed : fixedKind? text = none)
      (ends : ∀ c ∈ rest.head?, c ∈ delimiters) :
      Explains letters .unknownWord ⟨.invalidWord, rest.head?, text⟩ rest
  | openString {text body} (opens : text.toList = '"' :: body) (inside : '"' ∉ body) :
      Explains letters .openString ⟨.openString, none, text⟩ []

namespace LexicalError

variable {letters : Letters} {error : LexicalError} {rest : List Char}

def obstacle (error : LexicalError) : Obstacle :=
  match error.fault with
  | .strayCharacter => if error.text = "" then .stray else .broken
  | .unknownOperator => if error.text ∈ ["!", "<", ">"] then .half else .overlong
  | .invalidWord => .unknownWord
  | .openString => .openString

theorem obstacle_eq {o : Obstacle} (h : o.Explains letters error rest) : error.obstacle = o := by
  cases h with
  | stray | unknownWord | openString => rfl
  | @brokenNumber text _ _ number =>
    have hne : text ≠ "" := by
      intro heq
      exact number.1 (by rw [heq]; rfl)
    simp [obstacle, hne]
  | @brokenWord text _ _ word =>
    have hne : text ≠ "" := by
      intro heq
      obtain ⟨first, more, htext, _⟩ := word
      simp [heq] at htext
    simp [obstacle, hne]
  | half sign => simp only [obstacle, sign, if_true]
  | @overlong text _ signs =>
    have hlong : ∀ text ∈ ["====", "!===", ">==", "<=="], text ∉ ["!", "<", ">"] := by decide
    simp only [obstacle, hlong text signs, if_false]

/-- The text begins with the text of the error, and an obstacle shows in the rest. -/
def Heads (letters : Letters) (error : LexicalError) (text : List Char) : Prop :=
  ∃ rest, text = error.text.toList ++ rest ∧ ∃ o : Obstacle, o.Explains letters error rest

end LexicalError

namespace State

open Step

variable {letters : Letters} {state : State} {pending pending' : String} {error : LexicalError}
  {text : List Char}

private theorem exists_of_not_atBoundary (h : ¬ atBoundary text.head? = true) :
    ∃ c rest, text = c :: rest ∧ c ∉ delimiters := by
  cases text with
  | nil => exact absurd rfl h
  | cons c rest =>
    rw [atBoundary_iff] at h
    exact ⟨c, rest, rfl, by simpa using h⟩

private theorem stops_of_filter {p : Char → Bool} {c : Char} {rest : List Char}
    (h : (c :: rest).head?.filter p = none) : p c = false := by
  simpa using Option.filter_eq_none_iff.mp h c rfl

theorem heads_of_between (h : between.Holds letters pending.toList)
    (hs : readBetween letters pending text.head? = (.error error, pending')) :
    error.Heads letters (pending.toList ++ text) := by
  have hpending : pending.toList = [] := h
  cases text with
  | nil => cases hs
  | cons c rest =>
    simp only [readBetween, List.head?_cons] at hs
    split at hs
    · cases hs
    · next hblank =>
      split at hs
      · cases hs
      · next hopen =>
        split at hs
        · cases hs
        · next hnone =>
          cases hs
          obtain ⟨hdigit, hbegins, hquote, harithmetic, hequals⟩ := of_opening?_eq_none hopen
          have hsign : c ∉ '"' :: delimiters := by
            rw [List.mem_cons, not_or, ← isBoundary_iff]
            refine ⟨hquote, ?_⟩
            simp only [equalsSigns, List.mem_cons, not_or] at hequals
            simp [isBoundary, hblank, hnone, harithmetic, hequals]
          exact ⟨c :: rest, by rw [hpending]; rfl, .stray, .stray hsign hdigit hbegins⟩

theorem heads_of_number (h : number.Holds letters pending.toList)
    (hs : readNumber pending text.head? = (.error error, pending')) :
    error.Heads letters (pending.toList ++ text) := by
  unfold readNumber at hs
  split at hs
  · cases hs
  · next hstops =>
    split at hs
    · cases hs
    · next hboundary =>
      cases hs
      obtain ⟨c, rest, rfl, hapart⟩ := exists_of_not_atBoundary hboundary
      exact ⟨c :: rest, rfl, .broken, .brokenNumber h (stops_of_filter hstops) hapart⟩

theorem heads_of_word (h : word.Holds letters pending.toList)
    (hs : readWord letters pending text.head? = (.error error, pending')) :
    error.Heads letters (pending.toList ++ text) := by
  unfold readWord at hs
  split at hs
  · cases hs
  · next hstops =>
    split at hs
    · next hboundary =>
      split at hs
      · cases hs
      · next hkind =>
        cases hs
        unfold wordKind? at hkind
        split at hkind
        · cases hkind
        · next hname =>
          have hname' : isVariable pending = false := by simpa using hname
          exact ⟨text, rfl, .unknownWord, .unknownWord h hname' hkind (atBoundary_iff.mp hboundary)⟩
    · next hboundary =>
      cases hs
      obtain ⟨c, rest, rfl, hapart⟩ := exists_of_not_atBoundary hboundary
      exact ⟨c :: rest, rfl, .broken, .brokenWord h (stops_of_filter hstops) hapart⟩

theorem heads_of_string (h : string.Holds letters pending.toList)
    (hs : readString pending text.head? = (.error error, pending')) :
    error.Heads letters (pending.toList ++ text) := by
  obtain ⟨body, hopens, hinside⟩ := h
  cases text with
  | nil =>
    cases hs
    exact ⟨[], rfl, .openString, .openString hopens hinside⟩
  | cons c rest =>
    simp only [readString, List.head?_cons] at hs
    split at hs
    · cases hs
    · cases hs

private theorem of_endSigns_error {c : Option Char}
    (hs : endSigns pending c = (.error error, pending')) :
    fixedKind? pending = none ∧ error = ⟨.unknownOperator, c, pending⟩ := by
  unfold endSigns at hs
  split at hs
  · cases hs
  · next hnone =>
    cases hs
    exact ⟨hnone, rfl⟩

theorem endSigns_ne_error (h : arithmetic.Holds letters pending.toList) {c : Option Char} :
    endSigns pending c ≠ (.error error, pending') := by
  have hsigns : ∀ sign ∈ arithmeticSigns, fixedKind? (String.singleton sign) ≠ none := by decide
  intro hs
  obtain ⟨sign, hsign, hpending⟩ := h
  obtain rfl : pending = String.singleton sign :=
    String.toList_inj.mp (hpending.trans (String.toList_singleton sign).symm)
  exact hsigns sign hsign (of_endSigns_error hs).1

theorem heads_of_comparison (h : comparison.Holds letters pending.toList)
    (hs : readComparison pending text.head? = (.error error, pending')) :
    error.Heads letters (pending.toList ++ text) := by
  have hpush : (pending.push '=').toList = pending.toList ++ ['='] := String.toList_push '='
  unfold readComparison at hs
  split at hs
  · next hnext =>
    obtain ⟨rest, rfl⟩ := List.head?_eq_some_iff.mp hnext
    split at hs
    · cases hs
    · next hnone =>
      cases hs
      have hlong : ∀ signs ∈ comparisonTexts, fixedKind? (String.ofList (signs ++ ['='])) = none →
          String.ofList (signs ++ ['=']) ∈ ["====", "!===", ">==", "<=="] := by decide
      have hsigns : pending.push '=' ∈ ["====", "!===", ">==", "<=="] := by
        have hlist : String.ofList (pending.toList ++ ['=']) = pending.push '=' := by
          rw [← hpush, String.ofList_toList]
        rw [← hlist] at hnone ⊢
        exact hlong _ h (by simpa using hnone)
      refine ⟨rest, ?_, .overlong, .overlong hsigns (by simp [hpush])⟩
      rw [hpush, List.append_assoc]
      rfl
  · next hnext =>
    obtain ⟨hnone, rfl⟩ := of_endSigns_error hs
    have hhalf : ∀ signs ∈ comparisonTexts, fixedKind? (String.ofList signs) = none →
        String.ofList signs ∈ ["!", "<", ">"] := by decide
    rw [← @String.ofList_toList pending] at hnone
    have hsign := hhalf _ h hnone
    rw [String.ofList_toList] at hsign
    exact ⟨text, rfl, .half, .half hsign hnext⟩

/-- A step fails only on an obstacle. -/
theorem heads_of_step (h : state.Holds letters pending.toList)
    (hs : state.step letters pending text.head? = (.error error, pending')) :
    error.Heads letters (pending.toList ++ text) := by
  cases state with
  | between => exact heads_of_between h hs
  | number => exact heads_of_number h hs
  | word => exact heads_of_word h hs
  | arithmetic => exact absurd hs (endSigns_ne_error h)
  | string => exact heads_of_string h hs
  | equals =>
    simp only [step, readEquals] at hs
    split at hs
    · cases hs
    · cases hs
  | comparison => exact heads_of_comparison h hs
  | ended => cases hs

end State

namespace Scanner

variable {letters : Letters} {s s' : Scanner} {error : LexicalError} {text : List Char}

theorem heads_of_step (h : s.Reads letters) (hs : s.step letters text.head? = .error error) :
    error.Heads letters (s.pending.toList ++ text) := by
  unfold step at hs
  split at hs
  · next hstep =>
    cases hs
    exact State.heads_of_step h.2 hstep
  · cases hs

/-- The scanner has read this much of a text. What is pending stands behind a text that has the
tokens so far. -/
structure Reached (letters : Letters) (read : List Char) (s : Scanner) : Prop where
  reads : s.Reads letters
  finish : ∀ text, (fresh #[]).finish letters (read ++ text) = s.finish letters text
  split : ∃ front, read = front ++ s.pending.toList ∧
    (fresh #[]).finish letters front = .ok s.tokens.toList

theorem reached_nil (letters : Letters) : Reached letters [] (fresh #[]) :=
  ⟨reads_fresh #[], fun _ => rfl, [], rfl, rfl⟩

variable {read : List Char}

theorem Reached.of_again (hl : letters.AgreeOnAscii .unicode) (h : Reached letters read s)
    {c : Option Char} (hs : s.step letters c = .ok (.again, s')) :
    (fresh #[]).finish letters read = .ok s'.tokens.toList := by
  rw [← List.append_nil read, h.finish, finish_nil, feed_of_again hl h.reads.1 hs .none,
    feed_fresh_none]
  rfl

/-- The step that decides on a character starts where the scanner stands, or behind the token that
ends there. -/
theorem Reached.exists_step (hl : letters.AgreeOnAscii .unicode) (h : Reached letters read s)
    (c : Option Char) : ∃ (s₀ : Scanner) (front : List Char), s₀.Reads letters ∧
      read = front ++ s₀.pending.toList ∧
      (fresh #[]).finish letters front = .ok s₀.tokens.toList ∧
      s.feed letters c = (s₀.step letters c).map Prod.snd ∧
      ∀ s', s₀.step letters c ≠ .ok (.again, s') := by
  obtain ⟨front, hread, hfront⟩ := h.split
  cases hs : s.step letters c with
  | error error =>
    exact ⟨s, front, h.reads, hread, hfront, by simp [feed, hs, Except.map], by simp [hs]⟩
  | ok result =>
    obtain ⟨reading, s₁⟩ := result
    cases reading with
    | consumed =>
      exact ⟨s, front, h.reads, hread, hfront, by simp [feed, hs, Except.map], by simp [hs]⟩
    | again =>
      rcases cases_of_step h.reads.1 hs with ⟨_, _, hfresh⟩ | ⟨hconsumed, _⟩
      · have hend : (fresh #[]).finish letters read = .ok s₁.tokens.toList := h.of_again hl hs
        refine ⟨fresh s₁.tokens, read, reads_fresh _, (List.append_nil read).symm, hend, ?_,
          step_fresh_ne_again _ c⟩
        rw [← hfresh]
        simp only [feed, hs]
      · cases hconsumed

theorem Reached.feed (hl : letters.AgreeOnAscii .unicode) (h : Reached letters read s) {c : Char}
    (hf : s.feed letters (some c) = .ok s') : Reached letters (read ++ [c]) s' := by
  have hreads : s'.Reads letters := h.reads.feed hl hf
  have hfinish (text : List Char) :
      (fresh #[]).finish letters (read ++ [c] ++ text) = s'.finish letters text := by
    rw [List.append_assoc, List.singleton_append, h.finish, finish_cons, hf]
    rfl
  refine ⟨hreads, hfinish, ?_⟩
  obtain ⟨s₀, front, hreads₀, hread, hfront, hstep, hnot⟩ := h.exists_step hl (some c)
  cases hs : s₀.step letters (some c) with
  | error error => simp [hstep, hs, Except.map] at hf
  | ok result =>
    obtain ⟨reading, s''⟩ := result
    obtain rfl : s'' = s' := by simpa [hstep, hs, Except.map] using hf
    rcases cases_of_step hreads₀.1 hs with
      ⟨rfl, _⟩ | ⟨_, ⟨_, hc, _⟩ | ⟨d, hd, hstate | ⟨htokens, hpending⟩⟩⟩
    · exact absurd hs (hnot s'')
    · cases hc
    · have hfresh : s'' = fresh s''.tokens := eq_fresh hreads hstate
      have hend := hfinish []
      rw [List.append_nil] at hend
      refine ⟨read ++ [c], ?_, ?_⟩
      · rw [hfresh]
        exact (List.append_nil _).symm
      · rw [hend, hfresh, finish_nil, feed_fresh_none]
        rfl
    · cases hd
      refine ⟨front, ?_, htokens ▸ hfront⟩
      rw [hread, hpending, String.toList_push, List.append_assoc]

private theorem Reached.exists_of_feed (hl : letters.AgreeOnAscii .unicode)
    (h : Reached letters read s) (hf : s.feed letters text.head? = .error error) :
    ∃ front tokens behind, read ++ text = front ++ behind ∧
      (fresh #[]).finish letters front = .ok tokens ∧ error.Heads letters behind := by
  obtain ⟨s₀, front, hreads, hread, hfront, hstep, _⟩ := h.exists_step hl text.head?
  cases hs : s₀.step letters text.head? with
  | ok result => simp [hstep, hs, Except.map] at hf
  | error error' =>
    obtain rfl : error' = error := by simpa [hstep, hs, Except.map] using hf
    refine ⟨front, _, s₀.pending.toList ++ text, ?_, hfront, heads_of_step hreads hs⟩
    rw [hread, List.append_assoc]

theorem Reached.exists_of_finish (hl : letters.AgreeOnAscii .unicode) (h : Reached letters read s)
    (hf : s.finish letters text = .error error) :
    ∃ front tokens behind, read ++ text = front ++ behind ∧
      (fresh #[]).finish letters front = .ok tokens ∧ error.Heads letters behind := by
  induction text generalizing read s with
  | nil =>
    rw [finish_nil] at hf
    cases hend : s.feed letters none with
    | ok s' => simp [hend, Except.map] at hf
    | error error' =>
      obtain rfl : error' = error := by simpa [hend, Except.map] using hf
      exact h.exists_of_feed hl hend
  | cons c text ih =>
    rw [finish_cons] at hf
    cases hfeed : s.feed letters (some c) with
    | error error' =>
      obtain rfl : error' = error := by simpa [hfeed, Except.bind] using hf
      exact h.exists_of_feed hl hfeed
    | ok s' =>
      rw [hfeed] at hf
      rw [← List.singleton_append, ← List.append_assoc]
      exact ih (h.feed hl hfeed) hf

end Scanner

/-- A text that has no tokens begins with one that has. The text of the error stands behind it, and
shows with what follows the one obstacle. -/
theorem tokenize_error {source : String} {error : LexicalError}
    (h : tokenize source = .error error) :
    ∃ front rest : String, source = front ++ error.text ++ rest ∧
      (∃ tokens, tokenize front = .ok tokens) ∧
      ∃! obstacle : Obstacle, obstacle.Explains .unicode error rest.toList := by
  have hagree : Letters.unicode.AgreeOnAscii .unicode := fun _ _ => ⟨rfl, rfl⟩
  obtain ⟨front, tokens, behind, hsource, hfront, rest, hbehind, obstacle, hexplains⟩ :=
    (Scanner.reached_nil .unicode).exists_of_finish hagree h
  refine ⟨String.ofList front, String.ofList rest, ?_, ⟨tokens, ?_⟩, obstacle, ?_, ?_⟩
  · apply String.toList_inj.mp
    rw [List.nil_append, hbehind] at hsource
    simpa using hsource
  · rw [tokenize, tokenizeWith_eq_finish, String.toList_ofList]
    exact hfront
  · simpa using hexplains
  · intro other hother
    rw [String.toList_ofList] at hother
    exact (LexicalError.obstacle_eq hother).symm.trans (LexicalError.obstacle_eq hexplains)

theorem tokenize_error_overlong :
    tokenize "a ====b" = .error ⟨.unknownOperator, some '=', "===="⟩ ∧
      ∃ front rest : String, "a ====b" = front ++ "====" ++ rest ∧
        (∃ tokens, tokenize front = .ok tokens) ∧ ∃! obstacle : Obstacle,
          obstacle.Explains .unicode ⟨.unknownOperator, some '=', "===="⟩ rest.toList := by
  have hfails : tokenize "a ====b" = .error ⟨.unknownOperator, some '=', "===="⟩ := by decide
  exact ⟨hfails, tokenize_error hfails⟩

end LoopScript
