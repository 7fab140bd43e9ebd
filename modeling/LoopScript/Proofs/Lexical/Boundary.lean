import LoopScript.Proofs.Lexical.Acceptance

/-! Texts one behind the other. A token that can end with its text can as well end in front of a
delimiter that goes on with no sign, and what stands behind it is read as a text of its own. -/
namespace LoopScript

open Text

/-- What ends with the text, and is no string, ends here too. -/
def Closes (next : Option Char) : Prop := ∀ c ∈ next, c ∈ delimiters ∧ c ≠ '='

namespace Closes

variable {next : Option Char}

theorem none : Closes none := by simp [Closes]

theorem ne_equals (h : Closes next) : next ≠ some '=' := fun heq => (h '=' heq).2 rfl

theorem atBoundary (h : Closes next) : State.atBoundary next = true :=
  atBoundary_iff.mpr fun c hc => (h c hc).1

theorem filter_eq_none (h : Closes next) {p : Char → Bool} (hp : ∀ c ∈ delimiters, p c = false) :
    next.filter p = Option.none := by
  rw [Option.filter_eq_none_iff]
  intro c hc
  simp [hp c (h c hc).1]

end Closes

namespace State

open Step

/-- What a step can do while the text has not ended. -/
inductive Moves (state : State) (pending : String) : Option Char → Step → Prop
  /-- The pending text is a token, and ends in front of the character. -/
  | ends {c kind} (inside : state ≠ between) : Moves state pending c (complete kind pending .again)
  | stops (outside : state = between) : Moves state pending none (proceed ended pending)
  /-- The character is the last of a token, or part of none. -/
  | settles {c emitted pending'} :
      Moves state pending (some c) (.ok ⟨between, .consumed, emitted⟩, pending')
  | gathers {c state'} : Moves state pending (some c) (proceed state' (pending.push c))
  | fails {c error pending'} : Moves state pending c (.error error, pending')

variable {letters : Letters} {state : State} {pending : String} {kind : Kind}
  {c next : Option Char}

private theorem moves_endSigns (inside : state ≠ between) :
    Moves state pending c (endSigns pending c) := by
  unfold endSigns
  split
  · exact .ends inside
  · exact .fails

theorem moves_step (h : state ≠ ended) : Moves state pending c (state.step letters pending c) := by
  cases state with
  | ended => exact absurd rfl h
  | between =>
    simp only [step, readBetween]
    split
    · exact .stops rfl
    · split
      · exact .settles
      · split
        · exact .gathers
        · split
          · exact .settles
          · exact .fails
  | number =>
    simp only [step, readNumber]
    split
    · next d hd =>
      obtain ⟨rfl, _⟩ := Option.filter_eq_some_iff.mp hd
      exact .gathers
    · split
      · exact .ends (by simp)
      · exact .fails
  | word =>
    simp only [step, readWord]
    split
    · next d hd =>
      obtain ⟨rfl, _⟩ := Option.filter_eq_some_iff.mp hd
      exact .gathers
    · split
      · split
        · exact .ends (by simp)
        · exact .fails
      · exact .fails
  | arithmetic => exact moves_endSigns (by simp)
  | string =>
    simp only [step, readString]
    split
    · exact .fails
    · split
      · exact .settles
      · exact .gathers
  | equals =>
    simp only [step, readEquals]
    split
    · next hc =>
      rw [hc]
      exact .gathers
    · exact .ends (by simp)
  | comparison =>
    simp only [step, readComparison]
    split
    · next hc =>
      rw [hc]
      split
      · exact .gathers
      · exact .fails
    · exact moves_endSigns (by simp)

private theorem endSigns_eq_complete (h : endSigns pending c = complete kind pending .again)
    (next : Option Char) : endSigns pending next = complete kind pending .again := by
  unfold endSigns at h ⊢
  split at h
  · exact h
  · cases h

/-- A token that ends in front of one character ends in front of any that closes. -/
theorem step_eq_complete (hl : letters.AgreeOnAscii .unicode)
    (h : state.step letters pending c = complete kind pending .again) (hnext : Closes next) :
    state.step letters pending next = complete kind pending .again := by
  cases state with
  | between | string =>
    simp only [step, readBetween, readString] at h
    repeat' split at h
    all_goals cases h
  | number =>
    have hdigit : next.filter Char.isDigit = none :=
      hnext.filter_eq_none fun c hc => isDigit_eq_false (delimiters_ascii c hc).2
    simp only [step, readNumber, hdigit, hnext.atBoundary, if_true] at h ⊢
    split at h
    · cases h
    · split at h
      · exact h
      · cases h
  | word =>
    have hletter : next.filter letters.continues = none := by
      apply hnext.filter_eq_none
      intro c hc
      obtain ⟨hascii, hnot⟩ := delimiters_ascii c hc
      rw [continues_of_isAscii hl hascii, hnot]
    simp only [step, readWord, hletter, hnext.atBoundary, if_true] at h ⊢
    split at h
    · cases h
    · split at h
      · split at h
        · exact h
        · cases h
      · cases h
  | arithmetic => exact endSigns_eq_complete h next
  | equals =>
    simp only [step, readEquals, hnext.ne_equals, if_false] at h ⊢
    split at h
    · cases h
    · exact h
  | comparison =>
    simp only [step, readComparison, hnext.ne_equals, if_false] at h ⊢
    repeat' split at h
    · cases h
    · cases h
    · exact endSigns_eq_complete h next
  | ended => cases h

end State

namespace Scanner

variable {letters : Letters} {s s' : Scanner} {tokens : Array Token} {reading : Reading}
  {c next : Option Char} {text : List Char}

theorem eq_fresh (h : s.Reads letters) (hstate : s.state = .between) : s = fresh s.tokens := by
  obtain ⟨state, pending, tokens⟩ := s
  obtain rfl : state = .between := hstate
  obtain rfl : pending = "" := String.toList_inj.mp h.2
  rfl

private theorem exists_moves (h : s.state ≠ .ended)
    (hs : s.step letters c = .ok (reading, s')) : ∃ t pending,
      s.state.step letters s.pending c = (.ok t, pending) ∧
      State.Moves s.state s.pending c (.ok t, pending) ∧ t.reading = reading ∧
      (⟨t.state, pending, s.tokens ++ t.emitted.toArray⟩ : Scanner) = s' := by
  unfold step at hs
  split at hs
  · cases hs
  · next t pending hstep =>
    simp only [Except.ok.injEq, Prod.mk.injEq] at hs
    exact ⟨t, pending, hstep, hstep ▸ State.moves_step h, hs⟩

theorem cases_of_step (h : s.state ≠ .ended) (hs : s.step letters c = .ok (reading, s')) :
    (reading = .again ∧ s.state ≠ .between ∧ s' = fresh s'.tokens) ∨
      reading = .consumed ∧ (s.state = .between ∧ c = none ∧ s'.tokens = s.tokens ∨
        ∃ d, c = some d ∧ (s'.state = .between ∨
          s'.tokens = s.tokens ∧ s'.pending = s.pending.push d)) := by
  obtain ⟨t, pending, _, hmoves, rfl, rfl⟩ := exists_moves h hs
  cases hmoves with
  | ends inside => exact .inl ⟨rfl, inside, rfl⟩
  | stops outside => exact .inr ⟨rfl, .inl ⟨outside, rfl, Array.append_empty⟩⟩
  | @settles c => exact .inr ⟨rfl, .inr ⟨c, rfl, .inl rfl⟩⟩
  | @gathers c => exact .inr ⟨rfl, .inr ⟨c, rfl, .inr ⟨Array.append_empty, rfl⟩⟩⟩

theorem step_of_again (hl : letters.AgreeOnAscii .unicode) (h : s.state ≠ .ended)
    (hs : s.step letters c = .ok (.again, s')) (hnext : Closes next) :
    s.step letters next = .ok (.again, s') := by
  obtain ⟨t, pending, hstep, hmoves, hagain, rfl⟩ := exists_moves h hs
  cases hmoves with
  | ends =>
    unfold step
    rw [State.step_eq_complete hl hstep hnext]
    rfl
  | stops | settles | gathers => cases hagain

theorem step_fresh_ne_again (tokens : Array Token) (c : Option Char) (s' : Scanner) :
    (fresh tokens).step letters c ≠ .ok (.again, s') := by
  intro hs
  rcases cases_of_step (by simp [fresh]) hs with ⟨_, inside, _⟩ | ⟨hconsumed, _⟩
  · exact inside rfl
  · cases hconsumed

theorem feed_fresh (tokens : Array Token) (c : Option Char) :
    (fresh tokens).feed letters c = ((fresh tokens).step letters c).map Prod.snd := by
  unfold feed
  split
  · next hs => rw [hs]; rfl
  · next hs => rw [hs]; rfl
  · next hs => exact absurd hs (step_fresh_ne_again tokens c _)

theorem feed_fresh_none (tokens : Array Token) :
    (fresh tokens).feed letters none = .ok ⟨.ended, "", tokens⟩ := by
  have hfeed : (fresh tokens).feed letters none = .ok ⟨.ended, "", tokens ++ #[]⟩ := rfl
  rw [hfeed, Array.append_empty]

theorem feed_of_again (hl : letters.AgreeOnAscii .unicode) (h : s.state ≠ .ended)
    (hs : s.step letters c = .ok (.again, s')) (hnext : Closes next) :
    s.feed letters next = (fresh s'.tokens).feed letters next := by
  rcases cases_of_step h hs with ⟨_, _, hfresh⟩ | ⟨hconsumed, _⟩
  · rw [feed_fresh, ← hfresh]
    unfold feed
    rw [step_of_again hl h hs hnext]
  · cases hconsumed

/-- A scanner that can end is as good as a fresh one in front of all that closes. -/
theorem feed_of_end (hl : letters.AgreeOnAscii .unicode) (h : s.Reads letters)
    (hend : s.feed letters none = .ok s') (hnext : Closes next) :
    s.feed letters next = (fresh s'.tokens).feed letters next := by
  have hfeed := hend
  unfold feed at hend
  split at hend
  · cases hend
  · next hs =>
    cases hend
    rcases cases_of_step h.1 hs with ⟨hagain, _⟩ | ⟨_, ⟨hstate, _, htokens⟩ | ⟨d, hd, _⟩⟩
    · cases hagain
    · rw [htokens, ← eq_fresh h hstate]
    · cases hd
  · next s₁ hs =>
    have hnone : s.feed letters none = (fresh s₁.tokens).feed letters none :=
      feed_of_again hl h.1 hs .none
    rw [hfeed, feed_fresh_none, Except.ok.injEq] at hnone
    have htokens : s'.tokens = s₁.tokens := by rw [hnone]
    rw [htokens]
    exact feed_of_again hl h.1 hs hnext

theorem finish_congr (h : s.feed letters text.head? = s'.feed letters text.head?) :
    s.finish letters text = s'.finish letters text := by
  cases text with
  | nil => rw [finish_nil, finish_nil, ← List.head?_nil, h]
  | cons c text => rw [finish_cons, finish_cons, ← List.head?_cons, h]

/-- A text that closes what is in front of it is read as by a fresh scanner. -/
theorem finish_append (hl : letters.AgreeOnAscii .unicode) (h : s.Reads letters)
    {front : List Token} (hs : s.finish letters text = .ok front) {behind : List Char}
    (hnext : Closes behind.head?) :
    s.finish letters (text ++ behind) = (fresh front.toArray).finish letters behind := by
  induction text generalizing s with
  | nil =>
    rw [finish_nil] at hs
    cases hf : s.feed letters none with
    | error error => simp [hf, Except.map] at hs
    | ok s' =>
      simp only [hf, Except.map, Except.ok.injEq] at hs
      rw [← hs, Array.toArray_toList, List.nil_append]
      exact finish_congr (feed_of_end hl h hf hnext)
  | cons c text ih =>
    rw [finish_cons] at hs
    rw [List.cons_append, finish_cons]
    cases hf : s.feed letters (some c) with
    | error error => simp [hf, Except.bind] at hs
    | ok s' =>
      rw [hf] at hs
      exact ih (h.feed hl hf) hs

/-! ### Scanners with tokens in front of theirs -/

def behind (front : Array Token) (s : Scanner) : Scanner := { s with tokens := front ++ s.tokens }

variable (front : Array Token)

theorem step_behind (s : Scanner) (c : Option Char) :
    (s.behind front).step letters c = (s.step letters c).map (Prod.map id (behind front)) := by
  unfold step
  cases hstep : s.state.step letters s.pending c with
  | mk result pending =>
    have hstep' : (s.behind front).state.step letters (s.behind front).pending c =
        (result, pending) := hstep
    rw [hstep']
    cases result with
    | error error => rfl
    | ok t => simp [Except.map, behind, Array.append_assoc]

theorem feed_behind (s : Scanner) (c : Option Char) :
    (s.behind front).feed letters c = (s.feed letters c).map (behind front) := by
  unfold feed
  rw [step_behind]
  cases s.step letters c with
  | error error => rfl
  | ok result =>
    obtain ⟨reading, s'⟩ := result
    cases reading with
    | consumed => rfl
    | again =>
      simp only [Except.map, Prod.map, id, step_behind]
      cases s'.step letters c <;> rfl

theorem finish_behind (s : Scanner) (text : List Char) :
    (s.behind front).finish letters text = (s.finish letters text).map (front.toList ++ ·) := by
  induction text generalizing s with
  | nil =>
    rw [finish_nil, finish_nil, feed_behind]
    cases s.feed letters none with
    | error error => rfl
    | ok s' => simp [Except.map, behind]
  | cons c text ih =>
    rw [finish_cons, finish_cons, feed_behind]
    cases s.feed letters (some c) with
    | error error => rfl
    | ok s' => exact ih s'

end Scanner

theorem tokenizeWith_append {letters : Letters} (hl : letters.AgreeOnAscii .unicode)
    {source behind : String} {front : List Token}
    (hsource : tokenizeWith letters source = .ok front) (hnext : Closes behind.toList.head?) :
    tokenizeWith letters (source ++ behind) = (tokenizeWith letters behind).map (front ++ ·) := by
  have hfresh : Scanner.fresh front.toArray = (Scanner.fresh #[]).behind front.toArray := by
    simp [Scanner.fresh, Scanner.behind]
  rw [tokenizeWith_eq_finish, String.toList_append,
    Scanner.finish_append hl (Scanner.reads_fresh #[]) hsource hnext, hfresh,
    Scanner.finish_behind]
  rfl

/-- A text that begins with a delimiter, an equals sign apart, has the tokens and the faults behind
another text that it has by itself. -/
theorem tokenize_append {source behind : String} {front : List Token}
    (hsource : tokenize source = .ok front)
    (hnext : ∀ c ∈ behind.toList.head?, c ∈ delimiters ∧ c ≠ '=') :
    (∀ tokens, tokenize behind = .ok tokens →
        tokenize (source ++ behind) = .ok (front ++ tokens)) ∧
      ∀ error, tokenize behind = .error error → tokenize (source ++ behind) = .error error := by
  have hboth := tokenizeWith_append (fun _ _ => ⟨rfl, rfl⟩) hsource hnext
  constructor
  · intro tokens hbehind
    exact hboth.trans (congrArg _ hbehind)
  · intro error hbehind
    exact hboth.trans (congrArg _ hbehind)

/-- A semicolon ends the name, and half a sign fails behind it as it does alone. -/
theorem tokenize_append_signs :
    tokenize "x" = .ok [⟨.identifier, "x"⟩] ∧
      tokenize ("x" ++ ";") = .ok ([⟨.identifier, "x"⟩] ++ [⟨.semicolon, ";"⟩]) ∧
      tokenize ("x" ++ "<1") = .error ⟨.unknownOperator, some '1', "<"⟩ := by
  have hname : tokenize "x" = .ok [⟨.identifier, "x"⟩] := rfl
  have hsemicolon : ∀ c ∈ ";".toList.head?, c ∈ delimiters ∧ c ≠ '=' := by
    intro c hc
    cases hc
    decide
  have hless : ∀ c ∈ "<1".toList.head?, c ∈ delimiters ∧ c ≠ '=' := by
    intro c hc
    cases hc
    decide
  exact ⟨hname, (tokenize_append hname hsemicolon).1 _ rfl, (tokenize_append hname hless).2 _ rfl⟩

end LoopScript
