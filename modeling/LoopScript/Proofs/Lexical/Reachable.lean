import LoopScript.Proofs.Lexical.Conservation
import LoopScript.Proofs.Lexical.Loop

/-! What is pending wherever the loop of the tokenizer comes by, and what it has made of the text by
then. The state settles the shape of what is pending, and each turn keeps the text. -/
namespace LoopScript

open Text

/-- The text is the lexemes in order, with blanks before, between and behind them. -/
inductive Interleaves : List Token → List Char → Prop
  | nil : Interleaves [] []
  | blank {tokens text c} (front : Interleaves tokens text) (blank : c ∈ blanks) :
      Interleaves tokens (text ++ [c])
  | token {tokens text} (front : Interleaves tokens text) (t : Token) :
      Interleaves (tokens ++ [t]) (text ++ t.lexeme.toList)

namespace State

variable {state : State} {text : List Char}

theorem taken_append_left (h : ∀ c ∈ text.head?, state.drops c = false) (reading : Reading) :
    state.taken text.head? reading ++ reading.left text = text := by
  cases reading with
  | again => rfl
  | consumed =>
    cases text with
    | nil => rfl
    | cons c rest =>
      have hc : state.drops c = false := h c rfl
      simp [taken, Option.filter_some, Reading.left, hc]

theorem step_of_drops (letters : Letters) (pending : String) {c : Char}
    (h : state.drops c = true) :
    state = between ∧ isBlank c = true ∧
      state.step letters pending (some c) = Step.proceed between pending := by
  have hboth : state = between ∧ isBlank c = true := by simpa [drops] using h
  obtain ⟨rfl, hblank⟩ := hboth
  exact ⟨rfl, hblank, if_pos hblank⟩

end State

namespace Scan

/-- The loop comes by this scan. -/
inductive IsReached (letters : Letters) (source : String) : Scan → Prop
  | start : IsReached letters source (start source)
  | turn {s s' : Scan} {reading : Reading} (reached : IsReached letters source s)
      (inside : s.scanner.state ≠ .ended) (turn : s.turn letters = .ok (reading, s')) :
      IsReached letters source s'

/-- What was consumed of a text is the tokens so far, with blanks between them, and what is
pending. -/
def Splits (text : List Char) (s : Scan) : Prop :=
  ∃ front, text = front ++ s.scanner.pending.toList ++ s.rest ∧
    Interleaves s.scanner.tokens.toList front

variable {letters : Letters} {source : String} {text : List Char} {s s' : Scan} {reading : Reading}

theorem exists_step_of_turn (h : s.turn letters = .ok (reading, s')) : ∃ t pending,
    s.scanner.state.step letters s.scanner.pending s.rest.head? = (.ok t, pending) ∧
      s' = ⟨⟨t.state, pending, s.scanner.tokens ++ t.emitted.toArray⟩, t.reading.left s.rest⟩ := by
  cases hstep : s.scanner.state.step letters s.scanner.pending s.rest.head? with
  | mk verdict pending =>
    cases verdict with
    | error error => simp [turn_of_error hstep] at h
    | ok t =>
      simp only [turn_of_step hstep, Except.ok.injEq, Prod.mk.injEq] at h
      exact ⟨t, pending, rfl, h.2.symm⟩

theorem pending_of_holds (hholds : s.scanner.state.Holds letters s.scanner.pending.toList)
    (hstate : s.scanner.state = .between) : s.scanner.pending = "" := by
  rw [hstate] at hholds
  exact String.toList_inj.mp hholds

theorem splits_of_drops (hsplits : s.Splits text)
    (hholds : s.scanner.state.Holds letters s.scanner.pending.toList) {c : Char}
    (hc : s.rest.head? = some c) (hdrops : s.scanner.state.drops c = true)
    (h : s.turn letters = .ok (reading, s')) : s'.Splits text := by
  obtain ⟨front, htext, hfront⟩ := hsplits
  obtain ⟨rest, hrest⟩ := List.head?_eq_some_iff.mp hc
  obtain ⟨hstate, hblank, hstep⟩ := State.step_of_drops letters s.scanner.pending hdrops
  have hpending : s.scanner.pending = "" := pending_of_holds hholds hstate
  rw [← hc] at hstep
  rw [turn_of_step hstep] at h
  cases h
  refine ⟨front ++ [c], ?_, ?_⟩
  · simp [htext, hrest, hpending, Reading.left]
  · simpa using hfront.blank (isBlank_iff.mp hblank)

/-- A turn drops a blank, or moves the character that it takes in behind what is pending, and what a
token takes away from there in front of it. -/
theorem splits_of_turn (hsplits : s.Splits text) (inside : s.scanner.state ≠ .ended)
    (hholds : s.scanner.state.Holds letters s.scanner.pending.toList)
    (h : s.turn letters = .ok (reading, s')) : s'.Splits text := by
  -- A dropped blank comes behind the tokens and not behind what is pending, which is empty then.
  by_cases hdrops : ∃ c, s.rest.head? = some c ∧ s.scanner.state.drops c = true
  · obtain ⟨c, hc, hdrops⟩ := hdrops
    exact splits_of_drops hsplits hholds hc hdrops h
  · obtain ⟨front, htext, hfront⟩ := hsplits
    obtain ⟨t, pending, hstep, rfl⟩ := exists_step_of_turn h
    have hkept : ∀ c ∈ s.rest.head?, s.scanner.state.drops c = false := by simpa using hdrops
    have hrest := State.taken_append_left hkept t.reading
    have hconserves := State.conserves_step letters inside (pending_of_holds hholds) s.rest.head?
    rw [hstep] at hconserves
    have hkeeps := hconserves.text
    let lexeme := t.emitted.elim [] fun token => token.lexeme.toList
    refine ⟨front ++ lexeme, ?_, ?_⟩
    · calc text
          = front ++ s.scanner.pending.toList ++ s.rest := htext
        _ = front ++ (s.scanner.pending.toList ++ s.scanner.state.taken s.rest.head? t.reading) ++
              t.reading.left s.rest := by
          rw [← List.append_assoc, List.append_assoc _ _ (t.reading.left s.rest), hrest]
        _ = front ++ (lexeme ++ pending.toList) ++ t.reading.left s.rest := by rw [hkeeps]
        _ = front ++ lexeme ++ pending.toList ++ t.reading.left s.rest := by
          rw [← List.append_assoc front]
    · cases hemitted : t.emitted with
      | none => simpa [lexeme, hemitted] using hfront
      | some token => simpa [lexeme, hemitted] using hfront.token token

theorem holds_of_turn (hl : letters.AgreeOnAscii .unicode) (inside : s.scanner.state ≠ .ended)
    (hholds : s.scanner.state.Holds letters s.scanner.pending.toList)
    (h : s.turn letters = .ok (reading, s')) :
    s'.scanner.state.Holds letters s'.scanner.pending.toList :=
  (Scanner.covers_of_step hl ⟨inside, hholds⟩ (step_of_turn h).1).1

theorem IsReached.invariant (hl : letters.AgreeOnAscii .unicode) (h : IsReached letters source s) :
    s.scanner.state.Holds letters s.scanner.pending.toList ∧ s.Splits source.toList := by
  induction h with
  | start => exact ⟨rfl, [], rfl, .nil⟩
  | turn _ inside turn ih =>
    obtain ⟨hholds, hsplits⟩ := ih
    exact ⟨holds_of_turn hl inside hholds turn, splits_of_turn hsplits inside hholds turn⟩

/-- Wherever the loop comes by, what is pending has the shape of the state, and stands behind the
tokens so far and the blanks between them. So arithmetic signs that are pending are always a token, and
nothing stays pending behind a token. -/
theorem shape_of_reached (h : IsReached .unicode source s) :
    s.scanner.state.Holds .unicode s.scanner.pending.toList ∧
      (∃ consumed front, source.toList = consumed ++ s.rest ∧
        consumed = front ++ s.scanner.pending.toList ∧
        Interleaves s.scanner.tokens.toList front) ∧
      (s.scanner.state = .arithmetic → ∃ kind, fixedKind? s.scanner.pending = some kind) ∧
      ∀ t pending,
        s.scanner.state.step .unicode s.scanner.pending s.rest.head? = (.ok t, pending) →
        t.emitted ≠ none → pending = "" := by
  obtain ⟨hholds, front, htext, hfront⟩ := h.invariant (.refl _)
  refine ⟨hholds, ⟨_, front, htext, rfl, hfront⟩, ?_, ?_⟩
  · intro hstate
    have hsigns : ∀ sign ∈ arithmeticSigns, (fixedKind? (String.singleton sign)).isSome := by decide
    rw [hstate] at hholds
    obtain ⟨sign, hsign, hpending⟩ := hholds
    have hsingle : s.scanner.pending = String.singleton sign :=
      String.toList_inj.mp (hpending.trans (String.toList_singleton sign).symm)
    rw [hsingle]
    exact Option.isSome_iff_exists.mp (hsigns sign hsign)
  · intro t pending hstep hemitted
    by_cases hstate : s.scanner.state = .ended
    · rw [hstate] at hstep
      cases hstep
      exact absurd rfl hemitted
    · have hconserves :=
        State.conserves_step .unicode hstate (pending_of_holds hholds) s.rest.head?
      rw [hstep] at hconserves
      exact (hconserves.emits hemitted).2

/-- A sign behind a name and a blank. The name has ended in front of the blank. -/
theorem shape_of_reached_sign :
    let s : Scan := ⟨⟨.arithmetic, "+", #[⟨.identifier, "x"⟩]⟩, ['1']⟩
    IsReached .unicode "x +1" s ∧ s.scanner.state.Holds .unicode s.scanner.pending.toList ∧
      ∃ consumed front, "x +1".toList = consumed ++ s.rest ∧
        consumed = front ++ s.scanner.pending.toList ∧
        Interleaves s.scanner.tokens.toList front := by
  intro s
  have hword : IsReached .unicode "x +1" ⟨⟨.word, "x", #[]⟩, [' ', '+', '1']⟩ :=
    .turn .start (by decide) rfl
  have hname : IsReached .unicode "x +1" ⟨.fresh #[⟨.identifier, "x"⟩], [' ', '+', '1']⟩ :=
    .turn hword (by decide) rfl
  have hblank : IsReached .unicode "x +1" ⟨.fresh #[⟨.identifier, "x"⟩], ['+', '1']⟩ :=
    .turn hname (by decide) rfl
  have hsign : IsReached .unicode "x +1" s := .turn hblank (by decide) rfl
  obtain ⟨hholds, hconsumed, _⟩ := shape_of_reached hsign
  exact ⟨hsign, hholds, hconsumed⟩

end Scan

end LoopScript
