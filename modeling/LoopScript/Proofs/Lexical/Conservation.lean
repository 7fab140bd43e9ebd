import LoopScript.Lexical.State

/-! One step of the tokenizer loses no text, whatever is pending. What is pending and the character
that is taken in are the lexeme that is emitted and what is pending behind it. A step that fails hands
the pending text back and reports just that text. -/
namespace LoopScript

open Text

/-- A blank between tokens is no part of any token. -/
def State.drops (state : State) (c : Char) : Bool := state = .between && isBlank c

/-- What is taken in of the character that was read. -/
def State.taken (state : State) (c : Option Char) : Reading → List Char
  | .consumed => (c.filter fun d => !state.drops d).toList
  | .again => []

/-- The transition keeps the text, and nothing is pending behind a token. -/
structure Transition.Conserves (state : State) (pending : String) (c : Option Char) (t : Transition)
    (pending' : String) : Prop where
  text : pending.toList ++ state.taken c t.reading =
    (t.emitted.elim [] fun token => token.lexeme.toList) ++ pending'.toList
  emits : t.emitted ≠ none → t.state = .between ∧ pending' = ""
  again : t.reading = .again → t.emitted ≠ none

/-- A step that fails leaves the pending text alone, but for an equals sign that breaks a comparison
sign, and the error has the text that is pending then. -/
def Step.Conserves (state : State) (pending : String) (c : Option Char) : Step → Prop
  | (.ok t, pending') => t.Conserves state pending c pending'
  | (.error error, pending') =>
    pending' = (if state = .comparison ∧ c = some '=' then pending.push '=' else pending) ∧
      error.text = pending'

namespace State

open Step

variable {letters : Letters} {state state' : State} {pending : String} {c : Option Char}

private theorem conserves_proceed {d : Char} (h : state.drops d = false) :
    (proceed state' (pending.push d)).Conserves state pending (some d) := by
  refine ⟨?_, by simp, by simp⟩
  simp [taken, h]

private theorem conserves_complete (kind : Kind) :
    (complete kind pending .again).Conserves state pending c :=
  ⟨rfl, fun _ => ⟨rfl, rfl⟩, by simp⟩

private theorem conserves_fail (h : ¬ (state = .comparison ∧ c = some '=')) (fault : LexicalFault) :
    (fail fault c pending).Conserves state pending c := by
  refine ⟨?_, rfl⟩
  rw [if_neg h]

private theorem conserves_endSigns (h : ¬ (state = .comparison ∧ c = some '=')) :
    (endSigns pending c).Conserves state pending c := by
  unfold endSigns
  split
  · next kind _ => exact conserves_complete kind
  · exact conserves_fail h _

theorem conserves_readBetween (letters : Letters) (c : Option Char) :
    (readBetween letters "" c).Conserves between "" c := by
  unfold readBetween
  split
  · exact ⟨rfl, by simp, by simp⟩
  · next c =>
    split
    · next hblank =>
      refine ⟨?_, by simp, by simp⟩
      simp [taken, drops, hblank]
    · next hblank =>
      have hkept : between.drops c = false := by simp [drops, hblank]
      split
      · exact conserves_proceed hkept
      · split
        · refine ⟨?_, fun _ => ⟨rfl, rfl⟩, by simp⟩
          simp [taken, hkept]
        · exact ⟨rfl, rfl⟩

theorem conserves_readNumber : (readNumber pending c).Conserves number pending c := by
  unfold readNumber
  split
  · next d hd =>
    obtain ⟨rfl, _⟩ := Option.filter_eq_some_iff.mp hd
    exact conserves_proceed rfl
  · split
    · exact conserves_complete _
    · exact conserves_fail (by simp) _

theorem conserves_readWord : (readWord letters pending c).Conserves word pending c := by
  unfold readWord
  split
  · next d hd =>
    obtain ⟨rfl, _⟩ := Option.filter_eq_some_iff.mp hd
    exact conserves_proceed rfl
  · split
    · split
      · exact conserves_complete _
      · exact conserves_fail (by simp) _
    · exact conserves_fail (by simp) _

theorem conserves_readString : (readString pending c).Conserves string pending c := by
  unfold readString
  split
  · exact conserves_fail (by simp) _
  · split
    · refine ⟨?_, fun _ => ⟨rfl, rfl⟩, by simp⟩
      simp [taken, drops]
    · exact conserves_proceed rfl

theorem conserves_readEquals : (readEquals pending c).Conserves equals pending c := by
  unfold readEquals
  split
  · next hc =>
    rw [hc]
    exact conserves_proceed rfl
  · exact conserves_complete _

theorem conserves_readComparison :
    (readComparison pending c).Conserves comparison pending c := by
  unfold readComparison
  split
  · next hc =>
    rw [hc]
    split
    · exact conserves_proceed rfl
    · exact ⟨rfl, rfl⟩
  · next hc => exact conserves_endSigns (by simp [hc])

theorem conserves_step (letters : Letters) (hstate : state ≠ ended)
    (hpending : state = between → pending = "") (c : Option Char) :
    (state.step letters pending c).Conserves state pending c := by
  cases state with
  | between =>
    rw [hpending rfl]
    exact conserves_readBetween letters c
  | number => exact conserves_readNumber
  | word => exact conserves_readWord
  | arithmetic => exact conserves_endSigns (by simp)
  | string => exact conserves_readString
  | equals => exact conserves_readEquals
  | comparison => exact conserves_readComparison
  | ended => exact absurd rfl hstate

/-- Outside of an ended text no step loses text. A token leaves nothing pending and is followed by
others, a character is read again only behind a token, and a failing step reports what it leaves
pending. -/
theorem step_conserves (letters : Letters) (hstate : state ≠ ended)
    (hpending : state = between → pending = "") (c : Option Char) :
    (∀ t pending', state.step letters pending c = (.ok t, pending') →
      pending.toList ++ state.taken c t.reading =
          (t.emitted.elim [] fun token => token.lexeme.toList) ++ pending'.toList ∧
        (t.emitted ≠ none → t.state = between ∧ pending' = "") ∧
        (t.reading = .again → t.emitted ≠ none)) ∧
      ∀ error pending', state.step letters pending c = (.error error, pending') →
        pending' = (if state = comparison ∧ c = some '=' then pending.push '=' else pending) ∧
          error.text = pending' := by
  have hconserves := conserves_step letters hstate hpending c
  constructor
  · intro t pending' hstep
    rw [hstep] at hconserves
    exact ⟨hconserves.text, hconserves.emits, hconserves.again⟩
  · intro error pending' hstep
    rw [hstep] at hconserves
    exact hconserves

/-- Signs that no text leaves pending are handed back with the sign that breaks them. -/
theorem step_conserves_unreached :
    comparison ≠ ended ∧ (comparison = between → "=!" = "") ∧
      comparison.step .unicode "=!" (some '=') =
        (.error ⟨.unknownOperator, some '=', "=!="⟩, "=!=") ∧
      "=!=" = "=!".push '=' := by
  have hinside : comparison ≠ ended := by decide
  have hempty : comparison = between → "=!" = "" := by simp
  have hstep : comparison.step .unicode "=!" (some '=') =
      (.error ⟨.unknownOperator, some '=', "=!="⟩, "=!=") := rfl
  obtain ⟨hpush, _⟩ := (step_conserves .unicode hinside hempty (some '=')).2 _ _ hstep
  exact ⟨hinside, hempty, hstep, hpush⟩

end State

end LoopScript
