import LoopScript.Proofs.Lexical.Boundary

/-! Where a pending text ends. A string ends at its quotation mark only. Anything else ends in front
of all that closes, and whether it is a token there does not hang on what closes it. -/
namespace LoopScript

open Text

namespace Closes

variable {letters : Letters} {next : Option Char}

theorem filter_isDigit (h : Closes next) : next.filter Char.isDigit = Option.none :=
  h.filter_eq_none fun c hc => isDigit_eq_false (delimiters_ascii c hc).2

theorem filter_continues (hl : letters.AgreeOnAscii .unicode) (h : Closes next) :
    next.filter letters.continues = Option.none := by
  apply h.filter_eq_none
  intro c hc
  obtain ⟨hascii, hnot⟩ := delimiters_ascii c hc
  rw [continues_of_isAscii hl hascii, hnot]

theorem of_mem {c : Char} (h : c ∈ delimiters) (hc : c ≠ '=') : Closes (some c) := by
  intro d hd
  cases hd
  exact ⟨h, hc⟩

end Closes

namespace State

open Step

variable {letters : Letters} {state : State}

private theorem endSigns_cases (pending : String) :
    (∃ kind, ∀ c, endSigns pending c = complete kind pending .again) ∨
      ∃ fault, ∀ c, endSigns pending c = fail fault c pending := by
  cases hkind : fixedKind? pending with
  | some kind => exact .inl ⟨kind, fun c => by simp only [endSigns, hkind]⟩
  | none => exact .inr ⟨.unknownOperator, fun c => by simp only [endSigns, hkind]⟩

/-- All that closes the pending text makes it the same token, or finds the same fault with it. -/
theorem step_of_closes (hl : letters.AgreeOnAscii .unicode) (h : state ∉ [between, string, ended])
    (pending : String) :
    (∃ kind, ∀ c, Closes c → state.step letters pending c = complete kind pending .again) ∨
      ∃ fault, ∀ c, Closes c → state.step letters pending c = fail fault c pending := by
  cases state with
  | between => exact absurd (by simp) h
  | string => exact absurd (by simp) h
  | ended => exact absurd (by simp) h
  | number =>
    refine .inl ⟨.number, fun c hc => ?_⟩
    simp only [step, readNumber, hc.filter_isDigit, hc.atBoundary, if_true]
  | word =>
    cases hkind : wordKind? pending with
    | some kind =>
      refine .inl ⟨kind, fun c hc => ?_⟩
      simp only [step, readWord, hc.filter_continues hl, hc.atBoundary, if_true, hkind]
    | none =>
      refine .inr ⟨.invalidWord, fun c hc => ?_⟩
      simp only [step, readWord, hc.filter_continues hl, hc.atBoundary, if_true, hkind]
  | arithmetic =>
    rcases endSigns_cases pending with ⟨kind, hkind⟩ | ⟨fault, hfault⟩
    · exact .inl ⟨kind, fun c _ => hkind c⟩
    · exact .inr ⟨fault, fun c _ => hfault c⟩
  | equals =>
    refine .inl ⟨.assign, fun c hc => ?_⟩
    simp only [step, readEquals, hc.ne_equals, if_false]
  | comparison =>
    have hstep {c : Option Char} (hc : Closes c) :
        comparison.step letters pending c = endSigns pending c := by
      simp only [step, readComparison, hc.ne_equals, if_false]
    rcases endSigns_cases pending with ⟨kind, hkind⟩ | ⟨fault, hfault⟩
    · exact .inl ⟨kind, fun c hc => (hstep hc).trans (hkind c)⟩
    · exact .inr ⟨fault, fun c hc => (hstep hc).trans (hfault c)⟩

end State

namespace Scanner

variable {letters : Letters} {s : Scanner}

/-- All that closes what is pending is read as by a fresh scanner behind the same tokens, or finds
the same fault. -/
theorem feed_of_closes (hl : letters.AgreeOnAscii .unicode) (h : s.Reads letters)
    (hstate : s.state ≠ .string) :
    (∃ tokens, ∀ c, Closes c → s.feed letters c = (fresh tokens).feed letters c) ∨
      ∃ fault, ∀ c, Closes c → s.feed letters c = .error ⟨fault, c, s.pending⟩ := by
  by_cases hbetween : s.state = .between
  · refine .inl ⟨s.tokens, fun c _ => ?_⟩
    rw [← eq_fresh h hbetween]
  · have hinside : s.state ∉ [State.between, .string, .ended] := by
      simp [hbetween, hstate, h.1]
    rcases State.step_of_closes hl hinside s.pending with ⟨kind, hkind⟩ | ⟨fault, hfault⟩
    · let tokens := s.tokens ++ (some (Token.mk kind s.pending)).toArray
      refine .inl ⟨tokens, fun c hc => ?_⟩
      have hstep : s.step letters c = .ok (.again, fresh tokens) := by
        unfold step
        rw [hkind c hc]
        rfl
      rw [feed_fresh]
      simp only [feed, hstep]
    · refine .inr ⟨fault, fun c hc => ?_⟩
      have hstep : s.step letters c = .error ⟨fault, c, s.pending⟩ := by
        unfold step
        rw [hfault c hc]
        rfl
      simp only [feed, hstep]

theorem feed_string (hstate : s.state = .string) {c : Char} (hc : c ≠ '"') :
    s.feed letters (some c) = .ok { s with pending := s.pending.push c } := by
  have hstep : s.step letters (some c) =
      .ok (.consumed, { s with pending := s.pending.push c }) := by
    unfold step
    rw [hstate]
    simp [State.step, State.readString, hc, Step.proceed]
  simp only [feed, hstep]

end Scanner

end LoopScript
