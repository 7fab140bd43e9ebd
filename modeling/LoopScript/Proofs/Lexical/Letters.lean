import LoopScript.Proofs.Lexical.Acceptance

/-! What the letters beyond ASCII have to do with tokens. No token has one outside of a string, so a
text has the same tokens, or none, under all letters that agree on ASCII. Where it has none, they
may settle which character the reading stops at, and even that only if the text is not ASCII. -/
namespace LoopScript

open Text

def Text.Letters.ascii : Letters := ⟨Char.isAlpha, Char.isAlphanum⟩

theorem agreeOnAscii_ascii : Letters.ascii.AgreeOnAscii .unicode := by
  have hunicode := Letters.AgreeOnAscii.refl .unicode
  intro c hc
  exact ⟨(begins_of_isAscii hunicode hc).symm, (continues_of_isAscii hunicode hc).symm⟩

variable {letters letters' : Letters} {next : Option Char}

theorem State.step_congr (h : ∀ c ∈ next, letters.begins c = letters'.begins c ∧
    letters.continues c = letters'.continues c) (state : State) (pending : String) :
    state.step letters pending next = state.step letters' pending next := by
  cases next with
  | none => cases state <;> rfl
  | some c =>
    obtain ⟨hbegins, hcontinues⟩ := h c rfl
    cases state with
    | between => simp only [step, readBetween, opening?, hbegins]
    | word =>
      have hfilter : (some c).filter letters.continues = (some c).filter letters'.continues := by
        simp only [Option.filter_some, hcontinues]
      simp only [step, readWord, hfilter]
    | _ => rfl

namespace Scanner

theorem feed_of_agree (h : letters.AgreeOnAscii letters') (hnext : ∀ c ∈ next, isAscii c = true)
    (s : Scanner) : s.feed letters next = s.feed letters' next := by
  have hstep (s : Scanner) : s.step letters next = s.step letters' next := by
    unfold step
    rw [State.step_congr fun c hc => h c (hnext c hc)]
  unfold feed
  simp only [hstep]

/-- The letters that a text of ASCII asks about are those that all agree on. -/
theorem finish_of_agree (h : letters.AgreeOnAscii letters') {text : List Char}
    (htext : ∀ c ∈ text, isAscii c = true) (s : Scanner) :
    s.finish letters text = s.finish letters' text := by
  induction text generalizing s with
  | nil => rw [finish_nil, finish_nil, feed_of_agree h (by simp)]
  | cons c text ih =>
    obtain ⟨hc, htext⟩ := List.forall_mem_cons.mp htext
    have hnext : ∀ d ∈ some c, isAscii d = true := by
      intro d hd
      cases hd
      exact hc
    rw [finish_cons, finish_cons, feed_of_agree h hnext]
    cases s.feed letters' (some c) with
    | error error => rfl
    | ok s' => exact ih htext s'

end Scanner

/-- Letters that agree on ASCII make out the same tokens in a text, and the same errors in a text of
ASCII. -/
theorem tokenizeWith_letters (h : letters.AgreeOnAscii .unicode) (source : String) :
    (∀ tokens, tokenizeWith letters source = .ok tokens ↔ tokenize source = .ok tokens) ∧
      ((∀ c ∈ source.toList, isAscii c = true) →
        tokenizeWith letters source = tokenize source) := by
  constructor
  · intro tokens
    calc tokenizeWith letters source = .ok tokens
        ↔ Spells tokens source.toList := tokenizeWith_eq_ok_iff h source tokens
      _ ↔ tokenize source = .ok tokens := (tokenizeWith_eq_ok_iff (.refl _) source tokens).symm
  · intro hascii
    rw [tokenize, tokenizeWith_eq_finish, tokenizeWith_eq_finish]
    exact Scanner.finish_of_agree h hascii _

/-- An accent inside of a string changes nothing. Outside, it is the end of a word for letters that
do not know it, and part of an invalid word for others. -/
theorem tokenizeWith_letters_accent :
    Letters.ascii.AgreeOnAscii .unicode ∧
      tokenizeWith .ascii "s=\"é\"" =
        .ok [⟨.identifier, "s"⟩, ⟨.assign, "="⟩, ⟨.stringLiteral, "\"é\""⟩] ∧
      (∀ tokens, tokenizeWith .ascii "café" = .ok tokens ↔ tokenize "café" = .ok tokens) ∧
      tokenizeWith .ascii "café" = .error ⟨.strayCharacter, some 'é', "caf"⟩ ∧
      tokenize "café" = .error ⟨.invalidWord, none, "café"⟩ := by
  have hstring : tokenize "s=\"é\"" =
      .ok [⟨.identifier, "s"⟩, ⟨.assign, "="⟩, ⟨.stringLiteral, "\"é\""⟩] := by decide
  exact ⟨agreeOnAscii_ascii, ((tokenizeWith_letters agreeOnAscii_ascii _).1 _).mpr hstring,
    (tokenizeWith_letters agreeOnAscii_ascii _).1, by decide, by decide⟩

end LoopScript
