import LoopScript.Proofs.Lexical.Account
import LoopScript.Lexical.Scanner

/-! The tokenizer accepts the texts that are laid out as tokens, and yields those tokens. -/
namespace LoopScript

open Text

namespace Scanner

variable {letters : Letters} {s s' : Scanner} {text : List Char}

/-- The tokens are those so far and a layout of what is pending and what follows. -/
def Covers (s : Scanner) (tokens : List Token) (text : List Char) : Prop :=
  ∃ more, tokens = s.tokens.toList ++ more ∧ Spells more (s.pending.toList ++ text)

/-- The state has not ended, and what is pending fits it. -/
def Reads (letters : Letters) (s : Scanner) : Prop :=
  s.state ≠ .ended ∧ s.state.Holds letters s.pending.toList

def fresh (tokens : Array Token) : Scanner := { tokens }

theorem reads_fresh (tokens : Array Token) : (fresh tokens).Reads letters := ⟨by simp [fresh], rfl⟩

theorem not_covers_of_step (hl : letters.AgreeOnAscii .unicode) (h : s.Reads letters)
    {error : LexicalError} (hs : s.step letters text.head? = .error error) (tokens : List Token) :
    ¬ s.Covers tokens text := by
  have ha := State.accounts_step hl h.1 h.2 text
  unfold step at hs
  split at hs
  · next hstep =>
    rw [hstep] at ha
    intro hcovers
    obtain ⟨more, _, hmore⟩ := hcovers
    exact ha more hmore
  · cases hs

/-- A step leaves a layout of what it has not read yet. -/
theorem covers_of_step (hl : letters.AgreeOnAscii .unicode) (h : s.Reads letters)
    {reading : Reading} (hs : s.step letters text.head? = .ok (reading, s')) :
    s'.state.Holds letters s'.pending.toList ∧
      (reading = .consumed → (s'.state = .ended ↔ text = [])) ∧
      (reading = .again → s'.state = .between ∧ s.pending.toList ≠ []) ∧
      ∀ tokens, s.Covers tokens text ↔ s'.Covers tokens (reading.left text) := by
  have ha := State.accounts_step hl h.1 h.2 text
  unfold step at hs
  split at hs
  · cases hs
  · next t pending hstep =>
    rw [hstep] at ha
    cases hs
    refine ⟨ha.holds, ha.ended, ha.again, fun tokens => ?_⟩
    constructor
    · intro hcovers
      obtain ⟨more, htokens, hmore⟩ := hcovers
      obtain ⟨rest, hrest, hspells⟩ := (ha.spells more).mp hmore
      exact ⟨rest, by simp [htokens, hrest], hspells⟩
    · intro hcovers
      obtain ⟨rest, htokens, hspells⟩ := hcovers
      exact ⟨t.emitted.toList ++ rest, by simp [htokens], (ha.spells _).mpr ⟨rest, rfl, hspells⟩⟩

theorem covers_of_feed (hl : letters.AgreeOnAscii .unicode) (h : s.Reads letters)
    (text : List Char) (hf : s.feed letters text.head? = .ok s') :
    s'.state.Holds letters s'.pending.toList ∧ (s'.state = .ended ↔ text = []) ∧
      ∀ tokens, s.Covers tokens text ↔ s'.Covers tokens text.tail := by
  unfold feed at hf
  split at hf
  · cases hf
  · next hs =>
    cases hf
    obtain ⟨hholds, hended, _, hcovers⟩ := covers_of_step hl h hs
    exact ⟨hholds, hended rfl, hcovers⟩
  · next s₁ hs =>
    obtain ⟨hholds, _, hagain, hcovers⟩ := covers_of_step hl h hs
    obtain ⟨hbetween, _⟩ := hagain rfl
    have hreads : s₁.Reads letters := ⟨by simp [hbetween], hholds⟩
    cases hs' : s₁.step letters text.head? with
    | error error => simp [hs', Except.map] at hf
    | ok result =>
      obtain ⟨reading, s₂⟩ := result
      simp only [hs', Except.map, Except.ok.injEq] at hf
      subst hf
      obtain ⟨hholds', hended, hagain', hcovers'⟩ := covers_of_step hl hreads hs'
      have hpending : s₁.pending.toList = [] := by
        rw [hbetween] at hholds
        exact hholds
      have hconsumed : reading = .consumed := by
        cases reading with
        | consumed => rfl
        | again => exact absurd hpending (hagain' rfl).2
      subst hconsumed
      refine ⟨hholds', hended rfl, fun tokens => ?_⟩
      exact (hcovers tokens).trans (hcovers' tokens)

theorem Reads.feed (hl : letters.AgreeOnAscii .unicode) (h : s.Reads letters) {c : Char}
    (hf : s.feed letters (some c) = .ok s') : s'.Reads letters := by
  obtain ⟨hholds, hended, _⟩ := covers_of_feed hl h [c] hf
  exact ⟨fun hstate => by simpa using hended.mp hstate, hholds⟩

theorem not_covers_of_feed (hl : letters.AgreeOnAscii .unicode) (h : s.Reads letters)
    (text : List Char) {error : LexicalError} (hf : s.feed letters text.head? = .error error)
    (tokens : List Token) : ¬ s.Covers tokens text := by
  unfold feed at hf
  split at hf
  · next hs => exact not_covers_of_step hl h hs tokens
  · cases hf
  · next s₁ hs =>
    obtain ⟨hholds, _, hagain, hcovers⟩ := covers_of_step hl h hs
    have hreads : s₁.Reads letters := ⟨by simp [(hagain rfl).1], hholds⟩
    cases hs' : s₁.step letters text.head? with
    | ok result => simp [hs', Except.map] at hf
    | error error =>
      rw [hcovers]
      exact not_covers_of_step hl hreads hs' tokens

def finish (letters : Letters) (s : Scanner) (text : List Char) :
    Except LexicalError (List Token) := do
  let s ← text.foldlM (fun s c => s.feed letters (some c)) s
  let s ← s.feed letters none
  return s.tokens.toList

theorem finish_nil (s : Scanner) :
    s.finish letters [] = (s.feed letters none).map fun s => s.tokens.toList := by
  change ((s.feed letters none).bind fun s => .ok s.tokens.toList) = _
  cases s.feed letters none <;> rfl

theorem finish_cons (s : Scanner) (c : Char) (text : List Char) :
    s.finish letters (c :: text) =
      (s.feed letters (some c)).bind fun s => s.finish letters text := by
  unfold finish
  rw [List.foldlM_cons]
  cases s.feed letters (some c) <;> rfl

/-- A run over a text yields the tokens that lay it out, and fails where there are none. -/
theorem finish_eq_ok_iff (hl : letters.AgreeOnAscii .unicode) (h : s.Reads letters)
    (tokens : List Token) : s.finish letters text = .ok tokens ↔ s.Covers tokens text := by
  induction text generalizing s with
  | nil =>
    rw [finish_nil]
    cases hf : s.feed letters none with
    | error error =>
      have hnot := not_covers_of_feed hl h [] hf tokens
      simp [Except.map, hnot]
    | ok s' =>
      obtain ⟨hholds, hended, hcovers⟩ := covers_of_feed hl h [] hf
      have hpending : s'.pending.toList = [] := by
        rw [hended.mpr rfl] at hholds
        exact hholds
      rw [hcovers]
      simp [Except.map, Covers, hpending, spells_nil, eq_comm]
  | cons c text ih =>
    rw [finish_cons]
    cases hf : s.feed letters (some c) with
    | error error =>
      have hnot := not_covers_of_feed hl h (c :: text) hf tokens
      simp [Except.bind, hnot]
    | ok s' =>
      obtain ⟨_, _, hcovers⟩ := covers_of_feed hl h (c :: text) hf
      rw [hcovers]
      exact ih (h.feed hl hf)

end Scanner

theorem tokenizeWith_eq_finish (letters : Letters) (source : String) :
    tokenizeWith letters source = (Scanner.fresh #[]).finish letters source.toList := rfl

theorem tokenizeWith_eq_ok_iff {letters : Letters} (hl : letters.AgreeOnAscii .unicode)
    (source : String) (tokens : List Token) :
    tokenizeWith letters source = .ok tokens ↔ Spells tokens source.toList := by
  rw [tokenizeWith_eq_finish, Scanner.finish_eq_ok_iff hl (Scanner.reads_fresh #[])]
  simp [Scanner.Covers, Scanner.fresh]

theorem kind_of_spells {tokens : List Token} {text : List Char} (h : Spells tokens text) :
    ∀ t ∈ tokens, t.kind ≠ .arrayElement ∧ t.kind ≠ .invalid := by
  have hkinds : ∀ entry ∈ fixedLexemes, entry.2 ≠ .arrayElement ∧ entry.2 ≠ .invalid := by decide
  intro t ht
  have hwf : t.WellFormed := wellFormed_of_spells h t ht
  obtain ⟨kind, lexeme⟩ := t
  cases kind
  case arrayElement => exact hkinds _ (mem_of_fixedKind? hwf)
  case invalid => exact hkinds _ (mem_of_fixedKind? hwf)
  all_goals simp

/-- The tokens of a source are the ones that lay it out, and nothing but blanks is dropped. -/
theorem tokenize_iff_spells (source : String) (tokens : List Token) :
    (tokenize source = .ok tokens ↔ Spells tokens source.toList) ∧
      (Spells tokens source.toList →
        ∀ t ∈ tokens, t.kind ≠ .arrayElement ∧ t.kind ≠ .invalid) :=
  ⟨tokenizeWith_eq_ok_iff (fun _ _ => ⟨rfl, rfl⟩) source tokens, kind_of_spells⟩

end LoopScript
