import Mathlib.Data.List.Chain
import LoopScript.Proofs.Lexical.Boundary

/-! The tokenizer as a loop of single steps. A turn of the loop reads the character behind what was
consumed, or the end, and need not consume it. So what shrinks with every turn is twice the text that
is left, and the turns at the end that the state still stands for: two with a token in hand, one
between tokens, and none once the text has ended. -/
namespace LoopScript

open Text

/-- A scan under way, with the text behind what was consumed. -/
structure Scan where
  scanner : Scanner
  rest : List Char

namespace Scan

def start (source : String) : Scan := ⟨{}, source.toList⟩

/-- One turn of the loop. A character that has to be read again stays in front of the rest. -/
def turn (letters : Letters) (s : Scan) : Except LexicalError (Reading × Scan) :=
  (s.scanner.step letters s.rest.head?).map fun result =>
    (result.1, ⟨result.2, result.1.left s.rest⟩)

/-- The loop takes a turn from each scan of the list in order, and ends with the result. -/
inductive Runs (letters : Letters) : Scan → List Scan → Except LexicalError (List Token) → Prop
  | ended {s : Scan} (state : s.scanner.state = .ended) :
      Runs letters s [] (.ok s.scanner.tokens.toList)
  | fails {s : Scan} {error : LexicalError} (inside : s.scanner.state ≠ .ended)
      (turn : s.turn letters = .error error) : Runs letters s [s] (.error error)
  | goesOn {s s' : Scan} {reading : Reading} {turns : List Scan}
      {result : Except LexicalError (List Token)} (inside : s.scanner.state ≠ .ended)
      (turn : s.turn letters = .ok (reading, s')) (more : Runs letters s' turns result) :
      Runs letters s (s :: turns) result

/-- A token ends in front of the character. -/
def Retries (letters : Letters) (s : Scan) : Prop := ∃ s', s.turn letters = .ok (.again, s')

def Consumes (letters : Letters) (s : Scan) : Prop :=
  ∃ c rest scanner, s.rest = c :: rest ∧ s.turn letters = .ok (.consumed, ⟨scanner, rest⟩)

def Finishes (letters : Letters) (s : Scan) : Prop :=
  s.rest = [] ∧ ∃ scanner : Scanner, scanner.state = .ended ∧
    s.turn letters = .ok (.consumed, ⟨scanner, []⟩)

def Fails (letters : Letters) (s : Scan) : Prop := ∃ error, s.turn letters = .error error

variable {letters : Letters} {s s' : Scan} {reading : Reading} {turns turns' : List Scan}
  {result result' : Except LexicalError (List Token)}

/-! ### One turn -/

theorem turn_of_step {t : Transition} {pending : String}
    (h : s.scanner.state.step letters s.scanner.pending s.rest.head? = (.ok t, pending)) :
    s.turn letters = .ok (t.reading,
      ⟨⟨t.state, pending, s.scanner.tokens ++ t.emitted.toArray⟩, t.reading.left s.rest⟩) := by
  unfold turn Scanner.step
  rw [h]
  rfl

theorem turn_of_error {error : LexicalError} {pending : String}
    (h : s.scanner.state.step letters s.scanner.pending s.rest.head? = (.error error, pending)) :
    s.turn letters = .error error := by
  unfold turn Scanner.step
  rw [h]
  rfl

theorem cases_of_turn (letters : Letters) (h : s.scanner.state ≠ .ended) :
    s.Fails letters ∨ s.Consumes letters ∨ (s.scanner.state = .between ∧ s.Finishes letters) ∨
      (s.scanner.state ≠ .between ∧
        ∃ tokens, s.turn letters = .ok (.again, ⟨.fresh tokens, s.rest⟩)) := by
  have hmoves : State.Moves s.scanner.state s.scanner.pending s.rest.head?
      (s.scanner.state.step letters s.scanner.pending s.rest.head?) := State.moves_step h
  generalize hstep : s.scanner.state.step letters s.scanner.pending s.rest.head? = step at hmoves
  generalize hnext : s.rest.head? = next at hmoves
  cases hmoves with
  | ends inside => exact .inr (.inr (.inr ⟨inside, _, turn_of_step hstep⟩))
  | stops outside =>
    have hrest : s.rest = [] := List.head?_eq_none_iff.mp hnext
    have hturn := turn_of_step hstep
    rw [hrest] at hturn
    exact .inr (.inr (.inl ⟨outside, hrest, _, rfl, hturn⟩))
  | settles | gathers =>
    obtain ⟨rest, hrest⟩ := List.head?_eq_some_iff.mp hnext
    have hturn := turn_of_step hstep
    rw [hrest] at hturn
    exact .inr (.inl ⟨_, _, _, hrest, hturn⟩)
  | fails => exact .inl ⟨_, turn_of_error hstep⟩

/-- A token that ends in front of the character leaves none in hand, and behind it no other ends
there. -/
theorem state_of_retries (inside : s.scanner.state ≠ .ended)
    (h : s.turn letters = .ok (.again, s')) :
    s.scanner.state ≠ .between ∧ s'.scanner.state = .between := by
  rcases cases_of_turn letters inside with
    ⟨error, hturn⟩ | ⟨c, rest, scanner, _, hturn⟩ | ⟨_, _, scanner, _, hturn⟩ |
      ⟨hstate, tokens, hturn⟩
  · simp [hturn] at h
  · simp [hturn] at h
  · simp [hturn] at h
  · simp only [hturn, Except.ok.injEq, Prod.mk.injEq] at h
    obtain ⟨-, rfl⟩ := h
    exact ⟨hstate, rfl⟩

/-! ### The number of turns -/

def budget (s : Scan) : Nat :=
  2 * s.rest.length + match s.scanner.state with
    | .ended => 0
    | .between => 1
    | _ => 2

theorem budget_start (source : String) : (start source).budget = 2 * source.length + 1 := rfl

theorem budget_le (scanner : Scanner) (rest : List Char) :
    budget ⟨scanner, rest⟩ ≤ 2 * rest.length + 2 := by
  unfold budget
  split <;> simp

theorem lt_budget (inside : s.scanner.state ≠ .ended) : 2 * s.rest.length < s.budget := by
  unfold budget
  split
  · next hended => exact absurd hended inside
  · omega
  · omega

theorem budget_lt_of_turn (inside : s.scanner.state ≠ .ended)
    (h : s.turn letters = .ok (reading, s')) : s'.budget < s.budget := by
  rcases cases_of_turn letters inside with
    ⟨error, hturn⟩ | ⟨c, rest, scanner, hrest, hturn⟩ | ⟨_, hrest, scanner, hended, hturn⟩ |
      ⟨hstate, tokens, hturn⟩
  · simp [hturn] at h
  · simp only [hturn, Except.ok.injEq, Prod.mk.injEq] at h
    obtain ⟨-, rfl⟩ := h
    have hlt := lt_budget inside
    have hle := budget_le scanner rest
    rw [hrest, List.length_cons] at hlt
    omega
  · simp only [hturn, Except.ok.injEq, Prod.mk.injEq] at h
    obtain ⟨-, rfl⟩ := h
    have hlt := lt_budget inside
    have hzero : budget ⟨scanner, []⟩ = 0 := by simp [budget, hended]
    omega
  · simp only [hturn, Except.ok.injEq, Prod.mk.injEq] at h
    obtain ⟨-, rfl⟩ := h
    have htwo : s.budget = 2 * s.rest.length + 2 := by
      unfold budget
      split <;> simp_all
    rw [htwo]
    exact Nat.lt_succ_self _

theorem length_le_budget (h : Runs letters s turns result) : turns.length ≤ s.budget := by
  induction h with
  | ended => exact Nat.zero_le _
  | fails inside => exact Nat.lt_of_le_of_lt (Nat.zero_le _) (lt_budget inside)
  | goesOn inside turn _ ih => exact Nat.lt_of_le_of_lt ih (budget_lt_of_turn inside turn)

theorem exists_runs (letters : Letters) (s : Scan) : ∃ turns result, Runs letters s turns result := by
  by_cases hended : s.scanner.state = .ended
  · exact ⟨_, _, .ended hended⟩
  · cases hturn : s.turn letters with
    | error error => exact ⟨_, _, .fails hended hturn⟩
    | ok next =>
      have hlt : next.2.budget < s.budget := budget_lt_of_turn hended hturn
      obtain ⟨turns, result, hruns⟩ := exists_runs letters next.2
      exact ⟨_, _, .goesOn hended hturn hruns⟩
termination_by s.budget

theorem Runs.unique (h : Runs letters s turns result) (h' : Runs letters s turns' result') :
    turns' = turns ∧ result' = result := by
  induction h generalizing turns' result' with
  | ended state =>
    cases h' with
    | ended => exact ⟨rfl, rfl⟩
    | fails inside => exact absurd state inside
    | goesOn inside => exact absurd state inside
  | fails inside turn =>
    cases h' with
    | ended state => exact absurd state inside
    | fails _ turn' =>
      rw [turn] at turn'
      cases turn'
      exact ⟨rfl, rfl⟩
    | goesOn _ turn' => simp [turn] at turn'
  | goesOn inside turn _ ih =>
    cases h' with
    | ended state => exact absurd state inside
    | fails _ turn' => simp [turn] at turn'
    | goesOn _ turn' more' =>
      rw [turn] at turn'
      cases turn'
      obtain ⟨hturns, hresult⟩ := ih more'
      exact ⟨congrArg _ hturns, hresult⟩

theorem countP_isEmpty_le (h : Runs letters s turns result) :
    (turns.countP fun s => s.rest.isEmpty) ≤ 2 := by
  have hend {s : Scan} {turns : List Scan} {result : Except LexicalError (List Token)}
      (h : Runs letters s turns result) (hrest : s.rest = []) :
      (turns.countP fun s => s.rest.isEmpty) ≤ 2 := by
    have hcount : (turns.countP fun s => s.rest.isEmpty) ≤ turns.length := List.countP_le_length
    have hlength : turns.length ≤ s.budget := length_le_budget h
    have hbudget : s.budget ≤ 2 * s.rest.length + 2 := budget_le s.scanner s.rest
    rw [hrest, List.length_nil] at hbudget
    omega
  induction h with
  | ended => simp
  | @fails s error inside turn =>
    cases hrest : s.rest with
    | nil => exact hend (.fails inside turn) hrest
    | cons c rest => simp [hrest]
  | @goesOn s s' reading turns result inside turn more ih =>
    cases hrest : s.rest with
    | nil => exact hend (.goesOn inside turn more) hrest
    | cons c rest => simpa [hrest] using ih

theorem inside_of_head? (h : Runs letters s turns result) :
    ∀ first ∈ turns.head?, first = s ∧ s.scanner.state ≠ .ended := by
  cases h with
  | ended => simp
  | fails inside => simp [inside]
  | goesOn inside => simp [inside]

theorem isChain_retries (h : Runs letters s turns result) :
    turns.IsChain fun s next => s.Retries letters → ¬ next.Retries letters := by
  induction h with
  | ended => exact .nil
  | fails => exact .singleton _
  | goesOn inside turn more ih =>
    refine List.isChain_cons.mpr ⟨fun next hnext hretries hagain => ?_, ih⟩
    obtain ⟨rfl, inside'⟩ := inside_of_head? more next hnext
    obtain ⟨s', hretries⟩ := hretries
    obtain ⟨s'', hagain⟩ := hagain
    rw [turn] at hretries
    cases hretries
    exact (state_of_retries inside' hagain).1 (state_of_retries inside turn).2

/-! ### The result -/

theorem step_of_turn (h : s.turn letters = .ok (reading, s')) :
    s.scanner.step letters s.rest.head? = .ok (reading, s'.scanner) ∧
      s'.rest = reading.left s.rest := by
  unfold turn at h
  cases hstep : s.scanner.step letters s.rest.head? with
  | error error => simp [hstep, Except.map] at h
  | ok next =>
    simp only [hstep, Except.map, Except.ok.injEq, Prod.mk.injEq] at h
    obtain ⟨rfl, rfl⟩ := h
    exact ⟨rfl, rfl⟩

theorem error_of_turn {error : LexicalError} (h : s.turn letters = .error error) :
    s.scanner.step letters s.rest.head? = .error error := by
  unfold turn at h
  cases hstep : s.scanner.step letters s.rest.head? with
  | error error' => simpa [hstep, Except.map] using h
  | ok next => simp [hstep, Except.map] at h

theorem finish_of_again {s s' : Scanner} {text : List Char} (h : s.state ≠ .ended)
    (hs : s.step letters text.head? = .ok (.again, s')) :
    s.finish letters text = s'.finish letters text := by
  rcases Scanner.cases_of_step h hs with ⟨_, _, hfresh⟩ | ⟨hconsumed, _⟩
  · apply Scanner.finish_congr
    rw [hfresh, Scanner.feed_fresh, ← hfresh]
    simp only [Scanner.feed, hs]
  · cases hconsumed

theorem finish_eq_bind (s : Scanner) (text : List Char) :
    s.finish letters text = (s.feed letters text.head?).bind fun s' =>
      match text with
      | [] => .ok s'.tokens.toList
      | _ :: rest => s'.finish letters rest := by
  cases text with
  | nil => rfl
  | cons c rest => exact Scanner.finish_cons s c rest

/-- A loop yields what the run over the characters yields, in which a character that is read again
is read by two steps at once. -/
theorem eq_finish_of_runs (hl : letters.AgreeOnAscii .unicode) (h : Runs letters s turns result)
    (hreads : s.scanner.Reads letters) : result = s.scanner.finish letters s.rest := by
  induction h with
  | ended state => exact absurd state hreads.1
  | @fails s error inside turn =>
    have hfeed : s.scanner.feed letters s.rest.head? = .error error := by
      simp only [Scanner.feed, error_of_turn turn]
    rw [finish_eq_bind, hfeed, Except.bind]
  | @goesOn s s' reading turns result inside turn more ih =>
    obtain ⟨hstep, hleft⟩ := step_of_turn turn
    obtain ⟨hholds, hended, hagain, _⟩ := Scanner.covers_of_step hl hreads hstep
    cases reading with
    | again =>
      -- Reading by characters takes this turn and the next as one.
      have hstate : s'.scanner.state ≠ .ended := by simp [(hagain rfl).1]
      rw [ih ⟨hstate, hholds⟩, hleft]
      exact (finish_of_again inside hstep).symm
    | consumed =>
      have hfeed : s.scanner.feed letters s.rest.head? = .ok s'.scanner := by
        simp only [Scanner.feed, hstep]
      rw [finish_eq_bind, hfeed, Except.bind]
      cases hrest : s.rest with
      | nil =>
        have hstate : s'.scanner.state = .ended := (hended rfl).mpr hrest
        exact (more.unique (.ended hstate)).2.symm
      | cons c rest =>
        have hstate : s'.scanner.state ≠ .ended := by simp [hended, hrest]
        rw [ih ⟨hstate, hholds⟩, hleft, hrest]
        rfl

end Scan

theorem length_le_of_spells {tokens : List Token} {text : List Char} (h : Spells tokens text) :
    tokens.length ≤ text.length := by
  induction tokens generalizing text with
  | nil => exact Nat.zero_le _
  | cons t tokens ih =>
    obtain ⟨gap, rest, rfl, _, hwf, _, hrest⟩ := h
    obtain ⟨first, more, hlexeme, _⟩ := head_not_mem_blanks hwf
    have hle := ih hrest
    simp only [hlexeme, List.length_append, List.length_cons]
    omega

/-- What a loop over a text of `size` characters costs. -/
structure Scan.Bounded (letters : Letters) (size : Nat) (turns : List Scan) : Prop where
  length_le : turns.length ≤ 2 * (size + 1)
  retries : turns.IsChain fun s next => s.Retries letters → ¬ next.Retries letters
  between : ∀ s ∈ turns, s.scanner.state = .between →
    s.Consumes letters ∨ s.Finishes letters ∨ s.Fails letters
  atEnd_le : (turns.countP fun s => s.rest.isEmpty) ≤ 2

/-- The loop over a source ends, in one way and with its tokens or its error, and takes no more than
two turns for each character and for the end. -/
theorem Scan.runs_start (source : String) :
    ∃ turns, Runs .unicode (start source) turns (tokenize source) ∧
      (∀ turns' result, Runs .unicode (start source) turns' result →
        turns' = turns ∧ result = tokenize source) ∧
      Bounded .unicode source.length turns ∧
      ∀ tokens, tokenize source = .ok tokens → tokens.length ≤ source.length := by
  have hl : Letters.unicode.AgreeOnAscii .unicode := .refl _
  obtain ⟨turns, result, hruns⟩ := exists_runs .unicode (start source)
  obtain rfl : result = tokenize source := eq_finish_of_runs hl hruns (Scanner.reads_fresh #[])
  refine ⟨turns, hruns, fun _ _ => hruns.unique, ?_, fun tokens htokens => ?_⟩
  · have hlength : turns.length ≤ (start source).budget := length_le_budget hruns
    rw [budget_start] at hlength
    refine ⟨by omega, isChain_retries hruns, fun s _ hstate => ?_, countP_isEmpty_le hruns⟩
    rcases cases_of_turn .unicode (s := s) (by simp [hstate]) with h | h | ⟨_, h⟩ | ⟨h, _⟩
    · exact .inr (.inr h)
    · exact .inl h
    · exact .inr (.inl h)
    · exact absurd hstate h
  · have hspells := (tokenizeWith_eq_ok_iff hl source tokens).mp htokens
    exact length_le_of_spells hspells

end LoopScript
