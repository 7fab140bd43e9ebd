import LoopScript.Proofs.Lexical.Closing

/-! Carriage returns in front of line feeds. A text has the same kinds of token without them, or the
same fault. They reach into strings only, where they are part of the lexeme. -/
namespace LoopScript

open Text

/-- Both come to results that are alike, or both fail in ways that are. -/
inductive Alike {ε α : Type} (errors : ε → ε → Prop) (results : α → α → Prop) :
    Except ε α → Except ε α → Prop
  | ok {a a'} (same : results a a') : Alike errors results (.ok a) (.ok a')
  | error {e e'} (same : errors e e') : Alike errors results (.error e) (.error e')

namespace Alike

variable {ε ε' α β : Type} {errors : ε → ε → Prop} {results : α → α → Prop}
  {results' : β → β → Prop} {x y z : Except ε α}

theorem refl (he : ∀ e, errors e e) (hr : ∀ a, results a a) (x : Except ε α) :
    Alike errors results x x := by
  cases x with
  | ok a => exact .ok (hr a)
  | error e => exact .error (he e)

theorem trans (he : ∀ e e' e'', errors e e' → errors e' e'' → errors e e'')
    (hr : ∀ a a' a'', results a a' → results a' a'' → results a a'')
    (h : Alike errors results x y) (h' : Alike errors results y z) : Alike errors results x z := by
  cases h with
  | ok same =>
    cases h' with
    | ok same' => exact .ok (hr _ _ _ same same')
  | error same =>
    cases h' with
    | error same' => exact .error (he _ _ _ same same')

theorem bind {f g : α → Except ε β} (h : Alike errors results x y)
    (hf : ∀ a a', results a a' → Alike errors results' (f a) (g a')) :
    Alike errors results' (x.bind f) (y.bind g) := by
  cases h with
  | ok same => exact hf _ _ same
  | error same => exact .error same

theorem map {f g : α → β} (h : Alike errors results x y)
    (hf : ∀ a a', results a a' → results' (f a) (g a')) :
    Alike errors results' (x.map f) (y.map g) := by
  cases h with
  | ok same => exact .ok (hf _ _ same)
  | error same => exact .error same

theorem mapError {errors' : ε' → ε' → Prop} {f g : ε → ε'} (h : Alike errors results x y)
    (hf : ∀ e e', errors e e' → errors' (f e) (g e')) :
    Alike errors' results (x.mapError f) (y.mapError g) := by
  cases h with
  | ok same => exact .ok same
  | error same => exact .error (hf _ _ same)

end Alike

def LexicalError.SameFault (e e' : LexicalError) : Prop := e.fault = e'.fault

def SameKinds (tokens tokens' : List Token) : Prop := kindsOf tokens = kindsOf tokens'

/-- The text without the carriage returns that stand in front of a line feed. What is left is not
read over again. -/
def plainChars : List Char → List Char
  | '\r' :: '\n' :: text => '\n' :: plainChars text
  | c :: text => c :: plainChars text
  | [] => []

def plainBreaks (source : String) : String := String.ofList (plainChars source.toList)

namespace Scanner

/-- The two differ in their lexemes only. -/
structure Twins (s s' : Scanner) : Prop where
  state : s.state = s'.state
  pending : s.state ≠ .string → s.pending = s'.pending
  kinds : SameKinds s.tokens.toList s'.tokens.toList

variable {letters : Letters} {s s' : Scanner}

theorem Twins.emit {t : State} {emitted emitted' : Option Token} {pending pending' : String}
    (h : s.Twins s') (hpending : t ≠ .string → pending = pending')
    (hkind : emitted.map (·.kind) = emitted'.map (·.kind)) :
    Twins ⟨t, pending, s.tokens ++ emitted.toArray⟩
      ⟨t, pending', s'.tokens ++ emitted'.toArray⟩ := by
  refine ⟨rfl, hpending, ?_⟩
  have htokens : s.tokens.toList.map (·.kind) = s'.tokens.toList.map (·.kind) := h.kinds
  have hemitted : emitted.toList.map (·.kind) = emitted'.toList.map (·.kind) := by
    cases emitted <;> cases emitted' <;> simp_all
  simp [SameKinds, kindsOf, htokens, hemitted]

theorem Twins.step (h : s.Twins s') (c : Option Char) :
    Alike LexicalError.SameFault (fun r r' => r.1 = r'.1 ∧ r.2.Twins r'.2)
      (s.step letters c) (s'.step letters c) := by
  obtain ⟨state, pending, tokens⟩ := s
  obtain ⟨state', pending', tokens'⟩ := s'
  obtain rfl : state = state' := h.state
  unfold Scanner.step
  by_cases hstring : state = .string
  · subst hstring
    cases c with
    | none => exact .error rfl
    | some c =>
      by_cases hc : c = '"'
      · simp only [State.step, State.readString, hc, if_true]
        exact .ok ⟨rfl, h.emit (fun _ => rfl) rfl⟩
      · simp only [State.step, State.readString, hc, if_false]
        exact .ok ⟨rfl, h.emit (fun hne => absurd rfl hne) rfl⟩
  · obtain rfl : pending = pending' := h.pending hstring
    simp only
    cases state.step letters pending c with
    | mk result pending =>
      cases result with
      | error error => exact .error rfl
      | ok t => exact .ok ⟨rfl, h.emit (fun _ => rfl) rfl⟩

theorem feed_eq_bind (s : Scanner) (c : Option Char) :
    s.feed letters c = (s.step letters c).bind fun r => match r with
      | (.consumed, s') => .ok s'
      | (.again, s') => (s'.step letters c).map Prod.snd := by
  unfold Scanner.feed
  split
  · next hs => rw [hs]; rfl
  · next hs => rw [hs]; rfl
  · next hs => rw [hs]; rfl

theorem Twins.feed (h : s.Twins s') (c : Option Char) :
    Alike LexicalError.SameFault Twins (s.feed letters c) (s'.feed letters c) := by
  rw [feed_eq_bind, feed_eq_bind]
  refine (h.step c).bind fun r r' hr => ?_
  obtain ⟨reading, s₁⟩ := r
  obtain ⟨reading', s₁'⟩ := r'
  obtain ⟨rfl, htwins⟩ : reading = reading' ∧ s₁.Twins s₁' := hr
  cases reading with
  | consumed => exact .ok htwins
  | again => exact (htwins.step c).map fun _ _ hr => hr.2

theorem Twins.finish (h : s.Twins s') (text : List Char) :
    Alike LexicalError.SameFault SameKinds (s.finish letters text) (s'.finish letters text) := by
  induction text generalizing s s' with
  | nil =>
    rw [finish_nil, finish_nil]
    exact (h.feed none).map fun _ _ ht => ht.kinds
  | cons c text ih =>
    rw [finish_cons, finish_cons]
    exact (h.feed (some c)).bind fun _ _ ht => ih ht

theorem alike_refl (x : Except LexicalError (List Token)) :
    Alike LexicalError.SameFault SameKinds x x :=
  .refl (fun e => Eq.refl e.fault) (fun tokens => Eq.refl (kindsOf tokens)) x

/-- A carriage return in front of a line feed changes lexemes at most. -/
theorem finish_carriageReturn (hl : letters.AgreeOnAscii .unicode) (h : s.Reads letters)
    (text : List Char) :
    Alike LexicalError.SameFault SameKinds (s.finish letters ('\r' :: '\n' :: text))
      (s.finish letters ('\n' :: text)) := by
  have hreturn : Closes (some '\r') := .of_mem (by decide) (by decide)
  have hfeed : Closes (some '\n') := .of_mem (by decide) (by decide)
  by_cases hstring : s.state = .string
  · have hreturn' : ({ s with pending := s.pending.push '\r' } : Scanner).state = .string := hstring
    rw [finish_cons, feed_string hstring (by decide), finish_cons, feed_string hstring (by decide)]
    simp only [Except.bind]
    rw [finish_cons, feed_string hreturn' (by decide)]
    have htwins : Twins { s with pending := (s.pending.push '\r').push '\n' }
        { s with pending := s.pending.push '\n' } :=
      ⟨rfl, fun hne => absurd hstring hne, rfl⟩
    exact htwins.finish text
  · rcases feed_of_closes hl h hstring with ⟨tokens, htokens⟩ | ⟨fault, hfault⟩
    · have hdropped : s.feed letters (some '\r') = .ok (fresh tokens) := by
        rw [htokens _ hreturn, feed_fresh]
        simp [Scanner.step, fresh, State.step, State.readBetween, isBlank, Step.proceed, Except.map]
      have hsame : s.finish letters ('\r' :: '\n' :: text) = s.finish letters ('\n' :: text) := by
        rw [finish_cons, hdropped]
        exact finish_congr (htokens _ hfeed).symm
      rw [hsame]
      exact alike_refl _
    · rw [finish_cons, finish_cons, hfault _ hreturn, hfault _ hfeed]
      exact .error rfl

theorem finish_plainChars (hl : letters.AgreeOnAscii .unicode) (h : s.Reads letters)
    (text : List Char) :
    Alike LexicalError.SameFault SameKinds (s.finish letters text)
      (s.finish letters (plainChars text)) := by
  have hcons {s : Scanner} (h : s.Reads letters) (c : Char) {text text' : List Char}
      (ih : ∀ s : Scanner, s.Reads letters → Alike LexicalError.SameFault SameKinds
        (s.finish letters text) (s.finish letters text')) :
      Alike LexicalError.SameFault SameKinds (s.finish letters (c :: text))
        (s.finish letters (c :: text')) := by
    rw [finish_cons, finish_cons]
    cases hf : s.feed letters (some c) with
    | error error => exact .error rfl
    | ok s' => exact ih s' (h.feed hl hf)
  induction text using plainChars.induct generalizing s with
  | case1 text ih =>
    have hbreak := hcons h '\n' fun s hs => ih (s := s) hs
    exact .trans (fun _ _ _ => Eq.trans) (fun _ _ _ => Eq.trans)
      (finish_carriageReturn hl h text) hbreak
  | case2 c text hnot ih =>
    rw [plainChars]
    · exact hcons h c fun s hs => ih (s := s) hs
    · exact hnot
  | case3 => exact alike_refl _

end Scanner

theorem tokenize_plainChars (source : String) :
    Alike LexicalError.SameFault SameKinds (tokenize source) (tokenize (plainBreaks source)) := by
  have hagree := Letters.AgreeOnAscii.refl .unicode
  rw [tokenize, tokenize, tokenizeWith_eq_finish, tokenizeWith_eq_finish, plainBreaks,
    String.toList_ofList]
  exact Scanner.finish_plainChars hagree (Scanner.reads_fresh #[]) source.toList

end LoopScript
