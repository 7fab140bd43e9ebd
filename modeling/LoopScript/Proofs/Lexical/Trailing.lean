import LoopScript.Proofs.Lexical.Closing

/-! Blanks and line breaks behind a text. They add a token for each line break, and make no text
good that has no tokens by itself. -/
namespace LoopScript

open Text

def lineBreak : Token := ⟨.newline, "\n"⟩

def lineBreaks (text : List Char) : List Token := List.replicate (text.count '\n') lineBreak

theorem spells_lineBreaks {text : List Char} (h : ∀ c ∈ text, c ∈ '\n' :: blanks) :
    Spells (lineBreaks text) text := by
  induction text with
  | nil => exact spells_nil.mpr rfl
  | cons c text ih =>
    obtain ⟨hc, htext⟩ := List.forall_mem_cons.mp h
    have hspells := ih htext
    rcases List.mem_cons.mp hc with rfl | hblank
    · rw [lineBreaks, List.count_cons_self, List.replicate_succ]
      exact spells_of_wellFormed (t := lineBreak) rfl trivial hspells
    · have hne : c ≠ '\n' := by
        intro heq
        subst heq
        exact absurd hblank (by decide)
      rw [lineBreaks, List.count_cons_of_ne hne]
      exact (spells_blank hblank).mpr hspells

namespace Scanner

variable {letters : Letters} {s : Scanner} {error : LexicalError} {behind : List Char}

theorem exists_error_of_string (hstate : s.state = .string) (h : ∀ c ∈ behind, c ≠ '"') :
    ∃ error, s.finish letters behind = .error error := by
  induction behind generalizing s with
  | nil =>
    rw [finish_nil, feed, step, hstate]
    exact ⟨_, rfl⟩
  | cons c behind ih =>
    obtain ⟨hc, hbehind⟩ := List.forall_mem_cons.mp h
    rw [finish_cons, feed_string hstate hc]
    exact ih hstate hbehind

/-- What cannot end with the text cannot end in front of what closes it either. -/
theorem exists_error_of_end (hl : letters.AgreeOnAscii .unicode) (h : s.Reads letters)
    (hend : s.feed letters none = .error error) (hbehind : ∀ c ∈ behind, c ∈ '\n' :: blanks) :
    ∃ error', s.finish letters behind = .error error' := by
  have hsigns : ∀ c ∈ '\n' :: blanks, c ≠ '"' ∧ c ∈ delimiters ∧ c ≠ '=' := by decide
  by_cases hstring : s.state = .string
  · exact exists_error_of_string hstring fun c hc => (hsigns c (hbehind c hc)).1
  · rcases feed_of_closes hl h hstring with ⟨tokens, htokens⟩ | ⟨fault, hfault⟩
    · rw [htokens none .none, feed_fresh_none] at hend
      cases hend
    · cases behind with
      | nil =>
        rw [finish_nil, hfault none .none]
        exact ⟨_, rfl⟩
      | cons c behind =>
        obtain ⟨_, hdelimiter, hne⟩ := hsigns c (hbehind c (List.mem_cons_self ..))
        rw [finish_cons, hfault (some c) (.of_mem hdelimiter hne)]
        exact ⟨_, rfl⟩

theorem exists_error_of_append (hl : letters.AgreeOnAscii .unicode) (h : s.Reads letters)
    {text : List Char} (herror : s.finish letters text = .error error)
    (hbehind : ∀ c ∈ behind, c ∈ '\n' :: blanks) :
    ∃ error', s.finish letters (text ++ behind) = .error error' := by
  induction text generalizing s with
  | nil =>
    rw [finish_nil] at herror
    cases hend : s.feed letters none with
    | ok s' =>
      rw [hend] at herror
      cases herror
    | error error' => exact exists_error_of_end hl h hend hbehind
  | cons c text ih =>
    rw [finish_cons] at herror
    rw [List.cons_append, finish_cons]
    cases hf : s.feed letters (some c) with
    | error error' => exact ⟨error', rfl⟩
    | ok s' =>
      rw [hf] at herror
      exact ih (h.feed hl hf) herror

end Scanner

section

variable {source behind : String} (h : ∀ c ∈ behind.toList, c ∈ '\n' :: blanks)

include h

theorem tokenize_append_lineBreaks {tokens : List Token} (hsource : tokenize source = .ok tokens) :
    tokenize (source ++ behind) = .ok (tokens ++ lineBreaks behind.toList) := by
  have hagree := Letters.AgreeOnAscii.refl .unicode
  have hsigns : ∀ c ∈ '\n' :: blanks, c ∈ delimiters ∧ c ≠ '=' := by decide
  have hnext : Closes behind.toList.head? :=
    fun c hc => hsigns c (h c (List.mem_of_mem_head? hc))
  have hbehind : tokenizeWith .unicode behind = .ok (lineBreaks behind.toList) :=
    (tokenizeWith_eq_ok_iff hagree behind _).mpr (spells_lineBreaks h)
  rw [tokenize, tokenizeWith_append hagree hsource hnext, hbehind]
  rfl

theorem exists_of_tokenize_append {tokens : List Token}
    (happend : tokenize (source ++ behind) = .ok tokens) :
    ∃ front, tokenize source = .ok front ∧ tokens = front ++ lineBreaks behind.toList := by
  have hagree := Letters.AgreeOnAscii.refl .unicode
  cases hsource : tokenize source with
  | ok front =>
    rw [tokenize_append_lineBreaks h hsource] at happend
    cases happend
    exact ⟨front, rfl, rfl⟩
  | error error =>
    obtain ⟨error', herror⟩ :=
      Scanner.exists_error_of_append hagree (Scanner.reads_fresh #[]) hsource h
    rw [tokenize, tokenizeWith_eq_finish, String.toList_append, herror] at happend
    cases happend

end

end LoopScript
