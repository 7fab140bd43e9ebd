import LoopScript.Proofs.Lexical.Extent

/-! The first token of a text. Once it is known how far the token in hand goes, every way to lay the
text out as tokens begins with it. -/
namespace LoopScript

open Text

variable {letters : Letters} {tokens : List Token} {rest : List Char}

theorem head_not_mem_blanks {t : Token} (h : t.WellFormed) :
    ∃ first more, t.lexeme.toList = first :: more ∧ first ∉ blanks := by
  have hagree := Letters.AgreeOnAscii.refl .unicode
  by_cases hquote : t.lexeme.toList.head? = some '"'
  · obtain ⟨more, htext⟩ := List.head?_eq_some_iff.mp hquote
    exact ⟨'"', more, htext, by decide⟩
  · obtain ⟨first, more, htext, hfirst, _⟩ := h.form.gathered hagree hquote
    exact ⟨first, more, htext, fun hblank => hfirst (List.mem_cons_of_mem _ hblank)⟩

theorem spells_nil : Spells tokens [] ↔ tokens = [] := by
  cases tokens with
  | nil => simp [Spells]
  | cons t more =>
    have hne : ¬ Spells (t :: more) [] := by
      intro h
      obtain ⟨gap, rest, htext, _, hwf, _, _⟩ := h
      obtain ⟨first, tail, hlexeme, _⟩ := head_not_mem_blanks hwf
      simp [hlexeme] at htext
    simp [hne]

theorem spells_blank {c : Char} (hc : c ∈ blanks) :
    Spells tokens (c :: rest) ↔ Spells tokens rest := by
  cases tokens with
  | nil => simp [Spells, hc]
  | cons t more =>
    constructor
    · intro h
      obtain ⟨gap, behind, htext, hgap, hwf, hends, hmore⟩ := h
      cases gap with
      | nil =>
        obtain ⟨first, tail, hlexeme, hfirst⟩ := head_not_mem_blanks hwf
        rw [hlexeme] at htext
        cases htext
        exact absurd hc hfirst
      | cons c' gap =>
        cases htext
        exact ⟨gap, behind, rfl, fun d hd => hgap d (List.mem_cons_of_mem _ hd), hwf, hends, hmore⟩
    · intro h
      obtain ⟨gap, behind, htext, hgap, hwf, hends, hmore⟩ := h
      have hgap' : ∀ d ∈ c :: gap, d ∈ blanks := List.forall_mem_cons.mpr ⟨hc, hgap⟩
      exact ⟨c :: gap, behind, by rw [htext]; rfl, hgap', hwf, hends, hmore⟩

theorem exists_of_spells {first : Char} {text : List Char} (hfirst : first ∉ blanks)
    (h : Spells tokens (first :: text)) :
    ∃ t more rest, tokens = t :: more ∧ first :: text = t.lexeme.toList ++ rest ∧ t.WellFormed ∧
      t.kind.EndsBefore rest.head? ∧ Spells more rest := by
  cases tokens with
  | nil => exact absurd (h first (List.mem_cons_self ..)) hfirst
  | cons t more =>
    obtain ⟨gap, rest, htext, hgap, hwf, hends, hmore⟩ := h
    cases gap with
    | nil => exact ⟨t, more, rest, rfl, htext, hwf, hends, hmore⟩
    | cons c gap =>
      cases htext
      exact absurd (hgap first (List.mem_cons_self ..)) hfirst

theorem spells_of_wellFormed {t : Token} {more : List Token} (hwf : t.WellFormed)
    (hends : t.kind.EndsBefore rest.head?) (h : Spells more rest) :
    Spells (t :: more) (t.lexeme.toList ++ rest) :=
  ⟨[], rest, rfl, by simp, hwf, hends, h⟩

theorem wellFormed_of_spells (h : Spells tokens rest) : ∀ t ∈ tokens, t.WellFormed := by
  induction tokens generalizing rest with
  | nil => exact List.forall_mem_nil _
  | cons t more ih =>
    obtain ⟨_, _, _, _, hwf, _, hmore⟩ := h
    exact List.forall_mem_cons.mpr ⟨hwf, ih hmore⟩

/-- A token in hand that stops is the first one. -/
theorem exists_of_gathered (hl : letters.AgreeOnAscii .unicode) {pending : String}
    (hg : Gathered letters pending.toList) (hs : Stops letters pending.toList rest.head?)
    (h : Spells tokens (pending.toList ++ rest)) :
    ∃ kind more, tokens = ⟨kind, pending⟩ :: more ∧ Token.WellFormed ⟨kind, pending⟩ ∧
      kind.EndsBefore rest.head? ∧ Spells more rest := by
  obtain ⟨first, tail, hpending, hfirst, _⟩ := id hg
  have hblank : first ∉ blanks := fun hmem => hfirst (List.mem_cons_of_mem _ hmem)
  rw [hpending] at h
  obtain ⟨t, more, rest', htokens, htext, hwf, hends, hmore⟩ := exists_of_spells hblank h
  have hquote : t.lexeme.toList.head? ≠ some '"' := by
    obtain ⟨first', more', hlexeme, _⟩ := head_not_mem_blanks hwf
    rw [hlexeme, List.cons_append] at htext
    rw [hlexeme, List.head?_cons, ← (List.cons.inj htext).1]
    intro heq
    cases heq
    exact hfirst (List.mem_cons_self ..)
  have htext' : pending.toList ++ rest = t.lexeme.toList ++ rest' := by rw [hpending, ← htext]; rfl
  obtain ⟨hlexeme, hrest⟩ := gathered_inj hg (hwf.form.gathered hl hquote) hs
    (hwf.form.stops hl hends hquote) htext'
  obtain ⟨kind, lexeme⟩ := t
  obtain rfl : pending = lexeme := String.toList_inj.mp hlexeme
  subst hrest
  exact ⟨kind, more, htokens, hwf, hends, hmore⟩

theorem spells_iff_of_gathered (hl : letters.AgreeOnAscii .unicode) {pending : String}
    {kind : Kind} (hg : Gathered letters pending.toList)
    (hs : Stops letters pending.toList rest.head?)
    (hkind : ∀ kind', Token.WellFormed ⟨kind', pending⟩ ↔ kind' = kind)
    (hends : kind.EndsBefore rest.head?) : Spells tokens (pending.toList ++ rest) ↔
      ∃ more, tokens = ⟨kind, pending⟩ :: more ∧ Spells more rest := by
  constructor
  · intro h
    obtain ⟨kind', more, htokens, hwf, _, hmore⟩ := exists_of_gathered hl hg hs h
    rw [(hkind kind').mp hwf] at htokens
    exact ⟨more, htokens, hmore⟩
  · intro h
    obtain ⟨more, htokens, hmore⟩ := h
    rw [htokens]
    exact spells_of_wellFormed ((hkind kind).mpr rfl) hends hmore

/-! ### Strings -/

theorem exists_body_of_head {t : Token} (h : t.WellFormed)
    (hquote : t.lexeme.toList.head? = some '"') : t.kind = .stringLiteral ∧
      ∃ body, t.lexeme.toList = '"' :: (body ++ ['"']) ∧ '"' ∉ body := by
  have hsigns : '"' ∉ equalsSigns ++ loneSigns := by decide
  cases h.form with
  | string text closed => exact ⟨rfl, _, text, closed⟩
  | number text digits =>
    rw [text] at hquote
    cases hquote
    exact absurd (digits '"' (List.mem_cons_self ..)) (by decide)
  | word text hletters =>
    rw [text] at hquote
    cases hquote
    exact absurd hletters.1 (by decide)
  | comparison text sign =>
    rw [text] at hquote
    cases hquote
    exact absurd (List.mem_append_left _ sign) hsigns
  | lone text sign =>
    rw [text] at hquote
    cases hquote
    exact absurd (List.mem_append_right _ sign) hsigns

private theorem exists_string {text : List Char} (h : Spells tokens ('"' :: text)) :
    ∃ lexeme body more rest, tokens = ⟨.stringLiteral, lexeme⟩ :: more ∧
      lexeme.toList = '"' :: (body ++ ['"']) ∧ text = body ++ '"' :: rest ∧ '"' ∉ body ∧
      Spells more rest := by
  obtain ⟨t, more, rest, htokens, htext, hwf, _, hmore⟩ := exists_of_spells (by decide) h
  have hquote : t.lexeme.toList.head? = some '"' := by
    obtain ⟨first, tail, hlexeme, _⟩ := head_not_mem_blanks hwf
    rw [hlexeme] at htext ⊢
    cases htext
    rfl
  obtain ⟨hkind, body, hlexeme, hclosed⟩ := exists_body_of_head hwf hquote
  obtain ⟨kind, lexeme⟩ := t
  subst hkind
  rw [hlexeme] at htext
  cases htext
  exact ⟨lexeme, body, more, rest, htokens, hlexeme, by simp, hclosed, hmore⟩

theorem not_spells_open {body : List Char} (hclosed : '"' ∉ body) :
    ¬ Spells tokens ('"' :: body) := by
  intro h
  obtain ⟨_, body', _, rest, _, _, htext, _, _⟩ := exists_string h
  rw [htext] at hclosed
  exact hclosed (by simp)

theorem exists_of_string {body : List Char} {pending : String} (hclosed : '"' ∉ body)
    (hpending : pending.toList = '"' :: (body ++ ['"']))
    (h : Spells tokens (pending.toList ++ rest)) :
    ∃ more, tokens = ⟨.stringLiteral, pending⟩ :: more ∧ Spells more rest := by
  rw [hpending, List.cons_append, List.append_assoc, List.singleton_append] at h
  obtain ⟨lexeme, body', more, rest', htokens, hlexeme, htext, hclosed', hmore⟩ := exists_string h
  obtain ⟨hbody, hrest⟩ := append_inj_of_notMem hclosed hclosed' htext
  subst hbody hrest
  rw [← hpending] at hlexeme
  obtain rfl : lexeme = pending := String.toList_inj.mp hlexeme
  exact ⟨more, htokens, hmore⟩

end LoopScript
