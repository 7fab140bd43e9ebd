import LoopScript.Proofs.Report.Decoder

/-! Escapes that decode back. A character of a string may be written in more than one way, and one
that is read back when it stands alone between quotation marks is read back in every string. For the
decoder has to be between quotation marks until the last one, and what it does there does not depend
on what is in front or around. -/
namespace LoopScript.Json

/-- A way to write each character of a string so that it decodes back. -/
structure Escapes where
  write : Char → List Char
  decode_write : ∀ c, decode (String.ofList ('"' :: write c ++ ['"'])) =
    some (.string (String.singleton c))

/-- No control character, and so no line break. -/
def Printable (text : List Char) : Prop := ∀ c ∈ text, 0x20 ≤ c.toNat

theorem printable_append {text text' : List Char} :
    Printable (text ++ text') ↔ Printable text ∧ Printable text' := List.forall_mem_append

theorem printable_cons {c : Char} {text : List Char} :
    Printable (c :: text) ↔ 0x20 ≤ c.toNat ∧ Printable text := List.forall_mem_cons

namespace Decoder

theorem hexDigit?_digitChar : ∀ n < 16, hexDigit? (Nat.digitChar n) = some n := by decide

theorem of_control {c : Char} (h : c.toNat < 0x20) :
    c ≠ '\\' ∧ c ≠ 'u' ∧ escaped? c = none ∧ hexDigit? c = none := by
  have hall : ∀ n < 0x20, Char.ofNat n ≠ '\\' ∧ Char.ofNat n ≠ 'u' ∧
      escaped? (Char.ofNat n) = none ∧ hexDigit? (Char.ofNat n) = none := by decide
  simpa using hall c.toNat h

theorem Quoted.step_of_control {c : Char} (h : c.toNat < 0x20) (place : Quoted) :
    place.step c = none := by
  obtain ⟨hslash, hunit, hescaped, hdigit⟩ := of_control h
  cases place with
  | plain => simp [step, hslash, h]
  | halfway => simp [step, hslash]
  | escape => simp [step, hunit, hescaped]
  | digits => simp [step, hdigit]

theorem escaped?_of_shortEscape? {c letter : Char} (h : shortEscape? c = some letter) :
    letter ≠ 'u' ∧ escaped? letter = some c := by
  unfold shortEscape? at h
  split at h <;> cases h <;> decide

theorem ne_of_shortEscape?_eq_none {c : Char} (h : shortEscape? c = none) : c ≠ '"' ∧ c ≠ '\\' := by
  constructor
  · rintro rfl
    cases h
  · rintro rfl
    cases h

theorem Quoted.close_none_toNat {c : Char} (h : c.toNat < 0xD800) :
    Quoted.close none c.toNat = some (.plain, [c]) := by
  have hlead : isLead c.toNat = false := by simp [isLead]; omega
  have htrail : isTrail c.toNat = false := by simp [isTrail]; omega
  simp [close, hlead, htrail]

namespace Progress

variable {due : Due} {stack : List Frame} {front : List Char}

theorem feed_nil (p : Progress) : p.feed [] = some p := rfl

theorem feed_cons (p : Progress) (c : Char) (text : List Char) :
    p.feed (c :: text) = (p.step c).bind (·.feed text) := List.foldlM_cons

theorem feed_append (p : Progress) (text text' : List Char) :
    p.feed (text ++ text') = (p.feed text).bind (·.feed text') := List.foldlM_append

theorem feed_append_of_eq {p q : Progress} {text : List Char} (h : p.feed text = some q)
    (text' : List Char) : p.feed (text ++ text') = q.feed text' := by
  rw [feed_append, h, Option.bind_some]

theorem feed_singleton (p : Progress) (c : Char) : p.feed [c] = p.step c := by
  rw [feed_cons]
  cases p.step c <;> rfl

/-- Inside quotation marks, a character other than such a mark goes to the reader of strings. -/
theorem step_quoted {place : Quoted} {c : Char} (h : place = .plain → c ≠ '"') :
    step ⟨due, stack, .quoted front place⟩ c =
      (place.step c).map fun (place, known) => ⟨due, stack, .quoted (front ++ known) place⟩ := by
  change inQuotes _ front place c = _
  unfold inQuotes
  split
  · exact absurd rfl (h rfl)
  · rfl

theorem advance_behind (value : Document) (part : Part) (symbol : Symbol) :
    advance ⟨.behind value, [], part⟩ symbol = none := by
  cases symbol <;> rfl

theorem of_start_behind {value : Document} {c : Char} {q : Progress}
    (h : start ⟨.behind value, [], .none⟩ c = some q) :
    ∃ part, q = ⟨.behind value, [], part⟩ ∧ part ≠ .none := by
  unfold start at h
  simp only [advance_behind] at h
  split at h
  case h_11 =>
    split at h <;> cases h
    exact ⟨_, rfl, nofun⟩
  all_goals cases h
  all_goals exact ⟨_, rfl, nofun⟩

/-- Behind a whole document only blanks can stand, and a symbol that begins does not end. -/
theorem of_step_behind {value : Document} {part : Part} {c : Char} {q : Progress}
    (h : step ⟨.behind value, [], part⟩ c = some q) :
    ∃ part, q = ⟨.behind value, [], part⟩ ∧ (isSpace c = false → part ≠ .none) := by
  cases part with
  | none =>
    change (if isSpace c then some ⟨.behind value, [], .none⟩
      else start ⟨.behind value, [], .none⟩ c) = some q at h
    split at h
    · next hspace =>
      cases h
      exact ⟨.none, rfl, by simp [hspace]⟩
    · obtain ⟨part, rfl, hpart⟩ := of_start_behind h
      exact ⟨part, rfl, fun _ => hpart⟩
  | quoted front place =>
    by_cases hclose : place = .plain ∧ c = '"'
    · obtain ⟨rfl, rfl⟩ := hclose
      change advance ⟨.behind value, [], .quoted front .plain⟩
        (.text (String.ofList front)) = some q at h
      rw [advance_behind] at h
      cases h
    · rw [step_quoted fun hplace hc => hclose ⟨hplace, hc⟩] at h
      obtain ⟨next, -, rfl⟩ := Option.map_eq_some_iff.mp h
      exact ⟨_, rfl, nofun⟩
  | word left leaf =>
    simp only [step, advance_behind] at h
    split at h
    · cases h
    · split at h <;> cases h
      exact ⟨_, rfl, nofun⟩
  | number front =>
    simp only [step, endNumber, advance_behind, ite_self] at h
    split at h <;> cases h
    exact ⟨_, rfl, nofun⟩

theorem finish_behind {value : Document} {part : Part} (text : List Char) :
    (feed ⟨.behind value, [], part⟩ (text ++ ['"'])).bind finish = none := by
  induction text generalizing part with
  | nil =>
    rw [List.nil_append, feed_singleton]
    cases hstep : step ⟨.behind value, [], part⟩ '"' with
    | none => rfl
    | some q =>
      obtain ⟨part, rfl, hpart⟩ := of_step_behind hstep
      have hpart := hpart (by decide)
      cases part with
      | none => exact absurd rfl hpart
      | _ => rfl
  | cons c text ih =>
    rw [List.cons_append, feed_cons]
    cases hstep : step ⟨.behind value, [], part⟩ c with
    | none => rfl
    | some q =>
      obtain ⟨part, rfl, -⟩ := of_step_behind hstep
      exact ih

/-- What is read between quotation marks is read so in every place. -/
theorem of_quoted {place : Quoted} {text : List Char} {value : String}
    (h : (feed ⟨.value, [], .quoted front place⟩ (text ++ ['"'])).bind finish =
      some (.string value)) :
    ∃ known, value.toList = front ++ known ∧ Printable text ∧ ∀ due stack front,
      feed ⟨due, stack, .quoted front place⟩ text =
        some ⟨due, stack, .quoted (front ++ known) .plain⟩ := by
  induction text generalizing front place with
  | nil =>
    rw [List.nil_append, feed_singleton] at h
    by_cases hplace : place = .plain
    · subst hplace
      have hvalue : some (Document.string (String.ofList front)) = some (.string value) := h
      cases hvalue
      exact ⟨[], by simp, List.forall_mem_nil _, fun due stack front => by simp [feed_nil]⟩
    · rw [step_quoted (absurd · hplace)] at h
      cases hstep : place.step '"' with
      | none => rw [hstep] at h; cases h
      | some => rw [hstep] at h; cases h
  | cons c text ih =>
    rw [List.cons_append, feed_cons] at h
    by_cases hclose : place = .plain ∧ c = '"'
    · obtain ⟨rfl, rfl⟩ := hclose
      have hrest : (feed ⟨.behind (.string (String.ofList front)), [], .none⟩
          (text ++ ['"'])).bind finish = none := finish_behind text
      exact absurd (h.symm.trans hrest) nofun
    · have hquoted : place = .plain → c ≠ '"' := fun hplace hc => hclose ⟨hplace, hc⟩
      rw [step_quoted hquoted] at h
      cases hstep : place.step c with
      | none => rw [hstep] at h; cases h
      | some next =>
        obtain ⟨place', first⟩ := next
        rw [hstep] at h
        obtain ⟨known, hvalue, htext, hfeed⟩ := ih h
        have hc : 0x20 ≤ c.toNat := by
          refine Nat.le_of_not_lt fun hcontrol => ?_
          rw [Quoted.step_of_control hcontrol] at hstep
          cases hstep
        refine ⟨first ++ known, by rw [hvalue, List.append_assoc], printable_cons.mpr ⟨hc, htext⟩,
          fun due stack front => ?_⟩
        rw [feed_cons, step_quoted hquoted, hstep]
        exact (hfeed due stack (front ++ first)).trans (by rw [List.append_assoc])

/-- Each way to write a character of a string is read as that character. -/
theorem feed_escapeChar (due : Due) (stack : List Frame) (front : List Char) (c : Char) :
    feed ⟨due, stack, .quoted front .plain⟩ (escapeChar c) =
      some ⟨due, stack, .quoted (front ++ [c]) .plain⟩ := by
  unfold escapeChar
  split
  next letter hletter =>
    obtain ⟨hu, hescaped⟩ := escaped?_of_shortEscape? hletter
    simp [feed_cons, feed_nil, step_quoted, Quoted.step, hu, hescaped]
  next hnone =>
    obtain ⟨hquote, hbackslash⟩ := ne_of_shortEscape?_eq_none hnone
    split
    next hcontrol =>
      have hhigh := hexDigit?_digitChar (c.toNat / 16) (by omega)
      have hlow := hexDigit?_digitChar (c.toNat % 16) (by omega)
      have hzero : hexDigit? '0' = some 0 := by decide
      have hvalue : 16 * (c.toNat / 16) + c.toNat % 16 = c.toNat := by omega
      have hclose := Quoted.close_none_toNat (c := c) (by omega)
      simp [feed_cons, feed_nil, step_quoted, Quoted.step, hzero, hhigh, hlow, hvalue, hclose]
    next hcontrol =>
      rw [feed_singleton, step_quoted fun _ => hquote]
      simp [Quoted.step, hbackslash, hcontrol]

end Progress

end Decoder

namespace Escapes

open Decoder Progress

/-- The escapes of the program. -/
def standard : Escapes where
  write := escapeChar
  decode_write c := by
    have hopen : step ⟨.value, [], .none⟩ '"' = some ⟨.value, [], .quoted [] .plain⟩ := rfl
    rw [decode, String.toList_ofList, List.cons_append, feed_cons, hopen, Option.bind_some,
      feed_append_of_eq (feed_escapeChar _ _ _ c)]
    rfl

theorem reads_write (escapes : Escapes) (c : Char) :
    Printable (escapes.write c) ∧ ∀ due stack front,
      feed ⟨due, stack, .quoted front .plain⟩ (escapes.write c) =
        some ⟨due, stack, .quoted (front ++ [c]) .plain⟩ := by
  have hdecode := escapes.decode_write c
  rw [decode, String.toList_ofList, List.cons_append, feed_cons] at hdecode
  obtain ⟨known, hvalue, hprintable, hfeed⟩ := of_quoted hdecode
  obtain rfl : known = [c] := by simpa using hvalue.symm
  exact ⟨hprintable, hfeed⟩

theorem printable_write (escapes : Escapes) (c : Char) : Printable (escapes.write c) :=
  (escapes.reads_write c).1

theorem feed_write (escapes : Escapes) (due : Due) (stack : List Frame) (front : List Char)
    (c : Char) : feed ⟨due, stack, .quoted front .plain⟩ (escapes.write c) =
      some ⟨due, stack, .quoted (front ++ [c]) .plain⟩ :=
  (escapes.reads_write c).2 due stack front

end Escapes

end LoopScript.Json
