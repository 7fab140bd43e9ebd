import LoopScript.Lexical.Error
import LoopScript.Proofs.Lexical.Extent
import LoopScript.Proofs.Report.RoundTrip

/-! Messages read back. An escape says by itself which character it stands for and where it ends, so
an escaped text stands for one text only, and a message for one error only. None of this hangs on
the tables of the characters that are escaped. -/
namespace LoopScript

namespace Text

/-! ### Escapes -/

/-- The characters that are shown by their code point in first place, and those that are behind it.
What has a two-character form is shown in that form. -/
structure Hidden where
  first : Char → Bool
  behind : Char → Bool

def Hidden.unicode : Hidden where
  first c := isGraphemeExtend c || !isPrintable c
  behind c := !isPrintable c

def escapeCharBy (hidden : Char → Bool) (c : Char) : List Char :=
  match shortEscape? c with
  | some e => ['\\', e]
  | none => if hidden c then codePointEscape c else [c]

def escapeCharsBy (hidden : Hidden) : List Char → List Char
  | [] => []
  | c :: cs => escapeCharBy hidden.first c ++ cs.flatMap (escapeCharBy hidden.behind)

theorem escapeChars_eq (text : List Char) : escapeChars text = escapeCharsBy .unicode text := by
  cases text <;> rfl

def hexValue (digits : List Char) : Nat :=
  digits.foldl (fun value c => 16 * value + (Json.Decoder.hexDigit? c).getD 0) 0

def shortForm? : Char → Option Char
  | '0' => some '\x00'
  | 't' => some '\t'
  | 'r' => some '\r'
  | 'n' => some '\n'
  | '"' => some '"'
  | '\'' => some '\''
  | '\\' => some '\\'
  | _ => none

/-- Reads one character of an escaped text, and says what is left of the text. -/
def unescapeChar : List Char → Option (Char × List Char)
  | [] => none
  | '\\' :: 'u' :: text =>
    let digits := text.tail.takeWhile (· ≠ '\x7d')
    some (Char.ofNat (hexValue digits), text.tail.drop (digits.length + 1))
  | '\\' :: text => do
    let letter ← text.head?
    let c ← shortForm? letter
    return (c, text.tail)
  | c :: text => some (c, text)

theorem hexValue_append (digits : List Char) (c : Char) :
    hexValue (digits ++ [c]) = 16 * hexValue digits + (Json.Decoder.hexDigit? c).getD 0 :=
  List.foldl_concat ..

theorem hexValue_toDigits (n : Nat) : hexValue (Nat.toDigits 16 n) = n := by
  induction n using Nat.strongRecOn with
  | ind n ih =>
    have hdigit : Json.Decoder.hexDigit? (n % 16).digitChar = some (n % 16) :=
      Json.Decoder.hexDigit?_digitChar _ (Nat.mod_lt n (by decide))
    rw [Nat.toDigits_eq_if (by decide)]
    split
    next hlt =>
      rw [Nat.mod_eq_of_lt hlt] at hdigit
      simp [hexValue, hdigit]
    next hge =>
      rw [hexValue_append, ih (n / 16) (by omega), hdigit]
      exact Nat.div_add_mod n 16

theorem notMem_toDigits {c : Char} (h : ∀ m : Nat, m.digitChar ≠ c) (n : Nat) :
    c ∉ Nat.toDigits 16 n := by
  induction n using Nat.strongRecOn with
  | ind n ih =>
    rw [Nat.toDigits_eq_if (by decide)]
    split
    next => exact fun hmem => h n (List.mem_singleton.mp hmem).symm
    next hge =>
      have hfront := ih (n / 16) (by omega)
      have hlast : c ∉ [(n % 16).digitChar] := fun hmem => h _ (List.mem_singleton.mp hmem).symm
      exact List.not_mem_append hfront hlast

theorem shortForm?_of_shortEscape? {c letter : Char} (h : shortEscape? c = some letter) :
    letter ≠ 'u' ∧ shortForm? letter = some c := by
  unfold shortEscape? at h
  split at h <;> cases h <;> decide

theorem unescapeChar_codePointEscape (c : Char) (rest : List Char) :
    unescapeChar (codePointEscape c ++ rest) = some (c, rest) := by
  have htext : codePointEscape c ++ rest =
      '\\' :: 'u' :: '\x7b' :: (Nat.toDigits 16 c.toNat ++ '\x7d' :: rest) := by
    simp [codePointEscape]
  have htake : (Nat.toDigits 16 c.toNat ++ '\x7d' :: rest).takeWhile (· ≠ '\x7d') =
      Nat.toDigits 16 c.toNat := by
    have hbrace : '\x7d' ∉ Nat.toDigits 16 c.toNat :=
      notMem_toDigits (fun _ => Nat.digitChar_ne _ rfl) c.toNat
    rw [List.takeWhile_append_of_pos fun d hd => decide_eq_true (ne_of_mem_of_not_mem hd hbrace)]
    simp
  rw [htext]
  simp only [unescapeChar, List.tail_cons, htake, hexValue_toDigits, Char.ofNat_toNat]
  simp

section

variable {hidden : Char → Bool} {c c' : Char} {text text' rest rest' : List Char}

theorem unescapeChar_escapeCharBy (hidden : Char → Bool) (c : Char) (rest : List Char) :
    unescapeChar (escapeCharBy hidden c ++ rest) = some (c, rest) := by
  unfold escapeCharBy
  split
  next letter hletter =>
    obtain ⟨hunicode, hform⟩ := shortForm?_of_shortEscape? hletter
    simp [unescapeChar, hunicode, hform]
  next hnone =>
    split
    next => exact unescapeChar_codePointEscape c rest
    next =>
      have hslash : c ≠ '\\' := by
        rintro rfl
        cases hnone
      simp [unescapeChar, hslash]

theorem escapeCharBy_append_inj
    (h : escapeCharBy hidden c ++ rest = escapeCharBy hidden c' ++ rest') :
    c = c' ∧ rest = rest' := by
  have hread := congrArg unescapeChar h
  rw [unescapeChar_escapeCharBy, unescapeChar_escapeCharBy] at hread
  exact Prod.mk.inj (Option.some.inj hread)

theorem escapeCharBy_append_ne_nil (hidden : Char → Bool) (c : Char) (rest : List Char) :
    escapeCharBy hidden c ++ rest ≠ [] := by
  intro h
  have hread := unescapeChar_escapeCharBy hidden c rest
  rw [h] at hread
  cases hread

theorem flatMap_escapeCharBy_inj
    (h : text.flatMap (escapeCharBy hidden) = text'.flatMap (escapeCharBy hidden)) :
    text = text' := by
  induction text generalizing text' with
  | nil =>
    cases text' with
    | nil => rfl
    | cons c' text' => exact absurd h.symm (escapeCharBy_append_ne_nil _ _ _)
  | cons c text ih =>
    cases text' with
    | nil => exact absurd h (escapeCharBy_append_ne_nil _ _ _)
    | cons c' text' =>
      obtain ⟨rfl, hrest⟩ := escapeCharBy_append_inj h
      rw [ih hrest]

theorem escapeCharsBy_injective (hidden : Hidden) : Function.Injective (escapeCharsBy hidden) := by
  intro text text' h
  match text, text', h with
  | [], [], _ => rfl
  | [], _ :: _, h => exact absurd h.symm (escapeCharBy_append_ne_nil _ _ _)
  | _ :: _, [], h => exact absurd h (escapeCharBy_append_ne_nil _ _ _)
  | c :: text, c' :: text', h =>
    obtain ⟨rfl, hrest⟩ := escapeCharBy_append_inj h
    rw [flatMap_escapeCharBy_inj hrest]

theorem newline_notMem_escapeCharBy (hidden : Char → Bool) (c : Char) :
    '\n' ∉ escapeCharBy hidden c := by
  unfold escapeCharBy
  split
  next letter hletter =>
    have hform := (shortForm?_of_shortEscape? hletter).2
    have hletter : '\n' ≠ letter := by
      rintro rfl
      cases hform
    simp [hletter]
  next hnone =>
    split
    next =>
      have hdigits : '\n' ∉ Nat.toDigits 16 c.toNat :=
        notMem_toDigits (fun _ => Nat.digitChar_ne _ rfl) c.toNat
      simp [codePointEscape, hdigits]
    next =>
      have hc : '\n' ≠ c := by
        rintro rfl
        cases hnone
      simpa using hc

theorem newline_notMem_escapeCharsBy (hidden : Hidden) (text : List Char) :
    '\n' ∉ escapeCharsBy hidden text := by
  cases text with
  | nil => exact List.not_mem_nil
  | cons c text =>
    have hbehind : '\n' ∉ text.flatMap (escapeCharBy hidden.behind) := by
      simp only [List.mem_flatMap, not_exists, not_and]
      exact fun d _ => newline_notMem_escapeCharBy hidden.behind d
    exact List.not_mem_append (newline_notMem_escapeCharBy hidden.first c) hbehind

end

end Text

namespace LexicalError

/-! ### Messages -/

def characterOf : List Char → Option Char
  | 'e' :: 'n' :: _ => none
  | '\\' :: 'n' :: _ => some '\n'
  | text => text.head?

theorem characterOf_shownCharacter (character : Option Char) (rest : List Char) :
    characterOf ((shownCharacter character).toList ++ '.' :: rest) = character := by
  cases character with
  | none => rfl
  | some c =>
    by_cases hnewline : c = '\n'
    · rw [hnewline]
      rfl
    · simp [shownCharacter, characterOf, hnewline]

theorem shownCharacter_append_inj {character character' : Option Char} {rest rest' : List Char}
    (h : (shownCharacter character).toList ++ '.' :: rest =
      (shownCharacter character').toList ++ '.' :: rest') :
    character = character' ∧ rest = rest' := by
  have hread := congrArg characterOf h
  rw [characterOf_shownCharacter, characterOf_shownCharacter] at hread
  subst hread
  exact ⟨rfl, (List.cons.inj (List.append_cancel_left h)).2⟩

def shownTextBy (hidden : Text.Hidden) (text : String) : String :=
  if text.isEmpty then "" else
    " Statement: " ++ String.ofList (Text.escapeCharsBy hidden text.toList)

def messageBy (hidden : Text.Hidden) (e : LexicalError) : String :=
  e.fault.reason ++ ". Character: " ++ shownCharacter e.character ++ "." ++
    shownTextBy hidden e.text

theorem message_eq (e : LexicalError) : e.message = messageBy .unicode e := by
  rw [message, messageBy, shownText, shownTextBy, Text.escape, Text.escapeChars_eq]

section

variable (hidden : Text.Hidden)

theorem shownTextBy_injective : Function.Injective (shownTextBy hidden) := by
  intro text text' h
  unfold shownTextBy at h
  split at h <;> split at h
  next hempty hempty' => rw [String.isEmpty_iff.mp hempty, String.isEmpty_iff.mp hempty']
  next => exact absurd h (by simp)
  next => exact absurd h (by simp)
  next =>
    have hescaped := String.ofList_inj.mp ((String.append_right_inj _).mp h)
    exact String.toList_inj.mp (Text.escapeCharsBy_injective hidden hescaped)

theorem stop_notMem_reason (fault : LexicalFault) : '.' ∉ fault.reason.toList := by
  cases fault <;> decide

theorem reason_injective : Function.Injective LexicalFault.reason := by
  intro fault fault' h
  cases fault <;> cases fault' <;> first | rfl | exact absurd h (by decide)

theorem toList_messageBy (e : LexicalError) : (messageBy hidden e).toList =
    e.fault.reason.toList ++ '.' :: (" Character: ".toList ++
      ((shownCharacter e.character).toList ++ '.' :: (shownTextBy hidden e.text).toList)) := by
  simp [messageBy]

theorem messageBy_injective : Function.Injective (messageBy hidden) := by
  intro e e' h
  have htext := congrArg String.toList h
  rw [toList_messageBy, toList_messageBy] at htext
  obtain ⟨hreason, hrest⟩ :=
    append_inj_of_notMem (stop_notMem_reason e.fault) (stop_notMem_reason e'.fault) htext
  obtain ⟨hcharacter, htext⟩ := shownCharacter_append_inj (List.append_cancel_left hrest)
  have hfault := reason_injective (String.toList_inj.mp hreason)
  have htext := shownTextBy_injective hidden (String.toList_inj.mp htext)
  obtain ⟨fault, character, text⟩ := e
  simp only at hfault hcharacter htext
  rw [hfault, hcharacter, htext]

theorem newline_notMem_shownCharacter (character : Option Char) :
    '\n' ∉ (shownCharacter character).toList := by
  cases character with
  | none =>
    change '\n' ∉ "end of input".toList
    decide
  | some c =>
    change '\n' ∉ (if c = '\n' then "\\n" else String.singleton c).toList
    split
    next => decide
    next hc => simpa using Ne.symm hc

theorem newline_notMem_shownTextBy (text : String) :
    '\n' ∉ (shownTextBy hidden text).toList := by
  unfold shownTextBy
  split
  next => exact List.not_mem_nil
  next =>
    have hescaped : '\n' ∉ (String.ofList (Text.escapeCharsBy hidden text.toList)).toList := by
      rw [String.toList_ofList]
      exact Text.newline_notMem_escapeCharsBy hidden text.toList
    rw [String.toList_append]
    exact List.not_mem_append (by decide) hescaped

theorem newline_notMem_messageBy (e : LexicalError) : '\n' ∉ (messageBy hidden e).toList := by
  have hreason : '\n' ∉ e.fault.reason.toList := by cases e.fault <;> decide
  have hcharacter := newline_notMem_shownCharacter e.character
  have htext := newline_notMem_shownTextBy hidden e.text
  rw [toList_messageBy]
  simp [hreason, hcharacter, htext]

end

theorem message_injective : Function.Injective message := by
  intro e e' h
  rw [message_eq, message_eq] at h
  exact messageBy_injective .unicode h

/-- A message is one line, and two errors with one message are the same error. This is so whichever
characters are hidden. -/
theorem message_line_eq_iff :
    (∀ e : LexicalError, '\n' ∉ e.message.toList) ∧
      (∀ e e' : LexicalError, e.message = e'.message ↔ e = e') ∧
      ∀ hidden : Text.Hidden, (∀ e, '\n' ∉ (messageBy hidden e).toList) ∧
        ∀ e e', messageBy hidden e = messageBy hidden e' ↔ e = e' := by
  refine ⟨fun e => ?_, fun e e' => message_injective.eq_iff, fun hidden => ?_⟩
  · rw [message_eq]
    exact newline_notMem_messageBy .unicode e
  · exact ⟨newline_notMem_messageBy hidden, fun e e' => (messageBy_injective hidden).eq_iff⟩

end LexicalError

end LoopScript
