import LoopScript.ArgumentReader

/-! The forms of arguments. A value is attached to its option, or is the next argument if that does
not begin with a dash, and letters of options without a value may stand in front of a letter that takes
one. -/
namespace LoopScript

def Slot.ofLong? (option : String) : Option Slot :=
  [path, source, rule, format].find? fun slot => (Flag.value slot).long? = some option

def Slot.ofShort? (letter : Char) : Option Slot :=
  [path, source, rule, format].find? fun slot => (Flag.value slot).short? = some letter

theorem Slot.ofLong?_eq_some_iff {option : String} {slot : Slot} :
    ofLong? option = some slot ↔ (Flag.value slot).long? = some option := by
  constructor
  · intro h
    simpa using List.find?_some h
  · intro h
    cases slot <;> cases h <;> decide

theorem Slot.ofShort?_eq_some_iff {letter : Char} {slot : Slot} :
    ofShort? letter = some slot ↔ (Flag.value slot).short? = some letter := by
  constructor
  · intro h
    simpa using List.find?_some h
  · intro h
    cases slot <;> cases h <;> decide

def isFlagLetter (c : Char) : Bool := Flag.front.any fun flag => flag.short? = some c

/-- An argument that can be a value: it does not begin with a dash, or has nothing but a dash. -/
def IsPlain (argument : String) : Prop := argument.toList.head? ≠ some '-' ∨ argument = "-"

/-- The argument has an option of this slot in it, with the value that is attached to the option. -/
inductive Carries (slot : Slot) : String → Option String → Prop
  | long {option : String} (named : (Flag.value slot).long? = some option) :
      Carries slot ("--" ++ option) none
  | longWith {option : String} (named : (Flag.value slot).long? = some option) (text : String) :
      Carries slot ("--" ++ option ++ "=" ++ text) (some text)
  | short {flags : String} {letter : Char} (front : ∀ c ∈ flags.toList, isFlagLetter c = true)
      (named : (Flag.value slot).short? = some letter) :
      Carries slot ("-" ++ flags ++ String.singleton letter) none
  | shortWith {flags text : String} {letter : Char}
      (front : ∀ c ∈ flags.toList, isFlagLetter c = true)
      (named : (Flag.value slot).short? = some letter)
      (begins : text.toList.head? ∉ [none, some '=']) :
      Carries slot ("-" ++ flags ++ String.singleton letter ++ text) (some text)
  | shortEquals {flags : String} {letter : Char}
      (front : ∀ c ∈ flags.toList, isFlagLetter c = true)
      (named : (Flag.value slot).short? = some letter) (text : String) :
      Carries slot ("-" ++ flags ++ String.singleton letter ++ "=" ++ text) (some text)

/-- The argument has the flag for verbosity in it. -/
inductive Raises : String → Prop
  | long : Raises "--verbose"
  | short {flags : String} (front : ∀ c ∈ flags.toList, isFlagLetter c = true) (rest : String) :
      Raises ("-" ++ flags ++ "v" ++ rest)

namespace Word

def attached? : List Char → Option String
  | [] => none
  | '=' :: text => some (String.ofList text)
  | text => some (String.ofList text)

theorem attached?_of_ne {letters : List Char} (hnil : letters ≠ [])
    (hequals : ∀ text, letters ≠ '=' :: text) :
    attached? letters = some (String.ofList letters) := by
  unfold attached?
  split
  · exact absurd rfl hnil
  · exact absurd rfl (hequals _)
  · rfl

/-- The first letter that takes a value, with the value that is attached to it. -/
def letter? : List Char → Option (Slot × Option String)
  | [] => none
  | c :: cs => if isFlagLetter c then letter? cs else (Slot.ofShort? c).map (·, attached? cs)

def carried? : Word → Option (Slot × Option String)
  | long option value => (Slot.ofLong? option).map (·, value)
  | cluster letters => letter? letters
  | terminator | plain _ => none

def spelling : Word → String
  | terminator => "--"
  | long option none => "--" ++ option
  | long option (some text) => "--" ++ option ++ "=" ++ text
  | cluster letters => "-" ++ String.ofList letters
  | plain text => text

theorem spelling_ofArgument (argument : String) : (ofArgument argument).spelling = argument := by
  apply String.toList_inj.mp
  unfold ofArgument
  split
  · next htext => exact htext.symm
  · next rest _ htext =>
    have hrest := List.takeWhile_append_dropWhile (p := (· ≠ '=')) (l := rest)
    have hnot := List.head?_dropWhile_not (· ≠ '=') rest
    rw [htext]
    cases hdrop : rest.dropWhile (· ≠ '=') with
    | nil =>
      rw [hdrop, List.append_nil] at hrest
      simpa [spelling] using hrest
    | cons c more =>
      rw [hdrop] at hrest hnot
      have hc : c = '=' := by simpa using hnot
      rw [hc] at hrest
      simpa [spelling] using hrest
  · next htext => simp [spelling, htext]
  · rfl

/-- The name of a long option ends at the first equals sign. -/
theorem ofArgument_long {option : String} (h : '=' ∉ option.toList) (text : String) :
    ofArgument ("--" ++ option ++ "=" ++ text) = .long option (some text) := by
  have hchars : ("--" ++ option ++ "=" ++ text).toList =
      '-' :: '-' :: (option.toList ++ '=' :: text.toList) := by simp
  have hgo : ∀ c ∈ option.toList, decide (c ≠ '=') = true :=
    fun c hc => decide_eq_true (ne_of_mem_of_not_mem hc h)
  have htake : (option.toList ++ '=' :: text.toList).takeWhile (· ≠ '=') = option.toList := by
    rw [List.takeWhile_append_of_pos hgo]
    simp
  have hdrop : (option.toList ++ '=' :: text.toList).dropWhile (· ≠ '=') = '=' :: text.toList := by
    rw [List.dropWhile_append_of_pos hgo]
    simp
  obtain ⟨first, more, hcons⟩ := List.exists_cons_of_ne_nil
    (List.append_ne_nil_of_right_ne_nil option.toList (List.cons_ne_nil '=' text.toList))
  unfold ofArgument
  rw [hchars, hcons]
  change long (String.ofList ((first :: more).takeWhile (· ≠ '=')))
    (((first :: more).dropWhile (· ≠ '=')).tail?.map String.ofList) = _
  rw [← hcons, htake, hdrop]
  simp

theorem ofArgument_eq_plain_iff {argument : String} :
    ofArgument argument = .plain argument ↔ IsPlain argument := by
  unfold IsPlain ofArgument
  split
  · next htext => simp [htext, ← String.toList_inj]
  · next htext => simp [htext, ← String.toList_inj]
  · next htext => simp [htext, ← String.toList_inj]
  · next hdashed =>
    refine iff_of_true rfl ?_
    cases htext : argument.toList with
    | nil => simp
    | cons c cs =>
      by_cases hc : c = '-'
      · subst hc
        cases cs with
        | nil => exact .inr (String.toList_inj.mp htext)
        | cons d ds => exact absurd htext (hdashed d ds)
      · simp [hc]

theorem ofArgument_eq_terminator_iff {argument : String} :
    ofArgument argument = .terminator ↔ argument = "--" := by
  constructor
  · intro h
    have hspelling := spelling_ofArgument argument
    rw [h] at hspelling
    exact hspelling.symm
  · rintro rfl
    rfl

theorem ofArgument_cluster {argument : String} {first : Char} {more : List Char}
    (htext : argument.toList = '-' :: first :: more) (hfirst : first ≠ '-') :
    ofArgument argument = .cluster (first :: more) := by
  unfold ofArgument
  rw [htext]
  split
  · next heq => simp_all
  · next heq => simp_all
  · next heq => simp_all
  · next hnone => exact absurd rfl (hnone first more)

theorem letter?_eq_some_iff {letters : List Char} {slot : Slot} {value : Option String} :
    letter? letters = some (slot, value) ↔ ∃ flags letter more,
      letters = flags ++ letter :: more ∧ (∀ c ∈ flags, isFlagLetter c = true) ∧
        (Flag.value slot).short? = some letter ∧ attached? more = value := by
  constructor
  · intro h
    induction letters with
    | nil => cases h
    | cons c cs ih =>
      unfold letter? at h
      split at h
      · next hc =>
        obtain ⟨flags, letter, more, rfl, hflags, hletter, hvalue⟩ := ih h
        exact ⟨c :: flags, letter, more, rfl, List.forall_mem_cons.mpr ⟨hc, hflags⟩, hletter, hvalue⟩
      · obtain ⟨slot', hslot, hvalue⟩ := Option.map_eq_some_iff.mp h
        cases hvalue
        exact ⟨[], c, cs, rfl, by simp, Slot.ofShort?_eq_some_iff.mp hslot, rfl⟩
  · intro h
    obtain ⟨flags, letter, more, rfl, hflags, hletter, rfl⟩ := h
    have hslot : Slot.ofShort? letter = some slot := Slot.ofShort?_eq_some_iff.mpr hletter
    have hnot : isFlagLetter letter = false := by cases slot <;> cases hletter <;> decide
    induction flags with
    | nil => simp [letter?, hnot, hslot]
    | cons c flags ih =>
      obtain ⟨hc, hflags⟩ := List.forall_mem_cons.mp hflags
      rw [List.cons_append, letter?, if_pos hc]
      exact ih hflags

theorem ofArgument_of_letters {argument : String} {flags : List Char} {letter : Char}
    {more : List Char} (htext : argument.toList = '-' :: (flags ++ letter :: more))
    (hflags : ∀ c ∈ flags, isFlagLetter c = true) (hletter : letter ≠ '-') :
    ofArgument argument = .cluster (flags ++ letter :: more) := by
  cases flags with
  | nil => exact ofArgument_cluster htext hletter
  | cons c flags =>
    have hne : c ≠ '-' := by
      rintro rfl
      exact absurd (hflags _ (List.mem_cons_self ..)) (by decide)
    exact ofArgument_cluster htext hne

theorem carried?_of_letter {argument : String} {flags : List Char} {letter : Char}
    {more : List Char} {slot : Slot} (htext : argument.toList = '-' :: (flags ++ letter :: more))
    (hflags : ∀ c ∈ flags, isFlagLetter c = true)
    (hletter : (Flag.value slot).short? = some letter) :
    (ofArgument argument).carried? = some (slot, attached? more) := by
  have hne : letter ≠ '-' := by cases slot <;> cases hletter <;> decide
  rw [ofArgument_of_letters htext hflags hne]
  exact letter?_eq_some_iff.mpr ⟨flags, letter, more, rfl, hflags, hletter, rfl⟩

end Word

/-- An argument carries the value that is read off its form. -/
theorem carries_iff {argument : String} {slot : Slot} {value : Option String} :
    Carries slot argument value ↔ (Word.ofArgument argument).carried? = some (slot, value) := by
  constructor
  · intro h
    cases h with
    | long named => cases slot <;> cases named <;> rfl
    | @longWith option named text =>
      have hequals : '=' ∉ option.toList := by cases slot <;> cases named <;> decide
      rw [Word.ofArgument_long hequals, Word.carried?, Slot.ofLong?_eq_some_iff.mpr named]
      rfl
    | @short flags letter front named =>
      have htext : ("-" ++ flags ++ String.singleton letter).toList =
          '-' :: (flags.toList ++ [letter]) := by simp
      exact Word.carried?_of_letter htext front named
    | @shortWith flags text letter front named begins =>
      have hnil : text.toList ≠ [] := fun heq => begins (by simp [heq])
      have hequals (more : List Char) : text.toList ≠ '=' :: more :=
        fun heq => begins (by simp [heq])
      have hattached : Word.attached? text.toList = some text := by
        rw [Word.attached?_of_ne hnil hequals, String.ofList_toList]
      rw [← hattached]
      exact Word.carried?_of_letter (by simp) front named
    | @shortEquals flags letter front named text =>
      have hattached : Word.attached? ('=' :: text.toList) = some text :=
        congrArg some String.ofList_toList
      rw [← hattached]
      exact Word.carried?_of_letter (by simp) front named
  · intro h
    have hspelling := Word.spelling_ofArgument argument
    generalize Word.ofArgument argument = word at h hspelling
    rw [← hspelling]
    cases word with
    | terminator => cases h
    | plain => cases h
    | long option text =>
      obtain ⟨slot', hslot, hvalue⟩ := Option.map_eq_some_iff.mp h
      cases hvalue
      have hnamed := Slot.ofLong?_eq_some_iff.mp hslot
      cases value with
      | none => exact .long hnamed
      | some text => exact .longWith hnamed text
    | cluster letters =>
      obtain ⟨flags, letter, more, rfl, hflags, hletter, rfl⟩ := Word.letter?_eq_some_iff.mp h
      have hflags : ∀ c ∈ (String.ofList flags).toList, isFlagLetter c = true := by
        rwa [String.toList_ofList]
      have htext (text : List Char) : Word.spelling (.cluster (flags ++ letter :: text)) =
          "-" ++ String.ofList flags ++ String.singleton letter ++ String.ofList text := by
        apply String.toList_inj.mp
        simp [Word.spelling]
      rw [htext]
      unfold Word.attached?
      split
      · rw [String.ofList_nil, String.append_empty]
        exact .short hflags hletter
      · next text =>
        rw [String.ofList_cons, ← String.append_assoc]
        exact .shortEquals hflags hletter _
      · next hnil hequals =>
        refine .shortWith hflags hletter ?_
        rw [String.toList_ofList]
        cases more with
        | nil => exact absurd rfl hnil
        | cons c more =>
          have hc : c ≠ '=' := fun hc => hequals more (by rw [hc])
          simp [hc]

end LoopScript
