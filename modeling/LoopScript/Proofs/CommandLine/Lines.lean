import Mathlib.Data.List.Induction
import LoopScript.Proofs.CommandLine.Rules

/-! What a line that is written out gives. No text in an option can be taken for anything else,
since it stands behind the first equals sign of an argument that begins with two dashes. -/
namespace LoopScript

namespace Setting

theorem ofArgument_argument (setting : Setting) : Word.ofArgument setting.argument =
    match setting with
    | verbose => .cluster ['v']
    | source text => .long "source" (some text)
    | rule r => .long "rule" (some r.name)
    | format f => .long "format" (some f.name) := by
  have hsource : '=' ∉ "source".toList := by decide
  have hrule : '=' ∉ "rule".toList := by decide
  have hformat : '=' ∉ "format".toList := by decide
  cases setting with
  | verbose => rfl
  | source text => exact Word.ofArgument_long hsource text
  | rule r => exact Word.ofArgument_long hrule r.name
  | format f => exact Word.ofArgument_long hformat f.name

variable {setting : Setting} {slot : Slot} {text : String} {value : Option String}
  {settings : List Setting} {arguments : List String}

theorem carries_argument_iff : Carries slot setting.argument value ↔
    ∃ text, value = some text ∧ setting.value? = some (slot, text) := by
  rw [carries_iff, ofArgument_argument]
  cases setting with
  | verbose => exact iff_of_false nofun nofun
  | _ => cases slot <;> simp [Word.carried?, Slot.ofLong?, Flag.long?, value?, eq_comm]

theorem not_isPlain_argument (setting : Setting) : ¬ IsPlain setting.argument := by
  intro h
  have hword := Word.ofArgument_eq_plain_iff.mpr h
  rw [ofArgument_argument] at hword
  cases setting <;> cases hword

theorem argument_ne_terminator (setting : Setting) : setting.argument ≠ "--" := by
  intro h
  have hword := Word.ofArgument_eq_terminator_iff.mpr h
  rw [ofArgument_argument] at hword
  cases setting <;> cases hword

theorem terminator_notMem (settings : List Setting) : "--" ∉ settings.map argument := by
  intro h
  obtain ⟨setting, -, hsetting⟩ := List.mem_map.mp h
  exact setting.argument_ne_terminator hsetting

theorem gives_settings : Gives (settings.map argument) slot text ↔
    ∃ s ∈ settings, s.value? = some (slot, text) := by
  induction settings using List.reverseRecOn with
  | nil => exact iff_of_false not_somewhere_nil (by simp)
  | append_singleton settings s ih =>
    rw [List.map_append, List.map_singleton, gives_append_singleton, ih,
      givesAt_of_option (terminator_notMem settings) s.not_isPlain_argument, carries_argument_iff]
    simp [or_and_right, exists_or]

end Setting

namespace Line

variable {line : Line} {slot : Slot} {text : String}

theorem gives_iff (line : Line) :
    Gives line.rest slot text ↔
      slot = .path ∧ line.path? = some text ∨ ∃ s ∈ line.behind, s.value? = some (slot, text) := by
  obtain ⟨front, command, behind, path?⟩ := line
  cases path? with
  | none => simp [rest, operands, Setting.gives_settings]
  | some path =>
    have hoptions : ¬ IsPlain "--" := by simp [IsPlain]
    have hsplit : behind.map Setting.argument ++ ["--", path] =
        behind.map Setting.argument ++ ["--"] ++ [path] := by simp
    have hterminator : ¬ Carries slot "--" (some text) := by
      intro hcarries
      cases carries_iff.mp hcarries
    change Gives (behind.map Setting.argument ++ ["--", path]) slot text ↔ _
    rw [hsplit, gives_append_singleton, gives_append_singleton, Setting.gives_settings,
      givesAt_of_option (Setting.terminator_notMem behind) hoptions, or_iff_left hterminator,
      givesAt_of_terminated (by simp), or_comm, Option.some.injEq, eq_comm (a := text)]

theorem has_iff (line : Line) : line.Has slot ↔ ∃ text, Gives line.rest slot text := by
  have hflag (s : Setting) : s.flag = .value slot ↔ ∃ text, s.value? = some (slot, text) := by
    cases s <;> simp [Setting.flag, Setting.value?]
  simp only [gives_iff, exists_or, Has, hflag]
  refine or_congr ?_ ?_
  · rw [exists_and_left, Option.isSome_iff_exists]
  · simp only [exists_comm (α := String), exists_and_left]

end Line

end LoopScript
