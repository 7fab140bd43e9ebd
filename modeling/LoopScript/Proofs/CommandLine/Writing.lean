import LoopScript.Proofs.Batch
import LoopScript.Proofs.CommandLine.Standard

/-! Command lines of a batch. A batch with its input can be written with every option in one
argument with its value, in any order, and the path behind the terminator. That such a line is
accepted is a rule of the reader; that nothing on it is taken for anything else follows from what its
arguments give. -/
namespace LoopScript

/-- Where the source text of a batch comes from. -/
inductive Origin
  | path (path : String) (nonempty : path ≠ "")
  | inline (text : String)

namespace Origin

def input : Origin → Input
  | path p _ => ⟨some p, none⟩
  | inline text => ⟨none, some text⟩

def settings : Origin → List Setting
  | path _ _ => []
  | inline text => [.source text]

def slot : Origin → Slot
  | path _ _ => .path
  | inline _ => .source

theorem path_ne_empty (origin : Origin) : ∀ path ∈ origin.input.path, path ≠ "" := by
  cases origin with
  | path p hp =>
    rintro _ ⟨⟩
    exact hp
  | inline => nofun

end Origin

namespace Batch

def name : Batch → CommandName
  | tokens _ => .tokens
  | check _ _ => .check

def format : Batch → Format
  | tokens format => format
  | check _ format => format

def rule? : Batch → Option Rule
  | tokens _ => none
  | check rule _ => some rule

def settings : Batch → List Setting
  | tokens format => [.format format]
  | check rule format => [.format format, .rule rule]

theorem takesPath_name (batch : Batch) : batch.name.takesPath = true := by
  cases batch <;> rfl

theorem groups_name (batch : Batch) : batch.name.groups = [Input.group] := by
  cases batch <;> rfl

end Batch

theorem Rule.name_injective {rule rule' : Rule} (h : rule.name = rule'.name) : rule = rule' := by
  have hname := congrArg ofName? h
  rw [ofName?_name, ofName?_name] at hname
  exact Option.some.inj hname

theorem Format.name_injective {format format' : Format} (h : format.name = format'.name) :
    format = format' := by
  have hname := congrArg ofName? h
  rw [ofName?_name, ofName?_name] at hname
  exact Option.some.inj hname

/-- All that a command line can say of a batch. -/
structure Configuration where
  verbose : Bool
  batch : Batch
  origin : Origin

namespace Configuration

def invocation (c : Configuration) : Invocation := ⟨c.verbose, c.batch.command c.origin.input⟩

def settings (c : Configuration) : List Setting :=
  c.batch.settings ++ c.origin.settings ++ if c.verbose then [.verbose] else []

/-- The options stand in any order behind the command, and only the one for verbosity may stand in
front of it. -/
structure Writes (c : Configuration) (line : Line) : Prop where
  command : line.command = c.batch.name
  front : ∀ s ∈ line.front, s = .verbose
  settings : (line.front ++ line.behind).Perm c.settings
  path : line.path? = c.origin.input.path

def values (c : Configuration) : Values :=
  ⟨c.origin.input.path, c.origin.input.source, c.batch.rule?, some c.batch.format⟩

theorem nodup_flags (c : Configuration) : (c.settings.map Setting.flag).Nodup := by
  obtain ⟨verbose, batch, origin⟩ := c
  cases batch <;> cases origin <;> cases verbose <;>
    simp [settings, Batch.settings, Origin.settings, Setting.flag]

theorem flag_mem_flags (c : Configuration) : ∀ s ∈ c.settings, s.flag ∈ c.batch.name.flags := by
  obtain ⟨verbose, batch, origin⟩ := c
  cases batch <;> cases origin <;> cases verbose <;>
    simp [settings, Batch.settings, Origin.settings, Setting.flag, Batch.name, CommandName.flags]

theorem text_values_iff (c : Configuration) (slot : Slot) (text : String) :
    c.values.text slot = some text ↔
      slot = .path ∧ c.origin.input.path = some text ∨
        ∃ s ∈ c.settings, s.value? = some (slot, text) := by
  obtain ⟨verbose, batch, origin⟩ := c
  cases slot <;> cases batch <;> cases origin <;> cases verbose <;>
    simp [values, Values.text, settings, Batch.settings, Origin.settings, Setting.value?,
      Batch.rule?, Batch.format, Origin.input]

theorem met_values (c : Configuration) :
    Input.group.Met fun slot => (c.values.text slot).isSome = true := by
  have hgiven : ∀ slot ∈ Input.group.members,
      (c.values.text slot).isSome = true ↔ slot = c.origin.slot := by
    intro slot hslot
    obtain ⟨-, batch, origin⟩ := c
    cases origin <;> cases slot <;>
      simp_all [Input.group, values, Values.text, Origin.input, Origin.slot]
  have hslot : c.origin.slot ∈ Input.group.members := by
    cases c.origin <;> simp [Origin.slot, Input.group]
  constructor
  · intro _
    exact ⟨_, hslot, (hgiven _ hslot).mpr rfl⟩
  · intro _ slot hslot slot' hslot' h h'
    exact ((hgiven slot hslot).mp h).trans ((hgiven slot' hslot').mp h').symm

namespace Writes

variable {c : Configuration} {line : Line}

theorem value_front (h : c.Writes line) : ∀ s ∈ line.front, s.value? = none := by
  intro s hs
  rw [h.front s hs]
  rfl

theorem gives_iff (h : c.Writes line) (slot : Slot) (text : String) :
    Gives line.rest slot text ↔ c.values.text slot = some text := by
  have hbehind : (∃ s ∈ line.behind, s.value? = some (slot, text)) ↔
      ∃ s ∈ c.settings, s.value? = some (slot, text) := by
    constructor
    · rintro ⟨s, hs, hvalue⟩
      exact ⟨s, h.settings.mem_iff.mp (List.mem_append_right _ hs), hvalue⟩
    · rintro ⟨s, hs, hvalue⟩
      rcases List.mem_append.mp (h.settings.mem_iff.mpr hs) with hfront | hbehind
      · rw [h.value_front s hfront] at hvalue
        cases hvalue
      · exact ⟨s, hbehind, hvalue⟩
  rw [line.gives_iff, text_values_iff, h.path, hbehind]

theorem has_iff (h : c.Writes line) (slot : Slot) :
    line.Has slot ↔ (c.values.text slot).isSome = true := by
  simp only [line.has_iff, h.gives_iff, Option.isSome_iff_exists]

theorem proper (h : c.Writes line) : line.Proper where
  front := h.front
  behind s hs := by
    rw [h.command]
    exact c.flag_mem_flags s (h.settings.mem_iff.mp (List.mem_append_right _ hs))
  nodup := (h.settings.map Setting.flag).nodup_iff.mpr c.nodup_flags
  path path hpath := by
    rw [h.path] at hpath
    rw [h.command]
    exact ⟨c.batch.takesPath_name, c.origin.path_ne_empty path hpath⟩
  groups group hgroup := by
    rw [h.command, c.batch.groups_name, List.mem_singleton] at hgroup
    have hhas : line.Has = fun slot => (c.values.text slot).isSome = true :=
      funext fun slot => propext (h.has_iff slot)
    rw [hgroup, hhas]
    exact c.met_values

end Writes

end Configuration

end LoopScript
