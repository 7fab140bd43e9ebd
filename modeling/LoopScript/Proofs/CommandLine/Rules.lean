import LoopScript.Proofs.CommandLine.Forms

/-! What a command line gives, and the rules that a reader of arguments keeps. What the arguments
behind a command give can be read off their places: a value is attached to its option or stands
behind it, and what is plain otherwise is a path, as is all behind the terminator. The rules speak of
that and of what has been declared, and leave open how a reader goes about it. -/
namespace LoopScript

/-- The arguments end with an option whose value is not attached to it. -/
def Awaits (arguments : List String) (slot : Slot) : Prop :=
  ∃ option, arguments.getLast? = some option ∧ Carries slot option none

/-- The argument gives a text, with these arguments in front of it. -/
inductive GivesAt (front : List String) (argument : String) : Slot → String → Prop
  | attached {slot : Slot} {text : String} (options : "--" ∉ front)
      (carries : Carries slot argument (some text)) : GivesAt front argument slot text
  | separate {slot : Slot} (options : "--" ∉ front) (plain : IsPlain argument)
      (awaited : Awaits front slot) : GivesAt front argument slot argument
  | path (options : "--" ∉ front) (plain : IsPlain argument) (free : ∀ slot, ¬ Awaits front slot) :
      GivesAt front argument .path argument
  | operand (terminated : "--" ∈ front) : GivesAt front argument .path argument

/-- One of the arguments fits the place, with those in front of it. -/
def Somewhere (place : List String → String → Prop) (arguments : List String) : Prop :=
  ∃ front argument behind, arguments = front ++ argument :: behind ∧ place front argument

/-- One of the arguments behind a command gives the text. -/
def Gives (arguments : List String) (slot : Slot) (text : String) : Prop :=
  Somewhere (GivesAt · · slot text) arguments

/-- An argument in front of the terminator has the flag for verbosity in it. -/
def IsVerbose (arguments : List String) : Prop :=
  Somewhere (fun front argument => "--" ∉ front ∧ Raises argument) arguments

section

variable {front : List String} {argument text : String} {slot : Slot}

theorem somewhere_append_singleton {place : List String → String → Prop} :
    Somewhere place (front ++ [argument]) ↔ Somewhere place front ∨ place front argument := by
  constructor
  · intro h
    obtain ⟨front', argument', behind, heq, hplace⟩ := h
    rcases List.eq_nil_or_concat behind with rfl | ⟨behind, last, rfl⟩
    · obtain ⟨rfl, rfl⟩ : front = front' ∧ argument = argument' := by simpa using heq
      exact .inr hplace
    · rw [List.concat_eq_append, ← List.cons_append, ← List.append_assoc] at heq
      obtain ⟨rfl, -⟩ := List.append_inj' heq rfl
      exact .inl ⟨front', argument', behind, rfl, hplace⟩
  · intro h
    rcases h with ⟨front', argument', behind, rfl, hplace⟩ | hplace
    · exact ⟨front', argument', behind ++ [argument], by simp, hplace⟩
    · exact ⟨front, argument, [], rfl, hplace⟩

theorem not_somewhere_nil {place : List String → String → Prop} : ¬ Somewhere place [] := by
  simp [Somewhere]

theorem gives_append_singleton : Gives (front ++ [argument]) slot text ↔
    Gives front slot text ∨ GivesAt front argument slot text :=
  somewhere_append_singleton

theorem isVerbose_append_singleton :
    IsVerbose (front ++ [argument]) ↔ IsVerbose front ∨ "--" ∉ front ∧ Raises argument :=
  somewhere_append_singleton

theorem givesAt_of_option (hfront : "--" ∉ front) (h : ¬ IsPlain argument) :
    GivesAt front argument slot text ↔ Carries slot argument (some text) := by
  constructor
  · intro hgives
    cases hgives with
    | attached _ carries => exact carries
    | separate _ plain => exact absurd plain h
    | path _ plain => exact absurd plain h
    | operand terminated => exact absurd terminated hfront
  · exact .attached hfront

theorem givesAt_of_terminated (hfront : "--" ∈ front) :
    GivesAt front argument slot text ↔ slot = .path ∧ text = argument := by
  constructor
  · intro hgives
    cases hgives with
    | attached options => exact absurd hfront options
    | separate options => exact absurd hfront options
    | path options => exact absurd hfront options
    | operand => exact ⟨rfl, rfl⟩
  · rintro ⟨rfl, rfl⟩
    exact .operand hfront

theorem awaits_append_singleton :
    Awaits (front ++ [argument]) slot ↔ Carries slot argument none := by
  simp [Awaits]

end

/-- The command is the first plain argument. -/
def IsCommand (arguments : List String) (name : CommandName) (behind : List String) : Prop :=
  ∃ flags, arguments = flags ++ name.text :: behind ∧ ∀ flag ∈ flags, ¬ IsPlain flag

theorem CommandName.ofName?_text (name : CommandName) : ofName? name.text = some name := by
  cases name <;> rfl

theorem CommandName.isPlain_text (name : CommandName) : IsPlain name.text := by
  cases name <;> simp [IsPlain, text]

section

variable {arguments behind : List String} {name : CommandName}

theorem IsCommand.cons {argument : String} (hdashed : ¬ IsPlain argument)
    (h : IsCommand arguments name behind) : IsCommand (argument :: arguments) name behind := by
  obtain ⟨flags, rfl, hflags⟩ := h
  exact ⟨argument :: flags, rfl, List.forall_mem_cons.mpr ⟨hdashed, hflags⟩⟩

theorem IsCommand.unique {name' : CommandName} {behind' : List String}
    (h : IsCommand arguments name behind) (h' : IsCommand arguments name' behind') :
    name = name' ∧ behind = behind' := by
  obtain ⟨flags, rfl, hflags⟩ := h
  obtain ⟨flags', heq, hflags'⟩ := h'
  induction flags generalizing flags' with
  | nil =>
    cases flags' with
    | nil =>
      obtain ⟨htext, rfl⟩ := List.cons.inj heq
      have hname := congrArg CommandName.ofName? htext
      rw [CommandName.ofName?_text, CommandName.ofName?_text] at hname
      exact ⟨Option.some.inj hname, rfl⟩
    | cons flag' flags' =>
      obtain ⟨rfl, -⟩ := List.cons.inj heq
      exact absurd name.isPlain_text (hflags' _ (List.mem_cons_self ..))
  | cons flag flags ih =>
    cases flags' with
    | nil =>
      obtain ⟨rfl, -⟩ := List.cons.inj heq
      exact absurd name'.isPlain_text (hflags _ (List.mem_cons_self ..))
    | cons flag' flags' =>
      obtain ⟨-, heq⟩ := List.cons.inj heq
      exact ih (List.forall_mem_cons.mp hflags).2 flags' heq (List.forall_mem_cons.mp hflags').2

end

/-! ### Options written out -/

inductive Setting
  | verbose
  | source (text : String)
  | rule (rule : Rule)
  | format (format : Format)
  deriving DecidableEq

namespace Setting

def argument : Setting → String
  | verbose => "-v"
  | source text => "--source=" ++ text
  | rule r => "--rule=" ++ r.name
  | format f => "--format=" ++ f.name

def flag : Setting → Flag
  | verbose => .verbose
  | source _ => .value .source
  | rule _ => .value .rule
  | format _ => .value .format

def value? : Setting → Option (Slot × String)
  | verbose => none
  | source text => some (.source, text)
  | rule r => some (.rule, r.name)
  | format f => some (.format, f.name)

end Setting

/-- A command line with every option in one argument with its value, and the path behind the
terminator. -/
structure Line where
  front : List Setting
  command : CommandName
  behind : List Setting
  path? : Option String

namespace Line

def operands (line : Line) : List String := line.path?.elim [] (["--", ·])

/-- The arguments behind the command. -/
def rest (line : Line) : List String := line.behind.map Setting.argument ++ line.operands

def arguments (line : Line) : List String :=
  line.front.map Setting.argument ++ line.command.text :: line.rest

def Has (line : Line) (slot : Slot) : Prop :=
  slot = .path ∧ line.path?.isSome = true ∨ ∃ s ∈ line.behind, s.flag = .value slot

end Line

/-- At least one member is given if one is required, and at most one unless more may be. -/
structure Group.Met (group : Group) (given : Slot → Prop) : Prop where
  some : group.required = true → ∃ slot ∈ group.members, given slot
  unique : group.multiple = false →
    ∀ slot ∈ group.members, ∀ slot' ∈ group.members, given slot → given slot' → slot = slot'

/-- Every option is declared where it stands, and is there once. -/
structure Line.Proper (line : Line) : Prop where
  front : ∀ s ∈ line.front, s = .verbose
  behind : ∀ s ∈ line.behind, s.flag ∈ line.command.flags
  nodup : ((line.front ++ line.behind).map Setting.flag).Nodup
  path : ∀ path ∈ line.path?, line.command.takesPath = true ∧ path ≠ ""
  groups : ∀ group ∈ line.command.groups, group.Met line.Has

/-! ### Rules -/

end LoopScript
