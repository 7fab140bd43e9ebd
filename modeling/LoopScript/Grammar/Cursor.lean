import LoopScript.Grammar.Goal

/-! A place in a sequence of kinds. A cursor only moves forward, and it keeps its place when a call
fails, so that calls of any sort can follow one another. -/
namespace LoopScript

structure Cursor where
  rest : List Kind
  position : Nat := 0
  /-- Levels of parentheses and blocks that are open. -/
  depth : Nat := 0
  deriving DecidableEq, Repr

namespace Cursor

def ofKinds (kinds : List Kind) : Cursor := ⟨kinds, 0, 0⟩

def next? (c : Cursor) : Option Kind := c.rest.head?

def atEnd (c : Cursor) : Bool := c.rest.isEmpty

def sees (c : Cursor) (kind : Kind) : Bool := c.next? = some kind

/-- At the end there is nothing to take, and `rule` is unfinished. -/
def take (c : Cursor) (rule : Rule) : Except GrammarError Kind × Cursor :=
  match c.rest with
  | [] => (.error (.unfinished rule), c)
  | kind :: kinds => (.ok kind, ⟨kinds, c.position + 1, c.depth⟩)

/-- The next kind is taken also when it is none of `kinds`. -/
def takeOneOf (c : Cursor) (kinds : List Kind) (rule : Rule) : Except GrammarError Kind × Cursor :=
  match c.take rule with
  | (.error error, c) => (.error error, c)
  | (.ok found, c) =>
    (if kinds.contains found then .ok found else .error (.unexpected found rule), c)

def takeOne (c : Cursor) (kind : Kind) (rule : Rule) : Except GrammarError Unit × Cursor :=
  let (result, c) := c.takeOneOf [kind] rule
  (result.map fun _ => (), c)

def takeIf (c : Cursor) (kind : Kind) : Bool × Cursor :=
  match c.rest with
  | [] => (false, c)
  | found :: kinds =>
    if found = kind then (true, ⟨kinds, c.position + 1, c.depth⟩) else (false, c)

def takeAll (c : Cursor) (kind : Kind) : Cursor :=
  ⟨c.rest.dropWhile (· = kind), c.position + (c.rest.takeWhile (· = kind)).length, c.depth⟩

/-- Meets the goals one after another, and leaves the kinds behind the match. -/
def follow (limit : Option Nat) : List Kind → List Goal → Nat → Nat →
    Except GrammarError Unit × Cursor
  | [], goals, position, depth =>
    match Goal.settle limit none goals depth with
    | .done depth | .took _ depth => (.ok (), ⟨[], position, depth⟩)
    | .refused error _ depth => (.error error, ⟨[], position, depth⟩)
  | kind :: kinds, goals, position, depth =>
    match Goal.settle limit (some kind) goals depth with
    | .done depth => (.ok (), ⟨kind :: kinds, position, depth⟩)
    | .took goals depth => follow limit kinds goals (position + 1) depth
    | .refused error true depth => (.error error, ⟨kinds, position + 1, depth⟩)
    | .refused error false depth => (.error error, ⟨kind :: kinds, position, depth⟩)

/-- Matches a production. No level opens where `limit` levels are open already, and without a limit
any number may be. -/
def matchWithin (limit : Option Nat) (c : Cursor) (rule : Rule) :
    Except GrammarError Unit × Cursor :=
  follow limit c.rest [.production rule] c.position c.depth

def matchRule (c : Cursor) (rule : Rule) : Except GrammarError Unit × Cursor :=
  c.matchWithin (some maxNesting) rule

/-- Matches a production and nothing behind it but line breaks. A kind behind them is looked at and
not taken. -/
def matchWhole (c : Cursor) (rule : Rule) : Except GrammarError Unit × Cursor :=
  match c.matchRule rule with
  | (.error error, c) => (.error error, c)
  | (.ok (), c) =>
    let c := c.takeAll .newline
    match c.next? with
    | none => (.ok (), c)
    | some found => (.error (.unexpected found rule), c)

end Cursor

namespace Rule

/-- The production has to match at the beginning of the sequence. -/
def check (rule : Rule) (kinds : List Kind) : Except GrammarError Unit :=
  ((Cursor.ofKinds kinds).matchRule rule).1

/-- The production has to match the whole sequence, line breaks at its end apart. -/
def checkWhole (rule : Rule) (kinds : List Kind) : Except GrammarError Unit :=
  ((Cursor.ofKinds kinds).matchWhole rule).1

end Rule

end LoopScript
