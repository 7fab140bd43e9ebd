import LoopScript.Lexical.State

/-! Tokenizing a whole text. Reading a character takes one step, or two when the first of them
ends a token in front of the character. The second starts between tokens, where a step always
consumes its character. -/
namespace LoopScript

structure Scanner where
  state : State := .between
  pending : String := ""
  tokens : Array Token := #[]
  deriving DecidableEq, Repr

namespace Scanner

def step (letters : Text.Letters) (s : Scanner) (c : Option Char) :
    Except LexicalError (Reading × Scanner) :=
  match s.state.step letters s.pending c with
  | (.error e, _) => .error e
  | (.ok t, pending) => .ok (t.reading, ⟨t.state, pending, s.tokens ++ t.emitted.toArray⟩)

def feed (letters : Text.Letters) (s : Scanner) (c : Option Char) :
    Except LexicalError Scanner :=
  match s.step letters c with
  | .error e => .error e
  | .ok (.consumed, s') => .ok s'
  | .ok (.again, s') => (s'.step letters c).map Prod.snd

end Scanner

/-- Either all tokens in order or the first fault, with `letters` for the characters of words. -/
def tokenizeWith (letters : Text.Letters) (source : String) : Except LexicalError (List Token) := do
  let scanner ← source.toList.foldlM (fun s c => s.feed letters (some c)) ({} : Scanner)
  let scanner ← scanner.feed letters none
  return scanner.tokens.toList

def tokenize (source : String) : Except LexicalError (List Token) :=
  tokenizeWith .unicode source

def kindsOf (tokens : List Token) : List Kind := tokens.map (·.kind)

end LoopScript
