import LoopScript.Text.Escaped

/-! Why a text is not a sequence of tokens. -/
namespace LoopScript

inductive LexicalFault
  /-- No token begins or goes on with this character. -/
  | strayCharacter
  /-- The signs gathered so far are no operator. -/
  | unknownOperator
  /-- A word that is neither a variable nor a keyword. -/
  | invalidWord
  | openString
  deriving DecidableEq, Repr

def LexicalFault.reason : LexicalFault → String
  | strayCharacter => "Invalid value reached"
  | unknownOperator => "Unknown operator"
  | invalidWord => "Invalid identifier"
  | openString => "Unterminated string literal"

structure LexicalError where
  fault : LexicalFault
  /-- The character at which reading stopped, or `none` for the end of the text. -/
  character : Option Char
  /-- What had been gathered of the token in hand. -/
  text : String
  deriving DecidableEq, Repr

namespace LexicalError

def shownCharacter : Option Char → String
  | none => "end of input"
  | some c => if c = '\n' then "\\n" else String.singleton c

def shownText (text : String) : String :=
  if text.isEmpty then "" else " Statement: " ++ Text.escape text

def message (e : LexicalError) : String :=
  e.fault.reason ++ ". Character: " ++ shownCharacter e.character ++ "." ++ shownText e.text

end LexicalError

end LoopScript
