import LoopScript.Grammar.Cursor
import LoopScript.Lexical.Scanner
import LoopScript.ReadError

/-! Text checked against a production, and all the ways in which that can fail. -/
namespace LoopScript

inductive Failure
  | lexical (error : LexicalError)
  | grammar (error : GrammarError)
  | unreadable (error : ReadError)
  deriving DecidableEq, Repr

def Failure.message : Failure → String
  | lexical error => error.message
  | grammar error => error.message
  | unreadable error => error.message

/-- Tokenizes all of the text before the kinds are judged. -/
def judge (verdict : List Kind → Except GrammarError Unit) (source : String) :
    Except Failure (List Token) := do
  let tokens ← (tokenize source).mapError .lexical
  (verdict (kindsOf tokens)).mapError .grammar
  return tokens

namespace Rule

/-- The production has to match at the beginning of the text. -/
def validate (rule : Rule) (source : String) : Except Failure (List Token) :=
  judge rule.check source

/-- The production has to match the whole text, line breaks at its end apart. -/
def validateWhole (rule : Rule) (source : String) : Except Failure (List Token) :=
  judge rule.checkWhole source

end Rule

end LoopScript
