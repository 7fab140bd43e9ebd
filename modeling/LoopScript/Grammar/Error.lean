import LoopScript.Grammar.Rule

/-! Why a sequence of kinds does not match. -/
namespace LoopScript

/-- Levels of parentheses and blocks that may be open at once. -/
def maxNesting : Nat := 256

inductive GrammarError
  | unexpected (found : Kind) (rule : Rule)
  | unfinished (rule : Rule)
  | tooDeep (rule : Rule)
  deriving DecidableEq, Repr

namespace GrammarError

def rule : GrammarError → Rule
  | unexpected _ rule => rule
  | unfinished rule => rule
  | tooDeep rule => rule

def message : GrammarError → String
  | unexpected found rule => "Invalid " ++ rule.title ++ ". Unexpected lexeme: " ++ found.name
  | unfinished rule => "Unfinished " ++ rule.title ++ ". Unexpected end of input"
  | tooDeep rule =>
    "Invalid " ++ rule.title ++ ". Nesting deeper than " ++ toString maxNesting ++ " levels"

end GrammarError

end LoopScript
