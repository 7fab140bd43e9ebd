import LoopScript.Vocabulary

/-! How tokens are laid out as a text, with no word on how a text is read. Blanks may stand between
tokens, and some tokens have to keep apart from what follows. -/
namespace LoopScript

/-- Decided along the text, and not along all characters. -/
instance decidableForallMem {p : Char → Prop} [DecidablePred p] (text : List Char) :
    Decidable (∀ c ∈ text, p c) :=
  List.decidableBAll p text

instance decidableExistsMem {p : Char → Prop} [DecidablePred p] (text : List Char) :
    Decidable (∃ c ∈ text, p c) :=
  List.decidableBEx p text

/-- What may stand between tokens and is no part of them. -/
def blanks : List Char := [' ', '\t', '\r']

def delimiters : List Char :=
  [' ', '\t', '\r', '\n', ';', '\x7b', '\x7d', '(', ')', '+', '-', '*', '/', '=', '!', '<', '>']

/-- Whether a lexeme of this kind can end in front of the character, or with the text. -/
def Kind.EndsBefore (next : Option Char) : Kind → Prop
  | number | identifier | ifWord | elseWord | whileWord | trueWord | falseWord | nullWord
  | undefinedWord => ∀ c ∈ next, c ∈ delimiters
  | assign | relOp => next ≠ some '='
  | _ => True

/-- ASCII letters and digits, with a letter in front. -/
def IsWord : List Char → Prop
  | [] => False
  | first :: more => first.isAlpha = true ∧ ∀ c ∈ more, c.isAlphanum = true

instance : DecidablePred IsWord
  | [] => isFalse id
  | first :: more => inferInstanceAs
      (Decidable (first.isAlpha = true ∧ ∀ c ∈ more, c.isAlphanum = true))

def Token.WellFormed (t : Token) : Prop :=
  match t.kind with
  | .number => t.lexeme.toList ≠ [] ∧ ∀ c ∈ t.lexeme.toList, c.isDigit = true
  | .stringLiteral => ∃ body, t.lexeme.toList = '"' :: (body ++ ['"']) ∧ '"' ∉ body
  | .identifier => IsWord t.lexeme.toList ∧ isReserved t.lexeme = false
  | kind => fixedKind? t.lexeme = some kind

/-- The text is the lexemes in order, with blanks before, between and behind them. -/
def Spells : List Token → List Char → Prop
  | [], text => ∀ c ∈ text, c ∈ blanks
  | t :: ts, text => ∃ gap rest, text = gap ++ (t.lexeme.toList ++ rest) ∧ (∀ c ∈ gap, c ∈ blanks) ∧
      t.WellFormed ∧ t.kind.EndsBefore rest.head? ∧ Spells ts rest

end LoopScript
