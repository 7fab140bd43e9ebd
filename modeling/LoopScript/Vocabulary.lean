import LoopScript.Token

/-! The fixed words and signs of the language, and which words may name a variable. -/
namespace LoopScript

/-- Every lexeme whose kind is settled by its text alone. -/
def fixedLexemes : List (String × Kind) :=
  [("if", .ifWord), ("else", .elseWord), ("while", .whileWord), ("undefined", .undefinedWord),
   ("null", .nullWord), ("true", .trueWord), ("false", .falseWord),
   ("+", .addOp), ("-", .subtractOp), ("*", .multiplyOp), ("/", .divideOp), ("=", .assign),
   ("==", .relOp), ("===", .relOp), ("!=", .relOp), ("!==", .relOp), (">=", .relOp), ("<=", .relOp),
   ("(", .leftParen), (")", .rightParen), ("\x7b", .leftBrace), ("\x7d", .rightBrace),
   (";", .semicolon), ("\n", .newline)]

def fixedKind? (text : String) : Option Kind := fixedLexemes.lookup text

/-- Signs that are a token by themselves, whatever stands next to them. -/
def punctuationKind? : Char → Option Kind
  | ';' => some .semicolon
  | '\x7b' => some .leftBrace
  | '\x7d' => some .rightBrace
  | '(' => some .leftParen
  | ')' => some .rightParen
  | '\n' => some .newline
  | _ => none

theorem fixedKind?_singleton {c : Char} {k : Kind} (h : punctuationKind? c = some k) :
    fixedKind? (String.singleton c) = some k := by
  unfold punctuationKind? at h
  split at h <;> simp_all <;> subst h <;> decide

def arithmeticSigns : List Char := ['+', '-', '*', '/']

def comparisonSigns : List Char := ['>', '<', '!']

/-- A line break is not blank: it can end a statement, and is a token. -/
def isBlank (c : Char) : Bool := c = ' ' || c = '\t' || c = '\r'

def isBoundary (c : Char) : Bool :=
  isBlank c || (punctuationKind? c).isSome || arithmeticSigns.contains c || c = '=' ||
    comparisonSigns.contains c

/-- Words that never name a variable. Only some of them are tokens. -/
def reservedWords : List String :=
  ["do", "if", "in", "for", "let", "new", "try", "var", "case", "else", "enum", "eval", "false",
   "null", "undefined", "NaN", "this", "true", "void", "with", "break", "catch", "class", "const",
   "super", "throw", "while", "yield", "delete", "export", "import", "public", "return", "static",
   "switch", "typeof", "default", "extends", "finally", "package", "private", "continue",
   "debugger", "function", "arguments", "interface", "protected", "implements", "instanceof"]

def isReserved (word : String) : Bool := reservedWords.contains word

def beginsName (c : Char) : Bool := c.isAlpha || c = '_' || c = '$'

/-- A name is ASCII, unlike the words that are gathered before they are classified. -/
def hasNameShape : List Char → Bool
  | [] => false
  | c :: cs => beginsName c && cs.all fun d => beginsName d || d.isDigit

def isVariable (word : String) : Bool := !isReserved word && hasNameShape word.toList

/-- The kind of a complete word, unless it is neither a variable nor a keyword. -/
def wordKind? (word : String) : Option Kind :=
  if isVariable word then some .identifier else fixedKind? word

end LoopScript
