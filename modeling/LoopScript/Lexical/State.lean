import LoopScript.Lexical.Error
import LoopScript.Text.Letters
import LoopScript.Vocabulary

/-! One step of the tokenizer. It reads a character, or the end of the text, in a state that says
what the token in hand can still become. The text of that token is held apart from the state,
because a failing step has to hand it back as well. -/
namespace LoopScript

inductive State
  | between
  | number
  | word
  | arithmetic
  | string
  | equals
  | comparison
  /-- The text has ended between tokens. -/
  | ended
  deriving DecidableEq, Repr

/-- What becomes of the character that was read. A token can end in front of it, and then the same
character is read again between tokens. -/
inductive Reading
  | consumed
  | again
  deriving DecidableEq, Repr

structure Transition where
  state : State
  reading : Reading
  emitted : Option Token
  deriving DecidableEq, Repr

/-- The verdict on one character, with the pending text as the step leaves it. -/
abbrev Step := Except LexicalError Transition × String

namespace Step

def proceed (state : State) (pending : String) : Step := (.ok ⟨state, .consumed, none⟩, pending)

def complete (kind : Kind) (pending : String) (reading : Reading) : Step :=
  (.ok ⟨.between, reading, some ⟨kind, pending⟩⟩, "")

def fail (fault : LexicalFault) (c : Option Char) (pending : String) : Step :=
  (.error ⟨fault, c, pending⟩, pending)

end Step

namespace State

open Step

/-- The state that the first character of a token leads to, if the token can have several. -/
def opening? (letters : Text.Letters) (c : Char) : Option State :=
  if c.isDigit then some number
  else if letters.begins c then some word
  else if arithmeticSigns.contains c then some arithmetic
  else if c = '"' then some string
  else if c = '=' then some equals
  else if comparisonSigns.contains c then some comparison
  else none

/-- Punctuation is a token by itself and leaves the pending text alone. A character that begins no
token is reported without any text. -/
def readBetween (letters : Text.Letters) (pending : String) : Option Char → Step
  | none => proceed ended pending
  | some c =>
    if isBlank c then proceed between pending
    else match opening? letters c with
      | some state => proceed state (pending.push c)
      | none =>
        match punctuationKind? c with
        | some kind => (.ok ⟨between, .consumed, some ⟨kind, String.singleton c⟩⟩, pending)
        | none => (.error ⟨.strayCharacter, some c, ""⟩, pending)

/-- Numbers and words end in front of a boundary or with the text. -/
def atBoundary (c : Option Char) : Bool := c.all isBoundary

def readNumber (pending : String) (c : Option Char) : Step :=
  match c.filter Char.isDigit with
  | some d => proceed number (pending.push d)
  | none =>
    if atBoundary c then complete .number pending .again else fail .strayCharacter c pending

def readWord (letters : Text.Letters) (pending : String) (c : Option Char) : Step :=
  match c.filter letters.continues with
  | some d => proceed word (pending.push d)
  | none =>
    if atBoundary c then
      match wordKind? pending with
      | some kind => complete kind pending .again
      | none => fail .invalidWord c pending
    else fail .strayCharacter c pending

def endSigns (pending : String) (c : Option Char) : Step :=
  match fixedKind? pending with
  | some kind => complete kind pending .again
  | none => fail .unknownOperator c pending

def readString (pending : String) : Option Char → Step
  | none => fail .openString none pending
  | some c =>
    if c = '"' then complete .stringLiteral (pending.push c) .consumed
    else proceed string (pending.push c)

def readEquals (pending : String) (c : Option Char) : Step :=
  if c = some '=' then proceed comparison (pending.push '=') else complete .assign pending .again

/-- A comparison sign goes on for as long as it is one, so the sign that breaks it is pending when
the failure is reported. -/
def readComparison (pending : String) (c : Option Char) : Step :=
  if c = some '=' then
    if (fixedKind? (pending.push '=')).isSome then proceed comparison (pending.push '=')
    else fail .unknownOperator c (pending.push '=')
  else endSigns pending c

def step (letters : Text.Letters) : State → String → Option Char → Step
  | between, pending, c => readBetween letters pending c
  | number, pending, c => readNumber pending c
  | word, pending, c => readWord letters pending c
  | arithmetic, pending, c => endSigns pending c
  | string, pending, c => readString pending c
  | equals, pending, c => readEquals pending c
  | comparison, pending, c => readComparison pending c
  | ended, pending, _ => proceed ended pending

end State

end LoopScript
