import LoopScript.Json
import LoopScript.Validation

/-! Reports on one input, as text for readers or as a line of JSON for machines. -/
namespace LoopScript

inductive Format
  | text
  | json
  deriving DecidableEq, Repr

def Format.ofName? : String → Option Format
  | "text" => some .text
  | "json" => some .json
  | _ => none

def Format.name : Format → String
  | text => "text"
  | json => "json"

def Kind.toJson (kind : Kind) : Json := .string kind.name

def Rule.toJson (rule : Rule) : Json := .string rule.name

def Token.toJson (token : Token) : Json :=
  .object [("kind", token.kind.toJson), ("lexeme", .string token.lexeme)]

/-- A line break would break the listing, so it is written as an escape. -/
def Token.shown (token : Token) : String :=
  if token.kind = .newline then "\\n" else token.lexeme

def Token.line (token : Token) : String := token.kind.name ++ " - " ++ token.shown ++ "\n"

namespace Report

def tokenLines (tokens : List Token) : String := String.join (tokens.map Token.line)

def frame : String := "----------------------"

/-- What a line of JSON says. A field that is absent here is left out there. -/
structure Record where
  file : String
  rule : Option Rule := none
  tokens : Option (List Token) := none
  ok : Bool
  error : Option String := none
  deriving DecidableEq, Repr

namespace Record

def fields (r : Record) : List (String × Json) :=
  ("file", .string r.file) ::
    (r.rule.toList.map fun rule => ("rule", rule.toJson)) ++
    (r.tokens.toList.map fun tokens => ("tokens", .array (tokens.map Token.toJson))) ++
    ("ok", .bool r.ok) :: r.error.toList.map fun error => ("error", .string error)

def line (escape : Char → List Char) (r : Record) : String :=
  (Json.object r.fields).render escape ++ "\n"

end Record

def errorText? : Except Failure (List Token) → Option String
  | .ok _ => none
  | .error failure => some failure.message

section

variable (escape : Char → List Char) (file : String) (rule : Rule)
  (result : Except Failure (List Token))

def listingBy : Format → String
  | .text =>
    let body := match result with
      | .ok tokens => tokenLines tokens
      | .error failure => failure.message ++ "\n"
    frame ++ "\n" ++ file ++ "\n" ++ frame ++ "\n\n" ++ body ++ frame ++ "\n"
  | .json =>
    Record.line escape ⟨file, none, result.toOption, result.isOk, errorText? result⟩

def listing : Format → String := listingBy Json.escapeChar file result

def verdictBy : Format → String
  | .text =>
    match result with
    | .ok _ => file ++ ": " ++ rule.title ++ ": Ok\n"
    | .error failure => file ++ ": " ++ rule.title ++ ": Error\n  " ++ failure.message ++ "\n"
  | .json =>
    Record.line escape ⟨file, some rule, none, result.isOk, errorText? result⟩

def verdict : Format → String := verdictBy Json.escapeChar file rule result

end

end Report

end LoopScript
