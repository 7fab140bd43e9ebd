/-! Finite unions of code point intervals, the form in which character properties are tabulated. -/
namespace LoopScript.Text

/-- First and last code point of an interval. -/
abbrev Span := Nat × Nat

def inSpans (spans : List Span) (c : Char) : Bool :=
  spans.any fun s => s.1 ≤ c.toNat && c.toNat ≤ s.2

end LoopScript.Text
