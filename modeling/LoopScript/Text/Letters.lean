import LoopScript.Text.Alphabetic
import LoopScript.Text.Numeric

/-! Character classes of words. ASCII is decided by rule and all else by table, so that what a
program of ASCII words means never hangs on a table. -/
namespace LoopScript.Text

def isAscii (c : Char) : Bool := c.toNat < 0x80

/-- Unicode's Alphabetic. -/
def isAlphabetic (c : Char) : Bool :=
  if isAscii c then c.isAlpha else inSpans alphabeticSpans c

/-- Unicode's Alphabetic, or one of the numeric categories Nd, Nl and No. -/
def isAlphanumeric (c : Char) : Bool :=
  if isAscii c then c.isAlphanum else inSpans alphabeticSpans c || inSpans numericSpans c

/-- The characters that may begin a word and those that may go on with it. -/
structure Letters where
  begins : Char → Bool
  continues : Char → Bool

def Letters.unicode : Letters := ⟨isAlphabetic, isAlphanumeric⟩

/-- Two classes that differ at most beyond ASCII. -/
def Letters.AgreeOnAscii (a b : Letters) : Prop :=
  ∀ c, isAscii c = true → a.begins c = b.begins c ∧ a.continues c = b.continues c

theorem Letters.AgreeOnAscii.refl (letters : Letters) : letters.AgreeOnAscii letters :=
  fun _ _ => ⟨rfl, rfl⟩

end LoopScript.Text
