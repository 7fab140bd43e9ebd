import LoopScript.Proofs.CommandLine.Rules

/-! What each argument adds. Reading keeps a value back until the next option or path comes, so what
has been given is what has been read together with what is pending, and every step adds to that at most
the value of its own argument. -/
namespace LoopScript

namespace Given

/-- The text has been given, whether it has been read or not. -/
def Has (g : Given) (slot : Slot) (text : String) : Prop :=
  g.text slot = some text ∨ g.pending = some (slot, some text)

/-- There is at most one path, and it is not empty once it has been read. -/
structure Proper (g : Given) : Prop where
  free : ∀ text, g.pending = some (.path, text) → g.path = none
  nonempty : g.path ≠ some ""

/-- One more option or value has been taken, with the flag for verbosity or without. -/
structure Follows (g : Given) (carried : Option (Slot × Option String)) (raised : Bool)
    (g' : Given) : Prop where
  proper : g'.Proper
  has : ∀ slot text, g'.Has slot text ↔ g.Has slot text ∨ carried = some (slot, some text)
  awaits : ∀ slot, g'.pending = some (slot, none) ↔ carried = some (slot, none)
  verbose : g'.verbose = (g.verbose || raised)

variable {g g₁ g' : Given} {slot : Slot} {text : String}
  {carried : Option (Slot × Option String)} {raised raised' : Bool} {flags : List Flag}
  {takesPath : Bool}

theorem Follows.has_iff (h : g.Follows none raised g') : g'.Has slot text ↔ g.Has slot text := by
  simp [h.has slot text]

theorem Follows.trans (h₁ : g.Follows none raised g₁) (h₂ : g₁.Follows carried raised' g') :
    g.Follows carried (raised || raised') g' where
  proper := h₂.proper
  has slot text := by rw [h₂.has, h₁.has_iff]
  awaits := h₂.awaits
  verbose := by rw [h₂.verbose, h₁.verbose, Bool.or_assoc]

theorem has_of_pending_none (h : g.pending = none) : g.Has slot text ↔ g.text slot = some text := by
  simp [Has, h]

end Given

end LoopScript
