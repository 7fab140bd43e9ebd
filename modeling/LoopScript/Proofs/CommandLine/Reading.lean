import Mathlib.Logic.Basic
import LoopScript.Proofs.CommandLine.Steps

/-! What the standard reader has read of a command line that it accepts: what the arguments behind the
command give, and whether they ask for verbosity. -/
namespace LoopScript

namespace Given

variable {front : List String} {argument text : String} {slot : Slot} {g g' : Given}
  {carried : Option (Slot × Option String)} {raised takesPath : Bool} {name : CommandName}
  {arguments : List String}

/-- The arguments so far give what has been taken, and one of them waits if anything does. -/
structure Tells (arguments : List String) (g : Given) : Prop where
  proper : g.Proper
  gives : ∀ slot text, Gives arguments slot text ↔ g.Has slot text
  awaits : "--" ∉ arguments → ∀ slot, Awaits arguments slot ↔ g.pending = some (slot, none)
  verbose : IsVerbose arguments ↔ g.verbose = true

theorem Tells.start : Tells [] {} where
  proper := ⟨nofun, nofun⟩
  gives slot text := by
    refine iff_of_false not_somewhere_nil ?_
    rw [has_of_pending_none rfl]
    cases slot <;> nofun
  awaits _ slot := by simp [Awaits]
  verbose := iff_of_false not_somewhere_nil nofun

theorem Tells.append (h : Tells front g) (hfollows : g.Follows carried raised g')
    (hgives : ∀ slot text, GivesAt front argument slot text ↔ carried = some (slot, some text))
    (hawaits : "--" ∉ front → ∀ slot, Carries slot argument none ↔ carried = some (slot, none))
    (hraised : "--" ∉ front ∧ Raises argument ↔ raised = true) :
    Tells (front ++ [argument]) g' where
  proper := hfollows.proper
  gives slot text := by rw [gives_append_singleton, h.gives, hgives, hfollows.has]
  awaits hoptions slot := by
    have hfront : "--" ∉ front := fun hmem => hoptions (List.mem_append_left _ hmem)
    rw [awaits_append_singleton, hawaits hfront, hfollows.awaits]
  verbose := by
    rw [isVerbose_append_singleton, h.verbose, hraised, hfollows.verbose, Bool.or_eq_true]

end Given

namespace ArgumentReader

variable {front : Given} {arguments : List String} {name : CommandName} {m : Matches}

end ArgumentReader

end LoopScript
