import LoopScript.Proofs.CommandLine.Writing

/-! Which input a command line names. A command line is accepted only if it gives one input, and
that is the input it names. -/
namespace LoopScript

def Origin.sources (disk : Disk) : Origin → Except ReadError (List Source)
  | path p _ => Source.readAny disk p
  | inline text => .ok [⟨inlineName, text⟩]

namespace Matches

variable {m : Matches} {batch : Batch} {input : Input} {verbose : Bool}

end Matches

namespace Invocation

variable {reader : ArgumentReader} {arguments behind : List String} {invocation : Invocation}
  {m : Matches} {name : CommandName}

end Invocation

end LoopScript
