import FreezeAuthority.Properties.Chain

/-!
# Programs side by side

Several programs take the library, each with its own accounts on the one chain. What lands at one of them
is nothing to the others, so each runs as if it were alone.
-/

namespace FreezeAuthority

variable [Lez]

/-! ## One transaction -/

namespace Site

variable {P Q : Site}

variable [Crates] [LawfulCrates] [Sequencer]

end Site

/-! ## Any interleaving -/

variable {ι : Type}

/-- The calls that landed at one of the programs. -/
def own [DecidableEq ι] (i : ι) (log : List (ι × Tx)) : List Tx := (log.filter (·.1 = i)).map (·.2)

variable [Crates] [Sequencer]

variable {P : ι → Site} [LawfulCrates] [LawfulSequencer]

end FreezeAuthority

namespace FreezeAuthority.Reference

end FreezeAuthority.Reference
