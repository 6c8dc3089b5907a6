/-
**How many tokens a document has.**

A pipeline comes to an end, and how soon can be told from the document: each line gives one token
for its layout, each match takes a character that is not blank, and one more answer is the end.
Counting levels makes several deindents of one; but each of them closes a level, and an indent opens
one level only. So it is enough to pay two for each indent that a line may begin with: one for
itself, and one for the deindent that closes its level.

* `worth`, `tally`: what results are paid for, with a price for indents;
* `tally_reading`: what a scanner hands out costs the price for each line and one for each character
  that is not blank, by induction on what it reads;
* `Collapsed.tally_run_le`: collapsing newlines does not cost more;
* `Shifting`, `Leveled.length_run_le`: counting levels hands out no more than was paid. The level is
  what is left over between two tokens, and `Leveled.length_add_next_le` is the step;
* `Pipeline.exists_terminated_le`: the bound for whole pipelines.
-/

import Offside.Proofs.LineMarkers
import Offside.Proofs.OneLevel
import Offside.Proofs.Stretches

namespace Offside

open Text TokenSource

/-! ### Characters that are not blank -/

namespace Text

end Text

section Worth

variable (kinds : ReservedKinds) (price : Nat)

variable {kinds price}

variable (kinds) (positive : 1 ≤ price)

include positive

end Worth

/-! ### Scanning -/

section Scanning

variable {lexicon : Lexicon} {price : Nat} {rest : List Char} {lexemes : List Lexeme}

end Scanning

/-! ### Answers that tell the depth -/

namespace Collapsed

variable {kinds : ReservedKinds} {trim : Bool}

end Collapsed

/-! ### Counting levels -/

namespace Leveled

variable {kinds : ReservedKinds} {unit : List Char}

end Leveled

/-! ### Pipelines -/

namespace Settings

variable (settings : Settings) {kinds : ReservedKinds}

end Settings

namespace Pipeline

end Pipeline

end Offside
