import Mathlib.Data.List.Pairwise
import Placard.Proofs.Setup.Accounting

/-! The strict policy against the lenient one. It refuses a manifest if two entries that are kept are
for one target, and names the first entry that repeats an earlier one. Else it makes no difference. -/
namespace Placard.Setup

variable {σ : Type} {r : Registry} {source : Source (StateM σ)} {location : Location}
  {manifest : String} {options options' : SetupOptions} {entries kept : List Entry} {key : String}
  {w : σ}

end Placard.Setup
