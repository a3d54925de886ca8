/-!
# Classes of characters given by ranges

The character classes of the text modules are tables of code point ranges in
increasing order.  {lit}`inRanges` is the one way in which they are read.
-/

namespace ContractAudit
namespace Text

/-- Whether a code point lies in one of the closed ranges. -/
def inRanges (table : List (Nat × Nat)) (code : Nat) : Bool :=
  table.any fun r => r.1 ≤ code && code ≤ r.2

end Text
end ContractAudit
