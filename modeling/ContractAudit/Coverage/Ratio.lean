import ContractAudit.Number.Binary64
import ContractAudit.Failure

/-!
# Coverage

A fully covered function has two assertions, one before and one after, so the
coverage is half the number of assertions divided by the number of functions.
It is computed in double precision: the half, the number of functions and the
quotient are each rounded to the nearest double.
-/

namespace ContractAudit
namespace Coverage

open Number

/-- The judgement on a coverage. -/
inductive Verdict where
  | sane
  | needsHelp
  deriving DecidableEq, Repr

/-- The text of a verdict in a report. -/
def Verdict.text : Verdict → String
  | sane => "sane"
  | needsHelp => "needs help"

/-- The double nearest to four fifths. -/
def threshold : Magnitude := ⟨7205759403792794 * twoTo 1021⟩

/-- Coverage is sane strictly above the threshold. -/
def classify (coverage : Double) : Verdict :=
  if coverage.exceeds threshold then .sane else .needsHelp

/-- Why there is no coverage for two counts. -/
inductive RatioError where
  | negative (assertions functions : Int)
  | halfTooLarge
  | functionsTooLarge
  deriving DecidableEq, Repr

namespace RatioError

/-- The message of a failed division. -/
def message : RatioError → String
  | negative assertions functions =>
    "counts must be non-negative, got assertions=" ++ intText assertions
      ++ ", functions=" ++ intText functions
  | halfTooLarge => "integer division result too large for a float"
  | functionsTooLarge => "int too large to convert to float"

/-- The failure that a failed division leads to. -/
def toFailure (e : RatioError) : Failure :=
  match e with
  | negative _ _ => .unexpected .badValue e.message
  | halfTooLarge => .unexpected .overflow e.message
  | functionsTooLarge => .unexpected .overflow e.message

end RatioError

/-- Assertions of a fully covered function. -/
def assertionsPerFunction : Nat := 2

/-- The quotient of two doubles, where `none` stands for one that is too large. -/
def divide : Option Magnitude → Option Magnitude → Except RatioError Magnitude
  | none, _ => .error .halfTooLarge
  | some _, none => .error .functionsTooLarge
  | some half, some f => (half.div? f).elim (.error .halfTooLarge) .ok

/-- The coverage of natural counts with at least one function. -/
def quotient (assertions functions : Nat) : Except RatioError Magnitude :=
  divide (Magnitude.ofRatio? assertions assertionsPerFunction) (Magnitude.ofNat? functions)

/-- The coverage of two counts; without functions it is zero. -/
def ratio (assertions functions : Int) : Except RatioError Magnitude :=
  if assertions < 0 ∨ functions < 0 then .error (.negative assertions functions)
  else if functions = 0 then .ok .zero
  else quotient assertions.toNat functions.toNat

end Coverage
end ContractAudit
