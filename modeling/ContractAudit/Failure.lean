import ContractAudit.Fault

/-!
# Failures

Besides the faults that a run foresees, an operation can fail because a value
is not of the kind it needs.  Both are failures.
-/

namespace ContractAudit

/-- What is wrong with a value that an operation cannot use. -/
inductive FailureKind where
  | badValue
  | badType
  | overflow
  | noAttribute
  | undecodable
  | unknownName
  | unsupported
  | outOfRange
  | operatingSystem
  | tooDeep
  deriving DecidableEq, Repr

/-- The reason why an operation ended without a result. -/
inductive Failure where
  | fault (cause : Fault)
  | unexpected (kind : FailureKind) (message : String)
  deriving DecidableEq, Repr

namespace Failure

/-- The full text of a failure. -/
def text : Failure → String
  | fault f => f.text
  | unexpected _ message => message

/-- Whether the failure is a fault of the configuration. -/
def isConfiguration : Failure → Bool
  | fault f => f.kind.isConfiguration
  | unexpected _ _ => false

end Failure

end ContractAudit
