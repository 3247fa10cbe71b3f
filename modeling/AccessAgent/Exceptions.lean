/-! Exception values. The classes are the built-in ones the modelled code can
raise, those of `app/core/exceptions.py`, and any other `Exception`. -/

namespace AccessAgent

inductive ExceptionClass
  | typeError
  | valueError
  | keyError
  | indexError
  | attributeError
  | overflowError
  | assertionError
  | pydanticValidationError
  | unauthorizedError
  | notFoundError
  | connectorNotRegisteredError
  | loginNotFoundError
  | remediationTierForbiddenError
  | approvalRequiredError
  | killSwitchEngagedError
  | policyValidationError
  | openIAMAuthError
  | requestValidationError
  | httpException (statusCode : Nat)
  | other (name : String)
deriving DecidableEq, Repr

structure Exn where
  cls : ExceptionClass
  message : String
deriving DecidableEq, Repr

namespace Exn

def typeError (message : String) : Exn := ⟨.typeError,message⟩
def valueError (message : String) : Exn := ⟨.valueError,message⟩
def keyError (message : String) : Exn := ⟨.keyError,message⟩
def attributeError (typeName name : String) : Exn :=
  ⟨.attributeError,"'" ++ typeName ++ "' object has no attribute '" ++ name ++ "'"⟩


end Exn

end AccessAgent
