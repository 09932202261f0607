import Mathlib.Data.Nat.Notation

/-!
# Errors of a request

The exceptions that end a request: the ones of the framework, and `AppException` of
`src/errors/app-exception.ts`, which adds an error code.
-/

namespace AcdpControlPlane

structure HttpException where
  status : ℕ
  code : Option String
  message : String
deriving DecidableEq, Repr

def badRequestException (message : String) : HttpException := ⟨400, none, message⟩

def unauthorizedException (message : String) : HttpException := ⟨401, none, message⟩

/-- An `AppException` without metadata. -/
def appException (errorCode message : String) (httpStatus : ℕ) : HttpException :=
  ⟨httpStatus, some errorCode, message⟩

end AcdpControlPlane
