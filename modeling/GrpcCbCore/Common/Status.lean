import Mathlib.Data.List.Basic

/-! Call status: a grpc status code with details. -/
namespace GrpcCbCore

/-- `std::string`: any bytes, zero included. -/
abbrev StdString := List UInt8

/-- The bytes of a string literal of the source. -/
def lit (s : String) : StdString := s.toUTF8.data.toList

/-- `grpc_status_code`. -/
inductive StatusCode where
  | ok | cancelled | unknown | invalidArgument | deadlineExceeded | notFound
  | alreadyExists | permissionDenied | resourceExhausted | failedPrecondition
  | aborted | outOfRange | unimplemented | internal | unavailable | dataLoss
  | unauthenticated
  deriving DecidableEq, Repr

structure Status where
  code : StatusCode
  details : StdString
  deriving DecidableEq, Repr

namespace Status

/-- `Status::OK`, also the default-constructed status. -/
def OK : Status := ⟨.ok, []⟩

def ok (s : Status) : Bool := s.code = .ok

def internalError (details : StdString) : Status := ⟨.internal, details⟩

@[simp] theorem ok_OK : OK.ok = true := rfl

@[simp] theorem ok_internalError (details : StdString) : (internalError details).ok = false := rfl

end Status

/-- The argument of `SetErrorStatus`, which asserts that it is not OK. -/
structure ErrorStatus where
  status : Status
  not_ok : status.ok = false

def ErrorStatus.internalError (details : StdString) : ErrorStatus :=
  ⟨.internalError details, Status.ok_internalError details⟩

end GrpcCbCore
