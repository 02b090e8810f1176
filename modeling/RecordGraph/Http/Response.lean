import RecordGraph.Error
import RecordGraph.Value.Record

/-!
Contract: responses, and the responses to failures.

Owns: `Response`, the status and the code of every class of errors, `Rejection`, and `Failure`.
Does not own: requests; `RecordGraph.Http.Route` has them.

An error of the library is answered with its class's code and its message. A rejection has a status
of its own. A failure of a collaborator is an internal error, and the answer tells nothing of it.
The numbers that JSON lacks are answered as null.
-/

namespace RecordGraph

open RecordGraph.Text

namespace ErrorKind

/-- The code by which clients know a class of errors. -/
def code : ErrorKind → String
  | .general | .foreign => "RelGraphError"
  | .schema => "SchemaError"
  | .syntaxError => "SyntaxError"
  | .notAllowed => "NotAllowedError"
  | .unknownRelation => "UnknownRelationError"
  | .payload => "PayloadError"
  | .cyclicPayload => "CyclicPayloadError"
  | .statement => "StatementError"
  | .uniqueViolation => "UniqueViolation"
  | .returnContract => "ReturnContractError"
  | .cancelled => "OperationCancelled"
  | .unitOfWork => "UnitOfWorkError"
  | .sessionManagement => "SessionManagementError"

/-- Errors in what the client asked for are its own; a violated key is a conflict. -/
def status : ErrorKind → Nat
  | .notAllowed | .syntaxError | .unknownRelation | .cyclicPayload | .payload => 400
  | .uniqueViolation => 409
  | _ => 500

end ErrorKind

namespace Http

inductive Content where
  | json (value : Value)
  | text (chars : String)
  /-- A report on the form of the request, in words that are not settled here. -/
  | report
deriving Repr, Inhabited

structure Response where
  status : Nat
  content : Content
deriving Repr, Inhabited

/-- Why a request is turned down that is well-formed. -/
inductive Rejection where
  /-- No row has the key, or no row could have it. -/
  | missing (what : String)
  /-- The text is no value of the column. -/
  | invalidValue (text entity column : String)
  | missingId
deriving DecidableEq, Repr, Inhabited

namespace Rejection

def status : Rejection → Nat
  | .missing _ => 404
  | .invalidValue .. | .missingId => 400

def detail : Rejection → String
  | .missing what => what ++ " not found"
  | .invalidValue text entity column =>
      s!"Invalid value {quote text} for {entity}.{column}"
  | .missingId => "Body must carry an 'id'"

end Rejection

inductive Failure where
  | rejected (rejection : Rejection)
  | failed (error : Error)
deriving DecidableEq, Repr, Inhabited

/-! ## Values that have a text -/

mutual

/-- A value with null in place of every number that is not finite. -/
def finite : Value → Value
  | .float number => if number.isFinite then .float number else .null
  | .list items => .list (finiteItems items)
  | .object fields => .object (finiteFields fields)
  | value => value

def finiteItems : List Value → List Value
  | [] => []
  | item :: rest => finite item :: finiteItems rest

def finiteFields : List (String × Value) → List (String × Value)
  | [] => []
  | (name, value) :: rest => (name, finite value) :: finiteFields rest

end

mutual

def isEncodable : Value → Bool
  | .text chars => !hasLoneHalf chars
  | .list items => areEncodable items
  | .object fields => fieldsEncodable fields
  | _ => true

def areEncodable : List Value → Bool
  | [] => true
  | item :: rest => isEncodable item && areEncodable rest

def fieldsEncodable : List (String × Value) → Bool
  | [] => true
  | (name, value) :: rest => !hasLoneHalf name && isEncodable value && fieldsEncodable rest

end

namespace Response

def internalError : Response := ⟨500, .text "Internal Server Error"⟩

/-- The answer with a value, which fails if one of its texts cannot be encoded. -/
def ofValue (status : Nat) (value : Value) : Response :=
  if isEncodable value then ⟨status, .json (finite value)⟩ else internalError

def ofDetail (status : Nat) (detail : String) : Response :=
  ofValue status (.object [("detail", .text detail)])

def notFound : Response := ofDetail 404 "Not Found"

def methodNotAllowed : Response := ofDetail 405 "Method Not Allowed"

/-- The answer to a body that is missing or has the wrong form. -/
def unprocessable : Response := ⟨422, .report⟩

/-- The answer to a body that cannot be read at all. -/
def unreadable : Response := ofDetail 400 "There was an error parsing the body"

/-- The answer to a path that is right but for slashes at its end. -/
def redirect : Response := ⟨307, .text ""⟩

def ofError (error : Error) : Response :=
  match error.kind with
  | .foreign => internalError
  | kind =>
      ofValue kind.status
        (.object [("error", .text kind.code), ("detail", .text error.message)])

def ofFailure : Failure → Response
  | .rejected rejection => ofDetail rejection.status rejection.detail
  | .failed error => ofError error

def ofResult : Except Failure Value → Response
  | .ok value => ofValue 200 value
  | .error failure => ofFailure failure

end Response

end Http

end RecordGraph
