import CodeComplexity.Classifier.Request
import CodeComplexity.Failure
import CodeComplexity.Verdict.Wire

/-!
# Replies of the classifier

What comes back from a request, and what it means.  A reply to code is a verdict only if its status
is a success and its body holds an acceptable verdict; every other reply is a failure that says why.
The status decides first: a body is looked at only where the status does not settle the matter.  A
response to a request at a relative address cannot be taken in at all.
-/

namespace CodeComplexity

/-- What comes back from a request. -/
inductive Reply where
  /-- A response, and how deeply nested values there is room for where its body is read. -/
  | response (status : Nat) (body : List UInt8) (room : Nat)
  /-- The connection failed. -/
  | networkError (reason : String)
  /-- The request could not be sent. -/
  | unsent (fault : RequestFault)
  /-- Something else broke. -/
  | broken (message : String)
  deriving DecidableEq, Repr

/-- The classes of status codes that are told apart. -/
inductive StatusClass where
  | success
  | rejectedCredentials
  | serverError
  | other
  deriving DecidableEq, Repr

/-- The class of a status code. -/
def StatusClass.ofStatus (status : Nat) : StatusClass :=
  if status = 401 ∨ status = 403 then .rejectedCredentials
  else if 200 ≤ status ∧ status ≤ 299 then .success
  else if 500 ≤ status ∧ status ≤ 599 then .serverError
  else .other

/-- The JSON value that a body holds. -/
def readBody (room : Nat) (body : List UInt8) : Except Fault Json :=
  match Text.decodeBytes body with
  | .error error => .error (.failure (.notAVerdict (.undecodable error)))
  | .ok text =>
    match Json.read room text with
    | .ok value => .ok value
    | .error (.malformed error) => .error (.failure (.notAVerdict (.malformed error)))
    | .error (.oversizedInteger digits) =>
      .error (.failure (.notAVerdict (.oversizedInteger digits)))
    | .error (.tooDeep container) => .error (.tooDeep container)

/-- The verdict that a body holds. -/
def readVerdict (room : Nat) (body : List UInt8) : Except Fault Verdict :=
  match readBody room body with
  | .error fault => .error fault
  | .ok value =>
    match (Verdict.ofJson value).titled "ComplexityVerdict" with
    | .error refusal => .error (.failure (.notAVerdict (.unacceptable refusal)))
    | .ok verdict => .ok verdict

/-- The details that the body of an error reply gives, if it gives any.  A body that holds no value
gives none. -/
def errorDetail (room : Nat) (body : List UInt8) : Except Fault (Option Text.LooseText) :=
  match readBody room body with
  | .error (.failure _) => .ok none
  | .error fault => .error fault
  | .ok value =>
    match value.get? "detail" with
    | some detail => .ok (if detail.isTruthy then some detail.display else none)
    | none => .ok none

/-- What a response to code means. -/
def verdictOfResponse (status : Nat) (body : List UInt8) (room : Nat) : Except Fault Verdict :=
  match StatusClass.ofStatus status with
  | .rejectedCredentials => .error (.failure (.credentialsRejected status))
  | .serverError => do
    let detail ← errorDetail room body
    .error (.failure (.serviceError status detail))
  | .other => do
    let detail ← errorDetail room body
    .error (.failure (.requestRefused status detail))
  | .success => readVerdict room body

/-- What a reply to code means. -/
def Service.verdictOf (service : Service) : Reply → Except Fault Verdict
  | .networkError reason => .error (.failure (.unreachable service.analyzeUrl reason))
  | .unsent fault => .error (.unsent fault)
  | .broken message => .error (.broken message)
  | .response status body room =>
    match relativeTarget? service.analyzeUrl with
    | some url => .error (.withoutScheme url)
    | none => verdictOfResponse status body room

/-- Whether a reply says that the service is up. -/
def Service.isHealthy (service : Service) : Reply → Bool
  | .response status _ _ => status == 200 && (relativeTarget? service.healthUrl).isNone
  | .networkError _ | .unsent _ | .broken _ => false

/-- Send a request, if it can be sent: the reply to it, and the requests that were sent. -/
def exchange (transport : Request → Reply) : Except RequestFault Request → Reply × List Request
  | .ok request => (transport request, [request])
  | .error fault => (.unsent fault, [])

namespace Service

/-- Let the classifier judge code: what comes of it, and the requests that were sent. -/
def classify (service : Service) (transport : Request → Reply) (code : String) :
    Except Fault Verdict × List Request :=
  let (reply, sent) := exchange transport (service.analyzeRequest code)
  (service.verdictOf reply, sent)

/-- Ask whether the classifier is up: its answer, and the requests that were sent. -/
def checkHealth (service : Service) (transport : Request → Reply) : Bool × List Request :=
  let (reply, sent) := exchange transport service.healthRequest
  (service.isHealthy reply, sent)

end Service

end CodeComplexity
