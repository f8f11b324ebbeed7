import CodeComplexity.Address.Credentials
import CodeComplexity.Json.Basic

/-!
# Requests to the classifier

The service answers at two addresses below its endpoint: one takes code to be analysed, the other
one tells whether the service is up.  A request can be sent if its address is one that can be
written, and what goes along with it can be written in ASCII.
-/

namespace CodeComplexity

open Address Text

/-- How to reach the classifier. -/
structure Service where
  endpoint : LooseText
  /-- The key that goes with code, empty if none is needed. -/
  apiKey : LooseText
  deriving DecidableEq, Repr

/-- The name under which requests are sent. -/
def userAgent : String := "complexlens/0.1.0"

/-- A request to the classifier. -/
inductive Request where
  | analyze (url code : String) (authorization : Option String)
  | health (url : String) (authorization : Option String)
  deriving DecidableEq, Repr

/-- Why a request cannot be sent. -/
inductive RequestFault where
  /-- Its address is none. -/
  | invalidAddress
  /-- What goes along with it holds characters outside ASCII, or its address holds a surrogate. -/
  | unwritable
  deriving DecidableEq, Repr

namespace Service

/-- The endpoint without trailing slashes. -/
def address (service : Service) : LooseText :=
  ⟨(service.endpoint.points.reverse.dropWhile (· == .char '/')).reverse⟩

def analyzeUrl (service : Service) : LooseText :=
  service.address ++ "/analyze"

def healthUrl (service : Service) : LooseText :=
  service.address ++ "/health"

/-- A text, if it is written in ASCII. -/
def ascii? (text : LooseText) : Option String :=
  text.text?.filter fun plain => plain.toList.all isAscii

/-- A key as it is sent along. -/
def authorization? (key : String) : Option String :=
  if key = "" then none else some ("Bearer " ++ key)

/-- The address that a request is sent to.  A surrogate is invalid where other characters are;
elsewhere it cannot be written. -/
def target (text : LooseText) : Except RequestFault Url :=
  match Url.target? text.standIns, text.text? with
  | none, _ => .error .invalidAddress
  | some _, none => .error .unwritable
  | some url, some _ => .ok url

/-- The request to analyse code.  If the address tells who asks, that goes along in place of the
key. -/
def analyzeRequest (service : Service) (code : String) : Except RequestFault Request := do
  let url ← target service.analyzeUrl
  match ascii? service.apiKey with
  | some key =>
    if url.host.all isAscii then
      .ok (.analyze (String.ofList url.text) code (url.authorization?.or (authorization? key)))
    else .error .unwritable
  | none => .error .unwritable

def healthRequest (service : Service) : Except RequestFault Request := do
  let url ← target service.healthUrl
  if url.host.all isAscii then .ok (.health (String.ofList url.text) url.authorization?)
  else .error .unwritable

/-- The address of a request, if it is relative: a reply to such a request is of no use. -/
def relativeTarget? (text : LooseText) : Option String :=
  match target text with
  | .ok url => if url.isAbsolute then none else some (String.ofList url.text)
  | .error _ => none

end Service

/-- What goes along with a request to tell who asks, as members of an object. -/
def authorizationMembers (authorization : Option String) : Json.Members :=
  authorization.toList.map fun value => ("authorization", .str value)

def Request.toJson : Request → Json
  | .analyze url code authorization =>
    .obj (("method", .str "POST") :: ("url", .str url) :: ("code", .str code)
      :: ("content_type", .str "application/json") :: authorizationMembers authorization)
  | .health url authorization =>
    .obj (("method", .str "GET") :: ("url", .str url) :: authorizationMembers authorization)

end CodeComplexity
