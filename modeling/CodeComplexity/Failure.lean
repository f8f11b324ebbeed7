import CodeComplexity.Check.Issue
import CodeComplexity.Classifier.Request
import CodeComplexity.Document.Store
import CodeComplexity.Json.Display
import CodeComplexity.Json.Reader
import CodeComplexity.Text.Encoding
import CodeComplexity.Verdict.Cache
import CodeComplexity.Verdict.Display

/-!
# Failures

What may go wrong with a call.  A `Failure` is expected and is reported to the user, with a code, a
message and advice; a `Fault` is any reason for a call to end without a result.
-/

namespace CodeComplexity

open Check Text

/-- The codes of reports. -/
inductive FailureCode where
  | classifierUnavailable
  | classifierAuthError
  | classifierBadResponse
  | documentNotOpen
  | emptySelection
  | invalidInput
  deriving DecidableEq, Repr

namespace FailureCode

def name : FailureCode → String
  | classifierUnavailable => "CLASSIFIER_UNAVAILABLE"
  | classifierAuthError => "CLASSIFIER_AUTH_ERROR"
  | classifierBadResponse => "CLASSIFIER_BAD_RESPONSE"
  | documentNotOpen => "DOCUMENT_NOT_OPEN"
  | emptySelection => "EMPTY_SELECTION"
  | invalidInput => "INVALID_INPUT"

def byName : List (String × FailureCode) :=
  [classifierUnavailable, classifierAuthError, classifierBadResponse, documentNotOpen,
    emptySelection, invalidInput].map fun code => (code.name, code)

/-- The code that a value names, or what is wrong with the value. -/
def ofJson (value : Json) : Except String FailureCode :=
  match value.str?.bind fun name => byName.lookup name with
  | some code => .ok code
  | none => .error (value.displayQuoted ++ " is not a valid ErrorCode")

end FailureCode

/-- What the user is told about a failure. -/
structure Report where
  code : FailureCode
  message : LooseText
  suggestion : String
  /-- Whether the same call may succeed later. -/
  recoverable : Bool
  deriving DecidableEq, Repr

namespace Report

def toJson (report : Report) : Json :=
  .obj [("code", .str report.code.name), ("message", .ofLooseText report.message),
    ("suggestion", .str report.suggestion), ("recoverable", .bool report.recoverable)]

/-- The notification for a report. -/
def notification (report : Report) : Notification where
  level := "error"
  message :=
    let front : LooseText := report.code.name ++ ": "
    let back : LooseText := ". " ++ report.suggestion
    (front ++ report.message ++ back).trimEnd
  actions := [dismissAction]

end Report

/-- What a call was given. -/
inductive InputKind where
  | document
  | hover
  | selection
  deriving DecidableEq, Repr

namespace InputKind

def title : InputKind → String
  | document => "DocumentInput"
  | hover => "HoverInput"
  | selection => "AnalyzeSelectionInput"

/-- What to give instead of input that is refused. -/
def advice : InputKind → String
  | document => "Provide a non-empty document URI (max 2048 chars)."
  | hover => "Provide an open document URI and a zero-based line and character."
  | selection => "Provide zero-based selection bounds with the end at or after the start."

end InputKind

/-- Why the body of a reply holds no verdict. -/
inductive BodyFault where
  | undecodable (error : Text.DecodeError)
  | malformed (error : Json.SyntaxError)
  /-- An integer has so many digits, which are too many. -/
  | oversizedInteger (digits : Nat)
  | unacceptable (refusal : Refusal)

/-- What is wrong with a body. -/
def BodyFault.message : BodyFault → String
  | .undecodable error => error.message
  | .malformed error => error.message
  | .oversizedInteger digits =>
    "Exceeds the limit (" ++ toString Json.mostDigits
      ++ " digits) for integer string conversion: value has " ++ toString digits
      ++ " digits; use sys.set_int_max_str_digits() to increase the limit"
  | .unacceptable refusal => refusal.message

/-- An expected failure. -/
inductive Failure where
  /-- No reply came from the classifier. -/
  | unreachable (url : LooseText) (reason : String)
  | credentialsRejected (status : Nat)
  /-- The classifier replied with an error of its own. -/
  | serviceError (status : Nat) (detail : Option LooseText)
  /-- The classifier did not accept the request. -/
  | requestRefused (status : Nat) (detail : Option LooseText)
  | notAVerdict (fault : BodyFault)
  | documentNotOpen (uri : Uri)
  | emptySelection
  | invalidInput (kind : InputKind) (issues : List Issue)

namespace Failure

/-- The status of a reply, with the details if there are any. -/
def statusText (status : Nat) (detail : Option LooseText) : LooseText :=
  let text := "HTTP " ++ toString status ++ " from classifier"
  match detail with
  | none => text
  | some detail => LooseText.ofString (text ++ ": ") ++ detail

/-- What the user is told about a failure. -/
def report : Failure → Report
  | unreachable url reason =>
    ⟨.classifierUnavailable,
      LooseText.ofString "Network error reaching classifier at " ++ url
        ++ LooseText.ofString (": " ++ reason),
      "Ensure the classifier service is running and the endpoint is correct.", true⟩
  | credentialsRejected status =>
    ⟨.classifierAuthError, "Classifier rejected credentials (HTTP " ++ toString status ++ ")",
      "Check the classifier API key in your settings.", false⟩
  | serviceError status detail =>
    ⟨.classifierUnavailable, statusText status detail,
      "The classifier service may be temporarily unavailable.", true⟩
  | requestRefused status detail =>
    ⟨.classifierBadResponse, statusText status detail,
      "The classifier refused the request; check the submitted code.", false⟩
  | notAVerdict fault =>
    ⟨.classifierBadResponse,
      "Classifier response is not a complexity verdict: " ++ fault.message,
      "Check that the endpoint points at a compatible classifier version.", false⟩
  | documentNotOpen uri =>
    ⟨.documentNotOpen,
      LooseText.ofString "Document '" ++ uri ++ LooseText.ofString "' is not open.",
      "Call open_document with the document text first.", true⟩
  | emptySelection =>
    ⟨.emptySelection, "No code selected.",
      "Select the code to analyse, or omit the selection to use the whole document.", true⟩
  | invalidInput kind issues =>
    ⟨.invalidInput, Refusal.message ⟨kind.title, issues⟩, kind.advice, false⟩

end Failure

/-- Why a call ended without a result. -/
inductive Fault where
  | failure (failure : Failure)
  /-- A value that was put together from accepted input was refused. -/
  | refused (refusal : Refusal)
  /-- The request to the classifier could not be sent. -/
  | unsent (fault : RequestFault)
  /-- A text that cannot be written has no digest. -/
  | unencodable (error : EncodeError)
  /-- The address of the request to the classifier has no scheme. -/
  | withoutScheme (url : String)
  /-- The values in a body are nested too deeply: there is no room for such a value. -/
  | tooDeep (container : Json.Container)
  /-- Something broke that should not have. -/
  | broken (message : String)
  | cancelled

/-- What a look-up in the cache that fails does to a call. -/
def Fault.ofLook : LookFault → Fault
  | .unencodable error => .unencodable error
  | .clockless => .broken "clock"

/-- What is wrong with an address that has no scheme. -/
def Fault.withoutSchemeMessage (url : String) : String :=
  "unknown url type: " ++ Json.displayText url

end CodeComplexity
