import CodeComplexity.Marking.Judged
import CodeComplexity.Document.Store
import CodeComplexity.Failure
import CodeComplexity.Source.Selection

/-!
# The analysis desk

Where verdicts are asked for.  A verdict that is in the cache is given at once.  Otherwise one
request goes to the classifier for each piece of code, and everyone who asks for the same code
meanwhile waits for the same reply.  A reply is first received, which stores its verdict, and then
handed on to those who wait; who asks in between gets it at once.  A caller who goes away leaves the
request as it is, and its reply still goes into the cache.  Nothing can be asked about a text that
cannot be written.

A hover that finds no verdict in the cache first lets the cursor come to rest: it takes a number for
its document, waits, and gives up if another number has been given out meanwhile.
-/

namespace CodeComplexity

open Source Text

/-- What a query found. -/
inductive Finding where
  | verdict (verdict : Verdict)
  /-- The function around a place, if there is one, with its verdict. -/
  | function (found : Option JudgedFunction)

/-- What a verdict is wanted for. -/
inductive Purpose where
  | verdict
  /-- The function is shown with its verdict. -/
  | function (span : FunctionSpan)
  /-- The same, but an expected failure leaves the hover empty. -/
  | hover (span : FunctionSpan)
  deriving DecidableEq, Repr

/-- What comes of a query once its verdict is there, or is known not to come. -/
def Purpose.finding : Purpose → Except Fault Verdict → Except Fault Finding
  | .verdict, .ok reached => .ok (.verdict reached)
  | .function span, .ok reached | .hover span, .ok reached =>
    .ok (.function (some ⟨span, reached⟩))
  | .hover _, .error (.failure _) => .ok (.function none)
  | .verdict, .error fault | .function _, .error fault | .hover _, .error fault => .error fault

/-- Someone who waits for a reply. -/
structure Waiter (κ : Type) where
  caller : κ
  purpose : Purpose

/-- A request to the classifier whose reply has not been handed on yet, with those who wait for it
in the order in which they came. -/
structure OpenRequest (κ : Type) where
  code : String
  waiters : List (Waiter κ)
  /-- What the reply said, if it has been received. -/
  outcome : Option (Except Fault Verdict)

def OpenRequest.key {κ : Type} (request : OpenRequest κ) : Digest :=
  contentDigest request.code

/-- A hover that waits for the cursor to rest. -/
structure SettlingHover (κ : Type) where
  caller : κ
  uri : Uri
  span : FunctionSpan
  /-- The text of the function, which can be written. -/
  code : String
  /-- The number that was given out for the document when the hover came. -/
  number : Nat
  alarm : Alarm
  deriving DecidableEq, Repr

/-- What the desk does to the outside. -/
inductive DeskAct (κ : Type) where
  /-- Ask the classifier about a piece of code. -/
  | ask (code : String)
  /-- Give a caller what it is waiting for. -/
  | give (caller : κ) (finding : Except Fault Finding)

/-- The state of the desk. -/
structure Desk (κ : Type) where
  /-- How long the cursor has to rest. -/
  hoverDelay : Int
  cache : Cache
  requests : List (OpenRequest κ)
  settling : List (SettlingHover κ)
  /-- The latest number that was given out for each document. -/
  numbers : Keyed Nat Uri

namespace Desk

variable {κ : Type}

def start (hoverDelay : Int) (cache : Cache) : Desk κ :=
  ⟨hoverDelay, cache, [], [], []⟩

/-- The open request about a piece of code. -/
def request? (desk : Desk κ) (code : String) : Option (OpenRequest κ) :=
  desk.requests.find? fun request => request.key = contentDigest code

/-- Wait for the reply to an open request. -/
def join (waiter : Waiter κ) (code : String) (request : OpenRequest κ) : OpenRequest κ :=
  if request.key = contentDigest code then { request with waiters := request.waiters ++ [waiter] }
  else request

/-- Ask for the verdict on a piece of code: from the cache, from a request that is open already, or
by a new request. -/
def seek (desk : Desk κ) (now : Int) (waiter : Waiter κ) (code : String) :
    Desk κ × List (DeskAct κ) :=
  match desk.cache.get now code with
  | (some verdict, cache) =>
    ({ desk with cache }, [.give waiter.caller (waiter.purpose.finding (.ok verdict))])
  | (none, cache) =>
    match desk.request? code with
    | none =>
      ({ desk with cache, requests := desk.requests ++ [⟨code, [waiter], none⟩] }, [.ask code])
    | some ⟨_, _, some outcome⟩ =>
      ({ desk with cache }, [.give waiter.caller (waiter.purpose.finding outcome)])
    | some ⟨_, _, none⟩ =>
      ({ desk with cache, requests := desk.requests.map (join waiter code) }, [])

/-- Ask for the verdict on a text, if it can be written. -/
def seekText (desk : Desk κ) (now : Int) (waiter : Waiter κ) (text : LooseText) :
    Desk κ × List (DeskAct κ) :=
  match text.encoded with
  | .ok code => desk.seek now waiter code
  | .error error => (desk, [.give waiter.caller (.error (.unencodable error))])

/-- Ask for the verdict on a piece of code. -/
def analyzeCode (desk : Desk κ) (now : Int) (caller : κ) (code : LooseText) :
    Desk κ × List (DeskAct κ) :=
  desk.seekText now ⟨caller, .verdict⟩ code

/-- Ask for the verdict on the function around a place. -/
def analyzeAt (desk : Desk κ) (now : Int) (caller : κ) (text : LooseText) (position : Position) :
    Desk κ × List (DeskAct κ) :=
  match locateContaining text position with
  | none => (desk, [.give caller (.ok (.function none))])
  | some span => desk.seekText now ⟨caller, .function span⟩ span.text

/-- Ask for the verdict on a selection, which has to hold something. -/
def analyzeSelection (desk : Desk κ) (now : Int) (caller : κ) (text : LooseText)
    (range : Option TextRange) : Desk κ × List (DeskAct κ) :=
  let code := extractText text range
  if allBlank code.points then (desk, [.give caller (.error (.failure .emptySelection))])
  else desk.analyzeCode now caller code

/-- The number that is given out next for a document. -/
def nextNumber (desk : Desk κ) (uri : Uri) : Nat :=
  (Keyed.get? desk.numbers uri).getD 0 + 1

/-- Wait for the cursor to rest. -/
def settle (desk : Desk κ) (timeline : Timeline) (caller : κ) (uri : Uri) (span : FunctionSpan)
    (code : String) : Desk κ :=
  let number := desk.nextNumber uri
  { desk with
    numbers := Keyed.set uri number desk.numbers
    settling := desk.settling ++
      [⟨caller, uri, span, code, number, timeline.alarmIn desk.hoverDelay true⟩] }

/-- The cursor hovers over a place of a document. -/
def hover (desk : Desk κ) (timeline : Timeline) (caller : κ) (uri : Uri)
    (text : LooseText) (position : Position) : Desk κ × List (DeskAct κ) :=
  match locateContaining text position with
  | none => (desk, [.give caller (.ok (.function none))])
  | some span =>
    match span.text.encoded with
    | .error error => (desk, [.give caller (.error (.unencodable error))])
    | .ok code =>
      match desk.cache.get timeline.now code with
      | (some verdict, cache) =>
        ({ desk with cache }, [.give caller (.ok (.function (some ⟨span, verdict⟩)))])
      | (none, cache) =>
        let looked := { desk with cache }
        if 0 < desk.hoverDelay then (looked.settle timeline caller uri span code, [])
        else looked.seek timeline.now ⟨caller, .hover span⟩ code

/-- Whether the number of a hover is still the latest one of its document. -/
def isLatest (desk : Desk κ) (hover : SettlingHover κ) : Bool :=
  Keyed.get? desk.numbers hover.uri == some hover.number

/-- The time of a hover is over: it asks for its verdict, or gives up. -/
def ring (desk : Desk κ) (now : Int) (alarm : Alarm) : Desk κ × List (DeskAct κ) :=
  match desk.settling.find? fun hover => hover.alarm = alarm with
  | none => (desk, [])
  | some hover =>
    let left := { desk with settling := desk.settling.filter fun other => other.alarm ≠ alarm }
    if desk.isLatest hover then left.seek now ⟨hover.caller, .hover hover.span⟩ hover.code
    else (left, [.give hover.caller (.ok (.function none))])

/-- The cache after a reply: a verdict is stored, a fault changes nothing. -/
def stored (cache : Cache) (now : Int) (code : String) : Except Fault Verdict → Cache
  | .ok verdict => cache.put now code verdict
  | .error _ => cache

/-- Note what the reply to a request said, unless it is about other code. -/
def note (outcome : Except Fault Verdict) (code : String) (request : OpenRequest κ) :
    OpenRequest κ :=
  if request.key = contentDigest code then { request with outcome := some outcome } else request

/-- The reply about a piece of code is there: its verdict is stored. -/
def receive (desk : Desk κ) (now : Int) (code : String) (outcome : Except Fault Verdict) :
    Desk κ :=
  { desk with
    cache := stored desk.cache now code outcome
    requests := desk.requests.map (note outcome code) }

/-- Hand on what the reply about a piece of code said: everyone who waits for it gets it. -/
def handOn (desk : Desk κ) (code : String) : Desk κ × List (DeskAct κ) :=
  match desk.request? code with
  | some ⟨_, waiters, some outcome⟩ =>
    ({ desk with
        requests := desk.requests.filter fun other => other.key ≠ contentDigest code },
      waiters.map fun waiter => .give waiter.caller (waiter.purpose.finding outcome))
  | some ⟨_, _, none⟩ | none => (desk, [])

/-- A caller goes away.  What it waits for goes on without it. -/
def withdraw (desk : Desk κ) (isCaller : κ → Bool) : Desk κ × List (DeskAct κ) :=
  let leaves (waiter : Waiter κ) : Bool := isCaller waiter.caller
  let waiting := (desk.requests.flatMap OpenRequest.waiters).filter leaves
  let hovering := desk.settling.filter fun hover => isCaller hover.caller
  ({ desk with
      requests := desk.requests.map fun request =>
        { request with waiters := request.waiters.filter fun waiter => !leaves waiter }
      settling := desk.settling.filter fun hover => !isCaller hover.caller },
    (waiting.map Waiter.caller ++ hovering.map SettlingHover.caller).map fun caller =>
      .give caller (.error .cancelled))

/-- Store a verdict that did not come by a request. -/
def put (desk : Desk κ) (now : Int) (code : String) (verdict : Verdict) : Desk κ :=
  { desk with cache := desk.cache.put now code verdict }

def clearCache (desk : Desk κ) : Desk κ :=
  { desk with cache := desk.cache.clear }

/-- Forget the numbers of a document. -/
def forget (desk : Desk κ) (uri : Uri) : Desk κ :=
  { desk with numbers := Keyed.erase uri desk.numbers }

def nextAlarm? (desk : Desk κ) : Option Alarm :=
  Alarm.earliest? (desk.settling.map SettlingHover.alarm)

def owns (desk : Desk κ) (alarm : Alarm) : Bool :=
  desk.settling.any fun hover => hover.alarm = alarm

end Desk

end CodeComplexity
