import Mathlib.Data.List.TakeWhile
import CodeComplexity.Proofs.Classifier.Reply
import CodeComplexity.Proofs.Json.Room

/-!
# How replies are sorted

What becomes of each reply to code.  The status and what the body holds settle it: `Sorts` lists the
ways, and `Sorted` tells them by the code of the failure.  The replies that are not sorted are those
that break the call; a body that is nested too deeply is one of them.
-/

namespace CodeComplexity

open Text

variable {service : Service} {reply : Reply} {outcome : Except Fault Verdict} {status room : Nat}
  {body : List UInt8} {value : Json} {verdict : Verdict} {detail : LooseText}
  {told : Option LooseText}

/-! ## What a body holds -/

/-- A body holds a value: it can be decoded, and its text is the value's where there is room for
it. -/
def Json.IsIn (value : Json) (body : List UInt8) : Prop :=
  ∃ text room, decodeBytes body = .ok text ∧ Json.read room text = .ok value

/-- A body holds a verdict: its value is accepted as the verdict. -/
def Verdict.IsIn (verdict : Verdict) (body : List UInt8) : Prop :=
  ∃ value : Json, value.IsIn body ∧ Verdict.ofJson value = .valid verdict

/-- A body holds details: its value is an object with details that are not empty, and this is how
they are shown. -/
def Text.LooseText.IsDetailIn (detail : LooseText) (body : List UInt8) : Prop :=
  ∃ members found, (Json.obj members).IsIn body ∧ Keyed.get? members "detail" = some found ∧
    found.isTruthy = true ∧ found.display = detail

/-- A body is read as the value that it holds, if there is room for it. -/
theorem readBody_eq_ok :
    readBody room body = .ok value ↔ value.IsIn body ∧ Shallow room body := by
  constructor
  · intro found
    refine ⟨?_, by simp [Shallow, found]⟩
    rw [readBody] at found
    split at found
    · cases found
    · next text decoded =>
      split at found
      · next read =>
        rw [Except.ok.inj found] at read
        exact ⟨text, room, decoded, read⟩
      · cases found
      · cases found
      · cases found
  · rintro ⟨⟨text, enough, decoded, held⟩, shallow⟩
    have fits (container : Json.Container) : Json.read room text ≠ .error (.tooDeep container) := by
      intro deep
      refine shallow container ?_
      simp only [readBody, decoded, deep]
    simp only [readBody, decoded, Json.read_eq_ok_of_fits held fits]

theorem Json.IsIn.unique {other : Json} (one : value.IsIn body) (two : other.IsIn body) :
    value = other := by
  obtain ⟨text, room, decoded, held⟩ := one
  have found : readBody room body = .ok value := by
    simp only [readBody, decoded, held]
  have also := readBody_eq_ok.mpr ⟨two, (readBody_eq_ok.mp found).2⟩
  rw [found] at also
  exact Except.ok.inj also

theorem readVerdict_eq_ok :
    readVerdict room body = .ok verdict ↔ verdict.IsIn body ∧ Shallow room body := by
  constructor
  · intro found
    rw [readVerdict] at found
    split at found
    · cases found
    · next value held =>
      split at found
      · cases found
      · next accepted =>
        rw [Except.ok.inj found, Check.Checked.titled_eq_ok] at accepted
        obtain ⟨held, shallow⟩ := readBody_eq_ok.mp held
        exact ⟨⟨value, held, accepted⟩, shallow⟩
  · rintro ⟨⟨value, held, accepted⟩, shallow⟩
    simp only [readVerdict, readBody_eq_ok.mpr ⟨held, shallow⟩,
      Check.Checked.titled_eq_ok.mpr accepted]

/-- Details that are read are those that the body holds, and none if it holds none. -/
theorem isDetailIn_iff (known : errorDetail room body = .ok told) :
    detail.IsDetailIn body ↔ told = some detail := by
  rw [errorDetail] at known
  split at known
  · next failure found =>
    obtain rfl := Except.ok.inj known
    simp only [reduceCtorEq, iff_false]
    rintro ⟨members, -, held, -⟩
    rw [readBody_eq_ok.mpr ⟨held, by simp [Shallow, found]⟩] at found
    cases found
  · cases known
  · next value read =>
    have held := (readBody_eq_ok.mp read).1
    split at known
    · next found listed =>
      obtain ⟨members, rfl, given⟩ := Json.get?_eq_some.mp listed
      obtain rfl := Except.ok.inj known
      constructor
      · rintro ⟨others, shown, also, among, truthy, rfl⟩
        obtain rfl := Json.obj.inj (also.unique held)
        obtain same : found = shown := Option.some.inj (given.symm.trans among)
        rw [same, if_pos truthy]
      · intro same
        split at same
        · next truthy =>
          exact ⟨members, found, held, given, truthy, Option.some.inj same⟩
        · cases same
    · next unlisted =>
      obtain rfl := Except.ok.inj known
      simp only [reduceCtorEq, iff_false]
      rintro ⟨members, found, also, listed, -⟩
      rw [← also.unique held, Json.get?_eq_some.mpr ⟨members, rfl, listed⟩] at unlisted
      cases unlisted

/-! ## Classes of status codes -/

namespace StatusClass

theorem ofStatus_eq_rejectedCredentials :
    ofStatus status = .rejectedCredentials ↔ status = 401 ∨ status = 403 := by
  grind [ofStatus]

theorem ofStatus_eq_success : ofStatus status = .success ↔ 200 ≤ status ∧ status ≤ 299 := by
  grind [ofStatus]

theorem ofStatus_eq_serverError :
    ofStatus status = .serverError ↔ 500 ≤ status ∧ status ≤ 599 := by
  grind [ofStatus]

theorem ofStatus_eq_other :
    ofStatus status = .other ↔ ¬(200 ≤ status ∧ status ≤ 299) ∧ ¬(500 ≤ status ∧ status ≤ 599) ∧
      status ≠ 401 ∧ status ≠ 403 := by
  grind [ofStatus]

end StatusClass

/-! ## Ways in which a reply is sorted -/

/-- A reply is sorted: it is a verdict, its status or the lack of a response settles it, or its body
holds no verdict.  Details go along where the body holds any. -/
inductive Service.Sorts (service : Service) : Reply → Except Fault Verdict → Prop where
  | unreachable (reason : String) :
      Sorts service (.networkError reason)
        (.error (.failure (.unreachable service.analyzeUrl reason)))
  | rejected {status : Nat} (body : List UInt8) (room : Nat)
      (code : status = 401 ∨ status = 403) :
      Sorts service (.response status body room) (.error (.failure (.credentialsRejected status)))
  | failed {status room : Nat} {body : List UInt8} {told : Option LooseText}
      (code : 500 ≤ status ∧ status ≤ 599)
      (details : ∀ detail : LooseText, detail.IsDetailIn body ↔ told = some detail) :
      Sorts service (.response status body room) (.error (.failure (.serviceError status told)))
  | refused {status room : Nat} {body : List UInt8} {told : Option LooseText}
      (code : ¬(200 ≤ status ∧ status ≤ 299) ∧ ¬(500 ≤ status ∧ status ≤ 599) ∧
        status ≠ 401 ∧ status ≠ 403)
      (details : ∀ detail : LooseText, detail.IsDetailIn body ↔ told = some detail) :
      Sorts service (.response status body room) (.error (.failure (.requestRefused status told)))
  | spoiled {status room : Nat} {body : List UInt8} (fault : BodyFault)
      (code : 200 ≤ status ∧ status ≤ 299) (without : ∀ verdict : Verdict, ¬verdict.IsIn body) :
      Sorts service (.response status body room) (.error (.failure (.notAVerdict fault)))
  | verdict {status room : Nat} {body : List UInt8} {verdict : Verdict}
      (code : 200 ≤ status ∧ status ≤ 299) (held : verdict.IsIn body) :
      Sorts service (.response status body room) (.ok verdict)

namespace Service

/-- A response at an absolute address is sorted, if its body need not be read or is not nested too
deeply. -/
theorem sorts_response (status : Nat) {body : List UInt8} {room : Nat}
    (shallow : StatusClass.ofStatus status = .rejectedCredentials ∨ Shallow room body) :
    service.Sorts (.response status body room) (verdictOfResponse status body room) := by
  have detailed : StatusClass.ofStatus status ≠ .rejectedCredentials →
      ∃ told, errorDetail room body = .ok told := by
    intro read
    rcases errorDetail_cases room body with ⟨told, found, -⟩ | ⟨container, -, deep⟩
    · exact ⟨told, found⟩
    · exact absurd deep (shallow.resolve_left read container)
  rw [verdictOfResponse]
  cases sort : StatusClass.ofStatus status with
  | rejectedCredentials =>
      exact .rejected body room (StatusClass.ofStatus_eq_rejectedCredentials.mp sort)
  | serverError =>
      obtain ⟨told, found⟩ := detailed (by simp [sort])
      rw [found]
      exact .failed (StatusClass.ofStatus_eq_serverError.mp sort) fun _ => isDetailIn_iff found
  | other =>
      obtain ⟨told, found⟩ := detailed (by simp [sort])
      rw [found]
      exact .refused (StatusClass.ofStatus_eq_other.mp sort) fun _ => isDetailIn_iff found
  | success =>
      have success := StatusClass.ofStatus_eq_success.mp sort
      have shallow := shallow.resolve_left (by simp [sort])
      dsimp only
      cases read : readVerdict room body with
      | ok verdict => exact .verdict success (readVerdict_eq_ok.mp read).1
      | error fault =>
          rcases readVerdict_eq_error read with ⟨container, -, deep⟩ | ⟨bodyFault, rfl⟩
          · exact absurd deep (shallow container)
          · refine .spoiled bodyFault success fun verdict held => ?_
            rw [readVerdict_eq_ok.mpr ⟨held, shallow⟩] at read
            cases read

/-- A response or a network error is sorted, or it breaks the call. -/
theorem sorts_or_breaks (service : Service)
    (came : (∃ reason, reply = .networkError reason) ∨
      ∃ status body room, reply = .response status body room) :
    service.Sorts reply (service.verdictOf reply) ∨ ∃ fault, service.Breaks reply fault := by
  rcases came with ⟨reason, rfl⟩ | ⟨status, body, room, rfl⟩
  · exact .inl (.unreachable reason)
  · cases relative : relativeTarget? service.analyzeUrl with
    | some url => exact .inr ⟨_, .relative relative status body room⟩
    | none =>
        by_cases shallow : StatusClass.ofStatus status = .rejectedCredentials ∨ Shallow room body
        · left
          rw [verdictOf.eq_def]
          dsimp only
          rw [relative]
          exact sorts_response status shallow
        · obtain ⟨read, deep⟩ := not_or.mp shallow
          obtain ⟨container, deep⟩ := not_shallow_iff.mp deep
          exact .inr ⟨_, .tooDeep relative read deep⟩

end Service

/-! ## Sorted replies -/

/-- What a message starts with that tells a status and details. -/
def detailFront (status : Nat) : LooseText :=
  .ofString ("HTTP " ++ toString status ++ " from classifier: ")

theorem Failure.statusText_some (status : Nat) (detail : LooseText) :
    statusText status (some detail) = detailFront status ++ detail := by
  rw [statusText, detailFront]
  simp only [String.append_assoc]
  rfl

theorem Failure.statusText_eq_iff :
    statusText status told = detailFront status ++ detail ↔ told = some detail := by
  cases told with
  | none =>
      simp only [reduceCtorEq, iff_false]
      intro same
      have points := congrArg (fun text : LooseText => text.points.length) same
      simp [statusText, detailFront, spelled] at points
  | some other =>
      rw [statusText_some, Option.some.injEq]
      exact ⟨LooseText.append_left_cancel, fun same => by rw [same]⟩

/-- A message that does not start with the letter of a status tells no details. -/
theorem ne_detailFront {message : LooseText} (front : message.points.head? ≠ some (.char 'H')) :
    message ≠ detailFront status ++ detail := by
  rintro rfl
  simp [detailFront, spelled] at front

/-- A call ends with a failure of some code. -/
def EndsWith (outcome : Except Fault Verdict) (code : FailureCode) : Prop :=
  ∃ failure, outcome = .error (.failure failure) ∧ failure.report.code = code

@[simp] theorem endsWith_failure {failure : Failure} {code : FailureCode} :
    EndsWith (.error (.failure failure)) code ↔ failure.report.code = code := by
  simp [EndsWith]

@[simp] theorem not_endsWith_ok {code : FailureCode} : ¬EndsWith (.ok verdict) code := by
  simp [EndsWith]

/-- What comes of a reply that is sorted. -/
structure Sorted (reply : Reply) (outcome : Except Fault Verdict) : Prop where
  /-- A verdict comes of a success whose body holds it, and of nothing else. -/
  verdict (verdict : Verdict) : outcome = .ok verdict ↔
    ∃ status body room, reply = .response status body room ∧ (200 ≤ status ∧ status ≤ 299) ∧
      verdict.IsIn body
  rejected : EndsWith outcome .classifierAuthError ↔
    ∃ status body room, reply = .response status body room ∧ (status = 401 ∨ status = 403)
  unavailable : EndsWith outcome .classifierUnavailable ↔
    (∃ reason, reply = .networkError reason) ∨
      ∃ status body room, reply = .response status body room ∧ 500 ≤ status ∧ status ≤ 599
  /-- Whatever else comes is a reply that is no good. -/
  otherwise : EndsWith outcome .classifierBadResponse ↔
    (∀ verdict, outcome ≠ .ok verdict) ∧ ¬EndsWith outcome .classifierAuthError ∧
      ¬EndsWith outcome .classifierUnavailable
  /-- Nothing but these failures comes, and the same call may succeed later just if the classifier
  was not available. -/
  expected (fault : Fault) : outcome = .error fault → ∃ failure, fault = .failure failure ∧
    (failure.report.recoverable = true ↔ failure.report.code = .classifierUnavailable)
  /-- The message tells details just if the status is an error other than refused credentials and
  the body holds these details. -/
  detailed (status : Nat) (body : List UInt8) (room : Nat) (failure : Failure)
    (detail : LooseText) :
    reply = .response status body room → outcome = .error (.failure failure) →
      (failure.report.message = detailFront status ++ detail ↔
        ¬(200 ≤ status ∧ status ≤ 299) ∧ status ≠ 401 ∧ status ≠ 403 ∧ detail.IsDetailIn body)
  /-- Where such a body holds none, the message tells the status alone. -/
  plain (status : Nat) (body : List UInt8) (room : Nat) (failure : Failure) :
    reply = .response status body room → outcome = .error (.failure failure) →
      ¬(200 ≤ status ∧ status ≤ 299) → status ≠ 401 → status ≠ 403 →
      (∀ detail : LooseText, ¬detail.IsDetailIn body) →
      failure.report.message = LooseText.ofString ("HTTP " ++ toString status ++ " from classifier")

theorem Verdict.IsIn.unique {first second : Verdict} (one : first.IsIn body)
    (other : second.IsIn body) : first = second := by
  obtain ⟨value, held, accepted⟩ := one
  obtain ⟨same, also, likewise⟩ := other
  rw [held.unique also, likewise] at accepted
  exact (Check.Checked.valid.inj accepted).symm

/-- Each way in which a reply is sorted is told by what comes of it. -/
theorem Service.Sorts.sorted (sorts : service.Sorts reply outcome) : Sorted reply outcome where
  verdict other := by
    cases sorts with
    | verdict success held =>
        constructor
        · intro same
          obtain rfl := Except.ok.inj same
          exact ⟨_, _, _, rfl, success, held⟩
        · rintro ⟨_, _, _, same, -, also⟩
          cases same
          rw [held.unique also]
    | spoiled fault success without =>
        simp only [reduceCtorEq, false_iff]
        rintro ⟨_, _, _, same, -, held⟩
        cases same
        exact without other held
    | _ => grind
  rejected := by
    cases sorts <;> grind [endsWith_failure, not_endsWith_ok, Failure.report]
  unavailable := by
    cases sorts <;> grind [endsWith_failure, not_endsWith_ok, Failure.report]
  otherwise := by
    cases sorts <;> grind [endsWith_failure, not_endsWith_ok, Failure.report]
  expected fault := by
    cases sorts <;> grind [Failure.report]
  detailed status body room failure detail := by
    intro came ended
    cases sorts with
    | unreachable reason => cases came
    | verdict success held => cases ended
    | rejected _ _ code =>
        cases came
        cases ended
        refine iff_of_false (ne_detailFront ?_) (by omega)
        simp [Failure.report, spelled]
    | spoiled fault success without =>
        cases came
        cases ended
        refine iff_of_false (ne_detailFront ?_) fun other => other.1 success
        simp [Failure.report, spelled]
    | failed code details =>
        cases came
        cases ended
        refine Failure.statusText_eq_iff.trans ((details detail).symm.trans ?_)
        exact ⟨fun held => ⟨by omega, by omega, by omega, held⟩, fun other => other.2.2.2⟩
    | refused code details =>
        cases came
        cases ended
        refine Failure.statusText_eq_iff.trans ((details detail).symm.trans ?_)
        exact ⟨fun held => ⟨code.1, code.2.2.1, code.2.2.2, held⟩, fun other => other.2.2.2⟩
  plain status body room failure := by
    intro came ended other unauthorized forbidden without
    have untold {told : Option LooseText}
        (details : ∀ detail : LooseText, detail.IsDetailIn body ↔ told = some detail) :
        told = none :=
      Option.eq_none_iff_forall_ne_some.mpr fun detail same =>
        without detail ((details detail).mpr same)
    cases sorts with
    | unreachable reason => cases came
    | verdict success held => cases ended
    | rejected _ _ code =>
        cases came
        omega
    | spoiled fault success _ =>
        cases came
        exact absurd success other
    | failed code details =>
        cases came
        cases ended
        rw [untold details]
        rfl
    | refused code details =>
        cases came
        cases ended
        rw [untold details]
        rfl

theorem Service.isIn_of_verdictOf (came : service.verdictOf reply = .ok verdict) :
    ∃ status body room, reply = .response status body room ∧ (200 ≤ status ∧ status ≤ 299) ∧
      verdict.IsIn body := by
  have failed (fault : Fault) : service.verdictOf reply ≠ .error fault := by
    simp [came]
  cases reply with
  | networkError reason => exact absurd rfl (failed _)
  | unsent fault => exact absurd rfl (failed _)
  | broken message => exact absurd rfl (failed _)
  | response status body room =>
      rcases service.sorts_or_breaks (.inr ⟨status, body, room, rfl⟩) with sorts | ⟨fault, breaks⟩
      · exact (sorts.sorted.verdict verdict).mp came
      · exact absurd (breaks_iff.mp breaks).1 (failed fault)

/-! ## Bodies that are nested too deeply -/

/-- The body of so many opening brackets. -/
def brackets (depth : Nat) : List UInt8 :=
  List.replicate depth 91

theorem decodeFrom_brackets (position steps : Nat) :
    Encoding.utf8.decodeFrom position steps (brackets steps) =
      .ok (List.replicate steps (.char '[')) := by
  induction steps generalizing position with
  | zero => rfl
  | succ steps ih =>
      have front : Encoding.utf8.front 91 (brackets steps) = .ok (.char '[', brackets steps) := rfl
      rw [brackets, List.replicate_succ, ← brackets, Encoding.decodeFrom, front]
      dsimp only
      rw [ih]
      rfl

theorem detect_brackets (depth : Nat) : Encoding.detect (brackets depth) = (.utf8, 0, 0) := by
  match depth with
  | 0 => rfl
  | 1 => rfl
  | 2 => rfl
  | 3 => rfl
  | depth + 4 => rfl

theorem decodeBytes_brackets (depth : Nat) :
    decodeBytes (brackets depth) = .ok (List.replicate depth (.char '[')) := by
  rw [decodeBytes, detect_brackets]
  have length : (brackets depth).length = depth := List.length_replicate
  dsimp only
  rw [List.drop_zero, length]
  exact decodeFrom_brackets 0 depth

/-- The reader gives up where there are more brackets than room. -/
theorem Json.readValue_brackets {room depth fuel : Nat} (deep : room < depth)
    (enough : 2 * room < fuel) :
    Json.readValue room fuel (List.replicate depth (.char '[')) = .error (.tooDeep .array) := by
  induction room generalizing depth fuel with
  | zero =>
      obtain ⟨depth, rfl⟩ := Nat.exists_eq_add_of_lt deep
      obtain ⟨fuel, rfl⟩ := Nat.exists_eq_add_of_lt enough
      rfl
  | succ room ih =>
      obtain ⟨depth, rfl⟩ : ∃ more, depth = more + 2 := ⟨depth - 2, by omega⟩
      obtain ⟨fuel, rfl⟩ : ∃ more, fuel = more + 2 := ⟨fuel - 2, by omega⟩
      -- The first bracket opens an array, whose first item starts with the second one.
      have opens : Json.readValue (room + 1) (fuel + 2) (List.replicate (depth + 2) (.char '[')) =
          Json.readItems room (fuel + 1) [] (List.replicate (depth + 1) (.char '[')) := rfl
      rw [opens, Json.readItems, ih (by omega) (by omega)]

theorem readBody_brackets {room depth : Nat} (deep : room < depth) :
    readBody room (brackets depth) = .error (.tooDeep .array) := by
  have read : Json.read room (List.replicate depth (.char '[')) = .error (.tooDeep .array) := by
    have skipped : Json.skipSpace (List.replicate depth (.char '[')) =
        List.replicate depth (.char '[') := by
      obtain ⟨depth, rfl⟩ : ∃ more, depth = more + 1 := ⟨depth - 1, by omega⟩
      rfl
    rw [Json.read, Json.readText, skipped, List.length_replicate,
      Json.readValue_brackets deep (by omega)]
  rw [readBody, decodeBytes_brackets]
  dsimp only
  rw [read]

/-! ## Calls -/

namespace Service

/-- A request posts code where the endpoint without its trailing slashes analyses code. -/
def Posts (service : Service) (code : String) (request : Request) : Prop :=
  ∃ address slashes url authorization, service.endpoint = address ++ slashes ∧
    (∀ c ∈ slashes.points, c = .char '/') ∧ address.points.getLast? ≠ some (.char '/') ∧
    target (address ++ "/analyze") = .ok url ∧
    request = .analyze (String.ofList url.text) code authorization

theorem endpoint_eq_address (service : Service) :
    ∃ slashes, service.endpoint = service.address ++ slashes ∧
      (∀ c ∈ slashes.points, c = .char '/') ∧
      service.address.points.getLast? ≠ some (.char '/') := by
  let backwards := service.endpoint.points.reverse
  have parts : backwards.takeWhile (· == .char '/') ++ backwards.dropWhile (· == .char '/') =
      backwards := List.takeWhile_append_dropWhile
  refine ⟨⟨(backwards.takeWhile (· == .char '/')).reverse⟩, ?_, ?_, ?_⟩
  · apply LooseText.ext
    rw [address, LooseText.points_append, ← List.reverse_append, parts, List.reverse_reverse]
  · intro c slash
    simpa using List.mem_takeWhile_imp (List.mem_reverse.mp slash)
  · rw [address, List.getLast?_reverse]
    intro last
    have other := List.head?_dropWhile_not (· == .char '/') backwards
    rw [last] at other
    simp at other

theorem posts_analyzeRequest {code : String} {request : Request}
    (sendable : service.analyzeRequest code = .ok request) : service.Posts code request := by
  obtain ⟨slashes, split, trailing, last⟩ := service.endpoint_eq_address
  rw [analyzeRequest] at sendable
  cases found : target service.analyzeUrl with
  | error fault =>
      rw [found] at sendable
      cases sendable
  | ok url =>
      rw [found] at sendable
      dsimp only [bind, Except.bind] at sendable
      split at sendable
      · split at sendable
        · exact ⟨_, slashes, url, _, split, trailing, last, found, (Except.ok.inj sendable).symm⟩
        · cases sendable
      · cases sendable

/-- A call for a verdict sends one request, which posts the code.  Unless the reply breaks the call,
it is sorted. -/
theorem classify_sorts_or_breaks {code : String} {request : Request} (transport : Request → Reply)
    (sendable : service.analyzeRequest code = .ok request)
    (came : (∃ reason, transport request = .networkError reason) ∨
      ∃ status body room, transport request = .response status body room) :
    (service.classify transport code).2 = [request] ∧ service.Posts code request ∧
      (Sorted (transport request) (service.classify transport code).1 ↔
        ∀ fault, ¬service.Breaks (transport request) fault) ∧
      ∀ fault, service.Breaks (transport request) fault →
        (service.classify transport code).1 = .error fault := by
  have called : service.classify transport code =
      (service.verdictOf (transport request), [request]) := by
    rw [classify, sendable]
    rfl
  rw [called]
  dsimp only
  refine ⟨rfl, posts_analyzeRequest sendable, ⟨?_, ?_⟩,
    fun fault breaks => (breaks_iff.mp breaks).1⟩
  · intro sorted fault breaks
    obtain ⟨failed, unexpected⟩ := breaks_iff.mp breaks
    obtain ⟨failure, expected, -⟩ := sorted.expected fault failed
    exact unexpected failure expected
  · intro unbroken
    rcases sorts_or_breaks service came with sorts | ⟨fault, breaks⟩
    · exact sorts.sorted
    · exact absurd breaks (unbroken fault)

def nearby : Service :=
  ⟨"http://localhost:8000/", ""⟩

def nearbyRequest : Request :=
  .analyze "http://localhost:8000/analyze" "f" none

def detailedBody : List UInt8 :=
  Address.utf8 "\x7b\"detail\": \"no\"\x7d".toList

theorem errorDetail_detailedBody :
    errorDetail 1000 detailedBody = .ok (some (.ofString "no")) := by
  have told : (errorDetail 1000 detailedBody).toOption = some (some (.ofString "no")) := by
    decide +kernel
  cases found : errorDetail 1000 detailedBody with
  | ok detail =>
      rw [found] at told
      rw [Option.some.inj told]
  | error fault =>
      rw [found] at told
      cases told

/-- The law at work: a refusal with details is sorted, and an error of the classifier with a body
that is nested more deeply than there is room for breaks the call. -/
theorem classify_sorts_or_breaks_nested :
    (∃ failure, (nearby.classify (fun _ => .response 422 detailedBody 1000) "f").1 =
        .error (.failure failure) ∧ failure.report.code = .classifierBadResponse ∧
        failure.report.message = detailFront 422 ++ LooseText.ofString "no") ∧
      nearby.classify (fun _ => .response 500 (brackets 2000) 1000) "f" =
        (.error (.tooDeep .array), [nearbyRequest]) := by
  have sendable : nearby.analyzeRequest "f" = .ok nearbyRequest := rfl
  have absolute : relativeTarget? nearby.analyzeUrl = none := rfl
  constructor
  · have told : (LooseText.ofString "no").IsDetailIn detailedBody :=
      (isDetailIn_iff errorDetail_detailedBody).mpr rfl
    obtain ⟨-, -, sorts, -⟩ := classify_sorts_or_breaks
      (fun _ => Reply.response 422 detailedBody 1000) sendable
      (.inr ⟨422, detailedBody, 1000, rfl⟩)
    have unbroken (fault : Fault) : ¬nearby.Breaks (.response 422 detailedBody 1000) fault := by
      rintro (_ | _ | ⟨relative, _, _⟩ | ⟨_, _, deep⟩)
      · rw [absolute] at relative
        cases relative
      · rcases errorDetail_cases 1000 detailedBody with ⟨_, _, shallow⟩ | ⟨_, broken, _⟩
        · exact shallow _ deep
        · rw [errorDetail_detailedBody] at broken
          cases broken
    have sorted := sorts.mpr unbroken
    obtain ⟨failure, came, code⟩ := sorted.otherwise.mpr (by
      refine ⟨?_, sorted.rejected.not.mpr ?_, sorted.unavailable.not.mpr ?_⟩
      · intro verdict came
        obtain ⟨_, _, _, same, success, -⟩ := (sorted.verdict verdict).mp came
        cases same
        omega
      · rintro ⟨_, _, _, same, code⟩
        cases same
        omega
      · rintro (⟨_, same⟩ | ⟨_, _, _, same, code⟩)
        · cases same
        · cases same
          omega)
    exact ⟨failure, came, code,
      (sorted.detailed _ _ _ _ _ rfl came).mpr ⟨by omega, by omega, by omega, told⟩⟩
  · obtain ⟨sent, -, -, broken⟩ := classify_sorts_or_breaks
      (fun _ => Reply.response 500 (brackets 2000) 1000) sendable
      (.inr ⟨500, brackets 2000, 1000, rfl⟩)
    refine Prod.ext (broken _ (.tooDeep absolute ?_ ?_)) sent
    · decide
    · exact readBody_brackets (by decide)

end Service

end CodeComplexity
