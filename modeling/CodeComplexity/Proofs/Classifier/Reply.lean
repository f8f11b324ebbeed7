import CodeComplexity.Classifier.Reply

/-!
# What replies come to

A reply is a verdict, an expected failure, or it breaks the call that waits for it.  Most replies
that are no verdicts are failures that tell of the classifier; the few others are listed as
`Service.Breaks`.
-/

namespace CodeComplexity

variable {service : Service} {reply : Reply} {fault : Fault} {failure : Failure} {status room : Nat}
  {body : List UInt8} {container : Json.Container}

/-- The codes of calls that are turned down before anyone is asked. -/
def FailureCode.rejections : List FailureCode :=
  [invalidInput, documentNotOpen, emptySelection]

/-- A failure tells of the classifier. -/
def Failure.isOfClassifier : Failure → Bool
  | unreachable _ _ | credentialsRejected _ | serviceError _ _ | requestRefused _ _
  | notAVerdict _ => true
  | documentNotOpen _ | emptySelection | invalidInput _ _ => false

/-- A failure that tells of the classifier is not one of a call that is turned down. -/
theorem Failure.code_of_isOfClassifier (tells : failure.isOfClassifier = true) :
    failure.report.code ∉ FailureCode.rejections := by
  cases failure with
  | documentNotOpen uri => cases tells
  | emptySelection => cases tells
  | invalidInput kind issues => cases tells
  | _ => simp [report, FailureCode.rejections]

/-- A reply breaks the call that waits for it: the request was not sent, something else broke, the
response is to a relative address, or its body is looked at and is nested too deeply. -/
inductive Service.Breaks (service : Service) : Reply → Fault → Prop where
  | unsent (fault : RequestFault) : Breaks service (.unsent fault) (.unsent fault)
  | broken (message : String) : Breaks service (.broken message) (.broken message)
  | relative {url : String} (relative : Service.relativeTarget? service.analyzeUrl = some url)
      (status : Nat) (body : List UInt8) (room : Nat) :
      Breaks service (.response status body room) (.withoutScheme url)
  | tooDeep {status : Nat} {body : List UInt8} {room : Nat} {container : Json.Container}
      (absolute : Service.relativeTarget? service.analyzeUrl = none)
      (looked : StatusClass.ofStatus status ≠ .rejectedCredentials)
      (deep : readBody room body = .error (.tooDeep container)) :
      Breaks service (.response status body room) (.tooDeep container)

/-- Reading a body is not given up for want of room. -/
def Shallow (room : Nat) (body : List UInt8) : Prop :=
  ∀ container, readBody room body ≠ .error (.tooDeep container)

theorem not_shallow_iff :
    ¬Shallow room body ↔ ∃ container, readBody room body = .error (.tooDeep container) := by
  simp [Shallow]

/-- A body that holds no value is an expected failure or nested too deeply. -/
theorem readBody_eq_error (failed : readBody room body = .error fault) :
    (∃ container, fault = .tooDeep container) ∨
      ∃ bodyFault, fault = .failure (.notAVerdict bodyFault) := by
  rw [readBody] at failed
  split at failed
  · exact .inr ⟨_, (Except.error.inj failed).symm⟩
  · split at failed
    · cases failed
    · exact .inr ⟨_, (Except.error.inj failed).symm⟩
    · exact .inr ⟨_, (Except.error.inj failed).symm⟩
    · exact .inl ⟨_, (Except.error.inj failed).symm⟩

theorem readVerdict_eq_error (failed : readVerdict room body = .error fault) :
    (∃ container, fault = .tooDeep container ∧ readBody room body = .error (.tooDeep container)) ∨
      ∃ bodyFault, fault = .failure (.notAVerdict bodyFault) := by
  rw [readVerdict] at failed
  split at failed
  · next found =>
    obtain rfl := Except.error.inj failed
    rcases readBody_eq_error found with ⟨container, rfl⟩ | expected
    · exact .inl ⟨container, rfl, found⟩
    · exact .inr expected
  · split at failed
    · exact .inr ⟨_, (Except.error.inj failed).symm⟩
    · cases failed

/-- The details of an error reply are to be had, unless its body is nested too deeply. -/
theorem errorDetail_cases (room : Nat) (body : List UInt8) :
    (∃ detail, errorDetail room body = .ok detail ∧ Shallow room body) ∨
      ∃ container, errorDetail room body = .error (.tooDeep container) ∧
        readBody room body = .error (.tooDeep container) := by
  rw [errorDetail]
  split
  · next failure found => exact .inl ⟨_, rfl, by simp [Shallow, found]⟩
  · next fault unexpected found =>
    rcases readBody_eq_error found with ⟨container, rfl⟩ | ⟨bodyFault, rfl⟩
    · exact .inr ⟨container, rfl, found⟩
    · exact absurd rfl (unexpected _)
  · next value found =>
    left
    split
    · exact ⟨_, rfl, by simp [Shallow, found]⟩
    · exact ⟨_, rfl, by simp [Shallow, found]⟩

/-- A response that is no verdict is an expected failure, or its body is nested too deeply. -/
theorem verdictOfResponse_eq_error (failed : verdictOfResponse status body room = .error fault) :
    (∃ container, fault = .tooDeep container ∧ StatusClass.ofStatus status ≠ .rejectedCredentials ∧
      readBody room body = .error (.tooDeep container)) ∨
    ∃ failure, fault = .failure failure ∧ failure.isOfClassifier = true := by
  have withDetail (made : Option Text.LooseText → Failure)
      (tells : ∀ detail, (made detail).isOfClassifier = true)
      (failed : (do let detail ← errorDetail room body; .error (.failure (made detail)) :
        Except Fault Verdict) = .error fault) :
      (∃ container, fault = .tooDeep container ∧ readBody room body = .error (.tooDeep container)) ∨
        ∃ failure, fault = .failure failure ∧ failure.isOfClassifier = true := by
    rcases errorDetail_cases room body with ⟨detail, found, -⟩ | ⟨container, found, deep⟩
    · rw [found] at failed
      exact .inr ⟨_, (Except.error.inj failed).symm, tells detail⟩
    · rw [found] at failed
      exact .inl ⟨container, (Except.error.inj failed).symm, deep⟩
  rw [verdictOfResponse] at failed
  split at failed
  · exact .inr ⟨_, (Except.error.inj failed).symm, rfl⟩
  · next looked =>
    rcases withDetail (.serviceError status) (fun _ => rfl) failed with
      ⟨container, rfl, deep⟩ | expected
    · exact .inl ⟨container, rfl, by rw [looked]; decide, deep⟩
    · exact .inr expected
  · next looked =>
    rcases withDetail (.requestRefused status) (fun _ => rfl) failed with
      ⟨container, rfl, deep⟩ | expected
    · exact .inl ⟨container, rfl, by rw [looked]; decide, deep⟩
    · exact .inr expected
  · next looked =>
    rcases readVerdict_eq_error failed with ⟨container, rfl, deep⟩ | ⟨bodyFault, rfl⟩
    · exact .inl ⟨container, rfl, by rw [looked]; decide, deep⟩
    · exact .inr ⟨_, rfl, rfl⟩

theorem verdictOfResponse_of_deep (looked : StatusClass.ofStatus status ≠ .rejectedCredentials)
    (deep : readBody room body = .error (.tooDeep container)) :
    verdictOfResponse status body room = .error (.tooDeep container) := by
  have detail : errorDetail room body = .error (.tooDeep container) := by
    rw [errorDetail, deep]
  rw [verdictOfResponse]
  split
  · next rejected => exact absurd rejected looked
  · rw [detail]
    rfl
  · rw [detail]
    rfl
  · rw [readVerdict, deep]

namespace Service

/-- A reply that is no verdict breaks the call, or is an expected failure that tells of the
classifier. -/
theorem breaks_or_expected (failed : service.verdictOf reply = .error fault) :
    service.Breaks reply fault ∨
      ∃ failure, fault = .failure failure ∧ failure.isOfClassifier = true := by
  cases reply with
  | networkError reason => exact .inr ⟨_, (Except.error.inj failed).symm, rfl⟩
  | unsent requestFault =>
      rw [← Except.error.inj failed]
      exact .inl (.unsent requestFault)
  | broken message =>
      rw [← Except.error.inj failed]
      exact .inl (.broken message)
  | response status body room =>
      rw [verdictOf.eq_def] at failed
      dsimp only at failed
      split at failed
      · next relative =>
        rw [← Except.error.inj failed]
        exact .inl (.relative relative status body room)
      · next absolute =>
        rcases verdictOfResponse_eq_error failed with
          ⟨container, rfl, looked, deep⟩ | expected
        · exact .inl (.tooDeep absolute looked deep)
        · exact .inr expected

theorem Breaks.unexpected (breaks : service.Breaks reply fault) :
    fault ≠ .failure failure := by
  cases breaks with
  | unsent => simp
  | broken => simp
  | relative => simp
  | tooDeep => simp

/-- What breaks a call is what a reply comes to that is neither a verdict nor an expected
failure. -/
theorem breaks_iff :
    service.Breaks reply fault ↔
      service.verdictOf reply = .error fault ∧ ∀ failure, fault ≠ .failure failure := by
  constructor
  · intro breaks
    refine ⟨?_, fun failure => breaks.unexpected⟩
    cases breaks with
    | unsent requestFault => rfl
    | broken message => rfl
    | relative relative status body room =>
        rw [verdictOf.eq_def]
        dsimp only
        rw [relative]
    | tooDeep absolute looked deep =>
        rw [verdictOf.eq_def]
        dsimp only
        rw [absolute]
        exact verdictOfResponse_of_deep looked deep
  · rintro ⟨failed, unexpected⟩
    rcases breaks_or_expected failed with breaks | ⟨failure, expected, -⟩
    · exact breaks
    · exact absurd expected (unexpected failure)

theorem code_of_verdictOf (failed : service.verdictOf reply = .error (.failure failure)) :
    failure.report.code ∉ FailureCode.rejections := by
  rcases breaks_or_expected failed with breaks | ⟨other, same, tells⟩
  · exact absurd rfl breaks.unexpected
  · rw [Fault.failure.inj same]
    exact Failure.code_of_isOfClassifier tells

end Service

end CodeComplexity
