import CodeComplexity.Proofs.Classifier.Sorting
import CodeComplexity.Proofs.Session.Dialogue
import CodeComplexity.Proofs.Verdict.RoundTrip

/-!
# Verdicts as a session tells them

The verdict that an analysis ends with was in the body of a reply, and the object in the result of
the call is read back as that verdict, with replacement characters in place of surrogates in the
keys of its suggestions.
-/

namespace CodeComplexity

open Check Text

namespace Dialogue

variable {past rest : List DialogueMoment} {moment : DialogueMoment} {last : Dialogue}

/-- A successful response whose body holds a verdict has come. -/
def Replied (past : List DialogueMoment) (verdict : Verdict) : Prop :=
  ∃ moment ∈ past, ∃ code status body room,
    moment.event = .codeReply code (.response status body room) ∧
    (200 ≤ status ∧ status ≤ 299) ∧ verdict.IsIn body

theorem replied_of_returned {code : String} {verdict : Verdict} {replied : Int}
    (returned : trace.Returned past code verdict replied) : Replied past verdict := by
  obtain ⟨_, moment, order, -, ⟨reply, happened, came⟩, -⟩ := returned
  obtain ⟨status, body, room, rfl, success, held⟩ := Service.isIn_of_verdictOf came
  exact ⟨moment, order.subset (by simp), code, status, body, room, happened, success, held⟩

/-- The verdict that an analysis ends with was in the body of a reply. -/
theorem replied_of_analyzed {settings : Settings} {first : Session} {acts : List SessionAct}
    (started : Session.start? settings = some (first, acts))
    (course : Course process ⟨first, []⟩ (past ++ moment :: rest) last) {call : Nat} {uri : Uri}
    {notification : Notification} {verdict : Verdict}
    (told : .finish call (.ok (.analyzed uri notification verdict)) ∈ moment.acts) :
    Replied past verdict := by
  obtain ⟨before, allowed, equal, -⟩ := course.split
  have sourced := ((traced_of_course started before).step moment.event allowed).2
  rw [← equal] at sourced
  obtain ⟨_, _, _, ⟨_, _, returned, -⟩, -⟩ := sourced _ told
  exact replied_of_returned returned

end Dialogue

/-- Whatever value is accepted as a verdict, the verdict is in bounds, and what is written of it is
read back as the verdict with surrogates replaced in the keys of its suggestions, which is the
verdict itself if there are none.  What a session tells as the verdict of an analysis is read back
in that way, too, and the verdict was in the body of a reply. -/
theorem verdict_objects_read_back :
    (∀ value verdict, Verdict.ofJson value = .valid verdict →
      verdict.InBounds ∧ Verdict.ofJson verdict.toJson = .valid verdict.written ∧
        verdict.written.toJson = verdict.toJson ∧
        (verdict.written = verdict ↔ ∀ suggestions, verdict.suggestions = some suggestions →
          ∀ key ∈ suggestions.val.keys, ¬key.HasSurrogate)) ∧
      ∀ settings first acts past moment rest last,
        Session.start? settings = some (first, acts) →
        Course Dialogue.process ⟨first, []⟩ (past ++ moment :: rest) last →
        ∀ call uri notification verdict,
          .finish call (.ok (.analyzed uri notification verdict)) ∈ moment.acts →
          Dialogue.Replied past verdict ∧
            ∃ told, (ToolResult.analyzed uri notification verdict).toJson.get? "verdict" =
              some told ∧
              Verdict.ofJson told = .valid verdict.written := by
  constructor
  · intro value verdict _
    exact ⟨verdict.inBounds, verdict.ofJson_toJson, verdict.toJson_written, Verdict.written_eq_iff⟩
  · intro settings first acts past moment rest last started course call uri notification verdict
      told
    refine ⟨Dialogue.replied_of_analyzed started course told, verdict.toJson, ?_,
      verdict.ofJson_toJson⟩
    simp [ToolResult.toJson, Json.get?, Keyed.get?_cons]

/-- A verdict in another form: some names are long, parts are left out, and numbers are written as
truth values. -/
def looselyWritten : Json :=
  .obj [("extra", .null), ("suggestions", .obj [("b", .str "second"), ("a", .str "first")]),
    ("complexity", .str "complex"), ("confidence", .bool true),
    ("metrics", .obj [("lines_of_code", .float 3), ("cyclomatic", .bool true),
      ("nesting_depth", .int 2)])]

/-- The call whose analysis an act ends with a verdict. -/
def analyzedCall? : SessionAct → Option Nat
  | .finish call (.ok (.analyzed _ _ _)) => some call
  | _ => none

theorem eq_of_analyzedCall? {act : SessionAct} {call : Nat}
    (analyzed : analyzedCall? act = some call) :
    ∃ uri notification verdict, act = .finish call (.ok (.analyzed uri notification verdict)) := by
  unfold analyzedCall? at analyzed
  split at analyzed
  · obtain rfl := Option.some.inj analyzed
    exact ⟨_, _, _, rfl⟩
  · cases analyzed

/-- The law at work: a verdict in another form is read back, and so is the one that an analysis ends
with. -/
theorem verdict_objects_read_back_analysis :
    (∃ verdict, Verdict.ofJson looselyWritten = .valid verdict ∧
      Verdict.ofJson verdict.toJson = .valid verdict) ∧
      ∃ verdict uri notification,
        Dialogue.Replied (Dialogue.process.moments ⟨Session.fresh, []⟩ (countedAnalysis.take 3))
          verdict ∧
          ∃ told, (ToolResult.analyzed uri notification verdict).toJson.get? "verdict" = some told ∧
            Verdict.ofJson told = .valid verdict.written := by
  obtain ⟨values, sessions⟩ := verdict_objects_read_back
  constructor
  · let verdict : Verdict := ⟨.complex, ⟨1, by decide⟩, ⟨3, 1, 2, 0, 0⟩, .zero,
      some (.ofTexts [("b", "second"), ("a", "first")])⟩
    have accepted : Verdict.ofJson looselyWritten = .valid verdict := rfl
    obtain ⟨-, back, -, kept⟩ := values looselyWritten verdict accepted
    refine ⟨verdict, accepted, ?_⟩
    rw [kept.mpr ?_] at back
    · exact back
    · intro suggestions same key listed
      rw [← Option.some.inj same, Suggestions.mem_keys_ofTexts] at listed
      simp only [Keyed.keys, List.map_cons, List.map_nil, List.mem_cons, List.not_mem_nil,
        or_false] at listed
      rcases listed with rfl | rfl <;> exact LooseText.not_hasSurrogate_ofString _
  · let dialogue := Dialogue.process.last ⟨Session.fresh, []⟩ (countedAnalysis.take 3)
    let moment := Dialogue.process.moment dialogue (.handOn "function f(a) \x7b\n\x7d")
    have course : Course Dialogue.process ⟨Session.fresh, []⟩
        (Dialogue.process.moments ⟨Session.fresh, []⟩ (countedAnalysis.take 4))
        (Dialogue.process.last ⟨Session.fresh, []⟩ (countedAnalysis.take 4)) := by
      refine Process.course_of_allows ⟨trivial, trivial, ?_, trivial, trivial⟩
      change _ ∈ Dialogue.unanswered _
      decide +kernel
    have split : Dialogue.process.moments ⟨Session.fresh, []⟩ (countedAnalysis.take 4) =
        Dialogue.process.moments ⟨Session.fresh, []⟩ (countedAnalysis.take 3) ++ [moment] := rfl
    rw [split] at course
    have ends : moment.acts.filterMap analyzedCall? = [1] := by
      decide +kernel
    have among : 1 ∈ moment.acts.filterMap analyzedCall? := by
      rw [ends]
      exact List.mem_singleton_self 1
    obtain ⟨act, listed, analyzed⟩ := List.mem_filterMap.mp among
    obtain ⟨uri, notification, verdict, rfl⟩ := eq_of_analyzedCall? analyzed
    exact ⟨verdict, uri, notification,
      sessions Session.fresh.settings _ [.probe none] _ moment [] _ rfl course 1 uri notification
        verdict listed⟩

end CodeComplexity
