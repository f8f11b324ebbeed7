import CodeComplexity.Proofs.Analysis.Settling
import CodeComplexity.Proofs.Analysis.Waiting

/-!
# Hovers at a desk

A hover over a function that can be written is given its verdict at once, or waits: first for the
cursor to rest, then for the reply to a request.  Whatever happens, it waits on until it is given
something.  It leaves the cache alone, unless it finds its verdict there.
-/

namespace CodeComplexity

open Source Text

variable {κ : Type}

namespace Desk

variable {desk after : Desk κ} {timeline : Timeline} {event : DeskEvent κ} {caller : κ}
  {code sent : String} {span : FunctionSpan} {hover : SettlingHover κ} {tickets : Nat}
  {outcome : Except Fault Verdict}

/-! ## Waiting -/

/-- A hover waits for the cursor to rest. -/
def Settles (desk : Desk κ) (caller : κ) (span : FunctionSpan) (code : String) : Prop :=
  ∃ hover ∈ desk.settling, hover.caller = caller ∧ hover.span = span ∧ hover.code = code

/-- A hover waits for a reply. -/
def AwaitsReply (desk : Desk κ) (caller : κ) (span : FunctionSpan) (code : String) : Prop :=
  ∃ request, desk.request? code = some request ∧ ⟨caller, .hover span⟩ ∈ request.waiters

/-- A hover waits for a reply that has come and is still to be handed on. -/
def AwaitsOutcome (desk : Desk κ) (caller : κ) (span : FunctionSpan) (code : String)
    (outcome : Except Fault Verdict) : Prop :=
  ∃ request, desk.request? code = some request ∧ ⟨caller, .hover span⟩ ∈ request.waiters ∧
    request.outcome = some outcome

/-- A hover waits for the cursor to rest or for a reply. -/
def Waits (desk : Desk κ) (caller : κ) (span : FunctionSpan) (code : String) : Prop :=
  desk.Settles caller span code ∨ desk.AwaitsReply caller span code

theorem Waits.of_same (waits : desk.Waits caller span code)
    (requests : after.requests = desk.requests) (settling : after.settling = desk.settling) :
    after.Waits caller span code := by
  rcases waits with ⟨hover, listed, same⟩ | ⟨request, found, listed⟩
  · rw [← settling] at listed
    exact .inl ⟨hover, listed, same⟩
  · rw [request?, ← requests, ← request?] at found
    exact .inr ⟨request, found, listed⟩

/-- Someone is given something by an event. -/
def Serves (change : Desk κ × List (DeskAct κ)) (caller : κ) : Prop :=
  ∃ finding, .give caller finding ∈ change.2

/-! ## Beginning to wait -/

/-- Whoever seeks a verdict is given it, or waits for the reply to a request. -/
theorem serves_or_awaits_of_seek (desk : Desk κ) (timeline : Timeline) (caller : κ)
    (span : FunctionSpan) (code : String) :
    Serves (desk.seek timeline.now ⟨caller, .hover span⟩ code) caller ∨
      (desk.seek timeline.now ⟨caller, .hover span⟩ code).1.AwaitsReply caller span code := by
  cases read : (desk.cache.get timeline.now code).1 with
  | some verdict =>
      left
      refine ⟨.ok (.function (some ⟨span, verdict⟩)), ?_⟩
      rw [seek_of_read read]
      exact List.mem_singleton_self _
  | none =>
      cases found : desk.request? code with
      | none => exact .inr ⟨_, (seek_of_free read found _).2, List.mem_singleton_self _⟩
      | some request =>
          cases noted : request.outcome with
          | none => exact .inr (seek_of_open read found noted _)
          | some outcome =>
              left
              refine ⟨(Purpose.hover span).finding outcome, ?_⟩
              rw [seek_of_noted (by simp [read]) found noted]
              exact List.mem_singleton_self _

theorem serves_or_waits_of_hover (desk : Desk κ) (timeline : Timeline) (caller : κ) (uri : Uri)
    {text : LooseText} {position : Position} (found : locateContaining text position = some span)
    (writes : span.text.encoded = .ok code) :
    Serves (desk.hover timeline caller uri text position) caller ∨
      (desk.hover timeline caller uri text position).1.Waits caller span code := by
  by_cases waits : (desk.cache.get timeline.now code).1 = none ∧ 0 < desk.hoverDelay
  · rw [hover_eq_settle found writes waits.1 waits.2]
    exact .inr (.inl ⟨_, List.mem_append_right _ (List.mem_singleton_self _), rfl, rfl, rfl⟩)
  · rw [hover_eq_seek found writes (not_and_or.mp waits)]
    exact (desk.serves_or_awaits_of_seek timeline caller span code).imp_right .inr

/-- When its alarm rings, a hover is given something or waits for a reply. -/
theorem Ticketed.serves_or_awaits_of_ring (ticketed : desk.Ticketed tickets) (timeline : Timeline)
    (waits : hover ∈ desk.settling) :
    Serves (desk.ring timeline.now hover.alarm) hover.caller ∨
      (desk.ring timeline.now hover.alarm).1.AwaitsReply hover.caller hover.span hover.code := by
  rw [ring, ticketed.find?_alarm waits]
  dsimp only
  split
  · exact serves_or_awaits_of_seek _ _ _ _ _
  · exact .inl ⟨_, List.mem_singleton_self _⟩

/-! ## Waiting on -/

/-- A hover waits for the cursor to rest until its alarm rings or its caller goes away. -/
theorem mem_settling_step (waits : hover ∈ desk.settling)
    (unrung : event ≠ .ring hover.alarm)
    (stays : ∀ isCaller, event = .withdraw isCaller → isCaller hover.caller = false) :
    hover ∈ (desk.step timeline event).1.settling := by
  generalize result : desk.step timeline event = change
  have outcome := desk.outcome timeline event
  rw [result] at outcome
  have rested {alarm : Alarm} (other : (.ring alarm : DeskEvent κ) ≠ .ring hover.alarm) :
      hover ∈ (desk.rested alarm).settling := by
    refine List.mem_filter.mpr ⟨waits, decide_eq_true ?_⟩
    rintro rfl
    exact other rfl
  cases outcome with
  | sought =>
      rw [(desk.seek_still _ _ _).1]
      exact waits
  | settled => exact List.mem_append_left _ waits
  | @woken alarm =>
      rw [((desk.rested alarm).seek_still _ _ _).1]
      exact rested unrung
  | superseded => exact rested unrung
  | withdrawn isCaller =>
      exact List.mem_filter.mpr ⟨waits, by rw [stays isCaller rfl]; rfl⟩
  | handedOn =>
      rw [handOn]
      split
      · exact waits
      · exact waits
      · exact waits
  | unwritten => exact waits
  | nowhere => exact waits
  | hoveredNowhere => exact waits
  | blank => exact waits
  | unowned => exact waits
  | received => exact waits
  | stored => exact waits
  | cleared => exact waits
  | forgotten => exact waits

theorem Settles.step (settles : desk.Settles caller span code) (ticketed : desk.Ticketed tickets)
    (timeline : Timeline) (event : DeskEvent κ) :
    Serves (desk.step timeline event) caller ∨
      (desk.step timeline event).1.Waits caller span code := by
  obtain ⟨hover, waits, rfl, rfl, rfl⟩ := settles
  by_cases rung : event = .ring hover.alarm
  · rw [rung]
    exact (ticketed.serves_or_awaits_of_ring timeline waits).imp_right .inr
  · by_cases gone : ∃ isCaller, event = .withdraw isCaller ∧ isCaller hover.caller = true
    · obtain ⟨isCaller, rfl, concerned⟩ := gone
      refine .inl ⟨.error .cancelled, List.mem_map.mpr ⟨hover.caller, ?_, rfl⟩⟩
      exact List.mem_append_right _
        (List.mem_map_of_mem (List.mem_filter.mpr ⟨waits, concerned⟩))
    · refine .inr (.inl ⟨hover, mem_settling_step waits rung ?_, rfl, rfl, rfl⟩)
      intro isCaller withdrawn
      exact Bool.eq_false_iff.mpr fun concerned => gone ⟨isCaller, withdrawn, concerned⟩

theorem AwaitsReply.receive (awaits : desk.AwaitsReply caller span code) (now : Int)
    (about : contentDigest sent = contentDigest code) (outcome : Except Fault Verdict) :
    (desk.receive now sent outcome).AwaitsOutcome caller span code outcome := by
  obtain ⟨request, found, waits⟩ := awaits
  refine ⟨_, request?_receive found now sent outcome, ?_⟩
  rw [note, if_pos ((key_of_request? found).trans about.symm)]
  exact ⟨waits, rfl⟩

theorem AwaitsOutcome.handOn (awaits : desk.AwaitsOutcome caller span code outcome)
    (about : contentDigest sent = contentDigest code) :
    .give caller ((Purpose.hover span).finding outcome) ∈ (desk.handOn sent).2 := by
  obtain ⟨request, found, waits, noted⟩ := awaits
  have sameRequest : desk.request? sent = some request := by
    rw [request?, about, ← request?]
    exact found
  rw [(handOn_of_noted sameRequest noted).1]
  exact List.mem_map.mpr ⟨_, waits, rfl⟩

theorem AwaitsReply.step (awaits : desk.AwaitsReply caller span code) (timeline : Timeline)
    (event : DeskEvent κ) :
    Serves (desk.step timeline event) caller ∨
      (desk.step timeline event).1.AwaitsReply caller span code := by
  obtain ⟨request, found, waits⟩ := awaits
  by_cases handed : ∃ sent outcome, event = .handOn sent ∧
      contentDigest sent = contentDigest code ∧ request.outcome = some outcome
  · obtain ⟨sent, outcome, rfl, about, noted⟩ := handed
    exact .inl ⟨_, AwaitsOutcome.handOn ⟨request, found, waits, noted⟩ about⟩
  · by_cases gone : ∃ isCaller, event = .withdraw isCaller ∧ isCaller caller = true
    · obtain ⟨isCaller, rfl, concerned⟩ := gone
      refine .inl ⟨.error .cancelled, List.mem_map.mpr ⟨caller, List.mem_append_left _ ?_, rfl⟩⟩
      refine List.mem_map.mpr ⟨⟨caller, .hover span⟩, List.mem_filter.mpr ⟨?_, concerned⟩, rfl⟩
      exact List.mem_flatMap.mpr ⟨request, List.mem_of_find?_eq_some found, waits⟩
    · obtain ⟨later, there, continues⟩ := request?_step found timeline event (by
        rintro sent rfl about
        exact Option.eq_none_iff_forall_ne_some.mpr fun outcome noted =>
          handed ⟨sent, outcome, rfl, about, noted⟩)
      refine .inr ⟨later, there, continues.waiters _ waits ?_⟩
      intro isCaller withdrawn
      exact Bool.eq_false_iff.mpr fun concerned => gone ⟨isCaller, withdrawn, concerned⟩

theorem Waits.step (waits : desk.Waits caller span code) (ticketed : desk.Ticketed tickets)
    (timeline : Timeline) (event : DeskEvent κ) :
    Serves (desk.step timeline event) caller ∨
      (desk.step timeline event).1.Waits caller span code := by
  rcases waits with settles | awaits
  · exact settles.step ticketed timeline event
  · exact (awaits.step timeline event).imp_right .inr

/-! ## What a hover does to the cache -/

/-- Whoever seeks a verdict leaves the cache alone, unless it is given a verdict from there. -/
theorem cache_seek_or_given (desk : Desk κ) (timeline : Timeline) (waiter : Waiter κ)
    (code : String) :
    (desk.seek timeline.now waiter code).1.cache = desk.cache ∨
      ∃ verdict, .give waiter.caller (waiter.purpose.finding (.ok verdict)) ∈
        (desk.seek timeline.now waiter code).2 := by
  cases read : (desk.cache.get timeline.now code).1 with
  | some verdict =>
      right
      refine ⟨verdict, ?_⟩
      rw [seek_of_read read]
      exact List.mem_singleton_self _
  | none =>
      left
      rw [seek, Cache.get_of_eq_none read]
      dsimp only
      split
      · rfl
      · rfl
      · rfl

/-- A hover leaves the cache alone when it comes and when its alarm rings, unless it is given a
verdict. -/
theorem cache_hover_or_given (desk : Desk κ) (timeline : Timeline) (caller : κ) (uri : Uri)
    (text : LooseText) (position : Position) :
    (desk.hover timeline caller uri text position).1.cache = desk.cache ∨
      ∃ judged, .give caller (.ok (.function (some judged))) ∈
        (desk.hover timeline caller uri text position).2 := by
  cases found : locateContaining text position with
  | none =>
      rw [hover, found]
      exact .inl rfl
  | some span =>
      cases writes : span.text.encoded with
      | error error =>
          rw [hover_eq_give found writes]
          exact .inl rfl
      | ok code =>
          by_cases waits : (desk.cache.get timeline.now code).1 = none ∧ 0 < desk.hoverDelay
          · rw [hover_eq_settle found writes waits.1 waits.2]
            exact .inl rfl
          · rw [hover_eq_seek found writes (not_and_or.mp waits)]
            rcases desk.cache_seek_or_given timeline ⟨caller, .hover span⟩ code with
              same | ⟨verdict, given⟩
            · exact .inl same
            · exact .inr ⟨⟨span, verdict⟩, given⟩

theorem cache_ring_or_given (ticketed : desk.Ticketed tickets) (waits : hover ∈ desk.settling)
    (timeline : Timeline) :
    (desk.ring timeline.now hover.alarm).1.cache = desk.cache ∨
      ∃ judged, .give hover.caller (.ok (.function (some judged))) ∈
        (desk.ring timeline.now hover.alarm).2 := by
  rw [ring, ticketed.find?_alarm waits]
  dsimp only
  split
  · rcases (desk.rested hover.alarm).cache_seek_or_given timeline
      ⟨hover.caller, .hover hover.span⟩ hover.code with same | ⟨verdict, given⟩
    · exact .inl same
    · exact .inr ⟨⟨hover.span, verdict⟩, given⟩
  · exact .inl rfl

end Desk

end CodeComplexity
