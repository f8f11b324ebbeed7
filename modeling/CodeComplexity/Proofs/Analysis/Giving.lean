import CodeComplexity.Proofs.Analysis.Waiting

/-!
# What a desk gives to its callers

Whatever a caller is given, it is given for one of a few reasons: there is nothing to find, the
selection is blank, what the verdict is wanted on cannot be written, the caller goes away, or the
outcome is known of a request that was made on its behalf.  The desk knows outcomes from its cache
and from replies, and what it notes of a request is what was replied.
-/

namespace CodeComplexity

open Source Text

variable {κ : Type}

namespace Desk

variable {desk : Desk κ} {now : Int} {timeline : Timeline} {event : DeskEvent κ} {caller : κ}
  {finding : Except Fault Finding} {code : String}

/-! ## Reasons to give something -/

/-- An event is about someone who wants the verdict on code with a digest. -/
inductive Concerns (desk : Desk κ) : DeskEvent κ → Waiter κ → Digest → Prop where
  | asks {event : DeskEvent κ} {waiter : Waiter κ} {text : LooseText} {code : String}
      (wants : event.Wants waiter text) (writes : text.encoded = .ok code) :
      Concerns desk event waiter (contentDigest code)
  | wakes {hover : SettlingHover κ} (waits : hover ∈ desk.settling) :
      Concerns desk (.ring hover.alarm) ⟨hover.caller, .hover hover.span⟩
        (contentDigest hover.code)
  | hands (code : String) {request : OpenRequest κ} (listed : request ∈ desk.requests)
      {waiter : Waiter κ} (waits : waiter ∈ request.waiters) :
      Concerns desk (.handOn code) waiter request.key

/-- What the verdict on code with a digest is known to be, from the cache or from a reply. -/
inductive Knows (desk : Desk κ) (now : Int) : Digest → Except Fault Verdict → Prop where
  | read {code : String} {verdict : Verdict}
      (read : (desk.cache.get now code).1 = some verdict) :
      Knows desk now (contentDigest code) (.ok verdict)
  | replied {request : OpenRequest κ} (listed : request ∈ desk.requests)
      {outcome : Except Fault Verdict} (noted : request.outcome = some outcome) :
      Knows desk now request.key outcome

/-- Why a caller is given something. -/
inductive Gives (desk : Desk κ) (now : Int) : DeskEvent κ → κ → Except Fault Finding → Prop where
  | nowhere (caller : κ) {text : LooseText} {position : Position}
      (unfound : locateContaining text position = none) :
      Gives desk now (.analyzeAt caller text position) caller (.ok (.function none))
  | hoveredNowhere (caller : κ) (uri : Uri) {text : LooseText} {position : Position}
      (unfound : locateContaining text position = none) :
      Gives desk now (.hover caller uri text position) caller (.ok (.function none))
  | blank (caller : κ) {text : LooseText} {range : Option TextRange}
      (empty : allBlank (extractText text range).points = true) :
      Gives desk now (.analyzeSelection caller text range) caller
        (.error (.failure .emptySelection))
  | unwritten {event : DeskEvent κ} {waiter : Waiter κ} {text : LooseText} {error : EncodeError}
      (wants : event.Wants waiter text) (fails : text.encoded = .error error) :
      Gives desk now event waiter.caller (.error (.unencodable error))
  | superseded {hover : SettlingHover κ} (waits : hover ∈ desk.settling) :
      Gives desk now (.ring hover.alarm) hover.caller (.ok (.function none))
  | withdrawn {isCaller : κ → Bool} {caller : κ} (concerned : isCaller caller = true) :
      Gives desk now (.withdraw isCaller) caller (.error .cancelled)
  | known {event : DeskEvent κ} {waiter : Waiter κ} {key : Digest}
      {outcome : Except Fault Verdict} (concerns : desk.Concerns event waiter key)
      (knows : desk.Knows now key outcome) :
      Gives desk now event waiter.caller (waiter.purpose.finding outcome)

theorem Knows.of_same {other : Desk κ} {key : Digest} {outcome : Except Fault Verdict}
    (knows : other.Knows now key outcome) (cache : other.cache = desk.cache)
    (requests : other.requests = desk.requests) : desk.Knows now key outcome := by
  cases knows with
  | read read =>
      rw [cache] at read
      exact .read read
  | replied listed noted =>
      rw [requests] at listed
      exact .replied listed noted

theorem knows_of_seek {sought : Waiter κ}
    (given : .give caller finding ∈ (desk.seek now sought code).2) :
    caller = sought.caller ∧ ∃ outcome, desk.Knows now (contentDigest code) outcome ∧
      finding = sought.purpose.finding outcome := by
  rw [seek] at given
  split at given
  · next verdict cache read =>
    obtain ⟨rfl, rfl⟩ := DeskAct.give.inj (List.mem_singleton.mp given)
    exact ⟨rfl, .ok verdict, .read (by rw [read]), rfl⟩
  · split at given
    · cases List.mem_singleton.mp given
    · next sent waiters outcome found =>
      obtain ⟨rfl, rfl⟩ := DeskAct.give.inj (List.mem_singleton.mp given)
      refine ⟨rfl, outcome, ?_, rfl⟩
      rw [← key_of_request? found]
      exact .replied (List.mem_of_find?_eq_some found) rfl
    · cases given

/-- Whoever is given something when a reply is handed on has waited for it. -/
theorem gives_of_handOn (given : .give caller finding ∈ (desk.handOn code).2) :
    desk.Gives now (.handOn code) caller finding := by
  rw [handOn] at given
  split at given
  · next sent waiters outcome found =>
    obtain ⟨waiter, waits, same⟩ := List.mem_map.mp given
    obtain ⟨rfl, rfl⟩ := DeskAct.give.inj same
    have listed := List.mem_of_find?_eq_some found
    exact .known (.hands code listed waits) (.replied listed rfl)
  · cases given
  · cases given

theorem gives_of_withdraw {isCaller : κ → Bool}
    (given : .give caller finding ∈ (desk.withdraw isCaller).2) :
    desk.Gives now (.withdraw isCaller) caller finding := by
  obtain ⟨other, leaves, same⟩ := List.mem_map.mp given
  obtain ⟨rfl, rfl⟩ := DeskAct.give.inj same
  apply Gives.withdrawn
  rcases List.mem_append.mp leaves with waiting | hovering
  · obtain ⟨waiter, listed, rfl⟩ := List.mem_map.mp waiting
    exact (List.mem_filter.mp listed).2
  · obtain ⟨hover, listed, rfl⟩ := List.mem_map.mp hovering
    exact (List.mem_filter.mp listed).2

/-- Whatever is given at an event, there is a reason for it. -/
theorem gives_of_step (given : .give caller finding ∈ (desk.step timeline event).2) :
    desk.Gives timeline.now event caller finding := by
  generalize result : desk.step timeline event = change at given
  have outcome := desk.outcome timeline event
  rw [result] at outcome
  cases outcome with
  | sought wants writes =>
      obtain ⟨rfl, outcome, knows, rfl⟩ := knows_of_seek given
      exact .known (.asks wants writes) knows
  | unwritten wants fails =>
      obtain ⟨rfl, rfl⟩ := DeskAct.give.inj (List.mem_singleton.mp given)
      exact .unwritten wants fails
  | @woken alarm hover due =>
      obtain ⟨rfl, outcome, knows, rfl⟩ := knows_of_seek given
      have waits := List.mem_of_find?_eq_some due
      obtain rfl : hover.alarm = alarm := by simpa using List.find?_some due
      exact .known (.wakes waits) (knows.of_same rfl rfl)
  | @superseded alarm hover due =>
      obtain ⟨rfl, rfl⟩ := DeskAct.give.inj (List.mem_singleton.mp given)
      obtain rfl : hover.alarm = alarm := by simpa using List.find?_some due
      exact .superseded (List.mem_of_find?_eq_some due)
  | nowhere _ unfound =>
      obtain ⟨rfl, rfl⟩ := DeskAct.give.inj (List.mem_singleton.mp given)
      exact .nowhere _ unfound
  | hoveredNowhere _ _ unfound =>
      obtain ⟨rfl, rfl⟩ := DeskAct.give.inj (List.mem_singleton.mp given)
      exact .hoveredNowhere _ _ unfound
  | blank _ empty =>
      obtain ⟨rfl, rfl⟩ := DeskAct.give.inj (List.mem_singleton.mp given)
      exact .blank _ empty
  | withdrawn => exact gives_of_withdraw given
  | handedOn => exact gives_of_handOn given
  | settled => cases given
  | unowned => cases given
  | received => cases given
  | stored => cases given
  | cleared => cases given
  | forgotten => cases given

/-! ## What has been noted -/

/-- Whatever is noted of a request was replied for code with its digest. -/
def NotesReplies (replied : Digest → Except Fault Verdict → Prop) (desk : Desk κ) : Prop :=
  ∀ request ∈ desk.requests, ∀ outcome, request.outcome = some outcome →
    replied request.key outcome

variable {replied later : Digest → Except Fault Verdict → Prop}

theorem NotesReplies.mono (notes : desk.NotesReplies replied)
    (extends_ : ∀ key outcome, replied key outcome → later key outcome) :
    desk.NotesReplies later :=
  fun request listed outcome noted => extends_ _ _ (notes request listed outcome noted)

theorem NotesReplies.seek (notes : desk.NotesReplies replied) (now : Int) (waiter : Waiter κ)
    (code : String) : (desk.seek now waiter code).1.NotesReplies replied := by
  rw [Desk.seek]
  split
  · exact notes
  · split
    · intro request listed outcome noted
      rcases List.mem_append.mp listed with earlier | new
      · exact notes request earlier outcome noted
      · rw [List.mem_singleton.mp new] at noted
        cases noted
    · exact notes
    · intro request listed outcome noted
      obtain ⟨earlier, there, rfl⟩ := List.mem_map.mp listed
      rw [outcome_join] at noted
      rw [key_join]
      exact notes earlier there outcome noted

theorem NotesReplies.receive (notes : desk.NotesReplies replied) (now : Int)
    {outcome : Except Fault Verdict} (replies : replied (contentDigest code) outcome) :
    (desk.receive now code outcome).NotesReplies replied := by
  intro request listed other noted
  obtain ⟨earlier, there, rfl⟩ := List.mem_map.mp listed
  rw [note] at noted ⊢
  split at noted
  · next about =>
    rw [if_pos about]
    change replied earlier.key other
    rw [about, ← Option.some.inj noted]
    exact replies
  · next about =>
    rw [if_neg about]
    exact notes earlier there other noted

theorem NotesReplies.step (notes : desk.NotesReplies replied) (timeline : Timeline)
    (event : DeskEvent κ) (replies : ∀ code outcome, event = .receive code outcome →
      replied (contentDigest code) outcome) :
    (desk.step timeline event).1.NotesReplies replied := by
  generalize result : desk.step timeline event = change
  have outcome := desk.outcome timeline event
  rw [result] at outcome
  cases outcome with
  | sought => exact notes.seek _ _ _
  | @woken alarm =>
      have rested : (desk.rested alarm).NotesReplies replied := notes
      exact rested.seek _ _ _
  | withdrawn =>
      intro request listed outcome noted
      obtain ⟨earlier, there, rfl⟩ := List.mem_map.mp listed
      exact notes earlier there outcome noted
  | received code outcome => exact notes.receive _ (replies code outcome rfl)
  | handedOn code =>
      have fewer : ∀ request ∈ (desk.handOn code).1.requests, request ∈ desk.requests := by
        intro request listed
        rw [handOn] at listed
        split at listed
        · exact (List.mem_filter.mp listed).1
        · exact listed
        · exact listed
      exact fun request listed => notes request (fewer request listed)
  | unwritten => exact notes
  | nowhere => exact notes
  | hoveredNowhere => exact notes
  | blank => exact notes
  | settled => exact notes
  | superseded => exact notes
  | unowned => exact notes
  | stored => exact notes
  | cleared => exact notes
  | forgotten => exact notes

end Desk

end CodeComplexity
