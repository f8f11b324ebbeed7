import CodeComplexity.Proofs.Analysis.Coalescing
import CodeComplexity.Proofs.Analysis.Outcome
import CodeComplexity.Proofs.Verdict.Recency

/-!
# Waiting for a reply

A request is awaited from when it is sent until its reply comes; then the reply is noted until it is
handed on.  In between the request stays open, and those who wait go on to wait unless they go away.
Nothing is stored about its digest but its own reply, and what is not stored cannot be read.
-/

namespace CodeComplexity

open Source Text

variable {κ : Type}

/-! ## The open request about a piece of code -/

/-- What becomes of an open request by an event that does not close it: only a reply gives it an
outcome, and only callers who go away cease to wait. -/
structure OpenRequest.Continues (request later : OpenRequest κ) (event : DeskEvent κ) : Prop where
  code : later.code = request.code
  outcome : (∀ code outcome, event = .receive code outcome → contentDigest code ≠ request.key) →
    later.outcome = request.outcome
  waiters : ∀ waiter ∈ request.waiters,
    (∀ isCaller, event = .withdraw isCaller → isCaller waiter.caller = false) →
    waiter ∈ later.waiters

theorem OpenRequest.Continues.refl (request : OpenRequest κ) (event : DeskEvent κ) :
    request.Continues request event :=
  ⟨rfl, fun _ => rfl, fun _ waits _ => waits⟩

namespace Desk

variable {desk : Desk κ} {timeline : Timeline} {code : String} {request : OpenRequest κ}
  {waiter : Waiter κ}

theorem key_of_request? (found : desk.request? code = some request) :
    request.key = contentDigest code := by
  simpa using List.find?_some found

/-- Changing requests without their digests changes the one about a piece of code alike. -/
theorem find?_map_request (change : OpenRequest κ → OpenRequest κ)
    (key : ∀ request, (change request).key = request.key) (requests : List (OpenRequest κ))
    (code : String) :
    (requests.map change).find? (fun request => request.key = contentDigest code) =
      (requests.find? fun request => request.key = contentDigest code).map change := by
  rw [List.find?_map]
  simp only [Function.comp_def, key]

/-- Whoever seeks a verdict leaves an open request what it is, and may wait for it. -/
theorem request?_seek (found : desk.request? code = some request) (now : Int) (waiter : Waiter κ)
    (sought : String) (event : DeskEvent κ) :
    ∃ later, (desk.seek now waiter sought).1.request? code = some later ∧
      request.Continues later event := by
  rw [seek]
  split
  · exact ⟨request, found, .refl request event⟩
  · split
    · refine ⟨request, ?_, .refl request event⟩
      rw [request?] at found ⊢
      rw [List.find?_append, found, Option.some_or]
    · exact ⟨request, found, .refl request event⟩
    · refine ⟨join waiter sought request, ?_, ?_⟩
      · rw [request?] at found ⊢
        rw [find?_map_request _ (key_join waiter sought), found, Option.map_some]
      · rw [join]
        split
        · exact ⟨rfl, fun _ => rfl, fun _ waits _ => List.mem_append_left _ waits⟩
        · exact .refl request event

theorem request?_withdraw (found : desk.request? code = some request) (isCaller : κ → Bool) :
    ∃ later, (desk.withdraw isCaller).1.request? code = some later ∧
      request.Continues later (.withdraw isCaller) := by
  let left (request : OpenRequest κ) : OpenRequest κ :=
    { request with waiters := request.waiters.filter fun waiter => !isCaller waiter.caller }
  refine ⟨left request, ?_, rfl, fun _ => rfl, ?_⟩
  · rw [request?] at found ⊢
    exact (find?_map_request left (fun _ => rfl) _ _).trans
      (by rw [found, Option.map_some])
  · intro waiter waits stays
    exact List.mem_filter.mpr ⟨waits, by rw [stays isCaller rfl]; rfl⟩

theorem request?_receive (found : desk.request? code = some request) (now : Int) (other : String)
    (outcome : Except Fault Verdict) :
    (desk.receive now other outcome).request? code = some (note outcome other request) := by
  rw [request?] at found ⊢
  exact (find?_map_request _ (key_note outcome other) _ _).trans (by rw [found, Option.map_some])

theorem continues_note (request : OpenRequest κ) (other : String)
    (outcome : Except Fault Verdict) :
    request.Continues (note outcome other request) (.receive other outcome) := by
  rw [note]
  split
  · next about =>
    refine ⟨rfl, ?_, fun _ waits _ => waits⟩
    intro unreplied
    exact absurd about.symm (unreplied other outcome rfl)
  · exact .refl request _

theorem request?_handOn (found : desk.request? code = some request) {other : String}
    (unhanded : contentDigest other = contentDigest code → request.outcome = none) :
    (desk.handOn other).1.request? code = some request := by
  rw [handOn]
  split
  · next waiters outcome noted =>
    have different : contentDigest other ≠ contentDigest code := by
      intro same
      have unnoted := unhanded same
      rw [request?, same, ← request?, found] at noted
      rw [Option.some.inj noted] at unnoted
      cases unnoted
    -- What is taken out has another digest, so that the same request is found.
    have agree : (fun request : OpenRequest κ =>
        decide (decide (request.key ≠ contentDigest other) = true ∧
          decide (request.key = contentDigest code) = true)) =
        fun request => decide (request.key = contentDigest code) := by
      funext request
      by_cases about : request.key = contentDigest code <;> simp [about, Ne.symm different]
    rw [request?] at found ⊢
    rw [List.find?_filter, agree]
    exact found
  · exact found
  · exact found

theorem request?_step (found : desk.request? code = some request) (timeline : Timeline)
    (event : DeskEvent κ)
    (unhanded : ∀ other, event = .handOn other → contentDigest other = contentDigest code →
      request.outcome = none) :
    ∃ later, (desk.step timeline event).1.request? code = some later ∧
      request.Continues later event := by
  generalize result : desk.step timeline event = change
  have outcome := desk.outcome timeline event
  rw [result] at outcome
  cases outcome with
  | sought => exact request?_seek found _ _ _ _
  | @woken alarm =>
      have rested : (desk.rested alarm).request? code = some request := found
      exact request?_seek rested _ _ _ _
  | withdrawn isCaller => exact request?_withdraw found isCaller
  | received other outcome =>
      exact ⟨_, request?_receive found _ _ _, continues_note _ _ _⟩
  | handedOn other => exact ⟨request, request?_handOn found (unhanded other rfl), .refl _ _⟩
  | unwritten => exact ⟨request, found, .refl _ _⟩
  | nowhere => exact ⟨request, found, .refl _ _⟩
  | hoveredNowhere => exact ⟨request, found, .refl _ _⟩
  | blank => exact ⟨request, found, .refl _ _⟩
  | settled => exact ⟨request, found, .refl _ _⟩
  | superseded => exact ⟨request, found, .refl _ _⟩
  | unowned => exact ⟨request, found, .refl _ _⟩
  | stored => exact ⟨request, found, .refl _ _⟩
  | cleared => exact ⟨request, found, .refl _ _⟩
  | forgotten => exact ⟨request, found, .refl _ _⟩

/-! ## Whoever seeks a verdict -/

theorem seek_of_read {verdict : Verdict}
    (read : (desk.cache.get timeline.now code).1 = some verdict)
    (waiter : Waiter κ) :
    (desk.seek timeline.now waiter code).2 =
      [.give waiter.caller (waiter.purpose.finding (.ok verdict))] := by
  rw [seek]
  split
  · next cache hit =>
    rw [hit] at read
    rw [Option.some.inj read]
  · next cache miss =>
    rw [miss] at read
    cases read

/-- Without a verdict to read and without a request one is sent, and whoever seeks the verdict waits
for its reply. -/
theorem seek_of_free (missed : (desk.cache.get timeline.now code).1 = none)
    (free : desk.request? code = none) (waiter : Waiter κ) :
    (desk.seek timeline.now waiter code).2 = [.ask code] ∧
      (desk.seek timeline.now waiter code).1.request? code = some ⟨code, [waiter], none⟩ := by
  rw [seek, Cache.get_of_eq_none missed]
  simp only [free]
  refine ⟨trivial, ?_⟩
  rw [request?] at free ⊢
  rw [List.find?_append, free]
  simp [OpenRequest.key]

theorem seek_of_open (missed : (desk.cache.get timeline.now code).1 = none)
    (found : desk.request? code = some request) (unreplied : request.outcome = none)
    (waiter : Waiter κ) :
    ∃ later, (desk.seek timeline.now waiter code).1.request? code = some later ∧
      waiter ∈ later.waiters := by
  obtain ⟨sent, waiters, outcome⟩ := request
  obtain rfl : outcome = none := unreplied
  have key : (OpenRequest.mk sent waiters none).key = contentDigest code := key_of_request? found
  rw [seek, Cache.get_of_eq_none missed]
  simp only [found]
  refine ⟨_, (find?_map_request _ (key_join waiter code) _ _).trans (congrArg _ found), ?_⟩
  rw [join, if_pos key]
  exact List.mem_append_right _ (List.mem_singleton_self _)

/-- What the outcome of a request is, whoever seeks a verdict gets it at once, if the cache holds
nothing else. -/
theorem seek_of_noted {outcome : Except Fault Verdict}
    (read : ∀ verdict, (desk.cache.get timeline.now code).1 = some verdict → outcome = .ok verdict)
    (found : desk.request? code = some request) (noted : request.outcome = some outcome)
    (waiter : Waiter κ) :
    (desk.seek timeline.now waiter code).2 =
      [.give waiter.caller (waiter.purpose.finding outcome)] := by
  obtain ⟨sent, waiters, _⟩ := request
  obtain rfl := noted
  rw [seek]
  split
  · next verdict cache hit =>
    rw [read verdict (by rw [hit])]
  · simp only [found]

/-- Code is asked about only by someone who seeks its verdict in vain. -/
theorem seek_of_asks {sought : String}
    (asks : code ∈ codesAsked (desk.seek timeline.now waiter sought).2) :
    sought = code ∧
      (desk.seek timeline.now waiter sought).1.request? code = some ⟨code, [waiter], none⟩ := by
  have sent : sought = code ∧ (desk.cache.get timeline.now sought).1 = none ∧
      desk.request? sought = none := by
    rw [seek] at asks
    split at asks
    · cases asks
    · next cache read =>
      split at asks
      · next free => exact ⟨(List.mem_singleton.mp asks).symm, by rw [read], free⟩
      · cases asks
      · cases asks
  obtain ⟨rfl, missed, free⟩ := sent
  exact ⟨rfl, (seek_of_free missed free waiter).2⟩

/-- A request that an event sends has one caller who waits. -/
theorem request?_of_asks {event : DeskEvent κ}
    (asks : code ∈ codesAsked (desk.step timeline event).2) :
    ∃ waiter, (desk.step timeline event).1.request? code = some ⟨code, [waiter], none⟩ := by
  generalize result : desk.step timeline event = change at asks ⊢
  have outcome := desk.outcome timeline event
  rw [result] at outcome
  cases outcome with
  | sought => exact ⟨_, (seek_of_asks asks).2⟩
  | woken => exact ⟨_, (seek_of_asks asks).2⟩
  | withdrawn =>
      rw [withdraw, codesAsked_map_give] at asks
      cases asks
  | handedOn =>
      rw [codesAsked_handOn] at asks
      cases asks
  | unwritten => cases asks
  | nowhere => cases asks
  | hoveredNowhere => cases asks
  | blank => cases asks
  | settled => cases asks
  | superseded => cases asks
  | unowned => cases asks
  | received => cases asks
  | stored => cases asks
  | cleared => cases asks
  | forgotten => cases asks

/-- What is handed on goes to all who wait, and the desk knows nothing of the request any more. -/
theorem handOn_of_noted {outcome : Except Fault Verdict}
    (found : desk.request? code = some request) (noted : request.outcome = some outcome) :
    (desk.handOn code).2 = (request.waiters.map fun waiter =>
        .give waiter.caller (waiter.purpose.finding outcome)) ∧
      contentDigest code ∉ (desk.handOn code).1.requested := by
  obtain ⟨sent, waiters, _⟩ := request
  obtain rfl := noted
  rw [handOn]
  simp only [found]
  refine ⟨trivial, ?_⟩
  rw [← request?_eq_none_iff, request?, List.find?_eq_none]
  intro other listed
  simpa using (List.mem_filter.mp listed).2

end Desk

/-- What could not be read from a cache before cannot be read later, unless it is stored
meanwhile. -/
theorem Cache.read_before {before after : Cache} {now later : Int} {code : String}
    {verdict : Verdict} (timeToLive : after.timeToLive = before.timeToLive) (passed : now ≤ later)
    (kept : after.find? (contentDigest code) = before.find? (contentDigest code) ∨
      after.find? (contentDigest code) = none)
    (read : (after.get later code).1 = some verdict) : (before.get now code).1 = some verdict := by
  rw [get_eq_some_iff] at read ⊢
  obtain ⟨entry, there, fresh, reached⟩ := read
  refine ⟨entry, ?_, ?_, reached⟩
  · rcases kept with same | gone
    · rw [← same]
      exact there
    · rw [gone] at there
      cases there
  · simp only [isFresh, decide_eq_true_eq] at fresh ⊢
    omega

namespace Office

variable {office last : Office κ} {moments : List (OfficeMoment κ)} {code : String}
  {outcome : Except Fault Verdict} {caller : κ} {event : OfficeEvent κ}

/-- A caller who analyses a piece of code waits for the reply to its request. -/
def Waits (office : Office κ) (code : String) (caller : κ) : Prop :=
  ∃ request, office.desk.request? code = some request ∧ ⟨caller, .verdict⟩ ∈ request.waiters

def Withdraws (event : OfficeEvent κ) (caller : κ) : Prop :=
  ∃ isCaller, event = .desk (.withdraw isCaller) ∧ isCaller caller = true

/-- A request is out, and its reply is awaited. -/
structure Awaited (office : Office κ) (code : String) : Prop where
  out : code ∈ office.unanswered
  isOpen : ∃ waiters, office.desk.request? code = some ⟨code, waiters, none⟩

/-- The reply to a request has come and is still to be handed on. -/
def Noted (office : Office κ) (code : String) (outcome : Except Fault Verdict) : Prop :=
  ∃ request, office.desk.request? code = some request ∧ request.outcome = some outcome

/-! ## Reading -/

theorem now_le_step (office : Office κ) (event : OfficeEvent κ) :
    office.timeline.now ≤ (office.step event).1.timeline.now := by
  cases event with
  | desk event => exact Int.le_refl _
  | look code => exact Int.le_refl _
  | wait moment => exact Int.le_max_left _ _

/-- While nothing is stored about a digest, its entry stays what it is or goes away. -/
theorem Sound.find?_step (sound : office.Sound)
    (unstored : ∀ other stored, Stores (process.moment office event) other stored →
      contentDigest other ≠ contentDigest code) :
    (office.step event).1.desk.cache.timeToLive = office.desk.cache.timeToLive ∧
      ((office.step event).1.desk.cache.find? (contentDigest code) =
          office.desk.cache.find? (contentDigest code) ∨
        (office.step event).1.desk.cache.find? (contentDigest code) = none) := by
  cases event with
  | look other => exact ⟨Cache.timeToLive_get, .inl (Cache.find?_get _ _ _ _)⟩
  | wait moment => exact ⟨rfl, .inl rfl⟩
  | desk event =>
      rw [desk_step]
      rcases office.desk.step_cases office.timeline event with
        ⟨⟨sent, sends⟩ | quiet, _⟩ | ⟨other, outcome, rfl⟩ | ⟨other, rfl⟩ |
          ⟨other, stored, rfl⟩ | rfl
      · rw [sends.cache_eq]
        exact ⟨rfl, .inl rfl⟩
      · rcases quiet.cache_eq with same | ⟨now, other, read⟩
        · rw [same]
          exact ⟨rfl, .inl rfl⟩
        · rw [read]
          exact ⟨Cache.timeToLive_get, .inl (Cache.find?_get _ _ _ _)⟩
      · cases outcome with
        | error fault => exact ⟨rfl, .inl rfl⟩
        | ok stored =>
            exact ⟨rfl, sound.distinct.find?_put_other (unstored other stored (.inl rfl)).symm⟩
      · rw [Desk.step, Desk.cache_handOn]
        exact ⟨rfl, .inl rfl⟩
      · exact ⟨rfl, sound.distinct.find?_put_other (unstored other stored (.inr rfl)).symm⟩
      · exact ⟨rfl, .inr rfl⟩

/-- What can be read after a while could be read before, unless a verdict about its digest was
stored. -/
theorem Sound.read_course (sound : office.Sound) (course : Course process office moments last)
    (unstored : ∀ moment ∈ moments, ∀ other stored, Stores moment other stored →
      contentDigest other ≠ contentDigest code) {verdict : Verdict}
    (read : (last.desk.cache.get last.timeline.now code).1 = some verdict) :
    (office.desk.cache.get office.timeline.now code).1 = some verdict := by
  induction course with
  | start => exact read
  | @next past state event course allowed ih =>
      have final := unstored _ (List.mem_append_right _ (List.mem_singleton_self _))
      obtain ⟨timeToLive, kept⟩ := (sound.course course).find?_step final
      exact ih (fun moment listed => unstored moment (List.mem_append_left _ listed))
        (Cache.read_before timeToLive (state.now_le_step event) kept read)

/-- What cannot be read cannot be read after a while, unless a verdict about its digest is
stored. -/
theorem Sound.unread_course (sound : office.Sound) (course : Course process office moments last)
    (unstored : ∀ moment ∈ moments, ∀ other stored, Stores moment other stored →
      contentDigest other ≠ contentDigest code)
    (unread : (office.desk.cache.get office.timeline.now code).1 = none) :
    (last.desk.cache.get last.timeline.now code).1 = none := by
  rw [Option.eq_none_iff_forall_ne_some] at unread ⊢
  intro verdict read
  exact unread verdict (sound.read_course course unstored read)

theorem unreplied_of_idle (allowed : office.may event) (idle : contentDigest code ∉ office.keysOut)
    (other : String) (reply : Except Fault Verdict)
    (received : event = .desk (.receive other reply)) :
    contentDigest other ≠ contentDigest code := by
  subst received
  intro same
  apply idle
  rw [← same]
  exact List.mem_map_of_mem allowed

/-- Where no reply comes and nothing is put into the cache from outside, nothing is stored. -/
theorem unstored_of_unreplied
    (unreplied : ∀ moment ∈ moments, ∀ other reply, moment.event = .desk (.receive other reply) →
      contentDigest other ≠ contentDigest code)
    (unput : ∀ moment ∈ moments, ∀ other stored, moment.event = .desk (.put other stored) →
      contentDigest other ≠ contentDigest code) :
    ∀ moment ∈ moments, ∀ other stored, Stores moment other stored →
      contentDigest other ≠ contentDigest code := by
  rintro moment listed other stored (received | put)
  · exact unreplied moment listed other _ received
  · exact unput moment listed other stored put

/-! ## Waiting -/

theorem request?_step (event : OfficeEvent κ) {request : OpenRequest κ}
    (found : office.desk.request? code = some request)
    (unhanded : ∀ other, event = .desk (.handOn other) → contentDigest other = contentDigest code →
      request.outcome = none) :
    ∃ later, (office.step event).1.desk.request? code = some later ∧ later.code = request.code ∧
      ((∀ other outcome, event = .desk (.receive other outcome) →
        contentDigest other ≠ contentDigest code) → later.outcome = request.outcome) ∧
      ∀ waiter ∈ request.waiters, ¬ Withdraws event waiter.caller → waiter ∈ later.waiters := by
  cases event with
  | look other => exact ⟨request, found, rfl, fun _ => rfl, fun _ waits _ => waits⟩
  | wait moment => exact ⟨request, found, rfl, fun _ => rfl, fun _ waits _ => waits⟩
  | desk event =>
      obtain ⟨later, there, continues⟩ := Desk.request?_step found office.timeline event
        fun other handed => unhanded other (congrArg _ handed)
      refine ⟨later, there, continues.code, ?_, ?_⟩
      · intro unreplied
        apply continues.outcome
        intro other outcome received
        rw [Desk.key_of_request? found]
        exact unreplied other outcome (congrArg _ received)
      · intro waiter waits stays
        apply continues.waiters waiter waits
        intro isCaller withdrawn
        rw [Bool.eq_false_iff]
        intro concerned
        exact stays ⟨isCaller, congrArg _ withdrawn, concerned⟩

/-- Who waits goes on to wait until the outcome is handed on, or goes away. -/
theorem Waits.course (waits : office.Waits code caller)
    (course : Course process office moments last)
    (unhanded : ∀ moment ∈ moments, ∀ other, moment.event = .desk (.handOn other) →
      contentDigest other = contentDigest code → moment.state.Awaited code)
    (stays : ∀ moment ∈ moments, ¬ Withdraws moment.event caller) : last.Waits code caller := by
  induction course with
  | start => exact waits
  | @next past state event course allowed ih =>
      obtain ⟨request, found, listed⟩ := ih
        (fun moment listed => unhanded moment (List.mem_append_left _ listed))
        (fun moment listed => stays moment (List.mem_append_left _ listed))
      have final : process.moment state event ∈ past ++ [process.moment state event] :=
        List.mem_append_right _ (List.mem_singleton_self _)
      obtain ⟨later, there, -, -, waiters⟩ := request?_step event found (by
        intro other handed same
        obtain ⟨waiting, unreplied⟩ := (unhanded _ final other handed same).isOpen
        rw [Option.some.inj (found.symm.trans unreplied)])
      exact ⟨later, there, waiters _ listed (stays _ final)⟩

theorem awaited_of_asks (asks : code ∈ codesAsked (office.step event).2) :
    (office.step event).1.Awaited code := by
  refine ⟨mem_unanswered_of_asks asks, ?_⟩
  obtain ⟨deskEvent, rfl, -⟩ := sends_of_asks asks
  obtain ⟨waiter, found⟩ := Desk.request?_of_asks asks
  exact ⟨[waiter], found⟩

theorem Sound.eq_of_out {other : String} (sound : office.Sound) (out : code ∈ office.unanswered)
    (otherOut : other ∈ office.unanswered) (same : contentDigest other = contentDigest code) :
    other = code :=
  List.inj_on_of_nodup_map sound.nodup otherOut out same

/-- A request is awaited until its reply comes, whoever goes away. -/
theorem Sound.awaited_course (sound : office.Sound) (awaited : office.Awaited code)
    (course : Course process office moments last)
    (unreplied : ∀ moment ∈ moments, ∀ outcome, moment.event ≠ .desk (.receive code outcome)) :
    last.Awaited code := by
  constructor
  · rcases out_or_reply course awaited.out with
      still | ⟨waited, reply, later, outcome, rfl, received⟩
    · exact still
    · exact absurd received (unreplied reply (by simp) outcome)
  · induction course with
    | start => exact awaited.isOpen
    | @next past state event course allowed ih =>
        have before : ∀ moment ∈ past, ∀ outcome, moment.event ≠ .desk (.receive code outcome) :=
          fun moment listed => unreplied moment (List.mem_append_left _ listed)
        have final : process.moment state event ∈ past ++ [process.moment state event] :=
          List.mem_append_right _ (List.mem_singleton_self _)
        obtain ⟨waiters, found⟩ := ih before
        obtain ⟨later, there, sent, unchanged, -⟩ := request?_step event found
          fun _ _ _ => rfl
        have noReply : ∀ other outcome, event = .desk (.receive other outcome) →
            contentDigest other ≠ contentDigest code := by
          rintro other outcome rfl same
          rcases out_or_reply course awaited.out with out | ⟨_, reply, _, early, rfl, received⟩
          · obtain rfl := (sound.course course).eq_of_out out allowed same
            exact unreplied _ final outcome rfl
          · exact before reply (by simp) early received
        have made : later = ⟨later.code, later.waiters, later.outcome⟩ := rfl
        rw [sent, unchanged noReply] at made
        exact ⟨later.waiters, there.trans (congrArg some made)⟩

theorem Sound.awaited_at (sound : office.Sound) (awaited : office.Awaited code)
    (course : Course process office moments last)
    (unreplied : ∀ moment ∈ moments, ∀ outcome, moment.event ≠ .desk (.receive code outcome))
    {moment : OfficeMoment κ} (listed : moment ∈ moments) :
    moment.state.Sound ∧ moment.state.Awaited code ∧ moment.state.may moment.event := by
  obtain ⟨front, back, rfl⟩ := List.append_of_mem listed
  obtain ⟨before, allowed, -, -⟩ := course.split
  have soFar := sound.awaited_course awaited before
    fun moment listed => unreplied moment (List.mem_append_left _ listed)
  exact ⟨sound.course before, soFar, allowed⟩

theorem waits_of_analyze (missed : (office.desk.cache.get office.timeline.now code).1 = none)
    (unreplied : ∀ request, office.desk.request? code = some request → request.outcome = none)
    (caller : κ) : (office.step (.desk (.analyzeCode caller code))).1.Waits code caller := by
  rw [Waits, desk_step, Desk.step_analyzeCode]
  cases found : office.desk.request? code with
  | none =>
      obtain ⟨-, there⟩ := Desk.seek_of_free missed found ⟨caller, .verdict⟩
      exact ⟨_, there, List.mem_singleton_self _⟩
  | some request =>
      exact Desk.seek_of_open missed found (unreplied request found) ⟨caller, .verdict⟩

/-! ## The reply -/

theorem Awaited.noted (awaited : office.Awaited code) (outcome : Except Fault Verdict) :
    (office.step (.desk (.receive code outcome))).1.Noted code outcome := by
  obtain ⟨waiters, found⟩ := awaited.isOpen
  refine ⟨_, Desk.request?_receive found _ _ _, ?_⟩
  rw [Desk.note, if_pos (Desk.key_of_request? found)]

/-- Where nothing could be read before the reply, nothing but its verdict can be read after it. -/
theorem read_of_reply {verdict : Verdict}
    (unread : (office.desk.cache.get office.timeline.now code).1 = none)
    (read : ((office.step (.desk (.receive code outcome))).1.desk.cache.get
      office.timeline.now code).1 = some verdict) : outcome = .ok verdict := by
  cases outcome with
  | error fault =>
      have nothing := unread.symm.trans read
      cases nothing
  | ok reached =>
      have present : (office.desk.cache.put office.timeline.now code reached).find?
          (contentDigest code) = some (Cache.newEntry office.timeline.now code reached) :=
        Cache.find?_put_self
      change ((office.desk.cache.put office.timeline.now code reached).get
        office.timeline.now code).1 = some verdict at read
      obtain ⟨entry, found, -, rfl⟩ := Cache.get_eq_some_iff.mp read
      obtain rfl := Option.some.inj (present.symm.trans found)
      rfl

theorem Sound.idle_of_noted (sound : office.Sound) (noted : office.Noted code outcome) :
    contentDigest code ∉ office.keysOut := by
  obtain ⟨request, found, known⟩ := noted
  have line : (contentDigest code, true) ∈ office.desk.ledger := by
    rw [← Desk.key_of_request? found]
    refine List.mem_map.mpr ⟨request, List.mem_of_find?_eq_some found, ?_⟩
    rw [known]
    rfl
  rw [sound.out]
  intro unreceived
  obtain ⟨other, listed, same⟩ := List.mem_map.mp unreceived
  obtain ⟨there, unknown⟩ := List.mem_filter.mp listed
  obtain rfl := List.inj_on_of_nodup_map sound.unique there line same
  cases unknown

theorem Sound.noted_course (sound : office.Sound) (noted : office.Noted code outcome)
    (course : Course process office moments last)
    (kept : ∀ moment ∈ moments, ∀ other, moment.event = .desk (.handOn other) →
      contentDigest other ≠ contentDigest code) : last.Noted code outcome := by
  induction course with
  | start => exact noted
  | @next past state event course allowed ih =>
      have before := ih fun moment listed => kept moment (List.mem_append_left _ listed)
      have notNow := kept _ (List.mem_append_right _ (List.mem_singleton_self _))
      have idle := (sound.course course).idle_of_noted before
      obtain ⟨request, found, known⟩ := before
      obtain ⟨later, there, -, unchanged, -⟩ := request?_step event found
        fun other handed same => absurd same (notNow other handed)
      exact ⟨later, there, (unchanged (unreplied_of_idle allowed idle)).trans known⟩

theorem Sound.noted_at (sound : office.Sound) (noted : office.Noted code outcome)
    (course : Course process office moments last)
    (kept : ∀ moment ∈ moments, ∀ other, moment.event = .desk (.handOn other) →
      contentDigest other ≠ contentDigest code)
    {moment : OfficeMoment κ} (listed : moment ∈ moments) :
    moment.state.Sound ∧ moment.state.Noted code outcome ∧ moment.state.may moment.event := by
  obtain ⟨front, back, rfl⟩ := List.append_of_mem listed
  obtain ⟨before, allowed, -, -⟩ := course.split
  have soFar := sound.noted_course noted before
    fun moment listed => kept moment (List.mem_append_left _ listed)
  exact ⟨sound.course before, soFar, allowed⟩

/-! ## After the reply was handed on -/

theorem unrequested_course (course : Course process office moments last)
    (unrequested : contentDigest code ∉ office.desk.requested)
    (unasked : ∀ moment ∈ moments, ∀ other, Asks moment other →
      contentDigest other ≠ contentDigest code) :
    contentDigest code ∉ last.desk.requested := by
  induction course with
  | start => exact unrequested
  | @next past state event course allowed ih =>
      have before := ih fun moment listed => unasked moment (List.mem_append_left _ listed)
      have notNow := unasked _ (List.mem_append_right _ (List.mem_singleton_self _))
      cases event with
      | look other => exact before
      | wait moment => exact before
      | desk event =>
          change contentDigest code ∉ (state.desk.step state.timeline event).1.requested
          rcases state.desk.step_cases state.timeline event with
            ⟨⟨sent, sends⟩ | quiet, _⟩ | ⟨other, outcome, rfl⟩ | ⟨other, rfl⟩ |
              ⟨other, stored, rfl⟩ | rfl
          · have asks : Asks (process.moment state (.desk event)) sent := by
              change sent ∈ codesAsked (state.desk.step state.timeline event).2
              rw [sends.asks]
              exact List.mem_singleton_self _
            rw [sends.requested_eq, List.mem_append, List.mem_singleton]
            rintro (old | new)
            · exact before old
            · exact notNow sent asks new.symm
          · rw [Desk.requested, quiet.ledger_eq]
            exact before
          · rw [Desk.step, Desk.requested_receive]
            exact before
          · exact fun there => before ((state.desk.requested_handOn_sublist other).subset there)
          · exact before
          · exact before

/-- No reply comes about a digest as long as no request is sent about it. -/
theorem Sound.unreplied_of_unrequested (sound : office.Sound)
    (course : Course process office moments last)
    (unrequested : contentDigest code ∉ office.desk.requested)
    (unasked : ∀ moment ∈ moments, ∀ other, Asks moment other →
      contentDigest other ≠ contentDigest code)
    {moment : OfficeMoment κ} (listed : moment ∈ moments) (other : String)
    (reply : Except Fault Verdict) (received : moment.event = .desk (.receive other reply)) :
    contentDigest other ≠ contentDigest code := by
  obtain ⟨front, back, rfl⟩ := List.append_of_mem listed
  obtain ⟨before, allowed, -, -⟩ := course.split
  have free := unrequested_course before unrequested
    fun moment listed => unasked moment (List.mem_append_left _ listed)
  refine unreplied_of_idle allowed ?_ other reply received
  rw [(sound.course before).out]
  exact fun out => free (moment.state.desk.unreceived_sublist.subset out)

end Office

end CodeComplexity
