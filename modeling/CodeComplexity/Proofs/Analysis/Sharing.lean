import CodeComplexity.Proofs.Analysis.Waiting

/-!
# The outcome of a request is shared

From when a request is sent until its reply comes, whoever asks about the same code waits with the
others, and callers who go away take nothing with them but themselves: the request stays open.  When
the reply comes, a verdict is stored and a fault is not.  Until it is handed on, whoever asks gets
it at once, and then all who still wait get it.  After that the desk knows nothing of the request,
so that a fault is not given to anyone who asks later.
-/

namespace CodeComplexity

open Text

variable {κ : Type}

namespace Office

variable {office last : Office κ} {moments : List (OfficeMoment κ)} {code : String}
  {outcome : Except Fault Verdict} {caller : κ}

/-! ## The life of a request -/

/-- The life of a request within a course: it is sent, after a while its reply comes, and after
another while the reply is handed on. -/
structure RequestLife (moments : List (OfficeMoment κ)) (code : String)
    (outcome : Except Fault Verdict) where
  before : List (OfficeMoment κ)
  sent : OfficeMoment κ
  waited : List (OfficeMoment κ)
  reply : OfficeMoment κ
  between : List (OfficeMoment κ)
  handedOn : OfficeMoment κ
  after : List (OfficeMoment κ)
  whole : moments = before ++ sent :: (waited ++ reply :: (between ++ handedOn :: after))
  asks : Asks sent code
  unreplied : ∀ moment ∈ waited, ∀ outcome, moment.event ≠ .desk (.receive code outcome)
  replies : reply.event = .desk (.receive code outcome)
  kept : ∀ moment ∈ between, ∀ other, moment.event = .desk (.handOn other) →
    contentDigest other ≠ contentDigest code
  hands : handedOn.event = .desk (.handOn code)

namespace RequestLife

variable {life : RequestLife moments code outcome}

/-- No verdict about the digest of a request is put into the cache from outside while it is open. -/
def Unput (life : RequestLife moments code outcome) : Prop :=
  ∀ moment ∈ life.waited ++ life.reply :: life.between, ∀ other stored,
    moment.event = .desk (.put other stored) → contentDigest other ≠ contentDigest code

/-- The courses from one turn of a request's life to the next one. -/
structure Turns (life : RequestLife moments code outcome) (last : Office κ) : Prop where
  sound : life.sent.state.Sound
  sending : process.may life.sent.state life.sent.event ∧
    life.sent = process.moment life.sent.state life.sent.event
  waited : Course process life.sent.after life.waited life.reply.state
  replying : process.may life.reply.state life.reply.event ∧
    life.reply = process.moment life.reply.state life.reply.event
  between : Course process life.reply.after life.between life.handedOn.state
  handing : process.may life.handedOn.state life.handedOn.event ∧
    life.handedOn = process.moment life.handedOn.state life.handedOn.event
  after : Course process life.handedOn.after life.after last

theorem turns (life : RequestLife moments code outcome) (sound : office.Sound)
    (course : Course process office moments last) : life.Turns last := by
  rw [life.whole] at course
  obtain ⟨toSent, maySend, sending, fromSent⟩ := course.split
  obtain ⟨waited, mayReply, replying, fromReply⟩ := fromSent.split
  obtain ⟨between, mayHand, handing, after⟩ := fromReply.split
  exact ⟨sound.course toSent, ⟨maySend, sending⟩, waited, ⟨mayReply, replying⟩, between,
    ⟨mayHand, handing⟩, after⟩

theorem Turns.waiting (turns : life.Turns last) :
    Course process life.sent.state (life.sent :: life.waited) life.reply.state :=
  (Course.of_moment turns.sending.1 turns.sending.2).append turns.waited

/-- When a request is sent there is neither a verdict to read nor a request. -/
theorem Turns.free (turns : life.Turns last) :
    (life.sent.state.desk.cache.get life.sent.state.timeline.now code).1 = none ∧
      life.sent.state.desk.request? code = none := by
  have asks := life.asks
  rw [Asks, turns.sending.2] at asks
  obtain ⟨_, _, sends⟩ := sends_of_asks asks
  exact ⟨sends.uncached, Desk.request?_eq_none_iff.mpr sends.unrequested⟩

theorem Turns.awaited (turns : life.Turns last) :
    life.sent.after.Sound ∧ life.sent.after.Awaited code := by
  have asks := life.asks
  rw [Asks, turns.sending.2] at asks
  rw [turns.sending.2]
  exact ⟨turns.sound.step _ turns.sending.1, awaited_of_asks asks⟩

theorem Turns.awaited_reply (turns : life.Turns last) :
    life.reply.state.Sound ∧ life.reply.state.Awaited code := by
  obtain ⟨sound, awaited⟩ := turns.awaited
  exact ⟨sound.course turns.waited, sound.awaited_course awaited turns.waited life.unreplied⟩

theorem Turns.noted (turns : life.Turns last) :
    life.reply.after.Sound ∧ life.reply.after.Noted code outcome := by
  obtain ⟨sound, awaited⟩ := turns.awaited_reply
  rw [turns.replying.2]
  refine ⟨sound.step _ turns.replying.1, ?_⟩
  rw [life.replies]
  exact awaited.noted outcome

theorem Turns.unstored (turns : life.Turns last) (unput : life.Unput) :
    ∀ moment ∈ life.sent :: life.waited, ∀ other stored, Stores moment other stored →
      contentDigest other ≠ contentDigest code := by
  intro moment listed
  rcases List.mem_cons.mp listed with rfl | waits
  · -- The event that sends the request is not one that stores a verdict.
    have asks := life.asks
    rw [Asks, turns.sending.2] at asks
    rintro other stored (received | put)
    · rw [received] at asks
      cases asks
    · rw [put] at asks
      cases asks
  · refine unstored_of_unreplied ?_ ?_ moment waits
    · rintro moment waits other reply received same
      obtain ⟨sound, awaited⟩ := turns.awaited
      obtain ⟨soundThere, there, allowed⟩ :=
        sound.awaited_at awaited turns.waited life.unreplied waits
      rw [received] at allowed
      obtain rfl := soundThere.eq_of_out there.out allowed same
      exact life.unreplied moment waits reply received
    · exact fun moment waits => unput moment (List.mem_append_left _ waits)

/-- Until the reply is handed on no verdict but its own can be read. -/
theorem Turns.read_between (turns : life.Turns last) (unput : life.Unput) {office : Office κ}
    {past rest : List (OfficeMoment κ)} (split : life.between = past ++ rest)
    (course : Course process life.reply.after past office) {verdict : Verdict}
    (read : (office.desk.cache.get office.timeline.now code).1 = some verdict) :
    outcome = .ok verdict := by
  obtain ⟨sound, noted⟩ := turns.noted
  have within {moment : OfficeMoment κ} (listed : moment ∈ past) : moment ∈ life.between := by
    rw [split]
    exact List.mem_append_left _ listed
  have kept : ∀ moment ∈ past, ∀ other, moment.event = .desk (.handOn other) →
      contentDigest other ≠ contentDigest code :=
    fun moment listed => life.kept moment (within listed)
  have atReply := sound.read_course course (unstored_of_unreplied
    (by
      intro moment listed
      obtain ⟨soundThere, there, allowed⟩ := sound.noted_at noted course kept listed
      exact unreplied_of_idle allowed (soundThere.idle_of_noted there))
    (by
      intro moment listed
      exact unput moment (List.mem_append_right _ (List.mem_cons_of_mem _ (within listed))))) read
  have unread := turns.sound.unread_course turns.waiting (turns.unstored unput) turns.free.1
  rw [turns.replying.2, life.replies] at atReply
  exact read_of_reply unread atReply

/-- Who analyses the code before the reply comes waits for it. -/
theorem Turns.waits (turns : life.Turns last) (unput : life.Unput) {join : OfficeMoment κ}
    {early late : List (OfficeMoment κ)} (split : life.sent :: life.waited = early ++ join :: late)
    (joins : join.event = .desk (.analyzeCode caller code)) : join.after.Waits code caller := by
  have waiting := turns.waiting
  have unstored := turns.unstored unput
  rw [split] at waiting unstored
  obtain ⟨before, -, joined, -⟩ := waiting.split
  have unread := turns.sound.unread_course before
    (fun moment listed => unstored moment (List.mem_append_left _ listed)) turns.free.1
  rw [joined, joins]
  refine waits_of_analyze unread ?_ caller
  intro request found
  cases early with
  | nil =>
      obtain ⟨rfl, -⟩ := List.cons.inj split
      have free := turns.free.2.symm.trans found
      cases free
  | cons first early =>
      obtain ⟨-, rest⟩ := List.cons.inj split
      have waits : join ∈ life.waited := by
        rw [rest]
        exact List.mem_append_right _ List.mem_cons_self
      obtain ⟨sound, awaited⟩ := turns.awaited
      obtain ⟨-, there, -⟩ := sound.awaited_at awaited turns.waited life.unreplied waits
      obtain ⟨waiters, isOpen⟩ := there.isOpen
      rw [Option.some.inj (found.symm.trans isOpen)]

theorem Turns.handed (turns : life.Turns last) :
    (∃ request, life.handedOn.state.desk.request? code = some request ∧
      life.handedOn.acts = request.waiters.map fun waiter =>
        .give waiter.caller (waiter.purpose.finding outcome)) ∧
    contentDigest code ∉ life.handedOn.after.desk.requested := by
  obtain ⟨sound, noted⟩ := turns.noted
  obtain ⟨request, found, known⟩ := sound.noted_course noted turns.between life.kept
  obtain ⟨acts, gone⟩ := Desk.handOn_of_noted found known
  rw [turns.handing.2, life.hands]
  exact ⟨⟨request, found, acts⟩, gone⟩

/-- Who waits for the reply and does not go away gets what it said when it is handed on. -/
theorem Turns.given (turns : life.Turns last) (unput : life.Unput) {join : OfficeMoment κ}
    {early late : List (OfficeMoment κ)} (split : life.sent :: life.waited = early ++ join :: late)
    (joins : join.event = .desk (.analyzeCode caller code))
    (stays : ∀ moment ∈ late ++ life.reply :: life.between, ¬ Withdraws moment.event caller) :
    .give caller (outcome.map .verdict) ∈ life.handedOn.acts := by
  have waiting := turns.waiting
  rw [split] at waiting
  obtain ⟨-, -, -, toReply⟩ := waiting.split
  have whole : Course process join.after (late ++ life.reply :: life.between)
      life.handedOn.state :=
    toReply.append ((Course.of_moment turns.replying.1 turns.replying.2).append turns.between)
  have still := (turns.waits unput split joins).course whole (by
    intro moment listed other handed same
    rcases List.mem_append.mp listed with waits | here
    · obtain ⟨sound, awaited⟩ := turns.awaited
      refine (sound.awaited_at awaited turns.waited life.unreplied ?_).2.1
      rcases List.cons_eq_append_iff.mp split with ⟨-, same⟩ | ⟨_, -, rest⟩
      · obtain ⟨-, rfl⟩ := List.cons.inj same
        exact waits
      · rw [rest]
        exact List.mem_append_right _ (List.mem_cons_of_mem _ waits)
    · rcases List.mem_cons.mp here with rfl | later
      · rw [life.replies] at handed
        cases handed
      · exact absurd same (life.kept moment later other handed)) stays
  obtain ⟨⟨request, found, acts⟩, -⟩ := turns.handed
  obtain ⟨_, there, waits⟩ := still
  obtain rfl := Option.some.inj (there.symm.trans found)
  rw [acts]
  refine List.mem_map.mpr ⟨_, waits, ?_⟩
  cases outcome <;> rfl

/-- Who analyses the code after the reply has come and before it is handed on gets what it said at
once. -/
theorem Turns.given_between (turns : life.Turns last) (unput : life.Unput)
    {join : OfficeMoment κ} (listed : join ∈ life.between)
    (joins : join.event = .desk (.analyzeCode caller code)) :
    join.acts = [.give caller (outcome.map .verdict)] := by
  obtain ⟨front, back, split⟩ := List.append_of_mem listed
  have between := turns.between
  rw [split] at between
  obtain ⟨before, -, joined, -⟩ := between.split
  obtain ⟨sound, noted⟩ := turns.noted
  obtain ⟨-, ⟨request, found, known⟩, -⟩ := sound.noted_at noted turns.between life.kept listed
  rw [joined, joins]
  change (join.state.desk.step join.state.timeline (.analyzeCode caller code)).2 = _
  rw [Desk.step_analyzeCode]
  refine (Desk.seek_of_noted ?_ found known ⟨caller, .verdict⟩).trans ?_
  · exact fun verdict read => turns.read_between unput split before read
  · cases outcome <;> rfl

theorem Turns.asks_again (turns : life.Turns last) (unput : life.Unput) {fault : Fault}
    (failed : outcome = .error fault) {idle rest : List (OfficeMoment κ)} {again : OfficeMoment κ}
    (split : life.after = idle ++ again :: rest)
    (joins : again.event = .desk (.analyzeCode caller code))
    (unasked : ∀ moment ∈ idle, ∀ other, Asks moment other →
      contentDigest other ≠ contentDigest code)
    (unputLater : ∀ moment ∈ idle, ∀ other stored, moment.event = .desk (.put other stored) →
      contentDigest other ≠ contentDigest code) :
    again.acts = [.ask code] := by
  have after := turns.after
  rw [split] at after
  obtain ⟨before, -, joined, -⟩ := after.split
  have soundThere : life.handedOn.state.Sound := turns.noted.1.course turns.between
  have sound : life.handedOn.after.Sound := by
    rw [turns.handing.2]
    exact soundThere.step _ turns.handing.1
  have free := turns.handed.2
  have unread : (life.handedOn.after.desk.cache.get life.handedOn.after.timeline.now code).1 =
      none := by
    rw [turns.handing.2, life.hands]
    change ((life.handedOn.state.desk.handOn code).1.cache.get
      life.handedOn.state.timeline.now code).1 = none
    rw [Desk.cache_handOn, Option.eq_none_iff_forall_ne_some]
    intro verdict read
    have reached := turns.read_between unput (List.append_nil _).symm turns.between read
    rw [failed] at reached
    cases reached
  have stillUnread := sound.unread_course before (unstored_of_unreplied
    (fun moment listed => sound.unreplied_of_unrequested before free unasked listed)
    unputLater) unread
  have stillFree := Desk.request?_eq_none_iff.mpr (unrequested_course before free unasked)
  rw [joined, joins]
  change (again.state.desk.step again.state.timeline (.analyzeCode caller code)).2 = _
  rw [Desk.step_analyzeCode]
  exact (Desk.seek_of_free stillUnread stillFree ⟨caller, .verdict⟩).1

/-- The reply stores its verdict and nothing else, and handing it on stores nothing. -/
theorem Turns.stored (turns : life.Turns last) :
    life.reply.after.desk.cache = Desk.stored life.reply.state.desk.cache
        life.reply.state.timeline.now code outcome ∧
      life.handedOn.after.desk.cache = life.handedOn.state.desk.cache := by
  rw [turns.replying.2, life.replies, turns.handing.2, life.hands]
  exact ⟨rfl, life.handedOn.state.desk.cache_handOn code⟩

end RequestLife

/-! ## The law -/

/-- In every course of an office, a request that was sent is out and waited for until its reply
comes, whoever goes away meanwhile.  A reply with a verdict stores it, one with a fault leaves the
cache as it is, and handing it on changes the cache no more.  All who still wait then get what the
reply said, and the desk knows nothing of the request any more.  As long as nothing is put into the
cache from outside, those who wait are all who have analysed the code since the request was sent and
have not gone away; who analyses it after the reply has come gets what it said at once; and who
analyses it next after a fault was handed on has it asked about anew. -/
theorem outcome_is_shared {hoverDelay timeToLive : Int} {capacity : { count : Nat // 0 < count }}
    (course : Course process (start hoverDelay (.empty timeToLive capacity)) moments last) :
    (∀ before sent waited code, moments = before ++ sent :: waited → Asks sent code →
      (∀ moment ∈ waited, ∀ outcome, moment.event ≠ .desk (.receive code outcome)) →
      last.Awaited code) ∧
    ∀ code outcome, ∀ life : RequestLife moments code outcome,
      (∀ verdict, outcome = .ok verdict →
        life.reply.after.desk.cache.find? (contentDigest code) =
          some (Cache.newEntry life.reply.state.timeline.now code verdict)) ∧
      (∀ fault, outcome = .error fault →
        life.reply.after.desk.cache = life.reply.state.desk.cache) ∧
      life.handedOn.after.desk.cache = life.handedOn.state.desk.cache ∧
      (∀ act ∈ life.handedOn.acts, ∃ waiter : Waiter κ,
        act = .give waiter.caller (waiter.purpose.finding outcome)) ∧
      contentDigest code ∉ life.handedOn.after.desk.requested ∧
      (life.Unput →
        (∀ caller early join late, life.sent :: life.waited = early ++ join :: late →
          join.event = .desk (.analyzeCode caller code) →
          (∀ moment ∈ late ++ life.reply :: life.between, ¬ Withdraws moment.event caller) →
          .give caller (outcome.map .verdict) ∈ life.handedOn.acts) ∧
        (∀ caller, ∀ join ∈ life.between, join.event = .desk (.analyzeCode caller code) →
          join.acts = [.give caller (outcome.map .verdict)]) ∧
        ∀ fault, outcome = .error fault →
          ∀ caller idle again rest, life.after = idle ++ again :: rest →
            again.event = .desk (.analyzeCode caller code) →
            (∀ moment ∈ idle, ∀ other, Asks moment other →
              contentDigest other ≠ contentDigest code) →
            (∀ moment ∈ idle, ∀ other stored, moment.event = .desk (.put other stored) →
              contentDigest other ≠ contentDigest code) →
            again.acts = [.ask code]) := by
  have sound := sound_start (κ := κ) hoverDelay timeToLive capacity
  constructor
  · rintro before sent waited code rfl asks unreplied
    obtain ⟨toSent, allowed, sending, onward⟩ := course.split
    rw [Asks, sending] at asks
    rw [sending] at onward
    exact ((sound.course toSent).step _ allowed).awaited_course (awaited_of_asks asks) onward
      unreplied
  · intro code outcome life
    have turns := life.turns sound course
    obtain ⟨stored, kept⟩ := turns.stored
    obtain ⟨⟨request, -, acts⟩, gone⟩ := turns.handed
    refine ⟨?_, ?_, kept, ?_, gone, ?_⟩
    · rintro verdict rfl
      rw [stored]
      exact Cache.find?_put_self
    · rintro fault rfl
      exact stored
    · intro act listed
      rw [acts] at listed
      obtain ⟨waiter, -, rfl⟩ := List.mem_map.mp listed
      exact ⟨waiter, rfl⟩
    · intro unput
      refine ⟨?_, ?_, ?_⟩
      · exact fun caller early join late split joins stays => turns.given unput split joins stays
      · exact fun caller join listed joins => turns.given_between unput listed joins
      · exact fun fault failed caller idle again rest split joins unasked unputLater =>
          turns.asks_again unput failed split joins unasked unputLater

/-- The classifier is out of order. -/
def outOfOrder : Fault :=
  .failure (.serviceError 503 none)

/-- Two callers wait for the same reply and one of them goes away; a third one comes after the reply
and a fourth one after it was handed on. -/
def fourCallers : List (OfficeEvent Nat) :=
  [.desk (.analyzeCode 1 "f"), .desk (.analyzeCode 2 "f"), .desk (.withdraw (· == 1)),
    .desk (.receive "f" (.error outOfOrder)), .desk (.analyzeCode 3 "f"), .desk (.handOn "f"),
    .desk (.analyzeCode 4 "f")]

/-- The request of the first caller, in moments that follow each other. -/
def requestOfFirst :
    RequestLife (process.moments smallOffice fourCallers) "f" (.error outOfOrder) :=
  let at_ (count : Nat) : Office Nat := process.last smallOffice (fourCallers.take count)
  { before := []
    sent := process.moment smallOffice (.desk (.analyzeCode 1 "f"))
    waited := process.moments (at_ 1) [.desk (.analyzeCode 2 "f"), .desk (.withdraw (· == 1))]
    reply := process.moment (at_ 3) (.desk (.receive "f" (.error outOfOrder)))
    between := process.moments (at_ 4) [.desk (.analyzeCode 3 "f")]
    handedOn := process.moment (at_ 5) (.desk (.handOn "f"))
    after := process.moments (at_ 6) [.desk (.analyzeCode 4 "f")]
    whole := rfl
    asks := List.mem_singleton_self _
    unreplied := by
      intro moment listed outcome received
      have happened := Process.event_mem_of_mem_moments listed
      simp [received] at happened
    replies := rfl
    kept := by
      intro moment listed other handed
      have happened := Process.event_mem_of_mem_moments listed
      simp [handed] at happened
    hands := rfl }

/-- The law at work: the caller who stays and the one who comes late get the fault, and the last one
has the code asked about anew. -/
theorem outcome_is_shared_withdrawn :
    .give 2 (.error outOfOrder) ∈ requestOfFirst.handedOn.acts ∧
      (∀ join ∈ requestOfFirst.between, join.acts = [.give 3 (.error outOfOrder)]) ∧
      ∀ again ∈ requestOfFirst.after, again.acts = [.ask "f"] := by
  have course : Course process smallOffice (process.moments smallOffice fourCallers)
      (process.last smallOffice fourCallers) := by
    refine Process.course_of_allows
      ⟨trivial, trivial, trivial, ?_, trivial, trivial, trivial, trivial⟩
    change "f" ∈ Office.unanswered _
    decide +kernel
  obtain ⟨-, -, -, -, -, shared⟩ := (outcome_is_shared course).2 _ _ requestOfFirst
  have unput : requestOfFirst.Unput := by
    simp [RequestLife.Unput, requestOfFirst, Process.moments, Process.moment]
  obtain ⟨given, atOnce, anew⟩ := shared unput
  refine ⟨given 2 [requestOfFirst.sent] _ _ rfl rfl ?_, ?_, ?_⟩
  · simp [requestOfFirst, Process.moments, Process.moment, Withdraws]
  · intro join listed
    exact atOnce 3 join listed (by simp_all [requestOfFirst, Process.moments, Process.moment])
  · intro again listed
    obtain rfl := List.mem_singleton.mp listed
    exact anew _ rfl 4 [] _ [] rfl rfl (by simp) (by simp)

end Office

end CodeComplexity
