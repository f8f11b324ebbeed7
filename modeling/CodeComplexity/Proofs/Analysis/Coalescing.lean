import CodeComplexity.Proofs.Analysis.Office

/-!
# Requests are shared

Whoever asks about code while a request about it is out waits for its reply instead of sending
another one.  At every moment there is at most one request out for each digest, and a request is
sent only when the cache has no verdict to offer and no request about the same digest is out.  So of
two requests about the same digest that follow each other the first one has had its reply, and if
that was a verdict, its entry has gone from the cache or has expired since.
-/

namespace CodeComplexity

open Text

variable {κ : Type}

abbrev OfficeMoment (κ : Type) :=
  Moment (Office κ) (OfficeEvent κ) (DeskAct κ)

namespace Office

variable {office last : Office κ} {moments past rest : List (OfficeMoment κ)} {code : String}

/-- A request about a piece of code is sent. -/
def Asks (moment : OfficeMoment κ) (code : String) : Prop :=
  code ∈ codesAsked moment.acts

/-- A verdict on a piece of code is stored. -/
def Stores (moment : OfficeMoment κ) (code : String) (verdict : Verdict) : Prop :=
  moment.event = .desk (.receive code (.ok verdict)) ∨ moment.event = .desk (.put code verdict)

/-- An entry goes from the cache: it is cleared, or pushed out by a verdict on other code. -/
structure Drops (moment : OfficeMoment κ) (entry : CacheEntry) : Prop where
  present : moment.state.desk.cache.find? entry.key = some entry
  gone : moment.after.desk.cache.find? entry.key = none
  cause : moment.event = .desk .clearCache ∨
    ∃ code verdict, Stores moment code verdict ∧ contentDigest code ≠ entry.key

/-- An entry is still in the cache but may not be read any more. -/
structure Expired (office : Office κ) (entry : CacheEntry) : Prop where
  present : office.desk.cache.find? entry.key = some entry
  old : office.desk.cache.timeToLive < office.timeline.now - entry.storedAt

/-! ## Sending -/

/-- Only a desk that finds neither a verdict nor a request sends one. -/
theorem sends_of_asks {event : OfficeEvent κ} (asks : code ∈ codesAsked (office.step event).2) :
    ∃ deskEvent, event = .desk deskEvent ∧
      office.desk.Sends office.timeline.now code
        (office.desk.step office.timeline deskEvent) := by
  cases event with
  | look code => simp [step] at asks
  | wait moment => simp [step] at asks
  | desk event =>
      refine ⟨event, rfl, ?_⟩
      change code ∈ codesAsked (office.desk.step office.timeline event).2 at asks
      rcases office.desk.step_cases office.timeline event with
        ⟨⟨sent, sends⟩ | quiet, _⟩ | ⟨_, _, rfl⟩ | ⟨other, rfl⟩ | ⟨_, _, rfl⟩ | rfl
      · rw [sends.asks, List.mem_singleton] at asks
        rw [asks]
        exact sends
      · rw [quiet.asks] at asks
        exact absurd asks List.not_mem_nil
      · exact absurd asks List.not_mem_nil
      · rw [Desk.step, Desk.codesAsked_handOn] at asks
        exact absurd asks List.not_mem_nil
      · exact absurd asks List.not_mem_nil
      · exact absurd asks List.not_mem_nil

/-- A request is sent only if there is no verdict to be read and no request about the digest is
out. -/
theorem Sound.free_of_asks (sound : office.Sound) {event : OfficeEvent κ}
    (asks : code ∈ codesAsked (office.step event).2) :
    (office.desk.cache.get office.timeline.now code).1 = none ∧
      contentDigest code ∉ office.keysOut := by
  obtain ⟨deskEvent, rfl, sends⟩ := sends_of_asks asks
  refine ⟨sends.uncached, ?_⟩
  intro out
  rw [sound.out] at out
  exact sends.unrequested (office.desk.unreceived_sublist.subset out)

theorem mem_unanswered_of_asks {event : OfficeEvent κ}
    (asks : code ∈ codesAsked (office.step event).2) : code ∈ (office.step event).1.unanswered := by
  obtain ⟨deskEvent, rfl, _⟩ := sends_of_asks asks
  exact List.mem_append_right _ asks

/-! ## From one request to the next -/

theorem out_or_reply (course : Course process office moments last)
    (out : code ∈ office.unanswered) :
    code ∈ last.unanswered ∨
      ∃ waited reply later outcome, moments = waited ++ reply :: later ∧
        reply.event = .desk (.receive code outcome) := by
  induction course with
  | start => exact .inl out
  | @next past state event course allowed ih =>
      rcases ih with still | ⟨waited, reply, later, outcome, rfl, received⟩
      · cases event with
        | look _ => exact .inl still
        | wait _ => exact .inl still
        | desk event =>
            by_cases reply : ∃ outcome, event = .receive code outcome
            · obtain ⟨outcome, rfl⟩ := reply
              exact .inr ⟨past, _, [], outcome, rfl, rfl⟩
            · left
              apply List.mem_append_left
              cases event with
              | receive other outcome =>
                  have different : code ≠ other := by
                    intro same
                    exact reply ⟨outcome, by rw [same]⟩
                  exact (List.mem_erase_of_ne different).mpr still
              | _ => exact still
      · exact .inr ⟨waited, reply, later ++ [process.moment state event], outcome, by simp,
          received⟩

/-- What an event does to an entry whose digest has no request out: it stays, or it is dropped,
unless a new request or another verdict about the same digest comes up. -/
theorem Sound.entry_step (sound : office.Sound) {event : OfficeEvent κ} {entry : CacheEntry}
    (allowed : office.may event) (present : office.desk.cache.find? entry.key = some entry)
    (idle : entry.key ∉ office.keysOut)
    (notPut : ∀ other verdict, event = .desk (.put other verdict) →
      contentDigest other ≠ entry.key) :
    (office.step event).1.desk.cache.find? entry.key = some entry ∨
      Drops (process.moment office event) entry := by
  cases event with
  | look code => exact .inl ((Cache.find?_get _ _ _ _).trans present)
  | wait moment => exact .inl present
  | desk event =>
      rcases office.desk.step_cases office.timeline event with
        ⟨⟨code, sends⟩ | quiet, _⟩ | ⟨code, outcome, rfl⟩ | ⟨code, rfl⟩ | ⟨code, verdict, rfl⟩ | rfl
      · left
        rw [desk_step, sends.cache_eq]
        exact present
      · left
        rw [desk_step]
        rcases quiet.cache_eq with same | ⟨now, code, read⟩
        · rw [same]
          exact present
        · rw [read, Cache.find?_get]
          exact present
      · cases outcome with
        | error fault => exact .inl present
        | ok verdict =>
            have other : entry.key ≠ contentDigest code := by
              intro same
              exact idle (same ▸ List.mem_map_of_mem allowed)
            rcases sound.distinct.find?_put_other other with same | gone
            · exact .inl (same.trans present)
            · exact .inr ⟨present, gone, .inr ⟨code, verdict, .inl rfl, Ne.symm other⟩⟩
      · left
        rw [desk_step, Desk.step, Desk.cache_handOn]
        exact present
      · have other : entry.key ≠ contentDigest code := Ne.symm (notPut code verdict rfl)
        rcases sound.distinct.find?_put_other other with same | gone
        · exact .inl (same.trans present)
        · exact .inr ⟨present, gone, .inr ⟨code, verdict, .inr rfl, Ne.symm other⟩⟩
      · exact .inr ⟨present, rfl, .inl rfl⟩

theorem idle_step {event : OfficeEvent κ} {key : Digest} (idle : key ∉ office.keysOut)
    (notAsked : ∀ code, code ∈ codesAsked (office.step event).2 → contentDigest code ≠ key) :
    key ∉ (office.step event).1.keysOut := by
  cases event with
  | look code => exact idle
  | wait moment => exact idle
  | desk event =>
      intro out
      rw [keysOut_step, List.map_append, List.mem_append] at out
      rcases out with old | new
      · have earlier : ∀ code, code ∈ stillOut office.unanswered event →
            code ∈ office.unanswered := by
          intro code listed
          cases event with
          | receive other outcome => exact List.mem_of_mem_erase listed
          | _ => exact listed
        obtain ⟨code, listed, rfl⟩ := List.mem_map.mp old
        exact idle (List.mem_map_of_mem (earlier code listed))
      · obtain ⟨code, sent, rfl⟩ := List.mem_map.mp new
        exact notAsked code sent rfl

/-- An entry whose digest has no request out stays until it is dropped, as long as nothing else
comes up about its digest. -/
theorem present_or_dropped {entry : CacheEntry} (sound : office.Sound)
    (course : Course process office moments last)
    (present : office.desk.cache.find? entry.key = some entry)
    (idle : entry.key ∉ office.keysOut)
    (notAsked : ∀ moment ∈ moments, ∀ code, Asks moment code → contentDigest code ≠ entry.key)
    (notPut : ∀ moment ∈ moments, ∀ code verdict, moment.event = .desk (.put code verdict) →
      contentDigest code ≠ entry.key) :
    entry.key ∉ last.keysOut ∧
      (last.desk.cache.find? entry.key = some entry ∨ ∃ moment ∈ moments, Drops moment entry) := by
  induction course with
  | start => exact ⟨idle, .inl present⟩
  | @next past state event course allowed ih =>
      obtain ⟨idleBefore, fate⟩ := ih
        (fun moment listed => notAsked moment (List.mem_append_left _ listed))
        (fun moment listed => notPut moment (List.mem_append_left _ listed))
      have final : process.moment state event ∈ past ++ [process.moment state event] :=
        List.mem_append_right _ (List.mem_singleton_self _)
      refine ⟨idle_step idleBefore (notAsked _ final), ?_⟩
      rcases fate with there | ⟨moment, listed, drops⟩
      · rcases (sound.course course).entry_step allowed there idleBefore (notPut _ final) with
          stays | drops
        · exact .inl stays
        · exact .inr ⟨_, final, drops⟩
      · exact .inr ⟨moment, List.mem_append_left _ listed, drops⟩

theorem Sound.idle_of_receive (sound : office.Sound) (out : code ∈ office.unanswered)
    (outcome : Except Fault Verdict) :
    contentDigest code ∉ (office.step (.desk (.receive code outcome))).1.keysOut := by
  intro still
  change contentDigest code ∈ ((office.unanswered.erase code) ++ []).map contentDigest at still
  rw [List.append_nil, map_erase_of_nodup sound.nodup out] at still
  simp at still

theorem expired_of_unread {entry : CacheEntry}
    (present : office.desk.cache.find? entry.key = some entry)
    (about : contentDigest code = entry.key)
    (unread : (office.desk.cache.get office.timeline.now code).1 = none) :
    Expired office entry := by
  refine ⟨present, ?_⟩
  rw [← about] at present
  have stale := Cache.get_eq_none_iff.mp unread entry present
  exact Int.not_le.mp (of_decide_eq_false stale)

/-- A verdict that came to a request is gone or has expired when the next request is sent. -/
theorem lapse_of_next_request {reply : OfficeMoment κ} {later : List (OfficeMoment κ)}
    {verdict : Verdict} {again : String} {event : OfficeEvent κ} (sound : office.Sound)
    (out : code ∈ office.unanswered)
    (received : reply = process.moment office (.desk (.receive code (.ok verdict))))
    (course : Course process reply.after later last)
    (asks : again ∈ codesAsked (last.step event).2)
    (same : contentDigest again = contentDigest code)
    (notAsked : ∀ moment ∈ later, ∀ other, Asks moment other →
      contentDigest other ≠ contentDigest code)
    (notPut : ∀ moment ∈ later, ∀ other stored, moment.event = .desk (.put other stored) →
      contentDigest other ≠ contentDigest code) :
    let entry := Cache.newEntry office.timeline.now code verdict
    (∃ moment ∈ later, Drops moment entry) ∨ Expired last entry := by
  intro entry
  subst received
  have soundAfter := sound.receive out (.ok verdict)
  have present :
      (process.moment office (.desk (.receive code (.ok verdict)))).after.desk.cache.find?
      entry.key = some entry := Cache.find?_put_self
  obtain ⟨_, there | dropped⟩ := present_or_dropped soundAfter course present
    (sound.idle_of_receive out _) notAsked notPut
  · have soundLast := soundAfter.course course
    exact .inr (expired_of_unread there same (soundLast.free_of_asks asks).1)
  · exact .inl dropped

/-! ## The law -/

/-- In every course of an office, no digest ever has two requests out; a request about code is sent
only when its verdict cannot be read from the cache and no request about its digest is out; and
between two requests about one digest that follow each other the reply to the first one comes, and
if that is a verdict, its entry is dropped later or has expired when the second one is sent.
Verdicts that are put into the cache from outside may push out other entries, but not replace this
one. -/
theorem requests_coalesce {hoverDelay timeToLive : Int} {capacity : { count : Nat // 0 < count }}
    (course : Course process (start hoverDelay (.empty timeToLive capacity)) moments last) :
    last.keysOut.Nodup ∧
    (∀ past moment rest code, moments = past ++ moment :: rest → Asks moment code →
      (moment.state.desk.cache.get moment.state.timeline.now code).1 = none ∧
        contentDigest code ∉ moment.state.keysOut) ∧
    ∀ past first between second rest code again,
      moments = past ++ first :: (between ++ second :: rest) →
      Asks first code → Asks second again → contentDigest again = contentDigest code →
      (∀ moment ∈ between, ∀ other, Asks moment other →
        contentDigest other ≠ contentDigest code) →
      ∃ waited reply later outcome, between = waited ++ reply :: later ∧
        reply.event = .desk (.receive code outcome) ∧
        ∀ verdict, outcome = .ok verdict →
          (∀ moment ∈ later, ∀ other stored, moment.event = .desk (.put other stored) →
            contentDigest other ≠ contentDigest code) →
          let entry := Cache.newEntry reply.state.timeline.now code verdict
          (∃ moment ∈ later, Drops moment entry) ∨ Expired second.state entry := by
  refine ⟨(sound_of_course course).nodup, ?_, ?_⟩
  · rintro past moment rest code rfl asks
    obtain ⟨before, _, equal, _⟩ := course.split
    rw [equal] at asks
    exact (sound_of_course before).free_of_asks asks
  · rintro past first between second rest code again rfl asksFirst asksSecond same notAsked
    obtain ⟨before, allowed, firstEq, after⟩ := course.split
    obtain ⟨middle, _, secondEq, _⟩ := after.split
    rw [firstEq] at asksFirst
    rw [secondEq] at asksSecond
    have soundFirst : first.after.Sound := by
      rw [firstEq]
      exact (sound_of_course before).step first.event allowed
    have soundSecond := soundFirst.course middle
    have out : code ∈ first.after.unanswered := by
      rw [firstEq]
      exact mem_unanswered_of_asks asksFirst
    rcases out_or_reply middle out with still | ⟨waited, reply, later, outcome, rfl, received⟩
    · have free := (soundSecond.free_of_asks asksSecond).2
      rw [same] at free
      exact absurd (List.mem_map_of_mem still) free
    · refine ⟨waited, reply, later, outcome, rfl, received, ?_⟩
      rintro verdict rfl notPut
      obtain ⟨upTo, possible, replyEq, onward⟩ := middle.split
      have soundReply := soundFirst.course upTo
      rw [received] at possible replyEq
      refine lapse_of_next_request soundReply possible replyEq onward asksSecond same ?_ notPut
      intro moment listed
      exact notAsked moment (List.mem_append_right _ (List.mem_cons_of_mem _ listed))

/-- A verdict to try things with. -/
def plainVerdict : Verdict :=
  ⟨.simple, ⟨0.5, by decide⟩, ⟨3, 1, 1, 0, 0⟩, ⟨12.5, by decide⟩, none⟩

/-- A desk whose cache has room for one verdict. -/
def smallOffice : Office Nat :=
  start 0 (.empty 5 ⟨1, Nat.one_pos⟩)

/-- A verdict comes and is cleared before the same code is asked about again. -/
def clearedEvents : List (OfficeEvent Nat) :=
  [.desk (.analyzeCode 1 "f"), .desk (.receive "f" (.ok plainVerdict)), .desk .clearCache,
    .desk (.handOn "f"), .desk (.analyzeCode 2 "f")]

theorem allows_clearedEvents : process.Allows smallOffice clearedEvents :=
  ⟨trivial, List.mem_singleton_self _, trivial, trivial, trivial, trivial⟩

/-- The law at work: the same code is asked about twice, and the first request has had its reply. -/
theorem requests_coalesce_cleared :
    ∃ first between second,
      process.moments smallOffice clearedEvents = first :: (between ++ [second]) ∧
      Asks first "f" ∧ Asks second "f" ∧ (process.last smallOffice clearedEvents).keysOut.Nodup ∧
      ∃ waited reply later outcome, between = waited ++ reply :: later ∧
        reply.event = .desk (.receive "f" outcome) := by
  let between := process.moments (process.last smallOffice (clearedEvents.take 1))
    ((clearedEvents.drop 1).take 3)
  have silent : ∀ moment ∈ between, codesAsked moment.acts = [] := by decide +kernel
  have asksFirst : Asks (process.moment smallOffice (.desk (.analyzeCode 1 "f"))) "f" :=
    List.mem_singleton_self _
  have asksSecond : Asks (process.moment (process.last smallOffice (clearedEvents.take 4))
      (.desk (.analyzeCode 2 "f"))) "f" := by
    rw [Asks]
    decide +kernel
  have ⟨unique, _, follow⟩ := requests_coalesce (Process.course_of_allows allows_clearedEvents)
  obtain ⟨waited, reply, later, outcome, split, received, _⟩ :=
    follow [] _ between _ [] "f" "f" rfl asksFirst asksSecond rfl (by
      intro moment listed other asks
      rw [Asks, silent moment listed] at asks
      exact absurd asks List.not_mem_nil)
  exact ⟨_, between, _, rfl, asksFirst, asksSecond, unique, waited, reply, later, outcome, split,
    received⟩

end Office

end CodeComplexity
