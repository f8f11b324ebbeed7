import CodeComplexity.Proofs.Analysis.Outcome
import CodeComplexity.Proofs.Analysis.Requests
import CodeComplexity.Proofs.Course

/-!
# A desk and its surroundings

A desk with its clock and with the requests that are out: those that have been sent and whose reply
has not come back.  They are counted by what goes in and out, not by what the desk has noted.
Replies come to requests that are out, in any order; everything else may happen at any time, and
others may read the cache.  `Office.Sound` ties the requests that are out to those that the desk
waits for.
-/

namespace CodeComplexity

open Source Text

/-- A desk, its clock, and the codes of the requests that are out. -/
structure Office (κ : Type) where
  timeline : Timeline
  desk : Desk κ
  unanswered : List String

/-- What happens in an office. -/
inductive OfficeEvent (κ : Type) where
  | desk (event : DeskEvent κ)
  /-- Someone else reads the cache. -/
  | look (code : String)
  /-- Time passes up to a moment. -/
  | wait (moment : Int)

variable {κ : Type}

namespace Office

def start (hoverDelay : Int) (cache : Cache) : Office κ :=
  ⟨.start, .start hoverDelay cache, []⟩

/-- Only a request that is out gets a reply. -/
def may (office : Office κ) : OfficeEvent κ → Prop
  | .desk (.receive code _) => code ∈ office.unanswered
  | .desk _ | .look _ | .wait _ => True

/-- The requests that are still out after an event. -/
def stillOut (unanswered : List String) : DeskEvent κ → List String
  | .receive code _ => unanswered.erase code
  | _ => unanswered

def step (office : Office κ) : OfficeEvent κ → Office κ × List (DeskAct κ)
  | .desk event =>
    let (desk, acts) := office.desk.step office.timeline event
    (⟨office.timeline.afterAlarm, desk, stillOut office.unanswered event ++ codesAsked acts⟩, acts)
  | .look code =>
    let cache := (office.desk.cache.get office.timeline.now code).2
    ({ office with desk := { office.desk with cache } }, [])
  | .wait moment => ({ office with timeline := office.timeline.movedTo moment }, [])

/-- An office as a process. -/
def process : Process (Office κ) (OfficeEvent κ) (DeskAct κ) :=
  ⟨may, step⟩

/-- The digests of the requests that are out. -/
def keysOut (office : Office κ) : List Digest :=
  office.unanswered.map contentDigest

/-- Each digest has one request at most, and the replies that the desk waits for are those of the
requests that are out. -/
structure Sound (office : Office κ) : Prop where
  unique : office.desk.requested.Nodup
  out : office.keysOut = office.desk.unreceived
  distinct : office.desk.cache.Distinct

theorem Sound.nodup {office : Office κ} (sound : office.Sound) : office.keysOut.Nodup := by
  rw [sound.out]
  exact office.desk.unreceived_sublist.nodup sound.unique

theorem sound_start (hoverDelay timeToLive : Int) (capacity : { count : Nat // 0 < count }) :
    (start hoverDelay (.empty timeToLive capacity) : Office κ).Sound :=
  ⟨List.nodup_nil, rfl, Cache.distinct_empty _ _⟩

/-- Taking out one of several keyed values takes out its key, if no key occurs twice. -/
theorem map_erase_of_nodup {code : String} {codes : List String}
    (unique : (codes.map contentDigest).Nodup) (listed : code ∈ codes) :
    (codes.erase code).map contentDigest =
      (codes.map contentDigest).filter fun key => key ≠ contentDigest code := by
  induction codes with
  | nil => simp at listed
  | cons head rest ih =>
      rw [List.map_cons, List.nodup_cons] at unique
      by_cases same : head = code
      · subst same
        have kept : (rest.map contentDigest).filter (fun key => key ≠ contentDigest head) =
            rest.map contentDigest := by
          apply List.filter_eq_self.mpr
          intro key member
          have other : key ≠ contentDigest head := fun equal => unique.1 (equal ▸ member)
          simpa using other
        rw [List.erase_cons_head, List.map_cons, List.filter_cons_of_neg (by simp), kept]
      · have below : code ∈ rest := (List.mem_cons.mp listed).resolve_left (Ne.symm same)
        have other : contentDigest head ≠ contentDigest code := by
          intro equal
          exact unique.1 (equal ▸ List.mem_map_of_mem below)
        rw [List.erase_cons_tail (by simpa using same), List.map_cons, List.map_cons,
          List.filter_cons_of_pos (by simpa using other), ih unique.2 below]

end Office

namespace Desk

/-- An event sends a request or is quiet, unless it is a reply or changes the cache from outside. -/
theorem step_cases (desk : Desk κ) (timeline : Timeline) (event : DeskEvent κ) :
    desk.SendsOrQuiet timeline.now (desk.step timeline event) ∧
        (∀ unanswered, Office.stillOut unanswered event = unanswered) ∨
      (∃ code outcome, event = .receive code outcome) ∨ (∃ code, event = .handOn code) ∨
      (∃ code verdict, event = .put code verdict) ∨ event = .clearCache := by
  have came := desk.outcome timeline event
  generalize desk.step timeline event = change at came
  cases came with
  | sought wants _ =>
      refine .inl ⟨desk.sendsOrQuiet_seek _ _ _, ?_⟩
      cases wants <;> exact fun _ => rfl
  | unwritten wants _ =>
      refine .inl ⟨.inr (desk.quiet_give _ _), ?_⟩
      cases wants <;> exact fun _ => rfl
  | nowhere | hoveredNowhere | blank => exact .inl ⟨.inr (desk.quiet_give _ _), fun _ => rfl⟩
  | woken =>
      refine .inl ⟨SendsOrQuiet.of_same ?_ ?_ (sendsOrQuiet_seek _ _ _ _), fun _ => rfl⟩
      · rfl
      · rfl
  | settled | superseded | unowned | forgotten =>
      exact .inl ⟨.inr (quiet_of_cache_eq rfl rfl rfl), fun _ => rfl⟩
  | withdrawn isCaller => exact .inl ⟨.inr (desk.quiet_withdraw isCaller), fun _ => rfl⟩
  | received code outcome => exact .inr (.inl ⟨code, outcome, rfl⟩)
  | handedOn code => exact .inr (.inr (.inl ⟨code, rfl⟩))
  | stored code verdict => exact .inr (.inr (.inr (.inl ⟨code, verdict, rfl⟩)))
  | cleared => exact .inr (.inr (.inr (.inr rfl)))

theorem Sends.requested_eq {desk : Desk κ} {now : Int} {code : String}
    {change : Desk κ × List (DeskAct κ)} (sends : desk.Sends now code change) :
    change.1.requested = desk.requested ++ [contentDigest code] := by
  rw [requested, sends.ledger_eq, List.map_append]
  rfl

theorem Sends.unreceived_eq {desk : Desk κ} {now : Int} {code : String}
    {change : Desk κ × List (DeskAct κ)} (sends : desk.Sends now code change) :
    change.1.unreceived = desk.unreceived ++ [contentDigest code] := by
  rw [unreceived, sends.ledger_eq, List.filter_append, List.map_append]
  rfl

theorem Quiet.distinct {desk : Desk κ} {change : Desk κ × List (DeskAct κ)}
    (quiet : desk.Quiet change) (distinct : desk.cache.Distinct) : change.1.cache.Distinct := by
  rcases quiet.cache_eq with same | ⟨now, code, read⟩
  · rw [same]
    exact distinct
  · rw [read]
    exact distinct.get

theorem distinct_receive {desk : Desk κ} (distinct : desk.cache.Distinct) (now : Int)
    (code : String) (outcome : Except Fault Verdict) :
    (desk.receive now code outcome).cache.Distinct := by
  cases outcome with
  | ok verdict => exact distinct.put
  | error fault => exact distinct

end Desk

namespace Office

variable {office : Office κ}

theorem desk_step (office : Office κ) (event : DeskEvent κ) :
    (office.step (.desk event)).1.desk = (office.desk.step office.timeline event).1 := rfl

theorem keysOut_step (office : Office κ) (event : DeskEvent κ) :
    (office.step (.desk event)).1.keysOut = (stillOut office.unanswered event ++
      codesAsked (office.desk.step office.timeline event).2).map contentDigest := rfl

theorem Sound.sends (sound : office.Sound) {event : DeskEvent κ} {code : String}
    (sends : office.desk.Sends office.timeline.now code (office.desk.step office.timeline event))
    (still : stillOut office.unanswered event = office.unanswered) :
    (office.step (.desk event)).1.Sound := by
  constructor
  · rw [desk_step, sends.requested_eq, List.nodup_append]
    refine ⟨sound.unique, by simp, ?_⟩
    intro key listed other last equal
    rw [List.mem_singleton.mp last] at equal
    exact sends.unrequested (equal ▸ listed)
  · rw [keysOut_step, desk_step, still, sends.asks, sends.unreceived_eq, List.map_append,
      ← sound.out]
    rfl
  · rw [desk_step, sends.cache_eq]
    exact sound.distinct

theorem Sound.quiet (sound : office.Sound) {event : DeskEvent κ}
    (quiet : office.desk.Quiet (office.desk.step office.timeline event))
    (still : stillOut office.unanswered event = office.unanswered) :
    (office.step (.desk event)).1.Sound := by
  constructor
  · rw [desk_step, Desk.requested, quiet.ledger_eq]
    exact sound.unique
  · rw [keysOut_step, desk_step, still, quiet.asks, List.append_nil, Desk.unreceived,
      quiet.ledger_eq]
    exact sound.out
  · exact quiet.distinct sound.distinct

theorem Sound.receive (sound : office.Sound) {code : String} (out : code ∈ office.unanswered)
    (outcome : Except Fault Verdict) :
    (office.step (.desk (.receive code outcome))).1.Sound := by
  constructor
  · change (office.desk.receive office.timeline.now code outcome).requested.Nodup
    rw [Desk.requested_receive]
    exact sound.unique
  · change (office.unanswered.erase code ++ []).map contentDigest =
      (office.desk.receive office.timeline.now code outcome).unreceived
    rw [List.append_nil, map_erase_of_nodup sound.nodup out, Desk.unreceived_receive, ← sound.out]
    rfl
  · exact Desk.distinct_receive sound.distinct _ _ _

theorem Sound.handOn (sound : office.Sound) (code : String) :
    (office.step (.desk (.handOn code))).1.Sound := by
  constructor
  · exact (office.desk.requested_handOn_sublist code).nodup sound.unique
  · change (office.unanswered ++ codesAsked (office.desk.handOn code).2).map contentDigest =
      (office.desk.handOn code).1.unreceived
    rw [Desk.codesAsked_handOn, List.append_nil, Desk.unreceived_handOn sound.unique]
    exact sound.out
  · change (office.desk.handOn code).1.cache.Distinct
    rw [Desk.cache_handOn]
    exact sound.distinct

theorem Sound.step (sound : office.Sound) (event : OfficeEvent κ) (allowed : office.may event) :
    (office.step event).1.Sound := by
  cases event with
  | look code => exact ⟨sound.unique, sound.out, sound.distinct.get⟩
  | wait moment => exact ⟨sound.unique, sound.out, sound.distinct⟩
  | desk event =>
      rcases office.desk.step_cases office.timeline event with
        ⟨⟨code, sends⟩ | quiet, still⟩ | ⟨code, outcome, rfl⟩ | ⟨code, rfl⟩ |
          ⟨code, verdict, rfl⟩ | rfl
      · exact sound.sends sends (still _)
      · exact sound.quiet quiet (still _)
      · exact sound.receive allowed outcome
      · exact sound.handOn code
      · refine ⟨sound.unique, ?_, sound.distinct.put⟩
        exact (congrArg (List.map contentDigest) (List.append_nil _)).trans sound.out
      · refine ⟨sound.unique, ?_, Cache.distinct_clear _⟩
        exact (congrArg (List.map contentDigest) (List.append_nil _)).trans sound.out

theorem Sound.course {last : Office κ}
    {moments : List (Moment (Office κ) (OfficeEvent κ) (DeskAct κ))} (sound : office.Sound)
    (course : Course process office moments last) : last.Sound :=
  course.invariant sound fun _ event allowed sound => sound.step event allowed

theorem sound_of_course {hoverDelay timeToLive : Int} {capacity : { count : Nat // 0 < count }}
    {moments : List (Moment (Office κ) (OfficeEvent κ) (DeskAct κ))}
    (course : Course process (start hoverDelay (.empty timeToLive capacity)) moments office) :
    office.Sound :=
  (sound_start _ _ _).course course

end Office

end CodeComplexity
