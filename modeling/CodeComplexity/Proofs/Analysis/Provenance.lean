import CodeComplexity.Proofs.Analysis.Coalescing
import CodeComplexity.Proofs.Analysis.Outcome
import CodeComplexity.Proofs.Verdict.Recency

/-!
# Where verdicts come from

A desk keeps verdicts in its cache and with the requests whose replies are still to be handed on,
and it keeps those who wait for verdicts.  Everything that it keeps goes back to what happened
before: verdicts to replies, and those who wait to queries about code with the same digest.  Every
event keeps that, and so whatever is given to a caller was returned for the code that was wanted on
its behalf.
-/

namespace CodeComplexity

open Source Text

variable {κ : Type}

/-- What has happened so far: on whose behalf verdicts were wanted on which text, and which verdicts
were returned for which code, each with the moment of its reply. -/
structure Record (κ : Type) where
  wanted : Waiter κ → LooseText → Prop
  returned : String → Verdict → Int → Prop

namespace Record

/-- What has happened later adds to what has happened before. -/
structure Extends (later record : Record κ) : Prop where
  wanted : ∀ waiter text, record.wanted waiter text → later.wanted waiter text
  returned : ∀ code verdict moment, record.returned code verdict moment →
    later.returned code verdict moment

/-- A verdict was wanted on code with a digest. -/
def Wanted (record : Record κ) (waiter : Waiter κ) (key : Digest) : Prop :=
  ∃ code : String, record.wanted waiter code ∧ contentDigest code = key

/-- A verdict was returned for code with a digest. -/
def Returned (record : Record κ) (key : Digest) (verdict : Verdict) : Prop :=
  ∃ sent moment, record.returned sent verdict moment ∧ contentDigest sent = key

end Record

variable {record later : Record κ}

/-! ## What a desk keeps -/

/-- An entry was returned for code with its digest, when it was stored. -/
def CacheEntry.Sourced (record : Record κ) (entry : CacheEntry) : Prop :=
  ∃ sent, record.returned sent entry.verdict entry.storedAt ∧ contentDigest sent = entry.key

/-- The outcome of a request was returned, and those who wait want the verdict on code with its
digest. -/
structure OpenRequest.Sourced (record : Record κ) (request : OpenRequest κ) : Prop where
  noted : ∀ verdict, request.outcome = some (.ok verdict) → record.Returned request.key verdict
  waiting : ∀ waiter ∈ request.waiters, record.Wanted waiter request.key

/-- All that a desk keeps goes back to what has happened. -/
structure Desk.Sourced (timeToLive : Int) (record : Record κ) (desk : Desk κ) : Prop where
  lifetime : desk.cache.timeToLive = timeToLive
  stored : ∀ entry ∈ desk.cache.entries, entry.Sourced record
  requests : ∀ request ∈ desk.requests, request.Sourced record
  settling : ∀ hover ∈ desk.settling,
    record.wanted ⟨hover.caller, .hover hover.span⟩ hover.code

/-- What a caller is given holds no verdict, or one that was returned for the code, by its digest,
on which it was wanted. -/
def DeskAct.Sourced (record : Record κ) : DeskAct κ → Prop
  | .ask _ => True
  | .give caller finding => ∀ found, finding = .ok found →
      found = .function none ∨
        ∃ purpose, ∃ code : String, ∃ verdict, record.wanted ⟨caller, purpose⟩ code ∧
          record.Returned (contentDigest code) verdict ∧
          purpose.finding (.ok verdict) = .ok found

theorem Record.Extends.wanted_key (extends_ : later.Extends record) {waiter : Waiter κ}
    {key : Digest} : record.Wanted waiter key → later.Wanted waiter key
  | ⟨code, wanted, about⟩ => ⟨code, extends_.wanted _ _ wanted, about⟩

theorem Record.Extends.returned_key (extends_ : later.Extends record) {key : Digest}
    {verdict : Verdict} : record.Returned key verdict → later.Returned key verdict
  | ⟨sent, moment, returned, about⟩ => ⟨sent, moment, extends_.returned _ _ _ returned, about⟩

theorem Desk.Sourced.mono {timeToLive : Int} {desk : Desk κ}
    (sourced : desk.Sourced timeToLive record) (extends_ : later.Extends record) :
    desk.Sourced timeToLive later := by
  constructor
  · exact sourced.lifetime
  · intro entry listed
    obtain ⟨sent, returned, about⟩ := sourced.stored entry listed
    exact ⟨sent, extends_.returned _ _ _ returned, about⟩
  · intro request listed
    have given := sourced.requests request listed
    exact ⟨fun verdict noted => extends_.returned_key (given.noted verdict noted),
      fun waiter waits => extends_.wanted_key (given.waiting waiter waits)⟩
  · exact fun hover waits => extends_.wanted _ _ (sourced.settling hover waits)

/-! ## Entries -/

namespace Cache

variable {cache : Cache} {now : Int} {code : String} {entry : CacheEntry}

theorem mem_of_mem_get (listed : entry ∈ (cache.get now code).2.entries) :
    entry ∈ cache.entries := by
  rw [get] at listed
  split at listed
  · exact listed
  · next found =>
    split at listed
    · rcases List.mem_append.mp listed with other | read
      · exact (List.mem_filter.mp other).1
      · rw [List.mem_singleton.mp read]
        exact mem_of_find? found
    · exact listed

/-- Storing a verdict adds its entry and no other one. -/
theorem mem_of_mem_put {verdict : Verdict}
    (listed : entry ∈ (cache.put now code verdict).entries) :
    entry ∈ cache.entries ∨ entry = newEntry now code verdict := by
  rw [entries_put] at listed
  rcases List.mem_append.mp (List.mem_of_mem_drop listed) with other | new
  · exact .inl (List.mem_filter.mp other).1
  · exact .inr (List.mem_singleton.mp new)

end Cache

/-! ## Giving -/

/-- What is handed on to someone who waits for a fault holds no verdict. -/
theorem Purpose.eq_none_of_finding_error {purpose : Purpose} {fault : Fault} {found : Finding}
    (given : purpose.finding (.error fault) = .ok found) : found = .function none := by
  cases purpose with
  | verdict => cases given
  | function span => cases given
  | hover span =>
      cases fault with
      | failure failure => exact (Except.ok.inj given).symm
      | _ => cases given

theorem DeskAct.sourced_give {waiter : Waiter κ} {code : String}
    (wanted : record.wanted waiter code) {outcome : Except Fault Verdict}
    (returned : ∀ verdict, outcome = .ok verdict → record.Returned (contentDigest code) verdict) :
    (DeskAct.give waiter.caller (waiter.purpose.finding outcome)).Sourced record := by
  intro found given
  cases outcome with
  | ok verdict =>
      exact .inr ⟨waiter.purpose, code, verdict, wanted, returned verdict rfl, given⟩
  | error fault => exact .inl (Purpose.eq_none_of_finding_error given)

theorem DeskAct.sourced_give_nothing (caller : κ) :
    (DeskAct.give caller (.ok (.function none))).Sourced record :=
  fun _ given => .inl (Except.ok.inj given).symm

theorem DeskAct.sourced_give_error (caller : κ) (fault : Fault) :
    (DeskAct.give caller (.error fault)).Sourced record :=
  fun _ given => nomatch given

/-! ## The events of a desk -/

namespace Desk

variable {timeToLive now : Int} {timeline : Timeline} {desk : Desk κ} {code : String}

theorem sourced_start (hoverDelay timeToLive : Int) (capacity : { count : Nat // 0 < count })
    (record : Record κ) :
    (start hoverDelay (.empty timeToLive capacity)).Sourced timeToLive record :=
  ⟨rfl, fun _ listed => absurd listed List.not_mem_nil,
    fun _ listed => absurd listed List.not_mem_nil, fun _ listed => absurd listed List.not_mem_nil⟩

/-- A verdict that is read was returned for code with the same digest, not too long ago. -/
theorem Sourced.read (sourced : desk.Sourced timeToLive record) {verdict : Verdict}
    (read : (desk.cache.get now code).1 = some verdict) :
    ∃ sent moment, record.returned sent verdict moment ∧
      contentDigest sent = contentDigest code ∧ now - moment ≤ timeToLive := by
  obtain ⟨entry, found, fresh, rfl⟩ := Cache.get_eq_some_iff.mp read
  obtain ⟨sent, returned, about⟩ := sourced.stored entry (Cache.mem_of_find? found)
  refine ⟨sent, entry.storedAt, returned, about.trans (Cache.key_of_find? found), ?_⟩
  rw [← sourced.lifetime]
  exact of_decide_eq_true fresh

theorem Sourced.look (sourced : desk.Sourced timeToLive record) (now : Int) (code : String) :
    { desk with cache := (desk.cache.get now code).2 }.Sourced timeToLive record :=
  ⟨Cache.timeToLive_get.trans sourced.lifetime,
    fun entry listed => sourced.stored entry (Cache.mem_of_mem_get listed), sourced.requests,
    sourced.settling⟩

theorem Sourced.withRequests (sourced : desk.Sourced timeToLive record)
    {requests : List (OpenRequest κ)} (given : ∀ request ∈ requests, request.Sourced record) :
    { desk with requests }.Sourced timeToLive record :=
  ⟨sourced.lifetime, sourced.stored, given, sourced.settling⟩

theorem sourced_request {waiter : Waiter κ} (wanted : record.wanted waiter code) :
    (OpenRequest.mk code [waiter] none).Sourced record := by
  constructor
  · intro verdict noted
    cases noted
  · intro other waits
    rw [List.mem_singleton.mp waits]
    exact ⟨code, wanted, rfl⟩

/-- Whoever wants a verdict may join a request about code with the same digest. -/
theorem sourced_join {waiter : Waiter κ} {request : OpenRequest κ}
    (wanted : record.wanted waiter code) (sourced : request.Sourced record) :
    (join waiter code request).Sourced record := by
  constructor
  · rw [key_join, outcome_join]
    exact sourced.noted
  · rw [key_join]
    intro other waits
    rw [join] at waits
    split at waits
    · next about =>
      rcases List.mem_append.mp waits with earlier | new
      · exact sourced.waiting other earlier
      · rw [List.mem_singleton.mp new]
        exact ⟨code, wanted, about.symm⟩
    · exact sourced.waiting other waits

theorem Sourced.seek (sourced : desk.Sourced timeToLive record) {waiter : Waiter κ}
    (wanted : record.wanted waiter code) :
    (desk.seek now waiter code).1.Sourced timeToLive record ∧
      ∀ act ∈ (desk.seek now waiter code).2, act.Sourced record := by
  rw [Desk.seek]
  split
  · next verdict cache read =>
    have same : cache = (desk.cache.get now code).2 := by rw [read]
    have hit : (desk.cache.get now code).1 = some verdict := by rw [read]
    obtain ⟨sent, moment, returned, about, -⟩ := sourced.read hit
    rw [same]
    refine ⟨sourced.look now code, ?_⟩
    intro act listed
    rw [List.mem_singleton.mp listed]
    refine DeskAct.sourced_give wanted ?_
    intro other same
    rw [← Except.ok.inj same]
    exact ⟨sent, moment, returned, about⟩
  · next cache read =>
    have same : cache = (desk.cache.get now code).2 := by rw [read]
    have looked := sourced.look now code
    rw [← same] at looked
    split
    · refine ⟨looked.withRequests ?_, ?_⟩
      · intro request listed
        rcases List.mem_append.mp listed with earlier | new
        · exact sourced.requests request earlier
        · rw [List.mem_singleton.mp new]
          exact sourced_request wanted
      · intro act listed
        rw [List.mem_singleton.mp listed]
        trivial
    · next sent waiters outcome found =>
      refine ⟨looked, ?_⟩
      intro act listed
      rw [List.mem_singleton.mp listed]
      refine DeskAct.sourced_give wanted ?_
      rintro verdict rfl
      have key : (OpenRequest.mk sent waiters (some (.ok verdict))).key = contentDigest code := by
        simpa using List.find?_some found
      rw [← key]
      exact (sourced.requests _ (List.mem_of_find?_eq_some found)).noted verdict rfl
    · refine ⟨looked.withRequests ?_, fun act listed => absurd listed List.not_mem_nil⟩
      intro request listed
      obtain ⟨earlier, there, rfl⟩ := List.mem_map.mp listed
      exact sourced_join wanted (sourced.requests earlier there)

/-- When its alarm rings a hover wants its verdict, which it has wanted all the time. -/
theorem Sourced.wanted_of_due (sourced : desk.Sourced timeToLive record) {alarm : Alarm}
    {hover : SettlingHover κ}
    (due : desk.settling.find? (fun hover => hover.alarm = alarm) = some hover) :
    record.wanted ⟨hover.caller, .hover hover.span⟩ hover.code :=
  sourced.settling hover (List.mem_of_find?_eq_some due)

theorem Sourced.rested (sourced : desk.Sourced timeToLive record) (alarm : Alarm) :
    (desk.rested alarm).Sourced timeToLive record :=
  ⟨sourced.lifetime, sourced.stored, sourced.requests,
    fun hover waits => sourced.settling hover (List.mem_filter.mp waits).1⟩

theorem Sourced.settle (sourced : desk.Sourced timeToLive record) {caller : κ} {uri : Uri}
    {span : FunctionSpan} (wanted : record.wanted ⟨caller, .hover span⟩ code) :
    (desk.settle timeline caller uri span code).Sourced timeToLive record := by
  refine ⟨sourced.lifetime, sourced.stored, sourced.requests, ?_⟩
  intro hover waits
  rcases List.mem_append.mp waits with earlier | new
  · exact sourced.settling hover earlier
  · rw [List.mem_singleton.mp new]
    exact wanted

theorem Sourced.withdraw (sourced : desk.Sourced timeToLive record) (isCaller : κ → Bool) :
    (desk.withdraw isCaller).1.Sourced timeToLive record ∧
      ∀ act ∈ (desk.withdraw isCaller).2, act.Sourced record := by
  constructor
  · refine ⟨sourced.lifetime, sourced.stored, ?_, ?_⟩
    · intro request listed
      obtain ⟨earlier, there, rfl⟩ := List.mem_map.mp listed
      have given := sourced.requests earlier there
      exact ⟨given.noted, fun waiter waits => given.waiting waiter (List.mem_filter.mp waits).1⟩
    · exact fun hover waits => sourced.settling hover (List.mem_filter.mp waits).1
  · intro act listed
    obtain ⟨caller, -, rfl⟩ := List.mem_map.mp listed
    exact DeskAct.sourced_give_error caller .cancelled

theorem Sourced.handOn (sourced : desk.Sourced timeToLive record) (code : String) :
    (desk.handOn code).1.Sourced timeToLive record ∧
      ∀ act ∈ (desk.handOn code).2, act.Sourced record := by
  rw [Desk.handOn]
  split
  · next sent waiters outcome found =>
    have given := sourced.requests _ (List.mem_of_find?_eq_some found)
    refine ⟨sourced.withRequests ?_, ?_⟩
    · exact fun request listed => sourced.requests request (List.mem_filter.mp listed).1
    · intro act listed
      obtain ⟨waiter, waits, rfl⟩ := List.mem_map.mp listed
      obtain ⟨code, wanted, about⟩ := given.waiting waiter waits
      refine DeskAct.sourced_give wanted ?_
      rintro verdict rfl
      rw [about]
      exact given.noted verdict rfl
  · exact ⟨sourced, fun act listed => absurd listed List.not_mem_nil⟩
  · exact ⟨sourced, fun act listed => absurd listed List.not_mem_nil⟩

/-- A reply is stored and noted for code with the digest of what it is about. -/
theorem Sourced.receive (sourced : desk.Sourced timeToLive record)
    {outcome : Except Fault Verdict}
    (replied : ∀ verdict, outcome = .ok verdict → record.returned code verdict now) :
    (desk.receive now code outcome).Sourced timeToLive record := by
  refine ⟨?_, ?_, ?_, sourced.settling⟩
  · cases outcome with
    | error fault => exact sourced.lifetime
    | ok verdict => exact sourced.lifetime
  · cases outcome with
    | error fault => exact sourced.stored
    | ok verdict =>
        intro entry listed
        rcases Cache.mem_of_mem_put listed with earlier | rfl
        · exact sourced.stored entry earlier
        · exact ⟨code, replied verdict rfl, rfl⟩
  · intro request listed
    obtain ⟨earlier, there, rfl⟩ := List.mem_map.mp listed
    have given := sourced.requests earlier there
    rw [note]
    split
    · next about =>
      refine ⟨?_, given.waiting⟩
      intro verdict noted
      exact ⟨code, now, replied verdict (Option.some.inj noted), about.symm⟩
    · exact given

/-- Whatever happens at a desk, what it gives goes back to what has happened before, and what it
keeps then goes back to what has happened by then. -/
theorem Sourced.step (sourced : desk.Sourced timeToLive record) (timeline : Timeline)
    (event : DeskEvent κ)
    (asked : ∀ waiter text, event.Wants waiter text → record.wanted waiter text)
    (unput : ∀ code verdict, event ≠ .put code verdict) (extends_ : later.Extends record)
    (replied : ∀ code verdict, event = .receive code (.ok verdict) →
      later.returned code verdict timeline.now) :
    (desk.step timeline event).1.Sourced timeToLive later ∧
      ∀ act ∈ (desk.step timeline event).2, act.Sourced record := by
  have silent : ∀ act ∈ ([] : List (DeskAct κ)), act.Sourced record := by simp
  generalize result : desk.step timeline event = change
  have outcome := desk.outcome timeline event
  rw [result] at outcome
  cases outcome with
  | sought wants writes =>
      have wanted := asked _ _ wants
      rw [LooseText.encoded_eq_ok.mp writes] at wanted
      exact (sourced.seek wanted).imp_left (·.mono extends_)
  | unwritten =>
      exact ⟨sourced.mono extends_, List.forall_mem_singleton.mpr (DeskAct.sourced_give_error _ _)⟩
  | woken due =>
      exact ((sourced.rested _).seek (sourced.wanted_of_due due)).imp_left (·.mono extends_)
  | settled caller uri found writes =>
      have wanted := asked _ _ (.hover caller uri found)
      rw [LooseText.encoded_eq_ok.mp writes] at wanted
      exact ⟨(sourced.settle wanted).mono extends_, silent⟩
  | superseded =>
      exact ⟨(sourced.rested _).mono extends_,
        List.forall_mem_singleton.mpr (DeskAct.sourced_give_nothing _)⟩
  | nowhere =>
      exact ⟨sourced.mono extends_, List.forall_mem_singleton.mpr (DeskAct.sourced_give_nothing _)⟩
  | hoveredNowhere =>
      exact ⟨sourced.mono extends_, List.forall_mem_singleton.mpr (DeskAct.sourced_give_nothing _)⟩
  | blank =>
      exact ⟨sourced.mono extends_, List.forall_mem_singleton.mpr (DeskAct.sourced_give_error _ _)⟩
  | unowned => exact ⟨sourced.mono extends_, silent⟩
  | withdrawn isCaller => exact (sourced.withdraw isCaller).imp_left (·.mono extends_)
  | received code outcome =>
      refine ⟨(sourced.mono extends_).receive ?_, silent⟩
      rintro verdict rfl
      exact replied code verdict rfl
  | handedOn code => exact (sourced.handOn code).imp_left (·.mono extends_)
  | stored code verdict => exact absurd rfl (unput code verdict)
  | cleared =>
      have nothing : ∀ entry ∈ ([] : List CacheEntry), entry.Sourced later := by simp
      have kept := sourced.mono extends_
      exact ⟨⟨kept.lifetime, nothing, kept.requests, kept.settling⟩, silent⟩
  | forgotten =>
      have kept := sourced.mono extends_
      exact ⟨⟨kept.lifetime, kept.stored, kept.requests, kept.settling⟩, silent⟩

end Desk

/-! ## Traces -/

/-- What is to be seen of a moment: on whose behalf verdicts are wanted on which text, which code is
sent to the classifier, and which verdict comes back for which code, and when. -/
structure Trace (κ μ : Type) where
  wants : μ → Waiter κ → LooseText → Prop
  sends : μ → String → Prop
  returns : μ → String → Verdict → Int → Prop

namespace Trace

variable {μ : Type} {trace : Trace κ μ} {moments past : List μ} {code : String}
  {verdict : Verdict} {replied : Int}

/-- The verdict on a text was wanted. -/
def Wanted (trace : Trace κ μ) (moments : List μ) (waiter : Waiter κ) (text : LooseText) : Prop :=
  ∃ moment ∈ moments, trace.wants moment waiter text

/-- A piece of code was sent to the classifier, and later a verdict came back for it. -/
def Returned (trace : Trace κ μ) (moments : List μ) (code : String) (verdict : Verdict)
    (replied : Int) : Prop :=
  ∃ sent reply, [sent, reply].Sublist moments ∧ trace.sends sent code ∧
    trace.returns reply code verdict replied

/-- No other code with the digest of a piece of code was sent to the classifier. -/
def Unmistaken (trace : Trace κ μ) (moments : List μ) (code : String) : Prop :=
  ∀ moment ∈ moments, ∀ sent, trace.sends moment sent →
    contentDigest sent = contentDigest code → sent = code

/-- What has happened so far. -/
def recordOf (trace : Trace κ μ) (moments : List μ) : Record κ :=
  ⟨trace.Wanted moments, trace.Returned moments⟩

/-- What a moment can go back to: what was wanted until then, and what was returned before. -/
def recordAt (trace : Trace κ μ) (past : List μ) (moment : μ) : Record κ :=
  ⟨trace.Wanted (past ++ [moment]), trace.Returned past⟩

theorem recordAt_extends (trace : Trace κ μ) (past : List μ) (moment : μ) :
    (trace.recordAt past moment).Extends (trace.recordOf past) := by
  constructor
  · rintro waiter code ⟨earlier, listed, wants⟩
    exact ⟨earlier, List.mem_append_left _ listed, wants⟩
  · exact fun _ _ _ returned => returned

theorem recordOf_extends (trace : Trace κ μ) (past : List μ) (moment : μ) :
    (trace.recordOf (past ++ [moment])).Extends (trace.recordAt past moment) := by
  constructor
  · exact fun _ _ wanted => wanted
  · rintro code verdict replied ⟨sent, reply, order, came⟩
    exact ⟨sent, reply, order.trans (List.sublist_append_left _ _), came⟩

theorem wanted_of_wants {moment : μ} {waiter : Waiter κ} {text : LooseText}
    (wants : trace.wants moment waiter text) (past : List μ) :
    trace.Wanted (past ++ [moment]) waiter text :=
  ⟨moment, List.mem_append_right _ (List.mem_singleton_self _), wants⟩

/-- The verdict on code that was sent is returned when it comes back. -/
theorem returned_of_returns {moment : μ} (asked : ∃ sent ∈ past, trace.sends sent code)
    (returns : trace.returns moment code verdict replied) :
    trace.Returned (past ++ [moment]) code verdict replied := by
  obtain ⟨sent, listed, sends⟩ := asked
  exact ⟨sent, moment, (List.singleton_sublist.mpr listed).append (.refl [moment]), sends, returns⟩

/-- What was returned for code with the same digest was returned for the code itself. -/
theorem Returned.exactly {sent : String} (returned : trace.Returned past sent verdict replied)
    (about : contentDigest sent = contentDigest code) (unmistaken : trace.Unmistaken past code) :
    trace.Returned past code verdict replied := by
  obtain ⟨request, reply, order, sends, came⟩ := returned
  have listed : request ∈ past := order.subset List.mem_cons_self
  obtain rfl := unmistaken request listed sent sends about
  exact ⟨request, reply, order, sends, came⟩

theorem returned_of_read {timeToLive now : Int} {desk : Desk κ}
    (sourced : desk.Sourced timeToLive (trace.recordOf past))
    (read : (desk.cache.get now code).1 = some verdict) (unmistaken : trace.Unmistaken past code) :
    ∃ replied, trace.Returned past code verdict replied ∧ now - replied ≤ timeToLive := by
  obtain ⟨sent, replied, returned, about, recent⟩ := sourced.read read
  exact ⟨replied, Returned.exactly returned about unmistaken, recent⟩

end Trace

/-! ## Offices -/

namespace Office

variable {office last : Office κ} {moments past rest : List (OfficeMoment κ)}
  {moment : OfficeMoment κ} {code : String}

/-- What is to be seen of a moment in an office. -/
def trace : Trace κ (OfficeMoment κ) where
  wants moment waiter text := ∃ event, moment.event = .desk event ∧ event.Wants waiter text
  sends := Asks
  returns moment code verdict replied :=
    moment.event = .desk (.receive code (.ok verdict)) ∧ moment.state.timeline.now = replied

/-- All that is kept in an office, and all requests that are out, go back to what has happened. -/
structure Traced (timeToLive : Int) (past : List (OfficeMoment κ)) (office : Office κ) : Prop where
  desk : office.desk.Sourced timeToLive (trace.recordOf past)
  out : ∀ code ∈ office.unanswered, ∃ sent ∈ past, Asks sent code

/-- What happens at a moment goes back to what has happened before: what is given to callers and
what may be read from the cache was returned before, and a request that fails leaves the cache
alone. -/
structure Accounted (timeToLive : Int) (past : List (OfficeMoment κ)) (moment : OfficeMoment κ) :
    Prop where
  /-- A verdict that a caller gets was returned for the code on which it was wanted. -/
  given : ∀ caller found, .give caller (.ok found) ∈ moment.acts →
    found = .function none ∨
      ∃ purpose, ∃ code : String, trace.Wanted (past ++ [moment]) ⟨caller, purpose⟩ code ∧
        (trace.Unmistaken past code → ∃ verdict replied,
          trace.Returned past code verdict replied ∧ purpose.finding (.ok verdict) = .ok found)
  /-- A verdict that may be read was returned for the code, not too long ago. -/
  read : ∀ code verdict,
    (moment.state.desk.cache.get moment.state.timeline.now code).1 = some verdict →
    trace.Unmistaken past code → ∃ replied, trace.Returned past code verdict replied ∧
      moment.state.timeline.now - replied ≤ timeToLive
  failed : ∀ code fault, moment.event = .desk (.receive code (.error fault)) →
    moment.after.desk.cache = moment.state.desk.cache
  handedOn : ∀ code, moment.event = .desk (.handOn code) →
    moment.after.desk.cache = moment.state.desk.cache

theorem mem_of_mem_stillOut {codes : List String} {event : DeskEvent κ}
    (listed : code ∈ stillOut codes event) : code ∈ codes := by
  cases event with
  | receive other outcome => exact List.mem_of_mem_erase listed
  | _ => exact listed

/-- Whatever may happen in an office, unless a verdict is put into the cache from outside, what is
given goes back to what has happened before. -/
theorem Traced.step {timeToLive : Int} (traced : Traced timeToLive past office)
    (event : OfficeEvent κ) (allowed : office.may event)
    (unput : ∀ code verdict, event ≠ .desk (.put code verdict)) :
    Traced timeToLive (past ++ [process.moment office event])
        (process.moment office event).after ∧
      ∀ act ∈ (process.moment office event).acts,
        act.Sourced (trace.recordAt past (process.moment office event)) := by
  generalize same : process.moment office event = moment
  have before := traced.desk.mono (trace.recordAt_extends past moment)
  have stillOut : ∀ code ∈ office.unanswered, ∃ sent ∈ past ++ [moment], Asks sent code := by
    intro code out
    obtain ⟨sent, listed, asks⟩ := traced.out code out
    exact ⟨sent, List.mem_append_left _ listed, asks⟩
  have later := trace.recordOf_extends past moment
  cases event with
  | look code =>
      subst same
      exact ⟨⟨(before.look _ _).mono later, stillOut⟩,
        fun act listed => absurd listed List.not_mem_nil⟩
  | wait time =>
      subst same
      exact ⟨⟨before.mono later, stillOut⟩, fun act listed => absurd listed List.not_mem_nil⟩
  | desk event =>
      have happens : moment.event = .desk event := by rw [← same]; rfl
      have asked (waiter : Waiter κ) (text : LooseText) (wants : event.Wants waiter text) :
          trace.Wanted (past ++ [moment]) waiter text := by
        have seen : trace.wants moment waiter text := ⟨event, happens, wants⟩
        exact Trace.wanted_of_wants seen past
      obtain ⟨desk, acts⟩ := before.step office.timeline event asked
        (fun code verdict put => unput code verdict (congrArg _ put)) later
        (by
          rintro code verdict rfl
          have returns : trace.returns moment code verdict office.timeline.now :=
            ⟨happens, by rw [← same]; rfl⟩
          exact Trace.returned_of_returns (traced.out code allowed) returns)
      subst same
      refine ⟨⟨desk, ?_⟩, acts⟩
      intro code out
      rcases List.mem_append.mp out with old | new
      · exact stillOut code (mem_of_mem_stillOut old)
      · exact ⟨_, List.mem_append_right _ (List.mem_singleton_self _), new⟩

theorem traced_of_course {hoverDelay timeToLive : Int} {capacity : { count : Nat // 0 < count }}
    (course : Course process (start hoverDelay (.empty timeToLive capacity)) moments last)
    (unput : ∀ moment ∈ moments, ∀ code verdict, moment.event ≠ .desk (.put code verdict)) :
    Traced timeToLive moments last := by
  induction course with
  | start =>
      constructor
      · exact Desk.sourced_start hoverDelay timeToLive capacity _
      · exact fun code out => absurd out List.not_mem_nil
  | next event course allowed ih =>
      have before := ih fun moment listed => unput moment (List.mem_append_left _ listed)
      exact (before.step event allowed
        (unput _ (List.mem_append_right _ (List.mem_singleton_self _)))).1

/-- At every moment of an office into whose cache nothing is put from outside, what is given to
callers and what may be read goes back to replies that came before. -/
theorem accounted_of_course {hoverDelay timeToLive : Int}
    {capacity : { count : Nat // 0 < count }}
    (course : Course process (start hoverDelay (.empty timeToLive capacity))
      (past ++ moment :: rest) last)
    (unput : ∀ other ∈ past ++ moment :: rest, ∀ code verdict,
      other.event ≠ .desk (.put code verdict)) :
    Accounted timeToLive past moment := by
  obtain ⟨before, allowed, equal, -⟩ := course.split
  have traced := traced_of_course before
    fun moment listed => unput moment (List.mem_append_left _ listed)
  have sourced := (traced.step moment.event allowed (unput moment (by simp))).2
  rw [← equal] at sourced
  constructor
  · intro caller found given
    rcases sourced _ given found rfl with nothing |
      ⟨purpose, code, verdict, wanted, ⟨sent, replied, returned, about⟩, made⟩
    · exact .inl nothing
    · exact .inr ⟨purpose, code, wanted, fun unmistaken =>
        ⟨verdict, replied, Trace.Returned.exactly returned about unmistaken, made⟩⟩
  · exact fun code verdict read unmistaken => Trace.returned_of_read traced.desk read unmistaken
  · intro code fault failed
    rw [equal, failed]
    rfl
  · intro code handed
    rw [equal, handed]
    exact moment.state.desk.cache_handOn code

end Office

end CodeComplexity
