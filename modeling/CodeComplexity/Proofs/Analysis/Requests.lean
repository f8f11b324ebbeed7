import CodeComplexity.Analysis.Course
import CodeComplexity.Proofs.Verdict.Entries

/-!
# The requests of a desk

What each event does to the requests of a desk, to the cache, and to the outside.  The ledger of a
desk says which digests have a request and whether its reply has been received.  Whoever seeks a
verdict either sends a request, which needs that neither the cache nor the ledger has one for the
code, or leaves the ledger as it was and sends nothing.
-/

namespace CodeComplexity

open Source Text

variable {κ : Type}

def codesAsked (acts : List (DeskAct κ)) : List String :=
  acts.filterMap fun act =>
    match act with
    | .ask code => some code
    | .give _ _ => none

@[simp] theorem codesAsked_nil : codesAsked ([] : List (DeskAct κ)) = [] := rfl

@[simp] theorem codesAsked_ask (code : String) (acts : List (DeskAct κ)) :
    codesAsked (.ask code :: acts) = code :: codesAsked acts := rfl

@[simp] theorem codesAsked_give (caller : κ) (finding : Except Fault Finding)
    (acts : List (DeskAct κ)) : codesAsked (.give caller finding :: acts) = codesAsked acts := rfl

theorem codesAsked_map_give {α : Type} (caller : α → κ) (finding : α → Except Fault Finding)
    (givers : List α) :
    codesAsked (givers.map fun giver => .give (caller giver) (finding giver)) = [] := by
  induction givers with
  | nil => rfl
  | cons giver rest ih => rw [List.map_cons, codesAsked_give, ih]

namespace Desk

variable {desk : Desk κ} {now : Int} {timeline : Timeline} {code : String}

/-- The digests that have a request, each with whether its reply has been received. -/
def ledger (desk : Desk κ) : List (Digest × Bool) :=
  desk.requests.map fun request => (request.key, request.outcome.isSome)

/-- The digests that have a request. -/
def requested (desk : Desk κ) : List Digest :=
  desk.ledger.map Prod.fst

/-- The digests that have a request whose reply has not been received. -/
def unreceived (desk : Desk κ) : List Digest :=
  (desk.ledger.filter fun line => !line.2).map Prod.fst

theorem unreceived_sublist (desk : Desk κ) : desk.unreceived.Sublist desk.requested :=
  List.filter_sublist.map Prod.fst

/-- A request is sent: neither the cache nor another request has a verdict to offer, and the ledger
has one more line. -/
structure Sends (desk : Desk κ) (now : Int) (code : String)
    (change : Desk κ × List (DeskAct κ)) : Prop where
  uncached : (desk.cache.get now code).1 = none
  unrequested : contentDigest code ∉ desk.requested
  asks : codesAsked change.2 = [code]
  ledger_eq : change.1.ledger = desk.ledger ++ [(contentDigest code, false)]
  cache_eq : change.1.cache = desk.cache

/-- Nothing is sent: the ledger stays as it is, and the cache is read at most. -/
structure Quiet (desk : Desk κ) (change : Desk κ × List (DeskAct κ)) : Prop where
  asks : codesAsked change.2 = []
  ledger_eq : change.1.ledger = desk.ledger
  cache_eq : change.1.cache = desk.cache ∨
    ∃ now code, change.1.cache = (desk.cache.get now code).2

/-- Something happens at the desk that sends a request or is quiet. -/
def SendsOrQuiet (desk : Desk κ) (now : Int) (change : Desk κ × List (DeskAct κ)) : Prop :=
  (∃ code, desk.Sends now code change) ∨ desk.Quiet change

/-- Only the ledger and the cache decide whether a request is sent. -/
theorem SendsOrQuiet.of_same {other : Desk κ} {change : Desk κ × List (DeskAct κ)}
    (ledger : other.ledger = desk.ledger) (cache : other.cache = desk.cache)
    (given : other.SendsOrQuiet now change) : desk.SendsOrQuiet now change := by
  rcases given with ⟨code, sends⟩ | quiet
  · left
    refine ⟨code, ?_, ?_, sends.asks, ?_, ?_⟩
    · rw [← cache]
      exact sends.uncached
    · rw [requested, ← ledger]
      exact sends.unrequested
    · rw [← ledger]
      exact sends.ledger_eq
    · rw [← cache]
      exact sends.cache_eq
  · right
    refine ⟨quiet.asks, ?_, ?_⟩
    · rw [← ledger]
      exact quiet.ledger_eq
    · rw [← cache]
      exact quiet.cache_eq

theorem request?_eq_none_iff :
    desk.request? code = none ↔ contentDigest code ∉ desk.requested := by
  simp [request?, requested, ledger, List.find?_eq_none]

theorem ledger_map_of_same {change : OpenRequest κ → OpenRequest κ}
    (key : ∀ request, (change request).key = request.key)
    (outcome : ∀ request, (change request).outcome.isSome = request.outcome.isSome) :
    (desk.requests.map change).map (fun request => (request.key, request.outcome.isSome)) =
      desk.ledger := by
  rw [List.map_map]
  apply List.map_congr_left
  intro request _
  simp only [Function.comp_apply, key, outcome]

theorem key_join (waiter : Waiter κ) (code : String) (request : OpenRequest κ) :
    (join waiter code request).key = request.key := by
  rw [join]
  split <;> rfl

theorem outcome_join (waiter : Waiter κ) (code : String) (request : OpenRequest κ) :
    (join waiter code request).outcome = request.outcome := by
  rw [join]
  split <;> rfl

theorem quiet_of_cache_eq {change : Desk κ × List (DeskAct κ)} (asks : codesAsked change.2 = [])
    (ledger : change.1.ledger = desk.ledger) (cache : change.1.cache = desk.cache) :
    desk.Quiet change :=
  ⟨asks, ledger, .inl cache⟩

theorem quiet_give (desk : Desk κ) (caller : κ) (finding : Except Fault Finding) :
    desk.Quiet (desk, [.give caller finding]) :=
  quiet_of_cache_eq rfl rfl rfl

theorem quiet_read (desk : Desk κ) (now : Int) (code : String) (caller : κ)
    (finding : Except Fault Finding) :
    desk.Quiet ({ desk with cache := (desk.cache.get now code).2 }, [.give caller finding]) :=
  ⟨rfl, rfl, .inr ⟨now, code, rfl⟩⟩

theorem sendsOrQuiet_seek (desk : Desk κ) (now : Int) (waiter : Waiter κ) (code : String) :
    desk.SendsOrQuiet now (desk.seek now waiter code) := by
  rw [seek]
  split
  · next verdict cache read =>
    have same : cache = (desk.cache.get now code).2 := by rw [read]
    rw [same]
    exact .inr (desk.quiet_read now code _ _)
  · next cache read =>
    have missed : (desk.cache.get now code).1 = none := by rw [read]
    have same : cache = desk.cache := by
      rw [Cache.get_of_eq_none missed] at read
      exact (Prod.mk.inj read).2.symm
    split
    · next unrequested =>
      refine .inl ⟨code, missed, request?_eq_none_iff.mp unrequested, rfl, ?_, same⟩
      simp [ledger, OpenRequest.key]
    · exact .inr (quiet_of_cache_eq rfl rfl same)
    · refine .inr (quiet_of_cache_eq rfl ?_ same)
      apply ledger_map_of_same
      · exact key_join waiter code
      · intro request
        rw [outcome_join]

theorem quiet_withdraw (desk : Desk κ) (isCaller : κ → Bool) :
    desk.Quiet (desk.withdraw isCaller) := by
  refine quiet_of_cache_eq ?_ ?_ rfl
  · exact codesAsked_map_give (fun caller => caller) _ _
  · exact ledger_map_of_same (fun _ => rfl) (fun _ => rfl)

/-! ## Replies -/

theorem key_note (outcome : Except Fault Verdict) (code : String) (request : OpenRequest κ) :
    (note outcome code request).key = request.key := by
  rw [note]
  split <;> rfl

theorem isSome_outcome_note (outcome : Except Fault Verdict) (code : String)
    (request : OpenRequest κ) :
    (note outcome code request).outcome.isSome =
      (request.key = contentDigest code || request.outcome.isSome) := by
  rw [note]
  split
  · next about => simp [about]
  · next about => simp [about]

/-- The reply to a request is noted in its line of the ledger. -/
theorem ledger_receive (desk : Desk κ) (now : Int) (code : String)
    (outcome : Except Fault Verdict) :
    (desk.receive now code outcome).ledger =
      desk.ledger.map fun line => (line.1, line.1 = contentDigest code || line.2) := by
  rw [ledger, receive, List.map_map, ledger, List.map_map]
  apply List.map_congr_left
  intro request _
  rw [Function.comp_apply, key_note, isSome_outcome_note]
  rfl

@[simp] theorem requested_receive (desk : Desk κ) (now : Int) (code : String)
    (outcome : Except Fault Verdict) :
    (desk.receive now code outcome).requested = desk.requested := by
  rw [requested, ledger_receive, List.map_map]
  rfl

/-- Its reply is no longer to come, and no other reply has come. -/
theorem unreceived_receive (desk : Desk κ) (now : Int) (code : String)
    (outcome : Except Fault Verdict) :
    (desk.receive now code outcome).unreceived =
      desk.unreceived.filter fun key => key ≠ contentDigest code := by
  rw [unreceived, ledger_receive, unreceived]
  induction desk.ledger with
  | nil => rfl
  | cons line rest ih =>
      obtain ⟨key, received⟩ := line
      by_cases about : key = contentDigest code <;> cases received <;> simp_all

theorem codesAsked_handOn (desk : Desk κ) (code : String) :
    codesAsked (desk.handOn code).2 = [] := by
  rw [handOn]
  split
  · exact codesAsked_map_give _ _ _
  · rfl
  · rfl

@[simp] theorem cache_handOn (desk : Desk κ) (code : String) :
    (desk.handOn code).1.cache = desk.cache := by
  rw [handOn]
  split <;> rfl

/-- Handing on takes a line whose reply has been received out of the ledger, or does nothing. -/
theorem ledger_handOn (desk : Desk κ) (code : String) :
    (desk.handOn code).1.ledger = desk.ledger ∨
      (contentDigest code, true) ∈ desk.ledger ∧
      (desk.handOn code).1.ledger =
        desk.ledger.filter fun line => line.1 ≠ contentDigest code := by
  rw [handOn]
  split
  · next about waiters outcome found =>
    right
    constructor
    · have listed := List.mem_of_find?_eq_some found
      have keyed := List.find?_some found
      refine List.mem_map.mpr ⟨_, listed, ?_⟩
      simpa using keyed
    · simp only [ledger, List.filter_map]
      rfl
  · exact .inl rfl
  · exact .inl rfl

/-- No reply that is still to come is affected when another one is handed on. -/
theorem unreceived_handOn (unique : desk.requested.Nodup) (code : String) :
    (desk.handOn code).1.unreceived = desk.unreceived := by
  rcases desk.ledger_handOn code with same | ⟨received, filtered⟩
  · rw [unreceived, unreceived, same]
  · rw [unreceived, unreceived, filtered, List.filter_filter]
    congr 1
    apply List.filter_congr
    intro line listed
    by_cases about : line.1 = contentDigest code
    · have same : line = (contentDigest code, true) :=
        List.inj_on_of_nodup_map unique listed received about
      simp [same]
    · simp [about]

theorem requested_handOn_sublist (desk : Desk κ) (code : String) :
    (desk.handOn code).1.requested.Sublist desk.requested := by
  rcases desk.ledger_handOn code with same | ⟨_, filtered⟩
  · rw [requested, same]
    exact .refl _
  · rw [requested, filtered]
    exact List.filter_sublist.map Prod.fst

end Desk

end CodeComplexity
