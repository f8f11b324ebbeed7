import Mathlib.Data.List.Induction

/-!
# Courses of events

A process goes from state to state by events.  What may happen in a state is told apart from what
comes of it, so that a process may be as free as its surroundings are: callers come and go, replies
arrive in any order.  A course is the history of a process, moment by moment.  What every event
keeps holds at the end of every course, and a course can be cut at each of its moments.
-/

namespace CodeComplexity

/-- What goes on by events: which of them may happen in a state, and what comes of them. -/
structure Process (σ ε α : Type) where
  may : σ → ε → Prop
  step : σ → ε → σ × List α

/-- An event, with the states before and after it and what was done to the outside. -/
structure Moment (σ ε α : Type) where
  state : σ
  event : ε
  after : σ
  acts : List α

variable {σ ε α : Type}

/-- What an event comes to in a state. -/
def Process.moment (process : Process σ ε α) (state : σ) (event : ε) : Moment σ ε α :=
  ⟨state, event, (process.step state event).1, (process.step state event).2⟩

/-- The moments that lead from one state to another one, in order. -/
inductive Course (process : Process σ ε α) (first : σ) : List (Moment σ ε α) → σ → Prop where
  | start : Course process first [] first
  | next {past : List (Moment σ ε α)} {state : σ} (event : ε) :
      Course process first past state → process.may state event →
      Course process first (past ++ [process.moment state event])
        (process.moment state event).after

namespace Course

variable {process : Process σ ε α} {first last : σ} {past rest : List (Moment σ ε α)}
  {moment : Moment σ ε α}

/-- What every event keeps of a history and the state that it led to holds of every course. -/
theorem history {Good : List (Moment σ ε α) → σ → Prop} (start : Good [] first)
    (kept : ∀ past state event, Course process first past state → process.may state event →
      Good past state →
      Good (past ++ [process.moment state event]) (process.moment state event).after)
    (course : Course process first past last) : Good past last := by
  induction course with
  | start => exact start
  | next event before allowed ih => exact kept _ _ event before allowed ih

theorem invariant {Good : σ → Prop} (start : Good first)
    (kept : ∀ state event, process.may state event → Good state →
      Good (process.step state event).1)
    (course : Course process first past last) : Good last :=
  course.history start fun _ state event _ allowed good => kept state event allowed good

theorem of_moment (allowed : process.may moment.state moment.event)
    (equal : moment = process.moment moment.state moment.event) :
    Course process moment.state [moment] moment.after := by
  rw [equal]
  exact .next moment.event .start allowed

theorem append {middle : σ} (before : Course process first past middle)
    (after : Course process middle rest last) : Course process first (past ++ rest) last := by
  induction after with
  | start =>
      rw [List.append_nil]
      exact before
  | next event _ allowed ih =>
      rw [← List.append_assoc]
      exact .next event ih allowed

/-- A course that goes on for one more moment. -/
theorem of_snoc (course : Course process first (past ++ [moment]) last) :
    Course process first past moment.state ∧ process.may moment.state moment.event ∧
      moment = process.moment moment.state moment.event ∧ last = moment.after := by
  generalize whole : past ++ [moment] = moments at course
  cases course with
  | start => simp at whole
  | next event before allowed =>
      obtain ⟨rfl, same⟩ := List.append_inj' whole rfl
      have equal : moment = process.moment _ event := List.singleton_inj.mp same
      subst equal
      exact ⟨before, allowed, rfl, rfl⟩

theorem split (course : Course process first (past ++ moment :: rest) last) :
    Course process first past moment.state ∧ process.may moment.state moment.event ∧
      moment = process.moment moment.state moment.event ∧
      Course process moment.after rest last := by
  induction rest using List.reverseRecOn generalizing last with
  | nil =>
      obtain ⟨before, allowed, equal, rfl⟩ := course.of_snoc
      exact ⟨before, allowed, equal, .start⟩
  | append_singleton rest final ih =>
      have regrouped : past ++ moment :: (rest ++ [final]) =
          (past ++ moment :: rest) ++ [final] := by
        simp
      rw [regrouped] at course
      obtain ⟨before, allowed, equal, rfl⟩ := course.of_snoc
      obtain ⟨front, permitted, same, back⟩ := ih before
      refine ⟨front, permitted, same, ?_⟩
      rw [equal]
      exact .next final.event back allowed

/-- The course before the later one of two moments. -/
theorem before_second {between : List (Moment σ ε α)} {second : Moment σ ε α}
    (course : Course process first (past ++ moment :: (between ++ second :: rest)) last) :
    Course process first (past ++ moment :: between) second.state := by
  have regrouped : past ++ moment :: (between ++ second :: rest) =
      (past ++ moment :: between) ++ second :: rest := by
    simp
  rw [regrouped] at course
  exact course.split.1

end Course

namespace Process

variable (process : Process σ ε α)

/-- The moments of events that happen one after the other. -/
def moments : σ → List ε → List (Moment σ ε α)
  | _, [] => []
  | state, event :: rest =>
    process.moment state event :: moments (process.moment state event).after rest

def last (state : σ) (events : List ε) : σ :=
  events.foldl (fun state event => (process.moment state event).after) state

/-- Events that may happen one after the other. -/
def Allows : σ → List ε → Prop
  | _, [] => True
  | state, event :: rest =>
    process.may state event ∧ Allows (process.moment state event).after rest

variable {process}

theorem event_mem_of_mem_moments {state : σ} {events : List ε} {moment : Moment σ ε α}
    (listed : moment ∈ process.moments state events) : moment.event ∈ events := by
  induction events generalizing state with
  | nil => exact absurd listed List.not_mem_nil
  | cons event rest ih =>
      rcases List.mem_cons.mp listed with rfl | later
      · exact List.mem_cons_self
      · exact List.mem_cons_of_mem _ (ih later)

theorem course_append {first state : σ} {past : List (Moment σ ε α)}
    (course : Course process first past state) {events : List ε}
    (allowed : process.Allows state events) :
    Course process first (past ++ process.moments state events) (process.last state events) := by
  induction events generalizing past state with
  | nil =>
      rw [moments, List.append_nil]
      exact course
  | cons event rest ih =>
      have onward := ih (.next event course allowed.1) allowed.2
      rw [List.append_assoc] at onward
      exact onward

/-- Events that may happen one after the other make a course. -/
theorem course_of_allows {state : σ} {events : List ε} (allowed : process.Allows state events) :
    Course process state (process.moments state events) (process.last state events) :=
  course_append .start allowed

end Process

end CodeComplexity
