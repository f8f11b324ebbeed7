/-!
# Alarms

Moments at which something is due.  Moments and lengths of time are integers, in microseconds.  An
alarm may wake someone who waits for it; of the alarms for one moment, those that wake nobody ring
first.  An alarm also carries a ticket, which tells it from the alarms that were set before and
after it: otherwise the alarm that was set first rings first.
-/

namespace CodeComplexity

/-- A moment at which something is due. -/
structure Alarm where
  due : Int
  waking : Bool
  ticket : Nat
  deriving DecidableEq, Repr

namespace Alarm

/-- One alarm rings before another one. -/
def Before (first second : Alarm) : Prop :=
  first.due < second.due ∨ first.due = second.due ∧
    (first.waking.toNat < second.waking.toNat ∨
      first.waking.toNat = second.waking.toNat ∧ first.ticket < second.ticket)

instance (first second : Alarm) : Decidable (first.Before second) :=
  inferInstanceAs (Decidable (_ ∨ _))

theorem not_before_self (alarm : Alarm) : ¬ alarm.Before alarm := by
  simp [Before]

theorem Before.trans {a b c : Alarm} (ab : a.Before b) (bc : b.Before c) : a.Before c := by
  rw [Before] at *
  omega

/-- The one of two alarms that rings first. -/
def sooner (first second : Alarm) : Alarm :=
  if second.Before first then second else first

def earliest? : List Alarm → Option Alarm
  | [] => none
  | alarm :: rest =>
    match earliest? rest with
    | none => some alarm
    | some other => some (sooner alarm other)

theorem earliest?_mem {alarms : List Alarm} {alarm : Alarm}
    (found : earliest? alarms = some alarm) : alarm ∈ alarms := by
  induction alarms generalizing alarm with
  | nil => simp [earliest?] at found
  | cons head rest ih =>
    simp only [earliest?] at found
    split at found
    · simp_all
    · next other reached =>
      simp only [Option.some.injEq, sooner] at found
      split at found
      · subst found
        exact List.mem_cons_of_mem _ (ih reached)
      · simp [found]

theorem earliest?_eq_none_iff {alarms : List Alarm} : earliest? alarms = none ↔ alarms = [] := by
  cases alarms with
  | nil => simp [earliest?]
  | cons head rest =>
    simp only [earliest?, reduceCtorEq, iff_false]
    split <;> simp

theorem due_sooner_le (first second : Alarm) :
    (sooner first second).due ≤ first.due ∧ (sooner first second).due ≤ second.due := by
  rw [sooner]
  split
  · next before =>
    rw [Before] at before
    omega
  · next notBefore =>
    rw [Before] at notBefore
    omega

theorem earliest?_due_le {alarms : List Alarm} {first : Alarm}
    (found : earliest? alarms = some first) : ∀ alarm ∈ alarms, first.due ≤ alarm.due := by
  induction alarms generalizing first with
  | nil => simp [earliest?] at found
  | cons head rest ih =>
    intro alarm listed
    simp only [earliest?] at found
    split at found
    · next nothing =>
      obtain rfl := Option.some.inj found
      rw [earliest?_eq_none_iff.mp nothing, List.mem_singleton] at listed
      exact Int.le_of_eq (congrArg Alarm.due listed.symm)
    · next other reached =>
      obtain rfl := Option.some.inj found
      obtain ⟨head_le, other_le⟩ := due_sooner_le head other
      rcases List.mem_cons.mp listed with rfl | further
      · exact head_le
      · exact Int.le_trans other_le (ih reached alarm further)

end Alarm

/-- The present moment, and how many alarms have been set up to it. -/
structure Timeline where
  now : Int
  tickets : Nat
  deriving DecidableEq, Repr

namespace Timeline

def start : Timeline :=
  ⟨0, 0⟩

/-- The alarm that is set now for so much later. -/
def alarmIn (timeline : Timeline) (delay : Int) (waking : Bool) : Alarm :=
  ⟨timeline.now + delay, waking, timeline.tickets⟩

def afterAlarm (timeline : Timeline) : Timeline :=
  { timeline with tickets := timeline.tickets + 1 }

/-- A later moment.  Time never runs back. -/
def movedTo (timeline : Timeline) (moment : Int) : Timeline :=
  { timeline with now := max timeline.now moment }

end Timeline

end CodeComplexity
