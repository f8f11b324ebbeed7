import CodeComplexity.Analysis.Desk
import Mathlib.Data.List.Nodup

/-!
# Hovers that wait

What the desk does to the hovers that wait for the cursor to rest and to the numbers that it gives
out.  Most of what happens at a desk is calm: no hover starts to wait and no number is given out.  A
hover may start to wait, and then it has the number after the latest one of its document, and an
alarm of its own.
-/

namespace CodeComplexity

open Source Text

variable {κ : Type}

namespace Desk

variable {desk : Desk κ} {timeline : Timeline}

/-- No hover starts to wait, and no number is given out or forgotten. -/
structure Calm (desk after : Desk κ) : Prop where
  settling : after.settling.Sublist desk.settling
  numbers : after.numbers = desk.numbers

theorem Calm.refl (desk : Desk κ) : desk.Calm desk :=
  ⟨.refl _, rfl⟩

theorem seek_still (desk : Desk κ) (now : Int) (waiter : Waiter κ) (code : String) :
    (desk.seek now waiter code).1.settling = desk.settling ∧
      (desk.seek now waiter code).1.numbers = desk.numbers := by
  rw [seek]
  split
  · exact ⟨rfl, rfl⟩
  · split
    · exact ⟨rfl, rfl⟩
    · exact ⟨rfl, rfl⟩
    · exact ⟨rfl, rfl⟩

theorem calm_seek (desk : Desk κ) (now : Int) (waiter : Waiter κ) (code : String) :
    desk.Calm (desk.seek now waiter code).1 := by
  obtain ⟨settling, numbers⟩ := desk.seek_still now waiter code
  refine ⟨?_, numbers⟩
  rw [settling]

theorem calm_seekText (desk : Desk κ) (now : Int) (waiter : Waiter κ) (text : LooseText) :
    desk.Calm (desk.seekText now waiter text).1 := by
  rw [seekText]
  split
  · exact desk.calm_seek _ _ _
  · exact .refl desk

theorem calm_analyzeSelection (desk : Desk κ) (now : Int) (caller : κ) (text : LooseText)
    (range : Option TextRange) : desk.Calm (desk.analyzeSelection now caller text range).1 := by
  rw [analyzeSelection]
  split
  · exact .refl desk
  · exact desk.calm_seekText _ _ _

theorem calm_ring (desk : Desk κ) (now : Int) (alarm : Alarm) :
    desk.Calm (desk.ring now alarm).1 := by
  rw [ring]
  split
  · exact .refl desk
  · dsimp only
    split
    · next hover _ _ =>
      let left := { desk with settling := desk.settling.filter fun other => other.alarm ≠ alarm }
      obtain ⟨settling, numbers⟩ := left.seek_still now ⟨hover.caller, .hover hover.span⟩
        hover.code
      refine ⟨?_, numbers⟩
      rw [settling]
      exact List.filter_sublist
    · exact ⟨List.filter_sublist, rfl⟩

theorem calm_withdraw (desk : Desk κ) (isCaller : κ → Bool) :
    desk.Calm (desk.withdraw isCaller).1 :=
  ⟨List.filter_sublist, rfl⟩

theorem calm_handOn (desk : Desk κ) (code : String) : desk.Calm (desk.handOn code).1 := by
  rw [handOn]
  split
  · exact ⟨.refl _, rfl⟩
  · exact .refl desk
  · exact .refl desk

theorem calm_receive (desk : Desk κ) (now : Int) (code : String)
    (outcome : Except Fault Verdict) : desk.Calm (desk.receive now code outcome) :=
  ⟨.refl _, rfl⟩

/-- A hover starts to wait.  Nothing is given to anyone meanwhile. -/
structure Begins (desk : Desk κ) (timeline : Timeline) (caller : κ) (uri : Uri)
    (hover : SettlingHover κ) (change : Desk κ × List (DeskAct κ)) : Prop where
  caller_eq : hover.caller = caller
  uri_eq : hover.uri = uri
  /-- What it will ask about is the text of its function. -/
  text_eq : hover.span.text = .ofString hover.code
  number_eq : hover.number = desk.nextNumber uri
  alarm_eq : hover.alarm = timeline.alarmIn desk.hoverDelay true
  settling : change.1.settling = desk.settling ++ [hover]
  numbers : change.1.numbers = Keyed.set uri hover.number desk.numbers
  silent : change.2 = []

/-- A hover starts to wait, or comes to an end or to a request at once. -/
theorem hover_begins_or_calm (desk : Desk κ) (timeline : Timeline) (caller : κ) (uri : Uri)
    (text : LooseText) (position : Position) :
    (∃ hover, desk.Begins timeline caller uri hover
      (desk.hover timeline caller uri text position)) ∨
    desk.Calm (desk.hover timeline caller uri text position).1 := by
  rw [Desk.hover]
  split
  · exact .inr (.refl desk)
  · next span _ =>
    split
    · exact .inr (.refl desk)
    · next code writes =>
      split
      · exact .inr ⟨.refl _, rfl⟩
      · next cache _ =>
        dsimp only
        split
        · left
          exact ⟨⟨caller, uri, span, code, desk.nextNumber uri,
            timeline.alarmIn desk.hoverDelay true⟩, rfl, rfl, LooseText.encoded_eq_ok.mp writes,
            rfl, rfl, rfl, rfl, rfl⟩
        · right
          obtain ⟨settling, numbers⟩ := { desk with cache }.seek_still timeline.now
            ⟨caller, .hover span⟩ code
          refine ⟨?_, numbers⟩
          rw [settling]

/-- The alarms of the waiting hovers were set one after the other, before the next one. -/
structure Ticketed (desk : Desk κ) (tickets : Nat) : Prop where
  nodup : (desk.settling.map fun hover => hover.alarm.ticket).Nodup
  earlier : ∀ hover ∈ desk.settling, hover.alarm.ticket < tickets

theorem Ticketed.calm {tickets later : Nat} {after : Desk κ} (given : desk.Ticketed tickets)
    (calm : desk.Calm after) (passed : tickets ≤ later) : after.Ticketed later := by
  constructor
  · exact (calm.settling.map _).nodup given.nodup
  · intro hover waits
    exact Nat.lt_of_lt_of_le (given.earlier hover (calm.settling.subset waits)) passed

theorem Ticketed.begins {caller : κ} {uri : Uri} {hover : SettlingHover κ}
    {change : Desk κ × List (DeskAct κ)} (given : desk.Ticketed timeline.tickets)
    (begins : desk.Begins timeline caller uri hover change) :
    change.1.Ticketed (timeline.tickets + 1) := by
  have ticket : hover.alarm.ticket = timeline.tickets := by rw [begins.alarm_eq]; rfl
  constructor
  · rw [begins.settling, List.map_append, List.nodup_append]
    refine ⟨given.nodup, List.nodup_singleton _, ?_⟩
    intro first listed second last equal
    obtain ⟨older, waits, rfl⟩ := List.mem_map.mp listed
    obtain rfl := List.mem_singleton.mp last
    have before := given.earlier older waits
    exact Nat.ne_of_lt before (equal.trans ticket)
  · intro other waits
    rw [begins.settling, List.mem_append] at waits
    rcases waits with older | newest
    · exact Nat.lt_succ_of_lt (given.earlier other older)
    · obtain rfl := List.mem_singleton.mp newest
      rw [ticket]
      exact Nat.lt_succ_self _

/-- The alarm of a hover wakes that hover and no other one. -/
theorem Ticketed.find?_alarm {tickets : Nat} (given : desk.Ticketed tickets)
    {hover : SettlingHover κ} (waits : hover ∈ desk.settling) :
    (desk.settling.find? fun other => other.alarm = hover.alarm) = some hover := by
  cases found : desk.settling.find? fun other => other.alarm = hover.alarm with
  | none =>
      have absent := List.find?_eq_none.mp found hover waits
      simp at absent
  | some other =>
      have same : other.alarm = hover.alarm := by simpa using List.find?_some found
      have equal : other = hover := List.inj_on_of_nodup_map given.nodup
        (List.mem_of_find?_eq_some found) waits (congrArg Alarm.ticket same)
      rw [equal]

end Desk

end CodeComplexity
