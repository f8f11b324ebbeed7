import CodeComplexity.Marking.Annotator

/-!
# The alarms of the annotator

What setting and dropping an alarm does to the alarms of all documents.
-/

namespace CodeComplexity

namespace Annotator

def alarm? (annotator : Annotator) (uri : Uri) : Option Alarm :=
  Keyed.get? annotator.alarms uri

theorem alarm?_arm (annotator : Annotator) (timeline : Timeline) (uri other : Uri) :
    (annotator.arm timeline uri).alarm? other =
      if other = uri then some (annotator.alarmNow timeline) else annotator.alarm? other := by
  rw [alarm?, arm, Keyed.get?_set, Keyed.get?_erase, alarm?]
  split
  · rfl
  · rfl

theorem alarm?_disarm (annotator : Annotator) (uri other : Uri) :
    (annotator.disarm uri).alarm? other = if other = uri then none else annotator.alarm? other :=
  Keyed.get?_erase _ _ _

theorem isPending_arm (annotator : Annotator) (timeline : Timeline) (uri other : Uri) :
    (annotator.arm timeline uri).isPending other = (other = uri || annotator.isPending other) := by
  rw [isPending, arm, Keyed.has_set, Keyed.has_erase, isPending]
  by_cases same : other = uri <;> simp [same]

theorem isPending_disarm (annotator : Annotator) (uri other : Uri) :
    (annotator.disarm uri).isPending other = (other ≠ uri && annotator.isPending other) :=
  Keyed.has_erase _ _ _

@[simp] theorem active_activate (annotator : Annotator) (timeline : Timeline) (uri : Uri) :
    (annotator.activate timeline uri).active = some uri := by
  rw [activate]
  split
  · rfl
  · rfl

@[simp] theorem enabled_activate (annotator : Annotator) (timeline : Timeline) (uri : Uri) :
    (annotator.activate timeline uri).enabled = annotator.enabled := by
  rw [activate]
  split
  · rfl
  · rfl

theorem isPending_activate {annotator : Annotator} (on : annotator.enabled = true)
    (timeline : Timeline) (uri : Uri) :
    (annotator.activate timeline uri).isPending uri = true := by
  rw [activate, if_pos on, isPending_arm]
  simp

theorem isPending_change {annotator : Annotator} {uri : Uri} (on : annotator.enabled = true)
    (shown : annotator.active = some uri) (timeline : Timeline) :
    (annotator.change timeline uri).isPending uri = true := by
  rw [change, if_pos (by simp [on, shown]), isPending_arm]
  simp

theorem isPending_of_documentOf? {annotator : Annotator} {alarm : Alarm} {uri : Uri}
    (due : annotator.documentOf? alarm = some uri) : annotator.isPending uri = true := by
  obtain ⟨⟨document, set⟩, found, rfl⟩ := Option.map_eq_some_iff.mp due
  rw [isPending, Keyed.has, Option.isSome_iff_ne_none, Keyed.get?, ne_eq, List.lookup_eq_none_iff]
  intro unset
  simpa using unset _ (List.mem_of_find?_eq_some found)

/-- No document has two alarms, and alarms are set only while annotations are enabled. -/
structure Orderly (annotator : Annotator) : Prop where
  unique : annotator.alarms.keys.Nodup
  enabled : ∀ uri alarm, annotator.alarm? uri = some alarm → annotator.enabled = true

theorem Orderly.arm {annotator : Annotator} (orderly : annotator.Orderly)
    (on : annotator.enabled = true) (timeline : Timeline) (uri : Uri) :
    (annotator.arm timeline uri).Orderly :=
  ⟨Keyed.nodup_keys_set ((Keyed.keys_erase_sublist _ _).nodup orderly.unique) _ _, fun _ _ _ => on⟩

theorem Orderly.disarm {annotator : Annotator} (orderly : annotator.Orderly) (uri : Uri) :
    (annotator.disarm uri).Orderly := by
  refine ⟨(Keyed.keys_erase_sublist _ _).nodup orderly.unique, ?_⟩
  intro other alarm set
  rw [alarm?_disarm] at set
  split at set
  · cases set
  · exact orderly.enabled other alarm set

theorem Orderly.activate {annotator : Annotator} (orderly : annotator.Orderly) (timeline : Timeline)
    (uri : Uri) : (annotator.activate timeline uri).Orderly := by
  rw [Annotator.activate]
  have shown : Orderly { annotator with active := some uri } := ⟨orderly.unique, orderly.enabled⟩
  split
  · next on => exact shown.arm on timeline uri
  · exact shown

theorem Orderly.change {annotator : Annotator} (orderly : annotator.Orderly) (timeline : Timeline)
    (uri : Uri) : (annotator.change timeline uri).Orderly := by
  rw [Annotator.change]
  split
  · next shown =>
    simp only [Bool.and_eq_true] at shown
    exact orderly.arm shown.1 timeline uri
  · exact orderly

/-- An alarm that rings is the one that is set for its document. -/
theorem Orderly.alarm?_of_documentOf? {annotator : Annotator} (orderly : annotator.Orderly)
    {alarm : Alarm} {uri : Uri} (due : annotator.documentOf? alarm = some uri) :
    annotator.alarm? uri = some alarm := by
  obtain ⟨⟨document, set⟩, found, rfl⟩ := Option.map_eq_some_iff.mp due
  have same : set = alarm := by simpa using List.find?_some found
  rw [← same]
  exact Keyed.get?_of_mem orderly.unique (List.mem_of_find?_eq_some found)

end Annotator

end CodeComplexity
