import CodeComplexity.Proofs.Check.Restored
import CodeComplexity.Settings.Sources

/-!
# Settings are accepted as they are written

Each section reads back what it has written, and so do all of them together: whatever values
settings have, there are arguments that give just these settings.
-/

namespace CodeComplexity

open Check

namespace ClassifierSettings

theorem restores_checkTimeout : Restores checkTimeout fun limit => .float limit.val := by
  intro limit
  simp [checkTimeout, number, Checked.andThen, limit.property]

theorem restores_ofJson : Restores ofJson toJson := by
  intro settings
  simp [ofJson, toJson, object, Json.get?, Keyed.get?_cons, restores_text.optional,
    restores_checkTimeout.optional]

end ClassifierSettings

namespace AnnotationSettings

theorem restores_ofJson : Restores ofJson toJson := by
  intro settings
  simp [ofJson, toJson, object, Json.get?, Keyed.get?_cons, restores_truth.optional,
    restores_natural.optional]

end AnnotationSettings

namespace CacheSettings

theorem restores_ofJson : Restores ofJson toJson := by
  intro settings
  simp [ofJson, toJson, object, Json.get?, Keyed.get?_cons, restores_natural.optional,
    restores_positive.optional]

end CacheSettings

theorem LogLevel.lookup_byName (level : LogLevel) : byName.lookup level.name = some level := by
  cases level <;> rfl

theorem LogFormat.lookup_byName (format : LogFormat) : byName.lookup format.name = some format := by
  cases format <;> rfl

namespace LoggingSettings

theorem restores_ofJson : Restores ofJson toJson := by
  intro settings
  simp [ofJson, toJson, object, Json.get?, Keyed.get?_cons,
    (restores_oneOf LogLevel.lookup_byName).optional,
    (restores_oneOf LogFormat.lookup_byName).optional]

end LoggingSettings

namespace Settings

variable (settings : Settings)

theorem refuseUnknown_members : refuseUnknown (settings.members.map Prod.fst) = .valid () :=
  rfl

theorem ofMembers_members : ofMembers settings.members = .valid settings := by
  rw [ofMembers, refuseUnknown_members]
  simp [members, Json.get?, Keyed.get?_cons, ClassifierSettings.restores_ofJson.optional,
    AnnotationSettings.restores_ofJson.optional, CacheSettings.restores_ofJson.optional,
    LoggingSettings.restores_ofJson.optional]

theorem knownSections_members : knownSections settings.members = settings.members :=
  rfl

theorem mergeMembers_members : mergeMembers [] settings.members = settings.members := by
  simp [mergeMembers, members, Keyed.get?_cons, Keyed.set]

/-- Settings are accepted as arguments where neither the environment nor a file gives any. -/
theorem load_members (room : Nat) : load room settings.members [] .null = .ok settings := by
  have inner : fileMembers .null = .ok [] := rfl
  have outer : Environment.sectionValues room (Environment.normalize []) sections = .ok [] := rfl
  simp only [load, inner, outer, bind, Except.bind, knownSections_members, mergeMembers_members,
    ofMembers_members]
  rfl

end Settings

end CodeComplexity
