import CodeComplexity.Proofs.Check.Restored
import CodeComplexity.Verdict.Wire

/-!
# Verdicts are read back from what is written of them

Whatever form a verdict had on the wire, it is written in one form, and that form is read back as
the same verdict, with its suggestions in the same order.  Only the keys of suggestions are not kept
where they hold surrogates on their own: these are replaced when they are written, and
`Verdict.written` is the verdict with such keys replaced.  What is written of it is the same.
-/

namespace CodeComplexity

open Check Text

/-! ## Keys with surrogates -/

namespace Text.LooseText

/-- Just the texts without surrogates are kept when surrogates are replaced. -/
theorem ofString_replaced_iff {loose : LooseText} :
    ofString loose.replaced = loose ↔ ¬loose.HasSurrogate := by
  constructor
  · intro kept
    rw [← kept]
    exact not_hasSurrogate_ofString _
  · intro without
    obtain ⟨points⟩ := loose
    rw [ofString, replaced, spelled, String.toList_ofList, LooseText.mk.injEq]
    induction points with
    | nil => rfl
    | cons point rest ih =>
        cases point with
        | char c =>
            have others : ¬HasSurrogate ⟨rest⟩ := by
              rintro ⟨code, listed⟩
              exact without ⟨code, List.mem_cons_of_mem _ listed⟩
            rw [List.flatMap_cons, List.map_append, ih others]
            rfl
        | surrogate code => exact absurd ⟨code, List.mem_cons_self⟩ without

end Text.LooseText

/-! ## Suggestions -/

namespace Suggestions

variable {suggestions : Suggestions} {texts : Keyed LooseText LooseText}

/-- The same texts with surrogates replaced in their keys.  Where keys become the same, the last
text counts. -/
def replaced (suggestions : Suggestions) : Suggestions :=
  ofTexts (suggestions.val.map fun (key, text) => (.ofString key.replaced, text))

theorem val_ofTexts (texts : Keyed LooseText LooseText) :
    (ofTexts texts).val = texts.foldl (fun known (key, text) => Keyed.set key text known) [] :=
  (List.foldl_hom Subtype.val fun _ _ => rfl).symm

@[simp] theorem ofTexts_val (suggestions : Suggestions) :
    ofTexts suggestions.val = suggestions := by
  apply Subtype.ext
  rw [val_ofTexts, Keyed.foldl_set_of_nodup]
  · exact List.nil_append _
  · exact suggestions.property

theorem mem_keys_ofTexts {key : LooseText} : key ∈ (ofTexts texts).val.keys ↔ key ∈ texts.keys := by
  rw [val_ofTexts, Keyed.mem_keys_foldl_set]
  simp [Keyed.keys]

/-- Replacing surrogates leaves none. -/
theorem not_hasSurrogate_of_mem {key : LooseText} (listed : key ∈ suggestions.replaced.val.keys) :
    ¬key.HasSurrogate := by
  rw [replaced, mem_keys_ofTexts] at listed
  obtain ⟨_, among, rfl⟩ := List.mem_map.mp listed
  obtain ⟨_, -, rfl⟩ := List.mem_map.mp among
  exact LooseText.not_hasSurrogate_ofString _

/-- Just the suggestions without surrogates in their keys are kept when surrogates are replaced. -/
theorem replaced_eq_iff :
    suggestions.replaced = suggestions ↔ ∀ key ∈ suggestions.val.keys, ¬key.HasSurrogate := by
  constructor
  · intro kept key listed
    rw [← kept] at listed
    exact not_hasSurrogate_of_mem listed
  · intro without
    have same : suggestions.val.map (fun (key, text) => (LooseText.ofString key.replaced, text)) =
        suggestions.val := by
      refine (List.map_congr_left ?_).trans (List.map_id _)
      rintro ⟨key, text⟩ listed
      have kept : LooseText.ofString key.replaced = key :=
        LooseText.ofString_replaced_iff.mpr
          (without key (List.mem_map_of_mem (f := Prod.fst) listed))
      exact Prod.ext kept rfl
    rw [replaced, same, ofTexts_val]

theorem toJson_eq (suggestions : Suggestions) :
    suggestions.toJson = .obj (suggestions.replaced.val.map (Prod.map id .ofLooseText)) := by
  rw [toJson, Json.ofMembers, replaced, val_ofTexts, Keyed.map_foldl_set, List.map_map]
  rfl

@[simp] theorem replaced_replaced (suggestions : Suggestions) :
    suggestions.replaced.replaced = suggestions.replaced :=
  replaced_eq_iff.mpr fun _ => not_hasSurrogate_of_mem

theorem textMembers_map (texts : Keyed LooseText LooseText) :
    textMembers (texts.map (Prod.map id .ofLooseText)) = .valid texts := by
  induction texts with
  | nil => rfl
  | cons member rest ih =>
      obtain ⟨key, text⟩ := member
      rw [List.map_cons, Prod.map_apply, textMembers, restores_text text, ih]
      rfl

theorem ofJson_toJson (suggestions : Suggestions) :
    ofJson suggestions.toJson = .valid suggestions.replaced := by
  rw [ofJson, toJson_eq, textMapping, textMembers_map]
  change Checked.valid (ofTexts suggestions.replaced.val) = _
  rw [ofTexts_val]

end Suggestions

/-! ## Verdicts -/

theorem Complexity.restores_ofJson : Restores ofJson fun complexity => .str complexity.name :=
  restores_oneOf lookup_byName

theorem Confidence.restores_ofJson : Restores ofJson fun confidence => .float confidence.val := by
  intro confidence
  have ⟨low, high⟩ := confidence.property
  simp [ofJson, number, Checked.andThen, low, high]

theorem Duration.restores_ofJson : Restores ofJson fun duration => .float duration.val := by
  intro duration
  simp [ofJson, number, Checked.andThen, duration.property]

theorem Metrics.restores_ofJson : Restores ofJson toJson := by
  intro metrics
  have loc : metrics.toJson.getEither? "loc" "lines_of_code" =
      some ("loc", .int metrics.linesOfCode) := by
    simp [toJson, Json.getEither?, Json.get?, Keyed.get?_cons]
  have nesting : metrics.toJson.getEither? "nesting" "nesting_depth" =
      some ("nesting", .int metrics.nestingDepth) := by
    simp [toJson, Json.getEither?, Json.get?, Keyed.get?_cons]
  have loops : metrics.toJson.getEither? "loops" "loop_count" =
      some ("loops", .int metrics.loopCount) := by
    simp [toJson, Json.getEither?, Json.get?, Keyed.get?_cons]
  have conditionals : metrics.toJson.getEither? "conditionals" "conditional_count" =
      some ("conditionals", .int metrics.conditionalCount) := by
    simp [toJson, Json.getEither?, Json.get?, Keyed.get?_cons]
  have cyclomatic : metrics.toJson.get? "cyclomatic" = some (.int metrics.cyclomatic) := by
    simp [toJson, Json.get?, Keyed.get?_cons]
  rw [ofJson, toJson, object, ← toJson, cyclomatic, restores_natural.required,
    restores_natural.requiredEither loc, restores_natural.requiredEither nesting,
    restores_natural.optionalEither loops, restores_natural.optionalEither conditionals]
  rfl

namespace Verdict

variable {verdict : Verdict}

/-- The verdict as it is written: with surrogates replaced in the keys of its suggestions. -/
def written (verdict : Verdict) : Verdict :=
  { verdict with suggestions := verdict.suggestions.map Suggestions.replaced }

/-- A verdict is kept as it is when it is written, if and only if no key of its suggestions holds a
surrogate. -/
theorem written_eq_iff :
    verdict.written = verdict ↔ ∀ suggestions, verdict.suggestions = some suggestions →
      ∀ key ∈ suggestions.val.keys, ¬key.HasSurrogate := by
  obtain ⟨complexity, confidence, metrics, processingTime, suggestions⟩ := verdict
  rw [written, Verdict.mk.injEq]
  cases suggestions with
  | none => simp
  | some suggestions => simp [Suggestions.replaced_eq_iff]

/-- The verdict that is read back is written in the same way again. -/
@[simp] theorem toJson_written (verdict : Verdict) : verdict.written.toJson = verdict.toJson := by
  have same (suggestions : Suggestions) : suggestions.replaced.toJson = suggestions.toJson := by
    rw [Suggestions.toJson_eq, Suggestions.toJson_eq, Suggestions.replaced_replaced]
  obtain ⟨complexity, confidence, metrics, processingTime, suggestions⟩ := verdict
  cases suggestions with
  | none => rfl
  | some suggestions => simp [toJson, written, same]

theorem ofJson_toJson (verdict : Verdict) : ofJson verdict.toJson = .valid verdict.written := by
  have suggested : optional "suggestions" (nullable Suggestions.ofJson) none
      (some ((verdict.suggestions.map Suggestions.toJson).getD .null)) =
      .valid (verdict.suggestions.map Suggestions.replaced) := by
    cases verdict.suggestions with
    | none => rfl
    | some suggestions =>
        have told := suggestions.ofJson_toJson
        rw [Suggestions.toJson_eq] at told
        rw [Option.map_some, Option.getD_some, Suggestions.toJson_eq, Check.optional, nullable,
          told]
        · rfl
        · simp
  simp [ofJson, toJson, object, Json.get?, Keyed.get?_cons, Complexity.restores_ofJson.required,
    Confidence.restores_ofJson.required, Metrics.restores_ofJson.required,
    Duration.restores_ofJson.optional, suggested, written]

/-- A verdict with a suggestion whose key holds a surrogate. -/
def surrogateKeyed : Json :=
  .obj [("complexity", .str Complexity.simple.name), ("confidence", .float 0.5),
    ("metrics", Metrics.toJson ⟨1, 1, 1, 0, 0⟩),
    ("suggestions", .obj [(⟨[.char 'a', .surrogate 0xD800]⟩, .str "x")])]

/-- Such a verdict is not read back from what is written of it. -/
theorem not_restored_surrogateKeyed :
    ∃ verdict, ofJson surrogateKeyed = .valid verdict ∧ ofJson verdict.toJson ≠ .valid verdict := by
  let verdict : Verdict := ⟨.simple, ⟨0.5, by decide⟩, ⟨1, 1, 1, 0, 0⟩, .zero,
    some (.ofTexts [(⟨[.char 'a', .surrogate 0xD800]⟩, "x")])⟩
  refine ⟨verdict, rfl, ?_⟩
  rw [ofJson_toJson]
  intro same
  have kept := written_eq_iff.mp (Checked.valid.inj same)
  exact kept _ rfl ⟨[.char 'a', .surrogate 0xD800]⟩ List.mem_cons_self
    ⟨0xD800, List.mem_cons_of_mem _ List.mem_cons_self⟩

/-- The numbers of a verdict keep their bounds. -/
structure InBounds (verdict : Verdict) : Prop where
  confidence : 0 ≤ verdict.confidence.val ∧ verdict.confidence.val ≤ 1 ∧
    verdict.confidence.val.isNaN = false
  processingTime : 0 ≤ verdict.processingTime.val ∧ verdict.processingTime.val.isNaN = false
  /-- What is written of the metrics are integers that are not negative. -/
  metrics (key : String) (value : Json) :
    verdict.metrics.toJson.get? key = some value → ∃ count : Nat, value = .int count

/-- What is not below a bound is a number: comparisons with what is none fail. -/
theorem isNaN_eq_false_of_le {bound number : Float} (enough : bound ≤ number) :
    number.isNaN = false := by
  have compared : bound.toModel.unpack.le number.toModel.unpack = true := of_decide_eq_true enough
  change number.toModel.unpack.isNaN = false
  generalize number.toModel.unpack = parts at compared
  cases parts with
  | notANumber =>
      cases same : bound.toModel.unpack <;> rw [same] at compared <;> cases compared
  | _ => rfl

theorem inBounds (verdict : Verdict) : verdict.InBounds := by
  have ⟨low, high⟩ := verdict.confidence.property
  have lasting := verdict.processingTime.property
  refine ⟨⟨low, high, isNaN_eq_false_of_le low⟩, ⟨lasting, isNaN_eq_false_of_le lasting⟩, ?_⟩
  intro key value found
  obtain ⟨members, same, listed⟩ := Json.get?_eq_some.mp found
  obtain rfl := Json.obj.inj same
  have among := Keyed.mem_of_get? listed
  simp only [List.mem_cons, Prod.mk.injEq, List.not_mem_nil, or_false] at among
  rcases among with ⟨-, rfl⟩ | ⟨-, rfl⟩ | ⟨-, rfl⟩ | ⟨-, rfl⟩ | ⟨-, rfl⟩ <;> exact ⟨_, rfl⟩

end Verdict

end CodeComplexity
