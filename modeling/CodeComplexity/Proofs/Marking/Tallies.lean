import CodeComplexity.Proofs.Marking.Passes
import CodeComplexity.Proofs.Source.Bodies
import CodeComplexity.Proofs.Verdict.Recency

/-!
# Tallies and markers

A tally and a pass look up the functions of a text in the same way, and what they leave of the cache
differs from what they found in its order only.  So it does not matter which of them comes first:
each complexity is counted as often as it is drawn, and every function that is not drawn is counted
as unanalysed.
-/

namespace CodeComplexity

open Source Text

/-! ## What look-ups leave -/

namespace Cache

variable {first second third : Cache}

/-- A cache that differs from another one in the order of its entries at most. -/
structure Reordered (before after : Cache) : Prop where
  timeToLive : after.timeToLive = before.timeToLive
  capacity : after.capacity = before.capacity
  find? (key : Digest) : after.find? key = before.find? key
  perm : before.Distinct → after.entries.Perm before.entries

namespace Reordered

theorem refl (cache : Cache) : cache.Reordered cache :=
  ⟨rfl, rfl, fun _ => rfl, fun _ => .refl _⟩

theorem distinct (reordered : first.Reordered second) (distinct : first.Distinct) :
    second.Distinct :=
  (((reordered.perm distinct).map CacheEntry.key).nodup_iff).mpr distinct

theorem trans (before : first.Reordered second) (after : second.Reordered third) :
    first.Reordered third := by
  constructor
  · rw [after.timeToLive, before.timeToLive]
  · rw [after.capacity, before.capacity]
  · intro key
    rw [after.find?, before.find?]
  · intro distinct
    exact (after.perm (before.distinct distinct)).trans (before.perm distinct)

theorem get_fst (reordered : first.Reordered second) (now : Int) (code : String) :
    (second.get now code).1 = (first.get now code).1 := by
  have fresh : second.isFresh now = first.isFresh now := by
    funext entry
    rw [isFresh, isFresh, reordered.timeToLive]
  rw [Cache.get_fst, Cache.get_fst, reordered.find?, readable, readable, fresh]

theorem read?_eq (reordered : first.Reordered second) (now : Int) (text : LooseText) :
    second.read? now text = first.read? now text := by
  rw [read?, read?]
  cases text.encoded with
  | ok code => exact reordered.get_fst now code
  | error error => rfl

end Reordered

theorem reordered_get (cache : Cache) (now : Int) (code : String) :
    cache.Reordered (cache.get now code).2 :=
  ⟨timeToLive_get, capacity_get, cache.find?_get now code,
    fun distinct => distinct.perm_get now code⟩

end Cache

theorem reordered_lookUpAll (now : Int) (spans : List FunctionSpan) (cache : Cache) :
    cache.Reordered (lookUpAll (some now) spans cache).2 := by
  induction spans generalizing cache with
  | nil => exact .refl cache
  | cons span rest ih =>
      rw [lookUpAll, Cache.look]
      cases span.text.encoded with
      | error error => exact .refl cache
      | ok code => exact (cache.reordered_get now code).trans (ih _)

theorem Cache.Reordered.freshMarkers_eq {before after : Cache} (reordered : before.Reordered after)
    (now : Int) (text : LooseText) :
    freshMarkers now text after = freshMarkers now text before := by
  rw [freshMarkers, freshMarkers]
  congr 1
  funext span
  rw [reordered.read?_eq]

/-! ## What is counted -/

namespace Tally

/-- How many functions have a verdict of a kind. -/
def count (tally : Tally) : Complexity → Nat
  | .simple => tally.simple
  | .moderate => tally.moderate
  | .complex => tally.complex

theorem count_kind (verdicts : List (Option Verdict)) (kind : Option Complexity) :
    (verdicts.map (Option.map Verdict.complexity)).count kind =
      verdicts.countP fun verdict => verdict.map Verdict.complexity = kind := by
  rw [List.count_eq_countP, List.countP_map]
  apply List.countP_congr
  intro verdict listed
  simp

theorem count_ofVerdicts (verdicts : List (Option Verdict)) (complexity : Complexity) :
    (ofVerdicts verdicts).count complexity =
      verdicts.countP fun verdict => verdict.map Verdict.complexity = some complexity := by
  rw [← count_kind]
  cases complexity <;> rfl

theorem unanalysed_ofVerdicts (verdicts : List (Option Verdict)) :
    (ofVerdicts verdicts).unanalysed =
      verdicts.countP fun verdict => verdict.map Verdict.complexity = none := by
  rw [← count_kind]
  rfl

theorem total_ofVerdicts (verdicts : List (Option Verdict)) :
    (ofVerdicts verdicts).total = verdicts.length := by
  induction verdicts with
  | nil => rfl
  | cons verdict rest ih =>
      simp only [total, ofVerdicts, List.map_cons, List.count_cons, List.length_cons] at ih ⊢
      cases verdict with
      | none =>
          simp only [Option.map_none, beq_self_eq_true, if_true]
          simp
          omega
      | some verdict =>
          cases kind : verdict.complexity with
          | simple => simp [kind]; omega
          | moderate => simp [kind]; omega
          | complex => simp [kind]; omega

/-- What a tally of the functions of a text counts. -/
theorem ofText_of_writable (now : Int) {text : LooseText} (each : EachWritable text)
    (cache : Cache) :
    (ofText (some now) text cache).1 =
      .ok (ofVerdicts ((locateAll text).map fun span => cache.read? now span.text)) := by
  simp only [ofText, lookUpAll_of_writable now each, Except.map, List.map_map]
  rfl

theorem ofText_of_unwritable {text : LooseText} (one : ¬EachWritable text) :
    ∃ span ∈ locateAll text, ∃ error, span.text.encoded = .error error ∧
      ∀ now cache, (ofText (some now) text cache).1 = .error (.unencodable error) := by
  obtain ⟨span, listed, error, fails, ended⟩ := lookUpAll_of_not_eachWritable one
  refine ⟨span, listed, error, fails, fun now cache => ?_⟩
  simp only [ofText, ended]
  rfl

theorem eq_of_ofText_eq_ok {now : Int} {text : LooseText} {cache : Cache} {tally : Tally}
    (tallied : (ofText (some now) text cache).1 = .ok tally) :
    tally = ofVerdicts ((locateAll text).map fun span => cache.read? now span.text) := by
  by_cases each : EachWritable text
  · exact (Except.ok.inj ((ofText_of_writable now each cache).symm.trans tallied)).symm
  · obtain ⟨-, -, error, -, ended⟩ := ofText_of_unwritable each
    cases (ended now cache).symm.trans tallied

/-- The order of the cache does not matter. -/
theorem ofText_of_reordered {before after : Cache} (reordered : before.Reordered after)
    (now : Int) (text : LooseText) :
    (ofText (some now) text after).1 = (ofText (some now) text before).1 := by
  by_cases each : EachWritable text
  · simp only [ofText_of_writable now each, reordered.read?_eq]
  · obtain ⟨-, -, error, -, ended⟩ := ofText_of_unwritable each
    rw [ended, ended]

end Tally

/-- A tally and markers that tell the same of the functions of a text. -/
structure Tally.Matches (tally : Tally) (markers : List Marker) (text : LooseText) :
    Prop where
  functions : tally.total = (locateAll text).length
  counts (complexity : Complexity) :
    tally.count complexity = markers.countP fun marker => marker.complexity = complexity
  unanalysed : tally.unanalysed + markers.length = (locateAll text).length
  ordered : markers.Pairwise fun marker later => marker.line < later.line

/-- The tally of a text and the markers of its functions match. -/
theorem Tally.matches_freshMarkers (now : Int) (text : LooseText) (cache : Cache) :
    (ofVerdicts ((locateAll text).map fun span => cache.read? now span.text)).Matches
      (freshMarkers now text cache) text := by
  constructor
  · rw [total_ofVerdicts, List.length_map]
  · intro complexity
    rw [count_ofVerdicts, List.countP_map, freshMarkers, List.countP_filterMap]
    apply List.countP_congr
    intro span listed
    cases read : cache.read? now span.text with
    | none => simp [read]
    | some verdict => simp [read, Marker.ofVerdict]
  · have drawn : (freshMarkers now text cache).length =
        (locateAll text).countP fun span => (cache.read? now span.text).isSome := by
      rw [freshMarkers, List.length_filterMap_eq_countP]
      simp only [Option.isSome_map]
    rw [unanalysed_ofVerdicts, List.countP_map, drawn, Nat.add_comm,
      List.length_eq_countP_add_countP fun span => (cache.read? now span.text).isSome]
    congr 1
    apply List.countP_congr
    intro span listed
    simp
  · refine pairwise_spansFrom.filterMap _ ?_
    intro span later below marker made next nextMade
    obtain ⟨verdict, -, rfl⟩ := Option.map_eq_some_iff.mp made
    obtain ⟨other, -, rfl⟩ := Option.map_eq_some_iff.mp nextMade
    exact below

end CodeComplexity
