import CodeComplexity.Verdict.Cache
import Mathlib.Data.List.Nodup

/-!
# The entries of a cache

What reading, storing and clearing do to the entry of each digest.  Reading never changes an entry,
only the order in which entries will be pushed out.  Storing sets the entry of its own digest, and
any other entry either stays what it was or is pushed out.  No digest has two entries.
-/

namespace CodeComplexity

open Text

namespace Cache

variable {cache : Cache} {now : Int} {code : String} {verdict : Verdict} {key : Digest}
  {entry : CacheEntry}

/-- No digest has two entries. -/
def Distinct (cache : Cache) : Prop :=
  (cache.entries.map CacheEntry.key).Nodup

/-- The verdict of an entry that may be read, if there is one. -/
def readable (cache : Cache) (now : Int) (entry : Option CacheEntry) : Option Verdict :=
  (entry.filter (cache.isFresh now)).map CacheEntry.verdict

theorem key_of_find? (found : cache.find? key = some entry) : entry.key = key := by
  simpa using List.find?_some found

theorem mem_of_find? (found : cache.find? key = some entry) : entry ∈ cache.entries :=
  List.mem_of_find?_eq_some found

/-- Where no digest has two entries, the entry of a digest is the one that is listed. -/
theorem Distinct.find?_eq_some_iff (distinct : cache.Distinct) :
    cache.find? key = some entry ↔ entry ∈ cache.entries ∧ entry.key = key := by
  constructor
  · intro found
    exact ⟨mem_of_find? found, key_of_find? found⟩
  · rintro ⟨listed, rfl⟩
    cases found : cache.find? entry.key with
    | none =>
        have absent := List.find?_eq_none.mp found entry listed
        simp at absent
    | some other =>
        have same : other = entry :=
          List.inj_on_of_nodup_map distinct (mem_of_find? found) listed (key_of_find? found)
        rw [same]

/-! ## Reading -/

theorem get_fst (cache : Cache) (now : Int) (code : String) :
    (cache.get now code).1 = cache.readable now (cache.find? (contentDigest code)) := by
  rw [get]
  cases cache.find? (contentDigest code) with
  | none => rfl
  | some entry => cases fresh : cache.isFresh now entry <;> simp [readable, Option.filter, fresh]

/-- A verdict is missing if there is no entry for the code, or if its entry has expired. -/
theorem get_eq_none_iff :
    (cache.get now code).1 = none ↔
      ∀ entry, cache.find? (contentDigest code) = some entry → cache.isFresh now entry = false := by
  rw [get_fst]
  cases cache.find? (contentDigest code) with
  | none => simp [readable]
  | some entry => cases fresh : cache.isFresh now entry <;> simp [readable, Option.filter, fresh]

/-- The verdict on a text that may be read, if there is one.  A text that cannot be written has
none. -/
def read? (cache : Cache) (now : Int) (text : LooseText) : Option Verdict :=
  match text.encoded with
  | .ok code => (cache.get now code).1
  | .error _ => none

theorem read?_of_encoded {text : LooseText} (writes : text.encoded = .ok code) :
    cache.read? now text = (cache.get now code).1 := by
  rw [read?, writes]

theorem read?_eq_some_iff {text : LooseText} :
    cache.read? now text = some verdict ↔
      ∃ code : String, text = code ∧ (cache.get now code).1 = some verdict := by
  constructor
  · intro read
    rw [read?] at read
    split at read
    · next code writes => exact ⟨code, LooseText.encoded_eq_ok.mp writes, read⟩
    · cases read
  · rintro ⟨code, rfl, read⟩
    rw [read?_of_encoded (LooseText.encoded_ofString code), read]

theorem get_of_eq_none (missed : (cache.get now code).1 = none) :
    cache.get now code = (none, cache) := by
  rw [get] at missed ⊢
  split
  · rfl
  · split
    · simp_all
    · rfl

@[simp] theorem timeToLive_get : (cache.get now code).2.timeToLive = cache.timeToLive := by
  rw [get]
  split
  · rfl
  · split <;> rfl

theorem find?_without_append (found : cache.find? key = some entry) (asked : Digest) :
    (cache.without key ++ [entry]).find? (fun other => other.key = asked) =
      cache.find? asked := by
  have keyed := key_of_find? found
  rw [without, List.find?_append, List.find?_filter]
  by_cases same : asked = key
  · subst same
    have nothing : cache.entries.find? (fun other =>
        decide (decide (other.key ≠ asked) = true ∧ decide (other.key = asked) = true)) = none := by
      simp [List.find?_eq_none]
    rw [nothing, found]
    simp [keyed]
  · have agree : (fun other : CacheEntry =>
        decide (decide (other.key ≠ key) = true ∧ decide (other.key = asked) = true)) =
        fun other => decide (other.key = asked) := by
      funext other
      by_cases equal : other.key = asked <;> simp [equal, same]
    have last : [entry].find? (fun other => decide (other.key = asked)) = none := by
      simp [keyed, Ne.symm same]
    rw [agree, last, Option.or_none]
    rfl

@[simp] theorem find?_get (cache : Cache) (now : Int) (code : String) (key : Digest) :
    (cache.get now code).2.find? key = cache.find? key := by
  rw [get]
  cases found : cache.find? (contentDigest code) with
  | none => rfl
  | some entry =>
      dsimp only
      split
      · have keyed := key_of_find? found
        rw [keyed]
        exact find?_without_append found key
      · rfl

theorem isFresh_get (cache : Cache) (now later : Int) (code : String) :
    (cache.get now code).2.isFresh later = cache.isFresh later := by
  funext entry
  simp only [isFresh, timeToLive_get]

/-- Reading leaves what will be read later. -/
theorem get_fst_get (cache : Cache) (now later : Int) (code other : String) :
    ((cache.get now code).2.get later other).1 = (cache.get later other).1 := by
  rw [get_fst, get_fst, find?_get]
  simp only [readable, isFresh_get]

theorem read?_get (cache : Cache) (now later : Int) (code : String) (text : LooseText) :
    (cache.get now code).2.read? later text = cache.read? later text := by
  rw [read?, read?]
  cases text.encoded with
  | ok other => exact cache.get_fst_get now later code other
  | error error => rfl

theorem distinct_without_append (distinct : cache.Distinct) (keyed : entry.key = key) :
    ((cache.without key ++ [entry]).map CacheEntry.key).Nodup := by
  rw [List.map_append, List.nodup_append]
  refine ⟨?_, by simp, ?_⟩
  · exact (List.filter_sublist.map CacheEntry.key).nodup distinct
  · intro first listed second last equal
    simp only [without, List.mem_map, List.mem_filter] at listed
    obtain ⟨older, ⟨_, other⟩, rfl⟩ := listed
    simp only [List.map_cons, List.map_nil, List.mem_singleton] at last
    simp [equal, last, keyed] at other

theorem Distinct.get (distinct : cache.Distinct) : (cache.get now code).2.Distinct := by
  rw [Cache.get]
  split
  · exact distinct
  · split
    · exact distinct_without_append distinct rfl
    · exact distinct

/-! ## Storing -/

def newEntry (now : Int) (code : String) (verdict : Verdict) : CacheEntry :=
  ⟨contentDigest code, verdict, now⟩

theorem entries_put :
    (cache.put now code verdict).entries =
      keepLast cache.capacity (cache.without (contentDigest code) ++ [newEntry now code verdict]) :=
  rfl

theorem Distinct.put (distinct : cache.Distinct) : (cache.put now code verdict).Distinct := by
  rw [Distinct]
  rw [entries_put]
  exact ((List.drop_sublist _ _).map CacheEntry.key).nodup (distinct_without_append distinct rfl)

/-- What is stored last is never pushed out. -/
theorem entries_put_eq_concat (cache : Cache) (now : Int) (code : String) (verdict : Verdict) :
    ∃ older, older ⊆ cache.without (contentDigest code) ∧
      (cache.put now code verdict).entries = older ++ [newEntry now code verdict] := by
  have room := cache.capacity.property
  rw [entries_put, keepLast, List.drop_append_of_le_length]
  · exact ⟨_, List.drop_subset _ _, rfl⟩
  · simp only [List.length_append, List.length_cons, List.length_nil]
    omega

theorem find?_put_self :
    (cache.put now code verdict).find? (contentDigest code) = some (newEntry now code verdict) := by
  obtain ⟨older, among, entries⟩ := cache.entries_put_eq_concat now code verdict
  have others : older.find? (fun entry => entry.key = contentDigest code) = none := by
    refine List.find?_eq_none.mpr fun entry listed => ?_
    simpa using (List.mem_filter.mp (among listed)).2
  rw [find?, entries, List.find?_append, others]
  simp [newEntry]

/-- A verdict that is stored may be read until it expires. -/
theorem get_put_self {later : Int} (inTime : later - now ≤ cache.timeToLive) :
    ((cache.put now code verdict).get later code).1 = some verdict := by
  have fresh : (cache.put now code verdict).isFresh later (newEntry now code verdict) = true :=
    decide_eq_true inTime
  rw [get_fst, find?_put_self, readable, Option.filter_some, if_pos fresh]
  rfl

/-- Storing a verdict leaves the entry of another digest what it was, or pushes it out. -/
theorem Distinct.find?_put_other (distinct : cache.Distinct) (other : key ≠ contentDigest code) :
    (cache.put now code verdict).find? key = cache.find? key ∨
      (cache.put now code verdict).find? key = none := by
  cases found : (cache.put now code verdict).find? key with
  | none => exact .inr rfl
  | some entry =>
      left
      have keyed := key_of_find? found
      have listed := List.mem_of_mem_drop (mem_of_find? found)
      rw [List.mem_append] at listed
      rcases listed with old | new
      · exact (distinct.find?_eq_some_iff.mpr ⟨(List.mem_filter.mp old).1, keyed⟩).symm
      · have made : entry = newEntry now code verdict := List.mem_singleton.mp new
        rw [made] at keyed
        exact absurd keyed.symm other

/-! ## Clearing -/

theorem distinct_clear (cache : Cache) : cache.clear.Distinct :=
  List.nodup_nil

theorem distinct_empty (timeToLive : Int) (capacity : { count : Nat // 0 < count }) :
    (empty timeToLive capacity).Distinct :=
  List.nodup_nil

end Cache

end CodeComplexity
