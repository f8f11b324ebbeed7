import CodeComplexity.Proofs.Verdict.Entries
import Mathlib.Data.Finset.Card
import Mathlib.Data.List.DropRight

/-!
# What was used last

A cache that is full pushes out what was used longest ago.  So it holds the last ones of all keys
that have been used, each at the place of its last use, and a key is among them as long as fewer
other keys than there is room for have been used since.
-/

namespace CodeComplexity

open Text

section

variable {α : Type} {count : Nat}

theorem length_rtake (count : Nat) (values : List α) :
    (values.rtake count).length = min count values.length := by
  rw [List.rtake, List.length_drop]
  omega

theorem map_rtake {β : Type} (change : α → β) (count : Nat) (values : List α) :
    (values.rtake count).map change = (values.map change).rtake count := by
  rw [List.rtake, List.rtake, List.length_map, List.map_drop]

/-- The last ones of a list whose end is long enough are those of its end. -/
theorem rtake_append_of_le {front back : List α} (enough : count ≤ back.length) :
    (front ++ back).rtake count = back.rtake count := by
  rw [List.rtake, List.rtake, List.length_append, Nat.add_sub_assoc enough, List.drop_append,
    List.drop_eq_nil_of_le (Nat.le_add_right _ _), List.nil_append, Nat.add_sub_cancel_left]

variable [DecidableEq α] {uses : List α} {value : α}

/-- The values that were used last, as many as there may be, each at the place of its last use. -/
def latest (count : Nat) (uses : List α) : List α :=
  uses.dedup.rtake count

@[simp] theorem latest_nil (count : Nat) : latest count ([] : List α) = [] := by
  simp [latest, List.rtake]

theorem length_latest_le (count : Nat) (uses : List α) : (latest count uses).length ≤ count := by
  rw [latest, length_rtake]
  exact Nat.min_le_left _ _

theorem dedup_concat (uses : List α) (value : α) :
    (uses ++ [value]).dedup = uses.dedup.filter (· ≠ value) ++ [value] := by
  induction uses with
  | nil => rfl
  | cons head rest ih =>
      rw [List.cons_append]
      by_cases again : head ∈ rest
      · rw [List.dedup_cons_of_mem (List.mem_append_left _ again), List.dedup_cons_of_mem again, ih]
      · by_cases same : head = value
        · subst same
          rw [List.dedup_cons_of_mem (by simp), List.dedup_cons_of_notMem again, ih,
            List.filter_cons_of_neg (by simp)]
        · rw [List.dedup_cons_of_notMem (by simp [again, same]), List.dedup_cons_of_notMem again,
            ih, List.filter_cons_of_pos (by simpa using same), List.cons_append]

/-- Taking out one value shortens a list by one at most, if none occurs twice. -/
theorem length_le_filter_ne (nodup : uses.Nodup) (value : α) :
    uses.length ≤ (uses.filter (· ≠ value)).length + 1 := by
  have shorter : uses.length - 1 ≤ (uses.erase value).length := List.le_length_erase
  rw [nodup.erase_eq_filter] at shorter
  have same : uses.filter (· != value) = uses.filter (· ≠ value) := by
    apply List.filter_congr
    intro other _
    by_cases equal : other = value <;> simp [equal]
  rw [same] at shorter
  omega

/-- Another use puts its value to the end, and pushes out what was used longest ago. -/
theorem latest_concat (uses : List α) (value : α) :
    latest count (uses ++ [value]) =
      ((latest count uses).filter (· ≠ value) ++ [value]).rtake count := by
  have nodup := List.nodup_dedup uses
  rw [latest, dedup_concat, latest]
  rcases Nat.lt_or_ge uses.dedup.length count with few | enough
  · rw [List.rtake, List.rtake, List.rtake, Nat.sub_eq_zero_of_le few.le, List.drop_zero]
  · let front := uses.dedup.take (uses.dedup.length - count)
    let back := uses.dedup.rtake count
    have split : uses.dedup.filter (· ≠ value) =
        front.filter (· ≠ value) ++ back.filter (· ≠ value) := by
      rw [← List.filter_append]
      exact congrArg (List.filter (· ≠ value)) (List.take_append_drop _ _).symm
    have kept : back.length ≤ (back.filter (· ≠ value)).length + 1 :=
      length_le_filter_ne ((List.drop_sublist _ _).nodup nodup) value
    have full : back.length = min count uses.dedup.length := length_rtake count uses.dedup
    rw [split, List.append_assoc, rtake_append_of_le]
    rw [List.length_append, List.length_singleton]
    omega

/-- Using a value that is among the last ones pushes nothing out. -/
theorem latest_concat_of_mem (listed : value ∈ latest count uses) :
    latest count (uses ++ [value]) = (latest count uses).filter (· ≠ value) ++ [value] := by
  have short := length_latest_le count uses
  have fewer : ((latest count uses).filter (· ≠ value)).length < (latest count uses).length :=
    List.length_filter_lt_length_iff_exists.mpr ⟨value, listed, by simp⟩
  rw [latest_concat, List.rtake, Nat.sub_eq_zero_of_le, List.drop_zero]
  rw [List.length_append, List.length_singleton]
  omega

/-- What stands in front of a value that has not come before. -/
theorem takeWhile_ne {front : List α} (fresh : value ∉ front) (rest : List α) :
    (front ++ value :: rest).takeWhile (· ≠ value) = front := by
  rw [List.takeWhile_append_of_pos, List.takeWhile_cons_of_neg (by simp), List.append_nil]
  intro other listed
  simpa using fun same : other = value => fresh (same ▸ listed)

/-- A value is among the last ones if fewer other values than there may be were used since. -/
theorem mem_latest_iff (used : value ∈ uses) :
    value ∈ latest count uses ↔ (uses.reverse.takeWhile (· ≠ value)).toFinset.card < count := by
  obtain ⟨since, earlier, split, fresh⟩ :=
    List.eq_append_cons_of_mem (List.mem_reverse.mpr used)
  have later : uses.reverse.takeWhile (· ≠ value) = since := by
    rw [split, takeWhile_ne fresh]
  have order : uses = earlier.reverse ++ value :: since.reverse := by
    rw [← List.reverse_reverse uses, split]
    simp
  obtain ⟨before, -, whole⟩ := List.sublist_suffix_of_union earlier.reverse
    (value :: since.reverse.dedup)
  rw [← List.dedup_cons_of_notMem (by simpa using fresh), ← List.dedup_append, ← order,
    List.dedup_cons_of_notMem (by simpa using fresh)] at whole
  have nodup := List.nodup_dedup uses
  rw [← whole] at nodup
  have unused : value ∉ since.reverse.dedup := by simpa using fresh
  have notBefore : value ∉ before := fun listed =>
    (List.nodup_append.mp nodup).2.2 value listed value List.mem_cons_self rfl
  have size : since.toFinset.card = since.reverse.dedup.length := by
    rw [← List.toFinset_reverse, List.card_toFinset]
  rw [later, size, latest, ← whole]
  constructor
  · intro listed
    by_contra many
    rw [List.rtake, List.drop_append, List.mem_append] at listed
    rcases listed with early | late
    · exact notBefore (List.mem_of_mem_drop early)
    · rw [List.length_append, List.length_cons] at late
      obtain ⟨beyond, amount⟩ : ∃ beyond, before.length + (since.reverse.dedup.length + 1) - count -
          before.length = beyond + 1 := ⟨since.reverse.dedup.length - count, by omega⟩
      rw [amount, List.drop_succ_cons] at late
      exact unused (List.mem_of_mem_drop late)
  · intro few
    rw [List.rtake, List.drop_append_of_le_length]
    · exact List.mem_append_right _ List.mem_cons_self
    · rw [List.length_append, List.length_cons]
      omega

end

namespace Cache

variable {cache : Cache} {now : Int} {code : String} {entry : CacheEntry}

def keys (cache : Cache) : List Digest :=
  cache.entries.map CacheEntry.key

theorem capacity_get : (cache.get now code).2.capacity = cache.capacity := by
  rw [get]
  split
  · rfl
  · split <;> rfl

theorem keys_without (cache : Cache) (key : Digest) :
    (cache.without key).map CacheEntry.key = cache.keys.filter (· ≠ key) := by
  rw [keys, List.filter_map]
  rfl

theorem keys_put (cache : Cache) (now : Int) (code : String) (verdict : Verdict) :
    (cache.put now code verdict).keys =
      (cache.keys.filter (· ≠ contentDigest code) ++ [contentDigest code]).rtake
        cache.capacity := by
  have order : ((cache.without (contentDigest code) ++ [newEntry now code verdict]).map
      CacheEntry.key) = cache.keys.filter (· ≠ contentDigest code) ++ [contentDigest code] := by
    rw [List.map_append, keys_without]
    rfl
  rw [← order, ← map_rtake]
  rfl

theorem get_eq_some_iff {verdict : Verdict} :
    (cache.get now code).1 = some verdict ↔
      ∃ entry, cache.find? (contentDigest code) = some entry ∧ cache.isFresh now entry = true ∧
        entry.verdict = verdict := by
  rw [get_fst, readable, Option.map_eq_some_iff]
  simp only [Option.filter_eq_some_iff, and_assoc]

theorem keys_get_of_fresh (found : cache.find? (contentDigest code) = some entry)
    (fresh : cache.isFresh now entry = true) :
    (cache.get now code).2.keys =
      cache.keys.filter (· ≠ contentDigest code) ++ [contentDigest code] := by
  rw [get]
  rw [found]
  dsimp only
  rw [if_pos fresh, keys, List.map_append, keys_without, key_of_find? found]
  simp only [List.map_cons, List.map_nil, key_of_find? found]

theorem mem_keys_of_find? {key : Digest} (found : cache.find? key = some entry) :
    key ∈ cache.keys :=
  List.mem_map.mpr ⟨entry, mem_of_find? found, key_of_find? found⟩

theorem Distinct.find?_of_mem_keys (distinct : cache.Distinct) {key : Digest}
    (listed : key ∈ cache.keys) : ∃ entry, cache.find? key = some entry := by
  obtain ⟨entry, there, keyed⟩ := List.mem_map.mp listed
  exact ⟨entry, distinct.find?_eq_some_iff.mpr ⟨there, keyed⟩⟩

theorem Distinct.mem_entries_iff (distinct : cache.Distinct) :
    entry ∈ cache.entries ↔ cache.find? entry.key = some entry := by
  rw [distinct.find?_eq_some_iff, and_iff_left rfl]

/-- Reading puts the entries into another order at most. -/
theorem Distinct.perm_get (distinct : cache.Distinct) (now : Int) (code : String) :
    (cache.get now code).2.entries.Perm cache.entries := by
  have after : (cache.get now code).2.Distinct := distinct.get
  rw [List.perm_ext_iff_of_nodup after.of_map distinct.of_map]
  intro entry
  rw [after.mem_entries_iff, distinct.mem_entries_iff, find?_get]

end Cache

end CodeComplexity
