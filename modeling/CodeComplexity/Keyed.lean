/-!
# Values by key

A list of values by key, in the order in which the keys were first set.  `get?` is the view: what is
set is found under its key and nowhere else, and an erased key is found no more.  Most keys are
texts.
-/

namespace CodeComplexity

/-- Values by key, in order of arrival. -/
abbrev Keyed (α : Type) (κ : Type := String) :=
  List (κ × α)

namespace Keyed

variable {α κ : Type} [DecidableEq κ]

/-- The value of a key. -/
def get? (values : Keyed α κ) (key : κ) : Option α :=
  List.lookup key values

/-- Set a key: a new key goes to the end, a known one keeps its place. -/
def set (key : κ) (value : α) : Keyed α κ → Keyed α κ
  | [] => [(key, value)]
  | (other, old) :: rest =>
    if other = key then (key, value) :: rest else (other, old) :: set key value rest

/-- Forget a key. -/
def erase (key : κ) (values : Keyed α κ) : Keyed α κ :=
  values.filter fun (other, _) => other ≠ key

def has (values : Keyed α κ) (key : κ) : Bool :=
  (values.get? key).isSome

def keys (values : Keyed α κ) : List κ :=
  values.map Prod.fst

@[simp] theorem get?_nil (key : κ) : get? ([] : Keyed α κ) key = none := rfl

theorem get?_cons (key other : κ) (value : α) (rest : Keyed α κ) :
    get? ((key, value) :: rest) other = if other = key then some value else rest.get? other := by
  by_cases asked : other = key
  · simp [get?, asked]
  · have different : (other == key) = false := by simp [asked]
    simp [get?, List.lookup_cons, different, asked]

theorem get?_set (key other : κ) (value : α) (values : Keyed α κ) :
    (values.set key value).get? other = if other = key then some value else values.get? other := by
  induction values with
  | nil => simp [set, get?_cons]
  | cons member rest ih =>
    obtain ⟨known, old⟩ := member
    by_cases same : known = key
    · subst same
      by_cases asked : other = known <;> simp [set, get?_cons, asked]
    · by_cases asked : other = known
      · subst asked
        simp [set, same, get?_cons]
      · simp [set, same, get?_cons, asked, ih]

theorem get?_erase (key other : κ) (values : Keyed α κ) :
    (values.erase key).get? other = if other = key then none else values.get? other := by
  induction values with
  | nil => simp [erase]
  | cons member rest ih =>
    obtain ⟨known, old⟩ := member
    simp only [erase] at ih
    by_cases same : known = key
    · subst same
      by_cases asked : other = known
      · simp [erase, asked] at ih ⊢
        exact ih
      · simp [erase, get?_cons, asked] at ih ⊢
        exact ih
    · by_cases asked : other = known
      · subst asked
        simp [erase, same, get?_cons]
      · simp [erase, same, get?_cons, asked] at ih ⊢
        exact ih

theorem mem_of_get? {key : κ} {value : α} {values : Keyed α κ}
    (found : values.get? key = some value) : (key, value) ∈ values := by
  induction values with
  | nil => simp at found
  | cons member rest ih =>
    obtain ⟨known, old⟩ := member
    rw [get?_cons] at found
    split at found
    · next same =>
      obtain rfl := Option.some.inj found
      rw [same]
      exact List.mem_cons_self
    · exact List.mem_cons_of_mem _ (ih found)

theorem keys_erase_sublist (key : κ) (values : Keyed α κ) :
    (values.erase key).keys.Sublist values.keys :=
  List.filter_sublist.map Prod.fst

theorem mem_keys_set {key other : κ} {value : α} {values : Keyed α κ} :
    other ∈ (values.set key value).keys ↔ other = key ∨ other ∈ values.keys := by
  induction values with
  | nil => simp [set, keys]
  | cons member rest ih =>
    obtain ⟨known, old⟩ := member
    simp only [keys, set, List.map_cons, List.mem_cons] at ih ⊢
    split
    · next same => simp [same]
    · simp only [List.map_cons, List.mem_cons, ih]
      exact or_left_comm

theorem nodup_keys_set {values : Keyed α κ} (nodup : values.keys.Nodup) (key : κ) (value : α) :
    (values.set key value).keys.Nodup := by
  induction values with
  | nil => simp [set, keys]
  | cons member rest ih =>
    obtain ⟨known, old⟩ := member
    simp only [keys, List.map_cons, List.nodup_cons] at nodup
    simp only [set]
    split
    · next same =>
      subst same
      simp only [keys, List.map_cons, List.nodup_cons]
      exact nodup
    · next different =>
      simp only [keys, List.map_cons, List.nodup_cons]
      refine ⟨?_, ih nodup.2⟩
      intro listed
      rcases mem_keys_set.mp listed with same | older
      · exact different same
      · exact nodup.1 older

/-- Where no key is listed twice, a listed value is found under its key. -/
theorem get?_of_mem {key : κ} {value : α} {values : Keyed α κ} (nodup : values.keys.Nodup)
    (listed : (key, value) ∈ values) : values.get? key = some value := by
  induction values with
  | nil => simp at listed
  | cons member rest ih =>
    obtain ⟨known, old⟩ := member
    simp only [keys, List.map_cons, List.nodup_cons] at nodup
    rw [get?_cons]
    rcases List.mem_cons.mp listed with same | older
    · obtain ⟨rfl, rfl⟩ := Prod.mk.inj same
      rw [if_pos rfl]
    · rw [if_neg, ih nodup.2 older]
      rintro rfl
      exact nodup.1 (List.mem_map_of_mem (f := Prod.fst) older)

theorem has_set (key other : κ) (value : α) (values : Keyed α κ) :
    (values.set key value).has other = (other = key || values.has other) := by
  rw [has, get?_set, has]
  split
  · next same => simp [same]
  · next different => simp [different]

theorem has_erase (key other : κ) (values : Keyed α κ) :
    (values.erase key).has other = (other ≠ key && values.has other) := by
  rw [has, get?_erase, has]
  split
  · next same => simp [same]
  · next different => simp [different]

theorem set_of_notMem {key : κ} {values : Keyed α κ} (new : key ∉ values.keys) (value : α) :
    values.set key value = values ++ [(key, value)] := by
  induction values with
  | nil => rfl
  | cons member rest ih =>
    simp only [keys, List.map_cons, List.mem_cons, not_or] at new
    rw [set, if_neg (Ne.symm new.1), ih new.2]
    rfl

/-- It is the same to set a value and to change all values then, or the other way round. -/
theorem map_set {β : Type} (change : α → β) (key : κ) (value : α) (values : Keyed α κ) :
    (values.set key value).map (Prod.map id change) =
      Keyed.set key (change value) (values.map (Prod.map id change)) := by
  induction values with
  | nil => rfl
  | cons member rest ih =>
    obtain ⟨known, old⟩ := member
    by_cases same : known = key
    · simp [set, same]
    · simp [set, same, ih]

/-- Values are kept in order when they are set one by one and no key comes twice. -/
theorem foldl_set_of_nodup {known values : Keyed α κ} (nodup : (keys (known ++ values)).Nodup) :
    values.foldl (fun known (key, value) => set key value known) known = known ++ values := by
  induction values generalizing known with
  | nil => rw [List.foldl_nil, List.append_nil]
  | cons member rest ih =>
    obtain ⟨key, value⟩ := member
    have new : key ∉ known.keys := by
      rw [keys, List.map_append, List.nodup_append] at nodup
      exact fun old => nodup.2.2 key old key List.mem_cons_self rfl
    rw [List.append_cons] at nodup
    rw [List.foldl_cons]
    dsimp only
    rw [set_of_notMem new, ih nodup, ← List.append_cons]

/-- It is the same to set values one by one and to change them all then, or the other way round. -/
theorem map_foldl_set {β : Type} (change : α → β) (values known : Keyed α κ) :
    (values.foldl (fun known (key, value) => set key value known) known).map
        (Prod.map id change) =
      (values.map (Prod.map id change)).foldl (fun known (key, value) => set key value known)
        (known.map (Prod.map id change)) := by
  induction values generalizing known with
  | nil => rfl
  | cons member rest ih =>
    rw [List.foldl_cons, ih, List.map_cons, List.foldl_cons, map_set]
    rfl

theorem mem_keys_foldl_set {key : κ} {values known : Keyed α κ} :
    key ∈ keys (values.foldl (fun known (key, value) => set key value known) known) ↔
      key ∈ known.keys ∨ key ∈ values.keys := by
  induction values generalizing known with
  | nil => simp [keys]
  | cons member rest ih =>
    rw [List.foldl_cons, ih, mem_keys_set]
    simp only [keys, List.map_cons, List.mem_cons]
    grind

end Keyed

end CodeComplexity
