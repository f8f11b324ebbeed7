import CodeComplexity.Proofs.Course
import CodeComplexity.Proofs.Verdict.Recency
import CodeComplexity.Simulation.CacheRun

/-!
# What a cache remembers

What can be read from a cache follows from what has been done with it.  The verdict on a piece of
code can be read as long as it is not too old and fewer other pieces of code than there is room for
have been used since; only storing a verdict and reading one are uses.  It is the verdict that was
stored last.  The clock may be set forward and back meanwhile.
-/

namespace CodeComplexity

open Simulation Text

abbrev CacheMoment :=
  Moment CacheRun CacheStep Verdict

namespace CacheHistory

variable {run : CacheRun} {moments past : List CacheMoment} {moment : CacheMoment} {code : String}

/-- A cache in the course of time: anything may be done with it, and what is read comes out. -/
def process : Process CacheRun CacheStep Verdict where
  may := fun _ _ => True
  step := fun run step => ((run.take step).1, (run.take step).2.toList)

/-- The piece of code that a step is about. -/
def about? : CacheStep → Option String
  | .put code _ | .get code => some code
  | .clear | .wait _ => none

/-- The piece of code that is used at a moment: a verdict on it is stored, or read. -/
def used? (moment : CacheMoment) : Option String :=
  match moment.event with
  | .put code _ => some code
  | .get code => if moment.acts.isEmpty then none else some code
  | .clear | .wait _ => none

/-- The verdict on a piece of code that is stored at a moment, and when that is. -/
def stored? (code : String) (moment : CacheMoment) : Option (Verdict × Int) :=
  match moment.event with
  | .put other verdict => if other = code then some (verdict, moment.state.now) else none
  | .get _ | .clear | .wait _ => none

def clears (moment : CacheMoment) : Bool :=
  match moment.event with
  | .clear => true
  | .put _ _ | .get _ | .wait _ => false

/-- What has happened since the cache was cleared last, the latest moment first. -/
def sinceCleared (moments : List CacheMoment) : List CacheMoment :=
  moments.reverse.takeWhile fun moment => !clears moment

/-- The verdict on a piece of code that was stored last since the cache was cleared, and when that
was. -/
def lastStored? (moments : List CacheMoment) (code : String) : Option (Verdict × Int) :=
  (sinceCleared moments).findSome? (stored? code)

/-- What has been used since a piece of code was used last, the latest first. -/
def usedSince (moments : List CacheMoment) (code : String) : List String :=
  (moments.reverse.filterMap used?).takeWhile (· ≠ code)

def texts (moments : List CacheMoment) : List String :=
  moments.filterMap fun moment => about? moment.event

/-- No two of these texts have the same digest. -/
def Apart (texts : List String) : Prop :=
  ∀ first ∈ texts, ∀ second ∈ texts, contentDigest first = contentDigest second → first = second

instance (texts : List String) : Decidable (Apart texts) :=
  inferInstanceAs (Decidable (∀ first ∈ texts, ∀ second ∈ texts, _ → _))

theorem Apart.subset {some all : List String} (apart : Apart all) (fewer : some ⊆ all) :
    Apart some :=
  fun first listed second also => apart first (fewer listed) second (fewer also)

/-! ## One more moment -/

/-- What has been used since the cache was cleared last, in order. -/
def uses (moments : List CacheMoment) : List String :=
  (sinceCleared moments).reverse.filterMap used?

theorem sinceCleared_concat (past : List CacheMoment) (moment : CacheMoment) :
    sinceCleared (past ++ [moment]) =
      if clears moment then [] else moment :: sinceCleared past := by
  rw [sinceCleared, List.reverse_concat, List.takeWhile_cons, sinceCleared]
  cases clears moment <;> rfl

theorem uses_concat (past : List CacheMoment) (moment : CacheMoment) :
    uses (past ++ [moment]) = if clears moment then [] else uses past ++ (used? moment).toList := by
  rw [uses, sinceCleared_concat]
  cases clears moment with
  | true => rfl
  | false =>
      simp only [Bool.false_eq_true, if_false, List.reverse_cons, List.filterMap_append, uses]
      cases used : used? moment <;> simp [used]

theorem lastStored?_concat (past : List CacheMoment) (moment : CacheMoment) (code : String) :
    lastStored? (past ++ [moment]) code =
      if clears moment then none else (stored? code moment).or (lastStored? past code) := by
  rw [lastStored?, sinceCleared_concat]
  cases clears moment with
  | true => rfl
  | false =>
      simp only [Bool.false_eq_true, if_false, List.findSome?_cons, lastStored?]
      cases stored? code moment <;> rfl

theorem texts_concat (past : List CacheMoment) (moment : CacheMoment) :
    texts (past ++ [moment]) = texts past ++ (about? moment.event).toList := by
  rw [texts, List.filterMap_append, texts]
  cases about : about? moment.event <;> simp [about]

/-- What is used is what a step is about. -/
theorem about?_of_used? (used : used? moment = some code) : about? moment.event = some code := by
  rw [used?] at used
  split at used
  · next happened =>
    rw [happened, ← used]
    rfl
  · next happened =>
    split at used
    · cases used
    · rw [happened, ← used]
      rfl
  · cases used
  · cases used

theorem mem_texts_of_mem_uses (used : code ∈ uses moments) : code ∈ texts moments := by
  obtain ⟨moment, listed, uses⟩ := List.mem_filterMap.mp used
  have happened := (List.takeWhile_prefix _).subset (List.mem_reverse.mp listed)
  exact List.mem_filterMap.mpr ⟨moment, List.mem_reverse.mp happened, about?_of_used? uses⟩

theorem mem_uses_of_lastStored? {found : Verdict × Int}
    (stored : lastStored? moments code = some found) : code ∈ uses moments := by
  obtain ⟨moment, listed, stores⟩ := List.exists_of_findSome?_eq_some stored
  refine List.mem_filterMap.mpr ⟨moment, List.mem_reverse.mpr listed, ?_⟩
  rw [stored?] at stores
  split at stores
  · next happened =>
    split at stores
    · next same =>
      rw [used?, happened, same]
    · cases stores
  · cases stores
  · cases stores
  · cases stores

/-! ## What is in the cache -/

/-- The digests in the cache are those of the pieces of code used last, and each entry is the one
that was stored last for its code. -/
structure Remembers (moments : List CacheMoment) (cache : Cache) : Prop where
  keys : cache.keys = (latest cache.capacity (uses moments)).map contentDigest
  entries : ∀ entry ∈ cache.entries, ∃ code, contentDigest code = entry.key ∧
    lastStored? moments code = some (entry.verdict, entry.storedAt)

theorem mem_texts_of_mem_latest {count : Nat} (listed : code ∈ latest count (uses moments)) :
    code ∈ texts moments :=
  mem_texts_of_mem_uses (List.mem_dedup.mp (List.mem_of_mem_drop listed))

theorem Remembers.distinct {cache : Cache} (remembers : Remembers moments cache)
    (apart : Apart (texts moments)) : cache.Distinct := by
  change cache.keys.Nodup
  rw [remembers.keys]
  refine List.Nodup.map_on ?_ ((List.drop_sublist _ _).nodup (List.nodup_dedup _))
  intro first listed second also
  exact apart first (mem_texts_of_mem_latest listed) second (mem_texts_of_mem_latest also)

theorem map_filter_ne {codes : List String} (apart : Apart (code :: codes)) :
    (codes.filter (· ≠ code)).map contentDigest =
      (codes.map contentDigest).filter (· ≠ contentDigest code) := by
  rw [List.filter_map]
  congr 1
  apply List.filter_congr
  intro other listed
  have same : contentDigest other = contentDigest code ↔ other = code :=
    ⟨apart other (List.mem_cons_of_mem _ listed) code List.mem_cons_self, congrArg _⟩
  simp [same]

theorem apart_of_about {event : CacheStep} (about : about? event = some code)
    (apart : Apart (texts (past ++ [process.moment run event]))) : Apart (code :: texts past) := by
  apply apart.subset
  rw [texts_concat]
  intro text listed
  rcases List.mem_cons.mp listed with rfl | older
  · exact List.mem_append_right _ (Option.mem_toList.mpr about)
  · exact List.mem_append_left _ older

/-- Leaving a piece of code out of those used last leaves out its digest. -/
theorem Remembers.keys_filter {cache : Cache} (remembers : Remembers past cache)
    (apart : Apart (code :: texts past)) :
    cache.keys.filter (· ≠ contentDigest code) =
      ((latest cache.capacity (uses past)).filter (· ≠ code)).map contentDigest := by
  rw [remembers.keys, map_filter_ne]
  apply apart.subset
  intro text listed
  rcases List.mem_cons.mp listed with rfl | older
  · exact List.mem_cons_self
  · exact List.mem_cons_of_mem _ (mem_texts_of_mem_latest older)

/-- A piece of code is among those used last if its digest is in the cache. -/
theorem Remembers.among_latest_iff {cache : Cache} (remembers : Remembers past cache)
    (apart : Apart (code :: texts past)) :
    code ∈ latest cache.capacity (uses past) ↔ contentDigest code ∈ cache.keys := by
  rw [remembers.keys, List.mem_map]
  constructor
  · intro listed
    exact ⟨code, listed, rfl⟩
  · rintro ⟨other, listed, same⟩
    have equal := apart other (List.mem_cons_of_mem _ (mem_texts_of_mem_latest listed)) code
      List.mem_cons_self same
    exact equal ▸ listed

theorem Remembers.put (remembers : Remembers past run.cache) (code : String) (verdict : Verdict)
    (apart : Apart (code :: texts past)) :
    Remembers (past ++ [process.moment run (.put code verdict)])
      (run.cache.put run.now code verdict) := by
  constructor
  · rw [Cache.keys_put, remembers.keys_filter apart, uses_concat]
    change _ = (latest run.cache.capacity (uses past ++ [code])).map contentDigest
    rw [latest_concat, map_rtake, List.map_append]
    rfl
  · intro entry listed
    rw [Cache.entries_put] at listed
    rcases List.mem_append.mp (List.mem_of_mem_drop listed) with old | new
    · obtain ⟨there, other⟩ := List.mem_filter.mp old
      obtain ⟨about, digest, stored⟩ := remembers.entries entry there
      refine ⟨about, digest, ?_⟩
      have different : code ≠ about := by
        rintro rfl
        simp [digest] at other
      rw [lastStored?_concat, stored]
      change ((if code = about then _ else none).or _) = _
      rw [if_neg different, Option.none_or]
    · obtain rfl := List.mem_singleton.mp new
      refine ⟨code, rfl, ?_⟩
      rw [lastStored?_concat]
      change ((if code = code then _ else none).or _) = _
      rw [if_pos rfl]
      rfl

/-- Where nothing is stored or dropped, what was stored last stays so. -/
theorem lastStored?_of_get (past : List CacheMoment) (run : CacheRun) (asked about : String) :
    lastStored? (past ++ [process.moment run (.get asked)]) about = lastStored? past about := by
  rw [lastStored?_concat]
  rfl

theorem Remembers.get (remembers : Remembers past run.cache) (code : String)
    (apart : Apart (code :: texts past)) :
    Remembers (past ++ [process.moment run (.get code)]) (run.cache.get run.now code).2 := by
  have distinct := remembers.distinct (apart.subset (List.subset_cons_self _ _))
  refine ⟨?_, ?_⟩
  · cases read : (run.cache.get run.now code).1 with
    | none =>
        have unused : used? (process.moment run (.get code)) = none := by
          change (if (run.cache.get run.now code).1.toList.isEmpty then none else some code) = none
          rw [read]
          rfl
        rw [Cache.get_of_eq_none read, uses_concat, unused, remembers.keys]
        change _ = (latest _ (uses past ++ [])).map contentDigest
        rw [List.append_nil]
    | some verdict =>
        have used : used? (process.moment run (.get code)) = some code := by
          change (if (run.cache.get run.now code).1.toList.isEmpty then none else some code) = _
          rw [read]
          rfl
        obtain ⟨entry, found, fresh, -⟩ := Cache.get_eq_some_iff.mp read
        have listed := (remembers.among_latest_iff apart).mpr (Cache.mem_keys_of_find? found)
        rw [Cache.keys_get_of_fresh found fresh, remembers.keys_filter apart, uses_concat, used,
          Cache.capacity_get]
        change _ = (latest _ (uses past ++ [code])).map contentDigest
        rw [latest_concat_of_mem listed, List.map_append]
        rfl
  · intro entry listed
    obtain ⟨about, digest, stored⟩ :=
      remembers.entries entry ((distinct.perm_get run.now code).mem_iff.mp listed)
    exact ⟨about, digest, (lastStored?_of_get past run code about).trans stored⟩

/-- Whatever is done with a cache, it remembers what it should. -/
theorem Remembers.step (remembers : Remembers past run.cache) (event : CacheStep)
    (apart : Apart (texts (past ++ [process.moment run event]))) :
    Remembers (past ++ [process.moment run event]) (process.moment run event).after.cache := by
  cases event with
  | put code verdict => exact remembers.put code verdict (apart_of_about rfl apart)
  | get code => exact remembers.get code (apart_of_about rfl apart)
  | clear =>
      constructor
      · rw [uses_concat]
        exact (congrArg (List.map contentDigest) (latest_nil _)).symm
      · intro entry listed
        exact absurd listed List.not_mem_nil
  | wait time =>
      constructor
      · rw [uses_concat]
        change run.cache.keys = (latest run.cache.capacity (uses past ++ [])).map contentDigest
        rw [List.append_nil, remembers.keys]
      · intro entry listed
        obtain ⟨about, digest, stored⟩ := remembers.entries entry listed
        refine ⟨about, digest, ?_⟩
        rw [lastStored?_concat, ← stored]
        rfl

/-- What stays the same whatever is done with a cache. -/
theorem limits_step (run : CacheRun) (event : CacheStep) :
    (process.step run event).1.cache.timeToLive = run.cache.timeToLive ∧
      (process.step run event).1.cache.capacity = run.cache.capacity := by
  cases event with
  | put code verdict => exact ⟨rfl, rfl⟩
  | get code => exact ⟨Cache.timeToLive_get, Cache.capacity_get⟩
  | clear => exact ⟨rfl, rfl⟩
  | wait time => exact ⟨rfl, rfl⟩

theorem limits_of_course {timeToLive : Int} {capacity : { count : Nat // 0 < count }}
    (course : Course process (.start (.empty timeToLive capacity)) moments run) :
    run.cache.timeToLive = timeToLive ∧ run.cache.capacity = capacity := by
  induction course with
  | start => exact ⟨rfl, rfl⟩
  | @next past state event _ _ ih =>
      obtain ⟨lifetime, room⟩ := limits_step state event
      exact ⟨lifetime.trans ih.1, room.trans ih.2⟩

theorem remembers_of_course {timeToLive : Int} {capacity : { count : Nat // 0 < count }}
    (course : Course process (.start (.empty timeToLive capacity)) moments run)
    (apart : Apart (texts moments)) : Remembers moments run.cache := by
  induction course with
  | start =>
      constructor
      · exact (congrArg (List.map contentDigest) (latest_nil _)).symm
      · intro entry listed
        exact absurd listed List.not_mem_nil
  | @next past state event _ _ ih =>
      have before : texts past ⊆ texts (past ++ [process.moment state event]) := by
        rw [texts_concat]
        exact List.subset_append_left _ _
      exact (ih (apart.subset before)).step event apart

/-- What has been used since a piece of code was used last has been used since the cache was
cleared, if the piece of code has. -/
theorem usedSince_eq (used : code ∈ uses moments) :
    usedSince moments code = (uses moments).reverse.takeWhile (· ≠ code) := by
  have whole : moments.reverse.filterMap used? = (uses moments).reverse ++
      (moments.reverse.dropWhile fun moment => !clears moment).filterMap used? := by
    rw [uses, ← List.filterMap_reverse, List.reverse_reverse, ← List.filterMap_append, sinceCleared,
      List.takeWhile_append_dropWhile]
  obtain ⟨since, earlier, split, fresh⟩ := List.eq_append_cons_of_mem (List.mem_reverse.mpr used)
  rw [usedSince, whole, split, List.append_assoc, List.cons_append, takeWhile_ne fresh,
    takeWhile_ne fresh]

/-- A piece of code that was stored is in the cache if fewer others than there is room for were used
since. -/
theorem Remembers.mem_keys_iff {cache : Cache} (remembers : Remembers moments cache)
    (apart : Apart (code :: texts moments)) {found : Verdict × Int}
    (stored : lastStored? moments code = some found) :
    contentDigest code ∈ cache.keys ↔
      (usedSince moments code).toFinset.card < cache.capacity := by
  have used := mem_uses_of_lastStored? stored
  rw [← remembers.among_latest_iff apart, usedSince_eq used]
  exact mem_latest_iff used

/-- The entry of a piece of code is what was stored last for it. -/
theorem Remembers.lastStored?_of_find? {cache : Cache} (remembers : Remembers moments cache)
    (apart : Apart (code :: texts moments)) {entry : CacheEntry}
    (found : cache.find? (contentDigest code) = some entry) :
    lastStored? moments code = some (entry.verdict, entry.storedAt) := by
  obtain ⟨about, digest, stored⟩ := remembers.entries entry (Cache.mem_of_find? found)
  have listed := mem_texts_of_mem_uses (mem_uses_of_lastStored? stored)
  have same := apart about (List.mem_cons_of_mem _ listed) code List.mem_cons_self
    (digest.trans (Cache.key_of_find? found))
  exact same ▸ stored

/-! ## The law -/

/-- A verdict on a piece of code is read if and only if it was stored last for that code since the
cache was cleared, is not older than the time to live, and fewer other pieces of code than there is
room for have been used since that code was used last.  Otherwise nothing is read and nothing
changes; and reading a verdict changes nothing but the order of the entries, of which there are
never more than there is room for. -/
theorem reads_follow_history {timeToLive : Int} {capacity : { count : Nat // 0 < count }}
    (course : Course process (.start (.empty timeToLive capacity)) moments run) (code : String)
    (apart : Apart (code :: texts moments)) :
    (∀ verdict, (run.take (.get code)).2 = some verdict ↔
      ∃ storedAt, lastStored? moments code = some (verdict, storedAt) ∧
        run.now - storedAt ≤ timeToLive ∧
        (usedSince moments code).toFinset.card < capacity) ∧
    ((run.take (.get code)).2 = none → (run.take (.get code)).1 = run) ∧
    (run.take (.get code)).1.cache.entries.Perm run.cache.entries ∧
    run.cache.size ≤ capacity := by
  have remembers := remembers_of_course course (apart.subset (List.subset_cons_self _ _))
  have distinct := remembers.distinct (apart.subset (List.subset_cons_self _ _))
  obtain ⟨lifetime, room⟩ := limits_of_course course
  refine ⟨?_, ?_, distinct.perm_get run.now code, ?_⟩
  · intro verdict
    change (run.cache.get run.now code).1 = some verdict ↔ _
    rw [Cache.get_eq_some_iff, ← lifetime, ← room]
    constructor
    · rintro ⟨entry, found, fresh, rfl⟩
      have stored := remembers.lastStored?_of_find? apart found
      refine ⟨entry.storedAt, stored, of_decide_eq_true fresh, ?_⟩
      exact (remembers.mem_keys_iff apart stored).mp (Cache.mem_keys_of_find? found)
    · rintro ⟨storedAt, stored, young, few⟩
      obtain ⟨entry, found⟩ :=
        distinct.find?_of_mem_keys ((remembers.mem_keys_iff apart stored).mpr few)
      have same := (remembers.lastStored?_of_find? apart found).symm.trans stored
      obtain ⟨rfl, rfl⟩ := Prod.mk.inj (Option.some.inj same)
      exact ⟨entry, found, decide_eq_true young, rfl⟩
  · intro missed
    change { run with cache := (run.cache.get run.now code).2 } = run
    rw [Cache.get_of_eq_none missed]
  · have few : run.cache.keys.length ≤ run.cache.capacity := by
      rw [remembers.keys, List.length_map]
      exact length_latest_le _ _
    rw [← room]
    exact (List.length_map _).symm.trans_le few

/-- Verdicts to store. -/
def sureVerdict (complexity : Complexity) : Verdict :=
  ⟨complexity, ⟨1.0, by decide⟩, ⟨1, 1, 0, 0, 0⟩, ⟨0.0, by decide⟩, none⟩

/-- There is room for two verdicts, the clock is set back, and a verdict that is read in time stays
while the other one is pushed out. -/
def usedInTime : List CacheStep :=
  [.put "f" (sureVerdict .simple), .put "g" (sureVerdict .complex), .wait 3, .get "f",
    .put "h" (sureVerdict .moderate), .wait (-1)]

/-- The law at work: one other piece of code has been used since "f" was, and two since "g" was. -/
theorem reads_follow_history_in_time :
    let run := process.last (.start (.empty 5 ⟨2, Nat.two_pos⟩)) usedInTime
    (run.take (.get "f")).2 = some (sureVerdict .simple) ∧ (run.take (.get "g")).2 = none := by
  intro run
  let moments := process.moments (.start (.empty 5 ⟨2, Nat.two_pos⟩)) usedInTime
  have course : Course process (.start (.empty 5 ⟨2, Nat.two_pos⟩)) moments run :=
    Process.course_of_allows ⟨trivial, trivial, trivial, trivial, trivial, trivial, trivial⟩
  have storedF : lastStored? moments "f" = some (sureVerdict .simple, 0) := rfl
  have young : run.now - 0 ≤ 5 := by decide +kernel
  have few : (usedSince moments "f").toFinset.card < 2 := by decide +kernel
  have many : ¬ (usedSince moments "g").toFinset.card < 2 := by decide +kernel
  have ⟨readsF, _⟩ := reads_follow_history course "f" (by decide +kernel)
  have ⟨readsG, _⟩ := reads_follow_history course "g" (by decide +kernel)
  refine ⟨(readsF _).mpr ⟨0, storedF, young, few⟩, ?_⟩
  rw [Option.eq_none_iff_forall_ne_some]
  intro verdict read
  obtain ⟨_, _, _, fewer⟩ := (readsG verdict).mp read
  exact many fewer

end CacheHistory

end CodeComplexity
