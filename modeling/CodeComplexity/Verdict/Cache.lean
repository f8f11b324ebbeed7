import CodeComplexity.Alarm
import CodeComplexity.Text.Digest
import CodeComplexity.Verdict.Basic

/-!
# The verdict cache

Verdicts by the digest of the code that they are about.  An entry that is older than the time to
live reads as absent but keeps its place until it is replaced or pushed out; storing a verdict when
the cache is full pushes out the entry that was used longest ago.  Only storing an entry and reading
a verdict from it count as uses.  The clock that tells the age of entries may be set back.

Only code that can be written has a digest.  `Cache.look` looks for any text, by a clock that may be
out of order; it is needed only if there is an entry.
-/

namespace CodeComplexity

open Text

/-- A stored verdict. -/
structure CacheEntry where
  key : Digest
  verdict : Verdict
  storedAt : Int

/-- Verdicts by digest, the entry used longest ago first. -/
structure Cache where
  timeToLive : Int
  /-- How many entries there may be. -/
  capacity : { count : Nat // 0 < count }
  entries : List CacheEntry

/-- A reading of the clock, none while the clock is out of order. -/
abbrev ClockReading := Option Int

/-- Why a verdict cannot be looked up. -/
inductive LookFault where
  /-- The text cannot be written. -/
  | unencodable (error : EncodeError)
  /-- The clock is needed and out of order. -/
  | clockless
  deriving DecidableEq, Repr

namespace Cache

/-- The capacity that a number stands for, or what is wrong with the number. -/
def capacityOf (count : Int) : Except String { count : Nat // 0 < count } :=
  if enough : 0 < count.toNat then .ok ⟨count.toNat, enough⟩
  else .error "max_entries must be at least 1"

def empty (timeToLive : Int) (capacity : { count : Nat // 0 < count }) : Cache :=
  ⟨timeToLive, capacity, []⟩

/-- The number of entries, expired ones included. -/
def size (cache : Cache) : Nat :=
  cache.entries.length

/-- The entry of a digest, expired or not. -/
def find? (cache : Cache) (key : Digest) : Option CacheEntry :=
  cache.entries.find? fun entry => entry.key = key

/-- The entries of all digests but one. -/
def without (cache : Cache) (key : Digest) : List CacheEntry :=
  cache.entries.filter fun entry => entry.key ≠ key

/-- Whether an entry may still be read. -/
def isFresh (cache : Cache) (now : Int) (entry : CacheEntry) : Bool :=
  now - entry.storedAt ≤ cache.timeToLive

/-- The verdict for a piece of code, and the cache after it was read. -/
def get (cache : Cache) (now : Int) (code : String) : Option Verdict × Cache :=
  match cache.find? (contentDigest code) with
  | none => (none, cache)
  | some entry =>
    if cache.isFresh now entry then
      (some entry.verdict, { cache with entries := cache.without entry.key ++ [entry] })
    else (none, cache)

/-- The last entries of a list, as many as there may be. -/
def keepLast (count : Nat) (entries : List CacheEntry) : List CacheEntry :=
  entries.drop (entries.length - count)

/-- Store the verdict for a piece of code. -/
def put (cache : Cache) (now : Int) (code : String) (verdict : Verdict) : Cache :=
  let key := contentDigest code
  { cache with entries := keepLast cache.capacity (cache.without key ++ [⟨key, verdict, now⟩]) }

def clear (cache : Cache) : Cache :=
  { cache with entries := [] }

/-- Whether there is an entry for a piece of code, so that the clock is needed to read it. -/
def holds (cache : Cache) (code : String) : Bool :=
  (cache.find? (contentDigest code)).isSome

theorem size_put_le (cache : Cache) (now : Int) (code : String) (verdict : Verdict) :
    (cache.put now code verdict).size ≤ cache.capacity := by
  simp only [size, put, keepLast, List.length_drop]
  omega

/-- The verdict for a text, and the cache after it was read, or why it cannot be read. -/
def look (cache : Cache) (clock : ClockReading) (text : LooseText) :
    Except LookFault (Option Verdict × Cache) :=
  match text.encoded with
  | .error error => .error (.unencodable error)
  | .ok code =>
    match clock with
    | some now => .ok (cache.get now code)
    | none => if cache.holds code then .error .clockless else .ok (none, cache)

@[simp] theorem size_clear (cache : Cache) : cache.clear.size = 0 := rfl

theorem get_of_not_holds {cache : Cache} {now : Int} {code : String}
    (absent : cache.holds code = false) : cache.get now code = (none, cache) := by
  simp only [holds, Option.isSome_eq_false_iff, Option.isNone_iff_eq_none] at absent
  simp [get, absent]

end Cache

end CodeComplexity
