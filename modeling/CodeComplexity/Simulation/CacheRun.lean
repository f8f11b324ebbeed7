import CodeComplexity.Verdict.Cache

/-!
# The cache by itself

Runs a cache with a clock of its own, which may be set back.
-/

namespace CodeComplexity.Simulation

inductive CacheStep where
  | put (code : String) (verdict : Verdict)
  | get (code : String)
  | clear
  /-- The clock is moved, forward or back. -/
  | wait (time : Int)

/-- A cache and what its clock says. -/
structure CacheRun where
  now : Int
  cache : Cache

namespace CacheRun

def start (cache : Cache) : CacheRun :=
  ⟨0, cache⟩

/-- Let a step happen; what is read, if anything, comes with it. -/
def take (run : CacheRun) : CacheStep → CacheRun × Option Verdict
  | .put code verdict => ({ run with cache := run.cache.put run.now code verdict }, none)
  | .get code =>
    let (verdict, cache) := run.cache.get run.now code
    ({ run with cache }, verdict)
  | .clear => ({ run with cache := run.cache.clear }, none)
  | .wait time => ({ run with now := run.now + time }, none)

end CacheRun

end CodeComplexity.Simulation
