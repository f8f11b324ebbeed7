import CodeComplexity.Settings.Basic

/-!
# Limits of settings

Settings that are acceptable as numbers may still be too large for what they stand for: a time to
live counts days up to a limit, and a delay has to be a number of seconds that a double can hold.
-/

namespace CodeComplexity

/-- The longest time to live, in days. -/
def longestLife : Nat := 999999999

/-- The time to live in seconds, if it is not too long. -/
def CacheSettings.secondsToLive? (settings : CacheSettings) : Option Nat :=
  if settings.minutesToLive / (24 * 60) ≤ longestLife then some (settings.minutesToLive * 60)
  else none

/-- The first number of seconds that is too large for a double: the middle between the largest
double and the next power of two. -/
def secondsBound : Nat := (1 <<< 1024) - (1 <<< 970)

/-- The delay of a hover in microseconds, if it is not too long. -/
def AnnotationSettings.delay? (settings : AnnotationSettings) : Option Int :=
  if settings.delayMilliseconds < 1000 * secondsBound then some (settings.delayMilliseconds * 1000)
  else none

/-- The time limits for connecting, reading, writing and waiting for a connection: all the same. -/
def ClassifierSettings.timeLimits (settings : ClassifierSettings) : List Float :=
  List.replicate 4 settings.timeoutSeconds.val

end CodeComplexity
