import Mathlib.Algebra.GroupWithZero.Nat
import CodeComplexity.Proofs.Settings.Written
import CodeComplexity.Session.Basic

/-!
# Which settings let a session start

Settings are checked for numbers that are too small, not for numbers that are too large.  A session
whose verdicts are to live longer than a time span can say, or whose hovers are to wait for more
seconds than a double can hold, does not start, although its settings are accepted.  `WithinLimits`
says where that begins; all other settings start a session that has just these values.
-/

namespace CodeComplexity

namespace Settings

/-- Settings that can be carried out: verdicts live for less than a thousand million days, and
hovers wait for less than the first number of seconds that no double is nearest to. -/
structure WithinLimits (settings : Settings) : Prop where
  life : settings.cache.minutesToLive < 1000000000 * 1440
  delay : settings.annotations.delayMilliseconds < 1000 * (2 ^ 1024 - 2 ^ 970)

theorem withinLimits_iff {settings : Settings} :
    settings.WithinLimits ↔ settings.cache.minutesToLive < 1000000000 * 1440 ∧
      settings.annotations.delayMilliseconds < 1000 * (2 ^ 1024 - 2 ^ 970) :=
  ⟨fun within => ⟨within.life, within.delay⟩, fun ⟨life, delay⟩ => ⟨life, delay⟩⟩

instance (settings : Settings) : Decidable settings.WithinLimits :=
  decidable_of_iff' _ withinLimits_iff

end Settings

/-- A time to live is told in seconds if it takes at most the longest life in whole days. -/
theorem CacheSettings.secondsToLive?_eq (settings : CacheSettings) :
    settings.secondsToLive? =
      if settings.minutesToLive < 1000000000 * 1440 then some (settings.minutesToLive * 60)
      else none := by
  rw [secondsToLive?, longestLife]
  congr 1
  rw [eq_iff_iff]
  omega

theorem secondsBound_eq : secondsBound = 2 ^ 1024 - 2 ^ 970 := by
  have shifted (exponent : Nat) : 1 <<< exponent = 2 ^ exponent := Nat.one_shiftLeft exponent
  exact congrArg₂ (· - ·) (shifted 1024) (shifted 970)

/-- The largest double is `(2 ^ 53 - 1) * 2 ^ 971`, and the bound lies in the middle between it and
the next power of two: from there on a number is rounded to what no double holds. -/
theorem secondsBound_is_middle :
    Decimal.FloatParts.ofFloat (Float.ofBits 0x7FEFFFFFFFFFFFFF) = .finite false (2 ^ 53 - 1) 971 ∧
      2 * secondsBound = (2 ^ 53 - 1) * 2 ^ 971 + 2 ^ 1024 := by
  constructor
  · decide
  · decide +kernel

theorem AnnotationSettings.delay?_eq (settings : AnnotationSettings) :
    settings.delay? =
      if settings.delayMilliseconds < 1000 * (2 ^ 1024 - 2 ^ 970)
      then some ((settings.delayMilliseconds : Int) * 1000) else none := by
  rw [delay?, secondsBound_eq]

namespace Session

/-- A session at its start that settings within the limits make: its verdicts live for just the
minutes and its hovers wait for just the milliseconds that the settings say. -/
def startOf (settings : Settings) : Session :=
  ⟨settings, .start, [],
    .start ((settings.annotations.delayMilliseconds : Int) * 1000)
      (.empty ((settings.cache.minutesToLive * 60 : Nat) * 1000000) settings.cache.capacity),
    .start drawDelay settings.annotations.enabled, [], []⟩

theorem start?_eq (settings : Settings) :
    start? settings =
      if settings.WithinLimits then some (startOf settings, [.probe none]) else none := by
  rw [start?, CacheSettings.secondsToLive?_eq, AnnotationSettings.delay?_eq]
  by_cases within : settings.WithinLimits
  · rw [if_pos within, if_pos within.life, if_pos within.delay]
    rfl
  · rw [if_neg within]
    by_cases life : settings.cache.minutesToLive < 1000000000 * 1440
    · rw [if_neg fun delay => within ⟨life, delay⟩, if_pos life]
    · rw [if_neg life]

theorem capacityOf_settings (settings : Settings) :
    Cache.capacityOf settings.cache.capacity.val = .ok settings.cache.capacity := by
  have enough : 0 < ((settings.cache.capacity.val : Int)).toNat := by
    have := settings.cache.capacity.property
    omega
  rw [Cache.capacityOf, dif_pos enough]
  simp

/-- All settings are accepted, and all of them suit the cache; but they start a session just if they
are within the limits, and that session has their values. -/
theorem starts_within_limits (settings : Settings) (room : Nat) :
    Settings.load room settings.members [] .null = .ok settings ∧
      Cache.capacityOf settings.cache.capacity.val = .ok settings.cache.capacity ∧
      start? settings =
        if settings.WithinLimits then some (startOf settings, [.probe none]) else none :=
  ⟨settings.load_members room, capacityOf_settings settings, start?_eq settings⟩

theorem start?_of_long_life :
    start? ⟨.default, .default, ⟨10 ^ 15, CacheSettings.default.capacity⟩, .default⟩ = none := by
  decide

end Session

end CodeComplexity
