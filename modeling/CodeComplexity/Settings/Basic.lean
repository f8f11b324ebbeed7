import CodeComplexity.Check.Scalar
import CodeComplexity.Classifier.Request

/-!
# Settings

What can be configured, in four sections.  Every section and every part of one may be left out and
then has its default; a section that is not known is refused.
-/

namespace CodeComplexity

open Check

/-- How to reach the classifier, and how long to wait for it. -/
structure ClassifierSettings where
  service : Service
  timeoutSeconds : { seconds : Float // 0 < seconds }

/-- What is shown of verdicts. -/
structure AnnotationSettings where
  enabled : Bool
  showMetrics : Bool
  /-- How long the cursor has to rest before a function is analysed. -/
  delayMilliseconds : Nat
  deriving DecidableEq, Repr

/-- How many verdicts are kept, and how long. -/
structure CacheSettings where
  minutesToLive : Nat
  capacity : { count : Nat // 0 < count }
  deriving DecidableEq, Repr

inductive LogLevel where
  | debug
  | info
  | warning
  | error
  deriving DecidableEq, Repr

inductive LogFormat where
  | json
  | text
  deriving DecidableEq, Repr

/-- What is logged, and how. -/
structure LoggingSettings where
  level : LogLevel
  format : LogFormat
  deriving DecidableEq, Repr

/-- All settings. -/
structure Settings where
  classifier : ClassifierSettings
  annotations : AnnotationSettings
  cache : CacheSettings
  logging : LoggingSettings

namespace LogLevel

def name : LogLevel → String
  | debug => "DEBUG"
  | info => "INFO"
  | warning => "WARNING"
  | error => "ERROR"

def byName : List (String × LogLevel) :=
  [debug, info, warning, error].map fun level => (level.name, level)

end LogLevel

namespace LogFormat

def name : LogFormat → String
  | json => "json"
  | text => "text"

def byName : List (String × LogFormat) :=
  [json, text].map fun format => (format.name, format)

end LogFormat

namespace ClassifierSettings

/-- A service on this machine, which has half a minute to reply. -/
def default : ClassifierSettings :=
  ⟨⟨"http://localhost:8000", ""⟩, ⟨30, by decide⟩⟩

/-- A time limit: a number above zero. -/
def checkTimeout (value : Json) : Checked { seconds : Float // 0 < seconds } :=
  (number value).andThen fun seconds =>
    if enough : 0 < seconds then .valid ⟨seconds, enough⟩ else .refuse (.notAbove 0)

/-- The classifier section that an object describes. -/
def ofJson : Json → Checked ClassifierSettings :=
  object "ClassifierSettings" fun value =>
    (fun endpoint key limit => ⟨⟨endpoint, key⟩, limit⟩) <$>
      optional "endpoint" text default.service.endpoint (value.get? "endpoint")
      <*> optional "api_key" text default.service.apiKey (value.get? "api_key")
      <*> optional "timeout_seconds" checkTimeout default.timeoutSeconds
        (value.get? "timeout_seconds")

def toJson (settings : ClassifierSettings) : Json :=
  .obj [("endpoint", .ofLooseText settings.service.endpoint),
    ("api_key", .ofLooseText settings.service.apiKey),
    ("timeout_seconds", .float settings.timeoutSeconds.val)]

end ClassifierSettings

namespace AnnotationSettings

/-- Everything is shown, and a short rest of the cursor is enough. -/
def default : AnnotationSettings :=
  ⟨true, true, 300⟩

/-- The annotations section that an object describes. -/
def ofJson : Json → Checked AnnotationSettings :=
  object "AnnotationSettings" fun value =>
    AnnotationSettings.mk <$> optional "enabled" truth default.enabled (value.get? "enabled")
      <*> optional "show_metrics" truth default.showMetrics (value.get? "show_metrics")
      <*> optional "analysis_delay_ms" natural default.delayMilliseconds
        (value.get? "analysis_delay_ms")

def toJson (settings : AnnotationSettings) : Json :=
  .obj [("enabled", .bool settings.enabled), ("show_metrics", .bool settings.showMetrics),
    ("analysis_delay_ms", .int settings.delayMilliseconds)]

end AnnotationSettings

namespace CacheSettings

/-- A thousand verdicts for five minutes. -/
def default : CacheSettings :=
  ⟨5, ⟨1000, by decide⟩⟩

/-- The cache section that an object describes. -/
def ofJson : Json → Checked CacheSettings :=
  object "CacheSettings" fun value =>
    CacheSettings.mk <$>
      optional "ttl_minutes" natural default.minutesToLive (value.get? "ttl_minutes")
      <*> optional "max_entries" positive default.capacity (value.get? "max_entries")

def toJson (settings : CacheSettings) : Json :=
  .obj [("ttl_minutes", .int settings.minutesToLive), ("max_entries", .int settings.capacity.val)]

end CacheSettings

namespace LoggingSettings

/-- Everything but details, as JSON. -/
def default : LoggingSettings :=
  ⟨.info, .json⟩

/-- The logging section that an object describes. -/
def ofJson : Json → Checked LoggingSettings :=
  object "LoggingSettings" fun value =>
    LoggingSettings.mk <$>
      optional "level" (oneOf (.notAllowed (LogLevel.byName.map Prod.fst)) LogLevel.byName)
        default.level (value.get? "level")
      <*> optional "format" (oneOf (.notAllowed (LogFormat.byName.map Prod.fst)) LogFormat.byName)
        default.format (value.get? "format")

def toJson (settings : LoggingSettings) : Json :=
  .obj [("level", .str settings.level.name), ("format", .str settings.format.name)]

end LoggingSettings

namespace Settings

/-- The names of the sections. -/
def sections : List String :=
  ["classifier", "annotations", "cache", "logging"]

/-- Refuse every key that names no section. -/
def refuseUnknown (keys : List Text.LooseText) : Checked Unit :=
  match keys.filter fun key => !key.isAmong sections with
  | [] => .valid ()
  | unknown => .refused (unknown.map fun key => ⟨.unknownKey, [key.replaced]⟩)

/-- The settings that the members of an object describe. -/
def ofMembers (members : Json.Members) : Checked Settings :=
  let value := Json.obj members
  (fun classifier annotations cache logging _ => ⟨classifier, annotations, cache, logging⟩) <$>
    optional "classifier" ClassifierSettings.ofJson .default (value.get? "classifier")
    <*> optional "annotations" AnnotationSettings.ofJson .default (value.get? "annotations")
    <*> optional "cache" CacheSettings.ofJson .default (value.get? "cache")
    <*> optional "logging" LoggingSettings.ofJson .default (value.get? "logging")
    <*> refuseUnknown (members.map Prod.fst)

def members (settings : Settings) : Json.Members :=
  [("classifier", settings.classifier.toJson), ("annotations", settings.annotations.toJson),
    ("cache", settings.cache.toJson), ("logging", settings.logging.toJson)]

end Settings

end CodeComplexity
