import CodeComplexity.Json.Reader
import CodeComplexity.Settings.Basic
import CodeComplexity.Settings.File

/-!
# Where settings come from

Settings are given as arguments, by environment variables and in a file.  What several of them give
is merged deeply: arguments count most, then the environment, then the file.  Arguments and the file
may name a section in any case, and of several names for one section the first counts.

The name of an environment variable is a path: the program's name, a section and a key, with two
underscores between them, in any case.  A whole section may be given as JSON text by the variable
that ends with the section; single variables of that section count more than the text.
-/

namespace CodeComplexity

/-- Why there are no settings. -/
inductive Settings.LoadError where
  | unusableFile (fault : FileFault)
  /-- A section is given by a text that is no JSON. -/
  | unreadableSection (name : String)
  /-- A section is given by a text whose values are nested too deeply. -/
  | tooDeep (container : Json.Container)
  | unacceptable (refusal : Check.Refusal)

/-- What is wrong with a section's text. -/
def Settings.LoadError.sectionMessage (name : String) : String :=
  "error parsing value for field \"" ++ name ++ "\" from source \"EnvSettingsSource\""

mutual

/-- A value merged with another one that counts more: objects are merged key by key, and every other
value is replaced. -/
def mergeValue (below above : Json) : Json :=
  match below, above with
  | .obj lower, .obj upper => .obj (mergeMembers lower upper)
  | _, _ => above

/-- Members merged with others that count more.  The known keys stay in front. -/
def mergeMembers (below : Json.Members) : Json.Members → Json.Members
  | [] => below
  | (key, value) :: rest =>
    let merged :=
      match below.get? key with
      | some old => mergeValue old value
      | none => value
    mergeMembers (below.set key merged) rest

end

/-- A letter in its small form.  Outside ASCII, only the Kelvin sign stands for a letter within. -/
def loweredChar (c : Char) : Char :=
  if c.toNat = 0x212A then 'k' else c.toLower

def lowered (text : String) : String :=
  text.map loweredChar

namespace Environment

/-- The parts of a text between pairs of underscores; the part read so far is `part`, the latest
character first. -/
def splitFrom (part : List Char) : List Char → List String
  | [] => [String.ofList part.reverse]
  | '_' :: '_' :: rest => String.ofList part.reverse :: splitFrom [] rest
  | c :: rest => splitFrom (c :: part) rest

/-- The parts of a name between pairs of underscores. -/
def split (name : String) : List String :=
  splitFrom [] name.toList

/-- The variables by their names in small letters; of equal names the last one counts. -/
def normalize (environment : List (String × String)) : Keyed String :=
  environment.foldl (fun known (name, value) => Keyed.set (lowered name) value known) []

def leader : String := "complexlens__"

/-- The rest of a text behind a given front. -/
def after? (front text : String) : Option String :=
  if front.toList.isPrefixOf text.toList then some (String.ofList (text.toList.drop front.length))
  else none

/-- Put a text at the end of a path of keys.  Where the path meets a text that is there already,
that text stays. -/
def insertAt (text : String) : List String → Json.Members → Json.Members
  | [], members => members
  | [key], members => members.set key (.str text)
  | key :: next :: path, members =>
    match members.get? key with
    | none => members.set key (.obj (insertAt text (next :: path) []))
    | some (.obj inner) => members.set key (.obj (insertAt text (next :: path) inner))
    | some _ => members

/-- What single variables give for a section. -/
def sectionMembers (environment : Keyed String) (sectionName : String) : Json.Members :=
  environment.foldl (fun members (name, text) =>
    match after? (leader ++ sectionName ++ "__") name with
    | none => members
    | some path => insertAt text (split path) members) []

def sectionKeys : String → List String
  | "classifier" => ["endpoint", "api_key", "timeout_seconds"]
  | "annotations" => ["enabled", "show_metrics", "analysis_delay_ms"]
  | "cache" => ["ttl_minutes", "max_entries"]
  | "logging" => ["level", "format"]
  | _ => []

/-- Members of a section with every known key in its own case. -/
def knownCase (sectionName : String) (members : Json.Members) : Json.Members :=
  members.foldl (fun known (key, value) =>
    let small := key.map loweredChar
    Keyed.set (if small.isAmong (sectionKeys sectionName) then small else key) value known) []

/-- What the variables give for a section: nothing if they do not mention it, and nothing at all if
its text is null.  There is so much room for the values of the text. -/
def sectionValue (room : Nat) (environment : Keyed String) (sectionName : String) :
    Except Settings.LoadError (Option Json) :=
  let single := sectionMembers environment sectionName
  match environment.get? (leader ++ sectionName) with
  | none => .ok (if single.isEmpty then none else some (.obj (knownCase sectionName single)))
  | some text =>
    match Json.ofText room text with
    | .error (.tooDeep container) => .error (.tooDeep container)
    | .error _ => .error (.unreadableSection sectionName)
    | .ok .null => .ok none
    | .ok (.obj members) => .ok (some (.obj (knownCase sectionName (mergeMembers members single))))
    | .ok value => .ok (some value)

/-- What the variables give for some sections. -/
def sectionValues (room : Nat) (environment : Keyed String) :
    List String → Except Settings.LoadError Json.Members
  | [] => .ok []
  | name :: rest => do
    let value ← sectionValue room environment name
    let members ← sectionValues room environment rest
    pure (value.toList.map (fun value => (Text.LooseText.ofString name, value)) ++ members)

end Environment

namespace Settings

/-- Members with the names of sections in small letters.  Of several names for one section the first
counts, and the others are passed over. -/
def knownSections (members : Json.Members) : Json.Members :=
  members.foldl (fun known (key, value) =>
    let name := key.map loweredChar
    if !name.isAmong sections then known.set key value
    else if known.has name then known
    else known.set name value) []

def fileMembers (file : Json) : Except LoadError Json.Members :=
  match SettingsFile.members file with
  | .ok members => .ok (knownSections members)
  | .error fault => .error (.unusableFile fault)

/-- The settings that arguments, environment variables and a file give together. -/
def load (room : Nat) (arguments : Json.Members) (environment : List (String × String))
    (file : Json) : Except LoadError Settings := do
  let inner ← fileMembers file
  let outer ← Environment.sectionValues room (Environment.normalize environment) sections
  let merged := mergeMembers inner (mergeMembers outer (knownSections arguments))
  match (ofMembers merged).titled "Settings" with
  | .error refusal => .error (.unacceptable refusal)
  | .ok settings => .ok settings

end Settings

end CodeComplexity
