import FrameGraph.Text.Quoted
import FrameGraph.Toml.Document

/-!
# Settings

How a session records, as read from a TOML text. Keys that are missing keep
their defaults and keys nobody knows are skipped, but the text as a whole
has to be well formed, and a key that is known has to have the right type.

A policy is written as its name. It may also be written as a table whose
only key is that name and whose value is empty, since a policy is a choice
without arguments.

## Main definitions

* `RecordPolicy`, `Settings`: What can be set.
* `Settings.ofToml`, `Settings.ofFile`: Read settings.
* `SettingsError`: Why that can fail, with `messages`, the outermost first.
-/

namespace FrameGraph

/-- When the stream of a slot is recorded. -/
inductive RecordPolicy where
  /-- Every frame. -/
  | always
  /-- Only when the slot is dirty; else the stream is submitted again. -/
  | whenDirty
  deriving DecidableEq, Repr

namespace RecordPolicy

/-- The name of a policy in settings. -/
def word : RecordPolicy → String
  | always => "always"
  | whenDirty => "when_dirty"

/-- The name of a policy in messages. -/
def text : RecordPolicy → String
  | always => "Always"
  | whenDirty => "WhenDirty"

/-- The policy of a name. -/
def ofWord? (word : String) : Option RecordPolicy :=
  [always, whenDirty].find? fun policy => policy.word = word

end RecordPolicy

/-- What can be set. -/
structure Settings where
  recordPolicy : RecordPolicy
  /-- Operations are divided into runs that can be recorded apart. -/
  buildSecondaryBuckets : Bool
  /-- A new compilation is written to the log. -/
  printPlanOnRecompile : Bool
  /-- The number of frame slots. -/
  framesInFlight : Nat
  deriving DecidableEq, Repr

/-- Why settings could not be read. -/
inductive SettingsError where
  /-- The text is not TOML, or a known key has the wrong type. -/
  | malformed
  /-- There would be no frame slot. -/
  | noFrames
  /-- The file is not there, or is no text. -/
  | unreadable (path : String)
  /-- The contents of a file are at fault. -/
  | inFile (path : String) (cause : SettingsError)
  deriving DecidableEq, Repr

namespace SettingsError

/-- The messages of an error, the outermost first. -/
def messages : SettingsError → List String
  | malformed => ["解析 frame graph 配置失败"]
  | noFrames => ["frames_in_flight 必须大于 0"]
  | unreadable path => ["读取配置文件失败: " ++ Text.quoted path]
  | inFile path cause => ("加载配置失败: " ++ Text.quoted path) :: cause.messages

end SettingsError

namespace Settings

/-- The settings where nothing is set. -/
def default : Settings := ⟨.always, true, false, 3⟩

/-- A policy as written in settings. -/
def readPolicy? (item : Toml.Item) : Option RecordPolicy :=
  match item with
  | .string word => RecordPolicy.ofWord? word
  | .table _ [(word, argument)] =>
    if argument.isEmptyCollection then RecordPolicy.ofWord? word else none
  | _ => none

/-- A truth value as written in settings. -/
def readBool? (item : Toml.Item) : Option Bool :=
  match item with
  | .boolean value => some value
  | _ => none

/-- A count as written in settings. -/
def readCount? (item : Toml.Item) : Option Nat :=
  match item with
  | .integer value => if 0 ≤ value then some value.toNat else none
  | _ => none

/-- The value of a key: the default if it is missing, nothing if it has the
    wrong type. -/
def readKey? {α : Type} (entries : Toml.Entries) (key : String) (default : α)
    (read? : Toml.Item → Option α) : Option α :=
  match Toml.lookup? entries key with
  | none => some default
  | some item => read? item

/-- The settings of a document, if every known key has the right type. -/
def ofEntries? (entries : Toml.Entries) : Option Settings := do
  let recordPolicy ← readKey? entries "record_policy" default.recordPolicy readPolicy?
  let buildSecondaryBuckets ←
    readKey? entries "build_secondary_buckets" default.buildSecondaryBuckets readBool?
  let printPlanOnRecompile ←
    readKey? entries "print_plan_on_recompile" default.printPlanOnRecompile readBool?
  let framesInFlight ← readKey? entries "frames_in_flight" default.framesInFlight readCount?
  return { recordPolicy, buildSecondaryBuckets, printPlanOnRecompile, framesInFlight }

/-- Settings from a TOML text. -/
def ofToml (content : String) : Except SettingsError Settings :=
  match (Toml.parse? content).bind ofEntries? with
  | none => .error .malformed
  | some settings => if settings.framesInFlight = 0 then .error .noFrames else .ok settings

/-- Settings from a file, given its bytes if there is such a file. -/
def ofFile (path : String) (bytes : Option ByteArray) : Except SettingsError Settings :=
  match bytes.bind String.fromUTF8? with
  | none => .error (.unreadable path)
  | some content => (ofToml content).mapError (SettingsError.inFile path)

end Settings

end FrameGraph
