import KeyMenu.Config.OfTree
import KeyMenu.Config.Printer
import KeyMenu.File.Disk
import KeyMenu.Log.Record
import KeyMenu.Text.Blank

/-!
# Configuration files

A configuration is read from a file of UTF-8 in which each kind of line end counts as one, and
written as UTF-8 as it is rendered. `Config.load` also says what the log can tell of the reading.
-/

namespace KeyMenu

/-- Why a configuration cannot be loaded. -/
inductive LoadError
  | unreadable (path : Path) (fault : FileFault)
  | badEncoding (path : Path) (error : EncodingError)
  | malformed (error : ConfigError)
  deriving DecidableEq

/-- The outcome of loading and the records of it. -/
structure Loading where
  result : Except LoadError Config
  records : List LogRecord

/-- The message about bytes that are no text. -/
def badEncodingMessage (path : Path) (error : EncodingError) : Text :=
  "Configuration file is not valid UTF-8: ".toList ++ path.toText ++ " (".toList ++
    error.fault.message ++ " at byte ".toList ++ Text.ofNat error.offset ++ [')']

/-- The message about a file that is not there. -/
def missingFileMessage (path : Path) : Text :=
  "Configuration file not found: ".toList ++ path.toText

/-- The message about a path that leads to no file. -/
def unreadableMessage (path : Path) (fault : FileFault) : Text :=
  "Cannot read configuration file ".toList ++ path.toText ++ ": ".toList ++ fault.message

/-- What is told about an error of loading. A path that no file can have is not told about, nor
is a stray blank. -/
def LoadError.message? : LoadError → Option Text
  | .unreadable path .notFound => some (missingFileMessage path)
  | .unreadable _ .nullCharacter => none
  | .unreadable path fault => some (unreadableMessage path fault)
  | .badEncoding path error => some (badEncodingMessage path error)
  | .malformed (.parse (.grammar error)) => some error.message
  | .malformed (.parse .strayBlank) => none
  | .malformed (.model faults) => some (Fault.listing faults)

namespace Config

/-- What the log tells of reading a text. -/
def readingRecords (text : Text) : List LogRecord :=
  match Tree.File.parse text with
  | .error _ => []
  | .ok tree =>
      .parsed tree.settings.length tree.items.length ::
        match ofTree tree with
        | .error _ => []
        | .ok config => [.built config.menus.length config.snippets.length]

/-- An error of reading a text that came from a file. -/
def inFile (path : Path) : ConfigError → ConfigError
  | .parse (.grammar error) => .parse (.grammar (error.withPath path.toText))
  | error => error

/-- Reads the configuration in a file. -/
def load (d : Disk) (path : Path) : Loading :=
  match d.read path with
  | .error fault => ⟨.error (.unreadable path fault), []⟩
  | .ok bytes =>
      match Text.ofBytes bytes with
      | .error error => ⟨.error (.badEncoding path error), []⟩
      | .ok content =>
          let text := content.unifyNewlines
          match ofText text with
          | .error error => ⟨.error (.malformed (inFile path error)), readingRecords text⟩
          | .ok config => ⟨.ok config, readingRecords text ++ [.loaded path]⟩

/-- Writes a configuration to a file. -/
def save (c : Config) (d : Disk) (path : Path) : Except FileFault Disk :=
  d.write path (Text.toBytes c.render)

end Config

end KeyMenu
