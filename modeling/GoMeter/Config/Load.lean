import GoMeter.Config.Check
import GoMeter.Config.Merge
import GoMeter.FileSystem
import GoMeter.Text.Newlines
import GoMeter.Text.Utf8
import GoMeter.Yaml.Reader

/-!
# Configuration files

A configuration is read from a list of files, or from the usual file of the analysed folder if no list
is given. Files that are missing, unreadable or no mappings are passed over with a warning.

* `Config.files`: the paths of the files.
* `Config.load`: the settings that they add up to.
* `Config.check`: the complaints about them.
-/

namespace GoMeter

/-- Why reading the configuration ends in a failure. -/
inductive ConfigFault where
  /-- A file is not text. -/
  | notText
  /-- A file holds a scalar without a value. -/
  | scalar (fault : Yaml.Fault)
  /-- An integer setting has no integer value, or an integer is too long to be written. -/
  | setting (fault : IntegerFault)
  deriving DecidableEq, Repr

/-- The wording of a failure. -/
def ConfigFault.message : ConfigFault → String
  | .notText => "not UTF-8"
  | .scalar fault => fault.message
  | .setting fault => fault.message

namespace Config

/-- The name of the usual configuration file. -/
def usualName : String := ".gocost.yml"

/-- The paths of the files; relative ones start from the analysed folder. -/
def files (root : Path) : Option (List Path) → List Path
  | none => [root.child usualName]
  | some paths => paths.map root.join

/-- What came of reading a file. -/
inductive Contents where
  | value (v : Value)
  /-- The file could not be read, or is not well formed. -/
  | unreadable (reason : String)

/-- The text of some bytes, with line feeds for all line ends. -/
def textOf (bytes : Array UInt8) : Except ConfigFault (List Char) :=
  match Utf8.decode? bytes.toList with
  | some s => .ok (Text.unifyLines s.toList)
  | none => .error .notText

/-- A file without a true value counts as an empty mapping. -/
def orEmpty (v : Value) : Value := if v.isTruthy then v else .map []

/-- The contents of a file. -/
def contents (fs : FileSystem) (p : Path) : Except ConfigFault Contents :=
  match fs.read p with
  | .error fault => .ok (.unreadable fault.message)
  | .ok bytes => do
    match Yaml.read (← textOf bytes) with
    | .ok v => pure (.value (orEmpty v))
    | .error .malformed => pure (.unreadable Yaml.Fault.malformed.message)
    | .error fault => throw (.scalar fault)

/-- Says something about configuration files. -/
def say (level : Level) (text : String) : Logged Unit := Logged.say level .config text

/-- The settings after a mapping from a file. -/
def addMapping (s : Settings) (p : Path) (raw : Value) : Attempt ConfigFault Settings := do
  let merged ← (s.merge raw).mapFault .setting
  say .debug ("Loaded config " ++ p.text)
  pure merged

/-- The settings after one more file. -/
def addFile (fs : FileSystem) (s : Settings) (p : Path) : Attempt ConfigFault Settings := do
  if !fs.exists? p then
    say .warning ("Config " ++ p.text ++ " not found; skipping.")
    pure s
  else
    match ← Attempt.ofExcept (contents fs p) with
    | .unreadable reason =>
      say .warning ("Failed to load " ++ p.text ++ " (" ++ reason ++ "). Skipping.")
      addMapping s p (.map [])
    | .value raw =>
      if raw.isMap then addMapping s p raw
      else
        say .warning ("Config " ++ p.text ++ " is not a mapping; skipping.")
        pure s

/-- The configuration of an analysed folder. -/
def load (fs : FileSystem) (root : Path) (paths : Option (List Path)) : Attempt ConfigFault Config :=
  if paths.isNone && !fs.exists? (root.child usualName) then pure .default
  else do
    let s ← (files root paths).foldlM (addFile fs) Settings.start
    pure s.config

/-- The complaints about one file. -/
def checkFile (fs : FileSystem) (p : Path) : Except ConfigFault (List String) :=
  if !fs.exists? p then .ok [p.text ++ ": file not found"]
  else do
    match ← contents fs p with
    | .unreadable reason => pure [p.text ++ ": failed to read (" ++ reason ++ ")"]
    | .value raw =>
      if !raw.isMap then pure [p.text ++ ": config must be a mapping"]
      -- A complaint about an unknown key shows the key.
      else if !(keysOf raw).all Value.isWritable then throw (.setting .tooLong)
      else pure ((complaints raw).map fun c => p.text ++ ": " ++ c)

/-- The complaints about several files. -/
def check (fs : FileSystem) (paths : List Path) : Except ConfigFault (List String) := do
  pure (← paths.mapM (checkFile fs)).flatten

end Config

end GoMeter
