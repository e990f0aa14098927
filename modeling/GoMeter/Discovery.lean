import GoMeter.Config.Load
import GoMeter.Pattern.Ignore
import GoMeter.Pattern.Selection

/-!
# Finding Go files

The targets of a run are files and folders. A file is taken as it is; of a folder those files are taken
that the patterns of the configuration select and that no ignore rule of the analysed folder names. The
files of a folder come in the order of their paths, and no file comes twice, whatever path leads to it.

* `Filter`: which files below a folder are taken.
* `discover`: the files of a run.
-/

namespace GoMeter

/-- Why the search for files ends in a failure. -/
inductive DiscoveryFault where
  /-- The file of ignore rules is not text. -/
  | notText
  /-- A line of the file of ignore rules is no rule. -/
  | badRule (line : String)
  /-- A pattern has no names to match. -/
  | emptyPattern
  /-- The links on the way to a path do not end. -/
  | loop (path : Path)
  deriving DecidableEq, Repr

/-- The wording of a failure. -/
def DiscoveryFault.message : DiscoveryFault → String
  | .notText => "not UTF-8"
  | .badRule line => "Invalid git pattern: " ++ String.ofList (Text.quoted line.toList)
  | .emptyPattern => Selection.emptyPattern
  | .loop p => "Symlink loop from " ++ String.ofList (Text.quoted p.text.toList)

namespace Discovery

/-- The ending of a Go file. -/
def goSuffix : String := ".go"

/-- The ending of a Go file with tests. -/
def testSuffix : String := "_test.go"

/-- The name of the file of ignore rules. -/
def ignoreName : String := ".gocostignore"

/-- Whether a path leads to a Go file that is wanted. -/
def isGoFile (fs : FileSystem) (p : Path) (withTests : Bool) : Bool :=
  fs.isFile p && String.ofList (Text.lower p.suffix.toList) == goSuffix &&
    (withTests || !testSuffix.toList.isSuffixOf p.name.toList)

/-- The place that a path leads to. -/
def placeOf (fs : FileSystem) (p : Path) : Except DiscoveryFault Place :=
  match fs.resolve p with
  | some place => .ok place
  | none => .error (.loop (FileSystem.pathOf (fs.base p ++ p.names)))

end Discovery

/-- Which files below a folder are taken. -/
structure Filter where
  root : Place
  includes : List String
  excludes : List String
  rules : List Ignore.Rule

namespace Filter

open Discovery

/-- The patterns that select something, in the form in which they are used. -/
def patterns (given : List String) : List String := (given.map Selection.normalize).filter (· != "")

/-- The ignore rules in the bytes of a file. -/
def rulesIn (bytes : Array UInt8) : Except DiscoveryFault (List Ignore.Rule) :=
  match Utf8.decode? bytes.toList with
  | none => .error .notText
  | some s => (Ignore.rulesOf (Text.splitLines (Text.unifyLines s.toList))).mapError .badRule

/-- The ignore rules of a folder. -/
def ignoreRules (fs : FileSystem) (root : Path) : Attempt DiscoveryFault (List Ignore.Rule) := do
  let p := root.child ignoreName
  if !fs.exists? p then pure []
  else
    match fs.read p with
    | .error fault =>
      Logged.say .warning .discovery
        ("Failed to read " ++ p.text ++ " (" ++ fault.message ++ "). Skipping.")
      pure []
    | .ok bytes => Attempt.ofExcept (rulesIn bytes)

/-- The filter of a configuration. -/
def ofConfig (fs : FileSystem) (root : Path) (c : Config) : Attempt DiscoveryFault Filter := do
  let rules ← ignoreRules fs root
  let place ← Attempt.ofExcept (placeOf fs root)
  let given := if c.included.isEmpty then ["."] else c.included
  pure ⟨place, patterns given, patterns c.excluded, rules⟩

/-- Whether one of some patterns selects a path. -/
def anySelects (p : Path) : List String → Except DiscoveryFault Bool
  | [] => .ok false
  | pattern :: rest =>
    match Selection.selects? pattern p with
    | none => .error .emptyPattern
    | some true => .ok true
    | some false => anySelects p rest

/-- Whether a path below the folder is taken. -/
def takes (f : Filter) (fs : FileSystem) (p : Path) : Except DiscoveryFault Bool := do
  let place ← placeOf fs p
  if !f.root.isPrefixOf place then pure false
  else
    let rel : Path := ⟨0, place.drop f.root.length⟩
    let selected ← if f.includes.isEmpty then pure true else anySelects rel f.includes
    if !selected then pure false
    else
      let dropped ← anySelects rel f.excludes
      pure (!dropped && !Ignore.ignores f.rules rel.text)

end Filter

/-- The files found so far, and the places that they are at. -/
structure Found where
  files : List Path
  places : List Place
  /-- Whether there are as many files as there may be. -/
  isFull : Bool

namespace Found

open Discovery

/-- Nothing found. -/
def none : Found := ⟨[], [], false⟩

/-- Adds a file that has not been found yet. -/
def add (fs : FileSystem) (c : Config) (f : Found) (p : Path) (withTests : Bool) :
    Except DiscoveryFault Found :=
  if f.isFull || !isGoFile fs p withTests then .ok f
  else do
    let place ← placeOf fs p
    if f.places.contains place then pure f
    else
      let files := f.files ++ [p]
      pure ⟨files, f.places ++ [place], c.maxFiles ≤ files.length⟩

/-- Adds the files of a target. -/
def addTarget (fs : FileSystem) (c : Config) (filter : Filter) (f : Found) (target : Path) :
    Except DiscoveryFault Found :=
  if f.isFull then .ok f
  else if fs.isFolder target then do
    let named := (fs.descendants target).filter fun p =>
      goSuffix.toList.isSuffixOf p.name.toList
    let taken ← named.filterM (filter.takes fs)
    (taken.mergeSort Path.le).foldlM (fun f p => add fs c f p c.includeTests) f
  else f.add fs c target true

end Found

/-- The Go files of a run; without targets, those of the analysed folder. -/
def discover (fs : FileSystem) (root : Path) (c : Config) (targets : List Path) :
    Attempt DiscoveryFault (List Path) := do
  let filter ← Filter.ofConfig fs root c
  let targets := if targets.isEmpty then [root] else targets
  let found ← Attempt.ofExcept (targets.foldlM (Found.addTarget fs c filter) Found.none)
  if found.isFull then
    Logged.say .warning .discovery
      ("Reached max_files=" ++ Decimal.text c.maxFiles ++ "; remaining files skipped.")
  pure found.files

end GoMeter
