import GoMeter.Number.Decimal
import GoMeter.Path
import GoMeter.Text.Quoted

/-!
# Files, folders and links

A file system is a finite tree below the root. Paths are followed name by name: `..` leads to the folder
above the one that was reached, and a link leads on to its target.

* `FileSystem.find`: the place that a path leads to.
* `FileSystem.resolve`: the same, also for paths whose end does not exist.
* `FileSystem.read`, `FileSystem.write`, `FileSystem.makeFolders`: the operations.
-/

namespace GoMeter

/-- What stands at a place. -/
inductive Entry where
  | file (bytes : Array UInt8)
  | folder
  | link (target : String)
  deriving DecidableEq, Repr

/-- Why an operation on files failed. -/
inductive SystemCause where
  | missing | alreadyThere | notFolder | isFolder | loop
  deriving DecidableEq, Repr

/-- The number and the wording of a cause. -/
def SystemCause.code : SystemCause → Nat × String
  | .missing => (2, "No such file or directory")
  | .alreadyThere => (17, "File exists")
  | .notFolder => (20, "Not a directory")
  | .isFolder => (21, "Is a directory")
  | .loop => (40, "Too many levels of symbolic links")

/-- A failed operation and the path that it was asked for. -/
structure SystemFault where
  cause : SystemCause
  path : Path
  deriving DecidableEq, Repr

/-- The wording of a failed operation. -/
def SystemFault.message (f : SystemFault) : String :=
  let (number, words) := f.cause.code
  "[Errno " ++ Decimal.text number ++ "] " ++ words ++ ": " ++
    String.ofList (Text.quoted f.path.text.toList)

/-- A place: the names on the way from the root. -/
abbrev Place := List String

/-- A tree of files and folders, and the folder that relative paths start from. -/
structure FileSystem where
  entries : List (Place × Entry)
  here : Place
  deriving DecidableEq, Repr

namespace FileSystem

/-- What stands at a place; the root is a folder. -/
def entry? (fs : FileSystem) (p : Place) : Option Entry :=
  if p.isEmpty then some .folder else fs.entries.lookup p

/-- The greatest number of links on the way to a place. -/
def linkLimit : Nat := 40

/-- Follows names from a folder, with a number of links that may be met. If something is to be made
at the end of the way, the last name need not stand for anything yet. -/
def walk (fs : FileSystem) (making : Bool) : Nat → Place → List String → Except SystemCause Place
  | _, reached, [] => .ok reached
  | links, reached, name :: rest =>
    if name = ".." then walk fs making links reached.dropLast rest
    else
      match fs.entry? (reached ++ [name]) with
      | none => if making && rest.isEmpty then .ok (reached ++ [name]) else .error .missing
      | some (.file _) => if rest.isEmpty then .ok (reached ++ [name]) else .error .notFolder
      | some .folder => walk fs making links (reached ++ [name]) rest
      | some (.link target) =>
        if links = 0 then .error .loop
        else
          let t := Path.ofText target
          walk fs making (links - 1) (if t.isAbsolute then [] else reached) (t.names ++ rest)
termination_by links _ names => (links, names.length)

/-- The folder that a path starts from. -/
def base (fs : FileSystem) (p : Path) : Place := if p.isAbsolute then [] else fs.here

/-- The place that a path leads to. -/
def find (fs : FileSystem) (p : Path) : Except SystemFault Place :=
  match fs.walk false linkLimit (fs.base p) p.names with
  | .ok place => .ok place
  | .error cause => .error ⟨cause, p⟩

/-- What a path leads to. -/
def target? (fs : FileSystem) (p : Path) : Option Entry :=
  match fs.find p with
  | .ok place => fs.entry? place
  | .error _ => none

/-- Whether a path leads to something. -/
def exists? (fs : FileSystem) (p : Path) : Bool := (fs.target? p).isSome

/-- Whether a path leads to a folder. -/
def isFolder (fs : FileSystem) (p : Path) : Bool := fs.target? p == some .folder

/-- Whether a path leads to a file. -/
def isFile (fs : FileSystem) (p : Path) : Bool :=
  match fs.target? p with
  | some (.file _) => true
  | _ => false

/-- The bytes of the file that a path leads to. -/
def read (fs : FileSystem) (p : Path) : Except SystemFault (Array UInt8) := do
  let place ← fs.find p
  match fs.entry? place with
  | some (.file bytes) => pure bytes
  | some _ => throw ⟨.isFolder, p⟩
  | none => throw ⟨.missing, p⟩

/-! ## Resolution -/

/-- Follows names from a place that need not exist, with a number of links that may be met. Nothing if
there are more of them, as there are if they do not end. -/
def trace (fs : FileSystem) : Nat → Place → List String → Option Place
  | _, reached, [] => some reached
  | links, reached, name :: rest =>
    if name = ".." then trace fs links reached.dropLast rest
    else
      match fs.entry? (reached ++ [name]) with
      | some (.link target) =>
        if links = 0 then none
        else
          let t := Path.ofText target
          trace fs (links - 1) (if t.isAbsolute then [] else reached) (t.names ++ rest)
      | _ => trace fs links (reached ++ [name]) rest
termination_by links _ names => (links, names.length)

/-- The place that a path leads to, whether or not something is there. Nothing if the links on the way
do not end. The limit on links is the one for opening files: a way with more links counts as endless,
though every name on it may have a place. -/
def resolve (fs : FileSystem) (p : Path) : Option Place := fs.trace linkLimit (fs.base p) p.names

/-- The absolute path of a place. -/
def pathOf (place : Place) : Path := ⟨1, place⟩

/-! ## Changes -/

/-- Puts something at a place. -/
def put (fs : FileSystem) (place : Place) (e : Entry) : FileSystem :=
  if (fs.entries.lookup place).isSome then
    { fs with entries := fs.entries.map fun (q, old) => if q = place then (q, e) else (q, old) }
  else { fs with entries := fs.entries ++ [(place, e)] }

/-- The folder in which the last name of a path is to be made. -/
def parentPlace (fs : FileSystem) (p : Path) : Except SystemFault Place :=
  match fs.walk false linkLimit (fs.base p) p.names.dropLast with
  | .ok place => if fs.entry? place = some .folder then .ok place else .error ⟨.notFolder, p⟩
  | .error cause => .error ⟨cause, p⟩

/-- Makes a folder; one that is there already stays. -/
def makeFolder (fs : FileSystem) (p : Path) : Except SystemFault FileSystem :=
  if fs.isFolder p then .ok fs
  else do
    let parent ← fs.parentPlace p
    let place := parent ++ [p.name]
    if (fs.entry? place).isSome then throw ⟨.alreadyThere, p⟩
    pure (fs.put place .folder)

/-- Makes a folder and those above it, given the number of names that may be missing. -/
def makeFoldersFrom : Nat → FileSystem → Path → Except SystemFault FileSystem
  | 0, fs, p => fs.makeFolder p
  | depth + 1, fs, p =>
    match fs.makeFolder p with
    | .ok fs => .ok fs
    | .error f =>
      if f.cause = .missing then do
        let fs ← makeFoldersFrom depth fs p.parent
        fs.makeFolder p
      else .error f

/-- Makes a folder and those above it. -/
def makeFolders (fs : FileSystem) (p : Path) : Except SystemFault FileSystem :=
  makeFoldersFrom p.names.length fs p

/-- Where a file is written: at the end of the links that a path leads over, in a folder that exists. -/
def writePlace (fs : FileSystem) (p : Path) : Except SystemFault Place :=
  match fs.walk true linkLimit (fs.base p) p.names with
  | .ok place => .ok place
  | .error cause => .error ⟨cause, p⟩

/-- Writes a file, in place of the one that is there. -/
def write (fs : FileSystem) (p : Path) (bytes : Array UInt8) : Except SystemFault FileSystem := do
  let place ← fs.writePlace p
  match fs.entry? place with
  | none | some (.file _) => pure (fs.put place (.file bytes))
  | some _ => throw ⟨.isFolder, p⟩

/-! ## Folders -/

/-- The names in a folder and what stands there. -/
def listing (fs : FileSystem) (place : Place) : List (String × Entry) :=
  fs.entries.filterMap fun (q, e) =>
    match q.getLast? with
    | some name => if q.dropLast = place then some (name, e) else none
    | none => none

/-- The paths of all that stands below a folder, given how deep folders are nested. Links are listed
and not followed. -/
def below (fs : FileSystem) : Nat → Place → Path → List Path
  | 0, _, _ => []
  | depth + 1, place, p =>
    (fs.listing place).flatMap fun (name, e) =>
      p.child name ::
        (if e = .folder then below fs depth (place ++ [name]) (p.child name) else [])

/-- The paths of all that stands below the folder that a path leads to. -/
def descendants (fs : FileSystem) (p : Path) : List Path :=
  match fs.find p with
  | .ok place => fs.below (fs.entries.length + 1) place p
  | .error _ => []

end FileSystem

end GoMeter
