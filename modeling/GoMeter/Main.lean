import GoMeter.CommandLine.Run
import Std.Time.DateTime.Timestamp

/-!
# The program

The files below the working folder and those that the arguments name are read, the run is worked out on
them, and what it has changed is written back.
-/

namespace GoMeter.Main

/-- The folders on the way to a place. -/
def above (place : Place) : List (Place × Entry) :=
  (List.range place.length).map fun n => (place.take n, .folder)

/-- What stands at a path and below it. -/
partial def gather (path : String) : IO (List (Place × Entry)) := do
  let real ← IO.FS.realPath path
  let place := (Path.ofText path).names
  if ← real.isDir then
    let mut found := [(place, Entry.folder)]
    for e in ← real.readDir do
      let below := path ++ "/" ++ e.fileName
      match (← e.path.symlinkMetadata).type with
      | .dir | .file => found := found ++ (← gather below)
      | _ =>
        if (← e.path.pathExists) && !(← e.path.isDir) then found := found ++ (← gather below)
    return found
  else if ← real.pathExists then
    return [(place, .file (← IO.FS.readBinFile real).data)]
  else return []

/-- The files below the working folder and those that the arguments name. -/
def snapshot (args : List String) : IO FileSystem := do
  let here := Path.ofText (toString (← IO.currentDir))
  let mut entries := above here.names ++ (← gather here.text)
  for arg in args do
    let p := here.join (.ofText arg)
    if !here.names.isPrefixOf p.names then
      try entries := entries ++ above p.names ++ (← gather p.text)
      catch _ => pure ()
  return ⟨entries.filter fun (place, _) => !place.isEmpty, here.names⟩

/-- Writes what a run has changed. -/
def commit (before after : FileSystem) : IO Unit := do
  for (place, e) in after.entries do
    if before.entries.lookup place != some e then
      let path := (FileSystem.pathOf place).text
      match e with
      | .folder => IO.FS.createDirAll path
      | .file bytes => IO.FS.writeBinFile path ⟨bytes⟩
      | .link _ => pure ()

/-- The present time. -/
def now : IO String := do
  let t ← Std.Time.Timestamp.now
  let micros := t.toNanosecondsSinceUnixEpoch.val.toNat / 1000
  return (Stamp.ofSeconds (micros / 1000000) (micros % 1000000)).universal

/-- The rest of a stream. -/
partial def readRest (stream : IO.FS.Stream) (bytes : ByteArray) : IO ByteArray := do
  let part ← stream.read 65536
  if part.isEmpty then return bytes else readRest stream (bytes ++ part)

/-- What stands on the input, if a run may need it. -/
def standardInput (args : List String) : IO (Array UInt8) := do
  if args.contains "count" then return (← readRest (← IO.getStdin) .empty).data else return #[]

end GoMeter.Main

open GoMeter in
/-- Runs the program on its arguments. -/
def main (args : List String) : IO UInt32 := do
  let before ← Main.snapshot args
  let outcome := run before ⟨← Main.standardInput args, ← Main.now⟩ args
  IO.print outcome.printed
  for line in outcome.lines do
    IO.eprintln line
  Main.commit before outcome.files
  match outcome.exit with
  | .ok code => return code.toUInt32
  | .error fault =>
    IO.eprintln fault.message
    return 1
