import Columnar.Command.Run
import Columnar.Command.Usage
import Columnar.Zstd.StoredFrames

set_option autoImplicit false

namespace Columnar.Disk

def textOf (place : List Path) : String := "/" ++ "/".intercalate (place.map Path.text)

def bytesAt (place : List Path) : IO Bytes := do
  return (← IO.FS.readBinFile (textOf place)).data.toList

def addFile (files : FileSystem) (place : List Path) : IO FileSystem := do
  match files.root.below? place with
  | some _ => return files
  | none =>
    let content := Content.ofBytes (← bytesAt place)
    let (id, added) := files.addFile place.dropLast (place.getLast?.getD "")
    return added.put id content

def addDirectory (files : FileSystem) (place : List Path) : FileSystem :=
  files.changeAt place fun old => some (old.getD (.directory []))

mutual

partial def takeTree (files : FileSystem) (place : List Path) : IO FileSystem := do
  let entries ← (← IO.FS.realPath (textOf place)).readDir
  entries.foldlM (fun files entry => takePath files place [Path.ofText entry.fileName] true) files

partial def takePath (files : FileSystem) (place : List Path) (names : List Path)
    (whole : Bool) : IO FileSystem := do
  match names with
  | [] => if whole then takeTree files place else return files
  | name :: rest =>
    if Path.staysHere name then takePath files place rest whole
    else if name = ".." then takePath files place.dropLast rest whole
    else
      let child := place ++ [name]
      let root ← IO.FS.realPath "/"
      match ← (root / textOf child).symlinkMetadata.toBaseIO with
      | .error _ => return files
      | .ok told =>
        match told.type with
        | .dir => takePath (addDirectory files child) child rest whole
        | .file => addFile files child
        | .symlink =>
          let target := Path.ofText (← IO.FS.realPath (textOf child)).toString
          let linked := files.changeAt child fun _ => some (.link target)
          if target = Path.ofText (textOf child) then return linked
          else takePath linked [] (Path.names target ++ rest) whole
        | .other => return files

end

def take (paths : List Path) : IO FileSystem := do
  let home := (Path.names (← IO.currentDir).toString).filter fun name => name ≠ ("" : Path)
  let start := addDirectory ⟨.directory [], home, #[]⟩ home
  paths.foldlM (fun files path => takePath files (files.startOf path) (Path.names path) true) start

def leave (files : FileSystem) (path : Path) : IO Unit := do
  match files.openFile path with
  | .ok (.regular content) => IO.FS.writeBinFile path.text ⟨content.toBytes.toArray⟩
  | _ => return

def timeOf (path : Path) : IO Int64 := do
  return Int64.ofInt (← (← IO.FS.realPath path.text).metadata).modified.sec

end Columnar.Disk

open Columnar

-- Runs a command on the files it names. A file that tells when it was made is made once to learn
-- the time, and once more to tell it.
def runOnDisk (words : List String) : IO Outcome := do
  match CommandLine.read words with
  | .error _ => return CommandLine.run Zstd.storedFrames .empty 0 words
  | .ok line =>
    let files ← Disk.take line.command.inputs
    let outcome := CommandLine.run Zstd.storedFrames files 0 words
    match outcome.ending, line.command.output? with
    | .done, some path =>
      Disk.leave outcome.files path
      let stamped := CommandLine.run Zstd.storedFrames files (← Disk.timeOf path) words
      Disk.leave stamped.files path
      return stamped
    | _, _ => return outcome

def main (words : List String) : IO UInt32 := do
  let outcome ← runOnDisk words
  outcome.output.forM IO.println
  outcome.notes.forM IO.eprintln
  match outcome.ending with
  | .failed failure => IO.eprintln ("Error: " ++ failure.message)
  | .misused fault =>
    IO.eprintln ("error: " ++ fault.message)
    CommandLine.summary.forM IO.eprintln
  | _ => pure ()
  return UInt32.ofNat outcome.ending.exitCode
