import FileProfile.Disk.Path
import FileProfile.Error

/-!
# Disks

A disk is a tree of directories and files without links, and one of its directories is the working
directory. A place on it is the list of names that leads there from the root. Names are raw texts.

Following a path means going through its segments one by one, from the root or from the working
directory. Every segment, even one that names nothing, needs a directory to be gone through from; so
a path that goes on behind a file fails, as does one that ends in a slash behind a file.
-/

namespace FileProfile

/-- What is at a place on a disk. -/
inductive Entry where
  | directory
  | file (bytes : List UInt8)
  deriving DecidableEq, Repr

/-- A tree of directories and files, and a working directory. -/
structure Disk where
  entries : List (List RawText × Entry) := []
  workingDirectory : List RawText := []

namespace Disk

/-- What is at a place. The root is always a directory. -/
def entry? (disk : Disk) : List RawText → Option Entry
  | [] => some .directory
  | place => disk.entries.lookup place

/-- The place that segments lead to from another. -/
def follow (disk : Disk) (place : List RawText) : List RawText → Except PathFault (List RawText)
  | [] => .ok place
  | segment :: rest =>
    match disk.entry? place with
    | some .directory =>
      if Path.isIdle segment then disk.follow place rest
      else if segment = Path.up then disk.follow place.dropLast rest
      else
        let next := place ++ [segment]
        if (disk.entry? next).isSome then disk.follow next rest else .error .notFound
    | some (.file _) => .error .notADirectory
    | none => .error .notFound

/-- The place that a path leads to. The empty path leads nowhere. -/
def resolve (disk : Disk) (path : RawText) : Except PathFault (List RawText) :=
  if path = [] then .error .notFound
  else if Path.isAbsolute path then disk.follow [] (Path.start path).2
  else disk.follow disk.workingDirectory (Path.segments path)

/-- The absolute path of a place, without anything that could be left out. -/
def pathOf (place : List RawText) : RawText := Path.slash :: Path.ofSegments place

/-- The absolute path of the place that a path leads to. -/
def canonical (disk : Disk) (path : RawText) : Except PathFault RawText :=
  (disk.resolve path).map pathOf

/-- The bytes of the file that a path leads to. -/
def read (disk : Disk) (path : RawText) : Except PathFault (List UInt8) := do
  match disk.entry? (← disk.resolve path) with
  | some (.file bytes) => return bytes
  | some .directory => throw .isADirectory
  | none => throw .notFound

/-- The disk with an entry put at a place, and directories on the way to it. -/
def put (disk : Disk) (place : List RawText) (entry : Entry) : Disk :=
  let around := (List.range place.length).map fun n => (place.take n, Entry.directory)
  { disk with entries := (place, entry) :: around ++ disk.entries }

/-- The bytes of the nearest file of this name in a directory or in one around it. -/
def nearest? (disk : Disk) (name : RawText) (place : List RawText) : Option (List UInt8) :=
  (List.range (place.length + 1)).findSome? fun n =>
    match disk.entry? (place.take (place.length - n) ++ [name]) with
    | some (.file bytes) => some bytes
    | _ => none

end Disk

end FileProfile
