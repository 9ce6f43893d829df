import FileProfile.Disk.Tree
import FileProfile.Subject

/-!
# Loading a file

A file is loaded by its path and a root that it has to be under, and is known from then on by its
path relative to the root. Where the components of the root are not at the front of the path as
written, both are first replaced by the absolute paths of the places that they lead to. Paths are
raw texts, and what the file is known by is a text: bytes that mean nothing in UTF-8 read as the
replacement character, and backslashes as slashes.

What loading depends on is an `Observation`: where root and path lead, and the bytes at the path. It
can be made on a `Disk` or on the disk of the machine.
-/

namespace FileProfile

/-- What a disk shows of a root and of a path. -/
structure Observation where
  /-- The absolute path of the place that the root leads to. -/
  root : Except PathFault RawText
  /-- The absolute path of the place that the path leads to. -/
  path : Except PathFault RawText
  /-- The bytes of the file that the path leads to. -/
  bytes : Except PathFault (List UInt8)

namespace Observation

/-- The path of a file relative to a root. -/
def relative (seen : Observation) (root path : RawText) : Except Error RawText :=
  match Path.under? root path with
  | some rest => .ok rest
  | none => do
    let root ← seen.root.mapError (.unreadable root)
    let place ← seen.path.mapError (.unreadable path)
    match Path.under? root place with
    | some rest => return rest
    | none => throw (.outsideRoot path root)

/-- Loads the file at a path under a root. -/
def load (seen : Observation) (root path : RawText) : Except Error Subject := do
  let relative ← seen.relative root path
  let bytes ← seen.bytes.mapError (.unreadable path)
  return { path := Path.known relative, bytes }

end Observation

namespace Disk

/-- What a disk shows of a root and of a path. -/
def observe (disk : Disk) (root path : RawText) : Observation where
  root := disk.canonical root
  path := disk.canonical path
  bytes := disk.read path

/-- Loads the file at a path under a root. -/
def load (disk : Disk) (root path : RawText) : Except Error Subject :=
  (disk.observe root path).load root path

end Disk

end FileProfile
