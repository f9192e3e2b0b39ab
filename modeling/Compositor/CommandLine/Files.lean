import Compositor.Error

/-!
# Files

What is found where a path leads to, and a small file system for looking paths up: one directory of
plain files.
-/

set_option autoImplicit false

namespace Compositor.CommandLine

inductive FileLookup where
  | file (bytes : List UInt8)
  | directory
  | failed (cause : FileFailure)
  deriving DecidableEq, Repr

/-! ## Paths -/

def longestName : Nat := 255

def longestPath : Nat := 4095

def pathFailure? (path : String) : Option FileFailure :=
  if path.contains '\x00' then some .endWithinPath
  else if longestPath < path.utf8ByteSize then some .nameTooLong
  else if path.isEmpty then some .notFound
  else none

/-- Where a part of a path leads. -/
inductive Place where
  /-- The directory whose files are known. -/
  | inside
  /-- A directory further up, of which no file is known. -/
  | above
  deriving DecidableEq, Repr

namespace Place

def ofPath (path : String) : Place := if path.startsWith "/" then .above else .inside

end Place

/-! ## One directory -/

structure Directory where
  files : List (String × List UInt8)
  deriving DecidableEq, Repr

namespace Directory

def find? (directory : Directory) (name : String) : Place → Option (List UInt8)
  | .inside => directory.files.lookup name
  | .above => none

/-- Follows the steps of a path. Empty steps and single dots lead nowhere else, and two dots lead
up. A name is looked at only when it is reached, and nothing can follow the name of a file, not even
an empty step. -/
def follow (directory : Directory) : Place → List String → FileLookup
  | _, [] => .directory
  | place, step :: rest =>
    if step.isEmpty || step == "." then directory.follow place rest
    else if step == ".." then directory.follow .above rest
    else if longestName < step.utf8ByteSize then .failed .nameTooLong
    else
      match directory.find? step place with
      | none => .failed .notFound
      | some bytes => if rest.isEmpty then .file bytes else .failed .notADirectory

def lookup (directory : Directory) (path : String) : FileLookup :=
  match pathFailure? path with
  | some cause => .failed cause
  | none => directory.follow (.ofPath path) (path.splitOn "/")

end Directory

end Compositor.CommandLine
