/-!
# Files

A path is followed part by part: each part but the last has to lead to a folder, and so has the last
one if a slash or a dot follows it.

* `Directory`: the files that a run can see, with their octets.
* `PathFault`: why a path leads nowhere.
* `Directory.resolve d path`: what a path leads to.
* `Directory.octets? d path`: the octets of the file that a path leads to.
-/

set_option autoImplicit false

namespace ProxyLog.File

/-- What a path leads to. -/
inductive Item
  | file (octets : List UInt8)
  | folder
  deriving DecidableEq, Repr

/-- Why a path leads nowhere. -/
inductive PathFault
  /-- Nothing is there. -/
  | absent
  /-- The path goes on behind a file. -/
  | notFolder
  /-- The path or a part of it is too long. -/
  | tooLong
  /-- The path holds the null character. -/
  | embeddedNull
  deriving DecidableEq, Repr

/-- The files of a folder by their paths. A folder that holds a file is there as well. -/
structure Directory where
  files : List (String × Item)

/-! ## Places -/

/-- A place: the names that lead to it. They begin with a slash if the place is told from the root, and
else perhaps with steps up. -/
abbrev Place := List String

/-- The place where a path starts. -/
def startOf (path : String) : Place := if path.startsWith "/" then ["/"] else []

/-- The place that a part of a path leads to. Above the root is the root. -/
def stepTo (place : Place) (part : String) : Place :=
  if part = "" ∨ part = "." then place
  else if part = ".." then
    match place.getLast? with
    | none | some ".." => place ++ [".."]
    | some "/" => place
    | some _ => place.dropLast
  else place ++ [part]

/-- The place that a path names, if all its parts lead somewhere. -/
def placeOf (path : String) : Place := (path.splitOn "/").foldl stepTo (startOf path)

/-- The place is the folder of the run, the root, or a folder above. -/
def isAbove (place : Place) : Bool := place.all fun name => name == "/" || name == ".."

/-! ## Paths -/

def maxPartSize : Nat := 255

def maxPathSize : Nat := 4095

namespace Directory

/-- What stands at a place. -/
def itemAt? (d : Directory) (place : Place) : Option Item :=
  match d.files.find? fun entry => placeOf entry.1 = place with
  | some (_, item) => some item
  | none =>
    if isAbove place || d.files.any (fun entry => place.isPrefixOf (placeOf entry.1)) then some .folder
    else none

/-- Follows the parts of a path from a place on. -/
def follow (d : Directory) (place : Place) : List String → Except PathFault Item
  | [] =>
    match d.itemAt? place with
    | some item => .ok item
    | none => .error .absent
  | part :: rest =>
    match d.itemAt? place with
    | none => .error .absent
    | some (.file _) => .error .notFolder
    | some .folder =>
      if part.utf8ByteSize > maxPartSize then .error .tooLong else d.follow (stepTo place part) rest

/-- What a path leads to. -/
def resolve (d : Directory) (path : String) : Except PathFault Item :=
  if path.toList.contains '\x00' then .error .embeddedNull
  else if path = "" then .error .absent
  else if path.utf8ByteSize > maxPathSize then .error .tooLong
  else d.follow (startOf path) (path.splitOn "/")

/-- The octets of the file that a path leads to. -/
def octets? (d : Directory) (path : String) : Option (List UInt8) :=
  match d.resolve path with
  | .ok (.file octets) => some octets
  | _ => none

end Directory

end ProxyLog.File
