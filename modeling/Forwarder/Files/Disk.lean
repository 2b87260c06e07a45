import Forwarder.Files

/-!
# Files in memory

A disk is a tree of directories and files, kept as a list of its places, each with what is there.
A place is the list of names that leads to it from the root. Paths are followed one component at a
time, from the root or from the working directory, and every step has to lead through a directory.
-/

namespace Forwarder

/-- The names that lead from the root to something. -/
abbrev Place := List String

/-- What can be at a place. -/
inductive Occupant where
  /-- A directory. -/
  | directory
  /-- A file with its text. -/
  | file (text : String)
  deriving DecidableEq, Repr

/-- A tree of directories and files. -/
structure Disk where
  /-- The places other than the root where there is something. -/
  entries : List (Place × Occupant)
  /-- The working directory. -/
  home : Place
  deriving Repr

namespace Disk

/-- What is at a place. The root is always a directory. -/
def occupant? (disk : Disk) (place : Place) : Option Occupant :=
  if place = [] then some .directory else disk.entries.lookup place

/-- The disk with something else at a place. -/
def put (disk : Disk) (place : Place) (occupant : Occupant) : Disk :=
  { disk with entries := (place, occupant) :: disk.entries.filter (·.1 ≠ place) }

/-- The disk with nothing at a place. -/
def clear (disk : Disk) (place : Place) : Disk :=
  { disk with entries := disk.entries.filter (·.1 ≠ place) }

/-- A disk with nothing but the directories that lead to the working directory. -/
def withHome (home : Place) : Disk where
  entries := (List.range home.length).map fun count => (home.take (count + 1), .directory)
  home := home

/-! ## Following paths -/

/-- The greatest number of bytes in a name. -/
def nameLimit : Nat := 255

/-- The number of bytes that a path has to stay below. -/
def pathLimit : Nat := 4096

/-- Follows one component from a directory. -/
def step (place : Place) (component : String) : Except FileFault Place :=
  if component = ".." then .ok place.dropLast
  else if nameLimit < component.utf8ByteSize then .error .nameTooLong
  else .ok (place ++ [component])

/-- Follows components through directories, the last of them included. -/
def descend (disk : Disk) (place : Place) : List String → Except FileFault Place
  | [] => .ok place
  | component :: rest => do
    let next ← step place component
    match disk.occupant? next with
    | some .directory => descend disk next rest
    | some (.file _) => .error .notDirectory
    | none => .error .notFound

/-- The place that components lead to; only the last of them may lead to anything but a
directory. -/
def locate (disk : Disk) (start : Place) (components : List String) : Except FileFault Place :=
  match components.getLast? with
  | none => .ok start
  | some last => do
    let place ← disk.descend start components.dropLast
    step place last

/-- Where a path starts from. -/
def startOf (disk : Disk) (path : String) : Place := if Path.isAbsolute path then [] else disk.home

/-- Refuses paths that no file can have. -/
def checkPath (path : String) : Except FileFault Unit :=
  if path.toList.contains '\x00' then
    .error (.other "file name contained an unexpected NUL byte")
  else if path = "" then .error .notFound
  else if pathLimit ≤ path.utf8ByteSize then .error .nameTooLong
  else .ok ()

/-- The place of a path. One that can only be that of a directory has to be one. -/
def find (disk : Disk) (path : String) : Except FileFault Place := do
  checkPath path
  let place ← disk.locate (disk.startOf path) (Path.components path)
  if Path.endsAsDirectory path then
    match disk.occupant? place with
    | some .directory => return place
    | some (.file _) => .error .notDirectory
    | none => .error .notFound
  else return place

/-! ## Operations -/

/-- The text of a file. -/
def readText (disk : Disk) (path : String) : Except FileFault String := do
  match disk.occupant? (← disk.find path) with
  | some (.file text) => return text
  | some .directory => .error .isDirectory
  | none => .error .notFound

/-- Whether there is anything at a path. -/
def isPresent (disk : Disk) (path : String) : Bool :=
  match disk.find path with
  | .ok place => (disk.occupant? place).isSome
  | .error _ => false

/-- Puts a text into a file, a new one if there is none. -/
def writeText (disk : Disk) (path text : String) : Except FileFault Disk := do
  let place ← disk.find path
  match disk.occupant? place with
  | some .directory => .error .isDirectory
  | _ => return disk.put place (.file text)

/-- Makes the directory that components lead to. -/
def createDirectory (disk : Disk) (start : Place) (components : List String) :
    Except FileFault Disk := do
  let place ← disk.locate start components
  match disk.occupant? place with
  | some _ => .error .alreadyExists
  | none => return disk.put place .directory

/-- Whether components lead to a directory. -/
def isDirectory (disk : Disk) (start : Place) (components : List String) : Bool :=
  match disk.locate start components with
  | .ok place => disk.occupant? place = some .directory
  | .error _ => false

/-- Makes the directory that components lead to, given in reverse, and those above it. -/
def createAll (disk : Disk) (start : Place) : List String → Except FileFault Disk
  | [] => .ok disk
  | last :: before =>
    let components := (last :: before).reverse
    match disk.createDirectory start components with
    | .ok disk => .ok disk
    | .error .notFound => do
      let disk ← createAll disk start before
      match disk.createDirectory start components with
      | .ok disk => .ok disk
      | .error fault => if disk.isDirectory start components then .ok disk else .error fault
    | .error fault => if disk.isDirectory start components then .ok disk else .error fault

/-- Makes a directory and those above it, as far as they are missing. -/
def createDirectories (disk : Disk) (path : String) : Except FileFault Disk := do
  if path = "" then return disk
  checkPath path
  disk.createAll (disk.startOf path) (Path.components path).reverse

/-- Moves a file over another path. A path that can only be that of a directory is no path to move
a file to. -/
def rename (disk : Disk) (source target : String) : Except FileFault Disk := do
  let place ← disk.find source
  let text ← disk.readText source
  checkPath target
  let destination ← disk.locate (disk.startOf target) (Path.components target)
  if Path.endsAsDots target then .error .busy
  else if Path.endsAsDirectory target then .error .notDirectory
  else match disk.occupant? destination with
    | some .directory => .error .isDirectory
    | _ => return (disk.clear place).put destination (.file text)

/-- Removes a file. -/
def removeFile (disk : Disk) (path : String) : Except FileFault Disk := do
  let place ← disk.find path
  match disk.occupant? place with
  | some (.file _) => return disk.clear place
  | some .directory => .error .isDirectory
  | none => .error .notFound

/-- The files below the working directory: the path of each from there, and its text. -/
def files (disk : Disk) : List (String × String) :=
  disk.entries.filterMap fun (place, occupant) =>
    match occupant with
    | .directory => none
    | .file text =>
      if disk.home.isPrefixOf place && place ≠ disk.home then
        some ("/".intercalate (place.drop disk.home.length), text)
      else none

/-! ## Disks as file stores -/

/-- Changes the disk unless that fails. -/
def update (change : Disk → Except FileFault Disk) : StateM Disk (Except FileFault Unit) :=
  fun disk => match change disk with
    | .ok disk => (.ok (), disk)
    | .error fault => (.error fault, disk)

instance : FileStore (StateM Disk) where
  readText path disk := (disk.readText path, disk)
  isPresent path disk := (disk.isPresent path, disk)
  createDirectories path := update (·.createDirectories path)
  createFile path := update (·.writeText path "")
  writeText path text := update (·.writeText path text)
  rename source target := update (·.rename source target)
  removeFile path := update (·.removeFile path)

end Disk

end Forwarder
