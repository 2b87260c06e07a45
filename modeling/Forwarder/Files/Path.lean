/-!
# File paths

Paths as texts with components between slashes, and the few things that are done with them: to go
on from a directory, to find the last component, and to name the temporary file beside another.
-/

namespace Forwarder.Path

/-- The pieces of a path between its slashes. -/
def pieces : List Char → List (List Char)
  | [] => [[]]
  | c :: rest =>
    if c = '/' then [] :: pieces rest
    else match pieces rest with
      | [] => [[c]]
      | piece :: others => (c :: piece) :: others

/-- Whether a path starts at the root. -/
def isAbsolute (path : String) : Bool := path.toList.head? = some '/'

/-- The components of a path, without those that lead nowhere. -/
def components (path : String) : List String :=
  ((pieces path.toList).map String.ofList).filter fun piece => piece ≠ "" && piece ≠ "."

/-- Whether a path can only be that of a directory, by the way it ends. -/
def endsAsDirectory (path : String) : Bool :=
  match (pieces path.toList).getLast? with
  | some last => last.isEmpty || last = ['.']
  | none => false

/-- Whether the last component of a path leads to where it stands or up from there. -/
def endsAsDots (path : String) : Bool :=
  match (pieces path.toList).getLast? with
  | some last => last = ['.'] || last = ['.', '.']
  | none => false

/-- A path that goes on from a directory. One that starts at the root stays what it is. -/
def join (directory path : String) : String :=
  if isAbsolute path || directory = "" then path
  else if directory.toList.getLast? = some '/' then directory ++ path
  else directory ++ "/" ++ path

/-- Splits a path, in reverse, into its last component, in reverse too, and all before that.
Slashes and single dots at the end are passed over. -/
def splitLast : List Char → List Char × List Char
  | [] => ([], [])
  | '/' :: rest => splitLast rest
  | '.' :: '/' :: rest => splitLast rest
  | path => path.span (· ≠ '/')

/-- The last extension of a name and the name up to the dot before it, both in reverse. A dot at
the beginning of a name begins no extension. -/
def splitExtension (name : List Char) : Option (List Char × List Char) :=
  match name.span (· ≠ '.') with
  | (_, []) | (_, ['.']) => none
  | (extension, _ :: stem) => some (extension, stem)

/-- The path of the temporary file beside another: its extension is replaced, or added if it has
none. A path whose last component is no name is its own temporary path, and a name whose stem is
one dot loses its extension only. -/
def temporary (path : String) : String :=
  let (name, before) := splitLast path.toList.reverse
  if name.isEmpty || name = ['.'] || name = ['.', '.'] then path
  else match splitExtension name with
    | none => String.ofList (before.reverse ++ name.reverse) ++ ".tmp"
    | some (_, ['.']) => String.ofList before.reverse ++ ".."
    | some (_, stem) => String.ofList (before.reverse ++ stem.reverse) ++ ".tmp"

end Forwarder.Path
