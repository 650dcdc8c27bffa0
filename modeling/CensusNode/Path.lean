/-!
Paths as texts. Components are separated by slashes; a path that starts with one is absolute.
Joining and taking the parent work on the text alone and never look at a disk.
-/

namespace CensusNode.Path

def pieces : List Char → List (List Char)
  | [] => [[]]
  | char :: rest =>
      if char = '/' then [] :: pieces rest
      else
        match pieces rest with
        | [] => [[char]]
        | piece :: others => (char :: piece) :: others

def segments (path : String) : List String := (pieces path.toList).map String.ofList

def ofSegments (segments : List String) : String := String.intercalate "/" segments

def isAbsolute (path : String) : Bool := path.toList.head? = some '/'

/-- A path below a base. An absolute path stands for itself, and no slash is doubled. -/
def join (base path : String) : String :=
  if isAbsolute path || base = "" then path
  else if base.toList.getLast? = some '/' then base ++ path
  else base ++ "/" ++ path

def isSelf (segment : String) : Bool := segment = "" || segment = "."

/-- The path without its last component and the slashes before it, unless it has none. -/
def parent? (path : String) : Option String :=
  match segments path with
  | [] => none
  | first :: rest =>
      let trimmed (reversed : List String) : List String := reversed.dropWhile isSelf
      match trimmed rest.reverse with
      | _ :: others =>
          match trimmed others with
          | [] => some (if first = "" then "/" else first)
          | kept => some (ofSegments (first :: kept.reverse))
      | [] => if first = "" then none else some ""

def namedParent? (path : String) : Option String :=
  match parent? path with
  | some parent => if parent = "" then none else some parent
  | none => none

end CensusNode.Path
