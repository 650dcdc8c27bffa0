import CensusNode.Json.Basic
import CensusNode.Text.Decimal

/-!
The text of a JSON value, on one line without blanks or indented by two blanks a level. In a
string the quote, the backslash and the controls are escaped and everything else stands as it is.
-/

namespace CensusNode.Json

def escapedControl (code : Nat) : List Char :=
  let digits := Nat.toDigits 16 code
  ['\\', 'u'] ++ List.replicate (4 - digits.length) '0' ++ digits

def escapedChar (char : Char) : List Char :=
  if char = '"' then ['\\', '"']
  else if char = '\\' then ['\\', '\\']
  else if char = '\n' then ['\\', 'n']
  else if char = '\r' then ['\\', 'r']
  else if char = '\t' then ['\\', 't']
  else if char.toNat = 8 then ['\\', 'b']
  else if char.toNat = 12 then ['\\', 'f']
  else if char.toNat < 32 then escapedControl char.toNat
  else [char]

def quotedString (text : String) : String :=
  String.ofList ('"' :: text.toList.flatMap escapedChar ++ ['"'])

mutual

def compact : Json → String
  | .null => "null"
  | .bool true => "true"
  | .bool false => "false"
  | .integer value => Decimal.encodeInt value
  | .decimal spelling => spelling
  | .string value => quotedString value
  | .array items => "[" ++ String.intercalate "," (compactItems items) ++ "]"
  | .object members => "\x7b" ++ String.intercalate "," (compactMembers members) ++ "\x7d"

def compactItems : List Json → List String
  | [] => []
  | item :: rest => compact item :: compactItems rest

def compactMembers : List (String × Json) → List String
  | [] => []
  | (name, value) :: rest => (quotedString name ++ ":" ++ compact value) :: compactMembers rest

end

def lineStart (depth : Nat) : String := String.ofList ('\n' :: List.replicate (2 * depth) ' ')

/-- Lines of a group one level below `depth`, between its brackets. -/
def bracketed (depth : Nat) (opening closing : String) : List String → String
  | [] => opening ++ closing
  | lines =>
      opening ++ lineStart (depth + 1) ++ String.intercalate ("," ++ lineStart (depth + 1)) lines ++
        lineStart depth ++ closing

mutual

def indented (depth : Nat) : Json → String
  | .array items => bracketed depth "[" "]" (indentedItems (depth + 1) items)
  | .object members => bracketed depth "\x7b" "\x7d" (indentedMembers (depth + 1) members)
  | value => compact value

def indentedItems (depth : Nat) : List Json → List String
  | [] => []
  | item :: rest => indented depth item :: indentedItems depth rest

def indentedMembers (depth : Nat) : List (String × Json) → List String
  | [] => []
  | (name, value) :: rest =>
      (quotedString name ++ ": " ++ indented depth value) :: indentedMembers depth rest

end

mutual

/-- The value with the members of every object sorted by name. -/
def sorted : Json → Json
  | .array items => .array (sortedItems items)
  | .object members =>
      .object ((sortedMembers members).mergeSort fun left right => left.1 ≤ right.1)
  | value => value

def sortedItems : List Json → List Json
  | [] => []
  | item :: rest => sorted item :: sortedItems rest

def sortedMembers : List (String × Json) → List (String × Json)
  | [] => []
  | (name, value) :: rest => (name, sorted value) :: sortedMembers rest

end

end CensusNode.Json
