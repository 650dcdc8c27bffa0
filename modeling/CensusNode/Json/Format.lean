import CensusNode.Bytes
import CensusNode.Json.Basic

/-!
Formats: how values are written as JSON and read from it. A record is read from an object, whose
members may come in any order and among strangers, or from an array of its fields in order. When
several members of an object read badly, the one whose name comes first is the fault; only then
missing members count, in the order of the fields.
-/

namespace CensusNode

/-- Why a JSON value does not stand for a value of some kind. A reader that is brought down gives
no answer. -/
inductive ReadFault where
  | shape
  | missingField (name : String)
  | unknownVariant (name : String) (expected : List String)
  | text (message : String)
  | crashed
deriving DecidableEq, Repr

def ReadFault.message? : ReadFault → Option String
  | .shape => none
  | .missingField name => some ("missing field `" ++ name ++ "`")
  | .unknownVariant name expected =>
      let choices := expected.map fun choice => "`" ++ choice ++ "`"
      some ("unknown variant `" ++ name ++ "`, " ++
        match choices with
        | [] => "there are no variants"
        | [only] => "expected " ++ only
        | [first, second] => "expected " ++ first ++ " or " ++ second
        | _ => "expected one of " ++ String.intercalate ", " choices)
  | .text message => some message
  | .crashed => none

structure Format (α : Type) where
  write : α → Json
  read : Json → Except ReadFault α

namespace Format

variable {α β : Type}

def refine (format : Format α) (pack : α → Except ReadFault β) (unpack : β → α) : Format β where
  write value := format.write (unpack value)
  read json :=
    match format.read json with
    | .ok raw => pack raw
    | .error fault => .error fault

def map (format : Format α) (pack : α → β) (unpack : β → α) : Format β :=
  format.refine (fun raw => .ok (pack raw)) unpack

def string : Format String where
  write := .string
  read
    | .string value => .ok value
    | _ => .error .shape

def integer (low high : Int) : Format Int where
  write := .integer
  read
    | .integer value => if low ≤ value ∧ value ≤ high then .ok value else .error .shape
    | _ => .error .shape

def natural (high : Nat) : Format Nat :=
  (integer 0 high).map Int.toNat Int.ofNat

def count : Format Nat := natural 18446744073709551615

def byte : Format UInt8 := (natural 255).map UInt8.ofNat UInt8.toNat

def word16 : Format UInt16 := (natural 65535).map UInt16.ofNat UInt16.toNat

def word64 : Format UInt64 := count.map UInt64.ofNat UInt64.toNat

def signed64 : Format Int64 :=
  (integer (-9223372036854775808) 9223372036854775807).map Int64.ofInt Int64.toInt

def readItems (format : Format α) : List Json → Except ReadFault (List α)
  | [] => .ok []
  | item :: rest =>
      match format.read item with
      | .error fault => .error fault
      | .ok value =>
          match readItems format rest with
          | .error fault => .error fault
          | .ok values => .ok (value :: values)

def list (format : Format α) : Format (List α) where
  write values := .array (values.map format.write)
  read
    | .array items => readItems format items
    | _ => .error .shape

def bytes : Format Bytes := list byte

def option (format : Format α) : Format (Option α) where
  write
    | none => .null
    | some value => format.write value
  read
    | .null => .ok none
    | json =>
        match format.read json with
        | .ok value => .ok (some value)
        | .error fault => .error fault

/-- A choice between alternatives. It is written as the name of one, or as an object whose only
member has that name and carries a payload. -/
def choice (names : List String) (write : α → Json)
    (readPayload : String → Option Json → Except ReadFault α) : Format α where
  write
  read
    | .string name =>
        if names.contains name then readPayload name none
        else .error (.unknownVariant name names)
    | .object [(name, payload)] =>
        if names.contains name then readPayload name (some payload)
        else .error (.unknownVariant name names)
    | _ => .error .shape

def bare (value : α) : Option Json → Except ReadFault α
  | none => .ok value
  | some .null => .ok value
  | some _ => .error .shape

def oneOf (values : List α) (name : α → String) : Format α :=
  choice (values.map name) (fun value => .string (name value)) fun text payload =>
    match values.find? fun value => name value = text with
    | some value => bare value payload
    | none => .error .shape

end Format

structure Record (α : Type) where
  /-- The members of the object a value is written as. -/
  members : α → List (String × Json)
  /-- The faults of members that are there, by name. -/
  faults : List (String × Json) → List (String × ReadFault)
  /-- The value of an object whose members all read well. -/
  ofMembers : List (String × Json) → Except ReadFault α
  /-- The value at the front of an array, and the items left over. -/
  ofItems : List Json → Except ReadFault (α × List Json)

namespace Record

variable {α β : Type}

/-- One field, with what stands for it when its member or its item is absent. -/
def field (name : String) (format : Format α) (absentMember absentItem : Except ReadFault α) :
    Record α where
  members value := [(name, format.write value)]
  faults members :=
    match members.lookup name with
    | none => []
    | some json =>
        match format.read json with
        | .ok _ => []
        | .error fault => [(name, fault)]
  ofMembers members :=
    match members.lookup name with
    | none => absentMember
    | some json => format.read json
  ofItems
    | [] =>
        match absentItem with
        | .ok value => .ok (value, [])
        | .error fault => .error fault
    | item :: rest =>
        match format.read item with
        | .ok value => .ok (value, rest)
        | .error fault => .error fault

def required (name : String) (format : Format α) : Record α :=
  field name format (.error (.missingField name)) (.error .shape)

/-- A field that may be null, and may be absent from an object. -/
def optional (name : String) (format : Format α) : Record (Option α) :=
  field name format.option (.ok none) (.error .shape)

def withDefault (name : String) (format : Format α) (value : α) : Record α :=
  field name format (.ok value) (.ok value)

def pair (first : Record α) (second : Record β) : Record (α × β) where
  members value := first.members value.1 ++ second.members value.2
  faults members := first.faults members ++ second.faults members
  ofMembers members :=
    match first.ofMembers members with
    | .error fault => .error fault
    | .ok left =>
        match second.ofMembers members with
        | .error fault => .error fault
        | .ok right => .ok (left, right)
  ofItems items :=
    match first.ofItems items with
    | .error fault => .error fault
    | .ok (left, rest) =>
        match second.ofItems rest with
        | .error fault => .error fault
        | .ok (right, rest) => .ok ((left, right), rest)

def map (record : Record α) (pack : α → β) (unpack : β → α) : Record β where
  members value := record.members (unpack value)
  faults := record.faults
  ofMembers members :=
    match record.ofMembers members with
    | .ok value => .ok (pack value)
    | .error fault => .error fault
  ofItems items :=
    match record.ofItems items with
    | .ok (value, rest) => .ok (pack value, rest)
    | .error fault => .error fault

/-- The fault whose member name comes first. -/
def firstFault? : List (String × ReadFault) → Option (String × ReadFault)
  | [] => none
  | fault :: rest =>
      match firstFault? rest with
      | none => some fault
      | some other => if other.1 < fault.1 then some other else some fault

def format (record : Record α) : Format α where
  write value := .object (record.members value)
  read
    | .object members =>
        match firstFault? (record.faults members) with
        | some (_, fault) => .error fault
        | none => record.ofMembers members
    | .array items =>
        match record.ofItems items with
        | .ok (value, []) => .ok value
        | .ok (_, _ :: _) => .error .shape
        | .error fault => .error fault
    | _ => .error .shape

end Record

end CensusNode
