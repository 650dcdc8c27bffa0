import CensusNode.Bytes

/-!
Bytes that should be UTF-8 and may not be. They fall apart into characters and runs of stray bytes:
a run is the longest beginning of a character that is never completed, or a byte that begins none.
A run is shown as one replacement character. In a file name every stray byte has to stay apart from
the others: it is spelled as a null and the character of its value, since no name holds a null.
-/

namespace CensusNode.Utf8

inductive Piece where
  | char (char : Char)
  | stray (bytes : Bytes)
deriving DecidableEq, Repr

/-- How many bytes complete a character, and the bounds of the next one of them. -/
structure Owed where
  count : Nat
  least : UInt8
  greatest : UInt8
deriving DecidableEq, Repr

def owedAfter? (lead : UInt8) : Option Owed :=
  if lead < 0x80 then some ⟨0, 0x80, 0xbf⟩
  else if lead < 0xc2 then none
  else if lead < 0xe0 then some ⟨1, 0x80, 0xbf⟩
  else if lead = 0xe0 then some ⟨2, 0xa0, 0xbf⟩
  else if lead = 0xed then some ⟨2, 0x80, 0x9f⟩
  else if lead < 0xf0 then some ⟨2, 0x80, 0xbf⟩
  else if lead = 0xf0 then some ⟨3, 0x90, 0xbf⟩
  else if lead < 0xf4 then some ⟨3, 0x80, 0xbf⟩
  else if lead = 0xf4 then some ⟨3, 0x80, 0x8f⟩
  else none

def payment : Owed → Bytes → Bytes
  | _, [] => []
  | ⟨0, _, _⟩, _ => []
  | ⟨count + 1, least, greatest⟩, byte :: rest =>
      if least ≤ byte && byte ≤ greatest then byte :: payment ⟨count, 0x80, 0xbf⟩ rest else []

def valueOf (lead : UInt8) (following : Bytes) : Nat :=
  let start := match following.length with
    | 0 => lead.toNat
    | 1 => lead.toNat % 32
    | 2 => lead.toNat % 16
    | _ => lead.toNat % 8
  following.foldl (fun value byte => 64 * value + byte.toNat % 64) start

def pieces : Bytes → List Piece
  | [] => []
  | lead :: rest =>
      match owedAfter? lead with
      | none => .stray [lead] :: pieces rest
      | some owed =>
          let following := payment owed rest
          let piece : Piece :=
            if following.length = owed.count then .char (Char.ofNat (valueOf lead following))
            else .stray (lead :: following)
          piece :: pieces (rest.drop following.length)
termination_by bytes => bytes.length
decreasing_by all_goals simp only [List.length_cons, List.length_drop]; omega

def shown (bytes : Bytes) : String :=
  String.ofList ((pieces bytes).map fun piece =>
    match piece with
    | .char char => char
    | .stray _ => '\ufffd')

def pathText (bytes : Bytes) : String :=
  String.ofList ((pieces bytes).flatMap fun piece =>
    match piece with
    | .char char => [char]
    | .stray bytes => bytes.flatMap fun byte => ['\x00', Char.ofNat byte.toNat])

/-- The number of bytes of a path or name. The two characters of a stray byte, which have three
bytes between them, stand for one. -/
def pathSize (text : String) : Nat := text.utf8ByteSize - 2 * text.toList.count '\x00'

end CensusNode.Utf8
