import CensusNode.Census.Root
import CensusNode.Text.Base64

/-!
Page cursors. A cursor names the position of the last row of a page and the root it was issued
for. Its text is the base64 form of its bytes, and it is good for no other root.
-/

namespace CensusNode

/-- A position in the listing of a root. -/
structure PageCursor where
  version : UInt8
  root : Digest
  insertedAt : Int64
  insertionSeq : Int64
deriving DecidableEq

inductive CursorFault where
  | base64
  | payload (fault : DecodeFault)
  | unsupportedVersion (version : UInt8)
  | rootMismatch
deriving DecidableEq, Repr

def CursorFault.name : CursorFault → String
  | .base64 => "Base64"
  | .payload _ => "Payload"
  | .unsupportedVersion _ => "UnsupportedVersion"
  | .rootMismatch => "RootMismatch"

def CursorFault.message : CursorFault → String
  | .base64 => "cursor is not valid base64"
  | .payload fault => "cursor payload is malformed: Decoding failed: " ++ fault.message
  | .unsupportedVersion version => "unsupported cursor version " ++ Decimal.encode version.toNat
  | .rootMismatch => "cursor was issued for a different census root"

namespace PageCursor

def currentVersion : UInt8 := 1

def after (root : CensusRoot) (insertedAt insertionSeq : Int64) : PageCursor :=
  ⟨currentVersion, root.digest, insertedAt, insertionSeq⟩

def codec : Codec PageCursor :=
  (Codec.byte.pair ((Codec.block 32).pair (Codec.signed64.pair Codec.signed64))).map
    (fun parts => ⟨parts.1, parts.2.1, parts.2.2.1, parts.2.2.2⟩)
    fun cursor => (cursor.version, cursor.root, cursor.insertedAt, cursor.insertionSeq)

def digestFormat : Format Digest :=
  Format.bytes.refine
    (fun bytes => match Block.ofBytes? 32 bytes with
      | some digest => .ok digest
      | none => .error .shape)
    Block.bytes

def format : Format PageCursor :=
  (((Record.required "version" Format.byte).pair
    ((Record.required "census_root" digestFormat).pair
      ((Record.required "inserted_at" Format.signed64).pair
        (Record.required "insertion_seq" Format.signed64)))).map
    (fun parts => ⟨parts.1, parts.2.1, parts.2.2.1, parts.2.2.2⟩)
    fun cursor => (cursor.version, cursor.root, cursor.insertedAt, cursor.insertionSeq)).format

def encode (cursor : PageCursor) : String := Base64.encode (codec.encode cursor)

def decode (text : String) (root : CensusRoot) : Except CursorFault PageCursor :=
  match Base64.decode? text with
  | none => .error .base64
  | some bytes =>
      match codec.decodeValue bytes with
      | .error fault => .error (.payload fault)
      | .ok cursor =>
          if cursor.version ≠ currentVersion then .error (.unsupportedVersion cursor.version)
          else if cursor.root ≠ root.digest then .error .rootMismatch
          else .ok cursor

end PageCursor

end CensusNode
