import CensusNode.Codec.Basic
import CensusNode.Disk.Basic

/-!
Files as bytes. A store file and a ledger file start with a mark of their own, and their contents
follow field by field. Bytes without a mark, or with anything that does not belong after one, are
no file of a node and stay as they are.
-/

namespace CensusNode.FileContent

def integer : Codec Int := (Codec.number ⟨10, 0x7f⟩).map Codec.unzigzag Codec.zigzag

def tables : Codec CensusTables :=
  ((Codec.option Codec.bytes).pair ((Codec.option Codec.bytes).pair
    ((Codec.option Codec.bytes).pair
      ((Codec.count.pair Codec.bytes).list.pair (Codec.bytes.pair Codec.count).list)))).map
    (fun parts => ⟨parts.1, parts.2.1, parts.2.2.1, parts.2.2.2.1, parts.2.2.2.2⟩)
    fun tables => (tables.state, tables.status, tables.root, tables.members, tables.lookup)

def storeCodec : Codec Store :=
  ((Codec.option ((Codec.option Codec.bytes).map ControlTable.mk ControlTable.counter)).pair
    tables).map
    (fun parts => ⟨parts.1, parts.2⟩)
    fun contents => (contents.control, contents.census)

def row : Codec VoteRow :=
  (Codec.bytes.pair (Codec.bytes.pair (integer.pair (Codec.bytes.pair (Codec.bytes.pair
    (Codec.bytes.pair (integer.pair integer))))))).map
    (fun (root, signature, index, publicKey, merkleProof, vote, insertedAt, insertionSeq) =>
      { root, signature, index, publicKey, merkleProof, vote, insertedAt, insertionSeq })
    fun row =>
      (row.root, row.signature, row.index, row.publicKey, row.merkleProof, row.vote,
        row.insertedAt, row.insertionSeq)

def ledgerCodec : Codec LedgerImage :=
  (Codec.byte.pair (Codec.option row.list)).map
    (fun parts => ⟨parts.1 ≠ 0, parts.2⟩)
    fun image => (if image.logged then 1 else 0, image.rows)

def storeMark : Bytes := utf8Bytes "census store\n"

def ledgerMark : Bytes := utf8Bytes "vote ledger\n"

def encode : FileContent → Bytes
  | .store contents => storeMark ++ storeCodec.encode contents
  | .ledger image => ledgerMark ++ ledgerCodec.encode image
  | .raw bytes => bytes

/-- The value that bytes stand for after a mark, with nothing left over. -/
def decodeAfter? {α : Type} (mark : Bytes) (codec : Codec α) (bytes : Bytes) : Option α :=
  if mark.isPrefixOf bytes then
    match codec.decode (bytes.drop mark.length) with
    | .ok (value, []) => some value
    | _ => none
  else none

def decode (bytes : Bytes) : FileContent :=
  match decodeAfter? storeMark storeCodec bytes with
  | some contents => .store contents
  | none =>
      match decodeAfter? ledgerMark ledgerCodec bytes with
      | some image => .ledger image
      | none => .raw bytes

end CensusNode.FileContent
