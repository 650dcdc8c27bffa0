import CensusNode.Ledger.Fault

/-!
The header of a database, for bytes that were not written as a ledger. Numbers stand in it most
significant byte first, and bytes that are missing count as zero. The first page follows the header
and has to be the leaf of an empty schema: no table can be in such a file.
-/

namespace CensusNode.LedgerHeader

def mark : Bytes := utf8Bytes "SQLite format 3\x00"

def byteAt (bytes : Bytes) (offset : Nat) : UInt8 := (bytes.drop offset).headD 0

def numberAt (bytes : Bytes) (offset count : Nat) : Nat :=
  ofBigEndian ((List.range count).map fun place => byteAt bytes (offset + place))

def writeVersion (bytes : Bytes) : UInt8 := byteAt bytes 18

def readVersion (bytes : Bytes) : UInt8 := byteAt bytes 19

def logged (bytes : Bytes) : Except DatabaseFault Bool :=
  if !mark.isPrefixOf bytes || 2 < readVersion bytes then .error .notADatabase
  else .ok (readVersion bytes = 2)

def frozen (bytes : Bytes) : Bool := 2 < writeVersion bytes

def switchOnLog (bytes : Bytes) : Bytes := (bytes.set 18 2).set 19 2

def pageSize (bytes : Bytes) : Nat :=
  256 * (byteAt bytes 16).toNat + 65536 * (byteAt bytes 17).toNat

def pageSizes : List Nat := [512, 1024, 2048, 4096, 8192, 16384, 32768, 65536]

def usableSize (bytes : Bytes) : Nat := pageSize bytes - (byteAt bytes 20).toNat

def filePages (bytes : Bytes) : Nat := (bytes.length + pageSize bytes - 1) / pageSize bytes

/-- The number of pages of the database. The one in the header holds when it was written together
with the last change. -/
def pages (bytes : Bytes) : Nat :=
  let recorded := numberAt bytes 28 4
  if recorded = 0 ∨ numberAt bytes 24 4 ≠ numberAt bytes 92 4 then filePages bytes else recorded

def layoutFault? (bytes : Bytes) : Option DatabaseFault :=
  if numberAt bytes 21 3 ≠ 0x402020 then some .notADatabase
  else if pageSize bytes ∉ pageSizes then some .notADatabase
  else if filePages bytes < pages bytes then some .malformed
  else if usableSize bytes < 480 then some .notADatabase
  else if 4 < byteAt bytes 47 then some .unsupportedFormat
  else if byteAt bytes 100 ≠ 0x0d ∨ numberAt bytes 103 2 ≠ 0 then some .malformed
  else none

/-- The number of free bytes of the first page together with those before its contents. -/
def freeBytes (bytes : Bytes) : Nat :=
  let top := numberAt bytes 105 2
  (byteAt bytes 107).toNat + if top = 0 then 65536 else top

def tableFault? (bytes : Bytes) : Option DatabaseFault :=
  if numberAt bytes 36 4 ≠ 0 ∨ pages bytes < numberAt bytes 52 4 ∨ numberAt bytes 101 2 ≠ 0 ∨
      usableSize bytes < freeBytes bytes ∨ freeBytes bytes < 108 then some .malformed
  else none

end CensusNode.LedgerHeader
