import CensusNode.Census.Status
import CensusNode.Ledger.Rows

/-!
The JSON shapes a node prints. Byte strings are lower-case hexadecimal text.
-/

namespace CensusNode.View

def packageMembers (package : VotePackage) : List (String × Json) :=
  [("index", .nat package.index.toNat),
   ("signature", .string (Hex.encode package.signature.bytes)),
   ("public_key", .string (Hex.encode package.publicKey)),
   ("merkle_proof", .string (Hex.encode package.merkleProof)),
   ("vote", .string (Hex.encode package.vote))]

def package (package : VotePackage) : Json := .object (packageMembers package)

def stored (stored : StoredVotePackage) : Json :=
  .object (packageMembers stored.package ++
    [("census_root", CensusRoot.format.write stored.root),
     ("inserted_at", CensusStatus.instantFormat.write stored.insertedAt)])

def page (page : VotePage) : Json :=
  .object [("packages", .array (page.packages.map stored)),
    ("next_cursor", (Format.option Format.string).write page.nextCursor)]

def created (id : CensusId) : Json := .object [("census_id", CensusId.format.write id)]

def root (id : CensusId) (root : CensusRoot) : Json :=
  .object [("census_id", CensusId.format.write id), ("root", CensusRoot.format.write root)]

def error (code : ErrorCode) (message : String) : Json :=
  .object [("code", .nat code.number.toNat), ("message", .string message),
    ("retryable", .bool code.isRetryable), ("suggested_action", .string code.suggestedAction)]

end CensusNode.View
