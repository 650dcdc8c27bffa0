import CensusNode.Ledger.Cursor
import CensusNode.Proofs.Codec.Decisive
import CensusNode.Proofs.Text.Base64

/-!
A cursor survives its text: read for the root it was issued for, it is the cursor that was written.
No text is a cursor for two roots, a cut text is one for none, and a version that is not known is
reported before the root is looked at.
-/

namespace CensusNode.PageCursor

theorem codec_restores (cursor : PageCursor) : codec.Restores cursor := by
  refine Codec.Restores.map
    (Codec.Restores.pair ?_ (Codec.Restores.pair ?_ (Codec.Restores.pair ?_ ?_))) rfl
  · exact Codec.byte_restores cursor.version
  · exact Codec.block_restores cursor.root
  · exact Codec.signed64_restores cursor.insertedAt
  · exact Codec.signed64_restores cursor.insertionSeq

theorem codec_decides : codec.Decides :=
  (Codec.byte_decides.pair ((Codec.block_decides 32).pair
    (Codec.signed64_decides.pair Codec.signed64_decides))).map _ _

theorem version_of_decode {version : UInt8} {rest : Bytes} {cursor : PageCursor}
    (found : codec.decodeValue (version :: rest) = .ok cursor) : cursor.version = version := by
  simp only [codec, Codec.decodeValue, Codec.map, Codec.refine, Codec.pair, Codec.byte] at found
  split at found
  · rename_i value left outcome
    cases found
    split at outcome
    · cases outcome
    · rename_i parts tail read
      cases outcome
      split at read
      · cases read
      · cases read
        rfl
  · cases found

/-- What a cursor's bytes give is decided by its version first and then by its root. -/
theorem decode_of_bytes {text : String} {bytes : Bytes} {cursor : PageCursor}
    (isText : Base64.decode? text = some bytes) (read : codec.decodeValue bytes = .ok cursor)
    (root : CensusRoot) :
    decode text root =
      if cursor.version ≠ currentVersion then .error (.unsupportedVersion cursor.version)
      else if cursor.root ≠ root.digest then .error .rootMismatch
      else .ok cursor := by
  simp only [decode, isText, read]

theorem decode_eq_ok {text : String} {root : CensusRoot} {cursor : PageCursor}
    (found : decode text root = .ok cursor) :
    cursor.version = currentVersion ∧ cursor.root = root.digest ∧
      ∃ bytes, Base64.decode? text = some bytes ∧ codec.decodeValue bytes = .ok cursor := by
  cases isText : Base64.decode? text with
  | none => simp only [decode, isText, reduceCtorEq] at found
  | some bytes =>
      cases read : codec.decodeValue bytes with
      | error fault => simp only [decode, isText, read, reduceCtorEq] at found
      | ok written =>
          rw [decode_of_bytes isText read] at found
          split at found
          · cases found
          · rename_i current
            split at found
            · cases found
            · rename_i own
              cases found
              exact ⟨Decidable.not_not.mp current, Decidable.not_not.mp own, bytes, rfl, read⟩

theorem decode_encode (cursor : PageCursor) (root : CensusRoot) :
    decode cursor.encode root =
      if cursor.version ≠ currentVersion then .error (.unsupportedVersion cursor.version)
      else if cursor.root ≠ root.digest then .error .rootMismatch
      else .ok cursor :=
  decode_of_bytes (Base64.decode_encode _) (codec_restores cursor).decode_value root

theorem decode_encode_after (root : CensusRoot) (insertedAt insertionSeq : Int64) :
    decode (after root insertedAt insertionSeq).encode root =
      .ok (after root insertedAt insertionSeq) := by
  rw [decode_encode, if_neg (by simp [after]), if_neg (by simp [after])]

theorem decode_other {text : String} {root other : CensusRoot} {cursor : PageCursor}
    (found : decode text root = .ok cursor) (different : other ≠ root) :
    decode text other = .error .rootMismatch := by
  obtain ⟨current, own, bytes, isText, read⟩ := decode_eq_ok found
  have foreign : cursor.root ≠ other.digest := by
    rw [own]
    intro same
    apply different
    cases root
    cases other
    rw [CensusRoot.mk.injEq]
    exact same.symm
  rw [decode_of_bytes isText read, if_neg (Decidable.not_not.mpr current), if_pos foreign]

/-- A cut text is no base64, or stands for bytes that end too early. -/
theorem decode_cut {cursor : PageCursor} {front back : String} (whole : front ++ back = cursor.encode)
    (missing : back ≠ "") (root : CensusRoot) :
    decode front root = .error .base64 ∨ decode front root = .error (.payload .endOfInput) := by
  cases isText : Base64.decode? front with
  | none =>
      left
      simp only [decode, isText]
  | some early =>
      right
      obtain ⟨lost, lacking, same⟩ := Base64.decode_cut missing whole isText
      have ended : codec.decodeValue early = .error .endOfInput :=
        codec_decides.decode_value_cut (codec_restores cursor) same lacking
      simp only [decode, isText, ended]

/-- The text of a cursor gives its position back for its root, and for no other root. Whatever a text
is, it is a cursor of the current version for one root at most. Every proper beginning of a cursor's
text is refused for every root, and so is a payload of another version, whose root does not count. -/
theorem cursor_is_good_for_one_root :
    (∀ (root : CensusRoot) (insertedAt insertionSeq : Int64),
      (∃ found, decode (after root insertedAt insertionSeq).encode root = .ok found ∧
        found.insertedAt = insertedAt ∧ found.insertionSeq = insertionSeq) ∧
      ∀ other, other ≠ root →
        decode (after root insertedAt insertionSeq).encode other = .error .rootMismatch) ∧
    (∀ text root cursor, decode text root = .ok cursor →
      cursor.version = 1 ∧ cursor.root = root.digest ∧
        ∀ other, other ≠ root → decode text other = .error .rootMismatch) ∧
    (∀ (cursor : PageCursor) (front back : String), front ++ back = cursor.encode → back ≠ "" →
      ∀ root, decode front root = .error .base64 ∨
        decode front root = .error (.payload .endOfInput)) ∧
    ∀ text version rest cursor, Base64.decode? text = some (version :: rest) →
      codec.decodeValue (version :: rest) = .ok cursor → version ≠ 1 →
        ∀ root, decode text root = .error (.unsupportedVersion version) := by
  refine ⟨?_, ?_, ?_, ?_⟩
  · intro root insertedAt insertionSeq
    have own := decode_encode_after root insertedAt insertionSeq
    exact ⟨⟨_, own, rfl, rfl⟩, fun other different => decode_other own different⟩
  · intro text root cursor found
    obtain ⟨current, own, -⟩ := decode_eq_ok found
    exact ⟨current, own, fun other different => decode_other found different⟩
  · intro cursor front back whole missing root
    exact decode_cut whole missing root
  · intro text version rest cursor isText read unknown root
    have first := version_of_decode read
    rw [decode_of_bytes isText read, first]
    exact if_pos unknown

/-- A cursor before 1970, read for its root and for another one, cut in its last group, and with its
version byte changed to nine. -/
theorem early_cursor_is_good_for_one_root :
    let root : CensusRoot := ⟨⟨List.replicate 32 7, rfl⟩⟩
    let other : CensusRoot := ⟨⟨List.replicate 32 8, rfl⟩⟩
    let text := (after root (-1) 2).encode
    (∃ found, decode text root = .ok found ∧ found.insertedAt = -1 ∧ found.insertionSeq = 2) ∧
      decode text other = .error .rootMismatch ∧
      (decode "AQcHBwcHBwcHBwcHBwcHBwcHBwcHBwcHBwcHBwcHBwcHAQ" root = .error .base64 ∨
        decode "AQcHBwcHBwcHBwcHBwcHBwcHBwcHBwcHBwcHBwcHBwcHAQ" root =
          .error (.payload .endOfInput)) ∧
      decode "CQcHBwcHBwcHBwcHBwcHBwcHBwcHBwcHBwcHBwcHBwcHAQQ" other =
        .error (.unsupportedVersion 9) := by
  intro root other text
  have different : other ≠ root := by decide
  have newer : codec.encode ⟨9, root.digest, -1, 2⟩ = 9 :: (List.replicate 32 7 ++ [1, 4]) := by
    decide +kernel
  obtain ⟨whole, texts, cuts, versions⟩ := cursor_is_good_for_one_root
  obtain ⟨⟨found, isFound, time, number⟩, -⟩ := whole root (-1) 2
  obtain ⟨-, -, foreign⟩ := texts _ root found isFound
  refine ⟨⟨found, isFound, time, number⟩, foreign other different, ?_, ?_⟩
  · exact cuts (after root (-1) 2) _ "Q" (by decide +kernel) (by decide) root
  · apply versions _ 9 (List.replicate 32 7 ++ [1, 4]) ⟨9, root.digest, -1, 2⟩ (by decide +kernel)
    · rw [← newer]
      exact (codec_restores _).decode_value
    · decide

end CensusNode.PageCursor
