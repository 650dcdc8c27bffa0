import CensusNode.Proofs.Json.DataModel
import CensusNode.Proofs.Text.HexDigits

/-!
The texts of census roots. A text is a root when 64 hexadecimal digits of either case follow its
marks, and then it is the root with the bytes that these digits stand for. Every other text is
refused: as no hexadecimal text for an odd number of bytes or for a byte that is no digit, and
otherwise for its length.
-/

namespace CensusNode.CensusRoot

open Hex

/-- What reading a text comes to, by what follows its marks. -/
structure FollowsGrammar (text : String) (rest : List Char) : Prop where
  accepted_iff : (∃ root, parse text = .ok root) ↔ rest.length = 64 ∧ rest.all isDigit = true
  bytes_eq : ∀ root, parse text = .ok root → root.bytes = bytesOf rest
  invalid_iff : (∃ fault, parse text = .error (.invalidHex fault)) ↔
    (utf8Bytes (String.ofList rest)).length % 2 = 1 ∨
      ∃ byte ∈ utf8Bytes (String.ofList rest), isDigitByte byte = false
  /-- An odd number of bytes counts before a byte that is no digit. -/
  odd_iff : parse text = .error (.invalidHex .oddLength) ↔
    (utf8Bytes (String.ofList rest)).length % 2 = 1
  length_iff : ∀ length, parse text = .error (.invalidLength length) ↔
    rest.all isDigit = true ∧ rest.length % 2 = 0 ∧ rest.length ≠ 64 ∧ length = rest.length / 2

variable {text : String} {rest : List Char}

inductive Outcome (rest : List Char) : Except RootFault CensusRoot → Prop where
  | oddLength (odd : (utf8Bytes (String.ofList rest)).length % 2 = 1) :
      Outcome rest (.error (.invalidHex .oddLength))
  | badDigit (even : (utf8Bytes (String.ofList rest)).length % 2 = 0) (byte : UInt8)
      (position : Nat) (member : byte ∈ utf8Bytes (String.ofList rest))
      (bad : isDigitByte byte = false) :
      Outcome rest (.error (.invalidHex (.badDigit byte position)))
  | invalidLength (digits : rest.all isDigit = true) (even : rest.length % 2 = 0)
      (different : rest.length ≠ 64) : Outcome rest (.error (.invalidLength (rest.length / 2)))
  | accepted (digits : rest.all isDigit = true) (length : rest.length = 64) (root : CensusRoot)
      (bytes : root.bytes = bytesOf rest) : Outcome rest (.ok root)

theorem utf8_length_of_digits (digits : rest.all isDigit = true) :
    (utf8Bytes (String.ofList rest)).length = rest.length := by
  have lengths := congrArg List.length (bytes_of_digits digits)
  rwa [List.length_map, ← utf8_bytes_of_list] at lengths

theorem of_bytes_outcome (digits : rest.all isDigit = true) (even : rest.length % 2 = 0) :
    Outcome rest (ofBytes (bytesOf rest)) := by
  rw [ofBytes, Block.ofBytes?]
  by_cases exact : (bytesOf rest).length = 32
  · rw [dif_pos exact]
    rw [bytes_of_length] at exact
    exact .accepted digits (by omega) _ rfl
  · rw [dif_neg exact, bytes_of_length]
    rw [bytes_of_length] at exact
    exact .invalidLength digits even (by omega)

theorem parse_outcome (marked : Marked text rest) : Outcome rest (parse text) := by
  rw [parse, marked.decode_eq]
  by_cases odd : (utf8Bytes (String.ofList rest)).length % 2 = 1
  · rw [if_pos odd]
    exact .oddLength odd
  · rw [if_neg odd]
    cases left : (utf8Bytes (String.ofList rest)).dropWhile isDigitByte with
    | nil =>
        have digits := (drop_digits_eq_nil_iff rest).mp left
        rw [utf8_length_of_digits digits] at odd
        exact of_bytes_outcome digits (by omega)
    | cons bad back =>
        obtain ⟨member, isBad⟩ := bad_of_drop_digits left
        exact .badDigit (by omega) bad _ member isBad

theorem bad_byte_iff (rest : List Char) :
    (∃ byte ∈ utf8Bytes (String.ofList rest), isDigitByte byte = false) ↔
      rest.all isDigit = false := by
  rw [← all_digits_utf8, ← utf8_bytes_of_list, List.all_eq_false]
  simp only [Bool.not_eq_true]

theorem Outcome.follows (outcome : Outcome rest (parse text)) : FollowsGrammar text rest := by
  -- The length is counted in bytes, which is the number of characters where all of them are digits.
  have lengths : rest.all isDigit = true →
      (utf8Bytes (String.ofList rest)).length = rest.length := utf8_length_of_digits
  have hasBad := bad_byte_iff rest
  generalize isAnswer : parse text = answer at outcome
  cases outcome with
  | oddLength odd =>
      have uneven : rest.all isDigit = true → rest.length % 2 = 1 :=
        fun digits => lengths digits ▸ odd
      constructor
      · have noRoot : ¬(rest.length = 64 ∧ rest.all isDigit = true) := by
          rintro ⟨length, digits⟩
          have odd := uneven digits
          omega
        exact iff_of_false (by simp [isAnswer]) noRoot
      · simp [isAnswer]
      · simp [isAnswer, odd]
      · simp [isAnswer, odd]
      · intro length
        have noLength : ¬(rest.all isDigit = true ∧ rest.length % 2 = 0 ∧ rest.length ≠ 64 ∧
            length = rest.length / 2) := by
          rintro ⟨digits, even, -⟩
          have odd := uneven digits
          omega
        exact iff_of_false (by simp [isAnswer]) noLength
  | badDigit even byte position member bad =>
      have isBad := hasBad.mp ⟨byte, member, bad⟩
      constructor
      · simp [isAnswer, isBad]
      · simp [isAnswer]
      · exact iff_of_true ⟨_, isAnswer⟩ (Or.inr ⟨byte, member, bad⟩)
      · simp [isAnswer, even]
      · simp [isAnswer, isBad]
  | invalidLength digits even different =>
      have evenBytes := lengths digits
      have noBad : ¬∃ byte ∈ utf8Bytes (String.ofList rest), isDigitByte byte = false := by
        rw [hasBad, digits]
        exact Bool.noConfusion
      constructor
      · simp [isAnswer, different]
      · simp [isAnswer]
      · simp [isAnswer, noBad, evenBytes, even]
      · simp [isAnswer, evenBytes, even]
      · intro length
        simp [isAnswer, digits, even, different, eq_comm]
  | accepted digits length root bytes =>
      have evenBytes := lengths digits
      have noBad : ¬∃ byte ∈ utf8Bytes (String.ofList rest), isDigitByte byte = false := by
        rw [hasBad, digits]
        exact Bool.noConfusion
      constructor
      · exact iff_of_true ⟨root, isAnswer⟩ ⟨length, digits⟩
      · simp [isAnswer, bytes]
      · simp [isAnswer, noBad, evenBytes, length]
      · simp [isAnswer, evenBytes, length]
      · simp [isAnswer, length]

/-- Two texts that are accepted give one root when their digits differ in case only. -/
theorem same_root_iff {other : String} {others : List Char} {root second : CensusRoot}
    (marked : Marked text rest) (isRoot : parse text = .ok root)
    (otherMarked : Marked other others) (isSecond : parse other = .ok second) :
    root = second ↔ rest.map Char.toLower = others.map Char.toLower := by
  have follows := (parse_outcome marked).follows
  have otherFollows := (parse_outcome otherMarked).follows
  obtain ⟨length, digits⟩ := follows.accepted_iff.mp ⟨root, isRoot⟩
  obtain ⟨otherLength, otherDigits⟩ := otherFollows.accepted_iff.mp ⟨second, isSecond⟩
  rw [← written_bytes_of digits (by omega), ← written_bytes_of otherDigits (by omega),
    ← follows.bytes_eq root isRoot, ← otherFollows.bytes_eq second isSecond]
  constructor
  · intro same
    rw [same]
  · intro written
    have texts : root.display = second.display := congrArg String.ofList written
    have again := parse_display root
    rw [texts, parse_display second] at again
    exact (Except.ok.inj again).symm

/-- The grammar of root texts: marks and 64 digits of either case. What follows the marks decides
how every text is read, whatever is printed is read back, and two texts stand for one root when
they agree after their marks in all but case. -/
theorem root_texts_follow_grammar :
    (∀ text, (∃ root, parse text = .ok root) ↔
      ∃ marks digits, text.toList = (List.replicate marks ['0', 'x']).flatten ++ digits ∧
        digits.length = 64 ∧ ∀ digit ∈ digits, isDigit digit = true) ∧
    (∀ text, ∃ rest, Marked text rest) ∧
    (∀ text rest, Marked text rest → FollowsGrammar text rest) ∧
    (∀ root, parse root.display = .ok root) ∧
    ∀ text other rest others root second, Marked text rest → Marked other others →
      parse text = .ok root → parse other = .ok second →
      (root = second ↔ rest.map Char.toLower = others.map Char.toLower) := by
  have grammar (text : String) (rest : List Char) (marked : Marked text rest) :
      FollowsGrammar text rest := (parse_outcome marked).follows
  refine ⟨?_, fun text => ⟨_, marked_drop_marks text⟩, grammar, parse_display, ?_⟩
  · intro text
    constructor
    · intro accepted
      obtain ⟨⟨marks, isText⟩, -⟩ := marked_drop_marks text
      obtain ⟨length, digits⟩ := (grammar text _ (marked_drop_marks text)).accepted_iff.mp accepted
      exact ⟨marks, _, isText, length, List.all_eq_true.mp digits⟩
    · rintro ⟨marks, digits, isText, length, all⟩
      have marked : Marked text digits := ⟨⟨marks, isText⟩, unmarked_of_digits all⟩
      exact (grammar text digits marked).accepted_iff.mpr ⟨length, List.all_eq_true.mpr all⟩
  · intro text other rest others root second marked otherMarked isRoot isSecond
    exact same_root_iff marked isRoot otherMarked isSecond

def letteredRoot : CensusRoot := ⟨⟨List.replicate 32 0xab, by decide⟩⟩

def capitalText : String := capitals 2 letteredRoot.bytes

theorem capital_text_follows_grammar :
    Marked capitalText (dropMarks capitalText.toList) ∧
      Marked letteredRoot.display (dropMarks letteredRoot.display.toList) ∧
      parse capitalText = .ok letteredRoot ∧ parse letteredRoot.display = .ok letteredRoot ∧
      FollowsGrammar capitalText (dropMarks capitalText.toList) ∧
      (dropMarks capitalText.toList).map Char.toLower =
        (dropMarks letteredRoot.display.toList).map Char.toLower := by
  have marked := marked_drop_marks capitalText
  have printed := marked_drop_marks letteredRoot.display
  have isRoot : parse capitalText = .ok letteredRoot :=
    parse_of_spells (spells_capitals 2 letteredRoot.bytes)
  have isPrinted := parse_display letteredRoot
  obtain ⟨-, -, grammar, -, same⟩ := root_texts_follow_grammar
  exact ⟨marked, printed, isRoot, isPrinted, grammar _ _ marked,
    (same _ _ _ _ _ _ marked printed isRoot isPrinted).mp rfl⟩

end CensusNode.CensusRoot
