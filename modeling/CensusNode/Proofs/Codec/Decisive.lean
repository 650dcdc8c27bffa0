import CensusNode.Proofs.Codec.Restores

/-!
Readers that decide as soon as they can. What a decisive reader answers stays its answer when more
bytes follow, unless it ran out of bytes: only then can it still answer anything. Every way of
building codecs builds decisive readers from decisive readers. A decisive reader that reads a value
back from its written form therefore runs out of bytes on every cut of that form.
-/

namespace CensusNode

/-- An outcome is final when bytes that follow are only left over and change nothing else. -/
structure Decisive {α : Type} (read : Bytes → Except DecodeFault (α × Bytes)) : Prop where
  value : ∀ {bytes value rest}, read bytes = .ok (value, rest) →
    ∀ more, read (bytes ++ more) = .ok (value, rest ++ more)
  fault : ∀ {bytes fault}, read bytes = .error fault → fault ≠ .endOfInput →
    ∀ more, read (bytes ++ more) = .error fault

namespace Decisive

variable {α β : Type}

theorem pure (value : α) : Decisive fun bytes => .ok (value, bytes) where
  value := by
    intro bytes found rest read more
    cases read
    rfl
  fault := by
    intro bytes fault read
    cases read

theorem refusal (fault : DecodeFault) :
    Decisive fun _ => (.error fault : Except DecodeFault (α × Bytes)) where
  value := by
    intro bytes found rest read
    cases read
  fault := fun read _ _ => read

def next (read : Bytes → Except DecodeFault (α × Bytes))
    (later : α → Bytes → Except DecodeFault (β × Bytes)) (bytes : Bytes) :
    Except DecodeFault (β × Bytes) :=
  match read bytes with
  | .error fault => .error fault
  | .ok (value, rest) => later value rest

theorem then_next {read : Bytes → Except DecodeFault (α × Bytes)}
    {later : α → Bytes → Except DecodeFault (β × Bytes)} (first : Decisive read)
    (second : ∀ value, Decisive (later value)) : Decisive (next read later) where
  value := by
    intro bytes found rest outcome more
    rw [next] at outcome ⊢
    cases here : read bytes with
    | error fault => simp only [here, reduceCtorEq] at outcome
    | ok pair =>
        obtain ⟨value, middle⟩ := pair
        simp only [here] at outcome
        simp only [first.value here more]
        exact (second value).value outcome more
  fault := by
    intro bytes fault outcome decided more
    rw [next] at outcome ⊢
    cases here : read bytes with
    | error earlier =>
        simp only [here] at outcome
        cases outcome
        simp only [first.fault here decided more]
    | ok pair =>
        obtain ⟨value, middle⟩ := pair
        simp only [here] at outcome
        simp only [first.value here more]
        exact (second value).fault outcome decided more

theorem of_eq {read other : Bytes → Except DecodeFault (α × Bytes)} (decisive : Decisive read)
    (same : ∀ bytes, other bytes = read bytes) : Decisive other := by
  rw [funext same]
  exact decisive

theorem cons {read : Bytes → Except DecodeFault (α × Bytes)} (empty : read [] = .error .endOfInput)
    (later : ∀ byte, Decisive fun rest => read (byte :: rest)) : Decisive read where
  value := by
    intro bytes found rest outcome more
    cases bytes with
    | nil =>
        rw [empty] at outcome
        cases outcome
    | cons byte bytes => exact (later byte).value outcome more
  fault := by
    intro bytes fault outcome decided more
    cases bytes with
    | nil =>
        rw [empty] at outcome
        exact absurd (Except.error.inj outcome).symm decided
    | cons byte bytes => exact (later byte).fault outcome decided more

theorem decode_within (lastLimit remaining : Nat) :
    Decisive (Varint.decodeWithin lastLimit remaining) := by
  induction remaining with
  | zero => exact refusal .unterminatedVarint
  | succ remaining induction =>
      apply cons rfl
      intro byte
      simp only [Varint.decodeWithin]
      by_cases final : byte.toNat < 128
      · simp only [if_pos final]
        split
        · exact refusal .unterminatedVarint
        · exact pure byte.toNat
      · simp only [if_neg final]
        apply (induction.then_next fun high => pure (byte.toNat - 128 + 128 * high)).of_eq
        intro rest
        rw [next]
        cases Varint.decodeWithin lastLimit remaining rest <;> rfl

theorem decode_number (width : Varint.Width) : Decisive (Varint.decode width) :=
  decode_within width.lastLimit width.bytes

end Decisive

namespace Codec

variable {α β : Type}

def Decides (codec : Codec α) : Prop := Decisive codec.decode

theorem constant_decides (value : α) : (constant value).Decides :=
  Decisive.pure value

theorem byte_decides : byte.Decides :=
  Decisive.cons rfl fun value => Decisive.pure value

theorem number_decides (width : Varint.Width) : (number width).Decides :=
  Decisive.decode_number width

theorem Decides.pair {first : Codec α} {second : Codec β} (left : first.Decides)
    (right : second.Decides) : (first.pair second).Decides :=
  Decisive.then_next left fun value => right.then_next fun other => Decisive.pure (value, other)

/-- What is read is only checked once it is complete. -/
theorem Decides.refine {codec : Codec α} (decides : codec.Decides)
    (pack : α → Except DecodeFault β) (unpack : β → α) :
    (codec.refine pack unpack).Decides := by
  have checked : ∀ raw, Decisive fun bytes : Bytes => (pack raw).map fun value => (value, bytes) := by
    intro raw
    cases pack raw with
    | error fault => exact Decisive.refusal fault
    | ok value => exact Decisive.pure value
  apply (Decisive.then_next decides checked).of_eq
  intro bytes
  simp only [Codec.refine, Decisive.next]
  cases codec.decode bytes with
  | error fault => rfl
  | ok pair => cases packed : pack pair.1 <;> simp only [packed, Except.map]

theorem Decides.map {codec : Codec α} (decides : codec.Decides) (pack : α → β) (unpack : β → α) :
    (codec.map pack unpack).Decides :=
  decides.refine _ _

theorem count_decides : count.Decides := number_decides _

theorem word16_decides : word16.Decides := (number_decides _).map _ _

theorem word64_decides : word64.Decides := (number_decides _).map _ _

theorem signed64_decides : signed64.Decides := (number_decides _).map _ _

theorem raw_decides (size : Nat) : (raw size).Decides where
  value := by
    intro bytes found rest outcome more
    simp only [raw] at outcome ⊢
    split at outcome
    · cases outcome
    · rename_i enough
      cases outcome
      have length : ¬ (bytes ++ more).length < size := by
        rw [List.length_append]
        omega
      rw [if_neg length, List.take_append_of_le_length (by omega),
        List.drop_append_of_le_length (by omega)]
  fault := by
    intro bytes fault outcome decided
    simp only [raw] at outcome
    split at outcome
    · exact absurd (Except.error.inj outcome).symm decided
    · cases outcome

theorem block_decides (size : Nat) : (block size).Decides :=
  (raw_decides size).refine _ _

theorem bytes_decides : bytes.Decides := by
  apply ((Decisive.decode_number .word64).then_next raw_decides).of_eq
  intro input
  simp only [bytes, Decisive.next]
  cases Varint.decode .word64 input <;> rfl

theorem text_decides : text.Decides :=
  bytes_decides.refine _ _

theorem Decides.option {codec : Codec α} (decides : codec.Decides) : codec.option.Decides := by
  apply Decisive.cons rfl
  intro mark
  simp only [Codec.option]
  split
  · exact Decisive.pure none
  · split
    · apply (Decisive.then_next decides fun value => Decisive.pure (some value)).of_eq
      intro rest
      rw [Decisive.next]
      cases codec.decode rest <;> rfl
    · exact Decisive.refusal .badOptionMark

/-- The tag is complete before the form that it selects is read. -/
theorem tagged_decides {tag : α → Nat} {form : Nat → Option (Codec α)}
    (decides : ∀ mark codec, form mark = some codec → codec.Decides) :
    (tagged tag form).Decides := by
  have selected : ∀ mark, Decisive ((form mark).elim (fun _ => .error .badValue) Codec.decode) := by
    intro mark
    cases chosen : form mark with
    | none => exact Decisive.refusal .badValue
    | some codec => exact decides mark codec chosen
  apply ((Decisive.decode_number .word32).then_next selected).of_eq
  intro input
  simp only [tagged, Decisive.next]
  cases Varint.decode .word32 input with
  | error fault => rfl
  | ok pair => cases chosen : form pair.1 <;> simp only [chosen, Option.elim]

theorem one_of_decides [DecidableEq α] (values : List α) : (oneOf values).Decides := by
  apply tagged_decides
  intro mark codec selected
  obtain ⟨value, -, rfl⟩ := Option.map_eq_some_iff.mp selected
  exact constant_decides value

/-- Were there an answer for a cut, it would still be one with the missing bytes: they would be left
over, or the fault would stay. -/
theorem Decides.decode_cut {codec : Codec α} (decides : codec.Decides) {value : α}
    (restores : codec.Restores value) {front back : Bytes}
    (split : front ++ back = codec.encode value) (missing : back ≠ []) :
    codec.decode front = .error .endOfInput := by
  have whole : codec.decode (front ++ back) = .ok (value, []) := by
    have found := restores []
    rwa [List.append_nil, ← split] at found
  cases outcome : codec.decode front with
  | ok pair =>
      obtain ⟨early, rest⟩ := pair
      rw [decides.value outcome back] at whole
      have left_over : rest ++ back = [] := congrArg Prod.snd (Except.ok.inj whole)
      exact absurd (List.append_eq_nil_iff.mp left_over).2 missing
  | error fault =>
      by_cases ended : fault = .endOfInput
      · rw [ended]
      · rw [decides.fault outcome ended back] at whole
        cases whole

theorem Decides.decode_value_cut {codec : Codec α} (decides : codec.Decides) {value : α}
    (restores : codec.Restores value) {front back : Bytes}
    (split : front ++ back = codec.encode value) (missing : back ≠ []) :
    codec.decodeValue front = .error .endOfInput := by
  rw [decodeValue, decides.decode_cut restores split missing]

end Codec

end CensusNode
