import CensusNode.Proofs.Census.History

/-!
A census root binds the ordered members. Admission takes keys of 32 bytes only, so a leaf of one
census never passes for an inner node of another: two censuses with one root have the same members
in the same order, unless two of the strings hashed for the root have the same digest.
-/

namespace CensusNode.CensusHistory

open IdentitySet Merkle

theorem eq_or_collide_of_root_eq {left right : List Bytes}
    (leftLengths : ∀ key ∈ left, key.length = 32) (rightLengths : ∀ key ∈ right, key.length = 32)
    (same : rootOfLeaves (left.map leaf) = rootOfLeaves (right.map leaf)) :
    left = right ∨ Collide (hashedFor left ++ hashedFor right) := by
  have roots : root? (left.map sha256) = root? (right.map sha256) :=
    Option.map_injective (fun _ _ equal => congrArg CensusRoot.digest equal) same
  by_cases safe : Collide (hashedFor left ++ hashedFor right)
  · exact Or.inr safe
  · exact Or.inl (eq_of_root_eq leftLengths rightLengths roots safe)

/-- The members of a census in use have 32 bytes, and its root is the one over their digests. -/
theorem root_over_members {operations : List CensusOperation} {history : CensusHistory}
    {root : CensusRoot} (reached : after operations = .ok history)
    (found : history.set.root = .ok root) :
    (∀ key ∈ history.set.tables.memberKeys, key.length = 32) ∧
      rootOfLeaves (history.set.tables.memberKeys.map leaf) = some root := by
  obtain ⟨same, reachedSame, sound⟩ := after_sound operations
  rw [reached, Except.ok.injEq] at reachedSame
  rw [← reachedSame] at sound
  have shown := sound.shows
  rw [shown.member_keys]
  exact ⟨fun key member => (shown.admissible key member).length_eq, (shown.root_iff root).mp found⟩

/-- The root binds the members and their order: for lists of keys of 32 bytes, and for any two
censuses however they came about, one root means one list, or among the strings hashed for it there
are two different ones with one digest. -/
theorem root_binds_members :
    (∀ left right : List Bytes, (∀ key ∈ left, key.length = 32) →
      (∀ key ∈ right, key.length = 32) →
      rootOfLeaves (left.map leaf) = rootOfLeaves (right.map leaf) →
      left = right ∨ Collide (hashedFor left ++ hashedFor right)) ∧
    (∀ (operations others : List CensusOperation) (history other : CensusHistory)
      (root : CensusRoot), after operations = .ok history → after others = .ok other →
      history.set.root = .ok root → other.set.root = .ok root →
      history.set.tables.memberKeys = other.set.tables.memberKeys ∨
        Collide (hashedFor history.set.tables.memberKeys ++
          hashedFor other.set.tables.memberKeys)) := by
  constructor
  · intro left right leftLengths rightLengths same
    exact eq_or_collide_of_root_eq leftLengths rightLengths same
  · intro operations others history other root reached otherReached found otherFound
    have first := root_over_members reached found
    have second := root_over_members otherReached otherFound
    exact eq_or_collide_of_root_eq first.1 second.1 (first.2.trans second.2.symm)

def uniformKey (byte : UInt8) : PublicKey := ⟨List.replicate 32 byte⟩

def admittedAtOnce : List CensusOperation := [.addKeys [uniformKey 1, uniformKey 2]]

def admittedOneByOne : List CensusOperation :=
  [.addKeys [uniformKey 1], .reopen, .addKeys [uniformKey 2], .close]

def uniformKeys : List Bytes := [(uniformKey 1).bytes, (uniformKey 2).bytes]

theorem shows_of_admitted {operations : List CensusOperation} {keys : List Bytes}
    (admitted : (after operations).map (fun history => history.admitted.flatten) = .ok keys) :
    ∃ history, after operations = .ok history ∧ history.set.Shows keys := by
  obtain ⟨history, reached, sound⟩ := after_sound operations
  rw [reached] at admitted
  rw [← Except.ok.inj admitted]
  exact ⟨history, reached, sound.shows⟩

theorem root_binds_two_members :
    (uniformKeys = uniformKeys ∨ Collide (hashedFor uniformKeys ++ hashedFor uniformKeys)) ∧
    ∃ history other root, after admittedAtOnce = .ok history ∧
      after admittedOneByOne = .ok other ∧
      history.set.root = .ok root ∧ other.set.root = .ok root ∧
      (history.set.tables.memberKeys = other.set.tables.memberKeys ∨
        Collide (hashedFor history.set.tables.memberKeys ++
          hashedFor other.set.tables.memberKeys)) := by
  constructor
  · exact root_binds_members.1 uniformKeys uniformKeys (by decide) (by decide) rfl
  · have atOnce : ∃ history, after admittedAtOnce = .ok history ∧ history.set.Shows uniformKeys :=
      shows_of_admitted rfl
    have oneByOne : ∃ other, after admittedOneByOne = .ok other ∧ other.set.Shows uniformKeys :=
      shows_of_admitted rfl
    obtain ⟨history, reached, shown⟩ := atOnce
    obtain ⟨other, otherReached, otherShown⟩ := oneByOne
    have some_root : rootOfLeaves (uniformKeys.map leaf) ≠ none := by
      rw [ne_eq, root_of_leaves_eq_none_iff]
      decide
    obtain ⟨root, isRoot⟩ := Option.ne_none_iff_exists'.mp some_root
    have found := (shown.root_iff root).mpr isRoot
    have otherFound := (otherShown.root_iff root).mpr isRoot
    exact ⟨history, other, root, reached, otherReached, found, otherFound,
      root_binds_members.2 _ _ history other root reached otherReached found otherFound⟩

end CensusNode.CensusHistory
