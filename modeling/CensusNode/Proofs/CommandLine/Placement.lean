import CensusNode.Proofs.CommandLine.Reading

/-!
Options of every level, wherever they stand. The value of such an option is the last one that the
pieces of a command line give it, whatever the level. An option that is given once can be moved to
any place before the mark that ends options: the command line is read as the same command with the
same options.
-/

namespace CensusNode.CommandLine

variable {level : Level} {trailing : Bool} {slots : List Argument} {line front back : List Piece}
  {found : Draft} {piece : Piece} {argument : Argument} {value : String} {given left right : Given}
  {levels grown : List Given} {entry : Argument × List String} {environment : Environment}
  {command : Command} {words : List String} {invocation : Invocation}

def Piece.value? (argument : Argument) : Piece → Option String
  | .option other _ value _ => if other = argument then some value else none
  | _ => none

def entriesOf (argument : Argument) (given : Given) : Given :=
  given.filter fun entry => entry.1 = argument

theorem Piece.Gives.next {others : List Argument} (gives : piece.Gives slots entry others)
    (level : Level) : piece.next level = level := by
  cases gives <;> rfl

theorem Piece.Gives.own {others : List Argument} (gives : piece.Gives slots entry others)
    (own : ∀ slot ∈ slots, ¬slot.IsShared) : ∀ slot ∈ others, ¬slot.IsShared := by
  cases gives with
  | option argument name value attached => exact own
  | flag argument name => exact own
  | word text slot others =>
      intro other member
      split at member
      · exact own other member
      · exact own other (List.mem_cons_of_mem _ member)

def Inserted (entry : Argument × List String) (levels grown : List Given) : Prop :=
  ∃ outer left right deeper, levels = outer ++ (left ++ right) :: deeper ∧
    grown = outer ++ (left ++ entry :: right) :: deeper

structure Draft.Grows (entry : Argument × List String) (draft grown : Draft) : Prop where
  leaf : draft.leaf = grown.leaf
  inserted : Inserted entry draft.levels grown.levels

theorem Draft.Grows.push {draft grown : Draft} (grows : draft.Grows entry grown)
    (other : Argument × List String) : (draft.push other).Grows entry (grown.push other) := by
  obtain ⟨outer, left, right, deeper, isLevels, isGrown⟩ := grows.inserted
  refine ⟨grows.leaf, ?_⟩
  -- The level that the other entry goes to may be the one that has grown.
  cases outer with
  | nil =>
      obtain ⟨isGiven, isInner⟩ := List.cons.inj isLevels
      obtain ⟨isGrownGiven, isGrownInner⟩ := List.cons.inj isGrown
      refine ⟨[], other :: left, right, deeper, ?_, ?_⟩
      · rw [Draft.push, Draft.levels, isGiven, isInner]
        rfl
      · rw [Draft.push, Draft.levels, isGrownGiven, isGrownInner]
        rfl
  | cons first outer =>
      obtain ⟨isGiven, isInner⟩ := List.cons.inj isLevels
      obtain ⟨isGrownGiven, isGrownInner⟩ := List.cons.inj isGrown
      refine ⟨(other :: first) :: outer, left, right, deeper, ?_, ?_⟩
      · rw [Draft.push, Draft.levels, isGiven, isInner]
        rfl
      · rw [Draft.push, Draft.levels, isGrownGiven, isGrownInner]
        rfl

theorem Draft.Grows.around {draft grown : Draft} (grows : draft.Grows entry grown) :
    draft.around.Grows entry grown.around := by
  obtain ⟨outer, left, right, deeper, isLevels, isGrown⟩ := grows.inserted
  refine ⟨grows.leaf, [] :: outer, left, right, deeper, ?_, ?_⟩
  · rw [Draft.around, Draft.levels, isLevels]
    rfl
  · rw [Draft.around, Draft.levels, isGrown]
    rfl

theorem Valid.perm (valid : Valid left) (same : left.Perm right) : Valid right where
  checked entry member := valid.checked entry (same.mem_iff.mpr member)
  valued entry member := valid.valued entry (same.mem_iff.mpr member)
  distinct := ((same.map Prod.fst).filter _).nodup_iff.mp valid.distinct

theorem lookup_insert (differs : entry.1 ≠ argument) :
    (left ++ entry :: right).lookup argument = (left ++ right).lookup argument := by
  rw [List.lookup_append, List.lookup_append, lookup_cons_of_ne differs]

theorem keys_insert (noKeys : entry.1 ≠ .keys) :
    keysOf (left ++ entry :: right) = keysOf (left ++ right) := by
  rw [keysOf, keysOf, List.flatMap_append, List.flatMap_append, List.flatMap_cons, if_neg noKeys,
    List.nil_append]

/-- An option of every level says nothing to a leaf. -/
theorem alike_insert (shared : entry.1.IsShared) :
    Alike (left ++ entry :: right) (left ++ right) where
  lookup argument own _ := lookup_insert fun same => own (same ▸ shared)
  first := by rw [value?, value?, lookup_insert shared.ne_keys]
  keys := keys_insert shared.ne_keys

theorem Alike.refl (given : Given) : Alike given given := ⟨fun _ _ _ => rfl, rfl, rfl⟩

theorem last_level (draft : Draft) : draft.levels.getLast? = some draft.innermost := by
  rw [Draft.levels, List.getLast?_cons, Draft.innermost, List.getLastD_eq_getLast?]

theorem Draft.Grows.alike {draft grown : Draft} (grows : draft.Grows entry grown)
    (shared : entry.1.IsShared) : Alike grown.innermost draft.innermost := by
  obtain ⟨outer, left, right, deeper, isLevels, isGrown⟩ := grows.inserted
  have lastLevel := last_level draft
  have lastGrown := last_level grown
  rw [isLevels, List.getLast?_append, List.getLast?_cons, Option.some_or] at lastLevel
  rw [isGrown, List.getLast?_append, List.getLast?_cons, Option.some_or] at lastGrown
  rw [← Option.some.inj lastLevel, ← Option.some.inj lastGrown]
  cases deeper.getLast? with
  | none => exact alike_insert shared
  | some innermost => exact Alike.refl innermost

theorem EnvironmentFits.more (fits : EnvironmentFits environment left)
    (gives : ∀ argument ∈ left.map Prod.fst, argument ∈ right.map Prod.fst) :
    EnvironmentFits environment right := by
  intro entry member value isValue
  rcases fits entry member value isValue with isGiven | checked
  · exact Or.inl (lookup_is_some_iff.mpr (gives _ (lookup_is_some_iff.mp isGiven)))
  · exact Or.inr checked

/-- A variable fits at one level as at any other that does not give its option either. -/
theorem EnvironmentFits.elsewhere (fits : EnvironmentFits environment (left ++ entry :: right))
    (other : EnvironmentFits environment given) (absent : entry.1 ∉ given.map Prod.fst) :
    EnvironmentFits environment (left ++ right) := by
  intro option member value isValue
  by_cases same : entry.1 = option.2.2
  · right
    rcases other option member value isValue with isGiven | checked
    · rw [same] at absent
      exact absurd (lookup_is_some_iff.mp isGiven) absent
    · exact checked
  · rw [← lookup_insert same]
    exact fits option member value isValue

end CensusNode.CommandLine
