import CensusNode.Proofs.CommandLine.Pieces

/-!
What the pieces of a command line amount to. The subcommands lead to a leaf, and each level has
the arguments that its pieces give, whichever order they stand in. Whether that is a command is
decided by the arguments of each level: a command line is read if and only if no argument is given
twice at a level, every value is one that its argument takes, the variables of the options that a
level does not give are such values too, and the leaf has what it needs.
-/

namespace CensusNode.CommandLine

/-- What the pieces of a command line amount to from a level on: the leaf that the subcommands
lead to, the arguments of the level, and those of the levels inside of it. -/
structure Draft where
  leaf : Leaf
  given : Given
  inner : List Given

namespace Draft

def levels (draft : Draft) : List Given := draft.given :: draft.inner

def innermost (draft : Draft) : Given := draft.inner.getLastD draft.given

def push (entry : Argument × List String) (draft : Draft) : Draft :=
  { draft with given := entry :: draft.given }

def prepend (given : Given) (draft : Draft) : Draft := { draft with given := given ++ draft.given }

def around (draft : Draft) : Draft := ⟨draft.leaf, [], draft.levels⟩

end Draft

/-- What a line amounts to at a level with positional arguments still to come. Each key is an
argument of its own. -/
def draft (level : Level) (slots : List Argument) : List Piece → Option Draft
  | [] =>
      match level with
      | .leaf leaf => some ⟨leaf, [], []⟩
      | _ => none
  | .subcommand _ inner :: rest => (draft inner inner.positionals rest).map .around
  | .option argument _ value _ :: rest => (draft level slots rest).map (.push (argument, [value]))
  | .flag argument _ :: rest => (draft level slots rest).map (.push (argument, []))
  | .word text :: rest =>
      match slots with
      | [] => none
      | slot :: others =>
          (draft level (if slot = .keys then slots else others) rest).map (.push (slot, [text]))
  | .escape :: rest => draft level slots rest
  | .refused _ :: _ => none

variable {level : Level} {slots : List Argument} {line : List Piece} {given left right : Given}
  {argument : Argument} {values : List String} {environment : Environment} {command : Command}
  {drafts : List Given}

/-- A piece gives an entry where some positional arguments are still to come, and leaves others to
come. -/
inductive Piece.Gives : Piece → List Argument → Argument × List String → List Argument → Prop where
  | option (argument : Argument) (name value : String) (attached : Bool) (slots : List Argument) :
      Gives (.option argument name value attached) slots (argument, [value]) slots
  | flag (argument : Argument) (name : String) (slots : List Argument) :
      Gives (.flag argument name) slots (argument, []) slots
  | word (text : String) (slot : Argument) (others : List Argument) :
      Gives (.word text) (slot :: others) (slot, [text])
        (if slot = .keys then slot :: others else others)

def single (entry : Argument × List String) : Given :=
  if entry.1 = .keys then entry.2.map fun text => (.keys, [text]) else [entry]

def flat (given : Given) : Given := given.flatMap single

def Full (given : Given) : Prop := ∀ values, (.keys, values) ∈ given → values ≠ []

/-- What is given at a level can be taken: every argument has values that it takes, and none but
keys is given twice. -/
structure Valid (given : Given) : Prop where
  checked : ∀ entry ∈ given, entry.1.checkAll entry.2 = .ok ()
  valued : ∀ entry ∈ given, entry.2 = [] → entry.1.isFlag = true
  distinct : ((given.map Prod.fst).filter (· ≠ .keys)).Nodup

theorem valid_append_iff : Valid (left ++ right) ↔ Valid left ∧ Valid right ∧
    ∀ argument ≠ .keys, argument ∈ left.map Prod.fst → argument ∉ right.map Prod.fst := by
  constructor
  · intro valid
    have distinct := valid.distinct
    rw [List.map_append, List.filter_append, List.nodup_append] at distinct
    obtain ⟨leftDistinct, rightDistinct, apart⟩ := distinct
    refine ⟨⟨?_, ?_, leftDistinct⟩, ⟨?_, ?_, rightDistinct⟩, ?_⟩
    · exact fun entry member => valid.checked entry (List.mem_append_left _ member)
    · exact fun entry member => valid.valued entry (List.mem_append_left _ member)
    · exact fun entry member => valid.checked entry (List.mem_append_right _ member)
    · exact fun entry member => valid.valued entry (List.mem_append_right _ member)
    · intro argument noKeys inLeft inRight
      have kept : decide (argument ≠ .keys) = true := decide_eq_true noKeys
      exact apart argument (List.mem_filter.mpr ⟨inLeft, kept⟩) argument
        (List.mem_filter.mpr ⟨inRight, kept⟩) rfl
  · rintro ⟨leftValid, rightValid, apart⟩
    constructor
    · intro entry member
      rcases List.mem_append.mp member with inLeft | inRight
      · exact leftValid.checked entry inLeft
      · exact rightValid.checked entry inRight
    · intro entry member
      rcases List.mem_append.mp member with inLeft | inRight
      · exact leftValid.valued entry inLeft
      · exact rightValid.valued entry inRight
    · rw [List.map_append, List.filter_append, List.nodup_append]
      refine ⟨leftValid.distinct, rightValid.distinct, ?_⟩
      intro first isLeft second isRight same
      rw [List.mem_filter] at isLeft isRight
      rw [← same] at isRight
      exact apart first (of_decide_eq_true isLeft.2) isLeft.1 isRight.1

theorem Valid.front (valid : Valid (left ++ right)) : Valid left := (valid_append_iff.mp valid).1

theorem valid_singleton_iff : Valid [(argument, values)] ↔
    argument.checkAll values = .ok () ∧ (values = [] → argument.isFlag = true) := by
  constructor
  · intro valid
    exact ⟨valid.checked _ List.mem_cons_self, valid.valued _ List.mem_cons_self⟩
  · rintro ⟨checked, valued⟩
    constructor
    · intro entry member
      rw [List.mem_singleton.mp member]
      exact checked
    · intro entry member
      rw [List.mem_singleton.mp member]
      exact valued
    · exact List.Pairwise.filter _ (List.pairwise_singleton _ argument)

theorem check_all_keys (values : List String) : Argument.keys.checkAll values = .ok () := by
  induction values with
  | nil => rfl
  | cons value rest induction => exact induction

theorem valid_keys (values : List String) :
    Valid (values.map fun text => (Argument.keys, [text])) where
  checked entry member := by
    obtain ⟨text, -, isEntry⟩ := List.mem_map.mp member
    rw [← isEntry]
    rfl
  valued entry member empty := by
    obtain ⟨text, -, isEntry⟩ := List.mem_map.mp member
    rw [← isEntry] at empty
    cases empty
  distinct := by
    have none : ((values.map fun text => (Argument.keys, [text])).map Prod.fst).filter
        (fun argument => decide (argument ≠ .keys)) = [] := by
      rw [List.filter_eq_nil_iff]
      intro argument member
      rw [List.map_map] at member
      obtain ⟨text, -, isKeys⟩ := List.mem_map.mp member
      have same : Argument.keys = argument := isKeys
      rw [← same]
      decide
    rw [none]
    exact List.nodup_nil

theorem flat_append : flat (left ++ right) = flat left ++ flat right := List.flatMap_append

theorem flat_cons (entry : Argument × List String) (given : Given) :
    flat (entry :: given) = single entry ++ flat given := List.flatMap_cons

theorem flat_singleton (entry : Argument × List String) : flat [entry] = single entry :=
  List.flatMap_singleton _ _

theorem single_of_ne (noKeys : argument ≠ .keys) :
    single (argument, values) = [(argument, values)] := if_neg noKeys

theorem single_keys (values : List String) :
    single (.keys, values) = values.map fun text => (.keys, [text]) := if_pos rfl

theorem lookup_is_some_iff : (given.lookup argument).isSome = true ↔
    argument ∈ given.map Prod.fst := by
  rw [List.lookup_isSome_iff, List.mem_map]
  constructor
  · rintro ⟨entry, member, same⟩
    exact ⟨entry, member, (eq_of_beq same).symm⟩
  · rintro ⟨entry, member, same⟩
    exact ⟨entry, member, by rw [same, beq_self_eq_true]⟩

theorem mem_flat_iff (noKeys : argument ≠ .keys) :
    argument ∈ (flat given).map Prod.fst ↔ argument ∈ given.map Prod.fst := by
  induction given with
  | nil => exact Iff.rfl
  | cons entry rest induction =>
      rw [flat_cons, List.map_append, List.mem_append, induction, List.map_cons, List.mem_cons]
      obtain ⟨other, values⟩ := entry
      by_cases isKeys : other = .keys
      · rw [isKeys, single_keys]
        simp [noKeys, Ne.symm noKeys]
      · rw [single_of_ne isKeys, List.map_singleton, List.mem_singleton]

/-- Two levels give the same to a leaf: the same to each argument that is not an option of every
level, the same first key and the same keys. -/
structure Alike (left right : Given) : Prop where
  lookup : ∀ argument, ¬argument.IsShared → argument ≠ .keys →
    left.lookup argument = right.lookup argument
  first : value? left .keys = value? right .keys
  keys : keysOf left = keysOf right

theorem Alike.value (alike : Alike left right) (argument : Argument) (own : ¬argument.IsShared) :
    value? left argument = value? right argument := by
  by_cases isKeys : argument = .keys
  · rw [isKeys]
    exact alike.first
  · rw [value?, value?, alike.lookup argument own isKeys]

theorem Alike.required (alike : Alike left right) (argument : Argument) (own : ¬argument.IsShared) :
    required left argument = required right argument := by
  rw [CommandLine.required, alike.value argument own, CommandLine.required]

theorem lookup_cons_of_ne {entry : Argument × List String} (differs : entry.1 ≠ argument) :
    List.lookup argument (entry :: given) = given.lookup argument := by
  obtain ⟨other, values⟩ := entry
  have unequal : (argument == other) = false := beq_false_of_ne (Ne.symm differs)
  rw [List.lookup_cons, unequal]

theorem Full.tail {entry : Argument × List String} (full : Full (entry :: given)) : Full given :=
  fun values member => full values (List.mem_cons_of_mem _ member)

theorem Full.flat (given : Given) : Full (flat given) := by
  intro values member
  obtain ⟨⟨other, texts⟩, -, isSingle⟩ := List.mem_flatMap.mp member
  by_cases isKeys : other = .keys
  · rw [isKeys, single_keys] at isSingle
    obtain ⟨text, -, same⟩ := List.mem_map.mp isSingle
    rw [← (Prod.mk.inj same).2]
    exact List.cons_ne_nil _ _
  · rw [single_of_ne isKeys, List.mem_singleton] at isSingle
    exact absurd (Prod.mk.inj isSingle).1.symm isKeys

/-- The variables of the options that a level does not give have values that these options take. -/
def EnvironmentFits (environment : Environment) (given : Given) : Prop :=
  ∀ entry ∈ globalOptions, ∀ value, environment.lookup entry.2.1 = some value →
    (given.lookup entry.2.2).isSome = true ∨ entry.2.2.check value = .ok ()

theorem Argument.IsShared.ne_keys (shared : argument.IsShared) : argument ≠ .keys := by
  intro isKeys
  rw [isKeys] at shared
  exact (by decide : ¬Argument.keys.IsShared) shared

/-- The draft is a command: each level is valid and has variables that fit, and the leaf has what it
needs. -/
structure Accepts (environment : Environment) (draft : Draft) (command : Command) : Prop where
  valid : ∀ given ∈ draft.levels, Valid given
  environment : ∀ given ∈ draft.levels, EnvironmentFits environment given
  command : draft.leaf.command draft.innermost = .ok command

def Promises (environment : Environment) (given : Given) (rest : Option Draft) (command : Command)
    (levels : List Given) : Prop :=
  ∃ draft, rest = some draft ∧ Accepts environment (draft.prepend given) command ∧
    (draft.prepend given).levels = levels

theorem Promises.valid {rest : Option Draft}
    (promises : Promises environment given rest command drafts) : Valid given := by
  obtain ⟨draft, -, accepts, -⟩ := promises
  exact (accepts.valid _ List.mem_cons_self).front

end CensusNode.CommandLine
