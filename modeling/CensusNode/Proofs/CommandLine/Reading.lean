import CensusNode.Proofs.CommandLine.Drafts

/-!
Words are read as a command if and only if their draft is one. Between two pieces a scan has in
mind what the pieces so far have given, the open argument included, and it goes on only while that
is valid. An option that waits for its value takes the next word, and nothing else is read before
it has one.
-/

namespace CensusNode.CommandLine

variable {level : Level} {slots : List Argument} {given : Given} {argument : Argument}
  {values : List String} {environment : Environment} {command : Command} {drafts : List Given}
  {scan : Scan} {word : String} {words : List String}

/-- An argument is committed if it leaves what is given valid. -/
theorem commit_spec (valid : Valid (flat given)) (full : argument = .keys → values ≠ []) :
    (commit given argument values = .ok (given ++ [(argument, values)]) ∧
      Valid (flat (given ++ [(argument, values)]))) ∨
    ((∃ refusal, commit given argument values = .error refusal) ∧
      ¬Valid (flat (given ++ [(argument, values)]))) := by
  rw [flat_append, flat_singleton]
  -- Keys can be given again. Any other argument fails without a value, when it is given already, or
  -- with a value that it does not take, and none of that is valid.
  by_cases isKeys : argument = .keys
  · left
    rw [isKeys, single_keys, valid_append_iff]
    refine ⟨?_, valid, valid_keys values, ?_⟩
    · have some_value := full isKeys
      simp only [commit, check_all_keys]
      simp [some_value]
    · intro other noKeys _ member
      rw [List.map_map] at member
      obtain ⟨text, -, same⟩ := List.mem_map.mp member
      exact noKeys same.symm
  · rw [single_of_ne isKeys, valid_append_iff, valid_singleton_iff]
    rw [commit]
    by_cases unvalued : values = [] ∧ argument.isFlag = false
    · right
      rw [if_pos (by simp [unvalued])]
      refine ⟨⟨_, rfl⟩, fun ⟨_, ⟨_, valued⟩, _⟩ => ?_⟩
      have flag := valued unvalued.1
      rw [unvalued.2] at flag
      cases flag
    · rw [if_neg (by simpa using unvalued)]
      by_cases again : (given.lookup argument).isSome = true
      · right
        rw [if_pos (by simp [isKeys, again])]
        refine ⟨⟨_, rfl⟩, fun ⟨_, _, apart⟩ => ?_⟩
        refine apart argument isKeys ((mem_flat_iff isKeys).mpr (lookup_is_some_iff.mp again)) ?_
        exact List.mem_cons_self
      · rw [if_neg (by simp [isKeys, again])]
        cases checked : argument.checkAll values with
        | error refusal =>
            right
            exact ⟨⟨_, rfl⟩, fun ⟨_, ⟨isChecked, _⟩, _⟩ => by cases isChecked⟩
        | ok _ =>
            left
            refine ⟨rfl, valid, ⟨rfl, ?_⟩, ?_⟩
            · intro empty
              by_contra noFlag
              rw [Bool.not_eq_true] at noFlag
              exact unvalued ⟨empty, noFlag⟩
            · intro other noKeys inGiven isArgument
              rw [List.map_singleton, List.mem_singleton] at isArgument
              rw [isArgument, mem_flat_iff isKeys, ← lookup_is_some_iff] at inGiven
              exact again inGiven

/-- Everything given at a level so far, the open argument included. -/
def Scan.entries (scan : Scan) : Given := scan.given ++ scan.pending.toList

structure Scan.Between (scan : Scan) : Prop where
  idle : scan.awaiting = false
  full : Full scan.entries
  valid : Valid (flat scan.given)

theorem Scan.Between.settled (between : scan.Between) :
    (scan.settled = .ok scan.entries ∧ Valid (flat scan.entries)) ∨
      ((∃ refusal, scan.settled = .error refusal) ∧ ¬Valid (flat scan.entries)) := by
  have full := between.full
  rw [Scan.settled]
  rw [Scan.entries] at full ⊢
  cases pending : scan.pending with
  | none =>
      left
      rw [Option.toList_none, List.append_nil]
      exact ⟨rfl, between.valid⟩
  | some entry =>
      obtain ⟨argument, values⟩ := entry
      rw [pending] at full
      have some_key : argument = .keys → values ≠ [] := by
        intro isKeys
        apply full values
        rw [← isKeys]
        exact List.mem_append_right _ List.mem_cons_self
      exact commit_spec between.valid some_key

/-- What becomes of a scan that reads an argument: it goes on with it, or nothing that is given
with it is valid. -/
inductive Takes (scan : Scan) (slots : List Argument) (entry : Argument × List String) :
    Except Refusal Scan → Prop where
  | takes (later : Scan) (between : later.Between) (trailing : later.trailing = scan.trailing)
      (isSlots : later.slots = slots)
      (entries : flat later.entries = flat scan.entries ++ [entry]) :
      Takes scan slots entry (.ok later)
  | refuses (refusal : Refusal) (invalid : ¬Valid (flat scan.entries ++ [entry])) :
      Takes scan slots entry (.error refusal)

theorem Scan.Between.complete (between : scan.Between) (noKeys : argument ≠ .keys) :
    Takes scan scan.slots (argument, values) (scan.complete argument values) := by
  rw [Scan.complete]
  rcases between.settled with ⟨settled, valid⟩ | ⟨⟨refusal, unsettled⟩, invalid⟩
  · rw [settled]
    have full : argument = .keys → values ≠ [] := fun isKeys => absurd isKeys noKeys
    have same : flat (scan.entries ++ [(argument, values)]) =
        flat scan.entries ++ [(argument, values)] := by
      rw [flat_append, flat_singleton, single_of_ne noKeys]
    rcases commit_spec valid full with ⟨committed, isValid⟩ | ⟨⟨refusal, uncommitted⟩, invalid⟩
    · simp only [bind, Except.bind, committed]
      refine .takes _ ⟨rfl, ?_, ?_⟩ rfl rfl ?_
      · intro keys member
        rw [Scan.entries, Option.toList_none, List.append_nil] at member
        rcases List.mem_append.mp member with before | isNew
        · exact between.full keys before
        · rw [List.mem_singleton, Prod.mk.injEq] at isNew
          exact absurd isNew.1.symm noKeys
      · exact isValid
      · rw [Scan.entries, Option.toList_none, List.append_nil, same]
    · simp only [bind, Except.bind, uncommitted]
      rw [same] at invalid
      exact .refuses refusal invalid
  · simp only [bind, Except.bind, unsettled]
    exact .refuses refusal fun valid => invalid valid.front

def Scan.opened (scan : Scan) (argument : Argument) (value : String) : Scan :=
  { scan with given := scan.entries, pending := some (argument, [value]), awaiting := false }

theorem single_value (argument : Argument) (value : String) :
    single (argument, [value]) = [(argument, [value])] := by
  by_cases isKeys : argument = .keys
  · rw [isKeys, single_keys, List.map_singleton]
  · rw [single_of_ne isKeys]

theorem Scan.flat_opened (scan : Scan) (argument : Argument) (value : String) :
    flat (scan.opened argument value).entries = flat scan.entries ++ [(argument, [value])] := by
  have isEntries : (scan.opened argument value).entries = scan.entries ++ [(argument, [value])] :=
    rfl
  rw [isEntries, flat_append, flat_singleton, single_value]

theorem Scan.Between.opened (between : scan.Between) (valid : Valid (flat scan.entries))
    (argument : Argument) (value : String) : (scan.opened argument value).Between where
  idle := rfl
  full keys member := by
    rcases List.mem_append.mp member with before | isNew
    · exact between.full keys before
    · have same : (Argument.keys, keys) = (argument, [value]) := List.mem_singleton.mp isNew
      rw [(Prod.mk.inj same).2]
      exact List.cons_ne_nil _ _
  valid := valid

theorem Scan.Between.begin (between : scan.Between) (argument : Argument) (value : String) :
    Takes scan scan.slots (argument, [value]) (scan.begin argument [value] false) := by
  rw [Scan.begin]
  rcases between.settled with ⟨settled, valid⟩ | ⟨⟨refusal, unsettled⟩, invalid⟩
  · simp only [bind, Except.bind, settled]
    exact .takes (scan.opened argument value) (between.opened valid argument value) rfl rfl
      (scan.flat_opened argument value)
  · simp only [bind, Except.bind, unsettled]
    exact .refuses refusal fun valid => invalid valid.front

theorem Scan.Between.key (between : scan.Between) {keys : List String}
    (pending : scan.pending = some (.keys, keys)) :
    Takes scan scan.slots (.keys, [word])
      (.ok { scan with pending := some (.keys, keys ++ [word]) }) := by
  have full := between.full
  refine .takes _ ⟨between.idle, ?_, between.valid⟩ rfl rfl ?_
  · intro values member
    rcases List.mem_append.mp member with before | isNew
    · exact full values (List.mem_append_left _ before)
    · rw [Option.toList_some, List.mem_singleton, Prod.mk.injEq] at isNew
      rw [isNew.2]
      exact List.append_ne_nil_of_right_ne_nil _ (List.cons_ne_nil _ _)
  · simp only [Scan.entries, pending, Option.toList_some, flat_append, flat_singleton, single_keys,
      List.map_append, List.map_singleton, List.append_assoc]

theorem refuse_error (scan : Scan) (refusal : Refusal) :
    ∃ other, scan.refuse refusal = .error other := by
  rw [Scan.refuse]
  split
  · exact ⟨_, rfl⟩
  · exact ⟨_, rfl⟩

theorem request_error (scan : Scan) (refusal : Refusal) :
    ∃ other, scan.request refusal = .error other := by
  rw [Scan.request]
  cases scan.settled with
  | error other => exact ⟨other, rfl⟩
  | ok given => exact ⟨refusal, rfl⟩

def WordKind.reading (level : Level) (scan : Scan) (word : String) : WordKind → Reading
  | .enters inner => .enter inner
  | .escapes => .next { scan with trailing := true }
  | .gives argument _ value => .of (scan.complete argument [value])
  | .switches argument _ => .of (scan.complete argument [])
  | .awaits argument _ => .of (scan.begin argument [] true)
  | .plain => .of (readPositional level scan word)
  | .refused => .help

/-- A word that may be an option: options go on, and it is not taken for a subcommand. -/
structure Scan.Free (scan : Scan) (level : Level) (word : String) : Prop where
  options : scan.trailing = false
  unnamed : (!scan.awaiting && isSubcommandName level word) = false

theorem Scan.Free.mark (free : scan.Free level "--") :
    readWordAt level scan "--" = .next { scan with trailing := true } := by
  rw [readWordAt, free.options, free.unnamed, if_neg Bool.false_ne_true,
    if_neg Bool.false_ne_true, if_pos rfl]

theorem Scan.Free.long (free : scan.Free level word) {chars : List Char}
    (written : word.toList = '-' :: '-' :: chars) (noMark : word ≠ "--") :
    readWordAt level scan word = .of (readLong level scan chars) := by
  rw [readWordAt, free.options, free.unnamed, if_neg Bool.false_ne_true,
    if_neg Bool.false_ne_true, if_neg noMark, written]
  rfl

theorem Scan.Free.short (free : scan.Free level word) {char : Char} {chars : List Char}
    (written : word.toList = '-' :: char :: chars) (other : char ≠ '-') :
    readWordAt level scan word = .of (readShort level scan (char :: chars)) := by
  have noMark : word ≠ "--" := by
    intro isMark
    rw [isMark] at written
    exact other (List.cons.inj (List.cons.inj written).2).1.symm
  rw [readWordAt, free.options, free.unnamed, if_neg Bool.false_ne_true,
    if_neg Bool.false_ne_true, if_neg noMark, written]
  split
  · rename_i isLong
    exact absurd (List.cons.inj (List.cons.inj isLong).2).1 other
  · rename_i isShort
    rw [(List.cons.inj isShort).2]
  · rename_i notShort
    exact absurd rfl (notShort char chars)

theorem Scan.Free.bare (free : scan.Free level word) (bare : isDashed word = false) :
    readWordAt level scan word =
      if scan.awaiting then
        .next { scan with
          pending := scan.pending.map fun pending => (pending.1, pending.2 ++ [word])
          awaiting := false }
      else .of (readPositional level scan word) := by
  have noMark : word ≠ "--" := by
    intro isMark
    rw [isMark] at bare
    cases bare
  rw [readWordAt, free.options, free.unnamed, if_neg Bool.false_ne_true,
    if_neg Bool.false_ne_true, if_neg noMark]
  rw [isDashed] at bare
  split
  · rename_i chars written
    rw [written] at bare
    cases bare
  · rename_i char chars _ written
    rw [written] at bare
    cases bare
  · rfl

structure Scan.Waits (scan : Scan) : Prop where
  awaiting : scan.awaiting = true
  unvalued : ∃ argument, scan.pending = some (argument, []) ∧ argument.isFlag = false ∧
    argument ≠ .keys

theorem Scan.Waits.settled (waits : scan.Waits) : ∃ refusal, scan.settled = .error refusal := by
  obtain ⟨argument, pending, valued, -⟩ := waits.unvalued
  rw [Scan.settled, pending]
  simp only [commit, valued]
  exact ⟨_, rfl⟩

theorem Scan.Waits.begin (waits : scan.Waits) (argument : Argument) (values : List String)
    (awaiting : Bool) : ∃ refusal, scan.begin argument values awaiting = .error refusal := by
  obtain ⟨refusal, unsettled⟩ := waits.settled
  rw [Scan.begin, unsettled]
  exact ⟨refusal, rfl⟩

theorem Scan.Waits.complete (waits : scan.Waits) (argument : Argument) (values : List String) :
    ∃ refusal, scan.complete argument values = .error refusal := by
  obtain ⟨refusal, unsettled⟩ := waits.settled
  rw [Scan.complete, unsettled]
  exact ⟨refusal, rfl⟩

theorem Scan.Waits.long (waits : scan.Waits) (level : Level) (chars : List Char) :
    ∃ refusal, readLong level scan chars = .error refusal := by
  rw [readLong]
  obtain ⟨name, attached⟩ := splitLong chars
  simp only
  split
  · cases attached with
    | some value => exact refuse_error scan _
    | none => exact request_error scan _
  · split
    · exact refuse_error scan _
    · cases attached with
      | some value =>
          simp only
          split
          · exact refuse_error scan _
          · exact waits.complete _ _
      | none =>
          simp only
          split
          · exact waits.complete _ _
          · exact waits.begin _ _ _

theorem Scan.Waits.free (waits : scan.Waits) (options : scan.trailing = false) (level : Level)
    (word : String) : scan.Free level word where
  options := options
  unnamed := by rw [waits.awaiting, Bool.not_true, Bool.false_and]

/-- Keys are given by words of their own only. -/
theorem Named.ne_keys {name : String} (named : Named level argument name) : argument ≠ .keys := by
  have checked : ∀ level : Level,
      ∀ entry ∈ level.ownOptions ++ globalOptions.map fun entry => (entry.1, entry.2.2),
        entry.2 ≠ .keys := Level.of_all (by decide)
  exact checked level _ named.listed

end CensusNode.CommandLine
