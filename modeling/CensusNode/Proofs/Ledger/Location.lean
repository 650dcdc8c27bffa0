import CensusNode.Ledger.Opening
import CensusNode.Proofs.Disk.Walk

/-!
Where a ledger lies. Once the directories of its path are made, the location that the path leads to
stays the same whatever else comes to lie on the disk. The companions beside it have names of their
own that end as no other file of a node does.
-/

namespace CensusNode.Ledger

variable {disk later : Disk}

theorem resolve_solid (disk : Disk) (location : Location) (segments : List String) :
    resolve disk location (Path.solid segments) = resolve disk location segments := by
  induction segments generalizing location with
  | nil => rfl
  | cons segment rest induction =>
      cases self : Path.isSelf segment with
      | true =>
          have skipped : Path.solid (segment :: rest) = Path.solid rest := by
            simp [Path.solid, self]
          rw [skipped, resolve, if_pos self, induction]
      | false =>
          have kept : Path.solid (segment :: rest) = segment :: Path.solid rest := by
            simp [Path.solid, self]
          rw [kept]
          simp only [resolve, induction]

/-- One name past directories leads to the same place on both disks, as no file is in the way. -/
theorem resolve_single (formed : disk.WellFormed) (laterFormed : later.WellFormed)
    {location : Location} (start : disk.isDirectory location = true)
    (laterStart : later.isDirectory location = true) {last : List String}
    (single : last.length ≤ 1) : resolve later location last = resolve disk location last := by
  match last with
  | [] => rfl
  | [segment] =>
      simp only [resolve, formed.no_file location start, laterFormed.no_file location laterStart]
  | _ :: _ :: _ => simp at single

theorem resolve_extends (formed : disk.WellFormed) (laterFormed : later.WellFormed)
    (extended : disk.Extends later) {location target : Location} {before last : List String}
    (start : disk.isDirectory location = true) (walked : disk.walk location before = .ok target)
    (single : last.length ≤ 1) :
    resolve later location (before ++ last) = resolve disk location (before ++ last) := by
  induction before generalizing location with
  | nil =>
      exact resolve_single formed laterFormed start (extended.directories location start) single
  | cons segment rest induction =>
      rw [Disk.walk_cons_eq_ok_iff] at walked
      have onward := induction (walked.1.is_directory formed start) walked.2
      have laterStart := extended.directories location start
      simp only [List.cons_append, resolve, formed.no_file location start,
        laterFormed.no_file location laterStart]
      rw [Disk.step] at onward
      split
      · rename_i self
        rwa [if_pos self] at onward
      · rename_i notSelf
        rw [if_neg notSelf] at onward
        split
        · rename_i back
          rwa [if_pos back] at onward
        · rename_i forward
          rw [if_neg forward] at onward
          rw [onward]

theorem locate_extends (formed : disk.WellFormed) (laterFormed : later.WellFormed)
    (extended : disk.Extends later) {path : String}
    (prepared : disk.Prepared (Path.namedParent? path)) : locate later path = locate disk path := by
  obtain ⟨before, last, parts, single, parent⟩ := Path.named_parent_spec path
  have walked : ∃ target, disk.walk (disk.origin path) before = .ok target := by
    cases named : Path.namedParent? path with
    | none =>
        rw [named] at parent
        rw [parent]
        exact ⟨_, rfl⟩
    | some directory =>
        rw [named] at parent prepared
        obtain ⟨-, target, walked⟩ := prepared
        have start : disk.origin directory = disk.origin path := by
          rw [Disk.origin, parent.1, Disk.origin]
        refine ⟨target, ?_⟩
        rw [← parent.2, Disk.walk_solid, ← start, walked]
  obtain ⟨target, walked⟩ := walked
  have same := resolve_extends formed laterFormed extended (Disk.origin_is_directory formed path)
    walked single
  rw [← parts, resolve_solid, resolve_solid] at same
  rw [locate, locate, extended.origin, same]

/-- With fewer files in the way a ledger lies where it would with more. -/
theorem resolve_of_more {location target : Location} {segments : List String}
    (fewer : ∀ place, later.fileAt? place = none → disk.fileAt? place = none)
    (resolved : resolve later location segments = some target) :
    resolve disk location segments = some target := by
  induction segments generalizing location with
  | nil => exact resolved
  | cons segment rest induction =>
      rw [resolve] at resolved ⊢
      split at resolved
      · rename_i self
        rw [if_pos self]
        exact induction resolved
      · rename_i notSelf
        rw [if_neg notSelf]
        split at resolved
        · rename_i back
          rw [if_pos back]
          exact induction resolved
        · rename_i forward
          rw [if_neg forward]
          split at resolved
          · cases resolved
          · rename_i short
            rw [if_neg short]
            split at resolved
            · cases resolved
            · rename_i free
              rw [Bool.not_eq_true, Option.isSome_eq_false_iff, Option.isNone_iff_eq_none] at free
              have before := fewer location free
              rw [before, if_neg (by simp)]
              split at resolved
              · cases resolved
              · rename_i fits
                rw [if_neg fits]
                exact induction resolved

theorem locate_of_more (same : later.workingDirectory = disk.workingDirectory)
    (fewer : ∀ place, later.fileAt? place = none → disk.fileAt? place = none) {path : String}
    {location : Location} (located : locate later path = some location) :
    locate disk path = some location := by
  have start : later.origin path = disk.origin path := by rw [Disk.origin, same, Disk.origin]
  rw [locate, start] at located
  cases resolved : resolve later (disk.origin path) (Path.segments path) with
  | none =>
      rw [resolved] at located
      cases located
  | some target =>
      rw [resolved] at located
      rw [locate, resolve_of_more fewer resolved]
      exact located

theorem last_char_beside (location : Location) {suffix : String} {name : String}
    {rest : Location} (same : name :: rest = beside location suffix) (named : suffix ≠ "") :
    name.toList.getLast? = suffix.toList.getLast? := by
  have some_chars : suffix.toList ≠ [] := fun none => named (String.toList_eq_nil_iff.mp none)
  rw [(List.cons.inj same).1, String.toList_append, List.getLast?_append,
    List.getLast?_eq_some_getLast some_chars, Option.some_or]

def companions (location : Location) : List Location :=
  [journalOf location, logOf location, indexOf location]

theorem last_char_of_companion {location rest : Location} {name : String}
    (member : name :: rest ∈ companions location) :
    name.toList.getLast? = some 'l' ∨ name.toList.getLast? = some 'm' := by
  simp only [companions, List.mem_cons, List.not_mem_nil, or_false] at member
  rcases member with journal | log | index
  · exact Or.inl (last_char_beside location journal (by decide))
  · exact Or.inl (last_char_beside location log (by decide))
  · exact Or.inr (last_char_beside location index (by decide))

theorem beside_ne {location : Location} {first second : String} (different : first ≠ second) :
    beside location first ≠ beside location second := by
  intro same
  have names := (List.cons.inj same).1
  exact different (String.append_right_inj _ |>.mp names)

theorem beside_ne_self {location : Location} (nonempty : location ≠ []) {suffix : String}
    (named : suffix ≠ "") : beside location suffix ≠ location := by
  intro same
  obtain ⟨name, rest, split⟩ := List.exists_cons_of_ne_nil nonempty
  rw [split] at same
  have names : name ++ suffix = name := (List.cons.inj same).1
  have sizes := congrArg String.length names
  rw [String.length_append] at sizes
  have short : suffix.length = 0 := by omega
  exact named (String.length_eq_zero_iff.mp short)

end CensusNode.Ledger
