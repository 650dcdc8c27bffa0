import CensusNode.Proofs.Ledger.AnyOpening
import CensusNode.Proofs.Text.Decimal
import Mathlib.Data.Fintype.EquivFin

/-!
Where paths lead by their names alone, seen from any working directory. A path that is joined onto a
base leads below the base, whatever the base is and wherever it lies, exactly when it is relative and
its names never step back out of the directory that they start in. Two such paths are apart when they
part at some name, both as they are written and with the steps back taken.
-/

namespace CensusNode

def Location.Below (place base : Location) : Prop := ∃ names, names ≠ [] ∧ place = names ++ base

namespace Path

/-- Where a path leads from a working directory, when nothing is in the way. -/
def lead (start : Location) (path : String) : Location :=
  Disk.follow (if isAbsolute path then [] else start) (segments path)

/-- Whether names that start a number of directories below some directory never step back out of
that directory and end inside of it. -/
def descends (depth : Nat) : List String → Bool
  | [] => 0 < depth
  | name :: rest =>
      if isSelf name then descends depth rest
      else if name = ".." then 0 < depth && descends (depth - 1) rest
      else descends (depth + 1) rest

/-- Whether a path stays inside of whatever directory it is joined onto. -/
structure StaysBelow (path : String) : Prop where
  relative : isAbsolute path = false
  down : descends 0 (segments path) = true

instance (path : String) : Decidable (StaysBelow path) :=
  decidable_of_iff (isAbsolute path = false ∧ descends 0 (segments path) = true)
    ⟨fun both => ⟨both.1, both.2⟩, fun stays => ⟨stays.relative, stays.down⟩⟩

/-- A name leads on in the same way below any directory, unless it steps back out of it. -/
theorem step_append {inner : Location} {name : String} (inside : name = ".." → inner ≠ [])
    (outer : Location) : Disk.step (inner ++ outer) name = Disk.step inner name ++ outer := by
  rw [Disk.step, Disk.step]
  split
  · rfl
  · split
    · rename_i back
      exact List.tail_append_of_ne_nil (inside back)
    · rfl

theorem descends_cons_iff {inner : Location} {name : String} {rest : List String} :
    descends inner.length (name :: rest) = true ↔
      (name = ".." → inner ≠ []) ∧ descends (Disk.step inner name).length rest = true := by
  rw [descends, Disk.step]
  by_cases self : isSelf name = true
  · have forward : name ≠ ".." := by
      rintro rfl
      cases self
    rw [if_pos self, if_pos self]
    exact (and_iff_right fun back => absurd back forward).symm
  · rw [if_neg self, if_neg self]
    by_cases back : name = ".."
    · rw [if_pos back, if_pos back, Bool.and_eq_true, decide_eq_true_eq, List.length_tail,
        List.length_pos_iff]
      exact and_congr_left fun _ => ⟨fun inside _ => inside, fun inside => inside back⟩
    · rw [if_neg back, if_neg back, List.length_cons]
      exact (and_iff_right fun same => absurd same back).symm

theorem follow_of_descends {names : List String} {inner : Location}
    (down : descends inner.length names = true) (outer : Location) :
    Disk.follow (inner ++ outer) names = Disk.follow inner names ++ outer ∧
      Disk.follow inner names ≠ [] := by
  induction names generalizing inner with
  | nil =>
      rw [descends, decide_eq_true_eq] at down
      exact ⟨rfl, List.ne_nil_of_length_pos down⟩
  | cons name rest induction =>
      rw [descends_cons_iff] at down
      rw [Disk.follow_cons, Disk.follow_cons, step_append down.1]
      exact induction down.2

/-- Names that stay below the directory that they start in lead below any directory alike. -/
theorem follow_inside {names : List String} (down : descends 0 names = true) (outer : Location) :
    Disk.follow outer names = Disk.follow [] names ++ outer ∧ Disk.follow [] names ≠ [] := by
  have inside : descends ([] : Location).length names = true := down
  exact follow_of_descends inside outer

theorem mem_step {location : Location} {segment name : String}
    (member : name ∈ Disk.step location segment) : name ∈ location ∨ name = segment := by
  rw [Disk.step] at member
  split at member
  · exact Or.inl member
  · split at member
    · exact Or.inl (List.mem_of_mem_tail member)
    · exact (List.mem_cons.mp member).symm

theorem mem_follow {names : List String} {location : Location} {name : String}
    (member : name ∈ Disk.follow location names) : name ∈ location ∨ name ∈ names := by
  induction names generalizing location with
  | nil => exact Or.inl member
  | cons segment rest induction =>
      rw [List.mem_cons]
      rcases induction member with stepped | later
      · rcases mem_step stepped with before | here
        · exact Or.inl before
        · exact Or.inr (Or.inl here)
      · exact Or.inr (Or.inr later)

/-- Names that step back out of a directory do not find it again under a name that none of them is. -/
theorem descends_of_follow {names : List String} {inner : Location} {mark : String}
    (fresh : mark ∉ names)
    (below : Location.Below (Disk.follow (inner ++ [mark]) names) [mark]) :
    descends inner.length names = true := by
  induction names generalizing inner with
  | nil =>
      obtain ⟨between, some_between, same⟩ := below
      rw [List.append_cancel_right same, descends, decide_eq_true_eq]
      exact List.length_pos_of_ne_nil some_between
  | cons name rest induction =>
      have later : mark ∉ rest := fun member => fresh (List.mem_cons_of_mem _ member)
      rw [Disk.follow_cons] at below
      have inside : name = ".." → inner ≠ [] := by
        rintro rfl rfl
        obtain ⟨between, -, same⟩ := below
        have found : mark ∈ Disk.follow [] rest := by
          change mark ∈ Disk.follow (Disk.step ([] ++ [mark]) "..") rest
          rw [same]
          exact List.mem_append_right _ (List.mem_singleton_self mark)
        rcases mem_follow found with before | named
        · cases before
        · exact later named
      rw [step_append inside] at below
      exact descends_cons_iff.mpr ⟨inside, induction later below⟩

theorem follow_solid (location : Location) (names : List String) :
    Disk.follow location (solid names) = Disk.follow location names := by
  induction names generalizing location with
  | nil => rfl
  | cons name rest induction =>
      rw [Disk.follow_cons, Disk.step, solid, List.filter_cons, ← solid]
      by_cases self : isSelf name = true
      · rw [if_neg (by simp [self]), if_pos self, induction]
      · rw [if_pos (by simp [self]), if_neg self, Disk.follow_cons, Disk.step, if_neg self, induction]

theorem solid_stem (base : String) : solid (stem base) = solid (segments base) := by
  rw [stem]
  split
  · rename_i isEmpty
    rw [isEmpty]
    decide
  · split
    · rename_i slashed
      obtain ⟨front, chars⟩ := List.getLast?_eq_some_iff.mp slashed
      rw [segments, chars, pieces_append_slash, List.map_append, pieces, List.map_singleton,
        List.dropLast_concat, solid_append]
      exact (List.append_nil _).symm
    · rfl

structure Under (base : String) (names : List String) (path : String) : Prop where
  absolute : isAbsolute path = isAbsolute base
  written : solid (segments path) = solid (segments base) ++ solid names

theorem under_self (base : String) : Under base [] base := ⟨rfl, (List.append_nil _).symm⟩

section

variable {base path other : String} {names others : List String}

theorem Under.join_relative (under : Under base names path) (relative : isAbsolute other = false) :
    Under base (names ++ segments other) (join path other) where
  absolute := (is_absolute_join_relative path relative).trans under.absolute
  written := by
    rw [segments_join_relative path relative, solid_append, solid_stem, under.written, solid_append,
      List.append_assoc]

theorem Under.join_plain (under : Under base names path) (plain : IsPlain other) :
    Under base (names ++ [other]) (join path other) := by
  have joined := under.join_relative (not_absolute_of_plain plain)
  rwa [segments_of_plain plain] at joined

theorem Under.lead_follow (under : Under base names path) (start : Location) :
    lead start path = Disk.follow (lead start base) names := by
  rw [Path.lead, under.absolute, ← follow_solid, under.written, Disk.follow_append, follow_solid,
    follow_solid, lead]

theorem Under.lead_eq (under : Under base names path) (down : descends 0 names = true)
    (start : Location) :
    lead start path = Disk.follow [] names ++ lead start base := by
  rw [under.lead_follow]
  exact (follow_inside down (lead start base)).1

theorem Under.below (under : Under base names path) (down : descends 0 names = true)
    (start : Location) : (lead start path).Below (lead start base) :=
  ⟨_, (follow_inside down []).2, under.lead_eq down start⟩

end

/-- A path that is joined onto a base leads inside of every base exactly when it stays there. -/
theorem stays_below_iff (path : String) :
    (∀ base start, (lead start (join base path)).Below (lead start base)) ↔ StaysBelow path := by
  constructor
  · intro inside
    obtain ⟨mark, fresh⟩ := Infinite.exists_notMem_finset (segments path).toFinset
    rw [List.mem_toFinset] at fresh
    have below := inside "." [mark]
    have here : lead [mark] "." = [mark] := rfl
    rw [here] at below
    cases absolute : isAbsolute path with
    | true =>
        -- An absolute path does not come by the base, whose name it has not got.
        obtain ⟨between, -, same⟩ := below
        have alone : join "." path = path := by rw [join, absolute, Bool.true_or, if_pos rfl]
        rw [alone, lead, absolute, if_pos rfl] at same
        have found : mark ∈ Disk.follow [] (segments path) := by
          rw [same]
          exact List.mem_append_right _ (List.mem_singleton_self mark)
        rcases mem_follow found with before | named
        · cases before
        · exact absurd named fresh
    | false =>
        rw [((under_self ".").join_relative absolute).lead_follow, here] at below
        have down : descends ([] : Location).length (segments path) = true :=
          descends_of_follow fresh below
        exact ⟨absolute, down⟩
  · intro stays base start
    exact ((under_self base).join_relative stays.relative).below stays.down start

/-- Neither list of names goes on from the other one. -/
def Diverge (first second : List String) : Prop := ¬first <+: second ∧ ¬second <+: first

instance (first second : List String) : Decidable (Diverge first second) :=
  inferInstanceAs (Decidable (_ ∧ _))

def IsPartOf (first second : String) : Prop :=
  isAbsolute first = isAbsolute second ∧ solid (segments first) <+: solid (segments second)

/-- Neither of two paths is the other or a directory on the way to it, neither by its names as they
are written nor by the place that it leads to, whatever the working directory. -/
structure Apart (first second : String) : Prop where
  written : ¬IsPartOf first second ∧ ¬IsPartOf second first
  resolved : ∀ start, ¬lead start first <:+ lead start second ∧ ¬lead start second <:+ lead start first

/-- The names that are left when steps back are taken, the outermost first. -/
def resolved (names : List String) : List String := (Disk.follow [] names).reverse

section

variable {base path other : String} {names others : List String}

theorem Under.part_of_iff (under : Under base names path) (beside : Under base others other) :
    IsPartOf path other ↔ solid names <+: solid others := by
  rw [IsPartOf, under.absolute, beside.absolute, under.written, beside.written,
    List.prefix_append_right_inj]
  exact and_iff_right rfl

theorem Under.lead_suffix_iff (under : Under base names path) (beside : Under base others other)
    (down : descends 0 names = true) (otherDown : descends 0 others = true) (start : Location) :
    lead start path <:+ lead start other ↔ resolved names <+: resolved others := by
  rw [under.lead_eq down, beside.lead_eq otherDown, ← List.reverse_prefix, List.reverse_append,
    List.reverse_append, List.prefix_append_right_inj, resolved, resolved]

theorem Under.apart_iff (under : Under base names path) (beside : Under base others other)
    (down : descends 0 names = true) (otherDown : descends 0 others = true) :
    Apart path other ↔
      Diverge (solid names) (solid others) ∧ Diverge (resolved names) (resolved others) := by
  have oneWay := under.lead_suffix_iff beside down otherDown
  have back := beside.lead_suffix_iff under otherDown down
  constructor
  · intro apart
    rw [Diverge, ← under.part_of_iff beside, ← beside.part_of_iff under, Diverge, ← oneWay [],
      ← back []]
    exact ⟨apart.written, apart.resolved []⟩
  · rintro ⟨written, taken⟩
    constructor
    · rwa [under.part_of_iff beside, beside.part_of_iff under]
    · intro start
      rwa [oneWay start, back start]

end

end Path

variable {disk : Disk} {path : String} {location : Location}

theorem Disk.lead_of_locate (located : disk.locate path = .ok location) :
    location = Path.lead disk.workingDirectory path := by
  have found := Disk.follow_of_locate located
  rw [Disk.locate_eq_ok_iff] at located
  obtain ⟨-, -, -, plain, -, -⟩ := located
  have last := List.getLast?_eq_some_getLast (Path.segments_ne_nil path)
  rw [last, Option.getD_some, not_or] at plain
  rw [found, last, Option.getD_some, Path.lead, ← Disk.origin]
  nth_rewrite 3 [← List.dropLast_concat_getLast (Path.segments_ne_nil path)]
  rw [Disk.follow_append, Disk.follow_cons, Disk.step, if_neg plain.1, if_neg plain.2]
  rfl

def Disk.Finds (disk : Disk) (path : String) (location : Location) : Prop :=
  disk.locate path = .ok location ∨ Ledger.locate disk path = some location

theorem Disk.Finds.eq_lead (finds : disk.Finds path location) :
    location = Path.lead disk.workingDirectory path := by
  rcases finds with file | ledger
  · exact lead_of_locate file
  · exact Ledger.ledger_place_of_locate ledger

end CensusNode
