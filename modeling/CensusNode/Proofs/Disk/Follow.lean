import CensusNode.Proofs.Disk.Walk

/-!
Where paths lead by their names alone. A path that can be walked leads where its names say, whatever
lies on the disk, so that it leads to one place on all disks on which it can be walked.
-/

namespace CensusNode.Disk

variable {disk : Disk} {location target : Location} {segments : List String}

/-- Where names lead from a location when nothing is in the way. -/
def follow (location : Location) (segments : List String) : Location := segments.foldl step location

theorem follow_cons (location : Location) (segment : String) (rest : List String) :
    follow location (segment :: rest) = follow (step location segment) rest := rfl

theorem follow_append (location : Location) (first second : List String) :
    follow location (first ++ second) = follow (follow location first) second :=
  List.foldl_append

theorem follow_of_walk (walked : disk.walk location segments = .ok target) :
    target = follow location segments := by
  induction segments generalizing location with
  | nil => exact (Except.ok.inj walked).symm
  | cons segment rest induction =>
      rw [walk_cons_eq_ok_iff] at walked
      exact induction walked.2

/-- A file is located where the names before the last one lead, under the last one. -/
theorem follow_of_locate {path : String} (located : disk.locate path = .ok location) :
    location = (Path.segments path).getLast?.getD "" ::
      follow (disk.origin path) (Path.segments path).dropLast := by
  rw [locate_eq_ok_iff] at located
  obtain ⟨-, directory, walked, -, -, isLocation⟩ := located
  rw [isLocation, follow_of_walk walked]

end CensusNode.Disk
