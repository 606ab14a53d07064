import DeviceTestbed.Proofs.Files.Frame
import DeviceTestbed.Proofs.Text.Pieces

/-!
Removing what stands at the end of a path. One entry goes, which has the last name of the path and
is no directory. All other entries stay, and so does what any file holds.
-/

namespace DeviceTestbed

theorem Path.names_append_slash (path : Path) {name : Name}
    (whole : IsWhole (· == Path.slash) name) :
    ∃ before, Path.names (path ++ Path.slash :: name) = before ++ [name] := by
  have cut : pieces (· == slash) (path ++ slash :: name) = pieces (· == slash) path ++ [name] := by
    refine (pieces_append_mark ?_ path name).trans ?_
    · exact beq_self_eq_true slash
    · rw [pieces_whole whole]
  refine ⟨(pieces (· == slash) path).filter fun name => !name.isEmpty, ?_⟩
  simp only [names, cut, List.dropLast_concat, List.getLast?_concat, Option.toList_some]

namespace Files

def Place.EndsIn (files : Files) (last : Name) : Place → Prop
  | .entry directory name id => name = last ∧ ∃ parent listing,
      files.directory? directory = some (parent, listing) ∧ Mapping.find name listing = some id
  | _ => True

theorem endsIn_descend {files : Files} {last : Name}
    {enter : NodeId → List Name → Except FileFault Place}
    (enters : ∀ {position names place}, enter position (names ++ [last]) = .ok place →
      place.EndsIn files last)
    {position : NodeId} {before : List Name} {place : Place}
    (found : files.descend .entry enter position (before ++ [last]) = .ok place) :
    place.EndsIn files last := by
  induction before generalizing position with
  | nil =>
    rw [List.nil_append, descend] at found
    split at found
    · contradiction
    rename_i parent listing isDirectory
    split at found
    · obtain rfl := Except.ok.inj found
      trivial
    split at found
    · obtain rfl := Except.ok.inj found
      trivial
    rw [if_neg (fun file => Aim.noConfusion file.1)] at found
    split at found
    · contradiction
    split at found
    · obtain rfl := Except.ok.inj found
      trivial
    rename_i id known
    split at found <;>
    · obtain rfl := Except.ok.inj found
      exact ⟨rfl, parent, listing, isDirectory, known⟩
  | cons name before ih =>
    have more : before ++ [last] ≠ [] := List.append_ne_nil_of_right_ne_nil _ (List.cons_ne_nil _ _)
    rw [List.cons_append, descend] at found
    split at found
    · contradiction
    split at found
    · exact ih found
    split at found
    · exact ih found
    rw [if_neg (fun file => Aim.noConfusion file.1)] at found
    split at found
    · contradiction
    simp only [more, and_false, ↓reduceIte] at found
    split at found
    · contradiction
    split at found
    · rw [← List.append_assoc] at found
      exact enters found
    · exact ih found

theorem endsIn_walk {files : Files} {last : Name} {links : Nat} {position : NodeId}
    {before : List Name} {place : Place}
    (found : files.walk .entry links position (before ++ [last]) = .ok place) :
    place.EndsIn files last := by
  induction links generalizing position before place with
  | zero => exact endsIn_descend (fun refused => by cases refused) found
  | succ links ih => exact endsIn_descend ih found

theorem endsIn_resolve {files : Files} {path : Path} {last : Name} {before : List Name}
    {place : Place} (named : Path.names path = before ++ [last])
    (found : files.resolve .entry path = .ok place) : place.EndsIn files last := by
  unfold resolve at found
  split at found
  · contradiction
  · rw [follow, named] at found
    exact endsIn_walk found

/-! What is left. -/

structure LosesEntry (before after : Files) (directory : NodeId) (name : Name) : Prop where
  listing : ∃ parent listing, before.nodes[directory]? = some (.directory parent listing) ∧
    after.nodes[directory]? =
      some (.directory parent (listing.filter fun entry => entry.1 ≠ name))
  others : ∀ id, id ≠ directory → after.nodes[id]? = before.nodes[id]?
  contents : after.contents = before.contents

/-- What stands at the end of the path, under this name, is gone if it was no directory. Nothing
else is changed. -/
inductive Unlinks (files : Files) (path : Path) (name : Name) : Files → Prop
  | removed {directory id : NodeId} {after : Files}
      (found : files.resolve .entry path = .ok (.entry directory name id))
      (noDirectory : files.isDirectory id = false) (loses : files.LosesEntry after directory name) :
      Unlinks files path name after
  | kept (nothing : ∀ directory id,
      files.resolve .entry path = .ok (.entry directory name id) → files.isDirectory id = true) :
      Unlinks files path name files

theorem losesEntry_setListing {files : Files} {directory parent : NodeId}
    {listing : List (Name × NodeId)}
    (isDirectory : files.directory? directory = some (parent, listing)) (name : Name) :
    files.LosesEntry
      (files.setListing directory fun listing => listing.filter fun entry => entry.1 ≠ name)
      directory name where
  listing := ⟨parent, listing, directory?_eq_some.mp isDirectory, setListing_of_found isDirectory _⟩
  others := fun _ different => setListing_of_ne files different _
  contents := by
    unfold setListing
    split <;> rfl

theorem unlinks_remove {files : Files} {path : Path} {last : Name} {before : List Name}
    (named : Path.names path = before ++ [last]) :
    files.Unlinks path last ((files.remove path).toOption.getD files) := by
  unfold remove
  split
  · rename_i failed
    exact .kept fun _ _ other => by cases failed.symm.trans other
  · rename_i id found
    exact .kept fun _ _ other => by cases found.symm.trans other
  · rename_i found
    exact .kept fun _ _ other => by cases found.symm.trans other
  · rename_i directory name id found
    obtain ⟨rfl, parent, listing, isDirectory, -⟩ := endsIn_resolve named found
    split
    · rename_i stays
      refine .kept fun _ _ other => ?_
      obtain ⟨-, -, rfl⟩ := Place.entry.inj (Except.ok.inj (found.symm.trans other))
      exact stays
    · rename_i noDirectory
      exact .removed found (eq_false_of_ne_true noDirectory)
        (losesEntry_setListing isDirectory name)

end Files

end DeviceTestbed
