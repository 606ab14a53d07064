import DeviceTestbed.Files.Access

/-!
What an opened file holds. Storing changes one file and no other, a file that opening created is
empty, and opening for writing leads to the same node as looking the path up.
-/

namespace DeviceTestbed.Files

theorem isDirectory_of_isRegular {files : Files} {id : NodeId}
    (regular : files.isRegular id = true) : files.isDirectory id = false := by
  have node : files.nodes[id]? = some .regular := by simpa [isRegular] using regular
  simp [isDirectory, directory?, node]

theorem isRegular_replace (files : Files) (id other : NodeId) (content : Content) :
    (files.replace id content).isRegular other = files.isRegular other := by
  rw [replace]
  split <;> rfl

theorem content_replace_self {files : Files} {id : NodeId} (regular : files.isRegular id = true)
    (content : Content) : (files.replace id content).content id = content.toBytes := by
  simp [replace, regular, Files.content, stored]

theorem content_store_self {files : Files} {id : NodeId} (regular : files.isRegular id = true)
    (bytes : Bytes) : (files.store id bytes).content id = bytes := by
  rw [store, content_replace_self regular, Content.toBytes_ofBytes]

theorem truncate_of_isRegular {files : Files} {id : NodeId} (regular : files.isRegular id = true) :
    files.truncate id = .ok (files.store id []) :=
  if_pos regular

theorem truncate_of_not_isRegular {files : Files} {id : NodeId}
    (irregular : files.isRegular id = false) : files.truncate id = .error .notRegular := by
  rw [truncate, irregular]
  rfl

theorem content_append_self {files : Files} {id : NodeId} (regular : files.isRegular id = true)
    (bytes : Bytes) : (files.append id bytes).content id = files.content id ++ bytes := by
  rw [append, content_replace_self regular, Content.toBytes_append]
  rfl

theorem content_append_store {files : Files} {id : NodeId} (regular : files.isRegular id = true)
    (bytes : Bytes) : ((files.store id []).append id bytes).content id = bytes := by
  have stillRegular : (files.store id []).isRegular id = true :=
    (isRegular_replace files id id _).trans regular
  rw [content_append_self stillRegular, content_store_self regular, List.nil_append]

/-! A new file. -/

theorem isRegular_addNode (files : Files) (directory : NodeId) (name : Name) :
    (files.addNode directory name .regular).isRegular files.nodes.size = true := by
  have added : (files.nodes.push .regular)[files.nodes.size]? = some .regular := by simp
  simp only [addNode, setListing]
  split
  · simp [isRegular]
  · rename_i parent listing found
    have different : directory ≠ files.nodes.size := by
      intro same
      rw [same] at found
      simp [directory?] at found
    simp [isRegular, different]

theorem isRegular_addFile (files : Files) (directory : NodeId) (name : Name) :
    (files.addFile directory name).2.isRegular (files.addFile directory name).1 = true := by
  rw [addFile, store, isRegular_replace]
  exact isRegular_addNode files directory name

theorem content_addFile (files : Files) (directory : NodeId) (name : Name) :
    (files.addFile directory name).2.content (files.addFile directory name).1 = [] :=
  content_store_self (isRegular_addNode files directory name) []

/-! Where a file for writing is found. -/

theorem descend_target_of_file {files : Files}
    {enter enterTarget : NodeId → List Name → Except FileFault Place}
    (follows : ∀ position names place,
      enter position names = .ok place → enterTarget position names = .ok place)
    {position : NodeId} {names : List Name} {place : Place}
    (found : files.descend .file enter position names = .ok place) :
    files.descend .target enterTarget position names = .ok place := by
  induction names generalizing position with
  | nil => exact found
  | cons name rest ih =>
    rw [descend] at found ⊢
    split at found
    · contradiction
    by_cases dot : name = [] ∨ name = [0x2E]
    · rw [if_pos dot] at found ⊢
      exact ih found
    rw [if_neg dot] at found ⊢
    by_cases dots : name = [0x2E, 0x2E]
    · rw [if_pos dots] at found ⊢
      exact ih found
    rw [if_neg dots] at found ⊢
    by_cases slash : rest = [[]]
    · rw [if_pos ⟨rfl, slash⟩] at found
      contradiction
    rw [if_neg (fun refused => slash refused.2)] at found
    rw [if_neg (fun refused => slash refused.2)]
    by_cases long : nameLimit < name.length
    · rw [if_pos long] at found
      contradiction
    rw [if_neg long] at found ⊢
    split at found
    · exact found
    split at found
    · rw [if_neg (by simp)] at found ⊢
      exact follows _ _ _ found
    by_cases last : rest = []
    · rw [if_pos last] at found ⊢
      exact found
    rw [if_neg last] at found ⊢
    exact ih found

theorem walk_target_of_file {files : Files} {links : Nat} {position : NodeId} {names : List Name}
    {place : Place} (found : files.walk .file links position names = .ok place) :
    files.walk .target links position names = .ok place := by
  induction links generalizing position names place with
  | zero => exact descend_target_of_file (fun _ _ _ entered => entered) found
  | succ links ih => exact descend_target_of_file (fun _ _ _ entered => ih entered) found

theorem resolve_target_of_file {files : Files} {path : Path} {place : Place}
    (found : files.resolve .file path = .ok place) : files.resolve .target path = .ok place := by
  unfold resolve at found ⊢
  split at found
  · contradiction
  · exact walk_target_of_file found

/-- Opening for writing changes nothing, and leads where looking the path up does, or it creates a
file without content. -/
theorem openWrite_cases {files opened : Files} {path : Path} {id : NodeId}
    (done : files.openWrite path = .ok (id, opened)) :
    opened = files ∧ files.lookup .target path = .ok id ∨
      opened.isRegular id = true ∧ opened.content id = [] := by
  unfold openWrite at done
  split at done
  · rename_i place found
    have looked := resolve_target_of_file found
    cases place with
    | vacant directory name =>
      obtain ⟨rfl, rfl⟩ := Prod.mk.inj (Except.ok.inj done)
      exact .inr ⟨isRegular_addFile files directory name, content_addFile files directory name⟩
    | node known =>
      simp only [openPlace] at done
      split at done
      · contradiction
      · obtain ⟨rfl, rfl⟩ := Prod.mk.inj (Except.ok.inj done)
        exact .inl ⟨rfl, by rw [lookup, looked]⟩
    | entry directory name known =>
      simp only [openPlace] at done
      split at done
      · contradiction
      · obtain ⟨rfl, rfl⟩ := Prod.mk.inj (Except.ok.inj done)
        exact .inl ⟨rfl, by rw [lookup, looked]⟩
  · contradiction

def HoldsNothing (files : Files) (path : Path) : Prop :=
  ∀ id, files.lookup .target path = .ok id → files.isRegular id = true ∧ files.content id = []

/-- A file that held nothing is a regular file without content once it is open for writing, be it
that it was there before or that it was created. -/
theorem openWrite_of_holdsNothing {files : Files} {path : Path} (nothing : files.HoldsNothing path)
    {id : NodeId} {opened : Files} (done : files.openWrite path = .ok (id, opened)) :
    opened.isRegular id = true ∧ opened.content id = [] := by
  rcases openWrite_cases done with ⟨rfl, looked⟩ | created
  · exact nothing id looked
  · exact created

end DeviceTestbed.Files
