import DeviceTestbed.Proofs.Files.Open

/-!
What the operations on files leave alone. In a sound file system every path leads to a node that
exists. Opening, writing, removing and installing keep it so, never change the kind of a node, and
change the content of one file at most.
-/

namespace DeviceTestbed

theorem Mapping.mem_of_find {Key Value : Type} [DecidableEq Key] {key : Key} {value : Value}
    {entries : List (Key × Value)} (found : find key entries = some value) :
    (key, value) ∈ entries := by
  induction entries with
  | nil => cases found
  | cons entry rest ih =>
    obtain ⟨known, stored⟩ := entry
    rw [find] at found
    split at found
    · rename_i same
      rw [same, Option.some.inj found]
      exact List.mem_cons_self
    · exact List.mem_cons_of_mem _ (ih found)

namespace Files

def Has (files : Files) (id : NodeId) : Prop :=
  id < files.nodes.size

instance (files : Files) (id : NodeId) : Decidable (files.Has id) :=
  inferInstanceAs (Decidable (id < files.nodes.size))

structure Sound (files : Files) : Prop where
  working : files.Has workingDirectory
  parent : ∀ {id parent listing}, files.directory? id = some (parent, listing) → files.Has parent
  listed : ∀ {id parent listing}, files.directory? id = some (parent, listing) →
    ∀ entry ∈ listing, files.Has entry.2

def Place.IsIn (files : Files) : Place → Prop
  | .node id => files.Has id
  | .entry _ _ id => files.Has id
  | .vacant directory _ => files.Has directory

/-! Where a path leads. -/

theorem Sound.has_start {files : Files} (sound : files.Sound) {position : NodeId}
    (here : files.Has position) (path : Path) : files.Has (start position path) := by
  unfold start
  split
  · exact Nat.lt_of_le_of_lt (Nat.zero_le _) sound.working
  · exact here

theorem Sound.isIn_descend {files : Files} (sound : files.Sound) {aim : Aim}
    {enter : NodeId → List Name → Except FileFault Place}
    (enters : ∀ {position names place}, files.Has position → enter position names = .ok place →
      place.IsIn files)
    {position : NodeId} {names : List Name} {place : Place} (here : files.Has position)
    (found : files.descend aim enter position names = .ok place) : place.IsIn files := by
  induction names generalizing position with
  | nil =>
    obtain rfl := Except.ok.inj found
    exact here
  | cons name rest ih =>
    rw [descend] at found
    split at found
    · contradiction
    rename_i parent listing isDirectory
    split at found
    · exact ih here found
    split at found
    · exact ih (sound.parent isDirectory) found
    split at found
    · contradiction
    split at found
    · contradiction
    split at found
    · split at found
      · obtain rfl := Except.ok.inj found
        exact here
      · contradiction
    rename_i id known
    have present : files.Has id := sound.listed isDirectory _ (Mapping.mem_of_find known)
    split at found
    · split at found
      · obtain rfl := Except.ok.inj found
        exact present
      · exact enters (sound.has_start here _) found
    · split at found
      · obtain rfl := Except.ok.inj found
        exact present
      · exact ih present found

theorem Sound.isIn_walk {files : Files} (sound : files.Sound) {aim : Aim} {links : Nat}
    {position : NodeId} {names : List Name} {place : Place} (here : files.Has position)
    (found : files.walk aim links position names = .ok place) : place.IsIn files := by
  induction links generalizing position names place with
  | zero => exact sound.isIn_descend (fun _ refused => by cases refused) here found
  | succ links ih => exact sound.isIn_descend ih here found

theorem Sound.isIn_follow {files : Files} (sound : files.Sound) {aim : Aim} {path : Path}
    {names : List Name} {place : Place} (found : files.follow aim path names = .ok place) :
    place.IsIn files :=
  sound.isIn_walk (sound.has_start sound.working path) found

theorem Sound.isIn_resolve {files : Files} (sound : files.Sound) {aim : Aim} {path : Path}
    {place : Place} (found : files.resolve aim path = .ok place) : place.IsIn files := by
  unfold resolve at found
  split at found
  · contradiction
  · exact sound.isIn_follow found

/-! Frames. -/

/-- The later files are sound, no node has gone or changed its kind, and of the nodes that were
there before only those that `changed` tells have another content. -/
structure Spares (before after : Files) (changed : NodeId → Prop) : Prop where
  sound : after.Sound
  has : ∀ {id}, before.Has id → after.Has id
  isRegular : ∀ {id}, before.Has id → after.isRegular id = before.isRegular id
  content : ∀ {id}, before.Has id → ¬ changed id → after.content id = before.content id

theorem Spares.refl {files : Files} (sound : files.Sound) (changed : NodeId → Prop) :
    files.Spares files changed :=
  ⟨sound, fun known => known, fun _ => rfl, fun _ _ => rfl⟩

theorem Spares.trans {first second third : Files} {changed : NodeId → Prop}
    (earlier : first.Spares second changed) (later : second.Spares third changed) :
    first.Spares third changed where
  sound := later.sound
  has := fun known => later.has (earlier.has known)
  isRegular := fun known =>
    (later.isRegular (earlier.has known)).trans (earlier.isRegular known)
  content := fun known spared =>
    (later.content (earlier.has known) spared).trans (earlier.content known spared)

theorem Spares.mono {before after : Files} {changed more : NodeId → Prop}
    (spares : before.Spares after changed) (weaker : ∀ id, before.Has id → changed id → more id) :
    before.Spares after more where
  sound := spares.sound
  has := spares.has
  isRegular := spares.isRegular
  content := fun known spared => spares.content known fun touched => spared (weaker _ known touched)

theorem spares_replace {files : Files} (sound : files.Sound) (id : NodeId) (content : Content) :
    files.Spares (files.replace id content) (· = id) := by
  unfold replace
  split
  · refine ⟨⟨sound.working, sound.parent, sound.listed⟩, fun known => known, fun _ => rfl, ?_⟩
    intro other _ different
    simp [Files.content, stored, different]
  · exact .refl sound _

theorem directory?_eq_some {files : Files} {id parent : NodeId}
    {listing : List (Name × NodeId)} :
    files.directory? id = some (parent, listing) ↔
      files.nodes[id]? = some (.directory parent listing) := by
  unfold directory?
  split
  · rename_i found
    simp [found]
  · rename_i other
    simpa using other parent listing

theorem setListing_of_found {files : Files} {id parent : NodeId}
    {listing : List (Name × NodeId)} (found : files.directory? id = some (parent, listing))
    (change : List (Name × NodeId) → List (Name × NodeId)) :
    (files.setListing id change).nodes[id]? = some (.directory parent (change listing)) := by
  obtain ⟨inside, -⟩ := Array.getElem?_eq_some_iff.mp (directory?_eq_some.mp found)
  simp [setListing, found, inside]

theorem setListing_of_ne (files : Files) {id other : NodeId} (different : other ≠ id)
    (change : List (Name × NodeId) → List (Name × NodeId)) :
    (files.setListing id change).nodes[other]? = files.nodes[other]? := by
  unfold setListing
  split
  · rfl
  · simp [Ne.symm different]

theorem setListing_of_absent {files : Files} {id : NodeId} (absent : files.directory? id = none)
    (change : List (Name × NodeId) → List (Name × NodeId)) :
    files.setListing id change = files := by
  rw [setListing, absent]

theorem directory?_setListing {files : Files} {id other parent : NodeId}
    {listing : List (Name × NodeId)} {change : List (Name × NodeId) → List (Name × NodeId)}
    (found : (files.setListing id change).directory? other = some (parent, listing)) :
    ∃ before, files.directory? other = some (parent, before) ∧
      (listing = before ∨ listing = change before) := by
  by_cases same : other = id
  · subst same
    cases known : files.directory? other with
    | none =>
      rw [setListing_of_absent known, known] at found
      contradiction
    | some told =>
      obtain ⟨directory, before⟩ := told
      have changed := directory?_eq_some.mpr (setListing_of_found known change)
      obtain ⟨rfl, rfl⟩ := Prod.mk.inj (Option.some.inj (found.symm.trans changed))
      exact ⟨before, rfl, .inr rfl⟩
  · refine ⟨listing, ?_, .inl rfl⟩
    rw [directory?_eq_some] at found ⊢
    rwa [setListing_of_ne files same] at found

theorem isRegular_setListing (files : Files) (id other : NodeId)
    (change : List (Name × NodeId) → List (Name × NodeId)) :
    (files.setListing id change).isRegular other = files.isRegular other := by
  by_cases same : other = id
  · subst same
    cases known : files.directory? other with
    | none => rw [setListing_of_absent known]
    | some told =>
      rw [isRegular, isRegular, setListing_of_found known, directory?_eq_some.mp known]
      rfl
  · rw [isRegular, isRegular, setListing_of_ne files same]

theorem size_setListing (files : Files) (id : NodeId)
    (change : List (Name × NodeId) → List (Name × NodeId)) :
    (files.setListing id change).nodes.size = files.nodes.size := by
  unfold setListing
  split
  · rfl
  · simp

theorem content_setListing (files : Files) (id other : NodeId)
    (change : List (Name × NodeId) → List (Name × NodeId)) :
    (files.setListing id change).content other = files.content other := by
  unfold setListing
  split <;> rfl

theorem spares_setListing {files : Files} (sound : files.Sound) (id : NodeId)
    {change : List (Name × NodeId) → List (Name × NodeId)}
    (fits : ∀ {listing}, (∀ entry ∈ listing, files.Has entry.2) →
      ∀ entry ∈ change listing, files.Has entry.2) :
    files.Spares (files.setListing id change) fun _ => False := by
  have same {node : NodeId} : (files.setListing id change).Has node ↔ files.Has node := by
    rw [Has, Has, size_setListing]
  refine ⟨⟨same.mpr sound.working, ?_, ?_⟩, same.mpr, fun _ => isRegular_setListing _ _ _ _,
    fun _ _ => content_setListing _ _ _ _⟩
  · intro other parent listing found
    obtain ⟨before, known, -⟩ := directory?_setListing found
    exact same.mpr (sound.parent known)
  · intro other parent listing found entry among
    obtain ⟨before, known, rfl | rfl⟩ := directory?_setListing found
    · exact same.mpr (sound.listed known entry among)
    · exact same.mpr (fits (sound.listed known) entry among)

theorem spares_addNode {files : Files} (sound : files.Sound) (directory : NodeId) (name : Name)
    (node : FileNode)
    (fits : ∀ parent listing, node = .directory parent listing → files.Has parent ∧ listing = []) :
    files.Spares (files.addNode directory name node) fun _ => False := by
  let pushed : Files := { files with nodes := files.nodes.push node }
  have grown {id : NodeId} (known : files.Has id) : pushed.Has id := by
    simp only [Has, pushed, Array.size_push]
    exact Nat.lt_succ_of_lt known
  have older {id : NodeId} (known : files.Has id) : pushed.nodes[id]? = files.nodes[id]? := by
    simp [pushed, Array.getElem?_push, Nat.ne_of_lt known]
  have told {id parent : NodeId} {listing : List (Name × NodeId)}
      (found : pushed.directory? id = some (parent, listing)) :
      files.Has parent ∧ ∀ entry ∈ listing, files.Has entry.2 := by
    have placed := directory?_eq_some.mp found
    simp only [pushed, Array.getElem?_push] at placed
    split at placed
    · obtain ⟨has, rfl⟩ := fits parent listing (Option.some.inj placed)
      exact ⟨has, nofun⟩
    · have before := directory?_eq_some.mpr placed
      exact ⟨sound.parent before, sound.listed before⟩
  have soundPushed : pushed.Sound :=
    ⟨grown sound.working, fun found => grown (told found).1,
      fun found entry among => grown ((told found).2 entry among)⟩
  have first : files.Spares pushed fun _ => False :=
    ⟨soundPushed, grown, fun known => by rw [isRegular, isRegular, older known], fun _ _ => rfl⟩
  refine first.trans (spares_setListing soundPushed directory ?_)
  intro listing fine entry among
  rcases List.mem_append.mp among with before | isNew
  · exact fine entry before
  · obtain rfl := List.mem_singleton.mp isNew
    simp [Has, pushed]

theorem spares_addFile {files : Files} (sound : files.Sound) (directory : NodeId) (name : Name) :
    files.Spares (files.addFile directory name).2 (fun _ => False) ∧
      (files.addFile directory name).2.Has (files.addFile directory name).1 := by
  have added := spares_addNode sound directory name .regular nofun
  have stored := spares_replace added.sound files.nodes.size (.ofBytes [])
  have grown := (added.mono fun _ _ => False.elim).trans stored
  constructor
  · exact grown.mono fun id known same => absurd same (Nat.ne_of_lt known)
  · refine stored.has ?_
    simp [Has, addNode, addFile, size_setListing]

/-! Opening, creating, removing and installing. -/

theorem spares_truncate {files after : Files} (sound : files.Sound) {id : NodeId}
    (done : files.truncate id = .ok after) : files.Spares after (· = id) := by
  unfold truncate at done
  split at done
  · obtain rfl := Except.ok.inj done
    exact spares_replace sound id _
  · contradiction

theorem spares_append {files : Files} (sound : files.Sound) (id : NodeId) (bytes : Bytes) :
    files.Spares (files.append id bytes) (· = id) :=
  spares_replace sound id _

theorem spares_openWrite {files opened : Files} (sound : files.Sound) {path : Path} {id : NodeId}
    (done : files.openWrite path = .ok (id, opened)) :
    files.Spares opened (fun _ => False) ∧ opened.Has id := by
  unfold openWrite at done
  split at done
  · rename_i place found
    have isIn := sound.isIn_resolve found
    cases place with
    | vacant directory name =>
      obtain ⟨rfl, rfl⟩ := Prod.mk.inj (Except.ok.inj done)
      exact spares_addFile sound directory name
    | node known =>
      simp only [openPlace] at done
      split at done
      · contradiction
      · obtain ⟨rfl, rfl⟩ := Prod.mk.inj (Except.ok.inj done)
        exact ⟨.refl sound _, isIn⟩
    | entry directory name known =>
      simp only [openPlace] at done
      split at done
      · contradiction
      · obtain ⟨rfl, rfl⟩ := Prod.mk.inj (Except.ok.inj done)
        exact ⟨.refl sound _, isIn⟩
  · contradiction

theorem spares_create {files created : Files} (sound : files.Sound) {path : Path} {id : NodeId}
    (done : files.create path = .ok (id, created)) :
    files.Spares created (· = id) ∧ created.Has id ∧
      (created.isRegular id = true → created.content id = []) := by
  unfold create at done
  split at done
  · contradiction
  · rename_i node opened reached
    obtain ⟨rfl, rfl⟩ := Prod.mk.inj (Except.ok.inj done)
    obtain ⟨spares, has⟩ := spares_openWrite sound reached
    have stored := spares_replace spares.sound node (.ofBytes [])
    refine ⟨(spares.mono fun _ _ => False.elim).trans stored, stored.has has, ?_⟩
    intro regular
    rw [store, isRegular_replace] at regular
    exact content_store_self regular []

theorem spares_remove {files after : Files} (sound : files.Sound) {path : Path}
    (done : files.remove path = .ok after) : files.Spares after fun _ => False := by
  unfold remove at done
  split at done
  · contradiction
  · contradiction
  · contradiction
  · split at done
    · contradiction
    · obtain rfl := Except.ok.inj done
      refine spares_setListing sound _ ?_
      intro listing fine entry among
      exact fine entry (List.mem_filter.mp among).1

theorem spares_makeDirectories {files : Files} (sound : files.Sound) (path : Path) (count : Nat) :
    files.Spares (files.makeDirectories path count) fun _ => False := by
  unfold makeDirectories
  generalize List.range count = indices
  induction indices generalizing files with
  | nil => exact .refl sound _
  | cons index rest ih =>
    rw [List.foldl_cons]
    split
    · rename_i directory name found
      have first : files.Spares (files.addNode directory name (.directory directory []))
          fun _ => False := by
        refine spares_addNode sound directory name _ ?_
        rintro parent listing ⟨rfl, rfl⟩
        exact ⟨sound.isIn_follow found, rfl⟩
      exact first.trans (ih first.sound)
    · exact ih sound

theorem spares_install {files : Files} (sound : files.Sound) (fixture : Fixture) :
    files.Spares (files.install fixture) fun _ => True := by
  cases fixture with
  | file path content =>
    have parents := spares_makeDirectories sound path ((Path.names path).length - 1)
    have grown : files.Spares (files.makeParents path) fun _ => True :=
      parents.mono fun _ _ _ => trivial
    rw [install]
    split
    · rename_i id created done
      obtain ⟨emptied, -, -⟩ := spares_create parents.sound done
      have stored := spares_replace emptied.sound id (.ofBytes content)
      exact grown.trans ((emptied.trans stored).mono fun _ _ _ => trivial)
    · exact grown
  | link path target =>
    have parents := spares_makeDirectories sound path ((Path.names path).length - 1)
    rw [install]
    split
    · rename_i directory name found
      have added := spares_addNode parents.sound directory name (.link target) nofun
      exact (parents.trans added).mono fun _ _ => False.elim
    · exact parents.mono fun _ _ => False.elim
  | directory path =>
    exact (spares_makeDirectories sound path _).mono fun _ _ => False.elim

theorem sound_initial : initial.Sound := by
  have told {id parent : NodeId} {listing : List (Name × NodeId)}
      (found : initial.directory? id = some (parent, listing)) :
      initial.Has parent ∧ ∀ entry ∈ listing, initial.Has entry.2 := by
    obtain ⟨inside, placed⟩ := Array.getElem?_eq_some_iff.mp (directory?_eq_some.mp found)
    match id, inside with
    | 0, _ | 1, _ | 3, _ | 4, _ =>
      obtain ⟨rfl, rfl⟩ := FileNode.directory.inj placed
      exact ⟨by decide, by decide⟩
    | 2, _ => cases placed
  exact ⟨by decide, fun found => (told found).1, fun found => (told found).2⟩

end Files

end DeviceTestbed
