/-!
Finite maps as lists of pairs in which every key stands once.
-/

namespace DeviceTestbed

structure Mapping (Key Value : Type) where
  entries : List (Key × Value) := []
  unique : (entries.map Prod.fst).Nodup := by simp

namespace Mapping

variable {Key Value : Type} [DecidableEq Key]

instance : Inhabited (Mapping Key Value) := ⟨{}⟩

def find (key : Key) : List (Key × Value) → Option Value
  | [] => none
  | (known, value) :: rest => if known = key then some value else find key rest

def get? (mapping : Mapping Key Value) (key : Key) : Option Value :=
  find key mapping.entries

def contains (mapping : Mapping Key Value) (key : Key) : Bool :=
  (mapping.get? key).isSome

def size (mapping : Mapping Key Value) : Nat :=
  mapping.entries.length

def isEmpty (mapping : Mapping Key Value) : Bool :=
  mapping.entries.isEmpty

omit [DecidableEq Key] in
theorem map_fst_filter (keep : Key → Bool) (entries : List (Key × Value)) :
    (entries.filter fun entry => keep entry.1).map Prod.fst = (entries.map Prod.fst).filter keep := by
  induction entries with
  | nil => rfl
  | cons entry rest ih => cases kept : keep entry.1 <;> simp [kept, ih]

theorem filter_of_find_none {key : Key} {entries : List (Key × Value)}
    (absent : find key entries = none) :
    (entries.filter fun entry => !decide (entry.1 = key)) = entries := by
  induction entries with
  | nil => rfl
  | cons entry rest ih =>
    obtain ⟨known, value⟩ := entry
    by_cases same : known = key
    · simp [find, same] at absent
    · simp only [find, if_neg same] at absent
      simp [same, ih absent]

/-- The entries of all other keys. Nothing is copied if the key is absent. -/
def others (mapping : Mapping Key Value) (key : Key) : List (Key × Value) :=
  if mapping.contains key then mapping.entries.filter fun entry => !decide (entry.1 = key)
  else mapping.entries

theorem others_eq (mapping : Mapping Key Value) (key : Key) :
    mapping.others key = mapping.entries.filter fun entry => !decide (entry.1 = key) := by
  by_cases present : mapping.contains key = true
  · rw [others, if_pos present]
  · rw [others, if_neg present, filter_of_find_none]
    simpa [contains, get?] using present

def erase (mapping : Mapping Key Value) (key : Key) : Mapping Key Value where
  entries := mapping.others key
  unique := by
    rw [others_eq, map_fst_filter fun known => !decide (known = key)]
    exact mapping.unique.filter _

def insert (mapping : Mapping Key Value) (key : Key) (value : Value) : Mapping Key Value where
  entries := (key, value) :: mapping.others key
  unique := by
    refine List.nodup_cons.mpr ⟨?_, (mapping.erase key).unique⟩
    rw [others_eq, map_fst_filter fun known => !decide (known = key)]
    simp

omit [DecidableEq Key] in
theorem map_fst_map (change : Key × Value → Value) (entries : List (Key × Value)) :
    (entries.map fun entry => (entry.1, change entry)).map Prod.fst = entries.map Prod.fst := by
  induction entries with
  | nil => rfl
  | cons entry rest ih => simp [ih]

def modify (mapping : Mapping Key Value) (key : Key) (change : Value → Value) :
    Mapping Key Value where
  entries := mapping.entries.map fun entry =>
    (entry.1, if entry.1 = key then change entry.2 else entry.2)
  unique := by
    rw [map_fst_map]
    exact mapping.unique

theorem find_filter_self (key : Key) (entries : List (Key × Value)) :
    find key (entries.filter fun entry => !decide (entry.1 = key)) = none := by
  induction entries with
  | nil => rfl
  | cons entry rest ih =>
    obtain ⟨known, value⟩ := entry
    by_cases same : known = key <;> simp [same, ih, find]

theorem find_filter_ne {key other : Key} (different : other ≠ key)
    (entries : List (Key × Value)) :
    find other (entries.filter fun entry => !decide (entry.1 = key)) = find other entries := by
  induction entries with
  | nil => rfl
  | cons entry rest ih =>
    obtain ⟨known, value⟩ := entry
    by_cases same : known = key
    · subst same
      simp [ih, find, Ne.symm different]
    · by_cases here : known = other
      · subst here
        simp [same, find]
      · simp [same, here, ih, find]

@[simp] theorem get?_erase_self (mapping : Mapping Key Value) (key : Key) :
    (mapping.erase key).get? key = none := by
  simpa only [get?, erase, others_eq] using find_filter_self key mapping.entries

@[simp] theorem get?_erase_ne (mapping : Mapping Key Value) {key other : Key}
    (different : other ≠ key) : (mapping.erase key).get? other = mapping.get? other := by
  simpa only [get?, erase, others_eq] using find_filter_ne different mapping.entries

@[simp] theorem get?_insert_self (mapping : Mapping Key Value) (key : Key) (value : Value) :
    (mapping.insert key value).get? key = some value := by
  simp [get?, insert, find]

@[simp] theorem get?_insert_ne (mapping : Mapping Key Value) {key other : Key} (value : Value)
    (different : other ≠ key) : (mapping.insert key value).get? other = mapping.get? other := by
  have erased := mapping.get?_erase_ne different
  simpa [get?, insert, find, Ne.symm different, erase] using erased

theorem find_modify (key other : Key) (change : Value → Value) (entries : List (Key × Value)) :
    find other (entries.map fun entry =>
        (entry.1, if entry.1 = key then change entry.2 else entry.2)) =
      (find other entries).map fun value => if other = key then change value else value := by
  induction entries with
  | nil => rfl
  | cons entry rest ih =>
    obtain ⟨known, value⟩ := entry
    by_cases here : known = other
    · subst here
      simp [find]
    · simp [find, here, ih]

theorem get?_modify (mapping : Mapping Key Value) (key other : Key) (change : Value → Value) :
    (mapping.modify key change).get? other =
      (mapping.get? other).map fun value => if other = key then change value else value :=
  find_modify key other change mapping.entries

theorem contains_iff_mem {mapping : Mapping Key Value} {key : Key} :
    mapping.contains key = true ↔ key ∈ mapping.entries.map Prod.fst := by
  obtain ⟨entries, unique⟩ := mapping
  change (find key entries).isSome = true ↔ key ∈ entries.map Prod.fst
  clear unique
  induction entries with
  | nil => simp [find]
  | cons entry rest ih =>
    rw [find, List.map_cons, List.mem_cons]
    by_cases here : entry.1 = key
    · simp [here]
    · rw [if_neg here, ih]
      simp [Ne.symm here]

end Mapping

end DeviceTestbed
