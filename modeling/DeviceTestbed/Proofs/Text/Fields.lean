import DeviceTestbed.Proofs.Text.Pieces

/-!
Trimming and field splitting told by the white space in a text: what stands before the first visible
character, between the fields, and behind the last one.
-/

namespace DeviceTestbed

def IsGap (text : List Char) : Prop :=
  ∀ character ∈ text, isBlank character = true

theorem isGap_nil : IsGap [] :=
  fun _ member => absurd member List.not_mem_nil

section

variable {gap text field : List Char}

theorem trimStart_gap_append (isGap : IsGap gap) (text : List Char) :
    trimStart (gap ++ text) = trimStart text :=
  List.dropWhile_append_of_pos isGap

theorem gap_or_visible (text : List Char) :
    IsGap text ∨ ∃ gap character rest, IsGap gap ∧ isBlank character = false ∧
      text = gap ++ character :: rest := by
  induction text with
  | nil => exact .inl isGap_nil
  | cons character text ih =>
    by_cases blank : isBlank character = true
    · have grows {gap : List Char} (isGap : IsGap gap) : IsGap (character :: gap) :=
        List.forall_mem_cons.mpr ⟨blank, isGap⟩
      rcases ih with isGap | ⟨gap, visible, rest, isGap, notBlank, rfl⟩
      · exact .inl (grows isGap)
      · exact .inr ⟨character :: gap, visible, rest, grows isGap, notBlank, rfl⟩
    · exact .inr ⟨[], character, text, isGap_nil, eq_false_of_ne_true blank, rfl⟩

theorem trim_gap (isGap : IsGap gap) : trim gap = [] := by
  have nothing := trimStart_gap_append isGap []
  rw [List.append_nil] at nothing
  rw [trim, nothing]
  rfl

theorem trim_gap_cons {character : Char} (isGap : IsGap gap) (visible : isBlank character = false)
    (rest : List Char) : trim (gap ++ character :: rest) = character :: trimEnd rest := by
  rw [trim, trimStart_gap_append isGap]
  exact trim_cons visible rest

theorem trimEnd_append_gap (isGap : IsGap gap) (text : List Char) :
    trimEnd (text ++ gap) = trimEnd text := by
  have backwards : IsGap gap.reverse := fun character member =>
    isGap character (List.mem_reverse.mp member)
  rw [trimEnd, List.reverse_append]
  exact congrArg List.reverse (trimStart_gap_append backwards text.reverse)

theorem exists_gaps (text : List Char) :
    ∃ before after, text = before ++ trim text ++ after ∧ IsGap before ∧ IsGap after := by
  have blank {text : List Char} : IsGap (text.takeWhile isBlank) :=
    List.all_eq_true.mp List.all_takeWhile
  refine ⟨text.takeWhile isBlank, ((trimStart text).reverse.takeWhile isBlank).reverse, ?_, blank,
    fun character member => blank character (List.mem_reverse.mp member)⟩
  rw [trim, trimEnd, List.append_assoc, ← List.reverse_append, List.takeWhile_append_dropWhile,
    List.reverse_reverse, trimStart, List.takeWhile_append_dropWhile]

theorem trim_between {before after : List Char} (isBefore : IsGap before) (isAfter : IsGap after)
    (whole : IsWhole isBlank text) (present : text ≠ []) :
    trim (before ++ text ++ after) = text := by
  rw [trim, List.append_assoc, trimStart_gap_append isBefore, trimStart_append whole present,
    trimEnd_append_gap isAfter]
  exact trimEnd_append whole present []

theorem trimEnd_append_blank {blank : Char} (isBlank : isBlank blank = true) (text : List Char) :
    trimEnd (text ++ [blank]) = trimEnd text := by
  simp [trimEnd, isBlank]

theorem trim_append_blank {blank : Char} (isBlank : isBlank blank = true) (text : List Char) :
    trim (text ++ [blank]) = trim text := by
  rcases gap_or_visible text with isGap | ⟨gap, character, rest, isGap, visible, rfl⟩
  · have nothing : trimStart [blank] = [] := by simp [trimStart, isBlank]
    rw [trim, trimStart_gap_append isGap, nothing, trim_gap isGap]
    rfl
  · rw [List.append_assoc, List.cons_append, trim_gap_cons isGap visible,
      trim_gap_cons isGap visible, trimEnd_append_blank isBlank]

/-! Fields. -/

theorem fields_blank_cons {blank : Char} (isBlank : isBlank blank = true) (text : List Char) :
    fields (blank :: text) = fields text := by
  simp [fields, pieces, isBlank]

theorem fields_gap_append (isGap : IsGap gap) (text : List Char) :
    fields (gap ++ text) = fields text := by
  rw [← fields_trimStart, trimStart_gap_append isGap, fields_trimStart]

theorem fields_gap (isGap : IsGap gap) : fields gap = [] := by
  have nothing := fields_gap_append isGap []
  rwa [List.append_nil] at nothing

def IsApart (rest : List Char) : Prop :=
  ∀ character, rest.head? = some character → isBlank character = true

theorem fields_field_append {rest : List Char} (whole : IsWhole isBlank field)
    (present : field ≠ []) (apart : IsApart rest) :
    fields (field ++ rest) = field :: fields rest := by
  cases rest with
  | nil =>
    rw [List.append_nil, fields_whole whole present]
    rfl
  | cons blank rest =>
    have cuts : isBlank blank = true := apart blank rfl
    have kept : field.isEmpty = false := by simpa using present
    rw [fields_blank_cons cuts, fields, pieces_append_separator whole cuts, List.filter_cons, kept]
    rfl

theorem exists_field {character : Char} (visible : isBlank character = false) (rest : List Char) :
    ∃ field later, character :: rest = field ++ later ∧ IsWhole isBlank field ∧ field ≠ [] ∧
      IsApart later := by
  induction rest generalizing character with
  | nil =>
    refine ⟨[character], [], rfl, ?_, List.cons_ne_nil _ _, nofun⟩
    exact List.forall_mem_singleton.mpr visible
  | cons next rest ih =>
    by_cases blank : isBlank next = true
    · refine ⟨[character], next :: rest, rfl, ?_, List.cons_ne_nil _ _, ?_⟩
      · exact List.forall_mem_singleton.mpr visible
      · intro head first
        rw [← Option.some.inj first]
        exact blank
    · obtain ⟨field, later, same, whole, -, apart⟩ := ih (eq_false_of_ne_true blank)
      refine ⟨character :: field, later, ?_, ?_, List.cons_ne_nil _ _, apart⟩
      · rw [same]
        rfl
      · exact List.forall_mem_cons.mpr ⟨visible, whole⟩

theorem fields_eq_nil : fields text = [] ↔ IsGap text := by
  constructor
  · intro nothing
    rcases gap_or_visible text with isGap | ⟨gap, character, rest, isGap, visible, rfl⟩
    · exact isGap
    · obtain ⟨field, later, same, whole, present, apart⟩ := exists_field visible rest
      rw [fields_gap_append isGap, same, fields_field_append whole present apart] at nothing
      contradiction
  · exact fields_gap

theorem fields_eq_cons {others : List (List Char)} :
    fields text = field :: others ↔
      ∃ gap rest, text = gap ++ (field ++ rest) ∧ IsGap gap ∧ IsWhole isBlank field ∧ field ≠ [] ∧
        IsApart rest ∧ fields rest = others := by
  constructor
  · intro found
    rcases gap_or_visible text with isGap | ⟨gap, character, rest, isGap, visible, rfl⟩
    · rw [fields_gap isGap] at found
      contradiction
    · obtain ⟨first, later, same, whole, present, apart⟩ := exists_field visible rest
      rw [fields_gap_append isGap, same, fields_field_append whole present apart] at found
      obtain ⟨rfl, rfl⟩ := List.cons.inj found
      exact ⟨gap, later, by rw [same], isGap, whole, present, apart, rfl⟩
  · rintro ⟨gap, rest, rfl, isGap, whole, present, apart, rfl⟩
    rw [fields_gap_append isGap, fields_field_append whole present apart]

theorem isApart_gap (isGap : IsGap gap) : IsApart gap := by
  intro character first
  exact isGap character (List.mem_of_mem_head? first)

theorem isApart_gap_append (isGap : IsGap gap) (present : gap ≠ []) (text : List Char) :
    IsApart (gap ++ text) := by
  intro character first
  obtain ⟨blank, others, rfl⟩ := List.exists_cons_of_ne_nil present
  rw [← Option.some.inj first]
  exact isGap blank List.mem_cons_self

theorem gap_ne_nil {rest : List Char} (whole : IsWhole isBlank field) (present : field ≠ [])
    (apart : IsApart (gap ++ (field ++ rest))) : gap ≠ [] := by
  rintro rfl
  obtain ⟨character, others, rfl⟩ := List.exists_cons_of_ne_nil present
  have blank : isBlank character = true := apart character rfl
  rw [whole character List.mem_cons_self] at blank
  contradiction

theorem fields_eq_three {first second third : List Char} :
    fields text = [first, second, third] ↔
      (IsWhole isBlank first ∧ first ≠ []) ∧ (IsWhole isBlank second ∧ second ≠ []) ∧
        (IsWhole isBlank third ∧ third ≠ []) ∧
        ∃ before gap other after,
          text = before ++ first ++ gap ++ second ++ other ++ third ++ after ∧
            IsGap before ∧ (IsGap gap ∧ gap ≠ []) ∧ (IsGap other ∧ other ≠ []) ∧ IsGap after := by
  simp only [fields_eq_cons, fields_eq_nil, List.append_assoc]
  constructor
  · rintro ⟨before, _, rfl, isBefore, firstWhole, firstPresent, firstApart,
      gap, _, rfl, isGap, secondWhole, secondPresent, secondApart,
      other, after, rfl, isOther, thirdWhole, thirdPresent, -, isAfter⟩
    have gapPresent := gap_ne_nil secondWhole secondPresent firstApart
    have otherPresent := gap_ne_nil thirdWhole thirdPresent secondApart
    exact ⟨⟨firstWhole, firstPresent⟩, ⟨secondWhole, secondPresent⟩, ⟨thirdWhole, thirdPresent⟩,
      before, gap, other, after, rfl, isBefore, ⟨isGap, gapPresent⟩, ⟨isOther, otherPresent⟩,
      isAfter⟩
  · rintro ⟨⟨firstWhole, firstPresent⟩, ⟨secondWhole, secondPresent⟩, ⟨thirdWhole, thirdPresent⟩,
      before, gap, other, after, rfl, isBefore, ⟨isGap, gapPresent⟩, ⟨isOther, otherPresent⟩,
      isAfter⟩
    exact ⟨before, _, rfl, isBefore, firstWhole, firstPresent,
      isApart_gap_append isGap gapPresent _,
      gap, _, rfl, isGap, secondWhole, secondPresent,
      isApart_gap_append isOther otherPresent _,
      other, after, rfl, isOther, thirdWhole, thirdPresent, isApart_gap isAfter, isAfter⟩

end

end DeviceTestbed
