import DeviceTestbed.Text.Blank
import Mathlib.Data.List.Induction

/-!
Cutting text at separators gives back the stretches it was put together from, as long as none of
them holds a separator.
-/

namespace DeviceTestbed

section

variable {α : Type} {separator : α → Bool}

def IsWhole (separator : α → Bool) (piece : List α) : Prop :=
  ∀ value ∈ piece, separator value = false

theorem pieces_whole {piece : List α} (whole : IsWhole separator piece) :
    pieces separator piece = [piece] := by
  induction piece with
  | nil => rfl
  | cons value piece ih =>
    have first : separator value = false := whole value List.mem_cons_self
    have others := ih fun other member => whole other (List.mem_cons_of_mem _ member)
    simp [pieces, first, others]

theorem pieces_ne_nil (text : List α) : pieces separator text ≠ [] := by
  cases text with
  | nil => exact List.cons_ne_nil _ _
  | cons value rest =>
    rw [pieces]
    split
    · exact List.cons_ne_nil _ _
    · split <;> exact List.cons_ne_nil _ _

theorem pieces_append_mark {mark : α} (cuts : separator mark = true) (first rest : List α) :
    pieces separator (first ++ mark :: rest) =
      pieces separator first ++ pieces separator rest := by
  induction first with
  | nil => simp [pieces, cuts]
  | cons value first ih =>
    rw [List.cons_append, pieces, pieces, ih]
    split
    · rfl
    · cases known : pieces separator first with
      | nil => exact absurd known (pieces_ne_nil first)
      | cons piece more => rfl

theorem pieces_append_separator {piece : List α} (whole : IsWhole separator piece) {mark : α}
    (cuts : separator mark = true) (rest : List α) :
    pieces separator (piece ++ mark :: rest) = piece :: pieces separator rest := by
  rw [pieces_append_mark cuts, pieces_whole whole]
  rfl

theorem pieces_joined {mark : α} (cuts : separator mark = true) {first : List α}
    {rest : List (List α)} (whole : ∀ piece ∈ first :: rest, IsWhole separator piece) :
    pieces separator (first ++ rest.flatMap (mark :: ·)) = first :: rest := by
  induction rest generalizing first with
  | nil =>
    rw [List.flatMap_nil, List.append_nil]
    exact pieces_whole (whole first List.mem_cons_self)
  | cons second rest ih =>
    have others := ih fun piece member => whole piece (List.mem_cons_of_mem _ member)
    rw [List.flatMap_cons, List.cons_append,
      pieces_append_separator (whole first List.mem_cons_self) cuts, others]

theorem pieces_terminated (separator : α → Bool) {mark : α} (cuts : separator mark = true)
    {lines : List (List α)} (whole : ∀ line ∈ lines, IsWhole separator line) :
    pieces separator (lines.flatMap (· ++ [mark])) = lines ++ [[]] := by
  induction lines with
  | nil => rfl
  | cons line lines ih =>
    have others := ih fun other member => whole other (List.mem_cons_of_mem _ member)
    rw [List.flatMap_cons, List.append_assoc, List.singleton_append,
      pieces_append_separator (whole line List.mem_cons_self) cuts, others]
    rfl

theorem IsWhole.take {piece : List α} (whole : IsWhole separator piece) (size : Nat) :
    IsWhole separator (piece.take size) :=
  fun value member => whole value (List.mem_of_mem_take member)

theorem pieces_take_terminated (separator : α → Bool) {mark : α} (cuts : separator mark = true)
    {lines : List (List α)} (whole : ∀ line ∈ lines, IsWhole separator line) (size : Nat) :
    ∃ count ≤ lines.length, ∃ length,
      pieces separator ((lines.flatMap (· ++ [mark])).take size) =
        lines.take count ++ [(lines[count]?.getD []).take length] := by
  induction lines generalizing size with
  | nil => exact ⟨0, Nat.le_refl 0, 0, by simp [pieces]⟩
  | cons line lines ih =>
    have first := whole line List.mem_cons_self
    rw [List.flatMap_cons, List.append_assoc]
    by_cases inside : size ≤ line.length
    · refine ⟨0, Nat.zero_le _, size, ?_⟩
      rw [List.take_append_of_le_length inside]
      exact pieces_whole (first.take size)
    · obtain ⟨more, rfl⟩ : ∃ more, size = line.length + (more + 1) :=
        ⟨size - line.length - 1, by omega⟩
      obtain ⟨count, bound, length, later⟩ :=
        ih (fun other member => whole other (List.mem_cons_of_mem _ member)) more
      refine ⟨count + 1, Nat.succ_le_succ bound, length, ?_⟩
      rw [List.take_length_add_append, List.singleton_append, List.take_succ_cons,
        pieces_append_separator first cuts, later]
      rfl

end

/-! White space is the separator between fields. -/

theorem fields_cons {field : List Char} (whole : IsWhole isBlank field) (present : field ≠ [])
    (rest : List Char) : fields (field ++ ' ' :: rest) = field :: fields rest := by
  have kept : field.isEmpty = false := by simpa using present
  rw [fields, pieces_append_separator whole (by decide), List.filter_cons, kept]
  rfl

theorem fields_whole {field : List Char} (whole : IsWhole isBlank field) (present : field ≠ []) :
    fields field = [field] := by
  have kept : field.isEmpty = false := by simpa using present
  rw [fields, pieces_whole whole, List.filter_cons, kept]
  rfl

theorem length_fields_whole {field : List Char} (whole : IsWhole isBlank field) :
    (fields field).length ≤ 1 := by
  rw [fields, pieces_whole whole]
  exact List.length_filter_le _ _

theorem fields_take {field : List Char} (whole : IsWhole isBlank field) (present : field ≠ [])
    (rest : List Char) (size : Nat) :
    fields ((field ++ ' ' :: rest).take size) =
      if size ≤ field.length then fields (field.take size)
      else field :: fields (rest.take (size - field.length - 1)) := by
  split
  · rename_i inside
    rw [List.take_append_of_le_length inside]
  · rename_i beyond
    obtain ⟨more, rfl⟩ : ∃ more, size = field.length + (more + 1) :=
      ⟨size - field.length - 1, by omega⟩
    have left : field.length + (more + 1) - field.length - 1 = more := by omega
    rw [List.take_length_add_append, List.take_succ_cons, fields_cons whole present, left]

theorem fields_append_blank (text : List Char) {blank : Char} (isBlank : isBlank blank = true) :
    fields (text ++ [blank]) = fields text := by
  rw [fields, pieces_append_mark isBlank, List.filter_append]
  exact List.append_nil _

/-! White space around a text changes nothing about its fields. -/

theorem fields_trimStart (text : List Char) : fields (trimStart text) = fields text := by
  induction text with
  | nil => rfl
  | cons character text ih =>
    by_cases blank : isBlank character = true
    · rw [trimStart, List.dropWhile_cons_of_pos blank, ← trimStart, ih]
      simp [fields, pieces, blank]
    · rw [trimStart, List.dropWhile_cons_of_neg blank]

theorem fields_trimEnd (text : List Char) : fields (trimEnd text) = fields text := by
  induction text using List.reverseRecOn with
  | nil => rfl
  | append_singleton text character ih =>
    rw [trimEnd, List.reverse_concat]
    by_cases blank : isBlank character = true
    · rw [List.dropWhile_cons_of_pos blank, ← trimEnd, ih, fields_append_blank text blank]
    · rw [List.dropWhile_cons_of_neg blank, ← List.reverse_concat, List.reverse_reverse]

theorem fields_trim (text : List Char) : fields (trim text) = fields text := by
  rw [trim, fields_trimEnd, fields_trimStart]

theorem trim_cons {character : Char} (visible : isBlank character = false) (text : List Char) :
    trim (character :: text) = character :: trimEnd text := by
  have start : trimStart (character :: text) = character :: text := by
    rw [trimStart, List.dropWhile_cons_of_neg (by simp [visible])]
  rw [trim, start, trimEnd, List.reverse_cons, List.dropWhile_append, trimEnd]
  split
  · rename_i nothing
    rw [List.isEmpty_iff] at nothing
    simp [nothing, visible]
  · simp

theorem trimStart_append {text : List Char} (whole : IsWhole isBlank text) (present : text ≠ [])
    (rest : List Char) : trimStart (text ++ rest) = text ++ rest := by
  cases text with
  | nil => contradiction
  | cons character text =>
    have visible : isBlank character = false := whole character List.mem_cons_self
    simp [trimStart, visible]

theorem trimEnd_append {text : List Char} (whole : IsWhole isBlank text) (present : text ≠ [])
    (before : List Char) : trimEnd (before ++ text) = before ++ text := by
  have backwards : IsWhole isBlank text.reverse := by
    intro character member
    exact whole character (List.mem_reverse.mp member)
  have kept := trimStart_append backwards (by simpa using present) before.reverse
  rw [trimStart, ← List.reverse_append] at kept
  rw [trimEnd, kept, List.reverse_reverse]

theorem trim_eq_self {first last : List Char} (middle : List Char)
    (firstWhole : IsWhole isBlank first) (firstPresent : first ≠ [])
    (lastWhole : IsWhole isBlank last) (lastPresent : last ≠ []) :
    trim (first ++ middle ++ last) = first ++ middle ++ last := by
  have start := trimStart_append firstWhole firstPresent (middle ++ last)
  rw [← List.append_assoc] at start
  rw [trim, start]
  exact trimEnd_append lastWhole lastPresent (first ++ middle)

end DeviceTestbed
