import DeviceTestbed.Proofs.Script.Line

/-!
What the text of a trace looks like: lines with line feeds between them, each with a kind, a delay
and some bytes in caret notation. It keeps that form as long as every operation is added at its
end.
-/

namespace DeviceTestbed

namespace Script

def joined : List Bytes → Bytes
  | [] => []
  | first :: rest => first ++ rest.flatMap (0x0A :: ·)

/-- Nothing at all, or records with line feeds between them. The time of a record counts from the
one before it. -/
def IsTrace (text : Bytes) : Prop :=
  ∃ records : List Transfer, (∀ record ∈ records, record.bytes ≠ []) ∧
    text = joined (records.map (line 0))

theorem isTrace_nil : IsTrace [] :=
  ⟨[], nofun, rfl⟩

theorem joined_concat {lines : List Bytes} (present : lines ≠ []) (last : Bytes) :
    joined (lines ++ [last]) = joined lines ++ 0x0A :: last := by
  cases lines with
  | nil => exact absurd rfl present
  | cons first rest => simp [joined]

theorem joined_concat_append (lines : List Bytes) (last more : Bytes) :
    joined (lines ++ [last ++ more]) = joined (lines ++ [last]) ++ more := by
  cases lines with
  | nil => simp [joined]
  | cons first rest => simp [joined]

theorem IsTrace.le_of_mem {text : Bytes} (formed : IsTrace text) {byte : UInt8}
    (member : byte ∈ text) : byte = 0x0A ∨ 0x20 ≤ byte := by
  obtain ⟨records, -, rfl⟩ := formed
  cases records with
  | nil => exact absurd member List.not_mem_nil
  | cons first rest =>
    rcases List.mem_append.mp member with inFirst | inRest
    · exact .inr (le_of_mem_line inFirst)
    · obtain ⟨text, inLines, inText⟩ := List.mem_flatMap.mp inRest
      obtain ⟨record, -, rfl⟩ := List.mem_map.mp inLines
      rcases List.mem_cons.mp inText with rfl | inLine
      · exact .inl rfl
      · exact .inr (le_of_mem_line inLine)

theorem IsTrace.append_escape {text : Bytes} (formed : IsTrace text) (present : text ≠ [])
    (bytes : Bytes) : IsTrace (text ++ Caret.escape bytes) := by
  obtain ⟨records, filled, rfl⟩ := formed
  obtain rfl | ⟨earlier, last, split⟩ := List.eq_nil_or_concat records
  · exact absurd rfl present
  · rw [List.concat_eq_append] at split
    subst split
    refine ⟨earlier ++ [{ last with bytes := last.bytes ++ bytes }], ?_, ?_⟩
    · intro record among
      rcases List.mem_append.mp among with before | isLast
      · exact filled record (List.mem_append_left _ before)
      · obtain rfl := List.mem_singleton.mp isLast
        exact fun empty => filled last (by simp) (List.append_eq_nil_iff.mp empty).1
    · have longer : line 0 { last with bytes := last.bytes ++ bytes } =
          line 0 last ++ Caret.escape bytes := by
        simp [line, Caret.escape_append]
      simp only [List.map_append, List.map_cons, List.map_nil]
      rw [longer, joined_concat_append]

theorem isTrace_line (record : Transfer) (filled : record.bytes ≠ []) :
    IsTrace (line 0 record) :=
  ⟨[record], fun other among => List.mem_singleton.mp among ▸ filled, by simp [joined]⟩

theorem IsTrace.append_line {text : Bytes} (formed : IsTrace text) (present : text ≠ [])
    (record : Transfer) (filled : record.bytes ≠ []) :
    IsTrace (text ++ 0x0A :: line 0 record) := by
  obtain ⟨records, others, rfl⟩ := formed
  refine ⟨records ++ [record], ?_, ?_⟩
  · intro other among
    rcases List.mem_append.mp among with before | isLast
    · exact others other before
    · exact List.mem_singleton.mp isLast ▸ filled
  · have some : records.map (line 0) ≠ [] := by
      intro none
      exact present (congrArg joined none)
    rw [List.map_append, List.map_cons, List.map_nil, joined_concat some]

end Script

/-- An operation that is added where the trace ends, by a recorder that has begun just if the trace
has, leaves a trace. -/
theorem Recorder.isTrace_append_chunk {recorder : Recorder} {text : Bytes}
    (formed : Script.IsTrace text) (begun : recorder.kind.isSome = true ↔ text ≠ [])
    (kind : Operation) (bytes : Bytes) (now : Nat) :
    Script.IsTrace (text ++ recorder.chunk kind bytes now) := by
  by_cases empty : bytes.isEmpty = true
  · simpa [chunk, empty] using formed
  · have filled : bytes ≠ [] := by simpa using empty
    let record : Transfer := { kind, bytes, time := now - recorder.time }
    rw [chunk, if_neg empty, opening]
    by_cases same : recorder.continues kind now = true
    · have isBegun : recorder.kind.isSome = true := by
        simp only [continues, Bool.and_eq_true, beq_iff_eq] at same
        simp [same.2]
      rw [if_pos same]
      exact formed.append_escape (begun.mp isBegun) bytes
    · rw [if_neg same]
      by_cases isBegun : recorder.kind.isSome = true
      · rw [if_pos isBegun]
        exact formed.append_line (begun.mp isBegun) record filled
      · have fresh : text = [] := Decidable.not_not.mp (mt begun.mpr isBegun)
        rw [if_neg isBegun, fresh]
        exact Script.isTrace_line record filled

end DeviceTestbed
