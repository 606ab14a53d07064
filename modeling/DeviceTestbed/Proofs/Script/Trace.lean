import DeviceTestbed.Proofs.Script.Line

/-!
The text of a trace is read back as what was recorded: operations without bytes left out, and those
of one kind in one millisecond put together.
-/

namespace DeviceTestbed

namespace Transfer

/-- Puts every longest stretch of transfers of one kind at one time together. -/
def merge : List Transfer → List Transfer
  | [] => []
  | transfer :: rest =>
    match merge rest with
    | [] => [transfer]
    | next :: later =>
      if transfer.kind = next.kind ∧ transfer.time = next.time then
        { transfer with bytes := transfer.bytes ++ next.bytes } :: later
      else transfer :: next :: later

def bursts (transfers : List Transfer) : List Transfer :=
  merge (transfers.filter fun transfer => !transfer.bytes.isEmpty)

theorem merge_cons_of_joins {transfer next : Transfer} {rest later : List Transfer}
    (merged : merge rest = next :: later)
    (joins : transfer.kind = next.kind ∧ transfer.time = next.time) :
    merge (transfer :: rest) =
      { transfer with bytes := transfer.bytes ++ next.bytes } :: later := by
  rw [merge, merged]
  exact if_pos joins

theorem merge_cons_of_not_joins {transfer next : Transfer} {rest later : List Transfer}
    (merged : merge rest = next :: later)
    (apart : ¬ (transfer.kind = next.kind ∧ transfer.time = next.time)) :
    merge (transfer :: rest) = transfer :: next :: later := by
  rw [merge, merged]
  exact if_neg apart

theorem times_merge (transfers : List Transfer) :
    ((merge transfers).map time).Sublist (transfers.map time) := by
  induction transfers with
  | nil => exact .slnil
  | cons transfer rest ih =>
    cases merged : merge rest with
    | nil =>
      rw [merge, merged]
      exact (List.nil_sublist _).cons_cons _
    | cons next later =>
      rw [merged] at ih
      by_cases joins : transfer.kind = next.kind ∧ transfer.time = next.time
      · rw [merge_cons_of_joins merged joins]
        exact ((List.sublist_cons_self _ _).trans ih).cons_cons _
      · rw [merge_cons_of_not_joins merged joins]
        exact ih.cons_cons _

theorem mem_merge {transfers : List Transfer} {burst : Transfer} (member : burst ∈ merge transfers)
    {byte : UInt8} (inBurst : byte ∈ burst.bytes) :
    ∃ transfer ∈ transfers, byte ∈ transfer.bytes := by
  induction transfers generalizing burst with
  | nil => exact absurd member List.not_mem_nil
  | cons transfer rest ih =>
    have onLater {other : Transfer} (inRest : other ∈ merge rest) (inOther : byte ∈ other.bytes) :
        ∃ found ∈ transfer :: rest, byte ∈ found.bytes := by
      obtain ⟨found, inside, holds⟩ := ih inRest inOther
      exact ⟨found, List.mem_cons_of_mem _ inside, holds⟩
    cases merged : merge rest with
    | nil =>
      rw [merge, merged] at member
      rw [List.mem_singleton.mp member] at inBurst
      exact ⟨transfer, List.mem_cons_self, inBurst⟩
    | cons next later =>
      rw [merged] at onLater
      by_cases joins : transfer.kind = next.kind ∧ transfer.time = next.time
      · rw [merge_cons_of_joins merged joins] at member
        rcases List.mem_cons.mp member with rfl | inLater
        · rcases List.mem_append.mp inBurst with here | there
          · exact ⟨transfer, List.mem_cons_self, here⟩
          · exact onLater List.mem_cons_self there
        · exact onLater (List.mem_cons_of_mem _ inLater) inBurst
      · rw [merge_cons_of_not_joins merged joins] at member
        rcases List.mem_cons.mp member with rfl | inLater
        · exact ⟨burst, List.mem_cons_self, inBurst⟩
        · exact onLater inLater inBurst

end Transfer

namespace Recorder

theorem chunk_of_continues {time : Nat} {kind : Operation} {transfer : Transfer}
    (present : transfer.bytes.isEmpty = false)
    (joins : kind = transfer.kind ∧ time = transfer.time) :
    chunk { time, kind := some kind } transfer.kind transfer.bytes transfer.time =
      Caret.escape transfer.bytes := by
  simp [chunk, opening, continues, present, joins.1, joins.2]

theorem chunk_of_not_continues {time : Nat} {kind : Operation} {transfer : Transfer}
    (present : transfer.bytes.isEmpty = false) (later : time ≤ transfer.time)
    (apart : ¬ (kind = transfer.kind ∧ time = transfer.time)) :
    chunk { time, kind := some kind } transfer.kind transfer.bytes transfer.time =
      0x0A :: Script.line time transfer := by
  have begins : continues { time, kind := some kind } transfer.kind transfer.time = false := by
    by_cases same : kind = transfer.kind
    · have moved : transfer.time - time ≠ 0 := fun still => apart ⟨same, by omega⟩
      simp [continues, moved]
    · simp [continues, same]
  simp [chunk, opening, begins, present, Script.line]

theorem text_of_open {time : Nat} {transfers : List Transfer}
    (present : ∀ transfer ∈ transfers, transfer.bytes.isEmpty = false)
    (ordered : (time :: transfers.map Transfer.time).Pairwise (· ≤ ·)) (kind : Operation) :
    ∃ more later,
      (∀ bytes, Transfer.merge ({ kind, bytes, time } :: transfers) =
        { kind, bytes := bytes ++ more, time } :: later) ∧
      text { time, kind := some kind } transfers =
        Caret.escape more ++ (Script.linesOf time later).flatMap (0x0A :: ·) := by
  -- How the open record began plays no part in what follows, so that `more` is the same for all.
  induction transfers generalizing time kind with
  | nil =>
    refine ⟨[], [], ?_, rfl⟩
    intro bytes
    rw [List.append_nil]
    rfl
  | cons transfer rest ih =>
    obtain ⟨first, others⟩ := List.pairwise_cons.mp ordered
    have here := present transfer List.mem_cons_self
    obtain ⟨more, later, merged, written⟩ :=
      ih (fun other member => present other (List.mem_cons_of_mem _ member)) others transfer.kind
    have advanced : advance { time, kind := some kind } transfer.kind transfer.bytes
        transfer.time = { time := transfer.time, kind := some transfer.kind } := by
      simp [advance, here]
    rw [text, advanced, written]
    by_cases joins : kind = transfer.kind ∧ time = transfer.time
    · refine ⟨transfer.bytes ++ more, later, ?_, ?_⟩
      · intro bytes
        exact Transfer.merge_cons_of_joins (merged transfer.bytes) joins
      · rw [chunk_of_continues here joins, Caret.escape_append, joins.2, List.append_assoc]
    · refine ⟨[], { transfer with bytes := transfer.bytes ++ more } :: later, ?_, ?_⟩
      · intro bytes
        rw [List.append_nil]
        exact Transfer.merge_cons_of_not_joins (merged transfer.bytes) joins
      · rw [chunk_of_not_continues here (first _ List.mem_cons_self) joins]
        simp [Script.linesOf, Script.line, Caret.escape]

theorem lines_text {start : Nat} {transfers : List Transfer}
    (present : ∀ transfer ∈ transfers, transfer.bytes.isEmpty = false)
    (ordered : (start :: transfers.map Transfer.time).Pairwise (· ≤ ·)) :
    Script.lines (text { time := start } transfers) =
      Script.linesOf start (Transfer.merge transfers) := by
  cases transfers with
  | nil => rfl
  | cons transfer rest =>
    have here := present transfer List.mem_cons_self
    obtain ⟨more, later, merged, written⟩ := text_of_open
      (fun other member => present other (List.mem_cons_of_mem _ member))
      (List.pairwise_cons.mp ordered).2 transfer.kind
    let burst : Transfer := { transfer with bytes := transfer.bytes ++ more }
    have all : text { time := start } (transfer :: rest) =
        Script.line start burst ++ (Script.linesOf transfer.time later).flatMap (0x0A :: ·) := by
      rw [text]
      simp only [advance, here, Bool.false_eq_true, ↓reduceIte, written]
      simp [chunk, opening, continues, here, Script.line, Caret.escape_append, burst]
    have whole (piece : Bytes) (member : piece ∈ Script.linesOf start (burst :: later)) :=
      Script.isWhole_of_mem_linesOf member
    have notEmpty : Script.line start burst ≠ [] := by
      simp [Script.line, header, Bytes.ofAscii]
    rw [merged transfer.bytes, all, Script.lines, if_neg (by simp [notEmpty])]
    exact pieces_joined rfl whole

/-- The trace of transfers in order of time, with an output that takes all of it, is read back as
these transfers: those without bytes are left out, and every longest stretch of one kind at one time
is put together. -/
theorem read_recordAll {start : Nat} {transfers : List Transfer}
    (ordered : (start :: transfers.map Transfer.time).Pairwise (· ≤ ·))
    (clean : ∀ transfer ∈ transfers, 30 ∉ transfer.bytes) :
    let outcome := recordAll { time := start } {} transfers
    (∀ taken ∈ outcome.1, taken = true) ∧
      Script.read? start outcome.2.2.taken = some (Transfer.bursts transfers) := by
  intro outcome
  obtain ⟨taken, written⟩ :=
    recordAll_unlimited (show ({} : Sink).room = none from rfl) { time := start } transfers
  refine ⟨taken, ?_⟩
  let present := transfers.filter fun transfer => !transfer.bytes.isEmpty
  have nonempty : ∀ transfer ∈ present, transfer.bytes.isEmpty = false := by
    intro transfer member
    simpa using (List.mem_filter.mp member).2
  have inOrder : (start :: present.map Transfer.time).Pairwise (· ≤ ·) :=
    ordered.sublist ((List.filter_sublist.map _).cons_cons _)
  have burstsInOrder : (start :: (Transfer.bursts transfers).map Transfer.time).Pairwise (· ≤ ·) :=
    inOrder.sublist ((Transfer.times_merge present).cons_cons _)
  have unchanged : ∀ burst ∈ Transfer.bursts transfers, burst.readBack = burst := by
    intro burst member
    have without : 30 ∉ burst.bytes := by
      intro inBurst
      obtain ⟨transfer, inPresent, inTransfer⟩ := Transfer.mem_merge member inBurst
      exact clean transfer (List.mem_filter.mp inPresent).1 inTransfer
    rw [Transfer.readBack, Caret.map_readBack without]
  have text : outcome.2.2.taken = Recorder.text { time := start } present := by
    rw [text_filter]
    exact written
  rw [Script.read?, text, lines_text nonempty inOrder]
  have read := Script.readLines?_linesOf burstsInOrder
  rw [List.map_congr_left unchanged, List.map_id'] at read
  exact read

theorem read_recordAll_of_interrupted :
    let ascii (text : String) := Bytes.ofAscii text.toList
    let transfers : List Transfer :=
      [⟨.write, ascii "AT", 5⟩, ⟨.read, [], 5⟩, ⟨.write, ascii "\n^ 1", 5⟩, ⟨.read, [0xFF, 0], 12⟩]
    let written := (recordAll { time := 5 } {} transfers).2.2.taken
    written = ascii "w 0 AT^J^^ 1\nr 7 " ++ [0xFF] ++ ascii "^@" ∧
      Script.read? 5 written =
        some [⟨.write, ascii "AT\n^ 1", 5⟩, ⟨.read, [0xFF, 0], 12⟩] := by
  intro ascii transfers written
  have ordered : (5 :: transfers.map Transfer.time).Pairwise (· ≤ ·) := by decide
  have clean : ∀ transfer ∈ transfers, 30 ∉ transfer.bytes := by decide
  obtain ⟨-, read⟩ := read_recordAll ordered clean
  exact ⟨by decide, read⟩

end Recorder

end DeviceTestbed
