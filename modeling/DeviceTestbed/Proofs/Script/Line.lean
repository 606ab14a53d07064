import DeviceTestbed.Proofs.Script.Caret
import DeviceTestbed.Proofs.Script.Recorder
import DeviceTestbed.Proofs.Text.Numeral
import DeviceTestbed.Proofs.Text.Pieces

/-!
The lines of a trace, read and written. A line is read back as the kind, the delay and the bytes
that it was written for.
-/

namespace DeviceTestbed

def Transfer.readBack (transfer : Transfer) : Transfer :=
  { transfer with bytes := transfer.bytes.map Caret.readBack }

namespace Script

def cut? (text : Bytes) : Option (Bytes × Bytes) :=
  match text.dropWhile (· != 0x20) with
  | [] => none
  | _ :: rest => some (text.takeWhile (· != 0x20), rest)

def kind? (tag : Bytes) : Option Operation :=
  if tag = [0x72] then some .read else if tag = [0x77] then some .write else none

def delay? (digits : Bytes) : Option Nat := do
  let text ← Utf8.decode? digits
  if text ≠ [] ∧ text.all Char.isDigit then some (Nat.ofDigitChars 10 text 0) else none

/-- A line tells the kind, the delay and the bytes in caret notation, which may hold spaces. -/
def readLine? (line : Bytes) : Option (Operation × Nat × Bytes) := do
  let (tag, afterTag) ← cut? line
  let (digits, body) ← cut? afterTag
  let kind ← kind? tag
  let delay ← delay? digits
  let bytes ← Caret.unescape? body
  pure (kind, delay, bytes)

def readLines? (time : Nat) : List Bytes → Option (List Transfer)
  | [] => some []
  | line :: rest => do
    let (kind, delay, bytes) ← readLine? line
    let later ← readLines? (time + delay) rest
    pure ({ kind, bytes, time := time + delay } :: later)

/-- Text without bytes has no lines, and the last line has no line feed behind it. -/
def lines (text : Bytes) : List Bytes :=
  if text = [] then [] else pieces (· == 0x0A) text

def read? (start : Nat) (text : Bytes) : Option (List Transfer) :=
  readLines? start (lines text)

/-! Lines as they are written. -/

def line (time : Nat) (transfer : Transfer) : Bytes :=
  Recorder.header transfer.kind (transfer.time - time) ++ Caret.escape transfer.bytes

def linesOf (time : Nat) : List Transfer → List Bytes
  | [] => []
  | transfer :: rest => line time transfer :: linesOf transfer.time rest

theorem header_append (kind : Operation) (delay : Nat) (body : Bytes) :
    Recorder.header kind delay ++ body =
      Bytes.ofAscii [kind.tag] ++
        0x20 :: (Bytes.ofAscii (Numeral.decimal delay) ++ 0x20 :: body) := by
  simp [Recorder.header, Bytes.ofAscii]

theorem isVisible_tag (kind : Operation) : ∀ character ∈ [kind.tag], IsVisible character := by
  intro character member
  rw [List.mem_singleton.mp member]
  cases kind <;> exact ⟨by decide, by decide⟩

theorem isVisible_decimal (delay : Nat) :
    ∀ character ∈ Numeral.decimal delay, IsVisible character :=
  Numeral.isVisible_toDigits (by decide) (by decide) delay

theorem le_of_mem_line {time : Nat} {transfer : Transfer} {byte : UInt8}
    (member : byte ∈ line time transfer) : 0x20 ≤ byte := by
  rw [line, header_append] at member
  rcases List.mem_append.mp member with tag | afterTag
  · exact UInt8.le_of_lt (Bytes.lt_of_mem_ofAscii (isVisible_tag _) tag)
  rcases List.mem_cons.mp afterTag with rfl | afterSpace
  · exact UInt8.le_refl _
  rcases List.mem_append.mp afterSpace with digit | afterDigits
  · exact UInt8.le_of_lt (Bytes.lt_of_mem_ofAscii (isVisible_decimal _) digit)
  rcases List.mem_cons.mp afterDigits with rfl | body
  · exact UInt8.le_refl _
  · exact Caret.le_of_mem_escape body

theorem isWhole_of_mem_linesOf {time : Nat} {transfers : List Transfer} {text : Bytes}
    (member : text ∈ linesOf time transfers) : IsWhole (· == 0x0A) text := by
  induction transfers generalizing time with
  | nil => exact absurd member List.not_mem_nil
  | cons transfer rest ih =>
    rcases List.mem_cons.mp member with rfl | later
    · intro byte inLine
      have bound := le_of_mem_line inLine
      rw [beq_eq_false_iff_ne]
      rintro rfl
      exact absurd bound (by decide)
    · exact ih later

theorem cut?_append {field : Bytes} (whole : ∀ byte ∈ field, 0x20 < byte) (rest : Bytes) :
    cut? (field ++ 0x20 :: rest) = some (field, rest) := by
  have kept : ∀ byte ∈ field, (byte != 0x20) = true := by
    intro byte member
    rw [bne_iff_ne]
    rintro rfl
    exact absurd (whole _ member) (by decide)
  rw [cut?, List.dropWhile_append_of_pos kept, List.takeWhile_append_of_pos kept]
  simp

theorem kind?_tag (kind : Operation) : kind? (Bytes.ofAscii [kind.tag]) = some kind := by
  cases kind <;> rfl

theorem delay?_decimal (delay : Nat) :
    delay? (Bytes.ofAscii (Numeral.decimal delay)) = some delay := by
  have decoded := Utf8.decode?_ofAscii (isAscii_of_visible (isVisible_decimal delay))
  have digits : Numeral.decimal delay ≠ [] ∧ (Numeral.decimal delay).all Char.isDigit := by
    refine ⟨Nat.toDigits_ne_nil, List.all_eq_true.mpr ?_⟩
    intro character member
    exact Nat.isDigit_of_mem_toDigits (by decide) (by decide) member
  rw [delay?, decoded]
  change (if _ then _ else _) = _
  rw [if_pos digits, Numeral.decimal, Nat.ofDigitChars_ten_toDigits]

theorem readLine?_line (time : Nat) (transfer : Transfer) :
    readLine? (line time transfer) =
      some (transfer.kind, transfer.time - time, transfer.bytes.map Caret.readBack) := by
  have tag := fun body =>
    cut?_append (fun _ => Bytes.lt_of_mem_ofAscii (isVisible_tag transfer.kind)) body
  have digits := fun body =>
    cut?_append (fun _ =>
      Bytes.lt_of_mem_ofAscii (isVisible_decimal (transfer.time - time))) body
  rw [line, header_append, readLine?, tag]
  simp only [Option.bind_eq_bind, Option.bind_some, digits, kind?_tag, delay?_decimal,
    Caret.unescape?_escape]
  rfl

theorem readLines?_linesOf {time : Nat} {transfers : List Transfer}
    (ordered : (time :: transfers.map Transfer.time).Pairwise (· ≤ ·)) :
    readLines? time (linesOf time transfers) = some (transfers.map Transfer.readBack) := by
  induction transfers generalizing time with
  | nil => rfl
  | cons transfer rest ih =>
    obtain ⟨first, others⟩ := List.pairwise_cons.mp ordered
    have later : time + (transfer.time - time) = transfer.time :=
      Nat.add_sub_of_le (first _ List.mem_cons_self)
    rw [linesOf, readLines?, readLine?_line]
    simp only [Option.bind_eq_bind, Option.bind_some, later, ih others]
    rfl

end Script

end DeviceTestbed
