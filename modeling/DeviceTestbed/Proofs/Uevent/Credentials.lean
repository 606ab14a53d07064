import DeviceTestbed.Proofs.Uevent.Message
import Mathlib.Tactic.NormNum

/-!
Disguising a message byte by byte. In a buffer of whole control messages the user and the group of
all credentials become zero and no other byte changes, and disguising a message twice does no more
than disguising it once.
-/

namespace DeviceTestbed

theorem Bytes.littleEndianValue_littleEndian (width : Nat) {value : Nat}
    (bound : value < 256 ^ width) :
    littleEndianValue (littleEndian width value) = value := by
  induction width generalizing value with
  | zero =>
    have zero : value = 0 := by simpa using bound
    rw [zero]
    rfl
  | succ width ih =>
    have first : (UInt8.ofNat value).toNat = value % 256 := UInt8.toNat_ofNat'
    have rest : value / 256 < 256 ^ width := Nat.div_lt_of_lt_mul (by rwa [← Nat.pow_succ'])
    rw [littleEndian, littleEndianValue, ih rest, first]
    exact Nat.mod_add_div value 256

namespace Uevent

/-- What a control message carries: the credentials of a sender, with any bytes behind them, or
something else. -/
inductive Content where
  | credentials (process user group : UInt32) (more : Bytes)
  | other (level kind : UInt32) (payload : Bytes) (apart : ¬ (level = 1 ∧ kind = 2))

namespace Content

def level : Content → UInt32
  | credentials .. => 1
  | other level .. => level

def kind : Content → UInt32
  | credentials .. => 2
  | other _ kind .. => kind

def payload : Content → Bytes
  | credentials process user group more =>
    Bytes.littleEndian 4 process.toNat ++ Bytes.littleEndian 4 user.toNat ++
      Bytes.littleEndian 4 group.toNat ++ more
  | other _ _ payload _ => payload

/-- The root user takes the place of the owner that credentials name. -/
def fromRoot : Content → Content
  | credentials process _ _ more => credentials process 0 0 more
  | other level kind payload apart => other level kind payload apart

theorem length_payload_fromRoot (content : Content) :
    content.fromRoot.payload.length = content.payload.length := by
  cases content with
  | credentials process user group more =>
    simp only [fromRoot, payload, List.length_append, Bytes.length_littleEndian]
  | other => rfl

end Content

structure ControlMessage where
  content : Content
  padding : Bytes
  padded : content.payload.length + padding.length = align content.payload.length
  /-- The length of the message fits the eight bytes that state it. -/
  fits : headerLength + content.payload.length < 0x10000000000000000

namespace ControlMessage

def header (content : Content) : Bytes :=
  Bytes.littleEndian 8 (headerLength + content.payload.length) ++
    (Bytes.littleEndian 4 content.level.toNat ++ Bytes.littleEndian 4 content.kind.toNat)

def bytes (message : ControlMessage) : Bytes :=
  header message.content ++ message.content.payload ++ message.padding

def fromRoot (message : ControlMessage) : ControlMessage where
  content := message.content.fromRoot
  padding := message.padding
  padded := by
    rw [Content.length_payload_fromRoot]
    exact message.padded
  fits := by
    rw [Content.length_payload_fromRoot]
    exact message.fits

def encode (messages : List ControlMessage) : Bytes :=
  messages.flatMap bytes

theorem length_header (content : Content) : (header content).length = headerLength := by
  simp only [header, List.length_append, Bytes.length_littleEndian]
  rfl

theorem header_fromRoot (content : Content) : header content.fromRoot = header content := by
  rw [header, Content.length_payload_fromRoot]
  cases content <;> rfl

variable (message : ControlMessage) (others : Bytes)

theorem length_bytes :
    message.bytes.length = align (headerLength + message.content.payload.length) := by
  have padded := message.padded
  simp only [bytes, List.length_append, length_header, headerLength, align] at padded ⊢
  omega

theorem length_bytes_fromRoot : message.fromRoot.bytes.length = message.bytes.length := by
  rw [length_bytes, length_bytes, fromRoot, Content.length_payload_fromRoot]

theorem headerLength_le_bytes : headerLength ≤ message.bytes.length := by
  rw [length_bytes]
  exact Nat.le_trans (Nat.le_add_right _ _) (le_align _)

theorem messageLength_bytes :
    messageLength (message.bytes ++ others) = headerLength + message.content.payload.length := by
  have stated : message.bytes ++ others =
      [] ++ (Bytes.littleEndian 8 (headerLength + message.content.payload.length) ++
        (Bytes.littleEndian 4 message.content.level.toNat ++
          Bytes.littleEndian 4 message.content.kind.toNat ++ message.content.payload ++
            message.padding ++ others)) := by
    simp only [bytes, header, List.nil_append, List.append_assoc]
  have fits := message.fits
  rw [messageLength, stated, Bytes.window_field List.length_nil (Bytes.length_littleEndian _ _),
    Bytes.littleEndianValue_littleEndian 8 (by norm_num; exact fits)]

theorem level_bytes : Bytes.littleEndianValue (Bytes.window 8 4 (message.bytes ++ others)) =
    message.content.level.toNat := by
  have stated : message.bytes ++ others =
      Bytes.littleEndian 8 (headerLength + message.content.payload.length) ++
        (Bytes.littleEndian 4 message.content.level.toNat ++
          (Bytes.littleEndian 4 message.content.kind.toNat ++ message.content.payload ++
            message.padding ++ others)) := by
    simp only [bytes, header, List.append_assoc]
  rw [stated, Bytes.window_field (Bytes.length_littleEndian _ _) (Bytes.length_littleEndian _ _),
    Bytes.littleEndianValue_littleEndian 4 message.content.level.toNat_lt]

theorem kind_bytes : Bytes.littleEndianValue (Bytes.window 12 4 (message.bytes ++ others)) =
    message.content.kind.toNat := by
  have stated : message.bytes ++ others =
      Bytes.littleEndian 8 (headerLength + message.content.payload.length) ++
          Bytes.littleEndian 4 message.content.level.toNat ++
        (Bytes.littleEndian 4 message.content.kind.toNat ++
          (message.content.payload ++ message.padding ++ others)) := by
    simp only [bytes, header, List.append_assoc]
  have starts : (Bytes.littleEndian 8 (headerLength + message.content.payload.length) ++
      Bytes.littleEndian 4 message.content.level.toNat).length = 12 := by
    rw [List.length_append, Bytes.length_littleEndian, Bytes.length_littleEndian]
  rw [stated, Bytes.window_field starts (Bytes.length_littleEndian _ _),
    Bytes.littleEndianValue_littleEndian 4 message.content.kind.toNat_lt]

theorem isCredentials_bytes : isCredentials (message.bytes ++ others) = true ↔
    message.content.level = 1 ∧ message.content.kind = 2 := by
  rw [isCredentials, level_bytes, kind_bytes, Bool.and_eq_true, decide_eq_true_eq,
    decide_eq_true_eq]
  exact and_congr (UInt32.toNat_inj (b := 1)) (UInt32.toNat_inj (b := 2))

theorem disguiseFirst_bytes :
    disguiseFirst (message.bytes ++ others) = message.fromRoot.bytes ++ others := by
  have marked := message.isCredentials_bytes others
  obtain ⟨content, padding, padded, fits⟩ := message
  cases content with
  | credentials process user group more =>
    have stated : (⟨.credentials process user group more, padding, padded, fits⟩ :
        ControlMessage).bytes ++ others =
        header (.credentials process user group more) ++ Bytes.littleEndian 4 process.toNat ++
          (Bytes.littleEndian 4 user.toNat ++ Bytes.littleEndian 4 group.toNat ++
            (more ++ padding ++ others)) := by
      simp only [bytes, Content.payload, List.append_assoc]
    have starts : (header (.credentials process user group more) ++
        Bytes.littleEndian 4 process.toNat).length = headerLength + 4 := by
      rw [List.length_append, length_header, Bytes.length_littleEndian]
    have long : (Bytes.littleEndian 4 user.toNat ++ Bytes.littleEndian 4 group.toNat).length =
        (List.replicate 8 (0 : UInt8)).length := by
      rw [List.length_append, Bytes.length_littleEndian, Bytes.length_littleEndian,
        List.length_replicate]
    rw [disguiseFirst, if_pos (marked.mpr ⟨rfl, rfl⟩), stated, clearOwner,
      Bytes.overlayAt_field starts long, bytes, fromRoot, header_fromRoot]
    simp only [Content.fromRoot, Content.payload, List.append_assoc]
    rfl
  | other level kind payload apart =>
    rw [disguiseFirst, if_neg (fun credentials => apart (marked.mp credentials))]
    rfl

theorem length_encode_fromRoot (messages : List ControlMessage) :
    (encode (messages.map fromRoot)).length = (encode messages).length := by
  induction messages with
  | nil => rfl
  | cons message messages ih =>
    rw [List.map_cons, encode, encode, List.flatMap_cons, List.flatMap_cons, List.length_append,
      List.length_append, length_bytes_fromRoot]
    exact congrArg _ ih

theorem disguiseAll_encode {limit : Nat} {messages : List ControlMessage}
    (within : (encode messages).length ≤ limit)
    (ends : limit < (encode messages).length + headerLength) (rest : Bytes) :
    disguiseAll limit (encode messages ++ rest) = encode (messages.map fromRoot) ++ rest := by
  induction messages generalizing limit with
  | nil =>
    have short : limit < headerLength := by simpa [encode] using ends
    rw [disguiseAll, if_pos short]
    rfl
  | cons message messages ih =>
    have first : encode (message :: messages) ++ rest =
        message.bytes ++ (encode messages ++ rest) := by
      rw [encode, List.flatMap_cons, List.append_assoc]
      rfl
    have total : (encode (message :: messages)).length =
        message.bytes.length + (encode messages).length := by
      rw [encode, List.flatMap_cons, List.length_append]
      rfl
    have holds := message.headerLength_le_bytes
    have room : ¬ limit < headerLength := by omega
    have whole : ¬ messageLength (message.bytes ++ (encode messages ++ rest)) < headerLength := by
      rw [messageLength_bytes]
      omega
    have step : align (messageLength (message.bytes ++ (encode messages ++ rest))) =
        message.fromRoot.bytes.length := by
      rw [messageLength_bytes, length_bytes_fromRoot, length_bytes]
    have same := message.length_bytes_fromRoot
    rw [first, disguiseAll_of_whole room whole, step, disguiseFirst_bytes, List.take_left,
      List.drop_left, ih (by omega) (by omega), List.map_cons, encode, encode, List.flatMap_cons,
      List.append_assoc]

end ControlMessage

/-! Any buffer, also one that breaks off or whose messages reach into each other. -/

theorem getElem?_disguiseFirst (control : Bytes) (index : Nat) :
    (disguiseFirst control)[index]? = control[index]? ∨
      (disguiseFirst control)[index]? = some 0 := by
  unfold disguiseFirst
  split
  · rw [clearOwner, Bytes.getElem?_overlayAt]
    split
    · rename_i stored
      refine .inr ?_
      rw [List.length_replicate] at stored
      rw [List.getElem?_replicate, if_pos (by omega)]
    · exact .inl rfl
  · exact .inl rfl

variable {limit : Nat} {control : Bytes}

theorem getElem?_disguiseAll (room : ¬ limit < headerLength) (control : Bytes) (index : Nat) :
    (disguiseAll limit control)[index]? = (disguiseFirst control)[index]? ∨
      (disguiseAll limit control)[index]? = some 0 := by
  induction limit, control using disguiseAll.induct generalizing index with
  | case1 limit control short => exact absurd short room
  | case2 limit control _ last =>
    rw [disguiseAll_of_last room last]
    exact .inl rfl
  | case3 limit control _ changed step whole ih =>
    by_cases before : index < step
    · have first := congrArg (·[index]?) (take_disguiseAll room whole)
      simp only [List.getElem?_take] at first
      rw [if_pos before, if_pos before] at first
      exact .inl first
    · have place : step + (index - step) = index := by omega
      have behind := congrArg (·[index - step]?) (drop_disguiseAll room whole)
      simp only [List.getElem?_drop] at behind
      rw [place] at behind
      have kept : (changed.drop step)[index - step]? = changed[index]? := by
        rw [List.getElem?_drop, place]
      rw [behind]
      by_cases more : limit - step < headerLength
      · rw [disguiseAll, if_pos more]
        exact .inl kept
      · rcases ih more (index - step) with same | zero
        · rw [same, ← kept]
          exact getElem?_disguiseFirst _ _
        · exact .inr zero

theorem clearOwner_eq_self
    (zero : ∀ index, headerLength + 4 ≤ index → index < headerLength + 12 →
      index < control.length → control[index]? = some 0) : clearOwner control = control := by
  apply List.ext_getElem?
  intro index
  rw [clearOwner, Bytes.getElem?_overlayAt]
  split
  · rename_i stored
    obtain ⟨starts, ends, inside⟩ := stored
    rw [List.length_replicate] at ends
    rw [zero index starts ends inside, List.getElem?_replicate, if_pos (by omega)]
  · rfl

theorem disguiseFirst_disguiseAll (room : ¬ limit < headerLength) (control : Bytes) :
    disguiseFirst (disguiseAll limit control) = disguiseAll limit control := by
  by_cases credentials : isCredentials control = true
  · rw [disguiseFirst, isCredentials_disguiseAll room, if_pos credentials]
    apply clearOwner_eq_self
    intro index starts ends inside
    rw [length_disguiseAll] at inside
    rcases getElem?_disguiseAll room control index with same | zero
    · have stored : headerLength + 4 ≤ index ∧
          index < headerLength + 4 + (List.replicate 8 (0 : UInt8)).length ∧
          index < control.length := by
        rw [List.length_replicate]
        omega
      rw [same, disguiseFirst, if_pos credentials, clearOwner, Bytes.getElem?_overlayAt,
        if_pos stored, List.getElem?_replicate, if_pos (by omega)]
    · exact zero
  · rw [disguiseFirst, isCredentials_disguiseAll room, if_neg credentials]

theorem disguiseAll_disguiseAll (limit : Nat) (control : Bytes) :
    disguiseAll limit (disguiseAll limit control) = disguiseAll limit control := by
  induction limit, control using disguiseAll.induct with
  | case1 limit control short => rw [disguiseAll, if_pos short]
  | case2 limit control room last =>
    have again : messageLength (disguiseAll limit control) < headerLength := by
      rwa [messageLength_disguiseAll room]
    rw [disguiseAll_of_last room again, disguiseFirst_disguiseAll room]
  | case3 limit control room changed step whole ih =>
    have again : ¬ messageLength (disguiseAll limit control) < headerLength := by
      rwa [messageLength_disguiseAll room]
    calc disguiseAll limit (disguiseAll limit control)
        = changed.take step ++
            disguiseAll (limit - step) (disguiseAll (limit - step) (changed.drop step)) := by
          rw [disguiseAll_of_whole room again, messageLength_disguiseAll room,
            disguiseFirst_disguiseAll room, take_disguiseAll room whole,
            drop_disguiseAll room whole]
      _ = disguiseAll limit control := by
          rw [ih, disguiseAll_of_whole room whole]

namespace Message

/-- The control buffer holds just these control messages. Behind them is no room for a header. -/
structure Holds (message : Message) (messages : List ControlMessage) (rest : Bytes) : Prop where
  control : message.control = some (ControlMessage.encode messages ++ rest)
  within : (ControlMessage.encode messages).length ≤ message.controlLength
  ends : message.controlLength < (ControlMessage.encode messages).length + headerLength

variable (message : Message) (room : Nat)

theorem Holds.disguise {message : Message} {messages : List ControlMessage} {rest : Bytes}
    (holds : message.Holds messages rest) (room : Nat) :
    (message.disguise room).Holds (messages.map ControlMessage.fromRoot) rest := by
  obtain ⟨control, length, -⟩ := message.disguise_buffers room
  have same := ControlMessage.length_encode_fromRoot messages
  constructor
  · rw [control, holds.control, Option.map_some,
      ControlMessage.disguiseAll_encode holds.within holds.ends]
  · rw [length, same]
    exact holds.within
  · rw [length, same]
    exact holds.ends

/-- The sender's name after disguising, with the length that is stated for it. -/
theorem disguise_name :
    ((message.disguise room).name, (message.disguise room).nameLength) =
      match message.name with
      | some name =>
        if 12 ≤ room then (some (Bytes.overlay kernelAddress name), 12)
        else (some name, message.nameLength)
      | none => (none, message.nameLength) := by
  unfold disguise disguiseControl disguiseName
  cases known : message.name with
  | none => simp only [known]
  | some name =>
    by_cases fits : 12 ≤ room
    · simp only [length_kernelAddress, fits, if_true]
    · simp only [length_kernelAddress, fits, if_false, known]

theorem disguiseName_disguiseName :
    (message.disguiseName room).disguiseName room = message.disguiseName room := by
  unfold disguiseName
  cases known : message.name with
  | none => simp only [known]
  | some name =>
    by_cases fits : kernelAddress.length ≤ room
    · simp only [fits, if_true, Bytes.overlay_overlay]
    · simp only [fits, if_false, known]

theorem disguiseControl_disguiseControl :
    message.disguiseControl.disguiseControl = message.disguiseControl := by
  unfold disguiseControl
  cases message.control with
  | none => rfl
  | some control => simp only [Option.map_some, disguiseAll_disguiseAll]

theorem disguiseName_disguiseControl :
    message.disguiseControl.disguiseName room = (message.disguiseName room).disguiseControl := by
  obtain ⟨name, nameLength, control, controlLength⟩ := message
  cases name with
  | none => rfl
  | some name =>
    by_cases fits : kernelAddress.length ≤ room
    · simp only [disguiseName, disguiseControl, fits, if_true]
    · simp only [disguiseName, disguiseControl, fits, if_false]

theorem disguise_disguise : (message.disguise room).disguise room = message.disguise room := by
  rw [disguise, disguise, disguiseName_disguiseControl, disguiseName_disguiseName,
    disguiseControl_disguiseControl]

/-- Disguising a message leaves all control messages in their places, with the root user as the
owner in all credentials and no other byte changed. The kernel's address is stored if the caller
gave room for it, as far as the buffer goes. A second time changes nothing. -/
theorem disguise_rewrites_credentials :
    let shown := message.disguise room
    (∀ messages rest, message.Holds messages rest →
      shown.Holds (messages.map ControlMessage.fromRoot) rest) ∧
    (message.control = none → shown.control = none) ∧
    shown.controlLength = message.controlLength ∧
    (∀ name, message.name = some name → 12 ≤ room →
      shown.name = some ([16, 0, 0, 0, 0, 0, 0, 0, 2, 0, 0, 0].take name.length ++ name.drop 12) ∧
        shown.nameLength = 12) ∧
    (message.name = none ∨ room < 12 →
      shown.name = message.name ∧ shown.nameLength = message.nameLength) ∧
    shown.disguise room = shown := by
  intro shown
  obtain ⟨control, length, -⟩ := message.disguise_buffers room
  have named := message.disguise_name room
  refine ⟨fun messages rest holds => holds.disguise room, ?_, length, ?_, ?_,
    message.disguise_disguise room⟩
  · intro missing
    rw [control, missing, Option.map_none]
  · intro name given fits
    simp only [given, if_pos fits, Prod.mk.injEq] at named
    rw [named.1, named.2, Bytes.overlay_eq]
    exact ⟨rfl, rfl⟩
  · intro untouched
    cases given : message.name with
    | none =>
      simp only [given, Prod.mk.injEq] at named
      exact named
    | some name =>
      have small : ¬ 12 ≤ room := by simpa [given] using untouched
      simp only [given, if_neg small, Prod.mk.injEq] at named
      exact named

/-- Two credentials between other messages, with bytes left behind them, and an address that is
longer than the kernel's. -/
theorem disguise_rewrites_credentials_of_mixed :
    let descriptors : ControlMessage :=
      { content := .other 1 1 [5, 0, 0, 0] (by decide), padding := [1, 2, 3, 4]
        padded := by decide, fits := by decide }
    let credentials (process user group : UInt32) : ControlMessage :=
      { content := .credentials process user group [8], padding := [6, 6, 6]
        padded := by simp [Content.payload, Bytes.length_littleEndian, align]
        fits := by simp [Content.payload, Bytes.length_littleEndian, headerLength] }
    let messages := [credentials 4242 1000 100, descriptors, credentials 7 0xFFFFFFFF 5]
    let message : Message :=
      { name := some (List.replicate 14 0xFF), nameLength := 2
        control := some (ControlMessage.encode messages ++ [9, 9, 9]), controlLength := 91 }
    let shown := message.disguise 14
    message.Holds messages [9, 9, 9] ∧
      shown.control = some (ControlMessage.encode
        [credentials 4242 0 0, descriptors, credentials 7 0 0] ++ [9, 9, 9]) ∧
      shown.name = some [16, 0, 0, 0, 0, 0, 0, 0, 2, 0, 0, 0, 0xFF, 0xFF] ∧
      shown.nameLength = 12 ∧ shown.disguise 14 = shown := by
  intro descriptors credentials messages message shown
  obtain ⟨rewritten, -, -, named, -, twice⟩ := disguise_rewrites_credentials message 14
  have holds : message.Holds messages [9, 9, 9] := ⟨rfl, by decide, by decide⟩
  obtain ⟨name, length⟩ := named _ rfl (by decide)
  exact ⟨holds, (rewritten _ _ holds).control, name, length, twice⟩

end Message

end Uevent

end DeviceTestbed
