import DeviceTestbed.Text.Bytes

/-!
What a file holds, kept as the stretches that were written to it. Writing at the end adds a stretch,
so a file that grows bit by bit is never copied.
-/

namespace DeviceTestbed

structure Content where
  stretches : List Bytes := []
  length : Nat := 0
  length_eq : length = stretches.flatten.length := by simp

namespace Content

def toBytes (content : Content) : Bytes :=
  content.stretches.reverse.flatten

def ofBytes (bytes : Bytes) : Content where
  stretches := [bytes]
  length := bytes.length

def append (content : Content) (bytes : Bytes) : Content where
  stretches := bytes :: content.stretches
  length := content.length + bytes.length
  length_eq := by simp [content.length_eq, Nat.add_comm]

/-- Stores bytes from an offset on. Zero bytes fill the gap behind a shorter content. -/
def patch (offset : Nat) (bytes content : Bytes) : Bytes :=
  if bytes = [] then content
  else content.take offset ++
    (List.replicate (offset - content.length) 0 ++ (bytes ++ content.drop (offset + bytes.length)))

def writeAt (content : Content) (offset : Nat) (bytes : Bytes) : Content :=
  if offset = content.length then content.append bytes
  else ofBytes (patch offset bytes content.toBytes)

@[simp] theorem toBytes_ofBytes (bytes : Bytes) : (ofBytes bytes).toBytes = bytes := by
  simp [toBytes, ofBytes]

theorem toBytes_append (content : Content) (bytes : Bytes) :
    (content.append bytes).toBytes = content.toBytes ++ bytes := by
  simp [toBytes, append]

theorem length_flatten_reverse (stretches : List Bytes) :
    stretches.reverse.flatten.length = stretches.flatten.length := by
  induction stretches with
  | nil => rfl
  | cons stretch rest ih => simp [ih, Nat.add_comm]

theorem length_toBytes (content : Content) : content.toBytes.length = content.length := by
  rw [toBytes, length_flatten_reverse, content.length_eq]

theorem patch_length (bytes content : Bytes) :
    patch content.length bytes content = content ++ bytes := by
  by_cases none : bytes = []
  · simp [patch, none]
  · simp [patch, none]

/-- Keeping stretches does not change what a write does. -/
theorem toBytes_writeAt (content : Content) (offset : Nat) (bytes : Bytes) :
    (content.writeAt offset bytes).toBytes = patch offset bytes content.toBytes := by
  by_cases atEnd : offset = content.length
  · rw [writeAt, if_pos atEnd, toBytes_append, atEnd, ← length_toBytes, patch_length]
  · rw [writeAt, if_neg atEnd, toBytes_ofBytes]

end Content

end DeviceTestbed
