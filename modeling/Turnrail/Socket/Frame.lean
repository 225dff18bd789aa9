import Turnrail.Bytes.BigEndian
import Turnrail.Foundation

/-!
# Outgoing WebSocket frames

`RouterSocket.frame` writes a payload as one unmasked frame, with the shortest
form of its length.  `ClientReader` is the reader of RFC 6455 on the other side.
It reads back the frames that were written, one after the other.
-/

namespace Turnrail

namespace RouterSocket

/-- The bytes of a 64-bit length, shifted out from 56 down to 0. -/
def wideLength (size : UInt64) : Data :=
  [7, 6, 5, 4, 3, 2, 1, 0].map fun index =>
    ((size >>> UInt64.ofNat (8 * index)) &&& 255).toUInt8

/-- A frame with a payload. -/
def frame (payload : Data) (opcode : UInt8) : Data :=
  [0x80 ||| opcode] ++ (if payload.length < 126 then [UInt8.ofNat payload.length]
    else if payload.length ≤ 65535 then
      [126, UInt8.ofNat (payload.length >>> 8), UInt8.ofNat (payload.length &&& 255)]
    else 127 :: wideLength (UInt64.ofNat payload.length)) ++ payload

end RouterSocket

/-- A length and its extension. -/
structure ShortestLength where
  field : UInt8
  extension : Data

/-- The shortest form of a length. -/
def shortestLength (length : Nat) : ShortestLength :=
  if length < 126 then ⟨UInt8.ofNat length, []⟩
  else if length < 65536 then ⟨126, Bytes.bigEndian 2 length⟩
  else ⟨127, Bytes.bigEndian 8 length⟩

theorem RouterSocket.wideLength_eq (size : UInt64) :
    RouterSocket.wideLength size = Bytes.bigEndian 8 size.toNat := by
  unfold RouterSocket.wideLength
  rw [List.map_congr_left fun index member =>
    Bytes.shift_and_byte size (by simp at member; omega)]
  rfl

theorem RouterSocket.frame_eq
    {payload : Data}
    (opcode : UInt8)
    (short : payload.length < 2 ^ 64) :
    RouterSocket.frame payload opcode =
      (0x80 ||| opcode) :: (shortestLength payload.length).field ::
        ((shortestLength payload.length).extension ++ payload) := by
  unfold RouterSocket.frame shortestLength
  by_cases tiny : payload.length < 126
  · simp [tiny]
  · by_cases small : payload.length < 65536
    · have narrow : payload.length ≤ 65535 := by omega
      have low : UInt8.ofNat (payload.length &&& 255) = UInt8.ofNat payload.length := by
        apply UInt8.toNat_inj.mp
        rw [UInt8.toNat_ofNat', UInt8.toNat_ofNat',
          show (255 : Nat) = 2 ^ 8 - 1 from rfl, Nat.and_two_pow_sub_one_eq_mod]
        exact Nat.mod_mod _ _
      have high : payload.length >>> 8 = payload.length / 256 := Nat.shiftRight_eq_div_pow _ 8
      simp [tiny, small, narrow, low, high, Bytes.bigEndian]
    · have wide : ¬ payload.length ≤ 65535 := by omega
      have size : (UInt64.ofNat payload.length).toNat = payload.length :=
        UInt64.toNat_ofNat_of_lt' short
      simp [tiny, small, wide, wideLength_eq, size]

theorem length_le_flatMap
    {bytes : α → Data}
    (filled : ∀ item, bytes item ≠ [])
    (items : List α) :
    items.length ≤ (items.flatMap bytes).length := by
  induction items with
  | nil => exact Nat.le_refl 0
  | cons item items ih =>
    have taken := List.length_pos_iff.mpr (filled item)
    rw [List.flatMap_cons, List.length_append, List.length_cons]
    omega

namespace ClientReader

/-- The opcode and the payload of a frame. -/
abbrev Frame := UInt8 × Data

/-- Read a length. -/
def readLength (field : UInt8) (input : Data) : Option (Nat × Data) :=
  if field.toNat < 126 then some (field.toNat, input)
  else
    let width := if field = 126 then 2 else 8
    let least := if field = 126 then 126 else 65536
    let length := Bytes.number (input.take width)
    if input.length < width ∨ length < least then none
    else some (length, input.drop width)

/-- Read a frame. -/
def readFrame : Data → Option (Frame × Data)
  | first :: field :: rest => do
    -- The last fragment, without reserved bits and without a mask.
    guard (first &&& 0xF0 = 0x80 ∧ field &&& 0x80 = 0)
    let (length, rest) ← readLength field rest
    guard (length ≤ rest.length)
    some ((first &&& 0x0F, rest.take length), rest.drop length)
  | _ => none

/-- Read frames to the end, at most as many as given. -/
def readFrames : Nat → Data → Option (List Frame)
  | _, [] => some []
  | 0, _ => none
  | limit + 1, input => do
    let (frame, rest) ← readFrame input
    let frames ← readFrames limit rest
    some (frame :: frames)

/-- Read all frames. -/
def read (input : Data) : Option (List Frame) :=
  readFrames input.length input

theorem readLength_shortest
    {length : Nat}
    (rest : Data)
    (fits : length < 2 ^ 64) :
    readLength (shortestLength length).field
        ((shortestLength length).extension ++ rest) = some (length, rest) := by
  unfold shortestLength
  by_cases tiny : length < 126
  · have field : (UInt8.ofNat length).toNat = length :=
      UInt8.toNat_ofNat_of_lt' (by simp [UInt8.size]; omega)
    simp [readLength, tiny, field]
  · have extended : ∀ {width least : Nat}, length < 256 ^ width → least ≤ length →
        (if (Bytes.bigEndian width length ++ rest).length < width ∨
            Bytes.number ((Bytes.bigEndian width length ++ rest).take width) < least then none
          else some (Bytes.number ((Bytes.bigEndian width length ++ rest).take width),
              (Bytes.bigEndian width length ++ rest).drop width)) =
          some (length, rest) := by
      intro width least narrow needs
      have size := Bytes.length_bigEndian width length
      rw [List.take_left' size, List.drop_left' size, Bytes.number_bigEndian narrow, if_neg]
      rw [List.length_append, size]
      omega
    by_cases small : length < 65536
    · rw [if_neg tiny, if_pos small]
      exact @extended 2 126 (by simpa using small) (by omega)
    · rw [if_neg tiny, if_neg small]
      exact @extended 8 65536 (by simpa using fits) (by omega)

theorem field_unmasked (length : Nat) :
    (shortestLength length).field &&& 0x80 = 0 := by
  unfold shortestLength
  split
  · rename_i tiny
    have bits : ∀ field : Fin 126, UInt8.ofNat field &&& 0x80 = 0 := by decide +kernel
    exact bits ⟨length, tiny⟩
  · split
    · exact (by decide : (126 : UInt8) &&& 0x80 = 0)
    · exact (by decide : (127 : UInt8) &&& 0x80 = 0)

/-- The opcodes that are written. -/
def Writes (frame : Frame) : Prop :=
  frame.1 = 1 ∧ frame.2.length < 2 ^ 63 ∨ (frame.1 = 8 ∨ frame.1 = 10) ∧ frame.2.length ≤ 125

variable {frame : Frame} {frames : List Frame}

theorem Writes.short (writes : Writes frame) : frame.2.length < 2 ^ 63 := by
  rcases writes with ⟨-, short⟩ | ⟨-, short⟩ <;> omega

theorem Writes.first
    {frame : Frame}
    (writes : Writes frame) :
    (0x80 ||| frame.1) &&& 0xF0 = 0x80 ∧
      (0x80 ||| frame.1) &&& 0x0F = frame.1 := by
  rcases writes with ⟨text, -⟩ | ⟨close | pong, -⟩
  · rw [text]
    decide
  · rw [close]
    decide
  · rw [pong]
    decide

theorem readFrame_frame
    (rest : Data)
    (writes : Writes frame) :
    readFrame (RouterSocket.frame frame.2 frame.1 ++ rest) =
      some (frame, rest) := by
  have short := writes.short
  obtain ⟨ends, opcode⟩ := writes.first
  have length := @readLength_shortest frame.2.length (frame.2 ++ rest) (by omega)
  have unmasked := field_unmasked frame.2.length
  rw [RouterSocket.frame_eq frame.1 (by omega), List.cons_append,
    List.cons_append, List.append_assoc]
  simp [readFrame, ends, opcode, unmasked, length, guard]

theorem readFrames_succ
    {input rest : Data}
    {limit : Nat}
    (first : readFrame input = some (frame, rest))
    (others : readFrames limit rest = some frames) :
    readFrames (limit + 1) input = some (frame :: frames) := by
  cases input with
  | nil => cases first
  | cons byte input => simp [readFrames, first, others]

theorem readFrames_frames
    (writes : ∀ frame ∈ frames, Writes frame)
    (more : Nat) :
    readFrames (frames.length + more) (frames.flatMap fun frame =>
        RouterSocket.frame frame.2 frame.1) = some frames := by
  induction frames with
  | nil => cases more <;> rfl
  | cons frame frames ih =>
    rw [List.flatMap_cons, List.length_cons, Nat.add_right_comm]
    exact readFrames_succ (readFrame_frame _ (writes frame List.mem_cons_self))
      (ih fun other member => writes other (List.mem_cons_of_mem _ member))

end ClientReader

/-- A client reads back exactly the frames that were written, with nothing left
over. -/
theorem outgoing_frames_are_read_back
    (frames : List ClientReader.Frame)
    (writes : ∀ frame ∈ frames, frame.1 = 1 ∧ frame.2.length < 2 ^ 63 ∨
        (frame.1 = 8 ∨ frame.1 = 10) ∧ frame.2.length ≤ 125) :
    ClientReader.read (frames.flatMap fun frame =>
      RouterSocket.frame frame.2 frame.1) = some frames := by
  have filled : ∀ frame : ClientReader.Frame, RouterSocket.frame frame.2 frame.1 ≠ [] := by
    intro frame
    simp [RouterSocket.frame]
  obtain ⟨more, enough⟩ := Nat.exists_eq_add_of_le (length_le_flatMap filled frames)
  rw [ClientReader.read, enough]
  exact ClientReader.readFrames_frames writes more

/-- A text of 126 bytes between a pong and a close frame is read back. -/
theorem extended_length_is_read_back :
    ClientReader.read ([(10, [1, 2]), (1, List.replicate 126 7),
          (8, [])].flatMap fun frame : ClientReader.Frame =>
        RouterSocket.frame frame.2 frame.1) =
      some [(10, [1, 2]), (1, List.replicate 126 7), (8, [])] :=
  outgoing_frames_are_read_back _ (by decide +kernel)

end Turnrail
