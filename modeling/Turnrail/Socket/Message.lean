import Turnrail.Socket.Frame
import Turnrail.Socket.Wire

/-!
# Incoming WebSocket messages

`RouterSocket.message` reads frames until a text message is complete, and
answers pings on the way.  However a client cuts its message into fragments and
puts control frames before them, the message is returned and nothing that
follows it is read.
-/

namespace Turnrail

open List

namespace RouterSocket

/-- A frame that was received. -/
structure IncomingFrame where
  final : Bool
  opcode : UInt8
  payload : Data

/-- What is known of the message that is being read. -/
structure Assembly where
  aggregate : Data := []
  fragmented : Bool := false

/-- Undo a mask of four bytes. -/
def unmask (mask payload : Data) : Data :=
  payload.mapIdx fun index byte => byte ^^^ mask.getD (index % 4) 0

/-- A length in bytes of its own, which must need them. -/
def extendedLength (width : Nat) (least : UInt64) : Call UInt64 := do
  let bytes ← read width
  let length := Bytes.word bytes
  ensure (least ≤ length) "Noncanonical WebSocket length."
  return length

/-- The length that the seven bits after the mask bit stand for. -/
def frameLength (field : UInt8) : Call UInt64 :=
  if field = 126 then extendedLength 2 126
  else if field = 127 then extendedLength 8 65536
  else pure field.toUInt64

/-- Read a frame. -/
def nextFrame (buffered : Nat) : Call IncomingFrame := do
  let bytes ← read 2
  let first := bytes.getD 0 0
  let second := bytes.getD 1 0
  let final : Bool := first &&& 0x80 ≠ 0
  let opcode := first &&& 0x0F
  ensure (first &&& 0x70 = 0 ∧ second &&& 0x80 ≠ 0)
    "WebSocket frames must be masked and uncompressed."
  let length ← frameLength (second &&& 0x7F)
  ensure (length.toNat ≤ maximumBytes ∧ buffered + length.toNat ≤ maximumBytes)
    "WebSocket message exceeds the supported size."
  ensure (8 ≤ opcode → final = true ∧ length ≤ 125) "Invalid WebSocket control frame."
  let mask ← read 4
  let payload ← read length.toNat
  return ⟨final, opcode, unmask mask payload⟩

/-- Add a fragment to the message.  Returns a message that is complete. -/
def addFragment (assembly : Assembly) (frame : IncomingFrame) :
    Call (Assembly ⊕ Option Data) := do
  let aggregate := assembly.aggregate ++ frame.payload
  if frame.final then do
    ensure (isUTF8 aggregate = true) "Invalid WebSocket UTF-8."
    return .inr (some aggregate)
  else return .inl ⟨aggregate, true⟩

/-- What a frame adds to a message. -/
def handle (assembly : Assembly) (frame : IncomingFrame) :
    Call (Assembly ⊕ Option Data) := do
  if frame.opcode = 8 then do
    ensure (frame.payload.length ≠ 1) "Invalid WebSocket close frame."
    write (RouterSocket.frame frame.payload 8)
    return .inr none
  else if frame.opcode = 9 then do
    write (RouterSocket.frame frame.payload 10)
    return .inl assembly
  else if frame.opcode = 10 then return .inl assembly
  else if frame.opcode = 1 then do
    ensure (assembly.fragmented = false) "Interleaved WebSocket messages are invalid."
    addFragment assembly frame
  else if frame.opcode = 0 then do
    ensure (assembly.fragmented = true) "Unexpected WebSocket continuation."
    addFragment assembly frame
  else throw ⟨"Only JSON text WebSocket messages are supported."⟩

/-- Read frames until the call returns, in at most as many turns as given. -/
def messageTurns : Nat → Assembly → Call (Option Data)
  | 0, _ => throw ⟨"The local connection closed or timed out."⟩
  | turns + 1, assembly => do
    let frame ← nextFrame assembly.aggregate.length
    match ← handle assembly frame with
    | .inl next => messageTurns turns next
    | .inr result => return result

/-- Read a message, or nothing when the client closes.  Every turn takes bytes
from the input, so that there are fewer turns than bytes. -/
def message : Call (Option Data) := do
  let wire ← get
  messageTurns (wire.input.length + 1) {}

end RouterSocket

/-- A frame of a client. -/
structure ClientFrame where
  final : Bool
  opcode : UInt8
  mask : Fin 4 → UInt8
  payload : Data

/-- The bytes of a frame. -/
def ClientFrame.bytes (frame : ClientFrame) : Data :=
  ((if frame.final then 0x80 else 0) ||| frame.opcode) ::
    (0x80 ||| (shortestLength frame.payload.length).field) ::
    ((shortestLength frame.payload.length).extension ++
      (ofFn frame.mask ++ frame.payload.mapIdx fun index byte =>
        byte ^^^ frame.mask (Fin.ofNat 4 index)))

/-- The control frames that may stand between fragments. -/
inductive Control
  | ping
  | pong
  deriving DecidableEq

/-- The opcode of a control. -/
def Control.opcode : Control → UInt8
  | .ping => 9
  | .pong => 10

/-- A control frame of a client. -/
structure ControlFrame where
  control : Control
  mask : Fin 4 → UInt8
  payload : Data
  short : payload.length ≤ 125

/-- A part of a message, and the control frames before it. -/
structure Fragment where
  controls : List ControlFrame
  mask : Fin 4 → UInt8
  payload : Data

/-- The frame of a control. -/
def ControlFrame.frame (control : ControlFrame) : ClientFrame :=
  ⟨true, control.control.opcode, control.mask, control.payload⟩

/-- The frames of a fragment. -/
def Fragment.frames (fragment : Fragment) (first last : Bool) :
    List ClientFrame :=
  fragment.controls.map ControlFrame.frame ++
    [⟨last, if first then 1 else 0, fragment.mask, fragment.payload⟩]

/-- The frames of the fragments that are left.  The first fragment of a message
is a text, the others continue it, and only the last one is final. -/
def fragmentFrames : Bool → List Fragment → List ClientFrame
  | _, [] => []
  | first, fragment :: rest => fragment.frames first rest.isEmpty ++ fragmentFrames false rest

/-- What is written for a control frame: a pong that echoes a ping. -/
def ControlFrame.answer (control : ControlFrame) : Data :=
  match control.control with
  | .ping => RouterSocket.frame control.payload 10
  | .pong => []

/-- What is written for the control frames before a fragment. -/
def Fragment.answers (fragment : Fragment) : Data :=
  fragment.controls.flatMap ControlFrame.answer

namespace RouterSocket

section Reading

variable {output rest : Data} {receives : Bool}

theorem field_masked (length : Nat) :
    (0x80 ||| (shortestLength length).field) &&& 0x80 ≠ 0 ∧
      (0x80 ||| (shortestLength length).field) &&& 0x7F =
        (shortestLength length).field := by
  unfold shortestLength
  split
  · rename_i tiny
    have bits : ∀ field : Fin 126, (0x80 ||| UInt8.ofNat field) &&& 0x80 ≠ 0 ∧
          (0x80 ||| UInt8.ofNat field) &&& 0x7F = UInt8.ofNat field := by
      decide +kernel
    exact bits ⟨length, tiny⟩
  · split
    · change (0x80 ||| 126) &&& 0x80 ≠ (0 : UInt8) ∧ (0x80 ||| 126) &&& 0x7F = (126 : UInt8)
      decide
    · change (0x80 ||| 127) &&& 0x80 ≠ (0 : UInt8) ∧ (0x80 ||| 127) &&& 0x7F = (127 : UInt8)
      decide

theorem returns_extendedLength
    {width length : Nat}
    {least : UInt64}
    (narrow : width ≤ 8)
    (fits : length < 256 ^ width)
    (needs : least.toNat ≤ length) :
    Returns (extendedLength width least) ⟨Bytes.bigEndian width length ++ rest,
        output, receives⟩ (UInt64.ofNat length) ⟨rest, output, receives⟩ := by
  have small : width ≤ maximumBytes := by
    unfold maximumBytes
    omega
  have wide : length < 2 ^ 64 :=
    calc length < 256 ^ width := fits
      _ ≤ 256 ^ 8 := Nat.pow_le_pow_right (by decide) narrow
      _ = 2 ^ 64 := by decide
  have word : Bytes.word (Bytes.bigEndian width length) = UInt64.ofNat length := by
    apply UInt64.toNat_inj.mp
    rw [Bytes.toNat_word (by simpa using narrow), Bytes.number_bigEndian fits,
      UInt64.toNat_ofNat_of_lt' wide]
  have enough : least ≤ UInt64.ofNat length := by
    rw [UInt64.le_iff_toNat_le, UInt64.toNat_ofNat_of_lt' wide]
    exact needs
  have read := @returns_read_append (Bytes.bigEndian width length)
    (by simpa using small) rest output receives
  rw [Bytes.length_bigEndian] at read
  refine Returns.bind read ?_
  rw [word]
  exact Returns.ensure enough (returns_pure.mpr ⟨rfl, rfl⟩)

theorem returns_frameLength
    {length : Nat}
    (fits : length < 2 ^ 64) :
    Returns (frameLength (shortestLength length).field)
      ⟨(shortestLength length).extension ++ rest,
        output, receives⟩ (UInt64.ofNat length) ⟨rest, output, receives⟩ := by
  unfold shortestLength
  by_cases tiny : length < 126
  · have field : (UInt8.ofNat length).toUInt64 = UInt64.ofNat length := by
      apply UInt64.toNat_inj.mp
      rw [UInt8.toNat_toUInt64, UInt8.toNat_ofNat', UInt64.toNat_ofNat']
      omega
    have fields : ∀ field : Fin 126,
        UInt8.ofNat field ≠ 126 ∧ UInt8.ofNat field ≠ 127 := by decide +kernel
    obtain ⟨short, long⟩ := fields ⟨length, tiny⟩
    simp only [if_pos tiny, frameLength, if_neg short, if_neg long, field]
    exact returns_pure.mpr ⟨rfl, rfl⟩
  · by_cases small : length < 65536
    · simp only [if_neg tiny, if_pos small]
      exact returns_extendedLength (by decide) (by simpa using small) (by simpa using tiny)
    · simp only [if_neg tiny, if_neg small]
      exact returns_extendedLength (by decide) (by simpa using fits) (by simpa using small)

theorem unmask_mask
    (mask : Fin 4 → UInt8)
    (payload : Data) :
    unmask (ofFn mask) (payload.mapIdx fun index byte =>
      byte ^^^ mask (Fin.ofNat 4 index)) = payload := by
  have same : ∀ index, (ofFn mask).getD (index % 4) 0 = mask (Fin.ofNat 4 index) := by
    intro index
    have inside : index % 4 < (ofFn mask).length := by
      rw [length_ofFn]
      exact Nat.mod_lt _ (by decide)
    rw [getD_eq_getElem?_getD, getElem?_eq_getElem inside,
      Option.getD_some, List.getElem_ofFn]
    rfl
  rw [unmask, mapIdx_mapIdx]
  apply ext_getElem
  · simp
  · intro index _ _
    simp only [getElem_mapIdx, Function.comp_apply, same,
      UInt8.xor_assoc, UInt8.xor_self, UInt8.xor_zero]

/-- A frame that a client may send. -/
structure Sends (buffered : Nat) (frame : ClientFrame) : Prop where
  opcode : frame.opcode = 0 ∨ frame.opcode = 1 ∨ frame.opcode = 9 ∨ frame.opcode = 10
  short : buffered + frame.payload.length ≤ maximumBytes
  control : 8 ≤ frame.opcode → frame.final = true ∧ frame.payload.length ≤ 125

theorem Sends.first
    {buffered : Nat}
    {frame : ClientFrame}
    (sends : Sends buffered frame) :
    decide (((if frame.final then 0x80 else 0) ||| frame.opcode) &&& 0x80 ≠ 0) =
        frame.final ∧
      ((if frame.final then 0x80 else 0) ||| frame.opcode) &&& 0x0F =
        frame.opcode ∧
      ((if frame.final then 0x80 else 0) ||| frame.opcode) &&& 0x70 = 0 := by
  rcases sends.opcode with opcode | opcode | opcode | opcode <;>
    rw [opcode] <;> cases frame.final <;> decide

theorem returns_nextFrame
    {buffered : Nat}
    {frame : ClientFrame}
    (sends : Sends buffered frame) :
    Returns (nextFrame buffered) ⟨frame.bytes ++ rest, output, receives⟩
      ⟨frame.final, frame.opcode, frame.payload⟩ ⟨rest, output, receives⟩ := by
  obtain ⟨final, opcode, reserved⟩ := sends.first
  obtain ⟨hasMask, field⟩ := field_masked frame.payload.length
  have short : frame.payload.length ≤ maximumBytes := (Nat.le_add_left _ _).trans sends.short
  have wide : frame.payload.length < 2 ^ 64 := short.trans_lt (by decide)
  have length : (UInt64.ofNat frame.payload.length).toNat =
      frame.payload.length := UInt64.toNat_ofNat_of_lt' wide
  have controls : 8 ≤ frame.opcode →
      frame.final = true ∧ UInt64.ofNat frame.payload.length ≤ 125 := by
    intro control
    obtain ⟨whole, few⟩ := sends.control control
    refine ⟨whole, ?_⟩
    rw [UInt64.le_iff_toNat_le, length]
    exact few
  let masked := frame.payload.mapIdx fun index byte => byte ^^^ frame.mask (Fin.ofNat 4 index)
  have same : masked.length = frame.payload.length := length_mapIdx
  have readMask := @returns_read_append (ofFn frame.mask)
    (by rw [length_ofFn]; decide) (masked ++ rest) output receives
  have readPayload :=
    @returns_read_append masked (by rw [same]; exact short) rest output receives
  rw [length_ofFn] at readMask
  rw [same, ← length] at readPayload
  rw [ClientFrame.bytes, cons_append, cons_append, append_assoc, append_assoc]
  refine Returns.bind
    (@returns_read_append [_, _] (by simp [maximumBytes]) _ output receives) ?_
  simp only [getD_cons_zero, getD_cons_succ, final, opcode, field]
  refine Returns.ensure ⟨reserved, hasMask⟩ ?_
  refine Returns.bind (returns_frameLength wide) ?_
  refine Returns.ensure (by rw [length]; exact ⟨short, sends.short⟩) ?_
  refine Returns.ensure (by simpa only [getD_cons_zero, final, opcode] using controls) ?_
  refine Returns.bind readMask (Returns.bind readPayload ?_)
  rw [unmask_mask]
  exact returns_pure.mpr ⟨rfl, rfl⟩

variable {turns : Nat} {result : Option Data} {assembly : Assembly} {after : Wire}

theorem Returns.turn
    {assembly next : Assembly}
    {frame : IncomingFrame}
    {before between later after : Wire}
    (read : Returns (nextFrame assembly.aggregate.length) before frame between)
    (handled : Returns (handle assembly frame) between (.inl next) later)
    (remaining : Returns (messageTurns turns next) later result after) :
    Returns (messageTurns (turns + 1) assembly) before result after :=
  Returns.bind read (Returns.bind handled remaining)

theorem returns_control
    (control : ControlFrame)
    (short : assembly.aggregate.length + 125 ≤ maximumBytes)
    (remaining : Returns (messageTurns turns assembly)
      ⟨rest, output ++ control.answer, true⟩ result after) :
    Returns (messageTurns (turns + 1) assembly)
      ⟨control.frame.bytes ++ rest, output, true⟩ result after := by
  have few := control.short
  have sends : Sends assembly.aggregate.length control.frame := by
    refine ⟨?_, ?_, fun _ => ⟨rfl, few⟩⟩
    · cases kind : control.control <;>
        simp [ControlFrame.frame, kind, Control.opcode]
    · exact (Nat.add_le_add_left few _).trans short
  refine Returns.turn (returns_nextFrame sends) ?_ remaining
  cases kind : control.control with
  | ping =>
    rw [ControlFrame.answer, kind, ControlFrame.frame, kind]
    have written : Returns (write (RouterSocket.frame control.payload 10))
      ⟨rest, output, true⟩ ()
        ⟨rest, output ++ RouterSocket.frame control.payload 10, true⟩ :=
      returns_write.mpr ⟨rfl, rfl⟩
    exact Returns.bind written (returns_pure.mpr ⟨rfl, rfl⟩)
  | pong =>
    rw [ControlFrame.answer, kind, ControlFrame.frame, kind, append_nil]
    exact returns_pure.mpr ⟨rfl, rfl⟩

theorem returns_controls
    (controls : List ControlFrame)
    (short : assembly.aggregate.length + 125 ≤ maximumBytes)
    (remaining : Returns (messageTurns turns assembly)
      ⟨rest, output ++ controls.flatMap ControlFrame.answer, true⟩ result
      after) :
    Returns (messageTurns (controls.length + turns) assembly)
      ⟨(controls.map ControlFrame.frame).flatMap ClientFrame.bytes ++ rest,
        output, true⟩ result after := by
  induction controls generalizing output with
  | nil => simpa using remaining
  | cons control controls ih =>
    rw [length_cons, Nat.add_right_comm, map_cons, flatMap_cons, append_assoc]
    refine returns_control control short (ih ?_)
    rw [append_assoc, ← flatMap_cons]
    exact remaining

theorem returns_addFragment
    {first : Bool}
    (order : assembly.fragmented = !first)
    (mask : Fin 4 → UInt8)
    (payload : Data)
    (last : Bool)
    (short : assembly.aggregate.length + payload.length ≤ maximumBytes) :
    Sends assembly.aggregate.length
        ⟨last, if first then 1 else 0, mask, payload⟩ ∧
      ∀ {before after result}, Returns (addFragment assembly
            ⟨last, if first then 1 else 0, payload⟩) before result after →
          Returns (handle assembly ⟨last, if first then 1 else 0, payload⟩)
            before result after := by
  cases first with
  | true =>
    refine ⟨⟨.inr (.inl rfl), short, fun large => by simp at large⟩, fun added => ?_⟩
    simpa [handle, order] using added
  | false =>
    refine ⟨⟨.inl rfl, short, fun large => by simp at large⟩, fun added => ?_⟩
    simpa [handle, order] using added

theorem returns_fragments
    {fragments : List Fragment}
    (some_left : fragments ≠ [])
    {first : Bool}
    {assembly : Assembly}
    (order : assembly.fragmented = !first)
    (short : (assembly.aggregate ++ fragments.flatMap Fragment.payload).length +
        125 ≤ maximumBytes)
    (encoded :
      isUTF8 (assembly.aggregate ++ fragments.flatMap Fragment.payload) = true)
    (more : Nat) :
    Returns
      (messageTurns ((fragmentFrames first fragments).length + more) assembly)
      ⟨(fragmentFrames first fragments).flatMap ClientFrame.bytes ++ rest,
        output,
        true⟩ (some (assembly.aggregate ++ fragments.flatMap Fragment.payload))
      ⟨rest, output ++ fragments.flatMap Fragment.answers, true⟩ := by
  induction fragments generalizing first assembly output with
  | nil => exact absurd rfl some_left
  | cons fragment fragments ih =>
    rw [flatMap_cons, ← append_assoc] at short encoded ⊢
    have fits : assembly.aggregate.length + fragment.payload.length + 125 ≤
        maximumBytes := by
      simp only [length_append] at short
      omega
    obtain ⟨sends, handles⟩ := returns_addFragment order fragment.mask
      fragment.payload fragments.isEmpty (by omega)
    rw [fragmentFrames, Fragment.frames, flatMap_append,
      flatMap_append, flatMap_singleton, length_append,
      length_append, length_map, length_singleton,
      append_assoc, append_assoc, Nat.add_assoc, Nat.add_assoc]
    refine returns_controls fragment.controls (by omega) ?_
    rw [Nat.add_comm 1]
    cases fragments with
    | nil =>
      have complete : Returns (addFragment assembly
          ⟨true, if first then 1 else 0, fragment.payload⟩)
          ⟨rest, output ++ fragment.answers, true⟩
          (.inr (some (assembly.aggregate ++ fragment.payload)))
          ⟨rest, output ++ fragment.answers, true⟩ :=
        Returns.ensure (by simpa using encoded) (returns_pure.mpr ⟨rfl, rfl⟩)
      refine Returns.bind (returns_nextFrame sends) (Returns.bind (handles complete) ?_)
      exact returns_pure.mpr (by simp [Fragment.answers])
    | cons second fragments =>
      have added : Returns
        (addFragment assembly ⟨false, if first then 1 else 0, fragment.payload⟩)
          ⟨(fragmentFrames false (second :: fragments)).flatMap
            ClientFrame.bytes ++ rest, output ++ fragment.answers, true⟩
          (.inl ⟨assembly.aggregate ++ fragment.payload, true⟩)
          ⟨(fragmentFrames false (second :: fragments)).flatMap
            ClientFrame.bytes ++ rest, output ++ fragment.answers, true⟩ :=
        returns_pure.mpr ⟨rfl, rfl⟩
      refine Returns.turn (returns_nextFrame sends) (handles added) ?_
      have answers : (fragment :: second :: fragments).flatMap
          Fragment.answers = fragment.answers ++
                (second :: fragments).flatMap Fragment.answers :=
        flatMap_cons
      rw [answers, ← append_assoc]
      have continues : (Assembly.mk (assembly.aggregate ++ fragment.payload)
          true).fragmented = !false := rfl
      exact ih (by simp) continues short encoded

end Reading

end RouterSocket

open RouterSocket in
/-- However a client cuts a text into fragments and puts pings and pongs before
them, the text is returned, each ping is answered, and nothing that follows is
read. -/
theorem fragmented_text_is_returned
    (text : Data)
    (encoded : isUTF8 text = true)
    (short : text.length ≤ 64 * 1024 * 1024 - 125)
    (fragments : List Fragment)
    (cut : fragments.flatMap Fragment.payload = text)
    (some_fragment : fragments ≠ [])
    (rest output : Data) :
    Returns message
      ⟨(fragmentFrames true fragments).flatMap ClientFrame.bytes ++ rest,
        output, true⟩
      (some text)
      ⟨rest, output ++ fragments.flatMap Fragment.answers, true⟩ := by
  subst cut
  have filled : ∀ frame : ClientFrame, frame.bytes ≠ [] := fun frame => cons_ne_nil _ _
  obtain ⟨more, enough⟩ := Nat.exists_eq_add_of_le
    (length_le_flatMap filled (fragmentFrames true fragments))
  have read := @returns_fragments output rest fragments some_fragment true {} rfl
    (by simp only [nil_append, maximumBytes]; omega) encoded
    (more + rest.length + 1)
  refine Returns.bind (returns_get.mpr ⟨rfl, rfl⟩) ?_
  rw [length_append, enough]
  simpa only [Nat.add_assoc, nil_append] using read

open RouterSocket in
/-- A text in two parts, with a ping between them. -/
theorem text_around_ping_is_returned :
    Returns message
      ⟨(fragmentFrames true [⟨[], fun _ => 7, utf8 "\x7b"⟩,
          ⟨[⟨.ping, fun _ => 9, [1, 2], by decide⟩], fun _ => 0,
            utf8 "\x7d"⟩]).flatMap ClientFrame.bytes ++ [5], [], true⟩
      (some (utf8 "\x7b\x7d")) ⟨[5], [138, 2, 1, 2], true⟩ :=
  fragmented_text_is_returned (utf8 "\x7b\x7d") (by decide +kernel)
    (by decide +kernel) _ (by decide +kernel) (by simp) [5] []

end Turnrail
