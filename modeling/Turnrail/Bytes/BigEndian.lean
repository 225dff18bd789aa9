import Mathlib.Data.List.Induction
import Mathlib.Tactic.Ring

/-!
# Numbers as bytes

A number is written with its most significant byte first.  Programs shift and
mask words to write it and shift and join bytes to read it; both agree with
division and remainder as long as the number fits.
-/

namespace Bytes

/-- The last bytes of a number, the most significant one first. -/
def bigEndian : Nat → Nat → List UInt8
  | 0, _ => []
  | width + 1, value => UInt8.ofNat (value / 256 ^ width) :: bigEndian width value

/-- The number that bytes stand for, the most significant one first. -/
def number (bytes : List UInt8) : Nat :=
  bytes.foldl (fun value byte => 256 * value + byte.toNat) 0

@[simp] theorem length_bigEndian (width value : Nat) :
    (bigEndian width value).length = width := by
  induction width with
  | zero => rfl
  | succ width ih => simp [bigEndian, ih]

theorem foldl_bigEndian (width value start : Nat) :
    (bigEndian width value).foldl (fun value byte => 256 * value +
        byte.toNat) start = start * 256 ^ width + value % 256 ^ width := by
  induction width generalizing start with
  | zero => simp [bigEndian, Nat.mod_one]
  | succ width ih =>
    have digit : (UInt8.ofNat (value / 256 ^ width)).toNat =
        value / 256 ^ width % 256 := UInt8.toNat_ofNat'
    have digits : value % 256 ^ (width + 1) =
        value % 256 ^ width + 256 ^ width * (value / 256 ^ width % 256) := by
      rw [Nat.pow_succ, Nat.mod_mul]
    rw [bigEndian, List.foldl_cons, ih, digit, digits]
    ring

theorem number_bigEndian
    {width value : Nat}
    (fits : value < 256 ^ width) :
    number (bigEndian width value) = value := by
  rw [number, foldl_bigEndian, Nat.zero_mul, Nat.zero_add, Nat.mod_eq_of_lt fits]

/-- The number that bytes stand for, computed in a machine word. -/
def word (bytes : List UInt8) : UInt64 :=
  bytes.foldl (fun value byte => (value <<< 8) ||| byte.toUInt64) 0

theorem toNat_shift_or
    {value : UInt64}
    (byte : UInt8)
    (fits : value.toNat < 2 ^ 56) :
    ((value <<< 8) ||| byte.toUInt64).toNat =
      256 * value.toNat + byte.toNat := by
  have small := byte.toNat_lt
  rw [UInt64.toNat_or, UInt64.toNat_shiftLeft, UInt8.toNat_toUInt64,
    show (8 : UInt64).toNat % 64 = 8 from rfl, Nat.shiftLeft_eq,
    Nat.mod_eq_of_lt (by omega), ← Nat.shiftLeft_eq,
    ← Nat.shiftLeft_add_eq_or_of_lt (by omega), Nat.shiftLeft_eq]
  omega

theorem number_concat
    (bytes : List UInt8)
    (byte : UInt8) :
    number (bytes ++ [byte]) = 256 * number bytes + byte.toNat := by
  simp [number]

theorem number_lt (bytes : List UInt8) : number bytes < 256 ^ bytes.length := by
  induction bytes using List.reverseRecOn with
  | nil => simp [number]
  | append_singleton bytes byte ih =>
    have small := byte.toNat_lt
    rw [number_concat, List.length_append, List.length_singleton, Nat.pow_succ]
    omega

theorem toNat_word
    {bytes : List UInt8}
    (short : bytes.length ≤ 8) :
    (word bytes).toNat = number bytes := by
  induction bytes using List.reverseRecOn with
  | nil => rfl
  | append_singleton bytes byte ih =>
    rw [List.length_append, List.length_singleton] at short
    have same := ih (by omega)
    have fits : (word bytes).toNat < 2 ^ 56 := by
      calc (word bytes).toNat = number bytes := same
        _ < 256 ^ bytes.length := number_lt bytes
        _ ≤ 256 ^ 7 := Nat.pow_le_pow_right (by decide) (by omega)
        _ = 2 ^ 56 := by decide
    rw [number_concat, ← same, ← toNat_shift_or byte fits]
    simp [word]

theorem shift_and_byte
    (value : UInt64)
    {shift : Nat}
    (small : shift < 8) :
    ((value >>> (UInt64.ofNat (8 * shift))) &&& 255).toUInt8 =
      UInt8.ofNat (value.toNat / 256 ^ shift) := by
  have amount : (UInt64.ofNat (8 * shift)).toNat % 64 = 8 * shift := by
    rw [UInt64.toNat_ofNat']
    omega
  apply UInt8.toNat_inj.mp
  rw [UInt64.toNat_toUInt8, UInt64.toNat_and, UInt64.toNat_shiftRight, amount,
    show (255 : UInt64).toNat = 2 ^ 8 - 1 from rfl,
    Nat.and_two_pow_sub_one_eq_mod, UInt8.toNat_ofNat', Nat.shiftRight_eq_div_pow,
    Nat.pow_mul]
  exact Nat.mod_mod _ 256

end Bytes
