import Mathlib.Algebra.GroupWithZero.Nat

/-!
# Integers in network order

The low bytes of a number with the most significant first, and reading them
back off the front of a byte string.
-/

namespace ExecutionHandoff.Library

/-- `width` bytes of a number. -/
def bigEndian : Nat → Nat → List UInt8
  | 0, _ => []
  | width + 1, value => UInt8.ofNat (value / 256 ^ width) :: bigEndian width value

/-- The number that bytes spell when they follow those of another number. -/
def fromBigEndian (value : Nat) (bytes : List UInt8) : Nat :=
  bytes.foldl (fun value byte => value * 256 + byte.toNat) value

/-- Read an integer off the front, unless too little is left. -/
def readBigEndian (width : Nat) (bytes : List UInt8) : Option (Nat × List UInt8) :=
  if width ≤ bytes.length then some (fromBigEndian 0 (bytes.take width), bytes.drop width)
  else none

@[simp] theorem bigEndian_length (width value : Nat) : (bigEndian width value).length = width := by
  induction width with
  | zero => rfl
  | succ width ih => exact congrArg Nat.succ ih

theorem fromBigEndian_bigEndian (width value front : Nat) :
    fromBigEndian front (bigEndian width value) = front * 256 ^ width + value % 256 ^ width := by
  induction width generalizing front with
  | zero => simp [bigEndian, fromBigEndian, Nat.mod_one]
  | succ width ih =>
      have byte : (UInt8.ofNat (value / 256 ^ width)).toNat = value / 256 ^ width % 256 :=
        UInt8.toNat_ofNat'
      calc fromBigEndian front (bigEndian (width + 1) value)
          = fromBigEndian (front * 256 + (UInt8.ofNat (value / 256 ^ width)).toNat)
              (bigEndian width value) := rfl
        _ = (front * 256 + value / 256 ^ width % 256) * 256 ^ width + value % 256 ^ width := by
            rw [ih, byte]
        _ = front * 256 ^ (width + 1) + value % 256 ^ (width + 1) := by
            rw [Nat.mod_pow_succ, Nat.pow_succ, Nat.add_mul, Nat.mul_assoc,
              Nat.mul_comm 256, Nat.mul_comm (value / 256 ^ width % 256)]
            omega

/-- What was written first is read first. -/
theorem readBigEndian_append {width value : Nat} (bound : value < 256 ^ width)
    (rest : List UInt8) :
    readBigEndian width (bigEndian width value ++ rest) = some (value, rest) := by
  have whole := bigEndian_length width value
  unfold readBigEndian
  rw [if_pos (by rw [List.length_append, whole]; exact Nat.le_add_right _ _),
    List.take_left' whole, List.drop_left' whole, fromBigEndian_bigEndian, Nat.zero_mul,
    Nat.zero_add, Nat.mod_eq_of_lt bound]

/-- Only the low bytes of a number are written. -/
theorem bigEndian_mod (width value : Nat) :
    bigEndian width (value % 256 ^ width) = bigEndian width value := by
  induction width generalizing value with
  | zero => rfl
  | succ width ih =>
      have first : UInt8.ofNat (value % 256 ^ (width + 1) / 256 ^ width) =
          UInt8.ofNat (value / 256 ^ width) := by
        rw [Nat.pow_succ, Nat.mod_mul_right_div_self]
        exact UInt8.toNat_inj.mp (by rw [UInt8.toNat_ofNat', UInt8.toNat_ofNat', Nat.mod_mod])
      rw [bigEndian, bigEndian, first, ← ih (value % 256 ^ (width + 1)),
        Nat.mod_mod_of_dvd _ (Nat.pow_dvd_pow 256 (Nat.le_succ width)), ih]

theorem fromBigEndian_cons (value : Nat) (byte : UInt8) (bytes : List UInt8) :
    fromBigEndian value (byte :: bytes) = fromBigEndian (value * 256 + byte.toNat) bytes := rfl

/-- The number that bytes spell follows the number before them. -/
theorem fromBigEndian_front (value : Nat) (bytes : List UInt8) :
    fromBigEndian value bytes = value * 256 ^ bytes.length + fromBigEndian 0 bytes := by
  induction bytes generalizing value with
  | nil => simp [fromBigEndian]
  | cons byte bytes ih =>
      rw [fromBigEndian_cons, fromBigEndian_cons, ih, ih (0 * 256 + byte.toNat),
        List.length_cons, Nat.pow_succ, Nat.add_mul, Nat.zero_mul, Nat.zero_add, Nat.mul_assoc,
        Nat.mul_comm 256, Nat.add_assoc]

theorem fromBigEndian_lt (bytes : List UInt8) : fromBigEndian 0 bytes < 256 ^ bytes.length := by
  induction bytes with
  | nil => exact Nat.one_pos
  | cons byte bytes ih =>
      have top := byte.toNat_lt
      rw [fromBigEndian_cons, fromBigEndian_front, Nat.zero_mul, Nat.zero_add, List.length_cons,
        Nat.pow_succ]
      calc byte.toNat * 256 ^ bytes.length + fromBigEndian 0 bytes
          < byte.toNat * 256 ^ bytes.length + 256 ^ bytes.length := Nat.add_lt_add_left ih _
        _ = (byte.toNat + 1) * 256 ^ bytes.length := (Nat.succ_mul _ _).symm
        _ ≤ 256 * 256 ^ bytes.length := Nat.mul_le_mul_right _ top
        _ = 256 ^ bytes.length * 256 := Nat.mul_comm _ _

/-- Bytes are the number they spell. -/
theorem bigEndian_fromBigEndian (bytes : List UInt8) :
    bigEndian bytes.length (fromBigEndian 0 bytes) = bytes := by
  induction bytes with
  | nil => rfl
  | cons byte bytes ih =>
      have rest := fromBigEndian_lt bytes
      have spelled : fromBigEndian 0 (byte :: bytes) =
          fromBigEndian 0 bytes + 256 ^ bytes.length * byte.toNat := by
        rw [fromBigEndian_cons, fromBigEndian_front, Nat.zero_mul, Nat.zero_add, Nat.add_comm,
          Nat.mul_comm]
      have first : fromBigEndian 0 (byte :: bytes) / 256 ^ bytes.length = byte.toNat := by
        rw [spelled, Nat.add_mul_div_left _ _ (Nat.pow_pos (by decide)), Nat.div_eq_of_lt rest,
          Nat.zero_add]
      rw [List.length_cons, bigEndian, first, UInt8.ofNat_toNat]
      refine congrArg (List.cons byte) ?_
      rw [← bigEndian_mod, spelled, Nat.add_mul_mod_self_left, Nat.mod_eq_of_lt rest, ih]

end ExecutionHandoff.Library
