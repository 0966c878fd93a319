import ExecutionHandoff.Library.BigEndian

/-!
# Reading bytes from the front

A reader takes bytes and integers in network order off the front of what is
left, and fails with an error of its own where too little is.
-/

namespace ExecutionHandoff.Library

variable {ε α : Type}

/-- A reader of the bytes that are left. -/
abbrev ByteCursor (ε : Type) := StateT (List UInt8) (Except ε)

namespace ByteCursor

def readByte (truncated : ε) : ByteCursor ε UInt8 := fun bytes =>
  match bytes with
  | [] => .error truncated
  | byte :: rest => .ok (byte, rest)

def readInteger (truncated : ε) (width : Nat) : ByteCursor ε Nat := fun bytes =>
  match readBigEndian width bytes with
  | none => .error truncated
  | some read => .ok read

/-- All that is left. -/
def remaining : ByteCursor ε (List UInt8) := fun bytes => .ok (bytes, bytes)

variable {truncated : ε}

theorem readByte_bind (byte : UInt8) (rest : List UInt8) (next : UInt8 → ByteCursor ε α) :
    (readByte truncated >>= next) (byte :: rest) = next byte rest := rfl

theorem readInteger_bind {width value : Nat} (bound : value < 256 ^ width) (rest : List UInt8)
    (next : Nat → ByteCursor ε α) :
    (readInteger truncated width >>= next) (bigEndian width value ++ rest) = next value rest := by
  have read : readInteger truncated width (bigEndian width value ++ rest) = .ok (value, rest) := by
    unfold readInteger
    rw [readBigEndian_append bound]
  change (readInteger truncated width (bigEndian width value ++ rest)).bind
    (fun read => next read.1 read.2) = next value rest
  rw [read]
  rfl

theorem remaining_bind (bytes : List UInt8) (next : List UInt8 → ByteCursor ε α) :
    (remaining >>= next) bytes = next bytes bytes := rfl

/-- A reader that got past a byte had one. -/
theorem readByte_ok {bytes : List UInt8} {next : UInt8 → ByteCursor ε α} {last : α × List UInt8}
    (passed : (readByte truncated >>= next) bytes = .ok last) :
    ∃ byte rest, bytes = byte :: rest ∧ next byte rest = .ok last := by
  cases bytes with
  | nil => cases passed
  | cons byte rest => exact ⟨byte, rest, rfl, passed⟩

/-- A reader that got past an integer had one. -/
theorem readInteger_ok {width : Nat} {bytes : List UInt8} {next : Nat → ByteCursor ε α}
    {last : α × List UInt8} (passed : (readInteger truncated width >>= next) bytes = .ok last) :
    ∃ value rest, value < 256 ^ width ∧ bytes = bigEndian width value ++ rest ∧
      next value rest = .ok last := by
  by_cases enough : width ≤ bytes.length
  · have size : (bytes.take width).length = width := List.length_take_of_le enough
    have bound := fromBigEndian_lt (bytes.take width)
    have spelled := bigEndian_fromBigEndian (bytes.take width)
    rw [size] at bound spelled
    have whole : bytes = bigEndian width (fromBigEndian 0 (bytes.take width)) ++ bytes.drop width := by
      rw [spelled, List.take_append_drop]
    refine ⟨_, _, bound, whole, ?_⟩
    rw [whole, readInteger_bind bound] at passed
    exact passed
  · have short : readInteger truncated width bytes = .error truncated := by
      unfold readInteger readBigEndian
      rw [if_neg enough]
    change (readInteger truncated width bytes).bind (fun read => next read.1 read.2) = .ok last at passed
    rw [short] at passed
    cases passed

end ByteCursor

/-- What begins with an integer of one width is told apart by the integer and by the rest. -/
theorem bigEndian_append_inj {width value other : Nat} {rest tail : List UInt8}
    (bound : value < 256 ^ width) (bound' : other < 256 ^ width)
    (same : bigEndian width value ++ rest = bigEndian width other ++ tail) :
    value = other ∧ rest = tail := by
  have read := readBigEndian_append bound rest
  rw [same, readBigEndian_append bound' tail] at read
  cases read
  exact ⟨rfl, rfl⟩

end ExecutionHandoff.Library
