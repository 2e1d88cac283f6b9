import LoomClient.Lib.Json

namespace LoomClient.Lib

abbrev Bytes := List UInt8

def hexDigitOf (n : Nat) : Nat := if n < 10 then n + 48 else n + 87

-- `bytes.hex`, in lower case.
def hex (b : Bytes) : Text := b.flatMap fun x => [hexDigitOf (x.toNat / 16),hexDigitOf (x.toNat % 16)]

def hexValue (c : Nat) : Option Nat :=
  if 48 ≤ c ∧ c ≤ 57 then some (c - 48)
  else if 97 ≤ c ∧ c ≤ 102 then some (c - 87)
  else if 65 ≤ c ∧ c ≤ 70 then some (c - 55)
  else none

def asciiSpace (c : Nat) : Bool := c = 32 || (9 ≤ c && c ≤ 13)

-- Behind the first digit of a byte, or between two bytes, where blanks may stand.
def fromHexFrom : Option Nat → Text → Option Bytes
  | none,[] => some []
  | some _,[] => none
  | none,c :: rest =>
    if asciiSpace c then fromHexFrom none rest
    else match hexValue c with
    | none => none
    | some high => fromHexFrom (some high) rest
  | some high,c :: rest => match hexValue c with
    | none => none
    | some low => (fromHexFrom none rest).map (UInt8.ofNat (high * 16 + low) :: ·)

-- `bytes.fromhex`, which raises a ValueError where this is none.
def fromHex (written : Text) : Option Bytes := fromHexFrom none written

-- `int.from_bytes(b, 'big')`
def fromBigEndian (b : Bytes) : Nat := b.foldl (fun n x => n * 256 + x.toNat) 0

theorem hex_digit_value (small : n < 16) : hexValue (hexDigitOf n) = some n := by
  unfold hexDigitOf hexValue
  split
  · rw [if_pos (by omega)]
    exact congrArg some (by omega)
  · rw [if_neg (by omega),if_pos (by omega)]
    exact congrArg some (by omega)

theorem hex_digit_black (n : Nat) : asciiSpace (hexDigitOf n) = false := by
  have black : ¬(hexDigitOf n = 32 ∨ 9 ≤ hexDigitOf n ∧ hexDigitOf n ≤ 13) := by
    unfold hexDigitOf
    split <;> omega
  simpa [asciiSpace] using black

theorem from_hex_hex (b : Bytes) : fromHex (hex b) = some b := by
  unfold fromHex
  induction b with
  | nil => rfl
  | cons x rest ih =>
    have below : x.toNat < 256 := x.toNat_lt
    have high := hex_digit_value (n := x.toNat / 16) (by omega)
    have low := hex_digit_value (n := x.toNat % 16) (Nat.mod_lt _ (by omega))
    have whole : x.toNat / 16 * 16 + x.toNat % 16 = x.toNat := by omega
    have written : hex (x :: rest) = hexDigitOf (x.toNat / 16) :: hexDigitOf (x.toNat % 16) :: hex rest := rfl
    rw [written,fromHexFrom,hex_digit_black,if_neg Bool.false_ne_true,high]
    simp only [fromHexFrom,low,ih,Option.map_some,whole,UInt8.ofNat_toNat]

end LoomClient.Lib
