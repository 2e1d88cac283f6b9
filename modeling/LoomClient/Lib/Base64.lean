import LoomClient.Lib.PercentEncoding

namespace LoomClient.Lib.Base64
open Percent
variable {t rest : List Char} {b : Bytes}

def digitCode (n : Nat) : Nat :=
  if n < 26 then n + 65 else if n < 52 then n + 71 else if n < 62 then n - 4 else if n = 62 then 43 else 47

def digit (n : Nat) : Char := Char.ofNat (digitCode n)

def value (c : Char) : Option Nat :=
  let n := c.toNat
  if 65 ≤ n ∧ n ≤ 90 then some (n - 65)
  else if 97 ≤ n ∧ n ≤ 122 then some (n - 71)
  else if 48 ≤ n ∧ n ≤ 57 then some (n + 4)
  else if n = 43 then some 62
  else if n = 47 then some 63
  else none

-- `base64.b64encode`
def encode : Bytes → List Char
  | [] => []
  | [x] => [digit (x.toNat / 4),digit (x.toNat % 4 * 16),'=','=']
  | [x,y] => [digit (x.toNat / 4),digit (x.toNat % 4 * 16 + y.toNat / 16),digit (y.toNat % 16 * 4),'=']
  | x :: y :: z :: rest =>
    digit (x.toNat / 4) :: digit (x.toNat % 4 * 16 + y.toNat / 16) :: digit (y.toNat % 16 * 4 + z.toNat / 64) ::
      digit (z.toNat % 64) :: encode rest

-- A strict reader: whole groups, padding at the end only, no bits left under it.
def decode : List Char → Option Bytes
  | [] => some []
  | p :: q :: r :: s :: rest =>
    if s = '=' then
      if rest ≠ [] then none
      else if r = '=' then do
        let p ← value p
        let q ← value q
        if q % 16 = 0 then some [UInt8.ofNat (p * 4 + q / 16)] else none
      else do
        let p ← value p
        let q ← value q
        let r ← value r
        if r % 4 = 0 then some [UInt8.ofNat (p * 4 + q / 16),UInt8.ofNat (q % 16 * 16 + r / 4)] else none
    else do
      let p ← value p
      let q ← value q
      let r ← value r
      let s ← value s
      let bytes ← decode rest
      return UInt8.ofNat (p * 4 + q / 16) :: UInt8.ofNat (q % 16 * 16 + r / 4) :: UInt8.ofNat (r % 4 * 64 + s) :: bytes
  | _ => none

theorem digit_point (n : Nat) : (digit n).toNat = digitCode n := by
  have small : digitCode n < 256 := by
    unfold digitCode
    split
    · omega
    · split
      · omega
      · split
        · omega
        · split <;> omega
  exact char_point small

theorem value_digit (small : n < 64) : value (digit n) = some n := by
  unfold value
  simp only [digit_point]
  unfold digitCode
  split
  · rw [if_pos (by omega)]
    exact congrArg some (by omega)
  · split
    · rw [if_neg (by omega),if_pos (by omega)]
      exact congrArg some (by omega)
    · split
      · rw [if_neg (by omega),if_neg (by omega),if_pos (by omega)]
        exact congrArg some (by omega)
      · split
        · rw [if_neg (by omega),if_neg (by omega),if_neg (by omega),if_pos rfl]
          exact congrArg some (by omega)
        · rw [if_neg (by omega),if_neg (by omega),if_neg (by omega),if_neg (by omega),if_pos rfl]
          exact congrArg some (by omega)

theorem digit_value (read : value c = some n) : digit n = c ∧ n < 64 := by
  have point : ∀ m, digitCode m = c.toNat → digit m = c := by
    intro m same
    unfold digit
    rw [same]
    exact Char.ofNat_toNat c
  unfold value at read
  simp only at read
  split at read
  · cases read
    refine ⟨point _ ?_,by omega⟩
    rw [digitCode,if_pos (by omega)]
    omega
  · split at read
    · cases read
      refine ⟨point _ ?_,by omega⟩
      rw [digitCode,if_neg (by omega),if_pos (by omega)]
      omega
    · split at read
      · cases read
        refine ⟨point _ ?_,by omega⟩
        rw [digitCode,if_neg (by omega),if_neg (by omega),if_pos (by omega)]
        omega
      · split at read
        · rename_i plus
          cases read
          exact ⟨point _ plus.symm,by omega⟩
        · split at read
          · rename_i slash
            cases read
            exact ⟨point _ slash.symm,by omega⟩
          · cases read

theorem value_pad : value '=' = none := rfl

theorem digit_filled (small : n < 64) : digit n ≠ '=' := by
  intro pad
  have read := value_digit small
  rw [pad,value_pad] at read
  cases read

theorem byte_again (x : UInt8) (same : n = x.toNat) : UInt8.ofNat n = x := by
  rw [same]
  exact UInt8.ofNat_toNat

theorem decode_encode (b : Bytes) : decode (encode b) = some b := by
  induction b using encode.induct with
  | case1 => rfl
  | case2 x =>
    have below := x.toNat_lt
    simp only [encode,decode,if_pos,value_digit (show x.toNat / 4 < 64 by omega),
      value_digit (show x.toNat % 4 * 16 < 64 by omega),Option.bind_eq_bind,Option.bind_some,ne_eq,not_true,if_false]
    rw [if_pos (by omega),byte_again x (by omega)]
  | case3 x y =>
    have first := x.toNat_lt
    have second := y.toNat_lt
    have filled := digit_filled (show y.toNat % 16 * 4 < 64 by omega)
    simp only [encode,decode,if_pos,if_neg filled,value_digit (show x.toNat / 4 < 64 by omega),
      value_digit (show x.toNat % 4 * 16 + y.toNat / 16 < 64 by omega),value_digit (show y.toNat % 16 * 4 < 64 by omega),
      Option.bind_eq_bind,Option.bind_some,ne_eq,not_true,if_false]
    rw [if_pos (by omega),byte_again x (by omega),byte_again y (by omega)]
  | case4 x y z rest ih =>
    have first := x.toNat_lt
    have second := y.toNat_lt
    have third := z.toNat_lt
    have filled := digit_filled (show z.toNat % 64 < 64 by omega)
    simp only [encode,decode,if_neg filled,value_digit (show x.toNat / 4 < 64 by omega),
      value_digit (show x.toNat % 4 * 16 + y.toNat / 16 < 64 by omega),
      value_digit (show y.toNat % 16 * 4 + z.toNat / 64 < 64 by omega),value_digit (show z.toNat % 64 < 64 by omega),
      ih,Option.bind_eq_bind,Option.bind_some,Option.pure_def]
    rw [byte_again x (by omega),byte_again y (by omega),byte_again z (by omega)]

theorem byte_point (small : n < 256) : (UInt8.ofNat n).toNat = n := Nat.mod_eq_of_lt small

-- The strict reader takes no other spelling.
theorem encode_decode (read : decode t = some b) : encode b = t := by
  induction t using decode.induct generalizing b with
  | case1 =>
    cases read
    rfl
  | case2 p q r rest behind => simp [decode,behind] at read
  | case3 p q rest alone =>
    have empty : rest = [] := not_not.mp alone
    subst empty
    simp only [decode,if_pos,ne_eq,not_true,if_false,Option.bind_eq_bind] at read
    obtain ⟨m,first,next⟩ := Option.bind_eq_some_iff.mp read
    obtain ⟨n,second,whole⟩ := Option.bind_eq_some_iff.mp next
    obtain ⟨rfl,_⟩ := digit_value first
    obtain ⟨rfl,_⟩ := digit_value second
    split at whole
    · cases whole
      simp only [encode,byte_point (show m * 4 + n / 16 < 256 by omega)]
      rw [show (m * 4 + n / 16) / 4 = m by omega,show (m * 4 + n / 16) % 4 * 16 = n by omega]
    · cases whole
  | case4 p q r rest alone filled =>
    have empty : rest = [] := not_not.mp alone
    subst empty
    simp only [decode,if_pos,if_neg filled,ne_eq,not_true,if_false,Option.bind_eq_bind] at read
    obtain ⟨m,first,next⟩ := Option.bind_eq_some_iff.mp read
    obtain ⟨n,second,onward⟩ := Option.bind_eq_some_iff.mp next
    obtain ⟨k,third,whole⟩ := Option.bind_eq_some_iff.mp onward
    obtain ⟨rfl,_⟩ := digit_value first
    obtain ⟨rfl,_⟩ := digit_value second
    obtain ⟨rfl,_⟩ := digit_value third
    split at whole
    · cases whole
      simp only [encode,byte_point (show m * 4 + n / 16 < 256 by omega),byte_point (show n % 16 * 16 + k / 4 < 256 by omega)]
      rw [show (m * 4 + n / 16) / 4 = m by omega,
        show (m * 4 + n / 16) % 4 * 16 + (n % 16 * 16 + k / 4) / 16 = n by omega,
        show (n % 16 * 16 + k / 4) % 16 * 4 = k by omega]
    · cases whole
  | case5 p q r s rest filled ih =>
    simp only [decode,if_neg filled,Option.bind_eq_bind] at read
    obtain ⟨m,first,next⟩ := Option.bind_eq_some_iff.mp read
    obtain ⟨n,second,onward⟩ := Option.bind_eq_some_iff.mp next
    obtain ⟨k,third,further⟩ := Option.bind_eq_some_iff.mp onward
    obtain ⟨l,fourth,behind⟩ := Option.bind_eq_some_iff.mp further
    obtain ⟨tail,later,whole⟩ := Option.bind_eq_some_iff.mp behind
    obtain ⟨rfl,_⟩ := digit_value first
    obtain ⟨rfl,_⟩ := digit_value second
    obtain ⟨rfl,_⟩ := digit_value third
    obtain ⟨rfl,_⟩ := digit_value fourth
    cases whole
    simp only [encode,byte_point (show m * 4 + n / 16 < 256 by omega),byte_point (show n % 16 * 16 + k / 4 < 256 by omega),
      byte_point (show k % 4 * 64 + l < 256 by omega),ih later]
    rw [show (m * 4 + n / 16) / 4 = m by omega,
      show (m * 4 + n / 16) % 4 * 16 + (n % 16 * 16 + k / 4) / 16 = n by omega,
      show (n % 16 * 16 + k / 4) % 16 * 4 + (k % 4 * 64 + l) / 64 = k by omega,
      show (k % 4 * 64 + l) % 64 = l by omega]
  | case6 t empty whole => simp [decode] at read

end LoomClient.Lib.Base64
