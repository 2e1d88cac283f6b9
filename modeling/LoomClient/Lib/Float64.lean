import Mathlib

namespace LoomClient.Lib.Float64
open Float.Model UnpackedFloat

inductive FloatError where
  | valueError
  | overflowError
  deriving DecidableEq, Repr

-- From here on an integer is rounded past the largest double.
@[irreducible] def overflowBound : Nat := 2 ^ 1024 - 2 ^ 970

-- `float(n)` and `int(x)`
def ofInt (n : Int) : Except FloatError Float :=
  if overflowBound ≤ n.natAbs then .error .overflowError else .ok (Float.ofInt n)

def toInt (x : Float) : Except FloatError Int := match x.toModel.unpack with
  | .notANumber => .error .valueError
  | .infinity _ => .error .overflowError
  | .zero _ => .ok 0
  | .finite s m e _ => .ok (roundToInt s m e)

-- `x == n`, which compares the exact values.
def equalsInt (x : Float) (n : Int) : Bool := match x.toModel.unpack with
  | .notANumber => false
  | .infinity _ => false
  | .zero _ => n = 0
  | .finite s m e _ => if 0 ≤ e then s.apply (m * 2 ^ e.toNat) = n else s.apply m = n * 2 ^ (-e).toNat

theorem unpack_one : (Float.ofInt 1).toModel.unpack = .finite .positive (2 ^ 52) (-52) (by decide) := by rfl

theorem shift_back (m k : Nat) : (ExtendedMantissa.mk (m * 2 ^ k) false false) >>> k = ⟨m,false,false⟩ := by
  induction k generalizing m with
  | zero => simp [HShiftRight.hShiftRight,Nat.repeat]
  | succ k ih =>
    have earlier := ih (2 * m)
    have grown : 2 * m * 2 ^ k = m * 2 ^ (k + 1) := by rw [Nat.pow_succ]; ring
    rw [grown] at earlier
    have last : (ExtendedMantissa.mk (m * 2 ^ (k + 1)) false false) >>> (k + 1) =
        ((ExtendedMantissa.mk (m * 2 ^ (k + 1)) false false) >>> k).shiftRightOne := rfl
    rw [last,earlier]
    simp [ExtendedMantissa.shiftRightOne]

-- A finite double is 53 bits long unless it has the least exponent.
structure Shape (m : Nat) (e : Int) : Prop where
  filled : 0 < m
  short : m < 2 ^ 53
  least : -1074 ≤ e
  normal : 2 ^ 52 ≤ m ∨ e = -1074

theorem Shape.target (shape : Shape m e) : Format.binary64.targetExponent (totalExponent m e) ≤ e := by
  have low : m.log2 < 53 := (Nat.log2_lt (Nat.ne_of_gt shape.filled)).mpr shape.short
  have least := shape.least
  simp only [Format.targetExponent,totalExponent,Format.mantissaBits,Format.minExponent]
  omega

theorem Shape.settled (shape : Shape m e) : shiftToTargetExponent Format.binary64 m e .exact = (⟨m,false,false⟩,e) := by
  have amount : (Format.binary64.targetExponent (totalExponent m e) - e).toNat = 0 := by
    have target := shape.target
    omega
  simp only [shiftToTargetExponent,shiftToExponent,amount,ExtendedMantissa.ofMantissaAndAccuracy]
  exact congrArg _ (by omega)

theorem Shape.fixed (shape : Shape m e) (s : Sign) :
    roundWithAccuracy Format.binary64 s m e .exact = .finite s m e shape.filled := by
  have rounded : (ExtendedMantissa.mk m false false).roundedMantissa = m := rfl
  unfold roundWithAccuracy
  simp only [shape.settled,rounded,Nat.ne_of_gt shape.filled,dite_false]

theorem Shape.target_shifted (shape : Shape m e) :
    Format.binary64.targetExponent (totalExponent (m * 2 ^ 52) (e + -52)) = e := by
  have filled : m * 2 ^ 52 ≠ 0 := Nat.ne_of_gt (Nat.mul_pos shape.filled (Nat.two_pow_pos 52))
  have low : (m * 2 ^ 52).log2 < 105 := by
    have short := shape.short
    exact (Nat.log2_lt filled).mpr (by omega)
  have least := shape.least
  simp only [Format.targetExponent,totalExponent,Format.mantissaBits,Format.minExponent]
  rcases shape.normal with full | subnormal
  · have high : 104 ≤ (m * 2 ^ 52).log2 := (Nat.le_log2 filled).mpr (by omega)
    omega
  · omega

theorem Shape.round (shape : Shape m e) (s : Sign) :
    roundWithAccuracy Format.binary64 s (m * 2 ^ 52) (e + -52) .exact = .finite s m e shape.filled := by
  have first : shiftToTargetExponent Format.binary64 (m * 2 ^ 52) (e + -52) .exact = (⟨m,false,false⟩,e) := by
    have amount : (e - (e + -52)).toNat = 52 := by omega
    have back := shift_back m 52
    simp only [shiftToTargetExponent,shape.target_shifted,shiftToExponent,amount,ExtendedMantissa.ofMantissaAndAccuracy,back]
    exact congrArg _ (by omega)
  have rounded : (ExtendedMantissa.mk m false false).roundedMantissa = m := rfl
  unfold roundWithAccuracy
  simp only [first,rounded,shape.settled,Nat.ne_of_gt shape.filled,dite_false]

theorem sign_kept (s : Sign) : s * .positive = s := by cases s <;> rfl

abbrev one : UnpackedFloat := .finite .positive (2 ^ 52) (-52) (by decide)

theorem Shape.times_one (shape : Shape m e) (s : Sign) :
    mul Format.binary64 (.finite s m e shape.filled) one = .finite s m e shape.filled := by
  show roundWithAccuracy Format.binary64 (s * .positive) (m * 2 ^ 52) (e + -52) .exact = _
  rw [sign_kept]
  exact shape.round s

theorem mantissa_value (m : BitVec 52) : (1#1 ++ m).toNat = 2 ^ 52 + m.toNat := by
  rw [BitVec.toNat_append,← Nat.shiftLeft_add_eq_or_of_lt m.isLt]
  rfl

theorem pack_normal (s : Sign) (x : BitVec 11) (m : BitVec 52) (filled : 0 < (1#1 ++ m).toNat) (bounded : x ≠ -1#11) :
    pack Format.binary64 (.finite s (1#1 ++ m).toNat (x.toNat - 1075) filled) = packComponents Format.binary64 s x m := by
  have value := mantissa_value m
  have small := m.isLt
  have below : x.toNat + 1 < 2 ^ 11 := by
    have limit := x.isLt
    by_contra full
    refine bounded (BitVec.eq_of_toNat_eq ?_)
    rw [BitVec.neg_one_eq_allOnes,BitVec.toNat_allOnes]
    omega
  have biased : ((x.toNat : Int) - 1075 + 1023 + 52).toNat = x.toNat := by omega
  have length : (1#1 ++ m).toNat.log2 = 52 := by
    refine (Nat.log2_eq_iff (Nat.ne_of_gt filled)).mpr ?_
    omega
  have cut : BitVec.ofNat 52 (1#1 ++ m).toNat = m := by
    refine BitVec.eq_of_toNat_eq ?_
    rw [BitVec.toNat_ofNat,value]
    omega
  show (if 2 ^ 11 ≤ ((x.toNat : Int) - 1075 + 1023 + 52).toNat + 1 then _
    else if (1#1 ++ m).toNat.log2 + 1 = 53 then packComponents Format.binary64 s
      (BitVec.ofNat 11 ((x.toNat : Int) - 1075 + 1023 + 52).toNat) (BitVec.ofNat 52 (1#1 ++ m).toNat)
    else _) = _
  rw [biased,if_neg (Nat.not_le.mpr below),length,if_pos rfl,cut,BitVec.ofNat_toNat,BitVec.setWidth_eq]

theorem unpack_normal (s : Sign) (x : BitVec 11) (m : BitVec 52) (filled : 0 < (1#1 ++ m).toNat) (bounded : x ≠ -1#11)
    (normal : x ≠ 0#11) :
    UnpackedFloat.unpack Format.binary64 (packComponents Format.binary64 s x m) =
      .finite s (1#1 ++ m).toNat (x.toNat - 1075) filled := by
  have exponent : unpackExponent (packComponents Format.binary64 s x m) = x := unpackExponent_packComponents
  have mantissa : unpackMantissa (packComponents Format.binary64 s x m) = m := unpackMantissa_packComponents
  have sign : unpackSign (packComponents Format.binary64 s x m) = s.toBitVec := @unpackSign_packComponents Format.binary64 s x m
  unfold UnpackedFloat.unpack
  simp only [exponent,mantissa,sign,Sign.ofBitVec_toBitVec]
  rw [if_neg bounded,if_neg normal]
  rfl

theorem unpack_pack (s : Sign) (filled : 0 < m) (full : 2 ^ 52 ≤ m) (short : m < 2 ^ 53) (least : -1074 ≤ e) (most : e ≤ 971) :
    (Float.Model.pack (.finite s m e filled)).unpack = .finite s m e filled := by
  obtain ⟨x,exponent⟩ : ∃ x : BitVec 11, (x.toNat : Int) = e + 1075 := by
    refine ⟨BitVec.ofNat 11 (e + 1075).toNat,?_⟩
    rw [BitVec.toNat_ofNat]
    omega
  have mantissa : (1#1 ++ BitVec.ofNat 52 m).toNat = m := by
    rw [mantissa_value,BitVec.toNat_ofNat]
    omega
  have bounded : x ≠ -1#11 := by
    rintro rfl
    rw [BitVec.neg_one_eq_allOnes,BitVec.toNat_allOnes] at exponent
    omega
  have normal : x ≠ 0#11 := by
    rintro rfl
    rw [BitVec.toNat_zero] at exponent
    omega
  have back : (x.toNat : Int) - 1075 = e := by omega
  have written := pack_normal s x (BitVec.ofNat 52 m) (by omega) bounded
  have read := unpack_normal s x (BitVec.ofNat 52 m) (by omega) bounded normal
  simp only [mantissa,back] at written read
  show UnpackedFloat.unpack Format.binary64 (UnpackedFloat.pack Format.binary64 (.finite s m e filled)) = _
  rw [written,read]

-- The least exponent field holds what is short, the others add the implicit bit.
theorem unpack_shape (b : BitVec Format.binary64.numBits) (read : UnpackedFloat.unpack Format.binary64 b = .finite s m e filled) :
    Shape m e := by
  have short : (unpackMantissa b).toNat < 2 ^ 52 := (unpackMantissa b).isLt
  unfold UnpackedFloat.unpack at read
  dsimp only at read
  split at read
  · split at read
    all_goals cases read
  · split at read
    · rename_i least
      split at read
      · cases read
      · obtain ⟨-,rfl,rfl⟩ := UnpackedFloat.finite.inj read
        have exponent : ((unpackExponent b).toNat : Int) - (1023 + 52) + 1 = -1074 := by
          rw [least]
          rfl
        exact ⟨filled,by omega,exponent.ge,.inr exponent⟩
    · rename_i normal
      obtain ⟨-,rfl,rfl⟩ := UnpackedFloat.finite.inj read
      have value := mantissa_value (unpackMantissa b)
      have least : 1 ≤ (unpackExponent b).toNat := by
        refine Nat.pos_of_ne_zero fun zero => normal ?_
        exact BitVec.eq_of_toNat_eq zero
      have exponent : -1074 ≤ ((unpackExponent b).toNat : Int) - (1023 + 52) := by omega
      refine ⟨filled,?_,exponent,.inl ?_⟩
      all_goals omega

theorem product_one (u : UnpackedFloat) (shape : ∀ s m e filled, u = .finite s m e filled → Shape m e) :
    mul Format.binary64 u one = u := by
  cases u with
  | notANumber => rfl
  | infinity s => exact congrArg UnpackedFloat.infinity (sign_kept s)
  | zero s => exact congrArg UnpackedFloat.zero (sign_kept s)
  | finite s m e filled => exact (shape s m e filled rfl).times_one s

theorem times_one (x : Float) : x * Float.ofInt 1 = x := by
  obtain ⟨⟨bits,valid⟩⟩ := x
  show Float.ofModel (Float.Model.pack (mul Format.binary64 (UnpackedFloat.unpack Format.binary64 bits.toBitVec)
    (Float.ofInt 1).toModel.unpack)) = _
  rw [unpack_one,product_one _ fun s m e filled => unpack_shape bits.toBitVec]
  unfold Float.Model.pack
  congr 2
  rw [pack_unpack_of_valid valid]

theorem integer_shape (filled : 0 < k) (short : k < 2 ^ 53) : Shape (k * 2 ^ (52 - k.log2)) (-(52 - k.log2 : Nat)) ∧
    2 ^ 52 ≤ k * 2 ^ (52 - k.log2) := by
  have below : k.log2 < 53 := (Nat.log2_lt (Nat.ne_of_gt filled)).mpr short
  have low : 2 ^ k.log2 ≤ k := Nat.log2_self_le (Nat.ne_of_gt filled)
  have high : k < 2 ^ (k.log2 + 1) := Nat.lt_log2_self
  have full : 2 ^ 52 ≤ k * 2 ^ (52 - k.log2) := by
    calc 2 ^ 52 = 2 ^ k.log2 * 2 ^ (52 - k.log2) := by rw [← Nat.pow_add]; congr 1; omega
      _ ≤ k * 2 ^ (52 - k.log2) := Nat.mul_le_mul_right _ low
  have fits : k * 2 ^ (52 - k.log2) < 2 ^ 53 := by
    calc k * 2 ^ (52 - k.log2) < 2 ^ (k.log2 + 1) * 2 ^ (52 - k.log2) := Nat.mul_lt_mul_of_pos_right high (Nat.two_pow_pos _)
      _ = 2 ^ 53 := by rw [← Nat.pow_add]; congr 1; omega
  exact ⟨⟨by omega,fits,by omega,.inl full⟩,full⟩

theorem round_integer (filled : 0 < k) (short : k < 2 ^ 53) (s : Sign) :
    UnpackedFloat.round Format.binary64 s k 0 =
      .finite s (k * 2 ^ (52 - k.log2)) (-(52 - k.log2 : Nat)) (integer_shape filled short).1.filled := by
  have below : k.log2 < 53 := (Nat.log2_lt (Nat.ne_of_gt filled)).mpr short
  have amount : (0 - Format.binary64.targetExponent (totalExponent k 0)).toNat = 52 - k.log2 := by
    simp only [Format.targetExponent,totalExponent,Format.mantissaBits,Format.minExponent]
    omega
  unfold UnpackedFloat.round
  simp only [decreaseExponent,amount,Nat.shiftLeft_eq]
  rw [← (integer_shape filled short).1.fixed s]
  congr 1
  omega

-- A conversion of the runtime goes through a machine word and the zeroth power of ten.
theorem of_nat_small (short : k < 2 ^ 53) :
    Float.ofNat k = .ofModel (Float.Model.pack (UnpackedFloat.ofNat Format.binary64 k)) := by
  have sized : 0 < Float.exactlyRepresentablePowersOfTen.size := by decide
  have unit : Float.exactlyRepresentablePowersOfTen[0] = Float.ofInt 1 := by rfl
  have word : (k.toUInt64).toNat = k := by
    show k % 2 ^ 64 = k
    omega
  show Float.ofScientific k false 0 = _
  unfold Float.ofScientific
  rw [dif_pos ⟨short,by decide⟩]
  simp only [Bool.false_eq_true,if_false,unit]
  rw [times_one]
  show Float.ofModel (Float.Model.pack (UnpackedFloat.ofNat Format.binary64 k.toUInt64.toNat)) = _
  rw [word]

theorem unpack_of_nat (filled : 0 < k) (short : k < 2 ^ 53) : (Float.ofNat k).toModel.unpack =
    .finite .positive (k * 2 ^ (52 - k.log2)) (-(52 - k.log2 : Nat)) (integer_shape filled short).1.filled := by
  have shape := integer_shape filled short
  have positive : compare (k : Int) 0 = .gt := by
    rw [Int.compare_eq_gt]
    omega
  have rounded : UnpackedFloat.ofNat Format.binary64 k = UnpackedFloat.round Format.binary64 .positive k 0 := by
    show UnpackedFloat.normalize Format.binary64 (k : Int) 0 .positive = _
    unfold UnpackedFloat.normalize
    rw [positive]
    rfl
  rw [of_nat_small short,rounded,round_integer filled short]
  exact unpack_pack .positive shape.1.filled shape.2 shape.1.short shape.1.least (by omega)

theorem unpack_of_negative (filled : 0 < k) (short : k < 2 ^ 53) : (Float.ofNat k).neg.toModel.unpack =
    .finite .negative (k * 2 ^ (52 - k.log2)) (-(52 - k.log2 : Nat)) (integer_shape filled short).1.filled := by
  have shape := integer_shape filled short
  show (Float.Model.pack (Float.ofNat k).toModel.unpack.neg).unpack = _
  rw [unpack_of_nat filled short]
  exact unpack_pack .negative shape.1.filled shape.2 shape.1.short shape.1.least (by omega)

-- An integer is written with its highest bit at the top of the mantissa.
theorem integer_equals {k : Nat} (s : Sign) (filled : 0 < k) (short : k < 2 ^ 53)
    (read : x.toModel.unpack = .finite s (k * 2 ^ (52 - k.log2)) (-(52 - k.log2 : Nat)) (integer_shape filled short).1.filled) :
    equalsInt x (s.apply k) = true := by
  unfold equalsInt
  rw [read]
  dsimp only
  split
  · have whole : 52 - k.log2 = 0 := by omega
    simp [whole]
  · have back : (-(-(52 - k.log2 : Nat) : Int)).toNat = 52 - k.log2 := by omega
    rw [back,decide_eq_true_iff]
    cases s with
    | positive => simp [Sign.apply]
    | negative => simp [Sign.apply]

theorem of_int_exact (small : n.natAbs ≤ 2 ^ 53) : equalsInt (Float.ofInt n) n = true := by
  cases n with
  | ofNat k =>
    rcases Nat.eq_zero_or_pos k with rfl | filled
    · rfl
    rcases Nat.lt_or_eq_of_le small with short | edge
    · exact integer_equals .positive filled short (unpack_of_nat filled short)
    · rw [show k = 2 ^ 53 from edge]
      rfl
  | negSucc k =>
    rcases Nat.lt_or_eq_of_le small with short | edge
    · exact integer_equals .negative (Nat.succ_pos k) short (unpack_of_negative (Nat.succ_pos k) short)
    · rw [show k = 2 ^ 53 - 1 from Nat.succ.inj edge]
      rfl

theorem of_int_small (small : n.natAbs ≤ 2 ^ 53) : ofInt n = .ok (Float.ofInt n) := by
  have below : ¬overflowBound ≤ n.natAbs := by
    have room : 2 ^ 53 < overflowBound := by decide +kernel
    omega
  rw [ofInt,if_neg below]

end LoomClient.Lib.Float64
