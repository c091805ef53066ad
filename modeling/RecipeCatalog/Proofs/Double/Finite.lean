import Mathlib
import RecipeCatalog.Catalog.Recipe

/-!
# Finite doubles

Which doubles the catalogue builds are finite, read off their bit patterns: a double is finite
exactly when its eleven exponent bits are not all ones. From that,

* `Double.assemble_isFinite` — a significand below `2^53` with an exponent below the infinite
  one assembles to a finite double;
* `Double.isFinite_of_ofInt?` — **every integer that has a nearest double has a finite one**,
  since `overflowBound` stops short of the binade that rounds to infinity;
* `Column.real_eq_of_pos`, `Column.real_isFinite`, `Column.real_nonneg` — storage keeps a
  positive double, a finite one and a non-negative one as it was given;
* `Float.eq_zero_or_neg_zero_of_beq_zero` — a double equal to zero is one of the two zeros, so
  `Column.real_eq_self_iff`: storage gives back every double but the negative zero unchanged.
-/

set_option autoImplicit false

open Float.Model

namespace RecipeCatalog

/-! ## Bit patterns -/

namespace Double

/-- The exponent bits of a packed double, as a number. -/
theorem unpackExponent_toNat (bv : BitVec 64) :
    (@UnpackedFloat.unpackExponent Format.binary64 bv).toNat = bv.toNat / 2 ^ 52 % 2 ^ 11 := by
  simp [UnpackedFloat.unpackExponent, BitVec.extractLsb, BitVec.extractLsb']
  omega

/-- The mantissa bits of a packed double, as a number. -/
theorem unpackMantissa_toNat (bv : BitVec 64) :
    (@UnpackedFloat.unpackMantissa Format.binary64 bv).toNat = bv.toNat % 2 ^ 52 := by
  simp [UnpackedFloat.unpackMantissa, BitVec.extractLsb, BitVec.extractLsb']

theorem isFinite_unpack {bv : BitVec 64}
    (he : (@UnpackedFloat.unpackExponent Format.binary64 bv).toNat ≠ 2047) :
    (UnpackedFloat.unpack Format.binary64 bv).isFinite = true := by
  unfold UnpackedFloat.unpack
  dsimp only
  split
  · rename_i h1
    rw [h1] at he
    exact absurd (by decide) he
  · split
    · split <;> rfl
    · rfl

/-- Packing a finite value whose biased exponent is below the infinite one keeps it finite. -/
theorem isFinite_unpack_pack (s : UnpackedFloat.Sign) (m : Nat) (e : Int) (hm : 0 < m)
    (he : (e + 1075).toNat < 2047) :
    (UnpackedFloat.unpack Format.binary64
      (UnpackedFloat.pack Format.binary64 (.finite s m e hm))).isFinite = true := by
  unfold UnpackedFloat.pack
  have hb : ¬ (2 ^ Format.binary64.exponentBits ≤ (e + ↑Format.binary64.exponentBias +
      ↑Format.binary64.mantissaBitsWithoutImplicit).toNat + 1) := by
    simp [Format.exponentBias]
    omega
  simp only [hb, if_false]
  split
  · apply isFinite_unpack
    rw [UnpackedFloat.unpackExponent_packComponents]
    simp [Format.exponentBias]
    omega
  · apply isFinite_unpack
    rw [UnpackedFloat.unpackExponent_packComponents]
    decide

/-- Bits whose exponent is not all ones unpack to a zero or to a finite value whose biased
exponent is below the infinite one. -/
theorem unpack_cases {bv : BitVec 64}
    (he : (@UnpackedFloat.unpackExponent Format.binary64 bv).toNat ≠ 2047) :
    (∃ s, UnpackedFloat.unpack Format.binary64 bv = .zero s) ∨
      ∃ s m e hm, UnpackedFloat.unpack Format.binary64 bv = .finite s m e hm ∧
        (e + 1075).toNat < 2047 := by
  have hlt : (@UnpackedFloat.unpackExponent Format.binary64 bv).toNat < 2048 :=
    BitVec.isLt _
  cases hu : UnpackedFloat.unpack Format.binary64 bv with
  | zero s => exact .inl ⟨s, rfl⟩
  | finite s m e hm =>
    refine .inr ⟨s, m, e, hm, rfl, ?_⟩
    unfold UnpackedFloat.unpack at hu
    dsimp only at hu
    split at hu
    · split at hu <;> cases hu
    · split at hu
      · rename_i h0
        split at hu
        · cases hu
        · cases hu
          rw [h0]
          simp [Format.exponentBias]
      · cases hu
        simp [Format.exponentBias]
        omega
  | infinity s =>
    exfalso
    unfold UnpackedFloat.unpack at hu
    dsimp only at hu
    split at hu
    · rename_i h1
      rw [h1] at he
      exact he (by decide)
    · split at hu
      · split at hu <;> cases hu
      · cases hu
  | notANumber =>
    exfalso
    unfold UnpackedFloat.unpack at hu
    dsimp only at hu
    split at hu
    · rename_i h1
      rw [h1] at he
      exact he (by decide)
    · split at hu
      · split at hu <;> cases hu
      · cases hu

/-- **A double is finite when its exponent bits are not all ones.** -/
theorem isFinite_ofBits (b : UInt64) (h : b.toNat / 2 ^ 52 % 2 ^ 11 ≠ 2047) :
    (Float.ofBits b).isFinite = true := by
  have he : (@UnpackedFloat.unpackExponent Format.binary64 b.toBitVec).toNat ≠ 2047 := by
    rw [unpackExponent_toNat]
    simpa using h
  show (UnpackedFloat.unpack Format.binary64 (UInt64.ofBitVec
    (UnpackedFloat.pack Format.binary64 (UnpackedFloat.unpack Format.binary64 b.toBitVec))).toBitVec).isFinite = true
  rw [UInt64.toBitVec_ofBitVec]
  rcases unpack_cases he with ⟨s, hs⟩ | ⟨s, m, e, hm, hs, hlt⟩
  · rw [hs]
    apply isFinite_unpack
    simp only [UnpackedFloat.pack, UnpackedFloat.packedZero,
      UnpackedFloat.unpackExponent_packComponents]
    decide
  · rw [hs]
    exact isFinite_unpack_pack s m e hm hlt

theorem natPow_eq (m n : Nat) : Nat.pow m n = m ^ n := rfl

/-- A significand below `2^53` with an exponent below the infinite one is a finite double. -/
theorem assemble_isFinite {neg : Bool} {m : Nat} {q : Int} (hm : m < 2 ^ 53)
    (hq : q + 1075 < 2047) : (assemble neg m q).isFinite = true := by
  unfold assemble
  dsimp only
  simp only [natPow_eq]
  split
  · refine isFinite_ofBits _ ?_
    rw [UInt64.toNat_ofNat']
    cases neg <;> simp only [if_true, if_false, Bool.false_eq_true] <;> omega
  · split
    · omega
    · refine isFinite_ofBits _ ?_
      rw [UInt64.toNat_ofNat']
      cases neg <;> simp only [if_true, if_false, Bool.false_eq_true] <;> omega

/-! ## Rounding a whole number -/

theorem roundHalfEven_cases (n d : Nat) :
    roundHalfEven n d = n / d ∨ (roundHalfEven n d = n / d + 1 ∧ d ≤ 2 * (n % d)) := by
  unfold roundHalfEven
  dsimp only
  split
  · right; omega
  · split
    · left; rfl
    · split
      · left; rfl
      · right; omega

theorem roundHalfEven_one (n : Nat) : roundHalfEven n 1 = n := by
  unfold roundHalfEven
  simp [Nat.mod_one]

/-- Rounding `n < 2^53 · d` to a multiple of `d` gives at most `2^53` multiples, and `2^53`
only from the upper half of the last step. -/
theorem roundHalfEven_le_top {n d : Nat} (hd : 0 < d) (hn : n < 2 ^ 53 * d) :
    roundHalfEven n d < 2 ^ 53 ∨ (roundHalfEven n d = 2 ^ 53 ∧ 2 ^ 54 * d ≤ 2 * n + d) := by
  have hq : n / d < 2 ^ 53 := (Nat.div_lt_iff_lt_mul hd).2 hn
  have hdm := Nat.div_add_mod n d
  rcases roundHalfEven_cases n d with h | ⟨h, hr⟩
  · left; omega
  · by_cases htop : n / d + 1 = 2 ^ 53
    · right
      have hq' : n / d = 2 ^ 53 - 1 := by omega
      rw [hq'] at hdm
      omega
    · left; omega

theorem floorLog2_one {n : Nat} (h : n ≠ 0) : floorLog2 n 1 = n.log2 := by
  have hle : 2 ^ n.log2 ≤ n := Nat.log2_self_le h
  have h1 : Nat.log2 1 = 0 := by decide
  unfold floorLog2
  simp [h1, hle]

/-- The double a significand and an exponent assemble to, with the carry of a significand
rounded up to `2^53`, is finite when the significand stays below `2^53`. -/
theorem isFinite_of_significand {neg : Bool} {m : Nat} {q : Int} (hm : m < 2 ^ 53)
    (hq : q + 1075 < 2047) :
    (if m = Nat.pow 2 53 then assemble neg (Nat.pow 2 52) (q + 1) else assemble neg m q).isFinite =
      true := by
  rw [natPow_eq, if_neg (Nat.ne_of_lt hm)]
  exact assemble_isFinite hm hq

/-- The nearest double to a whole number below `overflowBound` is finite. -/
theorem ofRatio_one_isFinite (neg : Bool) {n : Nat} (h : n < overflowBound) :
    (ofRatio neg n 1).isFinite = true := by
  -- the exponent 970 of the bound is kept symbolic, so no power of it is ever evaluated
  unfold overflowBound at h
  generalize hk : 970 = k at h
  simp only [natPow_eq] at h
  unfold ofRatio
  split
  · exact assemble_isFinite (by decide) (by decide)
  · rename_i hn
    have hn0 : n ≠ 0 := fun e => hn (.inl e)
    have hlo : 2 ^ n.log2 ≤ n := Nat.log2_self_le hn0
    have hhi : n < 2 ^ (n.log2 + 1) := Nat.lt_log2_self
    have hL : n.log2 < k + 54 := by
      refine (Nat.log2_lt hn0).2 ?_
      rw [Nat.pow_add]
      omega
    rw [floorLog2_one hn0]
    dsimp only
    have hq : max ((n.log2 : Int) - 52) (-1074) = (n.log2 : Int) - 52 := by omega
    rw [hq]
    by_cases h52 : 52 ≤ n.log2
    · -- the 53 leading bits of `n` are rounded off its lower bits
      have hge : ((n.log2 : Int) - 52 ≥ 0) := by omega
      have htn : ((n.log2 : Int) - 52).toNat = n.log2 - 52 := by omega
      rw [if_pos hge, htn, Nat.one_mul]
      simp only [natPow_eq]
      have hd : n < 2 ^ 53 * 2 ^ (n.log2 - 52) := by
        rw [← Nat.pow_add, show 53 + (n.log2 - 52) = n.log2 + 1 by omega]
        exact hhi
      rcases roundHalfEven_le_top (Nat.two_pow_pos _) hd with hm | ⟨hm, hcarry⟩
      · exact isFinite_of_significand hm (by omega)
      · rw [if_pos hm]
        refine assemble_isFinite (by decide) ?_
        -- a carry out of the top binade would need `n` at or above the overflow bound
        have htop : n.log2 ≠ k + 53 := by
          intro e
          rw [e, show k + 53 - 52 = k + 1 by omega, Nat.pow_succ] at hcarry
          omega
        omega
    · -- fewer than 53 bits are shifted up exactly
      have hlt : ¬ ((n.log2 : Int) - 52 ≥ 0) := by omega
      have htn : (-((n.log2 : Int) - 52)).toNat = 52 - n.log2 := by omega
      rw [if_neg hlt, htn, roundHalfEven_one]
      simp only [natPow_eq]
      have hm : n * 2 ^ (52 - n.log2) < 2 ^ 53 :=
        calc n * 2 ^ (52 - n.log2) < 2 ^ (n.log2 + 1) * 2 ^ (52 - n.log2) :=
              Nat.mul_lt_mul_of_pos_right hhi (Nat.two_pow_pos _)
          _ = 2 ^ 53 := by rw [← Nat.pow_add]; congr 1; omega
      exact isFinite_of_significand hm (by omega)

/-- **Every integer that has a nearest double has a finite one.** -/
theorem isFinite_of_ofInt? {n : Int} {x : Float} (h : ofInt? n = some x) : x.isFinite = true := by
  unfold ofInt? at h
  split at h
  · cases h
  · rename_i hb
    cases h
    exact ofRatio_one_isFinite _ (Nat.lt_of_not_le hb)

/-! ## Zeros -/

theorem unpack_zero_of_unpack {bv : BitVec 64} {s : UnpackedFloat.Sign}
    (h : UnpackedFloat.unpack Format.binary64 bv = .zero s) :
    @UnpackedFloat.unpackExponent Format.binary64 bv = 0#11 ∧
      @UnpackedFloat.unpackMantissa Format.binary64 bv = 0#52 := by
  unfold UnpackedFloat.unpack at h
  dsimp only at h
  split at h
  · split at h <;> cases h
  · split at h
    · rename_i he0
      split at h
      · exact ⟨he0, by assumption⟩
      · cases h
    · cases h

theorem toBits_eq_of_unpack_zero {x : Float} {s : UnpackedFloat.Sign}
    (h : x.toModel.unpack = .zero s) : x.toBits.toNat = 0 ∨ x.toBits.toNat = 2 ^ 63 := by
  obtain ⟨he, hm⟩ := unpack_zero_of_unpack h
  have he' := congrArg BitVec.toNat he
  have hm' := congrArg BitVec.toNat hm
  rw [unpackExponent_toNat] at he'
  rw [unpackMantissa_toNat] at hm'
  have hlt : x.toModel.toBits.toBitVec.toNat < 2 ^ 64 := BitVec.isLt _
  simp only [BitVec.toNat_ofNat, Nat.zero_mod, UInt64.toNat_toBitVec] at he' hm' hlt
  simp only [Float.toBits]
  omega

theorem eq_of_toBits_eq {x y : Float} (h : x.toBits = y.toBits) : x = y := by
  rcases x with ⟨⟨bx, vx⟩⟩
  rcases y with ⟨⟨_, _⟩⟩
  simp only [Float.toBits] at h
  subst h
  rfl

theorem unpack_positiveZero : (0.0 : Float).toModel.unpack = .zero .positive := rfl

/-- The doubles equal to zero are the two zeros. -/
theorem beq_zero_iff (x : Float) : (x == 0.0) = true ↔ ∃ s, x.toModel.unpack = .zero s := by
  show Float.Model.beq x.toModel (0.0 : Float).toModel = true ↔ _
  unfold Float.Model.beq
  rw [unpack_positiveZero]
  cases x.toModel.unpack with
  | zero s => simp [UnpackedFloat.beq, UnpackedFloat.compare]
  | finite s m e hm => cases s <;> simp [UnpackedFloat.beq, UnpackedFloat.compare]
  | infinity s => cases s <;> simp [UnpackedFloat.beq, UnpackedFloat.compare]
  | notANumber => simp [UnpackedFloat.beq, UnpackedFloat.compare]

theorem eq_zero_or_neg_zero_of_beq_zero {x : Float} (h : (x == 0.0) = true) :
    x = 0.0 ∨ x = -0.0 := by
  obtain ⟨s, hs⟩ := (beq_zero_iff x).1 h
  rcases toBits_eq_of_unpack_zero hs with h0 | h0
  · left
    apply eq_of_toBits_eq
    apply UInt64.toNat_inj.1
    rw [h0]
    decide
  · right
    apply eq_of_toBits_eq
    apply UInt64.toNat_inj.1
    rw [h0]
    decide

theorem beq_zero_of_pos {x : Float} (h : 0.0 < x) : (x == 0.0) = false := by
  cases hb : x == 0.0 with
  | false => rfl
  | true =>
    obtain ⟨s, hs⟩ := (beq_zero_iff x).1 hb
    have hlt : Float.Model.lt (0.0 : Float).toModel x.toModel = true := of_decide_eq_true h
    unfold Float.Model.lt at hlt
    rw [unpack_positiveZero, hs] at hlt
    simp [UnpackedFloat.lt, UnpackedFloat.compare] at hlt

end Double

/-! ## Doubles as storage gives them back -/

namespace Column

theorem real_eq_of_pos {x : Float} (h : 0.0 < x) : real x = x := by
  rw [real, Double.beq_zero_of_pos h]
  rfl

theorem real_isFinite {x : Float} (h : x.isFinite = true) : (real x).isFinite = true := by
  unfold real
  split
  · decide
  · exact h

theorem real_nonneg {x : Float} (h : 0.0 ≤ x) : 0.0 ≤ real x := by
  unfold real
  split
  · decide
  · exact h

/-- **Storage gives back every double but the negative zero unchanged.** -/
theorem real_eq_self_iff (x : Float) : real x = x ↔ x ≠ -0.0 := by
  constructor
  · rintro h rfl
    exact absurd h (by decide)
  · intro hx
    unfold real
    split
    · rename_i hz
      rcases Double.eq_zero_or_neg_zero_of_beq_zero hz with e | e
      · exact e.symm
      · exact absurd e hx
    · rfl

end Column

end RecipeCatalog
