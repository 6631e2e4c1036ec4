import Mathlib.Data.ZMod.Basic
import Mathlib.Tactic

/-!
# Go numbers

The finite `float64` values, the conversions `int(x)` and `uint32(x)` of a
float, and the detour `uint32(int(h) + n)` of a `uint32` through `int`
(64 bits wide).

The language fixes a float conversion only where the truncated value fits the
target type; elsewhere the result depends on the implementation. `FloatConv` is
any conversion that keeps what the language promises, `amd64` the one of the gc
compiler on that machine.
-/

namespace Go

/-- A finite `float64`, as the rational it denotes. Negative zero is not told
apart from zero: no comparison and no conversion to an integer does. -/
structure Float64 where
  val : ℚ
  finite : ∃ m e : ℤ, |m| < 2 ^ 53 ∧ -1074 ≤ e ∧ e ≤ 971 ∧ val = m * 2 ^ e

namespace Float64

@[ext] theorem ext {x y : Float64} (h : x.val = y.val) : x = y := by
  cases x; cases y; cases h; rfl

instance : DecidableEq Float64 := fun x y => decidable_of_iff (x.val = y.val) ⟨ext, congrArg val⟩

/-- An integer of at most 53 bits. -/
def ofInt (n : ℤ) (h : |n| < 2 ^ 53) : Float64 := ⟨n, n, 0, h, by decide, by decide, by simp⟩

/-- `float64(n)` of a `uint32`. -/
def ofUInt32 (n : UInt32) : Float64 :=
  ofInt n.toNat (by have := n.toNat_lt; rw [abs_of_nonneg (by omega)]; omega)

instance : Zero Float64 := ⟨ofUInt32 0⟩

@[simp] theorem ofInt_val (n : ℤ) (h : |n| < 2 ^ 53) : (ofInt n h).val = n := rfl
@[simp] theorem ofUInt32_val (n : UInt32) : (ofUInt32 n).val = n.toNat := rfl
@[simp] theorem zero_val : (0 : Float64).val = 0 := rfl

theorem ofUInt32_inj {a b : UInt32} (h : ofUInt32 a = ofUInt32 b) : a = b := by
  have e := congrArg val h
  simp only [ofUInt32_val, Nat.cast_inj] at e
  exact UInt32.toNat_inj.1 e

/-- The value with its fraction discarded. -/
def trunc (x : Float64) : ℤ := x.val.num.tdiv x.val.den

theorem trunc_intCast {x : Float64} {n : ℤ} (h : x.val = n) : x.trunc = n := by
  simp [trunc, h]

end Float64

/-- Conversions from float that truncate wherever the truncated value fits. -/
structure FloatConv where
  int : Float64 → Int64
  uint32 : Float64 → UInt32
  int_trunc : ∀ x, -2 ^ 63 ≤ x.trunc → x.trunc < 2 ^ 63 → (int x).toInt = x.trunc
  uint32_trunc : ∀ x, 0 ≤ x.trunc → x.trunc < 2 ^ 32 → ((uint32 x).toNat : ℤ) = x.trunc

/-- `CVTTSD2SQ`: the truncation, or the least `int64` when it does not fit. -/
def amd64Int (x : Float64) : Int64 :=
  if -2 ^ 63 ≤ x.trunc ∧ x.trunc < 2 ^ 63 then Int64.ofInt x.trunc else Int64.minValue

theorem amd64Int_toInt {x : Float64} (lo : -2 ^ 63 ≤ x.trunc) (hi : x.trunc < 2 ^ 63) :
    (amd64Int x).toInt = x.trunc := by
  rw [amd64Int, if_pos ⟨lo, hi⟩, Int64.toInt_ofInt_of_le lo hi]

/-- The low half of an `int` is its value modulo `2 ^ 32`. -/
theorem toUInt32_toNat (n : Int64) : (n.toUInt64.toUInt32.toNat : ℤ) = n.toInt % 2 ^ 32 := by
  have cond := BitVec.toInt_eq_toNat_cond n.toBitVec
  have lt := n.toUInt64.toNat_lt
  rw [UInt64.toNat_toUInt32]
  rw [Int64.toInt_toBitVec, Int64.toNat_toBitVec] at cond
  split at cond <;> omega

/-- The gc compiler on amd64; a `uint32` is the low half of the 64-bit result. -/
def amd64 : FloatConv where
  int := amd64Int
  uint32 x := (amd64Int x).toUInt64.toUInt32
  int_trunc _ lo hi := amd64Int_toInt lo hi
  uint32_trunc x lo hi := by
    have e := amd64Int_toInt (x := x) (by omega) (by omega)
    rw [toUInt32_toNat, e, Int.emod_eq_of_lt lo hi]

namespace FloatConv
variable (cv : FloatConv)

@[simp] theorem int_ofUInt32 (n : UInt32) : (cv.int (Float64.ofUInt32 n)).toInt = n.toNat := by
  have lt := n.toNat_lt
  have e : (Float64.ofUInt32 n).trunc = (n.toNat : ℤ) := Float64.trunc_intCast (by simp)
  rw [cv.int_trunc _ (by omega) (by omega), e]

end FloatConv

/-! ## `uint32` arithmetic through `int` -/

/-- `int(h)` of a `uint32`. -/
def intOf (h : UInt32) : Int64 := h.toUInt64.toInt64

/-- `uint32(int(h) + n)`. -/
def addInt (h : UInt32) (n : Int64) : UInt32 := (intOf h + n).toUInt64.toUInt32

theorem addInt_eq (h : UInt32) (n : Int64) : addInt h n = h + n.toUInt64.toUInt32 := by
  simp [addInt, intOf]

theorem toUInt32_toInt64 (n : Int32) : n.toInt64.toUInt64.toUInt32 = n.toUInt32 := by
  rw [← UInt32.toBitVec_inj]
  ext i small
  have wide : i < 64 := small.trans (by decide)
  simp only [UInt64.toBitVec_toUInt32, Int64.toBitVec_toUInt64, Int32.toBitVec_toInt64, Int32.toBitVec_toUInt32,
    BitVec.getElem_setWidth, wide, BitVec.getLsbD_eq_getElem]
  rw [BitVec.getElem_signExtend, dif_pos small]

/-- The sum is reduced modulo `2 ^ 32`. -/
theorem addInt_toNat (h : UInt32) (n : Int64) : ((addInt h n).toNat : ℤ) = (h.toNat + n.toInt) % 2 ^ 32 := by
  have low := toUInt32_toNat n
  rw [addInt_eq, UInt32.toNat_add]
  push_cast
  omega

theorem intOf_toInt (h : UInt32) : (intOf h).toInt = h.toNat := by
  have lt := h.toNat_lt
  have cond := BitVec.toInt_eq_toNat_cond (intOf h).toBitVec
  rw [Int64.toInt_toBitVec] at cond
  simp only [intOf, UInt64.toBitVec_toInt64, UInt64.toNat_toBitVec, UInt32.toNat_toUInt64] at cond ⊢
  omega

theorem not_intOf_neg (h : UInt32) : ¬ intOf h < 0 := by
  rw [Int64.lt_iff_toInt_lt, intOf_toInt]
  simp

/-- Charging a `uint32` amount is `uint32` subtraction. -/
theorem addInt_neg (h p : UInt32) : addInt h (-intOf p) = h - p := by
  simp [addInt_eq, intOf, UInt32.sub_eq_add_neg]

/-- The value of a `uint32` as an integer modulo `2 ^ 32`. -/
def residue (h : UInt32) : ZMod (2 ^ 32) := (h.toNat : ZMod (2 ^ 32))

theorem residue_addInt (h : UInt32) (n : Int64) : residue (addInt h n) = residue h + (n.toInt : ZMod (2 ^ 32)) := by
  have low : ((n.toUInt64.toUInt32.toNat : ℕ) : ZMod (2 ^ 32)) = (n.toInt : ZMod (2 ^ 32)) := by
    have e := congrArg (Int.cast (R := ZMod (2 ^ 32))) (toUInt32_toNat n)
    rw [show (2 ^ 32 : ℤ) = ((2 ^ 32 : ℕ) : ℤ) by norm_num, ZMod.intCast_mod] at e
    exact_mod_cast e
  rw [addInt_eq, residue, residue, UInt32.toNat_add, ZMod.natCast_mod, Nat.cast_add, low]

theorem residue_sub (a b : UInt32) : residue (a - b) = residue a - residue b := by
  have le : b.toNat ≤ 2 ^ 32 := b.toNat_lt.le
  rw [residue, residue, residue, UInt32.toNat_sub, ZMod.natCast_mod, Nat.cast_add, Nat.cast_sub le, ZMod.natCast_self]
  abel

/-- An integer in range is read off its residue. -/
theorem toNat_of_residue {a : UInt32} {n : ℤ} (h : residue a = (n : ZMod (2 ^ 32))) (lo : 0 ≤ n) (hi : n < 2 ^ 32) :
    (a.toNat : ℤ) = n := by
  have lt := a.toNat_lt
  have cast : ((a.toNat : ℤ) : ZMod (2 ^ 32)) = (n : ZMod (2 ^ 32)) := by
    rw [← h, residue, Int.cast_natCast]
  have same := (ZMod.intCast_eq_intCast_iff _ _ _).1 cast
  rw [Int.ModEq] at same
  push_cast at same
  omega

end Go
