import Mathlib.Tactic

/-!
# Go byte slices

Copying into a buffer, reading a fixed number of bytes off a stream, and
big-endian words of 32 bits.
-/

namespace Go

/-- `copy(buf[i:], src)`: as much of `src` as fits. -/
def copyAt (buf : List UInt8) (i : ℕ) (src : List UInt8) : List UInt8 :=
  buf.take i ++ src.take (buf.length - i) ++ buf.drop (i + src.length)

/-- `buf[i:j]`. -/
def slice (buf : List UInt8) (i j : ℕ) : List UInt8 := (buf.drop i).take (j - i)

/-- `io.ReadFull` of `n` bytes: what was read, and the rest of the stream. -/
def readFull (n : ℕ) (stream : List UInt8) : Option (List UInt8 × List UInt8) :=
  if n ≤ stream.length then some (stream.take n, stream.drop n) else none

/-- The four bytes of a word. -/
def bigEndian (p : UInt32) : List UInt8 := [(p >>> 24).toUInt8, (p >>> 16).toUInt8, (p >>> 8).toUInt8, p.toUInt8]

/-- The word that four bytes make. -/
def ofBigEndian : List UInt8 → UInt32
  | [a, b, c, d] => a.toUInt32 <<< 24 ||| b.toUInt32 <<< 16 ||| c.toUInt32 <<< 8 ||| d.toUInt32
  | _ => 0

variable {pre src stream bytes rest : List UInt8} {i n : ℕ}

@[simp] theorem bigEndian_length (p : UInt32) : (bigEndian p).length = 4 := rfl

/-- `x << k` of a byte. -/
theorem shifted_toNat (x : UInt8) (k : ℕ) (h : k ≤ 24) : (x.toUInt32 <<< (UInt32.ofNat k)).toNat = x.toNat * 2 ^ k := by
  have lt := x.toNat_lt
  have le : 2 ^ k ≤ 2 ^ 24 := Nat.pow_le_pow_right (by omega) h
  have bound : x.toNat * 2 ^ k ≤ 255 * 2 ^ 24 := Nat.mul_le_mul (by omega) le
  rw [UInt32.toNat_shiftLeft, UInt32.toNat_ofNat', UInt8.toNat_toUInt32, Nat.shiftLeft_eq]
  rw [Nat.mod_eq_of_lt (a := k) (by omega), Nat.mod_eq_of_lt (a := k) (by omega)]
  exact Nat.mod_eq_of_lt (by omega)

theorem or_eq_add {k m n : ℕ} (h : n < 2 ^ k) : m * 2 ^ k ||| n = m * 2 ^ k + n := by
  rw [Nat.mul_comm, Nat.two_pow_add_eq_or_of_lt h]

/-- The value of four bytes. -/
theorem ofBigEndian_toNat (a b c d : UInt8) :
    (ofBigEndian [a, b, c, d]).toNat = a.toNat * 2 ^ 24 + b.toNat * 2 ^ 16 + c.toNat * 2 ^ 8 + d.toNat := by
  have ha := a.toNat_lt
  have hb := b.toNat_lt
  have hc := c.toNat_lt
  have hd := d.toNat_lt
  have s24 : (a.toUInt32 <<< 24).toNat = a.toNat * 2 ^ 24 := shifted_toNat a 24 (by omega)
  have s16 : (b.toUInt32 <<< 16).toNat = b.toNat * 2 ^ 16 := shifted_toNat b 16 (by omega)
  have s8 : (c.toUInt32 <<< 8).toNat = c.toNat * 2 ^ 8 := shifted_toNat c 8 (by omega)
  unfold ofBigEndian
  rw [UInt32.toNat_or, UInt32.toNat_or, UInt32.toNat_or, s24, s16, s8, UInt8.toNat_toUInt32]
  rw [or_eq_add (by omega)]
  rw [show a.toNat * 2 ^ 24 + b.toNat * 2 ^ 16 = (a.toNat * 2 ^ 8 + b.toNat) * 2 ^ 16 by omega, or_eq_add (by omega)]
  rw [show (a.toNat * 2 ^ 8 + b.toNat) * 2 ^ 16 + c.toNat * 2 ^ 8 =
    ((a.toNat * 2 ^ 8 + b.toNat) * 2 ^ 8 + c.toNat) * 2 ^ 8 by omega, or_eq_add (by omega)]

/-- The byte of a word `k` bits up. -/
theorem shiftRight_toNat (p : UInt32) (k : ℕ) (h : k < 32) :
    (p >>> (UInt32.ofNat k)).toUInt8.toNat = p.toNat / 2 ^ k % 2 ^ 8 := by
  rw [UInt32.toNat_toUInt8, UInt32.toNat_shiftRight, UInt32.toNat_ofNat', Nat.shiftRight_eq_div_pow]
  rw [Nat.mod_eq_of_lt (a := k) (by omega), Nat.mod_eq_of_lt (a := k) (by omega)]

/-- The values of the four bytes of a word. -/
theorem bigEndian_toNat (p : UInt32) : (bigEndian p).map UInt8.toNat =
    [p.toNat / 2 ^ 24 % 2 ^ 8, p.toNat / 2 ^ 16 % 2 ^ 8, p.toNat / 2 ^ 8 % 2 ^ 8, p.toNat % 2 ^ 8] := by
  have h24 : (p >>> 24).toUInt8.toNat = p.toNat / 2 ^ 24 % 2 ^ 8 := shiftRight_toNat p 24 (by omega)
  have h16 : (p >>> 16).toUInt8.toNat = p.toNat / 2 ^ 16 % 2 ^ 8 := shiftRight_toNat p 16 (by omega)
  have h8 : (p >>> 8).toUInt8.toNat = p.toNat / 2 ^ 8 % 2 ^ 8 := shiftRight_toNat p 8 (by omega)
  rw [bigEndian, List.map_cons, List.map_cons, List.map_cons, List.map_cons, h24, h16, h8, UInt32.toNat_toUInt8]
  rfl

/-- A word is read as it was written. -/
theorem ofBigEndian_bigEndian (p : UInt32) : ofBigEndian (bigEndian p) = p := by
  apply UInt32.toNat_inj.1
  have lt := p.toNat_lt
  have bytes := bigEndian_toNat p
  simp only [bigEndian, List.map_cons, List.map_nil, List.cons.injEq, and_true] at bytes
  obtain ⟨h24, h16, h8, low⟩ := bytes
  rw [bigEndian, ofBigEndian_toNat, h24, h16, h8, low]
  omega

/-- Four bytes are written as they were read. -/
theorem bigEndian_ofBigEndian (four : bytes.length = 4) : bigEndian (ofBigEndian bytes) = bytes := by
  obtain ⟨a, b, c, d, rfl⟩ := List.length_eq_four.1 four
  have ha := a.toNat_lt
  have hb := b.toNat_lt
  have hc := c.toNat_lt
  have hd := d.toNat_lt
  apply List.map_injective_iff.2 (fun _ _ => UInt8.toNat_inj.1)
  rw [bigEndian_toNat, ofBigEndian_toNat]
  simp only [List.map_cons, List.map_nil, List.cons.injEq, and_true]
  omega

/-- The number that bytes make, the first one the most significant. -/
def value (bytes : List UInt8) : ℕ := bytes.foldl (fun n b => n * 2 ^ 8 + b.toNat) 0

theorem ofBigEndian_value (four : bytes.length = 4) : (ofBigEndian bytes).toNat = value bytes := by
  obtain ⟨a, b, c, d, rfl⟩ := List.length_eq_four.1 four
  rw [ofBigEndian_toNat]
  change _ = (((0 * 2 ^ 8 + a.toNat) * 2 ^ 8 + b.toNat) * 2 ^ 8 + c.toNat) * 2 ^ 8 + d.toNat
  omega

theorem slice_length (buf : List UInt8) {i j : ℕ} (order : i ≤ j) (inside : j ≤ buf.length) : (slice buf i j).length = j - i := by
  rw [slice, List.length_take, List.length_drop]
  omega

theorem slice_append_drop (buf : List UInt8) {i j : ℕ} (order : i ≤ j) : slice buf i j ++ buf.drop j = buf.drop i := by
  have rest : buf.drop j = (buf.drop i).drop (j - i) := by
    rw [List.drop_drop]
    congr 1
    omega
  rw [slice, rest, List.take_append_drop]

theorem slice_append_left {i j : ℕ} (order : i ≤ j) (inside : j ≤ pre.length) : slice (pre ++ rest) i j = slice pre i j := by
  unfold slice
  rw [List.drop_append_of_le_length (by omega), List.take_append_of_le_length]
  rw [List.length_drop]
  omega

/-- A copy replaces the bytes it meets, as far as there are any. -/
theorem copyAt_append (start : pre.length = i) :
    copyAt (pre ++ rest) i src = pre ++ (src.take rest.length ++ rest.drop src.length) := by
  subst start
  unfold copyAt
  rw [List.length_append, Nat.add_sub_cancel_left, List.take_left, ← List.drop_drop, List.drop_left, List.append_assoc]

/-- A word that fits is written in front of the rest. -/
theorem copyAt_word (start : pre.length = i) (fits : src.length ≤ rest.length) :
    copyAt (pre ++ rest) i src = (pre ++ src) ++ rest.drop src.length := by
  rw [copyAt_append start, List.take_of_length_le fits, List.append_assoc]

theorem readFull_append (bytes rest : List UInt8) : readFull bytes.length (bytes ++ rest) = some (bytes, rest) := by
  unfold readFull
  rw [if_pos (by simp), List.take_left, List.drop_left]

theorem readFull_some (h : readFull n stream = some (bytes, rest)) : stream = bytes ++ rest ∧ bytes.length = n := by
  unfold readFull at h
  split at h
  · next enough =>
    cases h
    exact ⟨(List.take_append_drop n stream).symm, List.length_take_of_le enough⟩
  · cases h

end Go
