import Crazyass.Go.Bytes

/-!
# Websocket frames

The frames of `hybi.go`: one byte of flags and the opcode, one with the mask bit
and a length code, the length in none, two or eight bytes, the masking key, and
the payload. `newFrameReader` and `write` build and take apart the header
independently; the reader takes the length as an `int64`, the payload through a
`LimitedReader`, and unmasks it wherever the calls of `Read` cut it.
-/

namespace Crazyass.Websocket
open Go

/-! ## Headers -/

def continuationFrame : UInt8 := 0
def textFrame : UInt8 := 1
def binaryFrame : UInt8 := 2
def closeFrame : UInt8 := 8
def pingFrame : UInt8 := 9
def pongFrame : UInt8 := 10

/-- `hybiFrameHeader`. -/
structure FrameHeader where
  fin : Bool
  rsv : Vector Bool 3
  opCode : UInt8
  length : Int64
  maskingKey : Option (List UInt8)
deriving DecidableEq

/-- `hybiFrameReader`: `left` is what its `LimitedReader` still lets through. -/
structure FrameReader where
  header : FrameHeader
  pos : ℕ
  left : ℕ
deriving DecidableEq

/-- `msg[i] ^ key[(pos + i) % 4]`, without a key nothing. -/
def mask (key : Option (List UInt8)) (pos : ℕ) (msg : List UInt8) : List UInt8 :=
  match key with
  | none => msg
  | some key => msg.mapIdx fun i b => b ^^^ key.getD ((pos + i) % 4) 0

/-! ## Reading -/

/-- The loop over the bytes of the length. -/
def readLength : ℕ → Int64 → List UInt8 → Option (Int64 × List UInt8)
  | 0, length, stream => some (length, stream)
  | _ + 1, _, [] => none
  | n + 1, length, b :: stream => readLength n (length * 256 + Int64.ofNat b.toNat) stream

/-- `(b >> j) & 1`. -/
def bit (b j : UInt8) : Bool := (b >>> j) &&& 1 != 0

/-- The length of the payload, from the length code on. -/
def readPayloadLength (b : UInt8) (stream : List UInt8) : Option (Int64 × List UInt8) :=
  if b = 126 then readLength 2 0 stream
  else if b = 127 then readLength 8 0 stream
  else some (Int64.ofNat b.toNat, stream)

/-- The masking key, if there is one. -/
def readMaskingKey (masked : Prop) [Decidable masked] (stream : List UInt8) : Option (Option (List UInt8) × List UInt8) :=
  if masked then (readFull 4 stream).map fun r => (some r.1, r.2) else some (none, stream)

/-- `NewFrameReader`: the reader and the rest of the stream, or nothing where it ends too soon. -/
def newFrameReader : List UInt8 → Option (FrameReader × List UInt8)
  | first :: second :: stream => do
    let (length, stream) ← readPayloadLength (second &&& 0x7f) stream
    let (maskingKey, stream) ← readMaskingKey (second &&& 0x80 ≠ 0) stream
    -- a `LimitedReader` lets nothing through when its limit is negative
    some (⟨⟨bit first 7, #v[bit first 6, bit first 5, bit first 4], first &&& 0x0f, length, maskingKey⟩, 0,
      length.toNatClampNeg⟩, stream)
  | _ => none

/-- How many bytes a reader gets of the next `n` of a stream. -/
def FrameReader.gets (f : FrameReader) (n : ℕ) (stream : List UInt8) : ℕ := min (min n f.left) stream.length

/-- Calls of `Read` for `n` bytes together: the reader, the bytes, and the rest of the stream. -/
def FrameReader.read (f : FrameReader) (n : ℕ) (stream : List UInt8) : FrameReader × List UInt8 × List UInt8 :=
  let k := f.gets n stream
  ({ f with pos := f.pos + k, left := f.left - k }, mask f.header.maskingKey f.pos (stream.take k), stream.drop k)

/-! ## Writing -/

/-- The bytes of a length. -/
def lengthField (fields length : ℕ) : List UInt8 :=
  (List.range fields).map fun i => UInt8.ofNat ((length >>> ((fields - i - 1) * 8)) &&& 0xff)

/-- What a flag adds to a byte. -/
def flag (set : Bool) (b : UInt8) : UInt8 := if set then b else 0

/-- The flags and the opcode. -/
def FrameHeader.first (h : FrameHeader) : UInt8 :=
  flag h.fin 0x80 ||| flag h.rsv[0] 0x40 ||| flag h.rsv[1] 0x20 ||| flag h.rsv[2] 0x10 ||| h.opCode

/-- The length code of a payload, and how many bytes of length follow. -/
def lengthCode (length : ℕ) : UInt8 × ℕ :=
  if length ≤ 125 then (UInt8.ofNat length, 0) else if length < 65536 then (126, 2) else (127, 8)

/-- `hybiFrameWriter.Write`: what goes to the connection; nothing for `ErrBadMaskingKey`. -/
def FrameHeader.write (h : FrameHeader) (msg : List UInt8) : Option (List UInt8) :=
  let (code, fields) := lengthCode msg.length
  let second := flag h.maskingKey.isSome 0x80 ||| code
  let header := h.first :: second :: lengthField fields msg.length
  match h.maskingKey with
  | some key => if key.length ≠ 4 then none else some (header ++ key ++ mask (some key) 0 msg)
  | none => some (header ++ msg)

/-! ## Masking -/

section
variable {key : Option (List UInt8)} {pos n : ℕ} {msg rest : List UInt8}

@[simp] theorem mask_length : (mask key pos msg).length = msg.length := by
  cases key <;> simp [mask]

@[simp] theorem mask_nil : mask key pos [] = [] := by cases key <;> rfl

theorem mask_append : mask key pos (msg ++ rest) = mask key pos msg ++ mask key (pos + msg.length) rest := by
  cases key with
  | none => rfl
  | some key => simp only [mask, List.mapIdx_append, Nat.add_assoc, Nat.add_comm msg.length]

/-- Masking twice gives the bytes back. -/
theorem mask_mask : mask key pos (mask key pos msg) = msg := by
  cases key with
  | none => rfl
  | some key =>
    simp only [mask, List.mapIdx_mapIdx]
    apply List.ext_getElem
    · simp
    · intro i _ _
      simp only [List.getElem_mapIdx, Function.comp_apply, UInt8.xor_assoc, UInt8.xor_self, UInt8.xor_zero]

theorem mask_take : (mask key pos msg).take n = mask key pos (msg.take n) := by
  have parts : mask key pos msg = mask key pos (msg.take n) ++ mask key (pos + (msg.take n).length) (msg.drop n) := by
    rw [← mask_append, List.take_append_drop]
  rcases Nat.le_total n msg.length with short | long
  · rw [parts, List.take_append_of_le_length (by simp [short]), List.take_of_length_le (by simp)]
  · rw [List.take_of_length_le (by simpa using long), List.take_of_length_le long]

/-- **Where the reads cut a payload does not matter.** -/
theorem read_add (f : FrameReader) (n m : ℕ) (stream : List UInt8) :
    f.read (n + m) stream = (((f.read n stream).1.read m (f.read n stream).2.2).1,
      (f.read n stream).2.1 ++ ((f.read n stream).1.read m (f.read n stream).2.2).2.1,
      ((f.read n stream).1.read m (f.read n stream).2.2).2.2) := by
  have both : f.gets (n + m) stream = f.gets n stream + (f.read n stream).1.gets m (f.read n stream).2.2 := by
    simp only [FrameReader.gets, FrameReader.read, List.length_drop]
    omega
  have inside : (stream.take (f.gets n stream)).length = f.gets n stream := by
    rw [List.length_take, FrameReader.gets]
    omega
  conv_lhs => unfold FrameReader.read
  dsimp only
  rw [both, List.take_add, mask_append, inside, ← List.drop_drop, ← Nat.add_assoc, ← Nat.sub_sub]
  rfl

end

/-! ## What is written is read -/

section
variable {msg : List UInt8} {h : FrameHeader}

theorem flags_read : ∀ (fin a b c : Bool) (op : Fin 16),
    let first := flag fin 0x80 ||| flag a 0x40 ||| flag b 0x20 ||| flag c 0x10 ||| UInt8.ofNat op
    bit first 7 = fin ∧ bit first 6 = a ∧ bit first 5 = b ∧ bit first 4 = c ∧ first &&& 0x0f = UInt8.ofNat op := by
  decide +kernel

theorem code_read : ∀ (masked : Bool) (code : Fin 128), let second := flag masked 0x80 ||| UInt8.ofNat code
    (second &&& 0x80 ≠ 0 ↔ masked = true) ∧ second &&& 0x7f = UInt8.ofNat code := by
  decide +kernel

theorem first_read (op : h.opCode < 16) : bit h.first 7 = h.fin ∧ #v[bit h.first 6, bit h.first 5, bit h.first 4] = h.rsv ∧
    h.first &&& 0x0f = h.opCode := by
  have flags := flags_read h.fin h.rsv[0] h.rsv[1] h.rsv[2] ⟨h.opCode.toNat, UInt8.lt_iff_toNat_lt.1 op⟩
  simp only [UInt8.ofNat_toNat] at flags
  obtain ⟨fin, a, b, c, code⟩ := flags
  refine ⟨fin, ?_, code⟩
  unfold FrameHeader.first
  rw [a, b, c]
  apply Vector.ext
  intro i small
  interval_cases i <;> rfl

/-- The bytes of a length make it. -/
theorem lengthField_value (fields length a : ℕ) :
    (lengthField fields length).foldl (fun n b => n * 2 ^ 8 + b.toNat) a = a * (2 ^ 8) ^ fields + length % (2 ^ 8) ^ fields := by
  induction fields generalizing a with
  | zero => simp [lengthField, Nat.mod_one]
  | succ fields ih =>
    have head : lengthField (fields + 1) length =
        UInt8.ofNat ((length >>> (fields * 8)) &&& 0xff) :: lengthField fields length := by
      unfold lengthField
      rw [List.range_succ_eq_map, List.map_cons, List.map_map]
      congr 2
      funext i
      change UInt8.ofNat ((length >>> ((fields + 1 - (i + 1) - 1) * 8)) &&& 0xff) = _
      rw [Nat.add_sub_add_right]
    have byte : (UInt8.ofNat ((length >>> (fields * 8)) &&& 0xff)).toNat = length / (2 ^ 8) ^ fields % 2 ^ 8 := by
      rw [show (0xff : ℕ) = 2 ^ 8 - 1 from rfl, Nat.and_two_pow_sub_one_eq_mod, UInt8.toNat_ofNat', Nat.mod_mod,
        Nat.shiftRight_eq_div_pow, Nat.mul_comm, Nat.pow_mul]
    have split : length % (2 ^ 8) ^ (fields + 1) =
        length % (2 ^ 8) ^ fields + (2 ^ 8) ^ fields * (length / (2 ^ 8) ^ fields % 2 ^ 8) := Nat.mod_pow_succ
    rw [head, List.foldl_cons, ih, byte, split]
    generalize length / (2 ^ 8) ^ fields % 2 ^ 8 = digit
    ring

theorem readLength_bytes (bytes rest : List UInt8) (a : ℕ) :
    readLength bytes.length (Int64.ofNat a) (bytes ++ rest) =
      some (Int64.ofNat (bytes.foldl (fun n b => n * 2 ^ 8 + b.toNat) a), rest) := by
  induction bytes generalizing a with
  | nil => rfl
  | cons b bytes ih =>
    rw [List.length_cons, List.cons_append, readLength, List.foldl_cons, ← ih]
    congr 1
    rw [Int64.ofNat_add, Int64.ofNat_mul]
    rfl

theorem lengthField_length (fields length : ℕ) : (lengthField fields length).length = fields := by
  simp [lengthField]

/-- A length that fits in its bytes is read as it was written. -/
theorem readLength_field (fields length : ℕ) (rest : List UInt8) (fits : length < (2 ^ 8) ^ fields) :
    readLength fields 0 (lengthField fields length ++ rest) = some (Int64.ofNat length, rest) := by
  have read := readLength_bytes (lengthField fields length) rest 0
  rw [lengthField_length, lengthField_value, Nat.zero_mul, Nat.zero_add, Nat.mod_eq_of_lt fits] at read
  exact read

/-- What the length of a payload is read as. -/
theorem length_read (masked : Bool) (length : ℕ) (rest : List UInt8) (fits : length < 2 ^ 63) :
    let second := flag masked 0x80 ||| (lengthCode length).1
    (second &&& 0x80 ≠ 0 ↔ masked = true) ∧
      readPayloadLength (second &&& 0x7f) (lengthField (lengthCode length).2 length ++ rest) =
        some (Int64.ofNat length, rest) := by
  unfold lengthCode readPayloadLength
  split
  · next short =>
    obtain ⟨bit, code⟩ := code_read masked ⟨length, by omega⟩
    refine ⟨bit, ?_⟩
    dsimp only at code ⊢
    have value : (UInt8.ofNat length).toNat = length := by
      rw [UInt8.toNat_ofNat']
      omega
    have other : ∀ b : UInt8, 125 < b.toNat → UInt8.ofNat length ≠ b := by
      rintro b large rfl
      omega
    rw [code, if_neg (other 126 (by decide)), if_neg (other 127 (by decide)), value]
    rfl
  · split
    · next medium =>
      obtain ⟨bit, code⟩ := code_read masked 126
      exact ⟨bit, (if_pos code).trans (readLength_field 2 length rest medium)⟩
    · obtain ⟨bit, code⟩ := code_read masked 127
      replace code : (flag masked 0x80 ||| 127) &&& 0x7f = 127 := code
      have long : readLength 8 0 (lengthField 8 length ++ rest) = some (Int64.ofNat length, rest) :=
        readLength_field 8 length rest (by omega)
      exact ⟨bit, (if_neg (by rw [code]; decide)).trans ((if_pos code).trans long)⟩

/-- The header of a frame with a payload, as it is read. -/
def FrameHeader.carrying (h : FrameHeader) (msg : List UInt8) : FrameHeader := { h with length := Int64.ofNat msg.length }

/-- The bytes of a header. -/
def FrameHeader.bytes (h : FrameHeader) (length : ℕ) : List UInt8 :=
  h.first :: (flag h.maskingKey.isSome 0x80 ||| (lengthCode length).1) :: lengthField (lengthCode length).2 length ++
    h.maskingKey.getD []

/-- A header that the peer can be told: four bits of opcode, and four bytes of key if there is one. -/
structure FrameHeader.Sound (h : FrameHeader) : Prop where
  opCode : h.opCode < 16
  key : ∀ key ∈ h.maskingKey, key.length = 4

/-- The writer writes the bytes of the header and the masked payload. -/
theorem write_eq (sound : h.Sound) (msg : List UInt8) :
    h.write msg = some (h.bytes msg.length ++ mask h.maskingKey 0 msg) := by
  unfold FrameHeader.write FrameHeader.bytes
  cases key : h.maskingKey with
  | none => simp [mask]
  | some k =>
    have four : ¬ k.length ≠ 4 := not_not.2 (sound.key k key)
    simp [four]

/-- **A header is read as it was written**, with the length of the payload. -/
theorem newFrameReader_bytes (sound : h.Sound) (fits : msg.length < 2 ^ 63) (rest : List UInt8) :
    newFrameReader (h.bytes msg.length ++ rest) = some (⟨h.carrying msg, 0, msg.length⟩, rest) := by
  obtain ⟨fin, rsv, op⟩ := first_read sound.opCode
  obtain ⟨bit, length⟩ := length_read h.maskingKey.isSome msg.length (h.maskingKey.getD [] ++ rest) fits
  have clamp : (Int64.ofNat msg.length).toNatClampNeg = msg.length := Int64.toNatClampNeg_ofNat_of_lt fits
  have same : h.bytes msg.length ++ rest = h.first :: (flag h.maskingKey.isSome 0x80 ||| (lengthCode msg.length).1) ::
      (lengthField (lengthCode msg.length).2 msg.length ++ (h.maskingKey.getD [] ++ rest)) := by
    simp [FrameHeader.bytes]
  rw [same]
  have key : readMaskingKey ((flag h.maskingKey.isSome 0x80 ||| (lengthCode msg.length).1) &&& 0x80 ≠ 0)
      (h.maskingKey.getD [] ++ rest) = some (h.maskingKey, rest) := by
    unfold readMaskingKey
    cases key : h.maskingKey with
    | none =>
      rw [key] at bit
      exact if_neg (mt bit.1 (by decide))
    | some k =>
      rw [key] at bit
      have four : k.length = 4 := sound.key k key
      have read := readFull_append k rest
      rw [four] at read
      rw [if_pos (bit.2 rfl), Option.getD_some, read]
      rfl
  unfold newFrameReader
  dsimp only
  rw [length, Option.bind_eq_bind, Option.bind_some, key, Option.bind_eq_bind, Option.bind_some, fin, rsv, op, clamp]
  rfl

/-! ## A stream that goes on -/

variable {stream rest more : List UInt8} {n : ℕ} {a l : Int64} {b : UInt8} {f : FrameReader} {key : Option (List UInt8)}

theorem readLength_append (h : readLength n a stream = some (l, rest)) :
    readLength n a (stream ++ more) = some (l, rest ++ more) := by
  induction n generalizing a stream with
  | zero =>
    cases h
    rfl
  | succ n ih =>
    cases stream with
    | nil => cases h
    | cons b stream => exact ih h

theorem readPayloadLength_append (h : readPayloadLength b stream = some (l, rest)) :
    readPayloadLength b (stream ++ more) = some (l, rest ++ more) := by
  unfold readPayloadLength at h ⊢
  split
  · next two =>
    rw [if_pos two] at h
    exact readLength_append h
  · next one =>
    rw [if_neg one] at h
    split
    · next eight =>
      rw [if_pos eight] at h
      exact readLength_append h
    · next short =>
      rw [if_neg short] at h
      cases h
      rfl

theorem readMaskingKey_append {masked : Prop} [Decidable masked] (h : readMaskingKey masked stream = some (key, rest)) :
    readMaskingKey masked (stream ++ more) = some (key, rest ++ more) := by
  unfold readMaskingKey at h ⊢
  split
  · next yes =>
    rw [if_pos yes] at h
    obtain ⟨⟨four, left⟩, read, same⟩ := Option.map_eq_some_iff.1 h
    cases same
    obtain ⟨rfl, length⟩ := readFull_some read
    rw [List.append_assoc, ← length, readFull_append]
    rfl
  · next no =>
    rw [if_neg no] at h
    cases h
    rfl

/-- A header that was read is read alike when more follows. -/
theorem newFrameReader_append (h : newFrameReader stream = some (f, rest)) :
    newFrameReader (stream ++ more) = some (f, rest ++ more) := by
  rcases stream with _ | ⟨first, _ | ⟨second, stream⟩⟩
  · cases h
  · cases h
  · unfold newFrameReader at h
    obtain ⟨⟨length, s₁⟩, lengthRead, h⟩ := Option.bind_eq_some_iff.1 h
    obtain ⟨⟨key, s₂⟩, keyRead, h⟩ := Option.bind_eq_some_iff.1 h
    cases h
    rw [List.cons_append, List.cons_append]
    unfold newFrameReader
    dsimp only
    rw [readPayloadLength_append lengthRead, Option.bind_eq_bind, Option.bind_some, readMaskingKey_append keyRead]
    rfl

/-- A header that is cut short is not read. -/
theorem newFrameReader_cut (sound : h.Sound) (fits : msg.length < 2 ^ 63) {k : ℕ} (cut : k < (h.bytes msg.length).length) :
    newFrameReader ((h.bytes msg.length).take k) = none := by
  cases read : newFrameReader ((h.bytes msg.length).take k) with
  | none => rfl
  | some r =>
    obtain ⟨f, rest⟩ := r
    have whole : newFrameReader ((h.bytes msg.length).take k ++ (h.bytes msg.length).drop k) =
        some (f, rest ++ (h.bytes msg.length).drop k) := newFrameReader_append read
    have same := newFrameReader_bytes sound fits []
    rw [List.take_append_drop] at whole
    rw [List.append_nil, whole] at same
    have gone := congrArg Prod.snd (Option.some.inj same)
    have empty : (h.bytes msg.length).drop k = [] := (List.append_eq_nil_iff.1 gone).2
    have short := List.drop_eq_nil_iff.1 empty
    omega

theorem readLength_shorter (h : readLength n a stream = some (l, rest)) : rest.length ≤ stream.length := by
  induction n generalizing a stream with
  | zero =>
    cases h
    exact Nat.le_refl _
  | succ n ih =>
    cases stream with
    | nil => cases h
    | cons b stream => exact (ih h).trans (Nat.le_succ _)

/-- A header takes bytes off the stream. -/
theorem newFrameReader_shorter (h : newFrameReader stream = some (f, rest)) : rest.length < stream.length := by
  rcases stream with _ | ⟨first, _ | ⟨second, stream⟩⟩
  · cases h
  · cases h
  · unfold newFrameReader at h
    obtain ⟨⟨length, s₁⟩, lengthRead, h⟩ := Option.bind_eq_some_iff.1 h
    obtain ⟨⟨key, s₂⟩, keyRead, h⟩ := Option.bind_eq_some_iff.1 h
    cases h
    have first : s₁.length ≤ stream.length := by
      unfold readPayloadLength at lengthRead
      split at lengthRead
      · exact readLength_shorter lengthRead
      · split at lengthRead
        · exact readLength_shorter lengthRead
        · cases lengthRead
          exact Nat.le_refl _
    have second : rest.length ≤ s₁.length := by
      unfold readMaskingKey at keyRead
      split at keyRead
      · obtain ⟨⟨four, left⟩, read, same⟩ := Option.map_eq_some_iff.1 keyRead
        cases same
        obtain ⟨rfl, -⟩ := readFull_some read
        simp
      · cases keyRead
        exact Nat.le_refl _
    simp only [List.length_cons]
    omega

end

end Crazyass.Websocket
