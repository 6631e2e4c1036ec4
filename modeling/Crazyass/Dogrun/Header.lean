import Crazyass.Dogrun.Wire

/-!
# Headers and frames

The two directions of the header codec, and what `readPacket` takes off a
stream. A header is five words and a userid field of 64 bytes; a userid is
copied into the field as far as it goes, and the whole field is read back.
-/

namespace Crazyass.Dogrun
open Go

/-! ## The header of a buffer -/

/-- What `parseHeader` reads off a buffer that it accepts. -/
def headerOf (buf : List UInt8) : Header :=
  ⟨parseUint32 (slice buf 0 4), parseUint32 (slice buf 4 8), parseUint32 (slice buf 8 12), parseUint32 (slice buf 12 16),
    parseUint32 (slice buf 16 20), buf.drop 20⟩

/-- The magic word is right and the command is in range. -/
structure Accepted (buf : List UInt8) : Prop where
  magic : value (slice buf 0 4) = dogrun2ProtoMagic.toNat
  cmd : value (slice buf 4 8) < 128

section
variable {h h₀ : Header} {buf stream : List UInt8} {m : Msg}

theorem parseUint32_toNat {i j : ℕ} (inside : j ≤ buf.length) (word : j = i + 4) :
    (parseUint32 (slice buf i j)).toNat = value (slice buf i j) := by
  apply ofBigEndian_value
  rw [slice_length buf (by omega) inside]
  omega

theorem accepted_iff (room : 20 ≤ buf.length) :
    Accepted buf ↔ (headerOf buf).magic = dogrun2ProtoMagic ∧ (headerOf buf).cmd < 128 := by
  have magic : (headerOf buf).magic.toNat = value (slice buf 0 4) := parseUint32_toNat (by omega) rfl
  have cmd : (headerOf buf).cmd.toNat = value (slice buf 4 8) := parseUint32_toNat (by omega) rfl
  rw [← UInt32.toNat_inj, UInt32.lt_iff_toNat_lt, magic, cmd]
  exact ⟨fun accepted => ⟨accepted.magic, accepted.cmd⟩, fun accepted => ⟨accepted.1, accepted.2⟩⟩

/-- `parseHeader` accepts a buffer, or returns the error. -/
theorem parseHeader_accepted (room : 20 ≤ buf.length) (accepted : Accepted buf) : parseHeader buf h₀ = (headerOf buf, true) := by
  obtain ⟨magic, cmd⟩ : parseUint32 (slice buf 0 4) = dogrun2ProtoMagic ∧ parseUint32 (slice buf 4 8) < 128 :=
    (accepted_iff room).1 accepted
  unfold parseHeader
  dsimp only
  rw [if_neg (not_not.2 magic), if_neg (UInt32.not_le.2 cmd)]
  rfl

theorem parseHeader_refused (room : 20 ≤ buf.length) (refused : ¬ Accepted buf) : (parseHeader buf h₀).2 = false := by
  rw [accepted_iff room] at refused
  unfold parseHeader
  dsimp only
  split
  · rfl
  · next magic =>
    split
    · rfl
    · next cmd => exact absurd ⟨not_not.1 magic, UInt32.not_le.1 cmd⟩ refused

theorem parseHeader_iff (room : 20 ≤ buf.length) : parseHeader buf h₀ = (h, true) ↔ Accepted buf ∧ h = headerOf buf := by
  constructor
  · intro parsed
    by_cases accepted : Accepted buf
    · rw [parseHeader_accepted room accepted] at parsed
      cases parsed
      exact ⟨accepted, rfl⟩
    · have error : (parseHeader buf h₀).2 = false := parseHeader_refused room accepted
      rw [parsed] at error
      cases error
  · rintro ⟨accepted, rfl⟩
    exact parseHeader_accepted room accepted

/-! ## Encoding undoes decoding -/

/-- The words of a buffer are its first 20 bytes. -/
theorem headerOf_words (room : 20 ≤ buf.length) : (headerOf buf).words ++ buf.drop 20 = buf := by
  have word : ∀ i j, j = i + 4 → j ≤ 20 → bigEndian (parseUint32 (slice buf i j)) = slice buf i j := by
    intro i j four inside
    apply bigEndian_ofBigEndian
    rw [slice_length buf (by omega) (by omega)]
    omega
  unfold Header.words headerOf
  dsimp only
  rw [word 0 4 rfl (by omega), word 4 8 rfl (by omega), word 8 12 rfl (by omega), word 12 16 rfl (by omega),
    word 16 20 rfl (by omega)]
  simp only [List.append_assoc]
  rw [slice_append_drop buf (by omega), slice_append_drop buf (by omega), slice_append_drop buf (by omega),
    slice_append_drop buf (by omega), slice_append_drop buf (by omega), List.drop_zero]

/-- **Encoding undoes decoding**: a buffer is accepted exactly for its first two
words, and the header read off it writes the same bytes into any buffer. -/
theorem marshal_parseHeader (buf : List UInt8) (h₀ : Header) (length : buf.length = headerSize) :
    ((parseHeader buf h₀).2 = true ↔ value (slice buf 0 4) = 0x20140114 ∧ value (slice buf 4 8) < 128) ∧
      ∀ h, parseHeader buf h₀ = (h, true) → ∀ buf', buf'.length = headerSize → h.marshal buf' = buf := by
  have room : 20 ≤ buf.length := by
    rw [length]
    decide
  constructor
  · constructor
    · intro parsed
      have accepted : Accepted buf := by
        by_contra refused
        rw [parseHeader_refused room refused] at parsed
        cases parsed
      exact ⟨accepted.magic, accepted.cmd⟩
    · rintro ⟨magic, cmd⟩
      rw [parseHeader_accepted room ⟨magic, cmd⟩]
  · intro h parsed buf' length'
    obtain ⟨-, rfl⟩ := (parseHeader_iff room).1 parsed
    have field : (headerOf buf).userid.length = 64 := by
      change (buf.drop 20).length = 64
      rw [List.length_drop, length]
      rfl
    have size : buf'.length - 20 = 64 := by
      rw [length']
      rfl
    rw [marshal_eq (by omega), size, List.take_of_length_le (by omega), field, List.drop_eq_nil_of_le (by omega),
      List.append_nil]
    exact headerOf_words room

/-! ## Decoding undoes encoding -/

/-- **When decoding undoes encoding**: if the userid fills its field. A shorter
one comes back with the bytes that were in the buffer behind it. -/
theorem parseHeader_marshal_iff (h h₀ : Header) (buf : List UInt8) (length : buf.length = headerSize)
    (magic : h.magic = dogrun2ProtoMagic) (cmd : h.cmd < 128) (userid : h.userid.length ≤ 64) :
    parseHeader (h.marshal buf) h₀ = (h, true) ↔ h.userid.length = 64 := by
  have size : buf.length - 20 = 64 := by
    rw [length]
    rfl
  rw [marshal_eq (by omega), size, List.take_of_length_le userid, parseHeader_words h h₀ _ magic cmd]
  have field : (buf.drop (20 + h.userid.length)).length = 64 - h.userid.length := by
    rw [List.length_drop]
    omega
  constructor
  · intro same
    have padded := congrArg (fun p : Header × Bool => p.1.userid.length) same
    dsimp only at padded
    rw [List.length_append, field] at padded
    omega
  · intro full
    have nothing : buf.drop (20 + h.userid.length) = [] := List.length_eq_zero_iff.1 (field.trans (by omega))
    rw [nothing, List.append_nil]

/-! ## One frame -/

/-- The number of bytes that `readPacket` asks for after the header, if it accepts one. -/
def bodyRequest (m : Msg) (stream : List UInt8) : Option ℕ :=
  (readFull headerSize stream).bind fun first =>
    match parseHeader first.1 m.h with
    | (h, true) => some (h.size - UInt32.ofNat headerSize).toNat
    | (_, false) => none

/-- `readPacket` reads a header, and then what it asks for. -/
theorem readPacket_eq (m : Msg) (stream : List UInt8) : (readPacket m stream).2 =
    match readFull headerSize stream with
    | none => .error .readPacket
    | some (_, tail) =>
      match bodyRequest m stream with
      | none => .error .invalidHeader
      | some n => match readFull n tail with
        | none => .error .readPacket
        | some (_, rest) => .ok rest := by
  unfold readPacket bodyRequest
  cases readFull headerSize stream with
  | none => rfl
  | some first =>
    obtain ⟨hbuf, tail⟩ := first
    dsimp only [Option.bind_some]
    cases parseHeader hbuf m.h with
    | mk h ok =>
      cases ok with
      | false => rfl
      | true =>
        dsimp only
        cases readFull (h.size - UInt32.ofNat headerSize).toNat tail <;> rfl

/-- **The contract of `readPacket`**: a message that is returned is one frame,
and a header that is too small for one is rejected before a body is asked for. -/
structure OneFrame (m : Msg) (stream : List UInt8) : Prop where
  consumed : ∀ m' rest, readPacket m stream = (m', .ok rest) →
    headerSize ≤ m'.h.size.toNat ∧ m'.body.length = m'.h.size.toNat - headerSize ∧
      ∃ taken, stream = taken ++ rest ∧ taken.length = m'.h.size.toNat
  rejected : ∀ hbuf tail h, readFull headerSize stream = some (hbuf, tail) → parseHeader hbuf m.h = (h, true) →
    h.size.toNat < headerSize → bodyRequest m stream = none ∧ ∃ m' e, readPacket m stream = (m', .error e)

/-- A header that is accepted declares at least its own size. -/
def Sized (stream : List UInt8) : Prop :=
  headerSize ≤ stream.length → Accepted stream → headerSize ≤ value (slice stream 16 20)

theorem accepted_append {rest : List UInt8} (room : 20 ≤ buf.length) : Accepted (buf ++ rest) ↔ Accepted buf := by
  have magic : slice (buf ++ rest) 0 4 = slice buf 0 4 := slice_append_left (by omega) (by omega)
  have cmd : slice (buf ++ rest) 4 8 = slice buf 4 8 := slice_append_left (by omega) (by omega)
  exact ⟨fun accepted => ⟨magic ▸ accepted.magic, cmd ▸ accepted.cmd⟩,
    fun accepted => ⟨magic.symm ▸ accepted.magic, cmd.symm ▸ accepted.cmd⟩⟩

theorem size_append {rest : List UInt8} (room : 20 ≤ buf.length) :
    (headerOf buf).size.toNat = value (slice (buf ++ rest) 16 20) := by
  rw [slice_append_left (by omega) room]
  exact parseUint32_toNat room rfl

/-- What the header declares is in the fifth word of the stream. -/
theorem Sized.declared {hbuf tail : List UInt8} (sized : Sized stream) (split : stream = hbuf ++ tail)
    (length : hbuf.length = headerSize) (parsed : parseHeader hbuf h₀ = (h, true)) : headerSize ≤ h.size.toNat := by
  have enough : 20 ≤ headerSize := by decide
  have room : 20 ≤ hbuf.length := by omega
  obtain ⟨accepted, rfl⟩ := (parseHeader_iff room).1 parsed
  have long : headerSize ≤ stream.length := by
    rw [split, List.length_append]
    omega
  have size := sized long (by rw [split, accepted_append room]; exact accepted)
  rw [split, ← size_append room] at size
  exact size

theorem Sized.oneFrame (sized : Sized stream) : OneFrame m stream := by
  constructor
  · intro m' rest read
    obtain ⟨hbuf, split, length, parsed, body⟩ := readPacket_ok read
    have size := sized.declared split length parsed
    have covered : UInt32.ofNat headerSize ≤ m'.h.size := by
      rw [UInt32.le_iff_toNat_le]
      exact size
    rw [UInt32.toNat_sub_of_le _ _ covered] at body
    replace body : m'.body.length = m'.h.size.toNat - headerSize := body
    refine ⟨size, body, hbuf ++ m'.body, by rw [split, List.append_assoc], ?_⟩
    rw [List.length_append]
    omega
  · intro hbuf tail h header parsed small
    obtain ⟨split, length⟩ := readFull_some header
    exact absurd (sized.declared split length parsed) (not_le.2 small)

theorem OneFrame.sized (one : OneFrame m stream) : Sized stream := by
  intro long accepted
  by_contra small
  have enough : 20 ≤ headerSize := by decide
  have split : stream = stream.take headerSize ++ stream.drop headerSize := (List.take_append_drop headerSize stream).symm
  have room : 20 ≤ (stream.take headerSize).length := by
    rw [List.length_take]
    omega
  have header : readFull headerSize stream = some (stream.take headerSize, stream.drop headerSize) := if_pos long
  rw [split, accepted_append room] at accepted
  rw [split, ← size_append room] at small
  have parsed : parseHeader (stream.take headerSize) m.h = (headerOf (stream.take headerSize), true) :=
    parseHeader_accepted room accepted
  obtain ⟨silent, -⟩ := one.rejected _ _ _ header parsed (not_le.1 small)
  -- the code goes on to ask for the body
  rw [bodyRequest, header, Option.bind_some, parsed] at silent
  cases silent

/-- **When `readPacket` takes one frame**: unless the header declares less than its own size. -/
theorem oneFrame_iff_sized (m : Msg) (stream : List UInt8) : OneFrame m stream ↔ Sized stream :=
  ⟨OneFrame.sized, Sized.oneFrame⟩

end

/-! ## Tests -/

/-- The header of a login request. -/
def knock (size : UInt32) (userid : List UInt8) : Header := ⟨dogrun2ProtoMagic, 1, 7, 0, size, userid⟩

def blank : List UInt8 := List.replicate headerSize 0

theorem marshal_parseHeader_knock :
    (parseHeader ((knock 84 [117]).marshal blank) .zero).1.marshal (List.replicate headerSize 255) =
      (knock 84 [117]).marshal blank :=
  (marshal_parseHeader ((knock 84 [117]).marshal blank) .zero rfl).2 _ rfl _ rfl

theorem parseHeader_marshal_full : parseHeader ((knock 84 (List.replicate 64 117)).marshal blank) .zero =
    (knock 84 (List.replicate 64 117), true) :=
  (parseHeader_marshal_iff (knock 84 (List.replicate 64 117)) .zero blank rfl rfl (by decide) (by decide)).2 rfl

/-- A userid of one byte comes back with 63 bytes of the buffer behind it. -/
theorem parseHeader_marshal_short : parseHeader ((knock 84 [117]).marshal blank) .zero =
    (knock 84 (117 :: List.replicate 63 0), true) ∧
      parseHeader ((knock 84 [117]).marshal blank) .zero ≠ (knock 84 [117], true) := by
  have read : parseHeader ((knock 84 [117]).marshal blank) .zero = (knock 84 (117 :: List.replicate 63 0), true) := rfl
  refine ⟨read, ?_⟩
  rw [read]
  decide

/-- A header that declares ten bytes makes the server wait for 4294967222 more. -/
theorem short_frame_awaited : bodyRequest .zero ((knock 10 []).marshal blank) = some 4294967222 ∧
    ¬ OneFrame .zero ((knock 10 []).marshal blank) := by
  have asked : bodyRequest .zero ((knock 10 []).marshal blank) = some 4294967222 := rfl
  refine ⟨asked, fun one => ?_⟩
  obtain ⟨silent, -⟩ := one.rejected ((knock 10 []).marshal blank) [] (knock 10 (List.replicate 64 0)) rfl rfl (by decide)
  cases asked.symm.trans silent

end Crazyass.Dogrun
