import Crazyass.Go.Bytes
import Mathlib.Algebra.BigOperators.Group.List.Basic

/-!
# Framing of the dog server

A packet is a header of 84 bytes, which tells the size of the whole, and a
protobuf body. `readPacket` and the two functions that send build the frame
independently. The senders marshal the header into a local array and write only
the body.
-/

namespace Crazyass.Dogrun
open Go

def dogrun2ProtoMagic : UInt32 := 0x20140114

/-- `HeaderSize`. -/
def headerSize : ℕ := 20 + 64

/-- `Header`; a Go string is a sequence of bytes. -/
structure Header where
  magic : UInt32
  cmd : UInt32
  seq : UInt32
  err : UInt32
  size : UInt32
  userid : List UInt8
deriving DecidableEq, Repr

def Header.zero : Header := ⟨0, 0, 0, 0, 0, []⟩

structure Msg where
  h : Header
  body : List UInt8
deriving DecidableEq, Repr

def Msg.zero : Msg := ⟨.zero, []⟩

/-! ## Headers -/

def parseUint32 (buf : List UInt8) : UInt32 := ofBigEndian buf

/-- `marshlUint32(p, buf[i:i+4])`. -/
def marshlUint32 (p : UInt32) (buf : List UInt8) (i : ℕ) : List UInt8 := copyAt buf i (bigEndian p)

/-- `parseHeader` into `h`; the flag is false for `ErrInvalidHeader`. -/
def parseHeader (buf : List UInt8) (h : Header) : Header × Bool :=
  let h := { h with magic := parseUint32 (slice buf 0 4) }
  if h.magic ≠ dogrun2ProtoMagic then (h, false)
  else
    let h := { h with cmd := parseUint32 (slice buf 4 8) }
    if h.cmd ≥ 128 then (h, false)
    else
      let h := { h with seq := parseUint32 (slice buf 8 12) }
      let h := { h with err := parseUint32 (slice buf 12 16) }
      let h := { h with size := parseUint32 (slice buf 16 20) }
      ({ h with userid := buf.drop 20 }, true)

/-- `Marshal` into `buf`. -/
def Header.marshal (h : Header) (buf : List UInt8) : List UInt8 :=
  let buf := marshlUint32 h.magic buf 0
  let buf := marshlUint32 h.cmd buf 4
  let buf := marshlUint32 h.seq buf 8
  let buf := marshlUint32 h.err buf 12
  let buf := marshlUint32 h.size buf 16
  copyAt buf 20 h.userid

/-! ## Reading -/

inductive ReadErr where
  | readPacket | invalidHeader
deriving DecidableEq, Repr

/-- `readPacket` into the message `m`: the message afterwards, and the rest of
the stream or the error. -/
def readPacket (m : Msg) (stream : List UInt8) : Msg × Except ReadErr (List UInt8) :=
  match readFull headerSize stream with
  | none => (m, .error .readPacket)
  | some (hbuf, stream) =>
    match parseHeader hbuf m.h with
    | (h, false) => ({ m with h }, .error .invalidHeader)
    | (h, true) =>
      -- the subtraction is one of uint32
      let bodysize := (h.size - UInt32.ofNat headerSize).toNat
      match readFull bodysize stream with
      | none => ({ m with h }, .error .readPacket)
      | some (body, rest) => (⟨h, body⟩, .ok rest)

/-- `n` calls of `readPacket` on one connection: the messages, and the rest of the stream. -/
def readPackets : ℕ → Msg → List UInt8 → Option (List Msg × List UInt8)
  | 0, _, stream => some ([], stream)
  | n + 1, m, stream =>
    match readPacket m stream with
    | (m, .ok rest) => (readPackets n m rest).map fun r => (m :: r.1, r.2)
    | (_, .error _) => none

/-! ## Sending -/

/-- The protobuf library: `proto.Size` and what `Buffer.Marshal` appends to an
empty buffer, if it succeeds. -/
structure Protobuf (π : Type) where
  size : π → ℕ
  marshal : π → Option (List UInt8)
  size_eq : ∀ pb b, marshal pb = some b → size pb = b.length

/-- The reply buffer of a client, and what has been written to its connection. -/
structure Out where
  pbuf : List UInt8
  written : List UInt8
deriving DecidableEq, Repr

section
variable {π : Type} (P : Protobuf π)

/-- The common body of `SendMsg` and `SendNotify`: the buffers and the header
afterwards, and whether no error is returned. -/
def send (seq : UInt32) (s : Out) (h : Header) (pb : π) : Out × Header × Bool :=
  let h := { h with magic := dogrun2ProtoMagic, seq, size := UInt32.ofNat (P.size pb + headerSize) }
  -- the marshalled header goes to a local array that nothing reads
  let _data := h.marshal (List.replicate headerSize 0)
  let s := { s with pbuf := [] }
  match P.marshal pb with
  | none => (s, h, false)
  | some b =>
    let s := { s with pbuf := s.pbuf ++ b }
    ({ s with written := s.written ++ s.pbuf }, h, true)

/-- `SendMsg`, with the sequence number of the client's last request. -/
def sendMsg (request : UInt32) (s : Out) (h : Header) (pb : π) : Out × Header × Bool := send P request s h pb

def sendNotify (s : Out) (h : Header) (pb : π) : Out × Header × Bool := send P 0 s h pb

/-- A call of one of the two; `request` is the sequence number of the last request. -/
structure Call (π : Type) where
  notify : Bool
  request : UInt32
  h : Header
  pb : π

def Call.run (c : Call π) (s : Out) : Out :=
  if c.notify then (sendNotify P s c.h c.pb).1 else (sendMsg P c.request s c.h c.pb).1

/-- What the connection carries after a sequence of calls. -/
def written (calls : List (Call π)) : List UInt8 := (calls.foldl (fun s (c : Call π) => c.run P s) ⟨[], []⟩).written

/-- A call that the peer can be told about. -/
structure Call.Valid (c : Call π) : Prop where
  cmd : c.h.cmd < 128
  userid : c.h.userid.length ≤ 64
  encodes : ∃ b, P.marshal c.pb = some b ∧ b.length + headerSize < 2 ^ 32

/-- What the peer is to see of a call. -/
def Call.shown (c : Call π) : UInt32 × UInt32 × UInt32 × List UInt8 :=
  (c.h.cmd, if c.notify then 0 else c.request, c.h.err, (P.marshal c.pb).getD [])

def Msg.shown (m : Msg) : UInt32 × UInt32 × UInt32 × List UInt8 := (m.h.cmd, m.h.seq, m.h.err, m.body)

/-- **The contract of the framing**: a peer that reads the stream finds the calls, and nothing else. -/
def Recovered (calls : List (Call π)) (stream : List UInt8) : Prop :=
  ∃ ms, readPackets calls.length .zero stream = some (ms, []) ∧ ms.map Msg.shown = calls.map (Call.shown P)

variable {P} {m m' : Msg} {h : Header} {buf stream rest body : List UInt8} {ms : List Msg} {calls : List (Call π)} {n : ℕ}

/-! ## What is written is read -/

/-- The five words of a header. -/
def Header.words (h : Header) : List UInt8 :=
  bigEndian h.magic ++ bigEndian h.cmd ++ bigEndian h.seq ++ bigEndian h.err ++ bigEndian h.size

theorem marshal_eq (room : 20 ≤ buf.length) :
    h.marshal buf = h.words ++ (h.userid.take (buf.length - 20) ++ buf.drop (20 + h.userid.length)) := by
  have magic : copyAt ([] ++ buf) 0 (bigEndian h.magic) = ([] ++ bigEndian h.magic) ++ buf.drop 4 :=
    copyAt_word rfl (by simp; omega)
  have cmd : (bigEndian h.magic).length = 4 := rfl
  have seq : (bigEndian h.magic ++ bigEndian h.cmd).length = 8 := rfl
  have err : (bigEndian h.magic ++ bigEndian h.cmd ++ bigEndian h.seq).length = 12 := rfl
  have size : (bigEndian h.magic ++ bigEndian h.cmd ++ bigEndian h.seq ++ bigEndian h.err).length = 16 := rfl
  have userid : h.words.length = 20 := rfl
  rw [List.nil_append, List.nil_append] at magic
  unfold Header.marshal marshlUint32
  dsimp only
  rw [magic, copyAt_word cmd (by simp; omega), copyAt_word seq (by simp; omega), copyAt_word err (by simp; omega),
    copyAt_word size (by simp; omega)]
  rw [show bigEndian h.magic ++ bigEndian h.cmd ++ bigEndian h.seq ++ bigEndian h.err ++ bigEndian h.size = h.words from rfl,
    copyAt_append userid]
  simp [Nat.add_comm]

/-- A header is parsed as it was marshalled; the userid comes back with what fills its field. -/
theorem parseHeader_words (h h₀ : Header) (field : List UInt8) (magic : h.magic = dogrun2ProtoMagic) (cmd : h.cmd < 128) :
    parseHeader (h.words ++ field) h₀ = ({ h with userid := field }, true) := by
  have words : slice (h.words ++ field) 0 4 = bigEndian h.magic ∧ slice (h.words ++ field) 4 8 = bigEndian h.cmd ∧
      slice (h.words ++ field) 8 12 = bigEndian h.seq ∧ slice (h.words ++ field) 12 16 = bigEndian h.err ∧
      slice (h.words ++ field) 16 20 = bigEndian h.size ∧ (h.words ++ field).drop 20 = field :=
    ⟨rfl, rfl, rfl, rfl, rfl, rfl⟩
  obtain ⟨first, second, third, fourth, fifth, last⟩ := words
  unfold parseHeader parseUint32
  rw [first, second, third, fourth, fifth, last]
  simp only [ofBigEndian_bigEndian]
  rw [if_neg (not_not.2 magic), if_neg (UInt32.not_le.2 cmd)]

/-- A header and a body, as a peer expects them. -/
def frame (h : Header) (body : List UInt8) : List UInt8 := h.marshal (List.replicate headerSize 0) ++ body

/-- **Reading undoes framing**: the header, the userid padded with zeros, and the body. -/
theorem readPacket_frame (m : Msg) (rest : List UInt8) (magic : h.magic = dogrun2ProtoMagic) (cmd : h.cmd < 128)
    (size : h.size = UInt32.ofNat (body.length + headerSize)) (fits : body.length + headerSize < 2 ^ 32) :
    ∃ userid, readPacket m (frame h body ++ rest) = (⟨{ h with userid }, body⟩, .ok rest) := by
  have field : ∃ userid, h.marshal (List.replicate headerSize 0) = h.words ++ userid ∧ userid.length = 64 := by
    refine ⟨_, marshal_eq (by decide), ?_⟩
    rw [List.length_append, List.length_take, List.length_drop, List.length_replicate]
    unfold headerSize
    omega
  obtain ⟨userid, marshalled, length⟩ := field
  have whole : (h.words ++ userid).length = headerSize := by
    rw [List.length_append, length]
    rfl
  have header : readFull headerSize (frame h body ++ rest) = some (h.words ++ userid, body ++ rest) := by
    rw [frame, marshalled, List.append_assoc, ← whole]
    exact readFull_append _ _
  have bodysize : (h.size - UInt32.ofNat headerSize).toNat = body.length := by
    rw [size, UInt32.ofNat_add, UInt32.add_sub_cancel, UInt32.toNat_ofNat_of_lt']
    exact Nat.lt_of_le_of_lt (Nat.le_add_right _ _) fits
  refine ⟨userid, ?_⟩
  unfold readPacket
  rw [header]
  dsimp only
  rw [parseHeader_words h m.h userid magic cmd]
  dsimp only
  rw [bodysize, readFull_append]

/-! ## What is read was on the stream -/

theorem parseHeader_true {h h₀ : Header} (parsed : parseHeader buf h₀ = (h, true)) : h.cmd < 128 := by
  unfold parseHeader at parsed
  dsimp only at parsed
  split at parsed
  · simp at parsed
  · split at parsed
    · simp at parsed
    · next small =>
      cases parsed
      exact UInt32.not_le.1 small

/-- A packet that is read is a header and a body off the stream. -/
theorem readPacket_ok (h : readPacket m stream = (m', .ok rest)) :
    ∃ hbuf, stream = hbuf ++ (m'.body ++ rest) ∧ hbuf.length = headerSize ∧ parseHeader hbuf m.h = (m'.h, true) ∧
      m'.body.length = (m'.h.size - UInt32.ofNat headerSize).toNat := by
  unfold readPacket at h
  cases header : readFull headerSize stream with
  | none => simp [header] at h
  | some first =>
    obtain ⟨hbuf, tail⟩ := first
    obtain ⟨split, length⟩ := readFull_some header
    rw [header] at h
    dsimp only at h
    cases parsed : parseHeader hbuf m.h with
    | mk h' ok =>
      rw [parsed] at h
      cases ok with
      | false => simp at h
      | true =>
        dsimp only at h
        cases whole : readFull (h'.size - UInt32.ofNat headerSize).toNat tail with
        | none => simp [whole] at h
        | some second =>
          obtain ⟨body, end_of⟩ := second
          obtain ⟨split', bodysize⟩ := readFull_some whole
          rw [whole] at h
          cases h
          exact ⟨hbuf, by rw [split, split'], length, parsed, bodysize⟩

theorem readPacket_length (h : readPacket m stream = (m', .ok rest)) :
    stream.length = headerSize + m'.body.length + rest.length := by
  obtain ⟨hbuf, split, length, -⟩ := readPacket_ok h
  rw [split, List.length_append, List.length_append, length, Nat.add_assoc]

theorem readPackets_succ (h : readPacket m stream = (m', .ok rest)) :
    readPackets (n + 1) m stream = (readPackets n m' rest).map fun r => (m' :: r.1, r.2) := by
  rw [readPackets, h]

theorem readPackets_length (h : readPackets n m stream = some (ms, rest)) :
    stream.length = (ms.map fun m => headerSize + m.body.length).sum + rest.length := by
  induction n generalizing m stream ms with
  | zero =>
    cases h
    simp
  | succ n ih =>
    unfold readPackets at h
    cases first : readPacket m stream with
    | mk m' result =>
      rw [first] at h
      cases result with
      | error e => cases h
      | ok tail =>
        obtain ⟨⟨ms', rest'⟩, later, same⟩ := Option.map_eq_some_iff.1 h
        cases same
        have here := readPacket_length first
        rw [here, ih later, List.map_cons, List.sum_cons, Nat.add_assoc, Nat.add_assoc, Nat.add_assoc]

/-! ## The contract -/

/-- A call writes the encoding of its message, and nothing else. -/
theorem run_written {c : Call π} (valid : c.Valid P) (s : Out) :
    (c.run P s).written = s.written ++ (P.marshal c.pb).getD [] := by
  obtain ⟨b, encodes, -⟩ := valid.encodes
  unfold Call.run sendNotify sendMsg send
  rw [encodes]
  split <;> rfl

theorem written_eq (valid : ∀ c ∈ calls, c.Valid P) : written P calls = calls.flatMap fun c => (P.marshal c.pb).getD [] := by
  have from_any : ∀ s : Out, (calls.foldl (fun s (c : Call π) => c.run P s) s).written =
      s.written ++ calls.flatMap fun c => (P.marshal c.pb).getD [] := by
    induction calls with
    | nil => simp
    | cons c calls ih =>
      intro s
      rw [List.foldl_cons, ih (fun c hc => valid c (List.mem_cons_of_mem _ hc)), run_written (valid c List.mem_cons_self),
        List.flatMap_cons, List.append_assoc]
  exact from_any ⟨[], []⟩

/-- The header that a call leaves in its message. -/
def Call.header (P : Protobuf π) (c : Call π) : Header :=
  if c.notify then (sendNotify P ⟨[], []⟩ c.h c.pb).2.1 else (sendMsg P c.request ⟨[], []⟩ c.h c.pb).2.1

theorem header_eq (c : Call π) : c.header P =
    { c.h with
      magic := dogrun2ProtoMagic, seq := if c.notify then 0 else c.request,
      size := UInt32.ofNat (P.size c.pb + headerSize) } := by
  unfold Call.header sendNotify sendMsg send
  cases P.marshal c.pb <;> split <;> rfl

/-- The two sides agree on the frame: a stream of the headers that the calls
prepare, each before its body, is read as the calls. -/
theorem recovered_frames (valid : ∀ c ∈ calls, c.Valid P) :
    Recovered P calls (calls.flatMap fun c => frame (c.header P) ((P.marshal c.pb).getD [])) := by
  have from_any : ∀ m : Msg, ∃ ms,
      readPackets calls.length m (calls.flatMap fun c => frame (c.header P) ((P.marshal c.pb).getD [])) = some (ms, []) ∧
        ms.map Msg.shown = calls.map (Call.shown P) := by
    induction calls with
    | nil => exact fun m => ⟨[], rfl, rfl⟩
    | cons c calls ih =>
      intro m
      have here := valid c List.mem_cons_self
      obtain ⟨b, encodes, fits⟩ := here.encodes
      have magic : (c.header P).magic = dogrun2ProtoMagic := by rw [header_eq]
      have cmd : (c.header P).cmd < 128 := by rw [header_eq]; exact here.cmd
      have size : (c.header P).size = UInt32.ofNat (b.length + headerSize) := by rw [header_eq, P.size_eq c.pb b encodes]
      obtain ⟨userid, read⟩ := readPacket_frame m
        (calls.flatMap fun c => frame (c.header P) ((P.marshal c.pb).getD [])) magic cmd size fits
      obtain ⟨ms, later, shown⟩ := ih (fun c hc => valid c (List.mem_cons_of_mem _ hc)) ⟨{ c.header P with userid }, b⟩
      refine ⟨⟨{ c.header P with userid }, b⟩ :: ms, ?_, ?_⟩
      · rw [List.flatMap_cons, List.length_cons, encodes, Option.getD_some, readPackets_succ read, later]
        rfl
      · have first : Msg.shown ⟨{ c.header P with userid }, b⟩ = c.shown P := by
          rw [Msg.shown, Call.shown, encodes, header_eq]
          rfl
        rw [List.map_cons, List.map_cons, shown, first]
  exact from_any .zero

/-- **When the peer finds the calls**: only when there are none. What is written
is shorter than what it has to read, by one header for each call. -/
theorem recovered_iff_silent (P : Protobuf π) (calls : List (Call π)) (valid : ∀ c ∈ calls, c.Valid P) :
    Recovered P calls (written P calls) ↔ calls = [] := by
  constructor
  · rintro ⟨ms, read, shown⟩
    have needed := readPackets_length read
    have bodies : ms.map (fun m => m.body.length) = calls.map fun c => ((P.marshal c.pb).getD []).length := by
      have last := congrArg (List.map fun e : UInt32 × UInt32 × UInt32 × List UInt8 => e.2.2.2.length) shown
      rw [List.map_map, List.map_map] at last
      exact last
    have count : ms.length = calls.length := by
      have lengths := congrArg List.length shown
      rwa [List.length_map, List.length_map] at lengths
    have given : (written P calls).length = (ms.map fun m => m.body.length).sum := by
      rw [written_eq valid, List.length_flatMap, bodies]
    have total : (ms.map fun m => headerSize + m.body.length).sum =
        ms.length * headerSize + (ms.map fun m => m.body.length).sum := by
      rw [List.sum_map_add, List.map_const', List.sum_replicate_nat]
    rw [given, total, List.length_nil] at needed
    unfold headerSize at needed
    exact List.length_eq_zero_iff.1 (by omega)
  · rintro rfl
    exact ⟨[], rfl, rfl⟩

end

/-! ## Tests -/

/-- Messages that are their own encoding. -/
def plain : Protobuf (List UInt8) := ⟨List.length, some, fun _ _ same => by cases same; rfl⟩

def reply (cmd : UInt32) (pb : List UInt8) : Call (List UInt8) := ⟨false, 7, { Header.zero with cmd }, pb⟩

theorem recovered_iff_silent_reply : ¬ Recovered plain [reply 2 [1, 2]] (written plain [reply 2 [1, 2]]) := by
  have valid : ∀ c ∈ [reply 2 [1, 2]], c.Valid plain := by
    intro c hc
    cases List.mem_singleton.1 hc
    exact ⟨by decide, by decide, [1, 2], rfl, by decide⟩
  rw [recovered_iff_silent plain [reply 2 [1, 2]] valid]
  decide

/-- A reply without fields, and one with a body of two bytes: the peer cannot
read even the first header. -/
theorem not_recovered : ¬ Recovered plain [reply 2 []] (written plain [reply 2 []]) ∧
    ¬ Recovered plain [reply 2 [], reply 6 [1, 2]] (written plain [reply 2 [], reply 6 [1, 2]]) := by
  constructor
  · rintro ⟨ms, read, -⟩
    cases read
  · rintro ⟨ms, read, -⟩
    cases read

end Crazyass.Dogrun
