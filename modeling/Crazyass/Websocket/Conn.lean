import Crazyass.Websocket.Frame

/-!
# Connections

What the server's end of a websocket does with the frames of its peer:
`HandleFrame` of `hybi.go`, and `Receive` and `Send` of a codec. `input` is all
that the peer has written and will write, `eof` says whether reading on ends
with an EOF or another error.

A call of `Receive` returns the payload of one frame. `deliver` and `answers`
say the same of frames instead of bytes.
-/

namespace Crazyass.Websocket
open Go

/-! ## Receiving -/

/-- The errors of `Receive`: `io.EOF`, `ErrNotImplemented`, and the others. -/
inductive Err where
  | eof | notImplemented | failed
deriving DecidableEq, Repr

/-- A connection that a server has accepted; `payloadType` is the frame handler's. -/
structure Conn where
  input : List UInt8
  eof : Bool
  output : List UInt8
  broken : Bool
  payloadType : UInt8
deriving DecidableEq, Repr

/-- What `Receive` hands to `Unmarshal`. -/
structure Packet where
  payloadType : UInt8
  data : List UInt8
deriving DecidableEq, Repr

/-- `NewFrameWriter` of a server: no masking key. -/
def reply (opCode : UInt8) : FrameHeader := ⟨true, #v[false, false, false], opCode, 0, none⟩

/-- `closeStatusProtocolError`, as `PutUint16` writes it. -/
def protocolError : List UInt8 := [0x03, 0xea]

namespace Conn

/-- A frame written to the connection; the flag is false for an error. -/
def write (c : Conn) (opCode : UInt8) (msg : List UInt8) : Conn × Bool :=
  match (reply opCode).write msg with
  | none => (c, false)
  | some bytes => if c.broken then (c, false) else ({ c with output := c.output ++ bytes }, true)

def ending (c : Conn) : Err := if c.eof then .eof else .failed

/-- `io.ReadFull(frame, pingMsg)` and what `HandleFrame` takes for an error of it. -/
def readPing (c : Conn) (f : FrameReader) : Conn × Except Err (List UInt8) :=
  let (rest, msg, input) := f.read 125 c.input
  let (_, _, discarded) := rest.read rest.left input
  if msg.length = 125 then ({ c with input := discarded }, .ok msg)
  -- the frame is at its end, or the stream is
  else if rest.left = 0 ∨ c.eof then
    -- `io.EOF` is what reading nothing gives, and the frame is not a pong's then
    if msg = [] then ({ c with input }, .error .eof) else ({ c with input := discarded }, .ok msg)
  else ({ c with input }, .error .failed)

/-- `HandleFrame`. -/
def handleFrame (c : Conn) (f : FrameReader) : Conn × Except Err (Option FrameReader) :=
  if f.header.maskingKey = none then ((c.write closeFrame protocolError).1, .error .eof)
  else if f.header.opCode = continuationFrame then
    (c, .ok (some { f with header := { f.header with opCode := c.payloadType } }))
  else if f.header.opCode = textFrame ∨ f.header.opCode = binaryFrame then
    ({ c with payloadType := f.header.opCode }, .ok (some f))
  else if f.header.opCode = closeFrame then (c, .error .eof)
  else if f.header.opCode = pingFrame then
    match c.readPing f with
    | (c, .error e) => (c, .error e)
    | (c, .ok msg) =>
      match c.write pongFrame msg with
      | (c, true) => (c, .ok none)
      | (c, false) => (c, .error .failed)
  else if f.header.opCode = pongFrame then (c, .error .notImplemented)
  else (c, .ok (some f))

/-- `ReadAll` of a frame, which ends well at an EOF of the stream too. -/
def readAll (c : Conn) (f : FrameReader) : Conn × Except Err Packet :=
  let (rest, data, input) := f.read f.left c.input
  ({ c with input }, if rest.left = 0 ∨ c.eof then .ok ⟨f.header.opCode, data⟩ else .error .failed)

/-- `Receive` from `again` to the end or back to `again`: a frame that is answered gives nothing. -/
def receiveFrame (c : Conn) : Conn × Except Err (Option Packet) :=
  match newFrameReader c.input with
  | none => ({ c with input := [] }, .error c.ending)
  | some (f, input) =>
    match handleFrame { c with input } f with
    | (c, .error e) => (c, .error e)
    | (c, .ok none) => (c, .ok none)
    | (c, .ok (some f)) => ((c.readAll f).1, (c.readAll f).2.map some)

/-- `Receive`, in at most so many frames. -/
def receiveIn : ℕ → Conn → Conn × Except Err Packet
  | 0, c => (c, .error .failed)
  | n + 1, c =>
    match c.receiveFrame with
    | (c, .error e) => (c, .error e)
    | (c, .ok none) => receiveIn n c
    | (c, .ok (some p)) => (c, .ok p)

/-- `Receive`. Every frame takes bytes off the input. -/
def receive (c : Conn) : Conn × Except Err Packet := receiveIn (c.input.length + 1) c

/-- Calls of `Receive` until there is an error, at most so many. -/
def receiveAllIn : ℕ → Conn → Conn × List Packet
  | 0, c => (c, [])
  | n + 1, c =>
    match c.receive with
    | (c, .error _) => (c, [])
    | (c, .ok p) => ((receiveAllIn n c).1, p :: (receiveAllIn n c).2)

/-- Calls of `Receive` until there is an error. -/
def receiveAll (c : Conn) : Conn × List Packet := receiveAllIn (c.input.length + 1) c

end Conn

/-! ## The same of frames -/

/-- A frame of the peer. -/
structure Frame where
  header : FrameHeader
  payload : List UInt8
deriving DecidableEq

namespace Frame

/-- The bytes of a frame. -/
def bytes (f : Frame) : List UInt8 := f.header.bytes f.payload.length ++ mask f.header.maskingKey 0 f.payload

structure Sound (f : Frame) : Prop where
  header : f.header.Sound
  fits : f.payload.length < 2 ^ 63

/-- The frame ends the connection: it is not masked, a close, a pong, or a ping without a payload. -/
def Ends (broken : Bool) (f : Frame) : Prop :=
  f.header.maskingKey = none ∨ f.header.opCode = closeFrame ∨ f.header.opCode = pongFrame ∨
    f.header.opCode = pingFrame ∧ (f.payload = [] ∨ broken = true)

instance (broken : Bool) (f : Frame) : Decidable (f.Ends broken) := by unfold Ends; infer_instance

/-- The type that a frame's payload is delivered with, and that a continuation then has. -/
def type (f : Frame) (t : UInt8) : UInt8 := if f.header.opCode = continuationFrame then t else f.header.opCode

/-- What continuations are delivered as after a frame. -/
def next (f : Frame) (t : UInt8) : UInt8 :=
  if f.header.opCode = textFrame ∨ f.header.opCode = binaryFrame then f.header.opCode else t

end Frame

/-- What is delivered of some frames: their payloads up to the first frame that ends the connection. -/
def deliver (broken : Bool) : UInt8 → List Frame → List Packet
  | _, [] => []
  | t, f :: fs =>
    if f.Ends broken then []
    else if f.header.opCode = pingFrame then deliver broken t fs
    else ⟨f.type t, f.payload⟩ :: deliver broken (f.next t) fs

/-- What is written meanwhile: a pong for each ping, with 125 bytes of it, and a
close for a frame without a mask. -/
def answers (broken : Bool) : List Frame → List Frame
  | [] => []
  | f :: fs =>
    if broken then []
    else if f.Ends broken then
      if f.header.maskingKey = none then [⟨reply closeFrame, protocolError⟩] else []
    else if f.header.opCode = pingFrame then ⟨reply pongFrame, f.payload.take 125⟩ :: answers broken fs
    else answers broken fs

/-! ## Frames are used up -/

namespace Conn
section
variable {c t : Conn} {f : FrameReader} {n m : ℕ} {r : Option Packet} {p : Packet} {e : Err}

theorem read_shorter (f : FrameReader) (n : ℕ) (stream : List UInt8) : (f.read n stream).2.2.length ≤ stream.length := by
  simp [FrameReader.read]

@[simp] theorem write_input (c : Conn) (opCode : UInt8) (msg : List UInt8) : (c.write opCode msg).1.input = c.input := by
  unfold write
  split
  · rfl
  · split <;> rfl

theorem readPing_shorter (c : Conn) (f : FrameReader) : (c.readPing f).1.input.length ≤ c.input.length := by
  have first := read_shorter f 125 c.input
  have second := (read_shorter (f.read 125 c.input).1 (f.read 125 c.input).1.left (f.read 125 c.input).2.2).trans first
  unfold readPing
  dsimp only
  split
  · exact second
  · split
    · split
      · exact first
      · exact second
    · exact first

theorem handleFrame_shorter (c : Conn) (f : FrameReader) : (c.handleFrame f).1.input.length ≤ c.input.length := by
  have ping := readPing_shorter c f
  unfold handleFrame
  split
  · rw [write_input]
  · split
    · exact Nat.le_refl _
    · split
      · exact Nat.le_refl _
      · split
        · exact Nat.le_refl _
        · split
          · generalize c.readPing f = result at ping ⊢
            obtain ⟨c', e | msg⟩ := result
            · exact ping
            · have kept := write_input c' pongFrame msg
              dsimp only
              generalize c'.write pongFrame msg = written at kept ⊢
              obtain ⟨c'', _ | _⟩ := written <;> exact (congrArg List.length kept).le.trans ping
          · split <;> exact Nat.le_refl _

theorem receiveFrame_shorter (h : c.receiveFrame = (t, .ok r)) : t.input.length < c.input.length := by
  unfold receiveFrame at h
  cases read : newFrameReader c.input with
  | none =>
    rw [read] at h
    cases h
  | some fr =>
    obtain ⟨f, input⟩ := fr
    have first := newFrameReader_shorter read
    have second := handleFrame_shorter { c with input } f
    rw [read] at h
    dsimp only at h second
    generalize handleFrame { c with input } f = handled at h second
    obtain ⟨c', e | _ | f'⟩ := handled
    · cases h
    · cases h
      exact second.trans_lt first
    · have third := read_shorter f' f'.left c'.input
      dsimp only at h
      obtain ⟨rfl, -⟩ := Prod.mk.inj h
      exact (third.trans second).trans_lt first

/-- With enough fuel more makes no difference. -/
theorem receiveIn_enough (first : c.input.length < n) (second : c.input.length < m) : receiveIn n c = receiveIn m c := by
  induction n generalizing m c with
  | zero => omega
  | succ n ih =>
    obtain ⟨m, rfl⟩ : ∃ k, m = k + 1 := ⟨m - 1, by omega⟩
    rw [receiveIn, receiveIn]
    generalize step : c.receiveFrame = result
    obtain ⟨t, e | _ | p⟩ := result
    · rfl
    · have shorter := receiveFrame_shorter step
      exact ih (by omega) (by omega)
    · rfl

/-- `Receive` without fuel. -/
theorem receive_eq (c : Conn) : c.receive = match c.receiveFrame with
    | (t, .error e) => (t, .error e)
    | (t, .ok none) => t.receive
    | (t, .ok (some p)) => (t, .ok p) := by
  unfold receive
  rw [receiveIn]
  generalize step : c.receiveFrame = result
  obtain ⟨t, e | _ | p⟩ := result
  · rfl
  · exact receiveIn_enough (receiveFrame_shorter step) (Nat.lt_succ_self _)
  · rfl

theorem receive_shorter (h : c.receive = (t, .ok p)) : t.input.length < c.input.length := by
  unfold receive at h
  generalize c.input.length + 1 = n at h
  induction n generalizing c with
  | zero => cases h
  | succ n ih =>
    rw [receiveIn] at h
    generalize step : c.receiveFrame = result at h
    obtain ⟨s, e | _ | q⟩ := result
    · cases h
    · exact (ih h).trans (receiveFrame_shorter step)
    · cases h
      exact receiveFrame_shorter step

/-- More fuel than bytes is enough fuel. -/
theorem receiveAllIn_enough (first : c.input.length < n) (second : c.input.length < m) :
    receiveAllIn n c = receiveAllIn m c := by
  induction n generalizing m c with
  | zero => omega
  | succ n ih =>
    obtain ⟨m, rfl⟩ : ∃ k, m = k + 1 := ⟨m - 1, by omega⟩
    rw [receiveAllIn, receiveAllIn]
    generalize step : c.receive = result
    obtain ⟨t, e | p⟩ := result
    · rfl
    · have shorter := receive_shorter step
      dsimp only
      rw [ih (m := m) (by omega) (by omega)]

/-- The calls of `Receive`, frame by frame. -/
theorem receiveAll_eq (c : Conn) : c.receiveAll = match c.receiveFrame with
    | (t, .error _) => (t, [])
    | (t, .ok none) => t.receiveAll
    | (t, .ok (some p)) => (t.receiveAll.1, p :: t.receiveAll.2) := by
  unfold receiveAll
  rw [receiveAllIn, receive_eq]
  generalize step : c.receiveFrame = result
  obtain ⟨t, e | _ | p⟩ := result
  · rfl
  · have shorter := receiveFrame_shorter step
    exact receiveAllIn_enough (n := c.input.length + 1) (by omega) (Nat.lt_succ_self _)
  · have shorter := receiveFrame_shorter step
    dsimp only
    rw [receiveAllIn_enough (n := c.input.length) shorter (Nat.lt_succ_self _)]

end
end Conn

/-! ## One frame -/

section
variable {c : Conn} {f : Frame} {rest : List UInt8}

/-- The reader of a frame at its payload. -/
def Frame.reader (f : Frame) : FrameReader := ⟨f.header.carrying f.payload, 0, f.payload.length⟩

theorem newFrameReader_frame (sound : f.Sound) :
    newFrameReader (f.bytes ++ rest) = some (f.reader, mask f.header.maskingKey 0 f.payload ++ rest) := by
  rw [Frame.bytes, List.append_assoc]
  exact newFrameReader_bytes sound.header sound.fits _

/-- The first bytes of a payload. -/
theorem read_payload {h : FrameHeader} (same : h.maskingKey = f.header.maskingKey) (n : ℕ) :
    (⟨h, 0, f.payload.length⟩ : FrameReader).read n (mask f.header.maskingKey 0 f.payload ++ rest) =
      (⟨h, min n f.payload.length, f.payload.length - min n f.payload.length⟩, f.payload.take n,
        (mask f.header.maskingKey 0 f.payload).drop n ++ rest) := by
  have length : (mask f.header.maskingKey 0 f.payload).length = f.payload.length := mask_length
  have gets : (⟨h, 0, f.payload.length⟩ : FrameReader).gets n (mask f.header.maskingKey 0 f.payload ++ rest) =
      min n f.payload.length := by
    rw [FrameReader.gets, List.length_append, length]
    dsimp only
    omega
  unfold FrameReader.read
  rw [gets, same]
  dsimp only
  rw [Nat.zero_add, ← length, List.take_append_of_le_length (Nat.min_le_right _ _),
    List.drop_append_of_le_length (Nat.min_le_right _ _), List.take_eq_take_min.symm, ← mask_take, mask_mask]
  rcases Nat.le_total n (mask f.header.maskingKey 0 f.payload).length with short | long
  · rw [Nat.min_eq_left short]
  · rw [Nat.min_eq_right long, List.drop_length, List.drop_eq_nil_of_le long]

/-- A reply is written whole, if it is. -/
theorem write_reply {opCode : UInt8} (small : opCode < 16) (msg : List UInt8) : c.write opCode msg =
    if c.broken then (c, false) else ({ c with output := c.output ++ (⟨reply opCode, msg⟩ : Frame).bytes }, true) := by
  unfold Conn.write
  rw [write_eq ⟨small, fun _ mem => by cases mem⟩]
  rfl

theorem handleFrame_data (lasts : ¬ f.Ends c.broken) (data : f.header.opCode ≠ pingFrame) :
    c.handleFrame f.reader = ({ c with payloadType := f.next c.payloadType },
      .ok (some { f.reader with header := { f.reader.header with opCode := f.type c.payloadType } })) := by
  unfold Frame.Ends at lasts
  push Not at lasts
  obtain ⟨masked, close, pong, -⟩ := lasts
  unfold Conn.handleFrame Frame.next Frame.type
  rw [if_neg (show f.reader.header.maskingKey ≠ none from masked)]
  have op : f.reader.header.opCode = f.header.opCode := rfl
  rw [op]
  by_cases continuation : f.header.opCode = continuationFrame
  · have other : ¬ (f.header.opCode = textFrame ∨ f.header.opCode = binaryFrame) := by
      rw [continuation]
      decide
    rw [if_pos continuation, if_pos continuation, if_neg other]
  · rw [if_neg continuation, if_neg continuation, if_neg close, if_neg data, if_neg pong]
    split <;> rfl

theorem readAll_payload (c : Conn) (f : Frame) (rest : List UInt8) (op : UInt8) :
    ({ c with input := mask f.header.maskingKey 0 f.payload ++ rest } : Conn).readAll
      { f.reader with header := { f.reader.header with opCode := op } } = ({ c with input := rest }, .ok ⟨op, f.payload⟩) := by
  have length : (mask f.header.maskingKey 0 f.payload).length = f.payload.length := mask_length
  have read : ({ f.reader with header := { f.reader.header with opCode := op } } : FrameReader).read f.payload.length
      (mask f.header.maskingKey 0 f.payload ++ rest) = _ :=
    read_payload (h := { f.reader.header with opCode := op }) (f := f) rfl f.payload.length
  unfold Conn.readAll
  rw [show ({ f.reader with header := { f.reader.header with opCode := op } } : FrameReader).left = f.payload.length from rfl,
    read, Nat.min_self, Nat.sub_self, List.take_length, ← length, List.drop_length]
  rfl

/-- A data frame is received. -/
theorem receiveFrame_data (sound : f.Sound) (lasts : ¬ f.Ends c.broken) (data : f.header.opCode ≠ pingFrame) :
    ({ c with input := f.bytes ++ rest } : Conn).receiveFrame =
      ({ c with input := rest, payloadType := f.next c.payloadType }, .ok (some ⟨f.type c.payloadType, f.payload⟩)) := by
  have handled := handleFrame_data (c := { c with input := mask f.header.maskingKey 0 f.payload ++ rest }) lasts data
  have read := readAll_payload { c with payloadType := f.next c.payloadType } f rest (f.type c.payloadType)
  unfold Conn.receiveFrame
  rw [newFrameReader_frame sound]
  dsimp only
  rw [handled]
  dsimp only at read ⊢
  rw [read]
  rfl

theorem read_left {g : FrameReader} {front : List UInt8} (whole : front.length = g.left) :
    (g.read g.left (front ++ rest)).2.2 = rest := by
  have gets : g.gets g.left (front ++ rest) = front.length := by
    rw [FrameReader.gets, List.length_append]
    omega
  unfold FrameReader.read
  rw [gets]
  exact List.drop_left

/-- What a ping is read as: its first 125 bytes, or an EOF if there are none. -/
theorem readPing_payload (c : Conn) (f : Frame) (rest : List UInt8) :
    ({ c with input := mask f.header.maskingKey 0 f.payload ++ rest } : Conn).readPing f.reader =
      ({ c with input := rest }, if f.payload = [] then .error .eof else .ok (f.payload.take 125)) := by
  have length : (mask f.header.maskingKey 0 f.payload).length = f.payload.length := mask_length
  have read : f.reader.read 125 (mask f.header.maskingKey 0 f.payload ++ rest) = _ := read_payload (h := f.reader.header) rfl 125
  have left : f.payload.length - min 125 f.payload.length = ((mask f.header.maskingKey 0 f.payload).drop 125).length := by
    rw [List.length_drop, length]
    omega
  unfold Conn.readPing
  rw [read]
  dsimp only
  rw [read_left left.symm]
  by_cases full : (f.payload.take 125).length = 125
  · have some_ : f.payload ≠ [] := by
      rintro none_
      rw [none_] at full
      cases full
    rw [if_pos full, if_neg some_]
  · have short : f.payload.length ≤ 125 := by
      rw [List.length_take] at full
      omega
    have empty : (mask f.header.maskingKey 0 f.payload).drop 125 = [] := List.drop_eq_nil_of_le (by omega)
    have end_ : f.payload.length - min 125 f.payload.length = 0 := by omega
    rw [if_neg full, if_pos (.inl end_), List.take_of_length_le short, empty, List.nil_append]
    split <;> rfl

/-- A ping with a payload is answered. -/
theorem receiveFrame_ping (sound : f.Sound) (lasts : ¬ f.Ends c.broken) (ping : f.header.opCode = pingFrame) :
    ({ c with input := f.bytes ++ rest } : Conn).receiveFrame =
      ({ c with input := rest, output := c.output ++ (⟨reply pongFrame, f.payload.take 125⟩ : Frame).bytes }, .ok none) := by
  unfold Frame.Ends at lasts
  push Not at lasts
  obtain ⟨masked, -, -, answered⟩ := lasts
  obtain ⟨some_, working⟩ := answered ping
  have read := readPing_payload c f rest
  rw [if_neg some_] at read
  unfold Conn.receiveFrame Conn.handleFrame
  rw [newFrameReader_frame sound]
  dsimp only
  rw [if_neg (show f.reader.header.maskingKey ≠ none from masked), show f.reader.header.opCode = pingFrame from ping,
    if_neg (by decide), if_neg (by decide), if_neg (by decide), if_pos rfl, read]
  dsimp only
  rw [write_reply (by decide), if_neg (by simpa using working)]

/-- A frame that ends the connection. -/
theorem receiveFrame_ends (sound : f.Sound) (ends : f.Ends c.broken) :
    ∃ input e, ({ c with input := f.bytes ++ rest } : Conn).receiveFrame = ({ c with input, output := c.output ++
      if f.header.maskingKey = none ∧ c.broken = false then (⟨reply closeFrame, protocolError⟩ : Frame).bytes else [] },
        .error e) := by
  have read := readPing_payload c f rest
  unfold Conn.receiveFrame Conn.handleFrame
  rw [newFrameReader_frame sound]
  dsimp only
  by_cases unmasked : f.header.maskingKey = none
  · rw [if_pos (show f.reader.header.maskingKey = none from unmasked), write_reply (by decide)]
    dsimp only
    refine ⟨mask f.header.maskingKey 0 f.payload ++ rest, .eof, ?_⟩
    cases working : c.broken with
    | true => simp
    | false => simp [unmasked]
  · have silent : (if f.header.maskingKey = none ∧ c.broken = false then (⟨reply closeFrame, protocolError⟩ : Frame).bytes
        else []) = [] := if_neg fun both => unmasked both.1
    rw [if_neg (show f.reader.header.maskingKey ≠ none from unmasked), silent, List.append_nil]
    rcases ends with none_ | close | pong | ⟨ping, failed⟩
    · exact absurd none_ unmasked
    · rw [show f.reader.header.opCode = closeFrame from close, if_neg (by decide), if_neg (by decide), if_pos rfl]
      exact ⟨_, _, rfl⟩
    · rw [show f.reader.header.opCode = pongFrame from pong, if_neg (by decide), if_neg (by decide), if_neg (by decide),
        if_neg (by decide), if_pos rfl]
      exact ⟨_, _, rfl⟩
    · rw [show f.reader.header.opCode = pingFrame from ping, if_neg (by decide), if_neg (by decide), if_neg (by decide),
        if_pos rfl, read]
      by_cases empty : f.payload = []
      · rw [if_pos empty]
        exact ⟨_, _, rfl⟩
      · have broken := failed.resolve_left empty
        rw [if_neg empty]
        dsimp only
        rw [write_reply (by decide), if_pos broken]
        exact ⟨_, _, rfl⟩

end

/-! ## A stream of frames -/

/-- The bytes of some frames. -/
def bytesOf (fs : List Frame) : List UInt8 := fs.flatMap Frame.bytes

@[simp] theorem answers_broken (fs : List Frame) : answers true fs = [] := by
  cases fs <;> rfl

section
variable {c : Conn} {f : Frame} {rest : List UInt8}

/-- A data frame is received, and the rest after it. -/
theorem receiveAll_data (sound : f.Sound) (lasts : ¬ f.Ends c.broken) (data : f.header.opCode ≠ pingFrame) :
    ({ c with input := f.bytes ++ rest } : Conn).receiveAll =
      (({ c with input := rest, payloadType := f.next c.payloadType } : Conn).receiveAll.1,
        ⟨f.type c.payloadType, f.payload⟩ ::
          ({ c with input := rest, payloadType := f.next c.payloadType } : Conn).receiveAll.2) := by
  rw [Conn.receiveAll_eq, receiveFrame_data sound lasts data]

/-- A ping is answered, and the rest received. -/
theorem receiveAll_ping (sound : f.Sound) (lasts : ¬ f.Ends c.broken) (ping : f.header.opCode = pingFrame) :
    ({ c with input := f.bytes ++ rest } : Conn).receiveAll = ({ c with input := rest, output := c.output ++
      (⟨reply pongFrame, f.payload.take 125⟩ : Frame).bytes } : Conn).receiveAll := by
  rw [Conn.receiveAll_eq, receiveFrame_ping sound lasts ping]

/-- A frame that ends the connection is the last. -/
theorem receiveAll_ends (sound : f.Sound) (ends : f.Ends c.broken) :
    ({ c with input := f.bytes ++ rest } : Conn).receiveAll.2 = [] ∧
      ({ c with input := f.bytes ++ rest } : Conn).receiveAll.1.output = c.output ++
        if f.header.maskingKey = none ∧ c.broken = false then (⟨reply closeFrame, protocolError⟩ : Frame).bytes else [] := by
  obtain ⟨input, e, received⟩ := receiveFrame_ends (c := c) (f := f) sound ends
  rw [Conn.receiveAll_eq, received]
  exact ⟨rfl, rfl⟩

end

theorem bytesOf_cons (f : Frame) (fs : List Frame) : bytesOf (f :: fs) = f.bytes ++ bytesOf fs := List.flatMap_cons

/-- What the calls of `Receive` return for a stream of frames. -/
theorem receiveAll_packets (c : Conn) (fs : List Frame) (sound : ∀ f ∈ fs, f.Sound) :
    ({ c with input := bytesOf fs } : Conn).receiveAll.2 = deliver c.broken c.payloadType fs := by
  induction fs generalizing c with
  | nil =>
    rw [Conn.receiveAll_eq]
    rfl
  | cons f fs ih =>
    have first := sound f List.mem_cons_self
    have rest : ∀ g ∈ fs, g.Sound := fun g mem => sound g (List.mem_cons_of_mem f mem)
    rw [bytesOf_cons, deliver]
    by_cases ends : f.Ends c.broken
    · rw [(receiveAll_ends first ends).1, if_pos ends]
    · rw [if_neg ends]
      by_cases ping : f.header.opCode = pingFrame
      · rw [receiveAll_ping first ends ping, if_pos ping]
        exact ih { c with output := c.output ++ (⟨reply pongFrame, f.payload.take 125⟩ : Frame).bytes } rest
      · rw [receiveAll_data first ends ping, if_neg ping]
        exact congrArg _ (ih { c with payloadType := f.next c.payloadType } rest)

/-- What they write. -/
theorem receiveAll_output (c : Conn) (fs : List Frame) (sound : ∀ f ∈ fs, f.Sound) :
    ({ c with input := bytesOf fs } : Conn).receiveAll.1.output = c.output ++ bytesOf (answers c.broken fs) := by
  induction fs generalizing c with
  | nil =>
    rw [Conn.receiveAll_eq]
    exact (List.append_nil _).symm
  | cons f fs ih =>
    have first := sound f List.mem_cons_self
    have rest : ∀ g ∈ fs, g.Sound := fun g mem => sound g (List.mem_cons_of_mem f mem)
    rw [bytesOf_cons, answers]
    by_cases ends : f.Ends c.broken
    · rw [(receiveAll_ends first ends).2, if_pos ends]
      cases working : c.broken with
      | true => simp [bytesOf]
      | false => by_cases unmasked : f.header.maskingKey = none <;> simp [unmasked, bytesOf]
    · rw [if_neg ends]
      by_cases ping : f.header.opCode = pingFrame
      · have working : ¬ c.broken = true := fun broken => ends (.inr (.inr (.inr ⟨ping, .inr broken⟩)))
        have written := ih { c with output := c.output ++ (⟨reply pongFrame, f.payload.take 125⟩ : Frame).bytes } rest
        rw [receiveAll_ping first ends ping, if_pos ping, if_neg working, bytesOf_cons]
        exact written.trans (List.append_assoc _ _ _)
      · have written := ih { c with payloadType := f.next c.payloadType } rest
        rw [receiveAll_data first ends ping, if_neg ping]
        refine written.trans ?_
        dsimp only
        split
        · next broken => rw [broken, answers_broken]
        · rfl

/-- **What a stream of frames is received as**, whatever its frames, until the
first one that ends the connection: `deliver` and `answers` are what the calls
of `Receive` return and write. -/
theorem receiveAll_frames (c : Conn) (fs : List Frame) (sound : ∀ f ∈ fs, f.Sound) :
    ({ c with input := bytesOf fs } : Conn).receiveAll.2 = deliver c.broken c.payloadType fs ∧
      ({ c with input := bytesOf fs } : Conn).receiveAll.1.output = c.output ++ bytesOf (answers c.broken fs) :=
  ⟨receiveAll_packets c fs sound, receiveAll_output c fs sound⟩

/-! ## A stream that breaks off -/

/-- What continuations are delivered as after some frames. -/
def typeAfter (t : UInt8) (fs : List Frame) : UInt8 := fs.foldl (fun t f => f.next t) t

/-- Frames that do not end the connection are received before what follows them. -/
theorem receiveAll_append (c : Conn) (fs : List Frame) (more : List UInt8) (sound : ∀ f ∈ fs, f.Sound)
    (lasts : ∀ f ∈ fs, ¬ f.Ends c.broken) : ∃ output,
      ({ c with input := bytesOf fs ++ more } : Conn).receiveAll.2 = deliver c.broken c.payloadType fs ++
        ({ c with input := more, output, payloadType := typeAfter c.payloadType fs } : Conn).receiveAll.2 := by
  induction fs generalizing c with
  | nil => exact ⟨c.output, rfl⟩
  | cons f fs ih =>
    have first := sound f List.mem_cons_self
    have stays := lasts f List.mem_cons_self
    have stream : bytesOf (f :: fs) ++ more = f.bytes ++ (bytesOf fs ++ more) := by simp [bytesOf]
    have sound' : ∀ g ∈ fs, g.Sound := fun g mem => sound g (List.mem_cons_of_mem f mem)
    have lasts' : ∀ g ∈ fs, ¬ g.Ends c.broken := fun g mem => lasts g (List.mem_cons_of_mem f mem)
    rw [stream]
    unfold deliver
    rw [if_neg stays]
    by_cases ping : f.header.opCode = pingFrame
    · obtain ⟨output, delivered⟩ := ih { c with output := c.output ++ (⟨reply pongFrame, f.payload.take 125⟩ : Frame).bytes }
        sound' lasts'
      have kept : f.next c.payloadType = c.payloadType := by
        unfold Frame.next
        rw [ping]
        rfl
      rw [receiveAll_ping first stays ping, if_pos ping]
      refine ⟨output, delivered.trans ?_⟩
      rw [typeAfter, typeAfter, List.foldl_cons, kept]
    · obtain ⟨output, delivered⟩ := ih { c with payloadType := f.next c.payloadType } sound' lasts'
      rw [receiveAll_data first stays ping, if_neg ping]
      exact ⟨output, congrArg _ delivered⟩

/-- A payload that the end of the stream cuts short. -/
theorem readAll_cut (c : Conn) (f : Frame) (op : UInt8) {k : ℕ} (cut : k < f.payload.length) :
    ({ c with input := (mask f.header.maskingKey 0 f.payload).take k } : Conn).readAll
      { f.reader with header := { f.reader.header with opCode := op } } =
        ({ c with input := [] }, if c.eof then .ok ⟨op, f.payload.take k⟩ else .error .failed) := by
  have length : ((mask f.header.maskingKey 0 f.payload).take k).length = k := by
    rw [List.length_take, mask_length]
    omega
  have gets : ({ f.reader with header := { f.reader.header with opCode := op } } : FrameReader).gets f.payload.length
      ((mask f.header.maskingKey 0 f.payload).take k) = k := by
    rw [FrameReader.gets, length]
    change min (min f.payload.length f.payload.length) k = k
    omega
  have unfinished : ¬ f.payload.length - k = 0 := by omega
  unfold Conn.readAll FrameReader.read
  rw [show ({ f.reader with header := { f.reader.header with opCode := op } } : FrameReader).left = f.payload.length from rfl,
    gets]
  dsimp only
  have plain : mask f.header.maskingKey 0 ((mask f.header.maskingKey 0 f.payload).take k) = f.payload.take k := by
    rw [mask_take, mask_mask]
  rw [List.take_of_length_le length.le, List.drop_eq_nil_of_le length.le]
  change (({ c with input := [] } : Conn), if f.payload.length - k = 0 ∨ c.eof = true then
    Except.ok (⟨op, mask f.header.maskingKey 0 ((mask f.header.maskingKey 0 f.payload).take k)⟩ : Packet)
    else Except.error Err.failed) = _
  rw [plain]
  cases eof : c.eof with
  | true => rw [if_pos (.inr rfl), if_pos rfl]
  | false => rw [if_neg (by simp [unfinished]), if_neg (by decide)]

/-- **A frame that the end of the stream cuts short.** Cut in the header it is
an error; cut in the payload it is delivered as if it ended there, if reading
on gives an EOF. -/
theorem receiveAll_cut (c : Conn) (fs : List Frame) (f : Frame) (k : ℕ) (sound : ∀ g ∈ fs ++ [f], g.Sound)
    (lasts : ∀ g ∈ fs ++ [f], ¬ g.Ends c.broken) (data : f.header.opCode ≠ pingFrame) (cut : k < f.bytes.length) :
    ({ c with input := bytesOf fs ++ f.bytes.take k } : Conn).receiveAll.2 = deliver c.broken c.payloadType fs ++
      if (f.header.bytes f.payload.length).length ≤ k ∧ c.eof = true then
        [⟨f.type (typeAfter c.payloadType fs), f.payload.take (k - (f.header.bytes f.payload.length).length)⟩]
      else [] := by
  have whole := sound f (by simp)
  have stays : ¬ f.Ends c.broken := lasts f (by simp)
  obtain ⟨output, received⟩ := receiveAll_append c fs (f.bytes.take k) (fun g mem => sound g (by simp [mem]))
    fun g mem => lasts g (by simp [mem])
  rw [received, Conn.receiveAll_eq]
  congr 1
  unfold Frame.bytes at cut ⊢
  unfold Conn.receiveFrame
  dsimp only
  rcases Nat.lt_or_ge k (f.header.bytes f.payload.length).length with header | payload
  · rw [List.take_append_of_le_length header.le, newFrameReader_cut whole.header whole.fits header,
      if_neg fun both => Nat.not_le.2 header both.1]
  · have short : k - (f.header.bytes f.payload.length).length < f.payload.length := by
      rw [List.length_append, mask_length] at cut
      omega
    have handled := handleFrame_data (c := { c with
      input := (mask f.header.maskingKey 0 f.payload).take (k - (f.header.bytes f.payload.length).length), output,
      payloadType := typeAfter c.payloadType fs }) stays data
    have read := readAll_cut { c with output, payloadType := f.next (typeAfter c.payloadType fs) } f
      (f.type (typeAfter c.payloadType fs)) short
    rw [List.take_append, List.take_of_length_le payload, newFrameReader_bytes whole.header whole.fits]
    dsimp only
    rw [show (⟨f.header.carrying f.payload, 0, f.payload.length⟩ : FrameReader) = f.reader from rfl, handled]
    dsimp only at read ⊢
    rw [read]
    dsimp only
    cases eof : c.eof with
    | false =>
      have neither : ¬ ((f.header.bytes f.payload.length).length ≤ k ∧ false = true) := fun both => Bool.false_ne_true both.2
      rw [if_neg neither]
      rfl
    | true =>
      have both : (f.header.bytes f.payload.length).length ≤ k ∧ true = true := ⟨payload, rfl⟩
      rw [if_pos both]
      -- nothing is left to receive after it
      change _ :: (Conn.receiveAll _).2 = _
      rw [Conn.receiveAll_eq]
      rfl

/-! ## Tests -/

/-- A frame under one masking key. -/
def masked (fin : Bool) (opCode : UInt8) (payload : List UInt8) : Frame :=
  ⟨⟨fin, #v[false, false, false], opCode, 0, some [1, 2, 3, 4]⟩, payload⟩

theorem masked_sound {fin : Bool} {opCode : UInt8} {payload : List UInt8} (small : opCode < 16)
    (fits : payload.length < 2 ^ 63) : (masked fin opCode payload).Sound :=
  ⟨⟨small, fun key mem => by cases mem; rfl⟩, fits⟩

/-- A connection on which nothing has been written. -/
def accepted : Conn := ⟨[], true, [], false, 0⟩

/-- A ping, a text, and a pong before another text. -/
def chatter : List Frame :=
  [masked true pingFrame [7], masked true textFrame [104, 105], masked true pongFrame [], masked true textFrame [33]]

theorem receiveAll_frames_chatter :
    deliver false 0 chatter = [⟨textFrame, [104, 105]⟩] ∧
      ({ accepted with input := bytesOf chatter } : Conn).receiveAll.2 = deliver false 0 chatter ∧
      ({ accepted with input := bytesOf chatter } : Conn).receiveAll.1.output = [0x8a, 1, 7] := by
  obtain ⟨delivered, written⟩ := receiveAll_frames accepted chatter fun f mem => by
    simp only [chatter, List.mem_cons, List.not_mem_nil, or_false] at mem
    rcases mem with rfl | rfl | rfl | rfl <;> exact masked_sound (by decide) (by decide)
  exact ⟨by decide, delivered, written.trans (by decide)⟩

/-- Two letters of a word. -/
theorem receiveAll_cut_word : ({ accepted with input := (masked true textFrame [104, 101, 108, 108, 111]).bytes.take 8 } :
    Conn).receiveAll.2 = [⟨textFrame, [104, 101]⟩] := by
  have cut := receiveAll_cut accepted [] (masked true textFrame [104, 101, 108, 108, 111]) 8
    (fun g mem => by
      obtain rfl := List.mem_singleton.1 mem
      exact masked_sound (by decide) (by decide))
    (fun g mem => by
      obtain rfl := List.mem_singleton.1 mem
      decide) (by decide) (by decide)
  exact cut.trans (by decide)

end Crazyass.Websocket
