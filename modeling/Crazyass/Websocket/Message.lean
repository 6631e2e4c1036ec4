import Crazyass.Websocket.Conn
import Crazyass.Server.Message

/-!
# Messages over a connection

The peer sends messages, in one frame or in several, with control frames between
them; `messages` is what they are meant as. `Receive` does not look at `fin`,
and the server's `readPacket` decodes what one call of it returns.
-/

namespace Crazyass.Websocket
open Go

/-! ## What a peer sends -/

namespace Frame

/-- A frame of a message. -/
def Data (f : Frame) : Prop :=
  f.header.opCode = continuationFrame ∨ f.header.opCode = textFrame ∨ f.header.opCode = binaryFrame

instance (f : Frame) : Decidable f.Data := inferInstanceAs (Decidable (_ ∨ _ ∨ _))

end Frame

/-- The frames of a client that keeps to the protocol, with or without an unfinished message before them. -/
inductive Conforms : Bool → List Frame → Prop where
  | done : Conforms false []
  | start (f : Frame) (fs : List Frame) (masked : f.header.maskingKey ≠ none)
      (opCode : f.header.opCode = textFrame ∨ f.header.opCode = binaryFrame) (rest : Conforms (!f.header.fin) fs) :
      Conforms false (f :: fs)
  | continuation (f : Frame) (fs : List Frame) (masked : f.header.maskingKey ≠ none)
      (opCode : f.header.opCode = continuationFrame) (rest : Conforms (!f.header.fin) fs) : Conforms true (f :: fs)
  | control (unfinished : Bool) (f : Frame) (fs : List Frame) (masked : f.header.maskingKey ≠ none)
      (opCode : f.header.opCode = pingFrame ∨ f.header.opCode = pongFrame) (rest : Conforms unfinished fs) :
      Conforms unfinished (f :: fs)
  | close (f : Frame) (masked : f.header.maskingKey ≠ none) (opCode : f.header.opCode = closeFrame) : Conforms false [f]

/-- The messages of some frames, after the first frames of one. -/
def messages : Option Packet → List Frame → List Packet
  | _, [] => []
  | part, f :: fs =>
    if f.header.opCode = textFrame ∨ f.header.opCode = binaryFrame then
      if f.header.fin then ⟨f.header.opCode, f.payload⟩ :: messages none fs
      else messages (some ⟨f.header.opCode, f.payload⟩) fs
    else if f.header.opCode = continuationFrame then
      match part with
      | none => messages none fs
      | some p =>
        if f.header.fin then ⟨p.payloadType, p.data ++ f.payload⟩ :: messages none fs
        else messages (some ⟨p.payloadType, p.data ++ f.payload⟩) fs
    else messages part fs

/-! ## What is received of it -/

section
variable {unfinished broken : Bool} {f : Frame} {fs : List Frame} {part : Option Packet} {t : UInt8}

theorem not_ends_data (masked : f.header.maskingKey ≠ none) (data : f.Data) : ¬ f.Ends broken := by
  rintro (none_ | close | pong | ⟨ping, -⟩)
  · exact masked none_
  all_goals
    rcases data with op | op | op <;> simp_all [continuationFrame, textFrame, binaryFrame, closeFrame, pongFrame, pingFrame]

theorem not_ping_data (data : f.Data) : f.header.opCode ≠ pingFrame := by
  rcases data with op | op | op <;> rw [op] <;> decide

theorem not_data_of (control : f.header.opCode = pingFrame ∨ f.header.opCode = pongFrame ∨ f.header.opCode = closeFrame) :
    ¬ f.Data := by
  unfold Frame.Data
  rcases control with op | op | op <;> rw [op] <;> decide

theorem deliver_data (masked : f.header.maskingKey ≠ none) (data : f.Data) :
    deliver broken t (f :: fs) = ⟨f.type t, f.payload⟩ :: deliver broken (f.next t) fs := by
  rw [deliver, if_neg (not_ends_data masked data), if_neg (not_ping_data data)]

theorem messages_start (opCode : f.header.opCode = textFrame ∨ f.header.opCode = binaryFrame) : messages part (f :: fs) =
    if f.header.fin then ⟨f.header.opCode, f.payload⟩ :: messages none fs
    else messages (some ⟨f.header.opCode, f.payload⟩) fs := by
  rw [messages.eq_def]
  exact if_pos opCode

theorem messages_continuation {p : Packet} (opCode : f.header.opCode = continuationFrame) : messages (some p) (f :: fs) =
    if f.header.fin then ⟨p.payloadType, p.data ++ f.payload⟩ :: messages none fs
    else messages (some ⟨p.payloadType, p.data ++ f.payload⟩) fs := by
  have other : ¬ (f.header.opCode = textFrame ∨ f.header.opCode = binaryFrame) := by
    rw [opCode]
    decide
  rw [messages, if_neg other, if_pos opCode]

theorem messages_control (control : ¬ f.Data) : messages part (f :: fs) = messages part fs := by
  unfold Frame.Data at control
  push Not at control
  obtain ⟨continuation, text, binary⟩ := control
  have other : ¬ (f.header.opCode = textFrame ∨ f.header.opCode = binaryFrame) := by simp [text, binary]
  rw [messages.eq_def]
  exact (if_neg other).trans (if_neg continuation)

/-- No message is unfinished where none comes in parts. -/
theorem messages_eq_nil (conforms : Conforms unfinished fs) (whole : ∀ f ∈ fs, f.Data → f.header.fin = true)
    (none_ : unfinished = false) : messages none fs = [] ↔ ∀ f ∈ fs, ¬ f.Data := by
  induction conforms with
  | done => simp [messages]
  | start f fs masked opCode rest ih =>
    have data : f.Data := .inr opCode
    rw [messages_start opCode, if_pos (whole f List.mem_cons_self data)]
    exact iff_of_false (by simp) fun nothing => nothing f List.mem_cons_self data
  | continuation => cases none_
  | control unfinished f fs masked opCode rest ih =>
    have control : ¬ f.Data := not_data_of (by tauto)
    rw [messages_control control, ih (fun g mem => whole g (List.mem_cons_of_mem f mem)) none_, List.forall_mem_cons]
    exact (and_iff_right control).symm
  | close f masked opCode =>
    have control : ¬ f.Data := not_data_of (by tauto)
    rw [messages_control control]
    simp [messages, control]

/-- **Messages of one frame each** are received exactly if none comes after a frame that ends the connection. -/
theorem deliver_whole_iff (conforms : Conforms unfinished fs) (whole : ∀ f ∈ fs, f.Data → f.header.fin = true)
    (none_ : unfinished = false) (t : UInt8) :
    deliver broken t fs = messages none fs ↔ fs.Pairwise fun f g => f.Ends broken → ¬ g.Data := by
  induction conforms generalizing t with
  | done => exact iff_of_true rfl List.Pairwise.nil
  | start f fs masked opCode rest ih =>
    have data : f.Data := .inr opCode
    have lasts : ¬ f.Ends broken := not_ends_data masked data
    have fin := whole f List.mem_cons_self data
    have type : f.type t = f.header.opCode := by
      unfold Frame.type
      rcases opCode with op | op <;> rw [op] <;> rfl
    have rest_ := ih (fun g mem => whole g (List.mem_cons_of_mem f mem)) (by rw [fin]; rfl) (f.next t)
    rw [deliver_data masked data, messages_start opCode, if_pos fin, type, List.cons_inj_right, rest_, List.pairwise_cons]
    exact (and_iff_right fun g _ ends => absurd ends lasts).symm
  | continuation => cases none_
  | control unfinished f fs masked opCode rest ih =>
    have control : ¬ f.Data := not_data_of (by tauto)
    have tail : ∀ g ∈ fs, g.Data → g.header.fin = true := fun g mem => whole g (List.mem_cons_of_mem f mem)
    rw [messages_control control, List.pairwise_cons, deliver]
    by_cases ends : f.Ends broken
    · rw [if_pos ends, eq_comm, messages_eq_nil rest tail none_]
      refine ⟨fun nothing => ⟨fun g mem _ => nothing g mem, ?_⟩, fun both g mem => both.1 g mem ends⟩
      exact List.pairwise_of_forall_mem_list fun g _ h mem _ => nothing h mem
    · have ping : f.header.opCode = pingFrame := opCode.resolve_right fun pong => ends (.inr (.inr (.inl pong)))
      rw [if_neg ends, if_pos ping, ih tail none_ t]
      exact (and_iff_right fun g _ ended => absurd ended ends).symm
  | close f masked opCode =>
    have control : ¬ f.Data := not_data_of (by tauto)
    have ends : f.Ends broken := .inr (.inl opCode)
    rw [messages_control control, deliver, if_pos ends]
    exact iff_of_true rfl (List.pairwise_singleton _ _)

/-- A close is the last frame. -/
theorem calm_pairwise (conforms : Conforms unfinished fs) (calm : ∀ f ∈ fs, f.Ends broken → f.header.opCode = closeFrame) :
    fs.Pairwise fun f g => f.Ends broken → ¬ g.Data := by
  induction conforms with
  | done => exact List.Pairwise.nil
  | start f fs masked opCode rest ih =>
    refine List.pairwise_cons.2 ⟨fun g _ ends => absurd ends (not_ends_data masked (.inr opCode)), ih ?_⟩
    exact fun g mem => calm g (List.mem_cons_of_mem f mem)
  | continuation f fs masked opCode rest ih =>
    refine List.pairwise_cons.2 ⟨fun g _ ends => absurd ends (not_ends_data masked (.inl opCode)), ih ?_⟩
    exact fun g mem => calm g (List.mem_cons_of_mem f mem)
  | control unfinished f fs masked opCode rest ih =>
    refine List.pairwise_cons.2 ⟨fun g _ ends => ?_, ih fun g mem => calm g (List.mem_cons_of_mem f mem)⟩
    have close := calm f List.mem_cons_self ends
    rw [close] at opCode
    exact absurd opCode (by decide)
  | close => exact List.pairwise_singleton _ _

/-- Each frame of a message counts as one where it is received. -/
theorem messages_count (conforms : Conforms unfinished fs) (part : Option Packet) (same : part.isSome = unfinished)
    (calm : ∀ f ∈ fs, f.Ends broken → f.header.opCode = closeFrame) (t : UInt8) :
    (messages part fs).length ≤ (deliver broken t fs).length ∧
      ((messages part fs).length = (deliver broken t fs).length → ∀ f ∈ fs, f.Data → f.header.fin = true) := by
  induction conforms generalizing part t with
  | done =>
    rw [deliver]
    cases part <;> exact ⟨Nat.le_refl _, fun _ f mem => absurd mem List.not_mem_nil⟩
  | start f fs masked opCode rest ih =>
    have data : f.Data := .inr opCode
    have tail : ∀ g ∈ fs, g.Ends broken → g.header.opCode = closeFrame := fun g mem => calm g (List.mem_cons_of_mem f mem)
    rw [deliver_data masked data, messages_start opCode]
    cases fin : f.header.fin with
    | true =>
      obtain ⟨le, eq⟩ := ih none (by rw [fin]; rfl) tail (f.next t)
      rw [if_pos rfl, List.length_cons, List.length_cons]
      refine ⟨by omega, fun same => List.forall_mem_cons.2 ⟨fun _ => fin, eq (by omega)⟩⟩
    | false =>
      obtain ⟨le, -⟩ := ih (some ⟨f.header.opCode, f.payload⟩) (by rw [fin]; rfl) tail (f.next t)
      rw [if_neg Bool.false_ne_true, List.length_cons]
      exact ⟨by omega, fun same => by omega⟩
  | continuation f fs masked opCode rest ih =>
    have data : f.Data := .inl opCode
    have tail : ∀ g ∈ fs, g.Ends broken → g.header.opCode = closeFrame := fun g mem => calm g (List.mem_cons_of_mem f mem)
    obtain ⟨p, rfl⟩ := Option.isSome_iff_exists.1 same
    rw [deliver_data masked data, messages_continuation opCode]
    cases fin : f.header.fin with
    | true =>
      obtain ⟨le, eq⟩ := ih none (by rw [fin]; rfl) tail (f.next t)
      rw [if_pos rfl, List.length_cons, List.length_cons]
      refine ⟨by omega, fun same => List.forall_mem_cons.2 ⟨fun _ => fin, eq (by omega)⟩⟩
    | false =>
      obtain ⟨le, -⟩ := ih (some ⟨p.payloadType, p.data ++ f.payload⟩) (by rw [fin]; rfl) tail (f.next t)
      rw [if_neg Bool.false_ne_true, List.length_cons]
      exact ⟨by omega, fun same => by omega⟩
  | control unfinished f fs masked opCode rest ih =>
    have control : ¬ f.Data := not_data_of (by tauto)
    have lasts : ¬ f.Ends broken := by
      intro ends
      have close := calm f List.mem_cons_self ends
      rw [close] at opCode
      exact absurd opCode (by decide)
    have ping : f.header.opCode = pingFrame := opCode.resolve_right fun pong => lasts (.inr (.inr (.inl pong)))
    obtain ⟨le, eq⟩ := ih part same (fun g mem => calm g (List.mem_cons_of_mem f mem)) t
    rw [messages_control control, deliver, if_neg lasts, if_pos ping]
    exact ⟨le, fun same => List.forall_mem_cons.2 ⟨fun data => absurd data control, eq same⟩⟩
  | close f masked opCode =>
    have control : ¬ f.Data := not_data_of (by tauto)
    have ends : f.Ends broken := .inr (.inl opCode)
    rw [messages_control control, deliver, if_pos ends]
    cases part <;> exact ⟨Nat.le_refl _, fun _ g mem data => by
      obtain rfl := List.mem_singleton.1 mem
      exact absurd data control⟩

end

/-- **When the packets received are the messages sent**, for a client that keeps
to the protocol. If nothing but a close ends the connection: exactly if no
message comes in parts. If none does: exactly if no frame of a message comes
after a pong, or after a ping without a payload or on a connection that takes
no answer. -/
theorem receiveAll_messages_iff (c : Conn) (fs : List Frame) (sound : ∀ f ∈ fs, f.Sound) (conforms : Conforms false fs) :
    ((∀ f ∈ fs, f.Ends c.broken → f.header.opCode = closeFrame) →
      (({ c with input := bytesOf fs } : Conn).receiveAll.2 = messages none fs ↔ ∀ f ∈ fs, f.Data → f.header.fin = true)) ∧
    ((∀ f ∈ fs, f.Data → f.header.fin = true) →
      (({ c with input := bytesOf fs } : Conn).receiveAll.2 = messages none fs ↔
        fs.Pairwise fun f g => f.Ends c.broken → ¬ g.Data)) := by
  rw [receiveAll_packets c fs sound]
  refine ⟨fun calm => ⟨fun same => ?_, fun whole => ?_⟩, fun whole => deliver_whole_iff conforms whole rfl _⟩
  · exact (messages_count conforms none rfl calm c.payloadType).2 (by rw [same])
  · exact (deliver_whole_iff conforms whole rfl _).2 (calm_pairwise conforms calm)

/-- A word in two frames with a ping between them. -/
def parts : List Frame := [masked false textFrame [104], masked true pingFrame [1], masked true continuationFrame [105]]

/-- Two words with a pong between them. -/
def pong : List Frame := [masked true textFrame [104], masked true pongFrame [], masked true textFrame [105]]

/-- The parts of a word are two packets, and the word after a pong is none. -/
theorem receiveAll_messages_iff_parts :
    ({ accepted with input := bytesOf parts } : Conn).receiveAll.2 ≠ messages none parts ∧
      ({ accepted with input := bytesOf pong } : Conn).receiveAll.2 ≠ messages none pong := by
  constructor
  · have sound : ∀ f ∈ parts, f.Sound := by
      simp only [parts, List.forall_mem_cons]
      exact ⟨masked_sound (by decide) (by decide), masked_sound (by decide) (by decide),
        masked_sound (by decide) (by decide), fun f mem => absurd mem List.not_mem_nil⟩
    have conforms : Conforms false parts := .start _ _ (by decide) (by decide)
      (.control _ _ _ (by decide) (by decide) (.continuation _ _ (by decide) (by decide) .done))
    rw [Ne, (receiveAll_messages_iff accepted parts sound conforms).1 (by decide)]
    decide
  · have sound : ∀ f ∈ pong, f.Sound := by
      simp only [pong, List.forall_mem_cons]
      exact ⟨masked_sound (by decide) (by decide), masked_sound (by decide) (by decide),
        masked_sound (by decide) (by decide), fun f mem => absurd mem List.not_mem_nil⟩
    have conforms : Conforms false pong := .start _ _ (by decide) (by decide)
      (.control _ _ _ (by decide) (by decide) (.start _ _ (by decide) (by decide) .done))
    rw [Ne, (receiveAll_messages_iff accepted pong sound conforms).2 (by decide)]
    decide

/-! ## The server's reader -/

section
variable (parse : List UInt8 → Option Server.Json)

/-- `readPacket`: the message decoded into the cell `m`, or an error. -/
def readPacket (c : Conn) (m : Server.Msg) : Conn × Option Server.Msg :=
  match c.receive with
  | (c, .error _) => (c, none)
  | (c, .ok p) => (c, (parse p.data).bind (Server.readPacket m))

/-- What becomes of the cell, packet by packet. -/
def decoded : Server.Msg → List (Option Server.Json) → List Server.Msg
  | _, [] => []
  | m, p :: ps =>
    match p.bind (Server.readPacket m) with
    | none => []
    | some m => m :: decoded m ps

variable {parse}

end

end Crazyass.Websocket
