import Crazyass.Client.Mirror
import Crazyass.Client.Delegate

/-!
# The connection between the two ends

The requests of the scenes and the replies to them take their time: a request is
written by a scene, decoded by the server's reader into the one message cell of
its client, served by the loop from there, and its reply reaches the delegate,
which knows it by its number. A scene may send again at any of these moments.

`Pair` of the client's copy of the account has each request answered at once.
The contract of this module is that one, for the user as he is when the replies
on their way are read.
-/

namespace Crazyass.Client
open Go Server Sys

/-- `asked` and `told` are the packets and the replies on their way, `pending`
how often the address of the message cell is, and `up` tells whether the
connection is open. There is no user once a `CARecv` has not returned. -/
structure Line (κ : Type) where
  user : Option RemoteUser
  delegate : MyDelegate Press
  asked : List Json
  client : Client κ
  pending : ℕ
  told : List Msg
  up : Bool

/-- `check` is a call of `CheckRecv`, `decode` one of `readPacket`, `serve` a
turn of the loop, `receive` is `onMessage`, and `lose` the end of the connection. -/
inductive LineStep (κ : Type) where
  | press (press : Press)
  | check
  | decode
  | serve (env : Env) (online : Online κ)
  | receive
  | lose

namespace Line
section
variable {κ : Type} (cv : FloatConv) (cs : CSJson)

/-- Both ends of a connection on which nothing is under way. -/
def idle (c : Client κ) (u : RemoteUser) (d : MyDelegate Press) : Line κ := ⟨some u, d, [], c, 0, [], true⟩

def lost (s : Line κ) : Line κ := { s with asked := [], pending := 0, told := [], up := false }

/-- `onMessage`, and the `CARecv` that it calls. -/
def onMessage (s : Line κ) (reply : Msg) : Line κ :=
  match cs.field reply.seq with
  | none => { s with user := none }
  | some seq =>
    let (delegate, target) := s.delegate.onMessage seq
    { s with delegate, user := match target with
      | some press => s.user.bind fun u => press.recv cs u reply
      | none => s.user }

/-- The reader holds one address, the channel another, and the loop a third. A
panic of a handler closes the connection. -/
def step (s : Line κ) : LineStep κ → Option (Line κ)
  | .press press => do
    let u ← s.user
    let packet ← press.packet u s.delegate.seq
    some { s with delegate := s.delegate.sendServer (some press), asked := s.asked ++ [packet] }
  | .check =>
    match s.delegate.checkRecv with
    | (_, .nullCall) => none
    | (delegate, _) => some { s with delegate }
  | .decode =>
    match s.asked with
    | [] => none
    | packet :: asked =>
      if s.up = true ∧ s.pending < 3 then
        (readPacket s.client.msg packet).map fun msg =>
          { s with asked, client := { s.client with msg }, pending := s.pending + 1 }
      else none
  | .serve env online =>
    if s.up = true ∧ 0 < s.pending ∧ s.client.enable = true then
      match Server.serve cv env online s.client s.client.msg with
      | .ok o => some { s with client := o.c, pending := s.pending - 1, told := s.told ++ o.sent }
      | .error _ => some s.lost
    else none
  | .receive =>
    match s.told with
    | [] => none
    | reply :: told => some (onMessage cs { s with told } reply)
  | .lose => if s.up = true then some s.lost else none

/-- Nothing is on its way. -/
def Quiet (s : Line κ) : Prop := s.asked = [] ∧ s.pending = 0 ∧ s.told = []

instance (s : Line κ) : Decidable s.Quiet := inferInstanceAs (Decidable (_ ∧ _ ∧ _))

/-- Both ends once the replies on their way are read. -/
def pair (s : Line κ) : Pair κ := ⟨s.client, (s.told.foldl (onMessage cs) s).user⟩

/-- **The contract**: while the connection is open, a last reply with `ErrCode`
0 leaves the user a copy of the account. -/
def Agrees (s : Line κ) : Prop := s.up = true → (s.pair cs).Agrees

/-- A scene sends a request when nothing is on its way. -/
def Patient (s : Line κ) : LineStep κ → Prop
  | .press _ => s.Quiet
  | _ => True

instance (s : Line κ) : ∀ a, Decidable (s.Patient a)
  | .press _ => inferInstanceAs (Decidable s.Quiet)
  | .check | .decode | .serve .. | .receive | .lose => inferInstanceAs (Decidable True)

/-- A request that is served, without a panic, finds the account in a state that
its reply can tell. -/
def Told (s : Line κ) : LineStep κ → Prop
  | .serve env online => ∀ o, Server.serve cv env online s.client s.client.msg = .ok o →
      ∀ press ∈ s.delegate.target, Pair.Told ⟨s.client, s.user⟩ ⟨env, online, press, s.delegate.lastseq⟩
  | _ => True

/-- Where the one request under way is. -/
inductive Phase (s : Line κ) : Prop where
  | quiet (quiet : s.Quiet)
  | asked (u : RemoteUser) (press : Press) (packet : Json) (user : s.user = some u)
      (target : s.delegate.target = some press) (written : press.packet u s.delegate.lastseq = some packet)
      (asked : s.asked = [packet]) (pending : s.pending = 0) (told : s.told = [])
  | decoded (u : RemoteUser) (press : Press) (packet : Json) (cell : Msg) (user : s.user = some u)
      (target : s.delegate.target = some press) (written : press.packet u s.delegate.lastseq = some packet)
      (read : readPacket cell packet = some s.client.msg) (asked : s.asked = []) (pending : s.pending = 1)
      (told : s.told = [])
  | told (u : RemoteUser) (press : Press) (reply : Msg) (user : s.user = some u)
      (target : s.delegate.target = some press) (seq : reply.seq = numOf s.delegate.lastseq) (asked : s.asked = [])
      (pending : s.pending = 0) (told : s.told = [reply])

end
end Line

/-! ## The number of a request -/

/-- A packet carries its number to the server. -/
theorem packet_seq {c m : Msg} {u : RemoteUser} {seq : Int32} {press : Press} {p : Json} (h : press.packet u seq = some p)
    (read : readPacket c p = some m) : m.seq = numOf seq := by
  cases press with
  | login =>
    cases (readPacket_login h).symm.trans read
    rfl
  | play stage =>
    obtain ⟨need, -, sent⟩ := Option.bind_eq_some_iff.1 h
    split at sent
    · cases sent
    · cases sent
      cases (readPacket_request _ _).symm.trans read
      rfl
  | unlock stage =>
    simp only [Press.packet] at h
    split at h
    · obtain ⟨lock, -, sent⟩ := Option.bind_eq_some_iff.1 h
      cases sent
      cases (readPacket_request _ _).symm.trans read
      rfl
    · cases h
  | endPlay | useFinger | useReplay =>
    cases h
    cases (readPacket_request _ _).symm.trans read
    rfl

/-- The server's reply carries the number back. -/
theorem serve_seq {κ : Type} {cv : FloatConv} {env : Env} {online : Online κ} {c : Client κ} {m : Msg} {o : Outcome κ}
    (small : m.cmd.val < 128) (h : Server.serve cv env online c m = .ok o) : o.c.replyMsg.seq = m.seq := by
  rcases procMsg_ok.1 h with ⟨big, -⟩ | ⟨-, ran, r, run, rfl⟩
  · exact absurd small (not_lt.2 big)
  · have kept : r.c.replyMsg.seq = m.seq := by
      cases dispatch_effect run with
      | rejected _ _ c_eq | refused _ _ _ _ _ c_eq =>
        rw [c_eq]
        rfl
      | served _ _ _ _ replied => exact replied.kept.replySeq
      | login _ _ result =>
        cases result with
        | failed _ _ _ _ _ kept | loggedIn _ _ _ _ _ _ kept => exact kept.replySeq
    rw [finish_reply]
    split <;> exact kept

/-- The client reads the number it wrote. -/
theorem field_numOf (cs : CSJson) (n : Int32) : cs.field (numOf n) = some n := by
  have whole : integer? (.json (.num (numOf n))) = some n.toInt := by simp [integer?, numOf]
  rw [CSJson.field, cs.asInt_fits _ _ whole n.le_toInt n.toInt_lt, Int32.ofInt_toInt]

/-- What the client reads as `ErrCode` 0 is 0. -/
theorem errCode_zero {cs : CSJson} {e : UInt32} (few : e.toNat ≤ 5) {x : Float64} (code : x = .ofUInt32 e)
    (fine : (cs.field x).any (· ≠ 0) = false) : x = 0 := by
  rw [code, field_ofUInt32 cs (by omega)] at fine
  have zero : Int32.ofNat e.toNat = 0 := by simpa using fine
  have value := congrArg Int32.toInt zero
  rw [ofNat_toInt (by omega), show (0 : Int32).toInt = 0 from rfl] at value
  have none_ : e.toNat = 0 := by exact_mod_cast value
  rw [code, UInt32.toNat_inj.1 (none_.trans rfl : e.toNat = (0 : UInt32).toNat)]
  rfl

namespace Line
section
variable {κ : Type} {cv : FloatConv} {cs : CSJson} {s t : Line κ} {u : RemoteUser} {press : Press} {reply : Msg}

/-- With no reply on its way the two sides are as they are. -/
theorem pair_silent (silent : s.told = []) : s.pair cs = ⟨s.client, s.user⟩ := by
  unfold pair
  rw [silent]
  rfl

/-- Where no reply is on its way the user is the one to be. -/
theorem user_silent (silent : s.told = []) (silent' : t.told = []) (same : t.user = s.user) :
    (t.pair cs).user = (s.pair cs).user := by
  rw [pair_silent silent, pair_silent silent']
  exact same

/-- The reply to the last request goes to the `CARecv` of its scene. -/
theorem onMessage_last (user : s.user = some u) (target : s.delegate.target = some press)
    (seq : reply.seq = numOf s.delegate.lastseq) :
    s.onMessage cs reply =
      { s with delegate := { s.delegate with recvflag := true }, user := press.recv cs u reply } := by
  unfold onMessage
  rw [seq, field_numOf]
  dsimp only
  rw [MyDelegate.onMessage_target rfl target, user]
  rfl

/-- With one on its way the copy is taken as its `CARecv` will leave it. -/
theorem pair_told (user : s.user = some u) (target : s.delegate.target = some press)
    (seq : reply.seq = numOf s.delegate.lastseq) (told : s.told = [reply]) :
    s.pair cs = ⟨s.client, press.recv cs u reply⟩ := by
  unfold pair
  rw [told, List.foldl_cons, List.foldl_nil, onMessage_last user target seq]

/-- A press writes a packet with the next number. -/
theorem step_press (h : step cv cs s (.press press) = some t) :
    ∃ u packet, s.user = some u ∧ press.packet u s.delegate.seq = some packet ∧
      t = { s with delegate := s.delegate.sendServer (some press), asked := s.asked ++ [packet] } := by
  obtain ⟨u, user, h⟩ := Option.bind_eq_some_iff.1 h
  obtain ⟨packet, written, h⟩ := Option.bind_eq_some_iff.1 h
  cases h
  exact ⟨u, packet, user, written, rfl⟩

/-- A call of `CheckRecv` moves nothing that is on its way. -/
theorem step_check (h : step cv cs s .check = some t) :
    t = { s with delegate := t.delegate } ∧ t.delegate.target = s.delegate.target ∧
      t.delegate.lastseq = s.delegate.lastseq := by
  obtain ⟨target, -, lastseq⟩ := s.delegate.checkRecv_fst
  simp only [step] at h
  generalize checked : s.delegate.checkRecv = r at h target lastseq
  obtain ⟨d, result⟩ := r
  cases result with
  | nullCall => cases h
  | done | timeout | waiting =>
    cases h
    exact ⟨rfl, target, lastseq⟩

/-- A packet that arrives overwrites the message cell. -/
theorem step_decode (h : step cv cs s .decode = some t) :
    ∃ packet asked msg, s.asked = packet :: asked ∧ s.up = true ∧ readPacket s.client.msg packet = some msg ∧
      t = { s with asked, client := { s.client with msg }, pending := s.pending + 1 } := by
  simp only [step] at h
  split at h
  · cases h
  · next packet asked waits =>
    split at h
    · next open_ =>
      obtain ⟨msg, read, rfl⟩ := Option.map_eq_some_iff.1 h
      exact ⟨packet, asked, msg, waits, open_.1, read, rfl⟩
    · cases h

/-- A turn of the loop sends a reply, or the handler panics and the connection ends. -/
theorem step_serve {env : Env} {online : Online κ} (h : step cv cs s (.serve env online) = some t) :
    s.up = true ∧ 0 < s.pending ∧ s.client.enable = true ∧
      (t = s.lost ∧ (∀ o, Server.serve cv env online s.client s.client.msg ≠ .ok o) ∨
        ∃ o, Server.serve cv env online s.client s.client.msg = .ok o ∧
          t = { s with client := o.c, pending := s.pending - 1, told := s.told ++ o.sent }) := by
  simp only [step] at h
  split at h
  · next ready =>
    refine ⟨ready.1, ready.2.1, ready.2.2, ?_⟩
    split at h
    · next o served =>
      cases h
      exact .inr ⟨o, served, rfl⟩
    · next panic =>
      cases h
      exact .inl ⟨rfl, fun o served => by rw [panic] at served; cases served⟩
  · cases h

/-- The oldest reply is received. -/
theorem step_receive (h : step cv cs s .receive = some t) :
    ∃ reply told, s.told = reply :: told ∧ t = onMessage cs { s with told } reply := by
  simp only [step] at h
  split at h
  · cases h
  · next reply told waits =>
    cases h
    exact ⟨reply, told, waits, rfl⟩

/-- A connection may be lost at any time. -/
theorem step_lose (h : step cv cs s .lose = some t) : t = s.lost := by
  simp only [step] at h
  split at h <;> cases h
  rfl

/-- What a message does to the client's end. -/
theorem onMessage_eq (cs : CSJson) (s : Line κ) (reply : Msg) : ∃ user delegate,
    s.onMessage cs reply = { s with user, delegate } ∧ delegate.target = s.delegate.target ∧
      ∀ v ∈ user, s.user = some v ∨ ∃ press u, s.delegate.target = some press ∧ s.user = some u ∧ press.recv cs u reply = some v := by
  unfold onMessage
  cases cs.field reply.seq with
  | none => exact ⟨none, s.delegate, rfl, rfl, nofun⟩
  | some seq =>
    dsimp only
    have target := (s.delegate.onMessage_fst seq).1
    refine ⟨_, _, rfl, target, fun v found => ?_⟩
    rw [MyDelegate.onMessage_snd] at found
    split at found
    · next press passed =>
      split at passed
      · obtain ⟨u, user, recv⟩ := Option.bind_eq_some_iff.1 found
        exact .inr ⟨press, u, passed, user, recv⟩
      · cases passed
    · exact .inl found

/-- No step opens the connection. -/
theorem step_up {a : LineStep κ} (h : step cv cs s a = some t) (open_ : t.up = true) : s.up = true := by
  cases a with
  | press press =>
    obtain ⟨_, _, -, -, rfl⟩ := step_press h
    exact open_
  | check =>
    rw [(step_check h).1] at open_
    exact open_
  | decode =>
    obtain ⟨_, _, _, -, up, -, -⟩ := step_decode h
    exact up
  | serve env online => exact (step_serve h).1
  | receive =>
    obtain ⟨reply, rest, -, rfl⟩ := step_receive h
    obtain ⟨user, delegate, same, -⟩ := onMessage_eq cs { s with told := rest } reply
    rw [same] at open_
    exact open_
  | lose =>
    cases step_lose h
    cases open_

/-- **A step of the client's end or of the reader**, for a patient scene: what
was under way goes on, and both ends are as before when it is through. -/
theorem step_frame {a : LineStep κ} (phase : s.up = true → Phase s) (patient : s.Patient a)
    (other : ∀ env online, a ≠ .serve env online) (h : step cv cs s a = some t) (open_ : t.up = true) :
    s.up = true ∧ Phase t ∧ (t.pair cs).user = (s.pair cs).user ∧ ∃ msg, t.client = { s.client with msg } := by
  cases a with
  | press press =>
    obtain ⟨u, packet, user, written, rfl⟩ := step_press h
    obtain ⟨asked, pending, told⟩ := patient
    refine ⟨open_, .asked u press packet user rfl written ?_ pending told, user_silent told told rfl, s.client.msg, rfl⟩
    rw [asked]
    rfl
  | check =>
    obtain ⟨same, target, lastseq⟩ := step_check h
    rw [same] at open_
    refine ⟨open_, ?_, ?_, s.client.msg, by rw [same]⟩
    · rw [same]
      cases phase open_ with
      | quiet quiet => exact .quiet quiet
      | asked u press packet user target' written asked pending told =>
        exact .asked u press packet user (target.trans target') (lastseq ▸ written) asked pending told
      | decoded u press packet cell user target' written read asked pending told =>
        exact .decoded u press packet cell user (target.trans target') (lastseq ▸ written) read asked pending told
      | told u press reply user target' seq asked pending told =>
        exact .told u press reply user (target.trans target') (lastseq ▸ seq) asked pending told
    · have told_same : t.told = s.told := by rw [same]
      have user_same : t.user = s.user := by rw [same]
      cases phase open_ with
      | quiet quiet => exact user_silent quiet.2.2 (told_same.trans quiet.2.2) user_same
      | asked _ _ _ _ _ _ _ _ told | decoded _ _ _ _ _ _ _ _ _ _ told =>
        exact user_silent told (told_same.trans told) user_same
      | told u press reply user target' seq _ _ told =>
        rw [pair_told user target' seq told, pair_told (user_same.trans user) (target.trans target') (lastseq ▸ seq)
          (told_same.trans told)]
  | decode =>
    obtain ⟨packet, rest, msg, waits, -, read, rfl⟩ := step_decode h
    cases phase open_ with
    | quiet quiet =>
      rw [quiet.1] at waits
      cases waits
    | decoded _ _ _ _ _ _ _ _ asked | told _ _ _ _ _ _ asked =>
      rw [asked] at waits
      cases waits
    | asked u press packet' user target written asked pending told =>
      rw [asked] at waits
      cases waits
      refine ⟨open_, .decoded u press packet s.client.msg user target written read rfl ?_ told, ?_, msg, rfl⟩
      · rw [pending]
      · exact user_silent told told rfl
  | serve env online => exact absurd rfl (other env online)
  | receive =>
    obtain ⟨reply, rest, waits, rfl⟩ := step_receive h
    have up_same : (onMessage cs { s with told := rest } reply).up = s.up := by
      unfold onMessage
      split <;> rfl
    rw [up_same] at open_
    cases phase open_ with
    | quiet quiet =>
      rw [quiet.2.2] at waits
      cases waits
    | asked _ _ _ _ _ _ _ _ told | decoded _ _ _ _ _ _ _ _ _ _ told =>
      rw [told] at waits
      cases waits
    | told u press reply' user target seq asked pending told =>
      rw [told] at waits
      cases waits
      rw [onMessage_last (s := { s with told := [] }) user target seq]
      refine ⟨open_, .quiet ⟨asked, pending, rfl⟩, ?_, s.client.msg, rfl⟩
      rw [pair_silent rfl, pair_told user target seq told]
  | lose =>
    cases step_lose h
    cases open_

/-- **A turn of the loop** is an exchange of the two ends. -/
theorem serve_exchange {env : Env} {online : Online κ} (phase : Phase s)
    (h : step cv cs s (.serve env online) = some t) (open_ : t.up = true) :
    ∃ press cell, s.delegate.target = some press ∧ Phase t ∧ (s.pair cs).user = s.user ∧
      Pair.step cv cs ⟨{ s.client with msg := cell }, s.user⟩ ⟨env, online, press, s.delegate.lastseq⟩ =
        some (t.pair cs) := by
  obtain ⟨-, waits, enabled, result⟩ := step_serve h
  cases phase with
  | quiet quiet =>
    rw [quiet.2.1] at waits
    cases waits
  | asked _ _ _ _ _ _ _ pending | told _ _ _ _ _ _ _ pending =>
    rw [pending] at waits
    cases waits
  | decoded u press packet cell user target written read asked pending told =>
    obtain ⟨rfl, -⟩ | ⟨o, served, rfl⟩ := result
    · cases open_
    obtain ⟨m, read', cmd, -⟩ := packet_read (c := cell) written
    cases read'.symm.trans read
    have small : s.client.msg.cmd.val < 128 := cmd ▸ Pair.press_small press
    obtain ⟨reply, sent, last, -⟩ := serve_told small served
    have seq : reply.seq = numOf s.delegate.lastseq := by
      rw [← last, serve_seq small served]
      exact packet_seq written read
    have pending' : s.pending - 1 = 0 := by rw [pending]
    have told' : s.told ++ o.sent = [reply] := by rw [told, sent, List.nil_append]
    refine ⟨press, cell, target, .told u press reply user target seq asked pending' told', by rw [pair_silent told], ?_⟩
    have both : pair cs { s with client := o.c, pending := s.pending - 1, told := s.told ++ o.sent } =
        ⟨o.c, press.recv cs u reply⟩ := pair_told user target seq told'
    rw [both]
    unfold Pair.step
    rw [if_pos enabled, user]
    change ((press.packet u s.delegate.lastseq).bind fun packet => _) = _
    rw [written, Option.bind_some]
    change ((readPacket cell packet).bind fun m => _) = _
    rw [read, Option.bind_some]
    change (match Server.serve cv env online s.client s.client.msg with
      | .ok o => _
      | .error _ => none) = _
    rw [served]
    dsimp only
    rw [sent]

/-- What every step keeps. -/
structure Inv (cs : CSJson) (s : Line κ) : Prop where
  phase : s.up = true → Phase s
  held : s.up = true → (s.pair cs).Open

/-- **One step** of a patient scene keeps to the contract exactly when a request
that it serves finds the account as it should. -/
theorem step_agrees {a : LineStep κ} (inv : Inv cs s) (agrees : Agrees cs s) (h : step cv cs s a = some t)
    (patient : s.Patient a) : Agrees cs t ↔ Told cv s a := by
  by_cases serves : ∃ env online, a = .serve env online
  · obtain ⟨env, online, rfl⟩ := serves
    obtain ⟨open_, -, enabled, result⟩ := step_serve h
    obtain ⟨rfl, panics⟩ | ⟨o, served, same⟩ := result
    · exact iff_of_true (fun up => by cases up) fun o served => absurd served (panics o)
    · have open' : t.up = true := by rw [same]; exact open_
      obtain ⟨press, cell, target, -, user, taken⟩ := serve_exchange (inv.phase open_) h open'
      have mirrored := (agrees open_).mirrored (inv.held open_) enabled
      have mirrored' : Pair.Mirrored ⟨{ s.client with msg := cell }, s.user⟩ := by rwa [Pair.Mirrored, user] at mirrored
      have exact_ := Pair.step_agrees mirrored' taken
      constructor
      · intro agrees' o' served' press' target'
        cases target.symm.trans target'
        exact exact_.1 (agrees' open')
      · exact fun told _ => exact_.2 (told o served press target)
  · have other : ∀ env online, a ≠ .serve env online := fun env online same => serves ⟨env, online, same⟩
    have told : Told cv s a := by
      cases a with
      | serve env online => exact absurd rfl (other env online)
      | _ => trivial
    refine iff_of_true (fun up => ?_) told
    obtain ⟨open_, -, user, msg, client⟩ := step_frame inv.phase patient other h up
    have agrees' := agrees open_
    unfold Pair.Agrees Pair.Mirrored at agrees' ⊢
    rw [user, show (t.pair cs).client = { s.client with msg } from client]
    exact agrees'

/-- **One step** of a patient scene has one request under way at most. -/
theorem step_inv {a : LineStep κ} (inv : Inv cs s) (agrees : Agrees cs s) (h : step cv cs s a = some t)
    (patient : s.Patient a) : Inv cs t := by
  by_cases serves : ∃ env online, a = .serve env online
  · obtain ⟨env, online, rfl⟩ := serves
    obtain ⟨open_, -, enabled, -⟩ := step_serve h
    refine ⟨fun up => ?_, fun up => ?_⟩
    · obtain ⟨-, -, -, phase, -⟩ := serve_exchange (inv.phase open_) h up
      exact phase
    · obtain ⟨press, cell, -, -, user, taken⟩ := serve_exchange (inv.phase open_) h up
      have mirrored := (agrees open_).mirrored (inv.held open_) enabled
      have mirrored' : Pair.Mirrored ⟨{ s.client with msg := cell }, s.user⟩ := by rwa [Pair.Mirrored, user] at mirrored
      exact Pair.step_open mirrored' taken
  · have other : ∀ env online, a ≠ .serve env online := fun env online same => serves ⟨env, online, same⟩
    have frame : t.up = true → s.up = true ∧ Phase t ∧ (t.pair cs).user = (s.pair cs).user ∧
        ∃ msg, t.client = { s.client with msg } := step_frame inv.phase patient other h
    refine ⟨fun up => (frame up).2.1, fun up => ?_⟩
    obtain ⟨open_, -, user, msg, client⟩ := frame up
    have held := inv.held open_
    unfold Pair.Open Pair.Mirrored at held ⊢
    rw [user, show (t.pair cs).client = { s.client with msg } from client]
    exact held

/-- **When the copy is right over the wire**: for scenes that send a request only
when nothing is on its way, through a run exactly when every request that is
served finds an account that its reply can tell. -/
theorem copy_iff_told (cv : FloatConv) (cs : CSJson) (c : Client κ) (u : RemoteUser) (d : MyDelegate Press)
    (copy : Mirrors u c.user.udb) (as : List (LineStep κ)) (s : Line κ) (run : exec (step cv cs) (idle c u d) as = some s)
    (patient : Along (step cv cs) Patient (idle c u d) as) :
    Through (step cv cs) (Agrees cs) (idle c u d) as ↔ Along (step cv cs) (Told cv) (idle c u d) as := by
  have first : (pair cs (idle c u d)).Mirrored := ⟨u, rfl, copy⟩
  have start : Inv cs (idle c u d) := ⟨fun _ => .quiet ⟨rfl, rfl, rfl⟩, fun _ _ _ => first⟩
  have agrees : Agrees cs (idle c u d) := fun _ _ => first
  have both : Through (step cv cs) (Agrees cs) (idle c u d) as ∧ Along (step cv cs) Patient (idle c u d) as ↔
      Along (step cv cs) (fun s a => Patient s a ∧ Told cv s a) (idle c u d) as :=
    through_along_iff_kept ?_ ?_ start agrees run
  · rw [← and_iff_left (a := Through _ _ _ _) patient, both]
    exact ⟨fun both => both.mono fun _ _ now => now.2, fun told bs a t pre run => ⟨patient bs a t pre run, told bs a t pre run⟩⟩
  · exact fun t a t' inv agrees now h => step_inv inv agrees h now.1
  · intro t a t' inv agrees h
    rw [and_comm]
    exact and_congr_right fun patient => step_agrees inv agrees h patient

end

/-- A client that has logged in to an account with 31 hearts and six events. -/
def member : Client Unit :=
  { Client.new () with user := ⟨true, { UserDb.zero with heart := 31, nextStage := 1, eventLock := List.replicate 6 1 }, false⟩ }

/-- The copy of that account. -/
def memberUser : RemoteUser := { Pair.freshUser with stageid := 1, heart := 31, userid := "u" }

/-- The copy of the member has what the account has. -/
theorem memberUser_mirrors : Mirrors memberUser member.user.udb := by
  refine ⟨rfl, rfl, by decide, fun i l found => ?_⟩
  have small : i < 6 := (List.getElem?_eq_some_iff.1 found).1
  interval_cases i <;> cases found <;> exact ⟨1, rfl, rfl⟩

/-- A play of the first stage, with a call of `CheckRecv` while it is under way. -/
def onePlay : List (LineStep Unit) :=
  [.press (.play Pair.firstStage), .decode, .check, .serve (Env.answering fun _ => .notFound) .empty, .receive]

/-- One stage is played, and the hearts of the copy are those of the account. -/
theorem copy_iff_told_play :
    Through (step amd64 Pair.strict) (Agrees Pair.strict) (idle member memberUser (.init none)) onePlay ∧
      (exec (step amd64 Pair.strict) (idle member memberUser (.init none)) onePlay).map (fun s => s.user.map RemoteUser.heart) =
        some (some 29) := by
  have ends : (exec (step amd64 Pair.strict) (idle member memberUser (.init none)) onePlay).map
      (fun s => s.user.map RemoteUser.heart) = some (some 29) := by decide +kernel
  refine ⟨?_, ends⟩
  obtain ⟨s, run, -⟩ := Option.map_eq_some_iff.1 ends
  apply (copy_iff_told amd64 Pair.strict member memberUser (.init none) memberUser_mirrors onePlay s run (by decide +kernel)).2
  obtain ⟨s₁, press, run⟩ := exec_cons_eq_some.1 run
  obtain ⟨s₂, decode, run⟩ := exec_cons_eq_some.1 run
  obtain ⟨s₃, check, run⟩ := exec_cons_eq_some.1 run
  obtain ⟨s₄, serve, run⟩ := exec_cons_eq_some.1 run
  obtain ⟨s₅, receive, -⟩ := exec_cons_eq_some.1 run
  refine (along_cons press).2 ⟨trivial, (along_cons decode).2 ⟨trivial, (along_cons check).2 ⟨trivial,
    (along_cons serve).2 ⟨?_, (along_cons receive).2 ⟨trivial, along_nil⟩⟩⟩⟩⟩
  obtain ⟨same, target, -⟩ := step_check check
  obtain ⟨_, _, _, _, _, _, rfl⟩ := step_decode decode
  obtain ⟨_, _, _, _, rfl⟩ := step_press press
  have ready : s₃.client.user.ready = true := by rw [same]; rfl
  rintro o - p pressed
  rw [target] at pressed
  obtain rfl : .play Pair.firstStage = p := Option.some.inj pressed
  unfold Pair.Told
  dsimp only
  rw [ready, if_neg nofun, if_pos rfl]
  rintro - i item
  cases item

end Line

end Crazyass.Client
