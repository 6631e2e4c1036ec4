import Crazyass.Sys.Run
import Crazyass.Dogrun.Dispatch

/-!
# What crashes the dog server

A panic of a handler is not recovered and ends the process. `NewClient` leaves
the keeper's pointer nil and nothing sets it, so every operation that gets as
far as its costs panics, as does every command without a handler.
-/

namespace Crazyass.Dogrun
open Go Sys

/-- A connection: its client, the message cell of `readPacket`, and whether the process has ended. -/
structure Serving where
  client : Client
  msg : Msg
  crashed : Bool

/-- The bytes of a packet, and what its handling learns from outside. -/
structure Packet where
  bytes : List UInt8
  env : Env

/-- The operation is refused before anything is charged: the client is not
logged in, the request does not decode, there is no such dog, it is too early,
or the configuration is loaded and has no such entry. -/
def Refused (codec : Codec) (res : ResMap) (u : User) (k : Kind) (body : List UInt8) (now : UInt32) : Prop :=
  u.ready = true → ∀ req, codec.dogReq k body = some req →
    ∀ i dog, getDog u.dogs req.dogid = some (i, dog) → dog.cd.get k.index ≤ now →
      ∃ cfg, res.get k = .ok cfg ∧ cfg[req.type.toNat]? = none

/-- The command is reserved or a login, or an operation that is refused. -/
def Harmless (codec : Codec) (res : ResMap) (u : User) (msg : Msg) (now : UInt32) : Prop :=
  handler? msg.h.cmd = some .t ∨ handler? msg.h.cmd = some .userLogin ∨
    ∃ k, handler? msg.h.cmd = some (.dog k) ∧ Refused codec res u k msg.body now

namespace Serving
section
variable (codec : Codec) (res : ResMap)

/-- The client made by `NewClient`. -/
def start : Serving := ⟨.new .nil, .zero, false⟩

def step (s : Serving) (p : Packet) : Option Serving :=
  if s.crashed ∨ ¬ s.client.enable then none
  else
    match readPacket s.msg p.bytes with
    | (m, .ok []) =>
      if 84 ≤ m.h.size then
        match procMsg codec res p.env s.client m with
        | .ok o => some ⟨o.c, m, false⟩
        | .error _ => some { s with msg := m, crashed := true }
      else none
    | _ => none

/-- No panic has ended the process. -/
def Alive (s : Serving) : Prop := s.crashed = false

/-- The packet carries a harmless request. -/
def Spares (s : Serving) (p : Packet) : Prop := Harmless codec res s.client.u (readPacket s.msg p.bytes).1 p.env.now

/-- The keeper's pointer is nil. -/
def Unset (s : Serving) : Prop := s.client.u.dk.user = .nil

end
end Serving

section
variable {codec : Codec} {res : ResMap} {env : Env} {c : Client} {msg : Msg} {k : Kind} {o : Outcome}

/-- An operation through a nil pointer returns only if it is refused. -/
theorem operate_returns {u : User} {dk : DogKeeper} {req : DogReq} {now : UInt32} (unset : dk.user = .nil) :
    (∃ r, operate k res u dk req now = .ok r) ↔
      ∀ i dog, getDog u.dogs req.dogid = some (i, dog) → dog.cd.get k.index ≤ now →
        ∃ cfg, res.get k = .ok cfg ∧ cfg[req.type.toNat]? = none := by
  have ends := operate_operated k res u dk req now
  generalize operate k res u dk req now = r at ends ⊢
  cases ends with
  | notFound absent =>
    refine iff_of_true ⟨_, rfl⟩ fun i dog found => ?_
    cases absent.symm.trans found
  | inCD i dog found early =>
    refine iff_of_true ⟨_, rfl⟩ fun i' dog' found' due => ?_
    cases found.symm.trans found'
    exact absurd early (UInt32.not_lt.2 due)
  | unloaded i dog found due missing =>
    refine iff_of_false (fun ⟨_, ok⟩ => by cases ok) fun refused => ?_
    obtain ⟨cfg, loaded, -⟩ := refused i dog found due
    cases missing.symm.trans loaded
  | badType i dog cfg found due loaded beyond =>
    exact iff_of_true ⟨_, rfl⟩ fun _ _ _ _ => ⟨cfg, loaded, beyond⟩
  | nilUser i dog cfg change found due loaded entry user =>
    refine iff_of_false (fun ⟨_, ok⟩ => by cases ok) fun refused => ?_
    obtain ⟨cfg', loaded', beyond⟩ := refused i dog found due
    cases loaded.symm.trans loaded'
    cases entry.symm.trans beyond
  | done i dog cfg change found due loaded entry user => cases unset.symm.trans user

/-- Without the pointer an operation returns exactly when it is refused. -/
theorem procDog_returns (unset : c.u.dk.user = .nil) :
    (∃ r, procDog codec res k env c msg = .ok r) ↔ Refused codec res c.u k msg.body env.now := by
  rw [procDog_eq]
  unfold Refused
  by_cases ready : c.u.ready = true
  · rw [if_pos ready, forall_prop_of_true ready]
    cases decoded : codec.dogReq k msg.body with
    | none => exact iff_of_true ⟨_, rfl⟩ fun req some => by cases some
    | some req =>
      simp only [Option.some.injEq, forall_eq']
      rw [← operate_returns unset]
      cases operate k res c.u c.u.dk req env.now <;> simp [Except.map]
  · rw [if_neg ready]
    exact iff_of_true ⟨_, rfl⟩ fun logged => absurd logged ready

/-- **When a message does not crash the server.** -/
theorem procMsg_returns (codec : Codec) (res : ResMap) (env : Env) (unset : c.u.dk.user = .nil) (small : msg.h.cmd < 128) :
    (∃ o, procMsg codec res env c msg = .ok o) ↔ Harmless codec res c.u msg env.now := by
  rw [procMsg_eq small]
  unfold Harmless
  cases handler? msg.h.cmd with
  | none => simp
  | some proc =>
    have returns : (∃ o, (proc.run codec res env c msg).map (fun r =>
        (⟨some (proc, r.ret), if r.ret = .kick then { r.c with enable := false } else r.c, r.upsert⟩ : Outcome)) = .ok o) ↔
        ∃ r, proc.run codec res env c msg = .ok r := by
      cases proc.run codec res env c msg <;> simp [Except.map]
    refine returns.trans ?_
    cases proc with
    | t => exact iff_of_true ⟨_, rfl⟩ (.inl rfl)
    | userLogin => exact iff_of_true ⟨_, rfl⟩ (.inr (.inl rfl))
    | dog k =>
      rw [run_dog, procDog_returns unset]
      simp

end

namespace Serving
section
variable {codec : Codec} {res : ResMap} {s t : Serving} {p : Packet}

/-- The two ends of a packet. -/
theorem step_some (h : step codec res s p = some t) : ∃ m, readPacket s.msg p.bytes = (m, .ok []) ∧ m.h.cmd < 128 ∧
    ((∃ o, procMsg codec res p.env s.client m = .ok o ∧ t = ⟨o.c, m, false⟩) ∨
      (∃ e, procMsg codec res p.env s.client m = .error e) ∧ t = { s with msg := m, crashed := true }) := by
  unfold step at h
  split at h
  · cases h
  · split at h
    · next m read =>
      obtain ⟨hbuf, -, -, parsed, -⟩ := readPacket_ok read
      have small := parseHeader_true parsed
      refine ⟨m, read, small, ?_⟩
      split at h
      · split at h
        · next o returned =>
          cases h
          exact .inl ⟨o, returned, rfl⟩
        · next e crashed =>
          cases h
          exact .inr ⟨⟨e, crashed⟩, rfl⟩
      · cases h
    · cases h

/-- **One step** leaves the pointer unset. -/
theorem step_unset (unset : Unset s) (h : step codec res s p = some t) : Unset t := by
  obtain ⟨m, -, small, ⟨o, returned, rfl⟩ | ⟨-, rfl⟩⟩ := step_some h
  · exact (procMsg_user small returned).trans unset
  · exact unset

/-- **One packet.** -/
theorem step_alive_iff (unset : Unset s) (h : step codec res s p = some t) : Alive t ↔ Spares codec res s p := by
  obtain ⟨m, read, small, ends⟩ := step_some h
  have returns := procMsg_returns codec res p.env unset small
  have same : (readPacket s.msg p.bytes).1 = m := by rw [read]
  unfold Spares
  rw [same, ← returns]
  rcases ends with ⟨o, returned, rfl⟩ | ⟨⟨e, crashed⟩, rfl⟩
  · exact iff_of_true rfl ⟨o, returned⟩
  · refine iff_of_false (fun alive => by cases alive) fun ⟨o, returned⟩ => ?_
    cases crashed.symm.trans returned

/-- **When no input crashes the server**: a run of packets that `readPacket`
accepts never ends the process, exactly when every packet of it is harmless. -/
theorem alive_iff_harmless (codec : Codec) (etc : String → Option (List Config)) (ps : List Packet) (s : Serving)
    (run : exec (step codec (resInit etc)) start ps = some s) :
    Through (step codec (resInit etc)) Alive start ps ↔ Along (step codec (resInit etc)) (Spares codec (resInit etc)) start ps :=
  through_iff_along (fun _ _ _ unset _ h => step_unset unset h) (fun _ _ _ unset _ h => step_alive_iff unset h)
    (show Unset start from rfl) rfl run

end
end Serving

/-! ## Tests -/

/-- A packet without a body, at the time 10; the user has these dogs. -/
def packet (cmd : UInt32) (dogs : List Dog) : Packet where
  bytes := frame ⟨dogrun2ProtoMagic, cmd, 1, 0, 84, []⟩ []
  env := ⟨fun _ => .notFound, fun _ => .found dogs, true, 10⟩

/-- A login and an operation on a dog that the user does not have. -/
theorem alive_iff_harmless_noDog :
    Through (Serving.step oneUser (resInit oneEntry)) Serving.Alive Serving.start [packet 1 [], packet 5 []] := by
  have ends : (exec (Serving.step oneUser (resInit oneEntry)) Serving.start [packet 1 [], packet 5 []]).map
      (fun s => s.client.enable) = some true := by decide +kernel
  have logged : (exec (Serving.step oneUser (resInit oneEntry)) Serving.start [packet 1 []]).map
      (fun s => (s.client.u.dogs, (readPacket s.msg (packet 5 []).bytes).1.h.cmd)) = some ([], 5) := by decide +kernel
  obtain ⟨s, run, -⟩ := Option.map_eq_some_iff.1 ends
  refine (Serving.alive_iff_harmless oneUser oneEntry _ s run).2 ?_
  obtain ⟨s₁, login, run⟩ := exec_cons_eq_some.1 run
  obtain ⟨s₂, feed, run⟩ := exec_cons_eq_some.1 run
  have shown : (s₁.client.u.dogs, (readPacket s₁.msg (packet 5 []).bytes).1.h.cmd) = ([], 5) := by
    rw [exec_cons, login] at logged
    exact Option.some.inj logged
  obtain ⟨noDogs, cmd⟩ := Prod.mk.inj shown
  refine (along_cons login).2 ⟨.inr (.inl (by decide +kernel)), (along_cons feed).2 ⟨.inr (.inr ⟨.feed, ?_, ?_⟩), along_nil⟩⟩
  · rw [cmd]
    decide +kernel
  · intro _ req _ i dog found
    rw [noDogs] at found
    cases found

/-- A command without a handler; an operation that is charged; and one whose
configuration could not be loaded. -/
theorem input_crashes :
    (∃ s, exec (Serving.step oneUser (resInit oneEntry)) Serving.start [packet 2 []] = some s ∧ ¬ s.Alive) ∧
    (∃ s, exec (Serving.step oneUser (resInit oneEntry)) Serving.start [packet 1 [rex], packet 5 []] = some s ∧ ¬ s.Alive) ∧
    ∃ s, exec (Serving.step oneUser (resInit fun _ => none)) Serving.start [packet 1 [rex], packet 7 []] = some s ∧
      ¬ s.Alive := by
  have crashed : ∀ {etc ps}, (exec (Serving.step oneUser (resInit etc)) Serving.start ps).map Serving.crashed = some true →
      ∃ s, exec (Serving.step oneUser (resInit etc)) Serving.start ps = some s ∧ ¬ s.Alive := by
    intro etc ps shown
    obtain ⟨s, run, ended⟩ := Option.map_eq_some_iff.1 shown
    refine ⟨s, run, fun alive => ?_⟩
    rw [Serving.Alive, ended] at alive
    cases alive
  exact ⟨crashed (by decide +kernel), crashed (by decide +kernel), crashed (by decide +kernel)⟩

end Crazyass.Dogrun
