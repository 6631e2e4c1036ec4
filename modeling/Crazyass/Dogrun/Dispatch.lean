import Crazyass.Dogrun.Dog

/-!
# Dispatch of the dog server

The handlers, `procFuncArray` as the `init` functions fill it, and `procMsg`.
The handlers of the three operations work on a copy of the session's
`DogKeeper`, and what the copy learns is lost.
-/

namespace Crazyass.Dogrun
open Go

/-- `CLI_PROC_RET_SUCC`, `_ERR` and `_KICK`. -/
inductive ProcRet where
  | succ | err | kick
deriving DecidableEq, Repr

/-- The registered functions; `t` is the one `init` puts under command 0. -/
inductive Handler where
  | t | userLogin | dog (k : Kind)
deriving DecidableEq, Repr

/-- `Command_kCmdUserLoginReq`. -/
def kCmdUserLoginReq : ℕ := 1

/-- `Command_kCmdDogFeedReq`, `Command_kCmdDogTrainReq` and `Command_kCmdDogPlayReq`. -/
def Kind.cmd : Kind → ℕ
  | .feed => 5
  | .train => 7
  | .play => 9

/-- `ClientProcRegister`; the flag is false where it returns an error. -/
def clientProcRegister (arr : List (Option Handler)) (cmd : ℕ) (proc : Handler) : List (Option Handler) × Bool :=
  if cmd ≥ 128 then (arr, false)
  else
    match arr[cmd]? with
    | some none => (arr.set cmd (some proc), true)
    | _ => (arr, false)

/-- The table after the `init` functions of `client.go`, `dog.go` and `user.go`. -/
def procFuncArray : List (Option Handler) :=
  [(0, Handler.t), (Kind.feed.cmd, .dog .feed), (Kind.play.cmd, .dog .play), (Kind.train.cmd, .dog .train),
    (kCmdUserLoginReq, .userLogin)].foldl (fun arr r => (clientProcRegister arr r.1 r.2).1) (List.replicate 128 none)

theorem procFuncArray_eq :
    procFuncArray = [some .t, some .userLogin, none, none, none, some (.dog .feed), none, some (.dog .train), none,
      some (.dog .play)] ++ List.replicate 118 none := by decide +kernel

/-- The generated package `dogrun2cs`: what `proto.Unmarshal` and the getters of
a request make of a body, if it succeeds. -/
structure Codec where
  userLoginReq : List UInt8 → Option String
  dogReq : Kind → List UInt8 → Option DogReq

structure Client where
  u : User
  enable : Bool
deriving DecidableEq, Repr

/-- `NewClient`, but for the keeper's pointer. -/
def Client.new (user : UserPtr) : Client := ⟨.init user, true⟩

/-- What a request leaves behind: the return value, the client, and the user
document handed to `Upsert`. -/
structure Called where
  ret : ProcRet
  c : Client
  upsert : Option UserDb
deriving DecidableEq, Repr

section
variable (codec : Codec) (res : ResMap)

def procUserLogin (env : Env) (c : Client) (msg : Msg) : Called :=
  if c.u.ready then ⟨.succ, c, none⟩
  else
    match codec.userLoginReq msg.body with
    | none => ⟨.kick, c, none⟩
    | some userid =>
      match c.u.login env userid with
      | (u, upsert, true) => ⟨.succ, { c with u }, upsert⟩
      | (u, upsert, false) => ⟨.kick, { c with u }, upsert⟩

/-- The common body of `ProcFeedDog`, `ProcPlayDog` and `ProcTrainDog`. -/
def procDog (k : Kind) (env : Env) (c : Client) (msg : Msg) : Except Crash Called :=
  if c.u.ready then
    match codec.dogReq k msg.body with
    | none => .ok ⟨.kick, c, none⟩
    | some req => do
      -- a copy, and its flag is lost with it
      let dk := c.u.dk
      match ← operate k res c.u dk req env.now with
      | (u, _, some _) => .ok ⟨.err, { c with u }, none⟩
      | (u, _, none) => .ok ⟨.succ, { c with u }, none⟩
  else .ok ⟨.kick, c, none⟩

def procFeedDog := procDog codec res .feed

def procPlayDog := procDog codec res .play

def procTrainDog := procDog codec res .train

def Handler.run (h : Handler) (env : Env) (c : Client) (msg : Msg) : Except Crash Called :=
  match h with
  | .t => .ok ⟨.succ, c, none⟩
  | .userLogin => .ok (procUserLogin codec env c msg)
  | .dog .feed => procFeedDog codec res env c msg
  | .dog .play => procPlayDog codec res env c msg
  | .dog .train => procTrainDog codec res env c msg

/-- The handler that a command is looked up to, if it has one. -/
def handler? (cmd : UInt32) : Option Handler := procFuncArray[cmd.toNat]?.join

/-- What `procMsg` did: the handler that ran, with its return value, the client
afterwards, and the user document handed to `Upsert`. -/
structure Outcome where
  ran : Option (Handler × ProcRet)
  c : Client
  upsert : Option UserDb
deriving DecidableEq, Repr

def procMsg (env : Env) (c : Client) (msg : Msg) : Except Crash Outcome :=
  if msg.h.cmd ≥ 128 then .ok ⟨none, c, none⟩
  else
    match handler? msg.h.cmd with
    | none => .error .nilFunc
    | some proc => do
      let r ← proc.run codec res env c msg
      let c := if r.ret = .kick then { r.c with enable := false } else r.c
      .ok ⟨some (proc, r.ret), c, r.upsert⟩

/-! ## What a request can do -/

variable {codec res} {env : Env} {c : Client} {msg : Msg} {k : Kind} {o : Outcome}

/-- The three ends of `ProcFeedDog` and its siblings. -/
theorem procDog_eq : procDog codec res k env c msg =
    if c.u.ready then
      match codec.dogReq k msg.body with
      | none => .ok ⟨.kick, c, none⟩
      | some req => (operate k res c.u c.u.dk req env.now).map fun r =>
          ⟨if r.2.2 = none then .succ else .err, { c with u := r.1 }, none⟩
    else .ok ⟨.kick, c, none⟩ := by
  unfold procDog
  split
  · cases codec.dogReq k msg.body with
    | none => rfl
    | some req =>
      dsimp only
      cases operate k res c.u c.u.dk req env.now with
      | error e => rfl
      | ok r =>
        obtain ⟨u, dk, err⟩ := r
        cases err <;> rfl
  · rfl

/-- A handler of an operation kicks the client, or returns what the operation does. -/
theorem procDog_ok {called : Called} (h : procDog codec res k env c msg = .ok called) :
    called = ⟨.kick, c, none⟩ ∨ ∃ req r, c.u.ready = true ∧ codec.dogReq k msg.body = some req ∧
      operate k res c.u c.u.dk req env.now = .ok r ∧
      called = ⟨if r.2.2 = none then .succ else .err, { c with u := r.1 }, none⟩ := by
  rw [procDog_eq] at h
  by_cases ready : c.u.ready = true
  · rw [if_pos ready] at h
    cases decoded : codec.dogReq k msg.body with
    | none =>
      rw [decoded] at h
      cases h
      exact .inl rfl
    | some req =>
      rw [decoded] at h
      dsimp only at h
      cases done : operate k res c.u c.u.dk req env.now with
      | error e => simp [done, Except.map] at h
      | ok r =>
        rw [done] at h
        cases h
        exact .inr ⟨req, r, ready, rfl, done, rfl⟩
  · rw [if_neg ready] at h
    cases h
    exact .inl rfl

theorem run_dog : (Handler.dog k).run codec res env c msg = procDog codec res k env c msg := by
  cases k <;> rfl

/-- A message in range, handled. -/
theorem procMsg_eq (small : msg.h.cmd < 128) : procMsg codec res env c msg =
    match handler? msg.h.cmd with
    | none => .error .nilFunc
    | some proc => (proc.run codec res env c msg).map fun r =>
        ⟨some (proc, r.ret), if r.ret = .kick then { r.c with enable := false } else r.c, r.upsert⟩ := by
  unfold procMsg
  rw [if_neg (UInt32.not_le.2 small)]
  cases handler? msg.h.cmd with
  | none => rfl
  | some proc => cases proc.run codec res env c msg <;> rfl

/-- A message in range that does not panic was handled. -/
theorem procMsg_ok (small : msg.h.cmd < 128) (h : procMsg codec res env c msg = .ok o) :
    ∃ proc r, handler? msg.h.cmd = some proc ∧ proc.run codec res env c msg = .ok r ∧
      o = ⟨some (proc, r.ret), if r.ret = .kick then { r.c with enable := false } else r.c, r.upsert⟩ := by
  rw [procMsg_eq small] at h
  cases found : handler? msg.h.cmd with
  | none => simp [found] at h
  | some proc =>
    rw [found] at h
    dsimp only at h
    cases run : proc.run codec res env c msg with
    | error e => simp [run, Except.map] at h
    | ok r =>
      rw [run] at h
      cases h
      exact ⟨proc, r, rfl, run, rfl⟩

end

/-! ## Which pointer the keeper has -/

theorem login_user (u : User) (env : Env) (userid : String) : (u.login env userid).1.dk.user = u.dk.user := by
  have kept := load_user u env userid
  unfold User.login
  cases loaded : u.load env userid with
  | mk v ok =>
    rw [loaded] at kept
    cases ok with
    | false => exact kept
    | true =>
      dsimp only
      split <;> exact kept

theorem procUserLogin_user (codec : Codec) (env : Env) (c : Client) (msg : Msg) :
    (procUserLogin codec env c msg).c.u.dk.user = c.u.dk.user := by
  unfold procUserLogin
  split
  · rfl
  · cases codec.userLoginReq msg.body with
    | none => rfl
    | some userid =>
      dsimp only
      have kept := login_user c.u env userid
      split
      · next u upsert login =>
        rw [login] at kept
        exact kept
      · next u upsert login =>
        rw [login] at kept
        exact kept

/-- An operation changes the session's purses and dogs, not its keeper. -/
theorem operate_dk {k : Kind} {res : ResMap} {u : User} {dk : DogKeeper} {req : DogReq} {now : UInt32}
    {r : User × DogKeeper × Option Err} (h : operate k res u dk req now = .ok r) : r.1.dk = u.dk := by
  have ends := operate_operated k res u dk req now
  rw [h] at ends
  cases ends <;> rfl

theorem run_user {proc : Handler} {codec : Codec} {res : ResMap} {env : Env} {c : Client} {msg : Msg} {r : Called}
    (run : proc.run codec res env c msg = .ok r) : r.c.u.dk.user = c.u.dk.user := by
  cases proc with
  | t =>
    cases run
    rfl
  | userLogin =>
    cases run
    exact procUserLogin_user codec env c msg
  | dog k =>
    rw [run_dog] at run
    rcases procDog_ok run with rfl | ⟨req, done, -, -, operated, rfl⟩
    · rfl
    · exact congrArg DogKeeper.user (operate_dk operated)

/-- **`procMsg`** leaves the pointer as it is that `setDogAttr` needs. -/
theorem procMsg_user {codec : Codec} {res : ResMap} {env : Env} {c : Client} {msg : Msg} {o : Outcome}
    (small : msg.h.cmd < 128) (returned : procMsg codec res env c msg = .ok o) : o.c.u.dk.user = c.u.dk.user := by
  obtain ⟨proc, r, -, run, rfl⟩ := procMsg_ok small returned
  have kept := run_user run
  dsimp only
  split <;> exact kept

/-! ## Data for tests -/

/-- Every body is a login of one user, or a request for dog 1 and the first entry. -/
def oneUser : Codec := ⟨fun _ => some "u", fun _ _ => some ⟨1, 0⟩⟩

def rex : Dog := ⟨1, "Rex", 1, 0, 0, 0, 0, ⟨#[0, 0, 0], rfl⟩⟩

/-- A configuration of one entry in every file. -/
def oneEntry : String → Option (List Config) := fun _ => some [⟨60, 1, 5, 1, 1, 1, 1⟩]

end Crazyass.Dogrun
