import Crazyass.Server.Handlers

/-!
# Dispatch and the connection loop

`procFuncArray` as the two `init` functions fill it, `procMsg`, and the body of
the loop in `Proc`: clear the error code, then serve one ready case of the
`select`.
-/

namespace Crazyass.Server
open Go

/-- The registered functions; `t` is the one `init` puts under command 0. -/
inductive Handler where
  | t | userLogin | startPlay | endPlay | iapAddHeart | eventLock | useItem
deriving DecidableEq, Repr

/-- `ClientProcRegister`; the flag is false where it returns an error. -/
def clientProcRegister (arr : List (Option Handler)) (cmd : ℕ) (proc : Handler) : List (Option Handler) × Bool :=
  if cmd ≥ 128 then (arr, false)
  else
    match arr[cmd]? with
    | some none => (arr.set cmd (some proc), true)
    | _ => (arr, false)

/-- The table after the `init` of `client.go` and that of `user.go`. -/
def procFuncArray : List (Option Handler) :=
  [(0, Handler.t), (1, .userLogin), (2, .startPlay), (3, .endPlay), (4, .iapAddHeart), (5, .eventLock),
    (6, .useItem)].foldl (fun arr r => (clientProcRegister arr r.1 r.2).1) (List.replicate 128 none)

theorem procFuncArray_eq :
    procFuncArray = [some .t, some .userLogin, some .startPlay, some .endPlay, some .iapAddHeart, some .eventLock,
      some .useItem] ++ List.replicate 121 none := by decide +kernel

@[simp] theorem procFuncArray_length : procFuncArray.length = 128 := by
  rw [procFuncArray_eq]
  rfl

section
variable {κ : Type} (cv : FloatConv)

def Handler.run (h : Handler) (env : Env) (online : Online κ) (c : Client κ) : Except Panic (Called κ) :=
  let own (r : Except Panic (ProcRet × Client κ)) : Except Panic (Called κ) := r.map fun r => ⟨r.1, r.2, online⟩
  match h with
  | .t => .ok ⟨.succ, c, online⟩
  | .userLogin => .ok (procUserLogin env online c)
  | .startPlay => own (procStartPlay cv c)
  | .endPlay => own (procEndPlay cv c)
  | .iapAddHeart => own (procIAPAddHeart cv c)
  | .eventLock => own (procEventLock cv c)
  | .useItem => own (procUseItem cv c)

/-- The reply message `procMsg` starts from. -/
def Client.initReply (c : Client κ) : Client κ :=
  { c with replyMsg :=
    { c.replyMsg with userid := c.msg.userid, cmd := c.msg.cmd, seq := c.msg.seq, body := fun _ => none } }

/-- The middle of `procMsg`: the reply is initialised and the handler, if the
command has one that the client may call, is run. The first component names it. -/
def dispatch (env : Env) (online : Online κ) (c : Client κ) : Except Panic (Option Handler × Called κ) :=
  let c := c.initReply
  if ¬ c.isLogin ∧ c.msg.cmd ≠ kCmdUserLogin then .ok (none, ⟨.kick, c, online⟩)
  else do
    match ← index .procFuncArray procFuncArray (cv.int c.msg.cmd).toInt with
    | none => .ok (none, ⟨.kick, c, online⟩)
    | some proc => do
      let r ← proc.run cv env online c
      .ok (some proc, r)

/-- What `procMsg` did: the handler that ran, the document handed to `Upsert`,
whether `Store` returned nil, and the messages sent. -/
structure Outcome (κ : Type) where
  c : Client κ
  online : Online κ
  ran : Option (Handler × ProcRet)
  upsert : Option UserDb
  stored : Bool
  sent : List Msg

/-- The end of `procMsg`: flush to the database, kick off, send the reply. -/
def finish (env : Env) (ran : Option Handler) (r : Called κ) : Outcome κ :=
  let (upsert, stored) := r.c.user.store env
  let (ret, c) := if stored then (r.ret, r.c) else (ProcRet.kick, r.c.setErrCode kErrWriteDB)
  let c := if ret = .kick then { c with enable := false } else c
  ⟨c, r.online, ran.map fun h => (h, r.ret), upsert, stored, [c.replyMsg]⟩

def procMsg (env : Env) (online : Online κ) (c : Client κ) : Except Panic (Outcome κ) :=
  if c.msg.cmd.val ≥ 128 then .ok ⟨c, online, none, none, true, []⟩
  else do
    let (ran, r) ← dispatch cv env online c
    .ok (finish env ran r)

/-- `procIMsg`. -/
def procIMsg (c : Client κ) (value : Int64) : Client κ := c.addHeart value

/-- `procTimeout`. -/
def procTimeout (c : Client κ) : Client κ := { c with enable := false }

/-- The head of the loop body in `Proc`. -/
def loopHead (c : Client κ) : Client κ := c.setErrCode 0

/-- The loop body when the case taken is a request `m` in the message cell. -/
def serve (env : Env) (online : Online κ) (c : Client κ) (m : Msg) : Except Panic (Outcome κ) :=
  procMsg cv env online (loopHead { c with msg := m })

/-- The loop body when the case taken is a value from `ichan`. -/
def serveIMsg (c : Client κ) (value : Int64) : Client κ := procIMsg (loopHead c) value

/-- What `Proc` does after its loop. -/
def leaveOnline (online : Online κ) (c : Client κ) : Online κ := online.delete c.user.udb.userId

end

end Crazyass.Server
