import Crazyass.Server.Database
import Crazyass.Server.Heart

/-!
# The writers of one document

All that read and write the document of one user: the connections that log in
as the user, and the calls of `AddHeartAsync` for it. `Find`, a handler body,
`Store`, the send into `ichan` and `procIMsg` are one step each, so between any
two of them another writer may act.

A connection stands at the test of `enable`, in the `select`, in
`ProcUserLogin` with the answer of `Find`, or between a handler and the `Store`
after it. `base` is the document it last read or wrote.
-/

namespace Crazyass.Server
open Go Sys

inductive Phase where
  | head
  | select
  | found (m : Msg) (t : Clock) (d : UserDb)
  | storing (m : Msg) (u : User) (ran : Option Handler) (ret : ProcRet)
  | closed

structure Conn (κ : Type) where
  client : Client κ
  phase : Phase
  base : UserDb

/-- A call of `AddHeartAsync`: not begun, about to send to a client, about to
load, about to store the user it loaded, returned. -/
inductive Call (κ : Type) where
  | idle
  | sending (c : κ)
  | loading
  | loaded (user : User)
  | returned

/-- `iap` and `charged` add up what was answered with `ErrCode` 0. -/
structure Writers (κ γ : Type) where
  conns : κ → Conn κ
  calls : γ → Call κ
  online : Online κ
  db : Collection
  iap : ℤ
  charged : ℤ

inductive WriterStep (κ γ : Type) where
  | test (k : κ)
  | find (k : κ) (m : Msg) (t : Clock)
  | login (k : κ)
  | body (k : κ) (m : Msg)
  | store (k : κ)
  | imsg (k : κ)
  | nilMsg (k : κ)
  | timeout (k : κ)
  | readError (k : κ)
  | leave (k : κ)
  | lookup (j : γ)
  | send (j : γ)
  | load (j : γ) (t : Clock)
  | save (j : γ)

/-- The environment of a `Load` whose `Find` has answered `d`. -/
def Env.found (d : UserDb) (t : Clock) : Env where
  find id := if h : d.userId = id then .found d h else .failed
  upsert := true
  registerTime := t.registerTime
  loginTime := t.loginTime
  unixNano := t.unixNano

theorem load_foundEnv {u : User} {d : UserDb} {t : Clock} {id : String} (owner : d.userId = id) :
    u.load (Env.found d t) id = some { u with udb := d } := by
  unfold User.load Env.found
  dsimp only
  rw [dif_pos owner]

namespace Writers
section
variable {κ γ : Type} [DecidableEq κ] [DecidableEq γ]

def start (db : Collection) : Writers κ γ where
  conns k := ⟨.new k, .head, .zero⟩
  calls _ := .idle
  online := .empty
  db
  iap := 0
  charged := 0

def setConn (s : Writers κ γ) (k : κ) (c : Conn κ) : Writers κ γ := { s with conns := Function.update s.conns k c }

def setCall (s : Writers κ γ) (j : γ) (c : Call κ) : Writers κ γ := { s with calls := Function.update s.calls j c }

variable (cv : FloatConv)

/-- The middle of `procMsg`. A panic closes the connection and no more. -/
def call (s : Writers κ γ) (k : κ) (env : Env) (m : Msg) : Writers κ γ :=
  let c := loopHead { (s.conns k).client with msg := m }
  match dispatch cv env s.online c with
  | .error _ => s.setConn k { s.conns k with phase := .closed }
  | .ok (ran, r) =>
    { s.setConn k { s.conns k with client := r.c, phase := .storing m c.user ran r.ret } with online := r.online }

/-- The end of `procMsg`, `Store` included. What the request asked for counts if
the reply says so. -/
def settle (s : Writers κ γ) (k : κ) (m : Msg) (u : User) (ran : Option Handler) (ret : ProcRet) : Writers κ γ :=
  let o := finish (Env.answering fun _ => .failed) ran ⟨ret, (s.conns k).client, s.online⟩
  let done := o.sent.any fun r => r.errCode = 0
  { s.setConn k ⟨o.c, .head, o.upsert.getD (s.conns k).base⟩ with
    db := s.db.upsert? o.upsert
    iap := s.iap + if done then (ran.bind (Handler.credit cv m)).getD 0 else 0
    charged := s.charged + if done then ((ran.bind (Handler.price cv m u)).getD 0).toNat else 0 }

variable (id : String) (amount : γ → Int64)

def step (s : Writers κ γ) : WriterStep κ γ → Option (Writers κ γ)
  | .test k =>
    match (s.conns k).phase with
    | .head => if (s.conns k).client.enable then some (s.setConn k { s.conns k with phase := .select }) else none
    | _ => none
  | .find k m t =>
    match (s.conns k).phase, s.db.docs id with
    | .select, some d =>
      if (s.conns k).client.user.ready = false ∧ m.cmd = kCmdUserLogin ∧ loginId (s.db.env t) m = id then
        some (s.setConn k { s.conns k with phase := .found m t d, base := d })
      else none
    | _, _ => none
  | .login k =>
    match (s.conns k).phase with
    | .found m t d => some (s.call cv k (Env.found d t) m)
    | _ => none
  | .body k m =>
    match (s.conns k).phase with
    | .select =>
      if (s.conns k).client.user.ready = false ∧ m.cmd = kCmdUserLogin then none
      else if m.cmd.val ≥ 128 then
        some (s.setConn k { s.conns k with client := loopHead { (s.conns k).client with msg := m }, phase := .head })
      else some (s.call cv k (Env.answering fun _ => .failed) m)
    | _ => none
  | .store k =>
    match (s.conns k).phase with
    | .storing m u ran ret => some (s.settle cv k m u ran ret)
    | _ => none
  | .imsg k =>
    match (s.conns k).phase, (s.conns k).client.ichan with
    | .select, v :: rest =>
      some (s.setConn k
        { s.conns k with client := serveIMsg { (s.conns k).client with ichan := rest } v, phase := .head })
    | _, _ => none
  | .nilMsg k =>
    match (s.conns k).phase with
    | .select => some (s.setConn k { s.conns k with client := loopHead (s.conns k).client, phase := .head })
    | _ => none
  | .timeout k =>
    match (s.conns k).phase with
    | .select => some (s.setConn k { s.conns k with client := procTimeout (loopHead (s.conns k).client), phase := .head })
    | _ => none
  | .readError k => some (s.setConn k { s.conns k with client := { (s.conns k).client with enable := false } })
  | .leave k =>
    match (s.conns k).phase with
    | .head =>
      if (s.conns k).client.enable then none
      else some { s.setConn k { s.conns k with phase := .closed } with online := leaveOnline s.online (s.conns k).client }
    | _ => none
  | .lookup j =>
    match s.calls j with
    | .idle =>
      some (s.setCall j (match s.online.find id with
        | some c => .sending c
        | none => .loading))
    | _ => none
  | .send j =>
    match s.calls j with
    | .sending c =>
      if (s.conns c).client.ichan.length < 4 then
        some ((s.setConn c { s.conns c with
          client := { (s.conns c).client with ichan := (s.conns c).client.ichan ++ [amount j] } }).setCall j .returned)
      else none
    | _ => none
  | .load j t =>
    match s.calls j with
    | .loading => (User.init.load (s.db.env t) id).map fun user => s.setCall j (.loaded user)
    | _ => none
  | .save j =>
    match s.calls j with
    | .loaded user =>
      let user := user.credited (amount j)
      some { s.setCall j .returned with db := s.db.upsert? (user.store (Env.answering fun _ => .failed)).1 }
    | _ => none

end
end Writers

end Crazyass.Server
