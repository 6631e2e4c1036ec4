import Crazyass.Server.User

/-!
# Request handlers

The six registered handlers of `user.go`. A Go panic is an exception that names
the expression it came from. Only `procUserLogin` reaches beyond its own client
(it asks mongo, reads the clock and enters the client in the registry), so only
it takes an `Env` and an `Online`.
-/

namespace Crazyass.Server
open Go

inductive Panic where
  | procFuncArray
  | stageHeartConfig
  | eventHeartConfig
  | itemHeartConfig
  | eventLock
  | typeAssertion
deriving DecidableEq, Repr

/-- `CLI_PROC_RET_SUCC`, `_ERR` and `_KICK`. -/
inductive ProcRet where
  | succ | err | kick
deriving DecidableEq, Repr

/-! ## Partial operations -/

def Value.assertFloat64 (v : Value) : Except Panic Float64 :=
  match v.float64? with
  | some x => .ok x
  | none => .error .typeAssertion

def Value.assertBool (v : Value) : Except Panic Bool :=
  match v.bool? with
  | some b => .ok b
  | none => .error .typeAssertion

/-- An index expression on a slice of length `len` is in range. -/
def InSlice (i : ℤ) (len : ℕ) : Prop := 0 ≤ i ∧ i < len

instance (i : ℤ) (len : ℕ) : Decidable (InSlice i len) := inferInstanceAs (Decidable (_ ∧ _))

/-- `l[i]`. -/
def index {α : Type} (site : Panic) (l : List α) (i : ℤ) : Except Panic α :=
  if 0 ≤ i then
    match l[i.toNat]? with
    | some a => .ok a
    | none => .error site
  else .error site

/-- `l[i] = a`. -/
def setIndex {α : Type} (site : Panic) (l : List α) (i : ℤ) (a : α) : Except Panic (List α) :=
  if InSlice i l.length then .ok (l.set i.toNat a) else .error site

/-! ## The handlers -/

section
variable {κ : Type} (cv : FloatConv)

namespace Client

def charge (c : Client κ) (price : UInt32) : Client κ := { c with user := c.user.charge price }

def markDirty (c : Client κ) : Client κ := { c with user := c.user.markDirty }

def advance (c : Client κ) : Client κ := { c with user := c.user.advance }

def setEventLock (c : Client κ) (l : List Int64) : Client κ := { c with user := c.user.setEventLock l }

def addHeart (c : Client κ) (heart : Int64) : Client κ := { c with user := c.user.addHeart heart }

/-- `if id > 0 && id <= len(table) { c.UseHeart(int(table[i])) }`: the guard is
on the id, the index is `id - 1` for events and `id` itself for items. -/
def useTable (c : Client κ) (site : Panic) (table : List UInt32) (id : Int64) (i : ℤ) : Except Panic (Client κ) :=
  if 0 < id.toInt ∧ id.toInt ≤ table.length then do
    let price ← index site table i
    .ok (c.charge price)
  else .ok c

/-- The reply of the two play handlers. -/
def replyStage (c : Client κ) : Client κ :=
  (c.reply "Heart" (.uint32 c.user.udb.heart)).reply "Stageid" (.uint32 c.user.udb.nextStage)

end Client

/-- What a handler leaves behind. -/
structure Called (κ : Type) where
  ret : ProcRet
  c : Client κ
  online : Online κ

/-- The end of `ProcUserLogin`: the reply, and the event locks on the way. -/
def Client.replyLogin (c : Client κ) : Client κ :=
  let c := { c with replyMsg := { c.replyMsg with userid := c.msg.userid } }
  let c := c.reply "Heart" (.uint32 c.user.udb.heart)
  let c := c.reply "Stageid" (.uint32 c.user.udb.nextStage)
  let c := c.reply "Panty" (.json (.bool true))
  let c := c.reply "Tapjoy" (.json (.bool true))
  let c := { c with user := c.user.initEventLock }
  c.reply "EventLock" (.ints c.user.udb.eventLock)

def procUserLogin (env : Env) (online : Online κ) (c : Client κ) : Called κ :=
  if c.isLogin then ⟨.succ, c, online⟩
  else
    let c := if c.msg.userid = "" then { c with msg := { c.msg with userid := generateUniqueUserid env } } else c
    match c.login env c.msg.userid with
    | (c, false) => ⟨.kick, c, online⟩
    -- the error of InsertOnline is dropped
    | (c, true) => ⟨.succ, c.replyLogin, (online.insert c.msg.userid c.self).1⟩

def procIAPAddHeart (c : Client κ) : Except Panic (ProcRet × Client κ) :=
  match c.msg.body "addheart" with
  | none => .ok (.err, c.setErrCode kErrInvalidProto)
  | some addheart => do
    let x ← addheart.assertFloat64
    let c := (c.addHeart (cv.int x)).markDirty
    .ok (.succ, c.reply "Heart" (.uint32 c.user.udb.heart))

def procStartPlay (c : Client κ) : Except Panic (ProcRet × Client κ) :=
  match c.msg.body "stageid" with
  | none => .ok (.err, c.setErrCode kErrInvalidProto)
  | some stageid => do
    let x ← stageid.assertFloat64
    let sid := cv.uint32 x
    if sid > c.user.udb.nextStage ∨ sid = 0 then .ok (.err, c.setErrCode kErrInvalidParamters)
    else
      let price ← index .stageHeartConfig stageHeartConfig (sid - 1).toNat
      if c.user.udb.heart < price then .ok (.err, c.setErrCode kErrHeartNotEnough)
      else .ok (.succ, (c.charge price).markDirty.replyStage)

def procEndPlay (c : Client κ) : Except Panic (ProcRet × Client κ) :=
  match c.msg.body "stageid" with
  | none => .ok (.err, c.setErrCode kErrInvalidProto)
  | some stageid => do
    let x ← stageid.assertFloat64
    let sid := cv.uint32 x
    if sid > c.user.udb.nextStage then .ok (.err, c.setErrCode kErrInvalidParamters)
    else if sid = c.user.udb.nextStage then
      match c.msg.body "pass" with
      | none => .ok (.err, c.setErrCode kErrInvalidProto)
      | some pass => do
        let pass ← pass.assertBool
        if pass then .ok (.succ, c.advance.markDirty.replyStage)
        else .ok (.succ, c.replyStage)
    else .ok (.succ, c.replyStage)

def procEventLock (c : Client κ) : Except Panic (ProcRet × Client κ) :=
  match c.msg.body "stageid" with
  | none => .ok (.err, c.setErrCode kErrInvalidProto)
  | some stageid =>
    match c.msg.body "eventid" with
    | none => .ok (.err, c.setErrCode kErrInvalidProto)
    | some eventid => do
      -- unlock
      let x ← stageid.assertFloat64
      let y ← eventid.assertFloat64
      let sid := cv.int x
      let eid := cv.int y
      let lock ← setIndex .eventLock c.user.udb.eventLock (sid - 1).toInt eid
      let c := c.setEventLock lock
      -- use heart
      let c ← c.useTable .eventHeartConfig eventHeartConfig sid (sid - 1).toInt
      let c := c.markDirty
      .ok (.succ, ((c.reply "Heart" (.uint32 c.user.udb.heart)).reply "Stageid" (.int sid)).reply "Eventid" (.int eid))

def procUseItem (c : Client κ) : Except Panic (ProcRet × Client κ) :=
  match c.msg.body "itemid" with
  | none => .ok (.err, c.setErrCode kErrInvalidProto)
  | some itemid => do
    let x ← itemid.assertFloat64
    let iid := cv.int x
    -- use heart
    let c ← c.useTable .itemHeartConfig itemHeartConfig iid iid.toInt
    let c := c.markDirty
    .ok (.succ, c.reply "Heart" (.uint32 c.user.udb.heart))

end

end Crazyass.Server
