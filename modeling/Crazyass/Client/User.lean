import Crazyass.Server.Message
import Crazyass.Server.Handlers

/-!
# The client's user and the scenes that fill it

`RemoteUser` of `user.cpp`, the requests the scenes write (`CSJson` writes the
fields of an object in the order of their names), and the four `CARecv` that
read the replies into the user. What they do besides, to the screen and to the
scene, is left out.
-/

namespace Crazyass.Client
open Go Server

/-! ## Reading JSON -/

/-- The integer that the server's encoder writes for a value. -/
def integer? : Value → Option ℤ
  | .uint32 n => some n.toNat
  | .int n => some n.toInt
  | .json (.num x) => if x.val.den = 1 then some x.val.num else none
  | _ => none

/-- The library `CSJson`, as far as `asInt` goes: it returns an integer that is
an `int`. For other values nothing is assumed, and it may throw. -/
structure CSJson where
  asInt : Value → Option Int32
  asInt_fits : ∀ v n, integer? v = some n → -2 ^ 31 ≤ n → n < 2 ^ 31 → asInt v = some (Int32.ofInt n)

/-- `get(key, default).asInt()`. -/
def CSJson.get (cs : CSJson) (body : Body) (key : String) (default : Int32) : Option Int32 :=
  match body key with
  | some v => cs.asInt v
  | none => some default

/-- `asInt` of a number in a field of the reply itself. -/
def CSJson.field (cs : CSJson) (x : Float64) : Option Int32 := cs.asInt (.json (.num x))

/-- The elements of an array; other values have size 0. -/
def elements : Option Value → List Value
  | some (.ints l) => l.map .int
  | some (.json (.arr items)) => items.map .json
  | _ => []

/-! ## `RemoteUser` -/

/-- `event_lock_` is an array of ten. -/
structure RemoteUser where
  stageid : Int32
  heart : Int32
  userid : String
  eventLock : List Int32
  ten : eventLock.length = 10

namespace RemoteUser

/-- `EventLock`. -/
def lock? (u : RemoteUser) (stageid : Int32) : Option Int32 :=
  if 0 ≤ (stageid - 1).toInt then u.eventLock[(stageid - 1).toInt.toNat]? else none

/-- `set_eventlock`; none is a write outside the array. -/
def setEventlock (u : RemoteUser) (stageid lock : Int32) : Option RemoteUser :=
  if InSlice (stageid - 1).toInt 10 then
    some { u with eventLock := u.eventLock.set (stageid - 1).toInt.toNat lock, ten := by rw [List.length_set, u.ten] }
  else none

/-- The loop of `StartScene::CARecv` from index `i` on. -/
def setEventlocks (cs : CSJson) (u : RemoteUser) (i : ℕ) : List Value → Option RemoteUser
  | [] => some u
  | v :: vs => do
    let lock ← cs.asInt v
    let u ← u.setEventlock (Int32.ofNat (i + 1)) lock
    setEventlocks cs u (i + 1) vs

end RemoteUser

/-! ## Requests -/

/-- A stage as the scenes number them. -/
structure Stage where
  id : Int32
  inside : 1 ≤ id.toInt ∧ id.toInt ≤ 6

/-- What makes a scene send a request. -/
inductive Press where
  /-- `StartScene::CARecvDone`, once the connection is open. -/
  | login
  /-- `GameScene::onBtnPlay`. -/
  | play (stage : Stage)
  /-- `PlayScene::SendEndPlay`. -/
  | endPlay (stage : Stage) (pass : Bool)
  /-- `EventScene::onBtnYes`. -/
  | unlock (stage : Stage)
  /-- `PlayScene::onUseFinger`. -/
  | useFinger
  /-- `PlayScene::onUseReplay`. -/
  | useReplay (stage : Stage)

/-- The number of an `int`. -/
def numOf (n : Int32) : Float64 := .ofInt n.toInt (by have := n.toInt_lt; have := n.le_toInt; rw [abs_lt]; omega)

def Json.int (n : Int32) : Json := .num (numOf n)

/-- The object a scene writes, with the `seq` that the delegate puts into it. -/
def requestPacket (cmd : UInt32) (u : RemoteUser) (seq : Int32) (body : List (String × Json)) : Json :=
  .obj [("Body", .obj body), ("cmd", .num (.ofUInt32 cmd)), ("seq", Json.int seq), ("userid", .str u.userid)]

/-- `need_arry`. -/
def needArry : List Int32 := [2, 3, 4, 5, 6, 7]

def itemFinger : Int32 := 7

/-- The request, if the scene sends one: two of them look at the user's hearts first. -/
def Press.packet (u : RemoteUser) (seq : Int32) : Press → Option Json
  | .login =>
    some (.obj [("cmd", .num (.ofUInt32 1)), ("seq", Json.int seq), ("userid", .str u.userid),
      ("version", Json.int 0x010000)])
  | .play stage => do
    let need ← needArry[(stage.id - 1).toInt.toNat]?
    if u.heart < need then none
    else some (requestPacket 2 u seq [("stageid", Json.int stage.id)])
  | .endPlay stage pass => some (requestPacket 3 u seq [("pass", .bool pass), ("stageid", Json.int stage.id)])
  | .unlock stage =>
    if 12 ≤ u.heart then do
      let lock ← u.lock? stage.id
      some (requestPacket 5 u seq [("eventid", Json.int (lock + 1)), ("stageid", Json.int stage.id)])
    else none
  | .useFinger => some (requestPacket 6 u seq [("itemid", Json.int itemFinger)])
  | .useReplay stage => some (requestPacket 6 u seq [("itemid", Json.int stage.id)])

/-! ## Replies -/

section
variable (cs : CSJson)

def RemoteUser.readHeart (u : RemoteUser) (body : Body) : Option RemoteUser := do
  let heart ← cs.get body "Heart" 0
  some { u with heart }

def RemoteUser.readStageid (u : RemoteUser) (body : Body) : Option RemoteUser := do
  let stageid ← cs.get body "Stageid" 1
  some { u with stageid }

/-- `StartScene::CARecv`. -/
def startRecv (u : RemoteUser) (result : Msg) : Option RemoteUser := do
  let errCode ← cs.field result.errCode
  if errCode = 0 then
    let u ← u.readHeart cs result.body
    let u ← u.readStageid cs result.body
    let u ← u.setEventlocks cs 0 (elements (result.body "EventLock"))
    some (if u.userid = "" then { u with userid := result.userid } else u)
  else some u

/-- `GameScene::CARecv`. -/
def gameRecv (u : RemoteUser) (result : Msg) : Option RemoteUser := do
  let errCode ← cs.field result.errCode
  if errCode = 0 then
    let u ← u.readHeart cs result.body
    u.readStageid cs result.body
  else some u

/-- `EventScene::CARecv`. -/
def eventRecv (u : RemoteUser) (result : Msg) : Option RemoteUser := do
  let errCode ← cs.field result.errCode
  if errCode = 0 then
    let u ← u.readHeart cs result.body
    let stageid ← cs.get result.body "Stageid" 1
    let lock ← cs.get result.body "Eventid" 1
    u.setEventlock stageid lock
  else some u

/-- `PlayScene::CARecv`. -/
def playRecv (u : RemoteUser) (result : Msg) : Option RemoteUser := do
  let errCode ← cs.field result.errCode
  if errCode ≠ 0 then some u
  else
    let cmd ← cs.field result.cmd
    if cmd = 3 then
      let u ← u.readHeart cs result.body
      u.readStageid cs result.body
    else if cmd = 6 then u.readHeart cs result.body
    else some u

/-- The `CARecv` of the scene that sent the request. -/
def Press.recv (u : RemoteUser) (result : Msg) : Press → Option RemoteUser
  | .login => startRecv cs u result
  | .play _ => gameRecv cs u result
  | .unlock _ => eventRecv cs u result
  | .endPlay _ _ | .useFinger | .useReplay _ => playRecv cs u result

end

/-! ## What the operations do -/

theorem Stage.pred (stage : Stage) : (stage.id - 1).toInt = stage.id.toInt - 1 := by
  have lo := stage.inside.1
  have hi := stage.inside.2
  rw [Int32.toInt_sub]
  change (stage.id.toInt - 1).bmod (2 ^ 32) = _
  exact Int.bmod_eq_of_le (by omega) (by omega)

variable {cs : CSJson} {u : RemoteUser}

theorem asInt_uint32 {n : UInt32} (fits : n.toNat < 2 ^ 31) : cs.asInt (.uint32 n) = some (Int32.ofNat n.toNat) := by
  rw [cs.asInt_fits _ n.toNat rfl (by omega) (by omega)]
  rfl

theorem asInt_int {n : Int64} (lo : -2 ^ 31 ≤ n.toInt) (hi : n.toInt < 2 ^ 31) :
    cs.asInt (.int n) = some (Int32.ofInt n.toInt) :=
  cs.asInt_fits _ n.toInt rfl lo hi

theorem field_ofUInt32 (cs : CSJson) {n : UInt32} (fits : n.toNat < 2 ^ 31) :
    cs.field (.ofUInt32 n) = some (Int32.ofNat n.toNat) := by
  have whole : integer? (.json (.num (.ofUInt32 n))) = some (n.toNat : ℤ) := by simp [integer?]
  rw [CSJson.field, cs.asInt_fits _ _ whole (by omega) (by omega)]
  rfl

end Crazyass.Client
