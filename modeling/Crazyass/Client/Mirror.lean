import Crazyass.Client.User
import Crazyass.Server.Panics
import Crazyass.Server.Reply
import Crazyass.Sys.Run

/-!
# The client's copy of the account

A connection seen from both ends: the scenes send requests, the server serves
them one at a time, and the scene that sent one reads the reply into the
client's user. The contract is that after a reply with `ErrCode` 0 the hearts,
the stage and the event locks of that user are the account's.

The scenes read absent entries as defaults, and the server leaves the body
empty where it answers a request without serving it, still with `ErrCode` 0.
-/

namespace Crazyass.Client
open Go Server Sys

/-- The client's user has the values of the account. -/
structure Mirrors (u : RemoteUser) (d : UserDb) : Prop where
  heart : u.heart.toInt = d.heart.toNat
  stageid : u.stageid.toInt = d.nextStage.toNat
  inside : d.eventLock.length ≤ 10
  locks : ∀ (i : ℕ) (l : Int64), d.eventLock[i]? = some l → ∃ x : Int32, u.eventLock[i]? = some x ∧ x.toInt = l.toInt

/-- Both ends; there is no user once a `CARecv` has not returned. -/
structure Pair (κ : Type) where
  client : Client κ
  user : Option RemoteUser

/-- One request and its reply. -/
structure Exchange (κ : Type) where
  env : Env
  online : Online κ
  press : Press
  seq : Int32

/-! ## Requests as the server reads them -/

def Press.cmd : Press → UInt32
  | .login => 1
  | .play _ => 2
  | .endPlay _ _ => 3
  | .unlock _ => 5
  | .useFinger | .useReplay _ => 6

/-- The handler the request is meant for. -/
def Press.handler : Press → Handler
  | .login => .userLogin
  | .play _ => .startPlay
  | .endPlay _ _ => .endPlay
  | .unlock _ => .eventLock
  | .useFinger | .useReplay _ => .useItem

def Press.item? : Press → Option Int32
  | .useFinger => some itemFinger
  | .useReplay stage => some stage.id
  | _ => none

/-- What the message read from the packet of a scene tells the handlers. -/
def Asked (u : RemoteUser) (m : Msg) : Press → Prop
  | .login => True
  | .play stage => m.body "stageid" = some (.json (Json.int stage.id))
  | .endPlay stage pass =>
    m.body "stageid" = some (.json (Json.int stage.id)) ∧ m.body "pass" = some (.json (.bool pass))
  | .unlock stage => 12 ≤ u.heart ∧ ∃ lock, u.lock? stage.id = some lock ∧
      m.body "stageid" = some (.json (Json.int stage.id)) ∧ m.body "eventid" = some (.json (Json.int (lock + 1)))
  | .useFinger => m.body "itemid" = some (.json (Json.int itemFinger))
  | .useReplay stage => m.body "itemid" = some (.json (Json.int stage.id))

section
variable {c : Msg} {u : RemoteUser} {seq : Int32}

theorem fieldOf_keys : fieldOf "Body" = some .body ∧ fieldOf "cmd" = some .cmd ∧ fieldOf "seq" = some .seq ∧
    fieldOf "userid" = some .userid ∧ fieldOf "version" = none := by decide

/-- A packet that a scene writes is read back, whatever the cell had. -/
theorem readPacket_request (cmd : UInt32) (body : List (String × Json)) :
    readPacket c (requestPacket cmd u seq body) =
      some { c with
        cmd := .ofUInt32 cmd
        seq := numOf seq
        userid := u.userid
        body := decodeEntries c.body body } := by
  obtain ⟨body_key, cmd_key, seq_key, userid_key, -⟩ := fieldOf_keys
  simp [readPacket, requestPacket, unmarshal, decodeFields, decodeField, body_key, cmd_key, seq_key, userid_key, Json.int]

theorem readPacket_login {p : Json} (h : Press.login.packet u seq = some p) :
    readPacket c p =
      some { c with
        cmd := .ofUInt32 1
        seq := numOf seq
        userid := u.userid } := by
  cases h
  obtain ⟨-, cmd_key, seq_key, userid_key, version_key⟩ := fieldOf_keys
  simp [readPacket, unmarshal, decodeFields, decodeField, cmd_key, seq_key, userid_key, version_key, Json.int]

/-- **The packets are read as they are meant.** -/
theorem packet_read {press : Press} {p : Json} (h : press.packet u seq = some p) :
    ∃ m, readPacket c p = some m ∧ m.cmd = .ofUInt32 press.cmd ∧ m.userid = u.userid ∧ Asked u m press := by
  cases press with
  | login =>
    exact ⟨_, readPacket_login h, rfl, rfl, trivial⟩
  | play stage =>
    obtain ⟨need, -, sent⟩ := Option.bind_eq_some_iff.1 h
    split at sent
    · cases sent
    · cases sent
      exact ⟨_, readPacket_request _ _, rfl, rfl, by simp [Asked, decodeEntries]⟩
  | endPlay stage pass =>
    cases h
    exact ⟨_, readPacket_request _ _, rfl, rfl, by simp [Asked, decodeEntries]⟩
  | unlock stage =>
    simp only [Press.packet] at h
    split at h
    · next enough =>
      obtain ⟨lock, found, sent⟩ := Option.bind_eq_some_iff.1 h
      cases sent
      refine ⟨_, readPacket_request _ _, rfl, rfl, enough, lock, found, ?_, ?_⟩
      · simp [decodeEntries]
      · simp [decodeEntries]
    · cases h
  | useFinger =>
    cases h
    exact ⟨_, readPacket_request _ _, rfl, rfl, by simp [Asked, decodeEntries]⟩
  | useReplay stage =>
    cases h
    exact ⟨_, readPacket_request _ _, rfl, rfl, by simp [Asked, decodeEntries]⟩

theorem handler_login (press : Press) : press.handler = .userLogin ↔ press.cmd = 1 := by
  cases press <;> simp [Press.cmd, Press.handler]

/-- The handler that the dispatcher picks for a scene's request. -/
theorem chosen_press (cv : FloatConv) {m : Msg} {press : Press} (v : User) (cmd : m.cmd = .ofUInt32 press.cmd) :
    chosen cv m v = if v.ready = false ∧ press.handler ≠ .userLogin then none else some press.handler := by
  have gate : m.cmd = kCmdUserLogin ↔ press.handler = .userLogin := by
    rw [cmd, kCmdUserLogin, handler_login]
    exact ⟨Float64.ofUInt32_inj, congrArg _⟩
  have entry : procFuncArray[(cv.int m.cmd).toInt.toNat]?.join = some press.handler := by
    rw [lookup_of_cmd cmd, procFuncArray_eq]
    cases press <;> rfl
  unfold chosen
  simp only [ne_eq, gate, entry]

end

/-! ## Replies as the scenes read them -/

section
variable {cs : CSJson} {u v : RemoteUser} {d e : UserDb}

@[simp] theorem field_zero : cs.field 0 = some 0 := field_ofUInt32 cs (n := 0) (by decide)

theorem Mirrors.heart_lt (mirrors : Mirrors u d) : d.heart.toNat < 2 ^ 31 := by
  have lt := u.heart.toInt_lt
  have eq := mirrors.heart
  omega

theorem Mirrors.nextStage_lt (mirrors : Mirrors u d) : d.nextStage.toNat < 2 ^ 31 := by
  have lt := u.stageid.toInt_lt
  have eq := mirrors.stageid
  omega

/-- The parts of the copy that a scene does not read are as before. -/
theorem Mirrors.keep (mirrors : Mirrors u d) (locks : e.eventLock = d.eventLock) (same : v.eventLock = u.eventLock)
    (heart : v.heart.toInt = e.heart.toNat) (stageid : v.stageid.toInt = e.nextStage.toNat) : Mirrors v e := by
  refine ⟨heart, stageid, ?_, ?_⟩
  · rw [locks]
    exact mirrors.inside
  · rw [locks, same]
    exact mirrors.locks

theorem readHeart_fits {b : Body} {n : UInt32} (found : b "Heart" = some (.uint32 n)) (fits : n.toNat < 2 ^ 31) :
    u.readHeart cs b = some { u with heart := Int32.ofNat n.toNat } := by
  unfold RemoteUser.readHeart CSJson.get
  simp only [found, asInt_uint32 fits]
  rfl

theorem readHeart_absent {b : Body} (absent : b "Heart" = none) : u.readHeart cs b = some { u with heart := 0 } := by
  unfold RemoteUser.readHeart CSJson.get
  simp only [absent]
  rfl

theorem readStageid_fits {b : Body} {n : UInt32} (found : b "Stageid" = some (.uint32 n)) (fits : n.toNat < 2 ^ 31) :
    u.readStageid cs b = some { u with stageid := Int32.ofNat n.toNat } := by
  unfold RemoteUser.readStageid CSJson.get
  simp only [found, asInt_uint32 fits]
  rfl

theorem readStageid_absent {b : Body} (absent : b "Stageid" = none) : u.readStageid cs b = some { u with stageid := 1 } := by
  unfold RemoteUser.readStageid CSJson.get
  simp only [absent]
  rfl

theorem ofNat_toInt {n : ℕ} (fits : n < 2 ^ 31) : (Int32.ofNat n).toInt = n := Int32.toInt_ofNat_of_lt fits

/-- The part of `CARecv` that two scenes share. -/
theorem read_stage {b : Body} (heart : b "Heart" = some (.uint32 e.heart)) (stage : b "Stageid" = some (.uint32 e.nextStage))
    (mirrors : Mirrors u d) (locks : e.eventLock = d.eventLock) (heart_lt : e.heart.toNat < 2 ^ 31)
    (stage_lt : e.nextStage.toNat < 2 ^ 31) :
    ∃ v, (u.readHeart cs b >>= fun u => u.readStageid cs b) = some v ∧ Mirrors v e := by
  refine ⟨{ u with heart := Int32.ofNat e.heart.toNat, stageid := Int32.ofNat e.nextStage.toNat }, ?_, ?_⟩
  · rw [readHeart_fits heart heart_lt, Option.bind_eq_bind, Option.bind_some, readStageid_fits stage stage_lt]
  · exact mirrors.keep locks rfl (ofNat_toInt heart_lt) (ofNat_toInt stage_lt)

/-! ### Event locks -/

theorem ofNat_pred {i : ℕ} (small : i < 10) : (Int32.ofNat (i + 1) - 1).toInt = i := by
  have pred : Int32.ofNat (i + 1) - 1 = Int32.ofNat i := by
    rw [Int32.ofNat_add]
    exact Int32.add_sub_cancel _ _
  rw [pred, ofNat_toInt (by omega)]

/-- An account that fits the client's types. -/
structure Fits (d : UserDb) : Prop where
  heart : d.heart.toNat < 2 ^ 31
  nextStage : d.nextStage.toNat < 2 ^ 31
  inside : d.eventLock.length ≤ 10
  locks : ∀ l ∈ d.eventLock, -2 ^ 31 ≤ l.toInt ∧ l.toInt < 2 ^ 31

/-- Only such an account has a copy. -/
theorem Mirrors.fits (mirrors : Mirrors u d) : Fits d where
  heart := mirrors.heart_lt
  nextStage := mirrors.nextStage_lt
  inside := mirrors.inside
  locks l hl := by
    obtain ⟨i, found⟩ := List.mem_iff_getElem?.1 hl
    obtain ⟨x, -, same⟩ := mirrors.locks i l found
    exact ⟨same ▸ x.le_toInt, same ▸ x.toInt_lt⟩

/-- The loop over the event locks, from index `i` on. -/
theorem setEventlocks_fits (cs : CSJson) {l : List Int64} {i : ℕ} (inside : i + l.length ≤ 10)
    (fits : ∀ x ∈ l, -2 ^ 31 ≤ x.toInt ∧ x.toInt < 2 ^ 31) :
    ∃ v, u.setEventlocks cs i (l.map .int) = some v ∧ v.heart = u.heart ∧ v.stageid = u.stageid ∧
      (∀ j < i, v.eventLock[j]? = u.eventLock[j]?) ∧
      ∀ (j : ℕ) (x : Int64), l[j]? = some x → ∃ y : Int32, v.eventLock[i + j]? = some y ∧ y.toInt = x.toInt := by
  induction l generalizing u i with
  | nil => exact ⟨u, rfl, rfl, rfl, fun _ _ => rfl, fun j x found => by simp at found⟩
  | cons x xs ih =>
    obtain ⟨lo, hi⟩ := fits x (by simp)
    have small : i < 10 := by simp only [List.length_cons] at inside; omega
    have slot : InSlice (Int32.ofNat (i + 1) - 1).toInt 10 := by
      rw [ofNat_pred small]
      exact ⟨by omega, by omega⟩
    have at_i : (Int32.ofNat (i + 1) - 1).toInt.toNat = i := by rw [ofNat_pred small, Int.toNat_natCast]
    let w : RemoteUser :=
      { u with
        eventLock := u.eventLock.set (Int32.ofNat (i + 1) - 1).toInt.toNat (Int32.ofInt x.toInt)
        ten := by rw [List.length_set, u.ten] }
    have set : u.setEventlock (Int32.ofNat (i + 1)) (Int32.ofInt x.toInt) = some w := if_pos slot
    obtain ⟨v, run, heart, stageid, before, after⟩ :=
      ih (u := w) (i := i + 1) (by simp only [List.length_cons] at inside; omega) fun y hy => fits y (by simp [hy])
    refine ⟨v, ?_, heart, stageid, ?_, ?_⟩
    · rw [List.map_cons, RemoteUser.setEventlocks, asInt_int lo hi]
      exact (congrArg (fun o : Option RemoteUser => o >>= fun u => u.setEventlocks cs (i + 1) (xs.map .int)) set).trans run
    · intro j lt
      rw [before j (by omega)]
      exact List.getElem?_set_ne (by omega)
    · intro j y found
      cases j with
      | zero =>
        cases found
        refine ⟨Int32.ofInt x.toInt, ?_, Int32.toInt_ofInt_of_le lo hi⟩
        rw [Nat.add_zero, before i (by omega)]
        change (u.eventLock.set _ _)[i]? = _
        rw [at_i, List.getElem?_set_self (by rw [u.ten]; omega)]
      | succ j =>
        obtain ⟨z, there, same⟩ := after j y found
        exact ⟨z, by rw [← there]; congr 1; omega, same⟩

/-! ### Replies without a body -/

/-- The account has the values that the scene takes for absent entries. -/
def Defaults (d : UserDb) : Press → Prop
  | .login | .play _ | .endPlay _ _ => d.heart = 0 ∧ d.nextStage = 1
  | .unlock _ => d.heart = 0 ∧ ∀ l, d.eventLock[0]? = some l → l = 1
  | .useFinger | .useReplay _ => d.heart = 0

theorem heart_zero : (0 : Int32).toInt = d.heart.toNat ↔ d.heart = 0 := by
  rw [← UInt32.toNat_inj, show (0 : Int32).toInt = 0 from rfl]
  exact ⟨fun h => by rw [UInt32.toNat_zero]; omega, fun h => by rw [h]; rfl⟩

theorem stage_one : (1 : Int32).toInt = d.nextStage.toNat ↔ d.nextStage = 1 := by
  rw [← UInt32.toNat_inj, show (1 : Int32).toInt = 1 from rfl]
  exact ⟨fun h => by rw [UInt32.toNat_one]; omega, fun h => by rw [h]; rfl⟩

theorem mirrors_defaults (mirrors : Mirrors u d) (heart : v.heart = 0) (stageid : v.stageid = 1)
    (same : v.eventLock = u.eventLock) : Mirrors v d ↔ d.heart = 0 ∧ d.nextStage = 1 := by
  rw [← heart_zero, ← stage_one, ← heart, ← stageid]
  exact ⟨fun copy => ⟨copy.heart, copy.stageid⟩, fun h => mirrors.keep rfl same h.1 h.2⟩

/-- `StartScene` reads its defaults from an empty body. -/
theorem startRecv_silent (cs : CSJson) {reply : Msg} (zero : reply.errCode = 0) (empty : reply.body = fun _ => none) :
    ∃ v, startRecv cs u reply = some v ∧ v.heart = 0 ∧ v.stageid = 1 ∧ v.eventLock = u.eventLock := by
  unfold startRecv
  simp only [zero, field_zero, empty, Option.bind_eq_bind, Option.bind_some, if_true, elements, RemoteUser.setEventlocks,
    readHeart_absent (b := fun _ => none) rfl, readStageid_absent (b := fun _ => none) rfl]
  refine ⟨_, rfl, ?_⟩
  split <;> exact ⟨rfl, rfl, rfl⟩

theorem mirrors_first (mirrors : Mirrors u d) :
    Mirrors { u with heart := 0, eventLock := u.eventLock.set 0 1, ten := by rw [List.length_set, u.ten] } d ↔
      d.heart = 0 ∧ ∀ l, d.eventLock[0]? = some l → l = 1 := by
  have first : (u.eventLock.set 0 1)[0]? = some 1 := List.getElem?_set_self (by rw [u.ten]; decide)
  constructor
  · intro copy
    refine ⟨heart_zero.1 copy.heart, fun l found => ?_⟩
    obtain ⟨x, there, same⟩ := copy.locks 0 l found
    cases first.symm.trans there
    exact Int64.toInt_inj.1 same.symm
  · rintro ⟨heart, lock⟩
    refine ⟨heart_zero.2 heart, mirrors.stageid, mirrors.inside, fun i l found => ?_⟩
    cases i with
    | zero => exact ⟨1, first, by rw [lock l found]; rfl⟩
    | succ i =>
      obtain ⟨x, there, same⟩ := mirrors.locks (i + 1) l found
      exact ⟨x, by rw [← there]; exact List.getElem?_set_ne (by omega), same⟩

theorem read_silent (cs : CSJson) (u : RemoteUser) : (u.readHeart cs (fun _ => none) >>= fun u => u.readStageid cs fun _ => none) =
    some { u with heart := 0, stageid := 1 } := by
  rw [readHeart_absent rfl, Option.bind_eq_bind, Option.bind_some, readStageid_absent rfl]

theorem playRecv_end {reply : Msg} (zero : reply.errCode = 0) (cmd : reply.cmd = .ofUInt32 3) :
    playRecv cs u reply = (u.readHeart cs reply.body >>= fun u => u.readStageid cs reply.body) := by
  have three := field_ofUInt32 cs (n := 3) (by decide)
  rw [playRecv, zero, field_zero, cmd, three]
  rfl

theorem playRecv_item {reply : Msg} (zero : reply.errCode = 0) (cmd : reply.cmd = .ofUInt32 6) :
    playRecv cs u reply = u.readHeart cs reply.body := by
  have six := field_ofUInt32 cs (n := 6) (by decide)
  rw [playRecv, zero, field_zero, cmd, six]
  rfl

theorem some_and_iff {v : RemoteUser} {P : RemoteUser → Prop} : (∃ w, some v = some w ∧ P w) ↔ P v := by
  simp

/-- The reply to an item, without a body. -/
theorem item_silent {reply : Msg} (zero : reply.errCode = 0) (cmd : reply.cmd = .ofUInt32 6)
    (empty : reply.body = fun _ => none) (mirrors : Mirrors u d) :
    (∃ v, playRecv cs u reply = some v ∧ Mirrors v d) ↔ d.heart = 0 := by
  rw [playRecv_item zero cmd, empty, readHeart_absent rfl, some_and_iff]
  exact ⟨fun copy => heart_zero.1 copy.heart, fun h => mirrors.keep rfl rfl (heart_zero.2 h) mirrors.stageid⟩

/-- **What an empty body does to the copy**, under `ErrCode` 0. -/
theorem recv_silent {press : Press} {reply : Msg} (zero : reply.errCode = 0) (empty : reply.body = fun _ => none)
    (cmd : reply.cmd = .ofUInt32 press.cmd) (mirrors : Mirrors u d) :
    (∃ v, press.recv cs u reply = some v ∧ Mirrors v d) ↔ Defaults d press := by
  cases press with
  | login =>
    obtain ⟨w, recv, heart, stageid, same⟩ := startRecv_silent cs (u := u) zero empty
    rw [Press.recv, recv, some_and_iff]
    exact mirrors_defaults mirrors heart stageid same
  | play stage =>
    have recv : gameRecv cs u reply = some { u with heart := 0, stageid := 1 } := by
      rw [gameRecv, zero, field_zero, empty]
      exact read_silent cs u
    rw [Press.recv, recv, some_and_iff]
    exact mirrors_defaults mirrors rfl rfl rfl
  | endPlay stage pass =>
    have recv : playRecv cs u reply = some { u with heart := 0, stageid := 1 } := by
      rw [playRecv_end zero cmd, empty]
      exact read_silent cs u
    rw [Press.recv, recv, some_and_iff]
    exact mirrors_defaults mirrors rfl rfl rfl
  | unlock stage =>
    have recv : eventRecv cs u reply =
        some { u with heart := 0, eventLock := u.eventLock.set 0 1, ten := by rw [List.length_set, u.ten] } := by
      rw [eventRecv, zero, field_zero, empty]
      rfl
    rw [Press.recv, recv, some_and_iff]
    exact mirrors_first mirrors
  | useFinger => exact item_silent zero cmd empty mirrors
  | useReplay stage => exact item_silent zero cmd empty mirrors

/-! ### Replies of the handlers -/

/-- The number a scene wrote is the one a handler reads. -/
theorem asked_num {m : Msg} {key : String} {n : Int32} {x : Float64} (asked : m.body key = some (.json (Json.int n)))
    (read : m.body key = some (.json (.num x))) : x.val = n.toInt := by
  cases asked.symm.trans read
  rfl

theorem int_asked (cv : FloatConv) {n : Int32} {x : Float64} (same : x.val = n.toInt) : cv.int x = n.toInt64 := by
  have whole := Float64.trunc_intCast same
  have lo := n.le_toInt
  have hi := n.toInt_lt
  rw [← Int64.toInt_inj, Int32.toInt_toInt64, cv.int_trunc x (by omega) (by omega), whole]

theorem uint32_asked (cv : FloatConv) {n : Int32} {x : Float64} (same : x.val = n.toInt) (pos : 0 ≤ n.toInt) :
    ((cv.uint32 x).toNat : ℤ) = n.toInt := by
  have whole := Float64.trunc_intCast same
  have hi := n.toInt_lt
  rw [cv.uint32_trunc x (by omega) (by omega), whole]

theorem sub_toNat {h p : UInt32} (le : p ≤ h) : (h - p).toNat = h.toNat - p.toNat := UInt32.toNat_sub_of_le _ _ le

theorem sub_lt {h p : UInt32} (le : p ≤ h) (lt : h.toNat < 2 ^ 31) : (h - p).toNat < 2 ^ 31 := by
  rw [sub_toNat le]
  omega

theorem itemPrice_le (i : Int64) : ((itemPrice i).getD 0).toNat ≤ 8 := by
  have table : ∀ p ∈ itemHeartConfig, p.toNat ≤ 8 := by
    unfold itemHeartConfig
    simp
  unfold itemPrice tablePrice
  split
  · cases entry : itemHeartConfig[i.toInt.toNat]? with
    | none => decide
    | some p => exact table p (List.mem_of_getElem? entry)
  · decide

/-- A charge leaves an amount that the client can read exactly when the account
covers it. -/
theorem charge_lt_iff {h p : UInt32} (small : p.toNat ≤ 8) (lt : h.toNat < 2 ^ 31) :
    (h - p).toNat < 2 ^ 31 ↔ p ≤ h := by
  constructor
  · intro readable
    rw [UInt32.le_iff_toNat_le]
    by_contra short
    rw [UInt32.toNat_sub] at readable
    omega
  · exact fun le => sub_lt le lt

section
variable {cv : FloatConv} {m reply : Msg} {user after : User} {entries : List (String × Value)}

/-- A start of a play that is served leaves the two sides equal. -/
theorem play_served (served : Served cv m user .startPlay after) (fills : Fills cv m after .startPlay entries)
    (body : reply.body = bodyOf entries) (mirrors : Mirrors u user.udb) :
    ∃ v, (u.readHeart cs reply.body >>= fun u => u.readStageid cs reply.body) = some v ∧ Mirrors v after.udb := by
  cases fills
  rw [body]
  cases served with
  | startPlay x price stageid admitted priced enough =>
    have heart : (user.charge price).markDirty.udb.heart = user.udb.heart - price := by simp [User.markDirty]
    refine read_stage rfl rfl mirrors ?_ ?_ ?_
    · simp [User.markDirty]
    · rw [heart]
      exact sub_lt enough mirrors.heart_lt
    · simpa [User.markDirty] using mirrors.nextStage_lt

/-- The end of a play that is served leaves the two sides equal. -/
theorem endPlay_served {stage : Stage} (asked : m.body "stageid" = some (.json (Json.int stage.id)))
    (served : Served cv m user .endPlay after) (fills : Fills cv m after .endPlay entries)
    (body : reply.body = bodyOf entries) (mirrors : Mirrors u user.udb) :
    ∃ v, (u.readHeart cs reply.body >>= fun u => u.readStageid cs reply.body) = some v ∧ Mirrors v after.udb := by
  cases fills
  rw [body]
  cases served with
  | played x stageid stays => exact read_stage rfl rfl mirrors rfl mirrors.heart_lt mirrors.nextStage_lt
  | passed x stageid pass top =>
    have lo := stage.inside.1
    have hi := stage.inside.2
    have sid := uint32_asked cv (asked_num asked stageid) (by omega)
    rw [top] at sid
    have next : (user.udb.nextStage + 1).toNat < 2 ^ 31 := by
      rw [UInt32.toNat_add, show (1 : UInt32).toNat = 1 from rfl]
      omega
    exact read_stage rfl rfl mirrors rfl mirrors.heart_lt next

/-- An item that is served leaves them equal exactly when the hearts cover its price. -/
theorem useItem_served {n : Int32} (asked : m.body "itemid" = some (.json (Json.int n)))
    (served : Served cv m user .useItem after) (fills : Fills cv m after .useItem entries)
    (body : reply.body = bodyOf entries) (mirrors : Mirrors u user.udb) :
    (∃ v, u.readHeart cs reply.body = some v ∧ Mirrors v after.udb) ↔
      (itemPrice n.toInt64).getD 0 ≤ user.udb.heart := by
  cases fills
  cases served with
  | useItem x itemid =>
    have heart : (user.chargeOpt (itemPrice (cv.int x))).markDirty.udb.heart =
        user.udb.heart - (itemPrice n.toInt64).getD 0 := by
      rw [int_asked cv (asked_num asked itemid)]
      simp [User.markDirty]
    rw [← charge_lt_iff (itemPrice_le _) mirrors.heart_lt, ← heart, body]
    constructor
    · rintro ⟨v, -, copy⟩
      exact copy.heart_lt
    · intro fits
      refine ⟨_, readHeart_fits rfl fits, mirrors.keep ?_ rfl (ofNat_toInt fits) ?_⟩
      · simp [User.markDirty]
      · simpa [User.markDirty] using mirrors.stageid

theorem eventPrice_le (i : Int64) : ((eventPrice i).getD 0).toNat ≤ 12 := by
  have table : ∀ p ∈ eventHeartConfig, p.toNat ≤ 12 := by
    unfold eventHeartConfig
    simp
  unfold eventPrice tablePrice
  split
  · cases entry : eventHeartConfig[(i - 1).toInt.toNat]? with
    | none => decide
    | some p => exact table p (List.mem_of_getElem? entry)
  · decide

theorem asInt_int32 (n : Int32) : cs.asInt (.int n.toInt64) = some n := by
  have lo : -2 ^ 31 ≤ n.toInt64.toInt := by rw [Int32.toInt_toInt64]; exact n.le_toInt
  have hi : n.toInt64.toInt < 2 ^ 31 := by rw [Int32.toInt_toInt64]; exact n.toInt_lt
  rw [asInt_int lo hi, Int32.toInt_toInt64, Int32.ofInt_toInt]

/-- The same lock set on both sides. -/
theorem Mirrors.set (mirrors : Mirrors u d) {k : ℕ} {x : Int32} {l : Int64} (same : x.toInt = l.toInt)
    (locks : e.eventLock = d.eventLock.set k l) (copy : v.eventLock = u.eventLock.set k x)
    (heart : v.heart.toInt = e.heart.toNat) (stageid : v.stageid.toInt = e.nextStage.toNat) : Mirrors v e := by
  refine ⟨heart, stageid, ?_, fun i l' found => ?_⟩
  · rw [locks, List.length_set]
    exact mirrors.inside
  · rw [locks] at found
    rw [copy]
    by_cases here : k = i
    · subst here
      have inside : k < d.eventLock.length := by
        have lt := (List.getElem?_eq_some_iff.1 found).1
        rwa [List.length_set] at lt
      rw [List.getElem?_set_self inside] at found
      cases found
      have room := mirrors.inside
      exact ⟨x, List.getElem?_set_self (by rw [u.ten]; omega), same⟩
    · rw [List.getElem?_set_ne here] at found ⊢
      exact mirrors.locks i l' found

/-- An unlock that is served leaves the two sides equal. -/
theorem unlock_served {stage : Stage} {lock : Int32} (enough : 12 ≤ u.heart)
    (asked_stage : m.body "stageid" = some (.json (Json.int stage.id)))
    (asked_event : m.body "eventid" = some (.json (Json.int (lock + 1))))
    (served : Served cv m user .eventLock after) (fills : Fills cv m after .eventLock entries)
    (zero : reply.errCode = 0) (body : reply.body = bodyOf entries) (mirrors : Mirrors u user.udb) :
    ∃ v, eventRecv cs u reply = some v ∧ Mirrors v after.udb := by
  have lo := stage.inside.1
  have hi := stage.inside.2
  have pred := stage.pred
  have sid : ∀ x, m.body "stageid" = some (.json (.num x)) → cv.int x = stage.id.toInt64 :=
    fun x read => int_asked cv (asked_num asked_stage read)
  have eid : ∀ y, m.body "eventid" = some (.json (.num y)) → cv.int y = (lock + 1).toInt64 :=
    fun y read => int_asked cv (asked_num asked_event read)
  cases served with
  | eventLock x y stageid eventid inside =>
    generalize price : (eventPrice (cv.int x)).getD 0 = p
    have small : p.toNat ≤ 12 := price ▸ eventPrice_le (cv.int x)
    generalize final : ((user.setEventLock _).chargeOpt _).markDirty = after at fills ⊢
    have heart : after.udb.heart = user.udb.heart - p := by
      rw [← final, ← price]
      simp [User.markDirty, User.setEventLock]
    have locks : after.udb.eventLock = user.udb.eventLock.set (cv.int x - 1).toInt.toNat (cv.int y) := by
      rw [← final]
      simp [User.markDirty, User.setEventLock]
    have stage_eq : after.udb.nextStage = user.udb.nextStage := by
      rw [← final]
      simp [User.markDirty, User.setEventLock]
    cases fills with
    | eventLock x' y' stageid' eventid' =>
      have covered : p ≤ user.udb.heart := by
        have twelve := Int32.le_iff_toInt_le.1 enough
        rw [mirrors.heart, show (12 : Int32).toInt = 12 from rfl] at twelve
        rw [UInt32.le_iff_toNat_le]
        omega
      have fits : after.udb.heart.toNat < 2 ^ 31 := heart ▸ sub_lt covered mirrors.heart_lt
      have slot : InSlice (stage.id - 1).toInt 10 := by rw [pred]; exact ⟨by omega, by omega⟩
      have read_stage : cs.asInt (.int (cv.int x')) = some stage.id := by rw [sid x' stageid', asInt_int32]
      have read_event : cs.asInt (.int (cv.int y')) = some (lock + 1) := by rw [eid y' eventid', asInt_int32]
      have recv : eventRecv cs u reply =
          ({ u with heart := Int32.ofNat after.udb.heart.toNat } : RemoteUser).setEventlock stage.id (lock + 1) := by
        rw [eventRecv, zero, field_zero, body, Option.bind_eq_bind, Option.bind_some, if_pos rfl, readHeart_fits rfl fits]
        change (cs.asInt (.int (cv.int x')) >>= fun stageid => cs.asInt (.int (cv.int y')) >>= fun lock => _) = _
        rw [read_stage, read_event]
        rfl
      refine ⟨_, recv.trans (if_pos slot), ?_⟩
      have index : (cv.int x - 1).toInt.toNat = (stage.id - 1).toInt.toNat := by
        rw [sid x stageid, int_pred (by simp; omega), pred]
        simp
      refine mirrors.set (k := (stage.id - 1).toInt.toNat) (x := lock + 1) (l := cv.int y) ?_ ?_ rfl (ofNat_toInt fits) ?_
      · rw [eid y eventid]
        simp
      · rw [locks, index]
      · rw [stage_eq]
        exact mirrors.stageid

/-- **What a first login does to the copy**: there is one exactly when the
account fits the client. -/
theorem login_served {w : User} (zero : reply.errCode = 0) (body : reply.body = bodyOf (loginEntries w)) :
    (∃ v, startRecv cs u reply = some v ∧ Mirrors v w.udb) ↔ Fits w.udb := by
  constructor
  · rintro ⟨v, -, copy⟩
    exact copy.fits
  · intro fits
    let filled : RemoteUser :=
      { u with heart := Int32.ofNat w.udb.heart.toNat, stageid := Int32.ofNat w.udb.nextStage.toNat }
    obtain ⟨v, set, heart, stageid, -, locks⟩ :=
      setEventlocks_fits cs (u := filled) (i := 0) (l := w.udb.eventLock) (by have := fits.inside; omega) fits.locks
    have read : elements (bodyOf (loginEntries w) "EventLock") = w.udb.eventLock.map .int := rfl
    have recv : startRecv cs u reply = some (if v.userid = "" then { v with userid := reply.userid } else v) := by
      rw [startRecv, zero, field_zero, body, Option.bind_eq_bind, Option.bind_some, if_pos rfl,
        readHeart_fits (n := w.udb.heart) rfl fits.heart, Option.bind_eq_bind, Option.bind_some,
        readStageid_fits (n := w.udb.nextStage) rfl fits.nextStage, Option.bind_some, read]
      change (filled.setEventlocks cs 0 _).bind _ = _
      rw [set, Option.bind_some]
    have copy : Mirrors v w.udb := by
      refine ⟨?_, ?_, fits.inside, fun i l found => ?_⟩
      · rw [heart]
        exact ofNat_toInt fits.heart
      · rw [stageid]
        exact ofNat_toInt fits.nextStage
      · obtain ⟨x, there, same⟩ := locks i l found
        exact ⟨x, by rw [← there, Nat.zero_add], same⟩
    refine ⟨_, recv, ?_⟩
    split
    · exact ⟨copy.heart, copy.stageid, copy.inside, copy.locks⟩
    · exact copy

end
end

/-! ## Runs -/

namespace Pair
section
variable {κ : Type} (cv : FloatConv) (cs : CSJson)

/-- The scene sends its request, the server serves it and the scene reads the
reply. A panic of the server leaves the request without one. -/
def step (s : Pair κ) (a : Exchange κ) : Option (Pair κ) :=
  if s.client.enable then do
    let u ← s.user
    let packet ← a.press.packet u a.seq
    let m ← readPacket s.client.msg packet
    match serve cv a.env a.online s.client m with
    | .ok o =>
      match o.sent with
      | [reply] => some ⟨o.c, a.press.recv cs u reply⟩
      | _ => none
    | .error _ => none
  else none

def Mirrored (s : Pair κ) : Prop := ∃ u, s.user = some u ∧ Mirrors u s.client.user.udb

/-- **The contract**: when the last reply carried `ErrCode` 0, the user is a
copy of the account. -/
def Agrees (s : Pair κ) : Prop := s.client.replyMsg.errCode = 0 → s.Mirrored

/-- The request finds the account in a state that its reply can tell: a login
comes first on its connection and what it loads fits the client, any other
request comes after it, and the hearts cover the price of an item. Where the
server answers without a body, the account has the defaults. Only a request
that is stored is answered with `ErrCode` 0. -/
def Told (s : Pair κ) (a : Exchange κ) : Prop :=
  let user := s.client.user
  if user.ready = decide (a.press.handler = .userLogin) then user.stored a.env = true → Defaults user.udb a.press
  else if user.ready = true then
    a.env.upsert = true → ∀ i ∈ a.press.item?, (itemPrice i.toInt64).getD 0 ≤ user.udb.heart
  else
    ∀ u ∈ s.user, ∀ v, user.load a.env (loginId a.env { Msg.zero with userid := u.userid }) = some v →
      (v.loggedIn a.env).stored a.env = true → Fits (v.loggedIn a.env).udb

variable {cv cs} {s t : Pair κ} {a : Exchange κ}

/-- What a step is made of. -/
theorem step_some (h : step cv cs s a = some t) :
    s.client.enable = true ∧ ∃ u p m o reply, s.user = some u ∧ a.press.packet u a.seq = some p ∧
      readPacket s.client.msg p = some m ∧ serve cv a.env a.online s.client m = .ok o ∧ o.sent = [reply] ∧
      t = ⟨o.c, a.press.recv cs u reply⟩ := by
  unfold step at h
  split at h
  · next enabled =>
    obtain ⟨u, user, h⟩ := Option.bind_eq_some_iff.1 h
    obtain ⟨p, packet, h⟩ := Option.bind_eq_some_iff.1 h
    obtain ⟨m, read, h⟩ := Option.bind_eq_some_iff.1 h
    split at h
    · next o served =>
      split at h
      · next reply sent =>
        cases h
        exact ⟨enabled, u, p, m, o, reply, user, packet, read, served, sent, rfl⟩
      · cases h
    · cases h
  · cases h

/-- A handler's reply to a client that is logged in. -/
theorem served_iff (cs : CSJson) {u : RemoteUser} {m reply : Msg} {press : Press} {user after : User} {entries : List (String × Value)}
    (asked : Asked u m press) (other : press.handler ≠ .userLogin) (served : Served cv m user press.handler after)
    (fills : Fills cv m after press.handler entries) (zero : reply.errCode = 0)
    (cmd : reply.cmd = .ofUInt32 press.cmd) (body : reply.body = bodyOf entries) (mirrors : Mirrors u user.udb) :
    (∃ v, press.recv cs u reply = some v ∧ Mirrors v after.udb) ↔
      ∀ i ∈ press.item?, (itemPrice i.toInt64).getD 0 ≤ user.udb.heart := by
  cases press with
  | login => exact absurd rfl other
  | play stage =>
    have recv : gameRecv cs u reply = (u.readHeart cs reply.body >>= fun u => u.readStageid cs reply.body) := by
      rw [gameRecv, zero, field_zero]
      rfl
    rw [Press.recv, recv]
    exact iff_of_true (play_served served fills body mirrors) (by simp [Press.item?])
  | endPlay stage pass =>
    rw [Press.recv, playRecv_end zero cmd]
    exact iff_of_true (endPlay_served asked.1 served fills body mirrors) (by simp [Press.item?])
  | unlock stage =>
    obtain ⟨enough, lock, -, stageid, eventid⟩ := asked
    exact iff_of_true (unlock_served enough stageid eventid served fills zero body mirrors) (by simp [Press.item?])
  | useFinger =>
    rw [Press.recv, playRecv_item zero cmd, useItem_served asked served fills body mirrors]
    simp [Press.item?]
  | useReplay stage =>
    rw [Press.recv, playRecv_item zero cmd, useItem_served asked served fills body mirrors]
    simp [Press.item?]

/-- An item request is not refused: it names its item. -/
theorem item_not_refused {u : RemoteUser} {m : Msg} {press : Press} {user : User} {e : UInt32} (asked : Asked u m press)
    (refused : Refused cv m user press.handler e) : press.item? = none := by
  cases press with
  | useFinger =>
    cases refused with
    | noItem absent =>
      rw [show m.body "itemid" = _ from asked] at absent
      cases absent
  | useReplay stage =>
    cases refused with
    | noItem absent =>
      rw [show m.body "itemid" = _ from asked] at absent
      cases absent
  | _ => rfl

theorem press_small (press : Press) : (Float64.ofUInt32 press.cmd).val < 128 := by
  have small : press.cmd.toNat < 128 := by cases press <;> simp [Press.cmd]
  rw [Float64.ofUInt32_val]
  exact_mod_cast small

/-- The item handler asks for a `Store`. -/
theorem item_dirty {press : Press} {m : Msg} {user after : User} {i : Int32} (item : i ∈ press.item?)
    (served : Served cv m user press.handler after) : after.dirty = true := by
  cases press with
  | useFinger => cases served; rfl
  | useReplay stage => cases served; rfl
  | _ => cases item

theorem stored_of_dirty {user : User} {env : Env} (dirty : user.dirty = true) : user.stored env = env.upsert := by
  unfold User.stored User.store
  rw [if_pos dirty]

/-- What one exchange is about: the request as the server reads it, and what it
leads to. -/
structure Exchanged (cv : FloatConv) (c : Client κ) (a : Exchange κ) (u : RemoteUser) (m : Msg) (o : Outcome κ) : Prop where
  cmd : m.cmd = .ofUInt32 a.press.cmd
  userid : m.userid = u.userid
  asked : Asked u m a.press
  served : serve cv a.env a.online c m = .ok o
  replyCmd : o.c.replyMsg.cmd = m.cmd
  told : Server.Told cv a.env c m o o.c.replyMsg
  kept : o.c.replyMsg.errCode ≠ 0 → o.c.enable = true → o.c.user = c.user

/-- A step is one request, its reply and the `CARecv` of its scene. -/
theorem step_exchanged {u : RemoteUser} (user : s.user = some u) (h : step cv cs s a = some t) :
    ∃ m o, t = ⟨o.c, a.press.recv cs u o.c.replyMsg⟩ ∧ Exchanged cv s.client a u m o := by
  obtain ⟨-, u', p, m, o, reply, user', packet, read, served, sent, rfl⟩ := step_some h
  cases user.symm.trans user'
  obtain ⟨m', read', cmd, userid, asked⟩ := packet_read (c := s.client.msg) packet
  cases read'.symm.trans read
  obtain ⟨reply', sent', last, replyCmd, told, kept⟩ := serve_told (cmd ▸ press_small a.press) served
  cases sent'.symm.trans sent
  subst last
  exact ⟨m, o, rfl, cmd, userid, asked, served, replyCmd, told, kept⟩

/-- **One exchange** keeps the copy exactly when the account can be told. -/
theorem step_agrees (mirrored : s.Mirrored) (h : step cv cs s a = some t) : Agrees t ↔ Told s a := by
  obtain ⟨u, user, mirrors⟩ := mirrored
  obtain ⟨m, o, rfl, exchanged⟩ := step_exchanged user h
  have cmd := exchanged.cmd
  have asked := exchanged.asked
  have named : loginId a.env m = loginId a.env { Msg.zero with userid := u.userid } := by
    unfold loginId
    rw [exchanged.userid]
  have told := exchanged.told
  have replied : o.c.replyMsg.cmd = .ofUInt32 a.press.cmd := exchanged.replyCmd.trans cmd
  generalize reply_eq : o.c.replyMsg = reply at told replied ⊢
  have agrees : Agrees (⟨o.c, a.press.recv cs u reply⟩ : Pair κ) ↔
      (reply.errCode = 0 → ∃ v, a.press.recv cs u reply = some v ∧ Mirrors v o.c.user.udb) := by
    rw [Agrees, reply_eq]
    exact Iff.rfl
  have picked := chosen_press cv s.client.user cmd
  rw [agrees, Told]
  cases told with
  | unserved which same body code =>
    have silent : s.client.user.ready = decide (a.press.handler = .userLogin) := by
      rw [picked] at which
      rcases which with refused | ⟨ready, again⟩
      · split at refused
        · next gate => rw [gate.1, decide_eq_false gate.2]
        · cases refused
      · split at again
        · cases again
        · rw [ready, decide_eq_true (Option.some.inj again)]
    rw [if_pos silent, same, code]
    exact imp_congr_right fun stored => recv_silent (code.2 stored) body replied mirrors
  | refused proc e ready which why same code =>
    rw [picked, if_neg (by simp [ready])] at which
    cases which
    have other : a.press.handler ≠ .userLogin := by
      intro login
      rw [login] at why
      cases why
    rw [if_neg (by simp [ready, other]), if_pos ready]
    refine iff_of_true (fun zero => absurd zero code) fun _ i item => ?_
    rw [item_not_refused asked why] at item
    cases item
  | served proc entries ready which other by_handler fills body code =>
    rw [picked, if_neg (by simp [ready])] at which
    cases which
    rw [if_neg (by simp [ready, other]), if_pos ready]
    have exact_reply := fun zero => served_iff cs asked other by_handler fills zero replied body mirrors
    have stored : ∀ i ∈ a.press.item?, (reply.errCode = 0 ↔ a.env.upsert = true) := fun i item => by
      rw [code, stored_of_dirty (item_dirty item by_handler)]
    constructor
    · intro copied upsert i item
      have zero := (stored i item).2 upsert
      exact (exact_reply zero).1 (copied zero) i item
    · intro covered zero
      exact (exact_reply zero).2 fun i item => covered ((stored i item).1 zero) i item
  | loadFailed out login load same code =>
    have handler := (handler_login a.press).2 (Float64.ofUInt32_inj (cmd.symm.trans login))
    rw [if_neg (by simp [out, handler]), if_neg (by simp [out])]
    refine iff_of_true (fun zero => absurd zero code) fun u' found v loaded => ?_
    cases user.symm.trans found
    rw [← named, load] at loaded
    cases loaded
  | loggedIn w out login load same body code =>
    have handler := (handler_login a.press).2 (Float64.ofUInt32_inj (cmd.symm.trans login))
    have scene : a.press = .login := by
      cases press : a.press <;> rw [press] at handler <;> first | rfl | cases handler
    rw [if_neg (by simp [out, handler]), if_neg (by simp [out]), code, same, scene]
    constructor
    · rintro copied u' found v loaded stored
      cases user.symm.trans found
      rw [← named, load] at loaded
      cases loaded
      exact (login_served (code.2 stored) body).1 (copied stored)
    · intro fits stored
      exact (login_served (code.2 stored) body).2 (fits u user w (named ▸ load) stored)

/-- While the connection is open the copy is kept by errors too. -/
def Open (s : Pair κ) : Prop := s.client.enable = true → s.client.replyMsg.errCode ≠ 0 → s.Mirrored

theorem Agrees.mirrored (agrees : Agrees s) (held : Open s) (enabled : s.client.enable = true) : s.Mirrored := by
  by_cases zero : s.client.replyMsg.errCode = 0
  · exact agrees zero
  · exact held enabled zero

/-- No scene reads the body of an error. -/
theorem recv_error {u : RemoteUser} {reply : Msg} {press : Press} {e : UInt32} (code : reply.errCode = .ofUInt32 e)
    (small : e.toNat ≤ 5) (error : reply.errCode ≠ 0) : press.recv cs u reply = some u := by
  have read : cs.field reply.errCode = some (Int32.ofNat e.toNat) := by
    rw [code]
    exact field_ofUInt32 cs (by omega)
  have nonzero : Int32.ofNat e.toNat ≠ 0 := by
    intro zero
    have value := congrArg Int32.toInt zero
    rw [ofNat_toInt (by omega), show (0 : Int32).toInt = 0 from rfl] at value
    apply error
    rw [code, UInt32.toNat_inj.1 (show e.toNat = (0 : UInt32).toNat by rw [UInt32.toNat_zero]; omega)]
    rfl
  cases press with
  | login => simp [Press.recv, startRecv, read, nonzero]
  | play stage => simp [Press.recv, gameRecv, read, nonzero]
  | unlock stage => simp [Press.recv, eventRecv, read, nonzero]
  | endPlay stage pass => simp [Press.recv, playRecv, read, nonzero]
  | useFinger => simp [Press.recv, playRecv, read, nonzero]
  | useReplay stage => simp [Press.recv, playRecv, read, nonzero]

/-- **One step** from sides that are equal: a reply with an error code leaves them so. -/
theorem step_open (mirrored : s.Mirrored) (h : step cv cs s a = some t) : Open t := by
  obtain ⟨u, user, mirrors⟩ := mirrored
  obtain ⟨m, o, rfl, exchanged⟩ := step_exchanged user h
  obtain ⟨e, small, code⟩ := serve_code (exchanged.cmd ▸ press_small a.press) exchanged.served
  intro enabled error
  have same : o.c.user = s.client.user := exchanged.kept error enabled
  exact ⟨u, recv_error code small error, by rw [same]; exact mirrors⟩

/-- **When the client's copy is right**: after every reply with `ErrCode` 0 of a
run that starts with a copy, exactly when every request finds an account that
its reply can tell. -/
theorem mirror_iff_told (cv : FloatConv) (cs : CSJson) (c : Client κ) (u : RemoteUser) (copy : Mirrors u c.user.udb)
    (as : List (Exchange κ)) (s : Pair κ) (run : exec (step cv cs) ⟨c, some u⟩ as = some s) :
    Through (step cv cs) Agrees ⟨c, some u⟩ as ↔ Along (step cv cs) Told ⟨c, some u⟩ as := by
  have first : (⟨c, some u⟩ : Pair κ).Mirrored := ⟨u, rfl, copy⟩
  refine through_iff_along (J := Open) ?_ ?_ (fun _ _ => first) (fun _ => first) run
  · intro t a t' held agrees h
    exact step_open (agrees.mirrored held (step_some h).1) h
  · intro t a t' held agrees h
    exact step_agrees (agrees.mirrored held (step_some h).1) h

end

/-! ## Tests of the condition -/

/-- A library that does what `CSJson` is assumed to do, and throws elsewhere. -/
def strict : CSJson where
  asInt v := (integer? v).bind fun n => if -2 ^ 31 ≤ n ∧ n < 2 ^ 31 then some (Int32.ofInt n) else none
  asInt_fits v n whole lo hi := by rw [whole, Option.bind_some, if_pos ⟨lo, hi⟩]

/-- The user of a client that has not logged in yet. -/
def freshUser : RemoteUser := ⟨0, 0, "", List.replicate 10 1, rfl⟩

theorem freshUser_mirrors : Mirrors freshUser (Client.new ()).user.udb :=
  ⟨rfl, rfl, by decide, fun i l found => by cases found⟩

/-- A request in a world where nobody is registered. -/
def press (p : Press) : Exchange Unit :=
  ⟨{ Env.answering fun _ => .notFound with unixNano := 7 }, .empty, p, 12345⟩

def firstStage : Stage := ⟨1, by decide⟩

/-- What can be seen of a pair: whether the last code is 0, whether the client
is logged in, and the hearts at both ends. -/
def seen (s : Pair Unit) : Bool × Bool × Option Int32 × UInt32 :=
  (s.client.replyMsg.errCode = 0, s.client.user.ready, s.user.map RemoteUser.heart, s.client.user.udb.heart)

theorem not_agrees {s : Pair Unit} {heart : Int32} {ready : Bool} {hearts : UInt32}
    (shown : seen s = (true, ready, some heart, hearts)) (differ : heart.toInt ≠ hearts.toNat) : ¬ Agrees s := by
  simp only [seen, Prod.mk.injEq, decide_eq_true_eq] at shown
  obtain ⟨zero, -, user, account⟩ := shown
  intro agrees
  obtain ⟨u, found, copy⟩ := agrees zero
  rw [found, Option.map_some, Option.some.injEq] at user
  apply differ
  rw [← user, ← account]
  exact copy.heart

/-- A newly registered account fits. -/
theorem fits_registered {u : User} (env : Env) (id : String) (now : UInt32) (unset : u.udb.eventLock = []) :
    Fits (({ u with udb := userRegister u.udb id now, dirty := true } : User).loggedIn env).udb := by
  have six : ∀ l ∈ List.replicate 6 (1 : Int64), -2 ^ 31 ≤ l.toInt ∧ l.toInt < 2 ^ 31 := by
    intro l hl
    rw [List.eq_of_mem_replicate hl]
    decide
  rw [loggedIn_udb]
  simp only [userRegister, unset]
  refine ⟨?_, ?_, ?_, six⟩
  · show (if (99 : UInt32) < 30 then (99 : UInt32) else 99).toNat < 2 ^ 31
    decide
  · show (1 : UInt32).toNat < 2 ^ 31
    decide
  · show (List.replicate 6 (1 : Int64)).length ≤ 10
    decide

/-- A registration and the start of the first stage. -/
def firstGame : List (Exchange Unit) := [press .login, press (.play firstStage)]

/-- A first game on one connection leaves the two sides equal. -/
theorem mirror_iff_told_first :
    Through (step amd64 strict) Agrees ⟨.new (), some freshUser⟩ firstGame ∧
      (exec (step amd64 strict) ⟨.new (), some freshUser⟩ firstGame).map seen = some (true, true, some 97, 97) := by
  have ends : (exec (step amd64 strict) ⟨.new (), some freshUser⟩ firstGame).map seen = some (true, true, some 97, 97) := by
    decide +kernel
  refine ⟨?_, ends⟩
  obtain ⟨s, run, -⟩ := Option.map_eq_some_iff.1 ends
  apply (mirror_iff_told amd64 strict (.new ()) freshUser freshUser_mirrors firstGame s run).2
  obtain ⟨t, login, run⟩ := exec_cons_eq_some.1 run
  obtain ⟨t', play, -⟩ := exec_cons_eq_some.1 run
  have ready : ((step amd64 strict ⟨.new (), some freshUser⟩ (press .login)).map seen).map (·.2.1) = some true := by
    decide +kernel
  rw [login] at ready
  refine (along_cons login).2 ⟨?_, (along_cons play).2 ⟨?_, along_nil⟩⟩
  · rintro u - v loaded -
    cases loaded
    exact fits_registered _ _ _ rfl
  · have logged : t.client.user.ready = true := Option.some.inj ready
    rw [Told, if_neg (by simp [logged, press, Press.handler]), if_pos logged]
    rintro - i item
    cases item

/-- A second login on the connection takes the client's hearts to 0; and an
item bought without the hearts for it leaves a number the client cannot hold. -/
theorem mirror_iff_told_broken :
    (∃ s, exec (step amd64 strict) ⟨.new (), some freshUser⟩ [press .login, press .login] = some s ∧ ¬ Agrees s) ∧
    ∃ s, exec (step amd64 strict) ⟨.new (), some freshUser⟩
      ({ press .login with env := Env.answering fun id => .found { UserDb.zero with userId := id, heart := 31 } rfl } ::
        List.replicate 8 (press .useFinger)) = some s ∧ ¬ Agrees s := by
  constructor
  · have ends : (exec (step amd64 strict) ⟨.new (), some freshUser⟩ [press .login, press .login]).map seen =
        some (true, true, some 0, 99) := by decide +kernel
    obtain ⟨s, run, shown⟩ := Option.map_eq_some_iff.1 ends
    exact ⟨s, run, not_agrees shown (by decide)⟩
  · have ends : (exec (step amd64 strict) ⟨.new (), some freshUser⟩
        ({ press .login with env := Env.answering fun id => .found { UserDb.zero with userId := id, heart := 31 } rfl } ::
          List.replicate 8 (press .useFinger))).map seen = some (true, true, none, 4294967295) := by decide +kernel
    obtain ⟨s, run, shown⟩ := Option.map_eq_some_iff.1 ends
    simp only [seen, Prod.mk.injEq, decide_eq_true_eq] at shown
    refine ⟨s, run, fun agrees => ?_⟩
    obtain ⟨u, found, -⟩ := agrees shown.1
    rw [found] at shown
    cases shown.2.2.1

end Pair

end Crazyass.Client
