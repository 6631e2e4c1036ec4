import Crazyass.Client.Line
import Crazyass.Client.PlayScene

/-!
# Buying an event

The dialog of `EventScene`. Every touch of its button that is not a begin, a
move as well as an end, sends a request to open the stage's next event, and the
server opens the event it is asked for, open or not, and charges its price.

The contract is that every event opened has been paid once.
-/

namespace Crazyass.Client
open Go Server Sys

/-- A touch of `Btn1Yes`, or what goes on meanwhile. -/
inductive EventStep (κ : Type) where
  | yes (e : Touch)
  | line (a : LineStep κ)

/-- How many requests a step sends. -/
def LineStep.presses {κ : Type} : LineStep κ → ℤ
  | .press _ => 1
  | _ => 0

/-- No step presses less than nothing. -/
theorem LineStep.presses_nonneg {κ : Type} (a : LineStep κ) : 0 ≤ a.presses := by
  cases a with
  | press => exact zero_le_one
  | _ => exact le_rfl

/-- The index of a stage. -/
def Stage.slot (stage : Stage) : ℕ := (stage.id - 1).toInt.toNat

/-- How many events of the stage are open, to the server and to the client. -/
def accountLock (stage : Stage) (d : UserDb) : ℤ := ((d.eventLock[stage.slot]?).map Int64.toInt).getD 0

def copyLock (stage : Stage) (u : RemoteUser) : ℤ := ((u.eventLock[stage.slot]?).map Int32.toInt).getD 0

namespace Line
section
variable {κ : Type} (cv : FloatConv) (cs : CSJson) (stage : Stage)

/-- `onBtnYes`. With fewer hearts it goes to the shop. -/
def onBtnYes (s : Line κ) (e : Touch) : Option (Line κ) :=
  if e = .began then some s
  else do
    let u ← s.user
    if 12 ≤ u.heart then step cv cs s (.press (.unlock stage)) else some s

/-- The scene sends no other request. -/
def eventStep (s : Line κ) : EventStep κ → Option (Line κ)
  | .yes e => onBtnYes cv cs stage s e
  | .line (.press _) => none
  | .line a => step cv cs s a

/-- The touch sends a request. -/
def Sends (s : Line κ) (e : Touch) : Prop := e ≠ .began ∧ ∃ u ∈ s.user, 12 ≤ u.heart

/-- A request is sent when nothing is on its way. -/
def Calm (s : Line κ) : EventStep κ → Prop
  | .yes e => s.Sends e → s.Quiet
  | .line _ => True

instance (s : Line κ) (e : Touch) : Decidable (s.Sends e) :=
  inferInstanceAs (Decidable (_ ∧ ∃ u ∈ s.user, _))

instance (s : Line κ) : ∀ a, Decidable (s.Calm a)
  | .yes _ => inferInstanceAs (Decidable (_ → _))
  | .line _ => inferInstanceAs (Decidable True)

/-- **The contract**: the hearts spent are the price of the events opened. -/
def Paid (total : ℤ) (s : Line κ) : Prop :=
  s.up = true → s.client.user.udb.heart.toNat + 12 * accountLock stage s.client.user.udb = total

end
end Line

section
variable {κ : Type} {cv : FloatConv} {cs : CSJson} {stage : Stage} {c : Client κ} {env : Env} {online : Online κ} {m : Msg}
  {o : Outcome κ} {reply : Msg} {u v : RemoteUser} {e : Int32}

/-! ## A request to open an event -/

/-- The message is one of the scene's, for event `e`. -/
structure Asks (stage : Stage) (e : Int32) (m : Msg) : Prop where
  cmd : m.cmd = .ofUInt32 (Press.unlock stage).cmd
  stageid : m.body "stageid" = some (.json (Json.int stage.id))
  eventid : m.body "eventid" = some (.json (Json.int e))

/-- Stages count from 1, their slots from 0. -/
theorem Stage.slot_eq (stage : Stage) : (stage.slot : ℤ) = stage.id.toInt - 1 := by
  have lo := stage.inside.1
  rw [Stage.slot, stage.pred]
  omega

/-- The lock of the copy is what `GetEventLock` reads. -/
theorem copyLock_some {lock : Int32} (found : u.lock? stage.id = some lock) : copyLock stage u = lock.toInt := by
  unfold RemoteUser.lock? at found
  split at found
  · unfold copyLock Stage.slot
    rw [found]
    rfl
  · cases found

/-- The next event has the number that follows, unless that is too large. -/
theorem add_one_le (lock : Int32) : (lock + 1).toInt ≤ lock.toInt + 1 := by
  have lo := lock.le_toInt
  have hi := lock.toInt_lt
  rw [Int32.toInt_add, show (1 : Int32).toInt = 1 from rfl]
  by_cases last : lock.toInt + 1 < 2 ^ 31
  · rw [Int.bmod_eq_of_le (by omega) (by omega)]
  · rw [show lock.toInt = 2 ^ 31 - 1 by omega]
    decide

theorem add_one_eq {lock : Int32} (room : lock.toInt + 1 < 2 ^ 31) : (lock + 1).toInt = lock.toInt + 1 := by
  have lo := lock.le_toInt
  rw [Int32.toInt_add, show (1 : Int32).toInt = 1 from rfl]
  exact Int.bmod_eq_of_le (by omega) (by omega)

/-- A message asks for one event. -/
theorem Asks.unique {e' : Int32} (asks : Asks stage e m) (asks' : Asks stage e' m) : e = e' := by
  have same := asked_num (n := e) asks.eventid asks'.eventid
  rw [show (numOf e').val = e'.toInt from rfl] at same
  exact (Int32.toInt_inj.1 (by exact_mod_cast same)).symm

/-- Sides that agree have the same lock. -/
theorem Mirrors.lock_eq {d : UserDb} (mirrors : Mirrors u d) (inside : stage.slot < d.eventLock.length) :
    copyLock stage u = accountLock stage d := by
  obtain ⟨x, there, same⟩ := mirrors.locks stage.slot _ (List.getElem?_eq_getElem inside)
  unfold copyLock accountLock
  rw [there, List.getElem?_eq_getElem inside]
  exact same

/-- What the scene writes. -/
theorem unlock_asks {seq : Int32} {packet : Json} {cell : Msg} (written : (Press.unlock stage).packet u seq = some packet)
    (read : readPacket cell packet = some m) :
    12 ≤ u.heart ∧ ∃ lock, u.lock? stage.id = some lock ∧ Asks stage (lock + 1) m := by
  obtain ⟨m', read', cmd, -, enough, lock, found, stageid, eventid⟩ := packet_read (c := cell) written
  cases read'.symm.trans read
  exact ⟨enough, lock, found, cmd, stageid, eventid⟩

/-- The events of the first four stages have a price. -/
theorem eventPrice_stage (priced : stage.id.toInt ≤ 4) : eventPrice stage.id.toInt64 = some 12 := by
  have lo := stage.inside.1
  have sid : stage.id.toInt64.toInt = stage.id.toInt := Int32.toInt_toInt64 _
  have before : (stage.id.toInt64 - 1).toInt = stage.id.toInt - 1 := by rw [int_pred (by omega), sid]
  unfold eventPrice tablePrice
  rw [sid, before]
  generalize stage.id.toInt = n at lo priced
  interval_cases n <;> rfl

/-- What the server makes of a request. -/
structure Unlocks (cs : CSJson) (stage : Stage) (e : Int32) (c : Client κ) (o : Outcome κ) : Prop where
  ready : o.c.user.ready = true
  heart : o.c.user.udb.heart = c.user.udb.heart - 12
  locks : o.c.user.udb.eventLock = c.user.udb.eventLock.set stage.slot e.toInt64
  reply : ∃ reply, o.sent = [reply] ∧ ∀ u v, (Press.unlock stage).recv cs u reply = some v →
    copyLock stage v = copyLock stage u ∨ copyLock stage v = e.toInt

/-- A lock that is set is read back. -/
theorem copyLock_set {stageid lock : Int32} (set : u.setEventlock stageid lock = some v) (same : stageid = stage.id) :
    copyLock stage v = lock.toInt := by
  subst same
  unfold RemoteUser.setEventlock at set
  split at set
  · next inside =>
    cases set
    unfold copyLock Stage.slot
    dsimp only
    rw [List.getElem?_set_self]
    · rfl
    · rw [u.ten]
      have := inside.2
      have := inside.1
      omega
  · cases set

/-- An unlock that is served takes 12 hearts and sets the lock. -/
theorem served_unlock {user after : User} (asks : Asks stage e m) (priced : stage.id.toInt ≤ 4)
    (served : Served cv m user .eventLock after) : after.ready = user.ready ∧ after.udb.heart = user.udb.heart - 12 ∧
      after.udb.eventLock = user.udb.eventLock.set stage.slot e.toInt64 := by
  cases served with
  | eventLock x y stageid eventid inside =>
    have sid : cv.int x = stage.id.toInt64 := int_asked cv (asked_num asks.stageid stageid)
    have eid : cv.int y = e.toInt64 := int_asked cv (asked_num asks.eventid eventid)
    have lo := stage.inside.1
    have slot : (stage.id.toInt64 - 1).toInt.toNat = stage.slot := by
      rw [int_pred (by rw [Int32.toInt_toInt64]; omega), Int32.toInt_toInt64, Stage.slot, stage.pred]
    rw [sid, eid, slot, eventPrice_stage priced]
    simp [User.markDirty, User.setEventLock, User.chargeOpt]

/-- Reading the reply opens that event to the client, or no event where it is an error. -/
theorem recv_unlock {user : User} {entries : List (String × Value)} (asks : Asks stage e m)
    (fills : Fills cv m user .eventLock entries) (zero : reply.errCode = 0) (body : reply.body = bodyOf entries)
    (recv : (Press.unlock stage).recv cs u reply = some v) : copyLock stage v = e.toInt := by
  cases fills with
  | eventLock x y stageid eventid =>
    have sid : cv.int x = stage.id.toInt64 := int_asked cv (asked_num asks.stageid stageid)
    have eid : cv.int y = e.toInt64 := int_asked cv (asked_num asks.eventid eventid)
    change eventRecv cs u reply = some v at recv
    rw [eventRecv, zero, field_zero, body, sid, eid, Option.bind_eq_bind, Option.bind_some, if_pos rfl] at recv
    obtain ⟨w, heart, recv⟩ := Option.bind_eq_some_iff.1 recv
    change (cs.asInt (.int stage.id.toInt64) >>= fun stageid => cs.asInt (.int e.toInt64) >>= fun lock => _) = _ at recv
    rw [asInt_int32, asInt_int32] at recv
    exact copyLock_set recv rfl

/-- **The server opens the event** it is asked for, and charges its price. -/
theorem serve_unlocks (asks : Asks stage e m) (priced : stage.id.toInt ≤ 4) (ready : c.user.ready = true)
    (served : Server.serve cv env online c m = .ok o) : Unlocks cs stage e c o := by
  have small : m.cmd.val < 128 := asks.cmd ▸ Pair.press_small (.unlock stage)
  have cmd : m.cmd = .ofUInt32 (Press.unlock stage).cmd := asks.cmd
  have picked := chosen_press cv c.user cmd
  rw [if_neg (by simp [ready])] at picked
  obtain ⟨reply, sent, last, -, told, -⟩ := serve_told small served
  obtain ⟨n, few, code⟩ := serve_code small served
  rw [last] at code
  cases told with
  | unserved which =>
    rw [picked] at which
    rcases which with none_chosen | ⟨-, login⟩
    · cases none_chosen
    · cases login
  | refused h r _ which why =>
    cases which.symm.trans picked
    cases why with
    | noEvent absent =>
      rw [asks.stageid, asks.eventid] at absent
      rcases absent with absent | absent <;> cases absent
  | loadFailed out => cases ready.symm.trans out
  | loggedIn _ out => cases ready.symm.trans out
  | served h entries _ which other by_handler fills body _ =>
    cases which.symm.trans picked
    obtain ⟨still, heart, locks⟩ := served_unlock asks priced by_handler
    refine ⟨still.trans ready, heart, locks, reply, sent, fun u v recv => ?_⟩
    by_cases zero : reply.errCode = 0
    · exact .inr (recv_unlock asks fills zero body recv)
    · rw [Pair.recv_error code few zero] at recv
      cases recv
      exact .inl rfl

end

namespace Line
section
variable {κ : Type} {cv : FloatConv} {cs : CSJson} {stage : Stage} {s t : Line κ} {a : LineStep κ} {M total : ℤ}

/-! ## What is on its way -/

def waiting (s : Line κ) : ℤ := s.asked.length + s.pending

/-- No event beyond `M` is open, asked for, or told of. -/
structure Bounded (cs : CSJson) (stage : Stage) (M : ℤ) (s : Line κ) : Prop where
  ready : s.client.user.ready = true
  inside : stage.slot < s.client.user.udb.eventLock.length
  account : accountLock stage s.client.user.udb ≤ M
  user : ∀ u ∈ s.user, copyLock stage u ≤ M
  target : s.Quiet ∨ s.delegate.target = some (.unlock stage)
  asked : ∀ packet ∈ s.asked, ∀ cell m, readPacket cell packet = some m → ∃ e, Asks stage e m ∧ e.toInt ≤ M
  cell : 0 < s.pending → ∃ e, Asks stage e s.client.msg ∧ e.toInt ≤ M
  told : ∀ reply ∈ s.told, ∀ u v, (Press.unlock stage).recv cs u reply = some v →
    copyLock stage v = copyLock stage u ∨ copyLock stage v ≤ M

/-- A bound may be raised. -/
theorem Bounded.mono {N : ℤ} (bounded : Bounded cs stage M s) (le : M ≤ N) : Bounded cs stage N s where
  ready := bounded.ready
  inside := bounded.inside
  account := bounded.account.trans le
  user u found := (bounded.user u found).trans le
  target := bounded.target
  asked packet mem cell m read :=
    let ⟨e, asks, small⟩ := bounded.asked packet mem cell m read
    ⟨e, asks, small.trans le⟩
  cell waits :=
    let ⟨e, asks, small⟩ := bounded.cell waits
    ⟨e, asks, small.trans le⟩
  told reply mem u v recv := (bounded.told reply mem u v recv).imp_right fun small => small.trans le

/-- A lock that the account sets is read back. -/
theorem accountLock_set {d d' : UserDb} {e : Int32} (inside : stage.slot < d.eventLock.length)
    (locks : d'.eventLock = d.eventLock.set stage.slot e.toInt64) : accountLock stage d' = e.toInt := by
  unfold accountLock
  rw [locks, List.getElem?_set_self inside]
  exact Int32.toInt_toInt64 e

/-- A step of the client's end or of the reader. -/
theorem Bounded.frame (bounded : Bounded cs stage M s) (next : a.presses = 1 → ∀ u ∈ s.user, copyLock stage u + 1 ≤ M)
    (unlocks : ∀ press, a = .press press → press = .unlock stage) (other : ∀ env online, a ≠ .serve env online)
    (h : step cv cs s a = some t) (open_ : t.up = true) :
    Bounded cs stage M t ∧ t.client.user = s.client.user ∧ s.up = true ∧
      t.waiting = s.waiting + a.presses := by
  cases a with
  | press press =>
    obtain rfl := unlocks press rfl
    obtain ⟨u, packet, user, written, rfl⟩ := step_press h
    refine ⟨{ bounded with target := .inr rfl, asked := ?_ }, rfl, open_, ?_⟩
    · intro packet' mem cell m read
      rcases List.mem_append.1 mem with old | new
      · exact bounded.asked packet' old cell m read
      · obtain rfl := List.mem_singleton.1 new
        obtain ⟨-, lock, found, asks⟩ := unlock_asks written read
        refine ⟨lock + 1, asks, (add_one_le lock).trans ?_⟩
        rw [← copyLock_some found]
        exact next rfl u user
    · simp only [waiting, List.length_append, List.length_singleton, LineStep.presses]
      push_cast
      ring
  | check =>
    obtain ⟨same, target, -⟩ := step_check h
    rw [same] at open_ ⊢
    refine ⟨{ bounded with target := ?_ }, rfl, open_, (add_zero _).symm⟩
    exact bounded.target.imp id fun last => target.trans last
  | decode =>
    obtain ⟨packet, rest, msg, waits, -, read, rfl⟩ := step_decode h
    refine ⟨{ bounded with target := ?_, asked := ?_, cell := ?_ }, rfl, open_, ?_⟩
    · refine .inr (bounded.target.resolve_left fun quiet => ?_)
      rw [quiet.1] at waits
      cases waits
    · exact fun packet' mem => bounded.asked packet' (waits ▸ List.mem_cons_of_mem _ mem)
    · exact fun _ => bounded.asked packet (waits ▸ List.mem_cons_self) _ msg read
    · simp only [waiting, waits, List.length_cons, LineStep.presses]
      push_cast
      ring
  | serve env online => exact absurd rfl (other env online)
  | receive =>
    obtain ⟨reply, rest, waits, rfl⟩ := step_receive h
    have target : s.delegate.target = some (.unlock stage) := by
      refine bounded.target.resolve_left fun quiet => ?_
      rw [quiet.2.2] at waits
      cases waits
    obtain ⟨user, delegate, same, kept, read⟩ := onMessage_eq cs { s with told := rest } reply
    rw [same] at open_ ⊢
    have told : ∀ r ∈ rest, r ∈ s.told := fun r mem => waits ▸ List.mem_cons_of_mem _ mem
    refine ⟨{ bounded with
      user := fun v found => ?_, target := .inr (kept.trans target), told := fun r mem => bounded.told r (told r mem) }, rfl,
      open_, (add_zero _).symm⟩
    rcases read v found with old | ⟨press, u, target', user, recv⟩
    · exact bounded.user v old
    · cases target.symm.trans target'
      rcases bounded.told reply (waits ▸ List.mem_cons_self) u v recv with unread | small
      · exact unread.trans_le (bounded.user u user)
      · exact small
  | lose =>
    cases step_lose h
    cases open_

/-- A turn of the loop. -/
theorem Bounded.served (bounded : Bounded cs stage M s) (priced : stage.id.toInt ≤ 4) {env : Env} {online : Online κ}
    (h : step cv cs s (.serve env online) = some t) (open_ : t.up = true) :
    Bounded cs stage M t ∧ s.up = true ∧ t.waiting = s.waiting - 1 ∧
      t.client.user.udb.heart = s.client.user.udb.heart - 12 ∧
      ∃ e, Asks stage e s.client.msg ∧ accountLock stage t.client.user.udb = e.toInt := by
  obtain ⟨up, waits, -, result⟩ := step_serve h
  obtain ⟨rfl, -⟩ | ⟨o, ran, rfl⟩ := result
  · cases open_
  obtain ⟨e, asks, small⟩ := bounded.cell waits
  have unlocks : Unlocks cs stage e s.client o := serve_unlocks asks priced bounded.ready ran
  obtain ⟨reply, sent, recv⟩ := unlocks.reply
  have account : accountLock stage o.c.user.udb = e.toInt := accountLock_set bounded.inside unlocks.locks
  have named : o.c.msg = s.client.msg := serve_msg (fun out => by rw [bounded.ready] at out; cases out) ran
  refine ⟨?_, up, ?_, unlocks.heart, e, asks, account⟩
  · exact {
      ready := unlocks.ready
      inside := by rw [unlocks.locks, List.length_set]; exact bounded.inside
      account := account.trans_le small
      user := bounded.user
      target := .inr (bounded.target.resolve_left fun quiet => absurd (waits.trans_eq quiet.2.1) (lt_irrefl 0))
      asked := bounded.asked
      cell := fun _ => ⟨e, named ▸ asks, small⟩
      told := fun r mem u v read => by
        rcases List.mem_append.1 mem with old | new
        · exact bounded.told r old u v read
        · rw [sent] at new
          obtain rfl := List.mem_singleton.1 new
          exact (recv u v read).imp_right fun same => same.trans_le small }
  · simp only [waiting]
    omega

/-- Hearts that run out come back as nearly `2 ^ 32`. -/
theorem toNat_charge (heart : UInt32) :
    ((heart - 12).toNat : ℤ) = heart.toNat - 12 ∨ ((heart - 12).toNat : ℤ) = heart.toNat - 12 + 2 ^ 32 := by
  by_cases enough : (12 : UInt32) ≤ heart
  · left
    rw [UInt32.toNat_sub_of_le _ _ enough]
    exact Nat.cast_sub (UInt32.le_iff_toNat_le.1 enough)
  · right
    have few : heart.toNat < 12 := Nat.lt_of_not_le fun more => enough (UInt32.le_iff_toNat_le.2 more)
    have wrapped : (heart - 12).toNat = heart.toNat + (2 ^ 32 - 12) := by
      rw [UInt32.toNat_sub, Nat.add_comm]
      refine Nat.mod_eq_of_lt ?_
      change heart.toNat + (2 ^ 32 - 12) < 2 ^ 32
      omega
    rw [wrapped]
    push_cast
    ring

/-- Where a price is taken as it should be, the next event is opened: twelve does
not divide what hearts that run out come back as. -/
theorem paid_next {heart heart' : UInt32} {lock lock' : ℤ} (charged : heart' = heart - 12)
    (before : heart.toNat + 12 * lock = total) (after : heart'.toNat + 12 * lock' = total) : lock' = lock + 1 := by
  rw [charged] at after
  rcases toNat_charge heart with left | wrapped
  · omega
  · have rest : (12 : ℤ) * (lock - lock') = 2 ^ 32 - 12 := by linarith
    have divides : (12 : ℤ) ∣ 2 ^ 32 - 12 := ⟨_, rest.symm⟩
    norm_num at divides

/-- More requests are on their way than events are left to open with them. -/
def Doomed (cs : CSJson) (stage : Stage) (total : ℤ) (s : Line κ) : Prop :=
  s.up = true → Paid stage total s ∧ ∃ M, Bounded cs stage M s ∧ M < accountLock stage s.client.user.udb + s.waiting

/-- As long as what is paid is right, more requests stay on their way than events. -/
theorem Doomed.stays (doomed : Doomed cs stage total s) (priced : stage.id.toInt ≤ 4)
    (unlocks : ∀ press, a = .press press → press = .unlock stage) (paid : Paid stage total t)
    (h : step cv cs s a = some t) : Doomed cs stage total t := by
  intro open_
  refine ⟨paid, ?_⟩
  by_cases serves : ∃ env online, a = .serve env online
  · obtain ⟨env, online, rfl⟩ := serves
    have up : s.up = true := (step_serve h).1
    obtain ⟨before, M, bounded, more⟩ := doomed up
    obtain ⟨bounded', -, fewer, charged, e, -, account⟩ := bounded.served priced h open_
    have next := paid_next charged (before up) (paid open_)
    exact ⟨M, bounded', by omega⟩
  · have other : ∀ env online, a ≠ .serve env online := fun env online same => serves ⟨env, online, same⟩
    obtain ⟨-, M, bounded, more⟩ := doomed (step_up h open_)
    have room := a.presses_nonneg
    obtain ⟨bounded', same, -, sent⟩ := (bounded.mono (show M ≤ M + a.presses by omega)).frame
      (fun one u found => by have := bounded.user u found; omega) unlocks other h open_
    exact ⟨M + a.presses, bounded', by rw [same]; omega⟩

/-! ## One request at a time -/

/-- A request to open an event can be told. -/
theorem Bounded.tells (bounded : Bounded cs stage M s) {env : Env} {online : Online κ}
    (h : step cv cs s (.serve env online) = some t) : Told cv s (.serve env online) := by
  obtain ⟨-, waits, -⟩ := step_serve h
  have target := bounded.target.resolve_left fun quiet => absurd (waits.trans_eq quiet.2.1) (lt_irrefl 0)
  rintro o - press pressed
  rw [target] at pressed
  obtain rfl : .unlock stage = press := Option.some.inj pressed
  unfold Pair.Told
  dsimp only
  rw [bounded.ready, if_neg nofun, if_pos rfl]
  rintro - i item
  cases item

/-- The scene that waits for its replies: the client is one event behind what it
has asked for. -/
structure Tight (cs : CSJson) (stage : Stage) (s : Line κ) : Prop where
  inv : Inv cs s
  agrees : Agrees cs s
  bounded : s.up = true → Bounded cs stage (accountLock stage s.client.user.udb + s.waiting) s
  ahead : s.up = true → ¬ s.Quiet → ∀ u ∈ s.user, copyLock stage u + 1 ≤ accountLock stage s.client.user.udb + s.waiting

/-- **A turn of the loop** takes the price for the next event. -/
theorem Tight.serve (tight : Tight cs stage s) (priced : stage.id.toInt ≤ 4) (low : total < 12 * (2 ^ 31 - 1))
    (paid : Paid stage total s) {env : Env} {online : Online κ} (h : step cv cs s (.serve env online) = some t)
    (open_ : t.up = true) : Paid stage total t ∧ Bounded cs stage (accountLock stage t.client.user.udb + t.waiting) t ∧
      ∀ u ∈ t.user, copyLock stage u + 1 ≤ accountLock stage t.client.user.udb + t.waiting := by
  obtain ⟨up, waits, enabled, -⟩ := step_serve h
  have bounded := tight.bounded up
  have before := paid up
  have busy : ¬ s.Quiet := fun quiet => absurd (waits.trans_eq quiet.2.1) (lt_irrefl 0)
  obtain ⟨bounded', -, fewer, charged, e, asks, account⟩ := bounded.served priced h open_
  cases tight.inv.phase up with
  | quiet quiet => exact absurd quiet busy
  | asked _ _ _ _ _ _ _ pending | told _ _ _ _ _ _ _ pending => exact absurd (waits.trans_eq pending) (lt_irrefl 0)
  | decoded u press packet cell user target written read asked pending told =>
    cases target.symm.trans (bounded.target.resolve_left busy)
    obtain ⟨enough, lock, found, asks'⟩ := unlock_asks written read
    obtain rfl := asks.unique asks'
    -- the request was written by a user who is a copy of the account
    have mirrors : Mirrors u s.client.user.udb := by
      obtain ⟨u', user', mirrors⟩ := (tight.agrees up).mirrored (tight.inv.held up) enabled
      rw [pair_silent told] at user'
      cases user.symm.trans user'
      exact mirrors
    have copy := mirrors.lock_eq bounded.inside
    rw [copyLock_some found] at copy
    have hearts : 12 ≤ s.client.user.udb.heart.toNat := by
      have twelve := Int32.le_iff_toInt_le.1 enough
      rw [mirrors.heart, show (12 : Int32).toInt = 12 from rfl] at twelve
      omega
    have next : accountLock stage t.client.user.udb = accountLock stage s.client.user.udb + 1 := by
      rw [account, add_one_eq (by omega), copy]
    have left : (t.client.user.udb.heart.toNat : ℤ) = s.client.user.udb.heart.toNat - 12 := by
      have lt := t.client.user.udb.heart.toNat_lt
      rcases toNat_charge s.client.user.udb.heart with left | wrapped
      · rw [charged, left]
      · rw [← charged] at wrapped
        omega
    have same : accountLock stage t.client.user.udb + t.waiting = accountLock stage s.client.user.udb + s.waiting := by omega
    have user' : t.user = s.user := by
      obtain ⟨-, -, -, ⟨rfl, -⟩ | ⟨o, -, rfl⟩⟩ := step_serve h <;> rfl
    refine ⟨fun _ => by omega, by rw [same]; exact bounded', fun v found => ?_⟩
    rw [same]
    exact tight.ahead up busy v (user' ▸ found)

/-- **A patient step** keeps the scene one event behind what it has asked for. -/
theorem Tight.step (tight : Tight cs stage s) (priced : stage.id.toInt ≤ 4) (low : total < 12 * (2 ^ 31 - 1))
    (paid : Paid stage total s) (unlocks : ∀ press, a = .press press → press = .unlock stage) (patient : s.Patient a)
    (h : step cv cs s a = some t) : Tight cs stage t ∧ Paid stage total t := by
  have inv := step_inv tight.inv tight.agrees h patient
  by_cases serves : ∃ env online, a = .serve env online
  · obtain ⟨env, online, rfl⟩ := serves
    have tells := (tight.bounded (step_serve h).1).tells h
    have served := tight.serve priced low paid h
    refine ⟨⟨inv, (step_agrees tight.inv tight.agrees h patient).2 tells, fun open_ => (served open_).2.1,
      fun open_ _ => (served open_).2.2⟩, fun open_ => (served open_).1 open_⟩
  · have other : ∀ env online, a ≠ .serve env online := fun env online same => serves ⟨env, online, same⟩
    have tells : Told cv s a := by
      cases a with
      | serve env online => exact absurd rfl (other env online)
      | _ => trivial
    have agrees := (step_agrees tight.inv tight.agrees h patient).2 tells
    have grown : t.up = true → Bounded cs stage (accountLock stage s.client.user.udb + s.waiting + a.presses) t ∧
        t.client.user = s.client.user ∧ s.up = true ∧ t.waiting = s.waiting + a.presses := fun open_ => by
      have bounded := tight.bounded (step_up h open_)
      have room := a.presses_nonneg
      refine (bounded.mono (show _ ≤ _ + a.presses by omega)).frame (fun one u found => ?_) unlocks other h open_
      have := bounded.user u found
      omega
    refine ⟨⟨inv, agrees, fun open_ => ?_, fun open_ busy u found => ?_⟩, fun open_ => ?_⟩
    · obtain ⟨bounded, same, -, more⟩ := grown open_
      rw [same, more, ← add_assoc]
      exact bounded
    · obtain ⟨-, same, up, more⟩ := grown open_
      rw [same, more, ← add_assoc]
      have ahead := tight.ahead up
      cases a with
      | press press =>
        obtain ⟨_, _, -, -, rfl⟩ := step_press h
        exact add_le_add ((tight.bounded up).user u found) le_rfl
      | check =>
        obtain ⟨same, -⟩ := step_check h
        rw [same] at busy found
        exact (ahead busy u found).trans_eq (add_zero _).symm
      | decode =>
        obtain ⟨packet, rest, msg, waits, -, -, rfl⟩ := step_decode h
        exact (ahead (fun quiet => by rw [quiet.1] at waits; cases waits) u found).trans_eq (add_zero _).symm
      | serve env online => exact absurd rfl (other env online)
      | receive =>
        -- the one reply that was on its way has been read
        obtain ⟨reply, rest, waits, rfl⟩ := step_receive h
        obtain ⟨user, delegate, same, -⟩ := onMessage_eq cs { s with told := rest } reply
        refine absurd ?_ busy
        rw [same]
        cases tight.inv.phase up with
        | quiet quiet =>
          rw [quiet.2.2] at waits
          cases waits
        | asked _ _ _ _ _ _ _ _ told | decoded _ _ _ _ _ _ _ _ _ _ told =>
          rw [told] at waits
          cases waits
        | told _ _ _ _ _ _ asked pending told =>
          rw [told] at waits
          cases waits
          exact ⟨asked, pending, rfl⟩
      | lose =>
        cases step_lose h
        cases open_
    · obtain ⟨-, same, up, -⟩ := grown open_
      rw [same]
      exact paid up

/-- A request sent while another is on its way is one too many. -/
theorem Tight.dooms (tight : Tight cs stage s) (busy : ¬ s.Quiet) (paid : Paid stage total t)
    (h : Line.step cv cs s (.press (.unlock stage)) = some t) : Doomed cs stage total t := by
  intro open_
  have up := step_up h open_
  have ahead := tight.ahead up busy
  obtain ⟨bounded, same, -, more⟩ := (tight.bounded up).frame (fun _ u found => ahead u found)
    (fun press pressed => by cases pressed; rfl) (fun _ _ same => by cases same) h open_
  refine ⟨paid, _, bounded, ?_⟩
  rw [same, more, ← add_assoc]
  exact lt_add_one _

/-! ## Runs -/

/-- A step of the scene leaves all as it was, or is one of the connection. -/
theorem eventStep_cases {a : EventStep κ} (h : eventStep cv cs stage s a = some t) : t = s ∧ Calm s a ∨
    ∃ b, Line.step cv cs s b = some t ∧ (∀ press, b = .press press → press = .unlock stage) ∧
      (Calm s a ↔ s.Patient b) ∧ (¬ Calm s a → b = .press (.unlock stage)) := by
  cases a with
  | yes e =>
    change onBtnYes cv cs stage s e = some t at h
    unfold onBtnYes at h
    split at h
    · next began =>
      cases h
      exact .inl ⟨rfl, fun sends => absurd began sends.1⟩
    · next later =>
      obtain ⟨u, user, h⟩ := Option.bind_eq_some_iff.1 h
      split at h
      · next enough =>
        refine .inr ⟨_, h, fun press pressed => by cases pressed; rfl, ?_, fun _ => rfl⟩
        exact ⟨fun calm => calm ⟨later, u, user, enough⟩, fun quiet _ => quiet⟩
      · next few =>
        cases h
        refine .inl ⟨rfl, fun sends => ?_⟩
        obtain ⟨-, u', user', enough⟩ := sends
        cases user.symm.trans user'
        exact absurd enough few
  | line a =>
    have other : ∀ press, a ≠ .press press := fun press same => by
      subst same
      cases h
    have taken : Line.step cv cs s a = some t ∧ (Calm s (.line a) ↔ s.Patient a) := by
      cases a with
      | press press => exact absurd rfl (other press)
      | _ => exact ⟨h, Iff.rfl⟩
    exact .inr ⟨a, taken.1, fun press same => absurd same (other press), taken.2, fun wild => absurd trivial wild⟩

/-- **When an event is paid once**: through every run of the dialog that ends
with nothing on its way, exactly when no touch sends a request while one is. -/
theorem paid_iff_calm (cv : FloatConv) (cs : CSJson) (stage : Stage) (priced : stage.id.toInt ≤ 4) (c : Client κ)
    (u : RemoteUser) (d : MyDelegate Press) (ready : c.user.ready = true) (copy : Mirrors u c.user.udb)
    (inside : stage.id.toInt ≤ c.user.udb.eventLock.length) (low : accountLock stage c.user.udb < 2 ^ 30)
    (as : List (EventStep κ)) (s : Line κ) (run : exec (eventStep cv cs stage) (idle c u d) as = some s)
    (open_ : s.up = true) (quiet : s.Quiet) :
    Through (eventStep cv cs stage) (Paid stage (c.user.udb.heart.toNat + 12 * accountLock stage c.user.udb)) (idle c u d) as ↔
      Along (eventStep cv cs stage) Calm (idle c u d) as := by
  have small : (c.user.udb.heart.toNat + 12 * accountLock stage c.user.udb : ℤ) < 12 * (2 ^ 31 - 1) := by
    have hearts : (c.user.udb.heart.toNat : ℤ) < 2 ^ 31 := by exact_mod_cast copy.heart_lt
    linarith
  generalize paid_ : (c.user.udb.heart.toNat + 12 * accountLock stage c.user.udb : ℤ) = total at small ⊢
  have paid : Paid stage total (idle c u d) := fun _ => paid_
  have slot : stage.slot < c.user.udb.eventLock.length := by
    have := stage.slot_eq
    omega
  have same : copyLock stage u = accountLock stage c.user.udb := copy.lock_eq slot
  have tight : Tight cs stage (idle c u d) := {
    inv := ⟨fun _ => .quiet ⟨rfl, rfl, rfl⟩, fun _ _ _ => ⟨u, rfl, copy⟩⟩
    agrees := fun _ _ => ⟨u, rfl, copy⟩
    bounded := fun _ => {
      ready, inside := slot, target := .inl ⟨rfl, rfl, rfl⟩
      account := le_add_of_nonneg_right le_rfl
      user := fun v found => by
        cases found
        exact same.trans_le (le_add_of_nonneg_right le_rfl)
      asked := nofun
      cell := nofun
      told := fun _ mem => by cases mem }
    ahead := fun _ busy => absurd ⟨rfl, rfl, rfl⟩ busy }
  have keep : ∀ (t : Line κ) a t', Tight cs stage t → Paid stage total t → Calm t a → eventStep cv cs stage t a = some t' →
      Tight cs stage t' ∧ Paid stage total t' := by
    intro t a t' tight paid calm h
    rcases eventStep_cases h with ⟨rfl, -⟩ | ⟨b, h, unlocks, patient, -⟩
    · exact ⟨tight, paid⟩
    · exact tight.step priced small paid unlocks (patient.1 calm) h
  constructor
  · intro through
    refine along_of_through_kept (J := Tight cs stage) (D := Doomed cs stage total) ?_ ?_ ?_ tight through run ?_
    · exact fun t a t' tight paid calm h => (keep t a t' tight paid calm h).1
    · intro t a t' tight paid wild h
      rcases eventStep_cases h with ⟨-, calm⟩ | ⟨b, h, -, patient, sends⟩
      · exact absurd calm wild
      · obtain rfl := sends wild
        exact tight.dooms (fun quiet => wild (patient.2 quiet)) paid h
    · intro t a t' doomed paid h
      rcases eventStep_cases h with ⟨rfl, -⟩ | ⟨b, h, unlocks, -⟩
      · exact doomed
      · exact doomed.stays priced unlocks paid h
    · intro doomed
      obtain ⟨-, M, bounded, more⟩ := doomed open_
      have rest : s.waiting = 0 := by simp [waiting, quiet.1, quiet.2.1]
      have := bounded.account
      omega
  · intro calm
    exact fun bs t pre run => (through_inv (I := fun t => Tight cs stage t ∧ Paid stage total t)
      (fun t a t' both calm h => keep t a t' both.1 both.2 calm h) ⟨tight, paid⟩ calm bs t pre run).2

end

/-- The button touched once, the reply awaited, and touched again. -/
def twoEvents : List (EventStep Unit) :=
  let bought : List (EventStep Unit) := [.yes .began, .yes .ended, .line .decode,
    .line (.serve (Env.answering fun _ => .notFound) .empty), .line .receive]
  bought ++ bought

/-- The button touched with a move in between. -/
def oneMove : List (EventStep Unit) :=
  [.yes .began, .yes .moved, .yes .ended, .line .decode, .line (.serve (Env.answering fun _ => .notFound) .empty),
    .line .decode, .line (.serve (Env.answering fun _ => .notFound) .empty), .line .receive, .line .receive]

/-- The hearts and the events at both ends. -/
def account (s : Line Unit) : UInt32 × ℤ × Option (Int32 × ℤ) :=
  (s.client.user.udb.heart, accountLock Pair.firstStage s.client.user.udb,
    s.user.map fun u => (u.heart, copyLock Pair.firstStage u))

/-- With 31 hearts two events are opened; or one, paid twice. -/
theorem paid_iff_calm_two :
    Through (eventStep amd64 Pair.strict Pair.firstStage)
        (Paid Pair.firstStage (member.user.udb.heart.toNat + 12 * accountLock Pair.firstStage member.user.udb))
        (idle member memberUser (.init none)) twoEvents ∧
      (exec (eventStep amd64 Pair.strict Pair.firstStage) (idle member memberUser (.init none)) twoEvents).map account =
        some (7, 3, some (7, 3)) ∧
      (exec (eventStep amd64 Pair.strict Pair.firstStage) (idle member memberUser (.init none)) oneMove).map account =
        some (7, 2, some (7, 2)) := by
  have ends : (exec (eventStep amd64 Pair.strict Pair.firstStage) (idle member memberUser (.init none)) twoEvents).map
      (fun s => (account s, s.up, decide s.Quiet)) = some ((7, 3, some (7, 3)), true, true) := by decide +kernel
  refine ⟨?_, by decide +kernel, by decide +kernel⟩
  obtain ⟨s, run, shown⟩ := Option.map_eq_some_iff.1 ends
  simp only [Prod.mk.injEq, decide_eq_true_eq] at shown
  refine (paid_iff_calm amd64 Pair.strict Pair.firstStage (by decide) member memberUser (.init none) rfl memberUser_mirrors
    (by decide) (by decide) twoEvents s run shown.2.1 shown.2.2).2 ?_
  decide +kernel

end Line
end Crazyass.Client
