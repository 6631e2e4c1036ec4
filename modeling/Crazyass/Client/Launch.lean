import Crazyass.Client.Line
import Crazyass.Client.Awaiting

/-!
# The phone and its account

A phone keeps a userid in the file `userdata`, once a first login has told it
one. The processes of the app, one after another on each of many phones, talk to
one database. A connection that the app leaves, at its end or on its way back to
the start scene, is still served with what has been sent on it.

The first contract is that phones do not meet at an account.
-/

namespace Crazyass.Client
open Go Server Sys

/-- `login_state_`, from 0 to 3. -/
inductive LoginState where
  | toOpen
  | toLogin
  | ok
  | error
deriving DecidableEq

/-- The process of the app; `gotostart` is the flag of `ShouldGotoStart`. -/
structure App (κ : Type) where
  line : Line κ
  state : LoginState
  gotostart : Bool

/-- `file` is the userid that `userdata` has, empty without one. -/
structure Phone (κ : Type) where
  file : String
  app : Option (App κ)

/-- `launch` and `exit` are the ends of a process; the fields of the user that no
constructor sets are in the label, and so is the connection that is opened. -/
inductive PhoneStep (κ : Type) where
  | launch (self : κ) (stageid heart : Int32)
  | exit
  | onOpen
  | update (self : κ)
  | goto (self : κ)
  | check
  | press (press : Press)

/-- `docs` has the documents that have been stored, each with the phone whose
request stored it, and `given` the registrations that have succeeded: the phone,
and what the clock said. -/
structure Fleet (ι κ : Type) where
  phones : ι → Phone κ
  left : List (ι × Line κ)
  docs : List (Option ι × UserDb)
  given : List (ι × Int64)

/-- `line` is a step of a phone's connection, `left` one of a connection that has
been left, and `stored` a document that something else stores. -/
inductive FleetStep (ι κ : Type) where
  | phone (i : ι) (a : PhoneStep κ)
  | line (i : ι) (b : LineStep κ)
  | left (k : ℕ) (b : LineStep κ)
  | stored (d : UserDb)

/-! ## The app -/

namespace App
section
variable {κ : Type} (cv : FloatConv) (cs : CSJson)

/-- `StartScene::onEnter`, with a new connection. -/
def enter (self : κ) (u : RemoteUser) : App κ := ⟨.idle (.new self) u (.init (some .login)), .toOpen, false⟩

/-- `onOpen`, which comes once. -/
def onOpen (s : App κ) : Option (App κ) :=
  if s.state = .toOpen ∧ s.line.up = true then
    match s.line.delegate.onOpen with
    | (delegate, some .login) => some { s with line := { s.line with delegate }, state := .toLogin }
    | _ => none
  else none

/-- `StartScene::update`: the app after it, and whether `GotoStartSceneIfError`
has returned true. `CARecvTimeout` goes back as long as there is no login. -/
def update (s : App κ) : Option (App κ × Bool) :=
  match s.line.delegate.target, s.line.delegate.checkRecv with
  | some .login, (_, .done _) =>
    if s.gotostart then some (s, true)
    else if s.state = .toLogin then (Line.step cv cs s.line (.press .login)).map fun line => ({ s with line }, false)
    else some (s, false)
  | some .login, (delegate, .timeout _) =>
    some ({ s with line := { s.line with delegate } },
      s.gotostart || decide (s.state = .toOpen) || decide (s.state = .toLogin))
  | some .login, (delegate, .waiting) => some ({ s with line := { s.line with delegate } }, false)
  | _, _ => none

/-- `onMessage`. Each `CARecv` ends with what it does besides to the scene:
`SetLoginState`, or `ShouldGotoStart` for an error. -/
def receive (s : App κ) : Option (App κ) :=
  match s.line.told with
  | [] => none
  | reply :: told =>
    let line := Line.onMessage cs { s.line with told } reply
    let good := decide (cs.field reply.errCode = some 0)
    match line.user, (cs.field reply.seq).bind fun seq => (s.line.delegate.onMessage seq).2 with
    | some _, some .login => some { s with line, state := if good then .ok else .error }
    | some _, some (.play _) | some _, some (.unlock _) => some { s with line, gotostart := s.gotostart || !good }
    | _, _ => some { s with line }

end
end App

/-! ## The phone -/

/-- What `Flush` leaves in the file, after a `CARecv`. -/
def flush (file : String) : Option RemoteUser → Option RemoteUser → String
  | some u, some v => if u.userid = "" ∧ v.userid ≠ "" then v.userid else file
  | _, _ => file

namespace Phone
section
variable {κ : Type} (cv : FloatConv) (cs : CSJson)

/-- `GotoStartSceneIfError`, where it returns true: `CAWS::Release` leaves the connection. -/
def back (p : Phone κ) (s : App κ) (self : κ) : Option (Phone κ × Option (Line κ)) :=
  s.line.user.map fun u => ({ p with app := some (.enter self u) }, some s.line)

/-- The phone, and the connection that is left. Scenes after the start send any
request but a login. -/
def step (p : Phone κ) (a : PhoneStep κ) : Option (Phone κ × Option (Line κ)) :=
  match p.app, a with
  | none, .launch self stageid heart =>
    some ({ p with app := some (.enter self { Pair.freshUser with stageid, heart, userid := p.file }) }, none)
  | some s, .exit => some ({ p with app := none }, some s.line)
  | some s, .onOpen => s.onOpen.map fun s => ({ p with app := some s }, none)
  | some s, .update self =>
    match s.update cv cs with
    | some (s, true) => p.back s self
    | some (s, false) => some ({ p with app := some s }, none)
    | none => none
  | some s, .goto self => if s.state = .ok ∧ s.gotostart = true then p.back s self else none
  | some s, .check =>
    if s.state = .ok then (Line.step cv cs s.line .check).map fun line => ({ p with app := some { s with line } }, none)
    else none
  | some s, .press press =>
    if s.state = .ok ∧ press.handler ≠ .userLogin then
      (Line.step cv cs s.line (.press press)).map fun line => ({ p with app := some { s with line } }, none)
    else none
  | _, _ => none

/-- A step of the connection. Its end calls `ShouldGotoStart`. -/
def lineStep (p : Phone κ) (b : LineStep κ) : Option (Phone κ) :=
  match p.app, b with
  | some s, .receive => if s.line.user.isSome then
      (s.receive cs).map fun t => ⟨flush p.file s.line.user t.line.user, some t⟩ else none
  | some s, .decode | some s, .serve _ _ | some s, .lose =>
    (Line.step cv cs s.line b).map fun line => { p with app := some { s with line, gotostart := s.gotostart || !line.up } }
  | _, _ => none

end
end Phone

/-! ## All phones -/

namespace Line
section
variable {κ : Type} (cv : FloatConv)

/-- The documents that a step stores. -/
def written (s : Line κ) : LineStep κ → List UserDb
  | .serve env online =>
    match Server.serve cv env online s.client s.client.msg with
    | .ok o => if o.stored then o.upsert.toList else []
    | .error _ => []
  | _ => []

/-- A login without a userid that succeeds registers one. -/
def registered (s : Line κ) : LineStep κ → List Int64
  | .serve env online =>
    match Server.serve cv env online s.client s.client.msg with
    | .ok o =>
      if s.client.user.ready = false ∧ o.c.user.ready = true ∧ s.client.msg.userid = "" ∧ o.stored = true then
        [env.unixNano]
      else []
    | .error _ => []
  | _ => []

end
end Line

namespace Fleet
section
variable {ι κ : Type} [DecidableEq ι] (cv : FloatConv) (cs : CSJson)

def start (docs : List UserDb) : Fleet ι κ := ⟨fun _ => ⟨"", none⟩, [], docs.map (none, ·), []⟩

/-- A document that is found has been stored. -/
def Answers (f : Fleet ι κ) (s : Line κ) : LineStep κ → Prop
  | .serve env _ =>
    match env.find (loginId env s.client.msg) with
    | .found d _ => d ∈ f.docs.map Prod.snd
    | _ => True
  | _ => True

instance (f : Fleet ι κ) (s : Line κ) (b : LineStep κ) : Decidable (f.Answers s b) := by
  unfold Answers
  split
  · split <;> infer_instance
  · infer_instance

def note (f : Fleet ι κ) (i : ι) (s : Line κ) (b : LineStep κ) : Fleet ι κ := { f with
  docs := f.docs ++ (s.written cv b).map (some i, ·)
  given := f.given ++ (s.registered cv b).map (i, ·) }

def setPhone (f : Fleet ι κ) (i : ι) (p : Phone κ) : Fleet ι κ := { f with phones := Function.update f.phones i p }

def step (f : Fleet ι κ) : FleetStep ι κ → Option (Fleet ι κ)
  | .phone i a =>
    ((f.phones i).step cv cs a).map fun (p, behind) => { f.setPhone i p with left := f.left ++ behind.toList.map (i, ·) }
  | .line i b => do
    let s ← (f.phones i).app
    if f.Answers s.line b then ((f.phones i).lineStep cv cs b).map fun p => (f.note cv i s.line b).setPhone i p
    else none
  | .left k b => do
    let (i, s) ← f.left[k]?
    if f.Answers s b then
      match b with
      | .decode | .serve _ _ | .lose =>
        (Line.step cv cs s b).map fun t => { f.note cv i s b with left := f.left.set k (i, t) }
      | _ => none
    else none
  | .stored d => some { f with docs := f.docs ++ [(none, d)] }

/-- The userid has been given to this phone. -/
def Given (f : Fleet ι κ) (i : ι) (id : String) : Prop := ∃ n, (i, n) ∈ f.given ∧ toString n.toInt = id

/-- The userid has been given to this phone, and there is a document for it. -/
def Owns (f : Fleet ι κ) (i : ι) (id : String) : Prop := f.Given i id ∧ ∃ q ∈ f.docs, q.2.userId = id

end
end Fleet

/-! ## Userids -/

/-- Userids made of different numbers differ. -/
theorem repr_inj {m n : ℕ} (same : m.repr = n.repr) : m = n := by
  have digits := congrArg String.toList same
  rw [Nat.toList_repr, Nat.toList_repr] at digits
  rw [← Nat.ofDigitChars_ten_toDigits (n := m), digits, Nat.ofDigitChars_ten_toDigits]

/-- `FormatInt` writes different numbers differently. -/
theorem toString_inj {m n : ℤ} (same : toString m = toString n) : m = n := by
  have signed : ∀ {a b : ℕ}, a.repr ≠ "-" ++ b.repr := fun {a b} same => by
    have mem : '-' ∈ Nat.toDigits 10 a := by
      rw [← Nat.toList_repr, same]
      simp
    cases Nat.isDigit_of_mem_toDigits (b := 10) (by decide) (by decide) mem
  cases m with
  | ofNat a =>
    cases n with
    | ofNat b => rw [repr_inj same]
    | negSucc b => exact absurd same signed
  | negSucc a =>
    cases n with
    | ofNat b => exact absurd same.symm signed
    | negSucc b =>
      have digits := repr_inj ((String.append_right_inj "-").1 same)
      rw [Nat.succ.inj digits]

/-- What a request makes of who its client is. -/
inductive Identified {κ : Type} (env : Env) (c : Client κ) (m : Msg) (o : Outcome κ) : Prop where
  | kept (ready : o.c.user.ready = c.user.ready) (userId : o.c.user.udb.userId = c.user.udb.userId)
      (out : c.user.ready = false → o.c.user = c.user) (msg : o.c.enable = true → o.c.msg = m)
      (upsert : ∀ d ∈ o.upsert, d.userId = c.user.udb.userId ∧ (c.user.ready = true ∨ c.user.dirty = true))
  | login (out : c.user.ready = false) (ready : o.c.user.ready = true) (id : o.c.user.udb.userId = loginId env m)
      (msg : o.c.msg.userid = loginId env m) (upsert : ∀ d ∈ o.upsert, d = o.c.user.udb)
      (found : (∃ d owner, env.find (loginId env m) = .found d owner) ∨ o.upsert = some o.c.user.udb)
      (stored : o.c.enable = true → o.stored = true) (reply : ∀ r ∈ o.sent, r.userid = loginId env m)
      (code : ∀ r ∈ o.sent, r.errCode = 0 → o.stored = true ∧ o.c.enable = c.enable)

section
variable {κ : Type} {cv : FloatConv} {cs : CSJson} {env : Env} {online : Online κ} {c : Client κ} {m : Msg} {o : Outcome κ}

/-- The reply to a login names the account. -/
theorem login_userid (env : Env) (online : Online κ) (out : c.user.ready = false)
    (succ : (procUserLogin env online c).ret = .succ) :
    (procUserLogin env online c).c.replyMsg.userid = loginId env c.msg := by
  unfold procUserLogin at succ ⊢
  rw [named_eq, if_neg (by simp [Client.isLogin, out])] at succ ⊢
  dsimp only [Client.login] at succ ⊢
  cases load : (c.named env).user.load env (c.named env).msg.userid with
  | none => simp [load] at succ
  | some u => rfl

/-- A user is loaded from a document, or registered. -/
theorem load_cases {u v : User} {id : String} (h : u.load env id = some v) :
    (∃ d owner, env.find id = .found d owner) ∨ v.dirty = true := by
  unfold User.load at h
  split at h
  · next d owner found => exact .inl ⟨d, owner, found⟩
  · cases h
    exact .inr rfl
  · cases h

/-- **One turn of the loop** keeps who the client is, or makes it who it asked to be. -/
theorem serve_identified (served : Server.serve cv env online c m = .ok o) : Identified env c m o := by
  have kept : ∀ {user : User} {msg : Msg}, o.c.user = user → o.c.msg = msg → user = c.user → msg = m →
      (∀ d ∈ o.upsert, c.user.dirty = true ∧ d = c.user.udb) → Identified env c m o := by
    rintro _ _ user msg rfl rfl upsert
    exact .kept (by rw [user]) (by rw [user]) (fun _ => user) (fun _ => msg) fun d stored =>
      ⟨by rw [(upsert d stored).2], .inr (upsert d stored).1⟩
  rcases procMsg_ok.1 served with ⟨-, rfl⟩ | ⟨-, ran, r, run, rfl⟩
  · exact kept rfl rfl rfl rfl fun d stored => by cases stored
  · have upsert : ∀ d ∈ (finish env ran r).upsert, r.c.user.dirty = true ∧ d = r.c.user.udb := by
      intro d stored
      rw [finish_upsert] at stored
      split at stored
      · next dirty => exact ⟨dirty, (Option.mem_some.1 stored).symm⟩
      · cases stored
    cases dispatch_effect run with
    | rejected _ _ c_eq =>
      have user : r.c.user = c.user := by rw [c_eq]; rfl
      exact kept (finish_user ..) (finish_msg ..) user (by rw [c_eq]; rfl) (user ▸ upsert)
    | refused _ _ _ _ _ c_eq =>
      have user : r.c.user = c.user := by rw [c_eq]; rfl
      exact kept (finish_user ..) (finish_msg ..) user (by rw [c_eq]; rfl) (user ▸ upsert)
    | served ready _ _ user replied =>
      have ready : c.user.ready = true := ready
      have userId : r.c.user.udb.userId = c.user.udb.userId := user.userId
      refine .kept ?_ ?_ ?_ ?_ ?_
      · rw [finish_user]
        exact user.ready
      · rw [finish_user, userId]
      · intro out
        cases out.symm.trans ready
      · intro _
        rw [finish_msg, replied.kept.msg, replied.userid]
        rfl
      · intro d stored
        rw [(upsert d stored).2]
        exact ⟨userId, .inl ready⟩
    | login out cmd result =>
      have out : c.user.ready = false := out
      cases result with
      | failed _ ret _ user _ _ _ =>
        have user : r.c.user = c.user := user
        have kicked : (finish env (some .userLogin) r).c.enable = false := by
          rw [finish_c, if_pos ret]
          split <;> rfl
        refine .kept ?_ ?_ ?_ ?_ ?_
        · rw [finish_user, user]
        · rw [finish_user, user]
        · intro _
          rw [finish_user, user]
        · intro enabled
          cases kicked.symm.trans enabled
        · intro d stored
          obtain ⟨dirty, rfl⟩ := upsert d stored
          rw [user] at dirty ⊢
          exact ⟨rfl, .inr dirty⟩
      | loggedIn u load ret _ user code kept userid =>
        have load : c.user.load env (loginId env m) = some u := load
        have named : r.c.replyMsg.userid = loginId env m := by
          cases (dispatch_login cv env online (c := loopHead { c with msg := m }) cmd).symm.trans run
          exact login_userid (c := (loopHead { c with msg := m }).initReply) env online out ret
        have upserted : (finish env (some .userLogin) r).upsert = if u.dirty then some r.c.user.udb else none := by
          rw [finish_upsert, user, loggedIn_dirty]
        have sent : (finish env (some .userLogin) r).sent = [(finish env (some .userLogin) r).c.replyMsg] :=
          finish_sent.trans (by rw [finish_reply]; rfl)
        refine .login out ?_ ?_ ?_ ?_ ?_ ?_ ?_ ?_
        · rw [finish_user, user, loggedIn_ready]
        · rw [finish_user, user]
          exact loggedIn_userId load
        · rw [finish_msg]
          exact userid
        · intro d stored
          rw [finish_user]
          exact (upsert d stored).2
        · refine (load_cases load).imp id fun dirty => ?_
          rw [upserted, if_pos dirty, finish_user]
        · intro enabled
          by_contra failed
          cases (finish_enable (Bool.eq_false_iff.2 failed)).symm.trans enabled
        · intro reply mem
          rw [sent, List.mem_singleton] at mem
          subst mem
          rw [finish_reply]
          split <;> exact named
        · intro reply mem zero
          rw [sent, List.mem_singleton] at mem
          subst mem
          have stored : (r.c.user.store env).2 = true := (finish_code.1 zero).1
          refine ⟨stored, ?_⟩
          rw [finish_c, if_pos stored, if_neg (by rw [ret]; decide)]
          exact kept.enable

end

/-! ## Whose accounts a connection acts on -/

/-- The userids on a connection are among `G`. -/
structure Line.Held {κ : Type} (G : String → Prop) (s : Line κ) : Prop where
  asked : ∀ packet ∈ s.asked, ∀ cell m, readPacket cell packet = some m → m.userid = "" ∨ G m.userid
  cell : s.client.enable = true → 0 < s.pending → s.client.msg.userid = "" ∨ G s.client.msg.userid
  account : s.client.user.ready = true → s.client.enable = true → G s.client.user.udb.userId
  clean : s.client.user.ready = false → s.client.user.dirty = false

section
variable {ι κ : Type} {cv : FloatConv} {cs : CSJson} {env : Env} {online : Online κ} {f : Fleet ι κ} {i j : ι} {s t : Line κ}
  {b : LineStep κ} {G G' : String → Prop} {id : String}

/-- A connection may own more userids than it uses. -/
theorem Line.Held.mono (held : s.Held G) (more : ∀ id, G id → G' id) : s.Held G' where
  asked := fun packet mem cell m read => (held.asked packet mem cell m read).imp_right (more _)
  cell := fun enabled waits => (held.cell enabled waits).imp_right (more _)
  account := fun ready enabled => more _ (held.account ready enabled)
  clean := held.clean

/-- A new connection holds none. -/
theorem idle_held (self : κ) (u : RemoteUser) (d : MyDelegate Press) : (Line.idle (.new self) u d).Held G where
  asked := fun _ mem => by cases mem
  cell := fun _ waits => absurd waits (lt_irrefl 0)
  account := fun ready => by cases ready
  clean := fun _ => rfl

/-- A connection of which nothing but the client's end has changed, and what is on its way to it. -/
theorem Line.Held.frame (held : s.Held G) (asked : ∀ packet ∈ t.asked, packet ∈ s.asked) (client : t.client = s.client)
    (pending : t.pending ≤ s.pending) : t.Held G where
  asked := fun packet mem => held.asked packet (asked packet mem)
  cell := fun enabled waits => by
    rw [client] at enabled ⊢
    exact held.cell enabled (by omega)
  account := by rw [client]; exact held.account
  clean := by rw [client]; exact held.clean

/-- What has been given stays given. -/
theorem Fleet.Given.note (given : f.Given i id) : (f.note cv j s b).Given i id := by
  obtain ⟨n, mem, same⟩ := given
  exact ⟨n, List.mem_append_left _ mem, same⟩

/-- A phone keeps what it owns. -/
theorem Fleet.Owns.note (owns : f.Owns i id) : (f.note cv j s b).Owns i id := by
  obtain ⟨given, q, mem, same⟩ := owns
  exact ⟨given.note, q, List.mem_append_left _ mem, same⟩

/-- Who a login has made the client is someone the phone owns. -/
theorem Fleet.login_owns {o : Outcome κ} (held : s.Held (f.Owns i)) (answers : f.Answers s (.serve env online))
    (enabled : s.client.enable = true) (waits : 0 < s.pending) (served : Server.serve cv env online s.client s.client.msg = .ok o)
    (out : s.client.user.ready = false) (ready : o.c.user.ready = true) (id : o.c.user.udb.userId = loginId env s.client.msg)
    (found : (∃ d owner, env.find (loginId env s.client.msg) = .found d owner) ∨ o.upsert = some o.c.user.udb)
    (stored : o.stored = true) : (f.note cv i s (.serve env online)).Owns i (loginId env s.client.msg) := by
  by_cases none_ : s.client.msg.userid = ""
  · -- a new userid, for which there is a document
    have registers : s.registered cv (.serve env online) = [env.unixNano] := by
      simp [Line.registered, served, out, ready, none_, stored]
    have given : (f.note cv i s (.serve env online)).Given i (loginId env s.client.msg) :=
      ⟨env.unixNano, by simp [note, registers], by rw [loginId, if_pos none_]; rfl⟩
    refine ⟨given, ?_⟩
    rcases found with ⟨d, owner, found⟩ | upsert
    · have known : d ∈ f.docs.map Prod.snd := by simpa only [Answers, found] using answers
      obtain ⟨q, mem, rfl⟩ := List.mem_map.1 known
      exact ⟨q, List.mem_append_left _ mem, owner⟩
    · have writes : s.written cv (.serve env online) = [o.c.user.udb] := by
        simp [Line.written, served, stored, upsert]
      exact ⟨(some i, o.c.user.udb), by simp [note, writes], id⟩
  · rw [loginId, if_neg none_]
    exact ((held.cell enabled waits).resolve_left none_).note

/-- **A step of the connection** keeps its userids the phone's, and so are those
of the documents that it stores. -/
theorem Fleet.line_held (held : s.Held (f.Owns i)) (answers : f.Answers s b) (h : Line.step cv cs s b = some t)
    (far : ∀ press, b ≠ .press press) :
    t.Held ((f.note cv i s b).Owns i) ∧ ∀ d ∈ s.written cv b, (f.note cv i s b).Given i d.userId := by
  have more : ∀ id, f.Owns i id → (f.note cv i s b).Owns i id := fun id owns => owns.note
  have silent : t.Held (f.Owns i) → s.written cv b = [] →
      t.Held ((f.note cv i s b).Owns i) ∧ ∀ d ∈ s.written cv b, (f.note cv i s b).Given i d.userId := fun held none_ =>
    ⟨held.mono more, fun d mem => by rw [none_] at mem; cases mem⟩
  cases b with
  | press press => exact absurd rfl (far press)
  | check =>
    refine silent ?_ rfl
    rw [(Line.step_check h).1]
    exact { held with }
  | decode =>
    obtain ⟨packet, rest, msg, waits, -, read, rfl⟩ := Line.step_decode h
    exact silent { held with
      asked := fun p mem => held.asked p (waits ▸ List.mem_cons_of_mem _ mem)
      cell := fun _ _ => held.asked packet (waits ▸ List.mem_cons_self) _ msg read } rfl
  | receive =>
    obtain ⟨reply, rest, -, rfl⟩ := Line.step_receive h
    refine silent ?_ rfl
    obtain ⟨user, delegate, same, -⟩ := Line.onMessage_eq cs { s with told := rest } reply
    rw [same]
    exact { held with }
  | lose =>
    cases Line.step_lose h
    exact silent { held with asked := (fun _ mem => by cases mem), cell := fun _ waits => absurd waits (lt_irrefl 0) } rfl
  | serve env online =>
    obtain ⟨-, waits, enabled, ⟨rfl, panics⟩ | ⟨o, served, rfl⟩⟩ := Line.step_serve h
    · refine silent { held with asked := (fun _ mem => by cases mem), cell := fun _ waits => absurd waits (lt_irrefl 0) } ?_
      cases served : Server.serve cv env online s.client s.client.msg with
      | ok o => exact absurd served (panics o)
      | error e => simp only [Line.written, served]
    · have writes : ∀ d ∈ s.written cv (.serve env online), o.stored = true ∧ d ∈ o.upsert := fun d mem => by
        simp only [Line.written, served] at mem
        split at mem
        · next stored => exact ⟨stored, by simpa using mem⟩
        · cases mem
      cases serve_identified served with
      | kept ready userId out msg upsert =>
        refine ⟨{
          asked := fun p mem cell m read => (held.asked p mem cell m read).imp_right (more _)
          cell := fun enabled' waits' => ?_
          account := fun logged enabled' => ?_
          clean := fun out' => ?_ }, fun d mem => ?_⟩
        · rw [msg enabled']
          exact (held.cell enabled waits).imp_right (more _)
        · rw [userId]
          exact more _ (held.account (ready.symm.trans logged) enabled)
        · have unready := ready.symm.trans out'
          dsimp only
          rw [out unready]
          exact held.clean unready
        · obtain ⟨same, why⟩ := upsert d (writes d mem).2
          have logged : s.client.user.ready = true := why.elim id fun dirty => by
            by_contra unready
            cases (held.clean (Bool.eq_false_iff.2 unready)).symm.trans dirty
          rw [same]
          exact (more _ (held.account logged enabled)).1
      | login out ready id msg upsert found stored =>
        have owns : o.stored = true → (f.note cv i s (.serve env online)).Owns i (loginId env s.client.msg) :=
          login_owns held answers enabled waits served out ready id found
        refine ⟨{
          asked := fun p mem cell m read => (held.asked p mem cell m read).imp_right (more _)
          cell := fun enabled' _ => ?_
          account := fun _ enabled' => ?_
          clean := fun out' => ?_ }, fun d mem => ?_⟩
        · rw [msg]
          exact .inr (owns (stored enabled'))
        · rw [id]
          exact owns (stored enabled')
        · cases ready.symm.trans out'
        · obtain ⟨stored', mem⟩ := writes d mem
          rw [upsert d mem, id]
          exact (owns stored').1

end

/-! ## What an app does -/

section
variable {κ : Type} {cv : FloatConv} {cs : CSJson} {p q : Phone κ} {a : PhoneStep κ} {behind : Option (Line κ)} {s t : App κ}

/-- What a step of a phone can be: its process begins or ends, it goes back to
the start, something is asked or something looks for an answer. -/
inductive Phone.Acts (p : Phone κ) : PhoneStep κ → Phone κ → Option (Line κ) → Prop where
  | launch (self : κ) (stageid heart : Int32) (dead : p.app = none) :
      Acts p (.launch self stageid heart)
        { p with app := some (.enter self { Pair.freshUser with stageid, heart, userid := p.file }) } none
  | exit (s : App κ) (app : p.app = some s) : Acts p .exit { p with app := none } (some s.line)
  | back (a : PhoneStep κ) (s : App κ) (u : RemoteUser) (self : κ) (delegate : MyDelegate Press) (app : p.app = some s)
      (user : s.line.user = some u)
      (why : s.state = .ok ∨ a = .update self ∧
        (s.line.delegate.recvflag = true ∨ ¬ s.line.delegate.recvcount + 1 < networkTimeout)) :
      Acts p a { p with app := some (.enter self u) } (some { s.line with delegate })
  | looks (a : PhoneStep κ) (s : App κ) (delegate : MyDelegate Press) (state : LoginState) (app : p.app = some s)
      (target : delegate.target = s.line.delegate.target) (lastseq : delegate.lastseq = s.line.delegate.lastseq)
      (opens : state = s.state ∨ s.state = .toOpen ∧ state = .toLogin)
      (recvflag : s.state = .toLogin → delegate.recvflag = s.line.delegate.recvflag)
      (stays : a ≠ .exit) (soon : (∃ self, a = .update self) → s.state = .toLogin → s.line.delegate.recvflag = false →
        s.line.delegate.recvcount + 1 < networkTimeout) :
      Acts p a { p with app := some { s with line := { s.line with delegate }, state } } none
  | asks (a : PhoneStep κ) (s : App κ) (press : Press) (u : RemoteUser) (packet : Json) (app : p.app = some s)
      (user : s.line.user = some u) (written : press.packet u s.line.delegate.seq = some packet)
      (why : s.state = .toLogin ∧ press = .login ∧ s.line.delegate.target = some .login ∧ s.line.delegate.recvflag = true ∨
        s.state = .ok ∧ press ≠ .login) (stays : a ≠ .exit) :
      Acts p a { p with app := some { s with line := { s.line with
        delegate := s.line.delegate.sendServer (some press), asked := s.line.asked ++ [packet] } } } none

/-- `update`, by what `CheckRecv` finds. -/
theorem App.update_cases {back : Bool} (h : s.update cv cs = some (t, back)) :
    s.line.delegate.target = some .login ∧
      (t = s ∧ s.line.delegate.recvflag = true ∧ (back = true ∨ s.state ≠ .toLogin) ∨
        (∃ line, Line.step cv cs s.line (.press .login) = some line ∧ t = { s with line } ∧ back = false ∧
          s.state = .toLogin ∧ s.line.delegate.recvflag = true) ∨
        ∃ delegate, t = { s with line := { s.line with delegate } } ∧ delegate.target = s.line.delegate.target ∧
          delegate.lastseq = s.line.delegate.lastseq ∧ delegate.recvflag = s.line.delegate.recvflag ∧
          (back = false → s.state = .toLogin → s.line.delegate.recvcount + 1 < networkTimeout) ∧
          (back = true → ¬ s.line.delegate.recvcount + 1 < networkTimeout)) := by
  unfold update at h
  cases target : s.line.delegate.target with
  | none => simp [target] at h
  | some press =>
    cases press with
    | login =>
      refine ⟨rfl, ?_⟩
      cases received : s.line.delegate.recvflag with
      | true =>
        rw [MyDelegate.checkRecv_received received, target] at h
        dsimp only at h
        split at h
        · cases h
          exact .inl ⟨rfl, rfl, .inl rfl⟩
        · split at h
          · next state =>
            obtain ⟨line, sent, same⟩ := Option.map_eq_some_iff.1 h
            cases same
            exact .inr (.inl ⟨line, sent, rfl, rfl, state, rfl⟩)
          · next state =>
            cases h
            exact .inl ⟨rfl, rfl, .inr state⟩
      | false =>
        by_cases soon : s.line.delegate.recvcount + 1 < networkTimeout
        · rw [MyDelegate.checkRecv_waiting received soon, target] at h
          cases h
          exact .inr (.inr ⟨_, rfl, rfl, rfl, received, fun _ _ => soon, fun same => by cases same⟩)
        · rw [MyDelegate.checkRecv_timeout received soon target, target] at h
          cases h
          exact .inr (.inr ⟨_, rfl, rfl, rfl, received, fun same state => by simp [state] at same, fun _ => soon⟩)
    | _ => simp [target] at h

/-- **The list is complete.** -/
theorem Phone.step_acts (h : p.step cv cs a = some (q, behind)) : p.Acts a q behind := by
  unfold Phone.step at h
  cases app : p.app with
  | none =>
    rw [app] at h
    cases a with
    | launch self stageid heart =>
      cases h
      exact .launch self stageid heart app
    | _ => cases h
  | some s =>
    rw [app] at h
    have back : ∀ {t : App κ} {self}, p.back t self = some (q, behind) → t.state = s.state →
        t.line = { s.line with delegate := t.line.delegate } → (s.state = .ok ∨ a = .update self ∧
          (s.line.delegate.recvflag = true ∨ ¬ s.line.delegate.recvcount + 1 < networkTimeout)) → p.Acts a q behind := by
      intro t self h state line why
      obtain ⟨u, user, same⟩ := Option.map_eq_some_iff.1 h
      cases same
      rw [line] at user ⊢
      exact .back a s u self t.line.delegate app user why
    cases a with
    | launch => cases h
    | exit =>
      cases h
      exact .exit s app
    | onOpen =>
      obtain ⟨t, opened, same⟩ := Option.map_eq_some_iff.1 h
      cases same
      unfold App.onOpen at opened
      split at opened
      · next first =>
        cases target : s.line.delegate.target with
        | none =>
          rw [MyDelegate.onOpen_none target] at opened
          cases opened
        | some press =>
          rw [MyDelegate.onOpen_some target] at opened
          cases press <;> cases opened
          exact .looks .onOpen s _ .toLogin app rfl rfl (.inr ⟨first.1, rfl⟩)
            (fun state => by cases first.1.symm.trans state) nofun fun ⟨_, same⟩ => by cases same
      · cases opened
    | update self =>
      dsimp only at h
      cases done : s.update cv cs with
      | none =>
        rw [done] at h
        cases h
      | some result =>
        obtain ⟨t, again⟩ := result
        rw [done] at h
        obtain ⟨target, ⟨rfl, received, how⟩ | ⟨line, sent, rfl, rfl, state, received⟩ |
          ⟨delegate, rfl, same, lastseq, recvflag, soon, late⟩⟩ := App.update_cases done
        · cases again with
          | true => exact back h rfl rfl (.inr ⟨rfl, .inl received⟩)
          | false =>
            cases h
            have idle : t.state ≠ .toLogin := how.resolve_left nofun
            exact .looks (.update self) t t.line.delegate t.state app rfl rfl (.inl rfl) (fun _ => rfl) nofun
              fun _ state => absurd state idle
        · cases h
          obtain ⟨u, packet, user, written, rfl⟩ := Line.step_press sent
          exact .asks (.update self) s .login u packet app user written (.inl ⟨state, rfl, target, received⟩) nofun
        · cases again with
          | true => exact back h rfl rfl (.inr ⟨rfl, .inr (late rfl)⟩)
          | false =>
            cases h
            exact .looks (.update self) s delegate s.state app same lastseq (.inl rfl) (fun _ => recvflag) nofun
              fun _ state _ => soon rfl state
    | goto self =>
      dsimp only at h
      split at h
      · next errs => exact back h rfl rfl (.inl errs.1)
      · cases h
    | check =>
      dsimp only at h
      split at h
      · next state =>
        obtain ⟨line, checked, same⟩ := Option.map_eq_some_iff.1 h
        cases same
        obtain ⟨same, target, lastseq⟩ := Line.step_check checked
        rw [same]
        exact .looks .check s line.delegate s.state app target lastseq (.inl rfl)
          (fun state' => by cases state.symm.trans state') nofun fun ⟨_, same⟩ => by cases same
      · cases h
    | press press =>
      dsimp only at h
      split at h
      · next allowed =>
        obtain ⟨line, sent, same⟩ := Option.map_eq_some_iff.1 h
        cases same
        obtain ⟨u, packet, user, written, rfl⟩ := Line.step_press sent
        refine .asks (.press press) s press u packet app user written (.inr ⟨allowed.1, fun same => ?_⟩) nofun
        subst same
        exact allowed.2 rfl
      · cases h

end

/-! ## What a reply does to the userid -/

section
variable {cs : CSJson} {u v : RemoteUser} {reply : Msg}

/-- Reading the hearts keeps the userid. -/
theorem readHeart_userid {b : Body} (h : u.readHeart cs b = some v) : v.userid = u.userid := by
  obtain ⟨heart, -, h⟩ := Option.bind_eq_some_iff.1 h
  cases h
  rfl

/-- Reading the stage keeps the userid. -/
theorem readStageid_userid {b : Body} (h : u.readStageid cs b = some v) : v.userid = u.userid := by
  obtain ⟨stageid, -, h⟩ := Option.bind_eq_some_iff.1 h
  cases h
  rfl

/-- Setting one lock keeps the userid. -/
theorem setEventlock_userid {stageid lock : Int32} (h : u.setEventlock stageid lock = some v) : v.userid = u.userid := by
  unfold RemoteUser.setEventlock at h
  split at h <;> cases h
  rfl

/-- Setting all locks keeps the userid. -/
theorem setEventlocks_userid {values : List Value} {i : ℕ} (h : u.setEventlocks cs i values = some v) : v.userid = u.userid := by
  induction values generalizing u i with
  | nil =>
    cases h
    rfl
  | cons value values ih =>
    obtain ⟨lock, -, h⟩ := Option.bind_eq_some_iff.1 h
    obtain ⟨w, set, h⟩ := Option.bind_eq_some_iff.1 h
    exact (ih h).trans (setEventlock_userid set)

/-- The start scene takes the userid of the reply where it has none. -/
theorem startRecv_userid (h : startRecv cs u reply = some v) :
    cs.field reply.errCode = some 0 ∧ v.userid = (if u.userid = "" then reply.userid else u.userid) ∨
      (∃ e, cs.field reply.errCode = some e ∧ e ≠ 0) ∧ v = u := by
  obtain ⟨e, read, h⟩ := Option.bind_eq_some_iff.1 h
  split at h
  · next zero =>
    subst zero
    obtain ⟨w, heart, h⟩ := Option.bind_eq_some_iff.1 h
    obtain ⟨w', stageid, h⟩ := Option.bind_eq_some_iff.1 h
    obtain ⟨w'', locks, h⟩ := Option.bind_eq_some_iff.1 h
    have same : w''.userid = u.userid :=
      (setEventlocks_userid locks).trans ((readStageid_userid stageid).trans (readHeart_userid heart))
    refine .inl ⟨read, ?_⟩
    cases h
    rw [← same]
    split <;> rfl
  · next code =>
    cases h
    exact .inr ⟨⟨e, read, code⟩, rfl⟩

/-- No other scene does. -/
theorem recv_userid {press : Press} (other : press ≠ .login) (h : press.recv cs u reply = some v) : v.userid = u.userid := by
  have stage : ∀ {b}, (u.readHeart cs b >>= fun u => u.readStageid cs b) = some v → v.userid = u.userid := fun h => by
    obtain ⟨w, heart, h⟩ := Option.bind_eq_some_iff.1 h
    exact (readStageid_userid h).trans (readHeart_userid heart)
  have played : playRecv cs u reply = some v → v.userid = u.userid := fun h => by
    obtain ⟨e, -, h⟩ := Option.bind_eq_some_iff.1 h
    split at h
    · cases h
      rfl
    · obtain ⟨cmd, -, h⟩ := Option.bind_eq_some_iff.1 h
      split at h
      · exact stage h
      · split at h
        · exact readHeart_userid h
        · cases h
          rfl
  cases press with
  | login => exact absurd rfl other
  | play =>
    obtain ⟨e, -, h⟩ := Option.bind_eq_some_iff.1 h
    split at h
    · exact stage h
    · cases h
      rfl
  | unlock =>
    obtain ⟨e, -, h⟩ := Option.bind_eq_some_iff.1 h
    split at h
    · obtain ⟨w, heart, h⟩ := Option.bind_eq_some_iff.1 h
      obtain ⟨stageid, -, h⟩ := Option.bind_eq_some_iff.1 h
      obtain ⟨lock, -, h⟩ := Option.bind_eq_some_iff.1 h
      exact (setEventlock_userid h).trans (readHeart_userid heart)
    · cases h
      rfl
  | endPlay | useFinger | useReplay => exact played h

end

/-! ## Where a login is -/

/-- The start scene waits for the reply to its login. -/
structure App.Asking {κ : Type} (s : App κ) : Prop where
  state : s.state = .toLogin
  target : s.line.delegate.target = some .login
  recvflag : s.line.delegate.recvflag = false
  user : s.line.user.isSome = true

/-- Where the login of an app is while its connection is open, on a phone with
this file. -/
inductive App.Place {κ : Type} (G : String → Prop) (file : String) (s : App κ) : Prop where
  | silent (state : s.state = .toOpen ∨ s.state = .toLogin) (quiet : s.line.Quiet) (out : s.line.client.user.ready = false)
  | asked (asking : s.Asking) (packet : Json)
      (reads : ∀ cell m, readPacket cell packet = some m →
        m.cmd = kCmdUserLogin ∧ m.userid = file ∧ m.seq = numOf s.line.delegate.lastseq)
      (asked : s.line.asked = [packet]) (pending : s.line.pending = 0) (told : s.line.told = [])
      (out : s.line.client.user.ready = false)
  | decoded (asking : s.Asking) (cmd : s.line.client.msg.cmd = kCmdUserLogin) (userid : s.line.client.msg.userid = file)
      (seq : s.line.client.msg.seq = numOf s.line.delegate.lastseq) (asked : s.line.asked = []) (pending : s.line.pending = 1)
      (told : s.line.told = []) (out : s.line.client.user.ready = false)
  | told (asking : s.Asking) (reply : Msg) (seq : reply.seq = numOf s.line.delegate.lastseq) (asked : s.line.asked = [])
      (pending : s.line.pending = 0) (told : s.line.told = [reply])
      (code : ∃ e : UInt32, e.toNat ≤ 5 ∧ reply.errCode = .ofUInt32 e)
      (good : reply.errCode = 0 → s.line.client.user.ready = true ∧ reply.userid ≠ "" ∧ G reply.userid)
  | done (state : s.state = .ok) (named : file ≠ "") (ready : s.line.client.user.ready = true)
      (calm : s.line.delegate.target = some .login → s.line.Quiet)
  | refused (state : s.state = .error) (quiet : s.line.Quiet)
  | ended (user : s.line.user = none) (calm : s.line.client.user.ready = true ∨ s.line.Quiet)

/-- What holds of an app that runs. -/
structure App.Runs {κ : Type} (G : String → Prop) (file : String) (s : App κ) : Prop where
  held : s.line.Held G
  user : ∀ u ∈ s.line.user, u.userid = file
  place : s.line.up = true → s.Place G file
  silent : s.line.up = false → s.line.told = []

/-- What holds of a phone that owns the userids in `G`. -/
structure Phone.Home {κ : Type} (G : String → Prop) (p : Phone κ) : Prop where
  file : p.file ≠ "" → G p.file
  app : ∀ s ∈ p.app, s.Runs G p.file

section
variable {κ : Type} {cv : FloatConv} {cs : CSJson} {G G' : String → Prop} {p q : Phone κ} {a : PhoneStep κ}
  {behind : Option (Line κ)} {file : String} {s t : App κ}

/-- A login may own more userids than it uses. -/
theorem App.Place.mono (place : s.Place G file) (more : ∀ id, G id → G' id) : s.Place G' file := by
  cases place with
  | silent state quiet out => exact .silent state quiet out
  | asked asking packet reads asked pending told out => exact .asked asking packet reads asked pending told out
  | decoded asking cmd userid seq asked pending told out => exact .decoded asking cmd userid seq asked pending told out
  | told asking reply seq asked pending told code good =>
    exact .told asking reply seq asked pending told code fun zero => ⟨(good zero).1, (good zero).2.1, more _ (good zero).2.2⟩
  | done state named ready calm => exact .done state named ready calm
  | refused state quiet => exact .refused state quiet
  | ended user calm => exact .ended user calm

/-- An app may own more userids than it uses. -/
theorem App.Runs.mono (runs : s.Runs G file) (more : ∀ id, G id → G' id) : s.Runs G' file :=
  ⟨runs.held.mono more, runs.user, fun up => (runs.place up).mono more, runs.silent⟩

/-- A phone may own more userids than it uses. -/
theorem Phone.Home.mono (home : p.Home G) (more : ∀ id, G id → G' id) : p.Home G' :=
  ⟨fun named => more _ (home.file named), fun s app => (home.app s app).mono more⟩

/-- A start scene with a new connection has nothing under way. -/
theorem enter_runs (self : κ) (u : RemoteUser) : (App.enter self u).Runs G u.userid where
  held := idle_held self u _
  user := fun v same => by cases same; rfl
  place := fun _ => .silent (.inl rfl) ⟨rfl, rfl, rfl⟩ rfl
  silent := fun _ => rfl

/-- A look for an answer leaves the login where it is. -/
theorem App.Place.looks {delegate : MyDelegate Press} {state : LoginState} (place : s.Place G file)
    (target : delegate.target = s.line.delegate.target) (lastseq : delegate.lastseq = s.line.delegate.lastseq)
    (opens : state = s.state ∨ s.state = .toOpen ∧ state = .toLogin)
    (recvflag : s.state = .toLogin → delegate.recvflag = s.line.delegate.recvflag) :
    App.Place G file { s with line := { s.line with delegate }, state } := by
  have asks : s.Asking → App.Asking { s with line := { s.line with delegate }, state } := fun asking => by
    have same : state = s.state := opens.resolve_right fun first => by cases asking.state.symm.trans first.1
    exact ⟨same.trans asking.state, target.trans asking.target, (recvflag asking.state).trans asking.recvflag, asking.user⟩
  cases place with
  | silent state' quiet out =>
    refine .silent ?_ quiet out
    rcases opens with rfl | ⟨-, rfl⟩
    · exact state'
    · exact .inr rfl
  | asked asking packet reads asked pending told out =>
    exact .asked (asks asking) packet (fun cell m read => lastseq ▸ reads cell m read) asked pending told out
  | decoded asking cmd userid seq asked pending told out =>
    exact .decoded (asks asking) cmd userid (lastseq ▸ seq) asked pending told out
  | told asking reply seq asked pending told code good =>
    exact .told (asks asking) reply (lastseq ▸ seq) asked pending told code good
  | done state' named ready calm =>
    have same : state = s.state := opens.resolve_right fun first => by cases state'.symm.trans first.1
    exact .done (same.trans state') named ready fun start => calm (target.symm.trans start)
  | refused state' quiet =>
    have same : state = s.state := opens.resolve_right fun first => by cases state'.symm.trans first.1
    exact .refused (same.trans state') quiet
  | ended user calm => exact .ended user calm

/-- **A step of a phone.** -/
theorem Phone.Acts.home (acts : p.Acts a q behind) (home : p.Home G) :
    q.Home G ∧ q.file = p.file ∧ ∀ line ∈ behind, line.Held G := by
  cases acts with
  | launch self stageid heart dead =>
    refine ⟨⟨home.file, fun s app => ?_⟩, rfl, fun _ none_ => by cases none_⟩
    cases app
    exact enter_runs self { Pair.freshUser with stageid, heart, userid := p.file }
  | exit s app =>
    refine ⟨⟨home.file, fun _ none_ => by cases none_⟩, rfl, fun line same => ?_⟩
    cases same
    exact (home.app s app).held
  | back _ s u self delegate app user why =>
    have runs := home.app s app
    refine ⟨⟨home.file, fun t same => ?_⟩, rfl, fun line same => ?_⟩
    · cases same
      have entered := enter_runs (G := G) self u
      rwa [runs.user u user] at entered
    · cases same
      exact { runs.held with }
  | looks _ s delegate state app target lastseq opens recvflag =>
    have runs := home.app s app
    refine ⟨⟨home.file, fun t same => ?_⟩, rfl, fun _ none_ => by cases none_⟩
    cases same
    exact ⟨{ runs.held with }, runs.user, fun up => (runs.place up).looks target lastseq opens recvflag, runs.silent⟩
  | asks _ s press u packet app user written why =>
    have runs := home.app s app
    have userid := runs.user u user
    have reads : ∀ cell m, readPacket cell packet = some m → m.userid = p.file := fun cell m read => by
      obtain ⟨m', read', -, same, -⟩ := packet_read (c := cell) written
      cases read'.symm.trans read
      exact same.trans userid
    refine ⟨⟨home.file, fun t same => ?_⟩, rfl, fun _ none_ => by cases none_⟩
    cases same
    refine ⟨{ runs.held with asked := fun packet' mem cell m read => ?_ }, runs.user, fun up => ?_, runs.silent⟩
    · rcases List.mem_append.1 mem with old | new
      · exact runs.held.asked packet' old cell m read
      · cases List.mem_singleton.1 new
        rw [reads cell m read]
        by_cases none_ : p.file = ""
        · exact .inl none_
        · exact .inr (home.file none_)
    · rcases why with ⟨state, rfl, target, received⟩ | ⟨state, other⟩
      · cases runs.place up with
        | silent _ quiet out =>
          refine .asked ⟨state, rfl, rfl, by simp [user]⟩ packet (fun cell m read => ?_) (by simp [quiet.1]) quiet.2.1
            quiet.2.2 out
          have read' := readPacket_login (c := cell) written
          cases read'.symm.trans read
          exact ⟨rfl, userid, rfl⟩
        | asked asking | decoded asking | told asking => cases asking.recvflag.symm.trans received
        | done state' | refused state' => cases state'.symm.trans state
        | ended none_ => cases none_.symm.trans user
      · cases runs.place up with
        | silent state' =>
          rcases state' with state' | state'
          all_goals cases state'.symm.trans state
        | asked asking | decoded asking | told asking => cases asking.state.symm.trans state
        | done _ named ready _ => exact .done state named ready fun start => absurd (Option.some.inj start) other
        | refused state' => cases state'.symm.trans state
        | ended none_ => cases none_.symm.trans user

/-- The reply to a first login. -/
theorem login_told {c : Client κ} {env : Env} {online : Online κ} {m : Msg} {o : Outcome κ} (out : c.user.ready = false)
    (cmd : m.cmd = kCmdUserLogin) (served : Server.serve cv env online c m = .ok o) :
    ∃ reply, o.sent = [reply] ∧ reply.seq = m.seq ∧ (∃ e : UInt32, e.toNat ≤ 5 ∧ reply.errCode = .ofUInt32 e) ∧
      (reply.errCode = 0 ↔ o.c.user.ready = true ∧ o.stored = true) := by
  have small : m.cmd.val < 128 := cmd ▸ Pair.press_small .login
  obtain ⟨reply, sent, last, -, told, -⟩ := serve_told small served
  refine ⟨reply, sent, last ▸ serve_seq small served, last ▸ serve_code small served, ?_⟩
  have cmd' : m.cmd = .ofUInt32 Press.login.cmd := cmd
  have picked := chosen_press cv c.user cmd'
  rw [if_neg (by simp [Press.handler])] at picked
  cases told with
  | unserved which =>
    rw [picked] at which
    rcases which with none_ | ⟨logged, -⟩
    · cases none_
    · cases out.symm.trans logged
  | refused _ _ ready | served _ _ ready => cases out.symm.trans ready
  | loadFailed _ _ _ user code => exact iff_of_false code fun ready => by rw [user, out] at ready; cases ready.1
  | loggedIn u _ _ _ user _ code =>
    have stored : o.stored = o.c.user.stored env := by
      rcases procMsg_ok.1 served with ⟨big, -⟩ | ⟨-, ran, r, -, rfl⟩
      · exact absurd small (not_lt.2 big)
      · rw [finish_stored, finish_user]
        rfl
    rw [stored, user, code, loggedIn_ready, eq_self, true_and]

/-- Reading a reply that is not to a login. -/
theorem onMessage_other (line : Line κ) (reply : Msg) (other : line.delegate.target ≠ some .login) :
    ∀ v ∈ (line.onMessage cs reply).user, ∃ u ∈ line.user, v.userid = u.userid := by
  intro v found
  obtain ⟨user, delegate, same, -, came⟩ := Line.onMessage_eq cs line reply
  rw [same] at found
  rcases came v found with kept | ⟨press, u, target, user, recv⟩
  · exact ⟨v, kept, rfl⟩
  · refine ⟨u, user, recv_userid (fun same => other ?_) recv⟩
    rw [target, same]

/-- `userdata` is written only when the userid of the copy changes. -/
theorem flush_same {file : String} {u v : RemoteUser} (same : v.userid = u.userid) : flush file (some u) (some v) = file := by
  change (if u.userid = "" ∧ v.userid ≠ "" then v.userid else file) = file
  rw [if_neg (by rintro ⟨none_, some_⟩; exact some_ (same.trans none_))]

/-- What is received has been told. -/
theorem App.receive_told (h : s.receive cs = some t) : ∃ reply rest, s.line.told = reply :: rest := by
  unfold App.receive at h
  split at h
  · cases h
  · next reply rest told => exact ⟨reply, rest, told⟩

/-- A connection that has replies on their way is open. -/
theorem App.Runs.told_up {reply : Msg} {rest : List Msg} (runs : s.Runs G file) (told : s.line.told = reply :: rest) :
    s.line.up = true := by
  by_contra closed
  cases (runs.silent (Bool.eq_false_iff.2 closed)).symm.trans told

/-- The start scene reads the reply to its login. -/
theorem App.receive_login {u : RemoteUser} {reply : Msg} {rest : List Msg} (h : s.receive cs = some t)
    (told : s.line.told = reply :: rest) (user : s.line.user = some u) (target : s.line.delegate.target = some .login)
    (seq : reply.seq = numOf s.line.delegate.lastseq) :
    t.line = { s.line with
        told := rest, delegate := { s.line.delegate with recvflag := true }, user := startRecv cs u reply } ∧
      (t.line.user ≠ none → t.state = if cs.field reply.errCode = some 0 then .ok else .error) := by
  have last : Line.onMessage cs { s.line with told := rest } reply = { s.line with
      told := rest, delegate := { s.line.delegate with recvflag := true }, user := startRecv cs u reply } :=
    Line.onMessage_last (s := { s.line with told := rest }) user target seq
  have passed : ((cs.field reply.seq).bind fun seq => (s.line.delegate.onMessage seq).2) = some .login := by
    rw [seq, field_numOf, Option.bind_some, MyDelegate.onMessage_target rfl target]
  unfold receive at h
  rw [told] at h
  dsimp only at h
  rw [last, passed] at h
  dsimp only at h
  cases read : startRecv cs u reply with
  | none =>
    rw [read] at h
    cases h
    exact ⟨rfl, fun some_ => absurd rfl some_⟩
  | some v =>
    rw [read] at h
    cases h
    exact ⟨rfl, fun _ => by simp⟩

/-- Another scene reads a reply. -/
theorem App.receive_other {reply : Msg} {rest : List Msg} (h : s.receive cs = some t) (told : s.line.told = reply :: rest)
    (other : s.line.delegate.target ≠ some .login) :
    t.line = Line.onMessage cs { s.line with told := rest } reply ∧ t.state = s.state := by
  have passed : ((cs.field reply.seq).bind fun seq => (s.line.delegate.onMessage seq).2) ≠ some .login := fun same => by
    obtain ⟨seq, -, same⟩ := Option.bind_eq_some_iff.1 same
    rw [MyDelegate.onMessage_snd] at same
    split at same
    · exact other same
    · cases same
  unfold receive at h
  rw [told] at h
  dsimp only at h
  split at h
  · next same => exact absurd same passed
  · cases h; exact ⟨rfl, rfl⟩
  · cases h; exact ⟨rfl, rfl⟩
  · cases h; exact ⟨rfl, rfl⟩

/-- **A reply is read.** -/
theorem Phone.Home.receive {u : RemoteUser} (home : p.Home G) (app : p.app = some s) (user : s.line.user = some u)
    (h : s.receive cs = some t) : (Phone.mk (flush p.file s.line.user t.line.user) (some t)).Home G ∧
      (p.file ≠ "" → flush p.file s.line.user t.line.user = p.file) := by
  have runs := home.app s app
  have userid := runs.user u user
  obtain ⟨reply, rest, told⟩ := App.receive_told h
  have up := runs.told_up told
  rw [user]
  cases runs.place up with
  | silent _ quiet | refused _ quiet => cases quiet.2.2.symm.trans told
  | asked _ _ _ _ _ none_ | decoded _ _ _ _ _ _ none_ => cases none_.symm.trans told
  | ended none_ => cases none_.symm.trans user
  | done state named ready calm =>
    have other : s.line.delegate.target ≠ some .login := fun start => by cases (calm start).2.2.symm.trans told
    obtain ⟨line, state'⟩ := App.receive_other h told other
    have kept : ∀ v ∈ t.line.user, v.userid = p.file := fun v found => by
      rw [line] at found
      obtain ⟨w, mem, same⟩ := onMessage_other { s.line with told := rest } reply other v found
      cases user.symm.trans mem
      exact same.trans userid
    obtain ⟨user', delegate, same, target, -⟩ := Line.onMessage_eq cs { s.line with told := rest } reply
    have file : flush p.file (some u) t.line.user = p.file := by
      cases found : t.line.user with
      | none => rfl
      | some v => exact flush_same ((kept v found).trans userid.symm)
    rw [file]
    refine ⟨⟨home.file, fun t' same' => ?_⟩, fun _ => rfl⟩
    cases same'
    have held : t.line.Held G := by
      rw [line, same]
      exact { runs.held with }
    refine ⟨held, kept, fun _ => .done (state'.trans state) named ?_ fun start => absurd ?_ other, fun closed => ?_⟩
    · rw [line, same]
      exact ready
    · rw [line, same] at start
      exact target.symm.trans start
    · rw [line, same] at closed
      cases up.symm.trans closed
  | told asking reply' seq asked pending told' code good =>
    cases told'.symm.trans told
    obtain ⟨line, state⟩ := App.receive_login h told user asking.target seq
    have held : t.line.Held G := by
      rw [line]
      exact { runs.held with }
    have quiet : t.line.Quiet := by
      rw [line]
      exact ⟨asked, pending, rfl⟩
    have open_ : t.line.up = true := by rw [line]; exact up
    have user' : t.line.user = startRecv cs u reply := by rw [line]
    cases read : startRecv cs u reply with
    | none =>
      rw [user', read]
      refine ⟨⟨home.file, fun t' same => ?_⟩, fun _ => rfl⟩
      cases same
      refine ⟨held, fun v found => ?_, fun _ => .ended (user'.trans read) (.inr quiet), fun closed => ?_⟩
      · rw [user', read] at found
        cases found
      · cases open_.symm.trans closed
    | some v =>
      rw [user', read]
      have state := state (by rw [user', read]; exact nofun)
      have end_ : ∀ file, v.userid = file → (file ≠ "" → G file) → (t.line.up = true → App.Place G file t) →
          Phone.Home G ⟨file, some t⟩ := fun file same named place => ⟨named, fun t' same' => by
        cases same'
        refine ⟨held, fun w found => ?_, place, fun closed => ?_⟩
        · cases found.symm.trans (user'.trans read)
          exact same
        · cases open_.symm.trans closed⟩
      rcases startRecv_userid read with ⟨zero, taken⟩ | ⟨⟨e, bad, nonzero⟩, rfl⟩
      · obtain ⟨e, few, code⟩ := code
        obtain ⟨ready, some_, owns⟩ := good (errCode_zero few code (by rw [zero]; rfl))
        rw [if_pos zero] at state
        have logged : t.line.client.user.ready = true := by rw [line]; exact ready
        by_cases none_ : p.file = ""
        · rw [if_pos (userid.trans none_)] at taken
          have file : flush p.file (some u) (some v) = reply.userid := by
            change (if u.userid = "" ∧ v.userid ≠ "" then v.userid else p.file) = reply.userid
            rw [if_pos ⟨userid.trans none_, taken ▸ some_⟩, taken]
          rw [file]
          exact ⟨end_ _ taken (fun _ => owns) fun _ => .done state some_ logged fun _ => quiet, fun some_ => absurd none_ some_⟩
        · rw [if_neg (userid ▸ none_)] at taken
          rw [flush_same taken]
          exact ⟨end_ _ (taken.trans userid) home.file fun _ => .done state none_ logged fun _ => quiet, fun _ => rfl⟩
      · rw [if_neg (by rw [bad]; simpa using nonzero)] at state
        rw [flush_same rfl]
        exact ⟨end_ _ userid home.file fun _ => .refused state quiet, fun _ => rfl⟩

/-- A step of a phone's connection is read by the app, or moves the connection. -/
theorem Phone.lineStep_cases {b : LineStep κ} (h : p.lineStep cv cs b = some q) : ∃ s, p.app = some s ∧
    ((b = .receive ∧ ∃ u t, s.line.user = some u ∧ s.receive cs = some t ∧
        q = ⟨flush p.file s.line.user t.line.user, some t⟩) ∨
      (b = .decode ∨ (∃ env online, b = .serve env online) ∨ b = .lose) ∧ ∃ line gotostart,
        Line.step cv cs s.line b = some line ∧ q = { p with app := some { s with line, gotostart } }) := by
  unfold Phone.lineStep at h
  split at h
  · next s app =>
    split at h
    · next reads =>
      obtain ⟨t, received, rfl⟩ := Option.map_eq_some_iff.1 h
      obtain ⟨u, user⟩ := Option.isSome_iff_exists.1 reads
      exact ⟨s, app, .inl ⟨rfl, u, t, user, received, rfl⟩⟩
    · cases h
  · next s app =>
    obtain ⟨line, moved, rfl⟩ := Option.map_eq_some_iff.1 h
    exact ⟨s, app, .inr ⟨.inl rfl, line, _, moved, rfl⟩⟩
  · next s env online app =>
    obtain ⟨line, moved, rfl⟩ := Option.map_eq_some_iff.1 h
    exact ⟨s, app, .inr ⟨.inr (.inl ⟨env, online, rfl⟩), line, _, moved, rfl⟩⟩
  · next s app =>
    obtain ⟨line, moved, rfl⟩ := Option.map_eq_some_iff.1 h
    exact ⟨s, app, .inr ⟨.inr (.inr rfl), line, _, moved, rfl⟩⟩
  · cases h

end

section
variable {ι κ : Type} {cv : FloatConv} {cs : CSJson} {env : Env} {online : Online κ} {f : Fleet ι κ} {i : ι} {file : String}
  {s : App κ} {line : Line κ} {b : LineStep κ} {gotostart : Bool}

/-- A packet is decoded. -/
theorem App.Place.decode {G : String → Prop} (place : s.Place G file) (h : Line.step cv cs s.line .decode = some line) :
    App.Place G file { s with line, gotostart } := by
  obtain ⟨packet, rest, msg, waits, -, read, rfl⟩ := Line.step_decode h
  cases place with
  | silent _ quiet | refused _ quiet => cases quiet.1.symm.trans waits
  | decoded _ _ _ _ none_ | told _ _ _ none_ => cases none_.symm.trans waits
  | asked asking packet' reads asked pending told out =>
    cases asked.symm.trans waits
    obtain ⟨cmd, userid, seq⟩ := reads _ msg read
    exact .decoded { asking with } cmd userid seq rfl (congrArg (· + 1) pending) told out
  | done state named ready calm => exact .done state named ready fun start => by cases (calm start).1.symm.trans waits
  | ended user calm => exact .ended user (.inl (calm.resolve_right fun quiet => by cases quiet.1.symm.trans waits))

/-- A request is served. -/
theorem App.Place.serve (place : s.Place (f.Owns i) file) (held : s.line.Held (f.Owns i))
    (answers : f.Answers s.line (.serve env online)) (h : Line.step cv cs s.line (.serve env online) = some line)
    (open_ : line.up = true) :
    App.Place ((f.note cv i s.line (.serve env online)).Owns i) file { s with line, gotostart } := by
  obtain ⟨-, waits, enabled, ⟨rfl, -⟩ | ⟨o, served, rfl⟩⟩ := Line.step_serve h
  · cases open_
  cases place with
  | silent _ quiet | refused _ quiet => rw [quiet.2.1] at waits; cases waits
  | asked _ _ _ _ none_ | told _ _ _ _ none_ => rw [none_] at waits; cases waits
  | decoded asking cmd userid seq asked pending told out =>
    obtain ⟨reply, sent, seq', code, zero⟩ := login_told out cmd served
    refine .told { asking with } reply (seq'.trans seq) asked (by simp [pending]) (by simp [told, sent]) code fun good => ?_
    obtain ⟨ready, stored⟩ := zero.1 good
    cases serve_identified served with
    | kept ready' => cases (ready'.symm.trans ready).symm.trans out
    | login _ _ id _ _ found _ named =>
      have named := named reply (by rw [sent]; exact List.mem_singleton_self _)
      refine ⟨ready, named ▸ loginId_ne_empty env _, ?_⟩
      rw [named]
      exact Fleet.login_owns held answers enabled waits served out ready id found stored
  | done state named ready calm =>
    exact .done state named (serve_ready ready served) fun start => by rw [(calm start).2.1] at waits; cases waits
  | ended user calm =>
    refine .ended user (.inl (serve_ready (calm.resolve_right fun quiet => ?_) served))
    rw [quiet.2.1] at waits
    cases waits

/-- **A step of a phone's connection.** -/
theorem Phone.Home.moves {p q : Phone κ} (home : p.Home (f.Owns i)) (app : p.app = some s) (answers : f.Answers s.line b)
    (h : p.lineStep cv cs b = some q) :
    q.Home ((f.note cv i s.line b).Owns i) ∧ (p.file ≠ "" → q.file = p.file) ∧
      ∀ d ∈ s.line.written cv b, (f.note cv i s.line b).Given i d.userId := by
  obtain ⟨s', app', ⟨rfl, u, t, user, received, rfl⟩ | ⟨kind, line, gotostart, moved, rfl⟩⟩ := Phone.lineStep_cases h
  all_goals cases app.symm.trans app'
  · obtain ⟨home', file⟩ := home.receive app user received
    exact ⟨home'.mono fun id owns => owns.note, file, fun d mem => by cases mem⟩
  · have runs := home.app s app
    have more : ∀ id, f.Owns i id → (f.note cv i s.line b).Owns i id := fun id owns => owns.note
    obtain ⟨held, docs⟩ := Fleet.line_held runs.held answers moved fun press same => by
      rcases kind with rfl | ⟨_, _, rfl⟩ | rfl <;> cases same
    have kept : line.user = s.line.user ∧ (line.up = false → line.told = []) ∧
        (line.up = true → App.Place ((f.note cv i s.line b).Owns i) p.file { s with line, gotostart }) := by
      rcases kind with rfl | ⟨env, online, rfl⟩ | rfl
      · obtain ⟨_, _, _, -, -, -, same⟩ := Line.step_decode moved
        refine ⟨by rw [same], fun closed => ?_, fun up => ?_⟩
        · rw [same] at closed ⊢
          exact runs.silent closed
        · rw [same] at up
          exact ((runs.place up).decode moved).mono more
      · refine ⟨?_, fun closed => ?_, fun open_ => ?_⟩
        all_goals obtain ⟨up, -, -, ⟨same, -⟩ | ⟨o, -, same⟩⟩ := Line.step_serve moved
        · rw [same]; rfl
        · rw [same]
        · rw [same]; rfl
        · rw [same] at closed; cases up.symm.trans closed
        · rw [same] at open_; cases open_
        · exact (runs.place up).serve runs.held answers moved open_
      · cases Line.step_lose moved
        exact ⟨rfl, fun _ => rfl, fun open_ => by cases open_⟩
    refine ⟨⟨fun named => more _ (home.file named), fun t same => ?_⟩, fun _ => rfl, docs⟩
    cases same
    exact ⟨held, fun v found => runs.user v (kept.1 ▸ found), kept.2.2, kept.2.1⟩

end

/-! ## All phones -/

namespace Fleet
section
variable {ι κ : Type} [DecidableEq ι] {cv : FloatConv} {cs : CSJson} {f g : Fleet ι κ} {a : FleetStep ι κ} {i j : ι}

/-- What every step keeps. -/
structure Inv (f : Fleet ι κ) : Prop where
  phones : ∀ i, (f.phones i).Home (f.Owns i)
  left : ∀ q ∈ f.left, q.2.Held (f.Owns q.1)
  docs : ∀ q ∈ f.docs, ∀ i ∈ q.1, f.Given i q.2.userId

omit [DecidableEq ι] in
/-- At the start no app runs, and no document has an owner. -/
theorem start_inv (docs : List UserDb) : Inv (start docs : Fleet ι κ) where
  phones := fun i => ⟨fun named => absurd rfl named, fun _ none_ => by cases none_⟩
  left := fun q mem => by cases mem
  docs := fun q mem i of => by
    obtain ⟨d, -, rfl⟩ := List.mem_map.1 mem
    cases of

omit [DecidableEq ι] in
/-- The documents that a step of a connection stores. -/
theorem Inv.note {s : Line κ} {b : LineStep κ} (inv : Inv f)
    (stored : ∀ d ∈ s.written cv b, (f.note cv i s b).Given i d.userId) :
    ∀ q ∈ (f.note cv i s b).docs, ∀ j ∈ q.1, (f.note cv i s b).Given j q.2.userId := by
  intro q mem j of
  rcases List.mem_append.1 mem with old | new
  · exact (inv.docs q old j of).note
  · obtain ⟨d, written, rfl⟩ := List.mem_map.1 new
    cases of
    exact stored d written

/-- **One step** keeps the invariant, and a userid that is in a file stays there. -/
theorem step_inv (inv : Inv f) (h : step cv cs f a = some g) :
    Inv g ∧ ∀ j, (f.phones j).file ≠ "" → (g.phones j).file = (f.phones j).file := by
  -- one phone moves, and the userids of all stay theirs
  have moved : ∀ (f' : Fleet ι κ) {i p}, (∀ j id, f.Owns j id → f'.Owns j id) → f'.phones = f.phones → p.Home (f'.Owns i) →
      ((f.phones i).file ≠ "" → p.file = (f.phones i).file) → (∀ j, ((f'.setPhone i p).phones j).Home (f'.Owns j)) ∧
        ∀ j, (f.phones j).file ≠ "" → ((f'.setPhone i p).phones j).file = (f.phones j).file := by
    intro f' i p more same home file
    refine ⟨fun j => ?_, fun j named => ?_⟩
    all_goals
      unfold setPhone
      dsimp only
      by_cases here : j = i
    · subst here
      rw [Function.update_self]
      exact home
    · rw [Function.update_of_ne here, same]
      exact (inv.phones j).mono (more j)
    · subst here
      rw [Function.update_self]
      exact file named
    · rw [Function.update_of_ne here, same]
  cases a with
  | phone i a =>
    obtain ⟨⟨p, behind⟩, acted, rfl⟩ := Option.map_eq_some_iff.1 h
    obtain ⟨home, file, held⟩ := (Phone.step_acts acted).home (inv.phones i)
    obtain ⟨phones, files⟩ := moved f (fun _ _ owns => owns) rfl home fun _ => file
    refine ⟨⟨phones, fun q mem => ?_, inv.docs⟩, files⟩
    rcases List.mem_append.1 mem with old | new
    · exact inv.left q old
    · obtain ⟨line, left_, rfl⟩ := List.mem_map.1 new
      exact held line (Option.mem_toList.1 left_)
  | line i b =>
    obtain ⟨s, app, h⟩ := Option.bind_eq_some_iff.1 h
    split at h
    · next answers =>
      obtain ⟨p, stepped, rfl⟩ := Option.map_eq_some_iff.1 h
      obtain ⟨home, file, stored⟩ := (inv.phones i).moves app answers stepped
      obtain ⟨phones, files⟩ := moved (f.note cv i s.line b) (fun _ _ owns => owns.note) rfl home file
      exact ⟨⟨phones, fun q mem => (inv.left q mem).mono fun _ owns => owns.note, inv.note stored⟩, files⟩
    · cases h
  | left k b =>
    obtain ⟨⟨i, s⟩, found, h⟩ := Option.bind_eq_some_iff.1 h
    dsimp only at h
    split at h
    · next answers =>
      have mem : (i, s) ∈ f.left := List.mem_of_getElem? found
      have stepped : ∃ t, Line.step cv cs s b = some t ∧ g = { f.note cv i s b with left := f.left.set k (i, t) } ∧
          ∀ press, b ≠ .press press := by
        split at h
        all_goals
          first
          | cases h
          | (obtain ⟨t, stepped, rfl⟩ := Option.map_eq_some_iff.1 h; exact ⟨t, stepped, rfl, nofun⟩)
      obtain ⟨t, stepped, rfl, far⟩ := stepped
      obtain ⟨held, stored⟩ := line_held (inv.left _ mem) answers stepped far
      refine ⟨⟨fun j => (inv.phones j).mono fun _ owns => owns.note, fun q mem => ?_, inv.note stored⟩, fun _ _ => rfl⟩
      rcases List.mem_or_eq_of_mem_set mem with old | rfl
      · exact (inv.left q old).mono fun _ owns => owns.note
      · exact held
    · cases h
  | stored d =>
    cases h
    have more : ∀ j id, f.Owns j id → Owns { f with docs := f.docs ++ [(none, d)] } j id := fun j id owns =>
      ⟨owns.1, owns.2.imp fun q found => ⟨List.mem_append_left _ found.1, found.2⟩⟩
    refine ⟨⟨fun j => (inv.phones j).mono (more j), fun q mem => (inv.left q mem).mono (more q.1), fun q mem j of => ?_⟩,
      fun _ _ => rfl⟩
    rcases List.mem_append.1 mem with old | new
    · exact inv.docs q old j of
    · cases List.mem_singleton.1 new
      cases of

omit [DecidableEq ι] in
/-- Two phones that have been given one userid have read one time. -/
theorem Given.unique {id : String} (apart : (f.given.map Prod.snd).Nodup) (here : f.Given i id) (there : f.Given j id) :
    i = j := by
  obtain ⟨n, mem, rfl⟩ := here
  obtain ⟨m, mem', same⟩ := there
  obtain rfl : m = n := Int64.toInt_inj.1 (toString_inj same)
  exact congrArg Prod.fst (List.inj_on_of_nodup_map apart mem mem' rfl)

/-- **Phones do not meet at an account**: a userid in a file has been given to
the phone, has a document and stays there; and if no two registrations read one
time, two phones never have the same, nor does one store the account of another. -/
theorem accounts_apart (cv : FloatConv) (cs : CSJson) (docs : List UserDb) (as : List (FleetStep ι κ)) (f : Fleet ι κ)
    (run : exec (step cv cs) (start docs) as = some f) :
    (∀ i, (f.phones i).file ≠ "" → f.Owns i (f.phones i).file ∧
      ∀ bs g, exec (step cv cs) f bs = some g → (g.phones i).file = (f.phones i).file) ∧
    ((f.given.map Prod.snd).Nodup → ∀ i j, i ≠ j →
      ((f.phones i).file ≠ "" → (f.phones i).file ≠ (f.phones j).file) ∧
      ∀ d e, (some i, d) ∈ f.docs → (some j, e) ∈ f.docs → d.userId ≠ e.userId) := by
  have inv : Inv f := exec_inv (Q := fun _ _ => True) (fun _ _ _ inv _ h => (step_inv inv h).1) (start_inv docs)
    (fun _ _ _ _ _ => trivial) run
  refine ⟨fun i named => ⟨(inv.phones i).file named, fun bs g later => ?_⟩, fun apart i j other => ⟨fun named same => ?_,
    fun d e mine theirs same => ?_⟩⟩
  · have keep : ∀ (t : Fleet ι κ) a t', Inv t ∧ (t.phones i).file = (f.phones i).file → True → step cv cs t a = some t' →
        Inv t' ∧ (t'.phones i).file = (f.phones i).file := by
      rintro t a t' ⟨before, same⟩ - h
      obtain ⟨after, files⟩ := step_inv before h
      exact ⟨after, (files i (same ▸ named)).trans same⟩
    exact (exec_inv (Q := fun _ _ => True) keep ⟨inv, rfl⟩ (fun _ _ _ _ _ => trivial) later).2
  · exact other (((inv.phones i).file named).1.unique apart (same ▸ ((inv.phones j).file (same ▸ named)).1))
  · exact other ((inv.docs _ mine i rfl).unique apart (same ▸ inv.docs _ theirs j rfl))

end

/-- The first process on a phone registers at this time. -/
def registers (i : Bool) (unixNano : Int64) : List (FleetStep Bool Unit) :=
  [.phone i (.launch () 0 0), .phone i .onOpen, .phone i (.update ()), .line i .decode,
    .line i (.serve { Env.answering fun _ => .notFound with unixNano } .empty), .line i .receive]

/-- Two phones register, one after the other, and the second starts again. -/
def twoPhones : List (FleetStep Bool Unit) :=
  registers false 7 ++ registers true 8 ++ [.phone true .exit, .phone true (.launch () 0 0)]

/-- Two phones register, and each gets a userid of its own. -/
theorem accounts_apart_two :
    ∃ f, exec (step amd64 Pair.strict) (start []) twoPhones = some f ∧ (f.phones true).file = "8" ∧
      f.Owns true (f.phones true).file ∧ (f.phones true).file ≠ (f.phones false).file := by
  have ends : (exec (step amd64 Pair.strict) (start []) twoPhones).map (fun f => ((f.phones true).file, f.given)) =
      some ("8", [(false, 7), (true, 8)]) := by decide +kernel
  obtain ⟨f, run, shown⟩ := Option.map_eq_some_iff.1 ends
  obtain ⟨file, given⟩ := Prod.mk.inj shown
  have apart : (f.given.map Prod.snd).Nodup := by
    rw [given]
    decide
  have named : (f.phones true).file ≠ "" := by
    rw [file]
    decide
  obtain ⟨owned, distinct⟩ := accounts_apart amd64 Pair.strict [] twoPhones f run
  exact ⟨f, run, file, (owned true named).1, (distinct apart true false (by decide)).1 named⟩

end Fleet

end Crazyass.Client
