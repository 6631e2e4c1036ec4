import Crazyass.Client.Unlock

/-!
# Choosing a stage

`GameScene`. Its button asks the server for the stage that is chosen, and the
play scene is entered once `CheckRecv` finds a reply, with the stage that is
chosen then: the layer shown while a request is under way takes no touches, so
that the girls and the button can still be touched.

The contract is that the stage entered has been paid, once.
-/

namespace Crazyass.Client
open Go Server Sys

instance : DecidableEq Stage := fun x y =>
  decidable_of_iff (x.id = y.id) ⟨fun same => by cases x; cases y; cases same; rfl, congrArg _⟩

/-- The scene on display; the event scene has its own numbers for the girls. -/
inductive View where
  | game
  | play (stage : Stage)
  | event (girl : Int32)
  | shop
  | start
deriving DecidableEq

/-- `event` is the visibility of `BtnEvent`, `gotostart` the flag of
`ShouldGotoStart`. The books: `asked` has the stages of the requests sent, `paid`
what the server has taken from the hearts of the account. -/
structure Lobby (κ : Type) where
  line : Line κ
  select : Stage
  event : Bool
  scheduled : Bool
  gotostart : Bool
  view : View
  asked : List Stage
  paid : List ℕ

/-- Touches of the buttons, `update`, and what goes on meanwhile. -/
inductive LobbyStep (κ : Type) where
  | girl (i : Stage) (e : Touch)
  | play (e : Touch)
  | event (e : Touch)
  | shop (e : Touch)
  | rechargeShop (e : Touch)
  | update
  | line (a : LineStep κ)

/-- The price of a stage. -/
def Stage.need (stage : Stage) : ℕ := stage.id.toInt.toNat + 1

/-- The faces of the third and the sixth girl are exchanged. -/
def girlId (i : Int32) : Int32 := if i = 3 then 6 else if i = 6 then 3 else i

/-- What an account has lost. -/
def taken (before after : UserDb) : List ℕ :=
  if after.heart < before.heart then [before.heart.toNat - after.heart.toNat] else []

/-- A reply that the scene's `CARecv` calls `ShouldGotoStart` for. -/
def Line.refuses {κ : Type} (cs : CSJson) (s : Line κ) (reply : Msg) : Bool :=
  match cs.field reply.seq, cs.field reply.errCode with
  | some seq, some errCode => (s.delegate.onMessage seq).2.isSome && decide (errCode ≠ 0)
  | _, _ => false

/-- Whether a step to `t` calls `ShouldGotoStart`: an error is read, or the connection ends. -/
def Line.shouldGoto {κ : Type} (cs : CSJson) (s t : Line κ) : LineStep κ → Bool
  | .receive =>
    match s.told with
    | reply :: _ => s.refuses cs reply
    | [] => false
  | _ => s.up && !t.up

namespace Lobby
section
variable {κ : Type} (cv : FloatConv) (cs : CSJson)

/-- `onEnter`, with nothing under way. -/
def enter (c : Client κ) (u : RemoteUser) (d : MyDelegate Press) : Lobby κ :=
  ⟨Line.idle c u d, Pair.firstStage, decide (1 < u.stageid), false, false, .game, [], []⟩

/-- `OnBtnGirl`. -/
def onBtnGirl (s : Lobby κ) (i : Stage) (e : Touch) : Option (Lobby κ) :=
  if e ≠ .began then some s
  else do
    let u ← s.line.user
    some { s with select := i, event := decide (i.id < u.stageid) }

/-- `GotoStartSceneIfError`, where it returns true. `CAWS::Release` ends the connection. -/
def gotoStart (s : Lobby κ) : Lobby κ := { s with line := s.line.lost, gotostart := false, view := .start }

/-- `onBtnPlay`. With fewer hearts it shows the way to the shop. -/
def onBtnPlay (s : Lobby κ) (e : Touch) : Option (Lobby κ) :=
  if e = .began then some s
  else if s.gotostart then some s.gotoStart
  else do
    let u ← s.line.user
    let need ← needArry[(s.select.id - 1).toInt.toNat]?
    if u.heart < need then some s
    else
      let line ← Line.step cv cs s.line (.press (.play s.select))
      some { s with line, scheduled := true, asked := s.asked ++ [s.select] }

/-- `onBtnEvent`; a button that is not visible is not touched. -/
def onBtnEvent (s : Lobby κ) (e : Touch) : Option (Lobby κ) :=
  if s.event then
    if e = .began then some s else some { s with view := .event (girlId s.select.id) }
  else none

/-- `CARecvDone`. -/
def recvDone (s : Lobby κ) : Lobby κ := if s.gotostart then s.gotoStart else { s with view := .play s.select }

/-- `update`. There is no delegate once the connection has ended. -/
def update (s : Lobby κ) : Option (Lobby κ) :=
  if s.scheduled = true ∧ s.line.up = true ∧ s.line.user.isSome = true then
    match s.line.delegate.checkRecv with
    | (_, .done (some (.play _))) => some (recvDone { s with scheduled := false })
    | (delegate, .timeout _) => some { s with line := { s.line with delegate }, scheduled := false }
    | (delegate, .waiting) => some { s with line := { s.line with delegate } }
    | (_, .done _) | (_, .nullCall) => none
  else none

/-- The two ends and what is on its way. -/
def lineStep (s : Lobby κ) : LineStep κ → Option (Lobby κ)
  | .press _ | .check => none
  | a => (Line.step cv cs s.line a).map fun line => { s with
      line
      gotostart := s.gotostart || s.line.shouldGoto cs line a
      paid := s.paid ++ taken s.line.client.user.udb line.client.user.udb }

/-- Touches and ticks reach the scene while it is on display. -/
def step (s : Lobby κ) (a : LobbyStep κ) : Option (Lobby κ) :=
  match s.view, a with
  | _, .line a => lineStep cv cs s a
  | .game, .girl i e => s.onBtnGirl i e
  | .game, .play e => onBtnPlay cv cs s e
  | .game, .event e => s.onBtnEvent e
  | .game, .shop e => if e = .began then some s else some { s with view := .shop }
  | .game, .rechargeShop e => if e = .began then some { s with view := .shop } else some s
  | .game, .update => s.update
  | _, _ => none

/-- **The contract** of a stage entered: its price has been taken from the
account, nothing else has, and nothing sends the player back. -/
def Bought (stage : Stage) (s : Lobby κ) : Prop := s.paid = [stage.need] ∧ s.gotostart = false

/-- Only stages that are open are chosen. -/
def Opens (next : UInt32) : LobbyStep κ → Prop
  | .girl i .began => i.id.toInt ≤ next.toNat
  | _ => True

end
end Lobby

/-! ## A request to play -/

/-- The message is one of the scene's. -/
structure Plays (stage : Stage) (m : Msg) : Prop where
  cmd : m.cmd = .ofUInt32 (Press.play stage).cmd
  stageid : m.body "stageid" = some (.json (Json.int stage.id))

/-- The account admits the stage and covers its price. -/
def Admits (d : UserDb) (stage : Stage) : Prop := stage.id.toInt ≤ d.nextStage.toNat ∧ stage.need ≤ d.heart.toNat

/-- What the server makes of a request to play. -/
inductive Played {κ : Type} (stage : Stage) (c : Client κ) (o : Outcome κ) (reply : Msg) : Prop where
  | charged (left : o.c.user.udb.heart.toNat + stage.need = c.user.udb.heart.toNat)
      (next : o.c.user.udb.nextStage = c.user.udb.nextStage)
  | refused (why : ¬ Admits c.user.udb stage) (user : o.c.user = c.user) (code : reply.errCode ≠ 0)

section
variable {κ : Type} {cv : FloatConv} {cs : CSJson} {stage : Stage} {c : Client κ} {env : Env} {online : Online κ} {m : Msg}
  {o : Outcome κ} {u : RemoteUser}

theorem Stage.need_inj {stage' : Stage} (same : stage.need = stage'.need) : stage = stage' := by
  have lo := stage.inside.1
  have lo' := stage'.inside.1
  unfold Stage.need at same
  obtain ⟨id, inside⟩ := stage
  obtain ⟨id', inside'⟩ := stage'
  have same_id : id = id' := Int32.toInt_inj.1 (by dsimp only at *; omega)
  subst same_id
  rfl

/-- The client's table has the price of the stage. -/
theorem needArry_need {need : Int32} (found : needArry[(stage.id - 1).toInt.toNat]? = some need) : need.toInt = stage.need := by
  have lo := stage.inside.1
  have hi := stage.inside.2
  rw [stage.pred] at found
  unfold Stage.need
  generalize stage.id.toInt = n at *
  interval_cases n <;> cases found <;> rfl

/-- The server's table has the price of the stage. -/
theorem stageHeartConfig_need {sid price : UInt32} (same : (sid.toNat : ℤ) = stage.id.toInt)
    (priced : stageHeartConfig[(sid - 1).toNat]? = some price) : price.toNat = stage.need := by
  have lo := stage.inside.1
  have hi := stage.inside.2
  have one : (1 : UInt32) ≤ sid := by
    rw [UInt32.le_iff_toNat_le, show (1 : UInt32).toNat = 1 from rfl]
    omega
  rw [UInt32.toNat_sub_of_le _ _ one, show (1 : UInt32).toNat = 1 from rfl] at priced
  unfold Stage.need
  generalize sid.toNat = k at same priced
  generalize stage.id.toInt = n at *
  interval_cases n <;> obtain rfl : k = _ := by exact_mod_cast same
  all_goals cases priced; rfl

/-- What the scene writes. -/
theorem play_plays {seq : Int32} {packet : Json} {cell : Msg} (written : (Press.play stage).packet u seq = some packet)
    (read : readPacket cell packet = some m) : Plays stage m ∧ m.seq = numOf seq ∧ (stage.need : ℤ) ≤ u.heart.toInt := by
  obtain ⟨m', read', cmd, -, stageid⟩ := packet_read (c := cell) written
  cases read'.symm.trans read
  refine ⟨⟨cmd, stageid⟩, packet_seq written read, ?_⟩
  obtain ⟨need, found, sent⟩ := Option.bind_eq_some_iff.1 written
  split at sent
  · cases sent
  · next enough =>
    rw [← needArry_need found]
    exact Int32.le_iff_toInt_le.1 (Int32.not_lt.1 enough)

/-- **The server charges** exactly the requests that the account admits. -/
theorem serve_played (plays : Plays stage m) (ready : c.user.ready = true) (served : Server.serve cv env online c m = .ok o) :
    ∃ reply, o.sent = [reply] ∧ reply.seq = m.seq ∧ (∃ e : UInt32, e.toNat ≤ 5 ∧ reply.errCode = .ofUInt32 e) ∧
      o.c.user.ready = true ∧ Played stage c o reply := by
  have small : m.cmd.val < 128 := plays.cmd ▸ Pair.press_small (.play stage)
  have picked := chosen_press cv c.user plays.cmd
  rw [if_neg (by simp [ready])] at picked
  have lo := stage.inside.1
  obtain ⟨reply, sent, last, -, told, -⟩ := serve_told small served
  refine ⟨reply, sent, last ▸ serve_seq small served, last ▸ serve_code small served, ?_⟩
  cases told with
  | unserved which =>
    rw [picked] at which
    rcases which with none_chosen | ⟨-, login⟩
    · cases none_chosen
    · cases login
  | loadFailed out => cases ready.symm.trans out
  | loggedIn _ out => cases ready.symm.trans out
  | refused h e _ which why user code =>
    cases which.symm.trans picked
    refine ⟨user ▸ ready, .refused ?_ user code⟩
    rintro ⟨admitted, enough⟩
    cases why with
    | noStart absent => cases plays.stageid.symm.trans absent
    | farStart x stageid range =>
      have sid := uint32_asked cv (asked_num plays.stageid stageid) (by omega)
      rcases range with far | zero
      · have far := UInt32.lt_iff_toNat_lt.1 far
        omega
      · rw [zero, show (0 : UInt32).toNat = 0 from rfl] at sid
        omega
    | shortStart x price stageid _ priced short =>
      have sid := uint32_asked cv (asked_num plays.stageid stageid) (by omega)
      have same := stageHeartConfig_need sid priced
      have short := UInt32.lt_iff_toNat_lt.1 short
      omega
  | served h entries _ which other by_handler =>
    cases which.symm.trans picked
    generalize same_user : o.c.user = after at by_handler ⊢
    cases by_handler with
    | startPlay x price stageid admitted priced enough =>
      have sid := uint32_asked cv (asked_num plays.stageid stageid) (by omega)
      have same := stageHeartConfig_need sid priced
      have heart : (c.user.charge price).markDirty.udb.heart = c.user.udb.heart - price := by simp [User.markDirty]
      refine ⟨by simpa [User.markDirty] using ready, .charged ?_ (by simp [same_user, User.markDirty])⟩
      rw [same_user, heart, sub_toNat enough]
      have := UInt32.le_iff_toNat_le.1 enough
      omega

end

/-- Without a reply `CheckRecv` counts on. -/
theorem MyDelegate.checkRecv_cases {τ : Type} (d : MyDelegate τ) :
    d.recvflag = true ∧ d.checkRecv = (d, .done d.target) ∨
      ∃ n result, d.checkRecv = ({ d with recvcount := n }, result) ∧ ∀ target, result ≠ .done target := by
  unfold checkRecv
  split
  · next received => exact .inl ⟨received, rfl⟩
  · refine .inr ⟨d.recvcount + 1, ?_⟩
    dsimp only
    split
    · split <;> exact ⟨_, rfl, nofun⟩
    · exact ⟨_, rfl, nofun⟩

namespace Line
section
variable {κ : Type} {cs : CSJson} {s : Line κ} {reply : Msg}

/-- A message is dropped, or it is the last one and `CARecv` is called. -/
theorem onMessage_cases (cs : CSJson) (s : Line κ) (reply : Msg) :
    (∃ user, s.onMessage cs reply = { s with user } ∧ (∀ u ∈ user, s.user = some u) ∧
      (reply.seq = numOf s.delegate.lastseq → s.delegate.target = none) ∧ s.refuses cs reply = false) ∨
    ∃ press user, s.delegate.target = some press ∧
      s.onMessage cs reply = { s with user, delegate := { s.delegate with recvflag := true } } ∧
        s.refuses cs reply = (cs.field reply.errCode).any (· ≠ 0) := by
  unfold onMessage refuses
  cases read : cs.field reply.seq with
  | none =>
    refine .inl ⟨none, rfl, nofun, fun last => ?_, rfl⟩
    rw [last, field_numOf] at read
    cases read
  | some seq =>
    dsimp only
    cases passed : (s.delegate.onMessage seq).2 with
    | none =>
      rw [MyDelegate.onMessage_none passed]
      refine .inl ⟨s.user, rfl, fun u found => found, fun last => ?_, ?_⟩
      · rw [last, field_numOf] at read
        cases read
        rwa [MyDelegate.onMessage_snd, if_pos rfl] at passed
      · cases cs.field reply.errCode with
        | none => rfl
        | some e =>
          dsimp only
          rw [passed]
          rfl
    | some press =>
      have target := passed
      rw [MyDelegate.onMessage_snd] at target
      split at target
      · rw [MyDelegate.onMessage_some passed]
        refine .inr ⟨press, _, target, rfl, ?_⟩
        cases cs.field reply.errCode with
        | none => rfl
        | some e =>
          dsimp only
          rw [passed]
          rfl
      · cases target

end
end Line

namespace Lobby
section
variable {κ : Type} {cv : FloatConv} {cs : CSJson} {s t : Lobby κ} {a : LobbyStep κ} {next : UInt32}

/-! ## What a step does -/

/-- The steps of the scene: it shows something else, goes back to the start, sends a
request, calls `CheckRecv`, or enters the play scene, or the connection moves. -/
inductive Moves (cv : FloatConv) (cs : CSJson) (s : Lobby κ) : LobbyStep κ → Lobby κ → Prop where
  | shows (a : LobbyStep κ) (select : Stage) (event : Bool) (view : View) (other : ∀ x, view ≠ .play x)
      (chosen : select = s.select ∨ a = .girl select .began) : Moves cv cs s a { s with select, event, view }
  | returns (a : LobbyStep κ) (t : Lobby κ) (closed : t.line.up = false) (other : ∀ x, t.view ≠ .play x) : Moves cv cs s a t
  | sends (e : Touch) (u : RemoteUser) (packet : Json) (user : s.line.user = some u)
      (written : (Press.play s.select).packet u s.line.delegate.seq = some packet) (calm : s.gotostart = false)
      (here : ∀ x, s.view ≠ .play x) :
      Moves cv cs s (.play e) { s with
        line := { s.line with delegate := s.line.delegate.sendServer (some (.play s.select)), asked := s.line.asked ++ [packet] }
        scheduled := true
        asked := s.asked ++ [s.select] }
  | checks (delegate : MyDelegate Press) (scheduled : Bool) (target : delegate.target = s.line.delegate.target)
      (lastseq : delegate.lastseq = s.line.delegate.lastseq) (recvflag : delegate.recvflag = s.line.delegate.recvflag)
      (was : s.scheduled = true) : Moves cv cs s .update { s with line := { s.line with delegate }, scheduled }
  | enters (received : s.line.delegate.recvflag = true) (calm : s.gotostart = false) (was : s.scheduled = true) :
      Moves cv cs s .update { s with scheduled := false, view := .play s.select }
  | line (b : LineStep κ) (line : Line κ) (silent : b.presses = 0) (other : b ≠ .check)
      (h : Line.step cv cs s.line b = some line) :
      Moves cv cs s (.line b) { s with
        line
        gotostart := s.gotostart || s.line.shouldGoto cs line b
        paid := s.paid ++ taken s.line.client.user.udb line.client.user.udb }

/-- `update` enters the stage, gives up, or goes on waiting. -/
theorem update_moves (h : s.update = some t) : Moves cv cs s .update t := by
  unfold update at h
  split at h
  · next alive =>
    rcases s.line.delegate.checkRecv_cases with ⟨received, checked⟩ | ⟨n, result, checked, other⟩
    · rw [checked] at h
      cases target : s.line.delegate.target with
      | none =>
        rw [target] at h
        cases h
      | some press =>
        rw [target] at h
        cases press with
        | play x =>
          cases h
          unfold recvDone
          split
          · exact .returns _ _ rfl nofun
          · next calm => exact .enters received (by simpa using calm) alive.1
        | _ => cases h
    · rw [checked] at h
      cases result with
      | done target => exact absurd rfl (other target)
      | timeout target =>
        cases h
        exact .checks _ _ rfl rfl rfl alive.1
      | waiting =>
        cases h
        exact .checks _ s.scheduled rfl rfl rfl alive.1
      | nullCall => cases h
  · cases h

/-- **A step** is one of these moves. -/
theorem step_moves (h : step cv cs s a = some t) : Moves cv cs s a t := by
  unfold step at h
  split at h
  · next b =>
    unfold lineStep at h
    split at h
    · cases h
    · cases h
    · next press check =>
      obtain ⟨line, moved, rfl⟩ := Option.map_eq_some_iff.1 h
      refine .line b line ?_ check moved
      cases b with
      | press p => exact absurd rfl (press p)
      | _ => rfl
  · next here =>
    have other : ∀ x, s.view ≠ .play x := fun x there => by cases here.symm.trans there
    unfold onBtnGirl at h
    split at h
    · cases h
      exact .shows _ _ _ _ other (.inl rfl)
    · next began =>
      obtain ⟨u, -, h⟩ := Option.bind_eq_some_iff.1 h
      cases h
      exact .shows _ _ _ _ other (.inr (by rw [not_not.1 began]))
  · next here =>
    have other : ∀ x, s.view ≠ .play x := fun x there => by cases here.symm.trans there
    unfold onBtnPlay at h
    split at h
    · cases h
      exact .shows _ _ _ _ other (.inl rfl)
    split at h
    · cases h
      exact .returns _ _ rfl nofun
    · next calm =>
      obtain ⟨u, user, h⟩ := Option.bind_eq_some_iff.1 h
      obtain ⟨need, -, h⟩ := Option.bind_eq_some_iff.1 h
      split at h
      · cases h
        exact .shows _ _ _ _ other (.inl rfl)
      · obtain ⟨line, pressed, h⟩ := Option.bind_eq_some_iff.1 h
        cases h
        obtain ⟨u, packet, user, written, rfl⟩ := Line.step_press pressed
        exact .sends _ u packet user written (by simpa using calm) other
  · next here =>
    have other : ∀ x, s.view ≠ .play x := fun x there => by cases here.symm.trans there
    unfold onBtnEvent at h
    split at h
    · split at h <;> cases h
      · exact .shows _ _ _ _ other (.inl rfl)
      · exact .shows _ _ _ _ nofun (.inl rfl)
    · cases h
  · next here =>
    have other : ∀ x, s.view ≠ .play x := fun x there => by cases here.symm.trans there
    split at h <;> cases h
    · exact .shows _ _ _ _ other (.inl rfl)
    · exact .shows _ _ _ _ nofun (.inl rfl)
  · next here =>
    have other : ∀ x, s.view ≠ .play x := fun x there => by cases here.symm.trans there
    split at h <;> cases h
    · exact .shows _ _ _ _ nofun (.inl rfl)
    · exact .shows _ _ _ _ other (.inl rfl)
  · exact update_moves h
  · cases h

/-! ## The books -/

/-- Hearts that stay are not taken. -/
theorem taken_same (d : UserDb) : taken d d = [] := if_neg (UInt32.lt_irrefl _)

/-- Hearts that go down by the price are taken once. -/
theorem taken_charged {d e : UserDb} {stage : Stage} (left : e.heart.toNat + stage.need = d.heart.toNat) :
    taken d e = [stage.need] := by
  unfold taken
  rw [if_pos]
  · congr 1
    omega
  · rw [UInt32.lt_iff_toNat_lt]
    unfold Stage.need at left
    omega

/-- What the books say of what is on its way: each request is served once and
answered once, and nothing is taken but the prices of stages asked for. -/
structure Books (s : Lobby κ) : Prop where
  ready : s.line.client.user.ready = true
  packets : ∀ packet ∈ s.line.asked, ∀ cell m, readPacket cell packet = some m → ∃ x ∈ s.asked, Plays x m
  cell : 0 < s.line.pending → ∃ x ∈ s.asked, Plays x s.line.client.msg
  idle : s.asked = [] → s.line.Quiet ∧ s.scheduled = false
  target : s.asked ≠ [] → ∃ x, s.line.delegate.target = some (.play x)
  codes : ∀ reply ∈ s.line.told, ∃ e : UInt32, e.toNat ≤ 5 ∧ reply.errCode = .ofUInt32 e
  good : ∀ reply ∈ s.line.told, reply.errCode = 0 → s.paid ≠ []
  answers : s.asked ≠ [] → s.line.waiting + s.line.told.length + s.line.delegate.recvflag.toNat ≤ s.asked.length
  charges : s.line.waiting + s.paid.length ≤ s.asked.length
  amounts : ∀ n ∈ s.paid, ∃ x ∈ s.asked, n = x.need
  received : s.asked ≠ [] → s.line.delegate.recvflag = true → s.gotostart = true ∨ s.paid ≠ []
  entered : ∀ x, s.view = .play x → s.asked ≠ [] ∧ s.line.delegate.recvflag = true ∧ s.paid ≠ [] ∧
    (s.asked.length = 1 → s.gotostart = false)

/-- The scene starts with nothing asked. -/
theorem enter_books {c : Client κ} (ready : c.user.ready = true) (u : RemoteUser) (d : MyDelegate Press) :
    Books (enter c u d) := by
  have nothing : (enter c u d).asked = [] := rfl
  exact {
    ready
    packets := fun _ mem => by cases mem
    cell := fun waits => by cases waits
    idle := fun _ => ⟨⟨rfl, rfl, rfl⟩, rfl⟩
    target := fun asks => absurd nothing asks
    codes := fun _ mem => by cases mem
    good := fun _ mem => by cases mem
    answers := fun asks => absurd nothing asks
    charges := by simp [enter, Line.idle, Line.waiting]
    amounts := fun _ mem => by cases mem
    received := fun asks => absurd nothing asks
    entered := fun _ there => by cases there }

/-- A request joins those on their way. -/
theorem Books.send (books : Books s) {u : RemoteUser} {packet : Json}
    (written : (Press.play s.select).packet u s.line.delegate.seq = some packet) (here : ∀ x, s.view ≠ .play x) :
    Books { s with
      line := { s.line with delegate := s.line.delegate.sendServer (some (.play s.select)), asked := s.line.asked ++ [packet] }
      scheduled := true
      asked := s.asked ++ [s.select] } := by
  have more : ∀ x ∈ s.asked, x ∈ s.asked ++ [s.select] := fun x mem => List.mem_append_left _ mem
  exact {
    ready := books.ready
    packets := fun p mem cell m read => by
      rcases List.mem_append.1 mem with old | new
      · obtain ⟨x, asked, plays⟩ := books.packets p old cell m read
        exact ⟨x, more x asked, plays⟩
      · obtain rfl := List.mem_singleton.1 new
        exact ⟨s.select, by simp, (play_plays written read).1⟩
    cell := fun waits =>
      let ⟨x, asked, plays⟩ := books.cell waits
      ⟨x, more x asked, plays⟩
    idle := fun none_ => absurd none_ (by simp)
    target := fun _ => ⟨s.select, rfl⟩
    codes := books.codes
    good := books.good
    answers := fun _ => by
      simp only [Line.waiting, List.length_append, List.length_singleton, MyDelegate.sendServer, Bool.toNat_false]
      by_cases first : s.asked = []
      · obtain ⟨⟨asked, pending, told⟩, -⟩ := books.idle first
        simp [first, asked, pending, told]
      · have before := books.answers first
        simp only [Line.waiting] at before
        push_cast
        omega
    charges := by
      have before := books.charges
      simp only [Line.waiting, List.length_append, List.length_singleton] at before ⊢
      push_cast
      omega
    amounts := fun n mem =>
      let ⟨x, asked, same⟩ := books.amounts n mem
      ⟨x, more x asked, same⟩
    received := fun _ flag => by cases flag
    entered := fun x there => absurd there (here x) }

/-- A turn of the loop charges a request and answers it, or refuses it. -/
theorem Books.serve (books : Books s) {env : Env} {online : Online κ} {o : Outcome κ} (waits : 0 < s.line.pending)
    (ran : Server.serve cv env online s.line.client s.line.client.msg = .ok o) (gotostart : Bool)
    (calm : gotostart = s.gotostart) :
    Books { s with
      line := { s.line with client := o.c, pending := s.line.pending - 1, told := s.line.told ++ o.sent }
      gotostart
      paid := s.paid ++ taken s.line.client.user.udb o.c.user.udb } := by
  subst calm
  obtain ⟨x, asked, plays⟩ := books.cell waits
  have some_ : s.asked ≠ [] := List.ne_nil_of_mem asked
  have named : o.c.msg = s.line.client.msg := serve_msg (fun out => by rw [books.ready] at out; cases out) ran
  obtain ⟨reply, sent, -, code, ready, played⟩ := serve_played plays books.ready ran
  have few : s.line.pending = s.line.pending - 1 + 1 := by omega
  have charged : (taken s.line.client.user.udb o.c.user.udb = [x.need] ∨
      taken s.line.client.user.udb o.c.user.udb = [] ∧ reply.errCode ≠ 0) := by
    cases played with
    | charged left => exact .inl (taken_charged left)
    | refused _ user code => exact .inr ⟨by rw [user, taken_same], code⟩
  exact {
    ready
    packets := books.packets
    cell := fun _ => ⟨x, asked, named ▸ plays⟩
    idle := fun none_ => absurd none_ some_
    target := books.target
    codes := fun r mem => by
      rcases List.mem_append.1 mem with old | new
      · exact books.codes r old
      · rw [sent] at new
        obtain rfl := List.mem_singleton.1 new
        exact code
    good := fun r mem zero => by
      rcases charged with charged | ⟨-, code⟩
      · simp [charged]
      · rcases List.mem_append.1 mem with old | new
        · exact List.append_ne_nil_of_left_ne_nil (books.good r old zero) _
        · rw [sent] at new
          obtain rfl := List.mem_singleton.1 new
          exact absurd zero code
    answers := fun _ => by
      have before := books.answers some_
      simp only [Line.waiting, sent, List.length_append, List.length_singleton] at before ⊢
      push_cast
      omega
    charges := by
      have before := books.charges
      have most : (taken s.line.client.user.udb o.c.user.udb).length ≤ 1 := by
        rcases charged with charged | ⟨charged, -⟩ <;> simp [charged]
      simp only [Line.waiting, List.length_append] at before ⊢
      push_cast
      omega
    amounts := fun n mem => by
      rcases List.mem_append.1 mem with old | new
      · exact books.amounts n old
      · rcases charged with charged | ⟨charged, -⟩
        · rw [charged] at new
          exact ⟨x, asked, List.mem_singleton.1 new⟩
        · rw [charged] at new
          cases new
    received := fun some_ flag => (books.received some_ flag).imp_right fun paid => List.append_ne_nil_of_left_ne_nil paid _
    entered := fun x there => by
      obtain ⟨some_, flag, paid, calm⟩ := books.entered x there
      exact ⟨some_, flag, List.append_ne_nil_of_left_ne_nil paid _, calm⟩ }

/-- Once a single request has been answered nothing more is on its way. -/
theorem Books.entered_quiet (books : Books s) {x : Stage} (there : s.view = .play x) (one : s.asked.length = 1) :
    s.line.told = [] := by
  obtain ⟨some_, flag, -, -⟩ := books.entered x there
  have counts := books.answers some_
  rw [flag, one] at counts
  simp only [Line.waiting, Bool.toNat_true] at counts
  exact List.length_eq_zero_iff.1 (by omega)

/-- A reply is read. -/
theorem Books.receive (books : Books s) {reply : Msg} {rest : List Msg} (waits : s.line.told = reply :: rest) :
    Books { s with
      line := Line.onMessage cs { s.line with told := rest } reply
      gotostart := s.gotostart || s.line.refuses cs reply } := by
  have fewer : ∀ r ∈ rest, r ∈ s.line.told := fun r mem => waits ▸ List.mem_cons_of_mem _ mem
  have shorter : (s.line.told.length : ℤ) = rest.length + 1 := by rw [waits]; simp
  have asks : s.asked ≠ [] := fun none_ => by
    have quiet := (books.idle none_).1.2.2
    rw [quiet] at waits
    cases waits
  have entered : ∀ x, s.view = .play x → s.paid ≠ [] ∧ s.line.delegate.recvflag = true ∧ s.asked.length ≠ 1 := fun x there => by
    obtain ⟨-, flag, paid, -⟩ := books.entered x there
    refine ⟨paid, flag, fun one => ?_⟩
    rw [books.entered_quiet there one] at waits
    cases waits
  rcases Line.onMessage_cases cs { s.line with told := rest } reply with
    ⟨user, same, -, -, refuses⟩ | ⟨press, user, -, same, refuses⟩
  · rw [same]
    exact {
      ready := books.ready
      packets := books.packets
      cell := books.cell
      idle := fun none_ => absurd none_ asks
      target := books.target
      codes := fun r mem => books.codes r (fewer r mem)
      good := fun r mem => books.good r (fewer r mem)
      answers := fun asks => by
        have before := books.answers asks
        simp only [Line.waiting] at before ⊢
        omega
      charges := books.charges
      amounts := books.amounts
      received := fun asks flag => (books.received asks flag).imp_left fun back => by rw [back, Bool.true_or]
      entered := fun x there =>
        have ⟨paid, flag, more⟩ := entered x there
        ⟨asks, flag, paid, fun one => absurd one more⟩ }
  · rw [same]
    exact {
      ready := books.ready
      packets := books.packets
      cell := books.cell
      idle := fun none_ => absurd none_ asks
      target := books.target
      codes := fun r mem => books.codes r (fewer r mem)
      good := fun r mem => books.good r (fewer r mem)
      answers := fun asks => by
        have before := books.answers asks
        simp only [Line.waiting, Bool.toNat_true] at before ⊢
        omega
      charges := books.charges
      amounts := books.amounts
      received := fun _ _ => by
        cases back : s.line.refuses cs reply with
        | true => exact .inl (Bool.or_true _)
        | false =>
          obtain ⟨e, few, code⟩ := books.codes reply (waits ▸ List.mem_cons_self)
          have fine : (cs.field reply.errCode).any (· ≠ 0) = false := refuses.symm.trans back
          exact .inr (books.good reply (waits ▸ List.mem_cons_self) (errCode_zero few code fine))
      entered := fun x there =>
        have ⟨paid, _, more⟩ := entered x there
        ⟨asks, rfl, paid, fun one => absurd one more⟩ }

/-- **The books are right** after a step, while the connection is open. -/
theorem Moves.books (moves : Moves cv cs s a t) (books : s.line.up = true → Books s) (open_ : t.line.up = true) : Books t := by
  cases moves with
  | shows _ select event view other => exact { books open_ with entered := fun x there => absurd there (other x) }
  | returns _ _ closed => cases closed.symm.trans open_
  | sends e u packet user written calm here => exact (books open_).send written here
  | checks delegate scheduled target lastseq recvflag was =>
    have books := books open_
    exact { books with
      idle := fun none_ => by cases was.symm.trans (books.idle none_).2
      target := fun asks => by rw [target]; exact books.target asks
      answers := fun asks => by rw [recvflag]; exact books.answers asks
      received := fun asks flag => books.received asks (recvflag ▸ flag)
      entered := fun x there => by
        obtain ⟨asks, flag, rest⟩ := books.entered x there
        exact ⟨asks, recvflag.trans flag, rest⟩ }
  | enters received calm was =>
    have books := books open_
    have asks : s.asked ≠ [] := fun none_ => by cases was.symm.trans (books.idle none_).2
    have paid : s.paid ≠ [] := (books.received asks received).resolve_left (by simp [calm])
    exact { books with
      idle := fun none_ => absurd none_ asks
      entered := fun x _ => ⟨asks, received, paid, fun _ => calm⟩ }
  | line b line silent other h =>
    have up := Line.step_up h open_
    have books := books up
    cases b with
    | press => cases silent
    | check => exact absurd rfl other
    | decode =>
      obtain ⟨packet, rest, msg, waits, -, read, rfl⟩ := Line.step_decode h
      have asks : s.asked ≠ [] := fun none_ => by
        rw [(books.idle none_).1.1] at waits
        cases waits
      have more : ∀ p ∈ rest, p ∈ s.line.asked := fun p mem => waits ▸ List.mem_cons_of_mem _ mem
      have same : (s.line.asked.length : ℤ) = rest.length + 1 := by rw [waits]; simp
      have calm : (s.gotostart || s.line.shouldGoto cs { s.line with
          asked := rest, client := { s.line.client with msg }, pending := s.line.pending + 1 } .decode) = s.gotostart := by
        simp [Line.shouldGoto]
      dsimp only
      rw [taken_same, List.append_nil, calm]
      exact { books with
        packets := fun p mem => books.packets p (more p mem)
        cell := fun _ => books.packets packet (waits ▸ List.mem_cons_self) _ msg read
        idle := fun none_ => absurd none_ asks
        answers := fun asks => by
          have before := books.answers asks
          simp only [Line.waiting] at before ⊢
          push_cast
          omega
        charges := by
          have before := books.charges
          simp only [Line.waiting] at before ⊢
          push_cast
          omega
        received := books.received
        entered := books.entered }
    | serve env online =>
      obtain ⟨-, waits, -, ⟨rfl, -⟩ | ⟨o, ran, rfl⟩⟩ := Line.step_serve h
      · cases open_
      · exact books.serve waits ran _ (by simp [Line.shouldGoto, up])
    | receive =>
      obtain ⟨reply, rest, waits, rfl⟩ := Line.step_receive h
      obtain ⟨user, delegate, same, -⟩ := Line.onMessage_eq cs { s.line with told := rest } reply
      have kept : (Line.onMessage cs { s.line with told := rest } reply).client = s.line.client := by rw [same]
      rw [kept, taken_same, List.append_nil]
      simp only [Line.shouldGoto, waits]
      exact books.receive waits
    | lose =>
      cases Line.step_lose h
      cases open_

/-! ## Stages that are open -/

/-- Nothing has been taken: all that is on its way can be paid. -/
structure Fresh (s : Lobby κ) : Prop where
  told : s.line.told = []
  copy : ∀ u ∈ s.line.user, u.heart.toInt ≤ s.line.client.user.udb.heart.toNat
  packets : ∀ packet ∈ s.line.asked, ∀ cell m, readPacket cell packet = some m →
    ∃ x ∈ s.asked, Plays x m ∧ x.need ≤ s.line.client.user.udb.heart.toNat
  cell : 0 < s.line.pending → ∃ x ∈ s.asked, Plays x s.line.client.msg ∧ x.need ≤ s.line.client.user.udb.heart.toNat

/-- Where only open stages are chosen. The first request that is served is
charged, and of several the last is charged too or sends the player back. -/
structure Openly (next : UInt32) (s : Lobby κ) : Prop where
  nextStage : s.line.client.user.udb.nextStage = next
  select : s.select.id.toInt ≤ next.toNat
  chosen : ∀ x ∈ s.asked, x.id.toInt ≤ next.toNat
  fresh : s.paid = [] → Fresh s
  first : s.asked ≠ [] → 1 ≤ s.line.waiting + s.paid.length
  packet : ∀ packet ∈ s.line.asked.getLast?, ∀ cell m, readPacket cell packet = some m → m.seq = numOf s.line.delegate.lastseq
  cell : s.line.asked = [] → 0 < s.line.pending → s.line.client.msg.seq = numOf s.line.delegate.lastseq
  others : s.asked.length ≤ 1 ∨ 2 ≤ s.line.waiting + s.paid.length ∨ s.gotostart = true ∨
    ∃ reply ∈ s.line.told, reply.seq = numOf s.line.delegate.lastseq ∧ reply.errCode ≠ 0

/-- A scene is entered with a copy that has no more hearts than the server. -/
theorem enter_openly {c : Client κ} {u : RemoteUser} (copy : u.heart.toInt ≤ c.user.udb.heart.toNat) (d : MyDelegate Press)
    (some_ : 0 < c.user.udb.nextStage) : Openly c.user.udb.nextStage (enter c u d) where
  nextStage := rfl
  select := by
    have pos := UInt32.lt_iff_toNat_lt.1 some_
    rw [show (0 : UInt32).toNat = 0 from rfl] at pos
    rw [show (enter c u d).select.id.toInt = 1 from rfl]
    omega
  chosen := fun _ mem => by cases mem
  fresh _ := {
    told := rfl
    copy := fun v found => by
      cases found
      exact copy
    packets := fun _ mem => by cases mem
    cell := fun waits => by cases waits }
  first := fun asks => absurd rfl asks
  packet := fun _ mem => by cases mem
  cell := fun _ waits => by cases waits
  others := .inl (Nat.zero_le 1)

/-- A request for an open stage is sent. -/
theorem Openly.send (openly : Openly next s) (books : Books s) {u : RemoteUser} {packet : Json} (user : s.line.user = some u)
    (written : (Press.play s.select).packet u s.line.delegate.seq = some packet) :
    Openly next { s with
      line := { s.line with delegate := s.line.delegate.sendServer (some (.play s.select)), asked := s.line.asked ++ [packet] }
      scheduled := true
      asked := s.asked ++ [s.select] } where
  nextStage := openly.nextStage
  select := openly.select
  chosen x mem := by
    rcases List.mem_append.1 mem with old | new
    · exact openly.chosen x old
    · rw [List.mem_singleton.1 new]
      exact openly.select
  fresh paid := {
    told := (openly.fresh paid).told
    copy := (openly.fresh paid).copy
    packets := fun p mem cell m read => by
      rcases List.mem_append.1 mem with old | new
      · obtain ⟨x, asked, rest⟩ := (openly.fresh paid).packets p old cell m read
        exact ⟨x, List.mem_append_left _ asked, rest⟩
      · obtain rfl := List.mem_singleton.1 new
        obtain ⟨plays, -, enough⟩ := play_plays written read
        have copy := (openly.fresh paid).copy u user
        exact ⟨s.select, by simp, plays, by dsimp only; omega⟩
    cell := fun waits => by
      obtain ⟨x, asked, rest⟩ := (openly.fresh paid).cell waits
      exact ⟨x, List.mem_append_left _ asked, rest⟩ }
  first _ := by
    have := books.charges
    simp only [Line.waiting, List.length_append, List.length_singleton]
    push_cast
    omega
  packet p last cell m read := by
    have same : packet = p := by simpa using last
    exact (play_plays written (same ▸ read)).2.1
  cell none_ := absurd none_ (by simp)
  others := by
    by_cases none_ : s.asked = []
    · exact .inl (by simp [none_])
    · have before := openly.first none_
      refine .inr (.inl ?_)
      simp only [Line.waiting, List.length_append, List.length_singleton] at before ⊢
      push_cast
      omega

/-- A request that is served is charged, or its reply tells of an error. -/
theorem Openly.serve (openly : Openly next s) (books : Books s) {env : Env} {online : Online κ} {o : Outcome κ}
    (waits : 0 < s.line.pending) (ran : Server.serve cv env online s.line.client s.line.client.msg = .ok o) (gotostart : Bool)
    (calm : gotostart = s.gotostart) :
    Openly next { s with
      line := { s.line with client := o.c, pending := s.line.pending - 1, told := s.line.told ++ o.sent }
      gotostart
      paid := s.paid ++ taken s.line.client.user.udb o.c.user.udb } := by
  subst calm
  obtain ⟨x, asked, plays⟩ := books.cell waits
  have named : o.c.msg = s.line.client.msg := serve_msg (fun out => by rw [books.ready] at out; cases out) ran
  obtain ⟨reply, sent, seq, -, -, played⟩ := serve_played plays books.ready ran
  have few : s.line.pending = s.line.pending - 1 + 1 := by omega
  have next' : o.c.user.udb.nextStage = next := by
    cases played with
    | charged _ same => exact same.trans openly.nextStage
    | refused _ user => rw [user]; exact openly.nextStage
  -- the first request that is served is charged
  have charged : taken s.line.client.user.udb o.c.user.udb = [x.need] ∨
      taken s.line.client.user.udb o.c.user.udb = [] ∧ reply.errCode ≠ 0 ∧ s.paid ≠ [] := by
    cases played with
    | charged left => exact .inl (taken_charged left)
    | refused why user code =>
      refine .inr ⟨by rw [user, taken_same], code, fun paid => ?_⟩
      obtain ⟨y, asked', plays', enough⟩ := (openly.fresh paid).cell waits
      obtain ⟨reply', -, -, -, -, played'⟩ := serve_played plays' books.ready ran
      cases played' with
      | charged left =>
        rw [user] at left
        unfold Stage.need at left
        omega
      | refused why' => exact why' ⟨by rw [openly.nextStage]; exact openly.chosen y asked', enough⟩
  exact {
    nextStage := next'
    select := openly.select
    chosen := openly.chosen
    fresh := fun paid => by
      rcases charged with charged | ⟨-, -, some_⟩
      · simp [charged] at paid
      · exact absurd (List.append_eq_nil_iff.1 paid).1 some_
    first := fun asks => by
      have before := openly.first asks
      simp only [Line.waiting, List.length_append] at before ⊢
      rcases charged with charged | ⟨-, -, some_⟩
      · rw [charged, List.length_singleton]
        push_cast
        omega
      · have := List.length_pos_iff.2 some_
        push_cast
        omega
    packet := openly.packet
    cell := fun none_ _ => by
      rw [named]
      exact openly.cell none_ waits
    others := by
      rcases openly.others with one | two | back | ⟨r, mem, rest⟩
      · exact .inl one
      · simp only [Line.waiting] at two
        rcases charged with charged | ⟨charged, code, some_⟩
        · refine .inr (.inl ?_)
          simp only [Line.waiting, List.length_append, charged, List.length_singleton]
          push_cast
          omega
        · have pos := List.length_pos_iff.2 some_
          rw [charged, List.append_nil]
          by_cases left : 2 ≤ (s.line.asked.length + (s.line.pending - 1 : ℕ) + s.paid.length : ℤ)
          · exact .inr (.inl left)
          · -- the last request of all has been refused
            have none_ : s.line.asked = [] := List.length_eq_zero_iff.1 (by omega)
            refine .inr (.inr (.inr ⟨reply, ?_, seq.trans (openly.cell none_ waits), code⟩))
            rw [sent]
            exact List.mem_append_right _ (List.mem_singleton_self _)
      · exact .inr (.inr (.inl back))
      · exact .inr (.inr (.inr ⟨r, List.mem_append_left _ mem, rest⟩)) }

/-- An error code that answers the last request sends the player back. -/
theorem Openly.receive (openly : Openly next s) (books : Books s) {reply : Msg} {rest : List Msg}
    (waits : s.line.told = reply :: rest) :
    Openly next { s with
      line := Line.onMessage cs { s.line with told := rest } reply
      gotostart := s.gotostart || s.line.refuses cs reply } := by
  have asks : s.asked ≠ [] := fun none_ => by
    rw [(books.idle none_).1.2.2] at waits
    cases waits
  have paid : s.paid ≠ [] := fun none_ => by
    rw [(openly.fresh none_).told] at waits
    cases waits
  obtain ⟨stage, target⟩ := books.target asks
  -- an error that answers the last request sends the player back
  have back : reply.seq = numOf s.line.delegate.lastseq → reply.errCode ≠ 0 → s.line.refuses cs reply = true := by
    intro last code
    rcases Line.onMessage_cases cs s.line reply with ⟨-, -, -, null, -⟩ | ⟨-, -, -, -, refuses⟩
    · cases (null last).symm.trans target
    · by_contra fine
      obtain ⟨e, few, code'⟩ := books.codes reply (waits ▸ List.mem_cons_self)
      exact code (errCode_zero few code' (refuses.symm.trans (Bool.eq_false_iff.2 fine)))
  have others : s.asked.length ≤ 1 ∨ 2 ≤ s.line.waiting + s.paid.length ∨ (s.gotostart || s.line.refuses cs reply) = true ∨
      ∃ r ∈ rest, r.seq = numOf s.line.delegate.lastseq ∧ r.errCode ≠ 0 := by
    rcases openly.others with one | two | again | ⟨r, mem, last, code⟩
    · exact .inl one
    · exact .inr (.inl two)
    · exact .inr (.inr (.inl (by rw [again, Bool.true_or])))
    · rw [waits] at mem
      rcases List.mem_cons.1 mem with rfl | mem
      · exact .inr (.inr (.inl (by rw [back last code, Bool.or_true])))
      · exact .inr (.inr (.inr ⟨r, mem, last, code⟩))
  rcases Line.onMessage_cases cs { s.line with told := rest } reply with ⟨user, same, -⟩ | ⟨press, user, -, same, -⟩
  all_goals
    rw [same]
    exact { openly with fresh := fun none_ => absurd none_ paid, others }

/-- **Open stages**, after a step while the connection is open. -/
theorem Moves.openly (moves : Moves cv cs s a t) (books : s.line.up = true → Books s) (openly : s.line.up = true → Openly next s)
    (opens : Opens next a) (open_ : t.line.up = true) : Openly next t := by
  cases moves with
  | shows _ select event view other chosen =>
    have openly := openly open_
    refine { openly with select := ?_, fresh := fun paid => { openly.fresh paid with } }
    rcases chosen with rfl | rfl
    · exact openly.select
    · exact opens
  | returns _ _ closed => cases closed.symm.trans open_
  | sends e u packet user written => exact (openly open_).send (books open_) user written
  | checks delegate scheduled target lastseq =>
    have openly := openly open_
    exact { openly with
      fresh := fun paid => { openly.fresh paid with }
      packet := fun p last => by rw [lastseq]; exact openly.packet p last
      cell := fun none_ waits => by rw [lastseq]; exact openly.cell none_ waits
      others := by rw [lastseq]; exact openly.others }
  | enters =>
    have openly := openly open_
    exact { openly with fresh := fun paid => { openly.fresh paid with } }
  | line b line silent other h =>
    have up := Line.step_up h open_
    have books := books up
    have openly := openly up
    cases b with
    | press => cases silent
    | check => exact absurd rfl other
    | decode =>
      obtain ⟨packet, rest, msg, waits, -, read, rfl⟩ := Line.step_decode h
      have more : ∀ p ∈ rest, p ∈ s.line.asked := fun p mem => waits ▸ List.mem_cons_of_mem _ mem
      have calm : (s.gotostart || s.line.shouldGoto cs { s.line with
          asked := rest, client := { s.line.client with msg }, pending := s.line.pending + 1 } .decode) = s.gotostart := by
        simp [Line.shouldGoto]
      have same : s.line.waiting = rest.length + (s.line.pending + 1 : ℕ) := by
        simp only [Line.waiting, waits, List.length_cons]
        push_cast
        ring
      dsimp only
      rw [taken_same, List.append_nil, calm]
      exact { openly with
        fresh := fun paid => { openly.fresh paid with
          packets := fun p mem => (openly.fresh paid).packets p (more p mem)
          cell := fun _ => (openly.fresh paid).packets packet (waits ▸ List.mem_cons_self) _ msg read }
        first := fun asks => by
          have before := openly.first asks
          rw [same] at before
          exact before
        packet := fun p last => openly.packet p (by
          rw [waits, List.getLast?_cons]
          dsimp only at last
          rw [last]
          rfl)
        cell := fun none_ _ => openly.packet packet (by rw [waits, show rest = [] from none_]; rfl) _ msg read
        others := by
          have before := openly.others
          rw [same] at before
          exact before }
    | serve env online =>
      obtain ⟨-, waits, -, ⟨rfl, -⟩ | ⟨o, ran, rfl⟩⟩ := Line.step_serve h
      · cases open_
      · exact openly.serve books waits ran _ (by simp [Line.shouldGoto, up])
    | receive =>
      obtain ⟨reply, rest, waits, rfl⟩ := Line.step_receive h
      obtain ⟨user, delegate, same, -⟩ := Line.onMessage_eq cs { s.line with told := rest } reply
      have kept : (Line.onMessage cs { s.line with told := rest } reply).client = s.line.client := by rw [same]
      rw [kept, taken_same, List.append_nil]
      simp only [Line.shouldGoto, waits]
      exact openly.receive books waits
    | lose =>
      cases Line.step_lose h
      cases open_

/-! ## Runs -/

/-- A connection that is open was open before. -/
theorem step_up (h : step cv cs s a = some t) (open_ : t.line.up = true) : s.line.up = true := by
  cases step_moves h with
  | shows | enters | checks => exact open_
  | returns _ _ closed => cases closed.symm.trans open_
  | sends => exact open_
  | line b line _ _ moved => exact Line.step_up moved open_

/-- **When the stage entered is bought.** No run enters the play scene without a
payment. One that has sent a single request, for the stage that it enters, has
bought it; and where the stages chosen are open, no other run has, once nothing
is on its way any more. -/
theorem bought_iff_once (cv : FloatConv) (cs : CSJson) (c : Client κ) (u : RemoteUser) (d : MyDelegate Press)
    (ready : c.user.ready = true) (copy : Mirrors u c.user.udb) (as : List (LobbyStep κ)) (s : Lobby κ)
    (run : exec (step cv cs) (enter c u d) as = some s) (open_ : s.line.up = true) (stage : Stage)
    (there : s.view = .play stage) :
    s.paid ≠ [] ∧ (s.asked = [stage] → Bought stage s) ∧
      (s.line.Quiet → 0 < c.user.udb.nextStage → (∀ a ∈ as, Opens c.user.udb.nextStage a) → Bought stage s →
        s.asked = [stage]) := by
  have books : s.line.up = true → Books s :=
    exec_inv (Q := fun _ _ => True) (fun _ _ _ before _ h up => (step_moves h).books before up)
      (fun _ => enter_books ready u d) (fun _ _ _ _ _ => trivial) run
  obtain ⟨-, -, paid, calm⟩ := (books open_).entered stage there
  refine ⟨paid, fun one => ?_, fun quiet pos opens bought => ?_⟩
  · have few := (books open_).charges
    have some_ := List.length_pos_iff.2 paid
    rw [one, List.length_singleton] at few
    simp only [Line.waiting] at few
    obtain ⟨n, only⟩ := List.length_eq_one_iff.1 (show s.paid.length = 1 by omega)
    obtain ⟨x, asked, price⟩ := (books open_).amounts n (by rw [only]; exact List.mem_singleton_self n)
    rw [one, List.mem_singleton] at asked
    subst asked
    exact ⟨by rw [only, price], calm (by rw [one]; rfl)⟩
  · have keep : ∀ (t : Lobby κ) a t', (t.line.up = true → Books t ∧ Openly c.user.udb.nextStage t) →
        Opens c.user.udb.nextStage a → step cv cs t a = some t' →
          t'.line.up = true → Books t' ∧ Openly c.user.udb.nextStage t' := by
      intro t a t' before opens h up
      have was := step_up h up
      have moves := step_moves h
      exact ⟨moves.books (fun up => (before up).1) up, moves.openly (fun up => (before up).1) (fun up => (before up).2) opens up⟩
    have openly := (exec_inv (Q := fun _ a => Opens c.user.udb.nextStage a) keep
      (fun _ => ⟨enter_books ready u d, enter_openly copy.heart.le d pos⟩) ((along_actions run).2 opens) run open_).2
    obtain ⟨price, calm⟩ := bought
    have none_ : s.line.waiting = 0 := by simp [Line.waiting, quiet.1, quiet.2.1]
    obtain ⟨x, asked, same⟩ := (books open_).amounts stage.need (by rw [price]; exact List.mem_singleton_self _)
    have one : s.asked.length ≤ 1 := by
      rcases openly.others with one | two | back | ⟨r, mem, -⟩
      · exact one
      · rw [none_, price] at two
        simp at two
      · cases calm.symm.trans back
      · rw [quiet.2.2] at mem
        cases mem
    have pos := List.length_pos_of_mem asked
    obtain ⟨y, only⟩ := List.length_eq_one_iff.1 (show s.asked.length = 1 by omega)
    rw [only, List.mem_singleton] at asked
    rw [only, ← asked, Stage.need_inj same]

end

/-- A client who has finished five stages, and his copy. -/
def veteran : Client Unit :=
  { Line.member with user := { Line.member.user with udb := { Line.member.user.udb with nextStage := 6 } } }

def veteranUser : RemoteUser := { Line.memberUser with stageid := 6 }

theorem veteranUser_mirrors : Mirrors veteranUser veteran.user.udb :=
  ⟨rfl, rfl, Line.memberUser_mirrors.inside, Line.memberUser_mirrors.locks⟩

def lastStage : Stage := ⟨6, by decide⟩

/-- The button is touched, and the request goes through. -/
def touched : List (LobbyStep Unit) :=
  [.play .began, .play .ended, .line .decode, .line (.serve (Env.answering fun _ => .notFound) .empty), .line .receive, .update]

/-- The last girl is chosen while the request for the first stage is under way. -/
def switched : List (LobbyStep Unit) :=
  [.play .began, .play .ended, .girl lastStage .began, .line .decode,
    .line (.serve (Env.answering fun _ => .notFound) .empty), .line .receive, .update]

/-- What a run leaves behind. -/
def left (s : Lobby Unit) : View × List ℕ × List Stage × Bool × Bool :=
  (s.view, s.paid, s.asked, s.line.up, decide s.line.Quiet)

/-- The first stage is bought; the last one is entered at the price of the first. -/
theorem bought_iff_once_switched :
    (∃ s, exec (step amd64 Pair.strict) (enter veteran veteranUser (.init none)) touched = some s ∧
      s.view = .play Pair.firstStage ∧ Bought Pair.firstStage s) ∧
    ∃ s, exec (step amd64 Pair.strict) (enter veteran veteranUser (.init none)) switched = some s ∧
      s.view = .play lastStage ∧ s.paid = [2] ∧ ¬ Bought lastStage s := by
  constructor
  · have ends : (exec (step amd64 Pair.strict) (enter veteran veteranUser (.init none)) touched).map left =
        some (.play Pair.firstStage, [2], [Pair.firstStage], true, true) := by decide +kernel
    obtain ⟨s, run, shown⟩ := Option.map_eq_some_iff.1 ends
    simp only [left, Prod.mk.injEq, decide_eq_true_eq] at shown
    obtain ⟨there, -, once, open_, -⟩ := shown
    exact ⟨s, run, there, (bought_iff_once amd64 Pair.strict veteran veteranUser (.init none) rfl veteranUser_mirrors touched
      s run open_ Pair.firstStage there).2.1 once⟩
  · have ends : (exec (step amd64 Pair.strict) (enter veteran veteranUser (.init none)) switched).map left =
        some (.play lastStage, [2], [Pair.firstStage], true, true) := by decide +kernel
    obtain ⟨s, run, shown⟩ := Option.map_eq_some_iff.1 ends
    simp only [left, Prod.mk.injEq, decide_eq_true_eq] at shown
    obtain ⟨there, paid, once, open_, quiet⟩ := shown
    refine ⟨s, run, there, paid, fun bought => ?_⟩
    have opened : lastStage.id.toInt ≤ veteran.user.udb.nextStage.toNat := by decide
    have opens : ∀ a ∈ switched, Opens veteran.user.udb.nextStage a := by
      simp only [switched, List.forall_mem_cons]
      exact ⟨trivial, trivial, opened, trivial, trivial, trivial, trivial, fun a mem => absurd mem List.not_mem_nil⟩
    have asked := (bought_iff_once amd64 Pair.strict veteran veteranUser (.init none) rfl veteranUser_mirrors switched s run
      open_ lastStage there).2.2 quiet (by decide) opens bought
    exact absurd (once.symm.trans asked) (by decide)

end Lobby
end Crazyass.Client
