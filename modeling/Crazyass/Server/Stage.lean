import Crazyass.Server.Answer
import Crazyass.Server.Panics

/-!
# Stage progress

`ProcEndPlay` raises `NextStage`, `ProcStartPlay` indexes the price table below
it, and nothing compares `NextStage` with the table. The runs here start with
the registration of a user and consist of well-typed plays.
-/

namespace Crazyass.Server
open Go Sys

def kCmdStartPlay : Float64 := .ofUInt32 2
def kCmdEndPlay : Float64 := .ofUInt32 3

section
variable {κ : Type}

/-- A request whose `stageid` is a natural number and whose `pass`, if it is
there, is a boolean. -/
structure WellTyped (m : Msg) : Prop where
  stageid : ∃ x n, m.body "stageid" = some (.json (.num x)) ∧ x.val = (n : ℕ)
  pass : ∀ v, m.body "pass" = some v → ∃ b, v = .json (.bool b)

/-- A well-typed `StartPlay` or `EndPlay`, with what the world answers to it. -/
structure Play (κ : Type) where
  env : Env
  online : Online κ
  msg : Msg
  play : msg.cmd = kCmdStartPlay ∨ msg.cmd = kCmdEndPlay
  typed : WellTyped msg

variable (cv : FloatConv)

namespace Play

def step (s : Session κ) (a : Play κ) : Option (Session κ) := s.step cv (.request a.env a.online a.msg)

/-- Every stage the guard of `ProcStartPlay` admits has a price, so no
`StartPlay` panics. -/
structure Inside (s : Session κ) : Prop where
  priced : ∀ sid, sid ≠ 0 → sid ≤ s.client.user.udb.nextStage → ∃ price, stageHeartConfig[(sid - 1).toNat]? = some price
  returns : ∀ env online m, m.cmd = kCmdStartPlay → WellTyped m → ∃ o, serve cv env online s.client m = .ok o

/-- `EndPlay` of the top stage, passed. -/
def Passes (s : Session κ) (a : Play κ) (x : Float64) : Prop :=
  a.msg.cmd = kCmdEndPlay ∧ a.msg.body "stageid" = some (.json (.num x)) ∧
    a.msg.body "pass" = some (.json (.bool true)) ∧ x.val = s.client.user.udb.nextStage.toNat

/-- `NextStage` stays, or it grows by one and the request passed the top stage. -/
def Grows (s : Session κ) (a : Play κ) : Prop :=
  ∀ t, step cv s a = some t →
    t.client.user.udb.nextStage = s.client.user.udb.nextStage ∨
    t.client.user.udb.nextStage.toNat = s.client.user.udb.nextStage.toNat + 1 ∧ ∃ x, Passes s a x

/-- A pass of the stage that converts to `NextStage` names it, and it is not
the last of the table. -/
def Within (s : Session κ) (a : Play κ) : Prop :=
  a.msg.cmd = kCmdEndPlay → a.msg.body "pass" = some (.json (.bool true)) →
    ∀ x, a.msg.body "stageid" = some (.json (.num x)) → cv.uint32 x = s.client.user.udb.nextStage →
      x.val = s.client.user.udb.nextStage.toNat ∧ s.client.user.udb.nextStage.toNat < stageHeartConfig.length

variable {cv} {s t : Session κ} {a : Play κ}

theorem Inside.le (inside : Inside cv s) : s.client.user.udb.nextStage.toNat ≤ stageHeartConfig.length := by
  by_cases zero : s.client.user.udb.nextStage = 0
  · rw [zero]
    decide
  · obtain ⟨price, top⟩ := inside.priced _ zero (UInt32.le_refl _)
    have range := (List.getElem?_eq_some_iff.1 top).1
    have stages := pred_toNat zero
    omega

/-- What the two commands look up. -/
theorem lookup_play (cv : FloatConv) (m : Msg) :
    (m.cmd = kCmdStartPlay → procFuncArray[(cv.int m.cmd).toInt.toNat]? = some (some .startPlay)) ∧
      (m.cmd = kCmdEndPlay → procFuncArray[(cv.int m.cmd).toInt.toNat]? = some (some .endPlay)) := by
  constructor <;> intro cmd <;> rw [lookup_of_cmd cmd, procFuncArray_eq] <;> rfl

/-- Where the table covers the player's progress, every `StartPlay` returns. -/
theorem inside_of_le (h : s.client.user.udb.nextStage.toNat ≤ stageHeartConfig.length) : Inside cv s := by
  have short : ∀ sid : UInt32, sid ≤ s.client.user.udb.nextStage → sid.toNat ≤ stageHeartConfig.length :=
    fun sid le => (UInt32.le_iff_toNat_le.1 le).trans h
  refine ⟨fun sid pos le => ?_, fun env online m cmd typed => ?_⟩
  · have stages := pred_toNat pos
    have range := short sid le
    have inside : (sid - 1).toNat < stageHeartConfig.length := by omega
    exact ⟨_, List.getElem?_eq_getElem inside⟩
  · apply returns_false_iff.1
    apply procMsg_returns.2
    have found := (lookup_play cv m).1 cmd
    have low : 0 ≤ (cv.int m.cmd).toInt := by
      rw [cmd, kCmdStartPlay, cv.int_ofUInt32]
      omega
    refine .inr (.inr ⟨inSlice_iff.2 ⟨low, _, found⟩, fun handler entry => ?_⟩)
    cases found.symm.trans entry
    obtain ⟨x, n, stageid, -⟩ := typed.stageid
    intro v hv
    cases stageid.symm.trans hv
    exact ⟨x, rfl, fun _ le => .inr (short _ le)⟩

/-- A play is refused or served by its own handler. -/
theorem step_play (ready : s.client.user.ready = true) (h : step cv s a = some t) :
    (t.client.user = s.client.user ∧ (a.msg.cmd = kCmdEndPlay → ∃ e, Refused cv a.msg s.client.user .endPlay e)) ∨
      (a.msg.cmd = kCmdStartPlay ∧ Served cv a.msg s.client.user .startPlay t.client.user) ∨
      (a.msg.cmd = kCmdEndPlay ∧ Served cv a.msg s.client.user .endPlay t.client.user) := by
  obtain ⟨-, o, run, rfl⟩ := Session.step_request.1 h
  have start : a.msg.cmd = kCmdStartPlay → chosen cv a.msg s.client.user = some .startPlay := fun cmd => by
    rw [chosen_of_ready ready, (lookup_play cv a.msg).1 cmd]
    rfl
  have finish : a.msg.cmd = kCmdEndPlay → chosen cv a.msg s.client.user = some .endPlay := fun cmd => by
    rw [chosen_of_ready ready, (lookup_play cv a.msg).2 cmd]
    rfl
  rcases serve_user ready run with ⟨same, refused⟩ | ⟨handler, found, served⟩
  · refine .inl ⟨same, fun cmd => refused .endPlay ?_ (finish cmd)⟩
    rw [cmd]
    decide
  · rcases a.play with cmd | cmd
    · cases (start cmd).symm.trans found
      exact .inr (.inl ⟨cmd, served⟩)
    · cases (finish cmd).symm.trans found
      exact .inr (.inr ⟨cmd, served⟩)

theorem step_ready (ready : s.client.user.ready = true) (h : step cv s a = some t) : t.client.user.ready = true := by
  rcases step_play ready h with ⟨same, -⟩ | ⟨-, served⟩ | ⟨-, served⟩
  · rw [same]
    exact ready
  · exact served.ready.trans ready
  · exact served.ready.trans ready

/-- A play that leaves `NextStage` alone is within the table or passes nothing. -/
theorem idle_iff (h : step cv s a = some t) (inside : Inside cv s)
    (same : t.client.user.udb.nextStage = s.client.user.udb.nextStage) (within : Within cv s a) :
    Inside cv t ∧ Grows cv s a ↔ Within cv s a := by
  refine iff_of_true ⟨inside_of_le ?_, ?_⟩ within
  · rw [same]
    exact inside.le
  · intro t' h'
    cases h.symm.trans h'
    exact .inl same

/-- `EndPlay` of the top stage, passed: there must be a price for the next one. -/
theorem passed_iff {x : Float64} (inside : Inside cv s) (h : step cv s a = some t) (cmd : a.msg.cmd = kCmdEndPlay)
    (stageid : a.msg.body "stageid" = some (.json (.num x))) (pass : a.msg.body "pass" = some (.json (.bool true)))
    (top : cv.uint32 x = s.client.user.udb.nextStage)
    (next : t.client.user.udb.nextStage = s.client.user.udb.nextStage + 1) :
    Inside cv t ∧ Grows cv s a ↔ Within cv s a := by
  have few := inside.le
  have grown : t.client.user.udb.nextStage.toNat = s.client.user.udb.nextStage.toNat + 1 := by
    have length : stageHeartConfig.length = 6 := rfl
    rw [next, UInt32.toNat_add]
    simp only [UInt32.reduceToNat]
    omega
  constructor
  · rintro ⟨inside', grows⟩ _ _ y stageid' _
    have few' := inside'.le
    rcases grows t h with same | ⟨-, z, -, stageid'', -, named⟩
    · rw [same] at grown
      omega
    · cases stageid'.symm.trans stageid''
      exact ⟨named, by omega⟩
  · intro within
    obtain ⟨named, room⟩ := within cmd pass x stageid top
    refine ⟨inside_of_le (by omega), fun t' h' => .inr ?_⟩
    cases h.symm.trans h'
    exact ⟨grown, x, cmd, stageid, pass, named⟩

/-- **One play.** It keeps progress inside the table and grows it as it should
exactly when it is within the table. -/
theorem step_iff (ready : s.client.user.ready = true) (inside : Inside cv s) (h : step cv s a = some t) :
    Inside cv t ∧ Grows cv s a ↔ Within cv s a := by
  have other : kCmdStartPlay ≠ kCmdEndPlay := by decide
  rcases step_play ready h with ⟨same, refused⟩ | ⟨cmd, served⟩ | ⟨cmd, served⟩
  · refine idle_iff h inside (by rw [same]) ?_
    intro cmd pass x stageid top
    obtain ⟨e, why⟩ := refused cmd
    cases why with
    | noEnd absent =>
      rw [absent] at stageid
      cases stageid
    | farEnd y stageid' range =>
      cases stageid.symm.trans stageid'
      rw [top] at range
      exact absurd range (UInt32.lt_irrefl _)
    | noPass absent =>
      rw [absent] at pass
      cases pass
  · refine idle_iff h inside ?_ (fun cmd' => absurd (cmd.symm.trans cmd') other)
    generalize t.client.user = v at served
    cases served
    simp [User.markDirty]
  · generalize later : t.client.user = v at served
    cases served with
    | played x stageid stays =>
      refine idle_iff h inside (by rw [later]) ?_
      intro _ pass y stageid' top
      cases stageid.symm.trans stageid'
      cases pass.symm.trans (stays top)
    | passed x stageid pass top => exact passed_iff inside h cmd stageid pass top (by rw [later]; rfl)

/-- The state of a connection whose first request registers a new user. -/
def Registered (cv : FloatConv) (s : Session κ) : Prop :=
  ∃ self env online m, m.cmd = kCmdUserLogin ∧ env.find (loginId env m) = .notFound ∧
    (Session.start self).step cv (.request env online m) = some s

theorem Registered.first (h : Registered cv s) : s.client.user.ready = true ∧ s.client.user.udb.nextStage = 1 := by
  obtain ⟨self, env, online, m, cmd, new, run⟩ := h
  obtain ⟨-, o, served, rfl⟩ := Session.step_request.1 run
  change o.c.user.ready = true ∧ o.c.user.udb.nextStage = 1
  have load : (Client.new self).user.load env (loginId env m) =
      some { User.init with udb := userRegister .zero (loginId env m) env.registerTime, dirty := true } := by
    unfold User.load
    rw [new]
    rfl
  rcases serve_login rfl cmd served with ⟨failed, -⟩ | ⟨v, loaded, user, -⟩
  · cases load.symm.trans failed
  · cases load.symm.trans loaded
    rw [user, loggedIn_udb]
    exact ⟨loggedIn_ready _ _, rfl⟩

/-- **How far progress is safe.** From registration on: `NextStage` starts at 1,
and in a run of plays it grows as it should and stays inside the price table
exactly when every play is within the table. -/
theorem progress_iff (cv : FloatConv) (s : Session κ) (registered : Registered cv s) (as : List (Play κ)) (u : Session κ)
    (run : exec (step cv) s as = some u) :
    s.client.user.udb.nextStage = 1 ∧
      (Through (step cv) (Inside cv) s as ∧ Along (step cv) (Grows cv) s as ↔ Along (step cv) (Within cv) s as) := by
  obtain ⟨ready, one⟩ := registered.first
  refine ⟨one, through_along_iff (fun t a t' ready _ h => step_ready ready h)
    (fun t a t' ready inside h => step_iff ready inside h) ready (inside_of_le ?_) run⟩
  rw [one]
  decide

end Play
end

/-! ## The whole game -/

/-- The connection of a new user, after registration. -/
def registration : Option (Session Unit) :=
  (Session.start ()).step amd64 (.request (Env.answering fun _ => .notFound) .empty (.request 1 "u" []))

theorem registered_of_registration {s : Session Unit} (h : registration = some s) : Play.Registered amd64 s :=
  ⟨(), _, _, _, rfl, rfl, h⟩

/-- `EndPlay` of a stage, passed. -/
def passStage (n : UInt32) : Play Unit where
  env := Env.answering fun _ => .failed
  online := .empty
  msg := .request 3 "u" [("stageid", .num (.ofUInt32 n)), ("pass", .bool true)]
  play := .inr rfl
  typed := ⟨⟨_, n.toNat, rfl, rfl⟩, fun v h => ⟨true, by cases h; rfl⟩⟩

/-- The condition on the first stage. -/
theorem progress_first_stage :
    ∃ s, Play.Registered amd64 s ∧ Through (Play.step amd64) (Play.Inside amd64) s [passStage 1] ∧
      Along (Play.step amd64) (Play.Grows amd64) s [passStage 1] := by
  have shown : (registration.bind fun s => (exec (Play.step amd64) s [passStage 1]).map fun _ => ()) = some () := by
    decide +kernel
  obtain ⟨s, first, rest⟩ := Option.bind_eq_some_iff.1 shown
  obtain ⟨u, run, -⟩ := Option.map_eq_some_iff.1 rest
  obtain ⟨one, safe⟩ := Play.progress_iff amd64 s (registered_of_registration first) [passStage 1] u run
  refine ⟨s, registered_of_registration first, safe.2 ?_⟩
  obtain ⟨t, step, -⟩ := exec_cons_eq_some.1 run
  refine (along_cons step).2 ⟨?_, along_nil⟩
  intro _ _ x stageid _
  cases stageid
  rw [one]
  decide

/-- All stages of the table, passed. -/
def wholeGame : List (Play Unit) := [1, 2, 3, 4, 5, 6].map passStage

/-- After them `StartPlay` of stage 7 is admitted and panics. -/
theorem progress_leaves_table :
    ∃ s u, Play.Registered amd64 s ∧ exec (Play.step amd64) s wholeGame = some u ∧
      panicOf (serve amd64 (Env.answering fun _ => .failed) .empty u.client
        (.request 2 "u" [("stageid", .num (.ofUInt32 7))])) = some .stageHeartConfig ∧
      ¬ Through (Play.step amd64) (Play.Inside amd64) s wholeGame := by
  have shown : (registration.bind fun s => (exec (Play.step amd64) s wholeGame).map fun u =>
      (u.client.user.udb.nextStage, panicOf (serve amd64 (Env.answering fun _ => .failed) .empty u.client
        (.request 2 "u" [("stageid", .num (.ofUInt32 7))])))) = some (7, some .stageHeartConfig) := by
    decide +kernel
  obtain ⟨s, first, rest⟩ := Option.bind_eq_some_iff.1 shown
  obtain ⟨u, run, result⟩ := Option.map_eq_some_iff.1 rest
  obtain ⟨seven, panics⟩ := Prod.mk.inj result
  refine ⟨s, u, registered_of_registration first, run, panics, fun safe => ?_⟩
  have few := (safe.last run).le
  rw [seven] at few
  exact absurd few (by decide)

end Crazyass.Server
