import Crazyass.Sys.Run
import Crazyass.Server.Answer
import Crazyass.Server.Database

/-!
# The dirty flag

A connection with the collection its user is stored in, on a database that
never fails and that nobody else writes. `Sound` says that a difference between
the user in memory and the stored document is always flagged. Two places write
the user without setting the flag: `Login`, on a document it found, and
`procIMsg`.
-/

namespace Crazyass.Server
open Go Sys

/-! ## Runs -/

/-- A connection and the collection. -/
structure Backed (κ : Type) where
  client : Client κ
  db : Collection

/-- One case of the `select` in `Proc`, the database and the clock answering. -/
inductive BackedStep (κ : Type) where
  | request (k : Clock) (online : Online κ) (m : Msg)
  | imsg (value : Int64)

namespace Backed
section
variable {κ : Type} (cv : FloatConv)

def start (self : κ) (db : Collection) : Backed κ := ⟨.new self, db⟩

def step (s : Backed κ) : BackedStep κ → Option (Backed κ)
  | .request k online m =>
    if s.client.enable then
      match serve cv (s.db.env k) online s.client m with
      | .error _ => none
      | .ok o => some ⟨o.c, s.db.upsert? o.upsert⟩
    else none
  | .imsg value => if s.client.enable then some { s with client := serveIMsg s.client value } else none

/-- The stored document of the user is the one in memory. -/
def Stored (u : User) (db : Collection) : Prop := db.docs u.udb.userId = some u.udb

/-- **The contract of the dirty flag.** -/
def Sound (s : Backed κ) : Prop := s.client.user.ready = true → ¬ Stored s.client.user s.db → s.client.user.dirty = true

/-- A login finds the document as it would leave it; a heart message finds the
flag set or adds nothing to the low half. -/
def Flagged (s : Backed κ) : BackedStep κ → Prop
  | .request k _ m => s.client.user.ready = false → m.cmd = kCmdUserLogin →
      ∀ d, s.db.docs (loginId (s.db.env k) m) = some d →
        d.lastLogin = k.loginTime ∧ ¬ d.heart < 30 ∧ d.eventLock ≠ []
  | .imsg value => s.client.user.ready = true → s.client.user.dirty = false → value.toInt % 2 ^ 32 = 0

/-- A user that is not logged in is clean. -/
def Clean (s : Backed κ) : Prop := s.client.user.ready = false → s.client.user.dirty = false

variable {cv} {s t : Backed κ}

theorem step_request {k : Clock} {online : Online κ} {m : Msg} :
    step cv s (.request k online m) = some t ↔ s.client.enable = true ∧
      ∃ o, serve cv (s.db.env k) online s.client m = .ok o ∧ t = ⟨o.c, s.db.upsert? o.upsert⟩ := by
  unfold step
  by_cases enable : s.client.enable = true
  · simp only [enable, if_true, true_and]
    cases serve cv (s.db.env k) online s.client m <;> simp [eq_comm]
  · simp [enable]

theorem step_imsg {value : Int64} :
    step cv s (.imsg value) = some t ↔ s.client.enable = true ∧ t = { s with client := serveIMsg s.client value } := by
  unfold step
  by_cases enable : s.client.enable = true <;> simp [enable, eq_comm]

/-- A document that `Login` and the event locks leave as it is. -/
theorem loggedIn_udb_eq_iff {u : User} {env : Env} :
    (u.loggedIn env).udb = u.udb ↔ u.udb.lastLogin = env.loginTime ∧ ¬ u.udb.heart < 30 ∧ u.udb.eventLock ≠ [] := by
  obtain ⟨ready, ⟨id, last, heart, next, reg, device, locks⟩, dirty⟩ := u
  have top_up : (if heart < 30 then 99 else heart) = heart ↔ ¬ heart < 30 := by
    by_cases low : heart < 30
    · have other : (99 : UInt32) ≠ heart := fun e => absurd (e ▸ low) (by decide)
      simp [low, other]
    · simp [low]
  have locked : (if locks.length = 0 then List.replicate 6 1 else locks) = locks ↔ locks ≠ [] := by
    cases locks <;> simp
  rw [loggedIn_udb]
  simp only [UserDb.mk.injEq, true_and, top_up, locked]
  rw [eq_comm (a := env.loginTime)]

theorem imsg_stored_iff {h : UInt32} {value : Int64} : addInt h value = h ↔ value.toInt % 2 ^ 32 = 0 := by
  have sum := addInt_toNat h value
  have lt := h.toNat_lt
  rw [← UInt32.toNat_inj]
  omega

/-- A user a request leaves clean is the one it found, unless the request logged in. -/
theorem serve_clean {k : Clock} {online : Online κ} {m : Msg} {o : Outcome κ}
    (run : serve cv (s.db.env k) online s.client m = .ok o)
    (other : ¬ (s.client.user.ready = false ∧ m.cmd = kCmdUserLogin)) (clean : o.c.user.dirty = false) :
    o.c.user = s.client.user := by
  cases ready : s.client.user.ready with
  | false => exact (serve_out ready (fun cmd => other ⟨ready, cmd⟩) run).1
  | true =>
    rcases serve_user ready run with ⟨same, -⟩ | ⟨h, -, served⟩
    · exact same
    · rcases served.dirty with dirty | same
      · rw [clean] at dirty
        cases dirty
      · exact same

/-- The login on a document that is there. -/
theorem login_sound_iff {k : Clock} {online : Online κ} {m : Msg} {o : Outcome κ} {d : UserDb}
    (out : s.client.user.ready = false) (cmd : m.cmd = kCmdUserLogin) (clean : s.client.user.dirty = false)
    (found : s.db.docs (loginId (s.db.env k) m) = some d)
    (run : serve cv (s.db.env k) online s.client m = .ok o) :
    Sound ⟨o.c, s.db.upsert? o.upsert⟩ ↔ d.lastLogin = k.loginTime ∧ ¬ d.heart < 30 ∧ d.eventLock ≠ [] := by
  have load := load_found (k := k) (u := s.client.user) found
  have user : o.c.user = User.loggedIn { s.client.user with udb := d } (s.db.env k) := by
    rcases serve_login out cmd run with ⟨failed, -⟩ | ⟨v, loaded, user, -⟩
    · cases load.symm.trans failed
    · cases load.symm.trans loaded
      exact user
  have flag : o.c.user.dirty = false := by rw [user, loggedIn_dirty]; exact clean
  have logged : o.c.user.ready = true := by rw [user, loggedIn_ready]
  have id_eq : o.c.user.udb.userId = loginId (s.db.env k) m := by rw [user]; exact loggedIn_userId load
  have unwritten : o.upsert = none := (procMsg_upsert run).2 flag
  have stored : Stored o.c.user s.db ↔ o.c.user.udb = d := by
    rw [Stored, id_eq, found, Option.some.injEq, eq_comm]
  have sound : Sound ⟨o.c, s.db.upsert? o.upsert⟩ ↔ Stored o.c.user s.db := by
    rw [unwritten]
    simp [Sound, flag, logged, Collection.upsert?]
  rw [sound, stored, user]
  exact loggedIn_udb_eq_iff

/-- A request leaves the flag sound, unless it logs in on a document that login changes. -/
theorem request_sound_iff {k : Clock} {online : Online κ} {m : Msg} {o : Outcome κ} (clean : Clean s) (sound : Sound s)
    (run : serve cv (s.db.env k) online s.client m = .ok o) :
    Sound ⟨o.c, s.db.upsert? o.upsert⟩ ↔ Flagged s (.request k online m) := by
  by_cases login : s.client.user.ready = false ∧ m.cmd = kCmdUserLogin
  · obtain ⟨out, cmd⟩ := login
    cases found : s.db.docs (loginId (s.db.env k) m) with
    | none =>
      have load := load_notFound (k := k) (u := s.client.user) found
      have flag : o.c.user.dirty = true := by
        rcases serve_login out cmd run with ⟨failed, -⟩ | ⟨v, loaded, user, -⟩
        · cases load.symm.trans failed
        · cases load.symm.trans loaded
          rw [user, loggedIn_dirty]
      exact iff_of_true (fun _ _ => flag) (fun _ _ d h => by rw [found] at h; cases h)
    | some d =>
      rw [login_sound_iff out cmd (clean out) found run]
      simp [Flagged, out, cmd, found]
  · refine iff_of_true ?_ (fun out cmd => absurd ⟨out, cmd⟩ login)
    intro logged unstored
    by_contra flag
    have clean' : o.c.user.dirty = false := by simpa using flag
    have same := serve_clean run login clean'
    have unwritten : o.upsert = none := (procMsg_upsert run).2 clean'
    rw [unwritten] at unstored
    change ¬ Stored o.c.user s.db at unstored
    change o.c.user.ready = true at logged
    rw [same] at unstored logged clean'
    rw [sound logged unstored] at clean'
    cases clean'

theorem imsg_sound_iff {value : Int64} (sound : Sound s) :
    Sound { s with client := serveIMsg s.client value } ↔ Flagged s (.imsg value) := by
  refine imp_congr_right fun ready => ?_
  have ready : s.client.user.ready = true := ready
  cases flag : s.client.user.dirty with
  | true => exact iff_of_true (fun _ => flag) (fun h => by cases h)
  | false =>
    have stored : s.db.docs s.client.user.udb.userId = some s.client.user.udb := by
      by_contra unstored
      rw [sound ready unstored] at flag
      cases flag
    have same : Stored (serveIMsg s.client value).user s.db ↔
        addInt s.client.user.udb.heart value = s.client.user.udb.heart := by
      have udb : (serveIMsg s.client value).user.udb =
          { s.client.user.udb with heart := addInt s.client.user.udb.heart value } := rfl
      rw [Stored, udb, stored, Option.some.injEq]
      generalize s.client.user.udb = d
      cases d
      simp [eq_comm]
    rw [← imsg_stored_iff (h := s.client.user.udb.heart), ← same]
    have flag' : (serveIMsg s.client value).user.dirty = false := flag
    rw [flag']
    simp

/-- Every step keeps a user that is not logged in clean. -/
theorem step_clean {a : BackedStep κ} (clean : Clean s) (h : step cv s a = some t) : Clean t := by
  cases a with
  | imsg value =>
    obtain ⟨-, rfl⟩ := step_imsg.1 h
    exact clean
  | request k online m =>
    obtain ⟨-, o, run, rfl⟩ := step_request.1 h
    intro out
    change o.c.user.ready = false at out
    change o.c.user.dirty = false
    cases ready : s.client.user.ready with
    | false =>
      by_cases cmd : m.cmd = kCmdUserLogin
      · rcases serve_login ready cmd run with ⟨-, user, -⟩ | ⟨v, -, user, -⟩
        · rw [user]
          exact clean ready
        · rw [user, loggedIn_ready] at out
          cases out
      · rw [(serve_out ready cmd run).1]
        exact clean ready
    | true =>
      rw [serve_ready ready run] at out
      cases out

/-- **When the dirty flag is sound.** It is in every state of a run exactly
when every step of the run is flagged. -/
theorem sound_iff_flagged (cv : FloatConv) (self : κ) (db : Collection) (as : List (BackedStep κ)) (u : Backed κ)
    (run : exec (step cv) (start self db) as = some u) :
    Through (step cv) Sound (start self db) as ↔ Along (step cv) Flagged (start self db) as := by
  refine through_iff_along (J := Clean) (fun s a t clean _ h => step_clean clean h) ?_ (fun _ => rfl) ?_ run
  · intro s a t clean sound h
    cases a with
    | imsg value =>
      obtain ⟨-, rfl⟩ := step_imsg.1 h
      exact imsg_sound_iff sound
    | request k online m =>
      obtain ⟨-, o, served, rfl⟩ := step_request.1 h
      exact request_sound_iff clean sound served
  · intro logged
    cases logged

end
end Backed

/-! ## Two histories that lose hearts -/

/-- The document of a user who plays again. -/
def returning : UserDb := ⟨"u", 0, 50, 1, 0, "", List.replicate 6 1⟩

def emptyDb : Collection := ⟨fun _ => none, fun _ _ h => by cases h⟩

/-- The login of the user at the given time. -/
def loginAt (time : UInt32) : BackedStep Unit := .request ⟨0, time, 0⟩ .empty (.request 1 "u" [])

/-- What a run shows of its last state: whether the user is logged in, whether
it is stored as it is, and the flag. -/
def lastFlag (db : Collection) (as : List (BackedStep Unit)) : Option (Bool × Bool × Bool) :=
  (exec (Backed.step amd64) (Backed.start () db) as).map fun s =>
    (s.client.user.ready, decide (s.db.docs s.client.user.udb.userId = some s.client.user.udb), s.client.user.dirty)

theorem lastFlag_eq {db : Collection} {as : List (BackedStep Unit)} {ready stored dirty : Bool}
    (h : lastFlag db as = some (ready, stored, dirty)) :
    ∃ s, exec (Backed.step amd64) (Backed.start () db) as = some s ∧ s.client.user.ready = ready ∧
      (Backed.Stored s.client.user s.db ↔ stored = true) ∧ s.client.user.dirty = dirty := by
  obtain ⟨s, run, shown⟩ := Option.map_eq_some_iff.1 h
  simp only [Prod.mk.injEq] at shown
  obtain ⟨logged, same, flag⟩ := shown
  exact ⟨s, run, logged, by rw [← same, decide_eq_true_iff]; rfl, flag⟩

/-- The contract over the first login of a user and a heart message after it. -/
theorem sound_first_login :
    Through (Backed.step amd64) Backed.Sound (Backed.start () emptyDb) [loginAt 7, .imsg 5] := by
  have shown : lastFlag emptyDb [loginAt 7, .imsg 5] = some (true, false, true) := by decide +kernel
  obtain ⟨u, run, -⟩ := lastFlag_eq shown
  refine (Backed.sound_iff_flagged amd64 () emptyDb _ u run).2 ?_
  obtain ⟨s, first, rest⟩ := exec_cons_eq_some.1 run
  obtain ⟨t, second, -⟩ := exec_cons_eq_some.1 rest
  refine (along_cons first).2 ⟨?_, (along_cons second).2 ⟨?_, along_nil⟩⟩
  · intro _ _ d found
    cases found
  · intro _ clean
    have shown : lastFlag emptyDb [loginAt 7] = some (true, true, true) := by decide +kernel
    obtain ⟨s', run', -, -, dirty⟩ := lastFlag_eq shown
    obtain ⟨s'', first', last⟩ := exec_cons_eq_some.1 run'
    cases last
    cases first.symm.trans first'
    rw [clean] at dirty
    cases dirty

/-- `LastLogin` changes at every login, and a heart message adds hearts; in
neither case is the difference flagged. -/
theorem unflagged_changes :
    (∃ s, exec (Backed.step amd64) (Backed.start () (emptyDb.upsert returning)) [loginAt 7] = some s ∧
      ¬ Backed.Sound s) ∧
    ∃ s, exec (Backed.step amd64) (Backed.start () (emptyDb.upsert returning)) [loginAt 0, .imsg 5] = some s ∧
      ¬ Backed.Sound s := by
  have first : lastFlag (emptyDb.upsert returning) [loginAt 7] = some (true, false, false) := by decide +kernel
  have second : lastFlag (emptyDb.upsert returning) [loginAt 0, .imsg 5] = some (true, false, false) := by decide +kernel
  constructor
  · obtain ⟨s, run, logged, stored, clean⟩ := lastFlag_eq first
    refine ⟨s, run, fun sound => ?_⟩
    rw [sound logged (by simp [stored])] at clean
    cases clean
  · obtain ⟨s, run, logged, stored, clean⟩ := lastFlag_eq second
    refine ⟨s, run, fun sound => ?_⟩
    rw [sound logged (by simp [stored])] at clean
    cases clean

end Crazyass.Server
