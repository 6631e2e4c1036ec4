import Crazyass.Client.Launch

/-!
# One account for a phone

A phone that has no userid asks for one with its login, and the server registers
an account before the phone is told. An account whose userid does not reach the
file stays behind, and the next process registers another.

The contract is that a phone is given one account.
-/

namespace Crazyass.Client
open Go Server Sys

/-- A reply that tells the phone its first userid is on its way. -/
def Phone.Awaited {κ : Type} (p : Phone κ) : Prop :=
  match p.app with
  | some s => p.file = "" ∧ s.line.up = true ∧ s.line.user.isSome = true ∧ ∃ r ∈ s.line.told, r.errCode = 0
  | none => False

instance {κ : Type} (p : Phone κ) : Decidable p.Awaited := by
  unfold Phone.Awaited
  split <;> infer_instance

/-- The account that a phone remembers or is about to. -/
def Phone.accounts {κ : Type} (p : Phone κ) : ℕ := if p.file ≠ "" ∨ p.Awaited then 1 else 0

/-- The app goes on and waits for a reply. -/
def Phone.Waits {κ : Type} (p : Phone κ) : PhoneStep κ → Prop
  | .exit => False
  | .update _ => ∀ s ∈ p.app, s.line.delegate.recvcount + 1 < networkTimeout
  | _ => True

/-- The connection goes on, and `CARecv` returns. -/
def Phone.Hears {κ : Type} (cs : CSJson) (p : Phone κ) : LineStep κ → Prop
  | .lose => False
  | .receive => ∀ s ∈ p.app, ∀ t ∈ s.receive cs, t.line.user.isSome = true
  | _ => True

namespace Fleet
section
variable {ι κ : Type} [DecidableEq ι] (cv : FloatConv) (cs : CSJson)

/-- How many accounts a phone has been given. -/
def accounts (f : Fleet ι κ) (i : ι) : ℕ := f.given.countP fun q => q.1 = i

/-- A reply that tells the phone its first userid is waited for and read, and no
connection that the phone has left registers. -/
def Keeps (i : ι) (f : Fleet ι κ) : FleetStep ι κ → Prop
  | .phone j a => j = i → (f.phones i).Awaited → (f.phones i).Waits a
  | .line j b => j = i → (f.phones i).Awaited → (f.phones i).Hears cs b
  | .left k b => ∀ q ∈ f.left[k]?, q.1 = i → q.2.registered cv b = []
  | .stored _ => True

end
end Fleet

section
variable {κ : Type} {cv : FloatConv} {cs : CSJson} {G : String → Prop} {p q : Phone κ} {a : PhoneStep κ}
  {behind : Option (Line κ)} {s t : App κ}

/-- An account is awaited by an app that has no userid and a good reply on its way. -/
theorem awaited_app (app : p.app = some s) : p.Awaited ↔
    p.file = "" ∧ s.line.up = true ∧ s.line.user.isSome = true ∧ ∃ r ∈ s.line.told, r.errCode = 0 := by
  unfold Phone.Awaited
  rw [app]

/-- Nothing is awaited with no reply on its way. -/
theorem awaited_silent (app : p.app = some s) (silent : s.line.told = []) : ¬ p.Awaited := by
  rw [awaited_app app, silent]
  rintro ⟨-, -, -, r, mem, -⟩
  cases mem

/-- With one reply on its way it matters whether that is an error. -/
theorem awaited_told {reply : Msg} (app : p.app = some s) (none_ : p.file = "") (up : s.line.up = true)
    (user : s.line.user.isSome = true) (told : s.line.told = [reply]) : p.Awaited ↔ reply.errCode = 0 := by
  rw [awaited_app app, told]
  constructor
  · rintro ⟨-, -, -, r, mem, zero⟩
    exact List.mem_singleton.1 mem ▸ zero
  · intro zero
    exact ⟨none_, up, user, reply, List.mem_singleton_self _, zero⟩

/-- What a phone has depends on its file and on what it awaits. -/
theorem accounts_congr (file : q.file = p.file) (same : q.Awaited ↔ p.Awaited) : q.accounts = p.accounts := by
  simp only [Phone.accounts, file, same]

/-- A phone with a userid has one account. -/
theorem accounts_named (named : p.file ≠ "") : p.accounts = 1 := if_pos (.inl named)

/-- A phone that awaits its userid has one account. -/
theorem accounts_awaited (awaited : p.Awaited) : p.accounts = 1 := if_pos (.inr awaited)

/-- A phone without a userid that awaits none has no account. -/
theorem accounts_none (none_ : p.file = "") (silent : ¬ p.Awaited) : p.accounts = 0 :=
  if_neg (by rintro (named | awaited); exacts [named none_, silent awaited])

/-- Where the login is then. -/
theorem Phone.Awaited.told (awaited : p.Awaited) (home : p.Home G) : ∃ s reply, p.app = some s ∧ s.Asking ∧ p.file = "" ∧
    s.line.told = [reply] ∧ reply.errCode = 0 ∧ s.line.pending = 0 ∧ reply.seq = numOf s.line.delegate.lastseq := by
  cases app : p.app with
  | none =>
    unfold Phone.Awaited at awaited
    rw [app] at awaited
    exact absurd awaited id
  | some s =>
    obtain ⟨none_, up, user, r, mem, zero⟩ := (awaited_app app).1 awaited
    have silent : s.line.told ≠ [] := List.ne_nil_of_mem mem
    cases (home.app s app).place up with
    | silent _ quiet | refused _ quiet => exact absurd quiet.2.2 silent
    | asked _ _ _ _ _ told | decoded _ _ _ _ _ _ told => exact absurd told silent
    | done _ named => exact absurd none_ named
    | ended gone =>
      rw [gone] at user
      cases user
    | told asking reply seq _ pending told =>
      rw [told, List.mem_singleton] at mem
      exact ⟨s, reply, rfl, asking, none_, told, mem ▸ zero, pending, seq⟩

/-- **A step of a phone** gives up the reply that is awaited exactly when it does
not wait for it. -/
theorem Phone.Acts.gain (acts : p.Acts a q behind) (home : p.Home G) :
    ∃ k, p.accounts = q.accounts + k ∧ (k = 0 ↔ (p.Awaited → p.Waits a)) := by
  have same : (q.Awaited ↔ p.Awaited) → (p.Awaited → p.Waits a) → ∃ k, p.accounts = q.accounts + k ∧
      (k = 0 ↔ (p.Awaited → p.Waits a)) := fun same waits =>
    ⟨0, (accounts_congr (acts.home home).2.1 same).symm, iff_of_true rfl waits⟩
  have lost : p.Awaited → ¬ q.Awaited → ¬ p.Waits a → ∃ k, p.accounts = q.accounts + k ∧
      (k = 0 ↔ (p.Awaited → p.Waits a)) := fun awaited silent left => by
    obtain ⟨_, _, -, -, none_, -⟩ := awaited.told home
    refine ⟨1, ?_, iff_of_false one_ne_zero fun waits => left (waits awaited)⟩
    rw [accounts_awaited awaited, accounts_none ((acts.home home).2.1.trans none_) silent]
  cases acts with
  | launch self stageid heart dead =>
    have unasked : ¬ p.Awaited := fun awaited => by
      obtain ⟨_, _, app, -⟩ := awaited.told home
      cases dead.symm.trans app
    exact same (iff_of_false (awaited_silent rfl rfl) unasked) fun awaited => absurd awaited unasked
  | exit s app =>
    by_cases awaited : p.Awaited
    · exact lost awaited id id
    · exact same (iff_of_false id awaited) fun awaited' => absurd awaited' awaited
  | back _ s u self delegate app user why =>
    by_cases awaited : p.Awaited
    · refine lost awaited (awaited_silent rfl rfl) ?_
      obtain ⟨s', _, app', asking, -⟩ := awaited.told home
      cases app.symm.trans app'
      rcases why with state | ⟨rfl, received | late⟩
      · cases asking.state.symm.trans state
      · cases asking.recvflag.symm.trans received
      · exact fun soon => late (soon s app)
    · exact same (iff_of_false (awaited_silent rfl rfl) awaited) fun awaited' => absurd awaited' awaited
  | looks _ s delegate state app _ _ _ _ stays soon =>
    refine same (by rw [awaited_app app, awaited_app rfl]) fun awaited => ?_
    obtain ⟨s', _, app', asking, -⟩ := awaited.told home
    cases app.symm.trans app'
    cases a with
    | exit => exact absurd rfl stays
    | update self =>
      intro s' app'
      cases app.symm.trans app'
      exact soon ⟨self, rfl⟩ asking.state asking.recvflag
    | _ => trivial
  | asks _ s press u packet app user written why =>
    refine same (by rw [awaited_app app, awaited_app rfl]) fun awaited => ?_
    obtain ⟨s', _, app', asking, -⟩ := awaited.told home
    cases app.symm.trans app'
    rcases why with ⟨-, -, -, received⟩ | ⟨state, -⟩
    · cases asking.recvflag.symm.trans received
    · cases asking.state.symm.trans state

/-- **A reply is read**: the account that it tells is remembered, if `CARecv` returns. -/
theorem receive_gain {u : RemoteUser} (home : p.Home G) (app : p.app = some s) (user : s.line.user = some u)
    (h : s.receive cs = some t) : ∃ k, p.accounts = (Phone.mk (flush p.file s.line.user t.line.user) (some t)).accounts + k ∧
      (k = 0 ↔ (p.Awaited → p.Hears cs .receive)) := by
  have hears : p.Hears cs .receive ↔ t.line.user.isSome = true := by
    constructor
    · exact fun hears => hears s app t h
    · intro returned s' app' t' h'
      cases app.symm.trans app'
      cases h.symm.trans h'
      exact returned
  obtain ⟨-, file⟩ := home.receive app user h
  by_cases named : p.file ≠ ""
  · refine ⟨0, by rw [accounts_named named, accounts_named ((file named).symm ▸ named)], iff_of_true rfl fun awaited => ?_⟩
    obtain ⟨_, _, -, -, none_, -⟩ := awaited.told home
    exact absurd none_ named
  have none_ : p.file = "" := not_not.1 named
  have runs := home.app s app
  obtain ⟨reply, rest, told⟩ := App.receive_told h
  have up := runs.told_up told
  cases runs.place up with
  | silent _ quiet | refused _ quiet => cases quiet.2.2.symm.trans told
  | asked _ _ _ _ _ empty | decoded _ _ _ _ _ _ empty => cases empty.symm.trans told
  | ended gone => cases gone.symm.trans user
  | done _ some_ => exact absurd none_ some_
  | told asking reply' seq _ _ told' code good =>
    cases told'.symm.trans told
    obtain ⟨line, -⟩ := App.receive_login h told user asking.target seq
    have silent : ∀ file, ¬ (Phone.mk file (some t)).Awaited := fun file => awaited_silent rfl (by rw [line])
    have awaits : p.Awaited ↔ reply.errCode = 0 := awaited_told app none_ up (by rw [user]; rfl) told
    rw [hears, user, show t.line.user = startRecv cs u reply by rw [line], awaits]
    by_cases zero : reply.errCode = 0
    · rw [accounts_awaited (awaits.2 zero)]
      cases read : startRecv cs u reply with
      | none =>
        refine ⟨1, ?_, iff_of_false one_ne_zero fun heard => by cases heard zero⟩
        rw [accounts_none (p := ⟨flush p.file (some u) none, some t⟩) none_ (silent _)]
      | some v =>
        refine ⟨0, ?_, iff_of_true rfl fun _ => rfl⟩
        rcases startRecv_userid read with ⟨-, taken⟩ | ⟨⟨e, bad, nonzero⟩, -⟩
        · rw [if_pos ((runs.user u user).trans none_)] at taken
          refine (accounts_named (p := ⟨flush p.file (some u) (some v), some t⟩) ?_).symm
          change (if u.userid = "" ∧ v.userid ≠ "" then v.userid else p.file) ≠ ""
          rw [if_pos ⟨(runs.user u user).trans none_, taken ▸ (good zero).2.1⟩, taken]
          exact (good zero).2.1
        · rw [zero, field_zero] at bad
          exact absurd (Option.some.inj bad).symm nonzero
    · refine ⟨0, ?_, iff_of_true rfl fun awaited => absurd awaited zero⟩
      rw [accounts_none none_ (mt awaits.1 zero)]
      refine (accounts_none (p := ⟨flush p.file (some u) (startRecv cs u reply), some t⟩) ?_ (silent _)).symm
      cases read : startRecv cs u reply with
      | none => exact none_
      | some v =>
        rcases startRecv_userid read with ⟨good, -⟩ | ⟨-, rfl⟩
        · obtain ⟨e, few, code⟩ := code
          exact absurd (errCode_zero few code (by rw [good]; rfl)) zero
        · exact (flush_same rfl).trans none_

end

section
variable {κ : Type} {cv : FloatConv} {cs : CSJson} {G : String → Prop} {p q : Phone κ} {b : LineStep κ} {s : App κ}

/-- A client that is logged in registers nothing. -/
theorem registered_ready {line : Line κ} (ready : line.client.user.ready = true) : line.registered cv b = [] := by
  unfold Line.registered
  split
  · split
    · rw [if_neg (by rintro ⟨out, -⟩; cases ready.symm.trans out)]
    · rfl
  · rfl

/-- A turn of the loop registers exactly the account that it tells the phone. -/
theorem serve_gain {env : Env} {online : Online κ} {line : Line κ} {gotostart : Bool} (home : p.Home G) (app : p.app = some s)
    (file : q.file = p.file) (app' : q.app = some { s with line, gotostart })
    (h : Line.step cv cs s.line (.serve env online) = some line) :
    (s.line.registered cv (.serve env online)).length + p.accounts = q.accounts := by
  obtain ⟨up, waits, -, result⟩ := Line.step_serve h
  have unasked : ¬ p.Awaited := fun awaited => by
    obtain ⟨_, _, app'', -, -, -, -, none_, -⟩ := awaited.told home
    cases app.symm.trans app''
    rw [none_] at waits
    cases waits
  have quiet : s.line.registered cv (.serve env online) = [] → ¬ q.Awaited →
      (s.line.registered cv (.serve env online)).length + p.accounts = q.accounts := fun none_ silent => by
    rw [none_, List.length_nil, zero_add]
    exact (accounts_congr file (iff_of_false silent unasked)).symm
  have kept : s.line.registered cv (.serve env online) = [] → p.file ≠ "" →
      (s.line.registered cv (.serve env online)).length + p.accounts = q.accounts := fun none_ named => by
    rw [none_, List.length_nil, zero_add, accounts_named named, accounts_named (file.symm ▸ named)]
  rcases result with ⟨rfl, panics⟩ | ⟨o, served, rfl⟩
  · refine quiet ?_ (awaited_silent app' rfl)
    cases served : Server.serve cv env online s.line.client s.line.client.msg with
    | ok o => exact absurd served (panics o)
    | error e => simp only [Line.registered, served]
  have runs := home.app s app
  cases runs.place up with
  | silent _ quiet | refused _ quiet => rw [quiet.2.1] at waits; cases waits
  | asked _ _ _ _ none_ | told _ _ _ _ none_ => rw [none_] at waits; cases waits
  | done _ named ready => exact kept (registered_ready ready) named
  | ended gone calm =>
    refine quiet (registered_ready (calm.resolve_right fun quiet => ?_)) fun awaited => ?_
    · rw [quiet.2.1] at waits
      cases waits
    · have user : s.line.user.isSome = true := ((awaited_app app').1 awaited).2.2.1
      rw [gone] at user
      cases user
  | decoded asking cmd userid _ _ _ told out =>
    obtain ⟨reply, sent, -, -, zero⟩ := login_told out cmd served
    by_cases named : p.file = ""
    · have awaits : q.Awaited ↔ o.c.user.ready = true ∧ o.stored = true :=
        (awaited_told app' (file.trans named) up asking.user (by simp [told, sent])).trans zero
      rw [accounts_none named unasked]
      by_cases good : o.c.user.ready = true ∧ o.stored = true
      · rw [accounts_awaited (awaits.2 good)]
        simp [Line.registered, served, out, good, userid, named]
      · rw [accounts_none (file.trans named) (mt awaits.1 good)]
        simp only [Line.registered, served]
        rw [if_neg fun all => good ⟨all.2.1, all.2.2.2⟩]
        rfl
    · refine kept ?_ named
      simp [Line.registered, served, userid, named]

/-- **A step of a phone's connection** gives up the reply that is awaited exactly
when the phone does not hear it. -/
theorem Phone.moves_gain (home : p.Home G) (app : p.app = some s) (h : p.lineStep cv cs b = some q) :
    ∃ k, (s.line.registered cv b).length + p.accounts = q.accounts + k ∧ (k = 0 ↔ (p.Awaited → p.Hears cs b)) := by
  obtain ⟨s', app', ⟨rfl, u, t, user, received, rfl⟩ | ⟨kind, line, gotostart, moved, moved_to⟩⟩ := Phone.lineStep_cases h
  all_goals cases app.symm.trans app'
  · obtain ⟨k, counts, exact_⟩ := receive_gain home app user received
    exact ⟨k, (zero_add _).trans counts, exact_⟩
  · have file : q.file = p.file := by rw [moved_to]
    have app_q : q.app = some { s with line, gotostart } := by rw [moved_to]
    rcases kind with rfl | ⟨env, online, rfl⟩ | rfl
    · refine ⟨0, (zero_add _).trans (accounts_congr file ?_).symm, iff_of_true rfl fun _ => trivial⟩
      obtain ⟨_, _, _, -, -, -, rfl⟩ := Line.step_decode moved
      rw [awaited_app app, awaited_app app_q, file]
    · exact ⟨0, serve_gain home app file app_q moved, iff_of_true rfl fun _ => trivial⟩
    · cases Line.step_lose moved
      have silent : ¬ q.Awaited := awaited_silent app_q rfl
      by_cases awaited : p.Awaited
      · obtain ⟨_, _, -, -, none_, -⟩ := awaited.told home
        refine ⟨1, ?_, iff_of_false one_ne_zero fun hears => hears awaited⟩
        rw [accounts_awaited awaited, accounts_none (file.trans none_) silent]
        rfl
      · exact ⟨0, (zero_add _).trans (accounts_congr file (iff_of_false silent awaited)).symm,
          iff_of_true rfl fun awaited' => absurd awaited' awaited⟩

end

/-! ## Runs -/

namespace Fleet
section
variable {ι κ : Type} [DecidableEq ι] {cv : FloatConv} {cs : CSJson} {f g : Fleet ι κ} {a : FleetStep ι κ} {i j : ι}

/-- Each registration on a connection is counted for its phone. -/
theorem accounts_note {s : Line κ} {b : LineStep κ} :
    (f.note cv j s b).accounts i = f.accounts i + if j = i then (s.registered cv b).length else 0 := by
  unfold accounts note
  rw [List.countP_append]
  congr 1
  split
  · next same => simp [List.countP_map, same]
  · next other => simp [List.countP_map, other]

/-- **One step** gives a phone an account that it does not learn of exactly when
it does not keep to the rule. -/
theorem step_gain (inv : Inv f) (i : ι) (h : step cv cs f a = some g) :
    ∃ k, g.accounts i + (f.phones i).accounts = f.accounts i + (g.phones i).accounts + k ∧ (k = 0 ↔ Keeps cv cs i f a) := by
  cases a with
  | phone j a =>
    obtain ⟨⟨p, behind⟩, acted, rfl⟩ := Option.map_eq_some_iff.1 h
    change ∃ k, f.accounts i + (f.phones i).accounts = f.accounts i + (Function.update f.phones j p i).accounts + k ∧ _
    by_cases here : i = j
    · subst here
      obtain ⟨k, counts, exact_⟩ := (Phone.step_acts acted).gain (inv.phones i)
      rw [Function.update_self]
      exact ⟨k, by omega, exact_.trans ⟨fun waits _ => waits, fun keeps => keeps rfl⟩⟩
    · rw [Function.update_of_ne here]
      exact ⟨0, rfl, iff_of_true rfl fun same => absurd same.symm here⟩
  | line j b =>
    obtain ⟨s, app, h⟩ := Option.bind_eq_some_iff.1 h
    split at h
    · obtain ⟨p, stepped, rfl⟩ := Option.map_eq_some_iff.1 h
      change ∃ k, (f.note cv j s.line b).accounts i + (f.phones i).accounts =
        f.accounts i + (Function.update f.phones j p i).accounts + k ∧ _
      rw [accounts_note]
      by_cases here : i = j
      · subst here
        obtain ⟨k, counts, exact_⟩ := Phone.moves_gain (inv.phones i) app stepped
        rw [Function.update_self, if_pos rfl]
        exact ⟨k, by omega, exact_.trans ⟨fun hears _ => hears, fun keeps => keeps rfl⟩⟩
      · rw [Function.update_of_ne here, if_neg (Ne.symm here)]
        exact ⟨0, rfl, iff_of_true rfl fun same => absurd same.symm here⟩
    · cases h
  | left k b =>
    obtain ⟨⟨j, s⟩, found, h⟩ := Option.bind_eq_some_iff.1 h
    dsimp only at h
    split at h
    · have same : g.phones = f.phones ∧ g.accounts i = (f.note cv j s b).accounts i := by
        split at h
        all_goals
          first
          | cases h
          | (obtain ⟨t, -, rfl⟩ := Option.map_eq_some_iff.1 h; exact ⟨rfl, rfl⟩)
      rw [same.1, same.2, accounts_note]
      refine ⟨if j = i then (s.registered cv b).length else 0, by omega, ?_⟩
      change _ ↔ ∀ q ∈ f.left[k]?, q.1 = i → q.2.registered cv b = []
      rw [found]
      constructor
      · rintro none_ q mem rfl
        cases mem
        rw [if_pos rfl] at none_
        exact List.length_eq_zero_iff.1 none_
      · intro keeps
        split
        · next here => rw [keeps (j, s) rfl here, List.length_nil]
        · rfl
    · cases h
  | stored d =>
    cases h
    exact ⟨0, rfl, iff_of_true rfl trivial⟩

/-- **A phone is given one account**, the one it remembers or is about to, exactly
when it always waits for the reply that tells it, hears it, and leaves no
connection behind that registers. -/
theorem given_once_iff (cv : FloatConv) (cs : CSJson) (docs : List UserDb) (as : List (FleetStep ι κ)) (f : Fleet ι κ)
    (run : exec (step cv cs) (start docs) as = some f) (i : ι) :
    f.accounts i = (f.phones i).accounts ↔ Along (step cv cs) (Keeps cv cs i) (start docs) as := by
  obtain ⟨k, counts, exact_⟩ := exec_gain (fun f : Fleet ι κ => f.accounts i) (fun f => (f.phones i).accounts)
    (fun _ _ _ inv h => (step_inv inv h).1) (fun _ _ _ inv h => step_gain inv i h) (start_inv docs) run
  have none_ : ((start docs : Fleet ι κ).phones i).accounts = 0 := accounts_none rfl id
  have nothing : (start docs : Fleet ι κ).accounts i = 0 := rfl
  rw [← exact_]
  omega

end

/-- The app on a phone ends before it has read the reply, and another begins. -/
def twice : List (FleetStep Bool Unit) := (registers false 7).take 5 ++ [.phone false .exit] ++ registers false 8

/-- A phone is given one account, or two. -/
theorem given_once_iff_twice :
    Along (step amd64 Pair.strict) (Keeps amd64 Pair.strict false) (start []) (registers false 7) ∧
      ¬ Along (step amd64 Pair.strict) (Keeps amd64 Pair.strict false) (start []) twice := by
  constructor
  · have ends : (exec (step amd64 Pair.strict) (start []) (registers false 7)).map
        (fun f => (f.accounts false, (f.phones false).accounts)) = some (1, 1) := by decide +kernel
    obtain ⟨f, run, shown⟩ := Option.map_eq_some_iff.1 ends
    obtain ⟨given, known⟩ := Prod.mk.inj shown
    exact (given_once_iff amd64 Pair.strict [] (registers false 7) f run false).1 (given.trans known.symm)
  · have ends : (exec (step amd64 Pair.strict) (start []) twice).map
        (fun f => (f.accounts false, (f.phones false).accounts)) = some (2, 1) := by decide +kernel
    obtain ⟨f, run, shown⟩ := Option.map_eq_some_iff.1 ends
    obtain ⟨given, known⟩ := Prod.mk.inj shown
    intro keeps
    have once := (given_once_iff amd64 Pair.strict [] twice f run false).2 keeps
    rw [given, known] at once
    cases once

end Fleet

end Crazyass.Client
