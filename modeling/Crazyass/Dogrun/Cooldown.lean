import Crazyass.Sys.Run
import Crazyass.Dogrun.Dispatch

/-!
# Cooldowns

A run of `ProcFeedDog`, `ProcPlayDog` and `ProcTrainDog` on one session, with
any dogs, entries and times. A success sets the cooldown of its kind on the
first dog with its id; the next one of that kind on that id waits for it.
-/

namespace Crazyass.Dogrun
open Go Sys

/-- A request for an operation, and what it learns from outside. -/
structure Attempt where
  kind : Kind
  env : Env
  msg : Msg

/-- An operation that was carried out. -/
structure Success where
  kind : Kind
  id : UInt32
  time : UInt32
  change : Config
deriving DecidableEq, Repr

/-- A later success of the same kind on the same dog waits for the cooldown. -/
def Success.Spaced (a b : Success) : Prop := b.kind = a.kind → b.id = a.id → a.time.toNat + a.change.cd.toNat ≤ b.time.toNat

namespace Attempt
section
variable (codec : Codec) (res : ResMap)

/-- One of the three handlers. -/
def run (c : Client) (r : Attempt) : Except Crash Called := procDog codec res r.kind r.env c r.msg

/-- The session after it, unless it panics. -/
def step (c : Client) (r : Attempt) : Option Client := (run codec res c r).toOption.map Called.c

/-- What it carried out, if it returned success. -/
def success? (c : Client) (r : Attempt) : Option Success :=
  (run codec res c r).toOption.bind fun called =>
    if called.ret = .succ then
      (codec.dogReq r.kind r.msg.body).bind fun req => (res.get r.kind).toOption.bind fun cfg =>
        (cfg[req.type.toNat]?).map fun change => ⟨r.kind, req.dogid, r.env.now, change⟩
    else none

/-- The successes of a run, in order. -/
def successes : Client → List Attempt → List Success
  | _, [] => []
  | c, r :: rs =>
    match step codec res c r with
    | some t => (success? codec res c r).toList ++ successes t rs
    | none => []

/-- The id that the request addresses. -/
def addressed (r : Attempt) : Option UInt32 := (codec.dogReq r.kind r.msg.body).map DogReq.dogid

/-- No time plus cooldown overflows. -/
def Bounded (r : Attempt) : Prop :=
  ∀ cfg, res.get r.kind = .ok cfg → ∀ change ∈ cfg, r.env.now.toNat + change.cd.toNat < 2 ^ 32

/-- What an attempt leaves alone: all dogs if it fails, and otherwise every
cooldown of another kind and every one of a dog with another id. -/
def Frames (c : Client) (r : Attempt) : Prop :=
  ∀ called, run codec res c r = .ok called →
    (called.ret ≠ .succ → called.c.u.dogs = c.u.dogs) ∧
    ∀ (j : ℕ) (dog : Dog), c.u.dogs[j]? = some dog → ∃ dog' : Dog, called.c.u.dogs[j]? = some dog' ∧ dog'.id = dog.id ∧
      ∀ k, k ≠ r.kind ∨ addressed codec r ≠ some dog.id → dog'.cd.get k.index = dog.cd.get k.index

/-- The dog that `getDog` finds under an id is not due for an operation before `t`. -/
def Waits (k : Kind) (id : UInt32) (t : ℕ) (c : Client) : Prop :=
  ∀ i dog, getDog c.u.dogs id = some (i, dog) → t ≤ (dog.cd.get k.index).toNat

/-- The ends of an attempt. -/
inductive Ends (c : Client) (r : Attempt) : Called → Prop where
  | refused (ret : ProcRet) (failed : ret ≠ .succ) : Ends c r ⟨ret, c, none⟩
  | done (req : DogReq) (i : ℕ) (dog : Dog) (cfg : List Config) (change : Config)
      (decoded : codec.dogReq r.kind r.msg.body = some req) (found : getDog c.u.dogs req.dogid = some (i, dog))
      (due : dog.cd.get r.kind.index ≤ r.env.now) (loaded : res.get r.kind = .ok cfg)
      (entry : cfg[req.type.toNat]? = some change) :
      Ends c r ⟨.succ, { c with u := c.u.operated i r.kind change r.env.now }, none⟩

end

/-! ## Finding a dog again -/

section
variable {dogs : List Dog} {f : Dog → Dog} {i j : ℕ} {id : UInt32} {dog : Dog}

/-- A change that keeps the ids is seen where it was made. -/
theorem getDog_modify (same : ∀ d, (f d).id = d.id) : getDog (dogs.modify i f) id =
    (getDog dogs id).map fun p => (p.1, if i = p.1 then f p.2 else p.2) := by
  have ids : (dogs.modify i f).map Dog.id = dogs.map Dog.id := by
    apply List.ext_getElem?
    intro j
    rw [List.getElem?_map, List.getElem?_map, List.getElem?_modify]
    cases dogs[j]? with
    | none => rfl
    | some d => by_cases here : i = j <;> simp [here, same]
  have place : (dogs.modify i f).findIdx? (fun d => d.id = id) = dogs.findIdx? fun d => d.id = id := by
    have over_ids : ∀ l : List Dog, l.findIdx? (fun d => d.id = id) = (l.map Dog.id).findIdx? (· = id) := by
      intro l
      rw [List.findIdx?_map]
      rfl
    rw [over_ids, over_ids, ids]
  unfold getDog
  rw [place]
  cases dogs.findIdx? fun d => d.id = id with
  | none => rfl
  | some j =>
    simp only [Option.bind_some, List.getElem?_modify]
    cases dogs[j]? with
    | none => rfl
    | some d => by_cases here : i = j <;> simp [here]

theorem getDog_operated (u : User) (i : ℕ) (k : Kind) (change : Config) (now : UInt32) (id : UInt32) :
    getDog (u.operated i k change now).dogs id =
      (getDog u.dogs id).map fun p => (p.1, if i = p.1 then (p.2.grow change).setCD k (now + change.cd) else p.2) :=
  getDog_modify fun _ => rfl

theorem getDog_id (h : getDog dogs id = some (i, dog)) : dog.id = id := by
  unfold getDog at h
  obtain ⟨j, place, h⟩ := Option.bind_eq_some_iff.1 h
  obtain ⟨d, found, same⟩ := Option.map_eq_some_iff.1 h
  cases same
  obtain ⟨inside, satisfies, -⟩ := List.findIdx?_eq_some_iff_getElem.1 place
  rw [List.getElem?_eq_getElem inside] at found
  cases found
  simpa using satisfies

theorem index_inj {k k' : Kind} : k.index = k'.index ↔ k = k' := by
  cases k <;> cases k' <;> decide

theorem get_setCD (d : Dog) (change : Config) (k k' : Kind) (t : UInt32) :
    ((d.grow change).setCD k t).cd.get k'.index = if k' = k then t else d.cd.get k'.index := by
  change (d.cd.set k.index t)[k'.index] = _
  rw [Fin.getElem_fin, Vector.getElem_set]
  simp only [← Fin.ext_iff, index_inj, eq_comm (a := k)]
  rfl

end

/-! ## One attempt -/

section
variable {codec : Codec} {res : ResMap} {c t : Client} {r : Attempt} {called : Called} {k : Kind} {id : UInt32} {n : ℕ}

theorem run_ends (h : run codec res c r = .ok called) : Ends codec res c r called := by
  rcases procDog_ok h with rfl | ⟨req, result, ready, decoded, operated, rfl⟩
  · exact .refused .kick (by decide)
  · have ends := operate_operated r.kind res c.u c.u.dk req r.env.now
    rw [operated] at ends
    cases ends with
    | notFound absent => exact .refused .err (by decide)
    | inCD i dog found early => exact .refused .err (by decide)
    | badType i dog cfg found due loaded beyond => exact .refused .err (by decide)
    | done i dog cfg change found due loaded entry user => exact .done req i dog cfg change decoded found due loaded entry

/-- A step is a run of the operation, and one of its ends. -/
theorem step_ends (h : step codec res c r = some t) :
    ∃ called, run codec res c r = .ok called ∧ called.c = t ∧ Ends codec res c r called := by
  obtain ⟨called, returned, rfl⟩ := Option.map_eq_some_iff.1 h
  cases run_eq : run codec res c r with
  | error e => simp [run_eq, Except.toOption] at returned
  | ok called' =>
    rw [run_eq] at returned
    cases returned
    exact ⟨called, rfl, rfl, run_ends run_eq⟩

/-- With the pointer set and the configuration loaded no attempt panics, and the pointer stays. -/
theorem step_total (user : c.u.dk.user = .session) (loaded : ∀ k, ∃ cfg, res.get k = .ok cfg) (r : Attempt) :
    ∃ t, step codec res c r = some t ∧ t.u.dk.user = .session := by
  have returns : ∃ called, run codec res c r = .ok called := by
    unfold run
    rw [procDog_eq]
    split
    · cases decoded : codec.dogReq r.kind r.msg.body with
      | none => exact ⟨_, rfl⟩
      | some req =>
        have ends := operate_operated r.kind res c.u c.u.dk req r.env.now
        dsimp only
        generalize operate r.kind res c.u c.u.dk req r.env.now = result at ends ⊢
        cases ends with
        | unloaded i dog found due missing =>
          obtain ⟨cfg, present⟩ := loaded r.kind
          cases present.symm.trans missing
        | nilUser i dog cfg change found due present entry unset => cases user.symm.trans unset
        | notFound | inCD | badType | done => exact ⟨_, rfl⟩
    · exact ⟨_, rfl⟩
  obtain ⟨called, returned⟩ := returns
  refine ⟨called.c, by rw [step, returned]; rfl, ?_⟩
  cases run_ends returned with
  | refused ret failed => exact user
  | done req i dog cfg change decoded found due present entry => exact user

/-- A success, and what it used. -/
theorem success?_some {a : Success} (h : success? codec res c r = some a) :
    ∃ (req : DogReq) (i : ℕ) (dog : Dog) (cfg : List Config) (change : Config),
      a = ⟨r.kind, req.dogid, r.env.now, change⟩ ∧ getDog c.u.dogs req.dogid = some (i, dog) ∧
      dog.cd.get r.kind.index ≤ r.env.now ∧ res.get r.kind = .ok cfg ∧ cfg[req.type.toNat]? = some change ∧
      step codec res c r = some { c with u := c.u.operated i r.kind change r.env.now } := by
  obtain ⟨called, returned, h⟩ := Option.bind_eq_some_iff.1 h
  have stepped : step codec res c r = some called.c := by rw [step, returned]; rfl
  obtain ⟨called', run_eq, same, ends⟩ := step_ends stepped
  cases ends with
  | refused ret failed =>
    rw [run_eq] at returned
    cases returned
    rw [if_neg failed] at h
    cases h
  | done req i dog cfg change decoded found due loaded entry =>
    rw [run_eq] at returned
    cases returned
    rw [if_pos rfl, decoded, loaded] at h
    simp only [Except.toOption, Option.bind_some, entry, Option.map_some, Option.some.injEq] at h
    exact ⟨req, i, dog, cfg, change, h.symm, found, due, loaded, entry, stepped⟩

/-- **One attempt** keeps every wait: a success was due, and sets a later time. -/
theorem Waits.after (waits : Waits k id n c) (bounded : Bounded res r) (h : step codec res c r = some t) : Waits k id n t := by
  obtain ⟨called, -, rfl, ends⟩ := step_ends h
  cases ends with
  | refused ret failed => exact waits
  | done req i dog cfg change decoded found due loaded entry =>
    intro j dog' found'
    rw [getDog_operated] at found'
    obtain ⟨⟨j', old⟩, found_old, same⟩ := Option.map_eq_some_iff.1 found'
    cases same
    have before := waits _ _ found_old
    dsimp only
    split
    · next here =>
      subst here
      cases (getDog_some found_old).symm.trans (getDog_some found)
      rw [get_setCD]
      split
      · next kind =>
        subst kind
        have sum := bounded cfg loaded change (List.mem_of_getElem? entry)
        have was_due := UInt32.le_iff_toNat_le.1 due
        rw [UInt32.toNat_add, Nat.mod_eq_of_lt sum]
        omega
      · exact before
    · exact before

/-- A success waits for its own cooldown. -/
theorem success?_waits {a : Success} (h : success? codec res c r = some a) (bounded : Bounded res r)
    (stepped : step codec res c r = some t) : Waits a.kind a.id (a.time.toNat + a.change.cd.toNat) t := by
  obtain ⟨req, i, dog, cfg, change, rfl, found, due, loaded, entry, stepped'⟩ := success?_some h
  cases stepped.symm.trans stepped'
  intro j dog' found'
  rw [getDog_operated, found] at found'
  cases found'
  dsimp only
  rw [if_pos rfl, get_setCD, if_pos rfl, UInt32.toNat_add, Nat.mod_eq_of_lt]
  exact bounded cfg loaded change (List.mem_of_getElem? entry)

theorem Waits.le_time {a : Success} (waits : Waits k id n c) (h : success? codec res c r = some a) (kind : a.kind = k)
    (same : a.id = id) : n ≤ a.time.toNat := by
  obtain ⟨req, i, dog, cfg, change, rfl, found, due, -, -, -⟩ := success?_some h
  cases kind
  cases same
  exact (waits i dog found).trans (UInt32.le_iff_toNat_le.1 due)

theorem frames (codec : Codec) (res : ResMap) (c : Client) (r : Attempt) : Frames codec res c r := by
  intro called returned
  cases run_ends returned with
  | refused ret failed => exact ⟨fun _ => rfl, fun j dog at_j => ⟨dog, at_j, rfl, fun _ _ => rfl⟩⟩
  | done req i dog cfg change decoded found due loaded entry =>
    refine ⟨fun failed => absurd rfl failed, fun j old at_j => ?_⟩
    change ∃ dog', (c.u.dogs.modify i _)[j]? = some dog' ∧ _
    rw [List.getElem?_modify, at_j]
    by_cases here : i = j
    · subst here
      cases (getDog_some found).symm.trans at_j
      refine ⟨(dog.grow change).setCD r.kind (r.env.now + change.cd), by simp, rfl, fun k other => ?_⟩
      rw [get_setCD, if_neg]
      -- the dog that was found has the id that was asked for
      rintro rfl
      rcases other with kind | other
      · exact kind rfl
      · rw [addressed, decoded, getDog_id found] at other
        exact other rfl
    · exact ⟨old, by simp [here], rfl, fun _ _ => rfl⟩

end

/-! ## Runs -/

section
variable {codec : Codec} {res : ResMap} {c : Client} {k : Kind} {id : UInt32} {n : ℕ} {rs : List Attempt}

/-- A wait holds for every success of a run. -/
theorem Waits.le_times (waits : Waits k id n c) (bounded : ∀ r ∈ rs, Bounded res r) :
    ∀ b ∈ successes codec res c rs, b.kind = k → b.id = id → n ≤ b.time.toNat := by
  induction rs generalizing c with
  | nil => exact fun b mem => absurd mem List.not_mem_nil
  | cons r rs ih =>
    intro b mem kind same
    unfold successes at mem
    cases stepped : step codec res c r with
    | none => simp [stepped] at mem
    | some t =>
      rw [stepped] at mem
      rcases List.mem_append.1 mem with now | later
      · exact waits.le_time (Option.mem_toList.1 now) kind same
      · have kept := waits.after (bounded r List.mem_cons_self) stepped
        exact ih kept (fun r' mem => bounded r' (List.mem_cons_of_mem r mem)) b later kind same

/-- Two successes of one operation on one dog are at least its `cd` apart. -/
theorem successes_spaced (bounded : ∀ r ∈ rs, Bounded res r) : (successes codec res c rs).Pairwise Success.Spaced := by
  induction rs generalizing c with
  | nil => exact List.Pairwise.nil
  | cons r rs ih =>
    have rest : ∀ r' ∈ rs, Bounded res r' := fun r' mem => bounded r' (List.mem_cons_of_mem r mem)
    unfold successes
    cases stepped : step codec res c r with
    | none => exact List.Pairwise.nil
    | some t =>
      dsimp only
      cases now : success? codec res c r with
      | none => exact ih rest
      | some a =>
        have waits := success?_waits now (bounded r List.mem_cons_self) stepped
        refine List.pairwise_cons.2 ⟨fun b later kind same => ?_, ih rest⟩
        exact waits.le_times rest b later kind same

theorem exec_total (user : c.u.dk.user = .session) (loaded : ∀ k, ∃ cfg, res.get k = .ok cfg) (rs : List Attempt) :
    (exec (step codec res) c rs).isSome := by
  induction rs generalizing c with
  | nil => rfl
  | cons r rs ih =>
    obtain ⟨t, stepped, user'⟩ : ∃ t, step codec res c r = some t ∧ t.u.dk.user = .session := step_total user loaded r
    rw [exec_cons, stepped]
    exact ih user'

/-- **Cooldowns are respected** over every run of a session whose pointer is set
and whose configuration is loaded: every request returns, two successes of one
kind on one id are apart by the cooldown that the first one set, and no attempt
touches another cooldown, or any dog if it fails. -/
theorem cooldowns_respected (codec : Codec) (res : ResMap) (c : Client) (rs : List Attempt)
    (user : c.u.dk.user = .session) (loaded : ∀ k, ∃ cfg, res.get k = .ok cfg) (bounded : ∀ r ∈ rs, Bounded res r) :
    (exec (step codec res) c rs).isSome ∧ (successes codec res c rs).Pairwise Success.Spaced ∧
      Along (step codec res) (Frames codec res) c rs :=
  ⟨exec_total user loaded rs, successes_spaced bounded, fun _ r t _ _ => frames codec res t r⟩

end

/-! ## Tests -/

/-- A request for dog 1 and the first entry. -/
def attempt (kind : Kind) (now : UInt32) : Attempt :=
  ⟨kind, ⟨fun _ => .notFound, fun _ => .notFound, true, now⟩, ⟨Header.zero, []⟩⟩

/-- A session whose user owns a dog. -/
def walker : Client := ⟨{ User.init .session with ready := true, dogs := [rex] }, true⟩

theorem oneEntry_get (k : Kind) : (resInit oneEntry).get k = .ok [⟨60, 1, 5, 1, 1, 1, 1⟩] := by cases k <;> rfl

theorem oneEntry_bounded {r : Attempt} (early : r.env.now.toNat < 2 ^ 31) : Bounded (resInit oneEntry) r := by
  intro cfg loaded change mem
  cases (oneEntry_get r.kind).symm.trans loaded
  obtain rfl := List.mem_singleton.1 mem
  change r.env.now.toNat + 60 < 2 ^ 32
  omega

/-- The feed at 69 is too early, the one at 70 is not. -/
theorem cooldowns_respected_rex :
    let rs := [attempt .feed 10, attempt .play 11, attempt .feed 69, attempt .feed 70]
    (successes oneUser (resInit oneEntry) walker rs).map Success.time = [10, 11, 70] ∧
      (successes oneUser (resInit oneEntry) walker rs).Pairwise Success.Spaced := by
  intro rs
  have bounded : ∀ r ∈ rs, Bounded (resInit oneEntry) r := by
    have early : ∀ r ∈ rs, r.env.now.toNat < 2 ^ 31 := by simp [rs, attempt]
    exact fun r mem => oneEntry_bounded (early r mem)
  obtain ⟨-, spaced, -⟩ := cooldowns_respected oneUser (resInit oneEntry) walker rs rfl (fun k => ⟨_, oneEntry_get k⟩) bounded
  exact ⟨by decide +kernel, spaced⟩

end Attempt
end Crazyass.Dogrun
