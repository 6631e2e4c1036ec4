import Crazyass.Server.Registry

/-!
# The whole service

The process with the documents it has handed to `Upsert`. A `Find` answers with
one of them, the newest or an older one: between the `Find` and the `Store` of
one request any number of others may write. The writes of `AddHeartAsync` for a
user that is not online are steps of their own.
-/

namespace Crazyass.Server
open Go Sys

structure Service (κ : Type) where
  process : Process κ
  docs : List UserDb

inductive ServiceStep (κ : Type) where
  | conn (a : ProcessStep κ)
  | async (env : Env) (userid : String) (count : Int64)

/-- The `Find` that a step may make. -/
def ServiceStep.find? {κ : Type} : ServiceStep κ → Option (Env × String)
  | .conn (.request _ env m) => some (env, loginId env m)
  | .conn _ => none
  | .async env userid _ => some (env, userid)

namespace Service
section
variable {κ : Type} [DecidableEq κ] (cv : FloatConv)

def start (docs : List UserDb) : Service κ := ⟨.start, docs⟩

/-- A document that is found has been stored. -/
def Answers (s : Service κ) (env : Env) (id : String) : Prop :=
  match env.find id with
  | .found d _ => d ∈ s.docs
  | _ => True

instance (s : Service κ) (env : Env) (id : String) : Decidable (s.Answers env id) := by
  unfold Answers
  split <;> infer_instance

/-- The documents a step hands to `Upsert`. -/
def written (s : Service κ) : ServiceStep κ → List UserDb
  | .conn (.request k env m) =>
    match s.process.conns k with
    | .live c true => (serve cv env s.process.online c m).toOption.elim [] fun o => o.upsert.toList
    | _ => []
  | .conn _ => []
  | .async env userid count =>
    match addHeartAsync env s.process.online userid count with
    | .offline _ user _ => (user.store env).1.toList
    | _ => []

/-- The connections after a step. -/
def next (s : Service κ) : ServiceStep κ → Option (Process κ)
  | .conn a => s.process.step cv a
  | .async _ _ _ => some s.process

def step (s : Service κ) (a : ServiceStep κ) : Option (Service κ) :=
  if ∀ q ∈ a.find?, s.Answers q.1 q.2 then (s.next cv a).map fun p => ⟨p, s.docs ++ s.written cv a⟩ else none

variable {cv} {s t : Service κ} {a : ServiceStep κ}

theorem step_some : s.step cv a = some t ↔
    (∀ q ∈ a.find?, s.Answers q.1 q.2) ∧ s.next cv a = some t.process ∧ t.docs = s.docs ++ s.written cv a := by
  unfold step
  split
  · next answers =>
    rw [and_iff_right answers, Option.map_eq_some_iff]
    constructor
    · rintro ⟨p, next, rfl⟩
      exact ⟨next, rfl⟩
    · rintro ⟨next, docs⟩
      exact ⟨t.process, next, by rw [← docs]⟩
  · next unknown => exact iff_of_false (fun h => by cases h) fun h => unknown h.1

end
end Service

namespace Process
section
variable {κ : Type} [DecidableEq κ] {cv : FloatConv} {s t : Process κ} {k j : κ} {c : Client κ} {w : Bool}

/-- The connections that are live after one of them has changed. -/
theorem set_live {l : Life κ} (h : (s.set k l).conns j = .live c w) :
    (j = k ∧ l = .live c w) ∨ (j ≠ k ∧ s.conns j = .live c w) := by
  rw [set_conns] at h
  split at h
  · next same => exact .inl ⟨same, h⟩
  · next other => exact .inr ⟨other, h⟩

/-- The client is new, or it has been live before and has the account it had
then, the hearts apart. -/
def Resumes (s : Process κ) (j : κ) (c : Client κ) : Prop :=
  c = .new j ∨ ∃ c' w', s.conns j = .live c' w' ∧ c.user.ready = c'.user.ready ∧
    c.user.udb = { c'.user.udb with heart := c.user.udb.heart }

omit [DecidableEq κ] in
theorem Resumes.old (here : s.conns j = .live c w) : Resumes s j c := .inr ⟨c, w, here, rfl, rfl⟩

/-- A step that is not a request leaves the accounts alone, the hearts apart. -/
theorem step_resumes {a : ProcessStep κ} (h : step cv s a = some t) (other : ∀ k env m, a ≠ .request k env m)
    (here : t.conns j = .live c w) : Resumes s j c := by
  -- each step sets one connection, to a new client, to the same user or to an end
  have changed : ∀ k l, t.conns = (s.set k l).conns → (∀ d v, l = .live d v → Resumes s k d) → Resumes s j c := by
    intro k l conns fine
    rw [conns] at here
    rcases set_live here with ⟨rfl, new⟩ | ⟨-, old⟩
    · exact fine c w new
    · exact .old old
  cases step_plain h other with
  | @accept k unborn =>
    refine changed k _ rfl fun d v eq => ?_
    cases eq
    exact .inl rfl
  | @keep _ k c' d w' v here' self ready udb =>
    refine changed k _ rfl fun d v eq => ?_
    cases eq
    exact .inr ⟨c', w', here', ready, udb⟩
  | @leave k c' here' =>
    refine changed k _ rfl fun d v eq => ?_
    cases eq

end
end Process

end Crazyass.Server
