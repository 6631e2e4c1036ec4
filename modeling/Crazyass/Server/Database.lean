import Crazyass.Server.User

/-!
# The collection of users

A database that never fails, and what `Load` makes of its answers.
-/

namespace Crazyass.Server
open Go

/-- The collection `user`: documents under their `_id`. -/
structure Collection where
  docs : String → Option UserDb
  id_eq : ∀ id d, docs id = some d → d.userId = id

namespace Collection

/-- `Find({_id: id}).One`. -/
def find (db : Collection) (id : String) : FindAnswer id :=
  match h : db.docs id with
  | some d => .found d (db.id_eq id d h)
  | none => .notFound

/-- `Upsert({_id: d.UserId}, d)`. -/
def upsert (db : Collection) (d : UserDb) : Collection where
  docs := Function.update db.docs d.userId (some d)
  id_eq id e h := by
    by_cases same : id = d.userId
    · rw [same, Function.update_self] at h
      cases h
      exact same.symm
    · rw [Function.update_of_ne same] at h
      exact db.id_eq id e h

/-- The documents a request hands to `Upsert`, if any. -/
def upsert? (db : Collection) : Option UserDb → Collection
  | some d => db.upsert d
  | none => db

@[simp] theorem docs_upsert (db : Collection) (d : UserDb) : (db.upsert d).docs d.userId = some d := Function.update_self ..

end Collection

/-- The readings of the clock during one step. -/
structure Clock where
  registerTime : UInt32
  loginTime : UInt32
  unixNano : Int64

/-- The environment of a step on a database that never fails. -/
def Collection.env (db : Collection) (k : Clock) : Env := ⟨db.find, true, k.registerTime, k.loginTime, k.unixNano⟩

theorem load_found {db : Collection} {k : Clock} {u : User} {id : String} {d : UserDb} (h : db.docs id = some d) :
    u.load (db.env k) id = some { u with udb := d } := by
  have found : ∃ eq, (db.env k).find id = .found d eq := by
    change ∃ eq, db.find id = .found d eq
    unfold Collection.find
    split
    · next e he =>
      cases h.symm.trans he
      exact ⟨db.id_eq id d h, rfl⟩
    · next he => cases h.symm.trans he
  obtain ⟨eq, answer⟩ := found
  rw [User.load, answer]

theorem load_notFound {db : Collection} {k : Clock} {u : User} {id : String} (h : db.docs id = none) :
    u.load (db.env k) id = some { u with udb := userRegister u.udb id k.registerTime, dirty := true } := by
  have absent : (db.env k).find id = .notFound := by
    change db.find id = .notFound
    unfold Collection.find
    split
    · next e he => cases h.symm.trans he
    · rfl
  rw [User.load, absent]
  rfl

end Crazyass.Server
