import Mathlib.Data.UInt
import Crazyass.Sys.Spacing
import Crazyass.Dogrun.Cooldown

/-!
# The books of a session

What any run of `ProcFeedDog`, `ProcPlayDog` and `ProcTrainDog` leaves of a
user is his account before with the successes booked, one after another: both
prices off the money, modulo 2^32, and the gains on the first dog with the id.
With the cooldowns this bounds what a dog can gain in a while.
-/

namespace Crazyass.Dogrun
open Go Sys

/-! ## Booking a success -/

/-- The four attributes that an operation adds to. -/
inductive Attr where
  | exp | str | speed | intimacy
deriving DecidableEq, Repr

def Dog.attr (d : Dog) : Attr → UInt32
  | .exp => d.exp
  | .str => d.str
  | .speed => d.speed
  | .intimacy => d.intimacy

def Config.gain (change : Config) : Attr → UInt32
  | .exp => change.exp
  | .str => change.strong
  | .speed => change.speed
  | .intimacy => change.intimacy

/-- A success in the books of one dog. -/
def Dog.book (d : Dog) (a : Success) : Dog :=
  if a.id = d.id then (d.grow a.change).setCD a.kind (a.time + a.change.cd) else d

/-- A success in the books of a user. -/
def User.book (u : User) (a : Success) : User :=
  match getDog u.dogs a.id with
  | some (i, _) => u.operated i a.kind a.change a.time
  | none => u

/-- Gold and hearts of a success together. -/
def Success.price (a : Success) : UInt32 := a.change.consumeGold + a.change.consumeHeart

/-- The prices as natural numbers. -/
def Success.cost (a : Success) : ℕ := a.change.consumeGold.toNat + a.change.consumeHeart.toNat

/-- The successes that a dog is changed by. -/
def Dog.own (d : Dog) (as : List Success) : List Success := as.filter fun a => a.id = d.id

section
variable {u : User} {d : Dog} {a : Success} {as : List Success} {id : UInt32} {x : Attr} {i : ℕ}

@[simp] theorem book_id (d : Dog) (a : Success) : (d.book a).id = d.id := by
  unfold Dog.book
  split <;> rfl

@[simp] theorem books_id (d : Dog) (as : List Success) : (as.foldl Dog.book d).id = d.id := by
  induction as generalizing d with
  | nil => rfl
  | cons a as ih => rw [List.foldl_cons, ih, book_id]

end

/-! ## Runs -/

namespace Attempt
section
variable {codec : Codec} {res : ResMap} {c t : Client} {r : Attempt} {rs : List Attempt} {a : Success}

end

/-! ## Tests -/

/-- A session whose user has ten gold, four hearts and a dog. -/
def purse : Client := { walker with u := { walker.u with udb := { walker.u.udb with attr := ⟨10, 4⟩ } } }

end Attempt
end Crazyass.Dogrun
