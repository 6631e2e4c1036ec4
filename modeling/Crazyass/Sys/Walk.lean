import Mathlib.Data.List.Basic
import Mathlib.Tactic

/-!
# Walking a list that changes

A cursor is the key of an element. Keys increase along the list, so what is
still ahead of a cursor does not depend on what has become of the list behind
it. An element that has left the list has no successor.
-/

namespace Sys

variable {α κ : Type*} [LinearOrder κ] {key : α → κ} {l l' : List α} {x y : α} {k : κ} {p : α → Bool}

/-- The successor of the element with this key: `none` if there is no such
element, `some none` if it is the last one. -/
def successor (key : α → κ) : List α → κ → Option (Option α)
  | [], _ => none
  | x :: rest, k => if key x = k then some rest.head? else successor key rest k

/-- The elements ahead of a key. -/
def ahead (key : α → κ) (l : List α) (k : κ) : List α := l.filter fun y => k < key y

/-- The elements behind a key. -/
def behind (key : α → κ) (l : List α) (k : κ) : List α := l.filter fun y => key y < k

/-- Keys increase along the list. -/
def Ascending (key : α → κ) (l : List α) : Prop := l.Pairwise fun x y => key x < key y

theorem mem_ahead : x ∈ ahead key l k ↔ x ∈ l ∧ k < key x := by
  unfold ahead
  rw [List.mem_filter, decide_eq_true_iff]

theorem Ascending.sublist (asc : Ascending key l) (sub : l'.Sublist l) : Ascending key l' := List.Pairwise.sublist sub asc

theorem Ascending.concat (asc : Ascending key l) (last : ∀ y ∈ l, key y < key x) : Ascending key (l ++ [x]) := by
  refine List.pairwise_append.2 ⟨asc, List.pairwise_singleton _ x, fun y mem z single => ?_⟩
  rw [List.mem_singleton.1 single]
  exact last y mem

theorem Ascending.unique (asc : Ascending key l) (hx : x ∈ l) (hy : y ∈ l) (same : key x = key y) : x = y := by
  induction l with
  | nil => cases hx
  | cons z l ih =>
    obtain ⟨first, rest⟩ := List.pairwise_cons.1 asc
    rcases List.mem_cons.1 hx with rfl | laterX <;> rcases List.mem_cons.1 hy with rfl | laterY
    · rfl
    · exact absurd same (first y laterY).ne
    · exact absurd same (first x laterX).ne'
    · exact ih rest laterX laterY

/-- The list around an element. -/
theorem Ascending.split (asc : Ascending key l) (mem : x ∈ l) : ∃ after, l = behind key l (key x) ++ x :: after := by
  obtain ⟨front, back, rfl⟩ := List.append_of_mem mem
  obtain ⟨-, later, before⟩ := List.pairwise_append.1 asc
  have none_later : back.filter (fun y => key y < key x) = [] := by
    refine List.filter_eq_nil_iff.2 fun y mem less => ?_
    exact lt_asymm ((List.pairwise_cons.1 later).1 y mem) (of_decide_eq_true less)
  have all_before : front.filter (fun y => key y < key x) = front :=
    List.filter_eq_self.2 fun y mem => decide_eq_true (before y mem x List.mem_cons_self)
  refine ⟨back, ?_⟩
  unfold behind
  rw [List.filter_append, List.filter_cons_of_neg (by simp), none_later, all_before, List.append_nil]

theorem successor_eq_none (gone : ∀ y ∈ l, key y ≠ k) : successor key l k = none := by
  induction l with
  | nil => rfl
  | cons z l ih =>
    obtain ⟨first, rest⟩ := List.forall_mem_cons.1 gone
    rw [successor, if_neg first]
    exact ih rest

/-- The successor is the first element ahead. -/
theorem Ascending.successor_eq (asc : Ascending key l) (mem : x ∈ l) :
    successor key l (key x) = some (ahead key l (key x)).head? := by
  unfold ahead
  induction l with
  | nil => cases mem
  | cons z l ih =>
    obtain ⟨first, rest⟩ := List.pairwise_cons.1 asc
    rcases List.mem_cons.1 mem with rfl | later
    · have all_ahead : l.filter (fun y => key x < key y) = l := List.filter_eq_self.2 fun y hy => decide_eq_true (first y hy)
      rw [successor, if_pos rfl, List.filter_cons_of_neg (by simp), all_ahead]
    · have less := first x later
      rw [successor, if_neg less.ne, List.filter_cons_of_neg (by simpa using less.le)]
      exact ih rest later

/-- Nothing ahead comes before the successor. -/
theorem Ascending.head_le (asc : Ascending key l) (first : (ahead key l k).head? = some x) (mem : y ∈ ahead key l k) :
    key x ≤ key y := by
  have sorted : Ascending key (ahead key l k) := asc.sublist List.filter_sublist
  obtain ⟨rest, shape⟩ : ∃ rest, ahead key l k = x :: rest := List.head?_eq_some_iff.1 first
  rw [shape] at sorted mem
  rcases List.mem_cons.1 mem with rfl | later
  · exact le_rfl
  · exact ((List.pairwise_cons.1 sorted).1 y later).le

/-- Advancing leaves less ahead. -/
theorem ahead_length_head (first : (ahead key l k).head? = some x) :
    (ahead key l (key x)).length + 1 ≤ (ahead key l k).length := by
  have above : k < key x := (mem_ahead.1 (List.mem_of_head? first)).2
  have parts : ahead key l (key x) = (ahead key l k).filter fun y => key x < key y := by
    unfold ahead
    rw [List.filter_filter]
    refine List.filter_congr fun y _ => ?_
    by_cases further : key x < key y
    · simp [further, above.trans further]
    · simp [further]
  obtain ⟨rest, shape⟩ : ∃ rest, ahead key l k = x :: rest := List.head?_eq_some_iff.1 first
  rw [parts, shape, List.filter_cons_of_neg (by simp), List.length_cons]
  exact Nat.succ_le_succ (List.length_filter_le _ rest)

theorem ahead_length_sublist (sub : l'.Sublist l) : (ahead key l' k).length ≤ (ahead key l k).length :=
  (sub.filter _).length_le

theorem ahead_length_concat : (ahead key (l ++ [x]) k).length ≤ (ahead key l k).length + 1 := by
  unfold ahead
  rw [List.filter_append, List.length_append]
  exact Nat.add_le_add_left (List.length_filter_le _ [x]) _

end Sys
