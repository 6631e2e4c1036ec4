import Crazyass.Client.CardMgr

/-!
# The search of `ShowWrongCard`

The first probe is at a card that the clock chooses. The ones after it go round
the cards from the winning one on, so that within as many probes as there are
cards each of them is met.
-/

namespace Crazyass.Client
namespace CardMgr

/-- The loop stops at this card. -/
def Stops (visible : ℕ → Bool) (bingo wrongIdx : ℕ) : Prop := visible wrongIdx = true ∧ wrongIdx ≠ bingo

/-- There is a wrong card to show. -/
def Candidate (visible : ℕ → Bool) (bingo size : ℕ) : Prop := ∃ c < size, Stops visible bingo c

instance (visible : ℕ → Bool) (bingo wrongIdx : ℕ) : Decidable (Stops visible bingo wrongIdx) :=
  inferInstanceAs (Decidable (_ ∧ _))

instance (visible : ℕ → Bool) (bingo size : ℕ) : Decidable (Candidate visible bingo size) :=
  inferInstanceAs (Decidable (∃ c < size, _))

/-- Counting on from anywhere meets every residue. -/
theorem exists_add_mod (a : ℕ) {c n : ℕ} (h : c < n) : ∃ k < n, (a + k) % n = c := by
  refine ⟨(c + (n - a % n)) % n, Nat.mod_lt _ (by omega), ?_⟩
  have rest : a % n < n := Nat.mod_lt a (by omega)
  have split := Nat.mod_add_div a n
  have round : a + (c + (n - a % n)) = c + n * (a / n + 1) := by
    rw [mul_add, mul_one]
    omega
  rw [Nat.add_mod_mod, round, Nat.add_mul_mod_self_left, Nat.mod_eq_of_lt h]

section
variable {visible : ℕ → Bool} {bingo size fuel w i r : ℕ}

/-- The search stops at a wrong card that shows. -/
theorem probe_stop (stops : Stops visible bingo w) :
    probe visible bingo size (fuel + 1) w i = some w := by
  unfold probe
  exact if_neg (by simp [stops.1, stops.2])

/-- The search goes on at any other card. -/
theorem probe_go (go : ¬ Stops visible bingo w) : probe visible bingo size (fuel + 1) w i =
    probe visible bingo size fuel ((bingo + (i + 1)) % size) (i + 1) := by
  rw [probe]
  refine if_pos ?_
  by_contra clear
  exact go (by simpa [Stops] using clear)

/-- What it finds is a wrong card that shows. -/
theorem probe_some (found : probe visible bingo size fuel w i = some r) : Stops visible bingo r := by
  induction fuel generalizing w i with
  | zero => cases found
  | succ fuel ih =>
    by_cases stops : Stops visible bingo w
    · rw [probe_stop stops] at found
      cases found
      exact stops
    · rw [probe_go stops] at found
      exact ih found

/-- What it finds is a card. -/
theorem probe_lt (inside : w < size) (found : probe visible bingo size fuel w i = some r) : r < size := by
  induction fuel generalizing w i with
  | zero => cases found
  | succ fuel ih =>
    by_cases stops : Stops visible bingo w
    · rw [probe_stop stops] at found
      cases found
      exact inside
    · rw [probe_go stops] at found
      exact ih (Nat.mod_lt _ (by omega)) found

/-- More probes find the same card. -/
theorem probe_mono (k : ℕ) (found : probe visible bingo size fuel w i = some r) :
    probe visible bingo size (fuel + k) w i = some r := by
  induction fuel generalizing w i with
  | zero => cases found
  | succ fuel ih =>
    rw [Nat.succ_add]
    by_cases stops : Stops visible bingo w
    · rw [probe_stop stops] at found ⊢
      exact found
    · rw [probe_go stops] at found ⊢
      exact ih found

/-- A search that comes to a card to stop at ends there or before. -/
theorem probe_reaches {k : ℕ} (stops : Stops visible bingo ((bingo + (i + 1 + k)) % size)) :
    ∃ r, probe visible bingo size (k + 2) w i = some r := by
  induction k generalizing w i with
  | zero =>
    by_cases first : Stops visible bingo w
    · exact ⟨w, probe_stop first⟩
    · refine ⟨_, (probe_go first).trans (probe_stop ?_)⟩
      simpa using stops
  | succ k ih =>
    by_cases first : Stops visible bingo w
    · exact ⟨w, probe_stop first⟩
    · rw [probe_go first]
      apply ih
      rw [show i + 1 + 1 + k = i + 1 + (k + 1) by omega]
      exact stops

/-- A round of the cards finds what there is. -/
theorem probe_enough (candidate : Candidate visible bingo size) :
    ∃ r, probe visible bingo size (size + 1) w i = some r := by
  obtain ⟨c, inside, stops⟩ := candidate
  obtain ⟨k, small, meets⟩ := exists_add_mod (bingo + (i + 1)) inside
  rw [← meets, add_assoc] at stops
  obtain ⟨r, found⟩ := probe_reaches (w := w) stops
  refine ⟨r, ?_⟩
  rw [show size + 1 = k + 2 + (size - 1 - k) by omega]
  exact probe_mono _ found

/-- **The search** from the card that the clock chooses ends if and only if there
is a wrong card to show, and then within as many probes after the first one as
there are cards, at a card of that kind. -/
theorem search_ends_iff (visible : ℕ → Bool) (size bingo time : ℕ) (inside : bingo < size) :
    ((∃ fuel r, probe visible bingo size fuel ((time + 1) % size) 2 = some r) ↔
      ∃ c < size, c ≠ bingo ∧ visible c = true) ∧
    ∀ fuel r, probe visible bingo size fuel ((time + 1) % size) 2 = some r →
      probe visible bingo size (1 + size) ((time + 1) % size) 2 = some r ∧ r < size ∧ r ≠ bingo ∧ visible r = true := by
  have first : (time + 1) % size < size := Nat.mod_lt _ (by omega)
  constructor
  · constructor
    · rintro ⟨fuel, r, found⟩
      obtain ⟨shown, wrong⟩ := probe_some found
      exact ⟨r, probe_lt first found, wrong, shown⟩
    · rintro ⟨c, small, wrong, shown⟩
      exact ⟨size + 1, probe_enough ⟨c, small, shown, wrong⟩⟩
  · intro fuel r found
    obtain ⟨shown, wrong⟩ := probe_some found
    have small := probe_lt first found
    obtain ⟨r', enough⟩ := probe_enough (i := 2) (w := (time + 1) % size) ⟨r, small, shown, wrong⟩
    -- both searches find what the longer one does
    have same : r' = r := by
      have left := probe_mono fuel enough
      have right := probe_mono (size + 1) found
      rw [Nat.add_comm, right] at left
      exact (Option.some.inj left).symm
    rw [Nat.add_comm]
    exact ⟨same ▸ enough, small, wrong, shown⟩

end

/-- Of three cards the second one is hidden and the last one wins. -/
theorem search_ends_iff_three : probe (fun c => decide (c ≠ 1)) 2 3 4 ((6 + 1) % 3) 2 = some 0 ∧ 0 ≠ 2 := by
  obtain ⟨enough, -, wrong, -⟩ := (search_ends_iff (fun c => decide (c ≠ 1)) 3 2 6 (by decide)).2 3 0 rfl
  exact ⟨enough, wrong⟩

end CardMgr
end Crazyass.Client
