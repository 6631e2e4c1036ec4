import Mathlib.Data.List.Basic
import Mathlib.Order.Basic
import Mathlib.Tactic.Common

/-!
# Runs of a labelled transition system

A system is a partial step function: `step s a` is the state after action `a`,
or `none` where `a` is not enabled. What a nondeterministic party chooses is
part of the label. `Through` says that a property holds in every state a run
visits, `Along` that every step of the run is taken in a state that meets a
condition.

`exec_inv` is invariant induction. `through_iff_along` is its exact form: if a
property survives a step exactly when the step meets a condition, it holds
through a run exactly when the condition holds along it.
-/

namespace Sys

variable {σ α : Type*}

/-- The state after the actions `as`, if each is enabled in turn. -/
def exec (step : σ → α → Option σ) : σ → List α → Option σ
  | s, [] => some s
  | s, a :: as => (step s a).bind fun t => exec step t as

/-- `P` holds in every state visited, the first and the last included. -/
def Through (step : σ → α → Option σ) (P : σ → Prop) (s : σ) (as : List α) : Prop :=
  ∀ bs t, bs <+: as → exec step s bs = some t → P t

/-- Every action is taken in a state that stands in `Q` to it. -/
def Along (step : σ → α → Option σ) (Q : σ → α → Prop) (s : σ) (as : List α) : Prop :=
  ∀ bs a t, bs ++ [a] <+: as → exec step s bs = some t → Q t a

section
variable {step : σ → α → Option σ} {I J P : σ → Prop} {Q : σ → α → Prop} {s t u : σ} {a : α} {as bs : List α}

@[simp] theorem exec_nil : exec step s [] = some s := rfl

@[simp] theorem exec_cons : exec step s (a :: as) = (step s a).bind fun t => exec step t as := rfl

theorem exec_append : exec step s (as ++ bs) = (exec step s as).bind fun t => exec step t bs := by
  induction as generalizing s with
  | nil => rfl
  | cons a as ih =>
    rw [List.cons_append, exec_cons, exec_cons]
    cases step s a with
    | none => rfl
    | some t => exact ih

theorem exec_cons_eq_some : exec step s (a :: as) = some u ↔ ∃ t, step s a = some t ∧ exec step t as = some u := by
  rw [exec_cons, Option.bind_eq_some_iff]

theorem Through.first (h : Through step P s as) : P s := h [] s List.nil_prefix rfl

theorem Through.last (h : Through step P s as) (run : exec step s as = some u) : P u :=
  h as u (List.prefix_refl as) run

theorem through_nil : Through step P s [] ↔ P s := by
  refine ⟨Through.first, fun h bs t pre run => ?_⟩
  obtain rfl := List.prefix_nil.1 pre
  cases run
  exact h

theorem through_cons (hs : step s a = some t) : Through step P s (a :: as) ↔ P s ∧ Through step P t as := by
  constructor
  · refine fun h => ⟨h.first, fun bs u pre run => h (a :: bs) u (List.cons_prefix_cons.2 ⟨rfl, pre⟩) ?_⟩
    exact exec_cons_eq_some.2 ⟨t, hs, run⟩
  · rintro ⟨first, rest⟩ bs u pre run
    cases bs with
    | nil => cases run; exact first
    | cons b bs =>
      obtain ⟨rfl, tail⟩ := List.cons_prefix_cons.1 pre
      obtain ⟨t', hs', run⟩ := exec_cons_eq_some.1 run
      cases hs.symm.trans hs'
      exact rest bs u tail run

theorem along_nil : Along step Q s [] := fun bs a t pre _ => by simp at pre

theorem along_cons (hs : step s a = some t) : Along step Q s (a :: as) ↔ Q s a ∧ Along step Q t as := by
  constructor
  · intro h
    refine ⟨h [] a s (List.cons_prefix_cons.2 ⟨rfl, List.nil_prefix⟩) rfl, fun bs b u pre run => ?_⟩
    exact h (a :: bs) b u (List.cons_prefix_cons.2 ⟨rfl, pre⟩) (exec_cons_eq_some.2 ⟨t, hs, run⟩)
  · rintro ⟨first, rest⟩ bs b u pre run
    cases bs with
    | nil =>
      obtain ⟨rfl, -⟩ := List.cons_prefix_cons.1 pre
      cases run
      exact first
    | cons c bs =>
      obtain ⟨rfl, tail⟩ := List.cons_prefix_cons.1 pre
      obtain ⟨t', hs', run⟩ := exec_cons_eq_some.1 run
      cases hs.symm.trans hs'
      exact rest bs b u tail run

theorem along_stuck (hs : step s a = none) : Along step Q s (a :: as) ↔ Q s a := by
  refine ⟨fun h => h [] a s (List.cons_prefix_cons.2 ⟨rfl, List.nil_prefix⟩) rfl, fun first bs b u pre run => ?_⟩
  cases bs with
  | nil =>
    obtain ⟨rfl, -⟩ := List.cons_prefix_cons.1 pre
    cases run
    exact first
  | cons c bs =>
    obtain ⟨rfl, -⟩ := List.cons_prefix_cons.1 pre
    rw [exec_cons, hs] at run
    cases run

/-- A condition that can be tested can be tested along a run. -/
instance decidableAlong (step : σ → α → Option σ) (Q : σ → α → Prop) [∀ s a, Decidable (Q s a)] :
    ∀ s as, Decidable (Along step Q s as)
  | _, [] => .isTrue along_nil
  | s, a :: as =>
    match hs : step s a with
    | some t =>
      have := decidableAlong step Q t as
      decidable_of_iff _ (along_cons hs).symm
    | none => decidable_of_iff _ (along_stuck hs).symm

theorem Along.mono {Q' : σ → α → Prop} (h : Along step Q s as) (weaker : ∀ t a, Q t a → Q' t a) : Along step Q' s as :=
  fun bs a t pre run => weaker t a (h bs a t pre run)

/-- Conditions that agree on every step agree along every run. -/
theorem along_congr {Q' : σ → α → Prop} (same : ∀ t a, Q t a ↔ Q' t a) : Along step Q s as ↔ Along step Q' s as :=
  ⟨fun h => h.mono fun t a => (same t a).1, fun h => h.mono fun t a => (same t a).2⟩

/-- A condition on the actions alone. -/
theorem along_actions {R : α → Prop} (run : exec step s as = some u) : Along step (fun _ a => R a) s as ↔ ∀ a ∈ as, R a := by
  induction as generalizing s with
  | nil => exact iff_of_true along_nil (List.forall_mem_nil _)
  | cons a as ih =>
    obtain ⟨t, hs, run⟩ := exec_cons_eq_some.1 run
    rw [along_cons hs, List.forall_mem_cons, ih run]

theorem Along.initial (h : Along step Q s as) (pre : bs <+: as) : Along step Q s bs :=
  fun cs a t pre' run => h cs a t (pre'.trans pre) run

/-- The part of a run after a prefix of it. -/
theorem Along.after (h : Along step Q s (bs ++ as)) (run : exec step s bs = some t) : Along step Q t as := by
  intro cs a u pre run'
  refine h (bs ++ cs) a u ?_ (by rw [exec_append, run]; exact run')
  rw [List.append_assoc]
  exact (List.prefix_append_right_inj bs).2 pre

/-- **Invariant induction** over the steps that meet `Q`. -/
theorem exec_inv (keep : ∀ t a t', I t → Q t a → step t a = some t' → I t') (init : I s)
    (along : Along step Q s as) (run : exec step s as = some u) : I u := by
  induction as generalizing s with
  | nil => cases run; exact init
  | cons a as ih =>
    obtain ⟨t, hs, run⟩ := exec_cons_eq_some.1 run
    obtain ⟨first, rest⟩ := (along_cons hs).1 along
    exact ih (keep s a t init first hs) rest run

/-- The invariant holds in every state visited. -/
theorem through_inv (keep : ∀ t a t', I t → Q t a → step t a = some t' → I t') (init : I s)
    (along : Along step Q s as) : Through step I s as :=
  fun _ _ pre run => exec_inv keep init (along.initial pre) run

/-- What every step from an invariant state satisfies holds along the run. -/
theorem along_inv {T : σ → α → Prop} (keep : ∀ t a t', I t → Q t a → step t a = some t' → I t')
    (now : ∀ t a, I t → Q t a → T t a) (init : I s) (along : Along step Q s as) : Along step T s as := by
  intro bs a t pre run
  have before := along.initial ((List.prefix_append bs [a]).trans pre)
  exact now t a (exec_inv keep init before run) (along bs a t pre run)

/-- Two conditions on steps that agree under an invariant, which every step that
meets them keeps, agree along every run. -/
theorem along_iff_along {T : σ → α → Prop} (keep : ∀ t a t', J t → Q t a → step t a = some t' → J t')
    (same : ∀ t a, J t → (T t a ↔ Q t a)) (hJ : J s) : Along step T s as ↔ Along step Q s as := by
  induction as generalizing s with
  | nil => exact iff_of_true along_nil along_nil
  | cons a as ih =>
    cases hs : step s a with
    | none =>
      rw [along_stuck hs, along_stuck hs]
      exact same s a hJ
    | some t =>
      rw [along_cons hs, along_cons hs, same s a hJ]
      exact and_congr_right fun first => ih (keep s a t hJ first hs)

/-- **Exact invariant induction.** Under the side invariant `J`, which every
step that meets `Q` keeps, `P` holds through a run and `T` along it exactly when
`Q` holds along it. -/
theorem through_along_iff_kept {T : σ → α → Prop}
    (keep : ∀ t a t', J t → P t → Q t a → step t a = some t' → J t')
    (exact_step : ∀ t a t', J t → P t → step t a = some t' → (P t' ∧ T t a ↔ Q t a))
    (hJ : J s) (hP : P s) (run : exec step s as = some u) :
    Through step P s as ∧ Along step T s as ↔ Along step Q s as := by
  induction as generalizing s with
  | nil => exact iff_of_true ⟨through_nil.2 hP, along_nil⟩ along_nil
  | cons a as ih =>
    obtain ⟨t, hs, run⟩ := exec_cons_eq_some.1 run
    have here := exact_step s a t hJ hP hs
    rw [through_cons hs, along_cons hs, along_cons hs]
    constructor
    · rintro ⟨⟨-, through⟩, now, along⟩
      have hP' := through.first
      have first := here.1 ⟨hP', now⟩
      exact ⟨first, (ih (keep s a t hJ hP first hs) hP' run).1 ⟨through, along⟩⟩
    · rintro ⟨first, rest⟩
      obtain ⟨hP', now⟩ := here.2 first
      obtain ⟨through, along⟩ := (ih (keep s a t hJ hP first hs) hP' run).2 rest
      exact ⟨⟨hP, through⟩, now, along⟩

/-- The same under a side invariant that every step between `P`-states keeps. -/
theorem through_along_iff_between {T : σ → α → Prop}
    (keep : ∀ t a t', J t → P t → P t' → step t a = some t' → J t')
    (exact_step : ∀ t a t', J t → P t → step t a = some t' → (P t' ∧ T t a ↔ Q t a))
    (hJ : J s) (hP : P s) (run : exec step s as = some u) :
    Through step P s as ∧ Along step T s as ↔ Along step Q s as :=
  through_along_iff_kept (fun t a t' hJ hP now hs => keep t a t' hJ hP ((exact_step t a t' hJ hP hs).2 now).1 hs)
    exact_step hJ hP run

/-- The same under a side invariant that every step from a `P`-state keeps. -/
theorem through_along_iff {T : σ → α → Prop} (keep : ∀ t a t', J t → P t → step t a = some t' → J t')
    (exact_step : ∀ t a t', J t → P t → step t a = some t' → (P t' ∧ T t a ↔ Q t a))
    (hJ : J s) (hP : P s) (run : exec step s as = some u) :
    Through step P s as ∧ Along step T s as ↔ Along step Q s as :=
  through_along_iff_between (fun t a t' hJ hP _ hs => keep t a t' hJ hP hs) exact_step hJ hP run

/-- The same for a property of states alone, under a side invariant that the
steps that meet `Q` keep. -/
theorem through_iff_along_kept (keep : ∀ t a t', J t → P t → Q t a → step t a = some t' → J t')
    (exact_step : ∀ t a t', J t → P t → step t a = some t' → (P t' ↔ Q t a))
    (hJ : J s) (hP : P s) (run : exec step s as = some u) : Through step P s as ↔ Along step Q s as := by
  have both := through_along_iff_kept (T := fun _ _ => True) keep
    (fun t a t' hJ hP hs => (and_iff_left trivial).trans (exact_step t a t' hJ hP hs)) hJ hP run
  rw [← both]
  exact (and_iff_left fun _ _ _ _ _ => trivial).symm

/-- The same for a property of states alone. -/
theorem through_iff_along (keep : ∀ t a t', J t → P t → step t a = some t' → J t')
    (exact_step : ∀ t a t', J t → P t → step t a = some t' → (P t' ↔ Q t a))
    (hJ : J s) (hP : P s) (run : exec step s as = some u) : Through step P s as ↔ Along step Q s as := by
  have both := through_along_iff (T := fun _ _ => True) keep
    (fun t a t' hJ hP hs => (and_iff_left trivial).trans (exact_step t a t' hJ hP hs)) hJ hP run
  rw [← both]
  exact (and_iff_left fun _ _ _ _ _ => trivial).symm

/-- What every step keeps while `P` holds stays to the end of a run through `P`. -/
theorem lasting {D : σ → Prop} (keep : ∀ t a t', J t → step t a = some t' → J t')
    (stay : ∀ t a t', J t → D t → P t' → step t a = some t' → D t') (hJ : J s) (hD : D s)
    (through : Through step P s as) (run : exec step s as = some u) : D u := by
  induction as generalizing s with
  | nil => cases run; exact hD
  | cons a as ih =>
    obtain ⟨t, hs, rest⟩ := exec_cons_eq_some.1 run
    obtain ⟨-, through'⟩ := (through_cons hs).1 through
    exact ih (keep s a t hJ hs) (stay s a t hJ hD through'.first hs) through' rest

/-- If a step that does not meet `Q` leads to `D`, which every later step keeps
while `P` holds, then a run through `P` that does not end in `D` meets `Q` all
along. -/
theorem along_of_through {D : σ → Prop} (keep : ∀ t a t', J t → step t a = some t' → J t')
    (doom : ∀ t a t', J t → P t' → ¬ Q t a → step t a = some t' → D t')
    (stay : ∀ t a t', J t → D t → P t' → step t a = some t' → D t')
    (hJ : J s) (through : Through step P s as) (run : exec step s as = some u) (clear : ¬ D u) : Along step Q s as := by
  induction as generalizing s with
  | nil => exact along_nil
  | cons a as ih =>
    obtain ⟨t, hs, rest⟩ := exec_cons_eq_some.1 run
    obtain ⟨-, through'⟩ := (through_cons hs).1 through
    have hJ' := keep s a t hJ hs
    refine (along_cons hs).2 ⟨?_, ih hJ' through' rest⟩
    by_contra careless
    have doomed := doom s a t hJ through'.first careless hs
    exact clear (lasting keep stay hJ' doomed through' rest)

/-- The same under an invariant of the steps that meet `Q`, for a `D` that needs
no invariant. -/
theorem along_of_through_kept {D : σ → Prop} (keep : ∀ t a t', J t → P t → Q t a → step t a = some t' → J t')
    (doom : ∀ t a t', J t → P t' → ¬ Q t a → step t a = some t' → D t')
    (stay : ∀ t a t', D t → P t' → step t a = some t' → D t')
    (hJ : J s) (through : Through step P s as) (run : exec step s as = some u) (clear : ¬ D u) : Along step Q s as := by
  induction as generalizing s with
  | nil => exact along_nil
  | cons a as ih =>
    obtain ⟨t, hs, rest⟩ := exec_cons_eq_some.1 run
    obtain ⟨now, through'⟩ := (through_cons hs).1 through
    have met : Q s a := by
      by_contra careless
      have doomed := doom s a t hJ through'.first careless hs
      exact clear (lasting (J := fun _ => True) (fun _ _ _ _ _ => trivial) (fun t a t' _ => stay t a t') trivial doomed
        through' rest)
    exact (along_cons hs).2 ⟨met, ih (keep s a t hJ now met hs) through' rest⟩

/-- **Two counts** of which the first never falls behind: if it gains on the second
exactly by the steps that do not meet `Q`, it has gained nothing over a run
exactly when `Q` holds along it. -/
theorem exec_gain (m n : σ → ℕ) (keep : ∀ t a t', J t → step t a = some t' → J t')
    (gain : ∀ t a t', J t → step t a = some t' → ∃ k, m t' + n t = m t + n t' + k ∧ (k = 0 ↔ Q t a))
    (hJ : J s) (run : exec step s as = some u) : ∃ k, m u + n s = m s + n u + k ∧ (k = 0 ↔ Along step Q s as) := by
  induction as generalizing s with
  | nil =>
    cases run
    exact ⟨0, rfl, iff_of_true rfl along_nil⟩
  | cons a as ih =>
    obtain ⟨t, hs, run⟩ := exec_cons_eq_some.1 run
    obtain ⟨k, now, met⟩ := gain s a t hJ hs
    obtain ⟨l, later, along⟩ := ih (keep s a t hJ hs) run
    refine ⟨k + l, by omega, ?_⟩
    rw [along_cons hs, ← met, ← along]
    omega

/-- Some run from here comes to a `P`-state. -/
def Leads (step : σ → α → Option σ) (P : σ → Prop) (s : σ) : Prop := ∃ as t, exec step s as = some t ∧ P t

theorem Leads.here (hP : P s) : Leads step P s := ⟨[], s, rfl, hP⟩

theorem Leads.after (hs : step s a = some t) (leads : Leads step P t) : Leads step P s := by
  obtain ⟨as, u, run, hP⟩ := leads
  exact ⟨a :: as, u, exec_cons_eq_some.2 ⟨t, hs, run⟩, hP⟩

theorem Leads.trans (leads : Leads step P s) (next : ∀ t, P t → Leads step I t) : Leads step I s := by
  obtain ⟨as, t, run, hP⟩ := leads
  obtain ⟨bs, u, run', hI⟩ := next t hP
  exact ⟨as ++ bs, u, by rw [exec_append, run]; exact run', hI⟩

/-- **Progress by a measure**: what can be brought nearer from every `I`-state is
reached. -/
theorem leads_of_measure (m : σ → ℕ) (nearer : ∀ t, I t → P t ∨ ∃ a t', step t a = some t' ∧ I t' ∧ m t' < m t)
    (init : I s) : Leads step P s := by
  induction n : m s using Nat.strongRecOn generalizing s with
  | ind n ih =>
    rcases nearer s init with hP | ⟨a, t, hs, hI, less⟩
    · exact .here hP
    · exact .after hs (ih (m t) (n ▸ less) hI rfl)

end

end Sys
