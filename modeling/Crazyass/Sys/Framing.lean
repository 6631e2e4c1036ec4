import Mathlib.Data.List.Infix
import Mathlib.Tactic

/-!
# Frames on a stream

A frame function tells from the beginning of a frame how much more of it may be
asked for. A reader that asks it, and takes no more than it says, finds the
frames of a stream one by one, however the stream arrives.
-/

namespace Sys

variable {α : Type*} {IsFrame : List α → Prop} {rest : List α → ℤ} {frames done : List (List α)} {buf d f : List α}

/-- What a frame function promises of every proper prefix of a frame, the empty
one included, and of a whole frame. -/
structure FrameFunction (IsFrame : List α → Prop) (rest : List α → ℤ) : Prop where
  empty : 0 < rest []
  proper : ∀ f, IsFrame f → ∀ p, p <+: f → p ≠ f → 0 < rest p ∧ rest p ≤ f.length - p.length
  whole : ∀ f, IsFrame f → rest f = 0

/-- A reader that is done with some of the frames, with the beginning of the
next one in its buffer. -/
def Between (frames done : List (List α)) (buf : List α) : Prop := ∃ todo, frames = done ++ todo ∧ buf <+: todo.headD []

theorem Between.start (frames : List (List α)) : Between frames [] [] := ⟨frames, rfl, List.nil_prefix⟩

theorem Between.done_prefix (h : Between frames done buf) : done <+: frames := by
  obtain ⟨todo, rfl, -⟩ := h
  exact List.prefix_append done todo

/-- What the reader has taken is a beginning of the stream. -/
theorem Between.taken (h : Between frames done buf) : done.flatten ++ buf <+: frames.flatten := by
  obtain ⟨todo, rfl, first⟩ := h
  rw [List.flatten_append, List.prefix_append_right_inj]
  cases todo with
  | nil => exact first
  | cons f todo => exact first.trans (List.prefix_append f todo.flatten)

/-- The next frame begins where the last one ends. -/
theorem between_nil (h : done <+: frames) : Between frames done [] := by
  obtain ⟨todo, rfl⟩ := h
  exact ⟨todo, rfl, List.nil_prefix⟩

/-- **Reading** what the frame function allows stays inside the frame. -/
theorem Between.read (law : FrameFunction IsFrame rest) (legal : ∀ f ∈ frames, IsFrame f) (h : Between frames done buf)
    (some : d ≠ []) (asked : (d.length : ℤ) ≤ rest buf) (stream : done.flatten ++ (buf ++ d) <+: frames.flatten) :
    Between frames done (buf ++ d) ∧ ∃ f ∈ frames, buf ++ d <+: f := by
  obtain ⟨todo, rfl, first⟩ := h
  rw [List.flatten_append, List.prefix_append_right_inj] at stream
  have positive := List.length_pos_iff.2 some
  cases todo with
  | nil =>
    have nothing := List.prefix_nil.1 stream
    exact absurd (List.append_eq_nil_iff.1 nothing).2 some
  | cons f todo =>
    have legal_f := legal f (List.mem_append_right done List.mem_cons_self)
    have unfinished : buf ≠ f := by
      rintro rfl
      have zero := law.whole buf legal_f
      omega
    obtain ⟨-, most⟩ := law.proper f legal_f buf first unfinished
    have fits : (buf ++ d).length ≤ f.length := by
      rw [List.length_append]
      omega
    have inside : buf ++ d <+: f := List.prefix_of_prefix_length_le stream (List.prefix_append f todo.flatten) fits
    exact ⟨⟨f :: todo, rfl, inside⟩, f, List.mem_append_right done List.mem_cons_self, inside⟩

/-- **A frame is whole** where nothing more is asked for. -/
theorem Between.whole (law : FrameFunction IsFrame rest) (legal : ∀ f ∈ frames, IsFrame f) (h : Between frames done buf)
    (nothing : rest buf ≤ 0) : done ++ [buf] <+: frames := by
  obtain ⟨todo, rfl, first⟩ := h
  have some : buf ≠ [] := by
    rintro rfl
    have positive := law.empty
    omega
  cases todo with
  | nil => exact absurd (List.prefix_nil.1 first) some
  | cons f todo =>
    have same : buf = f := by
      by_contra unfinished
      have positive := law.proper f (legal f (List.mem_append_right done List.mem_cons_self)) buf first unfinished
      omega
    subst same
    rw [List.prefix_append_right_inj]
    exact ⟨todo, rfl⟩

/-- **The end**: a reader that has the whole stream and asks for more is done with all frames. -/
theorem Between.finished (law : FrameFunction IsFrame rest) (legal : ∀ f ∈ frames, IsFrame f) (h : Between frames done buf)
    (all : done.flatten ++ buf = frames.flatten) (more : 0 < rest buf) : done = frames := by
  obtain ⟨todo, rfl, first⟩ := h
  rw [List.flatten_append, List.append_cancel_left_eq] at all
  cases todo with
  | nil => rw [List.append_nil]
  | cons f todo =>
    -- the buffer holds the next frame and more, but no more than the next frame
    have longest := first.length_le
    rw [all, List.flatten_cons, List.headD_cons, List.length_append] at longest
    have whole : buf = f := first.eq_of_length_le (by
      rw [all, List.flatten_cons, List.headD_cons, List.length_append]
      omega)
    have zero := law.whole f (legal f (List.mem_append_right done List.mem_cons_self))
    rw [whole, zero] at more
    exact absurd more (lt_irrefl 0)

end Sys
