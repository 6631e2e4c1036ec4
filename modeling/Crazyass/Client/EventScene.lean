import Crazyass.Client.PlayStage

/-!
# The room

`EventScene` of `event_scene.cpp` without its dialog: four events, of which one
at a time is on, a gauge that moves of the star fill and ticks of `UpdateUI`
drain, the bars that show it, and the clothes.

The star field may be moved on after its event is off: a touch that began on it
goes on, and so the listener is called in every state once it is there. The
numbers that `static_data.json` gives the stage are a parameter.
-/

namespace Crazyass.Client
open Sys

/-- What `EventStepInfo` and `EventFingerInfo` say of the gauge. -/
structure Progress where
  lessen : ℤ
  increase : ℤ
deriving DecidableEq, Repr

/-- `event_step_vec_`, and `event_finger_map_` at the stage. -/
structure EventConfig where
  steps : List Progress
  fingers : List Progress

namespace EventConfig

/-- `GetEventPL`; none is a read out of range. -/
def lessen (config : EventConfig) (step finger : ℤ) : Option ℤ :=
  if step < 0 ∨ 2 < step ∨ finger < 0 ∨ 3 < finger then some 0
  else do
    let f ← config.fingers[finger.toNat]?
    let s ← config.steps[step.toNat]?
    some (f.lessen + s.lessen)

/-- `GetEventPI`. -/
def increase (config : EventConfig) (step finger : ℤ) : Option ℤ :=
  if step < 0 ∨ 2 < step ∨ finger < 0 ∨ 3 < finger then some 0
  else do
    let f ← config.fingers[finger.toNat]?
    let s ← config.steps[step.toNat]?
    some (f.increase + s.increase)

end EventConfig

/-- The four widgets of the bar: `ImageBarGround`, `ImageBar`, `ImgGirlFace` and
`LoadingBar`. -/
structure Bars where
  ground : Bool
  bar : Bool
  girl : Bool
  loading : Bool
deriving DecidableEq, Repr

def Bars.all (visible : Bool) : Bars := ⟨visible, visible, visible, visible⟩

/-- `lock` is the stage's entry in the user's event locks, `field` tells whether
the star field is visible, `listening` whether it has its listeners, `shop`
whether the dialog is shown, `updating` whether `UpdateUI` is scheduled, and
`bare` and `off` are the state and the hidden picture of each piece of clothing.
`sounds` lists the indices into `soundfiles`. -/
structure EventScene where
  lock : ℤ
  eventState : ℤ
  fingerIdx : ℤ
  distence : ℤ
  girlAction : ℤ
  bars : Bars
  percent : ℤ
  field : Bool
  listening : Bool
  shop : Bool
  updating : Bool
  bare : Clothes → Bool
  off : Clothes → Bool
  sounds : List ℤ
  fault : Bool

/-- `recv` is a reply that sets the user's event lock. -/
inductive EventTouch where
  | event (i : ℤ) (e : Touch)
  | clothes (c : Clothes) (e : Touch)
  | moveStar (inside : Bool)
  | no (e : Touch)
  | tick
  | recv (lock : ℤ)
  | recvDone
deriving DecidableEq, Repr

namespace EventScene

/-- After `onEnter`, with what the layout files say of the widgets. -/
def onEnter (lock : ℤ) : EventScene where
  lock
  eventState := -1
  fingerIdx := 0
  distence := 0
  girlAction := -1
  bars := .all false
  percent := 30
  field := false
  listening := false
  shop := false
  updating := false
  bare _ := false
  off _ := false
  sounds := []
  fault := false

/-- `GetEventStep`. -/
def eventStep (s : EventScene) : ℤ :=
  if 0 ≤ s.distence then
    if s.distence < 5000 then 0 else if s.distence < 8000 then 1 else 2
  else -1

/-- `RunGirlAction`, with the sound before it. A step out of range has no time. -/
def runGirlAction (config : EventConfig) (s : EventScene) : Option EventScene :=
  let step := s.eventStep
  if 0 ≤ step ∧ step ≤ 2 ∧ config.steps[step.toNat]? = none then none
  else some { s with girlAction := step, sounds := s.sounds ++ [if step ≠ 2 then 0 else s.fingerIdx] }

/-- `ShowLoadingBar`. -/
def showLoadingBar (config : EventConfig) (s : EventScene) : Option EventScene :=
  if 0 < s.distence then
    let s := if ¬ s.bars.ground ∧ ¬ s.bars.bar ∧ ¬ s.bars.loading then { s with bars := .all true } else s
    let s := { s with percent := if 10000 < s.distence then 100 else s.distence / 100 }
    if s.eventStep ≠ s.girlAction then s.runGirlAction config else some s
  else
    let s := { s with girlAction := -1 }
    if s.bars.ground ∧ s.bars.bar ∧ s.bars.loading then some { s with bars := .all false, percent := 0 }
    else some { s with percent := s.distence / 100 }

def crash (s : EventScene) : EventScene := { s with fault := true }

/-- `UpdateUI`. -/
def updateUI (config : EventConfig) (s : EventScene) : Option EventScene :=
  if 0 ≤ s.distence then do
    let s ← s.showLoadingBar config
    let sub ← config.lessen s.eventStep s.eventState
    let distence := s.distence - sub
    some { s with distence := if distence < 0 then 0 else distence }
  else some s

/-- `onBtnMoveStar`; a move outside the field hides the star and nothing else. -/
def onBtnMoveStar (config : EventConfig) (s : EventScene) (inside : Bool) : Option EventScene :=
  if inside then
    if 10000 < s.distence then do
      let sub ← config.lessen s.eventStep s.eventState
      some { s with distence := 100 * 100 + sub * 10 }
    else do
      let add ← config.increase s.eventStep s.eventState
      let distence := s.distence + add
      some { s with distence := if 10000 < distence then 11000 else distence }
  else some s

/-- `onBtnEvent`. The stage's `EventFingerInfo` places the star field. -/
def onBtnEvent (config : EventConfig) (s : EventScene) (i : ℤ) (e : Touch) : Option EventScene :=
  if e = .began then some s
  else if s.lock < i then some { s with shop := true }
  else
    let s := { s with
      fingerIdx := i
      eventState := if s.eventState = i - 1 then -1 else i - 1
      bars := .all false
      distence := 0
      girlAction := -1
      percent := 0 }
    if 0 ≤ s.eventState then do
      let _ ← config.fingers[if s.eventState < 0 ∨ 3 < s.eventState then 0 else s.eventState.toNat]?
      some { s with field := true, listening := true, updating := true }
    else some { s with field := false, updating := false }

/-- `onBtnShirt`, `onBtnPanty`, `onBtnStock1` and `onBtnStock2`. -/
def onBtnClothes (s : EventScene) (c : Clothes) (e : Touch) : EventScene :=
  if e = .began then s
  else if s.bare c = false then { s with off := Function.update s.off c true, bare := Function.update s.bare c true }
  else { s with off := Function.update s.off c false, bare := Function.update s.bare c false }

/-- `onBtnNo`. -/
def onBtnNo (s : EventScene) (e : Touch) : EventScene := if e = .began then s else { s with shop := false }

def step (config : EventConfig) (s : EventScene) (a : EventTouch) : Option EventScene :=
  if s.fault then none
  else
    match a with
    | .event i e => if 1 ≤ i ∧ i ≤ 4 then some ((s.onBtnEvent config i e).getD s.crash) else none
    | .clothes c e => some (s.onBtnClothes c e)
    | .moveStar inside => if s.listening then some ((s.onBtnMoveStar config inside).getD s.crash) else none
    | .no e => some (s.onBtnNo e)
    | .tick => if s.updating then some ((s.updateUI config).getD s.crash) else none
    | .recv lock => some { s with lock }
    | .recvDone => some { s with shop := false }

end EventScene

/-! ## What the gauge is for -/

/-- The numbers of a stage: three steps and four events, and no gauge that runs
backwards. -/
structure EventConfig.Sound (config : EventConfig) : Prop where
  steps : config.steps.length = 3
  fingers : config.fingers.length = 4
  lessen : ∀ p ∈ config.steps ++ config.fingers, 0 ≤ p.lessen
  increase : ∀ p ∈ config.steps ++ config.fingers, 0 ≤ p.increase

/-- The largest drain of one tick. -/
def EventConfig.most (config : EventConfig) : ℤ :=
  (config.steps.map Progress.lessen).foldr max 0 + (config.fingers.map Progress.lessen).foldr max 0

namespace EventScene

/-- **The contract** of the room. -/
structure Steady (config : EventConfig) (s : EventScene) : Prop where
  inRange : s.fault = false
  state : -1 ≤ s.eventState ∧ s.eventState ≤ 3
  -- one event at a time, and only while one is on does the gauge run
  updating : s.updating = true ↔ 0 ≤ s.eventState
  field : s.field = true ↔ 0 ≤ s.eventState
  finger : 0 ≤ s.eventState → s.fingerIdx = s.eventState + 1
  still : s.eventState = -1 → s.distence = 0 ∧ s.bars = .all false
  -- the gauge and its bars
  gauge : 0 ≤ s.distence ∧ s.distence ≤ max 11000 (10000 + config.most * 10)
  bars : s.bars = .all s.bars.loading
  percent : 0 ≤ s.percent ∧ s.percent ≤ 100
  girl : s.girlAction = -1 ∨ s.girlAction = 0 ∨ s.girlAction = 1 ∨ s.girlAction = 2
  drawn : s.girlAction ≠ -1 → s.bars = .all true
  sounds : ∀ i ∈ s.sounds, 0 ≤ i ∧ i ≤ 4
  clothes : s.off = s.bare

/-- What a tick makes heard: the sound of a step that is not shown yet. -/
def heard (s : EventScene) : List ℤ :=
  if 0 < s.distence ∧ s.eventStep ≠ s.girlAction then [if s.eventStep ≠ 2 then 0 else s.fingerIdx] else []

/-- What is shown of the gauge, whatever was shown before. -/
def display (s : EventScene) : EventScene :=
  { s with
    bars := .all (decide (0 < s.distence)), percent := min 100 (s.distence / 100)
    girlAction := if 0 < s.distence then s.eventStep else -1, sounds := s.sounds ++ s.heard }

/-- What a tick leaves: the gauge as it found it is shown, and only then drained. -/
def Shown (config : EventConfig) (s t : EventScene) : Prop :=
  ∃ sub, config.lessen s.eventStep s.eventState = some sub ∧ t = { s.display with distence := max 0 (s.distence - sub) }

/-- What any other touch leaves: it is not heard, and what is shown stays or is
taken away with the gauge. -/
structure Quiet (s t : EventScene) : Prop where
  sounds : t.sounds = s.sounds
  shown : t.bars = s.bars ∧ t.percent = s.percent ∧ t.girlAction = s.girlAction ∨
    t.bars = .all false ∧ t.percent = 0 ∧ t.girlAction = -1 ∧ t.distence = 0

/-- **The contract of a step.** -/
def Shows (config : EventConfig) (s : EventScene) (a : EventTouch) : Prop :=
  ∀ t, step config s a = some t → if a = .tick then Shown config s t else Quiet s t

end EventScene

/-! ## The numbers of a stage -/

namespace EventConfig
section
variable {config : EventConfig} {step finger : ℤ}

/-- No entry drains more than the largest one. -/
theorem lessen_le_most (l : List Progress) : ∀ p ∈ l, p.lessen ≤ (l.map Progress.lessen).foldr max 0 := by
  induction l with
  | nil => nofun
  | cons q l ih =>
    intro p mem
    rcases List.mem_cons.1 mem with rfl | later
    · exact le_max_left _ _
    · exact (ih p later).trans (le_max_right _ _)

theorem most_nonneg (l : List Progress) : 0 ≤ (l.map Progress.lessen).foldr max 0 := by
  induction l with
  | nil => exact le_rfl
  | cons q l ih => exact ih.trans (le_max_right _ _)

/-- What the two getters look up. -/
theorem Sound.found (sound : config.Sound) (inside : ¬ (step < 0 ∨ 2 < step ∨ finger < 0 ∨ 3 < finger)) :
    ∃ f ∈ config.fingers, ∃ p ∈ config.steps, config.fingers[finger.toNat]? = some f ∧ config.steps[step.toNat]? = some p := by
  have finger_lt : finger.toNat < config.fingers.length := by
    rw [sound.fingers]
    omega
  have step_lt : step.toNat < config.steps.length := by
    rw [sound.steps]
    omega
  exact ⟨_, List.getElem_mem finger_lt, _, List.getElem_mem step_lt, List.getElem?_eq_getElem finger_lt,
    List.getElem?_eq_getElem step_lt⟩

/-- `GetEventPL` finds a number, between 0 and the largest drain. -/
theorem Sound.lessen_some (sound : config.Sound) (step finger : ℤ) :
    ∃ n, config.lessen step finger = some n ∧ 0 ≤ n ∧ n ≤ config.most := by
  unfold EventConfig.lessen
  split
  · exact ⟨0, rfl, le_rfl, add_nonneg (most_nonneg _) (most_nonneg _)⟩
  · next inside =>
    obtain ⟨f, hf, p, hp, finger_eq, step_eq⟩ := sound.found inside
    have low_f := sound.lessen f (List.mem_append_right _ hf)
    have low_p := sound.lessen p (List.mem_append_left _ hp)
    have high_f := lessen_le_most _ f hf
    have high_p := lessen_le_most _ p hp
    refine ⟨f.lessen + p.lessen, by rw [finger_eq, step_eq]; rfl, by omega, ?_⟩
    unfold most
    omega

/-- `GetEventPI` finds a number, and 0 while no event is on. -/
theorem Sound.increase_some (sound : config.Sound) (step finger : ℤ) :
    ∃ n, config.increase step finger = some n ∧ 0 ≤ n ∧ (finger < 0 → n = 0) := by
  unfold EventConfig.increase
  split
  · exact ⟨0, rfl, le_rfl, fun _ => rfl⟩
  · next inside =>
    obtain ⟨f, hf, p, hp, finger_eq, step_eq⟩ := sound.found inside
    have low_f := sound.increase f (List.mem_append_right _ hf)
    have low_p := sound.increase p (List.mem_append_left _ hp)
    refine ⟨f.increase + p.increase, by rw [finger_eq, step_eq]; rfl, by omega, fun off => ?_⟩
    exact absurd (.inr (.inr (.inl off))) inside

end
end EventConfig

/-! ## The listeners and the tick -/

namespace EventScene
section
variable {config : EventConfig} {s t : EventScene} {i : ℤ} {e : Touch} {inside : Bool}

theorem percent_zero : (0 : ℤ) ≤ 0 ∧ (0 : ℤ) ≤ 100 := by decide

/-- A touch that comes to nothing. -/
theorem Quiet.same (s : EventScene) : Quiet s s := ⟨rfl, .inl ⟨rfl, rfl, rfl⟩⟩

/-- `GetEventStep` is one of three steps, or none. -/
theorem eventStep_mem (s : EventScene) : s.eventStep = -1 ∨ s.eventStep = 0 ∨ s.eventStep = 1 ∨ s.eventStep = 2 := by
  unfold eventStep
  split
  · split
    · exact .inr (.inl rfl)
    · split
      · exact .inr (.inr (.inl rfl))
      · exact .inr (.inr (.inr rfl))
  · exact .inl rfl

/-- The bars come up together. -/
theorem Steady.shown (steady : Steady config s) :
    (if ¬ s.bars.ground ∧ ¬ s.bars.bar ∧ ¬ s.bars.loading then { s with bars := .all true } else s) =
      { s with bars := .all true } := by
  have bars := steady.bars
  cases loading : s.bars.loading with
  | true =>
    rw [loading] at bars
    rw [if_neg (by simp), ← bars]
  | false =>
    rw [loading] at bars
    rw [if_pos (by simp [bars, Bars.all])]

/-- The girl's picture changes with the step of the gauge. -/
theorem runGirlAction_eq (sound : config.Sound) : s.runGirlAction config =
    some { s with girlAction := s.eventStep, sounds := s.sounds ++ [if s.eventStep ≠ 2 then 0 else s.fingerIdx] } := by
  unfold EventScene.runGirlAction
  rw [if_neg]
  rintro ⟨low, high, missing⟩
  rw [List.getElem?_eq_none_iff, sound.steps] at missing
  omega

/-- **`ShowLoadingBar`** shows the gauge. -/
theorem Steady.showLoadingBar_eq (steady : Steady config s) (sound : config.Sound) :
    s.showLoadingBar config = some s.display := by
  have gauge := steady.gauge
  unfold EventScene.showLoadingBar display
  by_cases shows : 0 < s.distence
  · have full : (if 10000 < s.distence then 100 else s.distence / 100 : ℤ) = min 100 (s.distence / 100) := by
      split <;> omega
    rw [if_pos shows, steady.shown, if_pos shows, decide_eq_true shows]
    dsimp only
    rw [full]
    split
    · next reached =>
      have loud : s.heard = [if s.eventStep ≠ 2 then 0 else s.fingerIdx] := if_pos ⟨shows, reached⟩
      rw [loud]
      exact runGirlAction_eq sound
    · next known =>
      have known : s.eventStep = s.girlAction := not_not.1 known
      have silent : s.heard = [] := if_neg fun new => new.2 known
      rw [silent, List.append_nil, known]
  · have empty : min 100 (s.distence / 100) = 0 := by omega
    have silent : s.heard = [] := if_neg fun new => shows new.1
    rw [if_neg shows, if_neg shows, decide_eq_false shows, silent, List.append_nil, empty]
    dsimp only
    split
    · rfl
    · next hidden =>
      have together := steady.bars
      cases loading : s.bars.loading with
      | false =>
        rw [loading] at together
        rw [← together, show s.distence / 100 = 0 by omega]
      | true =>
        rw [loading] at together
        rw [together] at hidden
        exact absurd ⟨rfl, rfl, rfl⟩ hidden

/-- What is shown of an event that is on keeps the room steady. -/
theorem Steady.display (steady : Steady config s) (on : 0 ≤ s.eventState) : Steady config s.display := by
  have gauge := steady.gauge
  have state := steady.state
  have finger := steady.finger on
  have step := s.eventStep_mem
  refine { steady with still := fun idle => ?_, bars := rfl, percent := ?_, girl := ?_, drawn := fun drawn => ?_, sounds := ?_ }
  · have : s.eventState = -1 := idle
    omega
  · dsimp only [EventScene.display]
    omega
  · dsimp only [EventScene.display]
    split
    · exact step
    · exact .inl rfl
  · by_cases shows : 0 < s.distence
    · exact congrArg Bars.all (decide_eq_true shows)
    · exact absurd (if_neg shows) drawn
  · intro i mem
    rcases List.mem_append.1 mem with old | new
    · exact steady.sounds i old
    · unfold heard at new
      split at new
      · rw [List.mem_singleton.1 new]
        split <;> omega
      · cases new

/-- **A tick** shows the gauge and drains it. -/
theorem Steady.updateUI (steady : Steady config s) (sound : config.Sound) (on : 0 ≤ s.eventState) :
    ∃ t, s.updateUI config = some t ∧ Steady config t ∧ Shown config s t := by
  have gauge := steady.gauge
  have steady' := steady.display on
  obtain ⟨sub, found, low, -⟩ := sound.lessen_some s.eventStep s.eventState
  have drained : config.lessen s.display.eventStep s.display.eventState = some sub := found
  have rest : (if s.distence - sub < 0 then 0 else s.distence - sub) = max 0 (s.distence - sub) := by
    split <;> omega
  unfold EventScene.updateUI
  rw [if_pos gauge.1, steady.showLoadingBar_eq sound, Option.bind_eq_bind, Option.bind_some, drained, Option.bind_eq_bind,
    Option.bind_some]
  refine ⟨_, rfl, ?_, sub, found, congrArg (fun distence => { s.display with distence }) rest⟩
  refine { steady' with still := fun idle => ?_, gauge := ?_ }
  · have : s.eventState = -1 := idle
    omega
  · dsimp only [EventScene.display]
    omega

/-- **A move of the star** fills the gauge, and none that is off. -/
theorem Steady.onBtnMoveStar (steady : Steady config s) (sound : config.Sound) (inside : Bool) :
    ∃ t, s.onBtnMoveStar config inside = some t ∧ Steady config t ∧ Quiet s t := by
  have gauge := steady.gauge
  unfold EventScene.onBtnMoveStar
  split
  · split
    · next full =>
      obtain ⟨sub, found, low, high⟩ := sound.lessen_some s.eventStep s.eventState
      rw [found, Option.bind_eq_bind, Option.bind_some]
      refine ⟨_, rfl, { steady with still := fun idle => ?_, gauge := ?_ }, rfl, .inl ⟨rfl, rfl, rfl⟩⟩
      · have := (steady.still idle).1
        omega
      · dsimp only
        omega
    · next room =>
      obtain ⟨add, found, low, none_off⟩ := sound.increase_some s.eventStep s.eventState
      rw [found, Option.bind_eq_bind, Option.bind_some]
      refine ⟨_, rfl, { steady with still := fun idle => ?_, gauge := ?_ }, rfl, .inl ⟨rfl, rfl, rfl⟩⟩
      · obtain ⟨empty, bars⟩ := steady.still idle
        have none_added := none_off (by rw [show s.eventState = -1 from idle]; decide)
        dsimp only
        rw [empty, none_added]
        exact ⟨rfl, bars⟩
      · dsimp only
        split <;> omega
  · exact ⟨s, rfl, steady, .same s⟩

/-- **A touch of an event's button** turns it on or off. -/
theorem Steady.onBtnEvent (steady : Steady config s) (sound : config.Sound) (button : 1 ≤ i ∧ i ≤ 4) :
    ∃ t, s.onBtnEvent config i e = some t ∧ Steady config t ∧ Quiet s t ∧ (t.distence = s.distence ∧ t.bars = s.bars ∨
      t.distence = 0 ∧ t.bars = .all false) := by
  unfold EventScene.onBtnEvent
  split
  · exact ⟨s, rfl, steady, .same s, .inl ⟨rfl, rfl⟩⟩
  · split
    · exact ⟨_, rfl, { steady with }, ⟨rfl, .inl ⟨rfl, rfl, rfl⟩⟩, .inl ⟨rfl, rfl⟩⟩
    · dsimp only
      generalize state_eq : (if s.eventState = i - 1 then -1 else i - 1 : ℤ) = state
      have range : -1 ≤ state ∧ state ≤ 3 ∧ (0 ≤ state → i = state + 1) := by
        rw [← state_eq]
        split <;> omega
      have high : 0 ≤ max 11000 (10000 + config.most * 10) := le_max_of_le_left (by decide)
      split
      · next on =>
        have lt : (if state < 0 ∨ 3 < state then 0 else state.toNat) < config.fingers.length := by
          rw [sound.fingers]
          split <;> omega
        rw [List.getElem?_eq_getElem lt, Option.bind_eq_bind, Option.bind_some]
        refine ⟨_, rfl, ?_, ⟨rfl, .inr ⟨rfl, rfl, rfl, rfl⟩⟩, .inr ⟨rfl, rfl⟩⟩
        exact { steady with
          state := ⟨range.1, range.2.1⟩, updating := iff_of_true rfl on, field := iff_of_true rfl on
          finger := range.2.2, still := fun _ => ⟨rfl, rfl⟩, gauge := ⟨le_rfl, high⟩, bars := rfl
          percent := percent_zero, girl := .inl rfl, drawn := fun drawn => absurd rfl drawn }
      · next off =>
        refine ⟨_, rfl, ?_, ⟨rfl, .inr ⟨rfl, rfl, rfl, rfl⟩⟩, .inr ⟨rfl, rfl⟩⟩
        exact { steady with
          state := ⟨range.1, range.2.1⟩, updating := iff_of_false nofun off, field := iff_of_false nofun off
          finger := range.2.2, still := fun _ => ⟨rfl, rfl⟩, gauge := ⟨le_rfl, high⟩, bars := rfl
          percent := percent_zero, girl := .inl rfl, drawn := fun drawn => absurd rfl drawn }

/-- **One step** keeps the room steady, and what it shows is the gauge. -/
theorem Steady.step_shows {a : EventTouch} (steady : Steady config s) (sound : config.Sound)
    (h : EventScene.step config s a = some t) : Steady config t ∧ if a = .tick then Shown config s t else Quiet s t := by
  have running := steady.inRange
  unfold EventScene.step at h
  rw [if_neg (by simp [running])] at h
  cases a with
  | event i e =>
    rw [if_neg nofun]
    dsimp only at h
    split at h
    · next button =>
      obtain ⟨t', touched, steady', quiet, -⟩ := steady.onBtnEvent sound button (e := e)
      rw [touched] at h
      cases h
      exact ⟨steady', quiet⟩
    · cases h
  | clothes c e =>
    cases h
    rw [if_neg nofun]
    unfold EventScene.onBtnClothes
    split
    · exact ⟨steady, .same s⟩
    · split <;> exact ⟨{ steady with clothes := by dsimp only; rw [steady.clothes] }, rfl, .inl ⟨rfl, rfl, rfl⟩⟩
  | moveStar inside =>
    rw [if_neg nofun]
    dsimp only at h
    split at h
    · obtain ⟨t', moved, kept⟩ := steady.onBtnMoveStar sound inside
      rw [moved] at h
      cases h
      exact kept
    · cases h
  | no e =>
    cases h
    rw [if_neg nofun]
    unfold EventScene.onBtnNo
    split
    · exact ⟨steady, .same s⟩
    · exact ⟨{ steady with }, rfl, .inl ⟨rfl, rfl, rfl⟩⟩
  | tick =>
    rw [if_pos rfl]
    dsimp only at h
    split at h
    · next updating =>
      obtain ⟨t', ticked, kept⟩ := steady.updateUI sound (steady.updating.1 updating)
      rw [ticked] at h
      cases h
      exact kept
    · cases h
  | recv lock | recvDone =>
    cases h
    rw [if_neg nofun]
    exact ⟨{ steady with }, rfl, .inl ⟨rfl, rfl, rfl⟩⟩

/-- **One step** keeps the room steady. -/
theorem Steady.step {a : EventTouch} (steady : Steady config s) (sound : config.Sound) (h : step config s a = some t) :
    Steady config t :=
  (steady.step_shows sound h).1

/-- The room starts with no event on. -/
theorem onEnter_steady (config : EventConfig) (lock : ℤ) : Steady config (onEnter lock) where
  inRange := rfl
  state := by simp [onEnter]
  updating := by simp [onEnter]
  field := by simp [onEnter]
  finger := by simp [onEnter]
  still _ := ⟨rfl, rfl⟩
  gauge := ⟨le_rfl, le_max_of_le_left (by simp [onEnter])⟩
  bars := rfl
  percent := by simp [onEnter]
  girl := .inl rfl
  drawn := fun drawn => absurd rfl drawn
  sounds := nofun
  clothes := rfl

/-- Every state that a run of the room visits is steady. -/
theorem Steady.through (sound : config.Sound) (lock : ℤ) (as : List EventTouch) :
    Through (EventScene.step config) (Steady config) (onEnter lock) as :=
  through_inv (Q := fun _ _ => True) (fun _ _ _ steady _ h => steady.step sound h) (onEnter_steady config lock)
    fun _ _ _ _ _ => trivial

/-- **The room is steady** through every run: no read is out of range, one event
at most is on, the gauge keeps to its range and runs for that event only, and its
bars come and go together. Along it every tick shows the gauge as it finds it. -/
theorem steady_through (config : EventConfig) (sound : config.Sound) (lock : ℤ) (as : List EventTouch) :
    Through (EventScene.step config) (Steady config) (onEnter lock) as ∧
      Along (EventScene.step config) (Shows config) (onEnter lock) as := by
  have through := Steady.through sound lock as
  refine ⟨through, fun bs a s pre run t h => ?_⟩
  have steady : Steady config s := through bs s ((List.prefix_append bs [a]).trans pre) run
  exact (steady.step_shows sound h).2

/-! ## The gauge runs out -/

/-- Every step drains the gauge by `p` at least. -/
theorem lessen_le (sound : config.Sound) {p : ℤ} (least : ∀ q ∈ config.steps, p ≤ q.lessen) (on : 0 ≤ s.eventState)
    (steady : Steady config s) {sub : ℤ} (found : config.lessen s.eventStep s.eventState = some sub) : p ≤ sub := by
  have state := steady.state
  have step : 0 ≤ s.eventStep ∧ s.eventStep ≤ 2 := by
    unfold eventStep
    rw [if_pos steady.gauge.1]
    split
    · decide
    · split <;> decide
  have inside : ¬ (s.eventStep < 0 ∨ 2 < s.eventStep ∨ s.eventState < 0 ∨ 3 < s.eventState) := by omega
  obtain ⟨f, hf, q, hq, finger_eq, step_eq⟩ := sound.found inside
  have low_f := sound.lessen f (List.mem_append_right _ hf)
  have low_q := least q hq
  unfold EventConfig.lessen at found
  rw [if_neg inside, finger_eq, step_eq] at found
  obtain rfl : f.lessen + q.lessen = sub := Option.some.inj found
  omega

/-- No step but a move of the star fills the gauge or brings up its bars; a tick
drains it, or takes the bars away where it is empty. -/
theorem Steady.drains {a : EventTouch} (steady : Steady config s) (sound : config.Sound) {p : ℤ}
    (least : ∀ q ∈ config.steps, p ≤ q.lessen) (other : ∀ inside, a ≠ .moveStar inside) (h : EventScene.step config s a = some t) :
    (t.distence = s.distence ∧ t.bars = s.bars ∧ a ≠ .tick) ∨ (t.distence = 0 ∧ t.bars = .all false) ∨
      (0 < s.distence ∧ t.distence ≤ max 0 (s.distence - p)) := by
  have running := steady.inRange
  unfold EventScene.step at h
  rw [if_neg (by simp [running])] at h
  cases a with
  | event i e =>
    dsimp only at h
    split at h
    · next button =>
      obtain ⟨t', touched, -, -, same | reset⟩ := steady.onBtnEvent sound button (e := e)
      · rw [touched] at h
        cases h
        exact .inl ⟨same.1, same.2, nofun⟩
      · rw [touched] at h
        cases h
        exact .inr (.inl reset)
    · cases h
  | clothes c e =>
    cases h
    left
    unfold EventScene.onBtnClothes
    split
    · exact ⟨rfl, rfl, nofun⟩
    · split <;> exact ⟨rfl, rfl, nofun⟩
  | moveStar inside => exact absurd rfl (other inside)
  | no e =>
    cases h
    left
    unfold EventScene.onBtnNo
    split <;> exact ⟨rfl, rfl, nofun⟩
  | tick =>
    dsimp only at h
    split at h
    · next updating =>
      have on := steady.updating.1 updating
      obtain ⟨t', ticked, -, shown⟩ := steady.updateUI sound on
      rw [ticked] at h
      obtain rfl : t' = t := Option.some.inj h
      obtain ⟨sub, found, rfl⟩ := shown
      have drained := lessen_le sound least on steady found
      right
      by_cases empty : 0 < s.distence
      · exact .inr ⟨empty, max_le_max le_rfl (by omega)⟩
      · obtain ⟨n, found', low, -⟩ := sound.lessen_some s.eventStep s.eventState
        cases found.symm.trans found'
        refine .inl ⟨?_, congrArg Bars.all (decide_eq_false empty)⟩
        have := steady.gauge.1
        dsimp only
        omega
    · cases h
  | recv lock | recvDone =>
    cases h
    exact .inl ⟨rfl, rfl, nofun⟩

/-- An empty gauge stays empty without a move. -/
theorem Steady.stays {bs : List EventTouch} (steady : Steady config s) (sound : config.Sound) {p : ℤ}
    (least : ∀ q ∈ config.steps, p ≤ q.lessen) (still : ∀ a ∈ bs, ∀ inside, a ≠ .moveStar inside)
    (empty : s.distence = 0 ∧ s.bars = .all false) (run : exec (EventScene.step config) s bs = some t) :
    t.distence = 0 ∧ t.bars = .all false := by
  induction bs generalizing s with
  | nil => cases run; exact empty
  | cons a bs ih =>
    obtain ⟨u, hs, run⟩ := exec_cons_eq_some.1 run
    refine ih (steady.step sound hs) (fun b mem => still b (List.mem_cons_of_mem _ mem)) ?_ run
    rcases steady.drains sound least (still a List.mem_cons_self) hs with ⟨same, bars, -⟩ | reset | ⟨full, -⟩
    · exact ⟨same.trans empty.1, bars.trans empty.2⟩
    · exact reset
    · omega

/-- **The gauge runs out** when the star is left alone: after one more tick than
it takes to drain it, it is empty and its bars are gone, whatever else is touched. -/
theorem runs_out (config : EventConfig) (sound : config.Sound) (p : ℤ) (least : ∀ q ∈ config.steps, p ≤ q.lessen)
    (lock : ℤ) (as bs : List EventTouch) (s t : EventScene) (run : exec (EventScene.step config) (onEnter lock) as = some s)
    (rest : exec (EventScene.step config) s bs = some t) (still : ∀ a ∈ bs, ∀ inside, a ≠ .moveStar inside)
    (n : ℕ) (enough : s.distence ≤ p * n) (ticks : n < bs.count .tick) : t.distence = 0 ∧ t.bars = .all false := by
  have steady : Steady config s := (Steady.through sound lock as).last run
  clear run
  induction bs generalizing s n with
  | nil => cases ticks
  | cons a bs ih =>
    obtain ⟨u, hs, rest⟩ := exec_cons_eq_some.1 rest
    have steady' := steady.step sound hs
    have later : ∀ b ∈ bs, ∀ inside, b ≠ .moveStar inside := fun b mem => still b (List.mem_cons_of_mem _ mem)
    rcases steady.drains sound least (still a List.mem_cons_self) hs with ⟨same, -, other⟩ | empty | ⟨full, less⟩
    · rw [List.count_cons_of_ne other] at ticks
      exact ih u rest later n (same ▸ enough) ticks steady'
    · exact steady'.stays sound least later empty rest
    · cases n with
      | zero =>
        rw [Nat.cast_zero, mul_zero] at enough
        omega
      | succ n =>
        have one : (a :: bs).count .tick ≤ bs.count .tick + 1 := by
          rw [List.count_cons]
          split <;> omega
        refine ih u rest later n (less.trans (max_le ?_ ?_)) (by omega) steady'
        · have positive : 0 < p := by
            by_contra backwards
            have := mul_nonpos_of_nonpos_of_nonneg (not_lt.1 backwards) (Int.natCast_nonneg (n + 1))
            omega
          exact mul_nonneg positive.le (Int.natCast_nonneg n)
        · push_cast at enough
          linarith

end
/-- The numbers of the first stage. -/
def firstRoom : EventConfig :=
  ⟨[⟨50, 30⟩, ⟨60, 30⟩, ⟨70, 30⟩], [⟨20, 10⟩, ⟨15, 15⟩, ⟨10, 20⟩, ⟨5, 25⟩]⟩

theorem firstRoom_sound : firstRoom.Sound := ⟨rfl, rfl, by decide, by decide⟩

/-- The first event turned on, and its gauge filled. -/
def filled : List EventTouch := .event 1 .ended :: List.replicate 251 (.moveStar true) ++ [.tick]

/-- What is seen and heard. -/
def seen (s : EventScene) : ℤ × Bars × ℤ × List ℤ := (s.distence, s.bars, s.percent, s.sounds)

/-- The first event, 251 moves of the star and a tick: the bar is full and has been heard. -/
theorem steady_through_filled :
    (Through (EventScene.step firstRoom) (Steady firstRoom) (onEnter 1) filled ∧
      Along (EventScene.step firstRoom) (Shows firstRoom) (onEnter 1) filled) ∧
      (exec (EventScene.step firstRoom) (onEnter 1) filled).map seen = some (10910, .all true, 100, [1]) :=
  ⟨steady_through firstRoom firstRoom_sound 1 filled, by decide +kernel⟩

/-- Left alone for 220 ticks, with a piece of clothing touched meanwhile. -/
def leftAlone : List EventTouch := .clothes .shirt .ended :: List.replicate 220 .tick

/-- The bar that was full is empty 220 ticks later. -/
theorem runs_out_filled : ∃ s t, exec (EventScene.step firstRoom) (onEnter 1) filled = some s ∧
    exec (EventScene.step firstRoom) s leftAlone = some t ∧ s.bars = .all true ∧ t.distence = 0 ∧ t.bars = .all false := by
  have ends : ((exec (EventScene.step firstRoom) (onEnter 1) filled).bind fun s =>
      (exec (EventScene.step firstRoom) s leftAlone).map fun _ => (s.distence, s.bars)) = some (10910, .all true) := by
    decide +kernel
  obtain ⟨s, run, ends⟩ := Option.bind_eq_some_iff.1 ends
  obtain ⟨t, rest, shown⟩ := Option.map_eq_some_iff.1 ends
  obtain ⟨distence, bars⟩ := Prod.mk.inj shown
  refine ⟨s, t, run, rest, bars, runs_out firstRoom firstRoom_sound 50 (by decide) 1 filled leftAlone s t run rest ?_ 219
    (by rw [distence]; decide) (by decide +kernel)⟩
  intro a mem inside
  rcases List.mem_cons.1 mem with rfl | tick
  · nofun
  · rw [List.eq_of_mem_replicate tick]
    nofun

end EventScene
end Crazyass.Client
