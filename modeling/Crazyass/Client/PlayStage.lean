import Crazyass.Client.Finger

/-!
# A stage

`PlayScene` of `play_scene.cpp` as a whole: the buttons of the scene, the cards
of its `CardMgr` and the requests it sends. A stage has four rounds. Each is
started with a button, played with the cards, and won or lost by picking one of
them; after a win a piece of clothing is dragged off, and after the last one the
scene sends `cmd` 3.

A touch is followed from its begin to its end, several widgets may be touched at
a time, and a widget receives the rest of a touch whatever has become of it.
What the layout file says of the clothes before `TakeOff` is left open.
-/

namespace Crazyass.Client
open Sys

/-- The buttons named in `btn_name`. -/
inductive Clothes where
  | shirt | stock1 | stock2 | panty
deriving DecidableEq, Repr

/-- `btn_name`. -/
def btnName : List Clothes := [.shirt, .stock1, .stock2, .panty]

/-- `RESULT_PANEL_*`. -/
inductive ResultPanel where
  | normal | win | lose | start
deriving DecidableEq, Repr

/-- What the touches of the scene are made on; `item` is the finger or the replay
button, and `pop` is the button of `PopWin`. -/
inductive Widget where
  | startPlay
  | panel
  | clothes (c : Clothes)
  | item (item : Item)
  | pop
  | back
deriving DecidableEq, Repr

/-- What a call reads from outside: `gotostartscene`, the results of `rand` and
`random_shuffle`, and the clock. -/
structure Outside where
  gotostart : Bool
  rand : ℕ
  shuffles : List (List ℕ)
  time : ℕ
deriving DecidableEq, Repr

/-- `touchable` is what `SetTouchable` was called with last, `items` what
`ShowProperty` was, `blinks` are the cards that blink, `startPlay` tells whether
that button is enabled, `listening` are the clothes `TakeOff` was called for,
`off` are the calls that disable one, `held` the widgets touched, `stageids` the
arguments of `set_stageid`, and `gone` tells whether the scene is replaced. -/
structure PlayStage where
  play : Play
  table : Table
  touchable : Bool
  items : Bool
  blinks : List ℕ
  panel : ResultPanel
  startPlay : Bool
  listening : List Clothes
  off : List Clothes
  pos : Clothes → ℤ × ℤ
  btnStartPos : ℤ × ℤ
  subStageId : ℤ
  subWin : Bool
  allFinish : Bool
  held : List Widget
  stageids : List Int32
  pop : Bool
  gone : Bool

/-- Where the layout puts the clothes, and the members that no constructor sets. -/
structure Unset where
  pos : Clothes → ℤ × ℤ
  btnStartPos : ℤ × ℤ
  subStageId : ℤ
  subWin : Bool
  allFinish : Bool

/-- `drag` is a call of `onBtnMoveClothes`, `card` a touch of a sprite, and the
others are callbacks of actions, ticks and messages. -/
inductive PlayStageStep where
  | touch (w : Widget) (e : Touch) (o : Outside)
  | drag (c : Clothes) (there : ℤ × ℤ)
  | card (tag : ℕ)
  | beginEnd
  | moveEnd (i : ℕ)
  | flicker (card : ℕ) (visible : Bool)
  | blinkEnd (card : ℕ)
  | tick (o : Outside)
  | lapse
  | reply (request : ℕ) (errCode : Int32)
deriving DecidableEq, Repr

/-- `CCPoint::fuzzyEquals`. -/
def fuzzyEquals (p q : ℤ × ℤ) (var : ℤ) : Bool :=
  decide (p.1 - var ≤ q.1 ∧ q.1 ≤ p.1 + var ∧ p.2 - var ≤ q.2 ∧ q.2 ≤ p.2 + var)

namespace PlayStage

/-- The scene after `onEnter`. -/
def onEnter (config : StageInfo) (play : Play) (u : Unset) : PlayStage where
  play
  table := .init config
  touchable := false
  items := false
  blinks := []
  panel := .normal
  startPlay := true
  listening := []
  off := []
  pos := u.pos
  btnStartPos := u.btnStartPos
  subStageId := u.subStageId
  subWin := u.subWin
  allFinish := u.allFinish
  held := []
  stageids := []
  pop := false
  gone := false

def leave (s : PlayStage) : PlayStage := { s with gone := true }

/-- A read out of range, or a loop that does not end. -/
def crash (s : PlayStage) : PlayStage := { s with table := { s.table with fault := true } }

/-- `btn_name[sub_stage_id_]`. -/
def button (s : PlayStage) : Option Clothes := if 0 ≤ s.subStageId then btnName[s.subStageId.toNat]? else none

/-! ## The cards -/

/-- `CardMgr::StartSubStage`. The sprites laid out before are removed, and their
actions with them. -/
def startSubStage (config : StageInfo) (o : Outside) (s : PlayStage) : Option PlayStage :=
  if 0 ≤ s.table.mgr.subStage ∧ s.table.mgr.subStage < 4 then
    (CardMgr.startSubStage config o.rand o.shuffles { s.table.mgr with flights := [] }).map fun mgr =>
      { s with
        table := { s.table with mgr, begun := true, log := s.table.log ++ [.started] }
        touchable := false
        blinks := []
        panel := .start }
  else some s.crash

/-- `CardMgr::ReStartSubStage`. -/
def reStartSubStage (s : PlayStage) : PlayStage :=
  { s with touchable := false, table := { s.table with mgr := s.table.mgr.reStartSubStage } }

/-- What `FinishSubStage` and `ShowProperty` do to the scene if a callback of the
cards has finished the round. -/
def afterRun (s : PlayStage) (table : Table) : PlayStage :=
  if s.table.log.count .finished < table.log.count .finished then { s with table, touchable := true, items := true }
  else { s with table }

/-- `CardMgr::BeginActionEnd`. -/
def beginActionEnd (config : StageInfo) (s : PlayStage) : Option PlayStage :=
  (s.table.step config .beginEnd).map fun table => { s.afterRun table with panel := .normal }

/-- `CardMgr::MoveEnd`. -/
def moveEnd (config : StageInfo) (s : PlayStage) (i : ℕ) : Option PlayStage := (s.table.step config (.moveEnd i)).map s.afterRun

/-- `CardMgr::ShowWrongCard`. -/
def showWrongCard (s : PlayStage) (time : ℕ) : PlayStage :=
  match s.table.mgr.showWrongCard time with
  | some mgr => { s with table := { s.table with mgr }, blinks := s.blinks ++ [mgr.wrongIdx] }
  | none => s.crash

/-- The end of a blink, and `CardMgr::BlinkEnd`. -/
def blinkEnd (s : PlayStage) (card : ℕ) : PlayStage :=
  let (mgr, withdrawn) := (s.table.mgr.setVisible card true).blinkEnd
  { s with table := { s.table with mgr }, items := s.items && !withdrawn, blinks := s.blinks.erase card }

/-- `SendEndPlay`. -/
def sendEndPlay (s : PlayStage) : PlayStage := { s with play := s.play.send .endPlay }

/-- `SubStageEnd`. -/
def subStageEnd (s : PlayStage) (allFinish subWin : Bool) (subStageId : ℤ) : PlayStage :=
  let s := { s with subWin, subStageId, allFinish, panel := if subWin then .win else .lose }
  if allFinish && subWin then s.sendEndPlay else s

/-- `CardMgr::OnTouch`. A negative `sub_stage_` is compared as a large number. -/
def onTouch (s : PlayStage) (tag : ℕ) : PlayStage :=
  let subStage := s.table.mgr.subStage
  let allFinish := decide (subStage < 0 ∨ 4 ≤ subStage)
  { s with touchable := false, items := false }.subStageEnd allFinish (tag == s.table.mgr.bingoIndex) (subStage - 1)

/-! ## The touches -/

/-- `onBtnStartPlay`. -/
def onBtnStartPlay (config : StageInfo) (o : Outside) (s : PlayStage) (e : Touch) : Option PlayStage :=
  if e ≠ .ended then some s
  else if o.gotostart then some s.leave
  else { s with startPlay := false }.startSubStage config o

/-- `TakeOff`. -/
def takeOff (s : PlayStage) : PlayStage :=
  match s.button with
  | some c => { s with listening := if c ∈ s.listening then s.listening else s.listening ++ [c] }
  | none => s.crash

/-- `onPanelSecond`. -/
def onPanelSecond (s : PlayStage) (e : Touch) : PlayStage :=
  if e = .began then s
  else
    let s := { s with panel := .normal }
    if s.subWin then s.takeOff else s.leave

/-- `onBtnMoveClothes`. -/
def onBtnMoveClothes (s : PlayStage) (there : ℤ × ℤ) : PlayStage :=
  match s.button with
  | some c => { s with pos := Function.update s.pos c there }
  | none => s.crash

/-- `onBtnClothes`. -/
def onBtnClothes (s : PlayStage) (e : Touch) : PlayStage :=
  match s.button with
  | none => s.crash
  | some c =>
    match e with
    | .began => { s with btnStartPos := s.pos c }
    | .ended =>
      if fuzzyEquals s.btnStartPos (s.pos c) 100 then { s with pos := Function.update s.pos c s.btnStartPos }
      else if s.allFinish then
        { s with off := s.off ++ [c], stageids := s.stageids ++ [s.play.scene.stageid + 1], pop := true }
      else { s with off := s.off ++ [c], startPlay := true }
    | .moved | .canceled => s

/-- `onPopBack`. -/
def onPopBack (s : PlayStage) (e : Touch) : PlayStage := if e = .ended ∧ s.play.scene.beBack = true then s.leave else s

/-- `onBtnBack`. -/
def onBtnBack (s : PlayStage) (e : Touch) : PlayStage := if e = .began then s else s.leave

/-- A touch may begin on a widget that is shown, enabled and touchable. -/
def Accepts (s : PlayStage) : Widget → Prop
  | .startPlay => s.startPlay = true
  | .panel => s.panel = .win ∨ s.panel = .lose
  | .clothes c => c ∉ s.off
  | .item _ => s.items = true
  | .pop => s.pop = true
  | .back => True

instance (s : PlayStage) : ∀ w, Decidable (s.Accepts w)
  | .startPlay | .item _ | .pop => inferInstanceAs (Decidable (_ = _))
  | .panel => inferInstanceAs (Decidable (_ ∨ _))
  | .clothes _ => inferInstanceAs (Decidable (_ ∉ _))
  | .back => inferInstanceAs (Decidable True)

/-- The listener of a widget. -/
def handle (config : StageInfo) (o : Outside) (s : PlayStage) (e : Touch) : Widget → Option PlayStage
  | .startPlay => s.onBtnStartPlay config o e
  | .panel => some (s.onPanelSecond e)
  | .clothes c => some (if c ∈ s.listening then s.onBtnClothes e else s)
  | .item x => (s.play.step (.use x e)).map fun play => { s with play }
  | .pop => some (s.onPopBack e)
  | .back => some (s.onBtnBack e)

/-- A touch goes on as it began: one of a widget at a time. -/
def Proceeds (s : PlayStage) (w : Widget) (e : Touch) : Prop :=
  if e = .began then s.Accepts w ∧ w ∉ s.held else w ∈ s.held

instance (s : PlayStage) (w : Widget) (e : Touch) : Decidable (s.Proceeds w e) := by
  unfold Proceeds
  infer_instance

/-- The widgets touched after an event. -/
def hold (s : PlayStage) (w : Widget) : Touch → PlayStage
  | .began => { s with held := w :: s.held }
  | .moved => s
  | .ended | .canceled => { s with held := s.held.filter (· ≠ w) }

/-! ## Steps -/

/-- The effect that a tick executes. -/
def effect? (s : PlayStage) : Option Item :=
  (s.play.step .tick).bind fun play => (play.effects[s.play.effects.length]?).map Prod.fst

/-- `update`, with the effect that `CARecvDone` executes. -/
def update (config : StageInfo) (o : Outside) (s : PlayStage) : Option PlayStage :=
  (s.play.step .tick).bind fun play =>
    match s.effect? with
    | none => some { s with play }
    | some .finger => some ({ s with play }.showWrongCard o.time)
    | some .replay => { s with play, items := false }.reStartSubStage.startSubStage config o

def step (config : StageInfo) (s : PlayStage) (a : PlayStageStep) : Option PlayStage :=
  if s.table.fault = true ∨ s.gone = true then none
  else
    match a with
    | .touch w e o => if s.Proceeds w e then (s.hold w e).handle config o e w else none
    | .drag c there =>
      if .clothes c ∈ s.held then some (if c ∈ s.listening then s.onBtnMoveClothes there else s) else none
    | .card tag => if s.touchable = true ∧ tag < s.table.mgr.children.length then some (s.onTouch tag) else none
    | .beginEnd => s.beginActionEnd config
    | .moveEnd i => s.moveEnd config i
    | .flicker card visible =>
      if card ∈ s.blinks then some { s with table := { s.table with mgr := s.table.mgr.setVisible card visible } } else none
    | .blinkEnd card => if card ∈ s.blinks then some (s.blinkEnd card) else none
    | .tick o => s.update config o
    | .lapse => (s.play.step .lapse).map fun play => { s with play }
    | .reply i errCode => (s.play.step (.reply i errCode)).map fun play => { s with play }

end PlayStage

/-! ## What a stage is for -/

/-- The player's progress: before round `k`, its cards moving, its cards lying
still, the round won or lost, and its piece of clothing loose. -/
inductive StagePhase where
  | ready (k : ℕ)
  | shuffling (k : ℕ)
  | choosing (k : ℕ)
  | won (k : ℕ)
  | lost (k : ℕ)
  | undressing (k : ℕ)
  | cleared
deriving DecidableEq, Repr

namespace StagePhase

/-- How a stage may go on. The last three are what a replay does. -/
inductive Next : StagePhase → StagePhase → Prop where
  | start (k : ℕ) : Next (ready k) (shuffling k)
  | settle (k : ℕ) : Next (shuffling k) (choosing k)
  | win (k : ℕ) : Next (choosing k) (won k)
  | lose (k : ℕ) : Next (choosing k) (lost k)
  | loosen (k : ℕ) : Next (won k) (undressing k)
  | undress {k : ℕ} (more : k < 3) : Next (undressing k) (ready (k + 1))
  | finish : Next (undressing 3) cleared
  | again (k : ℕ) : Next (choosing k) (shuffling k)
  | retry (k : ℕ) : Next (lost k) (shuffling k)
  | redo {k : ℕ} (more : k < 3) : Next (won k) (shuffling k)

/-- The rounds are those of `btn_name`. -/
def Valid : StagePhase → Prop
  | ready k | shuffling k | choosing k | won k | lost k | undressing k => k < 4
  | cleared => True

/-- `sub_stage_`. -/
def subStage : StagePhase → ℕ
  | ready k | shuffling k => k
  | choosing k | won k | lost k | undressing k => k + 1
  | cleared => 4

/-- How many pieces of clothing are off. -/
def undressed : StagePhase → ℕ
  | ready k | shuffling k | choosing k | won k | lost k | undressing k => k
  | cleared => 4

/-- How many `TakeOff` has been called for. -/
def loosened : StagePhase → ℕ
  | undressing k => k + 1
  | p => p.undressed

/-- How often `SendEndPlay` has been called. -/
def endPlays : StagePhase → ℕ
  | won k | undressing k => if k = 3 then 1 else 0
  | cleared => 1
  | ready _ | shuffling _ | choosing _ | lost _ => 0

/-- The result that `SubStageEnd` was told last, where that round is the current one. -/
def result : StagePhase → Option (ℕ × Bool)
  | won k | undressing k => some (k, true)
  | lost k => some (k, false)
  | cleared => some (3, true)
  | ready _ | shuffling _ | choosing _ => none

def banner : StagePhase → Option ResultPanel
  | won _ => some .win
  | lost _ => some .lose
  | _ => none

def isReady : StagePhase → Bool
  | ready _ => true
  | _ => false

def isShuffling : StagePhase → Bool
  | shuffling _ => true
  | _ => false

def isChoosing : StagePhase → Bool
  | choosing _ => true
  | _ => false

end StagePhase

/-- The panel where it shows a result. -/
def ResultPanel.banner : ResultPanel → Option ResultPanel
  | win => some .win
  | lose => some .lose
  | normal | start => none

def Play.endPlays (s : Play) : ℕ := s.sent.countP (·.request = .endPlay)

namespace PlayStage

/-- **The scene shows a phase.** What a touch of the panel or of a button may
still do is fixed by the fields about `held`. -/
structure Shows (s : PlayStage) (p : StagePhase) : Prop where
  valid : p.Valid
  subStage : s.table.mgr.subStage = p.subStage
  inFlight : s.table.InFlight ↔ p.isShuffling = true
  touchable : s.touchable = p.isChoosing
  startPlay : s.startPlay = p.isReady
  items : s.items = true → p.isChoosing = true
  panel : s.gone = false → s.panel.banner = p.banner
  listening : s.listening = btnName.take p.loosened
  off : s.off = btnName.take p.undressed
  endPlays : s.play.endPlays = p.endPlays
  stageids : s.stageids = if p = .cleared then [s.play.scene.stageid + 1] else []
  pop : s.pop = decide (p = .cleared)
  result : ∀ k w, p.result = some (k, w) → s.subStageId = k ∧ s.subWin = w ∧ s.allFinish = decide (k = 3)
  tapped : .panel ∈ s.held → p.result = none → 0 < p.undressed ∧ s.subStageId = p.undressed - 1 ∧ s.subWin = true
  pressed : .startPlay ∈ s.held → s.startPlay = true
  released : ∀ c ∈ s.off, .clothes c ∉ s.held

/-- **The contract**: the cards are shuffled as they should be, and the scene
shows a phase that a stage can come to. -/
structure Flows (config : StageInfo) (s : PlayStage) : Prop where
  shuffled : s.table.Shuffled config
  phase : ∃ p, Relation.ReflTransGen StagePhase.Next (.ready 0) p ∧ s.Shows p

/-- A replay may have its effect while the cards wait for a touch, or while a
result is shown that is not the last win, and the panel is not touched. -/
def Replayable (s : PlayStage) : Prop :=
  s.touchable = true ∨ (s.panel.banner ≠ none ∧ .panel ∉ s.held ∧ ¬ (s.allFinish = true ∧ s.subWin = true))

instance (s : PlayStage) : Decidable s.Replayable := inferInstanceAs (Decidable (_ ∨ _))

/-- **When a step is harmless**: a tick that executes a replay's effect comes at
a time for it, and one that executes a finger's finds a wrong card to show. -/
def Careful (s : PlayStage) : PlayStageStep → Prop
  | .tick _ =>
    (s.effect? = some .replay → s.Replayable) ∧
      (s.effect? = some .finger →
        CardMgr.Candidate s.table.mgr.isVisible s.table.mgr.bingoIndex s.table.mgr.allCardIndex.length)
  | _ => True

instance (s : PlayStage) : ∀ a, Decidable (s.Careful a)
  | .tick _ => inferInstanceAs (Decidable (_ ∧ _))
  | .touch .. | .drag .. | .card _ | .beginEnd | .moveEnd _ | .flicker .. | .blinkEnd _ | .lapse | .reply .. =>
    inferInstanceAs (Decidable True)

end PlayStage

end Crazyass.Client
