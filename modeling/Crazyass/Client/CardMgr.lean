import Mathlib.Data.List.Perm.Basic
import Mathlib.Tactic

/-!
# The cards of the play scene

`CardMgr` of `card_manager.cpp`: the rows that `MakeLinesData` draws, the moves
that `RunActionByPlayCount` starts from one row to the next, and the search of
`ShowWrongCard`. Positions are integers. A sprite's tag is its place in
`children`, and the result of `random_shuffle` is an input.
-/

namespace Crazyass.Client

/-! ## Numbers of plays -/

/-- The `float` nearest to a natural number, ties to even. -/
def toFloat (k : ℕ) : ℕ :=
  let ulp := 2 ^ (k.log2 + 1 - 24)
  let q := k / ulp
  let r := k % ulp
  if 2 * r < ulp then q * ulp
  else if ulp < 2 * r then (q + 1) * ulp
  else (q + q % 2) * ulp

/-- `int(p - 1)` for a `float` that is a natural number. -/
def floatPred (p : ℕ) : ℤ := if p = 0 then -1 else toFloat (p - 1)

/-- The unit in the last place of a `float`. -/
theorem toFloat_dvd (k : ℕ) : 2 ^ (k.log2 + 1 - 24) ∣ toFloat k := by
  unfold toFloat
  dsimp only
  split
  · exact dvd_mul_left _ _
  · split <;> exact dvd_mul_left _ _

theorem toFloat_le (k : ℕ) : toFloat k ≤ (k / 2 ^ (k.log2 + 1 - 24) + 1) * 2 ^ (k.log2 + 1 - 24) := by
  unfold toFloat
  dsimp only
  split
  · exact Nat.mul_le_mul_right _ (Nat.le_succ _)
  · split
    · exact le_rfl
    · apply Nat.mul_le_mul_right
      omega

theorem toFloat_le_pow (k : ℕ) : toFloat k ≤ 2 ^ (k.log2 + 1) := by
  have unit : (2 : ℕ) ^ (k.log2 + 1) = 2 ^ (k.log2 + 1 - (k.log2 + 1 - 24)) * 2 ^ (k.log2 + 1 - 24) := by
    rw [← pow_add]
    congr 1
    omega
  refine (toFloat_le k).trans ?_
  rw [unit]
  apply Nat.mul_le_mul_right
  rw [Nat.succ_le_iff, Nat.div_lt_iff_lt_mul (by positivity), ← unit]
  exact Nat.lt_log2_self

/-- Subtracting 1 from a `float` may leave it as it is, and does not raise it. -/
theorem floatPred_le (k : ℕ) : floatPred (toFloat k) ≤ toFloat k := by
  unfold floatPred
  split
  · omega
  · next positive =>
    generalize float : toFloat k = p at *
    have less : (p - 1).log2 ≤ k.log2 := by
      have bound := toFloat_le_pow k
      by_cases zero : p - 1 = 0
      · rw [zero]
        exact Nat.zero_le _
      · have lt : (p - 1).log2 < k.log2 + 1 := (Nat.log2_lt zero).2 (by omega)
        omega
    have bound := toFloat_le (p - 1)
    have unit : 0 < 2 ^ ((p - 1).log2 + 1 - 24) := by positivity
    -- the unit of the smaller number divides the larger one
    obtain ⟨a, multiple⟩ : 2 ^ ((p - 1).log2 + 1 - 24) ∣ p := by
      refine dvd_trans ?_ (float ▸ toFloat_dvd k)
      exact pow_dvd_pow 2 (by omega)
    generalize 2 ^ ((p - 1).log2 + 1 - 24) = u at *
    have below : (p - 1) / u < a := by
      rw [Nat.div_lt_iff_lt_mul unit, mul_comm, ← multiple]
      omega
    have up : ((p - 1) / u + 1) * u ≤ p := by
      calc ((p - 1) / u + 1) * u ≤ a * u := Nat.mul_le_mul_right u below
        _ = p := by rw [multiple, mul_comm]
    omega

/-- `struct StageInfo`, with the numbers of plays as the configuration has them. -/
structure StageInfo where
  cardCount : ℕ
  playCount : Vector ℕ 4
  startPosX : ℤ
  startPosY : ℤ
  interval : ℤ
deriving DecidableEq, Repr

/-- `play_count_[sub_stage]`. -/
def StageInfo.plays (config : StageInfo) (subStage : ℤ) : Option ℕ :=
  if 0 ≤ subStage then (config.playCount[subStage.toNat]?).map toFloat else none

/-! ## `CardMgr` -/

structure Sprite where
  position : ℤ × ℤ
  visible : Bool
deriving DecidableEq, Repr

/-- `MoveWithBezier` with the height of its curve, or `MoveWithLine`. -/
inductive Path where
  | bezier (high : ℤ)
  | line
deriving DecidableEq, Repr

/-- The action that moves a card. -/
structure Flight where
  card : ℕ
  endPos : ℤ × ℤ
  path : Path
deriving DecidableEq, Repr

/-- `flights` are the actions that have been started and have not called
`MoveEnd`. -/
structure CardMgr where
  children : List Sprite
  bingoIndex : ℕ
  subStage : ℤ
  playCount : ℕ
  movedCardNums : ℤ
  wrongIdx : ℕ
  showWrongTimes : ℤ
  allCardIndex : List ℕ
  cardLines : List (List ℕ)
  flights : List Flight
deriving DecidableEq, Repr

namespace CardMgr

/-- `Init`. -/
def init (config : StageInfo) : CardMgr := ⟨[], 0, 0, 0, 0, 0, 0, List.range config.cardCount, [], []⟩

/-- The position that `SetCardSprite` gives to a tag. -/
def startPos (config : StageInfo) (tag : ℕ) : ℤ × ℤ := (config.startPosX + config.interval * tag, config.startPosY)

/-- `SetCardSprite`, for a result of `rand`. -/
def setCardSprite (config : StageInfo) (rand : ℕ) (m : CardMgr) : CardMgr :=
  { m with
    bingoIndex := rand % config.cardCount
    children := (List.range config.cardCount).map fun tag => ⟨startPos config tag, true⟩ }

/-- The loop that shuffles until the cards do not lie as in `last`, for the
results of `random_shuffle`; `none` if they run out or are none. -/
def shuffleCards (last : List ℕ) (all : List ℕ) : List (List ℕ) → Option (List ℕ × List (List ℕ))
  | [] => none
  | all' :: shuffles =>
    if all'.isPerm all then
      if last = all' then shuffleCards last all' shuffles else some (all', shuffles)
    else none

/-- The rounds of the loop of `MakeLinesData`. -/
def addLines : ℕ → List ℕ → List (List ℕ) → List (List ℕ) → Option (List ℕ × List (List ℕ))
  | 0, all, lines, _ => some (all, lines)
  | times + 1, all, lines, shuffles =>
    match shuffleCards (lines.getLastD []) all shuffles with
    | some (all, shuffles) => addLines times all (lines ++ [all]) shuffles
    | none => none

/-- `MakeLinesData`. -/
def makeLinesData (times : ℕ) (shuffles : List (List ℕ)) (m : CardMgr) : Option CardMgr :=
  (addLines times m.allCardIndex [m.allCardIndex] shuffles).map fun (all, lines) =>
    { m with allCardIndex := all, cardLines := lines }

/-- `MovePosBy`: the action it starts, if any; `none` where a child is missing. -/
def movePosBy (m : CardMgr) (source target : ℕ) (high interval : ℤ) : Option (Option Flight) :=
  match m.children[source]?, m.children[target]? with
  | some src, some dst =>
    let dalt := (src.position.1 - dst.position.1).tdiv interval
    if dalt < 0 then some (some ⟨source, dst.position, .bezier high⟩)
    else if dalt > 0 then
      if dalt = 1 then some (some ⟨source, dst.position, .line⟩)
      else some (some ⟨source, dst.position, .bezier (-high)⟩)
    else some none
  | _, _ => none

/-- `card_lines_[line][sprite_num]`. -/
def cardAt (m : CardMgr) (line spriteNum : ℕ) : Option ℕ := (m.cardLines[line]?).bind (·[spriteNum]?)

/-- The actions that the loop of `RunActionByPlayCount` starts; `none` where it
reads out of range. -/
def startFlights (config : StageInfo) (m : CardMgr) : List ℕ → Option (List Flight)
  | [] => some []
  | spriteNum :: rest => do
    let source ← m.cardAt m.playCount spriteNum
    let target ← m.cardAt (m.playCount + 1) spriteNum
    let flight ← m.movePosBy source target 186 config.interval
    let flights ← m.startFlights config rest
    return flight.toList ++ flights

/-- `FinishSubStage`. -/
def finishSubStage (m : CardMgr) : CardMgr := { m with subStage := m.subStage + 1, playCount := 0 }

/-- `ReStartSubStage`. -/
def reStartSubStage (m : CardMgr) : CardMgr := { m with subStage := m.subStage - 1, playCount := 0 }

/-- How `RunActionByPlayCount` ends: the round is over, the next step is
started, or it reads out of range. -/
inductive Ran where
  | finished (m : CardMgr)
  | moving (m : CardMgr)
  | fault

/-- `RunActionByPlayCount`. -/
def runActionByPlayCount (config : StageInfo) (m : CardMgr) : Ran :=
  match config.plays m.subStage with
  | none => .fault
  | some plays =>
    if m.playCount ≥ floatPred plays then .finished m.finishSubStage
    else
      match m.startFlights config (List.range m.allCardIndex.length) with
      | none => .fault
      | some flights =>
        .moving
          { m with
            flights := m.flights ++ flights
            movedCardNums := m.movedCardNums + flights.length
            playCount := m.playCount + 1 }

/-- `StartSubStage` up to the action that `RunBeginAction` starts. -/
def startSubStage (config : StageInfo) (rand : ℕ) (shuffles : List (List ℕ)) (m : CardMgr) : Option CardMgr :=
  (config.plays m.subStage).bind fun plays => (m.setCardSprite config rand).makeLinesData plays shuffles

/-- The card of a flight arrives, and `MoveEnd` is called: the manager when
`moved_card_nums_` is counted down, and whether it is 0. -/
def land (m : CardMgr) (i : ℕ) (flight : Flight) : CardMgr :=
  { m with
    children := m.children.modify flight.card fun sprite => { sprite with position := flight.endPos }
    flights := m.flights.eraseIdx i
    movedCardNums := m.movedCardNums - 1 }

/-! ## `ShowWrongCard` -/

/-- `isVisible` of the child with this tag. -/
def isVisible (m : CardMgr) (tag : ℕ) : Bool := (m.children[tag]?).any Sprite.visible

/-- The loop of `ShowWrongCard` for at most `fuel` probes: the card it stops at. -/
def probe (visible : ℕ → Bool) (bingo size : ℕ) : ℕ → ℕ → ℕ → Option ℕ
  | 0, _, _ => none
  | fuel + 1, wrongIdx, i =>
    let i := i + 1
    if !visible wrongIdx || wrongIdx == bingo then probe visible bingo size fuel ((bingo + i) % size) i
    else some wrongIdx

/-- `ShowWrongCard` at a time of the clock; `none` where its loop does not end.
The card it sets `wrong_idx_` to starts to blink. -/
def showWrongCard (time : ℕ) (m : CardMgr) : Option CardMgr :=
  let size := m.allCardIndex.length
  (probe m.isVisible m.bingoIndex size (size + 1) ((time + 1) % size) 2).map fun wrongIdx =>
    { m with wrongIdx, showWrongTimes := m.showWrongTimes + 1 }

def setVisible (m : CardMgr) (tag : ℕ) (visible : Bool) : CardMgr :=
  { m with children := m.children.modify tag fun sprite => { sprite with visible } }

/-- `BlinkEnd`: the manager, and whether the items are taken off the screen. -/
def blinkEnd (m : CardMgr) : CardMgr × Bool :=
  (m.setVisible m.wrongIdx false, decide (m.showWrongTimes + 1 ≥ m.allCardIndex.length))

end CardMgr
end Crazyass.Client
