import Crazyass.Client.CardMgr
import Crazyass.Sys.Arrangement
import Crazyass.Sys.Run

/-!
# Rounds of shuffling

`StartSubStage` lays the cards out and draws the rows; the end of its begin
action, and the end of the last move of each step, call `RunActionByPlayCount`.
The cards of a step arrive in any order. A card under way is not looked at, so
it is moved when it arrives.
-/

namespace Crazyass.Client
open Sys

/-- What happens in a run: `moved` is the start of a step, with
`moved_card_nums_` after it, and `landed` is `moved_card_nums_` getting 0. -/
inductive CardEvent where
  | started
  | moved (cards : ℤ)
  | landed
  | finished
deriving DecidableEq, Repr

def CardEvent.isMoved : CardEvent → Bool
  | .moved _ => true
  | _ => false

/-- `start` and `restart` are `StartSubStage` and `ReStartSubStage`, the others
are callbacks of actions. -/
inductive CardStep where
  | start (rand : ℕ) (shuffles : List (List ℕ))
  | restart
  | beginEnd
  | moveEnd (i : ℕ)
deriving DecidableEq, Repr

def CardStep.isCallback : CardStep → Bool
  | .beginEnd | .moveEnd _ => true
  | .start .. | .restart => false

/-- `begun` tells whether the begin action is running. A read out of range
halts the model. -/
structure Table where
  mgr : CardMgr
  begun : Bool
  fault : Bool
  log : List CardEvent
deriving DecidableEq, Repr

namespace CardMgr

/-- The start positions. -/
def slots (config : StageInfo) : List (ℤ × ℤ) := (List.range config.cardCount).map (startPos config)

/-- The steps of the round that have not been started. -/
def stepsLeft (config : StageInfo) (m : CardMgr) : ℕ := ((config.plays m.subStage).elim 0 floatPred - m.playCount).toNat

end CardMgr

namespace Table

def init (config : StageInfo) : Table := ⟨.init config, false, false, []⟩

/-- A move is in flight: the begin action, which moves the winning card up and
down, or one of a step. -/
def InFlight (s : Table) : Prop := s.begun = true ∨ s.mgr.flights ≠ []

instance (s : Table) : Decidable s.InFlight := inferInstanceAs (Decidable (_ ∨ _))

def run (config : StageInfo) (s : Table) : Table :=
  match s.mgr.runActionByPlayCount config with
  | .finished mgr => { s with mgr, log := s.log ++ [.finished] }
  | .moving mgr => { s with mgr, log := s.log ++ [.moved mgr.movedCardNums] }
  | .fault => { s with fault := true }

/-- `MoveEnd`. -/
def moveEnd (config : StageInfo) (s : Table) (i : ℕ) (flight : Flight) : Table :=
  let mgr := s.mgr.land i flight
  if mgr.movedCardNums = 0 then
    let s : Table := { s with mgr := { mgr with showWrongTimes := 0 }, log := s.log ++ [.landed] }
    s.run config
  else { s with mgr }

def step (config : StageInfo) (s : Table) (a : CardStep) : Option Table :=
  if s.fault then none
  else
    match a with
    | .start rand shuffles =>
      if s.InFlight ∨ ¬ (0 ≤ s.mgr.subStage ∧ s.mgr.subStage < 4) then none
      else
        (s.mgr.startSubStage config rand shuffles).map fun mgr =>
          { s with mgr, begun := true, log := s.log ++ [.started] }
    | .restart => if s.InFlight then none else some { s with mgr := s.mgr.reStartSubStage }
    -- BeginActionEnd
    | .beginEnd => if s.begun then some (run config { s with begun := false }) else none
    | .moveEnd i => (s.mgr.flights[i]?).map fun flight => s.moveEnd config i flight

/-! ## The contract -/

/-- A bound for the callbacks up to the end of the round. -/
def left (config : StageInfo) (s : Table) : ℕ :=
  if s.InFlight then s.begun.toNat + s.mgr.flights.length + config.cardCount * s.mgr.stepsLeft config else 0

/-- **The contract**: the rows are orders of the cards and change each time, the
cards sit on the start positions between the steps, a step moves two cards at
least and `moved_card_nums_` gets 0 once for it, nothing is read out of range,
and a round that is started ends, and is finished once. -/
structure Shuffled (config : StageInfo) (s : Table) : Prop where
  rows : ∀ row ∈ s.mgr.cardLines, row.Perm (List.range config.cardCount)
  distinct : s.mgr.cardLines.IsChain (· ≠ ·)
  seated : .started ∈ s.log → s.mgr.flights = [] → (s.mgr.children.map Sprite.position).Perm (CardMgr.slots config)
  moves : ∀ cards, .moved cards ∈ s.log → 2 ≤ cards
  moved : s.mgr.movedCardNums = s.mgr.flights.length
  landed : s.log.count .landed + (if s.mgr.flights = [] then 0 else 1) = s.log.countP CardEvent.isMoved
  inRange : s.fault = false
  finished : s.log.count .finished + (if s.InFlight then 1 else 0) = s.log.count .started
  goes : s.InFlight → ∃ a, a.isCallback ∧ (step config s a).isSome
  ends : ∀ as t, (∀ a ∈ as, a.isCallback) → exec (step config) s as = some t → as.length ≤ s.left config

end Table

/-! ## The rows -/

namespace CardMgr
section
variable {last all all' : List ℕ} {lines lines' shuffles rest : List (List ℕ)} {times n : ℕ}

/-- A shuffle is another order of the same cards. -/
theorem shuffleCards_some (h : shuffleCards last all shuffles = some (all', rest)) : all'.Perm all ∧ last ≠ all' := by
  induction shuffles generalizing all with
  | nil => cases h
  | cons next shuffles ih =>
    unfold shuffleCards at h
    split at h
    · next perm =>
      rw [List.isPerm_iff] at perm
      split at h
      · obtain ⟨perm', differ⟩ := ih h
        exact ⟨perm'.trans perm, differ⟩
      · next differ =>
        cases h
        exact ⟨perm, differ⟩
    · cases h

/-- What the rows of `MakeLinesData` are at any time: orders of the cards, each
other than the one before, the last one that of `all_card_index_`. -/
structure Rows (n : ℕ) (all : List ℕ) (lines : List (List ℕ)) : Prop where
  cards : all.Perm (List.range n)
  rows : ∀ row ∈ lines, row.Perm (List.range n)
  distinct : lines.IsChain (· ≠ ·)
  last : lines.getLast? = some all

/-- A row more keeps the rows. -/
theorem Rows.next (rows : Rows n all lines) (perm : all'.Perm all) (differ : all ≠ all') : Rows n all' (lines ++ [all']) where
  cards := perm.trans rows.cards
  rows row mem := by
    rcases List.mem_append.1 mem with old | new
    · exact rows.rows row old
    · rw [List.mem_singleton.1 new]
      exact perm.trans rows.cards
  distinct := by
    refine List.isChain_append.2 ⟨rows.distinct, List.isChain_singleton all', fun x hx y hy => ?_⟩
    rw [rows.last] at hx
    cases hx
    cases hy
    exact differ
  last := List.getLast?_concat

/-- As many rows as there are steps keep the rows. -/
theorem addLines_some (rows : Rows n all lines) (h : addLines times all lines shuffles = some (all', lines')) :
    Rows n all' lines' ∧ lines'.length = lines.length + times := by
  induction times generalizing all lines shuffles with
  | zero =>
    cases h
    exact ⟨rows, rfl⟩
  | succ times ih =>
    unfold addLines at h
    split at h
    · next next_all rest drawn =>
      obtain ⟨perm, differ⟩ := shuffleCards_some drawn
      rw [List.getLastD_eq_getLast?, rows.last] at differ
      obtain ⟨rows', length⟩ := ih (rows.next perm differ) h
      refine ⟨rows', ?_⟩
      rw [length, List.length_append, List.length_singleton]
      omega
    · cases h

end

/-! ## The seats -/

/-- The position of a card. -/
def seat (m : CardMgr) (card : ℕ) : ℤ × ℤ := ((m.children[card]?).map Sprite.position).getD (0, 0)

/-- Every card is on its way to its seat or sits there. -/
structure Seated (config : StageInfo) (m : CardMgr) (final : ℕ → ℤ × ℤ) : Prop where
  size : m.children.length = config.cardCount
  taken : ((List.range config.cardCount).map final).Perm (slots config)
  apart : (m.flights.map Flight.card).Nodup
  bound : ∀ f ∈ m.flights, f.card < config.cardCount ∧ f.endPos = final f.card
  still : ∀ card < config.cardCount, (∀ f ∈ m.flights, f.card ≠ card) → m.seat card = final card

section
variable {config : StageInfo} {m m' : CardMgr} {final : ℕ → ℤ × ℤ} {a b i : ℕ} {flight : Flight}

/-- The seat of a card is the position of its sprite. -/
theorem seat_eq {sprite : Sprite} (child : m.children[a]? = some sprite) : m.seat a = sprite.position := by
  unfold seat
  rw [child]
  rfl

/-- The seats depend on the sprites and the moves alone. -/
theorem Seated.congr (seated : Seated config m final) (children : m'.children = m.children) (flights : m'.flights = m.flights) :
    Seated config m' final where
  size := by rw [children]; exact seated.size
  taken := seated.taken
  apart := by rw [flights]; exact seated.apart
  bound := by rw [flights]; exact seated.bound
  still card small unmoved := by
    unfold seat
    rw [children]
    exact seated.still card small (flights ▸ unmoved)

theorem map_position (size : m.children.length = config.cardCount) :
    m.children.map Sprite.position = (List.range config.cardCount).map m.seat := by
  apply List.ext_getElem (by simp [size])
  intro i hi hi'
  rw [List.length_map] at hi
  rw [List.getElem_map, List.getElem_map, List.getElem_range, seat_eq (List.getElem?_eq_getElem hi)]

/-- With nothing under way the cards sit on the start positions. -/
theorem Seated.positions (seated : Seated config m final) (rest : m.flights = []) :
    (m.children.map Sprite.position).Perm (slots config) := by
  rw [map_position seated.size]
  have same : (List.range config.cardCount).map m.seat = (List.range config.cardCount).map final := by
    apply List.map_congr_left
    intro card mem
    exact seated.still card (List.mem_range.1 mem) (by simp [rest])
  rw [same]
  exact seated.taken

/-- With an interval the start positions differ. -/
theorem startPos_inj (interval : 0 < config.interval) (same : (startPos config a).1 = (startPos config b).1) : a = b := by
  have scaled : config.interval * (a : ℤ) = config.interval * b := by
    unfold startPos at same
    dsimp only at same
    omega
  exact_mod_cast mul_left_cancel₀ interval.ne' scaled

/-- No two of the start positions are the same. -/
theorem slots_nodup (interval : 0 < config.interval) : (slots config).Nodup :=
  List.Nodup.map (fun _ _ same => startPos_inj interval (congrArg Prod.fst same)) List.nodup_range

/-- `dalt` tells different seats apart. -/
theorem dalt_eq_zero (interval : 0 < config.interval) {p q : ℤ × ℤ} (hp : p ∈ slots config) (hq : q ∈ slots config) :
    (p.1 - q.1).tdiv config.interval = 0 ↔ p = q := by
  obtain ⟨i, -, rfl⟩ := List.mem_map.1 hp
  obtain ⟨j, -, rfl⟩ := List.mem_map.1 hq
  have scaled : (startPos config i).1 - (startPos config j).1 = config.interval * ((i : ℤ) - j) := by
    unfold startPos
    dsimp only
    ring
  rw [scaled, Int.mul_tdiv_cancel_left _ interval.ne', sub_eq_zero]
  constructor
  · intro same
    rw [Int.ofNat_inj.1 same]
  · intro same
    rw [startPos_inj interval (congrArg Prod.fst same)]

/-- Between the steps every card sits on a start position. -/
theorem seat_mem (sitting : (m.children.map Sprite.position).Perm (slots config))
    (size : m.children.length = config.cardCount) (inside : a < config.cardCount) : m.seat a ∈ slots config := by
  rw [map_position size] at sitting
  exact sitting.mem_iff.1 (List.mem_map_of_mem (List.mem_range.2 inside))

/-- Between the steps no two cards sit on the same position. -/
theorem seat_inj (interval : 0 < config.interval) (sitting : (m.children.map Sprite.position).Perm (slots config))
    (size : m.children.length = config.cardCount) (ha : a < config.cardCount) (hb : b < config.cardCount)
    (same : m.seat a = m.seat b) : a = b := by
  rw [map_position size] at sitting
  have nodup := sitting.nodup_iff.2 (slots_nodup interval)
  exact List.inj_on_of_nodup_map nodup (List.mem_range.2 ha) (List.mem_range.2 hb) same

/-- **`MovePosBy`** starts a move to the seat of the other card, if there is another one. -/
theorem movePosBy_seated (interval : 0 < config.interval) (sitting : (m.children.map Sprite.position).Perm (slots config))
    (size : m.children.length = config.cardCount) (ha : a < config.cardCount) (hb : b < config.cardCount) (high : ℤ) :
    ∃ flight, m.movePosBy a b high config.interval = some flight ∧
      flight.map (fun f => (f.card, f.endPos)) = if a ≠ b then some (a, m.seat b) else none := by
  have child_a : m.children[a]? = some m.children[a] := List.getElem?_eq_getElem (by omega)
  have child_b : m.children[b]? = some m.children[b] := List.getElem?_eq_getElem (by omega)
  have zero := dalt_eq_zero interval (seat_mem sitting size ha) (seat_mem sitting size hb)
  rw [seat_eq child_a, seat_eq child_b] at zero
  have seats : m.children[a].position = m.children[b].position ↔ a = b := by
    rw [← seat_eq child_a, ← seat_eq child_b]
    exact ⟨seat_inj interval sitting size ha hb, fun same => by rw [same]⟩
  rw [seats] at zero
  rw [seat_eq child_b]
  unfold movePosBy
  rw [child_a, child_b]
  dsimp only
  split
  · next less =>
    have other : a ≠ b := fun same => by
      rw [zero.2 same] at less
      exact lt_irrefl 0 less
    exact ⟨_, rfl, (if_pos other).symm⟩
  · next not_less =>
    split
    · next more =>
      have other : a ≠ b := fun same => by
        rw [zero.2 same] at more
        exact lt_irrefl 0 more
      rw [if_pos other]
      split <;> exact ⟨_, rfl, rfl⟩
    · next not_more =>
      have same : a = b := zero.1 (le_antisymm (not_lt.1 not_more) (not_lt.1 not_less))
      exact ⟨none, rfl, (if_neg (not_not.2 same)).symm⟩

/-- The data of a move that the rest of the round depends on. -/
def goal (f : Flight) : ℕ × (ℤ × ℤ) := (f.card, f.endPos)

/-- Two rows that `RunActionByPlayCount` reads. -/
structure AtRows (config : StageInfo) (m : CardMgr) (row next : List ℕ) : Prop where
  here : m.cardLines[m.playCount]? = some row
  there : m.cardLines[m.playCount + 1]? = some next
  cards : row.Perm (List.range config.cardCount)
  cards' : next.Perm (List.range config.cardCount)
  differ : row ≠ next

variable {row next : List ℕ}

/-- The two rows of a step have all cards. -/
theorem AtRows.length (rows : AtRows config m row next) : row.length = config.cardCount ∧ next.length = config.cardCount := by
  rw [rows.cards.length_eq, rows.cards'.length_eq, List.length_range]
  exact ⟨rfl, rfl⟩

/-- What a step reads of its rows is in range. -/
theorem AtRows.cardAt (rows : AtRows config m row next) {j : ℕ} (inside : j < config.cardCount) :
    ∃ a b, m.cardAt m.playCount j = some a ∧ m.cardAt (m.playCount + 1) j = some b ∧ a < config.cardCount ∧
      b < config.cardCount ∧ (a, b) = (row.getD j 0, next.getD j 0) := by
  obtain ⟨length, length'⟩ := rows.length
  have here : row[j]? = some row[j] := List.getElem?_eq_getElem (by omega)
  have there : next[j]? = some next[j] := List.getElem?_eq_getElem (by omega)
  refine ⟨row[j], next[j], ?_, ?_, ?_, ?_, ?_⟩
  · rw [CardMgr.cardAt, rows.here]
    exact here
  · rw [CardMgr.cardAt, rows.there]
    exact there
  · exact List.mem_range.1 (rows.cards.mem_iff.1 (List.getElem_mem _))
  · exact List.mem_range.1 (rows.cards'.mem_iff.1 (List.getElem_mem _))
  · rw [List.getD_eq_getElem _ _ (by omega), List.getD_eq_getElem _ _ (by omega)]

/-- The loop of `RunActionByPlayCount` starts a move for each place whose card changes. -/
theorem startFlights_seated (interval : 0 < config.interval) (sitting : (m.children.map Sprite.position).Perm (slots config))
    (size : m.children.length = config.cardCount) (rows : AtRows config m row next) (js : List ℕ)
    (inside : ∀ j ∈ js, j < config.cardCount) : ∃ flights, m.startFlights config js = some flights ∧
      flights.map goal = ((js.map fun j => (row.getD j 0, next.getD j 0)).filter fun p => p.1 ≠ p.2).map
        fun p => (p.1, m.seat p.2) := by
  induction js with
  | nil => exact ⟨[], rfl, rfl⟩
  | cons j js ih =>
    obtain ⟨flights, started, goals⟩ := ih fun j mem => inside j (List.mem_cons_of_mem _ mem)
    obtain ⟨a, b, source, target, ha, hb, pair⟩ := rows.cardAt (inside j List.mem_cons_self)
    obtain ⟨flight, moved, goal_eq⟩ := movePosBy_seated interval sitting size ha hb 186
    refine ⟨flight.toList ++ flights, ?_, ?_⟩
    · unfold startFlights
      rw [source, target, Option.bind_eq_bind, Option.bind_some, Option.bind_eq_bind, Option.bind_some, moved, started]
      rfl
    · have first : flight.toList.map goal = (flight.map goal).toList := by cases flight <;> rfl
      rw [List.map_append, goals, first, List.map_cons, ← pair, List.filter_cons]
      rw [show flight.map goal = flight.map fun f => (f.card, f.endPos) from rfl, goal_eq]
      by_cases same : a = b <;> simp [same]

/-- The pairs of a step are the two rows side by side. -/
theorem AtRows.zip (rows : AtRows config m row next) :
    ((List.range config.cardCount).map fun j => (row.getD j 0, next.getD j 0)) = row.zip next := by
  obtain ⟨length, length'⟩ := rows.length
  apply List.ext_getElem (by simp [length, length'])
  intro j hj hj'
  rw [List.length_map, List.length_range] at hj
  rw [List.getElem_map, List.getElem_range, List.getElem_zip, List.getD_eq_getElem _ _ (by omega),
    List.getD_eq_getElem _ _ (by omega)]

/-- **A step** starts two moves at least, and every card has a seat of its own to go to. -/
theorem startFlights_step (interval : 0 < config.interval) (sitting : (m.children.map Sprite.position).Perm (slots config))
    (size : m.children.length = config.cardCount) (rows : AtRows config m row next) :
    ∃ flights, m.startFlights config (List.range config.cardCount) = some flights ∧ 2 ≤ flights.length ∧
      flights.length ≤ config.cardCount ∧
      ∀ m' : CardMgr, m'.children = m.children → m'.flights = flights → Seated config m' (reseated row next m.seat) := by
  obtain ⟨flights, started, goals⟩ :=
    startFlights_seated interval sitting size rows (List.range config.cardCount) fun j => List.mem_range.1
  rw [rows.zip] at goals
  change flights.map goal = (changed row next).map fun p => (p.1, m.seat p.2) at goals
  obtain ⟨length, length'⟩ := rows.length
  have perm : row.Perm next := rows.cards.trans rows.cards'.symm
  have nodup : row.Nodup := rows.cards.nodup_iff.2 List.nodup_range
  have count : flights.length = (changed row next).length := by simpa using congrArg List.length goals
  have cards : flights.map Flight.card = (changed row next).map Prod.fst := by
    have firsts := congrArg (List.map Prod.fst) goals
    rw [List.map_map, List.map_map] at firsts
    exact firsts
  have sub : (changed row next).Sublist (row.zip next) := List.filter_sublist
  refine ⟨flights, started, ?_, ?_, fun m' children flights' => ⟨?_, ?_, ?_, ?_, ?_⟩⟩
  · rw [count]
    exact two_changed perm rows.differ
  · have le := sub.length_le
    rw [List.length_zip] at le
    omega
  · rw [children, size]
  · refine (rows.cards.symm.map _).trans ((reseated_perm nodup perm).trans ?_)
    rw [map_position size] at sitting
    exact (rows.cards.map m.seat).trans sitting
  · rw [flights', cards]
    have firsts := sub.map Prod.fst
    rw [List.map_fst_zip (by omega)] at firsts
    exact nodup.sublist firsts
  · intro f mem
    rw [flights'] at mem
    have goal_mem : goal f ∈ (changed row next).map fun p => (p.1, m.seat p.2) := goals ▸ List.mem_map_of_mem mem
    obtain ⟨p, changed_p, same⟩ := List.mem_map.1 goal_mem
    obtain ⟨card, endPos⟩ := Prod.mk.inj same
    have zipped := sub.subset changed_p
    rw [← card, ← endPos, reseated_of_mem_zip nodup perm.length_eq zipped]
    exact ⟨List.mem_range.1 (rows.cards.mem_iff.1 (List.of_mem_zip zipped).1), rfl⟩
  · intro card inside unmoved
    have here : card ∈ row := rows.cards.mem_iff.2 (List.mem_range.2 inside)
    obtain ⟨j, hj, rfl⟩ := List.getElem_of_mem here
    have hj' : j < next.length := by omega
    have zipped : (row[j], next[j]) ∈ row.zip next := by
      rw [List.mem_iff_getElem]
      exact ⟨j, by rw [List.length_zip]; omega, List.getElem_zip⟩
    rw [reseated_of_mem_zip nodup perm.length_eq zipped]
    -- its counterpart is the card itself
    have same : row[j] = next[j] := by
      by_contra other
      have goal_mem : (row[j], m.seat next[j]) ∈ flights.map goal := by
        rw [goals]
        exact List.mem_map_of_mem (List.mem_filter.2 ⟨zipped, decide_eq_true other⟩)
      obtain ⟨f, mem, pair⟩ := List.mem_map.1 goal_mem
      exact unmoved f (flights' ▸ mem) (Prod.mk.inj pair).1
    rw [← same]
    unfold seat
    rw [children]

/-- A card that lands sits at the end of its flight, and the others stay. -/
theorem land_seat (m : CardMgr) (i : ℕ) (flight : Flight) {card : ℕ} (inside : flight.card < m.children.length) :
    (m.land i flight).seat card = if flight.card = card then flight.endPos else m.seat card := by
  unfold seat land
  dsimp only
  rw [List.getElem?_modify]
  split
  · next same =>
    rw [← same, List.getElem?_eq_getElem inside]
    rfl
  · cases m.children[card]? <;> rfl

/-- A card that arrives sits on its seat. -/
theorem Seated.land (seated : Seated config m final) (found : m.flights[i]? = some flight) :
    Seated config (m.land i flight) final := by
  have mem : flight ∈ m.flights := List.mem_of_getElem? found
  obtain ⟨inside, endPos⟩ := seated.bound flight mem
  have rest : (m.flights.eraseIdx i).Sublist m.flights := List.eraseIdx_sublist m.flights i
  refine ⟨?_, seated.taken, seated.apart.sublist (rest.map _), fun f hf => seated.bound f (rest.subset hf), ?_⟩
  · change (m.children.modify _ _).length = _
    rw [List.length_modify]
    exact seated.size
  · intro card small landed
    rw [land_seat m i flight (by rw [seated.size]; exact inside)]
    split
    · next same => rw [endPos, same]
    · next other =>
      refine seated.still card small fun f hf => ?_
      obtain ⟨hi, rfl⟩ := List.getElem?_eq_some_iff.1 found
      rcases List.mem_cons.1 ((List.getElem_cons_eraseIdx_perm hi).mem_iff.2 hf) with rfl | later
      · exact other
      · exact landed f later

/-- The cards as `SetCardSprite` lays them out. -/
theorem startPos_seated {rand : ℕ} (empty : m.flights = []) : Seated config (m.setCardSprite config rand) (startPos config) := by
  refine ⟨?_, List.Perm.refl _, ?_, ?_, ?_⟩
  · change (List.map _ (List.range config.cardCount)).length = _
    rw [List.length_map, List.length_range]
  · change (m.flights.map Flight.card).Nodup
    rw [empty]
    exact List.nodup_nil
  · intro f mem
    change f ∈ m.flights at mem
    rw [empty] at mem
    cases mem
  · intro card inside _
    unfold seat setCardSprite
    dsimp only
    rw [List.getElem?_map, List.getElem?_range inside]
    rfl

end

/-! ## Between the steps -/

/-- What holds of the rows at any time. -/
structure Lines (config : StageInfo) (m : CardMgr) : Prop where
  cards : m.allCardIndex.Perm (List.range config.cardCount)
  rows : ∀ row ∈ m.cardLines, row.Perm (List.range config.cardCount)
  distinct : m.cardLines.IsChain (· ≠ ·)

/-- The rows depend on the cards and their lines alone. -/
theorem Lines.congr {config : StageInfo} {m m' : CardMgr} (lines : Lines config m) (cards : m'.allCardIndex = m.allCardIndex)
    (rows : m'.cardLines = m.cardLines) : Lines config m' where
  cards := by rw [cards]; exact lines.cards
  rows := by rw [rows]; exact lines.rows
  distinct := by rw [rows]; exact lines.distinct

/-- The rows of the round, which are enough for its steps. -/
def Drawn (config : StageInfo) (m : CardMgr) : Prop :=
  ∃ plays, config.plays m.subStage = some plays ∧ m.cardLines.length = plays + 1

section
variable {config : StageInfo} {m m' : CardMgr} {rand : ℕ} {shuffles : List (List ℕ)}

/-- The number of steps is not rounded up. -/
theorem floatPred_plays {subStage : ℤ} {plays : ℕ} (h : config.plays subStage = some plays) : floatPred plays ≤ plays := by
  unfold StageInfo.plays at h
  split at h
  · obtain ⟨k, -, rfl⟩ := Option.map_eq_some_iff.1 h
    exact floatPred_le k
  · cases h

/-- **`StartSubStage`** draws the rows of the round and lays the cards out. -/
theorem startSubStage_some (cards : m.allCardIndex.Perm (List.range config.cardCount)) (empty : m.flights = [])
    (h : m.startSubStage config rand shuffles = some m') : Lines config m' ∧ Drawn config m' ∧
      Seated config m' (startPos config) ∧ m'.flights = [] ∧ m'.playCount = m.playCount ∧ m'.movedCardNums = m.movedCardNums := by
  obtain ⟨plays, found, made⟩ := Option.bind_eq_some_iff.1 h
  obtain ⟨⟨all, lines⟩, drawn, rfl⟩ := Option.map_eq_some_iff.1 made
  have first : Rows config.cardCount m.allCardIndex [m.allCardIndex] :=
    ⟨cards, fun row mem => by rw [List.mem_singleton.1 mem]; exact cards, List.isChain_singleton _, rfl⟩
  obtain ⟨rows, length⟩ := addLines_some first drawn
  have sitting : Seated config (m.setCardSprite config rand) (startPos config) := startPos_seated empty
  refine ⟨⟨rows.cards, rows.rows, rows.distinct⟩, ⟨plays, found, ?_⟩, sitting.congr rfl rfl, empty, rfl, rfl⟩
  rw [length, List.length_singleton, Nat.add_comm]

/-- Two neighbours among the rows. -/
theorem atRows (lines : Lines config m) (small : m.playCount + 1 < m.cardLines.length) :
    ∃ row next, AtRows config m row next := by
  have here : m.cardLines[m.playCount]? = some m.cardLines[m.playCount] := List.getElem?_eq_getElem (by omega)
  have there : m.cardLines[m.playCount + 1]? = some m.cardLines[m.playCount + 1] := List.getElem?_eq_getElem small
  refine ⟨_, _, here, there, lines.rows _ (List.getElem_mem _), lines.rows _ (List.getElem_mem _), ?_⟩
  exact List.isChain_iff_getElem.1 lines.distinct m.playCount small

/-- **`RunActionByPlayCount`** finishes the round, or starts its next step. -/
theorem runActionByPlayCount_spec (interval : 0 < config.interval) (lines : Lines config m) (drawn : Drawn config m)
    (size : m.children.length = config.cardCount) (sitting : (m.children.map Sprite.position).Perm (slots config))
    (empty : m.flights = []) (zero : m.movedCardNums = 0) :
    m.runActionByPlayCount config = .finished m.finishSubStage ∨
      ∃ m' final, m.runActionByPlayCount config = .moving m' ∧ Lines config m' ∧ Drawn config m' ∧ Seated config m' final ∧
        2 ≤ m'.flights.length ∧ m'.flights.length ≤ config.cardCount ∧ m'.movedCardNums = m'.flights.length ∧
        m'.stepsLeft config + 1 = m.stepsLeft config := by
  obtain ⟨plays, found, length⟩ := drawn
  have enough := floatPred_plays found
  unfold runActionByPlayCount
  rw [found]
  dsimp only
  by_cases last : (m.playCount : ℤ) ≥ floatPred plays
  · exact .inl (if_pos last)
  · rw [if_neg last]
    obtain ⟨row, next, rows⟩ := atRows lines (by omega)
    obtain ⟨flights, started, two, most, seated⟩ := startFlights_step interval sitting size rows
    have cards : m.allCardIndex.length = config.cardCount := by rw [lines.cards.length_eq, List.length_range]
    rw [cards, started]
    refine .inr ⟨_, reseated row next m.seat, rfl, lines.congr rfl rfl, ⟨plays, found, length⟩,
      seated _ rfl ?_, ?_, ?_, ?_, ?_⟩
    · rw [empty, List.nil_append]
    · rw [empty, List.nil_append]
      exact two
    · rw [empty, List.nil_append]
      exact most
    · rw [empty, zero, List.nil_append, zero_add]
    · unfold stepsLeft
      dsimp only
      rw [found, Option.elim_some]
      omega

end
end CardMgr
/-! ## Steps -/

namespace Table

/-- The record of a run in which `landing` steps and `rounds` rounds are not over. -/
structure Books (log : List CardEvent) (landing rounds : ℕ) : Prop where
  moves : ∀ cards, .moved cards ∈ log → 2 ≤ cards
  landed : log.count CardEvent.landed + landing = log.countP CardEvent.isMoved
  finished : log.count CardEvent.finished + rounds = log.count CardEvent.started

section
variable {log : List CardEvent} {landing rounds : ℕ} {cards : ℤ}

/-- A round that starts is open in the books. -/
theorem Books.start (books : Books log landing 0) : Books (log ++ [.started]) landing 1 where
  moves cards mem := books.moves cards (by simpa using mem)
  landed := by simpa [CardEvent.isMoved] using books.landed
  finished := by simpa using books.finished

/-- A step that starts is to land. -/
theorem Books.move (books : Books log 0 rounds) (two : 2 ≤ cards) : Books (log ++ [.moved cards]) 1 rounds where
  moves cards' mem := by
    rcases List.mem_append.1 mem with old | new
    · exact books.moves cards' old
    · cases List.mem_singleton.1 new
      exact two
  landed := by simpa [CardEvent.isMoved] using books.landed
  finished := by simpa using books.finished

/-- A round that is not over has been started. -/
theorem Books.started (books : Books log landing (rounds + 1)) : .started ∈ log := by
  rw [← List.count_pos_iff, ← books.finished]
  exact Nat.succ_pos _

/-- A step that has landed is settled. -/
theorem Books.land (books : Books log 1 rounds) : Books (log ++ [.landed]) 0 rounds where
  moves cards mem := books.moves cards (by simpa using mem)
  landed := by simpa [CardEvent.isMoved] using books.landed
  finished := by simpa using books.finished

/-- The end of the round closes the books. -/
theorem Books.finish (books : Books log landing 1) : Books (log ++ [.finished]) landing 0 where
  moves cards mem := books.moves cards (by simpa using mem)
  landed := by simpa [CardEvent.isMoved] using books.landed
  finished := by simpa using books.finished

end

/-- **The invariant.** -/
structure Inv (config : StageInfo) (s : Table) : Prop where
  inRange : s.fault = false
  lines : s.mgr.Lines config
  drawn : s.InFlight → s.mgr.Drawn config
  seated : .started ∈ s.log → ∃ final, s.mgr.Seated config final
  moved : s.mgr.movedCardNums = s.mgr.flights.length
  fresh : s.mgr.flights = [] → s.mgr.playCount = 0
  alone : s.begun = true → s.mgr.flights = []
  books : Books s.log (if s.mgr.flights = [] then 0 else 1) (if s.InFlight then 1 else 0)

/-- What holds where `RunActionByPlayCount` is called. -/
structure Between (config : StageInfo) (s : Table) : Prop where
  inRange : s.fault = false
  lines : s.mgr.Lines config
  drawn : s.mgr.Drawn config
  seated : ∃ final, s.mgr.Seated config final
  moved : s.mgr.movedCardNums = 0
  empty : s.mgr.flights = []
  begun : s.begun = false
  books : Books s.log 0 1

section
variable {config : StageInfo} {s t : Table} {a : CardStep} {i : ℕ} {flight : Flight}

/-- Before the first round the cards are in order. -/
theorem init_inv (config : StageInfo) : Inv config (init config) := by
  refine ⟨rfl, ⟨List.Perm.refl _, nofun, List.isChain_nil⟩, ?_, nofun, rfl, fun _ => rfl, nofun, ⟨nofun, rfl, rfl⟩⟩
  rintro (begun | some)
  · cases begun
  · exact absurd rfl some

/-- With no begin action and no flight nothing is in flight. -/
theorem not_inFlight (begun : s.begun = false) (empty : s.mgr.flights = []) : ¬ s.InFlight := by
  rintro (running | some)
  · rw [begun] at running
    cases running
  · exact some empty

theorem left_inFlight (flying : s.InFlight) :
    left config s = s.begun.toNat + s.mgr.flights.length + config.cardCount * s.mgr.stepsLeft config := if_pos flying

/-- **`RunActionByPlayCount`** keeps the invariant, and uses up a step. -/
theorem run_between (interval : 0 < config.interval) (h : Between config s) :
    Inv config (run config s) ∧ left config (run config s) ≤ config.cardCount * s.mgr.stepsLeft config := by
  obtain ⟨final, seated⟩ := h.seated
  have spec := CardMgr.runActionByPlayCount_spec interval h.lines h.drawn seated.size (seated.positions h.empty) h.empty h.moved
  rcases spec with finished | ⟨m, final', moving, lines, drawn, seated', two, most, moved, less⟩
  · have ran : run config s = { s with mgr := s.mgr.finishSubStage, log := s.log ++ [.finished] } := by
      rw [Table.run, finished]
    rw [ran]
    have idle : ¬ InFlight { s with mgr := s.mgr.finishSubStage, log := s.log ++ [.finished] } := not_inFlight h.begun h.empty
    refine ⟨⟨h.inRange, h.lines.congr rfl rfl, fun flying => absurd flying idle, fun _ => ⟨final, seated.congr rfl rfl⟩,
      ?_, fun _ => rfl, fun _ => h.empty, ?_⟩, ?_⟩
    · change s.mgr.movedCardNums = s.mgr.flights.length
      rw [h.moved, h.empty]
      rfl
    · change Books (s.log ++ [.finished]) (if s.mgr.flights = [] then 0 else 1) _
      rw [if_neg idle, if_pos h.empty]
      exact h.books.finish
    · unfold left
      rw [if_neg idle]
      exact Nat.zero_le _
  · have ran : run config s = { s with mgr := m, log := s.log ++ [.moved m.movedCardNums] } := by rw [Table.run, moving]
    rw [ran]
    have some : m.flights ≠ [] := fun none_there => by
      rw [none_there] at two
      cases two
    have flying : InFlight { s with mgr := m, log := s.log ++ [.moved m.movedCardNums] } := .inr some
    refine ⟨⟨h.inRange, lines, fun _ => drawn, fun _ => ⟨final', seated'⟩, moved, fun none_there => absurd none_there some,
      fun running => ?_, ?_⟩, ?_⟩
    · cases h.begun.symm.trans running
    · have enough : 2 ≤ m.movedCardNums := by
        rw [moved]
        exact_mod_cast two
      change Books (s.log ++ [.moved m.movedCardNums]) (if m.flights = [] then 0 else 1) _
      rw [if_pos flying, if_neg some]
      exact h.books.move enough
    · rw [left_inFlight flying]
      change s.begun.toNat + m.flights.length + config.cardCount * m.stepsLeft config ≤ _
      rw [h.begun, ← less, Nat.mul_succ, Bool.toNat_false]
      omega

/-- The end of the begin action. -/
theorem beginEnd_between (inv : Inv config s) (begun : s.begun = true) : Between config { s with begun := false } := by
  have flying : s.InFlight := .inl begun
  have empty := inv.alone begun
  have books := inv.books
  rw [if_pos empty, if_pos flying] at books
  refine ⟨inv.inRange, inv.lines, inv.drawn flying, inv.seated books.started, ?_, empty, rfl, books⟩
  rw [inv.moved, empty]
  rfl

/-- A move that ends, before `moved_card_nums_` is tested. -/
theorem land_spec (inv : Inv config s) (found : s.mgr.flights[i]? = some flight) :
    (s.mgr.land i flight).Lines config ∧ (s.mgr.land i flight).Drawn config ∧
      (∃ final, (s.mgr.land i flight).Seated config final) ∧
      (s.mgr.land i flight).movedCardNums = (s.mgr.land i flight).flights.length ∧
      (s.mgr.land i flight).flights.length + 1 = s.mgr.flights.length ∧ s.begun = false ∧ Books s.log 1 1 := by
  obtain ⟨inside, -⟩ := List.getElem?_eq_some_iff.1 found
  have some : s.mgr.flights ≠ [] := List.ne_nil_of_length_pos (by omega)
  have flying : s.InFlight := .inr some
  have books := inv.books
  rw [if_neg some, if_pos flying] at books
  obtain ⟨final, seated⟩ := inv.seated books.started
  have length : (s.mgr.flights.eraseIdx i).length + 1 = s.mgr.flights.length := by
    rw [List.length_eraseIdx_of_lt inside]
    omega
  refine ⟨inv.lines.congr rfl rfl, inv.drawn flying, ⟨final, seated.land found⟩, ?_, length, ?_,
    books⟩
  · change s.mgr.movedCardNums - 1 = ((s.mgr.flights.eraseIdx i).length : ℤ)
    rw [inv.moved, ← length]
    push_cast
    ring
  · exact Bool.eq_false_iff.2 fun running => some (inv.alone running)

/-- **The end of a move** keeps the invariant, and leaves fewer callbacks. -/
theorem moveEnd_inv (interval : 0 < config.interval) (inv : Inv config s) (found : s.mgr.flights[i]? = some flight) :
    Inv config (moveEnd config s i flight) ∧ left config (moveEnd config s i flight) + 1 ≤ left config s := by
  obtain ⟨lines, drawn, ⟨final, seated⟩, moved, length, begun, books⟩ := land_spec inv found
  have flying : s.InFlight := .inr (List.ne_nil_of_length_pos (by omega))
  rw [left_inFlight flying, begun]
  unfold moveEnd
  dsimp only
  split
  · next zero =>
    have empty : (s.mgr.land i flight).flights = [] := by
      rw [moved] at zero
      exact List.length_eq_zero_iff.1 (by exact_mod_cast zero)
    have between : Between config
        { s with mgr := { s.mgr.land i flight with showWrongTimes := 0 }, log := s.log ++ [.landed] } :=
      ⟨inv.inRange, lines.congr rfl rfl, drawn, ⟨final, seated.congr rfl rfl⟩, zero, empty, begun, books.land⟩
    obtain ⟨inv', less⟩ := run_between interval between
    refine ⟨inv', (Nat.add_le_add_right less 1).trans ?_⟩
    change config.cardCount * s.mgr.stepsLeft config + 1 ≤ _
    rw [Bool.toNat_false]
    omega
  · next more =>
    have some : (s.mgr.land i flight).flights ≠ [] := by
      intro empty
      rw [empty] at moved
      exact more moved
    have flying' : InFlight { s with mgr := s.mgr.land i flight } := .inr some
    refine ⟨⟨inv.inRange, lines, fun _ => drawn, fun _ => ⟨final, seated⟩, moved, fun empty => absurd empty some,
      fun running => ?_, ?_⟩, ?_⟩
    · cases begun.symm.trans running
    · change Books s.log (if (s.mgr.land i flight).flights = [] then 0 else 1) _
      rw [if_pos flying', if_neg some]
      exact books
    · rw [left_inFlight flying']
      change s.begun.toNat + (s.mgr.land i flight).flights.length + config.cardCount * s.mgr.stepsLeft config + 1 ≤ _
      rw [begun]
      omega

/-- **One step.** -/
theorem step_inv (interval : 0 < config.interval) (inv : Inv config s) (h : step config s a = some t) :
    Inv config t ∧ (a.isCallback → left config t + 1 ≤ left config s) := by
  unfold step at h
  rw [if_neg (by simp [inv.inRange])] at h
  cases a with
  | start rand shuffles =>
    refine ⟨?_, nofun⟩
    dsimp only at h
    split at h
    · cases h
    · next idle =>
      obtain ⟨still, -⟩ := not_or.1 idle
      obtain ⟨begun, empty⟩ := not_or.1 still
      rw [not_not] at empty
      obtain ⟨m, started, rfl⟩ := Option.map_eq_some_iff.1 h
      obtain ⟨lines, drawn, seated, empty', playCount, moved⟩ := CardMgr.startSubStage_some inv.lines.cards empty started
      have flying : InFlight { s with mgr := m, begun := true, log := s.log ++ [.started] } := .inl rfl
      have books := inv.books
      rw [if_pos empty, if_neg still] at books
      refine ⟨inv.inRange, lines, fun _ => drawn, fun _ => ⟨_, seated⟩, ?_, fun _ => ?_, fun _ => empty', ?_⟩
      · change m.movedCardNums = m.flights.length
        rw [moved, inv.moved, empty, empty']
      · exact playCount.trans (inv.fresh empty)
      · change Books (s.log ++ [.started]) (if m.flights = [] then 0 else 1) _
        rw [if_pos flying, if_pos empty']
        exact books.start
  | restart =>
    refine ⟨?_, nofun⟩
    dsimp only at h
    split at h
    · cases h
    · next still =>
      cases h
      refine ⟨inv.inRange, inv.lines.congr rfl rfl, fun flying => absurd flying still,
        fun started => ?_, inv.moved, fun _ => rfl, inv.alone, inv.books⟩
      obtain ⟨final, seated⟩ := inv.seated started
      exact ⟨final, seated.congr rfl rfl⟩
  | beginEnd =>
    dsimp only at h
    split at h
    · next begun =>
      cases h
      obtain ⟨inv', less⟩ := run_between interval (beginEnd_between inv begun)
      refine ⟨inv', fun _ => ?_⟩
      change left config (run config _) ≤ config.cardCount * s.mgr.stepsLeft config at less
      rw [left_inFlight (.inl begun), begun, Bool.toNat_true]
      omega
    · cases h
  | moveEnd i =>
    obtain ⟨flight, found, rfl⟩ := Option.map_eq_some_iff.1 h
    obtain ⟨inv', less⟩ := moveEnd_inv interval inv found
    exact ⟨inv', fun _ => less⟩

/-- A round that is under way can go on. -/
theorem Inv.goes (inv : Inv config s) (flying : s.InFlight) : ∃ a, a.isCallback ∧ (step config s a).isSome := by
  rcases flying with begun | moving
  · refine ⟨.beginEnd, rfl, ?_⟩
    unfold step
    rw [if_neg (Bool.eq_false_iff.1 inv.inRange)]
    dsimp only
    rw [if_pos begun]
    rfl
  · refine ⟨.moveEnd 0, rfl, ?_⟩
    unfold step
    rw [if_neg (Bool.eq_false_iff.1 inv.inRange)]
    dsimp only
    rw [List.getElem?_eq_getElem (List.length_pos_iff.2 moving)]
    rfl

/-- Each callback uses up some of what is left, so a round ends. -/
theorem Inv.ends (interval : 0 < config.interval) (inv : Inv config s) (as : List CardStep)
    (callbacks : ∀ a ∈ as, a.isCallback) (run : exec (step config) s as = some t) : as.length ≤ left config s := by
  induction as generalizing s with
  | nil => exact Nat.zero_le _
  | cons a as ih =>
    obtain ⟨s', first, rest⟩ := exec_cons_eq_some.1 run
    obtain ⟨inv', less⟩ := step_inv interval inv first
    have fewer := less (callbacks a List.mem_cons_self)
    have more := ih inv' (fun b mem => callbacks b (List.mem_cons_of_mem a mem)) rest
    rw [List.length_cons]
    omega

/-- The invariant gives the contract. -/
theorem Inv.shuffled (interval : 0 < config.interval) (inv : Inv config s) : Shuffled config s where
  rows := inv.lines.rows
  distinct := inv.lines.distinct
  seated started empty := by
    obtain ⟨final, seated⟩ := inv.seated started
    exact seated.positions empty
  moves := inv.books.moves
  moved := inv.moved
  landed := inv.books.landed
  inRange := inv.inRange
  finished := inv.books.finished
  goes := inv.goes
  ends as t callbacks run := inv.ends interval as callbacks run

/-- **Every run of rounds** meets the contract in every state, and the start
positions are as many as the cards. -/
theorem rounds_shuffled (config : StageInfo) (interval : 0 < config.interval) (as : List CardStep) (s : Table)
    (run : exec (step config) (init config) as = some s) : Shuffled config s ∧ (CardMgr.slots config).Nodup := by
  refine ⟨?_, CardMgr.slots_nodup interval⟩
  have inv : Inv config s := exec_inv (Q := fun _ _ => True) (fun t a t' inv _ h => (step_inv interval inv h).1) (init_inv config)
    (fun _ _ _ _ _ => trivial) run
  exact inv.shuffled interval

/-- Two cards, and a step for each of the four rounds. -/
def twoCards : StageInfo := ⟨2, ⟨#[2, 2, 2, 2], rfl⟩, 0, 0, 2⟩

/-- A round of two cards. -/
def twoSteps : List CardStep := [.start 0 [[0, 1], [1, 0], [0, 1]], .beginEnd, .moveEnd 1, .moveEnd 0]

/-- A round of two cards, whose positions differ. -/
theorem rounds_shuffled_two :
    0 < twoCards.interval ∧ Shuffled twoCards ((exec (step twoCards) (init twoCards) twoSteps).getD (init twoCards)) ∧
      (CardMgr.slots twoCards).Nodup :=
  ⟨by decide, rounds_shuffled twoCards (by decide) twoSteps _ (by decide +kernel)⟩

end
end Table
end Crazyass.Client
