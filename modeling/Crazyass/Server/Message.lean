import Crazyass.Go.Number
import Mathlib.Logic.Function.Basic

/-!
# Messages and their decoding

`Msg` is the one struct for requests and replies. A packet is decoded by
`encoding/json` into the `Msg` the client already holds (`readPacket` passes
`&c.msg`): a field the text does not name keeps its value, `null` resets the
map and nothing else, an object adds its entries to the map, and a value of the
wrong type is remembered as an error while the remaining fields are still set.
-/

namespace Crazyass.Server
open Go

/-- A JSON value as the decoder hands it out; numbers are `float64`. -/
inductive Json where
  | null
  | bool (b : Bool)
  | num (x : Float64)
  | str (s : String)
  | arr (items : List Json)
  | obj (fields : List (String × Json))

/-- A value of type `interface{}`: what the decoder stores in a `Body`, and the
further types the handlers put into a reply. -/
inductive Value where
  | json (j : Json)
  | uint32 (n : UInt32)
  | int (n : Int64)
  | ints (l : List Int64)

/-- `v.(float64)` succeeds on numbers only. -/
def Value.float64? : Value → Option Float64
  | .json (.num x) => some x
  | _ => none

/-- `v.(bool)`. -/
def Value.bool? : Value → Option Bool
  | .json (.bool b) => some b
  | _ => none

/-- `map[string]interface{}`; a nil map reads like an empty one. -/
abbrev Body := String → Option Value

structure Msg where
  cmd : Float64
  errCode : Float64
  seq : Float64
  userid : String
  body : Body

/-- The zero value. -/
def Msg.zero : Msg := ⟨0, 0, 0, "", fun _ => none⟩

def Msg.put (m : Msg) (key : String) (v : Value) : Msg := { m with body := Function.update m.body key (some v) }

/-- The request a client writes: a command, a userid and the entries of the body. -/
def Msg.request (cmd : UInt32) (userid : String) (entries : List (String × Json)) : Msg :=
  { Msg.zero with
    cmd := .ofUInt32 cmd
    userid
    body := fun key => (entries.lookup key).map .json }

/-! ## Decoding into an existing message -/

inductive Field where
  | cmd | errCode | seq | userid | body
deriving DecidableEq, Repr

/-- Case folding of a key character; U+017F folds to `s`. -/
def foldChar (c : Char) : Char := if c.toNat = 0x17F then 's' else c.toLower

/-- The struct field a key is decoded into. -/
def fieldOf (key : String) : Option Field :=
  let k := key.toList.map foldChar
  if k = ['c', 'm', 'd'] then some .cmd
  else if k = ['e', 'r', 'r', 'c', 'o', 'd', 'e'] then some .errCode
  else if k = ['s', 'e', 'q'] then some .seq
  else if k = ['u', 's', 'e', 'r', 'i', 'd'] then some .userid
  else if k = ['b', 'o', 'd', 'y'] then some .body
  else none

/-- An object decoded into a map adds its entries. -/
def decodeEntries (b : Body) (entries : List (String × Json)) : Body :=
  entries.foldl (fun b e => Function.update b e.1 (some (.json e.2))) b

/-- One key of the packet: the message afterwards, and whether the value had
the field's type. -/
def decodeField (m : Msg) (e : String × Json) : Msg × Bool :=
  match fieldOf e.1, e.2 with
  | none, _ => (m, true)
  | some .cmd, .num x => ({ m with cmd := x }, true)
  | some .errCode, .num x => ({ m with errCode := x }, true)
  | some .seq, .num x => ({ m with seq := x }, true)
  | some .userid, .str s => ({ m with userid := s }, true)
  | some .body, .obj entries => ({ m with body := decodeEntries m.body entries }, true)
  | some .body, .null => ({ m with body := fun _ => none }, true)
  | some _, .null => (m, true)
  | some _, _ => (m, false)

def decodeFields (m : Msg) : List (String × Json) → Msg × Bool
  | [] => (m, true)
  | e :: es =>
    let (m, ok) := decodeField m e
    let (m, oks) := decodeFields m es
    (m, ok && oks)

/-- `json.Unmarshal(text, &m)` on a text that parses. -/
def unmarshal (m : Msg) : Json → Msg × Bool
  | .null => (m, true)
  | .obj fields => decodeFields m fields
  | _ => (m, false)

/-- `readPacket`: the message returned for the packet, decoded into the cell
`msg`; `none` is an error. -/
def readPacket (msg : Msg) (packet : Json) : Option Msg :=
  match unmarshal msg packet with
  | (m, true) => some m
  | (_, false) => none

end Crazyass.Server
