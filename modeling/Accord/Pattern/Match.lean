import Accord.Pattern.Basic

namespace Accord.Pattern

def mergePlaces : List Nat → List Nat → List Nat
  | [], js => js
  | is, [] => is
  | i :: is, j :: js =>
    if i < j then i :: mergePlaces is (j :: js)
    else if j < i then j :: mergePlaces (i :: is) js
    else i :: mergePlaces is js
termination_by is js => is.length + js.length

def freshPlaces (known : List Nat) (places : List Nat) : List Nat :=
  places.filter fun i => !known.contains i

def isWordIn (ascii : Bool) (c : Char) : Bool :=
  if ascii then c.isAlphanum || c == '_' else Text.isWord c

def Anchor.holds (a : Anchor) (text : Array Char) (i : Nat) : Bool :=
  let before := if i = 0 then none else text[i - 1]?
  let behind := text[i]?
  let wordBefore := fun ascii => before.any (isWordIn ascii)
  let wordBehind := fun ascii => behind.any (isWordIn ascii)
  match a with
  | textStart => i == 0
  | textEnd => i == text.size
  | lineStart => i == 0 || before == some '\n'
  | lineEnd => i == text.size || behind == some '\n'
  | returnLineStart =>
    i == 0 || before == some '\n' || (before == some '\r' && behind != some '\n')
  | returnLineEnd =>
    i == text.size || behind == some '\r' || (behind == some '\n' && before != some '\r')
  | wordEdge ascii => wordBefore ascii != wordBehind ascii
  | noWordEdge ascii => wordBefore ascii == wordBehind ascii
  | wordStart ascii => !wordBefore ascii && wordBehind ascii
  | wordEnd ascii => wordBefore ascii && !wordBehind ascii
  | wordStartHalf ascii => !wordBefore ascii
  | wordEndHalf ascii => !wordBehind ascii

/-- All places reached by any number of steps, at most `fuel` of them; `reached` holds `frontier`. -/
def closePlaces (step : List Nat → List Nat) : Nat → List Nat → List Nat → List Nat
  | 0, reached, _ => reached
  | fuel + 1, reached, frontier =>
    if frontier.isEmpty then reached
    else
      let next := freshPlaces reached (step frontier)
      closePlaces step fuel (mergePlaces reached next) next

def optionalSteps (step : List Nat → List Nat) : Nat → List Nat → List Nat
  | 0, places => places
  | n + 1, places =>
    if places.isEmpty then places else mergePlaces places (optionalSteps step n (step places))

def exactSteps (step : List Nat → List Nat) : Nat → List Nat → List Nat
  | 0, places => places
  | n + 1, places =>
    let next := step places
    if next == places then places else exactSteps step n next

/-- Where matches that begin at one of `places` can end. -/
def Expr.reach (text : Array Char) : Expr → List Nat → List Nat
  | .empty, places => places
  | .char s, places =>
    places.filterMap fun i => if text[i]?.any (s.mem ·) then some (i + 1) else none
  | .anchor a, places => places.filter (a.holds text ·)
  | .sequence a b, places => b.reach text (a.reach text places)
  | .choice a b, places => mergePlaces (a.reach text places) (b.reach text places)
  | .repetition e least none, places =>
    let begun := exactSteps (e.reach text) least places
    closePlaces (e.reach text) (text.size + 2) begun begun
  | .repetition e least (some most), places =>
    optionalSteps (e.reach text) (most - least) (exactSteps (e.reach text) least places)

def Expr.occursIn (e : Expr) (s : String) : Bool :=
  let text := s.toList.toArray
  !(e.reach text (List.range (text.size + 1))).isEmpty

end Accord.Pattern
