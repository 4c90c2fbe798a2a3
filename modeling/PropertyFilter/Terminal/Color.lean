import PropertyFilter.Fault
import PropertyFilter.Text.Lowercase
import PropertyFilter.Value.Same

/-!
# Colour support

Whether output is coloured is forced, by the environment or by a caller, or else detected from the
terminal. The decision is taken when the forced value changes and kept until it changes again.
Whenever it is taken and turns out negative, one more layer that deletes escape sequences is put
around both output streams; layers are never removed.

## Main definitions

* `Environment`: what the decision depends on
* `ColorState`: the decision, and the number of deleting layers
* `ColorState.start`, `ColorState.force`: the initial state, and forcing
* `ColorSupport`, `ColorSupport.run`: colour support in its environment, and a history of it
* `ColorState.colored`, `ColorState.verdict`: colouring text
-/

namespace PropertyFilter.Terminal

/-- The surroundings that colour support depends on. -/
structure Environment where
  noColor : Option String
  forceColor : Option String
  term : Option String
  colorTerm : Option String
  /-- Standard output is a terminal. -/
  terminal : Bool
  deriving DecidableEq, Repr, Inhabited

namespace Environment

/-- No variable set and no terminal. -/
def bare : Environment := ⟨none, none, none, none, false⟩

/-- Sets or removes a variable; others than the four do not matter. -/
def setVariable (e : Environment) (name : String) (value : Option String) : Environment :=
  if name = "NO_COLOR" then { e with noColor := value }
  else if name = "FORCE_COLOR" then { e with forceColor := value }
  else if name = "TERM" then { e with term := value }
  else if name = "COLORTERM" then { e with colorTerm := value }
  else e

/-- Whether the characters of a word occur side by side in a text. -/
def occursIn (word : List Char) : List Char → Bool
  | [] => word.isEmpty
  | c :: cs => word.isPrefixOf (c :: cs) || occursIn word cs

/-- The terminal's own abilities: never on a dumb terminal, else on a terminal or where the
environment names a colour terminal. -/
def detects (e : Environment) : Bool :=
  if occursIn "dumb".toList (Text.lowercase (e.term.getD "")).toList then false
  else e.terminal || (e.colorTerm.getD "") != ""

/-- The words that force colour. -/
def forcingWords : List String := ["1", "true", "yes"]

/-- The value that the environment forces; the wish for no colour is stronger. -/
def forced (e : Environment) : Option Value :=
  if e.noColor.isSome then some (.bool false)
  else if forcingWords.contains (Text.lowercase (e.forceColor.getD "")) then some (.bool true)
  else none

end Environment

/-- The state of colour support. -/
structure ColorState where
  /-- The forced value; none leaves the decision to detection. -/
  forced : Option Value
  /-- The decision: the forced value itself, or what was detected. -/
  supported : Value
  /-- The number of deleting layers around each output stream. -/
  layers : Nat
  deriving Repr, Inhabited

namespace ColorState

/-- The decision for a forced value in an environment. -/
def decision (e : Environment) (forced : Option Value) : Value :=
  forced.getD (.bool e.detects)

/-- Takes the decision anew, over a number of layers. -/
def decide (e : Environment) (forced : Option Value) (layers : Nat) : ColorState :=
  let v := decision e forced
  ⟨forced, v, if v.isTruthy then layers else layers + 1⟩

/-- The state at the start. -/
def start (e : Environment) : ColorState := decide e e.forced 0

/-- Whether output is coloured. -/
def isOn (s : ColorState) : Bool := s.supported.isTruthy

/-- The forced value that a caller asks for: nothing goes back to the environment's, and only what
is the same as a truth value can be forced. -/
def target? (e : Environment) (wish : Value) : Option (Option Value) :=
  match wish with
  | .null => some e.forced
  | v => if v.same (.bool true) || v.same (.bool false) then some (some v) else none

/-- Whether two forced values are the same. -/
def sameForced : Option Value → Option Value → Bool
  | none, none => true
  | some v, some w => v.same w
  | _, _ => false

/-- Forces colour on or off, or goes back to detection. The decision is taken anew only if the
forced value changes. -/
def force (s : ColorState) (e : Environment) (wish : Value) : Except Fault ColorState :=
  match target? e wish with
  | none => .error .malformed
  | some t => .ok (if sameForced t s.forced then s else decide e t s.layers)

end ColorState

/-! ### Histories -/

/-- Colour support, and the environment that it is in now. -/
structure ColorSupport where
  environment : Environment
  state : ColorState
  deriving Repr, Inhabited

/-- What may happen to colour support. -/
inductive ColorStep where
  /-- A caller forces colour on or off, or goes back to detection. -/
  | force (wish : Value)
  /-- The environment becomes another one. -/
  | surround (environment : Environment)
  deriving Repr, Inhabited

namespace ColorSupport

/-- Colour support at the start. -/
def start (e : Environment) : ColorSupport := ⟨e, .start e⟩

/-- Takes a step; a wish that cannot be met is an error. -/
def take (c : ColorSupport) : ColorStep → ColorSupport × Option Fault
  | .force wish =>
    match c.state.force c.environment wish with
    | .ok s => ({ c with state := s }, none)
    | .error f => (c, some f)
  | .surround e => ({ c with environment := e }, none)

/-- Takes steps one after the other, whatever errors there are. -/
def run (c : ColorSupport) (steps : List ColorStep) : ColorSupport :=
  steps.foldl (fun c step => (c.take step).1) c

@[simp] theorem run_nil (c : ColorSupport) : c.run [] = c := rfl

theorem run_append (c : ColorSupport) (steps more : List ColorStep) :
    c.run (steps ++ more) = (c.run steps).run more :=
  List.foldl_append

theorem run_snoc (c : ColorSupport) (steps : List ColorStep) (step : ColorStep) :
    c.run (steps ++ [step]) = ((c.run steps).take step).1 :=
  run_append c steps [step]

end ColorSupport

/-! ### Coloured text -/

/-- The escape sequence of a style, by its number. -/
def codeText (n : Nat) : String := "\x1b[" ++ toString n ++ "m"

/-- Turns bright text on. -/
def bright : String := codeText 1

/-- Turns dim text on. -/
def dim : String := codeText 2

/-- Turns red text on. -/
def red : String := codeText 31

/-- Turns green text on. -/
def green : String := codeText 32

/-- Turns yellow text on. -/
def yellow : String := codeText 33

/-- Turns magenta text on. -/
def magenta : String := codeText 35

/-- Turns cyan text on. -/
def cyan : String := codeText 36

/-- Ends all styles. -/
def reset : String := codeText 0

/-- Text between style codes and the code that ends them. -/
def styled (isBright : Bool) (color text : String) : String :=
  (if isBright then bright else "") ++ color ++ text ++ reset

namespace ColorState

/-- Coloured text where colours are on; an empty text stays empty. -/
def colored (s : ColorState) (isBright : Bool) (color text : String) : String :=
  if s.isOn && text != "" then styled isBright color text else text

/-- An error message. -/
def error (s : ColorState) (text : String) : String := s.colored false red text

/-- A success message. -/
def success (s : ColorState) (text : String) : String := s.colored false green text

/-- A hint. -/
def info (s : ColorState) (text : String) : String := s.colored false cyan text

/-- One of two answers, bright when it is positive. -/
def verdict (s : ColorState) (matched : Bool) (yes no : String) : String :=
  if matched then s.colored true yellow yes else s.colored false dim no

theorem colored_off {s : ColorState} (h : s.isOn = false) (b : Bool) (c t : String) :
    s.colored b c t = t := by
  simp [colored, h]

@[simp] theorem colored_empty (s : ColorState) (b : Bool) (c : String) :
    s.colored b c "" = "" := by
  simp [colored]

end ColorState

end PropertyFilter.Terminal
