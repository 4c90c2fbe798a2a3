import PropertyFilter.Fault
import PropertyFilter.Text.Fields

/-!
# Terminal escape sequences

Two kinds of sequences are recognised and deleted: control sequences, `ESC [` with numbers and
semicolons and a final letter, and operating system commands, `ESC ]` up to a bell. Both take a
start-of-heading character in front and a start-of-text character behind with them.

## Main definitions

* `controlLength?`, `commandLength?`: the sequence at the beginning of a text, if there is one
* `plainPieces`: the pieces of a text between its control sequences
* `deleteCommands`: a text without its operating system commands
* `deletePieces`: the pieces that are left of a text
* `deliver`: what arrives behind several deleting layers
-/

namespace PropertyFilter.Terminal

/-- The escape character. -/
def esc : Char := '\x1b'

/-- The bell that ends an operating system command. -/
def bell : Char := '\x07'

/-- A start-of-heading character in front of a sequence, if there is one, is part of it. -/
def skipHeading : List Char → Nat × List Char
  | '\x01' :: cs => (1, cs)
  | cs => (0, cs)

/-- A start-of-text character behind a sequence, if there is one, is part of it. -/
def tailLength : List Char → Nat
  | '\x02' :: _ => 1
  | _ => 0

/-- A decimal digit of any script, or a semicolon. -/
def isParameter (c : Char) : Bool := Text.isDecimalDigit c || c == ';'

/-- The length of the control sequence at the beginning of a text. -/
def controlLength? (cs : List Char) : Option Nat :=
  let (heading, cs) := skipHeading cs
  match cs with
  | '\x1b' :: '[' :: rest =>
    let parameters := rest.takeWhile isParameter
    match rest.dropWhile isParameter with
    | c :: after =>
      if c.isAlpha then some (heading + 3 + parameters.length + tailLength after) else none
    | [] => none
  | _ => none

/-- The length and the parameters of the operating system command at the beginning of a text. -/
def commandLength? (cs : List Char) : Option (Nat × List Char) :=
  let (heading, cs) := skipHeading cs
  match cs with
  | '\x1b' :: ']' :: rest =>
    let parameters := rest.takeWhile (· ≠ bell)
    match rest.dropWhile (· ≠ bell) with
    | _ :: after => some (heading + 3 + parameters.length + tailLength after, parameters)
    | [] => none
  | _ => none

/-- Goes through a text: `skip` more characters belong to a sequence, `piece` is the current piece
in reverse. -/
def piecesFrom : (skip : Nat) → (piece : List Char) → List Char → List (List Char)
  | _, piece, [] => [piece.reverse]
  | skip + 1, piece, _ :: cs => piecesFrom skip piece cs
  | 0, piece, c :: cs =>
    match controlLength? (c :: cs) with
    | some n => piece.reverse :: piecesFrom (n - 1) [] cs
    | none => piecesFrom 0 (c :: piece) cs

/-- The pieces of a text between its control sequences; empty ones are left out. -/
def plainPieces (cs : List Char) : List (List Char) :=
  (piecesFrom 0 [] cs).filter (!·.isEmpty)

/-- An operating system command in a text. -/
structure Command where
  start : Nat
  stop : Nat
  parameters : List Char
  deriving Repr

/-- The commands of a text from a position on, with `skip` more characters of the last one. -/
def commandsFrom : (position skip : Nat) → List Char → List Command
  | _, _, [] => []
  | n, skip + 1, _ :: cs => commandsFrom (n + 1) skip cs
  | n, 0, c :: cs =>
    match commandLength? (c :: cs) with
    | some (size, parameters) =>
      ⟨n, n + size, parameters⟩ :: commandsFrom (n + 1) (size - 1) cs
    | none => commandsFrom (n + 1) 0 cs

/-- A command to set the title asks for a window, which there is none of: it has two parameters,
the first of which is a part of `02`. -/
def Command.setsTitle (c : Command) : Bool :=
  match Text.fields ';' c.parameters with
  | [first, _] => first.isEmpty || first == ['0'] || first == ['2'] || first == ['0', '2']
  | _ => false

/-- Deletes commands one after the other; places are counted in the whole text. -/
def deleteFrom (cs : List Char) : List Command → Except Fault (List Char)
  | [] => .ok cs
  | c :: commands =>
    if c.setsTitle then .error .noSuchOperation
    else deleteFrom (cs.take c.start ++ cs.drop c.stop) commands

/-- A text without its operating system commands. -/
def deleteCommands (cs : List Char) : Except Fault (List Char) :=
  deleteFrom cs (commandsFrom 0 0 cs)

/-- The pieces of a text that a deleting layer passes on. -/
def deletePieces (cs : List Char) : Except Fault (List (List Char)) :=
  match deleteCommands cs with
  | .ok rest => .ok (plainPieces rest)
  | .error e => .error e

/-- What arrives of a text, and whether a layer failed on the way. -/
structure Delivery where
  arrived : List Char
  fault : Option Fault
  deriving Repr

/-- One delivery after another; nothing follows a failure. -/
def Delivery.andThen (a b : Delivery) : Delivery :=
  match a.fault with
  | some e => ⟨a.arrived, some e⟩
  | none => ⟨a.arrived ++ b.arrived, b.fault⟩

/-- Deliveries one after the other. -/
def Delivery.all (ds : List Delivery) : Delivery := ds.foldr Delivery.andThen ⟨[], none⟩

/-- What arrives behind a number of deleting layers, each of which passes pieces on to the next. -/
def deliver : (layers : Nat) → List Char → Delivery
  | 0, cs => ⟨cs, none⟩
  | n + 1, cs =>
    match deletePieces cs with
    | .error e => ⟨[], some e⟩
    | .ok pieces => Delivery.all (pieces.map (deliver n))

/-- What arrives of a line: its text and the line break are written separately. -/
def deliverLine (layers : Nat) (s : String) : Delivery :=
  (deliver layers s.toList).andThen (deliver layers ['\n'])

@[simp] theorem deliver_zero (cs : List Char) : deliver 0 cs = ⟨cs, none⟩ := rfl

end PropertyFilter.Terminal
