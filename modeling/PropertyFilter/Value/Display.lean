import PropertyFilter.Fault
import PropertyFilter.Value.Basic
import PropertyFilter.Text.Quoted
import PropertyFilter.Number.Decimal

/-!
# Display of values

The text in which messages show a value. Texts are quoted, collections are written with their
brackets, and dates and times by their parts. Every value has such a text here; where one is asked
for that has a whole number of too many digits in it, `Value.isShowable` says so.

## Main definitions

* `Value.shown`: the form that tells values of different kinds apart
* `Value.plain`: the form for reading, in which a text stands for itself
* `Value.isShowable`: no whole number in a value has too many digits to be shown
-/

namespace PropertyFilter

open Time (Date ClockTime Moment)

/-- A whole number in decimal digits. -/
def intText (n : Int) : String :=
  (if n < 0 then "-" else "") ++ String.ofList (Number.digitsText n.natAbs)

/-- Whether a whole number has no more digits than can be shown. -/
def isShort (n : Int) : Bool := (Number.digitsText n.natAbs).length ≤ maxDigits

/-- Parts between brackets, with a comma and a space between neighbours. -/
def bracketed (opening : String) (parts : List String) (closing : String) : String :=
  opening ++ String.intercalate ", " parts ++ closing

/-- The parts of a time of day that are shown: always hours and minutes. -/
def clockParts (t : ClockTime) : List String :=
  let rest := if t.microsecond ≠ 0 then [t.second, t.microsecond]
    else if t.second ≠ 0 then [t.second] else []
  ([t.hour, t.minute] ++ rest).map fun n : Nat => intText n

/-- The parts of a date. -/
def dateParts (d : Date) : List String := [d.year, d.month, d.day].map fun n : Nat => intText n

/-- An offset from universal time, as whole days and the seconds above them. -/
def offsetShown (minutes : Int) : String :=
  if minutes = 0 then "datetime.timezone.utc"
  else
    let days := minutes.fdiv 1440
    let seconds := (minutes.fmod 1440) * 60
    let parts := (if days = 0 then [] else ["days=" ++ intText days])
      ++ (if seconds = 0 then [] else ["seconds=" ++ intText seconds])
    bracketed "datetime.timezone(datetime.timedelta(" parts "))"

/-- A moment by its parts. -/
def momentShown (m : Moment) : String :=
  bracketed "datetime.datetime("
    (dateParts m.date ++ clockParts m.time ++ (match m.offset with
      | none => []
      | some o => ["tzinfo=" ++ offsetShown o])) ")"

namespace Value

mutual

/-- The form of a value that tells values of different kinds apart. -/
def shown : Value → String
  | null => "None"
  | bool b => if b then "True" else "False"
  | int n => intText n
  | float x => x.text
  | text s => Text.quoted s
  | octets growable bs =>
    let quoted := Text.quotedOctets growable bs
    if growable then bracketed "bytearray(" [quoted] ")" else quoted
  | list _ items => bracketed "[" (shownItems items) "]"
  | tuple _ items =>
    match shownItems items with
    | [one] => "(" ++ one ++ ",)"
    | parts => bracketed "(" parts ")"
  | set _ frozen items =>
    match shownItems items with
    | [] => if frozen then "frozenset()" else "set()"
    | parts =>
      if frozen then bracketed "frozenset(\x7b" parts "\x7d)" else bracketed "\x7b" parts "\x7d"
  | mapping _ view entries =>
    let body := bracketed "\x7b" (shownEntries entries) "\x7d"
    if view then "mappingproxy(" ++ body ++ ")" else body
  | range a b c =>
    bracketed "range(" ([a, b].map intText ++ if c = 1 then [] else [intText c]) ")"
  | type name _ => "<class 'app." ++ name ++ "'>"
  | object name _ => "<" ++ name ++ " instance>"
  | date _ d => bracketed "datetime.date(" (dateParts d) ")"
  | moment _ m => momentShown m
  | clock _ t => bracketed "datetime.time(" (clockParts t) ")"

/-- The forms of the values of a row. -/
def shownItems : List Value → List String
  | [] => []
  | v :: vs => shown v :: shownItems vs

/-- The forms of the entries of a mapping. -/
def shownEntries : List (Value × Value) → List String
  | [] => []
  | (k, v) :: es => (shown k ++ ": " ++ shown v) :: shownEntries es

end

mutual

/-- Whether a value can be shown: no whole number in it has too many digits. -/
def isShowable : Value → Bool
  | int n => isShort n
  | range a b c => isShort a && isShort b && isShort c
  | list _ items | tuple _ items | set _ _ items => allShowable items
  | mapping _ _ entries => entriesShowable entries
  | _ => true

/-- Whether all values of a row can be shown. -/
def allShowable : List Value → Bool
  | [] => true
  | v :: vs => isShowable v && allShowable vs

/-- Whether all keys and values of a mapping can be shown. -/
def entriesShowable : List (Value × Value) → Bool
  | [] => true
  | (k, v) :: es => isShowable k && isShowable v && entriesShowable es

end

/-- The form of a value for reading: a text stands for itself, dates and times are written in
standard form. -/
def plain : Value → String
  | text s => s
  | date _ d => d.iso
  | moment _ m => m.isoWith " "
  | clock _ t => t.iso
  | v => v.shown

@[simp] theorem plain_text (s : String) : (text s).plain = s := rfl

end Value

end PropertyFilter
