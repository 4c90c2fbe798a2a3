import PropertyFilter.Text.Printable

/-!
# Quoted text

The form in which messages show a text or a row of octets: between quotes, with backslash escapes
for the quote, the backslash, line breaks and everything that does not print.

## Main definitions

* `quoted`: the quoted form of a text
* `quotedOctets`: the quoted form of octets, behind a `b`
-/

namespace PropertyFilter.Text

/-- The hexadecimal digit of a value below sixteen. -/
def hexDigit (n : Nat) : Char :=
  if n < 10 then Char.ofNat (0x30 + n) else Char.ofNat (0x57 + n)

/-- The last `width` hexadecimal digits of a number. -/
def hexDigits : (width : Nat) → Nat → List Char
  | 0, _ => []
  | w + 1, n => hexDigits w (n / 16) ++ [hexDigit (n % 16)]

@[simp] theorem length_hexDigits (w n : Nat) : (hexDigits w n).length = w := by
  induction w generalizing n with
  | zero => rfl
  | succ w ih => simp [hexDigits, ih]

/-- The escape of a code point: two, four or eight hexadecimal digits. -/
def hexEscape (n : Nat) : List Char :=
  if n < 0x100 then '\\' :: 'x' :: hexDigits 2 n
  else if n < 0x10000 then '\\' :: 'u' :: hexDigits 4 n
  else '\\' :: 'U' :: hexDigits 8 n

/-- A single quote, unless the text holds single quotes and no double ones. -/
def chooseQuote (cs : List Char) : Char :=
  if cs.contains '\'' && !cs.contains '"' then '"' else '\''

/-- One character between quotes. -/
def quotedChar (quote c : Char) : List Char :=
  if c = quote || c = '\\' then ['\\', c]
  else if c = '\t' then ['\\', 't']
  else if c = '\n' then ['\\', 'n']
  else if c = '\r' then ['\\', 'r']
  else if isPrintable c then [c]
  else hexEscape c.toNat

/-- The quoted form of a text. -/
def quoted (s : String) : String :=
  let q := chooseQuote s.toList
  String.ofList (q :: s.toList.flatMap (quotedChar q) ++ [q])

/-- One octet between quotes: only ASCII prints. -/
def quotedOctet (quote : Char) (b : UInt8) : List Char :=
  if b < 0x7f then quotedChar quote (Char.ofNat b.toNat) else hexEscape b.toNat

/-- The quoted form of a row of octets. A growable row has a backslash in front of each single
quote, also between double quotes. -/
def quotedOctets (growable : Bool) (bs : List UInt8) : String :=
  let q := chooseQuote (bs.map fun b => Char.ofNat b.toNat)
  String.ofList ('b' :: q :: bs.flatMap (quotedOctet (if growable then '\'' else q)) ++ [q])

@[simp] theorem quoted_empty : quoted "" = "''" := by
  simp [quoted, chooseQuote]

end PropertyFilter.Text
