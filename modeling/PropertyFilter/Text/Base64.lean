/-!
# Octets in base sixty-four

Four characters of an alphabet of sixty-four stand for three octets; equals signs fill the last
group. Reading passes over characters outside the alphabet.

## Main definitions

* `encodeBase64`: the characters of octets
* `decodeBase64`: the octets of characters, if their number is right
-/

namespace PropertyFilter.Text

/-- The sixty-four characters, by their values. -/
def base64Alphabet : List Char :=
  "ABCDEFGHIJKLMNOPQRSTUVWXYZabcdefghijklmnopqrstuvwxyz0123456789+/".toList

/-- The character of a six-bit value. -/
def base64Char (n : Nat) : Char := base64Alphabet.getD n '='

/-- The six-bit value of a character. -/
def base64Value? (c : Char) : Option Nat := base64Alphabet.idxOf? c

/-- The characters of octets. -/
def encodeBase64 : List UInt8 → List Char
  | a :: b :: c :: rest =>
    let n := a.toNat * 65536 + b.toNat * 256 + c.toNat
    [n / 262144, n / 4096 % 64, n / 64 % 64, n % 64].map base64Char ++ encodeBase64 rest
  | [a, b] =>
    let n := a.toNat * 1024 + b.toNat * 4
    [n / 4096, n / 64 % 64, n % 64].map base64Char ++ ['=']
  | [a] => [a.toNat / 4, a.toNat % 4 * 16].map base64Char ++ ['=', '=']
  | [] => []

/-- The octets of a row of values, two of six bits and more; one more value than whole octets need
has no meaning. `count` values of the current group were read, `bits` are left of them, and `pads`
equals signs stood behind the last one. -/
def decodeBase64From (count bits pads : Nat) : List Char → Option (List UInt8)
  | [] => if count = 0 then some [] else none
  | c :: cs =>
    if c = '=' then
      if 2 ≤ count ∧ 4 ≤ count + pads + 1 then some []
      else decodeBase64From count bits (if 2 ≤ count then pads + 1 else pads) cs
    else match base64Value? c with
      | none => decodeBase64From count bits pads cs
      | some v =>
        let n := bits * 64 + v
        match count with
        | 0 => decodeBase64From 1 v 0 cs
        | 1 => (decodeBase64From 2 (n % 16) 0 cs).map (UInt8.ofNat (n / 16) :: ·)
        | 2 => (decodeBase64From 3 (n % 4) 0 cs).map (UInt8.ofNat (n / 4) :: ·)
        | _ => (decodeBase64From 0 0 0 cs).map (UInt8.ofNat n :: ·)

/-- The octets of characters; none if the last group is not complete. -/
def decodeBase64 (cs : List Char) : Option (List UInt8) := decodeBase64From 0 0 0 cs

example : encodeBase64 [104, 101, 108, 108, 111] = "aGVsbG8=".toList := by decide +kernel

example : decodeBase64 "aGVsbG8=".toList = some [104, 101, 108, 108, 111] := by decide +kernel

example : decodeBase64 "***".toList = some [] ∧ decodeBase64 "aGVsb".toList = none := by
  decide +kernel

end PropertyFilter.Text
