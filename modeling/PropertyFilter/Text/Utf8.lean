/-!
# Octets and text

Reading octets as UTF-8 in its strict form (no overlong forms, no surrogates, nothing above
`U+10FFFF`) and writing text as octets.

## Main definitions

* `decodeUtf8`: the text of octets, if they are well formed
* `encodeUtf8`: the octets of a text
-/

namespace PropertyFilter.Text

/-- A continuation octet carries six bits. -/
def isContinuation (b : UInt8) : Bool := b &&& 0xc0 == 0x80

/-- The low six bits of a continuation octet. -/
def payload (b : UInt8) : Nat := (b &&& 0x3f).toNat

/-- Reads octets as UTF-8; `none` where they are not well formed. -/
def decodeUtf8 : List UInt8 → Option (List Char)
  | [] => some []
  | a :: rest =>
    if a < 0x80 then (decodeUtf8 rest).map (Char.ofNat a.toNat :: ·)
    else match rest with
    | b :: rest₂ =>
      if 0xc2 ≤ a && a ≤ 0xdf then
        if isContinuation b then
          (decodeUtf8 rest₂).map (Char.ofNat ((a.toNat - 0xc0) * 64 + payload b) :: ·)
        else none
      else match rest₂ with
      | c :: rest₃ =>
        if 0xe0 ≤ a && a ≤ 0xef then
          let n := (a.toNat - 0xe0) * 4096 + payload b * 64 + payload c
          if isContinuation b && isContinuation c && 0x800 ≤ n && !(0xd800 ≤ n && n ≤ 0xdfff) then
            (decodeUtf8 rest₃).map (Char.ofNat n :: ·)
          else none
        else match rest₃ with
        | d :: rest₄ =>
          if 0xf0 ≤ a && a ≤ 0xf4 then
            let n := (a.toNat - 0xf0) * 262144 + payload b * 4096 + payload c * 64 + payload d
            if isContinuation b && isContinuation c && isContinuation d
                && 0x10000 ≤ n && n ≤ 0x10ffff then
              (decodeUtf8 rest₄).map (Char.ofNat n :: ·)
            else none
          else none
        | [] => none
      | [] => none
    | [] => none

/-- The octets of a text. -/
def encodeUtf8 (s : String) : List UInt8 := s.toUTF8.toList

@[simp] theorem decodeUtf8_nil : decodeUtf8 [] = some [] := by
  simp [decodeUtf8]

end PropertyFilter.Text
