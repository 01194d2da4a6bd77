import FieldCheck.Text.Hexadecimal
import FieldCheck.Text.Utf8

namespace FieldCheck.Web

/-- The byte that two digits stand for. -/
def byteOf? (high low : UInt8) : Option UInt8 :=
  (Text.valueOfHex? [Char.ofNat high.toNat, Char.ofNat low.toNat]).map UInt8.ofNat

/-- A percent sign without two digits after it stands for itself. -/
def decodeBytes : List UInt8 → List UInt8
  | 0x25 :: high :: low :: rest =>
      match byteOf? high low with
      | some byte => byte :: decodeBytes rest
      | none => 0x25 :: decodeBytes (high :: low :: rest)
  | byte :: rest => byte :: decodeBytes rest
  | [] => []

/-- The text behind the percent signs, unless its bytes are not well-formed. -/
def decodePercent? (text : List Char) : Option (List Char) :=
  Text.ofUtf8? (decodeBytes (Text.utf8 text))

end FieldCheck.Web
