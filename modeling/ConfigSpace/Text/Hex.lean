/-!
# Numbers as text

Messages and log events write numbers in three ways: `0x` and upper-case
hexadecimal digits, lower-case hexadecimal digits padded to a width, and decimal
digits padded to a width.  A minus sign stands directly before the digits, so
after `0x`, and counts towards the width; a number wider than the width is
written in full.
-/

namespace ConfigSpace.Text

/-- The text of a number: a sign for the negative ones, then `digits` of its
magnitude, with zeros between the two up to `width` characters. -/
def padded (width : Nat) (digits : Nat → List Char) (n : Int) : List Char :=
  let sign := if n < 0 then ['-'] else []
  let body := digits n.natAbs
  sign ++ List.replicate (width - sign.length - body.length) '0' ++ body

/-- `0x` and the upper-case hexadecimal digits of `n`, at least `width` of them. -/
def hexUpper (n : Int) (width : Nat) : String :=
  "0x" ++ String.ofList (padded width (fun k => (Nat.toDigits 16 k).map Char.toUpper) n)

/-- The offset or identifier `n` as `0x` and upper-case hexadecimal digits. -/
def hex (n : Int) : String :=
  hexUpper n 0

/-- The lower-case hexadecimal digits of `n`, at least `width` characters. -/
def hexLower (n : Int) (width : Nat) : String :=
  String.ofList (padded width (Nat.toDigits 16) n)

/-- The decimal digits of `n`, at least `width` characters. -/
def decimal (n : Int) (width : Nat) : String :=
  String.ofList (padded width (Nat.toDigits 10) n)

end ConfigSpace.Text
