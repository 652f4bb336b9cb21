import FrameGraph.Toml.Text

/-!
# Numbers

Whole numbers in decimal, or without a sign in hexadecimal, octal or binary,
and numbers with a fraction or an exponent. Single underscores may stand
between digits. A decimal number has no zeros in front, but the digits
behind the point and those of an exponent may have.

A whole number has to fit into 64 bits with a sign. Of a number with a
fraction only that it is one is of interest, but it must not be so large
that its nearest encoding would be infinite.

## Main definitions

* `digits?`: Digits with underscores between them.
* `integer?`: A whole number.
* `float?`: A number with a fraction or an exponent, or a special value.
-/

namespace FrameGraph.Toml

/-- A decimal digit. -/
def isDigit (c : Char) : Bool := '0' ≤ c && c ≤ '9'

/-- More digits, with at most one underscore before each. -/
def moreDigits? (isDigit : Char → Bool) : Reader (List Char)
  | '_' :: c :: rest =>
    if isDigit c then prepend [c] (moreDigits? isDigit rest) else none
  | c :: rest =>
    if isDigit c then prepend [c] (moreDigits? isDigit rest)
    else if c = '_' then none
    else some ([], c :: rest)
  | [] => some ([], [])

/-- Digits with underscores between them, of which only the digits are
    answered. -/
def digits? (isDigit : Char → Bool) : Reader (List Char)
  | c :: rest => if isDigit c then prepend [c] (moreDigits? isDigit rest) else none
  | [] => none

/-- The number some digits write. -/
def numberOf (base : Nat) (digits : List Char) : Nat :=
  digits.foldl (fun value c => base * value + (hexValue? c).getD 0) 0

/-- A sign, if there is one: whether it is a minus. -/
def sign : List Char → Bool × List Char
  | '+' :: rest => (false, rest)
  | '-' :: rest => (true, rest)
  | cs => (false, cs)

/-- Decimal digits without zeros in front. -/
def decimal? : Reader (List Char)
  | '0' :: rest => some (['0'], rest)
  | cs => digits? isDigit cs

/-- A number that fits into 64 bits with a sign. -/
def inRange? (value : Int) : Option Int :=
  if -9223372036854775808 ≤ value ∧ value ≤ 9223372036854775807 then some value else none

/-- A whole number behind the mark of its base. -/
def basedInteger? (base : Nat) (isDigit : Char → Bool) : Reader Int := fun cs =>
  (digits? isDigit cs).bind fun (digits, rest) =>
    (inRange? (numberOf base digits)).map (·, rest)

/-- A whole number. -/
def integer? : Reader Int
  | '0' :: 'x' :: rest => basedInteger? 16 (fun c => (hexValue? c).isSome) rest
  | '0' :: 'o' :: rest => basedInteger? 8 (fun c => '0' ≤ c && c ≤ '7') rest
  | '0' :: 'b' :: rest => basedInteger? 2 (fun c => c = '0' || c = '1') rest
  | cs =>
    let (negative, cs) := sign cs
    (decimal? cs).bind fun (digits, rest) =>
      let magnitude : Int := numberOf 10 digits
      (inRange? (if negative then -magnitude else magnitude)).map (·, rest)

/-- The least magnitude whose nearest encoding in 64 bits is infinite:
    halfway between the largest finite one and the next power of two. -/
def infiniteFrom : Nat := Nat.pow 2 1024 - Nat.pow 2 970

/-- The magnitude `digits * 10 ^ exponent` is that large. The number of
    digits settles all but the cases near the limit. -/
def overflows (digits : Nat) (exponent : Int) : Bool :=
  let size : Int := (Nat.toDigits 10 digits).length + exponent
  if digits = 0 || size < 308 then false
  else if 310 < size then true
  else if 0 ≤ exponent then infiniteFrom ≤ digits * Nat.pow 10 exponent.toNat
  else infiniteFrom * Nat.pow 10 (-exponent).toNat ≤ digits

/-- The digits behind a point, if there is one. -/
def fraction? : Reader (Option (List Char))
  | '.' :: rest => (digits? isDigit rest).map fun (digits, rest) => (some digits, rest)
  | cs => some (none, cs)

/-- The exponent, if there is one. -/
def exponent? (cs : List Char) : Option (Option Int × List Char) :=
  match cs with
  | [] => some (none, cs)
  | c :: rest =>
    if c = 'e' || c = 'E' then
      let (negative, rest) := sign rest
      (digits? isDigit rest).map fun (digits, rest) =>
        let magnitude : Int := numberOf 10 digits
        (some (if negative then -magnitude else magnitude), rest)
    else some (none, cs)

/-- What follows the name of a special value: infinity, or no number. -/
def special? (cs : List Char) : Option (List Char) :=
  match expectWord? ['i', 'n', 'f'] cs with
  | some rest => some rest
  | none => expectWord? ['n', 'a', 'n'] cs

/-- What follows a number with a fraction or an exponent. -/
def decimalFloat? (cs : List Char) : Option (List Char) :=
  let (negative, cs) := sign cs
  (decimal? cs).bind fun (whole, cs) =>
    (fraction? cs).bind fun (fraction, cs) =>
      (exponent? cs).bind fun (exponent, cs) =>
        let behind := fraction.getD []
        if fraction.isNone && exponent.isNone then none
        else if !negative && overflows (numberOf 10 (whole ++ behind))
            (exponent.getD 0 - behind.length) then none
        else some cs

/-- What follows a number with a fraction or an exponent, or a special
    value. -/
def float? (cs : List Char) : Option (List Char) :=
  match decimalFloat? cs with
  | some rest => some rest
  | none => special? (sign cs).2

end FrameGraph.Toml
