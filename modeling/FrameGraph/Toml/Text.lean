import FrameGraph.Toml.Reader

/-!
# Strings

A string stands between double quotes, with escapes, or between single
quotes, where every character stands for itself. Three quotes instead of one
let a string run over several lines; a line end right behind them is not
part of it, and one or two quotes inside do not end it. Whatever the line
ends look like in the text, in the string they are line feeds.

## Main definitions

* `escape?`: The character behind a backslash.
* `basicString?`, `literalString?`: A string on one line.
* `string?`: A string of any form.
-/

namespace FrameGraph.Toml

/-- A character that may stand in any string: no control but the tab. -/
def isTextChar (c : Char) : Bool := isCommentChar c

/-- The value of a hexadecimal digit. -/
def hexValue? (c : Char) : Option Nat :=
  if '0' ≤ c && c ≤ '9' then some (c.toNat - '0'.toNat)
  else if 'a' ≤ c && c ≤ 'f' then some (c.toNat - 'a'.toNat + 10)
  else if 'A' ≤ c && c ≤ 'F' then some (c.toNat - 'A'.toNat + 10)
  else none

/-- The number that some count of hexadecimal digits write. -/
def hexNumber? : Nat → Nat → Reader Nat
  | 0, value, cs => some (value, cs)
  | _ + 1, _, [] => none
  | count + 1, value, c :: rest =>
    (hexValue? c).bind fun digit => hexNumber? count (16 * value + digit) rest

/-- The character with a code point, if there is one. -/
def charOf? (code : Nat) : Option Char :=
  if code.isValidChar then some (Char.ofNat code) else none

/-- A character written as a count of hexadecimal digits. -/
def codePoint? (digits : Nat) : Reader Char := fun cs =>
  match hexNumber? digits 0 cs with
  | none => none
  | some (code, rest) => (charOf? code).map (·, rest)

/-- The character that an escape stands for, read behind the backslash. -/
def escape? : Reader Char
  | 'b' :: rest => some ('\x08', rest)
  | 'f' :: rest => some ('\x0c', rest)
  | 'n' :: rest => some ('\n', rest)
  | 'r' :: rest => some ('\r', rest)
  | 't' :: rest => some ('\t', rest)
  | '"' :: rest => some ('"', rest)
  | '\\' :: rest => some ('\\', rest)
  | 'u' :: rest => codePoint? 4 rest
  | 'U' :: rest => codePoint? 8 rest
  | _ => none

/-- Characters in front of what a reader answers. -/
def prepend (front : List Char) (answer : Option (List Char × List Char)) :
    Option (List Char × List Char) :=
  answer.map fun (text, rest) => (front ++ text, rest)

/-- The rest of a string on one line with escapes, up to its quote. -/
def basicBody? : Nat → Reader (List Char)
  | 0, _ => none
  | _ + 1, [] => none
  | _ + 1, '"' :: rest => some ([], rest)
  | rounds + 1, '\\' :: rest =>
    (escape? rest).bind fun (c, rest) => prepend [c] (basicBody? rounds rest)
  | rounds + 1, c :: rest => if isTextChar c then prepend [c] (basicBody? rounds rest) else none

/-- A string on one line with escapes. -/
def basicString? : Reader String
  | '"' :: rest =>
    (basicBody? (rest.length + 1) rest).map fun (text, rest) => (String.ofList text, rest)
  | _ => none

/-- A string on one line without escapes. -/
def literalString? : Reader String
  | '\'' :: rest =>
    let text := rest.takeWhile fun c => isTextChar c && c ≠ '\''
    (expect? '\'' (rest.drop text.length)).map (String.ofList text, ·)
  | _ => none

/-- The characters without blanks and line ends in front. -/
def skipFold : List Char → List Char
  | '\n' :: rest => skipFold rest
  | '\r' :: '\n' :: rest => skipFold rest
  | c :: rest => if isBlank c then skipFold rest else c :: rest
  | [] => []

/-- What follows the backslash at the end of a line: the next character that
    is neither blank nor line end. -/
def fold? (cs : List Char) : Option (List Char) := (newline? (skipBlanks cs)).map skipFold

/-- The rest of a string over several lines, up to its three quotes. One or
    two quotes belong to it, and so do two in front of the last three. -/
def multilineBody? (quote : Char) (escapes : Bool) : Nat → Reader (List Char)
  | 0, _ => none
  | _ + 1, [] => none
  | rounds + 1, '\n' :: rest => prepend ['\n'] (multilineBody? quote escapes rounds rest)
  | rounds + 1, '\r' :: '\n' :: rest =>
    prepend ['\n'] (multilineBody? quote escapes rounds rest)
  | rounds + 1, c :: rest =>
    if c = quote then
      let run := ((c :: rest).takeWhile fun d => d = quote).length
      let inside := if run ≤ 2 then run else min (run - 3) 2
      let quotes := List.replicate inside quote
      if run ≤ 2 then prepend quotes (multilineBody? quote escapes rounds ((c :: rest).drop run))
      else some (quotes, (c :: rest).drop (inside + 3))
    else if escapes && c = '\\' then
      match fold? rest with
      | some rest => multilineBody? quote escapes rounds rest
      | none =>
        (escape? rest).bind fun (c, rest) =>
          prepend [c] (multilineBody? quote escapes rounds rest)
    else if isTextChar c then prepend [c] (multilineBody? quote escapes rounds rest)
    else none

/-- A string over several lines, read behind its opening quotes. -/
def multilineString? (quote : Char) (escapes : Bool) : Reader String := fun cs =>
  let cs := (newline? cs).getD cs
  (multilineBody? quote escapes (cs.length + 1) cs).map fun (text, rest) =>
    (String.ofList text, rest)

/-- A string of any form. -/
def string? : Reader String
  | '"' :: '"' :: '"' :: rest => multilineString? '"' true rest
  | '\'' :: '\'' :: '\'' :: rest => multilineString? '\'' false rest
  | '"' :: rest => basicString? ('"' :: rest)
  | cs => literalString? cs

end FrameGraph.Toml
