/-!
# Reading Characters

A reader takes something off the front of a list of characters and answers
it with the rest, or nothing if it is not there. Blanks, comments and line
ends are read here, and lists of things with separators between them.

A line ends with a line feed, alone or after a carriage return; a carriage
return that stands alone is no line end and no blank either.

## Main definitions

* `Reader`: The shape of every reader.
* `skipBlanks`, `skipLines`: Leave out blanks, or also lines and comments.
* `newline?`, `endOfLine?`: Read a line end.
* `separated`: Things with a separator between them.
-/

namespace FrameGraph.Toml

/-- Takes something off the front of the characters. -/
abbrev Reader (α : Type) := List Char → Option (α × List Char)

/-- A space or a tab. -/
def isBlank (c : Char) : Bool := c = ' ' || c = '\t'

/-- A character that may stand in a comment: no control but the tab. -/
def isCommentChar (c : Char) : Bool :=
  c = '\t' || (0x20 ≤ c.toNat && c.toNat ≠ 0x7F)

/-- The characters without the blanks in front. -/
def skipBlanks (cs : List Char) : List Char := cs.dropWhile isBlank

/-- What follows a line end. -/
def newline? : List Char → Option (List Char)
  | '\n' :: rest => some rest
  | '\r' :: '\n' :: rest => some rest
  | _ => none

/-- What follows the rest of a line that holds nothing more, save a comment.
    The text may end there too. -/
def endOfLine? (cs : List Char) : Option (List Char) :=
  let cs :=
    match skipBlanks cs with
    | '#' :: rest => rest.dropWhile isCommentChar
    | cs => cs
  match cs with
  | [] => some []
  | cs => newline? cs

/-- The characters without blanks, line ends and comments in front, inside a
    comment or not. A comment may not hold a control character. -/
def skipLines : Bool → List Char → Option (List Char)
  | _, [] => some []
  | _, '\n' :: rest => skipLines false rest
  | _, '\r' :: '\n' :: rest => skipLines false rest
  | true, c :: rest => if isCommentChar c then skipLines true rest else none
  | false, '#' :: rest => skipLines true rest
  | false, c :: rest => if isBlank c then skipLines false rest else some (c :: rest)

/-- As many things as can be read with separators between them. A separator
    with nothing readable behind it is left. -/
def separatedUpTo {α : Type} (separator : Char) (one : Reader α) :
    Nat → List Char → List α × List Char
  | 0, cs => ([], cs)
  | rounds + 1, cs =>
    match one cs with
    | none => ([], cs)
    | some (first, rest) =>
      match rest with
      | [] => ([first], rest)
      | c :: behind =>
        if c = separator then
          match separatedUpTo separator one rounds behind with
          | ([], _) => ([first], rest)
          | (more, rest) => (first :: more, rest)
        else ([first], rest)

/-- As many things as can be read with separators between them. Each takes a
    character at least, so there are no more of them than characters. -/
def separated {α : Type} (separator : Char) (one : Reader α) (cs : List Char) :
    List α × List Char :=
  separatedUpTo separator one (cs.length + 1) cs

/-- What follows a given character. -/
def expect? (wanted : Char) : List Char → Option (List Char)
  | [] => none
  | c :: rest => if c = wanted then some rest else none

/-- What follows a given word. -/
def expectWord? : List Char → List Char → Option (List Char)
  | [], cs => some cs
  | wanted :: word, cs => (expect? wanted cs).bind (expectWord? word)

end FrameGraph.Toml
