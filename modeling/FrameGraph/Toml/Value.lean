import FrameGraph.Toml.DateTime

/-!
# Values and Tables

A value is a string, a number, a truth value, a date, an array or a table.
Tables come in several forms, and which one it is decides who may add to it
later. A table written between braces is finished. One that a header opened
may get subtables by other headers. One that only came to be on the way to
another may still be opened by a header of its own, or, if dotted keys
brought it about, be added to by dotted keys.

Arrays and tables may be nested, but only so deep; the same limit holds for
the parts of a dotted key.

## Main definitions

* `Item`, `Entries`, `TableForm`: A value, the contents of a table, and who
  may add to it.
* `descend?`: Change the table that a path leads to.
* `insertAt?`: Add what a dotted key names.
* `key?`, `value?`: Read a dotted key, and a value.
-/

namespace FrameGraph.Toml

/-- How a table came to be. -/
inductive TableForm where
  /-- Written between braces. -/
  | inline
  /-- Opened by a header, or the document itself. -/
  | header
  /-- On the way to the table of a header. -/
  | implied
  /-- On the way to the value of a dotted key. -/
  | dotted
  deriving DecidableEq, Repr

/-- A value. -/
inductive Item where
  | string (value : String)
  | integer (value : Int)
  | boolean (value : Bool)
  | float
  | dateTime
  | array (items : List Item)
  | table (form : TableForm) (entries : List (String × Item))
  /-- Tables that headers of one name opened one after the other. -/
  | tables (elements : List (List (String × Item)))

/-- The contents of a table, in order. -/
abbrev Entries := List (String × Item)

namespace Item

/-- The value is an array or a table, and there is nothing in it. -/
def isEmptyCollection : Item → Bool
  | array items => items.isEmpty
  | table _ entries => entries.isEmpty
  | tables elements => elements.isEmpty
  | _ => false

end Item

/-- The value of a key. -/
def lookup? (entries : Entries) (key : String) : Option Item :=
  (entries.find? fun entry => entry.1 = key).map (·.2)

/-- The entries with another value under a key that is there. -/
def replace (entries : Entries) (key : String) (item : Item) : Entries :=
  entries.map fun entry => if entry.1 = key then (key, item) else entry

/-- The elements with the last one changed, if that works and there is one. -/
def changeLast? (change : Entries → Option Entries) : List Entries → Option (List Entries)
  | [] => none
  | [last] => (change last).map ([·])
  | first :: rest => (changeLast? change rest).map (first :: ·)

/-- A change to a table, unless it is not allowed. -/
abbrev Edit := TableForm → Entries → Option (TableForm × Entries)

/-- Change the table that a path leads to, making what is missing on the
    way. A dotted key may not pass through a table of a header, nothing may
    pass through a finished value, and of several tables of one name the
    last one is meant. -/
def descend? (dotted : Bool) (edit : Edit) : List String → Edit
  | [], form, entries => edit form entries
  | key :: path, form, entries =>
    match lookup? entries key with
    | none =>
      (descend? dotted edit path (if dotted then .dotted else .implied) []).map fun inner =>
        (form, entries ++ [(key, .table inner.1 inner.2)])
    | some (.table innerForm inner) =>
      if innerForm = .inline || (dotted && innerForm = .header) then none
      else
        (descend? dotted edit path innerForm inner).map fun inner =>
          (form, replace entries key (.table inner.1 inner.2))
    | some (.tables elements) =>
      (changeLast? (fun inner => (descend? dotted edit path .header inner).map (·.2)) elements).map
        fun elements => (form, replace entries key (.tables elements))
    | some _ => none

/-- Add a key that is not there. Keys without dots belong to tables that
    dotted keys did not make, and dotted keys to the ones they made. -/
def addKey? (dotted : Bool) (key : String) (item : Item) : Edit := fun form entries =>
  if decide (form = .dotted) ≠ dotted || (lookup? entries key).isSome then none
  else some (form, entries ++ [(key, item)])

/-- Add what a dotted key names, given its parts. -/
def insertAt? (parts : List String) (item : Item) : Edit :=
  match parts.getLast? with
  | none => fun _ _ => none
  | some key =>
    let path := parts.dropLast
    descend? true (addKey? (!path.isEmpty) key item) path

/-- How deep arrays and tables may be nested, and how many parts a dotted key
    may have. -/
def depthLimit : Nat := 79

/-- A character of a key without quotes. -/
def isKeyChar (c : Char) : Bool :=
  ('a' ≤ c && c ≤ 'z') || ('A' ≤ c && c ≤ 'Z') || isDigit c || c = '-' || c = '_'

/-- One part of a dotted key, with the blanks around it. -/
def keyPart? : Reader String := fun cs =>
  let cs := skipBlanks cs
  let part :=
    match cs with
    | '"' :: _ => basicString? cs
    | '\'' :: _ => literalString? cs
    | _ =>
      let name := cs.takeWhile isKeyChar
      if name.isEmpty then none else some (String.ofList name, cs.dropWhile isKeyChar)
  part.map fun (part, rest) => (part, skipBlanks rest)

/-- A dotted key: its parts, at least one and not too many. -/
def key? : Reader (List String) := fun cs =>
  let (parts, rest) := separated '.' keyPart? cs
  if parts.isEmpty || depthLimit < parts.length then none else some (parts, rest)

/-- A key and its value, with the blanks before the value. -/
def keyValue? (value : Reader Item) : Reader (List String × Item) := fun cs => do
  let (key, cs) ← key? cs
  let cs ← expect? '=' cs
  let (item, cs) ← value (skipBlanks cs)
  some ((key, item), cs)

/-- A value without parts. -/
def scalar? (cs : List Char) : Option (Item × List Char) :=
  match cs with
  | [] => none
  | c :: _ =>
    if c = '"' || c = '\'' then (string? cs).map fun (text, rest) => (.string text, rest)
    else if c = '+' || c = '-' || isDigit c then
      match dateTime? cs with
      | some rest => some (.dateTime, rest)
      | none =>
        match float? cs with
        | some rest => some (.float, rest)
        | none => (integer? cs).map fun (value, rest) => (.integer value, rest)
    else if c = 't' then
      (expectWord? ['t', 'r', 'u', 'e'] cs).map (.boolean true, ·)
    else if c = 'f' then
      (expectWord? ['f', 'a', 'l', 's', 'e'] cs).map (.boolean false, ·)
    else (special? cs).map (.float, ·)

/-- An element of an array, with blanks, lines and comments around it. -/
def element? (value : Reader Item) : Reader Item := fun cs => do
  let cs ← skipLines false cs
  let (item, cs) ← value cs
  let cs ← skipLines false cs
  some (item, cs)

/-- An array, read behind its bracket. There may be a comma after the last
    element. -/
def array? (value : Reader Item) : Reader Item := fun cs =>
  let (elements, cs) := separated ',' (element? value) cs
  let cs := if elements.isEmpty then cs else (expect? ',' cs).getD cs
  (skipLines false cs).bind fun cs =>
    (expect? ']' cs).map (.array elements, ·)

/-- The table of some keys and values, if they go together. -/
def tableOf? (pairs : List (List String × Item)) : Option Item :=
  (pairs.foldlM (fun table pair => insertAt? pair.1 pair.2 table.1 table.2)
    ((.inline, []) : TableForm × Entries)).map fun table => .table table.1 table.2

/-- A table between braces, read behind the first one. It stays on one line,
    and there is no comma after the last entry. -/
def inlineTable? (value : Reader Item) : Reader Item := fun cs =>
  let entry : Reader (List String × Item) := fun cs =>
    (keyValue? value cs).map fun (pair, rest) => (pair, skipBlanks rest)
  let (pairs, cs) := separated ',' entry cs
  (expect? '\x7d' (skipBlanks cs)).bind fun cs => (tableOf? pairs).map (·, cs)

/-- A value with at most so many arrays and tables around one another. -/
def valueWithin? : Nat → Reader Item
  | 0, cs => scalar? cs
  | depth + 1, cs =>
    match cs with
    | '[' :: rest => array? (valueWithin? depth) rest
    | '\x7b' :: rest => inlineTable? (valueWithin? depth) rest
    | _ => scalar? cs

/-- A value. -/
def value? : Reader Item := valueWithin? depthLimit

end FrameGraph.Toml
