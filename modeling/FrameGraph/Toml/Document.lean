import FrameGraph.Toml.Value

/-!
# Documents

A document is a sequence of lines. A line may give a key its value, open a
table, or open the next one of several tables under one name; it may also
be empty or hold a comment. What a key names is relative to the table that
was opened last.

The lines are read first, and what they say is then put together. Both can
fail: a table may not be opened twice, and no key may be given two values.

## Main definitions

* `Statement`: What one line says.
* `statements?`: The statements of a text.
* `Statement.run?`: Put one statement to the rest.
* `parse?`: The entries of a document.
-/

namespace FrameGraph.Toml

/-- What one line says. -/
inductive Statement where
  | keyValue (key : List String) (item : Item)
  | openTable (path : List String)
  | openElement (path : List String)

/-- A header, read behind its brackets, with the rest of its line. -/
def header? (close : List Char) : Reader (List String) := fun cs => do
  let (path, cs) ← key? cs
  let cs ← expectWord? close cs
  let cs ← endOfLine? cs
  some (path, cs)

/-- One line that is not blank. A line that says nothing has no statement. -/
def line? : Reader (Option Statement)
  | '[' :: '[' :: rest =>
    (header? [']', ']'] rest).map fun (path, rest) => (some (.openElement path), rest)
  | '[' :: rest =>
    (header? [']'] rest).map fun (path, rest) => (some (.openTable path), rest)
  | cs =>
    match endOfLine? cs with
    | some rest => some (none, rest)
    | none => do
      let ((key, item), cs) ← keyValue? value? cs
      let cs ← endOfLine? cs
      some (some (.keyValue key item), cs)

/-- The statements of a number of lines. -/
def statementsUpTo? : Nat → List Char → Option (List Statement)
  | 0, _ => none
  | rounds + 1, cs =>
    match skipBlanks cs with
    | [] => some []
    | cs =>
      match line? cs with
      | none => none
      | some (statement, rest) =>
        (statementsUpTo? rounds rest).map (statement.toList ++ ·)

/-- The mark that may stand before everything else. -/
def byteOrderMark : Char := '\uFEFF'

/-- The statements of a text. A line takes a character at least, so there
    are no more lines than characters. -/
def statements? (text : List Char) : Option (List Statement) :=
  let text :=
    match text with
    | c :: rest => if c = byteOrderMark then rest else text
    | [] => []
  statementsUpTo? (text.length + 1) text

/-- A document that is being put together. -/
structure Draft where
  form : TableForm
  entries : Entries
  /-- The table that was opened last. -/
  path : List String

namespace Draft

/-- The document before its first line. -/
def empty : Draft := ⟨.header, [], []⟩

/-- The document with the table changed that a path leads to. -/
def change? (draft : Draft) (path : List String) (edit : Edit) : Option Draft :=
  (descend? false edit path draft.form draft.entries).map fun table =>
    { draft with form := table.1, entries := table.2 }

end Draft

/-- Open a table. One that was only on the way to others keeps them. -/
def openTable? (key : String) : Edit := fun form entries =>
  match lookup? entries key with
  | none => some (form, entries ++ [(key, .table .header [])])
  | some (.table .implied inner) => some (form, replace entries key (.table .header inner))
  | some _ => none

/-- Open the next one of several tables under one name. -/
def openElement? (key : String) : Edit := fun form entries =>
  match lookup? entries key with
  | none => some (form, entries ++ [(key, .tables [[]])])
  | some (.tables elements) => some (form, replace entries key (.tables (elements ++ [[]])))
  | some _ => none

namespace Statement

/-- Open a table at a path in some way, and go on there. -/
def openAt? (draft : Draft) (path : List String) (opening : String → Edit) : Option Draft :=
  path.getLast?.bind fun key =>
    (draft.change? path.dropLast (opening key)).map fun draft => { draft with path := path }

/-- Put one statement to the rest, unless it contradicts it. -/
def run? (draft : Draft) : Statement → Option Draft
  | keyValue key item => draft.change? draft.path (insertAt? key item)
  | openTable path => openAt? draft path openTable?
  | openElement path => openAt? draft path openElement?

end Statement

/-- The entries of a document. -/
def parse? (text : String) : Option Entries := do
  let statements ← statements? text.toList
  let draft ← statements.foldlM Statement.run? Draft.empty
  return draft.entries

end FrameGraph.Toml
