/-
  Trees of text that are shown with four spaces of
  indentation for every level of nesting.

  Key definitions include:
    * `Outline`
    * `Outline.render`
    * `Outline.record`
    * `Outline.wrap`
    * `Outline.list`
    * `Outline.table`
-/

namespace PartitionPruning

/-
  A leaf, an item with a label before it, or items between
  an opening and a closing text.
-/
inductive Outline where
  | leaf (text : String)
  | labelled (label : String) (item : Outline)
  | node (opening closing : String) (items : List Outline)

namespace Outline

------------------------------------------------------------
-- Rendering
------------------------------------------------------------

/- The indentation of a level of nesting. -/
def indentation
    (level : Nat) : String :=
  String.ofList (List.replicate (4 * level) ' ')

mutual

/-
  An outline at a level of nesting.  Items stand on lines of
  their own, and a node without items on one line.
-/
def renderAt
    (level : Nat) : Outline → String
  | leaf text => text
  | labelled label item => label ++ renderAt level item
  | node opening closing [] => opening ++ closing
  | node opening closing (item :: items) =>
      opening ++ "\n" ++
        renderItems (level + 1) (item :: items) ++
        indentation level ++ closing

/- Items on lines of their own. -/
def renderItems
    (level : Nat) : List Outline → String
  | [] => ""
  | item :: items =>
      indentation level ++ renderAt level item ++ ",\n" ++
        renderItems level items

end

/- An outline from its outermost level. -/
def render
    (o : Outline) : String :=
  renderAt 0 o

------------------------------------------------------------
-- Kinds Of Nodes
------------------------------------------------------------

/- Named parts of a named structure. -/
def record
    (name : String)
    (parts : List (String × Outline)) : Outline :=
  node (name ++ " \x7b") "\x7d"
    (parts.map fun (part, o) => labelled (part ++ ": ") o)

/- One item inside a name. -/
def wrap
    (name : String)
    (item : Outline) : Outline :=
  node (name ++ "(") ")" [item]

/- Items between brackets. -/
def list
    (items : List Outline) : Outline :=
  node "[" "]" items

/- Items with the texts that they are found under. -/
def table
    (entries : List (String × Outline)) : Outline :=
  node "\x7b" "\x7d"
    (entries.map fun (key, o) => labelled (key ++ ": ") o)

/- An item that may be missing. -/
def option : Option Outline → Outline
  | none => leaf "None"
  | some item => wrap "Some" item

end Outline

end PartitionPruning
