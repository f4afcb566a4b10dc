import Lexicon.Casing

/-! The three lists, their names and their text. -/

namespace Lexicon

inductive ListKind where
  | terms
  | vars
  | consts
  deriving Repr, DecidableEq

namespace ListKind

/-- The order in which they are written. -/
def all : List ListKind := [terms, vars, consts]

def name : ListKind → String
  | terms => "terms"
  | vars => "vars"
  | consts => "const"

def defaultFileName (kind : ListKind) : String := kind.name ++ ".txt"

end ListKind

structure FileNames where
  terms : String := ListKind.terms.defaultFileName
  vars : String := ListKind.vars.defaultFileName
  consts : String := ListKind.consts.defaultFileName
  deriving Repr, DecidableEq

def FileNames.get (names : FileNames) : ListKind → String
  | .terms => names.terms
  | .vars => names.vars
  | .consts => names.consts

structure Wordlists where
  terms : Vocabulary := ∅
  byCasing : ByCasing := {}

def Wordlists.get (lists : Wordlists) : ListKind → Vocabulary
  | .terms => lists.terms
  | .vars => lists.byCasing.lower
  | .consts => lists.byCasing.upper

/-- Drops every element that equals the one after it. -/
def dropRepeats (terms : List String) : List String :=
  terms.foldr (fun term rest => if rest.head? = some term then rest else term :: rest) []

def ascending (terms : List String) : List String := dropRepeats terms.mergeSort

/-- The text of a list: one term a line, with no line break at the end. -/
def listText (terms : List String) : String := "\n".intercalate (ascending terms)

def Wordlists.text (lists : Wordlists) (kind : ListKind) : String :=
  listText (lists.get kind).toList

end Lexicon
