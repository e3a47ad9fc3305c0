/-!
# Paths

A path names a place in a configuration as a list of segments. Its text joins the segments
with a separator; empty segments are dropped when text is split, so leading, trailing and
doubled separators carry no meaning.

* `Path.split` and `Path.join` go between text and segments.
* `Scope` is the separator and the prefix under which a store reads the paths it is given.
-/

namespace ConfigStore

/-- The separator in force until another one is chosen. -/
def defaultSeparator : Char := '/'

namespace Path

/-- The stretches of `text` between occurrences of `separator`, empty ones included. -/
def pieces (separator : Char) : List Char → List (List Char)
  | [] => [[]]
  | c :: rest =>
    if c = separator then [] :: pieces separator rest
    else
      match pieces separator rest with
      | [] => [[c]]
      | piece :: others => (c :: piece) :: others

/-- The segments of a path text. -/
def split (separator : Char) (text : String) : List String :=
  ((pieces separator text.toList).filter (!·.isEmpty)).map String.ofList

/-- The text of a path, each two segments kept apart by the separator. -/
def join (separator : Char) (segments : List String) : String :=
  String.ofList ([separator].intercalate (segments.map String.toList))

/-- What is left of `segments` below `above`; nothing when they do not start with it. -/
def below? : (above segments : List String) → Option (List String)
  | [], segments => some segments
  | _ :: _, [] => none
  | a :: above, s :: segments => if a = s then below? above segments else none

theorem below?_eq_some_iff {above segments rest : List String} :
    below? above segments = some rest ↔ segments = above ++ rest := by
  induction above generalizing segments with
  | nil => simp [below?]
  | cons a above ih =>
    cases segments with
    | nil => simp [below?]
    | cons s segments =>
      by_cases h : a = s
      · simp [below?, h, ih]
      · simp [below?, h, Ne.symm h]

end Path

/-- How a store reads path texts: cut at the separator, and taken below the prefix. -/
structure Scope where
  separator : Char := defaultSeparator
  root : List String := []
deriving DecidableEq, Repr

namespace Scope

def setSeparator (scope : Scope) (separator : Char) : Scope := { scope with separator }

def resetSeparator (scope : Scope) : Scope := scope.setSeparator defaultSeparator

/-- A prefix is always written with the default separator. -/
def setRoot (scope : Scope) (text : String) : Scope :=
  { scope with root := Path.split defaultSeparator text }

def split (scope : Scope) (text : String) : List String :=
  Path.split scope.separator text

/-- The segments of a path text, counted from the top of the store. -/
def resolve (scope : Scope) (text : String) : List String :=
  scope.root ++ scope.split text

/-- Segments counted from the top, as seen from the prefix. -/
def relative? (scope : Scope) (segments : List String) : Option (List String) :=
  Path.below? scope.root segments

def join (scope : Scope) (segments : List String) : String :=
  Path.join scope.separator segments

end Scope

end ConfigStore
