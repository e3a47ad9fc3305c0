import ConfigStore.Json.Scanner
import ConfigStore.Text.Utf8

/-!
# Reading documents

A document is read from left to right with a stack of the arrays and objects that are still
open. Reading a value either opens another of them or finishes a value; finishing a value
puts it into the innermost one and closes it, or goes on behind a comma.

* `Json.read` reads a whole document; `SyntaxError` is a fault with its line and column.
* At most 127 arrays and objects may be open at a time.
* Of the members of one name the last one counts.
-/

namespace ConfigStore.Json

/-- An array or object that is still open. -/
inductive Frame where
  | array (items : List Json)
  /-- The members read so far, and the name whose value is being read. -/
  | object (members : List (String × Json)) (name : String)

/-- How many arrays and objects may be open at a time. -/
def maxDepth : Nat := 127

/-- Read the name of a member behind its quotation mark, and the colon behind it. -/
def readName (text : List Char) : Except Fault (String × List Char) :=
  match readString text with
  | .error fault => .error fault
  | .ok (name, rest) =>
    match skipBlanks rest with
    | [] => .error ⟨.endInObject, 0⟩
    | ':' :: more => .ok (String.ofList name, more)
    | more => .error (faultAt .expectedColon more)

theorem length_readName {text rest : List Char} {name : String}
    (h : readName text = .ok (name, rest)) : rest.length < text.length := by
  unfold readName at h
  split at h
  · cases h
  next chars more hString =>
    have hMore := length_readString hString
    have hBlanks := length_skipBlanks more
    split at h
    · cases h
    next tail hTail =>
      cases h
      rw [hTail] at hBlanks
      simp only [List.length_cons] at hBlanks
      omega
    · cases h

mutual

/-- Read a value inside the open arrays and objects. -/
def readValue (stack : List Frame) (text : List Char) : Except Fault Json :=
  match _hText : skipBlanks text with
  | [] => .error ⟨.endInValue, 0⟩
  | '"' :: rest =>
    match _h : readString rest with
    | .error fault => .error fault
    | .ok (chars, more) => finish stack (.string (String.ofList chars)) more
  | '[' :: rest =>
    if maxDepth ≤ stack.length then .error (faultAt .tooDeep ('[' :: rest))
    else
      match _h : skipBlanks rest with
      | [] => .error ⟨.endInArray, 0⟩
      | ']' :: more => finish stack (.array []) more
      | more => readValue (.array [] :: stack) more
  | '\x7b' :: rest =>
    if maxDepth ≤ stack.length then .error (faultAt .tooDeep ('\x7b' :: rest))
    else
      match _h : skipBlanks rest with
      | [] => .error ⟨.endInObject, 0⟩
      | '\x7d' :: more => finish stack (.object []) more
      | '"' :: more =>
        match _hName : readName more with
        | .error fault => .error fault
        | .ok (name, tail) => readValue (.object [] name :: stack) tail
      | more => .error (faultAt .keyNotString more)
  | 'n' :: rest =>
    match _h : readWord ['u', 'l', 'l'] rest with
    | .error fault => .error fault
    | .ok more => finish stack .null more
  | 't' :: rest =>
    match _h : readWord ['r', 'u', 'e'] rest with
    | .error fault => .error fault
    | .ok more => finish stack (.bool true) more
  | 'f' :: rest =>
    match _h : readWord ['a', 'l', 's', 'e'] rest with
    | .error fault => .error fault
    | .ok more => finish stack (.bool false) more
  | '-' :: rest =>
    match _h : readNumber true rest with
    | .error fault => .error fault
    | .ok (n, more) => finish stack (.number n) more
  | c :: rest =>
    if (Decimal.digit? c).isSome then
      match _h : readNumber false (c :: rest) with
      | .error fault => .error fault
      | .ok (n, more) => finish stack (.number n) more
    else .error (faultAt .expectedValue (c :: rest))
termination_by text.length
decreasing_by
  all_goals
    have hBlanks := length_skipBlanks text
    rw [_hText] at hBlanks
    simp only [List.length_cons] at hBlanks
  · have := length_readString _h
    omega
  · have := length_skipBlanks rest
    rw [_h] at this
    simp only [List.length_cons] at this
    omega
  · have := length_skipBlanks rest
    rw [_h] at this
    omega
  · have := length_skipBlanks rest
    rw [_h] at this
    simp only [List.length_cons] at this
    omega
  · have := length_skipBlanks rest
    rw [_h] at this
    simp only [List.length_cons] at this
    have := length_readName _hName
    omega
  · have := length_readWord _h
    omega
  · have := length_readWord _h
    omega
  · have := length_readWord _h
    omega
  · have := length_readNumber _h
    omega
  · have := length_readNumber _h
    simp only [List.length_cons] at this
    omega

/-- Put a finished value where it belongs and go on behind it. -/
def finish (stack : List Frame) (value : Json) (text : List Char) : Except Fault Json :=
  match stack with
  | [] =>
    match skipBlanks text with
    | [] => .ok value
    | rest => .error (faultAt .trailingCharacters rest)
  | .array items :: stack =>
    match _hText : skipBlanks text with
    | [] => .error ⟨.endInArray, 0⟩
    | ']' :: rest => finish stack (.array (items ++ [value])) rest
    | ',' :: rest =>
      match _h : skipBlanks rest with
      | [] => .error ⟨.endInValue, 0⟩
      | ']' :: more => .error (faultAt .trailingComma (']' :: more))
      | more => readValue (.array (items ++ [value]) :: stack) more
    | rest => .error (faultAt .expectedCommaOrBracket rest)
  | .object members name :: stack =>
    match _hText : skipBlanks text with
    | [] => .error ⟨.endInObject, 0⟩
    | '\x7d' :: rest => finish stack (.object (Entries.insert name value members)) rest
    | ',' :: rest =>
      match _h : skipBlanks rest with
      | [] => .error ⟨.endInValue, 0⟩
      | '\x7d' :: more => .error (faultAt .trailingComma ('\x7d' :: more))
      | '"' :: more =>
        match _hName : readName more with
        | .error fault => .error fault
        | .ok (next, tail) =>
          readValue (.object (Entries.insert name value members) next :: stack) tail
      | more => .error (faultAt .keyNotString more)
    | rest => .error (faultAt .expectedCommaOrBrace rest)
termination_by text.length
decreasing_by
  all_goals
    have hBlanks := length_skipBlanks text
    rw [_hText] at hBlanks
    simp only [List.length_cons] at hBlanks
  · omega
  · have := length_skipBlanks rest
    rw [_h] at this
    omega
  · omega
  · have := length_skipBlanks rest
    rw [_h] at this
    simp only [List.length_cons] at this
    have := length_readName _hName
    omega

end

/-! ## Faults with their position -/

/-- Line and column, both counted from one, of the byte in front of the given rest. -/
structure SyntaxError where
  reason : Reason
  line : Nat
  column : Nat
deriving DecidableEq, Repr

/-- Where a fault lies in a text. The column counts bytes of the line up to the fault. -/
def Fault.locate (fault : Fault) (text : List Char) : SyntaxError :=
  let bytes := Utf8.encode text
  let before := bytes.take (bytes.length - fault.left)
  { reason := fault.reason
    line := before.count 10 + 1
    column := (before.reverse.takeWhile (· ≠ 10)).length }

def SyntaxError.message (error : SyntaxError) : String :=
  s!"{error.reason.message} at line {error.line} column {error.column}"

/-- The document that a text writes. -/
def read (text : String) : Except SyntaxError Json :=
  (readValue [] text.toList).mapError (·.locate text.toList)

end ConfigStore.Json
