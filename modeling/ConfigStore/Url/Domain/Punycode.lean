/-!
# Punycode

Labels with characters outside of ASCII are written with letters and digits only. What is
ASCII stands in front of the last hyphen; behind it, the other characters are given in the
order of their numbers by the distances from one place and number to the next.

* `Domain.Punycode.encode` writes a label, `Domain.Punycode.decode?` reads one.
* Numbers are written with digits to a base of 36, where a digit below a threshold is the last
  one. Thresholds follow the bias, which `Domain.Punycode.adapt` fits to the distances.
-/

namespace ConfigStore.Url.Domain.Punycode

/-! ## Digits -/

def base : Nat := 36

/-- The letters stand for the digits below 26, and `0` to `9` for the others. -/
def digit (d : Nat) : Char := if d < 26 then Char.ofNat (d + 97) else Char.ofNat (d - 26 + 48)

def digit? (c : Char) : Option Nat :=
  let n := c.toNat
  if 97 ≤ n ∧ n ≤ 122 then some (n - 97)
  else if 65 ≤ n ∧ n ≤ 90 then some (n - 65)
  else if 48 ≤ n ∧ n ≤ 57 then some (n - 48 + 26)
  else none

/-- The threshold for the digit at a place, where places count in steps of the base. -/
def threshold (bias place : Nat) : Nat := max 1 (min 26 (place - bias))

/-- Divide until the distance is small, and count the steps. -/
def flatten (delta steps : Nat) : Nat × Nat :=
  if 455 < delta then flatten (delta / 35) (steps + 1) else (delta, steps)
termination_by delta
decreasing_by omega

/-- The bias behind a distance, where so many characters are in place. -/
def adapt (delta count : Nat) (first : Bool) : Nat :=
  let delta := if first then delta / 700 else delta / 2
  let (delta, steps) := flatten (delta + delta / count) 0
  steps * base + base * delta / (delta + 38)

def initialBias : Nat := 72

/-- The least number of the characters outside of ASCII. -/
def firstNumber : Nat := 128

/-! ## Writing -/

theorem threshold_pos (bias place : Nat) : 0 < threshold bias place := by
  unfold threshold
  omega

/-- The digits of a distance, from the given place on. -/
def encodeNumber (bias place n : Nat) : List Char :=
  let t := threshold bias place
  if n < t then [digit n]
  else
    digit (t + (n - t) % (base - t)) ::
      encodeNumber bias (place + base) ((n - t) / (base - t))
termination_by n
decreasing_by
  have hPos := threshold_pos bias place
  have hLe : (n - threshold bias place) / (base - threshold bias place) ≤
      n - threshold bias place := Nat.div_le_self ..
  omega

/-- What is known while a label is written: the digits so far, the distance since the last of
them, the bias, and how many characters are in place. -/
structure Progress where
  written : List Char := []
  delta : Nat := 0
  bias : Nat := initialBias
  count : Nat

/-- Go on over a character of the label, where the characters with the number `n` are being
put in place. -/
def Progress.over (basic n : Nat) (progress : Progress) (c : Char) : Progress :=
  if c.toNat < n then { progress with delta := progress.delta + 1 }
  else if c.toNat = n then
    { written := progress.written ++ encodeNumber progress.bias base progress.delta
      delta := 0
      bias := adapt progress.delta (progress.count + 1) (progress.count = basic)
      count := progress.count + 1 }
  else progress

/-- Put the characters with the given numbers in place, which start at `least` or above. -/
def encodeNumbers (label : List Char) (basic : Nat) (progress : Progress) (least : Nat) :
    List Nat → Progress
  | [] => progress
  | n :: rest =>
    let start := { progress with
      delta := progress.delta + (n - least) * (progress.count + 1) }
    let next := label.foldl (Progress.over basic n) start
    encodeNumbers label basic { next with delta := next.delta + 1 } (n + 1) rest

/-- The numbers of the characters outside of ASCII, in order and each once. -/
def numbers (label : List Char) : List Nat :=
  ((label.map Char.toNat).filter (firstNumber ≤ ·)).mergeSort.eraseDups

/-- The written form of a label. -/
def encode (label : List Char) : List Char :=
  let basic := label.filter (·.toNat < firstNumber)
  let progress :=
    encodeNumbers label basic.length { count := basic.length } firstNumber (numbers label)
  (if basic = [] then [] else basic ++ ['-']) ++ progress.written

/-! ## Reading -/

/-- Read the digits of a distance from the given place on, each worth `weight` times the one
before, and add them to `sum`. -/
def decodeNumber? (bias place weight sum : Nat) : List Char → Option (Nat × List Char)
  | [] => none
  | c :: rest =>
    match digit? c with
    | none => none
    | some d =>
      let t := threshold bias place
      if d < t then some (sum + d * weight, rest)
      else decodeNumber? bias (place + base) (weight * (base - t)) (sum + d * weight) rest

theorem length_decodeNumber? {bias place weight sum n : Nat} {text rest : List Char}
    (h : decodeNumber? bias place weight sum text = some (n, rest)) :
    rest.length < text.length := by
  induction text generalizing place weight sum with
  | nil => simp [decodeNumber?] at h
  | cons c more ih =>
    rw [decodeNumber?] at h
    split at h
    · cases h
    · dsimp only at h
      split at h
      · cases h
        exact Nat.lt_succ_self _
      · exact Nat.lt_succ_of_lt (ih h)

/-- Put characters into a label, of which the next one goes behind `place` others and has the
given number or a higher one. -/
def decodeNumbers? (label : List Char) (number place bias : Nat) (first : Bool)
    (text : List Char) : Option (List Char) :=
  match text with
  | [] => some label
  | c :: more =>
    match _h : decodeNumber? bias base 1 place (c :: more) with
    | none => none
    | some (next, rest) =>
      let count := label.length + 1
      let number := number + next / count
      let index := next % count
      if number.isValidChar then
        decodeNumbers? (label.take index ++ Char.ofNat number :: label.drop index) number
          (index + 1) (adapt (next - place) count first) false rest
      else none
termination_by text.length
decreasing_by exact length_decodeNumber? _h

/-- The label that a text is the written form of. -/
def decode? (text : List Char) : Option (List Char) :=
  let read (label digits : List Char) : Option (List Char) :=
    decodeNumbers? label firstNumber 0 initialBias true digits
  match text.reverse.dropWhile (· ≠ '-') with
  | _ :: c :: basic => read (c :: basic).reverse (text.reverse.takeWhile (· ≠ '-')).reverse
  | _ => read [] text

end ConfigStore.Url.Domain.Punycode
