import ConfigStore.Text.Marks

/-!
# Quoted text

Text as shown to a programmer: between quotes, with escapes for quotes, backslashes, and the
characters that would not be seen by themselves.

* `Text.Quoted.write` quotes a text.
-/

namespace ConfigStore.Text.Quoted

/-- Characters without a shape of their own: controls, blanks other than the space, and those
that only act on others. -/
def shapeless : Ranges :=
  Ranges.read
    "0-1F 7F-A0 AD 600-605 61C 6DD 70F 890-891 8E2 9BE 9D7 B3E B57 BBE BD7 CC0 CC2 CC7-CC8
    CCA-CCB CD5-CD6 D3E D57 DCF DDF 1680 1715 1734 180E 1B35 1B3B 1B3D 1B43-1B44 1BAA
    1BF2-1BF3 2000-200F 2028-202F 205F-2064 2066-206F 3000 302E-302F A953 A9C0 E000-F8FF FEFF
    FF9E-FF9F FFF9-FFFB 110BD 110CD 111C0 11235 1133E 1134D 11357 113B8 113C2 113C5
    113C7-113C9 113CF 114B0 114BD 115AF 116B6 11930 1193D 11F41 13430-1343F 16FF0-16FF1
    1BCA0-1BCA3 1D165-1D166 1D16D-1D17A E0001 E0020-E007F F0000-FFFFD 100000-10FFFD"

/-- The escape of a character by its number. -/
def byNumber (c : Char) : List Char :=
  "\\u\x7b".toList ++ Nat.toDigits 16 c.toNat ++ "\x7d".toList

/-- A character as it stands between quotes. -/
def writeChar (c : Char) : List Char :=
  if c = '"' ∨ c = '\\' then ['\\', c]
  else if c = '\x00' then ['\\', '0']
  else if c = '\t' then ['\\', 't']
  else if c = '\n' then ['\\', 'n']
  else if c = '\r' then ['\\', 'r']
  else if shapeless.holds c || Marks.isNonspacing c then byNumber c
  else [c]

def write (text : String) : String :=
  String.ofList ('"' :: text.toList.flatMap writeChar ++ ['"'])

end ConfigStore.Text.Quoted
