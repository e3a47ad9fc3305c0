import ConfigStore.Text.Percent

/-!
# Characters escaped in URLs

The characters that may not stand for themselves in each part of a URL. Control characters
and everything outside of ASCII are escaped in all of them.
-/

namespace ConfigStore.Url.Escape

def control (c : Char) : Bool := c.toNat < 0x20 || 0x7E < c.toNat

def fragment (c : Char) : Bool := control c || " \"<>`".toList.contains c

def path (c : Char) : Bool := fragment c || "#?\x7b\x7d".toList.contains c

def userinfo (c : Char) : Bool := path c || "/:;=@[\\]^|".toList.contains c

def query (special : Bool) (c : Char) : Bool :=
  control c || " \"#<>".toList.contains c || (special && c = '\'')

/-- A segment that is put into a path keeps its slashes and percent signs apart from those of
the path. -/
def segment (special : Bool) (c : Char) : Bool :=
  path c || c = '/' || c = '%' || (special && c = '\\')

end ConfigStore.Url.Escape
