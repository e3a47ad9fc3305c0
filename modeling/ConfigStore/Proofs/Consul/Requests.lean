import ConfigStore.Proofs.Command.Work
import ConfigStore.Proofs.Consul.Addressing
import ConfigStore.Proofs.Consul.Hosts
import ConfigStore.Proofs.Store.Session

/-!
# Where requests go

A store that asks an agent is opened with the address of the agent, and keeps it. All of its
requests have the scheme and the authority of this address, and a path behind that of the address.

* `ConsulClient.request?` is the request that an operation sends; `ConsulClient.perform_congr`: an
  operation depends on the agent only by the reply to it.
* `Session.exists_client_of_run`: no run changes the address.
* `Registry.requests_of_openStore`: where the requests of a store go that a URI names.
-/

namespace ConfigStore

/-- The path that an operation is about. -/
def Operation.path? : Operation → Option String
  | .setRoot _ | .setSeparator _ | .resetSeparator => none
  | .put path _ | .putInt path _ | .putDouble path _ | .get path | .getInt path | .getInt32 path
  | .getDouble path | .has path | .subtree path | .flatten path => some path

namespace ConsulClient

open Consul

/-- The request that an operation sends. -/
def request? (client : ConsulClient) : Operation → Option Request
  | .setRoot _ | .setSeparator _ | .resetSeparator => none
  | .put path value => (client.put path value).request?
  | .putInt path value => (client.put path (Decimal.writeInt value)).request?
  | .putDouble path value => (client.put path (Decimal.Layout.value.write value)).request?
  | .get path | .getInt path | .getInt32 path | .getDouble path | .has path =>
    (client.get path).request?
  | .subtree path | .flatten path => (client.list path).request?

/-! ## What depends on the agent -/

theorem run_congr {α : Type} {exchange : Exchange α} {agent other : Agent}
    (h : ∀ request, exchange.request? = some request → other request = agent request) :
    exchange.run other = exchange.run agent := by
  cases exchange with
  | settled outcome => rfl
  | ask request read => rw [Exchange.run, Exchange.run, h request rfl]

variable {client : ConsulClient} {world : World} {other : Agent} {operation : Operation}

theorem assign_congr {path value : String}
    (h : ∀ request, (client.put path value).request? = some request →
      other request = world.agent request) :
    let after := Session.afterWrite
      ((Store.consul client).assign { world with agent := other } path value)
    let before := Session.afterWrite ((Store.consul client).assign world path value)
    after.1 = before.1 ∧ after.2.store = before.2.store := by
  have hRun := run_congr h
  dsimp only
  rw [Store.assign, Store.assign]
  dsimp only
  rw [hRun]
  cases (client.put path value).run world.agent <;> exact ⟨rfl, rfl⟩

/-- What an operation comes to depends on the agent only by the reply to the request that it
sends. -/
theorem perform_congr
    (h : ∀ request, client.request? operation = some request →
      other request = world.agent request) :
    let after := Session.perform ⟨.consul client, { world with agent := other }⟩ operation
    let before := Session.perform ⟨.consul client, world⟩ operation
    after.1 = before.1 ∧ after.2.store = before.2.store := by
  cases operation with
  | setRoot | setSeparator | resetSeparator => exact ⟨rfl, rfl⟩
  | put path value => exact assign_congr h
  | putInt path value => exact assign_congr h
  | putDouble path value => exact assign_congr h
  | get path | getInt path | getInt32 path | getDouble path | has path =>
    have hGet : (Store.consul client).get { world with agent := other } path =
        (Store.consul client).get world path := run_congr h
    refine ⟨?_, rfl⟩
    simp only [Session.perform, Store.getInt, Store.getInt32, Store.getDouble, Store.has, hGet]
  | subtree path | flatten path =>
    have hList : (client.list path).run other = (client.list path).run world.agent := run_congr h
    refine ⟨?_, rfl⟩
    simp only [Session.perform, Store.subtree, Store.flatten, subtree, flatten, hList]

/-! ## The URL of a request -/

variable {path value : String} {request : Request}

theorem url_of_put (h : (client.put path value).request? = some request) :
    ∃ query, request.url =
      { client.address.keyUrl (client.scope.resolve path) with query } := by
  obtain ⟨-, rfl⟩ := request_of_put h
  exact ⟨_, rfl⟩

theorem url_of_get (h : (client.get path).request? = some request) :
    ∃ query, request.url =
      { client.address.keyUrl (client.scope.resolve path) with query } := by
  rw [get] at h
  dsimp only at h
  split at h
  · cases h
  · rw [request_of_send h]
    exact ⟨_, rfl⟩

theorem url_of_list (h : (client.list path).request? = some request) :
    ∃ query, request.url =
      { client.address.keyUrl (client.scope.resolve path) with query } := by
  rw [list] at h
  dsimp only at h
  rw [request_of_send h]
  exact ⟨_, rfl⟩

/-- Every request goes to the URL of the key of its path, besides the query. -/
theorem url_of_request? (h : client.request? operation = some request) :
    ∃ path query, operation.path? = some path ∧
      request.url = { client.address.keyUrl (client.scope.resolve path) with query } := by
  cases operation with
  | setRoot | setSeparator | resetSeparator => cases h
  | put path value | putInt path value | putDouble path value =>
    obtain ⟨query, hUrl⟩ := url_of_put h
    exact ⟨path, query, rfl, hUrl⟩
  | get path | getInt path | getInt32 path | getDouble path | has path =>
    obtain ⟨query, hUrl⟩ := url_of_get h
    exact ⟨path, query, rfl, hUrl⟩
  | subtree path | flatten path =>
    obtain ⟨query, hUrl⟩ := url_of_list h
    exact ⟨path, query, rfl, hUrl⟩

end ConsulClient

/-! ## Runs -/

namespace Session

/-- The request that an operation of a session sends. Only agents are sent any. -/
def request? (session : Session) (operation : Operation) : Option Consul.Request :=
  match session.store with
  | .consul client => client.request? operation
  | _ => none

/-- No operation changes the address and the token of a client. -/
theorem exists_client_of_perform {session : Session} {client : ConsulClient}
    (h : session.store = .consul client) (operation : Operation) :
    ∃ next : ConsulClient, (session.perform operation).2.store = .consul next ∧
      next.address = client.address ∧ next.token = client.token := by
  rcases perform_cases session operation with hSame | ⟨path, value, next, -, hPut, hNext⟩
  · rw [hSame, h]
    exact ⟨{ client with scope := operation.rescope client.scope }, rfl, rfl, rfl⟩
  · rw [h, Store.put_consul] at hPut
    obtain ⟨-, -, rfl⟩ := Except.map_eq_ok_iff.mp hPut
    rw [hNext]
    exact ⟨client, rfl, rfl, rfl⟩

/-- Nor does a run. -/
theorem exists_client_of_run {session : Session} {client : ConsulClient}
    (h : session.store = .consul client) (operations : List Operation) :
    ∃ next : ConsulClient, (session.run operations).2.store = .consul next ∧
      next.address = client.address ∧ next.token = client.token := by
  refine @run_induction (fun session => ∃ next : ConsulClient, session.store = .consul next ∧
    next.address = client.address ∧ next.token = client.token) ?_ session ⟨client, h, rfl, rfl⟩
      operations
  rintro session operation ⟨next, hNext, hAddress, hToken⟩
  obtain ⟨after, hAfter, hSame, hKept⟩ := exists_client_of_perform hNext operation
  exact ⟨after, hAfter, hSame.trans hAddress, hKept.trans hToken⟩

/-- Some run of operations leads from one session to another. -/
def Reaches (session later : Session) : Prop := ∃ operations, (session.run operations).2 = later

/-- The URL of every request of a later session is that of a key behind the address of the
client. -/
theorem Reaches.url_of_request? {session later : Session} (hLater : session.Reaches later)
    {client : ConsulClient} (h : session.store = .consul client) {operation : Operation}
    {request : Consul.Request} (hRequest : later.request? operation = some request) :
    ∃ path query, operation.path? = some path ∧
      request.url =
        { client.address.keyUrl (later.store.scope.resolve path) with query } := by
  obtain ⟨operations, rfl⟩ := hLater
  obtain ⟨next, hNext, hAddress, -⟩ := exists_client_of_run h operations
  rw [request?, hNext] at hRequest
  rw [hNext, ← hAddress]
  exact ConsulClient.url_of_request? hRequest

end Session

/-! ## Paths of requests -/

namespace Consul.Address

theorem read_of_ofHost {host : String} {port : Nat} {address : Address}
    (h : ofHost host port = .ok address) : Url.read (baseText host port) = .ok address.url := by
  have hText : ofHost host port = read (baseText host port) := rfl
  rw [hText, read] at h
  split at h
  · cases h
  next url hUrl =>
    split at h
    · cases h
      exact hUrl
    · cases h

/-- Behind a path that is a slash, the path of a key begins with `v1` and `kv`, unless its first
name climbs. -/
theorem take_segments_keyUrl {address : Address} (h : address.url.path = .rooted [[]])
    (key : List String) :
    (segments (address.keyUrl key)).take 2 =
      if Url.climbs (key.map String.toList) then ["v1".toList, []]
      else ["v1".toList, "kv".toList] := by
  have hSegments : segments address.url = [[]] := by
    rw [segments, h]
  have hRoot : address.keyRoot = ["v1".toList, "kv".toList] := by
    rw [keyRoot, hSegments]
    rfl
  by_cases hKey : key = []
  · rw [hKey, keyUrl, hSegments]
    cases address.url.special <;> rfl
  · rw [keyUrl_eq address hKey, hRoot]
    exact Url.take_foldl_pushSegment_two _ rfl _

end Consul.Address

/-! ## Stores that URIs name -/

/-- The host of the agent at a location, which is the local one if none is given. -/
def Location.agentHost (location : Location) : String :=
  if location.host = "" then "localhost" else location.host

/-- The port of the agent at a location, which is the usual one if none is given. -/
def Location.agentPort (location : Location) : Nat := location.port.getD Consul.defaultPort

/-- The port that requests to a URL go to. -/
def Url.effectivePort? (url : Url) : Option Nat := url.port?.or (Url.defaultPort? url.scheme)

namespace Registry

open Consul

variable {world : World} {uri : String} {location : Location} {store : Store}

theorem openStore_consul (hLocation : Location.read uri = .ok location)
    (hScheme : location.scheme = "consul") :
    standard.openStore world uri = Opener.consul location world := by
  have hOpener : standard.openers.get? location.scheme = some Opener.consul := by
    rw [hScheme, standard, get?_register, if_neg (by decide +kernel), get?_register,
      if_pos (by decide +kernel)]
  have hFind : standard.find uri = .ok (Opener.consul, location) := by
    rw [find, hLocation, Except.ok_bind, hOpener]
    rfl
  rw [openStore, hFind, Except.ok_bind]

theorem exists_client_of_openStore (hLocation : Location.read uri = .ok location)
    (hScheme : location.scheme = "consul") (hOpen : standard.openStore world uri = .ok store) :
    ∃ client : ConsulClient, store = .consul client ∧
      Address.ofHost location.agentHost location.agentPort = .ok client.address := by
  rw [openStore_consul hLocation hScheme] at hOpen
  obtain ⟨address, hAddress, hStore⟩ := Except.bind_eq_ok_iff.mp hOpen
  exact ⟨_, (Except.ok.inj hStore).symm, hAddress⟩

/-- The requests of a store that a URI names go to the host and port of one URL, into whose text
the host of the URI is put. If the host is bare, it is the host of this URL as a whole: then the
requests go to the port of the URI, have no user, and their paths begin with `v1` and `kv`, unless
the first name of the key climbs. If it is not bare, it does not stay a host. -/
theorem requests_of_openStore (hLocation : Location.read uri = .ok location)
    (hScheme : location.scheme = "consul") (hOpen : standard.openStore world uri = .ok store) :
    ∃ base, Url.read (baseText location.agentHost location.agentPort) = .ok base ∧
      (Bare location.agentHost ↔
        ∃ host, Url.Host.readDomain (Url.shortened location.agentHost.toList) = .ok host) ∧
      ∀ later operation request, (⟨store, world⟩ : Session).Reaches later →
        later.request? operation = some request →
        request.url.scheme = base.scheme ∧ request.url.authority = base.authority ∧
          request.url.fragment = base.fragment ∧
          (Bare location.agentHost →
            request.url.effectivePort? = some location.agentPort ∧
            (∃ host,
              Url.Host.readDomain (Url.shortened location.agentHost.toList) = .ok host ∧
              request.url.authority = some {
                username := []
                password := []
                host := some host
                port := if location.agentPort = 80 then none else some location.agentPort }) ∧
            ∃ path, operation.path? = some path ∧
              (Address.segments request.url).take 2 =
                if Url.climbs ((later.store.scope.resolve path).map String.toList) then
                  ["v1".toList, []]
                else ["v1".toList, "kv".toList]) := by
  obtain ⟨client, rfl, hAddress⟩ := exists_client_of_openStore hLocation hScheme hOpen
  have hBase := Address.read_of_ofHost hAddress
  refine ⟨client.address.url, hBase, bare_iff hBase, ?_⟩
  intro later operation request hLater hRequest
  obtain ⟨path, query, hPath, hUrl⟩ := hLater.url_of_request? rfl hRequest
  rw [hUrl]
  refine ⟨rfl, rfl, rfl, fun hBare => ?_⟩
  obtain ⟨host, hHost, hRead⟩ := read_base hBare hBase
  have hScheme : client.address.url.scheme = "http" := congrArg Url.scheme hRead
  have hAuthority := congrArg Url.authority hRead
  refine ⟨?_, ⟨host, hHost, hAuthority⟩, path, hPath, ?_⟩
  · have hPort : client.address.url.effectivePort? = some location.agentPort := by
      rw [Url.effectivePort?, Url.port?, hAuthority, hScheme]
      by_cases hEighty : location.agentPort = 80
      · rw [hEighty]
        rfl
      · rw [if_neg hEighty]
        rfl
    exact hPort
  · exact Address.take_segments_keyUrl (congrArg Url.path hRead) _

/-- The host of this URI ends with a port and a slash of its own, so that requests go to that port
and the port of the URI becomes a segment. -/
theorem requests_of_openStore_escaped :
    ∃ location store base request,
      Location.read "consul://h%3A9000%2F/x" = .ok location ∧ location.scheme = "consul" ∧
      standard.openStore {} "consul://h%3A9000%2F/x" = .ok store ∧
      Url.read "http://h:9000/:8500/" = .ok base ∧
      location.agentPort = 8500 ∧ ¬ Bare location.agentHost ∧
      (⟨store, {}⟩ : Session).request? (.get "k") = some request ∧
      request.url.authority = base.authority ∧
      request.url.effectivePort? = some 9000 ∧
      (Address.segments request.url).take 2 = [":8500".toList, "v1".toList] := by
  obtain ⟨location, hLocation, hParts⟩ : ∃ location,
      Location.read "consul://h%3A9000%2F/x" = .ok location ∧
        location = ⟨"consul", "h:9000/", none, "/x"⟩ := by
    exact Except.exists_of_toOption_map (by decide +kernel)
  obtain ⟨store, hOpen, hAsked⟩ : ∃ store,
      standard.openStore {} "consul://h%3A9000%2F/x" = .ok store ∧
        ((⟨store, {}⟩ : Session).request? (.get "k")).map (fun request =>
          (request.url.effectivePort?, (Address.segments request.url).take 2)) =
            some (some 9000, [":8500".toList, "v1".toList]) := by
    exact Except.exists_of_toOption_map (by decide +kernel)
  obtain ⟨request, hRequest, hUrl⟩ := Option.map_eq_some_iff.mp hAsked
  obtain ⟨hPort, hSegments⟩ := Prod.mk.inj hUrl
  have hScheme : location.scheme = "consul" := by
    rw [hParts]
  obtain ⟨base, hBase, -, hRequests⟩ := requests_of_openStore hLocation hScheme hOpen
  obtain ⟨-, hAuthority, -, -⟩ := hRequests _ (.get "k") request ⟨[], rfl⟩ hRequest
  have hText : baseText location.agentHost location.agentPort = "http://h:9000/:8500/" := by
    rw [hParts]
    decide +kernel
  rw [hText] at hBase
  refine ⟨location, store, base, request, hLocation, hScheme, hOpen, hBase, ?_, ?_, hRequest,
    hAuthority, hPort, hSegments⟩
  · rw [hParts]
    rfl
  · rw [hParts]
    decide +kernel

end Registry

end ConfigStore
