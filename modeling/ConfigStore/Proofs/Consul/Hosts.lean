import ConfigStore.Consul.Address
import ConfigStore.Proofs.Decimal.Integer
import ConfigStore.Proofs.Url.Authority
import ConfigStore.Proofs.Url.Reading
import Mathlib.Data.List.Basic
import Mathlib.Data.List.TakeWhile

/-!
# The URL of an agent on a given host

The host and the port of an agent are put into the text of a URL, which is read again. A host that
holds the marks of a URL does not stay a host.

* `Consul.Bare` holds of hosts without such marks.
* `Consul.read_base`: with a bare host, all of it is the host of the URL, and nothing else is there
  besides the port.
* `Consul.bare_iff`: no other host is the host of the URL as a whole.
-/

namespace ConfigStore.Consul

/-- The text that is read as the URL of an agent. -/
def baseText (host : String) (port : Nat) : String := s!"http://{host}:{port}/"

/-- The marks that end a host or stand behind a user. -/
def marks : List Char := ['/', '\\', '?', '#', '@']

/-- A host without such marks. -/
def Bare (host : String) : Prop := ∀ c ∈ marks, c ∉ host.toList

instance : DecidablePred Bare := fun host => List.decidableBAll (· ∉ host.toList) marks

variable {host : String} {port : Nat}

/-- The marks are no part of a port, and of no host that is read. -/
theorem parting_of_mem_marks {c : Char} (h : c ∈ marks) :
    Url.Host.Parting c ∧ (c ≠ '[' ∧ c ≠ ']' ∧ c ≠ ':') ∧ Url.isTabOrNewline c = false ∧
      c.isDigit = false := by
  simp only [marks, List.mem_cons, List.not_mem_nil, or_false] at h
  rcases h with rfl | rfl | rfl | rfl | rfl <;> decide

/-! ## The text -/

theorem toList_baseText (host : String) (port : Nat) :
    (baseText host port).toList =
      "http".toList ++ ':' :: '/' :: '/' ::
        (host.toList ++ ':' :: (Nat.toDigits 10 port ++ ['/'])) := by
  simp [baseText, toString, Nat.repr]

theorem clean_of_ends {c d : Char} (hFirst : Url.isControlOrSpace c = false)
    (hLast : Url.isControlOrSpace d = false) (text : List Char) :
    Url.clean (c :: (text ++ [d])) = Url.shortened (c :: (text ++ [d])) := by
  have hStart : (c :: (text ++ [d])).dropWhile Url.isControlOrSpace = c :: (text ++ [d]) := by
    rw [List.dropWhile_cons, hFirst]
    rfl
  have hEnd : (c :: (text ++ [d])).reverse.dropWhile Url.isControlOrSpace =
      (c :: (text ++ [d])).reverse := by
    rw [← List.cons_append, List.reverse_append, List.reverse_singleton, List.singleton_append,
      List.dropWhile_cons, hLast]
    rfl
  rw [Url.clean, hStart, hEnd, List.reverse_reverse, Url.shortened]

theorem digits_unbroken {c : Char} (h : c ∈ Nat.toDigits 10 port) : c.isDigit = true :=
  (Decimal.isDigits_toDigits port).1.2 c h

theorem notMem_digits {c : Char} (h : c.isDigit = false) : c ∉ Nat.toDigits 10 port := by
  intro hMem
  rw [digits_unbroken hMem] at h
  cases h

theorem shortened_digits : Url.shortened (Nat.toDigits 10 port) = Nat.toDigits 10 port := by
  apply List.filter_eq_self.mpr
  intro c hMem
  rw [Bool.not_eq_true', Bool.eq_false_iff]
  intro hTab
  simp only [Url.isTabOrNewline, Bool.or_eq_true, decide_eq_true_eq] at hTab
  rcases hTab with (rfl | rfl) | rfl <;> exact notMem_digits rfl hMem

/-- Tabs and line ends are left out of the host. -/
theorem clean_baseText (host : String) (port : Nat) :
    Url.clean (baseText host port).toList =
      "http".toList ++ ':' :: '/' :: '/' ::
        (Url.shortened host.toList ++ ':' :: (Nat.toDigits 10 port ++ ['/'])) := by
  have hEnds := clean_of_ends (c := 'h') (d := '/') rfl rfl
    ("ttp://".toList ++ (host.toList ++ ':' :: Nat.toDigits 10 port))
  have hText : 'h' :: ("ttp://".toList ++ (host.toList ++ ':' :: Nat.toDigits 10 port) ++ ['/']) =
      (baseText host port).toList := by
    rw [toList_baseText]
    simp
  rw [hText] at hEnds
  have hDigits : Url.shortened (Nat.toDigits 10 port) = _ := shortened_digits
  rw [Url.shortened] at hDigits
  rw [hEnds, toList_baseText]
  change ("http://".toList ++ (host.toList ++ ([':'] ++ (Nat.toDigits 10 port ++ ['/'])))).filter
    (!Url.isTabOrNewline ·) = _
  rw [List.filter_append, List.filter_append, List.filter_append, List.filter_append, hDigits]
  rfl

theorem isScheme_http : Url.IsScheme "http" :=
  ⟨fun _ => rfl, by simp [Url.isControlOrSpace], by simp⟩

/-! ## Reading the text -/

/-- The host and the port behind it, as they are read. -/
def authorityText (host : String) (port : Nat) : List Char :=
  Url.shortened host.toList ++ ':' :: Nat.toDigits 10 port

section Reading

variable (hBare : Bare host)
include hBare

theorem notMem_authorityText {c : Char} (hMark : c ∈ marks) : c ∉ authorityText host port := by
  obtain ⟨-, ⟨-, -, hColon⟩, -, hDigit⟩ := parting_of_mem_marks hMark
  rw [authorityText, List.mem_append, List.mem_cons]
  rintro (hHost | hEq | hPort)
  · exact hBare c hMark (List.mem_filter.mp hHost).1
  · exact hColon hEq
  · exact notMem_digits hDigit hPort

theorem not_isSlash {c : Char} (h : c ∈ authorityText host port) :
    Url.isSlash true c = false := by
  have hSlash : c ≠ '/' := fun hEq => notMem_authorityText hBare (by decide) (hEq ▸ h)
  have hBackslash : c ≠ '\\' := fun hEq => notMem_authorityText hBare (by decide) (hEq ▸ h)
  simp [Url.isSlash, hSlash, hBackslash]

theorem takeWhile_authorityText :
    (authorityText host port ++ ['/']).takeWhile (!Url.isSlash true ·) =
      authorityText host port := by
  rw [List.takeWhile_append_of_pos]
  · exact List.append_nil _
  · intro c hMem
    rw [not_isSlash hBare hMem]
    rfl

theorem dropWhile_authorityText :
    (authorityText host port ++ ['/']).dropWhile (!Url.isSlash true ·) = ['/'] := by
  rw [List.dropWhile_append_of_pos]
  · rfl
  · intro c hMem
    rw [not_isSlash hBare hMem]
    rfl

/-- Only two slashes stand in front of the host. -/
theorem dropSlashes_authorityText :
    ('/' :: '/' :: (authorityText host port ++ ['/'])).dropWhile (Url.isSlash true) =
      authorityText host port ++ ['/'] := by
  change (authorityText host port ++ ['/']).dropWhile (Url.isSlash true) = _
  cases hText : authorityText host port with
  | nil => simp [authorityText] at hText
  | cons c rest =>
    have hMem : c ∈ authorityText host port := hText ▸ List.mem_cons_self
    rw [List.cons_append, List.dropWhile_cons, not_isSlash hBare hMem]
    rfl

theorem notMem_behindScheme {c : Char} (hMark : c ∈ marks) (hSlash : c ≠ '/') :
    c ∉ '/' :: '/' :: (authorityText host port ++ ['/']) := by
  rw [List.mem_cons, List.mem_cons, List.mem_append, List.mem_singleton]
  rintro (hFirst | hSecond | hHost | hLast)
  · exact hSlash hFirst
  · exact hSlash hSecond
  · exact notMem_authorityText hBare hMark hHost
  · exact hSlash hLast

/-- Without marks in the host the text has neither query nor fragment. -/
theorem exists_readNetwork {url : Url} (h : Url.read (baseText host port) = .ok url) :
    ∃ authority path,
      Url.readNetwork "http" (authorityText host port ++ ['/']) false = .ok (authority, path) ∧
      url = ⟨"http", some authority, path, none, none⟩ := by
  have hText : Url.shortened host.toList ++ ':' :: (Nat.toDigits 10 port ++ ['/']) =
      authorityText host port ++ ['/'] := by
    rw [authorityText, List.append_assoc]
    rfl
  rw [Url.read, clean_baseText, isScheme_http.split, hText] at h
  dsimp only at h
  rw [Text.cutAt_of_notMem (notMem_behindScheme hBare (c := '#') (by decide) (by decide))] at h
  dsimp only at h
  rw [Text.cutAt_of_notMem (notMem_behindScheme hBare (c := '?') (by decide) (by decide))] at h
  have hKind : Url.schemeKind "http" = .network := rfl
  rw [hKind] at h
  dsimp only at h
  rw [dropSlashes_authorityText hBare] at h
  obtain ⟨⟨found, path⟩, hFound, h⟩ := Except.bind_eq_ok_iff.mp h
  obtain ⟨⟨authority, path⟩, hRead, hEq⟩ := Except.map_eq_ok_iff.mp hFound
  cases hEq
  cases h
  exact ⟨authority, path, hRead, rfl⟩

omit hBare in
theorem takeWhile_of_notMem {mark : Char} {text : List Char} (h : mark ∉ text) :
    text.takeWhile (· ≠ mark) = text := by
  apply List.takeWhile_eq_self_iff.mpr
  intro c hMem
  apply decide_eq_true
  rintro rfl
  exact h hMem

omit hBare in
theorem dropWhile_of_notMem {mark : Char} {text : List Char} (h : mark ∉ text) :
    text.dropWhile (· ≠ mark) = [] := by
  apply List.dropWhile_eq_nil_iff.mpr
  intro c hMem
  apply decide_eq_true
  rintro rfl
  exact h hMem

omit hBare in
/-- A text of digits is read as the port that it writes. -/
theorem port_of_readPort {read : Option Nat}
    (h : Url.readPort "http" (Nat.toDigits 10 port) = .ok read) :
    read = if port = 80 then none else some port := by
  have hDefault : Url.defaultPort? "http" = some 80 := rfl
  rw [Url.readPort.eq_2 _ _ Nat.toDigits_ne_nil, Decimal.digits?_toDigits, hDefault] at h
  dsimp only at h
  split at h
  · cases h
  · cases h
    simp only [Option.some.injEq, eq_comm]

omit hBare in
theorem isDigit_of_readPort {scheme : String} {digits : List Char} {read : Option Nat}
    (h : Url.readPort scheme digits = .ok read) {c : Char} (hMem : c ∈ digits) :
    c.isDigit = true := by
  rw [Url.readPort.eq_2 _ _ (List.ne_nil_of_mem hMem)] at h
  split at h
  · cases h
  next hDigits => exact (Decimal.digits?_eq_some_iff.mp hDigits).1.2 c hMem

omit hBare in
/-- What is read as a host is not all of the text, which ends with a port. -/
theorem not_read_authorityText {special : Bool} {found : Url.Host} :
    Url.Host.read special (authorityText host port) ≠ .ok found := by
  intro hRead
  rcases Url.Host.read_cases hRead with ⟨inner, hText, -⟩ | ⟨-, hNone⟩
  · have hLast : (authorityText host port).getLast? = some ']' := by
      rw [hText]
      exact List.getLast?_concat
    rw [authorityText, List.getLast?_append_cons] at hLast
    have hMem := (List.mem_cons.mp (List.mem_of_getLast? hLast)).resolve_left (by decide)
    exact notMem_digits rfl hMem
  · exact hNone ':' (by decide) (List.mem_append_right _ List.mem_cons_self)

/-- The host that is read ends at the colon in front of the port. -/
theorem splitPort_authorityText {found : Url.Host} {read : Option Nat}
    (hRead : Url.Host.read true (Url.splitPort false (authorityText host port)).1 = .ok found)
    (hPort : Url.readPort "http"
      (((Url.splitPort false (authorityText host port)).2.getD []).takeWhile (· ≠ '\\')) =
        .ok read) :
    Url.splitPort false (authorityText host port) =
      (Url.shortened host.toList, some (Nat.toDigits 10 port)) := by
  have hBackslash : '\\' ∉ authorityText host port := notMem_authorityText hBare (by decide)
  have hAppend := Url.splitPort_append false (authorityText host port)
  generalize Url.splitPort false (authorityText host port) = split at hRead hPort hAppend
  obtain ⟨front, portText⟩ := split
  dsimp only at hRead hPort hAppend ⊢
  cases portText with
  | none =>
    rw [Url.behindHost, List.append_nil] at hAppend
    rw [hAppend] at hRead
    exact absurd hRead not_read_authorityText
  | some behind =>
    rw [← hAppend] at hBackslash
    have hUnbroken : '\\' ∉ behind := fun hMem =>
      hBackslash (List.mem_append_right _ (List.mem_cons_of_mem _ hMem))
    rw [Option.getD_some, takeWhile_of_notMem hUnbroken] at hPort
    rw [Url.behindHost, authorityText] at hAppend
    -- A colon behind the one that was found would be part of the port.
    rcases List.append_eq_append_iff.mp hAppend with
      ⟨more, hHost, hBehind⟩ | ⟨more, hFront, hDigits⟩
    · cases more with
      | nil =>
        rw [List.append_nil] at hHost
        cases hBehind
        rw [hHost]
      | cons c more =>
        cases hBehind
        have hDigit := isDigit_of_readPort hPort
          (List.mem_append_right more (List.mem_cons_self (a := ':')))
        cases hDigit
    · cases more with
      | nil =>
        rw [List.append_nil] at hFront
        cases hDigits
        rw [hFront]
      | cons c more =>
        have hColon : ':' ∈ Nat.toDigits 10 port := by
          rw [(List.cons.inj hDigits).2]
          exact List.mem_append_right _ List.mem_cons_self
        exact absurd hColon (notMem_digits rfl)

theorem readAuthority_of_bare {authority : Url.Authority} {behind : List Char}
    (h : Url.readAuthority "http" (authorityText host port) true = .ok (authority, behind)) :
    ∃ found, Url.Host.readDomain (Url.shortened host.toList) = .ok found ∧ behind = [] ∧
      authority = { host := some found, port := if port = 80 then none else some port } := by
  rw [Url.readAuthority, Url.splitUser_of_notMem (notMem_authorityText hBare (by decide))] at h
  dsimp only [Option.map_none] at h
  rw [if_neg (by simp)] at h
  obtain ⟨read, hHost, h⟩ := Except.bind_eq_ok_iff.mp h
  obtain ⟨readPort, hPort, h⟩ := Except.bind_eq_ok_iff.mp h
  cases h
  have hSpecial : (Url.schemeKind "http").special = true := rfl
  rw [Url.readHost, hSpecial] at hHost
  split at hHost
  · cases hHost
  obtain ⟨found, hFound, rfl⟩ := Except.map_eq_ok_iff.mp hHost
  have hSplit := splitPort_authorityText hBare hFound hPort
  rw [hSplit] at hFound hPort ⊢
  rw [Option.getD_some, takeWhile_of_notMem (notMem_digits rfl)] at hPort
  refine ⟨found, hFound, dropWhile_of_notMem (notMem_digits rfl), ?_⟩
  rw [port_of_readPort hPort]
  rfl

/-- All of a bare host is the host of the URL, and only the port is there besides it. -/
theorem read_base {url : Url} (h : Url.read (baseText host port) = .ok url) :
    ∃ found, Url.Host.readDomain (Url.shortened host.toList) = .ok found ∧
      url = {
        scheme := "http"
        authority := some { host := some found, port := if port = 80 then none else some port }
        path := .rooted [[]]
        query := none
        fragment := none } := by
  obtain ⟨authority, path, hNetwork, rfl⟩ := exists_readNetwork hBare h
  have hSpecial : (Url.schemeKind "http").special = true := rfl
  rw [Url.readNetwork, hSpecial] at hNetwork
  dsimp only at hNetwork
  rw [takeWhile_authorityText hBare, dropWhile_authorityText hBare] at hNetwork
  obtain ⟨⟨read, behind⟩, hAuthority, hPath⟩ := Except.bind_eq_ok_iff.mp hNetwork
  obtain ⟨found, hFound, rfl, rfl⟩ := readAuthority_of_bare hBare hAuthority
  cases hPath
  exact ⟨found, hFound, rfl⟩

end Reading

/-- A text that is a host as a whole is bare. -/
theorem bare_of_readDomain {found : Url.Host}
    (h : Url.Host.readDomain (Url.shortened host.toList) = .ok found) : Bare host := by
  intro c hMark hMem
  obtain ⟨hParting, hOther, hTab, -⟩ := parting_of_mem_marks hMark
  have hRead : Url.Host.read true (Url.shortened host.toList) = .ok found := h
  apply Url.Host.notMem_of_read hRead hParting hOther
  exact List.mem_filter.mpr ⟨hMem, by rw [hTab]; rfl⟩

/-- The bare hosts are those that are the host of the URL as a whole. -/
theorem bare_iff {url : Url} (h : Url.read (baseText host port) = .ok url) :
    Bare host ↔ ∃ found, Url.Host.readDomain (Url.shortened host.toList) = .ok found := by
  constructor
  · intro hBare
    obtain ⟨found, hFound, -⟩ := read_base hBare h
    exact ⟨found, hFound⟩
  · rintro ⟨found, hFound⟩
    exact bare_of_readDomain hFound

end ConfigStore.Consul
