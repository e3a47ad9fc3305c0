import ConfigStore.Proofs.Url.Segments

/-!
# Reading URLs whose names are escaped

A name is escaped if only characters that stand for themselves everywhere are left in it, besides
the percent signs. A URL with such names is read without any change to them.

* `Url.inert_of_mem_writeName`: no part of a URL treats a character of an escaped name apart.
* `Url.readSegments_write`: the segments of a path of escaped names are these names.
* `Url.readFile_write`, `Url.readFile_writeBehindHost`: so are those of a file, behind one slash or
  behind three.
* `Url.readOther_write`, `Url.readOther_writeBehindHost`: so are those of any other URL, without a
  host or behind one.
* `Url.read_eq_ok`: a URL of such names has nothing besides its scheme, authority and path.
-/

namespace ConfigStore.Url

/-! ## Escaped names -/

/-- A character that stands for itself in every part of a URL. -/
def unreserved (c : Char) : Bool := c.isAlphanum || "-_.~".toList.contains c

/-- A name with all other characters escaped. -/
def writeName (name : List Char) : List Char := Percent.encode (!unreserved ·) name

/-- The path that has a segment for each name. -/
def pathOf (names : List (List Char)) : UrlPath := .rooted (names.map writeName)

/-- A character that no part of a URL treats apart. -/
structure Inert (c : Char) : Prop where
  notBlank : isControlOrSpace c = false
  notSlash : isSlash true c = false
  notInPath : Escape.path c = false
  notInHost : Host.forbidden c = false

theorem toNat_lt_of_unreserved {c : Char} (h : unreserved c = true) : c.toNat < 128 := by
  rw [unreserved, Bool.or_eq_true] at h
  rcases h with h | h
  · have hKinds : (c.isUpper || c.isLower || c.isDigit) = true := h
    rw [Bool.or_eq_true, Bool.or_eq_true] at hKinds
    have hLast : c.val ≤ 'Z'.val ∨ c.val ≤ 'z'.val ∨ c.val ≤ '9'.val := by
      rcases hKinds with (hUpper | hLower) | hDigit
      · exact .inl (of_decide_eq_true hUpper).2
      · exact .inr (.inl (of_decide_eq_true (Bool.and_eq_true_iff.mp hLower).2))
      · exact .inr (.inr (of_decide_eq_true (Bool.and_eq_true_iff.mp hDigit).2))
    rcases hLast with hLe | hLe | hLe <;>
      exact Nat.lt_of_le_of_lt (UInt32.le_iff_toNat_le.mp hLe) (by decide)
  · have hMark : c = '-' ∨ c = '_' ∨ c = '.' ∨ c = '~' := by simpa using h
    rcases hMark with rfl | rfl | rfl | rfl <;> decide

theorem inert_of_unreserved {c : Char} (h : unreserved c = true) : Inert c := by
  -- Below 128 there are few enough characters to check each of them.
  have hAll : ∀ n < 128, unreserved (Char.ofNat n) = true →
      isControlOrSpace (Char.ofNat n) = false ∧ isSlash true (Char.ofNat n) = false ∧
        Escape.path (Char.ofNat n) = false ∧ Host.forbidden (Char.ofNat n) = false := by
    decide +kernel
  obtain ⟨hBlank, hSlash, hPath, hHost⟩ :=
    hAll c.toNat (toNat_lt_of_unreserved h) (by rwa [Char.ofNat_toNat])
  rw [Char.ofNat_toNat] at hBlank hSlash hPath hHost
  exact ⟨hBlank, hSlash, hPath, hHost⟩

theorem unreserved_hexDigit {n : Nat} (h : n < 16) : unreserved (Percent.hexDigit n) = true := by
  have hAll : ∀ n < 16, unreserved (Percent.hexDigit n) = true := by decide
  exact hAll n h

theorem inert_of_mem_encodeByte {b : UInt8} {c : Char} (h : c ∈ Percent.encodeByte b) :
    Inert c := by
  have hByte : b.toNat < 256 := b.toNat_lt
  simp only [Percent.encodeByte, List.mem_cons, List.not_mem_nil, or_false] at h
  rcases h with rfl | rfl | rfl
  · exact ⟨rfl, rfl, rfl, rfl⟩
  · exact inert_of_unreserved (unreserved_hexDigit (by omega))
  · exact inert_of_unreserved (unreserved_hexDigit (by omega))

theorem inert_of_mem_writeName {c : Char} {name : List Char} (h : c ∈ writeName name) :
    Inert c := by
  obtain ⟨d, -, hMem⟩ := List.mem_flatMap.mp h
  rw [Percent.encodeChar] at hMem
  split at hMem
  · obtain ⟨b, -, hDigits⟩ := List.mem_flatMap.mp hMem
    exact inert_of_mem_encodeByte hDigits
  next hPlain =>
    rw [List.mem_singleton.mp hMem]
    exact inert_of_unreserved (by simpa using hPlain)

theorem Inert.ne_of_forbidden {c d : Char} (h : Inert c) (hForbidden : Host.forbidden d = true) :
    d ≠ c := by
  rintro rfl
  rw [h.notInHost] at hForbidden
  cases hForbidden

theorem notMem_of_inert {text : List Char} (h : ∀ c ∈ text, Inert c) {d : Char}
    (hForbidden : Host.forbidden d = true) : d ∉ text :=
  fun hMem => (h d hMem).ne_of_forbidden hForbidden rfl

theorem spelled_writeName (name : List Char) :
    spelled (writeName name) = .ok (String.ofList name) :=
  spelled_encode (by decide) name

theorem writeName_ne_nil {name : List Char} (h : name ≠ []) : writeName name ≠ [] := by
  intro hNil
  have hEmpty : spelled [] = .ok "" := Utf8.decode_encode []
  have hSpelled := spelled_writeName name
  rw [hNil, hEmpty] at hSpelled
  exact h (String.ofList_eq_empty_iff.mp (Except.ok.inj hSpelled).symm)

theorem exists_writeName_cons {name : List Char} (h : name ≠ []) :
    ∃ c rest, writeName name = c :: rest ∧ Inert c := by
  obtain ⟨c, rest, hName⟩ := List.exists_cons_of_ne_nil (writeName_ne_nil h)
  exact ⟨c, rest, hName, inert_of_mem_writeName (hName ▸ List.mem_cons_self)⟩

/-! ## Paths -/

theorem eq_or_inert_of_mem_write {c : Char} {names : List (List Char)}
    (h : c ∈ (pathOf names).write) : c = '/' ∨ Inert c := by
  obtain ⟨segment, hSegment, hMem⟩ := List.mem_flatMap.mp h
  obtain ⟨name, -, rfl⟩ := List.mem_map.mp hSegment
  exact (List.mem_cons.mp hMem).imp_right inert_of_mem_writeName

theorem write_pathOf_cons (first : List Char) (rest : List (List Char)) :
    (pathOf (first :: rest)).write = '/' :: (writeName first ++ (pathOf rest).write) := rfl

section Boundary

variable {p : Char → Bool} {front : List Char} (hFront : ∀ c ∈ front, p c = true)
  (hSlash : p '/' = false)
include hFront hSlash

theorem takeWhile_append_write (names : List (List Char)) :
    (front ++ (pathOf names).write).takeWhile p = front := by
  rw [List.takeWhile_append_of_pos hFront]
  cases names with
  | nil => exact List.append_nil front
  | cons first rest =>
    rw [write_pathOf_cons, List.takeWhile_cons, hSlash]
    exact List.append_nil front

theorem dropWhile_append_write (names : List (List Char)) :
    (front ++ (pathOf names).write).dropWhile p = (pathOf names).write := by
  rw [List.dropWhile_append_of_pos hFront]
  cases names with
  | nil => rfl
  | cons first rest =>
    rw [write_pathOf_cons, List.dropWhile_cons, hSlash]
    rfl

end Boundary

theorem Inert.notSlashOf {c : Char} (h : Inert c) (special : Bool) : isSlash special c = false := by
  have hSlash := h.notSlash
  simp only [isSlash, Bool.or_eq_false_iff, Bool.true_and] at hSlash
  simp [isSlash, hSlash]

theorem pathParts_ne_nil (special : Bool) (text : List Char) : pathParts special text ≠ [] := by
  cases text with
  | nil => exact List.cons_ne_nil _ _
  | cons c rest =>
    rw [pathParts]
    split
    · exact List.cons_ne_nil _ _
    · split <;> exact List.cons_ne_nil _ _

/-- A text without slashes belongs to the first part. -/
theorem pathParts_append {special : Bool} {name : List Char}
    (h : ∀ c ∈ name, isSlash special c = false) (text : List Char) :
    pathParts special (name ++ text) = (pathParts special text).modifyHead (name ++ ·) := by
  -- With the parts of the rest at hand the first one can grow a character at a time.
  obtain ⟨part, others, hParts⟩ := List.exists_cons_of_ne_nil (pathParts_ne_nil special text)
  rw [hParts, List.modifyHead_cons]
  induction name with
  | nil => exact hParts
  | cons c name ih =>
    obtain ⟨hChar, hName⟩ := List.forall_mem_cons.mp h
    rw [List.cons_append, pathParts, hChar, ih hName]
    rfl

theorem pathParts_write (special : Bool) (first : List Char) (rest : List (List Char)) :
    pathParts special (writeName first ++ (pathOf rest).write) =
      (first :: rest).map writeName := by
  have hName : ∀ name : List Char, ∀ c ∈ writeName name, isSlash special c = false :=
    fun name c hMem => (inert_of_mem_writeName hMem).notSlashOf special
  induction rest generalizing first with
  | nil =>
    rw [pathParts_append (hName first)]
    exact congrArg (fun text => [text]) (List.append_nil _)
  | cons second rest ih =>
    have hSlash : isSlash special '/' = true := rfl
    rw [pathParts_append (hName first), write_pathOf_cons, pathParts, if_pos hSlash, ih,
      List.modifyHead_cons, List.append_nil]
    rfl

/-- Segments that are no dots are all kept. -/
theorem resolveFrom_of_forall {segments : List (List Char)}
    (h : ∀ segment ∈ segments, isDot segment = false ∧ isDoubleDot segment = false)
    (done : List (List Char)) : resolveFrom done segments = done ++ segments := by
  induction segments generalizing done with
  | nil => exact (List.append_nil done).symm
  | cons segment rest ih =>
    obtain ⟨⟨hDot, hDots⟩, hRest⟩ := List.forall_mem_cons.mp h
    rw [resolveFrom, hDot, hDots]
    change resolveFrom (done ++ [segment]) rest = _
    rw [ih hRest, List.append_assoc]
    rfl

/-- Names that are no dots. -/
def Dotless (names : List (List Char)) : Prop := ∀ name ∈ names, name ≠ ['.'] ∧ name ≠ ['.', '.']

/-- The segments of a path of escaped names are these names. -/
theorem readSegments_write (special : Bool) {first : List Char} {rest : List (List Char)}
    (h : Dotless (first :: rest)) :
    readSegments special (writeName first ++ (pathOf rest).write) =
      (first :: rest).map writeName := by
  have hEscaped : ((first :: rest).map writeName).map (Percent.encode Escape.path) =
      (first :: rest).map writeName := by
    rw [List.map_map, List.map_inj_left]
    intro name hName
    exact Percent.encode_of_forall fun c hMem => (inert_of_mem_writeName hMem).notInPath
  rw [readSegments, pathParts_write, hEscaped, resolveSegments, resolveFrom_of_forall]
  · rfl
  · intro segment hSegment
    obtain ⟨name, hName, rfl⟩ := List.mem_map.mp hSegment
    obtain ⟨hDot, hDots⟩ := h name hName
    rw [writeName, isDot_encode (by decide) (by decide), isDoubleDot_encode (by decide) (by decide)]
    exact ⟨decide_eq_false hDot, decide_eq_false hDots⟩

/-! ## Files -/

/-- No escaped name is the letter of a drive. -/
theorem spellDrive_writeName (name : List Char) : spellDrive (writeName name) = writeName name := by
  apply if_neg
  intro hDrive
  unfold isDriveLetter at hDrive
  split at hDrive
  next letter mark hName =>
    have hMark : Inert mark := inert_of_mem_writeName (by rw [hName]; simp)
    rw [Bool.and_eq_true, Bool.or_eq_true, decide_eq_true_iff, decide_eq_true_iff] at hDrive
    rcases hDrive.2 with rfl | rfl <;> exact hMark.ne_of_forbidden rfl rfl
  · cases hDrive

theorem filePath_write {first : List Char} {rest : List (List Char)} (hFirst : first ≠ []) :
    filePath ((first :: rest).map writeName) = pathOf (first :: rest) := by
  rw [filePath, List.map_cons, List.modifyHead_cons, spellDrive_writeName, dropEmptySegments,
    List.dropWhile_cons_of_neg (by simpa using writeName_ne_nil hFirst)]
  rfl

/-- A slash in front of the path of a file is left out. -/
theorem filePath_cons_nil {first : List Char} {rest : List (List Char)} (hFirst : first ≠ []) :
    filePath (([] :: first :: rest).map writeName) = pathOf (first :: rest) := by
  rw [filePath, List.map_cons, List.modifyHead_cons, spellDrive_writeName, dropEmptySegments,
    List.dropWhile_cons_of_pos (by rfl), List.map_cons,
    List.dropWhile_cons_of_neg (by simpa using writeName_ne_nil hFirst)]
  rfl

/-- The path of a file behind one slash is read as it is written. -/
theorem readFile_write {first : List Char} {rest : List (List Char)} (hFirst : first ≠ [])
    (h : Dotless (first :: rest)) :
    readFile (pathOf (first :: rest)).write = .ok ({}, pathOf (first :: rest)) := by
  obtain ⟨c, name, hName, hInert⟩ := exists_writeName_cons hFirst
  have hPath : readFilePath (writeName first ++ (pathOf rest).write) = pathOf (first :: rest) := by
    rw [readFilePath, readSegments_write true h, filePath_write hFirst]
  rw [hName, List.cons_append] at hPath
  rw [write_pathOf_cons, hName, List.cons_append, readFile, hInert.notSlash, ← hPath]
  rfl

/-- So is the path of a file behind three slashes, the host between them being empty. -/
theorem readFile_writeBehindHost {first : List Char} {rest : List (List Char)} (hFirst : first ≠ [])
    (h : Dotless (first :: rest)) :
    readFile ('/' :: '/' :: (pathOf (first :: rest)).write) = .ok ({}, pathOf (first :: rest)) := by
  have hDotless : Dotless ([] :: first :: rest) :=
    List.forall_mem_cons.mpr ⟨⟨List.cons_ne_nil _ _ |>.symm, List.cons_ne_nil _ _ |>.symm⟩, h⟩
  -- The slash of the first name is part of the path, which so starts with an empty name.
  have hPath : readFilePath (pathOf (first :: rest)).write = pathOf (first :: rest) := by
    change readFilePath (writeName [] ++ (pathOf (first :: rest)).write) = _
    rw [readFilePath, readSegments_write true hDotless, filePath_cons_nil hFirst]
  calc readFile ('/' :: '/' :: (pathOf (first :: rest)).write)
    _ = .ok ({}, readFilePath (pathOf (first :: rest)).write) := rfl
    _ = .ok ({}, pathOf (first :: rest)) := by rw [hPath]

/-! ## Other URLs -/

theorem readOther_write (scheme : String) {first : List Char} {rest : List (List Char)}
    (hFirst : first ≠ []) (h : Dotless (first :: rest)) (more : Bool) :
    readOther scheme (pathOf (first :: rest)).write more = .ok (none, pathOf (first :: rest)) := by
  rw [write_pathOf_cons, readOther, readSegments_write false h]
  · rfl
  · intro name hText
    obtain ⟨c, others, hName, hInert⟩ := exists_writeName_cons hFirst
    rw [hName] at hText
    cases hText
    cases hInert.notSlash

theorem splitUser_of_notMem {text : List Char} (h : '@' ∉ text) :
    splitUser text = (none, text) := by
  have hNone : text.reverse.dropWhile (· ≠ '@') = [] := by
    rw [← List.append_nil text.reverse, List.dropWhile_append_of_pos]
    · rfl
    · intro c hMem
      apply decide_eq_true
      rintro rfl
      exact h (List.mem_reverse.mp hMem)
  rw [splitUser, hNone]

theorem splitPort_of_notMem {text : List Char} (h : ':' ∉ text) (inBrackets : Bool) :
    splitPort inBrackets text = (text, none) := by
  induction text generalizing inBrackets with
  | nil => rfl
  | cons c rest ih =>
    rw [List.mem_cons, not_or] at h
    rw [splitPort, if_neg (fun hColon => h.1 hColon.1.symm)]
    dsimp only
    rw [ih h.2]

theorem readHost_of_inert {host : List Char} (h : ∀ c ∈ host, Inert c) :
    readHost .other host false false = .ok (if host = [] then none else some (.name host)) := by
  by_cases hEmpty : host = []
  · rw [hEmpty]
    rfl
  · have hBracket : host.head? ≠ some '[' :=
      fun hHead => notMem_of_inert h rfl (List.mem_of_mem_head? hHead)
    have hAny : ¬ host.any Host.forbidden = true := by
      intro hAny
      obtain ⟨c, hMem, hForbidden⟩ := List.any_eq_true.mp hAny
      exact notMem_of_inert h hForbidden hMem
    have hControl : ∀ c ∈ host, Escape.control c = false := by
      intro c hMem
      have hPath := (h c hMem).notInPath
      rw [Escape.path, Escape.fragment, Bool.or_eq_false_iff, Bool.or_eq_false_iff] at hPath
      exact hPath.1.1
    rw [readHost, if_neg hEmpty, if_neg hEmpty]
    change (Host.readPlain host).map some = _
    rw [Host.readPlain, if_neg hBracket, if_neg hAny, Percent.encode_of_forall hControl]
    rfl

/-- An authority of inert characters is a host. -/
theorem readAuthority_of_inert {scheme : String} (hKind : schemeKind scheme = .other)
    {host : List Char} (h : ∀ c ∈ host, Inert c) (more : Bool) :
    readAuthority scheme host more =
      .ok ({ host := if host = [] then none else some (.name host) }, []) := by
  rw [readAuthority, splitUser_of_notMem (notMem_of_inert h rfl)]
  dsimp only [Option.map_none]
  rw [splitPort_of_notMem (notMem_of_inert h rfl), hKind, if_neg (by simp)]
  change (do
    let host ← readHost .other host false false
    let port ← readPort scheme []
    pure (({ host, port } : Authority), [])) = _
  rw [readHost_of_inert h]
  rfl

/-- The path behind a host, which may be empty, is read as it is written. -/
theorem readOther_writeBehindHost {scheme : String} (hKind : schemeKind scheme = .other)
    (host : List Char) {names : List (List Char)} (h : Dotless names) (more : Bool) :
    readOther scheme ('/' :: '/' :: (writeName host ++ (pathOf names).write)) more =
      .ok (some { host := if writeName host = [] then none else some (.name (writeName host)) },
        pathOf names) := by
  have hHost : ∀ c ∈ writeName host, Inert c := fun _ => inert_of_mem_writeName
  have hPlain : ∀ c ∈ writeName host, (!isSlash false c) = true :=
    fun c hMem => by rw [(hHost c hMem).notSlashOf false]; rfl
  have hSpecial : (schemeKind scheme).special = false := by
    rw [hKind]
    rfl
  rw [readOther, readNetwork, hSpecial, takeWhile_append_write hPlain rfl,
    dropWhile_append_write hPlain rfl, readAuthority_of_inert hKind hHost]
  cases names with
  | nil => rfl
  | cons first rest =>
    have hPath : .rooted (readSegments false (writeName first ++ (pathOf rest).write)) =
        pathOf (first :: rest) := congrArg UrlPath.rooted (readSegments_write false h)
    rw [write_pathOf_cons, ← hPath]
    rfl

/-! ## Whole URLs -/

theorem clean_of_forall {text : List Char} (h : ∀ c ∈ text, isControlOrSpace c = false) :
    clean text = text := by
  have hDrop : ∀ chars : List Char, (∀ c ∈ chars, isControlOrSpace c = false) →
      chars.dropWhile isControlOrSpace = chars := by
    intro chars hChars
    cases chars with
    | nil => rfl
    | cons c rest => rw [List.dropWhile_cons_of_neg (by simp [hChars c List.mem_cons_self])]
  have hFilter : text.filter (!isTabOrNewline ·) = text := by
    apply List.filter_eq_self.mpr
    intro c hMem
    have hBlank := h c hMem
    rw [Bool.not_eq_true', Bool.eq_false_iff]
    intro hTab
    simp only [isTabOrNewline, Bool.or_eq_true, decide_eq_true_eq] at hTab
    rcases hTab with (rfl | rfl) | rfl <;> cases hBlank
  rw [clean, hDrop text h, hDrop text.reverse fun c hMem => h c (List.mem_reverse.mp hMem),
    List.reverse_reverse, hFilter]

/-- A scheme that is read as it is written. -/
structure IsScheme (scheme : String) : Prop where
  split : ∀ body, splitScheme? (scheme.toList ++ ':' :: body) = some (scheme, body)
  notBlank : ∀ c ∈ scheme.toList, isControlOrSpace c = false
  notColon : ':' ∉ scheme.toList

theorem isScheme_file : IsScheme "file" := ⟨fun _ => rfl, by simp [isControlOrSpace], by simp⟩

theorem isScheme_json : IsScheme "json" := ⟨fun _ => rfl, by simp [isControlOrSpace], by simp⟩

/-- The authority and path of a URL without query and fragment. -/
def readBody (scheme : String) (body : List Char) : Except Fault (Option Authority × UrlPath) :=
  match schemeKind scheme with
  | .file => (readFile body).map fun (authority, path) => (some authority, path)
  | .network =>
    (readNetwork scheme (body.dropWhile (isSlash true)) false).map fun (authority, path) =>
      (some authority, path)
  | .other => readOther scheme body false

theorem readBody_file {body : List Char} {authority : Authority} {path : UrlPath}
    (h : readFile body = .ok (authority, path)) :
    readBody "file" body = .ok (some authority, path) := by
  change (readFile body).map _ = _
  rw [h]
  rfl

/-- A text of inert characters and slashes behind a scheme has neither query nor fragment. -/
theorem read_eq_ok {text scheme : String} {body : List Char} {authority : Option Authority}
    {path : UrlPath} (hScheme : IsScheme scheme)
    (hText : text.toList = scheme.toList ++ ':' :: body)
    (hBody : ∀ c ∈ body, c = '/' ∨ Inert c) (h : readBody scheme body = .ok (authority, path)) :
    read text = .ok { scheme, authority, path, query := none, fragment := none } := by
  have hBlank : ∀ c ∈ scheme.toList ++ ':' :: body, isControlOrSpace c = false := by
    intro c hMem
    rw [List.mem_append, List.mem_cons] at hMem
    rcases hMem with hMem | rfl | hMem
    · exact hScheme.notBlank c hMem
    · rfl
    · rcases hBody c hMem with rfl | hInert
      · rfl
      · exact hInert.notBlank
  have hNotMem : ∀ d, d ≠ '/' → Host.forbidden d = true → d ∉ body := by
    intro d hSlash hForbidden hMem
    rcases hBody d hMem with hEq | hInert
    · exact hSlash hEq
    · exact hInert.ne_of_forbidden hForbidden rfl
  rw [read, hText, clean_of_forall hBlank, hScheme.split]
  dsimp only
  rw [Text.cutAt_of_notMem (hNotMem '#' (by decide) rfl)]
  dsimp only
  rw [Text.cutAt_of_notMem (hNotMem '?' (by decide) rfl)]
  simp only [Option.isSome_none, Bool.or_false]
  rw [readBody] at h
  cases hKind : schemeKind scheme with
  | file | network | other =>
    rw [hKind] at h
    dsimp only at h ⊢
    rw [h]
    rfl

end ConfigStore.Url
