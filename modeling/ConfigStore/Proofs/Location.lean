import ConfigStore.Location
import ConfigStore.Proofs.Path
import ConfigStore.Proofs.Url.Reading

/-!
# Documents named by URIs

* `Location.writtenHost?_rooted`, `Location.writtenHost?_behind`: the host that is cut out of the
  text of a URI whose names are escaped.
* `Location.documentPath_of_names`: every document has a URI, which has its names escaped.

Two readers see such a URI, that of URLs and the one that cuts out the host. They agree on which
names are in the place of the host and in the path, so that both together are the document.
-/

namespace ConfigStore.Location

/-- A name as it stands in a URI. -/
def writeName (name : String) : String := String.ofList (Url.writeName name.toList)

/-! ## Hosts -/

section Hosts

variable {scheme : List Char} (hScheme : ':' ∉ scheme)
include hScheme

theorem writtenHost?_rooted {first : List Char} (hFirst : first ≠ [])
    (rest : List (List Char)) :
    writtenHost? (scheme ++ ':' :: (Url.pathOf (first :: rest)).write) = none := by
  obtain ⟨c, name, hName, hInert⟩ := Url.exists_writeName_cons hFirst
  rw [writtenHost?, Text.cutAt_eq_some_iff.mpr ⟨rfl, hScheme⟩, Url.write_pathOf_cons, hName]
  split
  next rest hText =>
    cases hText
    exact absurd rfl (hInert.ne_of_forbidden rfl)
  · rfl

theorem writtenHost?_append (rest : List Char) :
    writtenHost? (scheme ++ ':' :: '/' :: '/' :: rest) =
      let authority := rest.takeWhile fun c => c ≠ '/' && c ≠ '?' && c ≠ '#'
      let host := dropPort (Url.splitUser authority).2
      if host = [] then none else some host := by
  rw [writtenHost?, Text.cutAt_eq_some_iff.mpr ⟨rfl, hScheme⟩]
  rfl

theorem writtenHost?_behind {host : List Char} (hHost : ∀ c ∈ host, Url.Inert c)
    (names : List (List Char)) :
    writtenHost? (scheme ++ ':' :: '/' :: '/' :: (host ++ (Url.pathOf names).write)) =
      if host = [] then none else some host := by
  have hPlain : ∀ c ∈ host, (c ≠ '/' && c ≠ '?' && c ≠ '#') = true := by
    intro c hMem
    have hSlash : '/' ≠ c := (hHost c hMem).ne_of_forbidden rfl
    have hQuery : '?' ≠ c := (hHost c hMem).ne_of_forbidden rfl
    have hFragment : '#' ≠ c := (hHost c hMem).ne_of_forbidden rfl
    simp [hSlash.symm, hQuery.symm, hFragment.symm]
  have hBracket : host.head? ≠ some '[' :=
    fun hHead => Url.notMem_of_inert hHost rfl (List.mem_of_mem_head? hHead)
  have hHostText : dropPort (Url.splitUser host).2 = host := by
    rw [Url.splitUser_of_notMem (Url.notMem_of_inert hHost rfl), dropPort, if_neg hBracket,
      Text.cutAt_of_notMem (Url.notMem_of_inert hHost rfl)]
  rw [writtenHost?_append hScheme, Url.takeWhile_append_write hPlain rfl]
  dsimp only
  rw [hHostText]

end Hosts

/-! ## Paths of documents -/

theorem decode_writeName (name : List Char) :
    decode (Url.writeName name) = .ok (String.ofList name) := by
  change (Url.spelled (Url.writeName name)).mapError _ = _
  rw [Url.spelled_writeName]
  rfl

theorem decode_write_pathOf (names : List (List Char)) :
    decode (Url.pathOf names).write = .ok (String.ofList (names.flatMap ('/' :: ·))) := by
  rw [decode, Url.pathOf, Url.UrlPath.write, List.flatMap_map]
  change Except.mapError _ (Utf8.decode (Percent.decode (names.flatMap fun name =>
    '/' :: Percent.encode (!Url.unreserved ·) name))) = _
  rw [Percent.decode_flatMap_slash (by decide), Utf8.decode_encode]
  rfl

/-- What is read of a URI with escaped names, the first of which may stand for the host. -/
theorem exists_read {uri : String} {url : Url} {host : List Char} {names : List (List Char)}
    (hUrl : Url.read uri = .ok url) (hPath : url.path = Url.pathOf names)
    (hHost : (writtenHost? uri.toList).getD [] = Url.writeName host) :
    ∃ location, read uri = .ok location ∧
      location.documentPath =
        String.ofList ((if host = [] then names else host :: names).flatMap ('/' :: ·)) := by
  have hText : decode url.pathText = .ok (String.ofList (names.flatMap ('/' :: ·))) := by
    rw [Url.pathText, hPath, decode_write_pathOf]
  refine ⟨⟨url.scheme, String.ofList host, url.port?,
    String.ofList (names.flatMap ('/' :: ·))⟩, ?_, ?_⟩
  · rw [read, parts, hUrl, hHost, decode_writeName]
    change Except.mapError _ (decode url.pathText >>= _) = _
    rw [hText]
    rfl
  · by_cases hEmpty : host = []
    · rw [documentPath, if_pos (String.ofList_eq_empty_iff.mpr hEmpty), if_pos hEmpty]
    · rw [documentPath, if_neg (mt String.ofList_eq_empty_iff.mp hEmpty), if_neg hEmpty,
        ← String.toList_inj]
      simp

theorem exists_read_rooted {uri scheme : String} {first : List Char} {rest : List (List Char)}
    {authority : Option Url.Authority} (hScheme : Url.IsScheme scheme) (hFirst : first ≠ [])
    (hText : uri.toList = scheme.toList ++ ':' :: (Url.pathOf (first :: rest)).write)
    (h : Url.readBody scheme (Url.pathOf (first :: rest)).write =
      .ok (authority, Url.pathOf (first :: rest))) :
    ∃ location, read uri = .ok location ∧
      location.documentPath = String.ofList ((first :: rest).flatMap ('/' :: ·)) := by
  have hUrl := Url.read_eq_ok hScheme hText (fun _ => Url.eq_or_inert_of_mem_write) h
  have hHost : (writtenHost? uri.toList).getD [] = Url.writeName [] := by
    rw [hText, writtenHost?_rooted hScheme.notColon hFirst]
    rfl
  exact exists_read hUrl rfl hHost

theorem exists_read_behind {uri scheme : String} (host : List Char) {names : List (List Char)}
    {authority : Option Url.Authority} (hScheme : Url.IsScheme scheme)
    (hText : uri.toList =
      scheme.toList ++ ':' :: '/' :: '/' :: (Url.writeName host ++ (Url.pathOf names).write))
    (h : Url.readBody scheme
        ('/' :: '/' :: (Url.writeName host ++ (Url.pathOf names).write)) =
      .ok (authority, Url.pathOf names)) :
    ∃ location, read uri = .ok location ∧
      location.documentPath =
        String.ofList ((if host = [] then names else host :: names).flatMap ('/' :: ·)) := by
  have hInert : ∀ c ∈ Url.writeName host, Url.Inert c := fun _ => Url.inert_of_mem_writeName
  have hBody : ∀ c ∈ '/' :: '/' :: (Url.writeName host ++ (Url.pathOf names).write),
      c = '/' ∨ Url.Inert c := by
    intro c hMem
    rw [List.mem_cons, List.mem_cons, List.mem_append] at hMem
    rcases hMem with hSlash | hSlash | hMem | hMem
    · exact .inl hSlash
    · exact .inl hSlash
    · exact .inr (hInert c hMem)
    · exact Url.eq_or_inert_of_mem_write hMem
  have hUrl := Url.read_eq_ok hScheme hText hBody h
  have hHost : (writtenHost? uri.toList).getD [] = Url.writeName host := by
    rw [hText, writtenHost?_behind hScheme.notColon hInert]
    split
    next hEmpty => exact hEmpty.symm
    · rfl
  exact exists_read hUrl rfl hHost

theorem toList_join_writeName (first : String) (rest : List String) :
    (Path.join '/' ((first :: rest).map writeName)).toList =
      Url.writeName first.toList ++ (Url.pathOf (rest.map String.toList)).write := by
  rw [List.map_cons, Path.toList_join_cons, List.flatMap_map, writeName, String.toList_ofList,
    Url.pathOf, Url.UrlPath.write, List.map_map, List.flatMap_map]
  simp only [writeName, String.toList_ofList, Function.comp_apply]

theorem slash_append_join (first : String) (rest : List String) :
    "/" ++ Path.join '/' (first :: rest) =
      String.ofList ((first.toList :: rest.map String.toList).flatMap ('/' :: ·)) := by
  rw [← String.toList_inj, String.toList_append, Path.toList_join_cons, List.flatMap_cons,
    List.flatMap_map, String.toList_ofList, String.toList_ofList]
  rfl

/-- Every document has a URI: its names are escaped and put behind one slash or three, or the first
of them takes the place of the host. A slash within a name is escaped, too. -/
theorem documentPath_of_names {names : List String} (hNames : names ≠ [])
    (h : ∀ name ∈ names, name ≠ "" ∧ name ≠ "." ∧ name ≠ "..") {start : String}
    (hStart : start ∈ ["file:/", "file:///", "json:/", "json:///", "json://"]) :
    ∃ location, read (start ++ Path.join '/' (names.map writeName)) = .ok location ∧
      location.documentPath = "/" ++ Path.join '/' names := by
  obtain ⟨first, rest, rfl⟩ := List.exists_cons_of_ne_nil hNames
  have hFirst : first.toList ≠ [] :=
    fun hNil => (h first List.mem_cons_self).1 (String.toList_eq_nil_iff.mp hNil)
  have hDotless : Url.Dotless (first.toList :: rest.map String.toList) := by
    rw [← List.map_cons]
    intro text hText
    obtain ⟨name, hName, rfl⟩ := List.mem_map.mp hText
    obtain ⟨-, hDot, hDots⟩ := h name hName
    exact ⟨fun hEq => hDot (String.toList_inj.mp hEq), fun hEq => hDots (String.toList_inj.mp hEq)⟩
  have hText : ∀ front : String, (front ++ Path.join '/' ((first :: rest).map writeName)).toList =
      front.toList ++ (Url.writeName first.toList ++
        (Url.pathOf (rest.map String.toList)).write) :=
    fun front => by rw [String.toList_append, toList_join_writeName]
  rw [slash_append_join]
  generalize rest.map String.toList = others at *
  have hRest : Url.Dotless others := fun name hName => hDotless name (List.mem_cons_of_mem _ hName)
  have hOther : Url.schemeKind "json" = .other := rfl
  simp only [List.mem_cons, List.not_mem_nil, or_false] at hStart
  rcases hStart with rfl | rfl | rfl | rfl | rfl
  · exact exists_read_rooted Url.isScheme_file hFirst (hText "file:/")
      (Url.readBody_file (Url.readFile_write hFirst hDotless))
  · exact exists_read_behind [] Url.isScheme_file (hText "file:///")
      (Url.readBody_file (Url.readFile_writeBehindHost hFirst hDotless))
  · exact exists_read_rooted Url.isScheme_json hFirst (hText "json:/")
      (Url.readOther_write "json" hFirst hDotless false)
  · exact exists_read_behind [] Url.isScheme_json (hText "json:///")
      (Url.readOther_writeBehindHost hOther [] hDotless false)
  · have hRead := exists_read_behind first.toList Url.isScheme_json (hText "json://")
      (Url.readOther_writeBehindHost hOther _ hRest false)
    rwa [if_neg hFirst] at hRead

/-- The host of this URI is a name with a blank in it, and a percent sign is no escape. -/
theorem documentPath_of_names_host :
    (["my dir", "Ä%2e", "..."] ≠ [] ∧
      (∀ name ∈ ["my dir", "Ä%2e", "..."], name ≠ "" ∧ name ≠ "." ∧ name ≠ "..") ∧
      "json://" ∈ ["file:/", "file:///", "json:/", "json:///", "json://"]) ∧
    ∃ location, read "json://my%20dir/%C3%84%252e/..." = .ok location ∧
      location.documentPath = "/my dir/Ä%2e/..." := by
  have hNames : ["my dir", "Ä%2e", "..."] ≠ [] := by decide
  have hName : ∀ name ∈ ["my dir", "Ä%2e", "..."], name ≠ "" ∧ name ≠ "." ∧ name ≠ ".." := by
    decide
  have hStart : "json://" ∈ ["file:/", "file:///", "json:/", "json:///", "json://"] := by decide
  refine ⟨⟨hNames, hName, hStart⟩, ?_⟩
  have hUri : "json://" ++ Path.join '/' (["my dir", "Ä%2e", "..."].map writeName) =
      "json://my%20dir/%C3%84%252e/..." := by decide +kernel
  rw [← hUri]
  exact documentPath_of_names hNames hName hStart

end ConfigStore.Location
