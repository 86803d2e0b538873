import ChartCatalog.Proofs.Web.Resolve
import ChartCatalog.Repository.Address
import Mathlib.Data.String.Basic

/-!
# Archives listed relative to the index

A chart version may list its archive by a path relative to the repository. The archive URL
is then built as text: the trimmed repository URL without its trailing slashes, a slash,
and the path (`archiveUrl_relative`). A reader of the index resolves the same path against
the index URL, which is `index.yaml` in the directory of the repository URL
(`indexLocation_ok`).

The two agree when the repository URL is written as a directory: it has no query or
fragment, and it ends in one slash or in a character that is no separator, space or
control (`EndsAsDirectory`). Then the archive URL reads as the path resolved against the
index (`archive_url_resolves_in_index_directory`): the repository's text followed by a
slash reads as a URL of the index's directory (`directory_text_reads`), and a path written
after such a text is resolved against it (`Url.read_append_path`).

Without those conditions the text and the resolution part ways: a query of the repository
URL stays in front of the path, which the URL then reads as part of the query
(`archive_url_keeps_repository_query`).
-/

set_option autoImplicit false

namespace ChartCatalog.Repository

open Web

/-- A URL text written as a directory: it ends in one slash, or in a character that is no
separator, space or control, after which a slash is added. -/
def EndsAsDirectory (u : List Char) : Prop :=
  (u.getLast? = some '/' ∧ u.dropLast.getLast? ≠ some '/') ∨
    ∃ c ∈ u.getLast?, isSlash true c = false ∧ 0x20 < c.toNat

/-- A text checked character by character has no `?` or `#`. -/
theorem plain_of_all {l : List Char} (all : (l.all fun c => c != '?' && c != '#') = true) :
    ∀ c ∈ l, c ≠ '?' ∧ c ≠ '#' := by
  intro c member
  have kept := List.all_eq_true.1 all c member
  simp only [Bool.and_eq_true, bne_iff_ne, ne_eq] at kept
  exact kept

/-! ## The index -/

/-- `index.yaml` resolved against a special URL replaces its last segment and drops its query
and fragment. -/
theorem parse_index_yaml (url : Url) (items : List String)
    (special : isSpecialScheme url.scheme = true) (notFile : url.scheme ≠ "file") :
    Url.parse "index.yaml" (some { url with path := .segments items }) =
      .ok { url with path := .segments (items.dropLast ++ ["index.yaml"]), query := none, fragment := none } := by
  have prepared : prepareInput "index.yaml" = 'i' :: "ndex.yaml".toList := by decide +kernel
  have notFile' : (url.scheme == "file") = false := by simpa using notFile
  -- the reference is one plain segment
  have read : readPath true false items.dropLast ('i' :: "ndex.yaml".toList) =
      (items.dropLast ++ ["index.yaml"], []) := by
    unfold readPath
    rw [readSegments_last (segmentChars_of_all (by decide +kernel)),
      pushSegment_plain (by decide +kernel) (by decide +kernel)]
    have encoded : String.ofList (encodeChars .path ('i' :: "ndex.yaml".toList)) = "index.yaml" := by
      decide +kernel
    rw [encoded]
  unfold Url.parse
  rw [prepared, Url.read_relative (by decide +kernel) rfl,
    readRelative_path _ _ ⟨rfl, by decide, by decide⟩]
  dsimp only
  rw [special, notFile']
  dsimp only [UrlPath.segmentsOrEmpty]
  rw [shortenPath_false, read]
  rfl

/-- The index is `index.yaml` in the directory of the repository URL, which reads as an
`http` or `https` URL; the index has no query or fragment. -/
theorem indexLocation_ok {repoUrl : String} {index : Url}
    (located : indexLocation repoUrl = .ok index) :
    ∃ url, Url.parse (Text.trim repoUrl) none = .ok url ∧
      (url.scheme = "http" ∨ url.scheme = "https") ∧
      index = { url with
        path := .segments (dirOf url.path.segmentsOrEmpty ++ ["index.yaml"])
        query := none
        fragment := none } := by
  unfold indexLocation at located
  dsimp only at located
  split at located
  · cases located
  · rename_i url parsed
    split at located
    · cases located
    · rename_i accepted
      have web : url.scheme = "http" ∨ url.scheme = "https" := by
        simp only [Bool.or_eq_true, Bool.not_eq_eq_eq_not, Bool.not_true, Bool.or_eq_false_iff,
          not_or, not_and] at accepted
        by_contra other
        simp only [not_or] at other
        simp [other.1, other.2] at accepted
      have special : isSpecialScheme url.scheme = true := by
        rcases web with scheme | scheme <;> rw [scheme] <;> rfl
      have notFile : url.scheme ≠ "file" := by
        rcases web with scheme | scheme <;> rw [scheme] <;> decide
      refine ⟨url, parsed, web, ?_⟩
      -- the base has the directory's path with an empty last segment
      cases path : url.path with
      | segments items =>
        simp only [path] at located
        rw [parse_index_yaml url _ special notFile] at located
        cases located
        rfl
      | unsegmented text =>
        simp only [path] at located
        rw [parse_index_yaml url _ special notFile] at located
        cases located
        rfl

/-! ## The archive's text -/

/-- Cutting trailing slashes from a text that does not end in one leaves it. -/
theorem dropTrailing_of_last {s : String} {c : Char} (last : s.toList.getLast? = some c)
    (notSlash : c ≠ '/') : dropTrailing '/' s = s := by
  obtain ⟨t, split⟩ := List.getLast?_eq_some_iff.1 last
  unfold dropTrailing
  rw [split, List.reverse_append, List.reverse_singleton, List.singleton_append,
    List.dropWhile_cons_of_neg (by simpa using notSlash), List.reverse_cons, List.reverse_reverse,
    ← split, String.ofList_toList]

/-- Cutting the one trailing slash of a text and adding a slash gives the text back. -/
theorem dropTrailing_single {s : String} (last : s.toList.getLast? = some '/')
    (single : s.toList.dropLast.getLast? ≠ some '/') : dropTrailing '/' s ++ "/" = s := by
  obtain ⟨t, split⟩ := List.getLast?_eq_some_iff.1 last
  rw [split, List.dropLast_concat] at single
  -- what is left before the slash does not start, from the end, with another slash
  have kept : t.reverse.dropWhile (· == '/') = t.reverse := by
    cases back : t.reverse with
    | nil => rfl
    | cons d rest =>
      have lastT : t.getLast? = some d := by rw [← List.head?_reverse, back]; rfl
      exact List.dropWhile_cons_of_neg (by simpa [lastT] using single)
  apply String.toList_injective
  unfold dropTrailing
  rw [String.toList_append, String.toList_ofList, split, List.reverse_append, List.reverse_singleton,
    List.singleton_append, List.dropWhile_cons_of_pos (by simp), kept, List.reverse_reverse]
  rfl

/-- Cutting leading slashes from a text that does not start with one leaves it. -/
theorem dropLeading_of_head {s : String} {c : Char} (first : s.toList.head? = some c)
    (notSlash : c ≠ '/') : dropLeading '/' s = s := by
  obtain ⟨t, split⟩ := List.head?_eq_some_iff.1 first
  unfold dropLeading
  rw [split, List.dropWhile_cons_of_neg (by simpa using notSlash), ← split, String.ofList_toList]

/-- Cutting trailing slashes keeps no character the text did not have. -/
theorem mem_of_mem_dropTrailing {s : String} {c : Char} (member : c ∈ (dropTrailing '/' s).toList) :
    c ∈ s.toList := by
  unfold dropTrailing at member
  rw [String.toList_ofList, List.mem_reverse] at member
  exact List.mem_reverse.1 ((List.dropWhile_suffix _).subset member)

/-- An archive listed by a path without a scheme, not starting with a slash, is fetched from
the repository URL without its trailing slashes, a slash and the path. -/
theorem archiveUrl_relative {repoUrl ref : String} {version : ChartVersion} {c : Char}
    (listed : version.urls.head? = some ref) (relative : readScheme? (prepareInput (Text.trim ref)) = none)
    (first : (Text.trim ref).toList.head? = some c) (notSlash : c ≠ '/') :
    archiveUrl repoUrl version = .ok (dropTrailing '/' (Text.trim repoUrl) ++ "/" ++ Text.trim ref) := by
  have nonempty : (Text.trim ref).isEmpty = false := by
    rw [Bool.eq_false_iff, ne_eq, String.isEmpty_iff, ← String.toList_eq_nil_iff]
    intro empty
    rw [empty] at first
    cases first
  have noBase : Url.parse (Text.trim ref) none = .error .relativeWithoutBase := by
    unfold Url.parse Url.read
    rw [relative]
  unfold archiveUrl
  rw [listed]
  dsimp only [Option.map_some, Option.getD_some]
  rw [nonempty, noBase, dropLeading_of_head first notSlash]
  rfl

/-! ## Reading the joined text -/

/-- The text of a repository URL written as a directory, with its trailing slash cut and one
slash added, reads as a URL of the index's directory. -/
theorem directory_text_reads {U : String} {url : Url} (parsed : Url.parse U none = .ok url)
    (web : url.scheme = "http" ∨ url.scheme = "https") (plain : ∀ c ∈ U.toList, c ≠ '?' ∧ c ≠ '#')
    (directory : EndsAsDirectory U.toList) :
    ∃ base, Url.read (prepareInput (dropTrailing '/' U ++ "/")) none = .ok base ∧
      base.SameDirectory { url with
        path := .segments (dirOf url.path.segmentsOrEmpty ++ ["index.yaml"])
        query := none
        fragment := none } := by
  have read : Url.read (prepareInput U) none = .ok url := parsed
  have special : isSpecialScheme url.scheme = true := by
    rcases web with scheme | scheme <;> rw [scheme] <;> rfl
  have notFile : url.scheme ≠ "file" := by
    rcases web with scheme | scheme <;> rw [scheme] <;> decide
  have notFile' : (url.scheme == "file") = false := by simpa using notFile
  have plainS : ∀ x ∈ prepareInput U, x ≠ '?' ∧ x ≠ '#' := fun x member =>
    plain x (mem_of_mem_prepareInput member)
  have indexDir : shortenPath (url.scheme == "file") (dirOf url.path.segmentsOrEmpty ++ ["index.yaml"]) =
      dirOf url.path.segmentsOrEmpty := by
    rw [notFile', shortenPath_false, List.dropLast_concat]
  rcases directory with ⟨last, single⟩ | ⟨c, last, notSlash, visible⟩
  · -- one slash at the end: the text is kept, and its path ends in an empty segment
    rw [dropTrailing_single last single]
    have empty := Url.read_ends_empty read special notFile plainS fun x member => by
      rw [prepareInput_getLast? last (by decide)] at member
      cases member
      rfl
    refine ⟨url, read, rfl, rfl, rfl, rfl, rfl, ?_⟩
    dsimp only
    rw [UrlPath.segmentsOrEmpty.eq_1, indexDir, notFile', shortenPath_false]
    unfold dirOf
    simp [empty]
  · -- another character at the end: the added slash leads to the directory
    have notSlash' : c ≠ '/' := by
      rintro rfl
      cases notSlash
    have slashFirst : ∀ x ∈ "/".toList.head?, 0x20 < x.toNat := fun x first => by
      rw [show "/".toList.head? = some '/' from rfl] at first
      cases first
      decide
    rw [dropTrailing_of_last last notSlash', prepareInput_append (fun x member => by
        rw [Option.mem_def.1 member] at last
        cases last
        exact visible) slashFirst]
    have slash : prepareInput "/" = ['/'] := rfl
    rw [slash]
    have lastS : ∀ x ∈ (prepareInput U).getLast?, isSlash true x = false := by
      intro x member
      rw [prepareInput_getLast? (Option.mem_def.1 last) visible] at member
      cases member
      exact notSlash
    obtain ⟨base, readBase, scheme, username, password, host, port, dir⟩ :=
      Url.read_append_slash read special notFile plainS lastS
    refine ⟨base, readBase, scheme, username, password, host, port, ?_⟩
    dsimp only
    rw [UrlPath.segmentsOrEmpty.eq_1, indexDir, scheme, notFile', shortenPath_false, dir]

/-- Where the repository URL is written as a directory without query or fragment, an archive
listed by a path reads as that path resolved against the index. -/
theorem archive_url_resolves_in_index_directory {repoUrl ref : String} {version : ChartVersion}
    {index : Url} (located : indexLocation repoUrl = .ok index)
    (plain : ∀ c ∈ (Text.trim repoUrl).toList, c ≠ '?' ∧ c ≠ '#')
    (directory : EndsAsDirectory (Text.trim repoUrl).toList)
    (listed : version.urls.head? = some ref)
    (relative : readScheme? (prepareInput (Text.trim ref)) = none)
    (pathFirst : ∃ c ∈ (Text.trim ref).toList.head?, SegmentChar c ∧ 0x20 < c.toNat) :
    ∃ archive, archiveUrl repoUrl version = .ok archive ∧
      Url.parse archive none = Url.parse (Text.trim ref) (some index) := by
  obtain ⟨url, parsed, web, rfl⟩ := indexLocation_ok located
  obtain ⟨c, first, segment, visible⟩ := pathFirst
  have first' : (Text.trim ref).toList.head? = some c := first
  have notSlash : c ≠ '/' := by
    rintro rfl
    cases segment.1
  obtain ⟨tail, prepared⟩ := prepareInput_head first' visible
  obtain ⟨base, read, same⟩ := directory_text_reads parsed web plain directory
  have special : isSpecialScheme base.scheme = true := by
    rw [same.scheme]
    rcases web with scheme | scheme <;> exact scheme ▸ rfl
  have notFile : base.scheme ≠ "file" := by
    rw [same.scheme]
    rcases web with scheme | scheme <;> rw [scheme] <;> decide
  refine ⟨_, archiveUrl_relative listed relative first' notSlash, ?_⟩
  -- the joined text is the directory's text and then the reference, which has a path first
  have joined : (dropTrailing '/' (Text.trim repoUrl) ++ "/").toList.getLast? = some '/' := by
    rw [String.toList_append]
    exact List.getLast?_concat
  have plainW : ∀ x ∈ prepareInput (dropTrailing '/' (Text.trim repoUrl) ++ "/"), x ≠ '?' ∧ x ≠ '#' := by
    intro x member
    have written := mem_of_mem_prepareInput member
    rw [String.toList_append, List.mem_append] at written
    rcases written with inRepo | inSlash
    · exact plain x (mem_of_mem_dropTrailing inRepo)
    · have isSlash : x = '/' := by simpa using inSlash
      subst isSlash
      decide
  have endsW : ∀ x ∈ (prepareInput (dropTrailing '/' (Text.trim repoUrl) ++ "/")).getLast?,
      isSlash true x = true := by
    intro x member
    rw [prepareInput_getLast? joined (by decide)] at member
    cases member
    rfl
  unfold Url.parse
  rw [prepareInput_append (fun x member => by rw [joined] at member; cases member; decide)
      (fun x member => by rw [first'] at member; cases member; exact visible), prepared,
    Url.read_append_path read special notFile plainW endsW segment, same.readRelative_eq tail segment,
    ← prepared, Url.read_relative relative rfl]

/-- A repository under a subpath, written with its trailing slash, and an archive listed by a
path below it. -/
theorem archive_url_resolves_in_index_directory_subpath :
    let index : Url := ⟨"https", "", "", some (.domain "subpath.test"), none,
      .segments ["subpath", "index.yaml"], none, none⟩
    let version : ChartVersion := ⟨"1.0.0", "", none, "", ["charts/nginx-1.0.0.tgz"]⟩
    ∃ archive, archiveUrl "https://subpath.test/subpath/" version = .ok archive ∧
      Url.parse archive none = Url.parse (Text.trim "charts/nginx-1.0.0.tgz") (some index) := by
  intro index version
  have lastButOne : (Text.trim "https://subpath.test/subpath/").toList.dropLast.getLast? = some 'h' := rfl
  exact archive_url_resolves_in_index_directory (by decide +kernel) (plain_of_all (by decide +kernel))
    (.inl ⟨rfl, by rw [lastButOne]; decide⟩) rfl (by decide +kernel) ⟨'c', rfl, ⟨rfl, by decide, by decide⟩, by decide⟩

/-- A repository URL with a query: the archive URL keeps the query in front of the path, which
then reads as part of the query, while the path resolved against the index has none. -/
theorem archive_url_keeps_repository_query :
    let index : Url := ⟨"http", "", "", some (.domain "h.test"), none, .segments ["a", "index.yaml"],
      none, none⟩
    let version : ChartVersion := ⟨"1", "", none, "", ["c.tgz"]⟩
    indexLocation "http://h.test/a?x=1" = .ok index ∧
      archiveUrl "http://h.test/a?x=1" version = .ok "http://h.test/a?x=1/c.tgz" ∧
      (Url.parse "http://h.test/a?x=1/c.tgz" none).map (·.query) = .ok (some "x=1/c.tgz") ∧
      (Url.parse "c.tgz" (some index)).map (·.query) = .ok none ∧
      Url.parse "http://h.test/a?x=1/c.tgz" none ≠ Url.parse "c.tgz" (some index) := by
  intro index version
  exact ⟨by decide +kernel, by decide +kernel, by decide +kernel, by decide +kernel, by decide +kernel⟩

end ChartCatalog.Repository
