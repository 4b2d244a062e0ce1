import Mathlib.Data.List.TakeWhile
import StackDeploy.Proofs.Url.Path
import StackDeploy.Service.Remote

/-!
# Routes to a remote service

What a request asks for is told by the pieces that are appended to the path of the endpoint. Nothing
else of the endpoint changes, every piece can be read back from the URL, and so no two requests for
different things have the same URL.

* `Url.exists_url_of_parse?` — what is read from a text whose scheme is special.
* `Url.LeadsAlong` — a URL leads from another one along pieces.
* `RemoteService.leads_along_pieces` — the URLs below an endpoint lead along their pieces.
* `RemoteService.root_is_no_piece` — a path of two empty pieces is left out as a whole.
-/

namespace StackDeploy

open Text

namespace Url

/-! ### Endpoints -/

/-- The **scheme** that a text is written with. -/
def writtenScheme? (text : String) : Option String :=
  (readScheme? (cutOff '?' (cutOff '#' (trimEnds text.toList)).1).1).map Prod.fst

section Endpoints

variable {scheme : String} (hspecial : isSpecial scheme = true) (hscheme : scheme ≠ fileScheme)

include hspecial hscheme

theorem isPrintable_of_readWithAuthority {text : List Char} {followed : Bool}
    {authority : Authority} {path : List (List Char)}
    (h : readWithAuthority scheme text followed = .ok (authority, path)) : IsPrintable path := by
  rw [readWithAuthority] at h
  simp only [hspecial] at h
  generalize readAuthority scheme _ _ = read at h
  cases read with
  | error => cases h
  | ok read =>
    cases h
    split
    · exact List.forall_mem_singleton.mpr (List.forall_mem_nil _)
    · exact isPrintable_readPath hspecial hscheme _

/-- A text with a special scheme **reads as** a URL with that scheme and a path of printable
pieces. -/
theorem exists_url_of_parse? {text : String} {parsed : Parsed}
    (hwritten : writtenScheme? text = some scheme) (h : parse? text = .ok parsed) :
    ∃ base, parsed = .url base ∧ base.scheme = scheme ∧ IsPrintable base.path := by
  obtain ⟨⟨scheme, rest⟩, hread, rfl⟩ := Option.map_eq_some_iff.mp hwritten
  simp only [parse?, hread, hspecial, if_neg hscheme, if_true] at h
  generalize hlocated : readWithAuthority scheme _ _ = located at h
  cases located with
  | error => cases h
  | ok located =>
    cases h
    exact ⟨_, rfl, rfl, isPrintable_of_readWithAuthority hspecial hscheme hlocated⟩

end Endpoints

/-! ### Where pieces lead -/

/-- Pieces that **can be appended**: the first one is not empty, none stands for a place, and no
character of theirs is dropped. -/
structure AreAppendable (pieces : List String) : Prop where
  first : ∃ first rest, pieces = first :: rest ∧ first ≠ ""
  plain : ∀ piece ∈ pieces, IsPlain piece

/-- A URL **leads** from a base **along** pieces: it has the scheme, the authority (so the host and
the port), the query and the fragment of the base, and its path is the stem of the path of the base
and one piece for each of the given ones, in order. -/
structure LeadsAlong (base u : Url) (pieces : List String) : Prop where
  scheme : u.scheme = base.scheme
  authority : u.authority = base.authority
  query : u.query = base.query
  fragment : u.fragment = base.fragment
  /-- Each piece is read back from its place, and it holds no character that ends a piece. -/
  path : ∃ written, u.path = stem base.path ++ written ∧
    written.map (fun piece => Utf8.decode? (Percent.decode piece)) = pieces.map some ∧
    ∀ piece ∈ written, ∀ c ∈ piece, IsPieceChar c
  /-- The slashes of the printed path stand between its pieces. -/
  printed : splitOnChar '/' (printPath u.path) = [] :: u.path

section LeadsAlong

variable {base : Url} {pieces other : List String}

theorem leadsAlong_appendAll (hspecial : isSpecial base.scheme = true)
    (hscheme : base.scheme ≠ fileScheme) (hpath : IsPrintable base.path)
    (happendable : AreAppendable pieces) :
    base.LeadsAlong (base.appendAll pieces) pieces ∧
      base.appendAll pieces = { base with path := stem base.path ++ pieces.map base.written } ∧
      IsPrintable (stem base.path ++ pieces.map base.written) := by
  obtain ⟨first, rest, hpieces, hfirst⟩ := happendable.first
  have heq : base.appendAll pieces =
      { base with path := stem base.path ++ pieces.map base.written } := by
    rw [hpieces]
    exact appendAll_eq hscheme hfirst (hpieces ▸ happendable.plain)
  have hwritten : IsPrintable (pieces.map base.written) :=
    List.forall_mem_map.mpr fun piece _ => isPieceChar_of_mem_written hspecial piece
  have hprintable : IsPrintable (stem base.path ++ pieces.map base.written) :=
    List.forall_mem_append.mpr ⟨hpath.stem, hwritten⟩
  refine ⟨?_, heq, hprintable⟩
  rw [heq]
  refine ⟨rfl, rfl, rfl, rfl, ⟨_, rfl, ?_, hwritten⟩, splitOnChar_printPath hprintable.not_mem⟩
  rw [List.map_map]
  exact List.map_congr_left fun piece _ => decode?_written base piece

/-- Different pieces lead to **different URLs**. -/
theorem pieces_eq_of_print_eq (hspecial : isSpecial base.scheme = true)
    (hscheme : base.scheme ≠ fileScheme) (hpath : IsPrintable base.path)
    (happendable : AreAppendable pieces) (happendable' : AreAppendable other)
    (heq : (base.appendAll pieces).print = (base.appendAll other).print) : pieces = other := by
  obtain ⟨-, hleft, hprintable⟩ := leadsAlong_appendAll hspecial hscheme hpath happendable
  obtain ⟨-, hright, hprintable'⟩ := leadsAlong_appendAll hspecial hscheme hpath happendable'
  rw [hleft, hright] at heq
  have hpaths := path_eq_of_print_eq base hprintable.not_mem hprintable'.not_mem heq
  exact List.map_injective_iff.mpr base.written_injective (List.append_cancel_left hpaths)

end LeadsAlong

end Url

/-! ### Endpoints of a service -/

namespace RemoteService

open Url

variable (endpoint : String) (token : Option String)

/-- All **slashes at the end** of an endpoint are left out, and nothing else. -/
theorem endpoint_atEndpoint :
    (∃ n, endpoint.toList = (atEndpoint endpoint token).endpoint.toList ++ List.replicate n '/') ∧
      (atEndpoint endpoint token).endpoint.toList.getLast? ≠ some '/' := by
  obtain ⟨slashes, hall, heq⟩ : ∃ slashes : List Char, (∀ c ∈ slashes, c = '/') ∧
      slashes ++ endpoint.toList.reverse.dropWhile (· = '/') = endpoint.toList.reverse :=
    ⟨endpoint.toList.reverse.takeWhile (· = '/'),
      fun c hc => by simpa using List.mem_takeWhile_imp hc, List.takeWhile_append_dropWhile⟩
  rw [atEndpoint, String.toList_ofList]
  refine ⟨⟨slashes.length, ?_⟩, ?_⟩
  · have hslashes := List.eq_replicate_iff.mpr ⟨rfl, hall⟩
    calc endpoint.toList
        = (slashes ++ endpoint.toList.reverse.dropWhile (· = '/')).reverse := by
          rw [heq, List.reverse_reverse]
      _ = _ ++ slashes.reverse := List.reverse_append
      _ = _ ++ List.replicate slashes.length '/' := by rw [hslashes, List.reverse_replicate,
          List.length_replicate]
  · rw [List.getLast?_reverse]
    intro hhead
    have hnot := List.head?_dropWhile_not (fun c => decide (c = '/')) endpoint.toList.reverse
    rw [hhead] at hnot
    cases hnot

theorem url_eq_of_parse? {s : RemoteService} {base : Url}
    (h : Url.parse? s.endpoint = .ok (.url base)) (pieces : List String) :
    s.url pieces = .ok (base.appendAll pieces) := by
  rw [url, h]

theorem isSpecial_of_mem_schemes :
    ∀ scheme ∈ schemes, isSpecial scheme = true ∧ scheme ≠ fileScheme := by
  decide

variable {endpoint}

/-- URLs below an endpoint **lead along their pieces**. If what is left of an endpoint without the
slashes at its end is written with one of the schemes of HTTP and can be read, then it is a URL with
a path, and all pieces that can be appended have a URL, which leads along them from that of the
endpoint. Whatever the pieces hold, they are read back from it, so different pieces have different
URLs. -/
theorem leads_along_pieces {scheme : String} {parsed : Parsed}
    (hwritten : writtenScheme? (atEndpoint endpoint token).endpoint = some scheme)
    (hscheme : scheme ∈ schemes)
    (hparsed : Url.parse? (atEndpoint endpoint token).endpoint = .ok parsed) :
    (∃ n, endpoint.toList = (atEndpoint endpoint token).endpoint.toList ++ List.replicate n '/') ∧
    (atEndpoint endpoint token).endpoint.toList.getLast? ≠ some '/' ∧
    ∃ base, parsed = .url base ∧ base.scheme = scheme ∧
      (∀ pieces, AreAppendable pieces → ∃ u, (atEndpoint endpoint token).url pieces = .ok u ∧
        base.LeadsAlong u pieces) ∧
      ∀ pieces other, AreAppendable pieces → AreAppendable other → ∀ u v,
        (atEndpoint endpoint token).url pieces = .ok u →
        (atEndpoint endpoint token).url other = .ok v → u.print = v.print → pieces = other := by
  obtain ⟨hspecial, hfile⟩ := isSpecial_of_mem_schemes scheme hscheme
  obtain ⟨base, rfl, rfl, hpath⟩ := exists_url_of_parse? hspecial hfile hwritten hparsed
  have hurl := url_eq_of_parse? hparsed
  refine ⟨(endpoint_atEndpoint endpoint token).1, (endpoint_atEndpoint endpoint token).2, base, rfl,
    rfl, fun pieces happendable => ⟨_, hurl pieces, ?_⟩, ?_⟩
  · exact (leadsAlong_appendAll hspecial hfile hpath happendable).1
  · intro pieces other happendable happendable' u v hu hv hprint
    obtain rfl := Except.ok.inj ((hurl pieces).symm.trans hu)
    obtain rfl := Except.ok.inj ((hurl other).symm.trans hv)
    exact pieces_eq_of_print_eq hspecial hfile hpath happendable happendable' hprint

/-- Pieces that look like **parts of a URL**: with a slash, marks and percent signs, and empty. -/
def trickyPieces : List String := ["stacks", "arn:demo/Größe?#42%2F\\", "", "%2e%2e"]

/-- Below an endpoint with a port, a path that ends in a slash, and a query. -/
theorem trickyPieces_are_kept : ∃ base u,
    Url.parse? (atEndpoint "http://h:81/v1/?q//" none).endpoint = .ok (.url base) ∧
      (atEndpoint "http://h:81/v1/?q//" none).url trickyPieces = .ok u ∧
      base.LeadsAlong u trickyPieces ∧
      u.print =
        "http://h:81/v1/stacks/arn:demo%2FGr%C3%B6%C3%9Fe%3F%2342%252F%5C//%252e%252e?q" := by
  let base : Url :=
    ⟨"http", some ⟨[], [], .name ['h'], some 81⟩, false, [['v', '1'], []], some ['q'], none⟩
  have hparsed : Url.parse? (atEndpoint "http://h:81/v1/?q//" none).endpoint = .ok (.url base) := by
    decide +kernel
  have happendable : AreAppendable trickyPieces :=
    ⟨⟨_, _, rfl, by decide⟩, by decide +kernel⟩
  have hwritten :
      writtenScheme? (atEndpoint "http://h:81/v1/?q//" none).endpoint = some "http" := by
    decide +kernel
  obtain ⟨-, -, _, ⟨⟩, -, hkept, -⟩ := leads_along_pieces none hwritten (by decide) hparsed
  obtain ⟨u, hu, hleads⟩ := hkept trickyPieces happendable
  refine ⟨base, u, hparsed, hu, hleads, ?_⟩
  obtain rfl := Except.ok.inj ((url_eq_of_parse? hparsed trickyPieces).symm.trans hu)
  decide +kernel

/-- A path of **two empty pieces** is left out as a whole, although only one of them stands at the
end. -/
theorem root_is_no_piece : ∃ base u, AreAppendable ["a"] ∧
    Url.parse? (atEndpoint "http://h//?q" none).endpoint = .ok (.url base) ∧
    (atEndpoint "http://h//?q" none).url ["a"] = .ok u ∧ u.print = "http://h/a?q" ∧
    ∀ written, u.path ≠ withoutTrailing base.path ++ [written] := by
  let base : Url :=
    ⟨"http", some ⟨[], [], .name ['h'], none⟩, false, [[], []], some ['q'], none⟩
  have hparsed : Url.parse? (atEndpoint "http://h//?q" none).endpoint = .ok (.url base) := by
    decide +kernel
  refine ⟨base, base.appendAll ["a"], ⟨⟨_, _, rfl, by decide⟩, by decide +kernel⟩, hparsed,
    url_eq_of_parse? hparsed ["a"], by decide +kernel, fun written heq => ?_⟩
  have hlength : (base.appendAll ["a"]).path.length = 1 := by decide +kernel
  rw [heq] at hlength
  exact absurd hlength (by simp [withoutTrailing, base])

end RemoteService

end StackDeploy
