import SiteCache.Proofs.Text.Numeral
import SiteCache.Proofs.Url.Form
import SiteCache.Proofs.Url.Segments
import SiteCache.Remote.Endpoint
import SiteCache.Sync.Connection

set_option autoImplicit false

namespace SiteCache

namespace Url

def IsWeb (u : Url) : Prop := u.scheme = "http" ∨ u.scheme = "https"

theorem IsWeb.special {u : Url} (web : u.IsWeb) : isSpecialScheme u.scheme = true := by
  rcases web with scheme | scheme <;> rw [scheme] <;> rfl

theorem scheme_of_ofFile {b : Body} {u : Url} (read : b.ofFile = .ok u) : u.scheme = "file" := by
  simp only [Body.ofFile] at read
  split at read
  · split at read
    · split at read
      · cases read
        rfl
      · obtain ⟨host, -, made⟩ := bind_eq_ok.mp read
        cases made
        rfl
    · cases read
      rfl
  · cases read
    rfl

theorem parts_of_withAuthority {b : Body} {scheme : String} {front : List Char} {u : Url}
    (read : b.withAuthority scheme front = .ok u) :
    u.scheme = scheme ∧ (∃ a, u.authority = some a) ∧ ∃ own, u.path = .segments own := by
  simp only [Body.withAuthority] at read
  obtain ⟨⟨a, rest⟩, -, made⟩ := bind_eq_ok.mp read
  cases made
  exact ⟨rfl, ⟨a, rfl⟩, _, rfl⟩

theorem parts_of_read {text : String} {u : Url} (read : Url.read text = .ok u) (web : u.IsWeb) :
    (∃ a, u.authority = some a) ∧ ∃ own, u.path = .segments own := by
  unfold Url.read at read
  split at read
  · cases read
  · rename_i scheme rest _
    dsimp only at read
    split_ifs at read with file special
    · have clash := web
      rw [IsWeb, scheme_of_ofFile read] at clash
      exact absurd clash (by decide)
    · exact (parts_of_withAuthority read).2
    · -- Neither of the two schemes is read in this way.
      have other : u.scheme = scheme := by
        split at read
        · exact (parts_of_withAuthority read).1
        · cases read
          rfl
        · cases read
          rfl
      exact absurd (other ▸ web.special) special

theorem marked_inj {mark : Char} {s t : Option String} (same : marked mark s = marked mark t) :
    s = t := by
  cases s with
  | none =>
    cases t with
    | none => rfl
    | some t => cases same
  | some s =>
    cases t with
    | none => cases same
    | some t => exact congrArg some (String.toList_injective (List.cons.inj same).2)

end Url

namespace SiteId

theorem text_injective {site site' : SiteId} (same : site.text = site'.text) : site = site' := by
  have read (s : SiteId) : Text.readInt64 s.text.toList = .ok s.value := by
    rw [text, Text.intText, String.toList_ofList, Text.readInt64_eq_ok]
    exact Text.intNumeral_signedDigits s.value.toInt
  have value := (read site).symm.trans (same ▸ read site')
  cases site
  cases site'
  cases value
  rfl

theorem text_chars (site : SiteId) : ∀ c ∈ site.text.toList, c.isDigit = true ∨ c = '-' := by
  intro c member
  rw [text, Text.intText, String.toList_ofList] at member
  cases value : site.value.toInt with
  | ofNat n =>
    rw [value] at member
    exact .inl (Text.digits_digitsOf n c member)
  | negSucc n =>
    rw [value] at member
    rcases List.mem_cons.mp member with rfl | digit
    · exact .inr rfl
    · exact .inl (Text.digits_digitsOf (n + 1) c digit)

theorem text_plain (site : SiteId) : Url.Plain site.text := by
  constructor
  · intro none
    have numeral := (Text.intNumeral_signedDigits site.value.toInt).ne_nil
    rw [text, Text.intText] at none
    exact numeral (String.ofList_eq_empty_iff.mp none)
  · intro c member
    refine (site.text_chars c member).imp_left fun digit => ?_
    rw [Char.isAlphanum, digit, Bool.or_true]

theorem slash_not_mem (site : SiteId) : ∀ c ∈ site.text.toList, decide (c = '/') = false := by
  intro c member
  refine decide_eq_false ?_
  rintro rfl
  exact (site.text_chars '/' member).elim nofun nofun

end SiteId

namespace Remote

open Url (keptSegments segmentsText marked)

variable {base : Url} {own : List String} {k k' : ResourceKind} {site site' : SiteId}
  {q q' : ListQuery}

def below (k : ResourceKind) (site : SiteId) : List String :=
  "sites" :: site.text :: (Collection.of k).segments

theorem below_plain (k : ResourceKind) (site : SiteId) : ∀ s ∈ below k site, Url.Plain s := by
  have fixed : ("sites" :: (Collection.of k).segments).all Url.isPlain = true := by
    cases k <;> rfl
  simp only [List.all_eq_true, Url.isPlain_iff] at fixed
  obtain ⟨first, rest⟩ := List.forall_mem_cons.mp fixed
  exact List.forall_mem_cons.mpr ⟨first, List.forall_mem_cons.mpr ⟨site.text_plain, rest⟩⟩

theorem appendPairs_parts (u : Url) (pairs : Pairs) :
    u.appendPairs pairs = { u with query := (u.appendPairs pairs).query } := by
  cases pairs <;> rfl

structure Located (base : Url) (k : ResourceKind) (site : SiteId) (asked : Pairs) (u : Url) :
    Prop where
  scheme : u.scheme = base.scheme
  authority : u.authority = base.authority
  path : ∃ own, base.path = .segments own ∧ u.path = .segments (keptSegments own ++ below k site)
  pairs : u.queryPairs = base.queryPairs ++ asked
  unasked : asked = [] → u.query = base.query
  fragment : u.fragment = base.fragment

theorem located (path : base.path = .segments own) (k : ResourceKind) (site : SiteId)
    (q : ListQuery) : Located base k site q.toPairs (endpoint base site (.of k) q) := by
  have appended : base.appendSegments (below k site) =
      { base with path := .segments (keptSegments own ++ below k site) } := by
    rw [Url.appendSegments, path]
    exact congrArg (fun list => { base with path := .segments list })
      (Url.foldl_append (below_plain k site))
  have parts := appendPairs_parts (base.appendSegments (below k site)) q.toPairs
  rw [appended] at parts
  have made : endpoint base site (.of k) q =
      Url.appendPairs { base with path := .segments (keptSegments own ++ below k site) }
        q.toPairs := by
    rw [← appended]
    rfl
  rw [← made] at parts
  constructor
  case scheme => rw [parts]
  case authority => rw [parts]
  case path => exact ⟨own, path, by rw [parts]⟩
  case pairs =>
    rw [made, Url.queryPairs_appendPairs]
    rfl
  case unasked =>
    intro none
    rw [made, none]
    rfl
  case fragment => rw [parts]

def collectionText (k : ResourceKind) : List Char := (segmentsText (Collection.of k).segments).tail

theorem collectionText_inj {rest rest' : List Char}
    (same : collectionText k ++ rest = collectionText k' ++ rest') : k = k' ∧ rest = rest' := by
  have long (k : ResourceKind) : 7 ≤ (collectionText k).length := by cases k <;> decide
  have fronts := congrArg (List.take 7) same
  rw [List.take_append_of_le_length (long k), List.take_append_of_le_length (long k')] at fronts
  have apart : ∀ k k', (collectionText k).take 7 = (collectionText k').take 7 → k = k' := by
    intro k k'
    cases k <;> cases k' <;> decide
  obtain rfl := apart k k' fronts
  exact ⟨rfl, List.append_cancel_left same⟩

theorem segmentsText_below (k : ResourceKind) (site : SiteId) :
    segmentsText (below k site) =
      "/sites/".toList ++ (site.text.toList ++ '/' :: collectionText k) := by
  cases k <;> rfl

theorem below_inj {rest rest' : Option String}
    (same : segmentsText (below k site) ++ marked '?' rest =
      segmentsText (below k' site') ++ marked '?' rest') :
    k = k' ∧ site = site' ∧ rest = rest' := by
  simp only [segmentsText_below, List.append_assoc, List.append_right_inj,
    List.cons_append] at same
  have cut (site : SiteId) (rest : List Char) :
      Text.splitFirst? (· = '/') (site.text.toList ++ '/' :: rest) =
        some (site.text.toList, rest) :=
    Text.splitFirst?_append_cons (by decide) site.slash_not_mem rest
  have parts := (cut site _).symm.trans ((congrArg (Text.splitFirst? (· = '/')) same).trans
    (cut site' _))
  obtain ⟨sites, behind⟩ := Prod.mk.inj (Option.some.inj parts)
  obtain ⟨kinds, queries⟩ := collectionText_inj behind
  exact ⟨kinds, SiteId.text_injective (String.toList_injective sites), Url.marked_inj queries⟩

theorem chars_of_located {u : Url} {pairs : Pairs} (located : Located base k site pairs u)
    (path : base.path = .segments own) {a : Authority} (authority : base.authority = some a) :
    u.chars = base.scheme.toList ++ ':' :: base.authorityText ++ segmentsText (keptSegments own) ++
      (segmentsText (below k site) ++ marked '?' u.query) ++ marked '#' base.fragment := by
  obtain ⟨own', path', extended⟩ := located.path
  obtain rfl : own = own' := UrlPath.segments.inj (path.symm.trans path')
  have unguarded : u.pathGuard = [] := by
    rw [Url.pathGuard, located.authority, authority]
  have text : u.pathText = segmentsText (keptSegments own) ++ segmentsText (below k site) := by
    rw [Url.pathText, extended]
    exact List.flatMap_append
  have authorities : u.authorityText = base.authorityText := by
    rw [Url.authorityText, located.authority, Url.authorityText]
  rw [Url.chars, unguarded, text, authorities, located.scheme, located.fragment]
  simp

theorem located_inj {u u' : Url} {pairs pairs' : Pairs} (located : Located base k site pairs u)
    (located' : Located base k' site' pairs' u') {a : Authority}
    (authority : base.authority = some a) (same : u.render = u'.render) :
    k = k' ∧ site = site' ∧ pairs = pairs' := by
  obtain ⟨own, path, -⟩ := located.path
  have chars : u.chars = u'.chars := String.ofList_injective same
  rw [chars_of_located located path authority, chars_of_located located' path authority,
    List.append_left_inj, List.append_right_inj] at chars
  obtain ⟨kind, sites, query⟩ := below_inj chars
  refine ⟨kind, sites, ?_⟩
  have read : u.queryPairs = u'.queryPairs := by rw [Url.queryPairs, query, Url.queryPairs]
  rw [located.pairs, located'.pairs] at read
  exact List.append_cancel_left read

/-- Every request has the base's parts, behind which the site, the collection and the parameters can
be read; over one base no two requests for different data have the same URL. -/
theorem endpoint_located {baseUrl userAgent : String} {base : Url}
    (connected : Sync.connect baseUrl userAgent = .ok base) (web : base.IsWeb) :
    (∀ k site (q : ListQuery), Located base k site q.toPairs (endpoint base site (.of k) q)) ∧
      ∀ k k' site site' (q q' : ListQuery),
        (endpoint base site (.of k) q).render = (endpoint base site' (.of k') q').render →
        k = k' ∧ site = site' ∧ q.toPairs = q'.toPairs := by
  obtain ⟨base', read, checked⟩ := bind_eq_ok.mp connected
  obtain rfl : base' = base := by
    split at checked
    · exact Except.ok.inj checked
    · cases checked
  obtain ⟨⟨a, authority⟩, own, path⟩ := Url.parts_of_read (mapError_eq_ok.mp read) web
  refine ⟨located path, fun k k' site site' q q' same => ?_⟩
  exact located_inj (located path k site q) (located path k' site' q') authority same

def askingBase : Url :=
  ⟨"http", some ⟨"", .name "h", none⟩, .segments ["x", ""], some "a=1&b=2", some "f"⟩

def askingQuery : ListQuery :=
  (ListQuery.paged ⟨2, 100⟩).withParams [("a&b", "1 + 1 = 2?"), ("", "%é#")]

theorem asking_located :
    Sync.connect "http://h/x/?a=1&b=2#f" "cache" = .ok askingBase ∧ askingBase.IsWeb ∧
      (endpoint askingBase ⟨-7⟩ (.of .product) askingQuery).render =
        "http://h/x/sites/-7/wc/v3/products?a=1&b=2&page=2&per_page=100&" ++
          "a%26b=1+%2B+1+%3D+2%3F&=%25%C3%A9%23#f" ∧
      Located askingBase .product ⟨-7⟩ askingQuery.toPairs
        (endpoint askingBase ⟨-7⟩ (.of .product) askingQuery) := by
  have connected : Sync.connect "http://h/x/?a=1&b=2#f" "cache" = .ok askingBase := rfl
  have web : askingBase.IsWeb := .inl rfl
  exact ⟨connected, web, by decide, (endpoint_located connected web).1 _ _ _⟩

-- A path of two slashes has two empty segments and keeps neither of them.
theorem lone_slashes_located :
    ¬ ∀ (baseUrl userAgent : String) (base : Url), Sync.connect baseUrl userAgent = .ok base →
      base.IsWeb → ∀ k site (q : ListQuery) own, base.path = .segments own →
        (endpoint base site (.of k) q).path = .segments
          ((if own.getLast? = some "" then own.dropLast else own) ++ below k site) := by
  intro always
  have path := always "http://h//" "cache"
    ⟨"http", some ⟨"", .name "h", none⟩, .segments ["", ""], none, none⟩ rfl (.inl rfl)
    .product ⟨7⟩ .unpaged _ rfl
  exact absurd path (by decide)

end Remote

end SiteCache
