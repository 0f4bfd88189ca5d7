import SiteCache.Proofs.Json.Octets
import SiteCache.Proofs.Remote.Records

set_option autoImplicit false

namespace SiteCache.Remote

open Json

def Decoded (site : SiteId) (k : ResourceKind) (nodes : List Node) (records : List (RecordOf k)) :
    Prop := List.Forall₂ (fun node r => recordDecoder site k node = .ok r) nodes records

namespace Decoded

variable {site : SiteId} {k : ResourceKind} {nodes : List Node} {records : List (RecordOf k)}

theorem exists_record (decoded : Decoded site k nodes records) {node : Node}
    (among : node ∈ nodes) : ∃ r ∈ records, recordDecoder site k node = .ok r := by
  obtain ⟨i, inside, rfl⟩ := List.getElem_of_mem among
  have there : i < records.length := decoded.length_eq ▸ inside
  exact ⟨records[i], List.getElem_mem there, decoded.get inside there⟩

theorem exists_node (decoded : Decoded site k nodes records) {r : RecordOf k}
    (among : r ∈ records) : ∃ node ∈ nodes, recordDecoder site k node = .ok r := by
  obtain ⟨i, inside, rfl⟩ := List.getElem_of_mem among
  have there : i < nodes.length := decoded.length_eq ▸ inside
  exact ⟨nodes[i], List.getElem_mem there, decoded.get there inside⟩

end Decoded

section

variable {α : Type} {inner : Decoder α}

theorem items_eq_ok {nodes : List Node} {as : List α} : Decode.items inner nodes none = .ok as ↔
    List.Forall₂ (fun node a => inner node = .ok a) nodes as := by
  induction nodes generalizing as with
  | nil => rw [List.forall₂_nil_left_iff, Decode.items, Except.ok.injEq, eq_comm]
  | cons node rest ih =>
    constructor
    · intro made
      obtain ⟨a, first, made⟩ := bind_eq_ok.mp made
      obtain ⟨others, later, made⟩ := bind_eq_ok.mp made
      cases made
      exact .cons first (ih.mp later)
    · rintro (_ | ⟨first, later⟩)
      rw [Decode.items, first, ih.mpr later]
      rfl

theorem list_eq_ok {root : Node} {as : List α} : Decode.list inner root = .ok as ↔
    ∃ nodes ending, root = .array nodes ending ∧ Decode.items inner nodes ending = .ok as := by
  constructor
  · intro made
    unfold Decode.list at made
    split at made
    · exact ⟨_, _, rfl, made⟩
    · exact absurd made (mismatch_ne_ok _ _ as)
  · rintro ⟨nodes, ending, rfl, made⟩
    exact made

theorem decode_eq_ok {decoder : Decoder α} {document : Document} {a : α} :
    document.decode decoder = .ok a ↔
      decoder document.root = .ok a ∧ document.trailing = false := by
  rw [Document.decode, bind_eq_ok]
  constructor
  · rintro ⟨a, read, ended⟩
    split at ended <;> rename_i trailing
    · cases ended
    · cases ended
      exact ⟨read, by simpa using trailing⟩
  · rintro ⟨read, ended⟩
    exact ⟨a, read, by rw [ended]; rfl⟩

end

section

variable {site : SiteId} {k : ResourceKind} {body body' : List UInt8} {nodes nodes' : List Node}
  {records : List (RecordOf k)}

theorem decodePage_eq_ok : decodePage k site body = .ok records ↔
    ∃ nodes, IsJson body (.array nodes none) ∧ Decoded site k nodes records := by
  have json (nodes : List Node) := isJson_iff body (.array nodes none)
  rw [decodePage, mapError_eq_ok, decode_eq_ok]
  constructor
  · rintro ⟨read, ended⟩
    have sound := (Thorough.list (thorough_recordDecoder site k)) _ _ read
    obtain ⟨nodes, ending, root, made⟩ := list_eq_ok.mp read
    obtain ⟨-, rfl⟩ := Thorough.items (thorough_recordDecoder site k) made
    rw [root] at sound
    refine ⟨nodes, (json nodes).mpr ⟨?_, sound⟩, items_eq_ok.mp made⟩
    rw [← root, ← ended]
  · rintro ⟨nodes, spelled, decoded⟩
    rw [((json nodes).mp spelled).1]
    exact ⟨items_eq_ok.mpr decoded, rfl⟩

theorem decodePage_array (spelled : IsJson body (.array nodes none)) :
    decodePage k site body =
      (Decode.items (recordDecoder site k) nodes none).mapError fun e => .decoding e.message := by
  rw [decodePage, ((isJson_iff _ _).mp spelled).1, Document.decode, Decode.list]
  congr 1
  cases Decode.items (recordDecoder site k) nodes none <;> rfl

theorem decodePage_error {e : RemoteError} (failed : decodePage k site body = .error e) :
    ∃ reason, e = .decoding reason := by
  unfold decodePage at failed
  cases read : (Document.ofOctets body).decode (Decode.list (recordDecoder site k)) with
  | ok records =>
    rw [read] at failed
    cases failed
  | error fault =>
    rw [read] at failed
    cases failed
    exact ⟨_, rfl⟩

theorem decodePage_failing (fails : ∀ records, decodePage k site body ≠ .ok records) :
    ∃ reason, decodePage k site body = .error (.decoding reason) := by
  cases page : decodePage k site body with
  | ok records => exact absurd page (fails records)
  | error e =>
    obtain ⟨reason, rfl⟩ := decodePage_error page
    exact ⟨reason, rfl⟩

def DifferAt {α : Type} (i : Nat) (R : α → α → Prop) (as as' : List α) : Prop :=
  ∃ before a a' after, before.length = i ∧ as = before ++ a :: after ∧
    as' = before ++ a' :: after ∧ R a a'

theorem items_differ {α : Type} {inner : Decoder α} {R : α → α → Prop} {node node' : Node}
    (agree : Agree R (inner node) (inner node')) (before after : List Node) :
    Agree (DifferAt before.length R) (Decode.items inner (before ++ node :: after) none)
      (Decode.items inner (before ++ node' :: after) none) := by
  induction before with
  | nil =>
    refine agree.bind fun a a' related => ?_
    refine (Agree.refl (Q := Eq) (fun _ => rfl) _).bind fun others _ same => ?_
    subst same
    exact .done ⟨[], a, a', others, rfl, rfl, rfl, related⟩
  | cons first before ih =>
    refine (Agree.refl (Q := Eq) (fun _ => rfl) _).bind fun b _ same => ?_
    subst same
    refine ih.bind fun others others' differ => ?_
    obtain ⟨front, a, a', back, length, rfl, rfl, related⟩ := differ
    exact .done ⟨b :: front, a, a', back, congrArg (· + 1) length, rfl, rfl, related⟩

end

structure DecodesWhole (k : ResourceKind) (site : SiteId) (response : Response) : Prop where
  taken : ∀ records, readResponse k site response = .ok records ↔
    (200 ≤ response.status ∧ response.status < 300) ∧
      ∃ nodes, IsJson response.body (.array nodes none) ∧ Decoded site k nodes records
  stamped : ∀ records, readResponse k site response = .ok records →
    (∀ r ∈ records, Resource.site r = site) ∧
      ∀ mode, (Plan.build site records mode).skippedForeign = 0
  refused : ¬ (200 ≤ response.status ∧ response.status < 300) →
    readResponse k site response = .error (.http response.status (Text.readOctets response.body))
  undecoded : 200 ≤ response.status ∧ response.status < 300 →
    (∀ nodes, IsJson response.body (.array nodes none) →
      ∃ node ∈ nodes, ∀ r, recordDecoder site k node ≠ .ok r) →
    ∃ reason, readResponse k site response = .error (.decoding reason)
  reworded : ∀ (field : ChoiceField k) (s : String) (before : List Node) (node node' : Node)
    (after : List Node) (body' : List UInt8),
    IsJson response.body (.array (before ++ node :: after) none) →
    IsJson body' (.array (before ++ node' :: after) none) → Reworded field s node node' →
    Agree (DifferAt before.length (field.Restated s)) (readResponse k site response)
      (readResponse k site ⟨response.status, body'⟩)

theorem isSuccess_iff {status : Nat} : isSuccess status ↔ 200 ≤ status ∧ status < 300 := by
  simp [isSuccess]

theorem readResponse_decodesWhole (k : ResourceKind) (site : SiteId) (response : Response) :
    DecodesWhole k site response := by
  have success : isSuccess response.status ↔ 200 ≤ response.status ∧ response.status < 300 :=
    isSuccess_iff
  have taken (records : List (RecordOf k)) : readResponse k site response = .ok records ↔
      (200 ≤ response.status ∧ response.status < 300) ∧
        ∃ nodes, IsJson response.body (.array nodes none) ∧ Decoded site k nodes records := by
    rw [← success, ← decodePage_eq_ok, readResponse]
    split <;> rename_i ok
    · exact (and_iff_right ok).symm
    · exact iff_of_false nofun fun both => ok both.1
  constructor
  case taken => exact taken
  case stamped =>
    intro records read
    obtain ⟨-, nodes, -, decoded⟩ := (taken records).mp read
    have stamped : ∀ r ∈ records, Resource.site r = site := by
      intro r among
      obtain ⟨node, -, read⟩ := decoded.exists_node among
      exact site_of_record read
    refine ⟨stamped, fun mode => List.countP_eq_zero.mpr fun r among => ?_⟩
    simp [Plan.isLocal, stamped r among]
  case refused =>
    intro failed
    rw [readResponse, if_neg (mt success.mp failed)]
  case undecoded =>
    intro ok undecodable
    rw [readResponse, if_pos (success.mpr ok)]
    refine decodePage_failing fun records page => ?_
    obtain ⟨nodes, spelled, decoded⟩ := decodePage_eq_ok.mp page
    obtain ⟨node, among, fails⟩ := undecodable nodes spelled
    obtain ⟨r, -, read⟩ := decoded.exists_record among
    exact fails r read
  case reworded =>
    intro field s before node node' after body' spelled spelled' reworded
    rw [readResponse, readResponse]
    split
    · rw [decodePage_array spelled, decodePage_array spelled']
      exact (items_differ (record_reworded site reworded) before after).mapError
    · exact .failed _ _

theorem httpService_decodesWhole {σ : Type} (base : Url) (transport : Transport σ)
    (k : ResourceKind) (site : SiteId) (q : ListQuery) {w w' : σ} {response : Response}
    (received : (transport.get (endpoint base site (.of k) q)).run w = (.ok response, w')) :
    ((httpService base transport).list k site q).run w =
        (.ofExcept (readResponse k site response), w') ∧
      DecodesWhole k site response := by
  refine ⟨?_, readResponse_decodesWhole k site response⟩
  rw [httpService, StateT.run_bind, received]
  rfl

def shopUrl : Url := ⟨"https", some ⟨"", .name "shop.example", none⟩, .segments [], none, none⟩

theorem denotes_written (s : String) : Denotes s (.string (writtenLiteral s)) :=
  ⟨_, rfl, text_writtenLiteral s⟩

def discountPage (type : String) : Value :=
  .array [.object [("id", .int 1), ("discount_type", .string type), ("code", .string "a")],
    .object [("code", .string "b"), ("id", .int 2)]]

def discountCoupons (type : DiscountType) : List Coupon :=
  [{ Coupon.new ⟨7⟩ 1 "a" .epoch with amount := "", discountType := type },
    { Coupon.new ⟨7⟩ 2 "b" .epoch with amount := "" }]

def pageResponse (page : Value) : Response := ⟨200, Text.octets page.render⟩

def answering (response : Response) : Transport Unit := ⟨fun _ => pure (.ok response)⟩

theorem halfPrice_decodesWhole :
    ((answering (pageResponse (discountPage "half"))).get
      (endpoint shopUrl ⟨7⟩ (.of .coupon) .unpaged)).run () =
        (.ok (pageResponse (discountPage "half")), ()) ∧
    ((httpService shopUrl (answering (pageResponse (discountPage "half")))).list .coupon ⟨7⟩
      .unpaged).run () = (.records (discountCoupons .other), ()) ∧
    DecodesWhole .coupon ⟨7⟩ (pageResponse (discountPage "half")) ∧
    Agree (DifferAt 0 (ChoiceField.discountType.Restated "percent"))
      (readResponse .coupon ⟨7⟩ (pageResponse (discountPage "half")))
      (readResponse .coupon ⟨7⟩ (pageResponse (discountPage "percent"))) := by
  have received : ((answering (pageResponse (discountPage "half"))).get
      (endpoint shopUrl ⟨7⟩ (.of .coupon) .unpaged)).run () =
        (.ok (pageResponse (discountPage "half")), ()) := rfl
  obtain ⟨replied, whole⟩ := httpService_decodesWhole shopUrl
    (answering (pageResponse (discountPage "half"))) .coupon ⟨7⟩ .unpaged received
  have decoded : readResponse .coupon ⟨7⟩ (pageResponse (discountPage "half")) =
      .ok (discountCoupons .other) := by
    refine (whole.taken _).mpr ⟨by decide, _, isJson_render (discountPage "half"), ?_⟩
    exact .cons rfl (.cons rfl .nil)
  rw [decoded] at replied
  have reworded : Reworded .discountType "percent"
      (.object (memberNodes [("id", .int 1)] ++ (.string (writtenLiteral "discount_type"),
        .string (writtenLiteral "half")) :: memberNodes [("code", .string "a")]) none)
      (.object (memberNodes [("id", .int 1)] ++ (.string (writtenLiteral "discount_type"),
        .string (writtenLiteral "percent")) :: memberNodes [("code", .string "a")]) none) :=
    .member (denotes_written _) ⟨_, denotes_written _⟩ (denotes_written _)
  exact ⟨received, replied, whole, whole.reworded .discountType "percent" [] _ _ _ _
    (isJson_render _) (isJson_render (discountPage "percent")) reworded⟩

def unpaired : Node := .string ⟨[.unit 0xD800], .closed⟩

def unpairedType : String :=
  "[\x7b\"id\":1,\"code\":\"a\",\"discount_type\":\"\\ud800\"\x7d]"

def foreignPage : List UInt8 :=
  Text.octets "[\x7b\"plugin\":\"seo/seo\",\"name\":\"Seo\",\"x\":\"" ++
    0xFF :: Text.octets "\"\x7d]"

theorem unpairedType_refused :
    IsJson (Text.octets unpairedType) (.array [.object
      (memberNodes [("id", .int 1), ("code", .string "a")] ++
        [(.string (writtenLiteral "discount_type"), unpaired)]) none] none) ∧
    (∃ reason, ((httpService shopUrl (answering ⟨200, Text.octets unpairedType⟩)).list .coupon ⟨7⟩
      .unpaged).run () = (.failed (.decoding reason), ())) ∧
    Text.ofOctets? foreignPage = none ∧
    ((httpService shopUrl (answering ⟨200, foreignPage⟩)).list .sitePlugin ⟨7⟩ .unpaged).run () =
      (.records [SitePlugin.new ⟨7⟩ "seo/seo" "Seo" .inactive], ()) := by
  have replied (response : Response) (k : ResourceKind) :
      ((httpService shopUrl (answering response)).list k ⟨7⟩ .unpaged).run () =
        (.ofExcept (readResponse k ⟨7⟩ response), ()) := rfl
  have read : Document.ofText unpairedType = ⟨.array [.object
      (memberNodes [("id", .int 1), ("code", .string "a")] ++
        [(.string (writtenLiteral "discount_type"), unpaired)]) none] none, false⟩ := by
    simp only [Document.ofText, unpairedType, String.reduceToList]
    rfl
  have unpairedRead : readResponse .coupon ⟨7⟩ ⟨200, Text.octets unpairedType⟩ =
      .error (.decoding "unexpected end of hex escape") := by decide +kernel
  have foreignRead : readResponse .sitePlugin ⟨7⟩ ⟨200, foreignPage⟩ =
      .ok [SitePlugin.new ⟨7⟩ "seo/seo" "Seo" .inactive] := by decide +kernel
  refine ⟨.text ((ofText_iff _ _).mp ⟨read, rfl⟩), ?_, by decide +kernel, ?_⟩
  · rw [replied, unpairedRead]
    exact ⟨_, rfl⟩
  · rw [replied, foreignRead]
    rfl

def Repeats (k : ResourceKind) (members : List (Node × Node)) : Prop :=
  ∃ name ∈ wireFields k, ∃ m m' rest, members.Perm (m :: m' :: rest) ∧ Denotes name m.1 ∧
    Denotes name m'.1

/-- What the order of members and members that are not read have to do with a page: nothing. -/
structure Orderless (k : ResourceKind) (site : SiteId) : Prop where
  rearranged : ∀ body body' nodes nodes', IsJson body (.array nodes none) →
    IsJson body' (.array nodes' none) → List.Forall₂ (Rearranged k) nodes nodes' →
    ∀ records, decodePage k site body = .ok records ↔ decodePage k site body' = .ok records
  repeated : ∀ body nodes members, IsJson body (.array nodes none) →
    .object members none ∈ nodes → Repeats k members →
    ∃ reason, decodePage k site body = .error (.decoding reason)

theorem items_agree {α : Type} {inner : Decoder α} {nodes nodes' : List Node}
    (agree : List.Forall₂ (fun node node' => Agree Eq (inner node) (inner node')) nodes nodes') :
    Agree Eq (Decode.items inner nodes none) (Decode.items inner nodes' none) := by
  induction agree with
  | nil => exact .done rfl
  | cons first _ ih =>
    refine first.bind fun a _ same => ?_
    subst same
    refine ih.bind fun as _ same => ?_
    subst same
    exact .done rfl

theorem decodePage_orderless (k : ResourceKind) (site : SiteId) : Orderless k site := by
  constructor
  case rearranged =>
    intro body body' nodes nodes' spelled spelled' rearranged
    have sound := (skipFault?_array.mp ((isJson_iff _ _).mp spelled').2).1
    have agree : List.Forall₂ (fun node node' =>
        Agree Eq (recordDecoder site k node) (recordDecoder site k node')) nodes nodes' := by
      clear spelled spelled'
      induction rearranged with
      | nil => exact .nil
      | cons first _ ih =>
        obtain ⟨here, later⟩ := skipItems?_cons.mp sound
        exact .cons (record_rearranged site first here) (ih later)
    rw [decodePage_array spelled, decodePage_array spelled', ← agree_iff]
    exact (items_agree agree).mapError
  case repeated =>
    rintro body nodes members spelled among ⟨name, known, m, m', rest, perm, first, second⟩
    refine decodePage_failing fun records page => ?_
    rw [decodePage_array spelled, mapError_eq_ok, items_eq_ok] at page
    obtain ⟨r, -, read⟩ := Decoded.exists_record page among
    exact record_repeated site known perm first second r read

def seoPlugin : SitePlugin :=
  { SitePlugin.new ⟨7⟩ "seo/seo" "Seo" .inactive with
    descriptionRaw := "a", descriptionRendered := "b" }

def pluginPage : Value :=
  .array [.object [("plugin", .string "seo/seo"), ("name", .string "Seo"),
    ("description", .object [("raw", .string "a"), ("rendered", .string "b")])]]

def shuffledPage : Value :=
  .array [.object [("_links", .array [.object [("name", .null)]]),
    ("description", .object [("rendered", .string "b"), ("raw", .string "a")]),
    ("name", .string "Seo"), ("plugin", .string "seo/seo")]]

def twicePage : Value :=
  .array [.object [("name", .string "Seo"), ("plugin", .string "seo/seo"),
    ("name", .string "Seo")]]

theorem shuffledPage_decoded :
    decodePage .sitePlugin ⟨7⟩ (Text.octets pluginPage.render) = .ok [seoPlugin] ∧
      decodePage .sitePlugin ⟨7⟩ (Text.octets shuffledPage.render) = .ok [seoPlugin] ∧
      ∃ reason, decodePage .sitePlugin ⟨7⟩ (Text.octets twicePage.render) =
        .error (.decoding reason) := by
  obtain ⟨rearranged, repeated⟩ := decodePage_orderless .sitePlugin ⟨7⟩
  have page : decodePage .sitePlugin ⟨7⟩ (Text.octets pluginPage.render) = .ok [seoPlugin] :=
    decodePage_eq_ok.mpr ⟨_, isJson_render pluginPage, .cons rfl .nil⟩
  refine ⟨page, (rearranged _ _ _ _ (isJson_render _) (isJson_render shuffledPage) ?_ _).mp page,
    repeated _ _ _ (isJson_render twicePage) List.mem_cons_self ?_⟩
  · have description : Kept .sitePlugin
        (.string (writtenLiteral "description"),
          (Value.object [("raw", .string "a"), ("rendered", .string "b")]).node)
        (.string (writtenLiteral "description"),
          (Value.object [("rendered", .string "b"), ("raw", .string "a")]).node) :=
      .description (denotes_written _) ⟨_, [], .cons rfl (.cons rfl .nil), .swap _ _ [], nofun⟩
    have perm : (memberNodes [("_links", .array [.object [("name", .null)]]),
        ("description", .object [("rendered", .string "b"), ("raw", .string "a")]),
        ("name", .string "Seo"), ("plugin", .string "seo/seo")]).Perm
          (memberNodes [("plugin", .string "seo/seo"), ("name", .string "Seo"),
            ("description", .object [("rendered", .string "b"), ("raw", .string "a")])] ++
          memberNodes [("_links", .array [.object [("name", .null)]])]) :=
      (List.reverse_perm _).symm
    refine .cons ⟨_, _, rfl, rfl, _, _, .cons (.same _) (.cons (.same _) (.cons description .nil)),
      perm, ?_⟩ .nil
    rintro m (_ | ⟨_, ⟨⟩⟩)
    exact ⟨"_links", denotes_written _, by decide⟩
  · exact ⟨"name", by decide, _, _, [_], .cons _ (.swap _ _ []), denotes_written "name",
      denotes_written "name"⟩

def barePage : Value := .array [.object [("plugin", .string "seo/seo"), ("name", .string "Seo")]]

def unpairedName : String :=
  "[\x7b\"plugin\":\"seo/seo\",\"name\":\"Seo\",\"\\ud800\":null\x7d]"

theorem unpairedName_refused :
    decodePage .sitePlugin ⟨7⟩ (Text.octets barePage.render) =
      .ok [SitePlugin.new ⟨7⟩ "seo/seo" "Seo" .inactive] ∧
    IsJson (Text.octets unpairedName) (.array [.object
      (memberNodes [("plugin", .string "seo/seo"), ("name", .string "Seo")] ++
        [(unpaired, .null)]) none] none) ∧
    ∃ reason, decodePage .sitePlugin ⟨7⟩ (Text.octets unpairedName) =
      .error (.decoding reason) := by
  have read : Document.ofText unpairedName = ⟨.array [.object
      (memberNodes [("plugin", .string "seo/seo"), ("name", .string "Seo")] ++
        [(unpaired, .null)]) none] none, false⟩ := by
    simp only [Document.ofText, unpairedName, String.reduceToList]
    rfl
  have refused : decodePage .sitePlugin ⟨7⟩ (Text.octets unpairedName) =
      .error (.decoding "unexpected end of hex escape") := by decide +kernel
  exact ⟨decodePage_eq_ok.mpr ⟨_, isJson_render barePage, .cons rfl .nil⟩,
    .text ((ofText_iff _ _).mp ⟨read, rfl⟩), _, refused⟩

end SiteCache.Remote
