import SiteCache.Proofs.Json.Exchange
import SiteCache.Proofs.Json.Thorough
import SiteCache.Remote.Http

set_option autoImplicit false

namespace SiteCache.Remote

open Json

def recordShape (site : SiteId) : (k : ResourceKind) → Shape (RecordOf k)
  | .sitePlugin => Codec.Wire.sitePluginShape site
  | .product => Codec.Wire.productShape site
  | .coupon => Codec.Wire.couponShape site

def recordTitle : ResourceKind → String
  | .sitePlugin => "PluginDto"
  | .product => "ProductDto"
  | .coupon => "CouponDto"

theorem recordDecoder_eq (site : SiteId) (k : ResourceKind) :
    recordDecoder site k = (recordShape site k).decoder (recordTitle k) := by
  cases k <;> rfl

def wireFields : ResourceKind → List String
  | .sitePlugin =>
    ["plugin", "status", "name", "plugin_uri", "author", "author_uri", "description", "version",
      "network_only", "requires_wp", "requires_php", "textdomain"]
  | .product =>
    ["id", "name", "slug", "permalink", "type", "status", "sku", "price", "regular_price",
      "sale_price", "stock_status", "manage_stock", "stock_quantity", "date_created_gmt",
      "date_modified_gmt"]
  | .coupon =>
    ["id", "code", "amount", "discount_type", "description", "date_expires_gmt", "usage_count",
      "usage_limit", "individual_use", "free_shipping", "date_modified_gmt"]

theorem names_recordShape (site : SiteId) (k : ResourceKind) :
    (recordShape site k).fields.map Field.name = wireFields k := by
  cases k <;> rfl

theorem wireFields_nodup (k : ResourceKind) : (wireFields k).Nodup := by
  cases k <;> decide

theorem thorough_description : Thorough Codec.Wire.description :=
  Shape.Thorough.decoder (by simp [Shape.defaulted, Thorough.text]) _

theorem thorough_recordShape (site : SiteId) (k : ResourceKind) :
    (recordShape site k).Thorough := by
  cases k <;>
    simp [recordShape, Codec.Wire.sitePluginShape, Codec.Wire.productShape, Codec.Wire.couponShape,
      Codec.Wire.optional, Codec.Wire.bareTime, Shape.required, Shape.defaulted, Codec.pluginStatus,
      Codec.productType, Codec.productStatus, Codec.stockStatus, Codec.discountType,
      Codec.openChoice, Thorough.text, Thorough.boolean, Thorough.int64, Thorough.nullable,
      Thorough.parsed, Thorough.choice, thorough_description]

theorem thorough_recordDecoder (site : SiteId) (k : ResourceKind) :
    Thorough (recordDecoder site k) := by
  rw [recordDecoder_eq]
  exact (thorough_recordShape site k).decoder _

theorem yields_site (site : SiteId) (k : ResourceKind) :
    (recordShape site k).Yields fun r => Resource.site r = site := by
  cases k with
  | sitePlugin =>
    simp only [recordShape, Codec.Wire.sitePluginShape]
    iterate 12 refine .also ?_
    refine .constant ?_
    intros
    rfl
  | product =>
    simp only [recordShape, Codec.Wire.productShape]
    iterate 15 refine .also ?_
    refine .constant ?_
    intros
    rfl
  | coupon =>
    simp only [recordShape, Codec.Wire.couponShape]
    iterate 11 refine .also ?_
    refine .constant ?_
    intros
    rfl

theorem site_of_record {site : SiteId} {k : ResourceKind} {node : Node} {r : RecordOf k}
    (decoded : recordDecoder site k node = .ok r) : Resource.site r = site := by
  rw [recordDecoder_eq] at decoded
  exact (yields_site site k).decoder decoded

def Means {α : Type} (name : α → String) (fallback : α) (s : String) (a : α) : Prop :=
  name a = s ∨ (∀ b, name b ≠ s) ∧ a = fallback

theorem means_find {α : Type} {name : α → String} {all : List α} (complete : ∀ a, a ∈ all)
    (fallback : α) (s : String) :
    Means name fallback s ((all.find? (name · == s)).getD fallback) := by
  cases found : all.find? (name · == s) with
  | some a => exact .inl (by simpa using List.find?_some found)
  | none =>
    have absent := List.find?_eq_none.mp found
    exact .inr ⟨fun b => by simpa using absent b (complete b), rfl⟩

inductive ChoiceField : ResourceKind → Type where
  | pluginStatus : ChoiceField .sitePlugin
  | productType : ChoiceField .product
  | productStatus : ChoiceField .product
  | stockStatus : ChoiceField .product
  | discountType : ChoiceField .coupon
  deriving DecidableEq, Repr

namespace ChoiceField

def name {k : ResourceKind} : ChoiceField k → String
  | .pluginStatus => "status"
  | .productType => "type"
  | .productStatus => "status"
  | .stockStatus => "stock_status"
  | .discountType => "discount_type"

def Restated {k : ResourceKind} (field : ChoiceField k) (s : String) (r r' : RecordOf k) : Prop :=
  match field with
  | .pluginStatus => ∃ a, Means PluginStatus.name .unknown s a ∧ r' = { r with status := a }
  | .productType => ∃ a, Means ProductType.name .custom s a ∧ r' = { r with productType := a }
  | .productStatus => ∃ a, Means ProductStatus.name .other s a ∧ r' = { r with status := a }
  | .stockStatus => ∃ a, Means StockStatus.name .other s a ∧ r' = { r with stockStatus := a }
  | .discountType => ∃ a, Means DiscountType.name .other s a ∧ r' = { r with discountType := a }

def Respelled (s : String) (v v' : Node) : Prop := (∃ t, Denotes t v) ∧ Denotes s v'

theorem openChoice_respelled {α : Type} (name : α → String) {all : List α} (fallback : α)
    (complete : ∀ a, a ∈ all) {s : String} (v v' : Node) (respelled : Respelled s v v') :
    Agree (fun _ a' => Means name fallback s a')
      (Codec.openChoice (fun t => (all.find? (name · == t)).getD fallback) v)
      (Codec.openChoice (fun t => (all.find? (name · == t)).getD fallback) v') := by
  have reads {t : String} {node : Node} (denotes : Denotes t node) :
      Codec.openChoice (fun t => (all.find? (name · == t)).getD fallback) node =
        .ok ((all.find? (name · == t)).getD fallback) := by
    obtain ⟨l, rfl, text⟩ := denotes
    rw [Codec.openChoice, Decode.choice, textOf_eq_ok.mpr text]
    rfl
  obtain ⟨⟨t, denotes⟩, denotes'⟩ := respelled
  rw [reads denotes, reads denotes']
  exact .done (means_find complete fallback s)

theorem all_pluginStatus : ∀ a, a ∈ PluginStatus.all := by rintro ⟨⟩ <;> decide

theorem all_productType : ∀ a, a ∈ ProductType.all := by rintro ⟨⟩ <;> decide

theorem all_productStatus : ∀ a, a ∈ ProductStatus.all := by rintro ⟨⟩ <;> decide

theorem all_stockStatus : ∀ a, a ∈ StockStatus.all := by rintro ⟨⟩ <;> decide

theorem all_discountType : ∀ a, a ∈ DiscountType.all := by rintro ⟨⟩ <;> decide

theorem keeps (site : SiteId) {k : ResourceKind} (field : ChoiceField k) (s : String) :
    (recordShape site k).Keeps (Exchanged field.name (Respelled s)) (field.Restated s) := by
  -- The fields one by one from the last one on: that of the choice is exchanged, and no other.
  cases field with
  | pluginStatus =>
    simp only [recordShape, Codec.Wire.sitePluginShape, Codec.Wire.optional, Shape.defaulted,
      Shape.required]
    iterate 10 refine .also ?_ (.there (by decide))
    refine .also ?_ (.here (openChoice_respelled PluginStatus.name .unknown all_pluginStatus))
    refine .also ?_ (.there (by decide))
    refine .constant ?_
    intros
    subst_vars
    exact ⟨_, ‹Means PluginStatus.name _ s _›, rfl⟩
  | productType =>
    simp only [recordShape, Codec.Wire.productShape, Codec.Wire.optional, Shape.defaulted,
      Shape.required]
    iterate 10 refine .also ?_ (.there (by decide))
    refine .also ?_ (.here (openChoice_respelled ProductType.name .custom all_productType))
    iterate 4 refine .also ?_ (.there (by decide))
    refine .constant ?_
    intros
    subst_vars
    exact ⟨_, ‹Means ProductType.name _ s _›, rfl⟩
  | productStatus =>
    simp only [recordShape, Codec.Wire.productShape, Codec.Wire.optional, Shape.defaulted,
      Shape.required]
    iterate 9 refine .also ?_ (.there (by decide))
    refine .also ?_ (.here (openChoice_respelled ProductStatus.name .other all_productStatus))
    iterate 5 refine .also ?_ (.there (by decide))
    refine .constant ?_
    intros
    subst_vars
    exact ⟨_, ‹Means ProductStatus.name _ s _›, rfl⟩
  | stockStatus =>
    simp only [recordShape, Codec.Wire.productShape, Codec.Wire.optional, Shape.defaulted,
      Shape.required]
    iterate 4 refine .also ?_ (.there (by decide))
    refine .also ?_ (.here (openChoice_respelled StockStatus.name .other all_stockStatus))
    iterate 10 refine .also ?_ (.there (by decide))
    refine .constant ?_
    intros
    subst_vars
    exact ⟨_, ‹Means StockStatus.name _ s _›, rfl⟩
  | discountType =>
    simp only [recordShape, Codec.Wire.couponShape, Codec.Wire.optional, Shape.defaulted,
      Shape.required]
    iterate 7 refine .also ?_ (.there (by decide))
    refine .also ?_ (.here (openChoice_respelled DiscountType.name .other all_discountType))
    iterate 3 refine .also ?_ (.there (by decide))
    refine .constant ?_
    intros
    subst_vars
    exact ⟨_, ‹Means DiscountType.name _ s _›, rfl⟩

theorem name_mem {k : ResourceKind} (field : ChoiceField k) : field.name ∈ wireFields k := by
  cases field <;> decide

end ChoiceField

theorem known_of_mem {site : SiteId} {k : ResourceKind} {name : String}
    (among : name ∈ wireFields k) : (fieldOf? (recordShape site k).fields name).isSome := by
  rwa [fieldOf?_isSome, names_recordShape]

inductive Reworded {k : ResourceKind} (field : ChoiceField k) (s : String) : Node → Node → Prop
  | member {before after : List (Node × Node)} {key v v' : Node} (named : Denotes field.name key)
      (old : ∃ t, Denotes t v) (new : Denotes s v') :
      Reworded field s (.object (before ++ (key, v) :: after) none)
        (.object (before ++ (key, v') :: after) none)
  | item {before after : List Node} {v v' : Node}
      (place : (wireFields k)[before.length]? = some field.name) (old : ∃ t, Denotes t v)
      (new : Denotes s v') :
      Reworded field s (.array (before ++ v :: after) none) (.array (before ++ v' :: after) none)

theorem record_reworded (site : SiteId) {k : ResourceKind} {field : ChoiceField k} {s : String}
    {node node' : Node} (reworded : Reworded field s node node') :
    Agree (field.Restated s) (recordDecoder site k node) (recordDecoder site k node') := by
  rw [recordDecoder_eq]
  cases reworded with
  | member named old new =>
    exact decoder_member (field.keeps site s) (known_of_mem field.name_mem) _ named ⟨old, new⟩
  | item place old new =>
    rw [← names_recordShape site, List.getElem?_map] at place
    obtain ⟨shaped, here, named⟩ := Option.map_eq_some_iff.mp place
    refine decoder_item (field.keeps site s) ?_ _ here named ⟨old, new⟩
    rw [names_recordShape]
    exact wireFields_nodup k

/-- Members in another order, kept as `kept` allows, and among others whose names are texts and none
of `names`. -/
def Rearranges (names : List String) (kept : Node × Node → Node × Node → Prop)
    (members members' : List (Node × Node)) : Prop :=
  ∃ ms extra, List.Forall₂ kept members ms ∧ members'.Perm (ms ++ extra) ∧
    ∀ m ∈ extra, ∃ name, Denotes name m.1 ∧ name ∉ names

def descriptionFields : List String := ["raw", "rendered"]

/-- A member that is the same, or the description of a plugin with its members rearranged. -/
inductive Kept : ResourceKind → Node × Node → Node × Node → Prop
  | same {k : ResourceKind} (m : Node × Node) : Kept k m m
  | description {key : Node} {members members' : List (Node × Node)}
      (named : Denotes "description" key)
      (inner : Rearranges descriptionFields Eq members members') :
      Kept .sitePlugin (key, .object members none) (key, .object members' none)

def Rearranged (k : ResourceKind) (node node' : Node) : Prop :=
  ∃ members members', node = .object members none ∧ node' = .object members' none ∧
    Rearranges (wireFields k) (Kept k) members members'

theorem foreign_of_sound {fields : List Field} {members : List (Node × Node)}
    (sound : skipMembers? members = none) {m : Node × Node} (among : m ∈ members) {name : String}
    (named : Denotes name m.1) (other : name ∉ fields.map Field.name) : Foreign fields m := by
  have passed := (skipMembers?_eq_none.mp sound m among).2
  refine ⟨(name, m.2), slot?_eq_some.mpr ⟨named, rfl⟩, ?_, passed⟩
  rwa [← Option.not_isSome_iff_eq_none, fieldOf?_isSome]

theorem object_rearranged {α : Type} {shape : Shape α} {title : String}
    {members members' extra : List (Node × Node)} (perm : members'.Perm (members ++ extra))
    (sound : skipMembers? members' = none)
    (others : ∀ m ∈ extra, ∃ name, Denotes name m.1 ∧ name ∉ shape.fields.map Field.name) :
    Agree Eq (shape.decoder title (.object members none))
      (shape.decoder title (.object members' none)) := by
  refine ofMembers_rearranged perm fun m among => ?_
  obtain ⟨name, named, other⟩ := others m among
  exact foreign_of_sound sound (perm.mem_iff.mpr (List.mem_append_right _ among)) named other

def Redescribed (v v' : Node) : Prop :=
  v' = v ∨ v'.skipFault? = none ∧ ∃ members members', v = .object members none ∧
    v' = .object members' none ∧ Rearranges descriptionFields Eq members members'

theorem description_redescribed (v v' : Node) (redescribed : Redescribed v v') :
    Agree Eq (Codec.Wire.description v) (Codec.Wire.description v') := by
  obtain rfl | ⟨sound, members, members', rfl, rfl, ms, extra, same, perm, others⟩ := redescribed
  · exact .refl (fun _ => rfl) _
  · obtain rfl : members = ms := by rwa [List.forall₂_eq_eq_eq] at same
    exact object_rearranged perm (skipFault?_object.mp sound).1 others

theorem keeps_description (site : SiteId) :
    (recordShape site .sitePlugin).Keeps (Exchanged "description" Redescribed) Eq := by
  simp only [recordShape, Codec.Wire.sitePluginShape, Codec.Wire.optional, Shape.defaulted,
    Shape.required]
  iterate 5 refine .also ?_ (.there (by decide))
  refine .also ?_ (.here description_redescribed)
  iterate 6 refine .also ?_ (.there (by decide))
  refine .constant ?_
  intros
  subst_vars
  rfl

theorem memberAlike_of_kept {m m' : Node × Node} (kept : Kept .sitePlugin m m')
    (sound : m'.2.skipFault? = none) :
    MemberAlike (Exchanged "description" Redescribed) m m' := by
  cases kept with
  | same =>
    refine ⟨rfl, fun name _ => ?_⟩
    by_cases here : name = "description"
    · subst here
      exact exchanged_here.mpr ⟨m.2, m.2, rfl, rfl, .inl rfl⟩
    · exact (exchanged_there here).mpr rfl
  | description named inner =>
    refine ⟨rfl, fun name named' => ?_⟩
    obtain rfl := named.unique named'
    exact exchanged_here.mpr ⟨_, _, rfl, rfl, .inr ⟨sound, _, _, rfl, rfl, inner⟩⟩

theorem record_kept (site : SiteId) {k : ResourceKind} {members ms : List (Node × Node)}
    (kept : List.Forall₂ (Kept k) members ms) (sound : ∀ m ∈ ms, m.2.skipFault? = none) :
    Agree Eq (recordDecoder site k (.object members none))
      (recordDecoder site k (.object ms none)) := by
  by_cases described : k = .sitePlugin ∧ ∃ m ∈ members, Denotes "description" m.1
  · obtain ⟨rfl, present⟩ := described
    have alike : List.Forall₂ (MemberAlike (Exchanged "description" Redescribed)) members ms := by
      clear present
      induction kept with
      | nil => exact .nil
      | cons first _ ih =>
        obtain ⟨here, later⟩ := List.forall_mem_cons.mp sound
        exact .cons (memberAlike_of_kept first here) (ih later)
    rw [recordDecoder_eq]
    exact decoder_exchanged (keeps_description site) (known_of_mem (by decide)) _ alike present
  · -- Without a description every member is the same.
    have same : ms = members := by
      clear sound
      induction kept with
      | nil => rfl
      | @cons m _ members _ first _ ih =>
        have later : ¬ (k = .sitePlugin ∧ ∃ m ∈ members, Denotes "description" m.1) :=
          fun ⟨plugin, m, among, named⟩ =>
            described ⟨plugin, m, List.mem_cons_of_mem _ among, named⟩
        rw [ih later]
        cases first with
        | same => rfl
        | description named _ => exact absurd ⟨rfl, _, List.mem_cons_self, named⟩ described
    rw [same]
    exact .refl (fun _ => rfl) _

theorem record_rearranged (site : SiteId) {k : ResourceKind} {node node' : Node}
    (rearranged : Rearranged k node node') (sound : node'.skipFault? = none) :
    Agree Eq (recordDecoder site k node) (recordDecoder site k node') := by
  obtain ⟨members, members', rfl, rfl, ms, extra, kept, perm, others⟩ := rearranged
  have closed := (skipFault?_object.mp sound).1
  have whole : ∀ m ∈ ms, m.2.skipFault? = none := fun m among =>
    (skipMembers?_eq_none.mp closed m (perm.mem_iff.mpr (List.mem_append_left _ among))).2
  refine (record_kept site kept whole).trans ?_
  rw [recordDecoder_eq]
  refine object_rearranged perm closed ?_
  rwa [names_recordShape]

theorem record_repeated (site : SiteId) {k : ResourceKind} {members rest : List (Node × Node)}
    {m m' : Node × Node} {name : String} (known : name ∈ wireFields k)
    (perm : members.Perm (m :: m' :: rest)) (first : Denotes name m.1) (second : Denotes name m'.1)
    (r : RecordOf k) : recordDecoder site k (.object members none) ≠ .ok r := by
  rw [recordDecoder_eq]
  intro made
  change ofMembers (recordShape site k) members none = .ok r at made
  exact not_collects_twice perm first second (known_of_mem known) (ofMembers_eq_ok.mp made).2.1

end SiteCache.Remote
