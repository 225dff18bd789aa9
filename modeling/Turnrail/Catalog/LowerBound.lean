import Turnrail.Catalog.Intersection
import Turnrail.Value
import Mathlib.Algebra.Order.Ring.Rat
import Mathlib.Data.Set.List

/-!
# The common catalog is a lower bound

A model of the common catalog offers at most what the model of the same name in
each catalog offers, and a request that the common catalog allows is allowed by
each of them.  One merge is a lower bound of both of its models; being a lower
bound is transitive, which carries the result over the fold.
-/

namespace Turnrail

open List

namespace RouterModelCatalog

/-- The kinds of list items. -/
inductive Kind
  | level
  | tier
  | text

namespace Kind

/-- A text inside an item. -/
def member (key : String) (item : Json) : Option String :=
  item.asObject.bind (RouterModelCatalog.text · key)

/-- The label of an item. -/
def label : Kind → Json → Option String
  | .level, item => member "effort" item
  | .tier, item => member "id" item
  | .text, item => item.asString

/-- An item has the shape that the service gives it. -/
def Fits : Kind → Json → Prop
  | .level, item => (member "effort" item).isSome
  | .tier, item => (member "id" item).isSome ∧ member "effort" item = none
  | .text, item => item.asString.isSome

end Kind

/-- The list fields with the kinds of their items. -/
def listKinds : List (String × Kind) :=
  [("supported_reasoning_levels", .level), ("input_modalities", .text),
    ("service_tiers", .tier), ("additional_speed_tiers", .text),
    ("experimental_supported_tools", .text)]

/-- The labels in a list field. -/
def labels (kind : Kind) : Option Json → List String
  | some (.array items) => items.filterMap kind.label
  | _ => []

/-- The items of a model have the shape of their fields. -/
structure Schema (model : Object) : Prop where
  lists : ∀ entry ∈ listKinds, ∀ items,
    model.get entry.1 = some (.array items) → ∀ item ∈ items, entry.2.Fits item
  limits : ∀ field ∈ limitFields, ∀ limit, model.get field = some (.number limit) →
    ∃ count : Int, limit = count ∧ count < 2 ^ 53

variable (service : RouterModelCatalog)

/-- A model offers at most what another one offers. -/
structure Bounds (model other : Object) : Prop where
  slug : (text model "slug").map service.texts.canonical =
    (text other "slug").map service.texts.canonical
  lists : ∀ entry ∈ listKinds,
    labels entry.2 (model.get entry.1) ⊆ labels entry.2 (other.get entry.1)
  capabilities : ∀ field ∈ capabilityFields,
    model.get field = some (.bool true) → other.get field = some (.bool true)
  limits : ∀ field ∈ limitFields, ∀ limit, model.get field = some (.number limit) →
    ∃ bound, other.get field = some (.number bound) ∧ limit ≤ bound
  limited : ∀ field ∈ limitFields, missing (model.get field) = true →
    missing (other.get field) = true
  protocol : ∀ field ∈ protocolFields,
    (orNull (model.get field)).value = (orNull (other.get field)).value

/-- No two models of a catalog have the same name. -/
def UniqueSlugs (catalog : List Object) : Prop :=
  catalog.Pairwise fun first second => ∀ slug,
    text first "slug" = some slug → reads service.texts second "slug" slug = false

/-- What the platform is relied upon for, with some catalogs. -/
structure Reliable (catalogs : List (List Object)) : Prop where
  exact : ∀ count : Int, 0 < count → count < 2 ^ 53 →
    service.doubleValue count = some (count : Rat)
  sign : ∀ value double, value ≤ 0 → service.doubleValue value = some double → double ≤ 0
  fragments : ∀ first second,
    service.fragment (.string first) = service.fragment (.string second) →
    first = second
  documents : ∀ first ∈ catalogs.flatten, ∀ second ∈ catalogs.flatten,
    ∀ field ∈ protocolFields,
    service.protocolData (first.get field) = service.protocolData (second.get field) →
    (orNull (first.get field)).value = (orNull (second.get field)).value

namespace Bounds

variable {service} {first second third : Object}

theorem refl (model : Object) : service.Bounds model model where
  slug := rfl
  lists _ _ := Subset.refl _
  capabilities _ _ := id
  limits _ _ limit held := ⟨limit, held, le_refl limit⟩
  limited _ _ := id
  protocol _ _ := rfl

theorem trans
    (lower : service.Bounds first second)
    (upper : service.Bounds second third) :
    service.Bounds first third where
  slug := lower.slug.trans upper.slug
  lists entry member := Subset.trans (lower.lists entry member) (upper.lists entry member)
  capabilities field member held :=
    upper.capabilities field member (lower.capabilities field member held)
  limits field member limit held := by
    obtain ⟨middle, middleHeld, below⟩ := lower.limits field member limit held
    obtain ⟨bound, boundHeld, above⟩ := upper.limits field member middle middleHeld
    exact ⟨bound, boundHeld, le_trans below above⟩
  limited field member absent := upper.limited field member (lower.limited field member absent)
  protocol field member := (lower.protocol field member).trans (upper.protocol field member)

end Bounds

section Step

variable {service} {catalogs : List (List Object)}
variable {model other merged : Object}

variable {item : Json} {kind : Kind} {entry : String × Kind} {field : String}

theorem identifier_of_effort
    {effort : String}
    (found : Kind.member "effort" item = some effort) :
    service.identifier item = utf8 effort := by
  obtain ⟨object, isObject, found⟩ := Option.bind_eq_some_iff.mp found
  simp [identifier, isObject, found]

theorem identifier_of_id
    {id : String}
    (found : Kind.member "id" item = some id)
    (absent : Kind.member "effort" item = none) :
    service.identifier item = utf8 id := by
  obtain ⟨object, isObject, found⟩ := Option.bind_eq_some_iff.mp found
  have absent : text object "effort" = none := by
    rw [Kind.member, isObject] at absent
    exact absent
  simp [identifier, isObject, found, absent]

theorem asString_eq_some
    {text : String}
    (found : item.asString = some text) :
    item = .string text := by
  cases item <;> simp_all [Json.asString]

theorem label_eq_of_identifier
    (fragments : ∀ first second, service.fragment (.string first) =
        service.fragment (.string second) → first = second)
    {first second : Json}
    (fits : kind.Fits first)
    (fits' : kind.Fits second)
    (same : service.identifier first = service.identifier second) :
    kind.label first = kind.label second := by
  cases kind with
  | level =>
    obtain ⟨effort, found⟩ := Option.isSome_iff_exists.mp fits
    obtain ⟨effort', found'⟩ := Option.isSome_iff_exists.mp fits'
    rw [identifier_of_effort found, identifier_of_effort found'] at same
    rw [Kind.label, Kind.label, found, found', utf8_injective same]
  | tier =>
    obtain ⟨id, found⟩ := Option.isSome_iff_exists.mp fits.1
    obtain ⟨id', found'⟩ := Option.isSome_iff_exists.mp fits'.1
    rw [identifier_of_id found fits.2, identifier_of_id found' fits'.2] at same
    rw [Kind.label, Kind.label, found, found', utf8_injective same]
  | text =>
    obtain ⟨text, found⟩ := Option.isSome_iff_exists.mp fits
    obtain ⟨text', found'⟩ := Option.isSome_iff_exists.mp fits'
    obtain rfl := asString_eq_some found
    obtain rfl := asString_eq_some found'
    rw [fragments text text' same]

theorem mem_listFields (member : entry ∈ listKinds) : entry.1 ∈ listFields :=
  mem_map_of_mem (f := Prod.fst) member

theorem labels_shared_left
    (kind : Kind)
    (left right : List Json) :
    labels kind (some (.array (service.shared left right))) ⊆
      labels kind (some (.array left)) := by
  intro label member
  obtain ⟨item, inside, labelled⟩ := mem_filterMap.mp member
  exact mem_filterMap.mpr ⟨item, (mem_filter.mp inside).1, labelled⟩

theorem labels_shared_right
    (reliable : service.Reliable catalogs)
    {left right : List Json}
    (fits : ∀ item ∈ left, kind.Fits item)
    (fits' : ∀ item ∈ right, kind.Fits item) :
    labels kind (some (.array (service.shared left right))) ⊆
      labels kind (some (.array right)) := by
  intro label member
  obtain ⟨item, inside, labelled⟩ := mem_filterMap.mp member
  obtain ⟨own, common⟩ := mem_filter.mp inside
  obtain ⟨partner, partnerInside, same⟩ := any_eq_true.mp common
  refine mem_filterMap.mpr ⟨partner, partnerInside, ?_⟩
  rw [label_eq_of_identifier reliable.fragments (fits' partner partnerInside)
    (fits item own) (eq_of_beq same), labelled]

theorem integer_exact
    (reliable : service.Reliable catalogs)
    (schema : Schema model)
    {count : Int}
    (member : field ∈ limitFields)
    (read : (model.get field).bind service.integer = some count)
    (positive : 0 < count) :
    model.get field = some (.number count) ∧ count < 2 ^ 53 := by
  obtain ⟨value, held, read⟩ := Option.bind_eq_some_iff.mp read
  obtain ⟨number, double, rfl, rounded, rfl⟩ := integer_eq_some read
  obtain ⟨limit, rfl, small⟩ := schema.limits field member number held
  have strict : 0 < limit := by
    by_contra nonpositive
    have bound := reliable.sign limit count (by exact_mod_cast not_lt.mp nonpositive) rounded
    exact absurd positive (not_lt.mpr (by exact_mod_cast bound))
  have exact := reliable.exact limit strict small
  rw [rounded] at exact
  have equal : count = limit := by exact_mod_cast Option.some.inj exact
  rw [equal]
  exact ⟨held, small⟩

theorem Merged.list_cases
    (merges : service.Merged model other merged)
    (member : entry ∈ listKinds) :
    (model.get entry.1 = none ∧
        other.get entry.1 = none ∧ merged.get entry.1 = none) ∨
      ∃ left right, model.get entry.1 = some (.array left) ∧
      other.get entry.1 = some (.array right) ∧
      merged.get entry.1 = some (.array (service.shared left right)) := by
  obtain ⟨kept, same⟩ | ⟨value, stored, same⟩ := merges.lists entry.1 (mem_listFields member)
  · obtain ⟨absent, absent'⟩ := listRule_eq_keep kept
    exact .inl ⟨absent, absent', same.trans absent⟩
  · obtain ⟨left, right, held, held', rfl⟩ := listRule_eq_store stored
    exact .inr ⟨left, right, held, held', same⟩

theorem Merged.limit_cases
    (reliable : service.Reliable catalogs)
    (schema : Schema model)
    (schema' : Schema other)
    (merges : service.Merged model other merged)
    (member : field ∈ limitFields) :
    (missing (model.get field) = true ∧ missing (other.get field) = true ∧
        merged.get field = model.get field) ∨
      ∃ left right : Int, model.get field = some (.number left) ∧
        other.get field = some (.number right) ∧ left < 2 ^ 53 ∧
        merged.get field = some (.number ((min left right : Int) : Rat)) := by
  obtain ⟨kept, same⟩ | ⟨value, stored, same⟩ := merges.limits field member
  · obtain ⟨absent, absent'⟩ := limitRule_eq_keep kept
    exact .inl ⟨absent, absent', same⟩
  · obtain ⟨left, right, read, read', positive, positive', rfl⟩ := limitRule_eq_store stored
    obtain ⟨held, small⟩ := integer_exact reliable schema member read positive
    obtain ⟨held', -⟩ := integer_exact reliable schema' member read' positive'
    exact .inr ⟨left, right, held, held', small, same⟩

theorem number_ne_of_missing
    {value : Option Json}
    {number : Rat}
    (absent : missing value = true) :
    value ≠ some (.number number) := by
  rintro rfl
  cases absent

theorem Merged.schema
    (reliable : service.Reliable catalogs)
    (schema : Schema model)
    (schema' : Schema other)
    (merges : service.Merged model other merged) :
    Schema merged where
  lists entry member items held item inside := by
    obtain ⟨-, -, absent⟩ | ⟨left, right, own, -, same⟩ := merges.list_cases member
    · rw [absent] at held
      cases held
    · rw [same] at held
      cases held
      exact schema.lists entry member left own item (mem_filter.mp inside).1
  limits field member limit held := by
    obtain ⟨absent, -, same⟩ | ⟨left, right, -, -, small, same⟩ :=
      merges.limit_cases reliable schema schema' member
    · exact absurd (same.symm.trans held) (number_ne_of_missing absent)
    · rw [same] at held
      cases held
      exact ⟨min left right, rfl, lt_of_le_of_lt (min_le_left _ _) small⟩

theorem Merged.bounds_left
    (reliable : service.Reliable catalogs)
    (schema : Schema model)
    (schema' : Schema other)
    (merges : service.Merged model other merged) :
    service.Bounds merged model where
  slug := by rw [text, text, merges.slug]
  lists entry member := by
    obtain ⟨absent, -, same⟩ | ⟨left, right, own, -, same⟩ := merges.list_cases member
    · rw [same, absent]
      exact Subset.refl _
    · rw [same, own]
      exact labels_shared_left entry.2 left right
  capabilities field member held := by
    obtain ⟨-, same⟩ | ⟨value, stored, same⟩ := merges.capabilities field member
    · exact same.symm.trans held
    · obtain ⟨left, right, own, -, rfl⟩ := capabilityRule_eq_store stored
      rw [same] at held
      cases left with
      | true => exact own
      | false => cases held
  limits field member limit held := by
    obtain ⟨absent, -, same⟩ | ⟨left, right, own, -, -, same⟩ :=
      merges.limit_cases reliable schema schema' member
    · exact absurd (same.symm.trans held) (number_ne_of_missing absent)
    · rw [same] at held
      cases held
      exact ⟨left, own, by exact_mod_cast min_le_left left right⟩
  limited field member absent := by
    obtain ⟨absent, -, -⟩ | ⟨left, right, own, -, -, same⟩ :=
      merges.limit_cases reliable schema schema' member
    · exact absent
    · exact absurd same (number_ne_of_missing absent)
  protocol field member := by rw [(merges.protocol field member).1]

theorem Merged.bounds_right
    (reliable : service.Reliable catalogs)
    (schema : Schema model)
    (schema' : Schema other)
    (merges : service.Merged model other merged)
    (slug : (text model "slug").map service.texts.canonical =
      (text other "slug").map service.texts.canonical)
    (protocol : ∀ field ∈ protocolFields,
      (orNull (model.get field)).value = (orNull (other.get field)).value) :
    service.Bounds merged other where
  slug := by
    rw [text, merges.slug]
    exact slug
  lists entry member := by
    obtain ⟨-, absent, same⟩ | ⟨left, right, own, held, same⟩ := merges.list_cases member
    · rw [same, absent]
      exact Subset.refl _
    · rw [same, held]
      exact labels_shared_right reliable (schema.lists entry member left own)
        (schema'.lists entry member right held)
  capabilities field member held := by
    obtain ⟨kept, same⟩ | ⟨value, stored, same⟩ := merges.capabilities field member
    · have absent := (capabilityRule_eq_keep kept).1
      rw [same.symm.trans held] at absent
      cases absent
    · obtain ⟨left, right, -, theirs, rfl⟩ := capabilityRule_eq_store stored
      rw [same] at held
      cases left with
      | false => cases held
      | true =>
        cases right with
        | true => exact theirs
        | false => cases held
  limits field member limit held := by
    obtain ⟨absent, -, same⟩ | ⟨left, right, -, theirs, -, same⟩ :=
      merges.limit_cases reliable schema schema' member
    · exact absurd (same.symm.trans held) (number_ne_of_missing absent)
    · rw [same] at held
      cases held
      exact ⟨right, theirs, by exact_mod_cast min_le_right left right⟩
  limited field member absent := by
    obtain ⟨-, absent', -⟩ | ⟨left, right, -, -, -, same⟩ :=
      merges.limit_cases reliable schema schema' member
    · exact absent'
    · exact absurd same (number_ne_of_missing absent)
  protocol field member := by
    rw [(merges.protocol field member).1]
    exact protocol field member

end Step

section Fold

variable {service} {catalogs : List (List Object)}

/-- What is known about a model of the intersection. -/
structure Kept (service : RouterModelCatalog) (catalogs done : List (List Object))
    (model : Object) : Prop where
  schema : Schema model
  origin : ∃ given ∈ catalogs.flatten, ∀ field ∈ protocolFields,
    model.get field = given.get field
  bounds : ∀ catalog ∈ done, ∃ other ∈ catalog, service.Bounds model other

variable {object : Object}

theorem reads_eq_true {key wanted : String} :
    reads service.texts object key wanted = true ↔
      ∃ found, text object key = some found ∧
      service.texts.same found wanted = true := by
  unfold reads
  cases text object key <;> simp

theorem same_slug_of_reads
    {slug : String}
    (found : reads service.texts object "slug" slug = true) :
    (text object "slug").map service.texts.canonical =
      some (service.texts.canonical slug) := by
  obtain ⟨own, held, same⟩ := reads_eq_true.mp found
  rw [held]
  exact congrArg some (eq_of_beq same)

variable {done : List (List Object)} {models : List Object}

theorem Kept.narrow
    {catalog narrowed : List Object}
    {merged : Object}
    (reliable : service.Reliable catalogs)
    (known : catalog ∈ catalogs)
    (schema : ∀ other ∈ catalog, Schema other)
    (kept : ∀ model ∈ models, service.Kept catalogs done model)
    (succeeds : service.narrow catalog models = .ok narrowed)
    (member : merged ∈ narrowed) :
    service.Kept catalogs (done ++ [catalog]) merged ∧
      service.DefaultOffered merged := by
  obtain ⟨model, inside, gives⟩ := gives_of_mem_narrow succeeds member
  obtain ⟨slug, other, named, found, merges⟩ := gives_offer gives
  have listed := mem_of_find?_eq_some found
  have own := (kept model inside).schema
  have theirs := schema other listed
  obtain ⟨given, givenKnown, same⟩ := (kept model inside).origin
  have lower := merges.bounds_left reliable own theirs
  have upper : service.Bounds merged other := by
    refine merges.bounds_right reliable own theirs ?_ ?_
    · have theirs := find?_some found
      rw [same_slug_of_reads theirs, named]
      rfl
    · intro field fieldMember
      rw [same field fieldMember]
      refine reliable.documents given givenKnown other
        (mem_flatten_of_mem known listed) field fieldMember ?_
      rw [← same field fieldMember]
      exact (merges.protocol field fieldMember).2
  refine ⟨⟨merges.schema reliable own theirs, ⟨given, givenKnown, ?_⟩, ?_⟩, merges.offered⟩
  · intro field fieldMember
    rw [(merges.protocol field fieldMember).1, same field fieldMember]
  · intro earlier earlierMember
    rcases mem_append.mp earlierMember with before | last
    · obtain ⟨bound, boundMember, bounds⟩ := (kept model inside).bounds earlier before
      exact ⟨bound, boundMember, lower.trans bounds⟩
    · obtain rfl := mem_singleton.mp last
      exact ⟨other, listed, upper⟩

theorem Kept.foldlM
    {rest : List (List Object)}
    {common : List Object}
    (reliable : service.Reliable catalogs)
    (known : ∀ catalog ∈ rest, catalog ∈ catalogs)
    (schema : ∀ catalog ∈ catalogs, ∀ model ∈ catalog, Schema model)
    (kept : ∀ model ∈ models, service.Kept catalogs done model)
    (succeeds : rest.foldlM (fun common catalog =>
        service.narrow catalog common) models = .ok common) :
    ∀ model ∈ common, service.Kept catalogs (done ++ rest) model ∧
      (rest = [] ∨ service.DefaultOffered model) := by
  induction rest generalizing done models with
  | nil =>
    cases succeeds
    intro model member
    rw [append_nil]
    exact ⟨kept model member, .inl rfl⟩
  | cons catalog rest ih =>
    rw [foldlM_cons] at succeeds
    obtain ⟨narrowed, first, succeeds⟩ := bind_eq_ok.mp succeeds
    have inside := known catalog mem_cons_self
    have next : ∀ model ∈ narrowed, service.Kept catalogs (done ++ [catalog]) model ∧
          service.DefaultOffered model := fun model member =>
      Kept.narrow reliable inside (schema catalog inside) kept first member
    intro model member
    obtain ⟨final, offered⟩ := ih (fun other member => known other (mem_cons_of_mem _ member))
      (fun model member => (next model member).1) succeeds model member
    rw [append_assoc] at final
    refine ⟨final, .inr ?_⟩
    rcases offered with rfl | offered
    · cases succeeds
      exact (next model member).2
    · exact offered

end Fold

section Validate

variable {service} {model other : Object} {key message : String} {wanted : Option String}

theorem checkOffer_eq_ok {field : String} :
    checkOffer service.texts model field key message wanted = .ok () ↔
      ∀ asked, wanted = some asked → ∃ items,
      (model.get field).bind Json.asObjects = some items ∧ ∃ item ∈ items,
      reads service.texts item key asked = true := by
  cases wanted with
  | none => simp [checkOffer]
  | some asked =>
    rw [checkOffer, bind_eq_ok]
    constructor
    · rintro ⟨items, read, passes⟩ _ same
      cases same
      refine ⟨items, RouterJSON.array_eq_ok.mp read, ?_⟩
      split at passes
      · rename_i among
        exact any_eq_true.mp among
      · cases passes
    · intro offered
      obtain ⟨items, read, among⟩ := offered asked rfl
      exact ⟨items, RouterJSON.array_eq_ok.mpr read, if_pos (any_eq_true.mpr among)⟩

theorem asObjects_of_fits
    {kind : Kind}
    {items : List Json}
    (labelled : ∀ item, kind.Fits item → (Kind.member key item).isSome)
    (fits : ∀ item ∈ items, kind.Fits item) :
    ∃ read : List Object, items = read.map .object := by
  have objects : items ∈ Set.range (map Json.object) := by
    rw [Set.range_list_map]
    intro item member
    obtain ⟨label, found⟩ := Option.isSome_iff_exists.mp (labelled item (fits item member))
    obtain ⟨object, isObject, -⟩ := Option.bind_eq_some_iff.mp found
    cases item with
    | object fields => exact ⟨fields, rfl⟩
    | null | bool | number | string | array => cases isObject
  obtain ⟨read, same⟩ := objects
  exact ⟨read, same.symm⟩

theorem checkOffer_of_bounds
    (entry : String × Kind)
    (bounds : service.Bounds model other)
    (schema : Schema other)
    (member : entry ∈ listKinds)
    (label_eq : ∀ item, entry.2.label item = Kind.member key item)
    (labelled : ∀ item, entry.2.Fits item → (Kind.member key item).isSome)
    (passes :
      checkOffer service.texts model entry.1 key message wanted = .ok ()) :
    checkOffer service.texts other entry.1 key message wanted = .ok () := by
  rw [checkOffer_eq_ok] at passes ⊢
  intro asked wants
  obtain ⟨items, offered, item, inside, found⟩ := passes asked wants
  obtain ⟨label, held, same⟩ := reads_eq_true.mp found
  obtain ⟨document, own, objects⟩ := Option.bind_eq_some_iff.mp offered
  rw [asObjects_eq_some] at objects
  subst objects
  have advertised : label ∈ labels entry.2 (model.get entry.1) := by
    rw [own]
    refine mem_filterMap.mpr ⟨.object item, mem_map_of_mem inside, ?_⟩
    rw [label_eq]
    exact held
  have above := bounds.lists entry member advertised
  unfold labels at above
  split at above
  · rename_i theirs theirItems
    obtain ⟨partner, partnerInside, partnerLabel⟩ := mem_filterMap.mp above
    obtain ⟨read, rfl⟩ := asObjects_of_fits labelled (schema.lists entry member _ theirItems)
    obtain ⟨object, objectInside, rfl⟩ := mem_map.mp partnerInside
    rw [label_eq] at partnerLabel
    refine ⟨read, ?_, object, objectInside, reads_eq_true.mpr ⟨label, partnerLabel, same⟩⟩
    rw [theirItems]
    exact Json.asObjects_objects read
  · cases above

variable {catalog : List Object}

/-- The model with a name is the only one with it. -/
theorem find?_of_unique
    {slug : String}
    (unique : service.UniqueSlugs catalog)
    (member : other ∈ catalog)
    (named : reads service.texts other "slug" slug = true) :
    catalog.find? (reads service.texts · "slug" slug) = some other := by
  induction catalog with
  | nil => cases member
  | cons first rest ih =>
    obtain ⟨apart, unique⟩ := pairwise_cons.mp unique
    rw [find?_cons]
    cases found : reads service.texts first "slug" slug with
    | false =>
      rcases mem_cons.mp member with rfl | later
      · rw [named] at found
        cases found
      · exact ih unique later
    | true =>
      rcases mem_cons.mp member with rfl | later
      · rfl
      · obtain ⟨own, held, same⟩ := reads_eq_true.mp found
        obtain ⟨theirs, theirHeld, theirSame⟩ := reads_eq_true.mp named
        have differ := apart other later own held
        rw [Bool.eq_false_iff] at differ
        refine absurd (reads_eq_true.mpr ⟨theirs, theirHeld, ?_⟩) differ
        rw [Texts.same, beq_iff_eq] at same theirSame ⊢
        rw [theirSame, same]

theorem validate_of_bounds
    {request : Object}
    {common : List Object}
    (unique : service.UniqueSlugs catalog)
    (schema : ∀ other ∈ catalog, Schema other)
    (bounds : ∀ model ∈ common, ∃ other ∈ catalog, service.Bounds model other)
    (passes : validate service.texts request common = .ok ()) :
    validate service.texts request catalog = .ok () := by
  obtain ⟨slug, read, passes⟩ := bind_eq_ok.mp passes
  split at passes
  · cases passes
  · rename_i model found
    obtain ⟨other, inside, bounds⟩ := bounds model (mem_of_find?_eq_some found)
    have own := find?_some found
    have named : reads service.texts other "slug" slug = true := by
      have same := bounds.slug
      rw [same_slug_of_reads own] at same
      obtain ⟨theirs, held, canonical⟩ := Option.map_eq_some_iff.mp same.symm
      exact reads_eq_true.mpr ⟨theirs, held, beq_iff_eq.mpr canonical⟩
    obtain ⟨_, levels, tiers⟩ := bind_eq_ok.mp passes
    refine bind_eq_ok.mpr ⟨slug, read, ?_⟩
    rw [find?_of_unique unique inside named]
    refine bind_eq_ok.mpr ⟨(), ?_, ?_⟩
    · exact checkOffer_of_bounds ("supported_reasoning_levels", .level)
        bounds (schema other inside) (by simp [listKinds]) (fun _ => rfl)
        (fun _ fits => fits) levels
    · exact checkOffer_of_bounds ("service_tiers", .tier)
        bounds (schema other inside) (by simp [listKinds]) (fun _ => rfl)
        (fun _ fits => fits.1) tiers

end Validate

/-- The common catalog offers at most what each catalog offers: each of its
models is a lower bound of the model with its name, the default reasoning level
of a merged model is among its levels, and a request it allows is allowed by
each catalog. -/
theorem common_catalog_is_lower_bound
    (service : RouterModelCatalog)
    (catalogs : List (List Object))
    (reliable : service.Reliable catalogs)
    (schema : ∀ catalog ∈ catalogs, ∀ model ∈ catalog, Schema model)
    (unique : ∀ catalog ∈ catalogs, service.UniqueSlugs catalog)
    (common : List Object)
    (succeeds : service.intersection catalogs = .ok common) :
    (∀ model ∈ common, ∀ catalog ∈ catalogs,
        ∃ other ∈ catalog, service.Bounds model other) ∧
      (2 ≤ catalogs.length →
        ∀ model ∈ common, service.DefaultOffered model) ∧
      ∀ request, validate service.texts request common = .ok () →
        ∀ catalog ∈ catalogs,
          validate service.texts request catalog = .ok () := by
  cases catalogs with
  | nil => cases succeeds
  | cons first rest =>
    obtain ⟨merged, folded, succeeds⟩ := bind_eq_ok.mp succeeds
    have same : merged = common := by
      split at succeeds
      · cases succeeds
      · cases succeeds
        rfl
    subst same
    have kept : ∀ model ∈ first, service.Kept (first :: rest) [first] model := by
      intro model member
      refine ⟨schema first mem_cons_self model member,
        ⟨model, mem_flatten_of_mem mem_cons_self member, fun _ _ => rfl⟩, ?_⟩
      intro catalog inside
      obtain rfl := mem_singleton.mp inside
      exact ⟨model, member, .refl model⟩
    have final := Kept.foldlM reliable
      (fun catalog member => mem_cons_of_mem _ member) schema kept folded
    have bounds : ∀ model ∈ merged, ∀ catalog ∈ first :: rest,
        ∃ other ∈ catalog, service.Bounds model other :=
      fun model member => (final model member).1.bounds
    refine ⟨bounds, ?_, ?_⟩
    · intro several model member
      rcases (final model member).2 with rfl | offered
      · simp at several
      · exact offered
    · intro request passes catalog member
      exact validate_of_bounds (unique catalog member) (schema catalog member)
        (fun model inside => bounds model inside catalog member) passes

namespace Sample

/-- Documents that hold one text are written down, and others are empty. -/
def write : Json → Data
  | .object [(_, .string text)] => 1 :: utf8 text
  | _ => []

/-- A router that compares texts by their bytes and rounds no number. -/
def client : RouterModelCatalog where
  platform := { Foundation.mute with jsonData := write }
  texts := .plain
  fragment
    | .string text => utf8 text
    | _ => []
  doubleValue := some

/-- A level with an effort. -/
def level (effort : String) : Json := .object [("effort", .string effort)]

/-- A model with two levels, of which the second is the default. -/
def model (first second : String) (window : Int) : Object :=
  [("slug", .string "model"), ("shell_type", .string "unified_exec"),
    ("supported_reasoning_levels", .array [level first, level second]),
    ("default_reasoning_level", .string second),
    ("context_window", .number window)]

/-- Two catalogs that share a level. -/
def catalogs : List (List Object) :=
  [[model "low" "high" 200], [model "low" "medium" 100]]

theorem schema_model
    (first second : String)
    {count : Int}
    (small : count < 2 ^ 53) :
    Schema (model first second count) where
  lists entry member items held item inside := by
    simp only [listKinds, mem_cons, not_mem_nil, or_false] at member
    rcases member with rfl | rfl | rfl | rfl | rfl
    · cases held
      simp only [mem_cons, not_mem_nil, or_false] at inside
      rcases inside with rfl | rfl <;> rfl
    all_goals cases held
  limits field member limit held := by
    simp only [limitFields, mem_cons, not_mem_nil, or_false] at member
    rcases member with rfl | rfl | rfl | rfl
    · cases held
      exact ⟨count, rfl, small⟩
    all_goals cases held

/-- Fields that are texts or absent are told apart by what is written. -/
theorem eq_of_protocolData
    {left right : Option Json}
    (ours : (left.all fun value => value.asString.isSome) = true)
    (theirs : (right.all fun value => value.asString.isSome) = true)
    (same : client.protocolData left = client.protocolData right) :
    left = right := by
  have texts : ∀ value : Json, value.asString.isSome = true →
      ∃ text, value = .string text := by
    intro value isText
    obtain ⟨text, found⟩ := Option.isSome_iff_exists.mp isText
    exact ⟨text, asString_eq_some found⟩
  cases left with
  | none =>
    cases right with
    | none => rfl
    | some second =>
      obtain ⟨text, rfl⟩ := texts second theirs
      cases same
  | some first =>
    obtain ⟨text, rfl⟩ := texts first ours
    cases right with
    | none => cases same
    | some second =>
      obtain ⟨text', rfl⟩ := texts second theirs
      rw [utf8_injective (cons.inj same).2]

theorem reliable : client.Reliable catalogs where
  exact _ _ _ := rfl
  sign value double nonpositive same := by
    cases same
    exact nonpositive
  fragments _ _ same := utf8_injective same
  documents first member second member' field inside same := by
    have texts : ∀ model ∈ catalogs.flatten, ∀ field ∈ protocolFields,
        ((model.get field).all fun value => value.asString.isSome) = true := by
      decide +kernel
    rw [eq_of_protocolData (texts first member field inside)
      (texts second member' field inside)
      same]

end Sample

/-- A level that two catalogs share is advertised, and both allow what is
advertised. -/
theorem shared_level_is_offered_by_both :
    ∃ common, Sample.client.intersection Sample.catalogs = .ok common ∧
      (∀ model ∈ common, ∀ catalog ∈ Sample.catalogs,
        ∃ other ∈ catalog, Sample.client.Bounds model other) ∧
      ∀ request, validate Sample.client.texts request common = .ok () →
        ∀ catalog ∈ Sample.catalogs,
          validate Sample.client.texts request catalog = .ok () := by
  have succeeds : (Sample.client.intersection Sample.catalogs).isOk = true := by decide +kernel
  cases result : Sample.client.intersection Sample.catalogs with
  | error failure =>
    rw [result] at succeeds
    cases succeeds
  | ok common =>
    obtain ⟨bounds, -, requests⟩ := common_catalog_is_lower_bound Sample.client
      Sample.catalogs Sample.reliable
      (by
        intro catalog inside model member
        simp only [Sample.catalogs, mem_cons, not_mem_nil, or_false] at inside
        rcases inside with rfl | rfl
        · rw [mem_singleton.mp member]
          exact Sample.schema_model "low" "high" (by decide)
        · rw [mem_singleton.mp member]
          exact Sample.schema_model "low" "medium" (by decide))
      (by
        intro catalog inside
        simp only [Sample.catalogs, mem_cons, not_mem_nil, or_false] at inside
        rcases inside with rfl | rfl <;> exact pairwise_singleton _ _)
      common result
    exact ⟨common, rfl, bounds, requests⟩

end RouterModelCatalog

end Turnrail
