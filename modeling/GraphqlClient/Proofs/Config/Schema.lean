import GraphqlClient.Proofs.Config.Reader
import GraphqlClient.Proofs.Json.Validation
import Mathlib

/-!
# What the published schema covers

The schema of configurations is published for those who write them.  Valid under it are the objects
with no members but the known ones, in which durations are strings and headers have one string each
(`Config.validates_jsonSchema_iff`).  More than that can be read: an array of the values of members,
and a list of values for a header.  Apart from these two forms, what is read as a configuration is
valid (`Config.parse_validates`).
-/

namespace GraphqlClient.Config

open Json

variable {name : String} {v : Json}

/-! ### What is valid -/

/-- A schema that allows strings and no other type validates the texts. -/
lemma validates_iff_isText {schema : Json}
    (h : ∀ type, schema.allowsType type = decide ("string" = type)) :
    schema.validates v = true ↔ IsText v := by
  constructor
  · intro hvalid
    have htype := allowsType_of_validates hvalid
    rw [h, decide_eq_true_iff] at htype
    exact typeName_eq_string_iff.mp htype.symm
  · rintro ⟨text, rfl⟩
    rw [validates_string, h]
    rfl

/-- A schema for objects, by the schema for members. -/
lemma validates_iff_members {schema : Json} {IsMember : String → Json → Prop}
    (htype : ∀ type, schema.allowsType type = decide ("object" = type))
    (hmember : ∀ name v, (schema.forMember name).validates v = true ↔ IsMember name v) :
    schema.validates v = true ↔
      ∃ members, v = .object members ∧ ∀ member ∈ members, IsMember member.1 member.2 := by
  constructor
  · intro hvalid
    have hobject := allowsType_of_validates hvalid
    rw [htype, decide_eq_true_iff] at hobject
    obtain ⟨members, rfl⟩ := typeName_eq_object_iff.mp hobject.symm
    exact ⟨members, rfl, fun member hmem =>
      (hmember _ _).mp ((validates_object_iff.mp hvalid).2 member hmem)⟩
  · rintro ⟨members, rfl, hmembers⟩
    refine validates_object_iff.mpr ⟨?_, fun member hmem =>
      (hmember _ _).mpr (hmembers member hmem)⟩
    rw [htype]
    rfl

/-- The schema forbids members with other names. -/
lemma forMember_of_not_mem (h : name ∉ memberNames) :
    jsonSchema.forMember name = .boolean false := by
  have hproperty : (jsonSchema.keyword? "properties").bind (·.keyword? name) = none := by
    have hnames : ["connect_timeout", "headers", "timeout"] ⊆ memberNames := by decide
    exact Entries.lookup_eq_none_iff.mpr fun hmem => h (hnames hmem)
  rw [forMember, hproperty]
  rfl

/-- The schema for a member allows what fits its name, and nothing under any other name. -/
lemma validates_forMember_iff :
    (jsonSchema.forMember name).validates v = true ↔ Fits IsText name v := by
  by_cases hduration : name = "timeout" ∨ name = "connect_timeout"
  · rw [fits_duration_iff hduration]
    rcases hduration with rfl | rfl
    · exact validates_iff_isText fun _ => rfl
    · exact validates_iff_isText fun _ => rfl
  by_cases hheaders : name = "headers"
  · subst hheaders
    rw [fits_headers_iff]
    exact validates_iff_members (fun _ => rfl) fun _ _ => validates_iff_isText fun _ => rfl
  · have hunknown : name ∉ memberNames := by
      simp only [memberNames, List.mem_cons, List.not_mem_nil, or_false]
      tauto
    rw [forMember_of_not_mem hunknown]
    refine iff_of_false (fun hvalid => ?_) fun hfits => hunknown hfits.mem_memberNames
    exact Bool.false_ne_true (allowsType_of_validates hvalid)

/-- The schema says that a configuration is an object with no members but the known ones, in which
durations are strings and headers have one string each. -/
theorem validates_jsonSchema_iff : jsonSchema.validates v = true ↔
    ∃ entries, v = .object entries ∧ ∀ entry ∈ entries, Fits IsText entry.1 entry.2 :=
  validates_iff_members (fun _ => rfl) fun _ _ => validates_forMember_iff

/-! ### Forms that the schema does not know -/

/-- The value with its fields under their names, if they are given by their order. -/
def named : Json → Json
  | .array items => .object (memberNames.zip items)
  | v => v

def isList : Json → Bool
  | .array _ => true
  | _ => false

/-- Whether a list of values is given for a header. -/
def hasLists : Json → Bool
  | .object fields => fields.any fun field => isList field.2
  | _ => false

/-- The headers without those for which a list of values is given. -/
def singleHeaders : Json → Json
  | .object fields => .object (fields.filter fun field => !isList field.2)
  | v => v

/-- A configuration without the headers for which a list of values is given. -/
def withSingleHeaders : Json → Json
  | .object entries =>
    .object (entries.map fun entry =>
      (entry.1, if entry.1 = "headers" then singleHeaders entry.2 else entry.2))
  | v => v

/-- Whether a configuration is an object in which no header has a list of values. -/
def isPlain : Json → Bool
  | .object entries => entries.all fun entry => entry.1 ≠ "headers" || !hasLists entry.2
  | _ => false

/-- Without lists, taking single values changes nothing. -/
lemma singleHeaders_eq_self (h : hasLists v = false) : singleHeaders v = v := by
  cases v with
  | object fields =>
    have hsingle : ∀ field ∈ fields, (!isList field.2) = true := by simpa [hasLists] using h
    rw [singleHeaders, List.filter_eq_self.mpr hsingle]
  | null | boolean | number | string | array => rfl

/-- A plain configuration has its fields under their names and no headers to leave out. -/
lemma withSingleHeaders_named_eq_self (h : isPlain v = true) : withSingleHeaders (named v) = v := by
  cases v with
  | object entries =>
    have hentries : ∀ entry ∈ entries,
        (entry.1, if entry.1 = "headers" then singleHeaders entry.2 else entry.2) = entry := by
      intro entry hentry
      have hplain := List.all_eq_true.mp h entry hentry
      split
      · next hheaders =>
        have hlists : hasLists entry.2 = false := by simpa [hheaders] using hplain
        rw [singleHeaders_eq_self hlists]
      · rfl
    have hmap := (List.map_congr_left hentries).trans (List.map_id' entries)
    exact congrArg Json.object hmap
  | null | boolean | number | string | array => cases h

/-! ### What is read -/

/-- A header value that is no list is a text. -/
lemma isText_of_isHeaderValue (h : IsHeaderValue v) (hlist : isList v = false) : IsText v := by
  obtain ⟨values, rfl⟩ := h
  cases values with
  | one text => exact ⟨text, rfl⟩
  | more texts => cases hlist

/-- A member that fits still does when each header has a single value. -/
lemma Fits.singleHeaders (h : Fits IsHeaderValue name v) :
    Fits IsText name (if name = "headers" then Config.singleHeaders v else v) := by
  cases h with
  | duration known text =>
    have hname : name ≠ "headers" := by
      rintro rfl
      exact absurd known (by decide)
    rw [if_neg hname]
    exact .duration known text
  | headers known values =>
    rw [if_pos known]
    refine .headers known fun field hfield => ?_
    obtain ⟨hmem, hsingle⟩ := List.mem_filter.mp hfield
    exact isText_of_isHeaderValue (values field hmem) (by simpa using hsingle)

/-- Items that fit in order fit the names beside them. -/
lemma FitInOrder.fits {IsValue : Json → Prop} {names : List String} {vs : List Json}
    (h : FitInOrder IsValue names vs) :
    ∀ entry ∈ names.zip vs, Fits IsValue entry.1 entry.2 := by
  induction h with
  | done names => simp
  | next first _ ih => exact List.forall_mem_cons.mpr ⟨first, ih⟩

/-- Both ways to write a configuration come to the same members. -/
lemma IsWritten.exists_named (h : IsWritten v) :
    ∃ entries, named v = .object entries ∧
      ∀ entry ∈ entries, Fits IsHeaderValue entry.1 entry.2 := by
  cases h with
  | byName members => exact ⟨_, rfl, members⟩
  | inOrder members => exact ⟨_, rfl, members.fits⟩

/-- A configuration validates when its members are named and each header has a single value. -/
lemma IsWritten.validates (h : IsWritten v) :
    jsonSchema.validates (withSingleHeaders (named v)) = true := by
  obtain ⟨entries, hnamed, hfits⟩ := h.exists_named
  rw [hnamed]
  refine validates_jsonSchema_iff.mpr ⟨_, rfl, fun entry hentry => ?_⟩
  obtain ⟨entry, hmem, rfl⟩ := List.mem_map.mp hentry
  exact (hfits entry hmem).singleHeaders

/-- Valid under the schema are the objects with no members but the known ones, in which durations
are strings and headers have one string each.  Whatever is read as a configuration is valid, if it
is an object in which no header has a list of values; and in any case it is so once its fields are
under their names and the headers with lists are left out. -/
theorem parse_validates :
    (∀ v, jsonSchema.validates v = true ↔
      ∃ entries, v = .object entries ∧ ∀ entry ∈ entries, Fits IsText entry.1 entry.2) ∧
      ∀ text c, parse text = .ok c → ∃ v, Json.parse text = .ok v ∧
        (isPlain v = true → jsonSchema.validates v = true) ∧
        jsonSchema.validates (withSingleHeaders (named v)) = true := by
  refine ⟨fun v => validates_jsonSchema_iff, fun text c h => ?_⟩
  obtain ⟨v, hv, hwritten⟩ := exists_isWritten_of_parse h
  refine ⟨v, hv, fun hplain => ?_, hwritten.validates⟩
  rw [← withSingleHeaders_named_eq_self hplain]
  exact hwritten.validates

/-- All fields in their order, with a header that has two values. -/
def orderedText : Bytes :=
  bytesOf "[\"1m 30s\",\"250ms\",\x7b\"x-api-key\":\"secret\",\"x-many\":[\"1\",\"2\"]\x7d]"

/-- Two fields under their names. -/
def plainText : Bytes :=
  bytesOf "\x7b\"headers\":\x7b\"x-api-key\":\"secret\"\x7d,\"timeout\":\"1m 30s\"\x7d"

/-- A configuration whose fields are given by their order is valid under their names, but for a
header with two values, and a plain one is valid as it is. -/
theorem parse_validates_ordered_plain :
    (∃ c v, parse orderedText = .ok c ∧ Json.parse orderedText = .ok v ∧
        jsonSchema.validates (withSingleHeaders (named v)) = true) ∧
      ∃ c v, parse plainText = .ok c ∧ Json.parse plainText = .ok v ∧ isPlain v = true ∧
        jsonSchema.validates v = true := by
  have hread : (parse orderedText).isOk = true ∧ (parse plainText).isOk = true := by decide +kernel
  have hplain : (Json.parse plainText).toOption.any isPlain = true := by decide +kernel
  constructor
  · obtain ⟨c, hc⟩ := isOk_iff.mp hread.1
    obtain ⟨v, hv, -, hvalid⟩ := parse_validates.2 orderedText c hc
    exact ⟨c, v, hc, hv, hvalid⟩
  · obtain ⟨c, hc⟩ := isOk_iff.mp hread.2
    obtain ⟨v, hv, hvalid, -⟩ := parse_validates.2 plainText c hc
    rw [hv] at hplain
    exact ⟨c, v, hc, hv, hplain, hvalid hplain⟩

/-- A text is read and does not validate, if evaluating both says so. -/
lemma exists_of_not_validates {text : Bytes} (hread : (parse text).isOk = true)
    (hinvalid : ((Json.parse text).toOption.any fun v => !jsonSchema.validates v) = true) :
    ∃ c v, parse text = .ok c ∧ Json.parse text = .ok v ∧ jsonSchema.validates v = false := by
  obtain ⟨c, hc⟩ := isOk_iff.mp hread
  obtain ⟨v, hv, hinvalid⟩ := (Option.any_eq_true _ _).mp hinvalid
  exact ⟨c, v, hc, toOption_eq_some_iff.mp hv, by simpa using hinvalid⟩

/-- Configurations are read that are not valid: an array, and an object in which a header has a list
of values. -/
theorem parse_ok_not_validates :
    (∃ c v, parse (bytesOf "[\"1s\"]") = .ok c ∧ Json.parse (bytesOf "[\"1s\"]") = .ok v ∧
        jsonSchema.validates v = false) ∧
      ∃ c v, parse (bytesOf "\x7b\"headers\":\x7b\"x-many\":[\"1\",\"2\"]\x7d\x7d") = .ok c ∧
        Json.parse (bytesOf "\x7b\"headers\":\x7b\"x-many\":[\"1\",\"2\"]\x7d\x7d") = .ok v ∧
        jsonSchema.validates v = false :=
  ⟨exists_of_not_validates (by decide +kernel) (by decide +kernel),
    exists_of_not_validates (by decide +kernel) (by decide +kernel)⟩

end GraphqlClient.Config
