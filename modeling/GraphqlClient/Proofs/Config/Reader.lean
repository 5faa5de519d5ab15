import GraphqlClient.Config.Reader
import GraphqlClient.Proofs.Json.Reader
import Mathlib

/-!
# How configurations are written

A text that is read as a configuration writes a value of one of two forms
(`Config.exists_isWritten_of_parse`): an object with no members but the known ones, or an array of
their values in order.  Durations are written as strings, and the value of a header as a string or
as an array of strings.
-/

namespace GraphqlClient.Config

open Json

/-! ### Written forms -/

def IsText (v : Json) : Prop := ∃ text, v = .string text

/-- How the values of a header are written. -/
def HeaderValues.json : HeaderValues → Json
  | .one text => .string text
  | .more texts => .array (texts.map .string)

/-- A string or an array of strings. -/
def IsHeaderValue (v : Json) : Prop := ∃ values : HeaderValues, v = values.json

/-- What may stand under the name of a member, if headers may have such values as `IsValue` says. -/
inductive Fits (IsValue : Json → Prop) (name : String) : Json → Prop
  | duration (known : name = "timeout" ∨ name = "connect_timeout") (text : String) :
      Fits IsValue name (.string text)
  | headers (known : name = "headers") {fields : Entries Json}
      (values : ∀ field ∈ fields, IsValue field.2) :
      Fits IsValue name (.object fields)

section

variable {IsValue : Json → Prop} {name : String} {v : Json}

/-- A duration is a text. -/
lemma fits_duration_iff (known : name = "timeout" ∨ name = "connect_timeout") :
    Fits IsValue name v ↔ IsText v := by
  constructor
  · rintro (⟨-, text⟩ | ⟨rfl, -⟩)
    · exact ⟨text, rfl⟩
    · exact absurd known (by decide)
  · rintro ⟨text, rfl⟩
    exact .duration known text

/-- The header fields are an object, in which each value is of the given kind. -/
lemma fits_headers_iff :
    Fits IsValue "headers" v ↔ ∃ fields, v = .object fields ∧
      ∀ field ∈ fields, IsValue field.2 := by
  constructor
  · rintro (⟨known, -⟩ | ⟨-, values⟩)
    · exact absurd known (by decide)
    · exact ⟨_, rfl, values⟩
  · rintro ⟨fields, rfl, values⟩
    exact .headers rfl values

/-- A member that fits has one of the known names. -/
lemma Fits.mem_memberNames (h : Fits IsValue name v) : name ∈ memberNames := by
  cases h with
  | duration known =>
    rcases known with rfl | rfl
    · decide
    · decide
  | headers known =>
    subst known
    decide

end

/-- Values for the first few of some members, in their order. -/
inductive FitInOrder (IsValue : Json → Prop) : List String → List Json → Prop
  | done (names : List String) : FitInOrder IsValue names []
  | next {name : String} {names : List String} {v : Json} {vs : List Json}
      (first : Fits IsValue name v)
      (others : FitInOrder IsValue names vs) : FitInOrder IsValue (name :: names) (v :: vs)

/-- The values that configurations are written as. -/
inductive IsWritten : Json → Prop
  | byName {entries : Entries Json}
      (members : ∀ entry ∈ entries, Fits IsHeaderValue entry.1 entry.2) :
      IsWritten (.object entries)
  | inOrder {items : List Json} (members : FitInOrder IsHeaderValue memberNames items) :
      IsWritten (.array items)

/-! ### What is read is written -/

variable {depth : Nat} {v : Located}

/-- What is read as a duration is a text at any depth. -/
lemma exists_raw_of_readDuration {d : Duration} (h : readDuration v = .ok d) (depth : Nat) :
    ∃ text, v.raw depth = .ok (.string text) := by
  obtain ⟨text, htext, -⟩ := bind_eq_ok_iff.mp h
  exact ⟨text, Located.raw_of_readText htext depth⟩

/-- What is read as a header value is that text at any depth. -/
lemma raw_of_readValue {text : String} (h : readValue v = .ok text) (depth : Nat) :
    v.raw depth = .ok (.string text) := by
  have htext : v.readText expectedValue = .ok text := by
    cases v with
    | string => exact h
    | null | boolean | number | array | object | broken => cases h
  exact Located.raw_of_readText htext depth

/-- The values that are read for a header are the JSON that they are written as. -/
lemma raw_of_readValues {values : HeaderValues} (h : readValues v = .ok values) :
    v.raw (depth + 1) = .ok values.json := by
  unfold readValues at h
  split at h
  · obtain ⟨texts, htexts, rfl⟩ := bind_pure_eq_ok_iff.mp h
    have hraws := Located.itemRaws_of_readAll (fun v text h => raw_of_readValue h depth) _ htexts
    exact (Located.Holds.array hraws).raw_eq
  · obtain ⟨text, htext, rfl⟩ := bind_pure_eq_ok_iff.mp h
    exact raw_of_readValue htext _

/-- Header fields are gathered from members each of which has a string or a list of strings. -/
lemma exists_raws_of_gatherHeaders (depth : Nat) :
    (members : Members) → {headers headers' : Headers} →
    gatherHeaders headers members = .ok headers' →
    ∃ raws, Located.memberRaws (depth + 1) members = .ok raws ∧
      ∀ field ∈ raws, IsHeaderValue field.2
  | .done _, _, _, _ => ⟨[], rfl, nofun⟩
  | .member key _ v more, headers, _, h => by
    obtain ⟨⟨name, rest⟩, hname, h⟩ := bind_eq_ok_iff.mp h
    obtain ⟨values, hvalues, h⟩ := bind_eq_ok_iff.mp h
    have hmore : ∃ headers headers', gatherHeaders headers more = .ok headers' := by
      split at h
      · obtain ⟨_, -, h⟩ := bind_eq_ok_iff.mp h
        cases h
      · exact ⟨_, _, h⟩
    obtain ⟨_, _, hmore⟩ := hmore
    obtain ⟨raws, hraws, hvalid⟩ := exists_raws_of_gatherHeaders depth more hmore
    refine ⟨(name, values.json) :: raws, ?_, List.forall_mem_cons.mpr ⟨⟨values, rfl⟩, hvalid⟩⟩
    exact (Located.HoldsMembers.member hname (raw_of_readValues hvalues) hraws).memberRaws_eq
  | .broken _, _, _, h => by cases h

/-- What is read as header fields is an object of header values. -/
lemma exists_raw_of_readHeaders {headers : Headers} (h : readHeaders v = .ok headers) :
    ∃ fields, v.raw (depth + 2) = .ok (.object fields) ∧
      ∀ field ∈ fields, IsHeaderValue field.2 := by
  cases v with
  | object start members =>
    obtain ⟨fields, hfields, hvalid⟩ := exists_raws_of_gatherHeaders depth members h
    exact ⟨fields, (Located.Holds.object hfields).raw_eq, hvalid⟩
  | null | boolean | number | string | array | broken => cases h

/-! ### Members -/

/-- A reader takes only values that may stand under a name. -/
def ReadsMember {α : Type} (depth : Nat) (name : String) (read : Located → Except Fault α) : Prop :=
  ∀ ⦃v : Located⦄ ⦃x : α⦄, read v = .ok x → ∃ raw, v.raw (depth + 2) = .ok raw ∧
    Fits IsHeaderValue name raw

/-- A duration is read as the member that it is. -/
lemma readsMember_duration {name : String} (known : name = "timeout" ∨ name = "connect_timeout") :
    ReadsMember depth name readDuration := by
  intro v d h
  obtain ⟨text, hraw⟩ := exists_raw_of_readDuration h (depth + 2)
  exact ⟨_, hraw, .duration known text⟩

/-- The header fields are read as the member that they are. -/
lemma readsMember_headers : ReadsMember depth "headers" readHeaders := by
  intro v headers h
  obtain ⟨fields, hraw, hvalues⟩ := exists_raw_of_readHeaders h
  exact ⟨_, hraw, .headers rfl hvalues⟩

/-- A member that may come once only is read as what it is. -/
lemma ReadsMember.of_once {α σ : Type} {name : String} {old? : Option α}
    {read : Located → Except Fault α} {set : α → σ} {readOnce : Located → Except Fault σ}
    (h : ReadsMember depth name read) (honce : once name old? read set = .ok readOnce) :
    ReadsMember depth name readOnce := by
  intro v x hx
  cases old? with
  | some old => cases honce
  | none =>
    cases honce
    obtain ⟨y, hy, -⟩ := bind_pure_eq_ok_iff.mp hx
    exact h hy

/-- Whatever has been gathered, a member is read only if it has a known name and a value that may
stand there. -/
lemma readsMember_of_field {fields : Fields} {key : String} {read : Located → Except Fault Fields}
    (h : field fields key = .ok read) : ReadsMember depth key read := by
  unfold field at h
  split at h
  · next hkey => exact (readsMember_duration (.inl hkey)).of_once h
  split at h
  · next hkey => exact (readsMember_duration (.inr hkey)).of_once h
  split at h
  · next hkey =>
    subst hkey
    exact readsMember_headers.of_once h
  · cases h

/-- If the members are gathered, then the value under each name fits the name. -/
lemma exists_raws_of_gather (depth : Nat) : (members : Members) → {fields fields' : Fields} →
    members.gather field fields = .ok fields' →
    ∃ raws, Located.memberRaws (depth + 2) members = .ok raws ∧
      ∀ entry ∈ raws, Fits IsHeaderValue entry.1 entry.2
  | .done _, _, _, _ => ⟨[], rfl, nofun⟩
  | .member key _ v more, fields, _, h => by
    obtain ⟨⟨name, rest⟩, hname, h⟩ := bind_eq_ok_iff.mp h
    split at h
    · cases h
    next read hfield =>
    obtain ⟨fields', hread, hmore⟩ := bind_eq_ok_iff.mp h
    obtain ⟨raw, hraw, hfits⟩ := readsMember_of_field hfield hread
    obtain ⟨raws, hraws, hothers⟩ := exists_raws_of_gather depth more hmore
    refine ⟨(name, raw) :: raws, ?_, List.forall_mem_cons.mpr ⟨hfits, hothers⟩⟩
    exact (Located.HoldsMembers.member hname hraw hraws).memberRaws_eq
  | .broken _, _, _, h => by cases h

/-! ### Items -/

/-- The items are values for the first few of some members. -/
def ItemsFit (depth : Nat) (names : List String) (items : Items) : Prop :=
  ∃ raws, Located.itemRaws (depth + 2) items = .ok raws ∧ FitInOrder IsHeaderValue names raws

/-- If what is left after taking an item fits, so does what there was, with one more name.  Where
there was no item to take, nothing has changed. -/
lemma ItemsFit.of_next? {α : Type} {name : String} {names : List String}
    {read : Located → Except Fault α} {c c' : Cursor} {x? : Option α}
    (h : c.next? read = .ok (x?, c')) (hread : ReadsMember depth name read)
    (hends : c.items.Ends c.rest) :
    c'.items.Ends c'.rest ∧
      (ItemsFit depth names c'.items → ItemsFit depth (name :: names) c.items) := by
  unfold Cursor.next? at h
  split at h
  · next hitems =>
    cases h
    refine ⟨hends, fun _ => ?_⟩
    rw [hitems]
    exact ⟨[], rfl, .done _⟩
  · next v more hitems =>
    obtain ⟨x, hx, h⟩ := bind_eq_ok_iff.mp h
    obtain ⟨rest, hrest, h⟩ := bind_eq_ok_iff.mp h
    cases h
    rw [hitems] at hends ⊢
    refine ⟨hends.2 rest (Located.after_eq_ok_of_rest hrest), ?_⟩
    rintro ⟨raws, hraws, hfit⟩
    obtain ⟨raw, hraw, hfits⟩ := hread hx
    exact ⟨raw :: raws, (Located.HoldsItems.item hraw hraws).itemRaws_eq, .next hfits hfit⟩
  · cases h

/-- Where an array is over, no further item has to fit. -/
lemma itemsFit_nil_of_finish (depth : Nat) {c : Cursor} (h : c.finish = .ok ())
    (hends : c.items.Ends c.rest) :
    ItemsFit depth [] c.items := by
  obtain ⟨after, hdone⟩ := hends.eq_done h
  rw [hdone]
  exact ⟨[], rfl, .done _⟩

/-! ### Configurations -/

/-- What is written in a tree that is read as a configuration. -/
lemma exists_raw_of_read (depth : Nat) {c : Config} (h : read v = .ok c) (hends : v.Ends) :
    ∃ raw, v.raw (depth + 3) = .ok raw ∧ IsWritten raw := by
  cases v with
  | object start members =>
    obtain ⟨fields, hfields, -⟩ := bind_eq_ok_iff.mp h
    obtain ⟨raws, hraws, hfits⟩ := exists_raws_of_gather depth members hfields
    exact ⟨.object raws, (Located.Holds.object hraws).raw_eq, .byName hfits⟩
  | array start items =>
    -- That the items end is handed on from the front to the back, and that they fit from the back
    -- to the front.
    obtain ⟨⟨timeout?, c₁⟩, htimeout, h⟩ := bind_eq_ok_iff.mp h
    obtain ⟨⟨connectTimeout?, c₂⟩, hconnectTimeout, h⟩ := bind_eq_ok_iff.mp h
    obtain ⟨⟨headers?, c₃⟩, hheaders, h⟩ := bind_eq_ok_iff.mp h
    obtain ⟨_, hfinish, -⟩ := bind_eq_ok_iff.mp h
    obtain ⟨hends₁, hfit₁⟩ := ItemsFit.of_next? htimeout (readsMember_duration (.inl rfl)) hends
    obtain ⟨hends₂, hfit₂⟩ :=
      ItemsFit.of_next? hconnectTimeout (readsMember_duration (.inr rfl)) hends₁
    obtain ⟨hends₃, hfit₃⟩ := ItemsFit.of_next? hheaders readsMember_headers hends₂
    obtain ⟨raws, hraws, hfit⟩ :=
      hfit₁ (hfit₂ (hfit₃ (itemsFit_nil_of_finish depth hfinish hends₃)))
    exact ⟨.array raws, (Located.Holds.array hraws).raw_eq, .inOrder hfit⟩
  | null | boolean | number | string | broken => cases h

/-! ### Whole texts

A text may repeat the name of a header, of which the value that the text writes has the last
only. -/

/-- A header value holds no object that could repeat a key. -/
lemma collapsed_of_isHeaderValue {v : Json} (h : IsHeaderValue v) : v.collapsed = v := by
  obtain ⟨values, rfl⟩ := h
  cases values with
  | one text => rfl
  | more texts =>
    rw [HeaderValues.json, collapsed, collapsedItems_eq, List.map_map]
    rfl

/-- A member still fits when repeated keys are collapsed. -/
lemma Fits.collapsed {name : String} {v : Json} (h : Fits IsHeaderValue name v) :
    Fits IsHeaderValue name v.collapsed := by
  cases h with
  | duration known text => exact .duration known text
  | headers known values =>
    refine .headers known fun field hfield => ?_
    obtain ⟨w, hmem, heq⟩ := exists_of_mem_merge_collapsedEntries hfield
    rw [heq, collapsed_of_isHeaderValue (values _ hmem)]
    exact values _ hmem

/-- Items still fit when repeated keys are collapsed. -/
lemma FitInOrder.collapsed {names : List String} {vs : List Json}
    (h : FitInOrder IsHeaderValue names vs) :
    FitInOrder IsHeaderValue names (vs.map Json.collapsed) := by
  induction h with
  | done names => exact .done names
  | next first _ ih => exact .next first.collapsed ih

/-- A configuration is still one when repeated keys are collapsed. -/
lemma IsWritten.collapsed {v : Json} (h : IsWritten v) : IsWritten v.collapsed := by
  cases h with
  | byName members =>
    refine .byName fun entry hentry => ?_
    obtain ⟨w, hmem, heq⟩ := exists_of_mem_merge_collapsedEntries hentry
    rw [heq]
    exact (members _ hmem).collapsed
  | inOrder members =>
    rw [Json.collapsed, collapsedItems_eq]
    exact .inOrder members.collapsed

/-- A text that is read as a configuration writes a value of one of the two forms. -/
theorem exists_isWritten_of_parse {text : Bytes} {c : Config} (h : parse text = .ok c) :
    ∃ v, Json.parse text = .ok v ∧ IsWritten v := by
  obtain ⟨_, hread, h⟩ := bind_eq_ok_iff.mp h
  obtain ⟨_, hfinish, -⟩ := bind_eq_ok_iff.mp h
  obtain ⟨raw, hraw, hwritten⟩ :=
    exists_raw_of_read (Located.nestingLimit - 3) hread (Located.ends_valueWithin _ _)
  have hvalue : (Located.ofBytes text).value Located.nestingLimit = .ok raw.collapsed :=
    Located.value_eq_ok_iff.mpr ⟨raw, hraw, rfl⟩
  exact ⟨raw.collapsed, bind_eq_ok_iff.mpr ⟨_, hvalue, bind_eq_ok_iff.mpr ⟨(), hfinish, rfl⟩⟩,
    hwritten.collapsed⟩

end GraphqlClient.Config
