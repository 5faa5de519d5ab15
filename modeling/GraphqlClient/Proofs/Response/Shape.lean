import GraphqlClient.Proofs.Json.Printer
import GraphqlClient.Proofs.Response.Decode
import GraphqlClient.Transport.Execute

/-!
# The bodies that hold a response

Which texts are responses, said of what the texts write: of values whose objects may repeat keys,
where the last value under a key counts.  Each decoder of a part accepts the values of one such
shape, and no others.
-/

namespace GraphqlClient

open Json

/-! ### Shapes of values -/

/-- A key is absent, or the last value under it is as it should be. -/
def Entries.AbsentOr (p : Json → Prop) (key : String) (entries : Entries Json) : Prop :=
  ∀ v, entries.last? key = some v → p v

namespace Json

/-- An integer from 0 up to 2^32 - 1. -/
inductive IsWord32 : Json → Prop
  | integer {n : Int} (range : IsWord n) (lower : 0 ≤ n) (upper : n < 2 ^ 32) :
      IsWord32 (.number (.integer n range))

inductive IsText : Json → Prop
  | string (s : String) : IsText (.string s)

inductive IsObject : Json → Prop
  | object (entries : Entries Json) : IsObject (.object entries)

inductive IsArrayOf (p : Json → Prop) : Json → Prop
  | array {items : List Json} (each : ∀ item ∈ items, p item) : IsArrayOf p (.array items)

inductive IsNullOr (p : Json → Prop) : Json → Prop
  | null : IsNullOr p .null
  | value {v : Json} (shape : p v) : IsNullOr p v

end Json

/-- An object with a line and a column, whatever else it has, or an array of the two. -/
inductive Location.Shape : Json → Prop
  | object {entries : Entries Json} {line column : Json}
      (line_eq : entries.last? "line" = some line)
      (line_shape : line.IsWord32) (column_eq : entries.last? "column" = some column)
      (column_shape : column.IsWord32) : Shape (.object entries)
  | array {line column : Json} (line_shape : line.IsWord32) (column_shape : column.IsWord32) :
      Shape (.array [line, column])

/-- An integer from 0 up to 2^64 - 1, or a string. -/
inductive PathElement.Shape : Json → Prop
  | index {n : Int} (range : IsWord n) (lower : 0 ≤ n) (upper : n < 2 ^ 64) :
      Shape (.number (.integer n range))
  | key (name : String) : Shape (.string name)

/-- An object, in which only the keys of the format bind what stands under them. -/
inductive GraphqlError.Shape : Json → Prop
  | object {entries : Entries Json} (message : entries.AbsentOr IsText "message")
      (locations : entries.AbsentOr (IsNullOr (IsArrayOf Location.Shape)) "locations")
      (path : entries.AbsentOr (IsNullOr (IsArrayOf PathElement.Shape)) "path")
      (extensions : entries.AbsentOr (IsNullOr IsObject) "extensions") : Shape (.object entries)

/-- An object, in which the errors and the extensions are bound to be such, and nothing else is. -/
inductive Response.Shape : Json → Prop
  | object {entries : Entries Json}
      (errors : entries.AbsentOr (IsNullOr (IsArrayOf GraphqlError.Shape)) "errors")
      (extensions : entries.AbsentOr (IsNullOr IsObject) "extensions") : Shape (.object entries)

/-- The bodies that hold a response: UTF-8 texts of values of its shape that nest at most 127
levels. -/
def Response.IsBody (d : Dialect) (body : Bytes) : Prop :=
  ∃ text v, body = Utf8.encode text ∧ SpellsElement d v text ∧ v.depth ≤ 127 ∧ Response.Shape v

/-! ### What decoders accept -/

section

variable {β : Type} {decode : Json → Except ShapeError β} {p : Json → Prop}

/-- From a value, once its repeated keys are gone, something can be decoded exactly if the value has
a shape. -/
def Accepts (decode : Json → Except ShapeError β) (p : Json → Prop) : Prop :=
  ∀ v : Json, (∃ x, decode v.collapsed = .ok x) ↔ p v

/-- The numbers that are accepted are those that fit. -/
lemma accepts_decodeWord32 : Accepts decodeWord32 IsWord32 := by
  intro v
  have hsize : UInt32.size = 2 ^ 32 := rfl
  cases v with
  | null | boolean | string | array | object => exact ⟨nofun, nofun⟩
  | number n =>
    cases n with
    | real x => exact ⟨nofun, nofun⟩
    | integer n range =>
      simp only [collapsed, decodeWord32]
      constructor
      · rintro ⟨word, h⟩
        split at h
        · next hbounds =>
          simp only [Bool.and_eq_true, decide_eq_true_eq] at hbounds
          exact .integer range hbounds.1 (by omega)
        · cases h
      · rintro ⟨_, lower, upper⟩
        rw [if_pos (by simp only [Bool.and_eq_true, decide_eq_true_eq]; omega)]
        exact ⟨_, rfl⟩

/-- The texts that are accepted are the strings. -/
lemma accepts_decodeText : Accepts decodeText IsText := by
  intro v
  cases v with
  | null | boolean | number | array | object => exact ⟨nofun, nofun⟩
  | string s => exact ⟨fun _ => .string s, fun _ => ⟨s, rfl⟩⟩

/-- The maps that are accepted are the objects. -/
lemma accepts_decodeEntries : Accepts decodeEntries IsObject := by
  intro v
  cases v with
  | null | boolean | number | string | array => exact ⟨nofun, nofun⟩
  | object entries => exact ⟨fun _ => .object entries, fun _ => ⟨_, rfl⟩⟩

/-- The steps that are accepted have the shape of a step. -/
lemma accepts_decodePathElement : Accepts PathElement.decode PathElement.Shape := by
  intro v
  cases v with
  | null | boolean | array | object => exact ⟨nofun, nofun⟩
  | string s => exact ⟨fun _ => .key s, fun _ => ⟨_, rfl⟩⟩
  | number n =>
    cases n with
    | real x => exact ⟨nofun, nofun⟩
    | integer n range =>
      simp only [collapsed, PathElement.decode]
      constructor
      · rintro ⟨e, h⟩
        split at h
        · next hlower => exact .index range hlower (by have := range.2; omega)
        · cases h
      · rintro ⟨_, lower, -⟩
        rw [if_pos lower]
        exact ⟨_, rfl⟩

/-- Where null is allowed, it is accepted beside the other values. -/
lemma Accepts.nullable (h : Accepts decode p) : Accepts (decodeNullable decode) (IsNullOr p) := by
  intro v
  by_cases hv : v = .null
  · subst hv
    exact ⟨fun _ => .null, fun _ => ⟨none, rfl⟩⟩
  · have hcollapsed : v.collapsed ≠ .null := by
      cases v with
      | null => exact absurd rfl hv
      | boolean | number | string | array | object => exact Json.noConfusion
    simp only [decodeNullable_of_ne_null decode hcollapsed, bind_pure_eq_ok_iff]
    constructor
    · rintro ⟨-, x, hx, -⟩
      exact .value ((h v).mp ⟨x, hx⟩)
    · intro hshape
      cases hshape with
      | null => exact absurd rfl hv
      | value shape =>
        obtain ⟨x, hx⟩ := (h v).mpr shape
        exact ⟨_, x, hx, rfl⟩

/-- The arrays that are accepted are those of accepted items. -/
lemma Accepts.items (h : Accepts decode p) : Accepts (decodeItems decode) (IsArrayOf p) := by
  intro v
  cases v with
  | null | boolean | number | string | object => exact ⟨nofun, nofun⟩
  | array items =>
    have hitems : (∀ item ∈ items.map collapsed, ∃ x, decode item = .ok x) ↔
        ∀ item ∈ items, p item := by
      rw [List.forall_mem_map]
      exact forall₂_congr fun item _ => h item
    rw [collapsed, collapsedItems_eq]
    simp only [decodeItems]
    rw [exists_mapM_eq_ok_iff, hitems]
    constructor
    · exact .array
    · rintro ⟨each⟩
      exact each

/-- A default for null does not change what is accepted. -/
lemma Accepts.getD {default : β} {decode : Json → Except ShapeError (Option β)}
    (h : Accepts decode p) :
    Accepts (fun v => do return (← decode v).getD default) p := by
  intro v
  rw [← h v]
  simp only [bind_pure_eq_ok_iff]
  constructor
  · rintro ⟨-, x?, hx, -⟩
    exact ⟨x?, hx⟩
  · rintro ⟨x?, hx⟩
    exact ⟨_, x?, hx, rfl⟩

/-- The lists that are accepted are null and the arrays of accepted items. -/
lemma Accepts.list (h : Accepts decode p) : Accepts (decodeList decode) (IsNullOr (IsArrayOf p)) :=
  h.items.nullable.getD

/-- The maps that are accepted where null is allowed are null and the objects. -/
lemma accepts_decodeMap : Accepts decodeMap (IsNullOr IsObject) :=
  accepts_decodeEntries.nullable.getD

/-- What can be decoded from under a key depends on the last value there. -/
lemma Accepts.decodeOr (h : Accepts decode p) (absent : β) (key : String) (entries : Entries Json) :
    (∃ x, Entries.decodeOr decode absent key (Entries.merge (collapsedEntries entries)) = .ok x) ↔
      entries.AbsentOr p key := by
  rw [Entries.exists_decodeOr_eq_ok_iff]
  simp only [lookup_merge_collapsedEntries, Option.map_eq_some_iff]
  constructor
  · intro hsome v hv
    exact (h v).mp (hsome v.collapsed ⟨v, hv, rfl⟩)
  · rintro hp - ⟨v, hv, rfl⟩
    exact (h v).mpr (hp v hv)

end

/-- The locations that are accepted have the shape of a location. -/
lemma accepts_decodeLocation : Accepts Location.decode Location.Shape := by
  intro v
  have hword := accepts_decodeWord32
  cases v with
  | null | boolean | number | string => exact ⟨nofun, nofun⟩
  -- Of a repeated key the last value is decoded, and it is also the one that the shape asks about.
  | object entries =>
    rw [collapsed]
    simp only [Location.decode_object_eq_ok_iff (Entries.nodup_keys_merge _),
      lookup_merge_collapsedEntries, Option.map_eq_some_iff]
    constructor
    · rintro ⟨l, ⟨-, ⟨line, hline, rfl⟩, hlineWord⟩, -, ⟨column, hcolumn, rfl⟩, hcolumnWord⟩
      exact .object hline ((hword line).mp ⟨_, hlineWord⟩)
        hcolumn ((hword column).mp ⟨_, hcolumnWord⟩)
    · intro h
      cases h with
      | @object _ line column hline hlineShape hcolumn hcolumnShape =>
        obtain ⟨n, hn⟩ := (hword line).mpr hlineShape
        obtain ⟨m, hm⟩ := (hword column).mpr hcolumnShape
        exact ⟨⟨n, m⟩, ⟨_, ⟨line, hline, rfl⟩, hn⟩, _, ⟨column, hcolumn, rfl⟩, hm⟩
  | array items =>
    rw [collapsed, collapsedItems_eq]
    simp only [Location.decode_array_eq_ok_iff, List.map_eq_cons_iff, List.map_eq_nil_iff]
    constructor
    · rintro ⟨l, -, -, ⟨line, -, rfl, rfl, column, -, rfl, rfl, rfl⟩, hlineWord, hcolumnWord⟩
      exact .array ((hword line).mp ⟨_, hlineWord⟩) ((hword column).mp ⟨_, hcolumnWord⟩)
    · intro h
      cases h with
      | @array line column hlineShape hcolumnShape =>
        obtain ⟨n, hn⟩ := (hword line).mpr hlineShape
        obtain ⟨m, hm⟩ := (hword column).mpr hcolumnShape
        exact ⟨⟨n, m⟩, _, _, ⟨line, [column], rfl, rfl, column, [], rfl, rfl, rfl⟩, hn, hm⟩

/-- The errors that are accepted have the shape of an error. -/
lemma accepts_decodeError : Accepts GraphqlError.decode GraphqlError.Shape := by
  intro v
  cases v with
  | null | boolean | number | string | array => exact ⟨nofun, nofun⟩
  | object entries =>
    have hmessage := accepts_decodeText.decodeOr "" "message" entries
    have hlocations := accepts_decodeLocation.list.decodeOr [] "locations" entries
    have hpath := accepts_decodePathElement.items.nullable.decodeOr none "path" entries
    have hextensions := accepts_decodeMap.decodeOr [] "extensions" entries
    rw [collapsed]
    simp only [GraphqlError.decode_object_eq_ok_iff (Entries.nodup_keys_merge _)]
    constructor
    · rintro ⟨e, hdecoded⟩
      exact .object (hmessage.mp ⟨_, hdecoded.message⟩) (hlocations.mp ⟨_, hdecoded.locations⟩)
        (hpath.mp ⟨_, hdecoded.path⟩) (hextensions.mp ⟨_, hdecoded.extensions⟩)
    · rintro ⟨messageShape, locationsShape, pathShape, extensionsShape⟩
      obtain ⟨message, hm⟩ := hmessage.mpr messageShape
      obtain ⟨locations, hl⟩ := hlocations.mpr locationsShape
      obtain ⟨path?, hp⟩ := hpath.mpr pathShape
      obtain ⟨extensions, hx⟩ := hextensions.mpr extensionsShape
      exact ⟨⟨message, locations, path?, extensions, _⟩, hm, hl, hp, hx, rfl⟩

/-- A response is made of the entries of an object, whose repeated keys are gone, exactly if the
object has the shape of one. -/
lemma exists_ofEntries_eq_ok_iff (entries : Entries Json) :
    (∃ r, Response.ofEntries (Entries.merge (collapsedEntries entries)) = .ok r) ↔
      Response.Shape (.object entries) := by
  have herrors := accepts_decodeError.list.decodeOr [] "errors" entries
  have hextensions := accepts_decodeMap.decodeOr [] "extensions" entries
  simp only [Response.ofEntries_eq_ok_iff (Entries.nodup_keys_merge _)]
  constructor
  · rintro ⟨r, hdecoded⟩
    exact .object (herrors.mp ⟨_, hdecoded.errors⟩) (hextensions.mp ⟨_, hdecoded.extensions⟩)
  · rintro ⟨errorsShape, extensionsShape⟩
    obtain ⟨errors, he⟩ := herrors.mpr errorsShape
    obtain ⟨extensions, hx⟩ := hextensions.mpr extensionsShape
    exact ⟨⟨_, errors, extensions⟩, rfl, he, hx⟩

/-! ### Bodies -/

namespace Response

/-- A body is a response exactly if it is JSON, and an object whose entries make one. -/
lemma ofBytes_eq_ok_iff {body : Bytes} {r : Response} :
    ofBytes body = .ok r ↔ ∃ entries, Json.parse body = .ok (.object entries) ∧
      ofEntries entries = .ok r := by
  unfold ofBytes
  cases hparse : Json.parse body with
  | error fault => exact ⟨nofun, nofun⟩
  | ok v =>
    cases v with
    | null | boolean | number | string | array =>
      refine ⟨nofun, ?_⟩
      rintro ⟨_, hobject, -⟩
      cases hobject
    | object entries =>
      dsimp only
      rw [mapError_eq_ok_iff]
      constructor
      · intro h
        exact ⟨entries, rfl, h⟩
      · rintro ⟨_, hobject, h⟩
        cases hobject
        exact h

/-- A body is read as a response exactly if it holds one. -/
lemma exists_ofBytes_eq_ok_iff (body : Bytes) :
    (∃ r, ofBytes body = .ok r) ↔ IsBody .strict body := by
  simp only [ofBytes_eq_ok_iff, parse_eq_ok_iff]
  constructor
  · rintro ⟨r, entries, ⟨text, v, hbody, hspells, hdepth, hcollapsed⟩, hresponse⟩
    refine ⟨text, v, hbody, hspells, hdepth, ?_⟩
    cases v with
    | null | boolean | number | string | array => cases hcollapsed
    | object raws =>
      rw [collapsed, Json.object.injEq] at hcollapsed
      rw [← exists_ofEntries_eq_ok_iff, hcollapsed]
      exact ⟨r, hresponse⟩
  · rintro ⟨text, v, hbody, hspells, hdepth, hshape⟩
    cases v with
    | null | boolean | number | string | array => cases hshape
    | object raws =>
      obtain ⟨r, hresponse⟩ := (exists_ofEntries_eq_ok_iff raws).mpr hshape
      exact ⟨r, _, ⟨text, _, hbody, hspells, hdepth, collapsed.eq_2 raws⟩, hresponse⟩

/-- The reader of responses accepts the bodies that hold one.  Where an answer is read at all, every
other body makes the call fail for a malformed response, and for nothing else. -/
theorem ofBytes_accepts (body : Bytes) :
    ((∃ r, ofBytes body = .ok r) ↔ IsBody .strict body) ∧
      ∀ answer : Answer, Status.isSuccess answer.status = true ∨ answer.status = 400 →
        answer.body? = some body →
        (IsBody .strict body → ∃ r, ofBytes body = .ok r ∧ answer.classify = .ok r) ∧
        (¬IsBody .strict body →
          ∃ fault, ofBytes body = .error fault ∧
            answer.classify = .error (.malformedResponse body fault)) := by
  have hiff := exists_ofBytes_eq_ok_iff body
  refine ⟨hiff, fun answer hstatus hbody => ?_⟩
  have hclassify : answer.classify = (ofBytes body).mapError (.malformedResponse body) := by
    rw [Answer.classify, if_pos (by simpa using hstatus), hbody]
  rw [← hiff, hclassify]
  cases ofBytes body with
  | ok r => exact ⟨fun _ => ⟨r, rfl, rfl⟩, fun h => absurd ⟨r, rfl⟩ h⟩
  | error fault => exact ⟨nofun, fun _ => ⟨fault, rfl, rfl⟩⟩

/-- An answer of status 200 whose body has null for the data and a location in an array is a
response; one of status 400 whose body has an integer below zero in a path is malformed. -/
theorem ofBytes_accepts_null_data :
    (∃ r, ({ status := 200, headers := [], body? := some (bytesOf
        "\x7b\"data\":null,\"errors\":[\x7b\"locations\":[[1,2]],\"path\":[\"a\",0]\x7d]\x7d") } :
          Answer).classify = .ok r) ∧
      ∃ fault, ({ status := 400, headers := [], body? := some (bytesOf
        "\x7b\"errors\":[\x7b\"path\":[-1]\x7d]\x7d") } : Answer).classify =
          .error (.malformedResponse (bytesOf "\x7b\"errors\":[\x7b\"path\":[-1]\x7d]\x7d")
            fault) := by
  constructor
  · obtain ⟨hiff, hanswer⟩ := ofBytes_accepts (bytesOf
      "\x7b\"data\":null,\"errors\":[\x7b\"locations\":[[1,2]],\"path\":[\"a\",0]\x7d]\x7d")
    have hbody := hiff.mp (isOk_iff.mp (by decide +kernel))
    obtain ⟨r, -, hr⟩ := (hanswer ⟨200, [], _⟩ (.inl rfl) rfl).1 hbody
    exact ⟨r, hr⟩
  · obtain ⟨hiff, hanswer⟩ := ofBytes_accepts (bytesOf "\x7b\"errors\":[\x7b\"path\":[-1]\x7d]\x7d")
    have hbody := mt hiff.mpr (mt isOk_iff.mpr (by decide +kernel))
    obtain ⟨fault, -, hfault⟩ := (hanswer ⟨400, [], _⟩ (.inr rfl) rfl).2 hbody
    exact ⟨fault, hfault⟩

/-- The escape of one half of a surrogate pair is within the grammar of texts. -/
lemma isBody_lenient_half :
    IsBody .lenient (bytesOf "\x7b\"data\":\x7b\"a\":\"\\ud800\",\"a\":null\x7d\x7d") := by
  have hpoint : SpellsPoint 0xd800 ['d', '8', '0', '0'] := ⟨rfl, rfl⟩
  have hhalf : Spells .lenient (.string "\uFFFD") ['"', '\\', 'u', 'd', '8', '0', '0', '"'] :=
    .string (.escape (.half hpoint (.inl rfl) rfl) .nil)
  have hdata := Spells.object (.more (.compact "a" hhalf) (.one (.compact "a" .nullWord)))
  have hbody := (Spells.object (.one (.compact "data" hdata))).element
  refine ⟨_, _, ?_, hbody, by decide, .object ?_ ?_⟩
  · decide +kernel
  · intro v hv
    cases hv
  · intro v hv
    cases hv

/-- Zero with a sign is an integer where the grammar of texts leaves it one. -/
lemma exists_spellsNumber_minusZero :
    ∃ n : Numeral, n.chars = ['-', '0'] ∧ SpellsNumber .lenient (.integer 0 (by decide)) n := by
  have hwhole : ∀ c ∈ ['0'], c.isDigit = true := List.forall_mem_singleton.mpr rfl
  refine ⟨⟨true, ['0'], [], none, by simp, hwhole, fun _ => rfl, by simp⟩, rfl, ?_⟩
  exact SpellsNumber.integer (i := 0) ⟨rfl, rfl, fun _ _ => rfl⟩ rfl (by decide)

/-- Zero with a sign is within the integers from 0 up to 2^64 - 1. -/
lemma isBody_lenient_minusZero :
    IsBody .lenient (bytesOf "\x7b\"errors\":[\x7b\"path\":[-0]\x7d]\x7d") := by
  obtain ⟨zero, hchars, hzero⟩ := exists_spellsNumber_minusZero
  have hnumber := Spells.number hzero
  rw [hchars] at hnumber
  have hpath := Spells.array (.one hnumber.element)
  have herror := Spells.object (.one (.compact "path" hpath))
  have herrors := Spells.array (.one herror.element)
  have hbody := (Spells.object (.one (.compact "errors" herrors))).element
  refine ⟨_, _, ?_, hbody, by decide, .object ?_ ?_⟩
  · decide +kernel
  · intro v hv
    cases hv
    refine .value (.array ?_)
    intro e he
    cases List.mem_singleton.mp he
    refine .object nofun nofun ?_ nofun
    intro v hv
    cases hv
    refine .value (.array ?_)
    intro step hstep
    cases List.mem_singleton.mp hstep
    exact .index _ (by decide) (by decide)
  · intro v hv
    cases hv

/-- The reader of responses does not accept all that the grammar of texts admits: neither half of a
surrogate pair, even where a later value takes the place of the string, nor zero with a sign as an
integer. -/
theorem not_ofBytes_accepts_lenient :
    ¬((∃ r, ofBytes (bytesOf "\x7b\"data\":\x7b\"a\":\"\\ud800\",\"a\":null\x7d\x7d") = .ok r) ↔
        IsBody .lenient (bytesOf "\x7b\"data\":\x7b\"a\":\"\\ud800\",\"a\":null\x7d\x7d")) ∧
      ¬((∃ r, ofBytes (bytesOf "\x7b\"errors\":[\x7b\"path\":[-0]\x7d]\x7d") = .ok r) ↔
        IsBody .lenient (bytesOf "\x7b\"errors\":[\x7b\"path\":[-0]\x7d]\x7d")) := by
  constructor
  · intro h
    have haccepted := h.mpr isBody_lenient_half
    exact mt isOk_iff.mpr (by decide +kernel) haccepted
  · intro h
    have haccepted := h.mpr isBody_lenient_minusZero
    exact mt isOk_iff.mpr (by decide +kernel) haccepted

end Response

end GraphqlClient
