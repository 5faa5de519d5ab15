import GraphqlClient.Proofs.Response.RoundTrip

/-!
# The normal form of a body

A response that has been read from a body is written as the normal form of the object that the body
denotes (`Response.ofBytes_normal`).  Lists and maps that are null or empty are left out, and so is
what the format of a response does not know.  A location is written with its line and its column
only.  An error keeps all its other keys, and nothing inside of what is kept is changed.
-/

namespace GraphqlClient

open Json

/-! ### Normal forms -/

/-- What is kept of an object under a key, if anything is. -/
def Entries.kept (keep : Json → Option Json) (key : String) (entries : Entries Json) :
    Entries Json :=
  (((entries.lookup key).bind keep).map fun v => (key, v)).toList

namespace Json

/-- An array with its items in normal form, unless it is empty. -/
def keepItems (normal : Json → Json) : Json → Option Json
  | .array (item :: items) => some (.array (normal item :: items.map normal))
  | _ => none

/-- An object, unless it is empty. -/
def keepEntries : Json → Option Json
  | .object (entry :: entries) => some (.object (entry :: entries))
  | _ => none

/-- Anything but null. -/
def keepPresent : Json → Option Json
  | .null => none
  | v => some v

/-- The JSON value that a body denotes.  Of the values under one key the last one counts. -/
def Denotes (body : Bytes) (v : Json) : Prop :=
  ∃ text raw, body = Utf8.encode text ∧ SpellsElement .strict raw text ∧ raw.depth ≤ 127 ∧
    raw.collapsed = v

end Json

/-- The line and the column, whether they stand in an object or in an array. -/
def Location.normal : Json → Json
  | .array [line, column] => .object [("line", line), ("column", column)]
  | .object entries =>
    .object (Entries.kept some "line" entries ++ Entries.kept some "column" entries)
  | v => v

/-- The parts of the format in their order, and then the other entries as they stand. -/
def GraphqlError.normal : Json → Json
  | .object entries => .object <|
    [("message", (entries.lookup "message").getD (.string ""))] ++
    Entries.kept (keepItems Location.normal) "locations" entries ++
    Entries.kept keepPresent "path" entries ++
    Entries.kept keepEntries "extensions" entries ++
    entries.filter fun entry => entry.1 ∉ formatKeys
  | v => v

/-- The entries of a response in their order. -/
def Response.normal (entries : Entries Json) : Entries Json :=
  Entries.kept some "data" entries ++
  Entries.kept (keepItems GraphqlError.normal) "errors" entries ++
  Entries.kept keepEntries "extensions" entries

/-! ### What is kept under a key -/

section

variable {keep : Json → Option Json} {key : String} {entries : Entries Json}

/-- Of no entry nothing is kept. -/
lemma Entries.kept_of_lookup_none (h : entries.lookup key = none) : entries.kept keep key = [] := by
  rw [kept, h]
  rfl

/-- Of an entry that is what is kept of its value. -/
lemma Entries.kept_of_lookup_some {v : Json} (h : entries.lookup key = some v) :
    entries.kept keep key = ((keep v).map fun w => (key, w)).toList := by
  rw [kept, h, Option.bind_some]

/-- What may be absent and is kept in every case stands there as it stood. -/
lemma Entries.kept_some (key : String) (entries : Entries Json) :
    entries.kept some key = entryIfPresent key (entries.lookup key) id := by
  rw [kept]
  cases entries.lookup key <;> rfl

end

/-! ### Decoders and normal forms -/

section

variable {α : Type} {decode : Json → Except ShapeError α} {toJson : α → Json} {normal : Json → Json}
  {entries : Entries Json} {key : String}

/-- Whatever is decoded from a value that repeats no key is written as the normal form of the
value. -/
def Normalizes (decode : Json → Except ShapeError α) (toJson : α → Json) (normal : Json → Json) :
    Prop :=
  ∀ {v : Json} {x : α}, v.DistinctKeys → decode v = .ok x → toJson x = normal v

/-- What is written for what comes from under a key is what is kept there, if this is so for each
value, and nothing is written for an absent one. -/
lemma Entries.kept_of_decodeOr {keep : Json → Option Json} {absent x : α} (write : α → Entries Json)
    (hdecode : entries.decodeOr decode absent key = .ok x) (habsent : write absent = [])
    (hvalue : ∀ v, (key, v) ∈ entries → decode v = .ok x → write x =
      ((keep v).map fun w => (key, w)).toList) :
    write x = entries.kept keep key := by
  -- An absent part is not written, and for one that is there it is up to the value.
  cases hlookup : entries.lookup key with
  | none =>
    rw [decodeOr_of_lookup_none hlookup] at hdecode
    cases hdecode
    rw [kept_of_lookup_none hlookup, habsent]
  | some v =>
    rw [decodeOr_of_lookup_some hlookup] at hdecode
    rw [kept_of_lookup_some hlookup]
    exact hvalue v (mem_of_lookup hlookup) hdecode

/-- A list in an array is decoded item by item. -/
lemma decodeList_array (items : List Json) :
    decodeList decode (.array items) = items.mapM decode := by
  rw [decodeList, decodeNullable_of_ne_null _ Json.noConfusion, decodeItems]
  cases items.mapM decode <;> rfl

/-- Items that are decoded are printed in their normal form. -/
lemma Normalizes.map_toJson (h : Normalizes decode toJson normal) {items : List Json} {xs : List α}
    (hkeys : ∀ item ∈ items, item.DistinctKeys) (hdecode : items.mapM decode = .ok xs) :
    xs.map toJson = items.map normal := by
  induction mapM_eq_ok_iff.mp hdecode with
  | nil => rfl
  | @cons item x items xs hitem hrest ih =>
    obtain ⟨hfirst, hothers⟩ := List.forall_mem_cons.mp hkeys
    rw [List.map_cons, List.map_cons, h hfirst hitem, ih hothers (mapM_eq_ok_iff.mpr hrest)]

/-- What is written for a list from under a key is what is kept of the array there. -/
lemma Normalizes.kept_items (h : Normalizes decode toJson normal) {xs : List α}
    (hparts : ∀ entry ∈ entries, entry.2.DistinctKeys)
    (hdecode : entries.decodeOr (decodeList decode) [] key = .ok xs) :
    entryUnlessEmpty key xs (fun xs => .array (xs.map toJson)) =
      entries.kept (keepItems normal) key := by
  apply Entries.kept_of_decodeOr
    (fun xs => entryUnlessEmpty key xs fun xs => .array (xs.map toJson)) hdecode rfl
  intro v hv hx
  cases v with
  | null =>
    cases hx
    rfl
  | boolean | number | string | object => cases hx
  | array items =>
    rw [decodeList_array] at hx
    have hmap := h.map_toJson (distinctKeys_array_iff.mp (hparts _ hv)) hx
    cases items with
    | nil =>
      obtain rfl : xs = [] := List.map_eq_nil_iff.mp hmap
      rfl
    | cons item items =>
      obtain ⟨x, xs, rfl, -, -⟩ := List.map_eq_cons_iff.mp hmap
      rw [keepItems, ← List.map_cons, ← hmap]
      rfl

/-- What is written for a list that may be null is the array, with its items in normal form. -/
lemma Normalizes.kept_nullable (h : Normalizes decode toJson id) {xs? : Option (List α)}
    (hparts : ∀ entry ∈ entries, entry.2.DistinctKeys)
    (hdecode : entries.decodeOr (decodeNullable (decodeItems decode)) none key = .ok xs?) :
    entryIfPresent key xs? (fun xs => .array (xs.map toJson)) = entries.kept keepPresent key := by
  apply Entries.kept_of_decodeOr
    (fun xs? => entryIfPresent key xs? fun xs => .array (xs.map toJson)) hdecode rfl
  intro v hv hx
  cases v with
  | null =>
    cases hx
    rfl
  | boolean | number | string | object => cases hx
  | array items =>
    rw [decodeNullable_of_ne_null _ Json.noConfusion, bind_pure_eq_ok_iff] at hx
    obtain ⟨xs, hitems, rfl⟩ := hx
    have hmap := h.map_toJson (distinctKeys_array_iff.mp (hparts _ hv)) hitems
    rw [List.map_id] at hmap
    rw [keepPresent, Option.map_some, ← hmap]
    · rfl
    · exact Json.noConfusion

/-- What is written for a map from under a key is what is kept of the object there. -/
lemma kept_map {x : Entries Json} (hdecode : entries.decodeOr decodeMap [] key = .ok x) :
    entryUnlessEmpty key x .object = entries.kept keepEntries key := by
  apply Entries.kept_of_decodeOr (fun x => entryUnlessEmpty key x .object) hdecode rfl
  intro v _ hx
  cases v with
  | null =>
    cases hx
    rfl
  | boolean | number | string | array => cases hx
  | object es =>
    cases hx
    cases es with
    | nil => rfl
    | cons entry es => rfl

end

/-! ### Parts of errors -/

/-- An integer that has been decoded is written as it was. -/
lemma ofWord_of_decodeWord32 {v : Json} {n : UInt32} (h : decodeWord32 v = .ok n) :
    ofWord n.toUInt64 = v := by
  cases v with
  | null | boolean | string | array | object => cases h
  | number m =>
    cases m with
    | real x => cases h
    | integer m range =>
      have hsize : UInt32.size = 2 ^ 32 := rfl
      rw [decodeWord32] at h
      split at h
      · next hbounds =>
        cases h
        simp only [Bool.and_eq_true, decide_eq_true_eq] at hbounds
        have hword : m.toNat < 2 ^ 32 := by omega
        have hvalue : ((m.toNat.toUInt32.toUInt64.toNat : Nat) : Int) = m := by
          rw [UInt32.toNat_toUInt64, Nat.toUInt32, UInt32.toNat_ofNat_of_lt' hword]
          omega
        simp only [ofWord, hvalue]
      · cases h

/-- A step of a path is its own normal form. -/
lemma PathElement.normalizes : Normalizes PathElement.decode PathElement.toJson id := by
  intro v step _ h
  cases v with
  | null | boolean | array | object => cases h
  | string name =>
    cases h
    rfl
  | number m =>
    cases m with
    | real x => cases h
    | integer m range =>
      rw [PathElement.decode] at h
      split at h
      · next hlower =>
        cases h
        have hword : m.toNat < 2 ^ 64 := by omega
        have hvalue : ((m.toNat.toUInt64.toNat : Nat) : Int) = m := by
          rw [Nat.toUInt64, UInt64.toNat_ofNat_of_lt' hword]
          omega
        simp only [toJson, ofWord, hvalue, id_eq]
      · cases h

/-- A location that is decoded is printed in its normal form. -/
lemma Location.normalizes : Normalizes Location.decode Location.toJson Location.normal := by
  intro v l hkeys h
  cases v with
  | null | boolean | number | string => cases h
  | object entries =>
    obtain ⟨hnodup, -⟩ := distinctKeys_object_iff.mp hkeys
    obtain ⟨⟨line, hline, hlineWord⟩, column, hcolumn, hcolumnWord⟩ :=
      (decode_object_eq_ok_iff hnodup).mp h
    rw [Location.toJson, ofWord_of_decodeWord32 hlineWord, ofWord_of_decodeWord32 hcolumnWord,
      Location.normal, Entries.kept_of_lookup_some hline, Entries.kept_of_lookup_some hcolumn]
    rfl
  | array items =>
    obtain ⟨line, column, rfl, hlineWord, hcolumnWord⟩ := decode_array_eq_ok_iff.mp h
    rw [Location.toJson, ofWord_of_decodeWord32 hlineWord, ofWord_of_decodeWord32 hcolumnWord,
      Location.normal]

/-! ### Errors -/

/-- The message of an error is that of its entries, or empty if there is none. -/
lemma GraphqlError.message_of_decoded {entries : Entries Json} {e : GraphqlError}
    (h : Decoded entries e) :
    Json.string e.message = (entries.lookup "message").getD (.string "") := by
  have hmessage := h.message
  cases hlookup : entries.lookup "message" with
  | none =>
    rw [Entries.decodeOr_of_lookup_none hlookup] at hmessage
    rw [← Except.ok.inj hmessage]
    rfl
  | some v =>
    rw [Entries.decodeOr_of_lookup_some hlookup] at hmessage
    cases v with
    | null | boolean | number | array | object => cases hmessage
    | string s =>
      rw [← Except.ok.inj hmessage]
      rfl

/-- An error that is decoded is printed in its normal form. -/
lemma GraphqlError.normalizes :
    Normalizes GraphqlError.decode GraphqlError.toJson GraphqlError.normal := by
  intro v e hkeys h
  cases v with
  | null | boolean | number | string | array => cases h
  | object entries =>
    obtain ⟨hnodup, hparts⟩ := distinctKeys_object_iff.mp hkeys
    have hdecoded := (decode_object_eq_ok_iff hnodup).mp h
    rw [toJson_eq, formatEntries, GraphqlError.normal, message_of_decoded hdecoded,
      Location.normalizes.kept_items hparts hdecoded.locations,
      PathElement.normalizes.kept_nullable hparts hdecoded.path, kept_map hdecoded.extensions,
      hdecoded.other]

/-! ### Responses -/

namespace Response

/-- A response that is made of the entries of an object is written as the normal form of the
object. -/
lemma toJson_of_ofEntries {entries : Entries Json} {r : Response}
    (hkeys : (Json.object entries).DistinctKeys) (h : ofEntries entries = .ok r) :
    r.toJson = .object (normal entries) := by
  obtain ⟨hnodup, hparts⟩ := distinctKeys_object_iff.mp hkeys
  have hdecoded := (ofEntries_eq_ok_iff hnodup).mp h
  rw [toJson_eq, Response.entries, Response.normal, hdecoded.data, ← Entries.kept_some,
    GraphqlError.normalizes.kept_items hparts hdecoded.errors, kept_map hdecoded.extensions]

/-- A value that has been parsed repeats no key and nests no deeper than is allowed. -/
lemma fitsIn_of_parse {body : Bytes} {v : Json} (h : Json.parse body = .ok v) : FitsIn 127 v := by
  obtain ⟨-, raw, -, -, hdepth, rfl⟩ := parse_eq_ok_iff.mp h
  exact ⟨distinctKeys_collapsed raw, (depth_collapsed_le raw).trans hdepth⟩

/-- A body that can be parsed denotes one value. -/
lemma denotes_iff_of_parse {body : Bytes} {v : Json} (h : Json.parse body = .ok v) (w : Json) :
    Denotes body w ↔ w = v := by
  have hdenotes : Denotes body w ↔ Json.parse body = .ok w := parse_eq_ok_iff.symm
  rw [hdenotes, h, Except.ok.injEq]
  exact eq_comm

/-- The body of a response denotes an object, and the text that is written for the response denotes
the normal form of this object. -/
theorem ofBytes_normal (body : Bytes) (r : Response) (h : ofBytes body = .ok r) :
    ∃ entries, (∀ v, Denotes body v ↔ v = .object entries) ∧ r.toJson = .object (normal entries) ∧
      ∀ v, Denotes (bytesOf r.toJson.text) v ↔ v = .object (normal entries) := by
  obtain ⟨entries, hparse, hentries⟩ := ofBytes_eq_ok_iff.mp h
  have hfits := fitsIn_of_parse hparse
  have hjson := toJson_of_ofEntries hfits.keys hentries
  obtain ⟨hwritten, -, -⟩ := fitsIn_of_ofEntries hfits hentries
  have hback := parse_text hwritten.keys hwritten.depth
  exact ⟨entries, denotes_iff_of_parse hparse, hjson, hjson ▸ denotes_iff_of_parse hback⟩

/-! ### A body with repeated keys -/

/-- A body whose data is given twice, with an error that has all keys of the format but a message,
and two of its own. -/
def repetitiveBody : Bytes := bytesOf <|
  "\x7b\"data\":0,\"errors\":[\x7b\"type\":\"A\",\"path\":[1,\"1\"],\"code\":[null]," ++
    "\"locations\":[[1,2],\x7b\"column\":4,\"line\":3,\"file\":\"f\"\x7d]," ++
    "\"extensions\":\x7b\x7d\x7d," ++
    "\x7b\"path\":null\x7d],\"extensions\":null,\"data\":null,\"hint\":1\x7d"

/-- Of the data the last value stays, a location in an array becomes an object, the own keys of the
error come last and in their order, and what is null, empty or unknown goes. -/
theorem ofBytes_normal_repetitiveBody :
    ∃ r entries, ofBytes repetitiveBody = .ok r ∧ Denotes repetitiveBody (.object entries) ∧
      r.toJson = .object (normal entries) ∧
      r.toJson.text =
        "\x7b\"data\":null,\"errors\":[\x7b\"message\":\"\"," ++
          "\"locations\":[\x7b\"line\":1,\"column\":2\x7d," ++
          "\x7b\"line\":3,\"column\":4\x7d],\"path\":[1,\"1\"]," ++
          "\"type\":\"A\",\"code\":[null]\x7d," ++
          "\x7b\"message\":\"\"\x7d]\x7d" := by
  have htext : (ofBytes repetitiveBody).toOption.map (fun r => r.toJson.text) = some
      ("\x7b\"data\":null,\"errors\":[\x7b\"message\":\"\"," ++
        "\"locations\":[\x7b\"line\":1,\"column\":2\x7d," ++
        "\x7b\"line\":3,\"column\":4\x7d],\"path\":[1,\"1\"]," ++
        "\"type\":\"A\",\"code\":[null]\x7d," ++
        "\x7b\"message\":\"\"\x7d]\x7d") := by
    decide +kernel
  cases hr : ofBytes repetitiveBody with
  | error fault =>
    rw [hr] at htext
    cases htext
  | ok r =>
    obtain ⟨entries, hdenotes, hnormal, -⟩ := ofBytes_normal repetitiveBody r hr
    rw [hr] at htext
    exact ⟨r, entries, rfl, (hdenotes _).mpr rfl, hnormal, Option.some.inj htext⟩

end Response

end GraphqlClient
