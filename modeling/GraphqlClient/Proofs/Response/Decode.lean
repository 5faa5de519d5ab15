import GraphqlClient.Proofs.Entries
import GraphqlClient.Proofs.Outcome
import GraphqlClient.Response.Decode

/-!
# What is decoded from an object

A response, an error and a location are each gathered from the entries of an object one after the
other.  Their parts do not depend on each other: each is gathered as if there were no other.  Where
no key is repeated, a part is what is decoded from under its own key, wherever that stands.
-/

namespace GraphqlClient

open Json

/-! ### Values under keys -/

section

variable {β : Type} {decode : Json → Except ShapeError β} {absent x : β} {entries : Entries Json}
    {key : String}

/-- What is decoded from under a key, or what stands for the absence of the key. -/
def Entries.decodeOr (decode : Json → Except ShapeError β) (absent : β) (key : String)
    (entries : Entries Json) :
    Except ShapeError β :=
  match entries.lookup key with
  | none => .ok absent
  | some v => decode v

/-- A part without an entry is what an absent one stands for. -/
lemma Entries.decodeOr_of_lookup_none (h : entries.lookup key = none) :
    entries.decodeOr decode absent key = .ok absent := by
  rw [decodeOr, h]

/-- A part with an entry is decoded from it. -/
lemma Entries.decodeOr_of_lookup_some {v : Json} (h : entries.lookup key = some v) :
    entries.decodeOr decode absent key = decode v := by
  rw [decodeOr, h]

/-- Something is decoded from under a key exactly if it can be decoded from the value there, if
there is one. -/
lemma Entries.exists_decodeOr_eq_ok_iff :
    (∃ x, entries.decodeOr decode absent key = .ok x) ↔ ∀ v, entries.lookup key = some v →
    ∃ x, decode v = .ok x := by
  cases hlookup : entries.lookup key with
  | none =>
    rw [decodeOr_of_lookup_none hlookup]
    exact ⟨fun _ => nofun, fun _ => ⟨absent, rfl⟩⟩
  | some v =>
    rw [decodeOr_of_lookup_some hlookup]
    simp

/-- What a part comes to with one more entry: what is decoded from the entry, if it stands under the
key of the part. -/
def replace (decode : Json → Except ShapeError β) (key : String) (old : β) (entry : String × Json) :
    Except ShapeError β :=
  if entry.1 = key then decode entry.2 else .ok old

/-- An entry with the key replaces what was there. -/
lemma replace_self (old : β) (v : Json) : replace decode key old (key, v) = decode v := if_pos rfl

/-- An entry with another key changes nothing. -/
lemma replace_of_ne {entry : String × Json} (h : entry.1 ≠ key) (old : β) :
    replace decode key old entry = .ok old := if_neg h

/-- Entries without the key change nothing. -/
lemma foldlM_replace_of_not_mem (h : key ∉ entries.keys) (old : β) :
    entries.foldlM (replace decode key) old = .ok old := by
  induction entries with
  | nil => rfl
  | cons entry entries ih =>
    rw [Entries.keys_cons, List.mem_cons, not_or] at h
    obtain ⟨hne, hrest⟩ := h
    rw [List.foldlM_cons, replace_of_ne (Ne.symm hne)]
    exact ih hrest

/-- Where no key is repeated, a part comes to what is decoded from under its key. -/
lemma foldlM_replace (hkeys : entries.keys.Nodup) (old : β) :
    entries.foldlM (replace decode key) old = entries.decodeOr decode old key := by
  induction entries with
  | nil => rfl
  | cons entry entries ih =>
    obtain ⟨k, v⟩ := entry
    obtain ⟨hfresh, hrest⟩ := List.nodup_cons.mp hkeys
    rw [List.foldlM_cons]
    by_cases hk : k = key
    · subst hk
      rw [replace_self, Entries.decodeOr_of_lookup_some List.lookup_cons_self,
        funext (foldlM_replace_of_not_mem hfresh)]
      exact bind_pure (decode v)
    · have hlookup : List.lookup key ((k, v) :: entries) = entries.lookup key := by
        rw [List.lookup_cons, beq_false_of_ne (Ne.symm hk)]
      rw [replace_of_ne hk, Entries.decodeOr, hlookup]
      exact ih hrest

end

/-! ### Lists and maps that may be null -/

namespace Json

/-- What is not null is decoded as if null were not allowed. -/
lemma decodeNullable_of_ne_null {α : Type} (decode : Json → Except ShapeError α) {v : Json}
    (h : v ≠ .null) :
    decodeNullable decode v = decode v >>= fun x => pure (some x) := by
  cases v with
  | null => exact absurd rfl h
  | boolean | number | string | array | object => rfl

/-- A list, for which null stands if it is empty. -/
def decodeList {α : Type} (decode : Json → Except ShapeError α) (v : Json) :
    Except ShapeError (List α) :=
  do
  return (← decodeNullable (decodeItems decode) v).getD []

/-- An object, for which null stands if it is empty. -/
def decodeMap (v : Json) : Except ShapeError (Entries Json) := do
  return (← decodeNullable decodeEntries v).getD []

end Json

/-! ### Locations -/

namespace Location

/-- An integer that has been found. -/
def decodePart (v : Json) : Except ShapeError (Option UInt32) := do
  return some (← decodeWord32 v)

/-- An entry of a location is taken for the part that it is. -/
lemma add_eq_ok_iff {fields fields' : Fields} {entry : String × Json} :
    fields.add entry = .ok fields' ↔
      replace decodePart "line" fields.line? entry = .ok fields'.line? ∧
        replace decodePart "column" fields.column? entry = .ok fields'.column? := by
  obtain ⟨key, v⟩ := entry
  obtain ⟨line?, column?⟩ := fields
  obtain ⟨line'?, column'?⟩ := fields'
  by_cases hline : key = "line"
  · subst hline
    have hadd : Fields.add ⟨line?, column?⟩ ("line", v) =
      do return ⟨some (← decodeWord32 v), column?⟩ := rfl
    rw [hadd, replace_self, decodePart, replace_of_ne (by simp), bind_pure_eq_ok_iff,
      bind_pure_eq_ok_iff]
    grind
  by_cases hcolumn : key = "column"
  · subst hcolumn
    have hadd : Fields.add ⟨line?, column?⟩ ("column", v) =
      do return ⟨line?, some (← decodeWord32 v)⟩ := rfl
    rw [hadd, replace_self, decodePart, replace_of_ne (by simp), bind_pure_eq_ok_iff,
      bind_pure_eq_ok_iff]
    grind
  have hadd : Fields.add ⟨line?, column?⟩ (key, v) = .ok ⟨line?, column?⟩ := by
    unfold Fields.add
    split
    · next heq => exact absurd (congrArg Prod.fst heq) hline
    · next heq => exact absurd (congrArg Prod.fst heq) hcolumn
    · rfl
  rw [hadd, replace_of_ne hline, replace_of_ne hcolumn]
  simp

/-- The line and the column of a location are gathered independently of each other. -/
lemma foldlM_add_eq_ok_iff {entries : Entries Json} {fields fields' : Fields} :
    entries.foldlM Fields.add fields = .ok fields' ↔
      entries.foldlM (replace decodePart "line") fields.line? = .ok fields'.line? ∧
        entries.foldlM (replace decodePart "column") fields.column? = .ok fields'.column? := by
  induction entries generalizing fields with
  | nil =>
    cases fields
    cases fields'
    simp [List.foldlM_nil, pure, Except.pure]
  | cons entry entries ih =>
    simp only [List.foldlM_cons, bind_eq_ok_iff, ih, add_eq_ok_iff]
    constructor
    · rintro ⟨next, ⟨hline, hcolumn⟩, hlines, hcolumns⟩
      exact ⟨⟨_, hline, hlines⟩, _, hcolumn, hcolumns⟩
    · rintro ⟨⟨line?, hline, hlines⟩, column?, hcolumn, hcolumns⟩
      exact ⟨⟨line?, column?⟩, ⟨hline, hcolumn⟩, hlines, hcolumns⟩

/-- A location is complete exactly if its line and its column are known. -/
lemma location_eq_ok_iff {fields : Fields} {l : Location} :
    fields.location = .ok l ↔ fields.line? = some l.line ∧ fields.column? = some l.column := by
  obtain ⟨line?, column?⟩ := fields
  cases line? with
  | none => exact ⟨nofun, nofun⟩
  | some line =>
    cases column? with
    | none => exact ⟨nofun, nofun⟩
    | some column =>
      cases l
      simp [Fields.location]

/-- A part of a location is known exactly if its entry is a number that fits. -/
lemma decodeOr_decodePart_eq_ok_iff {entries : Entries Json} {key : String} {n : UInt32} :
    entries.decodeOr decodePart none key = .ok (some n) ↔
      ∃ v, entries.lookup key = some v ∧ decodeWord32 v = .ok n := by
  cases hlookup : entries.lookup key with
  | none =>
    rw [Entries.decodeOr_of_lookup_none hlookup]
    simp
  | some v =>
    rw [Entries.decodeOr_of_lookup_some hlookup, decodePart, bind_pure_eq_ok_iff]
    simp

/-- A location that is decoded from an object has the line and the column that stand under these
keys. -/
lemma decode_object_eq_ok_iff {entries : Entries Json} {l : Location} (hkeys : entries.keys.Nodup) :
    decode (.object entries) = .ok l ↔
      (∃ v, entries.lookup "line" = some v ∧ decodeWord32 v = .ok l.line) ∧
        ∃ v, entries.lookup "column" = some v ∧ decodeWord32 v = .ok l.column := by
  have hdecode : decode (.object entries) =
      entries.foldlM Fields.add { line? := none, column? := none } >>= Fields.location := rfl
  rw [hdecode, bind_eq_ok_iff, ← decodeOr_decodePart_eq_ok_iff, ← decodeOr_decodePart_eq_ok_iff]
  simp only [foldlM_add_eq_ok_iff, location_eq_ok_iff, foldlM_replace hkeys]
  constructor
  · rintro ⟨fields, ⟨hline, hcolumn⟩, hline?, hcolumn?⟩
    exact ⟨hline? ▸ hline, hcolumn? ▸ hcolumn⟩
  · rintro ⟨hline, hcolumn⟩
    exact ⟨⟨some l.line, some l.column⟩, ⟨hline, hcolumn⟩, rfl, rfl⟩

/-- An array is a location exactly if it consists of the line and the column. -/
lemma decode_array_eq_ok_iff {items : List Json} {l : Location} :
    decode (.array items) = .ok l ↔
      ∃ line column, items = [line, column] ∧ decodeWord32 line = .ok l.line ∧
        decodeWord32 column = .ok l.column := by
  cases items with
  | nil => exact ⟨nofun, nofun⟩
  | cons line items =>
    simp only [decode, bind_eq_ok_iff]
    cases items with
    | nil =>
      refine ⟨nofun, ?_⟩
      rintro ⟨_, _, heq, -⟩
      cases heq
    | cons column more =>
      simp only [bind_eq_ok_iff]
      cases more with
      | nil =>
        constructor
        · rintro ⟨n, hn, m, hm, h⟩
          cases h
          exact ⟨line, column, rfl, hn, hm⟩
        · rintro ⟨_, _, heq, hn, hm⟩
          cases heq
          exact ⟨_, hn, _, hm, rfl⟩
      | cons next more =>
        constructor
        · rintro ⟨n, hn, m, hm, h⟩
          cases h
        · rintro ⟨_, _, heq, -⟩
          cases heq

end Location

/-! ### Errors -/

namespace GraphqlError

/-- The keys that the format of errors knows. -/
def formatKeys : List String := ["message", "locations", "path", "extensions"]

/-- What the other keys come to with one more entry. -/
def keepOther (other : Entries Json) (entry : String × Json) : Entries Json :=
  if entry.1 ∈ formatKeys then other else other.insert entry.1 entry.2

/-- A key of the format is kept in no other place. -/
lemma keepOther_of_mem {entry : String × Json} (h : entry.1 ∈ formatKeys) (other : Entries Json) :
    keepOther other entry = other := if_pos h

/-- An entry of an error is taken for the part that it is. -/
lemma addEntry_eq_ok_iff {e e' : GraphqlError} {entry : String × Json} :
    e.addEntry entry = .ok e' ↔
      replace decodeText "message" e.message entry = .ok e'.message ∧
        replace (decodeList Location.decode) "locations" e.locations entry = .ok e'.locations ∧
        replace (decodeNullable (decodeItems PathElement.decode)) "path" e.path? entry =
          .ok e'.path? ∧
        replace decodeMap "extensions" e.extensions entry = .ok e'.extensions ∧
        e'.other = keepOther e.other entry := by
  obtain ⟨key, v⟩ := entry
  obtain ⟨message, locations, path?, extensions, other⟩ := e
  obtain ⟨message', locations', path'?, extensions', other'⟩ := e'
  -- The key decides which part the entry is for; all other parts stay as they are.
  by_cases hmessage : key = "message"
  · subst hmessage
    have hadd : addEntry ⟨message, locations, path?, extensions, other⟩ ("message", v) =
        do return ⟨← decodeText v, locations, path?, extensions, other⟩ := rfl
    rw [hadd, bind_pure_eq_ok_iff, replace_self, replace_of_ne (by simp), replace_of_ne (by simp),
      replace_of_ne (by simp), keepOther_of_mem (by simp [formatKeys])]
    grind
  by_cases hlocations : key = "locations"
  · subst hlocations
    have hadd : addEntry ⟨message, locations, path?, extensions, other⟩ ("locations", v) =
        decodeList Location.decode v >>= fun ls =>
          pure ⟨message, ls, path?, extensions, other⟩ := by
      simp only [addEntry, decodeList]
      cases decodeNullable (decodeItems Location.decode) v <;> rfl
    rw [hadd, bind_pure_eq_ok_iff, replace_self, replace_of_ne (by simp), replace_of_ne (by simp),
      replace_of_ne (by simp), keepOther_of_mem (by simp [formatKeys])]
    grind
  by_cases hpath : key = "path"
  · subst hpath
    have hadd : addEntry ⟨message, locations, path?, extensions, other⟩ ("path", v) =
        do return ⟨message, locations, ← decodeNullable (decodeItems PathElement.decode) v,
          extensions, other⟩ := rfl
    rw [hadd, bind_pure_eq_ok_iff, replace_self, replace_of_ne (by simp), replace_of_ne (by simp),
      replace_of_ne (by simp), keepOther_of_mem (by simp [formatKeys])]
    grind
  by_cases hextensions : key = "extensions"
  · subst hextensions
    have hadd : addEntry ⟨message, locations, path?, extensions, other⟩ ("extensions", v) =
        decodeMap v >>= fun entries => pure ⟨message, locations, path?, entries, other⟩ := by
      simp only [addEntry, decodeMap]
      cases decodeNullable decodeEntries v <;> rfl
    rw [hadd, bind_pure_eq_ok_iff, replace_self, replace_of_ne (by simp), replace_of_ne (by simp),
      replace_of_ne (by simp), keepOther_of_mem (by simp [formatKeys])]
    grind
  have hadd : addEntry ⟨message, locations, path?, extensions, other⟩ (key, v) =
      .ok ⟨message, locations, path?, extensions, other.insert key v⟩ := by
    unfold addEntry
    split
    · next heq => exact absurd (congrArg Prod.fst heq) hmessage
    · next heq => exact absurd (congrArg Prod.fst heq) hlocations
    · next heq => exact absurd (congrArg Prod.fst heq) hpath
    · next heq => exact absurd (congrArg Prod.fst heq) hextensions
    · next heq =>
      cases heq
      rfl
  rw [hadd]
  simp [replace, keepOther, formatKeys, hmessage, hlocations, hpath, hextensions, eq_comm]

/-- The parts of an error are gathered independently of each other. -/
lemma foldlM_addEntry_eq_ok_iff {entries : Entries Json} {e e' : GraphqlError} :
    entries.foldlM addEntry e = .ok e' ↔
      entries.foldlM (replace decodeText "message") e.message = .ok e'.message ∧
        entries.foldlM (replace (decodeList Location.decode) "locations") e.locations =
          .ok e'.locations ∧
        entries.foldlM (replace (decodeNullable (decodeItems PathElement.decode)) "path") e.path? =
          .ok e'.path? ∧
        entries.foldlM (replace decodeMap "extensions") e.extensions = .ok e'.extensions ∧
        e'.other = entries.foldl keepOther e.other := by
  induction entries generalizing e with
  | nil =>
    cases e
    cases e'
    simp [List.foldlM_nil, pure, Except.pure, eq_comm]
  | cons entry entries ih =>
    simp only [List.foldlM_cons, List.foldl_cons, bind_eq_ok_iff, ih, addEntry_eq_ok_iff]
    constructor
    · rintro ⟨next, ⟨hm, hl, hp, hx, ho⟩, hms, hls, hps, hxs, hos⟩
      exact ⟨⟨_, hm, hms⟩, ⟨_, hl, hls⟩, ⟨_, hp, hps⟩, ⟨_, hx, hxs⟩, ho ▸ hos⟩
    · rintro ⟨⟨m, hm, hms⟩, ⟨ls, hl, hls⟩, ⟨p?, hp, hps⟩, ⟨x, hx, hxs⟩, hos⟩
      exact ⟨⟨m, ls, p?, x, keepOther e.other entry⟩, ⟨hm, hl, hp, hx, rfl⟩,
        hms, hls, hps, hxs, hos⟩

/-- Where no key is repeated, all other entries are kept as they stand. -/
lemma foldl_keepOther {entries : Entries Json} (hkeys : entries.keys.Nodup) :
    entries.foldl keepOther [] = entries.filter fun entry => entry.1 ∉ formatKeys := by
  have hsome : (Entries.keys (entries.filter fun entry => entry.1 ∉ formatKeys)).Nodup :=
    hkeys.sublist (List.filter_sublist.map Prod.fst)
  rw [← Entries.merge_eq_self hsome, Entries.merge, List.foldl_filter]
  congr 1
  funext other entry
  by_cases h : entry.1 ∈ formatKeys <;> simp [keepOther, h]

/-- The error with the parts that stand in an object, and the other entries as they are. -/
structure Decoded (entries : Entries Json) (e : GraphqlError) : Prop where
  message : entries.decodeOr decodeText "" "message" = .ok e.message
  locations : entries.decodeOr (decodeList Location.decode) [] "locations" = .ok e.locations
  path : entries.decodeOr (decodeNullable (decodeItems PathElement.decode)) none "path" =
    .ok e.path?
  extensions : entries.decodeOr decodeMap [] "extensions" = .ok e.extensions
  other : e.other = entries.filter fun entry => entry.1 ∉ formatKeys

/-- An object without repeated keys is decoded as an error exactly if its entries are. -/
theorem decode_object_eq_ok_iff {entries : Entries Json} {e : GraphqlError}
    (hkeys : entries.keys.Nodup) :
    decode (.object entries) = .ok e ↔ Decoded entries e := by
  have hdecode : decode (.object entries) = entries.foldlM addEntry (ofMessage "") := rfl
  rw [hdecode, foldlM_addEntry_eq_ok_iff, foldlM_replace hkeys, foldlM_replace hkeys,
    foldlM_replace hkeys, foldlM_replace hkeys]
  constructor
  · rintro ⟨hm, hl, hp, hx, ho⟩
    exact ⟨hm, hl, hp, hx, ho.trans (foldl_keepOther hkeys)⟩
  · rintro ⟨hm, hl, hp, hx, ho⟩
    exact ⟨hm, hl, hp, hx, ho.trans (foldl_keepOther hkeys).symm⟩

end GraphqlError

/-! ### Responses -/

namespace Response

/-- An entry of a response is taken for the part that it is. -/
lemma addEntry_eq_ok_iff {r r' : Response} {entry : String × Json} :
    r.addEntry entry = .ok r' ↔
      replace (fun v => .ok (some v)) "data" r.data? entry = .ok r'.data? ∧
        replace (decodeList GraphqlError.decode) "errors" r.errors entry = .ok r'.errors ∧
        replace decodeMap "extensions" r.extensions entry = .ok r'.extensions := by
  obtain ⟨key, v⟩ := entry
  obtain ⟨data?, errors, extensions⟩ := r
  obtain ⟨data'?, errors', extensions'⟩ := r'
  by_cases hdata : key = "data"
  · subst hdata
    have hadd : addEntry ⟨data?, errors, extensions⟩ ("data", v) =
      .ok ⟨some v, errors, extensions⟩ := rfl
    rw [hadd, replace_self, replace_of_ne (by simp), replace_of_ne (by simp)]
    grind
  by_cases herrors : key = "errors"
  · subst herrors
    have hadd : addEntry ⟨data?, errors, extensions⟩ ("errors", v) =
        decodeList GraphqlError.decode v >>= fun es => pure ⟨data?, es, extensions⟩ := by
      simp only [addEntry, decodeList]
      cases decodeNullable (decodeItems GraphqlError.decode) v <;> rfl
    rw [hadd, bind_pure_eq_ok_iff, replace_self, replace_of_ne (by simp), replace_of_ne (by simp)]
    grind
  by_cases hextensions : key = "extensions"
  · subst hextensions
    have hadd : addEntry ⟨data?, errors, extensions⟩ ("extensions", v) =
        decodeMap v >>= fun entries => pure ⟨data?, errors, entries⟩ := by
      simp only [addEntry, decodeMap]
      cases decodeNullable decodeEntries v <;> rfl
    rw [hadd, bind_pure_eq_ok_iff, replace_self, replace_of_ne (by simp), replace_of_ne (by simp)]
    grind
  have hadd : addEntry ⟨data?, errors, extensions⟩ (key, v) = .ok ⟨data?, errors, extensions⟩ := by
    unfold addEntry
    split
    · next heq => exact absurd (congrArg Prod.fst heq) hdata
    · next heq => exact absurd (congrArg Prod.fst heq) herrors
    · next heq => exact absurd (congrArg Prod.fst heq) hextensions
    · rfl
  rw [hadd, replace_of_ne hdata, replace_of_ne herrors, replace_of_ne hextensions]
  simp

/-- The parts of a response are gathered independently of each other. -/
lemma foldlM_addEntry_eq_ok_iff {entries : Entries Json} {r r' : Response} :
    entries.foldlM addEntry r = .ok r' ↔
      entries.foldlM (replace (fun v => .ok (some v)) "data") r.data? = .ok r'.data? ∧
        entries.foldlM (replace (decodeList GraphqlError.decode) "errors") r.errors =
          .ok r'.errors ∧
        entries.foldlM (replace decodeMap "extensions") r.extensions = .ok r'.extensions := by
  induction entries generalizing r with
  | nil =>
    cases r
    cases r'
    simp [List.foldlM_nil, pure, Except.pure]
  | cons entry entries ih =>
    simp only [List.foldlM_cons, bind_eq_ok_iff, ih, addEntry_eq_ok_iff]
    constructor
    · rintro ⟨next, ⟨hd, he, hx⟩, hds, hes, hxs⟩
      exact ⟨⟨_, hd, hds⟩, ⟨_, he, hes⟩, _, hx, hxs⟩
    · rintro ⟨⟨d?, hd, hds⟩, ⟨es, he, hes⟩, x, hx, hxs⟩
      exact ⟨⟨d?, es, x⟩, ⟨hd, he, hx⟩, hds, hes, hxs⟩

/-- The response with the parts that stand in an object. -/
structure Decoded (entries : Entries Json) (r : Response) : Prop where
  data : r.data? = entries.lookup "data"
  errors : entries.decodeOr (decodeList GraphqlError.decode) [] "errors" = .ok r.errors
  extensions : entries.decodeOr decodeMap [] "extensions" = .ok r.extensions

/-- Entries without repeated keys make a response exactly if each part is decoded. -/
theorem ofEntries_eq_ok_iff {entries : Entries Json} {r : Response} (hkeys : entries.keys.Nodup) :
    ofEntries entries = .ok r ↔ Decoded entries r := by
  have hdata : entries.decodeOr (fun v => .ok (some v)) none "data" =
      .ok (entries.lookup "data") := by
    unfold Entries.decodeOr
    cases entries.lookup "data" <;> rfl
  rw [ofEntries, foldlM_addEntry_eq_ok_iff, foldlM_replace hkeys, foldlM_replace hkeys,
    foldlM_replace hkeys, empty, hdata, Except.ok.injEq]
  constructor
  · rintro ⟨hd, he, hx⟩
    exact ⟨hd.symm, he, hx⟩
  · rintro ⟨hd, he, hx⟩
    exact ⟨hd.symm, he, hx⟩

end Response

end GraphqlClient
