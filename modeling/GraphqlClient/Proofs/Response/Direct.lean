import GraphqlClient.Proofs.Response.Parts
import GraphqlClient.Proofs.Response.Shape
import Mathlib

/-!
# Responses that are read straight from a text

A response can be read in two ways: by reading a text as a value and decoding that, or straight from
the text.  If both give a response, it is the same, and they differ only where a key is repeated
(`Response.parse_agrees`).
-/

namespace GraphqlClient

open Json

/-! ### Locations -/

namespace Location

variable {depth : Nat}

/-- Each member counts for the part whose key it has, and any other is passed over. -/
lemma gatherPart_field_eq_ok_iff {fields fields' : Fields} {part : String × Located × Json}
    (h : IsPart depth part) :
    gatherPart field fields part = .ok fields' ↔
      takeOnce Located.readWord32 "line" fields.line? part = .ok fields'.line? ∧
        takeOnce Located.readWord32 "column" fields.column? part = .ok fields'.column? := by
  obtain ⟨key, v⟩ := part
  obtain ⟨line?, column?⟩ := fields
  obtain ⟨line'?, column'?⟩ := fields'
  by_cases hline : key = "line"
  · subst hline
    have hfield : field ⟨line?, column?⟩ "line" =
        once "line" line? Located.readWord32 fun n => ⟨some n, column?⟩ := rfl
    rw [gatherPart_once_eq_ok_iff hfield, takeOnce_self_eq_ok_iff, takeOnce_of_ne (by simp)]
    grind
  by_cases hcolumn : key = "column"
  · subst hcolumn
    have hfield : field ⟨line?, column?⟩ "column" =
        once "column" column? Located.readWord32 fun n => ⟨line?, some n⟩ := rfl
    rw [gatherPart_once_eq_ok_iff hfield, takeOnce_self_eq_ok_iff, takeOnce_of_ne (by simp)]
    grind
  have hskip : gatherPart field ⟨line?, column?⟩ (key, v) = .ok ⟨line?, column?⟩ := by
    rw [gatherPart, field, if_neg hline, if_neg hcolumn]
    dsimp only
    rw [Located.skip_of_raw h.2]
    rfl
  rw [hskip, takeOnce_of_ne hline, takeOnce_of_ne hcolumn]
  simp

/-- The parts of a location are gathered exactly if its line and its column are taken once. -/
lemma foldlM_gatherPart_eq_ok_iff {parts : Entries (Located × Json)}
    (h : ∀ part ∈ parts, IsPart depth part) {fields fields' : Fields} :
    parts.foldlM (gatherPart field) fields = .ok fields' ↔
      parts.foldlM (takeOnce Located.readWord32 "line") fields.line? = .ok fields'.line? ∧
        parts.foldlM (takeOnce Located.readWord32 "column") fields.column? =
          .ok fields'.column? := by
  induction parts generalizing fields with
  | nil =>
    cases fields
    cases fields'
    simp [List.foldlM_nil, pure, Except.pure]
  | cons part parts ih =>
    obtain ⟨hpart, hparts⟩ := List.forall_mem_cons.mp h
    simp only [List.foldlM_cons, bind_eq_ok_iff, ih hparts, gatherPart_field_eq_ok_iff hpart]
    constructor
    · rintro ⟨next, ⟨hline, hcolumn⟩, hlines, hcolumns⟩
      exact ⟨⟨_, hline, hlines⟩, _, hcolumn, hcolumns⟩
    · rintro ⟨⟨line?, hline, hlines⟩, column?, hcolumn, hcolumns⟩
      exact ⟨⟨line?, column?⟩, ⟨hline, hcolumn⟩, hlines, hcolumns⟩

/-- A location is gathered from the members of an object. -/
lemma yields_gather {members : Members} {raws : Entries Json} {l : Location}
    (hcloses : members.Closes) (hraws : Located.memberRaws depth members = .ok raws)
    (hdecode : decode (Json.object raws).collapsed = .ok l) :
    Yields (members.gather field { line? := none, column? := none }) (Json.object raws).DistinctKeys
      fun fields => fields.location = .ok l := by
  obtain ⟨parts, rfl, hparts, hgather⟩ := exists_parts hcloses hraws
  rw [collapsed, decode_object_eq_ok_iff (Entries.nodup_keys_merge _),
    ← decodeOr_decodePart_eq_ok_iff, ← decodeOr_decodePart_eq_ok_iff] at hdecode
  obtain ⟨hdecodeLine, hdecodeColumn⟩ := hdecode
  have hline := yields_takeOnce hparts id (readsAs_readWord32.map some) hdecodeLine
  have hcolumn := yields_takeOnce hparts id (readsAs_readWord32.map some) hdecodeColumn
  refine ⟨?_, ?_⟩
  · intro fields hfields
    obtain ⟨hlines, hcolumns⟩ :=
      (foldlM_gatherPart_eq_ok_iff hparts).mp ((hgather _ _ _).mp hfields)
    exact location_eq_ok_iff.mpr ⟨hline.sound _ hlines, hcolumn.sound _ hcolumns⟩
  · intro hdistinct
    obtain ⟨line?, hlines⟩ := hline.total hdistinct
    obtain ⟨column?, hcolumns⟩ := hcolumn.total hdistinct
    exact ⟨⟨line?, column?⟩,
      (hgather _ _ _).mpr ((foldlM_gatherPart_eq_ok_iff hparts).mpr ⟨hlines, hcolumns⟩)⟩

/-- A location in an array is read up to the closing bracket. -/
lemma read_array_eq_ok {start : Bytes} {items : Items} {raws : List Json} {l : Location}
    (hcloses : items.Closes) (hraws : Located.itemRaws depth items = .ok raws)
    (hdecode : decode (Json.array raws).collapsed = .ok l) :
    read (.array start items) = .ok l := by
  rw [collapsed, collapsedItems_eq, decode_array_eq_ok_iff] at hdecode
  obtain ⟨_, _, hitems, hline, hcolumn⟩ := hdecode
  obtain ⟨line, columns, rfl, rfl, hcolumns⟩ := List.map_eq_cons_iff.mp hitems
  obtain ⟨column, more, rfl, rfl, hmore⟩ := List.map_eq_cons_iff.mp hcolumns
  obtain rfl := List.map_eq_nil_iff.mp hmore
  cases Located.holdsItems_of_itemRaws hraws with
  | item firstRaw othersRaw =>
    cases Located.holdsItems_of_itemRaws othersRaw with
    | item secondRaw noneRaw =>
      cases Located.holdsItems_of_itemRaws noneRaw with
      | done after =>
        obtain ⟨-, ⟨-, -, hend⟩, -⟩ := hcloses
        obtain ⟨afterSecond, hafterSecond, hbracket⟩ := hend after rfl
        obtain ⟨_, hafterFirst, hrestFirst⟩ := Located.exists_rest_of_raw firstRaw
        obtain ⟨_, hafterSecond', hrestSecond⟩ := Located.exists_rest_of_raw secondRaw
        cases hafterSecond.symm.trans hafterSecond'
        have hreadLine := readWord32_eq_ok firstRaw hline
        have hreadColumn := readWord32_eq_ok secondRaw hcolumn
        simp only [read, Cursor.next_item hreadLine hrestFirst,
          Cursor.next_item hreadColumn hrestSecond, Cursor.finish, hbracket, bind, Except.bind]
        rfl

/-- A location is read as it is decoded. -/
lemma readsAs_read (depth : Nat) : ReadsAs depth read decode := by
  intro v raw l hcloses hraw hdecode
  cases Located.holds_of_raw hraw with
  | object inside =>
    refine (yields_gather hcloses inside hdecode).bind ?_
    intro fields hfields
    refine .of_ok ?_ rfl
    rw [hfields]
    rfl
  | array inside => exact .of_ok (read_array_eq_ok hcloses inside hdecode) rfl
  | null | boolean | number | string => cases hdecode

end Location

/-! ### Errors -/

namespace GraphqlError

variable {depth : Nat}

/-- What the other members come to with one more. -/
def keepPart (other : Entries Json) (part : String × Located × Json) : Entries Json :=
  if part.1 ∈ formatKeys then other else other ++ [(part.1, part.2.2.collapsed)]

/-- A key of the format is kept in no other place. -/
lemma keepPart_of_mem {part : String × Located × Json} (h : part.1 ∈ formatKeys)
    (other : Entries Json) :
    keepPart other part = other := if_pos h

/-- All other members are kept, repeated keys included. -/
lemma foldl_keepPart (parts : Entries (Located × Json)) (other : Entries Json) :
    parts.foldl keepPart other =
      other ++ (collapsedEntries (written parts)).filter fun entry => entry.1 ∉ formatKeys := by
  induction parts generalizing other with
  | nil => exact (List.append_nil other).symm
  | cons part parts ih =>
    obtain ⟨key, v, raw⟩ := part
    have hcollapsed : collapsedEntries (written ((key, v, raw) :: parts)) =
        (key, raw.collapsed) :: collapsedEntries (written parts) := rfl
    rw [List.foldl_cons, ih, hcollapsed, List.filter_cons]
    by_cases h : key ∈ formatKeys
    · rw [keepPart_of_mem h, if_neg (by simpa using h)]
    · rw [keepPart, if_neg h, if_pos (by simpa using h), List.append_assoc]
      rfl

/-- A part of an error is gathered exactly if it is taken for what it is. -/
lemma gatherPart_field_eq_ok_iff {fields fields' : Fields} {part : String × Located × Json}
    (h : IsPart depth part) :
    gatherPart (field depth) fields part = .ok fields' ↔
      takeOnce (Located.readText "a string") "message" fields.message? part = .ok fields'.message? ∧
        takeOnce (readList Location.read) "locations" fields.locations? part =
          .ok fields'.locations? ∧
        takeOnce (PathElement.readPath (depth - 1)) "path" fields.path? part = .ok fields'.path? ∧
        takeOnce (Located.readNullable (Located.readEntries depth))
          "extensions" fields.extensions? part = .ok fields'.extensions? ∧
        fields'.other = keepPart fields.other part := by
  obtain ⟨key, v, raw⟩ := part
  obtain ⟨message?, locations?, path?, extensions?, other⟩ := fields
  obtain ⟨message'?, locations'?, path'?, extensions'?, other'⟩ := fields'
  by_cases hmessage : key = "message"
  · subst hmessage
    have hfield : field depth ⟨message?, locations?, path?, extensions?, other⟩ "message" =
        once "message" message? (Located.readText "a string") fun x =>
          ⟨some x, locations?, path?, extensions?, other⟩ := rfl
    rw [gatherPart_once_eq_ok_iff hfield, takeOnce_self_eq_ok_iff, takeOnce_of_ne (by simp),
      takeOnce_of_ne (by simp), takeOnce_of_ne (by simp), keepPart_of_mem (by simp [formatKeys])]
    grind
  by_cases hlocations : key = "locations"
  · subst hlocations
    have hfield : field depth ⟨message?, locations?, path?, extensions?, other⟩ "locations" =
        once "locations" locations? (readList Location.read) fun x =>
          ⟨message?, some x, path?, extensions?, other⟩ := rfl
    rw [gatherPart_once_eq_ok_iff hfield, takeOnce_self_eq_ok_iff, takeOnce_of_ne (by simp),
      takeOnce_of_ne (by simp), takeOnce_of_ne (by simp), keepPart_of_mem (by simp [formatKeys])]
    grind
  by_cases hpath : key = "path"
  · subst hpath
    have hfield : field depth ⟨message?, locations?, path?, extensions?, other⟩ "path" =
        once "path" path? (PathElement.readPath (depth - 1)) fun x =>
          ⟨message?, locations?, some x, extensions?, other⟩ := rfl
    rw [gatherPart_once_eq_ok_iff hfield, takeOnce_self_eq_ok_iff, takeOnce_of_ne (by simp),
      takeOnce_of_ne (by simp), takeOnce_of_ne (by simp), keepPart_of_mem (by simp [formatKeys])]
    grind
  by_cases hextensions : key = "extensions"
  · subst hextensions
    have hfield : field depth ⟨message?, locations?, path?, extensions?, other⟩ "extensions" =
        once "extensions" extensions? (Located.readNullable (Located.readEntries depth)) fun x =>
          ⟨message?, locations?, path?, some x, other⟩ := rfl
    rw [gatherPart_once_eq_ok_iff hfield, takeOnce_self_eq_ok_iff, takeOnce_of_ne (by simp),
      takeOnce_of_ne (by simp), takeOnce_of_ne (by simp), keepPart_of_mem (by simp [formatKeys])]
    grind
  have hother : key ∉ formatKeys := by simp [formatKeys, hmessage, hlocations, hpath, hextensions]
  have hkept : gatherPart (field depth) ⟨message?, locations?, path?, extensions?, other⟩
      (key, v, raw) =
      .ok ⟨message?, locations?, path?, extensions?, other ++ [(key, raw.collapsed)]⟩ := by
    rw [gatherPart, field, if_neg hmessage, if_neg hlocations, if_neg hpath, if_neg hextensions]
    dsimp only
    rw [Located.value_eq_ok_iff.mpr ⟨raw, h.2, rfl⟩]
    rfl
  rw [hkept, takeOnce_of_ne hmessage, takeOnce_of_ne hlocations, takeOnce_of_ne hpath,
    takeOnce_of_ne hextensions, keepPart, if_neg hother]
  simp [eq_comm]

/-- The parts of an error are gathered independently of each other. -/
lemma foldlM_gatherPart_eq_ok_iff {parts : Entries (Located × Json)}
    (h : ∀ part ∈ parts, IsPart depth part) {fields fields' : Fields} :
    parts.foldlM (gatherPart (field depth)) fields = .ok fields' ↔
      parts.foldlM (takeOnce (Located.readText "a string") "message") fields.message? =
        .ok fields'.message? ∧
        parts.foldlM (takeOnce (readList Location.read) "locations") fields.locations? =
          .ok fields'.locations? ∧
        parts.foldlM (takeOnce (PathElement.readPath (depth - 1)) "path") fields.path? =
          .ok fields'.path? ∧
        parts.foldlM (takeOnce (Located.readNullable (Located.readEntries depth)) "extensions")
          fields.extensions? = .ok fields'.extensions? ∧
        fields'.other = parts.foldl keepPart fields.other := by
  induction parts generalizing fields with
  | nil =>
    cases fields
    cases fields'
    simp [List.foldlM_nil, pure, Except.pure, eq_comm]
  | cons part parts ih =>
    obtain ⟨hpart, hparts⟩ := List.forall_mem_cons.mp h
    simp only [List.foldlM_cons, List.foldl_cons, bind_eq_ok_iff, ih hparts,
      gatherPart_field_eq_ok_iff hpart]
    constructor
    · rintro ⟨next, ⟨hm, hl, hp, hx, ho⟩, hms, hls, hps, hxs, hos⟩
      exact ⟨⟨_, hm, hms⟩, ⟨_, hl, hls⟩, ⟨_, hp, hps⟩, ⟨_, hx, hxs⟩, ho ▸ hos⟩
    · rintro ⟨⟨m?, hm, hms⟩, ⟨ls?, hl, hls⟩, ⟨p?, hp, hps⟩, ⟨x?, hx, hxs⟩, hos⟩
      exact ⟨⟨m?, ls?, p?, x?, keepPart fields.other part⟩, ⟨hm, hl, hp, hx, rfl⟩,
        hms, hls, hps, hxs, hos⟩

/-- An error is gathered from the members of an object. -/
lemma yields_gather {members : Members} {raws : Entries Json} {e : GraphqlError}
    (hcloses : members.Closes) (hraws : Located.memberRaws depth members = .ok raws)
    (hdecode : decode (Json.object raws).collapsed = .ok e) :
    Yields (members.gather (field depth)
      { message? := none, locations? := none, path? := none, extensions? := none, other := [] })
        (Json.object raws).DistinctKeys fun fields => fields.error = e := by
  obtain ⟨parts, rfl, hparts, hgather⟩ := exists_parts hcloses hraws
  rw [collapsed, decode_object_eq_ok_iff (Entries.nodup_keys_merge _)] at hdecode
  have hmessage := yields_takeOnce hparts (fun x? => x?.getD "")
    (by simpa using readsAs_readText "a string") hdecode.message
  have hlocations := yields_takeOnce hparts (fun x? => (x?.getD none).getD [])
    ((Location.readsAs_read (depth - 1)).list.map (·.getD [])) hdecode.locations
  have hpath := yields_takeOnce hparts (fun x? => x?.getD none)
    (by simpa using readsAs_readPath depth) hdecode.path
  have hextensions := yields_takeOnce hparts (fun x? => (x?.getD none).getD [])
    (readsAs_readEntries.nullable.map (·.getD [])) hdecode.extensions
  -- What is not of the format is merged at the end, so that repeated keys do no harm there.
  have hother : Entries.merge (parts.foldl keepPart []) = e.other := by
    rw [foldl_keepPart, List.nil_append, hdecode.other]
    exact Entries.merge_filter (fun key => decide (key ∉ formatKeys)) _
  refine ⟨?_, ?_⟩
  · intro fields hfields
    obtain ⟨hm, hl, hp, hx, ho⟩ :=
      (foldlM_gatherPart_eq_ok_iff hparts).mp ((hgather _ _ _).mp hfields)
    calc fields.error
        = ⟨fields.message?.getD "", (fields.locations?.getD none).getD [], fields.path?.getD none,
            (fields.extensions?.getD none).getD [], fields.other.merge⟩ := rfl
      _ = ⟨e.message, e.locations, e.path?, e.extensions, e.other⟩ := by
          rw [hmessage.sound _ hm, hlocations.sound _ hl, hpath.sound _ hp, hextensions.sound _ hx,
            ho, hother]
  · intro hdistinct
    obtain ⟨m?, hm⟩ := hmessage.total hdistinct
    obtain ⟨ls?, hl⟩ := hlocations.total hdistinct
    obtain ⟨p?, hp⟩ := hpath.total hdistinct
    obtain ⟨x?, hx⟩ := hextensions.total hdistinct
    exact ⟨⟨m?, ls?, p?, x?, parts.foldl keepPart []⟩,
      (hgather _ _ _).mpr ((foldlM_gatherPart_eq_ok_iff hparts).mpr ⟨hm, hl, hp, hx, rfl⟩)⟩

/-- An error is read as it is decoded. -/
lemma readsAs_read (depth : Nat) : ReadsAs (depth + 1) (read depth) decode := by
  intro v raw e hcloses hraw hdecode
  cases Located.holds_of_raw hraw with
  | object inside => exact (yields_gather hcloses inside hdecode).map fun _ herror => herror
  | null | boolean | number | string | array => cases hdecode

end GraphqlError

/-! ### Responses -/

namespace Response

variable {depth : Nat}

/-- A part of a response is gathered exactly if it is taken for what it is. -/
lemma gatherPart_field_eq_ok_iff {fields fields' : Fields} {part : String × Located × Json}
    (h : IsPart depth part) :
    gatherPart field fields part = .ok fields' ↔
      takeOnce (·.value innerDepth) "data" fields.data? part = .ok fields'.data? ∧
        takeOnce readErrors "errors" fields.errors? part = .ok fields'.errors? ∧
        takeOnce (Located.readNullable (Located.readEntries innerDepth))
          "extensions" fields.extensions? part = .ok fields'.extensions? := by
  obtain ⟨key, v⟩ := part
  obtain ⟨data?, errors?, extensions?⟩ := fields
  obtain ⟨data'?, errors'?, extensions'?⟩ := fields'
  by_cases hdata : key = "data"
  · subst hdata
    have hfield : field ⟨data?, errors?, extensions?⟩ "data" =
        once "data" data? (·.value innerDepth) fun x => ⟨some x, errors?, extensions?⟩ := rfl
    rw [gatherPart_once_eq_ok_iff hfield, takeOnce_self_eq_ok_iff, takeOnce_of_ne (by simp),
      takeOnce_of_ne (by simp)]
    grind
  by_cases herrors : key = "errors"
  · subst herrors
    have hfield : field ⟨data?, errors?, extensions?⟩ "errors" =
        once "errors" errors? readErrors fun x => ⟨data?, some x, extensions?⟩ := rfl
    rw [gatherPart_once_eq_ok_iff hfield, takeOnce_self_eq_ok_iff, takeOnce_of_ne (by simp),
      takeOnce_of_ne (by simp)]
    grind
  by_cases hextensions : key = "extensions"
  · subst hextensions
    have hfield : field ⟨data?, errors?, extensions?⟩ "extensions" =
        once "extensions" extensions? (Located.readNullable (Located.readEntries innerDepth))
          fun x => ⟨data?, errors?, some x⟩ := rfl
    rw [gatherPart_once_eq_ok_iff hfield, takeOnce_self_eq_ok_iff, takeOnce_of_ne (by simp),
      takeOnce_of_ne (by simp)]
    grind
  have hskip : gatherPart field ⟨data?, errors?, extensions?⟩ (key, v) =
      .ok ⟨data?, errors?, extensions?⟩ := by
    rw [gatherPart, field, if_neg hdata, if_neg herrors, if_neg hextensions]
    dsimp only
    rw [Located.skip_of_raw h.2]
    rfl
  rw [hskip, takeOnce_of_ne hdata, takeOnce_of_ne herrors, takeOnce_of_ne hextensions]
  simp

/-- The parts of a response are gathered independently of each other. -/
lemma foldlM_gatherPart_eq_ok_iff {parts : Entries (Located × Json)}
    (h : ∀ part ∈ parts, IsPart depth part) {fields fields' : Fields} :
    parts.foldlM (gatherPart field) fields = .ok fields' ↔
      parts.foldlM (takeOnce (·.value innerDepth) "data") fields.data? = .ok fields'.data? ∧
        parts.foldlM (takeOnce readErrors "errors") fields.errors? = .ok fields'.errors? ∧
        parts.foldlM (takeOnce (Located.readNullable (Located.readEntries innerDepth)) "extensions")
          fields.extensions? = .ok fields'.extensions? := by
  induction parts generalizing fields with
  | nil =>
    cases fields
    cases fields'
    simp [List.foldlM_nil, pure, Except.pure]
  | cons part parts ih =>
    obtain ⟨hpart, hparts⟩ := List.forall_mem_cons.mp h
    simp only [List.foldlM_cons, bind_eq_ok_iff, ih hparts, gatherPart_field_eq_ok_iff hpart]
    constructor
    · rintro ⟨next, ⟨hd, he, hx⟩, hds, hes, hxs⟩
      exact ⟨⟨_, hd, hds⟩, ⟨_, he, hes⟩, _, hx, hxs⟩
    · rintro ⟨⟨d?, hd, hds⟩, ⟨es?, he, hes⟩, x?, hx, hxs⟩
      exact ⟨⟨d?, es?, x?⟩, ⟨hd, he, hx⟩, hds, hes, hxs⟩

/-- A response is gathered from the members of an object. -/
lemma yields_gather {members : Members} {raws : Entries Json} {r : Response}
    (hcloses : members.Closes) (hraws : Located.memberRaws innerDepth members = .ok raws)
    (hdecode : ofEntries (Entries.merge (collapsedEntries raws)) = .ok r) :
    Yields (members.gather field .empty) (Json.object raws).DistinctKeys fun fields =>
      fields.response = r := by
  obtain ⟨parts, rfl, hparts, hgather⟩ := exists_parts hcloses hraws
  rw [ofEntries_eq_ok_iff (Entries.nodup_keys_merge _)] at hdecode
  have hdecodeData : Entries.decodeOr (fun v => .ok (some v)) none "data"
      (Entries.merge (collapsedEntries (written parts))) = .ok r.data? := by
    rw [hdecode.data, Entries.decodeOr]
    cases List.lookup "data" _ <;> rfl
  have hdata := yields_takeOnce hparts id ((readsAs_value innerDepth).map some) hdecodeData
  have hdepth : innerDepth - 2 + 1 = innerDepth - 1 := rfl
  have hread := hdepth ▸ GraphqlError.readsAs_read (innerDepth - 2)
  have herrors := yields_takeOnce hparts (fun x? => (x?.getD none).getD [])
    (hread.list.map (·.getD [])) hdecode.errors
  have hextensions := yields_takeOnce hparts (fun x? => (x?.getD none).getD [])
    (readsAs_readEntries.nullable.map (·.getD [])) hdecode.extensions
  refine ⟨?_, ?_⟩
  · intro fields hfields
    obtain ⟨hd, he, hx⟩ := (foldlM_gatherPart_eq_ok_iff hparts).mp ((hgather _ _ _).mp hfields)
    have hdata? : fields.data? = r.data? := hdata.sound _ hd
    calc fields.response
        = ⟨fields.data?, (fields.errors?.getD none).getD [],
          (fields.extensions?.getD none).getD []⟩ := rfl
      _ = ⟨r.data?, r.errors, r.extensions⟩ := by
        rw [hdata?, herrors.sound _ he, hextensions.sound _ hx]
  · intro hdistinct
    obtain ⟨d?, hd⟩ := hdata.total hdistinct
    obtain ⟨es?, he⟩ := herrors.total hdistinct
    obtain ⟨x?, hx⟩ := hextensions.total hdistinct
    exact ⟨⟨d?, es?, x?⟩,
      (hgather _ _ _).mpr ((foldlM_gatherPart_eq_ok_iff hparts).mpr ⟨hd, he, hx⟩)⟩

/-! ### Whole texts -/

/-- The text writes a value in which no object repeats a key. -/
def RepeatsNoKey (text : Bytes) : Prop :=
  ∃ chars v, text = Utf8.encode chars ∧ SpellsElement .strict v chars ∧ v.DistinctKeys

/-- A body that holds a response writes a value.  Nothing but this response is read straight from
the body, and it is read if no key is repeated in the value. -/
lemma exists_of_ofBytes {text : Bytes} {r : Response} (h : ofBytes text = .ok r) :
    ∃ raw, readAs (Located.raw Located.nestingLimit) text = .ok raw ∧
      Yields (parse text) raw.DistinctKeys (· = r) := by
  obtain ⟨entries, hparse, hdecode⟩ := ofBytes_eq_ok_iff.mp h
  have hvalue : readAs (Located.value Located.nestingLimit) text = .ok (.object entries) := hparse
  rw [readAs_value_eq_map, map_eq_ok_iff] at hvalue
  obtain ⟨raw, hread, hcollapsed⟩ := hvalue
  refine ⟨raw, hread, ?_⟩
  obtain ⟨raw', hraw, hread'⟩ := bind_eq_ok_iff.mp hread
  obtain ⟨_, hfinish, hread'⟩ := bind_eq_ok_iff.mp hread'
  cases hread'
  have hcloses : (Located.ofBytes text).Closes := Located.closes_valueWithin _ _
  have hresponse : Yields (read (Located.ofBytes text)) raw.DistinctKeys (· = r) := by
    generalize Located.ofBytes text = located at hraw hcloses
    cases Located.holds_of_raw hraw with
    | object inside =>
      rw [collapsed, Json.object.injEq] at hcollapsed
      subst hcollapsed
      exact (yields_gather hcloses inside hdecode).map fun _ hfields => hfields
    | null | boolean | number | string | array => cases hcollapsed
  refine hresponse.bind ?_
  rintro _ rfl
  exact .of_ok (bind_eq_ok_iff.mpr ⟨(), hfinish, rfl⟩) rfl

/-- If a response is read from a text in both ways, it is the same; and where no object in the text
repeats a key, a response that is decoded from its value is read straight from it as well. -/
theorem parse_agrees (text : Bytes) :
    (∀ r r', parse text = .ok r → ofBytes text = .ok r' → r = r') ∧
      (RepeatsNoKey text → ∀ r, ofBytes text = .ok r → parse text = .ok r) := by
  constructor
  · intro r r' hparse hbytes
    obtain ⟨raw, -, hyields⟩ := exists_of_ofBytes hbytes
    exact hyields.sound r hparse
  · rintro ⟨chars, v, htext, hspells, hdistinct⟩ r hbytes
    obtain ⟨raw, hread, hyields⟩ := exists_of_ofBytes hbytes
    obtain ⟨chars', htext', hspells', -⟩ := readAs_raw_eq_ok_iff.mp hread
    have hraw : raw = v := hspells'.unique hspells (htext'.symm.trans htext)
    exact hyields.eq_ok (hraw ▸ hdistinct)

/-! ### Bodies with and without repeated keys -/

/-- A body with an error whose location is an array. -/
def locatedBody : Bytes :=
  bytesOf <| "\x7b\"data\":null,\"errors\":[\x7b\"locations\":[[1,2]],\"path\":[\"a\",0]," ++
    "\"type\":\"x\"\x7d]\x7d"

/-- A body that repeats a key within the data, and one beside the format of errors. -/
def repeatingBody : Bytes :=
  bytesOf "\x7b\"data\":\x7b\"a\":1,\"a\":2\x7d,\"errors\":[\x7b\"b\":1,\"b\":2\x7d]\x7d"

/-- The body with a located error repeats no key. -/
lemma repeatsNoKey_locatedBody : RepeatsNoKey locatedBody := by
  let location : Json := .array [.number (.integer 1 (by decide)), .number (.integer 2 (by decide))]
  let path : Json := .array [.string "a", .number (.integer 0 (by decide))]
  let error : Json :=
    .object [("locations", .array [location]), ("path", path), ("type", .string "x")]
  let body : Json := .object [("data", .null), ("errors", .array [error])]
  have hlocation : location.DistinctKeys :=
    .array (List.forall_mem_cons.mpr ⟨.number _, List.forall_mem_singleton.mpr (.number _)⟩)
  have hpath : path.DistinctKeys :=
    .array (List.forall_mem_cons.mpr ⟨.string _, List.forall_mem_singleton.mpr (.number _)⟩)
  have herror : error.DistinctKeys := by
    have hnames : ["locations", "path", "type"].Nodup := by decide
    refine .object hnames
      (List.forall_mem_cons.mpr ⟨.array ?_, List.forall_mem_cons.mpr ⟨hpath, ?_⟩⟩)
    · exact List.forall_mem_singleton.mpr hlocation
    · exact List.forall_mem_singleton.mpr (.string _)
  have hbody : body.DistinctKeys := by
    have hnames : ["data", "errors"].Nodup := by decide
    refine .object hnames
      (List.forall_mem_cons.mpr ⟨.null, List.forall_mem_singleton.mpr (.array ?_)⟩)
    exact List.forall_mem_singleton.mpr herror
  exact ⟨body.chars, body, by decide +kernel, (spells_chars body).element, hbody⟩

/-- A body that repeats no key is read in both ways.  So is one that repeats keys which are no part
of the format, but data that comes twice is read in one way only. -/
theorem parse_agrees_bodies :
    (∃ r, ofBytes locatedBody = .ok r ∧ parse locatedBody = .ok r) ∧
      (∃ r, ofBytes repeatingBody = .ok r ∧ parse repeatingBody = .ok r) ∧
      (ofBytes (bytesOf "\x7b\"data\":1,\"data\":2\x7d")).isOk = true ∧
      (parse (bytesOf "\x7b\"data\":1,\"data\":2\x7d")).isOk = false := by
  have hlocated : (ofBytes locatedBody).isOk = true := by decide +kernel
  have hrepeating : (ofBytes repeatingBody).isOk = true ∧ (parse repeatingBody).isOk = true := by
    decide +kernel
  refine ⟨?_, ?_, by decide +kernel, by decide +kernel⟩
  · obtain ⟨r, hr⟩ := isOk_iff.mp hlocated
    exact ⟨r, hr, (parse_agrees locatedBody).2 repeatsNoKey_locatedBody r hr⟩
  · obtain ⟨r', hr'⟩ := isOk_iff.mp hrepeating.1
    obtain ⟨r, hr⟩ := isOk_iff.mp hrepeating.2
    obtain rfl := (parse_agrees repeatingBody).1 r r' hr hr'
    exact ⟨r, hr', hr⟩

end Response

end GraphqlClient
