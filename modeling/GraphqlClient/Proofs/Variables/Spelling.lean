import GraphqlClient.Proofs.Variables.Places

/-!
# Spellings of variables

A list or an object without uploads can be given as JSON or be spelled out, and so can what it
consists of.  `Variable.Respelled` relates two variables that differ in nothing else, at whatever
depth.  What they have in common says the same: they are the same JSON, with the same uploads at the
ends of the same paths (`Variable.respelled_iff`).
-/

namespace GraphqlClient

namespace Variable

/-! ### Spelling -/

/-- The items of a JSON array as variables. -/
def plainItems (items : List Json) : List Variable := items.map .value

/-- The entries of a JSON object as variables. -/
def plainFields (entries : Entries Json) : Entries Variable :=
  entries.map fun entry => (entry.1, .value entry.2)

mutual

/-- Two variables differ only in which lists and objects are given as JSON, and which are spelled
out. -/
inductive Respelled : Variable → Variable → Prop
  | value (json : Json) : Respelled (.value json) (.value json)
  | upload (file : Upload) : Respelled (.upload file) (.upload file)
  | list {items items' : List Variable} (parts : RespelledItems items items') :
      Respelled (.list items) (.list items')
  | object {fields fields' : Entries Variable} (parts : RespelledFields fields fields') :
      Respelled (.object fields) (.object fields')
  /-- A JSON array is spelled out, and perhaps its items as well. -/
  | spellList {items : List Json} {items' : List Variable}
      (parts : RespelledItems (plainItems items) items') :
      Respelled (.value (.array items)) (.list items')
  | foldList {items : List Variable} {items' : List Json}
      (parts : RespelledItems items (plainItems items')) :
      Respelled (.list items) (.value (.array items'))
  | spellObject {entries : Entries Json} {fields' : Entries Variable}
      (parts : RespelledFields (plainFields entries) fields') :
      Respelled (.value (.object entries)) (.object fields')
  | foldObject {fields : Entries Variable} {entries' : Entries Json}
      (parts : RespelledFields fields (plainFields entries')) :
      Respelled (.object fields) (.value (.object entries'))

inductive RespelledItems : List Variable → List Variable → Prop
  | nil : RespelledItems [] []
  | cons {item item' : Variable} {items items' : List Variable} (head : Respelled item item')
      (tail : RespelledItems items items') : RespelledItems (item :: items) (item' :: items')

inductive RespelledFields : Entries Variable → Entries Variable → Prop
  | nil : RespelledFields [] []
  | cons (key : String) {field field' : Variable} {fields fields' : Entries Variable}
      (head : Respelled field field') (tail : RespelledFields fields fields') :
      RespelledFields ((key, field) :: fields) ((key, field') :: fields')

end

mutual

/-- Variables are respelled in both directions. -/
lemma Respelled.symm {v v' : Variable} : Respelled v v' → Respelled v' v
  | .value json => .value json
  | .upload file => .upload file
  | .list parts => .list parts.symm
  | .object parts => .object parts.symm
  | .spellList parts => .foldList parts.symm
  | .foldList parts => .spellList parts.symm
  | .spellObject parts => .foldObject parts.symm
  | .foldObject parts => .spellObject parts.symm

/-- Items are respelled in both directions. -/
lemma RespelledItems.symm {items items' : List Variable} :
    RespelledItems items items' → RespelledItems items' items
  | .nil => .nil
  | .cons head tail => .cons head.symm tail.symm

/-- Fields are respelled in both directions. -/
lemma RespelledFields.symm {fields fields' : Entries Variable} :
    RespelledFields fields fields' → RespelledFields fields' fields
  | .nil => .nil
  | .cons key head tail => .cons key head.symm tail.symm

end

/-! ### What all spellings have in common -/

/-- Plain items are written as the JSON that they are. -/
lemma itemsToJson_plainItems (items : List Json) : itemsToJson (plainItems items) = items := by
  rw [itemsToJson_eq, plainItems, List.map_map]
  exact List.map_id items

/-- Plain fields are written as the JSON that they are. -/
lemma fieldsToJson_plainFields (entries : Entries Json) :
    fieldsToJson (plainFields entries) = entries := by
  rw [fieldsToJson_eq, plainFields, List.map_map]
  exact List.map_id entries

/-- Plain items have no uploads. -/
lemma uploadsOfItems_plainItems (index : Nat) (items : List Json) :
    uploadsOfItems index (plainItems items) = [] := by
  induction items generalizing index with
  | nil => rfl
  | cons item items ih => exact ih (index + 1)

/-- Plain fields have no uploads. -/
lemma uploadsOfFields_plainFields (entries : Entries Json) :
    uploadsOfFields (plainFields entries) = [] := by
  induction entries with
  | nil => rfl
  | cons entry entries ih => exact ih

mutual

/-- Another spelling is the same JSON with the same uploads. -/
theorem Respelled.agree {v v' : Variable} :
    Respelled v v' → v'.toJson = v.toJson ∧ v'.uploads = v.uploads
  | .value json => ⟨rfl, rfl⟩
  | .upload file => ⟨rfl, rfl⟩
  | .list parts => by
    obtain ⟨hjson, huploads⟩ := parts.agree
    exact ⟨congrArg Json.array hjson, huploads 0⟩
  | .object parts => by
    obtain ⟨hjson, huploads⟩ := parts.agree
    exact ⟨congrArg Json.object hjson, huploads⟩
  | .spellList parts => by
    obtain ⟨hjson, huploads⟩ := parts.agree
    rw [itemsToJson_plainItems] at hjson
    exact ⟨congrArg Json.array hjson, (huploads 0).trans (uploadsOfItems_plainItems 0 _)⟩
  | .foldList parts => by
    obtain ⟨hjson, huploads⟩ := parts.agree
    rw [itemsToJson_plainItems] at hjson
    exact ⟨congrArg Json.array hjson, (uploadsOfItems_plainItems 0 _).symm.trans (huploads 0)⟩
  | .spellObject parts => by
    obtain ⟨hjson, huploads⟩ := parts.agree
    rw [fieldsToJson_plainFields] at hjson
    exact ⟨congrArg Json.object hjson, huploads.trans (uploadsOfFields_plainFields _)⟩
  | .foldObject parts => by
    obtain ⟨hjson, huploads⟩ := parts.agree
    rw [fieldsToJson_plainFields] at hjson
    exact ⟨congrArg Json.object hjson, (uploadsOfFields_plainFields _).symm.trans huploads⟩

/-- Items that are respelled have the same JSON and the same uploads. -/
lemma RespelledItems.agree {items items' : List Variable} : RespelledItems items items' →
    itemsToJson items' = itemsToJson items ∧
      ∀ index, uploadsOfItems index items' = uploadsOfItems index items
  | .nil => ⟨rfl, fun _ => rfl⟩
  | .cons head tail => by
    obtain ⟨hjson, huploads⟩ := head.agree
    obtain ⟨hjsons, hrest⟩ := tail.agree
    refine ⟨by rw [itemsToJson, itemsToJson, hjson, hjsons], fun index => ?_⟩
    rw [uploadsOfItems, uploadsOfItems, huploads, hrest]

/-- Fields that are respelled have the same JSON and the same uploads. -/
lemma RespelledFields.agree {fields fields' : Entries Variable} : RespelledFields fields fields' →
    fieldsToJson fields' = fieldsToJson fields ∧ uploadsOfFields fields' = uploadsOfFields fields
  | .nil => ⟨rfl, rfl⟩
  | .cons key head tail => by
    obtain ⟨hjson, huploads⟩ := head.agree
    obtain ⟨hjsons, hrest⟩ := tail.agree
    refine ⟨by rw [fieldsToJson, fieldsToJson, hjson, hjsons], ?_⟩
    rw [uploadsOfFields, uploadsOfFields, huploads, hrest]

end

/-! ### What all spellings have in common is enough -/

/-- There are no uploads under a start exactly if there are none. -/
lemma under_eq_nil_iff {start : Path} {us : List (Path × Upload)} : under start us = [] ↔ us = [] :=
  List.map_eq_nil_iff

mutual

/-- What holds no upload is a spelling of its JSON. -/
lemma respelled_of_uploads_eq_nil : (v : Variable) → v.uploads = [] → Respelled (.value v.toJson) v
  | .value json, _ => .value json
  | .list items, h => .spellList (respelledItems_of_uploads_eq_nil 0 items h)
  | .object fields, h => .spellObject (respelledFields_of_uploads_eq_nil fields h)
  | .upload _, h => absurd h (List.cons_ne_nil _ _)

/-- Items without uploads are a respelling of plain ones. -/
lemma respelledItems_of_uploads_eq_nil (index : Nat) :
    (items : List Variable) → uploadsOfItems index items = [] →
    RespelledItems (plainItems (itemsToJson items)) items
  | [], _ => .nil
  | item :: items, h => by
    obtain ⟨hitem, hitems⟩ := List.append_eq_nil_iff.mp h
    exact .cons (respelled_of_uploads_eq_nil item (under_eq_nil_iff.mp hitem))
      (respelledItems_of_uploads_eq_nil (index + 1) items hitems)

/-- Fields without uploads are a respelling of plain ones. -/
lemma respelledFields_of_uploads_eq_nil :
    (fields : List (String × Variable)) → uploadsOfFields fields = [] →
    RespelledFields (plainFields (fieldsToJson fields)) fields
  | [], _ => .nil
  | (key, field) :: fields, h => by
    obtain ⟨hfield, hfields⟩ := List.append_eq_nil_iff.mp h
    exact .cons key (respelled_of_uploads_eq_nil field (under_eq_nil_iff.mp hfield))
      (respelledFields_of_uploads_eq_nil fields hfields)

end

/-- The same uploads at the ends of the same paths. -/
def SameUploads (us us' : List (Path × Upload)) : Prop :=
  ∀ path file, (path, file) ∈ us' ↔ (path, file) ∈ us

variable {v v' : Variable}

/-- Where there are no uploads, the same uploads are none. -/
lemma SameUploads.eq_nil {us' : List (Path × Upload)} (h : SameUploads [] us') : us' = [] :=
  List.eq_nil_iff_forall_not_mem.mpr fun _ hmem => List.not_mem_nil ((h _ _).mp hmem)

/-- Where all keys are distinct, the uploads below the first key are those of the first part. -/
lemma SameUploads.of_cons {key : String} {part part' : Variable} {es es' : Entries Variable}
    (hkey : key ∉ es.keys) (hkey' : key ∉ es'.keys)
    (h : SameUploads (uploadsOfFields ((key, part) :: es))
      (uploadsOfFields ((key, part') :: es'))) :
    SameUploads part.uploads part'.uploads ∧
      SameUploads (uploadsOfFields es) (uploadsOfFields es') := by
  -- A path through the first key cannot come from the other entries, whose keys differ from it.
  have hhead : ∀ {part : Variable} {es : Entries Variable}, key ∉ es.keys → ∀ rest file,
      (key :: rest, file) ∈ uploadsOfFields ((key, part) :: es) ↔ (rest, file) ∈ part.uploads := by
    intro part es hfresh rest file
    rw [uploadsOfFields, List.mem_append, mem_under]
    constructor
    · rintro (⟨rest', hrest, hmem⟩ | hmem)
      · obtain rfl : rest = rest' := List.cons_injective hrest
        exact hmem
      · obtain ⟨segment, rest', other, hpath, hother, -⟩ := mem_uploadsOfFields.mp hmem
        obtain rfl := (List.cons.inj hpath).1
        exact absurd (Entries.mem_keys_of_mem hother) hfresh
    · intro hmem
      exact .inl ⟨rest, rfl, hmem⟩
  have htail : ∀ (part : Variable) {es : Entries Variable}, key ∉ es.keys → ∀ path file,
      (path, file) ∈ uploadsOfFields es ↔
        (path, file) ∈ uploadsOfFields ((key, part) :: es) ∧ path.head? ≠ some key := by
    intro part es hfresh path file
    rw [uploadsOfFields, List.mem_append, mem_under]
    constructor
    · intro hmem
      refine ⟨.inr hmem, ?_⟩
      obtain ⟨segment, rest, other, rfl, hother, -⟩ := mem_uploadsOfFields.mp hmem
      intro hsegment
      obtain rfl : segment = key := Option.some.inj hsegment
      exact hfresh (Entries.mem_keys_of_mem hother)
    · rintro ⟨⟨rest, rfl, -⟩ | hmem, hsegment⟩
      · exact absurd rfl hsegment
      · exact hmem
  constructor
  · intro rest file
    rw [← hhead hkey', ← hhead hkey]
    exact h _ _
  · intro path file
    rw [htail part' hkey', htail part hkey, h path file]

mutual

/-- What is the same JSON with the same uploads is another spelling. -/
lemma respelled_of_agree : (v : Variable) → {v' : Variable} → v.DistinctKeys → v'.DistinctKeys →
    v'.toJson = v.toJson → SameUploads v.uploads v'.uploads → Respelled v v'
  -- JSON has no uploads, so that the other spelling has none and can be given as JSON too.
  | .value json, v', _, _, hjson, huploads => by
    have hspelled := respelled_of_uploads_eq_nil v' huploads.eq_nil
    rwa [hjson] at hspelled
  | .upload file, v', _, _, _, huploads => by
    have hroot : ([], file) ∈ v'.uploads := (huploads [] file).mpr (nil_mem_uploads_iff.mpr rfl)
    rw [nil_mem_uploads_iff.mp hroot]
    exact .upload file
  | .list items, .value json', _, _, hjson, huploads => by
    have hnone : SameUploads [] (Variable.list items).uploads :=
      fun path file => (huploads path file).symm
    have hspelled := respelled_of_uploads_eq_nil (.list items) hnone.eq_nil
    rw [← hjson] at hspelled
    exact hspelled.symm
  | .object fields, .value json', _, _, hjson, huploads => by
    have hnone : SameUploads [] (Variable.object fields).uploads :=
      fun path file => (huploads path file).symm
    have hspelled := respelled_of_uploads_eq_nil (.object fields) hnone.eq_nil
    rw [← hjson] at hspelled
    exact hspelled.symm
  | .list items, .upload file, _, _, hjson, _ => nomatch hjson
  | .object fields, .upload file, _, _, hjson, _ => nomatch hjson
  | .list items, .object fields', _, _, hjson, _ => nomatch hjson
  | .object fields, .list items', _, _, hjson, _ => nomatch hjson
  | .list items, .list items', h, h', hjson, huploads => by
    have hparts : ∀ item ∈ items, item.DistinctKeys := by
      cases h
      assumption
    have hparts' : ∀ item ∈ items', item.DistinctKeys := by
      cases h'
      assumption
    rw [uploads, uploads, uploadsOfItems_eq, uploadsOfItems_eq] at huploads
    exact .list (respelledItems_of_agree 0 items hparts hparts' (Json.array.inj hjson) huploads)
  | .object fields, .object fields', h, h', hjson, huploads => by
    have hkeys : (Entries.keys fields).Nodup := h.nodup_keys_entries
    have hkeys' : (Entries.keys fields').Nodup := h'.nodup_keys_entries
    have hparts : ∀ field ∈ fields, field.2.DistinctKeys :=
      fun field hfield => h.of_mem_entries hfield
    have hparts' : ∀ field ∈ fields', field.2.DistinctKeys :=
      fun field hfield => h'.of_mem_entries hfield
    exact .object (respelledFields_of_agree fields hkeys hkeys' hparts hparts'
      (Json.object.inj hjson) huploads)

/-- Items with the same JSON and the same uploads are respelled. -/
lemma respelledItems_of_agree (index : Nat) : (items : List Variable) → {items' : List Variable} →
    (∀ item ∈ items, item.DistinctKeys) → (∀ item ∈ items', item.DistinctKeys) →
    itemsToJson items' = itemsToJson items →
    SameUploads (uploadsOfFields (keyed index items)) (uploadsOfFields (keyed index items')) →
    RespelledItems items items'
  | [], [], _, _, _, _ => .nil
  | [], _ :: _, _, _, hjson, _ => nomatch hjson
  | _ :: _, [], _, _, hjson, _ => nomatch hjson
  | item :: items, item' :: items', h, h', hjson, huploads => by
    obtain ⟨hitem, hitems⟩ := List.forall_mem_cons.mp h
    obtain ⟨hitem', hitems'⟩ := List.forall_mem_cons.mp h'
    obtain ⟨hhead, htail⟩ := List.cons.inj hjson
    have hfresh := (List.nodup_cons.mp (nodup_keys_keyed index (item :: items))).1
    have hfresh' := (List.nodup_cons.mp (nodup_keys_keyed index (item' :: items'))).1
    obtain ⟨hfirst, hrest⟩ := SameUploads.of_cons hfresh hfresh' huploads
    exact .cons (respelled_of_agree item hitem hitem' hhead hfirst)
      (respelledItems_of_agree (index + 1) items hitems hitems' htail hrest)

/-- Fields with the same JSON and the same uploads are respelled. -/
lemma respelledFields_of_agree :
    (fields : List (String × Variable)) → {fields' : Entries Variable} →
    (Entries.keys fields).Nodup → fields'.keys.Nodup → (∀ field ∈ fields, field.2.DistinctKeys) →
    (∀ field ∈ fields', field.2.DistinctKeys) → fieldsToJson fields' = fieldsToJson fields →
    SameUploads (uploadsOfFields fields) (uploadsOfFields fields') → RespelledFields fields fields'
  | [], [], _, _, _, _, _, _ => .nil
  | [], _ :: _, _, _, _, _, hjson, _ => nomatch hjson
  | _ :: _, [], _, _, _, _, hjson, _ => nomatch hjson
  | (key, field) :: fields, (key', field') :: fields', hkeys, hkeys', h, h', hjson, huploads => by
    obtain ⟨hfresh, hnodup⟩ := List.nodup_cons.mp hkeys
    obtain ⟨hfresh', hnodup'⟩ := List.nodup_cons.mp hkeys'
    obtain ⟨hfield, hfields⟩ := List.forall_mem_cons.mp h
    obtain ⟨hfield', hfields'⟩ := List.forall_mem_cons.mp h'
    obtain ⟨hhead, htail⟩ := List.cons.inj hjson
    obtain ⟨rfl, hpart⟩ := Prod.mk.inj hhead
    obtain ⟨hfirst, hrest⟩ := SameUploads.of_cons hfresh hfresh' huploads
    exact .cons key' (respelled_of_agree field hfield hfield' hpart hfirst)
      (respelledFields_of_agree fields hnodup hnodup' hfields hfields' htail hrest)

end

/-- Two variables are spellings of one another exactly if they are the same JSON and the same
uploads are read at the ends of the same paths. -/
theorem respelled_iff (h : v.DistinctKeys) (h' : v'.DistinctKeys) :
    Respelled v v' ↔ v'.toJson = v.toJson ∧
      ∀ path file, v'.read? path = some (.upload file) ↔ v.read? path = some (.upload file) := by
  simp only [← mem_uploads_iff h, ← mem_uploads_iff h']
  constructor
  · intro hrespelled
    obtain ⟨hjson, huploads⟩ := hrespelled.agree
    exact ⟨hjson, fun path file => by rw [huploads]⟩
  · rintro ⟨hjson, huploads⟩
    exact respelled_of_agree v h h' hjson huploads

end Variable

end GraphqlClient
