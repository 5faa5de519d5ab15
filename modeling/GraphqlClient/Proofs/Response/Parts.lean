import GraphqlClient.Proofs.Json.Reader
import GraphqlClient.Proofs.Response.Decode
import GraphqlClient.Response.Reader
import Mathlib

/-!
# Parts of a response that are read straight from a text

What is decoded from a value can be read straight from the tree of its text.  The two differ where
keys are repeated: of the values under one key the last is decoded, while a key of the format that
is repeated ends the reading.  Each way to put readers together keeps it that nothing else is read
(`ReadsAs`), and that of a record does so part by part (`yields_takeOnce`).
-/

namespace GraphqlClient

open Json

/-! ### Reading and decoding -/

/-- Where something is decoded from a value, nothing else is read straight from its tree, and it is
read if no key is repeated in it. -/
def ReadsAs {α : Type} (depth : Nat) (read : Located → Except Fault α)
    (decode : Json → Except ShapeError α) : Prop :=
  ∀ ⦃v : Located⦄ ⦃raw : Json⦄ ⦃x : α⦄, v.Closes → v.raw depth = .ok raw →
    decode raw.collapsed = .ok x →
    Yields (read v) raw.DistinctKeys (· = x)

section

variable {α β : Type} {depth : Nat} {read : Located → Except Fault α}
    {decode : Json → Except ShapeError α}

/-- What is made of a value is read as it is decoded, if the value is. -/
lemma ReadsAs.map (h : ReadsAs depth read decode) (f : α → β) :
    ReadsAs depth (fun v => read v >>= fun x => pure (f x))
      (fun w => decode w >>= fun x => pure (f x)) := by
  intro v raw y hcloses hraw hdecode
  obtain ⟨x, hx, rfl⟩ := bind_pure_eq_ok_iff.mp hdecode
  exact (h hcloses hraw hx).map fun _ hy => congrArg f hy

/-- Any value is read as it is decoded. -/
lemma readsAs_value (depth : Nat) : ReadsAs depth (Located.value depth) .ok := by
  intro v raw x _ hraw hdecode
  cases hdecode
  exact .of_ok (Located.value_eq_ok_iff.mpr ⟨raw, hraw, rfl⟩) rfl

/-- A text is read as it is decoded. -/
lemma readsAs_readText (expected : String) :
    ReadsAs depth (Located.readText expected) decodeText := by
  intro v raw x _ hraw hdecode
  cases Located.holds_of_raw hraw with
  | string text =>
    cases hdecode
    refine .of_ok ?_ rfl
    rw [Located.readText, text]
    rfl
  | null | boolean | number | array | object => cases hdecode

/-- A number that is decoded is read. -/
lemma readWord32_eq_ok {v : Located} {raw : Json} {n : UInt32} (hraw : v.raw depth = .ok raw)
    (hdecode : decodeWord32 raw.collapsed = .ok n) : v.readWord32 = .ok n := by
  cases Located.holds_of_raw hraw with
  | @number _ _ _ _ i text =>
    cases i with
    | real => cases hdecode
    | integer i range =>
      simp only [collapsed, decodeWord32] at hdecode
      split at hdecode
      · next hrange =>
        cases hdecode
        simp only [Located.readWord32, text]
        exact if_pos hrange
      · cases hdecode
  | null | boolean | string | array | object => cases hdecode

/-- A number is read as it is decoded. -/
lemma readsAs_readWord32 : ReadsAs depth Located.readWord32 decodeWord32 :=
  fun _ _ _ _ hraw hdecode => .of_ok (readWord32_eq_ok hraw hdecode) rfl

/-- The entries of an object are read as they are decoded. -/
lemma readsAs_readEntries : ReadsAs depth (Located.readEntries depth) decodeEntries := by
  intro v raw x _ hraw hdecode
  cases Located.holds_of_raw hraw with
  | object inside =>
    cases hdecode
    refine .of_ok ?_ rfl
    rw [Located.readEntries, Located.value_eq_ok_iff.mpr ⟨_, hraw, rfl⟩]
    rfl
  | null | boolean | number | string | array => cases hdecode

/-- A value or null is read as it is decoded, if the value is. -/
lemma ReadsAs.nullable (h : ReadsAs depth read decode) :
    ReadsAs depth (Located.readNullable read) (decodeNullable decode) := by
  intro v raw x? hcloses hraw hdecode
  by_cases hnull : raw = .null
  · subst hnull
    cases Located.holds_of_raw hraw
    cases hdecode
    exact .of_ok rfl rfl
  · have hcollapsed : raw.collapsed ≠ .null := by
      cases raw with
      | null => exact absurd rfl hnull
      | boolean | number | string | array | object => exact Json.noConfusion
    have hread : Located.readNullable read v = read v >>= fun x => pure (some x) := by
      cases Located.holds_of_raw hraw with
      | null => exact absurd rfl hnull
      | boolean | number | string | array | object => rfl
    rw [decodeNullable_of_ne_null decode hcollapsed] at hdecode
    obtain ⟨x, hx, rfl⟩ := bind_pure_eq_ok_iff.mp hdecode
    rw [hread]
    exact (h hcloses hraw hx).map fun _ hy => congrArg some hy

/-- Items that are decoded are read, if none of them repeats a key. -/
lemma yields_readAll (h : ReadsAs depth read decode) {items : Items} {raws : List Json}
    {xs : List α} (hcloses : items.Closes) (hraws : Located.itemRaws depth items = .ok raws)
    (hdecode : (raws.map collapsed).mapM decode = .ok xs) :
    Yields (items.readAll read) (∀ raw ∈ raws, raw.DistinctKeys) (· = xs) := by
  induction raws generalizing items xs with
  | nil =>
    cases Located.holdsItems_of_itemRaws hraws
    cases hdecode
    exact .of_ok rfl rfl
  | cons raw raws ih =>
    cases Located.holdsItems_of_itemRaws hraws with
    | item first others =>
      obtain ⟨hv, hmore, -⟩ := hcloses
      rw [List.map_cons, List.mapM_cons] at hdecode
      obtain ⟨x, hx, hdecode⟩ := bind_eq_ok_iff.mp hdecode
      obtain ⟨xs, hxs, rfl⟩ := bind_pure_eq_ok_iff.mp hdecode
      rw [List.forall_mem_cons]
      refine ((h hv first hx).of_imp And.left).bind ?_
      rintro _ rfl
      exact ((ih hmore others hxs).of_imp And.right).map fun _ hys => congrArg _ hys

/-- A list is read item by item, one level deeper. -/
lemma ReadsAs.list (h : ReadsAs (depth - 1) read decode) :
    ReadsAs depth (readList read) (decodeNullable (decodeItems decode)) := by
  refine ReadsAs.nullable ?_
  intro v raw xs hcloses hraw hdecode
  cases Located.holds_of_raw hraw with
  | @array depth _ items raws inside =>
    rw [collapsed, collapsedItems_eq] at hdecode
    exact (yields_readAll h hcloses inside hdecode).of_imp distinctKeys_array_iff.mp
  | null | boolean | number | string | object => cases hdecode

/-- Items that pass their checks are read. -/
lemma readChecked_eq_ok {check : Json → Except ShapeError α} {items : Items} {raws : List Json}
    {xs : List α} (hraws : Located.itemRaws depth items = .ok raws)
    (hcheck : (raws.map collapsed).mapM check = .ok xs) :
    items.readChecked (·.value depth) check = .ok xs := by
  induction raws generalizing items xs with
  | nil =>
    cases Located.holdsItems_of_itemRaws hraws
    cases hcheck
    rfl
  | cons raw raws ih =>
    cases Located.holdsItems_of_itemRaws hraws with
    | item first others =>
      rw [List.map_cons, List.mapM_cons] at hcheck
      obtain ⟨x, hx, hcheck⟩ := bind_eq_ok_iff.mp hcheck
      obtain ⟨xs, hxs, rfl⟩ := bind_pure_eq_ok_iff.mp hcheck
      have hvalue := Located.value_eq_ok_iff.mpr ⟨raw, first, rfl⟩
      refine bind_eq_ok_iff.mpr ⟨raw.collapsed, hvalue, ?_⟩
      rw [hx]
      exact bind_pure_eq_ok_iff.mpr ⟨xs, ih others hxs, rfl⟩

/-- The next item is taken. -/
lemma Json.Cursor.next_item {v : Located} {more : Items} {text rest : Bytes} {x : α}
    {missing : ShapeError} (hread : read v = .ok x) (hrest : v.rest = .ok rest) :
    Cursor.next { items := .item v more, rest := text } read missing =
      .ok (x, { items := more, rest }) := by
  rw [Cursor.next, Cursor.next?]
  dsimp only
  rw [hread, hrest]
  rfl

/-- A path is read as it is decoded. -/
lemma readsAs_readPath (depth : Nat) :
    ReadsAs depth (PathElement.readPath (depth - 1))
      (decodeNullable (decodeItems PathElement.decode)) := by
  refine ReadsAs.nullable ?_
  intro v raw path hcloses hraw hdecode
  cases Located.holds_of_raw hraw with
  | @array depth _ items raws inside =>
    rw [collapsed, collapsedItems_eq] at hdecode
    exact .of_ok (readChecked_eq_ok inside hdecode) rfl
  | null | boolean | number | string | object => cases hdecode

end

/-! ### Members -/

section

variable {α β σ : Type} {depth : Nat} {read : Located → Except Fault β} {key : String}
  {parts : Entries (Located × Json)} {part : String × Located × Json}

/-- The entries that are written in the trees of parts. -/
def written (parts : Entries (Located × Json)) : Entries Json :=
  parts.map fun part => (part.1, part.2.2)

/-- The keys of the parts are those that are written. -/
lemma keys_written (parts : Entries (Located × Json)) : (written parts).keys = parts.keys := by
  rw [written, Entries.keys, List.map_map]
  rfl

/-- A part is the tree of a member with what is written in it. -/
def IsPart (depth : Nat) (part : String × Located × Json) : Prop :=
  part.2.1.Closes ∧ part.2.1.raw depth = .ok part.2.2

/-- What has been gathered with one more part, whatever the fault is if that fails. -/
def gatherPart (field : FieldReader σ) (gathered : σ) (part : String × Located × Json) :
    Except Unit σ :=
  match field gathered part.1 with
  | .error _ => .error ()
  | .ok read => (read part.2.1).mapError fun _ => ()

/-- Members are gathered part by part. -/
lemma exists_parts {members : Members} {raws : Entries Json} (hcloses : members.Closes)
    (hraws : Located.memberRaws depth members = .ok raws) :
    ∃ parts, written parts = raws ∧ (∀ part ∈ parts, IsPart depth part) ∧
      ∀ {σ : Type} (field : FieldReader σ) (gathered gathered' : σ),
        members.gather field gathered = .ok gathered' ↔
          parts.foldlM (gatherPart field) gathered = .ok gathered' := by
  induction raws generalizing members with
  | nil =>
    cases Located.holdsMembers_of_memberRaws hraws with
    | done after =>
      refine ⟨[], rfl, nofun, fun field gathered gathered' => ?_⟩
      rw [Members.gather, List.foldlM_nil, Except.ok.injEq]
      exact Except.ok.injEq _ _ ▸ Iff.rfl
  | cons raw raws ih =>
    cases Located.holdsMembers_of_memberRaws hraws with
    | @member key afterKey rest name v more raw _ text first others =>
      obtain ⟨hv, hmore⟩ := hcloses
      obtain ⟨parts, rfl, hparts, hgather⟩ := ih hmore others
      refine ⟨(name, v, raw) :: parts, rfl, List.forall_mem_cons.mpr ⟨⟨hv, first⟩, hparts⟩, ?_⟩
      intro σ field gathered gathered'
      have hfirst : (Members.member key afterKey v more).gather field gathered =
          match field gathered name with
          | .error error => .error (error.before (closeObject afterKey))
          | .ok read => read v >>= fun gathered => more.gather field gathered := by
        rw [Members.gather, text]
        rfl
      rw [hfirst, List.foldlM_cons, gatherPart]
      dsimp only
      cases field gathered name with
      -- A key that is refused ends both, though with different errors.
      | error error => exact ⟨nofun, nofun⟩
      | ok read =>
        simp only [bind_eq_ok_iff, mapError_eq_ok_iff, hgather]

/-- What a part of a record comes to with one more member: what is read, if the member has the key
of the part and is the first that has it. -/
def takeOnce (read : Located → Except Fault β) (key : String) (old? : Option β)
    (part : String × Located × Json) :
    Except Unit (Option β) :=
  if part.1 = key then
    match old? with
    | some _ => .error ()
    | none => do return some (← (read part.2.1).mapError fun _ => ())
  else .ok old?

/-- A part with the key is taken exactly if it is the first one and can be read. -/
lemma takeOnce_self_eq_ok_iff {old? x? : Option β} {v : Located × Json} :
    takeOnce read key old? (key, v) = .ok x? ↔ old? = none ∧ ∃ x, read v.1 = .ok x ∧
      x? = some x := by
  unfold takeOnce
  rw [if_pos rfl]
  cases old? with
  | some old => exact ⟨nofun, nofun⟩
  | none => simp only [bind_pure_eq_ok_iff, mapError_eq_ok_iff, true_and]

/-- A part with another key is not taken. -/
lemma takeOnce_of_ne (h : part.1 ≠ key) (old? : Option β) :
    takeOnce read key old? part = .ok old? :=
  if_neg h

/-- From parts without the key nothing is taken. -/
lemma foldlM_takeOnce_of_not_mem (h : key ∉ parts.keys) (old? : Option β) :
    parts.foldlM (takeOnce read key) old? = .ok old? := by
  induction parts with
  | nil => rfl
  | cons part parts ih =>
    rw [Entries.keys_cons, List.mem_cons, not_or] at h
    obtain ⟨hne, hrest⟩ := h
    rw [List.foldlM_cons, takeOnce_of_ne (Ne.symm hne)]
    exact ih hrest

/-- A key that comes once more ends the reading. -/
lemma foldlM_takeOnce_some_of_mem (h : key ∈ parts.keys) (old : β) :
    parts.foldlM (takeOnce read key) (some old) = .error () := by
  induction parts with
  | nil => cases h
  | cons part parts ih =>
    rw [List.foldlM_cons]
    by_cases hkey : part.1 = key
    · unfold takeOnce
      rw [if_pos hkey]
      rfl
    · rw [takeOnce_of_ne hkey]
      exact ih ((List.mem_cons.mp h).resolve_left (Ne.symm hkey))

/-- Of the members with a key, one is read, and there may be no other. -/
lemma foldlM_takeOnce_eq_ok_iff {before after : Entries (Located × Json)} {v : Located × Json}
    {x? : Option β} (hbefore : key ∉ before.keys) :
    (before ++ (key, v) :: after).foldlM (takeOnce read key) none = .ok x? ↔
      key ∉ after.keys ∧ ∃ x, read v.1 = .ok x ∧ x? = some x := by
  have hfold : (before ++ (key, v) :: after).foldlM (takeOnce read key) none =
      takeOnce read key none (key, v) >>= fun x? => after.foldlM (takeOnce read key) x? := by
    rw [List.foldlM_append, foldlM_takeOnce_of_not_mem hbefore]
    rfl
  rw [hfold, bind_eq_ok_iff]
  constructor
  · rintro ⟨y?, hy, hafter⟩
    obtain ⟨-, y, hread, rfl⟩ := takeOnce_self_eq_ok_iff.mp hy
    have hagain : key ∉ after.keys := by
      intro hmem
      rw [foldlM_takeOnce_some_of_mem hmem] at hafter
      cases hafter
    rw [foldlM_takeOnce_of_not_mem hagain] at hafter
    exact ⟨hagain, y, hread, (Except.ok.inj hafter).symm⟩
  · rintro ⟨hagain, y, hread, rfl⟩
    exact ⟨some y, takeOnce_self_eq_ok_iff.mpr ⟨rfl, y, hread, rfl⟩,
      foldlM_takeOnce_of_not_mem hagain _⟩

/-- A part of a record is what is decoded from under its key.  It is read if no key is repeated. -/
lemma yields_takeOnce (hparts : ∀ part ∈ parts, IsPart depth part)
    {decode : Json → Except ShapeError α} (use : Option β → α)
    (hread : ReadsAs depth (fun v => read v >>= fun y => pure (use (some y))) decode) {x : α}
    (hdecode : Entries.decodeOr decode (use none)
      key (Entries.merge (collapsedEntries (written parts))) = .ok x) :
    Yields (parts.foldlM (takeOnce read key) none) (Json.object (written parts)).DistinctKeys
      fun x? => use x? = x := by
  rw [Entries.decodeOr, lookup_merge_collapsedEntries] at hdecode
  cases hlookup : parts.lookup key with
  | none =>
    have hkey : key ∉ parts.keys := Entries.lookup_eq_none_iff.mp hlookup
    rw [Entries.last?_eq_none_iff.mpr (keys_written parts ▸ hkey)] at hdecode
    exact .of_ok (foldlM_takeOnce_of_not_mem hkey none) (Except.ok.inj hdecode)
  | some found =>
    obtain ⟨v, raw⟩ := found
    obtain ⟨before, after, rfl, hbefore⟩ := List.lookup_eq_some_iff.mp hlookup
    have hfirst : key ∉ Entries.keys before :=
      Entries.lookup_eq_none_iff.mp (List.lookup_eq_none_iff.mpr hbefore)
    have hwritten : written (before ++ (key, v, raw) :: after) =
        written before ++ (key, raw) :: written after :=
      List.map_append
    have hpart : IsPart depth (key, v, raw) := hparts _ (List.mem_append_right _ List.mem_cons_self)
    rw [hwritten] at hdecode ⊢
    -- What is decoded is the last value under the key.  What is read is the first, so that there
    -- may be no other.
    have honly : key ∉ Entries.keys after →
        Yields (read v >>= fun y => pure (use (some y))) raw.DistinctKeys (· = x) := by
      intro hagain
      rw [Entries.last?_append_cons (keys_written after ▸ hagain)] at hdecode
      exact hread hpart.1 hpart.2 hdecode
    refine ⟨?_, ?_⟩
    · intro x? hx
      obtain ⟨hagain, y, hy, rfl⟩ := (foldlM_takeOnce_eq_ok_iff hfirst).mp hx
      exact (honly hagain).sound _ (bind_pure_eq_ok_iff.mpr ⟨y, hy, rfl⟩)
    · intro hdistinct
      obtain ⟨hnodup, hvalues⟩ := distinctKeys_object_iff.mp hdistinct
      rw [Entries.keys, List.map_append, List.nodup_append, List.map_cons,
        List.nodup_cons] at hnodup
      have hagain : key ∉ Entries.keys after := keys_written after ▸ hnodup.2.1.1
      obtain ⟨_, hx⟩ :=
        (honly hagain).total (hvalues (key, raw) (List.mem_append_right _ List.mem_cons_self))
      obtain ⟨y, hy, -⟩ := bind_pure_eq_ok_iff.mp hx
      exact ⟨some y, (foldlM_takeOnce_eq_ok_iff hfirst).mpr ⟨hagain, y, hy, rfl⟩⟩

/-- A part that may come once is gathered exactly if it is the first one and can be read. -/
lemma gatherPart_once_eq_ok_iff {field : FieldReader σ} {gathered gathered' : σ} {name : String}
    {old? : Option β} {set : β → σ} (h : field gathered part.1 = once name old? read set) :
    gatherPart field gathered part = .ok gathered' ↔ old? = none ∧ ∃ x, read part.2.1 = .ok x ∧
      gathered' = set x := by
  rw [gatherPart, h]
  cases old? with
  | some old => exact ⟨nofun, nofun⟩
  | none => simp only [once, mapError_eq_ok_iff, bind_pure_eq_ok_iff, true_and]

end

end GraphqlClient
