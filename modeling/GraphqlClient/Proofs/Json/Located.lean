import GraphqlClient.Json.Reader
import GraphqlClient.Proofs.Json.Values
import GraphqlClient.Proofs.Outcome
import Mathlib

/-!
# What stands in the tree of a text

The value of a tree as it is written, with repeated keys (`Located.raw`): where there is one, the
text goes on behind it.  An array is followed by its closing bracket, which is looked for once more
by who takes a number of items out of the array (`Located.Closes`), and where it is found there are
no further items (`Located.Ends`).
-/

namespace GraphqlClient.Json

namespace Located

/-! ### Values as they are written -/

mutual

/-- The value by itself, in which every object has all the entries that are written. -/
def raw (depth : Nat) : Located → Except Fault Json
  | .null _ => .ok .null
  | .boolean b _ => .ok (.boolean b)
  | .number start _ => do return .number (← readNumber start).1
  | .string start _ => do return .string (← readString start).1
  | .array start items =>
    match depth with
    | 0 => .error (SyntaxError.nestedTooDeeply.with start)
    | depth + 1 => do return .array (← itemRaws depth items)
  | .object start members =>
    match depth with
    | 0 => .error (SyntaxError.nestedTooDeeply.with start)
    | depth + 1 => do return .object (← memberRaws depth members)
  | .broken fault => .error fault.wanted

def itemRaws (depth : Nat) : Items → Except Fault (List Json)
  | .done _ => .ok []
  | .item v more => do
    let v ← raw depth v
    return v :: (← itemRaws depth more)
  | .broken fault => .error fault.wanted

def memberRaws (depth : Nat) : Members → Except Fault (Entries Json)
  | .done _ => .ok []
  | .member key _ v more => do
    let (key, _) ← readString key
    let v ← raw depth v
    return (key, v) :: (← memberRaws depth more)
  | .broken fault => .error fault.wanted

end

mutual

/-- A value is what is written with the last value left under each key. -/
theorem value_eq (depth : Nat) : (v : Located) → v.value depth = (v.raw depth).map collapsed
  | .null _ | .boolean _ _ | .broken _ => rfl
  | .number start _ => by
    rw [value, raw]
    cases readNumber start <;> rfl
  | .string start _ => by
    rw [value, raw]
    cases readString start <;> rfl
  | .array start items => by
    cases depth with
    | zero => rfl
    | succ depth =>
      rw [value, raw, itemValues_eq depth items]
      cases itemRaws depth items <;> rfl
  | .object start members => by
    cases depth with
    | zero => rfl
    | succ depth =>
      rw [value, raw, memberValues_eq depth members]
      cases memberRaws depth members <;> rfl

/-- The values of items are their raw values with repeated keys collapsed. -/
theorem itemValues_eq (depth : Nat) : (items : Items) →
    itemValues depth items = (itemRaws depth items).map collapsedItems
  | .done _ | .broken _ => rfl
  | .item v more => by
    rw [itemValues, itemRaws, value_eq depth v, itemValues_eq depth more]
    cases raw depth v with
    | error fault => rfl
    | ok raw => cases itemRaws depth more <;> rfl

/-- The values of members are their raw values with repeated keys collapsed. -/
theorem memberValues_eq (depth : Nat) : (members : Members) →
    memberValues depth members = (memberRaws depth members).map collapsedEntries
  | .done _ | .broken _ => rfl
  | .member key _ v more => by
    rw [memberValues, memberRaws, value_eq depth v, memberValues_eq depth more]
    cases readString key with
    | error fault => rfl
    | ok name =>
      obtain ⟨name, after⟩ := name
      cases raw depth v with
      | error fault => rfl
      | ok raw => cases memberRaws depth more <;> rfl

end

/-- The value of a tree is its raw value with repeated keys collapsed. -/
lemma value_eq_ok_iff {depth : Nat} {v : Located} {w : Json} :
    v.value depth = .ok w ↔ ∃ raw, v.raw depth = .ok raw ∧ raw.collapsed = w := by
  rw [value_eq, map_eq_ok_iff]

/-! ### Trees by what is written -/

/-- What a tree is, by the value that is written in it. -/
inductive Holds : Nat → Located → Json → Prop
  | null {depth : Nat} (after : Bytes) : Holds depth (.null after) .null
  | boolean {depth : Nat} (b : Bool) (after : Bytes) : Holds depth (.boolean b after) (.boolean b)
  | number {depth : Nat} {start after rest : Bytes} {n : Number}
      (text : readNumber start = .ok (n, rest)) :
      Holds depth (.number start after) (.number n)
  | string {depth : Nat} {start after rest : Bytes} {s : String}
      (text : readString start = .ok (s, rest)) :
      Holds depth (.string start after) (.string s)
  | array {depth : Nat} {start : Bytes} {items : Items} {raws : List Json}
      (inside : itemRaws depth items = .ok raws) :
      Holds (depth + 1) (.array start items) (.array raws)
  | object {depth : Nat} {start : Bytes} {members : Members} {raws : Entries Json}
      (inside : memberRaws depth members = .ok raws) :
      Holds (depth + 1) (.object start members) (.object raws)

/-- What the items of an array are, by the values that are written in them. -/
inductive HoldsItems (depth : Nat) : Items → List Json → Prop
  | done (after : Bytes) : HoldsItems depth (.done after) []
  | item {v : Located} {more : Items} {raw : Json} {raws : List Json}
      (first : v.raw depth = .ok raw)
      (others : itemRaws depth more = .ok raws) : HoldsItems depth (.item v more) (raw :: raws)

/-- What the members of an object are, by the entries that are written in them. -/
inductive HoldsMembers (depth : Nat) : Members → Entries Json → Prop
  | done (after : Bytes) : HoldsMembers depth (.done after) []
  | member {key afterKey rest : Bytes} {name : String} {v : Located} {more : Members}
      {raw : Json} {raws : Entries Json}
      (text : readString key = .ok (name, rest)) (first : v.raw depth = .ok raw)
      (others : memberRaws depth more = .ok raws) :
      HoldsMembers depth (.member key afterKey v more) ((name, raw) :: raws)

variable {depth : Nat}

/-- A tree with a raw value holds it. -/
lemma holds_of_raw {v : Located} {raw : Json} (h : v.raw depth = .ok raw) : Holds depth v raw := by
  cases v with
  | null after =>
    cases h
    exact .null after
  | boolean b after =>
    cases h
    exact .boolean b after
  | number start after =>
    obtain ⟨⟨n, rest⟩, hn, h⟩ := bind_eq_ok_iff.mp h
    cases h
    exact .number hn
  | string start after =>
    obtain ⟨⟨s, rest⟩, hs, h⟩ := bind_eq_ok_iff.mp h
    cases h
    exact .string hs
  | array start items =>
    cases depth with
    | zero => cases h
    | succ depth =>
      obtain ⟨raws, hraws, h⟩ := bind_eq_ok_iff.mp h
      cases h
      exact .array hraws
  | object start members =>
    cases depth with
    | zero => cases h
    | succ depth =>
      obtain ⟨raws, hraws, h⟩ := bind_eq_ok_iff.mp h
      cases h
      exact .object hraws
  | broken fault => cases h

/-- Items with raw values hold them. -/
lemma holdsItems_of_itemRaws {items : Items} {raws : List Json}
    (h : itemRaws depth items = .ok raws) :
    HoldsItems depth items raws := by
  cases items with
  | done after =>
    cases h
    exact .done after
  | item v more =>
    obtain ⟨raw, hraw, h⟩ := bind_eq_ok_iff.mp h
    obtain ⟨raws, hraws, h⟩ := bind_eq_ok_iff.mp h
    cases h
    exact .item hraw hraws
  | broken fault => cases h

/-- Members with raw values hold them. -/
lemma holdsMembers_of_memberRaws {members : Members} {raws : Entries Json}
    (h : memberRaws depth members = .ok raws) : HoldsMembers depth members raws := by
  cases members with
  | done after =>
    cases h
    exact .done after
  | member key afterKey v more =>
    obtain ⟨⟨name, rest⟩, hname, h⟩ := bind_eq_ok_iff.mp h
    obtain ⟨raw, hraw, h⟩ := bind_eq_ok_iff.mp h
    obtain ⟨raws, hraws, h⟩ := bind_eq_ok_iff.mp h
    cases h
    exact .member hname hraw hraws
  | broken fault => cases h

/-- What a tree holds is its raw value. -/
lemma Holds.raw_eq {v : Located} {raw : Json} (h : Holds depth v raw) : v.raw depth = .ok raw := by
  cases h with
  | null | boolean => rfl
  | number text | string text =>
    rw [Located.raw, text]
    rfl
  | array inside | object inside =>
    rw [Located.raw, inside]
    rfl

/-- What items hold are their raw values. -/
lemma HoldsItems.itemRaws_eq {items : Items} {raws : List Json} (h : HoldsItems depth items raws) :
    itemRaws depth items = .ok raws := by
  cases h with
  | done => rfl
  | item first others =>
    rw [itemRaws, first, others]
    rfl

/-- What members hold are their raw values. -/
lemma HoldsMembers.memberRaws_eq {members : Members} {raws : Entries Json}
    (h : HoldsMembers depth members raws) :
    memberRaws depth members = .ok raws := by
  cases h with
  | done => rfl
  | member text first others =>
    rw [memberRaws, text, first, others]
    rfl

/-! ### What follows a tree -/

/-- After items that have raw values the text goes on. -/
lemma exists_after_of_itemRaws {items : Items} {raws : List Json}
    (h : itemRaws depth items = .ok raws) :
    ∃ rest, items.after = .ok rest := by
  induction raws generalizing items with
  | nil =>
    cases holdsItems_of_itemRaws h with
    | done after => exact ⟨after, rfl⟩
  | cons raw raws ih =>
    cases holdsItems_of_itemRaws h with
    | item first others =>
      obtain ⟨rest, hrest⟩ := ih others
      exact ⟨rest, hrest⟩

/-- After members that have raw values the text goes on. -/
lemma exists_after_of_memberRaws {members : Members} {raws : Entries Json}
    (h : memberRaws depth members = .ok raws) : ∃ rest, members.after = .ok rest := by
  induction raws generalizing members with
  | nil =>
    cases holdsMembers_of_memberRaws h with
    | done after => exact ⟨after, rfl⟩
  | cons raw raws ih =>
    cases holdsMembers_of_memberRaws h with
    | member text first others =>
      obtain ⟨rest, hrest⟩ := ih others
      exact ⟨rest, hrest⟩

/-- The text goes on behind a value. -/
lemma exists_after_of_raw {v : Located} {raw : Json} (h : v.raw depth = .ok raw) :
    ∃ rest, v.after = .ok rest := by
  cases holds_of_raw h with
  | null after | boolean _ after => exact ⟨after, rfl⟩
  | @number _ _ after | @string _ _ after => exact ⟨after, rfl⟩
  | array inside => exact exists_after_of_itemRaws inside
  | object inside => exact exists_after_of_memberRaws inside

/-- A tree that has a raw value can be skipped. -/
lemma skip_of_raw {v : Located} {raw : Json} (h : v.raw depth = .ok raw) : v.skip = .ok () := by
  obtain ⟨rest, hrest⟩ := exists_after_of_raw h
  rw [skip, hrest]

/-- After a tree that has a raw value the text goes on, and the whole of it is known. -/
lemma exists_rest_of_raw {v : Located} {raw : Json} (h : v.raw depth = .ok raw) :
    ∃ rest, v.after = .ok rest ∧ v.rest = .ok rest := by
  obtain ⟨rest, hrest⟩ := exists_after_of_raw h
  exact ⟨rest, hrest, by rw [Located.rest, hrest]⟩

/-- The text goes on after a tree if the whole of it is known. -/
lemma after_eq_ok_of_rest {v : Located} {rest : Bytes} (h : v.rest = .ok rest) :
    v.after = .ok rest := by
  rw [Located.rest] at h
  split at h
  · next hafter =>
    cases h
    exact hafter
  · cases h

/-! ### What is read out of a tree -/

/-- Where a text is read, a text is written. -/
lemma raw_of_readText {expected text : String} {v : Located} (h : v.readText expected = .ok text)
    (depth : Nat) :
    v.raw depth = .ok (.string text) := by
  cases v with
  | string start after =>
    obtain ⟨⟨text', rest⟩, htext, rfl⟩ := map_eq_ok_iff.mp h
    exact (Holds.string htext).raw_eq
  | null | boolean | number | array | object | broken => cases h

/-- Items that are read all in the same way are written all in the same way. -/
lemma itemRaws_of_readAll {α : Type} {read : Located → Except Fault α} {write : α → Json}
    (hread : ∀ v x, read v = .ok x → v.raw depth = .ok (write x)) :
    (items : Items) → {xs : List α} →
    items.readAll read = .ok xs → itemRaws depth items = .ok (xs.map write)
  | .done after, _, h => by
    cases h
    exact (HoldsItems.done after).itemRaws_eq
  | .item v more, _, h => by
    obtain ⟨x, hx, h⟩ := bind_eq_ok_iff.mp h
    obtain ⟨xs, hxs, rfl⟩ := bind_pure_eq_ok_iff.mp h
    exact (HoldsItems.item (hread v x hx) (itemRaws_of_readAll hread more hxs)).itemRaws_eq
  | .broken _, _, h => by cases h

end Located

/-! ### Closing brackets -/

mutual

/-- In every array of the tree, the closing bracket comes after the last item. -/
def Located.Closes : Located → Prop
  | .array _ items => items.Closes
  | .object _ members => members.Closes
  | .null _ | .boolean _ _ | .number _ _ | .string _ _ | .broken _ => True

def Items.Closes : Items → Prop
  | .done _ | .broken _ => True
  | .item v more => v.Closes ∧ more.Closes ∧
    ∀ rest, more = .done rest → ∃ after, v.after = .ok after ∧ endArray after = .ok ()

def Members.Closes : Members → Prop
  | .done _ | .broken _ => True
  | .member _ _ v more => v.Closes ∧ more.Closes

end

namespace Located

variable {read : Bytes → Located}

/-- Where an item is read, there is one. -/
lemma items_ne_done (n : Nat) (text rest : Bytes) : items read n text ≠ .done rest := by
  cases n with
  | zero => exact nofun
  | succ n =>
    rw [items]
    exact nofun

/-- The items of an array are followed by its closing bracket if each of them closes. -/
lemma closes_items (hread : ∀ text, (read text).Closes) (n : Nat) (text : Bytes) :
    (items read n text).Closes := by
  induction n generalizing text with
  | zero => trivial
  | succ n ih =>
    rw [items]
    refine ⟨hread text, ?_, ?_⟩
    · split
      · trivial
      split
      · trivial
      split
      · trivial
      split
      · split
        · trivial
        split
        · trivial
        exact ih _
      · trivial
    -- There are no further items only where a bracket was seen behind this one.
    · intro rest hdone
      cases hafter : (read text).after with
      | error fault =>
        rw [hafter] at hdone
        cases hdone
      | ok after =>
        refine ⟨after, rfl, ?_⟩
        rw [hafter] at hdone
        dsimp only at hdone
        rw [endArray]
        cases hskip : skipBlanks after with
        | nil =>
          rw [hskip] at hdone
          cases hdone
        | cons b tail =>
          rw [hskip] at hdone
          dsimp only at hdone ⊢
          split at hdone
          · next hb => rw [if_pos hb]
          split at hdone
          · split at hdone
            · cases hdone
            split at hdone
            · cases hdone
            · exact absurd hdone (items_ne_done _ _ _)
          · cases hdone

/-- An array closes if each of its items does. -/
lemma closes_arrayItems (hread : ∀ text, (read text).Closes) (text : Bytes) :
    (arrayItems read text).Closes := by
  unfold arrayItems
  split
  · trivial
  split
  · trivial
  · exact closes_items hread _ _

/-- A member closes if its value does. -/
lemma closes_memberValue (hread : ∀ text, (read text).Closes) (text : Bytes) :
    (memberValue read text).Closes := by
  unfold memberValue
  split
  · trivial
  split
  · exact hread _
  · trivial

/-- The members of an object close if each of their values does. -/
lemma closes_members (hread : ∀ text, (read text).Closes) (n : Nat) (key : Bytes) :
    (members read n key).Closes := by
  induction n generalizing key with
  | zero => trivial
  | succ n ih =>
    rw [members]
    split
    · trivial
    refine ⟨closes_memberValue hread _, ?_⟩
    split
    · trivial
    split
    · trivial
    split
    · trivial
    split
    · split
      · trivial
      split
      · exact ih _
      split
      · trivial
      · trivial
    · trivial

/-- An object closes if each of its values does. -/
lemma closes_objectMembers (hread : ∀ text, (read text).Closes) (text : Bytes) :
    (objectMembers read text).Closes := by
  unfold objectMembers
  split
  · trivial
  split
  · trivial
  split
  · exact closes_members hread _ _
  · trivial

/-- A word closes as the tree that it stands for does. -/
lemma closes_ofWord {letters : List Char} {text : Bytes} {node : Bytes → Located}
    (hnode : ∀ after, (node after).Closes) : (ofWord letters text node).Closes := by
  unfold ofWord
  split
  · exact hnode _
  · trivial

/-- Whatever a text is, the arrays in its tree close. -/
theorem closes_valueWithin (fuel : Nat) (text : Bytes) : (valueWithin fuel text).Closes := by
  induction fuel generalizing text with
  | zero => trivial
  | succ fuel ih =>
    rw [valueWithin]
    split
    · trivial
    split
    · exact closes_ofWord fun _ => trivial
    split
    · exact closes_ofWord fun _ => trivial
    split
    · exact closes_ofWord fun _ => trivial
    split
    · split <;> trivial
    split
    · split <;> trivial
    split
    · exact closes_arrayItems ih _
    split
    · exact closes_objectMembers ih _
    · trivial

end Located

/-! ### Ends of arrays -/

/-- An array is over exactly if its closing bracket comes next. -/
lemma endArray_eq_ok_iff {text : Bytes} :
    endArray text = .ok () ↔ ∃ rest, skipBlanks text = octet ']' :: rest := by
  rw [endArray]
  cases skipBlanks text with
  | nil => exact ⟨nofun, nofun⟩
  | cons b rest =>
    dsimp only
    by_cases hb : b = octet ']'
    · rw [if_pos hb, hb]
      exact ⟨fun _ => ⟨rest, rfl⟩, fun _ => rfl⟩
    · rw [if_neg hb]
      refine ⟨fun h => ?_, fun ⟨_, h⟩ => absurd (List.cons.inj h).1 hb⟩
      split at h
      · split at h
        · cases h
        split at h <;> cases h
      · cases h

/-- An array goes on where anything but its closing bracket comes next. -/
lemma endArray_ne_ok {text rest : Bytes} (hskip : skipBlanks text = rest)
    (hrest : ∀ tail, rest ≠ octet ']' :: tail) :
    endArray text ≠ .ok () := by
  intro hend
  obtain ⟨tail, htail⟩ := endArray_eq_ok_iff.mp hend
  exact hrest tail (hskip.symm.trans htail)

/-- There is nothing more where the text goes on with the closing bracket.  `text` follows the
opening bracket or the items that came before. -/
def Items.Ends (text : Bytes) : Items → Prop
  | .done _ => True
  | .item v more => endArray text ≠ .ok () ∧ ∀ after, v.after = .ok after → more.Ends after
  | .broken _ => endArray text ≠ .ok ()

/-- All items have been taken if the closing bracket comes next. -/
lemma Items.Ends.eq_done {text : Bytes} {items : Items} (h : items.Ends text)
    (hend : endArray text = .ok ()) :
    ∃ after, items = .done after := by
  cases items with
  | done after => exact ⟨after, rfl⟩
  | item v more => exact absurd hend h.1
  | broken fault => exact absurd hend h

/-- In an array, there is nothing more behind the closing bracket. -/
def Located.Ends : Located → Prop
  | .array start items => items.Ends (start.drop 1)
  | .null _ | .boolean _ _ | .number _ _ | .string _ _ | .object _ _ | .broken _ => True

namespace Located

variable {read : Bytes → Located}

/-- There is nothing behind the closing bracket of items that go on. -/
lemma ends_items (n : Nat) {before : Bytes} (text : Bytes) (hbefore : endArray before ≠ .ok ()) :
    (items read n text).Ends before := by
  induction n generalizing before text with
  | zero => exact hbefore
  | succ n ih =>
    rw [items]
    refine ⟨hbefore, fun after hafter => ?_⟩
    rw [hafter]
    dsimp only
    split
    · next hskip => exact endArray_ne_ok hskip fun _ => (List.cons_ne_nil _ _).symm
    next b rest hskip =>
    split
    · trivial
    next hb =>
    have hmore : endArray after ≠ .ok () := endArray_ne_ok hskip fun _ h => hb (List.cons.inj h).1
    split
    · split
      · exact hmore
      split
      · exact hmore
      · exact ih _ hmore
    · exact hmore

/-- There is nothing behind the closing bracket of an array. -/
lemma ends_arrayItems (text : Bytes) : (arrayItems read text).Ends text := by
  unfold arrayItems
  split
  · next hskip => exact endArray_ne_ok hskip fun _ => (List.cons_ne_nil _ _).symm
  next b rest hskip =>
  split
  · trivial
  next hb => exact ends_items _ _ (endArray_ne_ok hskip fun _ h => hb (List.cons.inj h).1)

/-- A word ends as the tree that it stands for does. -/
lemma ends_ofWord {letters : List Char} {text : Bytes} {node : Bytes → Located}
    (hnode : ∀ after, (node after).Ends) :
    (ofWord letters text node).Ends := by
  unfold ofWord
  split
  · exact hnode _
  · trivial

/-- Whatever a text is, the array in its tree ends with the closing bracket. -/
theorem ends_valueWithin (fuel : Nat) (text : Bytes) : (valueWithin fuel text).Ends := by
  cases fuel with
  | zero => trivial
  | succ fuel =>
    rw [valueWithin]
    split
    · trivial
    split
    · exact ends_ofWord fun _ => trivial
    split
    · exact ends_ofWord fun _ => trivial
    split
    · exact ends_ofWord fun _ => trivial
    split
    · split <;> trivial
    split
    · split <;> trivial
    split
    · exact ends_arrayItems _
    split <;> trivial

end Located

end GraphqlClient.Json
