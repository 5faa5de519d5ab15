import GraphqlClient.Proofs.Json.Located
import GraphqlClient.Proofs.Json.Numbers
import GraphqlClient.Proofs.Json.Strings

/-!
# Values read as they are spelled

A tree has exactly the value that its text writes (`Json.readAs_raw_eq_ok_iff`).  So a text is read
as a value exactly if it is the text of that value, up to repeated keys, and nests no deeper than is
allowed (`Json.parse_eq_ok_iff`).
-/

namespace GraphqlClient.Json

open Utf8 (encode octet_inj encode_cons_of_ascii)
open Located

variable {rest : Bytes}

/-! ### Blanks in front -/

/-- Blanks after blanks are blanks. -/
lemma IsBlanks.append {blanks blanks' : List Char} (h : IsBlanks blanks) (h' : IsBlanks blanks') :
    IsBlanks (blanks ++ blanks') := fun c hc => (List.mem_append.mp hc).elim (h c) (h' c)

/-- Blanks in front of an element belong to it. -/
lemma SpellsElement.blanks {d : Dialect} {v : Json} {blanks text : List Char}
    (h : SpellsElement d v text) (hblanks : IsBlanks blanks) :
    SpellsElement d v (blanks ++ text) := by
  cases h with
  | padded left value right =>
    rw [← List.append_assoc]
    exact .padded (hblanks.append left) value right

/-- Blanks may stand before items. -/
lemma SpellsItems.blanks {d : Dialect} {items : List Json} {blanks text : List Char}
    (h : SpellsItems d items text) (hblanks : IsBlanks blanks) :
    SpellsItems d items (blanks ++ text) := by
  cases h with
  | one item => exact .one (item.blanks hblanks)
  | more item others =>
    rw [← List.append_assoc]
    exact .more (item.blanks hblanks) others

/-- Blanks may stand before a member. -/
lemma SpellsMember.blanks {d : Dialect} {entry : String × Json} {blanks text : List Char}
    (h : SpellsMember d entry text) (hblanks : IsBlanks blanks) :
    SpellsMember d entry (blanks ++ text) := by
  cases h with
  | entry left name right value =>
    rw [← List.append_assoc]
    exact .entry (hblanks.append left) name right value

/-- Blanks may stand before members. -/
lemma SpellsMembers.blanks {d : Dialect} {entries : Entries Json} {blanks text : List Char}
    (h : SpellsMembers d entries text) (hblanks : IsBlanks blanks) :
    SpellsMembers d entries (blanks ++ text) := by
  cases h with
  | one member => exact .one (member.blanks hblanks)
  | more member others =>
    rw [← List.append_assoc]
    exact .more (member.blanks hblanks) others

/-- A value is read in the same way after its blanks are skipped. -/
lemma valueWithin_skipBlanks (fuel : Nat) (text : Bytes) :
    valueWithin fuel (skipBlanks text) = valueWithin fuel text := by
  cases fuel with
  | zero => rfl
  | succ fuel => rw [valueWithin, valueWithin, skipBlanks_skipBlanks]

/-! ### What is read is spelled -/

/-- A text starts with the text of a value, after blanks. -/
structure Starts (depth : Nat) (text : Bytes) (raw : Json) (rest : Bytes)
    (blanks inner : List Char) : Prop where
  isBlanks : IsBlanks blanks
  spells : Spells .strict raw inner
  depth_le : raw.depth ≤ depth
  text_eq : text = encode blanks ++ (encode inner ++ rest)

/-- What a reading takes is spelled. -/
def Sound (read : Bytes → Located) : Prop :=
  ∀ {depth : Nat} {text : Bytes} {raw : Json}, (read text).raw depth = .ok raw →
    ∃ rest, (read text).after = .ok rest ∧ ∃ blanks inner, Starts depth text raw rest blanks inner

/-- A word is read exactly if the text starts with its letters. -/
lemma word_eq_ok_iff {letters : List Char} {text : Bytes} :
    word letters text = .ok rest ↔ text = letters.map octet ++ rest := by
  induction letters generalizing text with
  | nil => rw [word, Except.ok.injEq, List.map_nil, List.nil_append]
  | cons c letters ih =>
    cases text with
    | nil => exact ⟨nofun, nofun⟩
    | cons b text =>
      rw [word]
      split
      · next h => rw [ih, List.map_cons, List.cons_append, List.cons.injEq, and_iff_right h]
      · next h =>
        refine ⟨nofun, fun heq => ?_⟩
        rw [List.map_cons, List.cons_append, List.cons.injEq] at heq
        exact absurd heq.1 h

/-- A tree that is made of a word has a value only if the text starts with the word. -/
lemma exists_of_raw_ofWord {letters : List Char} {text : Bytes} {node : Bytes → Located}
    {depth : Nat} {raw : Json} (h : (Located.ofWord letters text node).raw depth = .ok raw) :
    ∃ after, text = letters.map octet ++ after ∧ Located.ofWord letters text node = node after := by
  unfold Located.ofWord at h ⊢
  split at h
  · next after hword => exact ⟨after, word_eq_ok_iff.mp hword, rfl⟩
  · cases h

/-- A value that is read is spelled, with the blanks around it. -/
lemma Sound.exists_spellsElement {read : Bytes → Located} (hread : Sound read) {depth : Nat}
    {text : Bytes} {raw : Json} (h : (read text).raw depth = .ok raw) :
    ∃ after inner, (read text).after = .ok after ∧ SpellsElement .strict raw inner ∧
      raw.depth ≤ depth ∧
      text = encode inner ++ skipBlanks after := by
  obtain ⟨after, hafter, blanks, inner, hstarts⟩ := hread h
  obtain ⟨blanks', hblanks', hskip⟩ := exists_skipBlanks after
  refine ⟨after, _, hafter, .padded hstarts.isBlanks hstarts.spells hblanks', hstarts.depth_le, ?_⟩
  rw [Utf8.encode_append, Utf8.encode_append, List.append_assoc, List.append_assoc, ← hskip]
  exact hstarts.text_eq

/-- Items that are read are spelled, from the first one on. -/
lemma exists_spellsItems {read : Bytes → Located} (hread : Sound read) {depth n : Nat}
    {text : Bytes} {raws : List Json} (h : itemRaws depth (items read n text) = .ok raws) :
    ∃ after inner, (items read n text).after = .ok after ∧ SpellsItems .strict raws inner ∧
      (∀ raw ∈ raws, raw.depth ≤ depth) ∧ text = encode inner ++ octet ']' :: after := by
  -- The induction is on the number of items that may still be taken, not on what is read, since
  -- `items` recurses on that.
  induction n generalizing text raws with
  | zero => cases h
  | succ n ih =>
    rw [items] at h ⊢
    simp only [itemRaws, bind_eq_ok_iff] at h
    obtain ⟨raw, hraw, more, hmore, h⟩ := h
    cases h
    obtain ⟨afterValue, inner, hafterValue, helement, hdepthValue, htext⟩ :=
      hread.exists_spellsElement hraw
    rw [hafterValue] at hmore ⊢
    dsimp only at hmore ⊢
    rw [Items.after]
    -- Behind an item there is the closing bracket, or a comma and then a further item.
    cases hskip : skipBlanks afterValue with
    | nil =>
      rw [hskip] at hmore
      cases hmore
    | cons b tail =>
      rw [hskip] at hmore htext
      dsimp only at hmore ⊢
      split at hmore
      · next hb =>
        cases hmore
        rw [if_pos hb]
        refine ⟨tail, _, rfl, .one helement, List.forall_mem_singleton.mpr hdepthValue, ?_⟩
        rw [← hb]
        exact htext
      · next hb =>
        rw [if_neg hb]
        split at hmore
        · next hcomma =>
          rw [if_pos hcomma]
          obtain ⟨blanks, hblanks, hafterComma⟩ := exists_skipBlanks tail
          cases hskipTail : skipBlanks tail with
          | nil =>
            rw [hskipTail] at hmore
            cases hmore
          | cons c tail' =>
            rw [hskipTail] at hmore hafterComma
            dsimp only at hmore ⊢
            split at hmore
            · cases hmore
            · next hc =>
              rw [if_neg hc]
              obtain ⟨after, others, hafter, hspells, hdepth, htail⟩ := ih hmore
              refine ⟨after, _, hafter, .more helement (hspells.blanks hblanks),
                List.forall_mem_cons.mpr ⟨hdepthValue, hdepth⟩, ?_⟩
              rw [htext, hcomma, hafterComma, htail]
              simp only [Utf8.encode_append, encode_cons_of_ascii (show ','.toNat < 128 by decide),
                List.append_assoc, List.cons_append]
        · cases hmore

/-- The value of a member is spelled after blanks and a colon. -/
lemma exists_of_raw_memberValue {read : Bytes → Located} {depth : Nat} {text : Bytes} {raw : Json}
    (h : (memberValue read text).raw depth = .ok raw) :
    ∃ blanks tail, IsBlanks blanks ∧ text = encode blanks ++ octet ':' :: tail ∧
      memberValue read text = read tail := by
  obtain ⟨blanks, hblanks, htext⟩ := exists_skipBlanks text
  unfold memberValue at h ⊢
  cases hskip : skipBlanks text with
  | nil =>
    rw [hskip] at h
    cases h
  | cons b tail =>
    rw [hskip] at h htext
    dsimp only at h ⊢
    split at h
    · next hb =>
      rw [if_pos hb]
      exact ⟨blanks, tail, hblanks, by rw [← hb]; exact htext, rfl⟩
    · cases h

/-- A member that is read is spelled, from the quote before its key to the blanks behind its
value. -/
lemma Sound.exists_spellsMember {read : Bytes → Located} (hread : Sound read) {depth : Nat}
    {key afterKey afterName : Bytes} {name : String} {raw : Json}
    (hkey : skipString key = .ok afterKey) (hname : readString key = .ok (name, afterName))
    (hraw : (memberValue read afterKey).raw depth = .ok raw) :
    ∃ after inner, (memberValue read afterKey).after = .ok after ∧
      SpellsMember .strict (name, raw) inner ∧
      raw.depth ≤ depth ∧ octet '"' :: key = encode inner ++ skipBlanks after := by
  obtain ⟨hskip, keyChars, hspellsKey, hkeyText⟩ := readString_eq_ok hname
  cases hkey.symm.trans hskip
  obtain ⟨between, afterColon, hbetween, hafterKey, hmember⟩ := exists_of_raw_memberValue hraw
  rw [hmember] at hraw ⊢
  obtain ⟨after, inner, hafter, helement, hdepth, hafterColon⟩ := hread.exists_spellsElement hraw
  have hmade :=
    SpellsMember.entry (List.forall_mem_nil _ : IsBlanks []) hspellsKey hbetween helement
  rw [String.ofList_toList] at hmade
  refine ⟨after, _, hafter, hmade, hdepth, ?_⟩
  rw [hkeyText, hafterKey, hafterColon]
  simp only [Utf8.encode_append, encode_cons_of_ascii (show '"'.toNat < 128 by decide),
    encode_cons_of_ascii (show ':'.toNat < 128 by decide), List.append_assoc, List.cons_append,
    List.nil_append]

/-- Members that are read are spelled, from the first one on. -/
lemma exists_spellsMembers {read : Bytes → Located} (hread : Sound read) {depth n : Nat}
    {key : Bytes} {raws : Entries Json} (h : memberRaws depth (members read n key) = .ok raws) :
    ∃ after inner, (members read n key).after = .ok after ∧ SpellsMembers .strict raws inner ∧
      (∀ raw ∈ raws, raw.2.depth ≤ depth) ∧
        octet '"' :: key = encode inner ++ octet '\x7d' :: after := by
  induction n generalizing key raws with
  | zero => cases h
  | succ n ih =>
    rw [members] at h ⊢
    cases hkey : skipString key with
    | error fault =>
      rw [hkey] at h
      cases h
    | ok afterKey =>
      rw [hkey] at h
      dsimp only at h ⊢
      simp only [memberRaws, bind_eq_ok_iff, Prod.exists] at h
      obtain ⟨name, afterName, hname, raw, hraw, more, hmore, h⟩ := h
      cases h
      obtain ⟨afterValue, inner, hafterValue, hentry, hdepthValue, htext⟩ :=
        hread.exists_spellsMember hkey hname hraw
      rw [hafterValue] at hmore ⊢
      dsimp only at hmore ⊢
      rw [Members.after]
      cases hskip : skipBlanks afterValue with
      | nil =>
        rw [hskip] at hmore
        cases hmore
      | cons b tail =>
        rw [hskip] at hmore htext
        dsimp only at hmore ⊢
        split at hmore
        · next hb =>
          cases hmore
          rw [if_pos hb]
          refine ⟨tail, _, rfl, .one hentry, List.forall_mem_singleton.mpr hdepthValue, ?_⟩
          rw [← hb]
          exact htext
        · next hb =>
          rw [if_neg hb]
          split at hmore
          · next hcomma =>
            rw [if_pos hcomma]
            -- The blanks behind the comma belong to the next member, in front of its key.
            obtain ⟨blanks, hblanks, hafterComma⟩ := exists_skipBlanks tail
            cases hskipTail : skipBlanks tail with
            | nil =>
              rw [hskipTail] at hmore
              cases hmore
            | cons c tail' =>
              rw [hskipTail] at hmore hafterComma
              dsimp only at hmore ⊢
              split at hmore
              · next hc =>
                rw [if_pos hc]
                obtain ⟨after, others, hafter, hspells, hdepth, htail⟩ := ih hmore
                refine ⟨after, _, hafter, .more hentry (hspells.blanks hblanks),
                  List.forall_mem_cons.mpr ⟨hdepthValue, hdepth⟩, ?_⟩
                rw [htext, hcomma, hafterComma, hc, htail]
                simp only [Utf8.encode_append,
                  encode_cons_of_ascii (show ','.toNat < 128 by decide), List.append_assoc,
                  List.cons_append]
              · split at hmore
                · cases hmore
                · cases hmore
          · cases hmore

/-- The items of an array that have values are spelled by the text up to the closing bracket. -/
lemma exists_spells_array {read : Bytes → Located} (hread : Sound read) {depth : Nat} {text : Bytes}
    {raws : List Json} (h : itemRaws depth (arrayItems read text) = .ok raws) :
    ∃ after inner, (arrayItems read text).after = .ok after ∧
      Spells .strict (.array raws) ('[' :: inner) ∧
      (∀ raw ∈ raws, raw.depth ≤ depth) ∧ text = encode inner ++ after := by
  obtain ⟨blanks, hblanks, htext⟩ := exists_skipBlanks text
  unfold arrayItems at h ⊢
  cases hskip : skipBlanks text with
  | nil =>
    rw [hskip] at h
    cases h
  | cons b tail =>
    rw [hskip] at h htext
    dsimp only at h ⊢
    split at h
    · next hb =>
      cases h
      rw [if_pos hb]
      refine ⟨tail, _, rfl, .emptyArray hblanks, nofun, ?_⟩
      rw [htext, hb, Utf8.encode_append, List.append_assoc]
      rfl
    · next hb =>
      rw [if_neg hb]
      obtain ⟨after, inner, hafter, hspells, hdepth, htail⟩ := exists_spellsItems hread h
      refine ⟨after, _, hafter, .array (hspells.blanks hblanks), hdepth, ?_⟩
      rw [htext, htail]
      simp only [Utf8.encode_append, List.append_assoc]
      rfl

/-- The members of an object that have values are spelled by the text up to the closing brace. -/
lemma exists_spells_object {read : Bytes → Located} (hread : Sound read) {depth : Nat}
    {text : Bytes} {raws : Entries Json}
    (h : memberRaws depth (objectMembers read text) = .ok raws) :
    ∃ after inner, (objectMembers read text).after = .ok after ∧
      Spells .strict (.object raws) ('\x7b' :: inner) ∧
      (∀ raw ∈ raws, raw.2.depth ≤ depth) ∧ text = encode inner ++ after := by
  obtain ⟨blanks, hblanks, htext⟩ := exists_skipBlanks text
  unfold objectMembers at h ⊢
  cases hskip : skipBlanks text with
  | nil =>
    rw [hskip] at h
    cases h
  | cons b tail =>
    rw [hskip] at h htext
    dsimp only at h ⊢
    split at h
    · next hb =>
      cases h
      rw [if_pos hb]
      refine ⟨tail, _, rfl, .emptyObject hblanks, nofun, ?_⟩
      rw [htext, hb, Utf8.encode_append, List.append_assoc]
      rfl
    · next hb =>
      rw [if_neg hb]
      split at h
      · next hquote =>
        rw [if_pos hquote]
        obtain ⟨after, inner, hafter, hspells, hdepth, htail⟩ := exists_spellsMembers hread h
        refine ⟨after, _, hafter, .object (hspells.blanks hblanks), hdepth, ?_⟩
        rw [htext, hquote, htail]
        simp only [Utf8.encode_append, List.append_assoc]
        rfl
      · cases h

/-- A text starts with the text of a value, and the tree of the value tells what follows it. -/
def SpelledFrom (l : Located) (depth : Nat) (raw : Json) (text : Bytes) : Prop :=
  ∃ after, l.after = .ok after ∧ ∃ inner, Spells .strict raw inner ∧ raw.depth ≤ depth ∧
    text = encode inner ++ after

/-- A word with a value is spelled by the text. -/
lemma spelledFrom_ofWord {c : Char} {letters : List Char}
    (hencode : encode (c :: letters) = (c :: letters).map octet) {node : Bytes → Located} {v : Json}
    {depth : Nat} (hspells : Spells .strict v (c :: letters)) (hdepth : v.depth ≤ depth)
    (hnode : ∀ after, (node after).raw depth = .ok v ∧ (node after).after = .ok after)
    {tail : Bytes} {raw : Json} (h : (Located.ofWord letters tail node).raw depth = .ok raw) :
    SpelledFrom (Located.ofWord letters tail node) depth raw (octet c :: tail) := by
  obtain ⟨after, htail, hword⟩ := exists_of_raw_ofWord h
  rw [hword] at h ⊢
  obtain ⟨hraw, hafter⟩ := hnode after
  obtain rfl := Except.ok.inj (hraw.symm.trans h)
  refine ⟨after, hafter, _, hspells, hdepth, ?_⟩
  rw [htail, hencode, List.map_cons, List.cons_append]

/-- A string with a value is spelled by the text. -/
lemma spelledFrom_string {depth : Nat} {tail after : Bytes} {raw : Json}
    (hskip : skipString tail = .ok after) (h : (Located.string tail after).raw depth = .ok raw) :
    SpelledFrom (.string tail after) depth raw (octet '"' :: tail) := by
  simp only [Located.raw, bind_eq_ok_iff, Prod.exists] at h
  obtain ⟨s, after', hread, h⟩ := h
  cases h
  obtain ⟨hafter, inner, hinner, htail⟩ := readString_eq_ok hread
  cases hskip.symm.trans hafter
  have hspells := Spells.string hinner
  rw [String.ofList_toList] at hspells
  refine ⟨after, rfl, _, hspells, Nat.zero_le depth, ?_⟩
  rw [htail, encode_cons_of_ascii (by decide), Utf8.encode_append, List.cons_append,
    List.append_assoc]
  rfl

/-- A number with a value is spelled by the text. -/
lemma spelledFrom_number {depth : Nat} {start after : Bytes} {raw : Json}
    (hskip : skipNumber start = .ok after) (h : (Located.number start after).raw depth = .ok raw) :
    SpelledFrom (.number start after) depth raw start := by
  simp only [Located.raw, bind_eq_ok_iff, Prod.exists] at h
  obtain ⟨n, after', hread, h⟩ := h
  cases h
  obtain ⟨hafter, numeral, hspells, hstart⟩ := readNumber_eq_ok hread
  cases hskip.symm.trans hafter
  exact ⟨after, rfl, _, .number hspells, Nat.zero_le depth, hstart⟩

/-- An array with a value is spelled by the text. -/
lemma spelledFrom_array {read : Bytes → Located} (hread : Sound read) {depth : Nat}
    {start tail : Bytes} {raw : Json}
    (h : (Located.array start (arrayItems read tail)).raw depth = .ok raw) :
    SpelledFrom (.array start (arrayItems read tail)) depth raw (octet '[' :: tail) := by
  cases depth with
  | zero => cases h
  | succ depth =>
    simp only [Located.raw, bind_eq_ok_iff] at h
    obtain ⟨raws, hraws, h⟩ := h
    cases h
    obtain ⟨after, inner, hafter, hspells, hdepth, htail⟩ := exists_spells_array hread hraws
    refine ⟨after, hafter, _, hspells, Nat.succ_le_succ (depthOfItems_le_iff.mpr hdepth), ?_⟩
    rw [htail, encode_cons_of_ascii (by decide), List.cons_append]

/-- An object with a value is spelled by the text. -/
lemma spelledFrom_object {read : Bytes → Located} (hread : Sound read) {depth : Nat}
    {start tail : Bytes} {raw : Json}
    (h : (Located.object start (objectMembers read tail)).raw depth = .ok raw) :
    SpelledFrom (.object start (objectMembers read tail)) depth raw (octet '\x7b' :: tail) := by
  cases depth with
  | zero => cases h
  | succ depth =>
    simp only [Located.raw, bind_eq_ok_iff] at h
    obtain ⟨raws, hraws, h⟩ := h
    cases h
    obtain ⟨after, inner, hafter, hspells, hdepth, htail⟩ := exists_spells_object hread hraws
    refine ⟨after, hafter, _, hspells, Nat.succ_le_succ (depthOfEntries_le_iff.mpr hdepth), ?_⟩
    rw [htail, encode_cons_of_ascii (by decide), List.cons_append]

/-- What is read as a value is spelled. -/
lemma sound_valueWithin (fuel : Nat) : Sound (valueWithin fuel) := by
  induction fuel with
  | zero => exact fun h => nomatch h
  | succ fuel ih =>
    intro depth text raw h
    -- Blanks come first in any case, so that only what follows them has to be told apart.
    suffices hspelled : SpelledFrom (valueWithin (fuel + 1) text) depth raw (skipBlanks text) by
      obtain ⟨after, hafter, inner, hspells, hdepth, hskip⟩ := hspelled
      obtain ⟨blanks, hblanks, htext⟩ := exists_skipBlanks text
      rw [hskip] at htext
      exact ⟨after, hafter, blanks, inner, hblanks, hspells, hdepth, htext⟩
    rw [valueWithin] at h ⊢
    generalize skipBlanks text = start at h ⊢
    cases start with
    | nil => cases h
    | cons b tail =>
      dsimp only at h ⊢
      -- the first byte tells what kind of value there is
      split at h
      · next hb =>
        rw [if_pos hb, hb]
        exact spelledFrom_ofWord rfl .nullWord (Nat.zero_le _) (fun _ => ⟨rfl, rfl⟩) h
      next hb =>
      rw [if_neg hb]
      split at h
      · next hb =>
        rw [if_pos hb, hb]
        exact spelledFrom_ofWord rfl .trueWord (Nat.zero_le _) (fun _ => ⟨rfl, rfl⟩) h
      next hb =>
      rw [if_neg hb]
      split at h
      · next hb =>
        rw [if_pos hb, hb]
        exact spelledFrom_ofWord rfl .falseWord (Nat.zero_le _) (fun _ => ⟨rfl, rfl⟩) h
      next hb =>
      rw [if_neg hb]
      split at h
      · next hb =>
        rw [if_pos hb, hb]
        cases hstring : skipString tail with
        | error fault =>
          rw [hstring] at h
          cases h
        | ok after =>
          rw [hstring] at h
          exact spelledFrom_string hstring h
      next hb =>
      rw [if_neg hb]
      split at h
      · next hb =>
        rw [if_pos hb]
        cases hnumber : skipNumber (b :: tail) with
        | error fault =>
          rw [hnumber] at h
          cases h
        | ok after =>
          rw [hnumber] at h
          exact spelledFrom_number hnumber h
      next hb =>
      rw [if_neg hb]
      split at h
      · next hb =>
        rw [if_pos hb, hb]
        rw [hb] at h
        exact spelledFrom_array ih h
      next hb =>
      rw [if_neg hb]
      split at h
      · next hb =>
        rw [if_pos hb, hb]
        rw [hb] at h
        exact spelledFrom_object ih h
      · cases h

/-! ### What is spelled is read -/

/-- A value is read and `rest` follows it. -/
structure Reads (l : Located) (depth : Nat) (raw : Json) (rest : Bytes) : Prop where
  raw_eq : l.raw depth = .ok raw
  after_eq : l.after = .ok rest

structure ReadsItems (items : Items) (depth : Nat) (raws : List Json) (rest : Bytes) : Prop where
  raws_eq : itemRaws depth items = .ok raws
  after_eq : items.after = .ok rest

structure ReadsMembers (members : Members) (depth : Nat) (raws : Entries Json) (rest : Bytes) :
    Prop where
  raws_eq : memberRaws depth members = .ok raws
  after_eq : members.after = .ok rest

/-- A numeral starts with a sign or a digit. -/
lemma Numeral.exists_first (n : Numeral) :
    ∃ c text, n.chars = c :: text ∧ (c = '-' ∨ c.isDigit = true) := by
  obtain ⟨c, whole, hwhole⟩ := List.exists_cons_of_ne_nil n.whole_ne_nil
  rw [Numeral.chars]
  cases n.negative with
  | true => exact ⟨'-', _, rfl, .inl rfl⟩
  | false =>
    rw [hwhole]
    exact ⟨c, _, rfl, .inr (n.isDigit_whole c (by rw [hwhole]; exact List.mem_cons_self))⟩

/-- The text of a value starts with a character that is neither a blank nor a closing bracket. -/
lemma Spells.exists_first {d : Dialect} {v : Json} {text : List Char} (h : Spells d v text) :
    ∃ c more, text = c :: more ∧ c.toNat < 128 ∧ isBlank (octet c) = false ∧
      octet c ≠ octet ']' := by
  cases h with
  | nullWord => exact ⟨_, _, rfl, by decide, by decide, by decide⟩
  | trueWord => exact ⟨_, _, rfl, by decide, by decide, by decide⟩
  | falseWord => exact ⟨_, _, rfl, by decide, by decide, by decide⟩
  | @number _ n =>
    obtain ⟨c, more, hchars, hc⟩ := n.exists_first
    refine ⟨c, more, hchars, ?_⟩
    rcases hc with rfl | hdigit
    · exact ⟨by decide, by decide, by decide⟩
    · have hascii := toNat_lt_of_isDigit hdigit
      refine ⟨hascii, ?_, ?_⟩
      · rw [Bool.eq_false_iff, Ne, isBlank_octet_iff hascii]
        rintro (rfl | rfl | rfl | rfl) <;> exact absurd hdigit (by decide)
      · rw [Ne, octet_inj hascii (by decide)]
        rintro rfl
        exact absurd hdigit (by decide)
  | string => exact ⟨_, _, rfl, by decide, by decide, by decide⟩
  | emptyArray => exact ⟨_, _, rfl, by decide, by decide, by decide⟩
  | array => exact ⟨_, _, rfl, by decide, by decide, by decide⟩
  | emptyObject => exact ⟨_, _, rfl, by decide, by decide, by decide⟩
  | object => exact ⟨_, _, rfl, by decide, by decide, by decide⟩

/-- The text of a value starts, after blanks, with no closing bracket. -/
lemma SpellsElement.exists_first {d : Dialect} {v : Json} {text : List Char}
    (h : SpellsElement d v text) (rest : Bytes) :
    ∃ b tail, skipBlanks (encode text ++ rest) = b :: tail ∧ b ≠ octet ']' := by
  cases h with
  | padded left value right =>
    obtain ⟨c, more, rfl, hascii, hblank, hne⟩ := value.exists_first
    rw [Utf8.encode_append, List.append_assoc, skipBlanks_encode_append left, Utf8.encode_append,
      encode_cons_of_ascii hascii, List.cons_append, List.cons_append, skipBlanks_cons hblank]
    exact ⟨_, _, rfl, hne⟩

/-- The text of items starts, after blanks, with no closing bracket. -/
lemma SpellsItems.exists_first {d : Dialect} {items : List Json} {text : List Char}
    (h : SpellsItems d items text) (rest : Bytes) :
    ∃ b tail, skipBlanks (encode text ++ rest) = b :: tail ∧ b ≠ octet ']' := by
  cases h with
  | one item => exact item.exists_first rest
  | more item others =>
    rw [Utf8.encode_append, List.append_assoc]
    exact item.exists_first _

/-- Nothing that may follow a value could belong to a number. -/
lemma endsNumber_cons {c : Char} (h : c ∈ [' ', '\n', '\t', '\r', ',', ']', '\x7d'])
    (rest : Bytes) :
    EndsNumber (octet c :: rest) := by
  have hdigit : isDigit (octet c) = false ∧ octet c ≠ octet '.' ∧ octet c ≠ octet 'e' ∧
      octet c ≠ octet 'E' := by
    simp only [List.mem_cons, List.not_mem_nil, or_false] at h
    rcases h with rfl | rfl | rfl | rfl | rfl | rfl
      | rfl <;> exact ⟨by decide, by decide, by decide, by decide⟩
  refine ⟨?_, ?_, ?_, ?_⟩
  · intro b hb
    cases hb
    exact hdigit.1
  · exact fun heq => hdigit.2.1 (Option.some.inj heq)
  · exact fun heq => hdigit.2.2.1 (Option.some.inj heq)
  · exact fun heq => hdigit.2.2.2 (Option.some.inj heq)

/-- A number ends where the text does. -/
lemma endsNumber_nil : EndsNumber [] := ⟨nofun, nofun, nofun, nofun⟩

/-- A number ends where blanks follow. -/
lemma EndsNumber.blanks {blanks : List Char} (h : EndsNumber rest) (hblanks : IsBlanks blanks) :
    EndsNumber (encode blanks ++ rest) := by
  cases blanks with
  | nil => exact h
  | cons c blanks =>
    have hc := hblanks c List.mem_cons_self
    rw [encode_cons_of_ascii (toNat_lt_of_blank hc), List.cons_append]
    refine endsNumber_cons ?_ _
    rcases hc with rfl | rfl | rfl | rfl <;> decide

/-- A value is read in the same way with blanks before it. -/
lemma valueWithin_blanks {blanks : List Char} (h : IsBlanks blanks) (fuel : Nat) (text : Bytes) :
    valueWithin fuel (encode blanks ++ text) = valueWithin fuel text := by
  rw [← valueWithin_skipBlanks, skipBlanks_encode_append h, valueWithin_skipBlanks]

/-- A word is read where the text starts with its letters. -/
lemma ofWord_append (letters : List Char) (after : Bytes) (node : Bytes → Located) :
    Located.ofWord letters (letters.map octet ++ after) node = node after := by
  rw [Located.ofWord, word_eq_ok_iff.mpr rfl]

/-- What starts with a sign or a digit is a number. -/
lemma valueWithin_number {fuel : Nat} {b : UInt8} (h : b = octet '-' ∨ isDigit b = true)
    {tail after : Bytes} (hskip : skipNumber (b :: tail) = .ok after) :
    valueWithin (fuel + 1) (b :: tail) = .number (b :: tail) after := by
  have hother : ∀ c : Char, octet '-' ≠ octet c → isDigit (octet c) = false → b ≠ octet c := by
    rintro c hne hdigit rfl
    rcases h with heq | hisDigit
    · exact hne heq.symm
    · rw [hdigit] at hisDigit
      cases hisDigit
  have hblank : isBlank b = false := by
    simp only [isBlank, Bool.or_eq_false_iff, decide_eq_false_iff_not]
    exact ⟨⟨⟨hother ' ' (by decide) (by decide), hother '\n' (by decide) (by decide)⟩,
      hother '\t' (by decide) (by decide)⟩, hother '\r' (by decide) (by decide)⟩
  rw [valueWithin, skipBlanks_cons hblank]
  dsimp only
  rw [if_neg (hother 'n' (by decide) (by decide)), if_neg (hother 't' (by decide) (by decide)),
    if_neg (hother 'f' (by decide) (by decide)), if_neg (hother '"' (by decide) (by decide)),
    if_pos (by simpa using h), hskip]

/-- What starts with an opening bracket is an array. -/
lemma valueWithin_openBracket (fuel : Nat) (text : Bytes) :
    valueWithin (fuel + 1) (octet '[' :: text) = .array (octet '[' :: text)
      (arrayItems (valueWithin fuel) text) := by
  rw [valueWithin, skipBlanks_cons (by decide)]
  dsimp only
  rw [if_neg (by decide), if_neg (by decide), if_neg (by decide), if_neg (by decide),
    if_neg (by decide), if_pos rfl]

/-- What starts with an opening brace is an object. -/
lemma valueWithin_openBrace (fuel : Nat) (text : Bytes) :
    valueWithin (fuel + 1) (octet '\x7b' :: text) =
      .object (octet '\x7b' :: text) (objectMembers (valueWithin fuel) text) := by
  rw [valueWithin, skipBlanks_cons (by decide)]
  dsimp only
  rw [if_neg (by decide), if_neg (by decide), if_neg (by decide), if_neg (by decide),
    if_neg (by decide), if_neg (by decide), if_pos rfl]

/-- An ASCII character that closes a text is one byte after it. -/
lemma encode_closed {c : Char} (h : c.toNat < 128) (inner : List Char) (rest : Bytes) :
    encode (inner ++ [c]) ++ rest = encode inner ++ octet c :: rest := by
  rw [Utf8.encode_append, List.append_assoc, encode_cons_of_ascii h]
  rfl

/-- A comma between two texts is one byte between them. -/
lemma encode_comma_append (text others : List Char) (rest : Bytes) :
    encode (text ++ ',' :: others) ++ rest = encode text ++ octet ',' ::
      (encode others ++ rest) := by
  rw [Utf8.encode_append, List.append_assoc, encode_cons_of_ascii (by decide), List.cons_append]

/-- A comma between two texts makes them one byte longer. -/
lemma length_encode_comma (text others : List Char) :
    (encode (text ++ ',' :: others)).length = (encode text).length +
      ((encode others).length + 1) := by
  rw [Utf8.encode_append, List.length_append, encode_cons_of_ascii (by decide), List.length_cons]

/-- A number that is spelled is read. -/
lemma reads_number {fuel depth : Nat} {v : Number} {n : Numeral} (h : SpellsNumber .strict v n)
    (hends : EndsNumber rest) :
    Reads (valueWithin (fuel + 1) (encode n.chars ++ rest)) depth (.number v) rest := by
  obtain ⟨c, more, hchars, hc⟩ := n.exists_first
  have hread : readNumber (encode n.chars ++ rest) = .ok (v, rest) :=
    readNumber_encode_append h hends
  have hskip : skipNumber (encode n.chars ++ rest) = .ok rest := skipNumber_encode_append n hends
  have hascii : c.toNat < 128 := by
    rcases hc with rfl | hdigit
    · decide
    · exact toNat_lt_of_isDigit hdigit
  have hfirst : octet c = octet '-' ∨ isDigit (octet c) = true := by
    rw [isDigit_octet hascii]
    exact hc.imp_left fun heq => by rw [heq]
  rw [hchars, encode_cons_of_ascii hascii, List.cons_append] at hread hskip ⊢
  rw [valueWithin_number hfirst hskip]
  refine ⟨?_, rfl⟩
  rw [Located.raw, hread]
  rfl

/-- A string that is spelled is read. -/
lemma reads_string {fuel depth : Nat} {cs inner : List Char} (h : SpellsString .strict cs inner) :
    Reads (valueWithin (fuel + 1) (encode ('"' :: (inner ++ ['"'])) ++ rest))
      depth (.string (String.ofList cs))
      rest := by
  rw [encode_cons_of_ascii (by decide), List.cons_append, encode_closed (by decide)]
  have hnode : valueWithin (fuel + 1) (octet '"' :: (encode inner ++ octet '"' :: rest)) =
      .string (encode inner ++ octet '"' :: rest) rest := by
    rw [valueWithin, skipBlanks_cons (by decide)]
    dsimp only
    rw [if_neg (by decide), if_neg (by decide), if_neg (by decide), if_pos rfl,
      skipString_encode_append h rest]
  rw [hnode]
  refine ⟨?_, rfl⟩
  rw [Located.raw, readString_encode_append h rest]
  rfl

/-- An array without items is read. -/
lemma readsItems_arrayItems_empty {read : Bytes → Located} {depth : Nat} {blanks : List Char}
    (h : IsBlanks blanks) :
    ReadsItems (arrayItems read (encode (blanks ++ [']']) ++ rest)) depth [] rest := by
  rw [encode_closed (by decide), arrayItems, skipBlanks_encode_append h,
    skipBlanks_cons (by decide)]
  dsimp only
  rw [if_pos rfl]
  exact ⟨rfl, rfl⟩

/-- An object with nothing but blanks in it is read as having no members. -/
lemma readsMembers_objectMembers_empty {read : Bytes → Located} {depth : Nat} {blanks : List Char}
    (h : IsBlanks blanks) :
    ReadsMembers (objectMembers read (encode (blanks ++ ['\x7d']) ++ rest)) depth [] rest := by
  rw [encode_closed (by decide), objectMembers, skipBlanks_encode_append h,
    skipBlanks_cons (by decide)]
  dsimp only
  rw [if_pos rfl]
  exact ⟨rfl, rfl⟩

/-- An array is read if its items are. -/
lemma reads_array {fuel depth : Nat} {raws : List Json} {inner : List Char}
    (hdepth : (Json.array raws).depth ≤ depth)
    (h : ∀ depth, (∀ raw ∈ raws, raw.depth ≤ depth) →
      ReadsItems (arrayItems (valueWithin fuel) (encode inner ++ rest)) depth raws rest) :
    Reads (valueWithin (fuel + 1) (encode ('[' :: inner) ++ rest))
      depth (Json.array raws) rest := by
  obtain ⟨depth, rfl⟩ := Nat.exists_eq_succ_of_ne_zero (Nat.ne_of_gt (Nat.zero_lt_of_lt hdepth))
  obtain ⟨hraws, hafter⟩ := h depth (depthOfItems_le_iff.mp (Nat.le_of_succ_le_succ hdepth))
  rw [encode_cons_of_ascii (by decide), List.cons_append, valueWithin_openBracket]
  refine ⟨?_, hafter⟩
  rw [Located.raw, hraws]
  rfl

/-- An object is read if its members are. -/
lemma reads_object {fuel depth : Nat} {raws : Entries Json} {inner : List Char}
    (hdepth : (Json.object raws).depth ≤ depth)
    (h : ∀ depth, (∀ raw ∈ raws, raw.2.depth ≤ depth) →
      ReadsMembers (objectMembers (valueWithin fuel) (encode inner ++ rest)) depth raws rest) :
    Reads (valueWithin (fuel + 1) (encode ('\x7b' :: inner) ++ rest))
      depth (Json.object raws) rest := by
  obtain ⟨depth, rfl⟩ := Nat.exists_eq_succ_of_ne_zero (Nat.ne_of_gt (Nat.zero_lt_of_lt hdepth))
  obtain ⟨hraws, hafter⟩ := h depth (depthOfEntries_le_iff.mp (Nat.le_of_succ_le_succ hdepth))
  rw [encode_cons_of_ascii (by decide), List.cons_append, valueWithin_openBrace]
  refine ⟨?_, hafter⟩
  rw [Located.raw, hraws]
  rfl

mutual

/-- The text of a value is read as it. -/
theorem Spells.reads {raw : Json} {text : List Char} (h : Spells .strict raw text)
    {fuel depth : Nat} {rest : Bytes} (hdepth : raw.depth ≤ depth)
    (hfuel : (encode text).length < fuel) (hends : EndsNumber rest) :
    Reads (valueWithin fuel (encode text ++ rest)) depth raw rest := by
  obtain ⟨fuel, rfl⟩ := Nat.exists_eq_succ_of_ne_zero (Nat.ne_of_gt (Nat.zero_lt_of_lt hfuel))
  cases h with
  -- The recursion is on the value, since a derivation is a proof and has no size.
  | nullWord =>
    have hnode : valueWithin (fuel + 1) (encode ['n', 'u', 'l', 'l'] ++ rest) = .null rest :=
      ofWord_append ['u', 'l', 'l'] rest .null
    rw [hnode]
    exact ⟨rfl, rfl⟩
  | trueWord =>
    have hnode : valueWithin (fuel + 1) (encode ['t', 'r', 'u', 'e'] ++ rest) =
        .boolean true rest :=
      ofWord_append ['r', 'u', 'e'] rest (.boolean true)
    rw [hnode]
    exact ⟨rfl, rfl⟩
  | falseWord =>
    have hnode : valueWithin (fuel + 1) (encode ['f', 'a', 'l', 's', 'e'] ++ rest) =
        .boolean false rest :=
      ofWord_append ['a', 'l', 's', 'e'] rest (.boolean false)
    rw [hnode]
    exact ⟨rfl, rfl⟩
  | number value => exact reads_number value hends
  | string chars => exact reads_string chars
  | emptyArray inside => exact reads_array hdepth fun _ _ => readsItems_arrayItems_empty inside
  | @array raws inner inside =>
    rw [encode_cons_of_ascii (by decide), Utf8.encode_append, List.length_cons,
      List.length_append] at hfuel
    refine reads_array hdepth fun depth hitems => ?_
    -- The text of the array lends the reader of items enough fuel for each of them.
    have hlength : (encode inner).length < (encode inner ++ octet ']' :: rest).length := by
      rw [List.length_append, List.length_cons]
      omega
    obtain ⟨b, tail, hskip, hb⟩ := inside.exists_first (octet ']' :: rest)
    have hread : ReadsItems (items (valueWithin fuel) _ _) depth raws rest :=
      inside.reads hitems (by omega) hlength
    rw [encode_closed (by decide), arrayItems]
    rw [hskip] at hread ⊢
    dsimp only
    rw [if_neg hb]
    exact hread
  | emptyObject inside =>
    exact reads_object hdepth fun _ _ => readsMembers_objectMembers_empty inside
  | @object entries inner inside =>
    rw [encode_cons_of_ascii (by decide), Utf8.encode_append, List.length_cons,
      List.length_append] at hfuel
    refine reads_object hdepth fun depth hentries => ?_
    have hlength : (encode inner).length < (encode inner ++ octet '\x7d' :: rest).length := by
      rw [List.length_append, List.length_cons]
      omega
    obtain ⟨key, hskip, hread⟩ : ∃ key, _ ∧
        ReadsMembers (members (valueWithin fuel) _ key) depth _ rest :=
      inside.reads hentries (by omega) hlength
    rw [encode_closed (by decide), objectMembers, hskip]
    dsimp only
    rw [if_neg (by decide), if_pos rfl]
    exact hread
termination_by (sizeOf raw, 0)

/-- A value with blanks around it is read, and blanks may be left behind it. -/
theorem SpellsElement.reads {raw : Json} {text : List Char} (h : SpellsElement .strict raw text)
    {fuel depth : Nat} {rest : Bytes} (hdepth : raw.depth ≤ depth)
    (hfuel : (encode text).length < fuel) (hends : EndsNumber rest) :
    ∃ after, Reads (valueWithin fuel (encode text ++ rest)) depth raw after ∧
      skipBlanks after = skipBlanks rest := by
  cases h with
  | @padded _ before inner after left value right =>
    rw [Utf8.encode_append, Utf8.encode_append, List.length_append, List.length_append] at hfuel
    refine ⟨encode after ++ rest, ?_, skipBlanks_encode_append right rest⟩
    rw [Utf8.encode_append, Utf8.encode_append, List.append_assoc, List.append_assoc,
      valueWithin_blanks left]
    exact value.reads hdepth (by omega) (hends.blanks right)
termination_by (sizeOf raw, 1)

/-- Items are read up to the closing bracket. -/
theorem SpellsItems.reads {raws : List Json} {text : List Char} (h : SpellsItems .strict raws text)
    {fuel depth n : Nat} {rest : Bytes} (hdepth : ∀ raw ∈ raws, raw.depth ≤ depth)
    (hfuel : (encode text).length < fuel) (hn : (encode text).length < n) :
    ReadsItems (items (valueWithin fuel) n (skipBlanks (encode text ++ octet ']' :: rest)))
      depth raws rest := by
  obtain ⟨n, rfl⟩ := Nat.exists_eq_succ_of_ne_zero (Nat.ne_of_gt (Nat.zero_lt_of_lt hn))
  cases h with
  | @one raw text item =>
    -- A number needs to see that it is over, for which a comma or a bracket is as good as the end.
    have hends : EndsNumber (octet ']' :: rest) := endsNumber_cons (by decide) rest
    obtain ⟨after, ⟨hraw, hafter⟩, hskip⟩ := item.reads (hdepth raw List.mem_cons_self) hfuel hends
    rw [skipBlanks_cons (by decide)] at hskip
    rw [items, valueWithin_skipBlanks, hafter]
    dsimp only
    rw [hskip]
    dsimp only
    rw [if_pos rfl]
    refine ⟨?_, rfl⟩
    rw [itemRaws, hraw]
    rfl
  | @more raw raws text others item more =>
    obtain ⟨hfirst, hothers⟩ := List.forall_mem_cons.mp hdepth
    rw [length_encode_comma] at hfuel hn
    have hends : EndsNumber (octet ',' :: (encode others ++ octet ']' :: rest)) :=
      endsNumber_cons (by decide) _
    obtain ⟨after, ⟨hraw, hafter⟩, hskip⟩ := item.reads hfirst (show _ < fuel by omega) hends
    obtain ⟨b, tail, hskip', hb⟩ := more.exists_first (octet ']' :: rest)
    obtain ⟨hraws, hrest⟩ : ReadsItems _ depth raws rest :=
      more.reads hothers (show _ < fuel by omega) (show _ < n by omega)
    rw [skipBlanks_cons (by decide)] at hskip
    rw [encode_comma_append, items, valueWithin_skipBlanks, hafter]
    dsimp only
    rw [hskip]
    dsimp only
    rw [if_neg (by decide), if_pos rfl]
    rw [hskip'] at hraws hrest ⊢
    dsimp only
    rw [if_neg hb]
    refine ⟨?_, hrest⟩
    rw [itemRaws, hraw, hraws]
    rfl
termination_by (sizeOf raws, 0)

/-- An entry is read from the character after the opening quote of its key on. -/
theorem SpellsMember.reads {raw : String × Json} {text : List Char}
    (h : SpellsMember .strict raw text) {fuel depth : Nat} {rest : Bytes}
    (hdepth : raw.2.depth ≤ depth) (hfuel : (encode text).length < fuel) (hends : EndsNumber rest) :
    ∃ key afterKey after, skipBlanks (encode text ++ rest) = octet '"' :: key ∧
      skipString key = .ok afterKey ∧
      readString key = .ok (raw.1, afterKey) ∧
      Reads (memberValue (valueWithin fuel) afterKey) depth raw.2 after ∧
      skipBlanks after = skipBlanks rest := by
  cases h with
  | @entry cs v before key between text left name right value =>
    have hsplit : encode (before ++ '"' :: (key ++ '"' :: (between ++ ':' :: text))) ++ rest =
        encode before ++ octet '"' :: (encode key ++ octet '"' ::
          (encode between ++ octet ':' :: (encode text ++ rest))) := by
      simp only [Utf8.encode_append, encode_cons_of_ascii (show '"'.toNat < 128 by decide),
        encode_cons_of_ascii (show ':'.toNat < 128 by decide), List.append_assoc, List.cons_append]
    have hlength : (encode text).length ≤
        (encode (before ++ '"' :: (key ++ '"' :: (between ++ ':' :: text)))).length := by
      simp only [Utf8.encode_append, encode_cons_of_ascii (show '"'.toNat < 128 by decide),
        encode_cons_of_ascii (show ':'.toNat < 128 by decide), List.length_append, List.length_cons]
      omega
    -- What is left behind the value are blanks, which are skipped again before the comma.
    obtain ⟨after, hread, hskip⟩ := value.reads hdepth (lt_of_le_of_lt hlength hfuel) hends
    refine ⟨_, encode between ++ octet ':' :: (encode text ++ rest), after, ?_,
      skipString_encode_append name _, readString_encode_append name _, ?_, hskip⟩
    · rw [hsplit, skipBlanks_encode_append left, skipBlanks_cons (by decide)]
    · rw [memberValue, skipBlanks_encode_append right, skipBlanks_cons (by decide)]
      dsimp only
      rw [if_pos rfl]
      exact hread
termination_by (sizeOf raw, 0)

/-- Entries are read up to the closing brace. -/
theorem SpellsMembers.reads {raws : Entries Json} {text : List Char}
    (h : SpellsMembers .strict raws text) {fuel depth n : Nat} {rest : Bytes}
    (hdepth : ∀ raw ∈ raws, raw.2.depth ≤ depth) (hfuel : (encode text).length < fuel)
    (hn : (encode text).length < n) :
    ∃ key, skipBlanks (encode text ++ octet '\x7d' :: rest) = octet '"' :: key ∧
      ReadsMembers (members (valueWithin fuel) n key) depth raws rest := by
  obtain ⟨n, rfl⟩ := Nat.exists_eq_succ_of_ne_zero (Nat.ne_of_gt (Nat.zero_lt_of_lt hn))
  cases h with
  | @one raw text member =>
    have hends : EndsNumber (octet '\x7d' :: rest) := endsNumber_cons (by decide) rest
    obtain ⟨key, afterKey, after, hkey, hskipKey, hname, ⟨hraw, hafter⟩, hskip⟩ :=
      member.reads (hdepth raw List.mem_cons_self) hfuel hends
    refine ⟨key, hkey, ?_⟩
    rw [skipBlanks_cons (by decide)] at hskip
    rw [members, hskipKey]
    dsimp only
    rw [hafter]
    dsimp only
    rw [hskip]
    dsimp only
    rw [if_pos rfl]
    refine ⟨?_, rfl⟩
    rw [memberRaws, hname, hraw]
    rfl
  | @more raw raws text others member more =>
    obtain ⟨hfirst, hothers⟩ := List.forall_mem_cons.mp hdepth
    rw [length_encode_comma] at hfuel hn
    have hends : EndsNumber (octet ',' :: (encode others ++ octet '\x7d' :: rest)) :=
      endsNumber_cons (by decide) _
    obtain ⟨key, afterKey, after, hkey, hskipKey, hname, ⟨hraw, hafter⟩, hskip⟩ :=
      member.reads hfirst (show _ < fuel by omega) hends
    obtain ⟨key', hkey', hraws, hrest⟩ : ∃ key', _ ∧ ReadsMembers _ depth raws rest :=
      more.reads hothers (show _ < fuel by omega) (show _ < n by omega)
    rw [encode_comma_append]
    refine ⟨key, hkey, ?_⟩
    rw [skipBlanks_cons (by decide)] at hskip
    rw [members, hskipKey]
    dsimp only
    rw [hafter]
    dsimp only
    rw [hskip]
    dsimp only
    rw [if_neg (by decide), if_pos rfl, hkey']
    dsimp only
    rw [if_pos rfl]
    refine ⟨?_, hrest⟩
    rw [memberRaws, hname, hraw, hraws]
    rfl
termination_by (sizeOf raws, 0)

end

/-! ### Whole texts -/

/-- A text is at its end after a value exactly if only blanks follow. -/
lemma finish_eq_ok_iff {l : Located} (hafter : l.after = .ok rest) :
    l.finish = .ok () ↔ skipBlanks rest = [] := by
  rw [finish, hafter]
  dsimp only
  cases skipBlanks rest with
  | nil => exact iff_of_true rfl rfl
  | cons b tail => exact iff_of_false (by simp) (List.cons_ne_nil b tail)

/-- A tree has exactly the value that its text writes, if the value nests no deeper than is
allowed. -/
theorem readAs_raw_eq_ok_iff {bytes : Bytes} {depth : Nat} {raw : Json} :
    readAs (Located.raw depth) bytes = .ok raw ↔
      ∃ text, bytes = encode text ∧ SpellsElement .strict raw text ∧ raw.depth ≤ depth := by
  unfold readAs Located.ofBytes
  simp only [bind_eq_ok_iff]
  constructor
  · rintro ⟨raw, hraw, u, hfinish, h⟩
    cases h
    obtain ⟨after, text, hafter, hspells, hdepth, htext⟩ :=
      Sound.exists_spellsElement (sound_valueWithin _) hraw
    rw [finish_eq_ok_iff hafter] at hfinish
    rw [hfinish, List.append_nil] at htext
    exact ⟨text, htext, hspells, hdepth⟩
  · rintro ⟨text, rfl, hspells, hdepth⟩
    obtain ⟨after, ⟨hraw, hafter⟩, hskip⟩ :=
      hspells.reads hdepth (Nat.lt_succ_self _) endsNumber_nil
    rw [List.append_nil] at hraw hafter
    exact ⟨_, hraw, (), (finish_eq_ok_iff hafter).mpr hskip, rfl⟩

/-- A text writes one value. -/
theorem SpellsElement.unique {raw raw' : Json} {text text' : List Char}
    (h : SpellsElement .strict raw text) (h' : SpellsElement .strict raw' text')
    (htext : encode text = encode text') : raw = raw' := by
  have hread : readAs (Located.raw (max raw.depth raw'.depth)) (encode text) = .ok raw :=
    readAs_raw_eq_ok_iff.mpr ⟨text, rfl, h, le_max_left _ _⟩
  have hread' : readAs (Located.raw (max raw.depth raw'.depth)) (encode text) = .ok raw' :=
    readAs_raw_eq_ok_iff.mpr ⟨text', htext, h', le_max_right _ _⟩
  exact Except.ok.inj (hread.symm.trans hread')

/-- The value of a text is its raw value with repeated keys collapsed. -/
lemma readAs_value_eq_map (depth : Nat) (bytes : Bytes) :
    readAs (Located.value depth) bytes = (readAs (Located.raw depth) bytes).map collapsed := by
  rw [readAs, readAs, value_eq]
  cases (Located.ofBytes bytes).raw depth with
  | error fault => rfl
  | ok raw =>
    change (do let _ ← (Located.ofBytes bytes).finish; pure raw.collapsed) =
      Except.map collapsed (do let _ ← (Located.ofBytes bytes).finish; pure raw)
    cases (Located.ofBytes bytes).finish <;> rfl

/-- A text is read as a value exactly if it is the text of that value, up to repeated keys, and
opens no more arrays and objects at once than the reader allows. -/
theorem readAs_value_eq_ok_iff {bytes : Bytes} {depth : Nat} {v : Json} :
    readAs (Located.value depth) bytes = .ok v ↔
      ∃ text raw, bytes = encode text ∧ SpellsElement .strict raw text ∧ raw.depth ≤ depth ∧
        raw.collapsed = v := by
  rw [readAs_value_eq_map, map_eq_ok_iff]
  simp only [readAs_raw_eq_ok_iff]
  constructor
  · rintro ⟨raw, ⟨text, hbytes, hspells, hdepth⟩, hv⟩
    exact ⟨text, raw, hbytes, hspells, hdepth, hv⟩
  · rintro ⟨text, raw, hbytes, hspells, hdepth, hv⟩
    exact ⟨raw, ⟨text, hbytes, hspells, hdepth⟩, hv⟩

/-- The common reader allows 127 of them. -/
theorem parse_eq_ok_iff {bytes : Bytes} {v : Json} :
    parse bytes = .ok v ↔
      ∃ text raw, bytes = encode text ∧ SpellsElement .strict raw text ∧
        raw.depth ≤ Located.nestingLimit ∧
        raw.collapsed = v :=
  readAs_value_eq_ok_iff

end GraphqlClient.Json
