import GraphqlClient.Proofs.Json.Printer

/-!
# Reading without a limit on nesting

Each array and object that is open takes a character of its own, so that a text as long as it is
allows no deeper nesting than its length (`Json.Spells.depth_le`).  A reader that allows this much
takes whatever the grammar admits (`Json.parseAnyDepth_eq_ok_iff`), and with that every text that is
printed.
-/

namespace GraphqlClient.Json

open Utf8 (encode)

/-- The value that a text writes, however deep it nests. -/
def parseAnyDepth (text : Bytes) : Except Fault Json := readAs (Located.value text.length) text

/-! ### Nesting and length -/

mutual

/-- A value nests no deeper than its text is long. -/
theorem Spells.depth_le {d : Dialect} :
    ∀ {v : Json} {text : List Char}, Spells d v text → v.depth ≤ text.length
  | _, _, .nullWord | _, _, .trueWord | _, _, .falseWord | _, _, .number _
    | _, _, .string _ => Nat.zero_le _
  | _, _, .emptyArray _ | _, _, .emptyObject _ => Nat.succ_le_succ (Nat.zero_le _)
  | _, _, .array inside => by
    have hitems := depthOfItems_le_iff.mpr inside.depth_le
    rw [List.length_cons, List.length_append, depth]
    omega
  | _, _, .object inside => by
    have hentries := depthOfEntries_le_iff.mpr inside.depth_le
    rw [List.length_cons, List.length_append, depth]
    omega

/-- A value with blanks around it is no deeper than its text is long. -/
theorem SpellsElement.depth_le {d : Dialect} :
    ∀ {v : Json} {text : List Char}, SpellsElement d v text → v.depth ≤ text.length
  | _, _, .padded _ value _ => by
    have hvalue := value.depth_le
    rw [List.length_append, List.length_append]
    omega

/-- The items of an array are no deeper than their text is long. -/
theorem SpellsItems.depth_le {d : Dialect} :
    ∀ {items : List Json} {text : List Char}, SpellsItems d items text →
    ∀ item ∈ items, item.depth ≤ text.length
  | _, _, .one item => List.forall_mem_singleton.mpr item.depth_le
  | _, _, .more item rest => by
    have hitem := item.depth_le
    have hrest := rest.depth_le
    rw [List.length_append, List.length_cons, List.forall_mem_cons]
    refine ⟨by omega, fun other hother => ?_⟩
    have hother := hrest other hother
    omega

/-- The value of a member is no deeper than its text is long. -/
theorem SpellsMember.depth_le {d : Dialect} : ∀ {entry : String × Json} {text : List Char},
    SpellsMember d entry text → entry.2.depth ≤ text.length
  | _, _, .entry _ _ _ value => by
    have hvalue := value.depth_le
    simp only [List.length_append, List.length_cons]
    omega

/-- The values of members are no deeper than their text is long. -/
theorem SpellsMembers.depth_le {d : Dialect} : ∀ {entries : Entries Json} {text : List Char},
    SpellsMembers d entries text → ∀ entry ∈ entries, entry.2.depth ≤ text.length
  | _, _, .one member => List.forall_mem_singleton.mpr member.depth_le
  | _, _, .more member rest => by
    have hmember := member.depth_le
    have hrest := rest.depth_le
    rw [List.length_append, List.length_cons, List.forall_mem_cons]
    refine ⟨by omega, fun other hother => ?_⟩
    have hother := hrest other hother
    omega

end

/-- Each character takes at least one byte. -/
lemma length_le_length_encode (text : List Char) : text.length ≤ (encode text).length := by
  induction text with
  | nil => exact Nat.le_refl 0
  | cons c text ih =>
    obtain ⟨b, further, hbytes, -, -⟩ := Utf8.exists_utf8EncodeChar c
    rw [Utf8.encode_cons, hbytes, List.length_cons, List.length_append, List.length_cons]
    omega

/-! ### Reading -/

/-- A text is read as a value exactly if it is the text of that value, up to repeated keys. -/
theorem parseAnyDepth_eq_ok_iff {bytes : Bytes} {v : Json} :
    parseAnyDepth bytes = .ok v ↔
      ∃ text raw, bytes = encode text ∧ SpellsElement .strict raw text ∧ raw.collapsed = v := by
  unfold parseAnyDepth
  rw [readAs_value_eq_ok_iff]
  constructor
  · rintro ⟨text, raw, htext, hspells, -, hraw⟩
    exact ⟨text, raw, htext, hspells, hraw⟩
  · rintro ⟨text, raw, rfl, hspells, hraw⟩
    have hdepth : raw.depth ≤ (encode text).length :=
      le_trans hspells.depth_le (length_le_length_encode text)
    exact ⟨text, raw, rfl, hspells, hdepth, hraw⟩

/-- A value is read back from its text, if its objects have distinct keys. -/
theorem parseAnyDepth_text {v : Json} (hkeys : v.DistinctKeys) :
    parseAnyDepth (bytesOf v.text) = .ok v := by
  rw [parseAnyDepth_eq_ok_iff]
  refine ⟨v.chars, v, ?_, (spells_chars v).element, collapsed_eq_self hkeys⟩
  rw [bytesOf, text, String.toList_ofList]

end GraphqlClient.Json
