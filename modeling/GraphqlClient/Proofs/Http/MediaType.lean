import GraphqlClient.Http.MediaType
import Mathlib

/-!
# Media types as they are written again

A media type that has been read is written in lower case where case does not count, and without a
semicolon that no parameter follows.  Beside that it is the text that was read
(`MediaType.restates_of_read?`).
-/

namespace GraphqlClient.MediaType

/-- Two texts write one media type: they are the same up to the case of letters, and up to a
semicolon after which the first has no parameter. -/
def Restates (given sent : String) : Prop :=
  ∃ dropped, given.toList.map Char.toLower = sent.toList.map Char.toLower ++ dropped ∧
    (dropped = [] ∨ dropped.head? = some ';' ∧ '=' ∉ given.toList)

variable {r r' : Reading} {c : Char} {chars : List Char}

/-- Each character is taken over, up to its case. -/
lemma Reading.text_of_next? (h : r.next? c = some r') :
    r'.text.map Char.toLower = r.text.map Char.toLower ++ [c.toLower] := by
  have heither : ∀ kept : Bool, (if kept then c else c.toLower).toLower = c.toLower := by
    intro kept
    cases kept with
    | true => rfl
    | false => exact Char.toLower_toLower_eq_toLower c
  obtain ⟨place, -, hr'⟩ := Option.bind_eq_some_iff.mp h
  obtain rfl := Option.some.inj hr'
  rw [List.map_append, List.map_singleton, heither]

/-- Up to the case of letters, what is read is kept as it is. -/
lemma Reading.text_of_foldlM (h : chars.foldlM Reading.next? r = some r') :
    r'.text.map Char.toLower = r.text.map Char.toLower ++ chars.map Char.toLower := by
  induction chars generalizing r with
  | nil =>
    obtain rfl := Option.some.inj h
    rw [List.map_nil, List.append_nil]
  | cons c chars ih =>
    rw [List.foldlM_cons] at h
    obtain ⟨next, hnext, hrest⟩ := Option.bind_eq_some_iff.mp h
    rw [ih hrest, Reading.text_of_next? hnext, List.append_assoc, List.map_cons,
      List.singleton_append]

/-- No other character becomes an equals sign in lower case. -/
lemma eq_equals_of_toLower (h : c.toLower = '=') : c = '=' := by
  unfold Char.toLower at h
  split at h
  · next hletter =>
    have hval := congrArg Char.val h
    have hnat := congrArg UInt32.toNat hval
    obtain ⟨hlower, hupper⟩ := hletter
    have hlower' : 65 ≤ c.val.toNat := hlower
    have hupper' : c.val.toNat ≤ 90 := hupper
    have hsum : (c.val + ('a'.val - 'A'.val)).toNat = c.val.toNat + 32 := by
      rw [UInt32.toNat_add]
      change (c.val.toNat + 32) % 2 ^ 32 = _
      omega
    have hequals : ('=' : Char).val.toNat = 61 := rfl
    dsimp only at hnat
    omega
  · exact h

/-- A media type that has been read is the text that was read, up to case and an empty list of
parameters. -/
theorem restates_of_read? {given sent : String} (h : read? given = some sent) :
    Restates given sent := by
  unfold read? at h
  obtain ⟨r, hr, hsent⟩ := Option.bind_eq_some_iff.mp h
  have htext : r.text.map Char.toLower = given.toList.map Char.toLower := Reading.text_of_foldlM hr
  split at hsent
  · obtain rfl := Option.some.inj hsent
    -- Where there is no equals sign there is no parameter, and what stands from the semicolon on is
    -- dropped.
    by_cases hparameters : r.text.contains '=' = true
    · refine ⟨[], ?_, .inl rfl⟩
      rw [if_pos hparameters, String.toList_ofList, htext, List.append_nil]
    · have hsplit : r.text.takeWhile (· ≠ ';') ++ r.text.dropWhile (· ≠ ';') = r.text :=
        List.takeWhile_append_dropWhile
      refine ⟨(r.text.dropWhile (· ≠ ';')).map Char.toLower, ?_, ?_⟩
      · rw [if_neg hparameters, String.toList_ofList, ← List.map_append, hsplit, htext]
      · have hnone : '=' ∉ given.toList := by
          intro hmem
          have hlower : '=' ∈ r.text.map Char.toLower := by
            rw [htext]
            exact List.mem_map.mpr ⟨'=', hmem, rfl⟩
          obtain ⟨c, hc, heq⟩ := List.mem_map.mp hlower
          rw [eq_equals_of_toLower heq] at hc
          exact hparameters (List.contains_iff_mem.mpr hc)
        cases hrest : r.text.dropWhile (· ≠ ';') with
        | nil => exact .inl rfl
        | cons c rest =>
          have hc : c = ';' := by
            have hhead := List.head?_dropWhile_not (· ≠ ';') r.text
            rw [hrest] at hhead
            simpa using hhead
          refine .inr ⟨?_, hnone⟩
          rw [hc]
          rfl
  · cases hsent

end GraphqlClient.MediaType
