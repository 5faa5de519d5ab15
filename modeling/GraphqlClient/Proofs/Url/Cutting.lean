import GraphqlClient.Proofs.Outcome
import GraphqlClient.Url.Parser
import Mathlib

/-!
# Cutting addresses

Where a text is cut at a delimiter, seen from both sides: the parts of a text that was put together
are found again, and a text that was cut was put together of its parts.  From this follows what the
scheme of an address is and what is left without its query and its fragment.
-/

namespace GraphqlClient.Url

/-! ### Delimiters -/

section

variable {delimiter p : Char → Bool} {text before after rest : List Char} {c d : Char}

/-- What is left after some characters of a kind starts with none of them. -/
lemma of_mem_head?_dropWhile (h : c ∈ (text.dropWhile p).head?) : p c = false := by
  have hhead := List.head?_dropWhile_not p text
  rw [Option.mem_def.mp h] at hhead
  exact hhead

/-- What is left after the leading characters with a property is what is dropped for it. -/
lemma drop_length_takeWhile (p : Char → Bool) (text : List Char) :
    text.drop (text.takeWhile p).length = text.dropWhile p := by
  have hdrop : (text.takeWhile p ++ text.dropWhile p).drop (text.takeWhile p).length =
      text.dropWhile p :=
    List.drop_left
  rwa [List.takeWhile_append_dropWhile] at hdrop

/-- What comes before the delimiter may be longer. -/
lemma cut_append (h : ∀ c ∈ before, delimiter c = false) :
    cut delimiter (before ++ rest) =
      (before ++ (cut delimiter rest).1, (cut delimiter rest).2) := by
  have hbefore : ∀ c ∈ before, (!delimiter c) = true := fun c hc => by rw [h c hc]; rfl
  unfold cut
  rw [List.dropWhile_append_of_pos hbefore, List.takeWhile_append_of_pos hbefore]
  split
  · rfl
  · rfl

/-- Without a delimiter nothing is cut off. -/
lemma cut_of_forall (h : ∀ c ∈ text, delimiter c = false) : cut delimiter text = (text, none) := by
  have hcut : cut delimiter (text ++ []) = _ := cut_append h
  rw [List.append_nil] at hcut
  rw [hcut]
  exact congrArg (·, none) (List.append_nil text)

/-- A delimiter at the front cuts off the rest. -/
lemma cut_cons (hd : delimiter d = true) : cut delimiter (d :: after) = ([], some after) := by
  simp [cut, hd]

/-- What comes before the delimiter has none. -/
lemma cut_fst (delimiter : Char → Bool) (text : List Char) :
    (cut delimiter text).1 = text.takeWhile (!delimiter ·) := by
  unfold cut
  split
  · next hnone => exact (List.takeWhile_eq_self_iff.mpr (List.dropWhile_eq_nil_iff.mp hnone)).symm
  · rfl

/-- A text is cut at a delimiter. -/
lemma exists_of_cut (h : cut delimiter text = (before, some after)) :
    ∃ d, text = before ++ d :: after ∧ delimiter d = true ∧ ∀ c ∈ before, delimiter c = false := by
  unfold cut at h
  split at h
  · cases h
  · next d rest hrest =>
    obtain ⟨rfl, hafter⟩ := Prod.mk.inj h
    obtain rfl := Option.some.inj hafter
    have hd := of_mem_head?_dropWhile (by rw [hrest]; rfl)
    refine ⟨d, ?_, by simpa using hd, ?_⟩
    · rw [← hrest, List.takeWhile_append_dropWhile]
    · intro c hc
      simpa using List.mem_takeWhile_imp hc

/-- Without a delimiter nothing is cut off at the last one. -/
lemma cutLast_of_forall (h : ∀ c ∈ text, delimiter c = false) :
    cutLast delimiter text = (none, text) := by
  have hreverse : ∀ c ∈ text.reverse, delimiter c = false :=
    fun c hc => h c (List.mem_reverse.mp hc)
  simp [cutLast, cut_of_forall hreverse]

/-- A delimiter after which there is no other cuts the text. -/
lemma cutLast_append_cons (hd : delimiter d = true) (h : ∀ c ∈ after, delimiter c = false) :
    cutLast delimiter (before ++ d :: after) = (some before, after) := by
  have hreverse : ∀ c ∈ after.reverse, delimiter c = false :=
    fun c hc => h c (List.mem_reverse.mp hc)
  have hcut : cut delimiter (before ++ d :: after).reverse =
      (after.reverse, some before.reverse) := by
    rw [List.reverse_append, List.reverse_cons, List.append_assoc, cut_append hreverse,
      List.singleton_append, cut_cons hd, List.append_nil]
  unfold cutLast
  rw [hcut]
  simp

/-- A text that is cut at the last delimiter has one, and no other after it. -/
lemma exists_of_cutLast (h : cutLast delimiter text = (some before, after)) :
    ∃ d, text = before ++ d :: after ∧ delimiter d = true ∧ ∀ c ∈ after, delimiter c = false := by
  unfold cutLast at h
  rcases hcut : cut delimiter text.reverse with ⟨after', before'?⟩
  rw [hcut] at h
  obtain ⟨hbefore, rfl⟩ := Prod.mk.inj h
  obtain ⟨before', rfl, rfl⟩ := Option.map_eq_some_iff.mp hbefore
  obtain ⟨d, hsplit, hd, hafter⟩ := exists_of_cut hcut
  refine ⟨d, ?_, hd, fun c hc => hafter c (List.mem_reverse.mp hc)⟩
  have hreverse := congrArg List.reverse hsplit
  simpa using hreverse

end

/-! ### Query and fragment -/

/-- What has neither query nor fragment in it stays whole. -/
lemma Cut.ofText_append {before rest : List Char} (h : ∀ c ∈ before, c ≠ '?' ∧ c ≠ '#') :
    Cut.ofText (before ++ rest) =
      { Cut.ofText rest with hierarchy := before ++ (Cut.ofText rest).hierarchy } := by
  have hfragment : ∀ c ∈ before, decide (c = '#') = false := fun c hc => decide_eq_false (h c hc).2
  have hquery : ∀ c ∈ before, decide (c = '?') = false := fun c hc => decide_eq_false (h c hc).1
  unfold Cut.ofText
  dsimp only
  rw [cut_append hfragment, cut_append hquery]

/-- What stands before query and fragment. -/
lemma Cut.hierarchy_ofText (text : List Char) :
    (Cut.ofText text).hierarchy = text.takeWhile fun c => c ≠ '?' && c ≠ '#' := by
  unfold Cut.ofText
  dsimp only
  rw [cut_fst, cut_fst, List.takeWhile_takeWhile]
  congr 1
  funext c
  simp

/-- The hierarchy of an address starts as the text does, unless that starts with a query or a
fragment. -/
lemma Cut.head?_hierarchy (text : List Char) :
    (Cut.ofText text).hierarchy.head? = text.head?.filter fun c => c ≠ '?' && c ≠ '#' := by
  rw [Cut.hierarchy_ofText, List.head?_takeWhile]

/-! ### Schemes -/

/-- A scheme is read the same whatever follows its colon. -/
lemma exists_of_scheme? {text rest : List Char} {scheme : String}
    (h : scheme? text = some (scheme, rest)) :
    ∃ name, text = name ++ ':' :: rest ∧ ∀ other, scheme? (name ++ ':' :: other) =
      some (scheme, other) := by
  unfold scheme? at h
  split at h
  · next c name rest' hcut =>
    split at h
    · next hvalid =>
      obtain ⟨rfl, rfl⟩ := Prod.mk.inj (Option.some.inj h)
      obtain ⟨d, hsplit, hd, hname⟩ := exists_of_cut hcut
      obtain rfl : d = ':' := of_decide_eq_true hd
      refine ⟨c :: name, hsplit, fun other => ?_⟩
      unfold scheme?
      rw [cut_append hname, cut_cons (by simp), List.append_nil]
      dsimp only
      rw [if_pos hvalid]
    · cases h
  · cases h

/-- A text with a scheme is read as the scheme has it. -/
lemma parse_of_scheme? {text : String} {scheme : String} {rest : List Char}
    (h : scheme? (clean text.toList) = some (scheme, rest)) :
    parse text = parseScheme none scheme (.ofText rest) := by
  unfold parse resolve
  dsimp only
  rw [h]

/-- An address that is read has a scheme. -/
lemma exists_scheme?_of_parse {text : String} {url : Url} (h : parse text = .ok url) :
    ∃ scheme rest, scheme? (clean text.toList) = some (scheme, rest) ∧
      parseScheme none scheme (.ofText rest) = .ok url := by
  cases hscheme : scheme? (clean text.toList) with
  | none =>
    unfold parse resolve at h
    dsimp only at h
    rw [hscheme] at h
    cases h
  | some found =>
    rw [parse_of_scheme? hscheme] at h
    exact ⟨found.1, found.2, rfl, h⟩

end GraphqlClient.Url
