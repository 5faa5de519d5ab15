import GraphqlClient.Document.Parser
import Mathlib

/-!
# What readers take

A reader takes tokens from the front of a list.  `Parse.Reads` says what the tokens that it takes
have to do with what it makes of them.  There is one rule for each way in which readers are built,
so that a statement about a phrase follows the reader of the phrase, step by step.
-/

namespace GraphqlClient

namespace Parse

variable {α β : Type} {p : Parse α} {f : α → Parse β} {r : α → List PlacedToken → Prop}
  {s : β → List PlacedToken → Prop}

/-- What the reader takes it takes from the front, and `r` holds between what it makes of that and
what it has taken. -/
def Reads (p : Parse α) (r : α → List PlacedToken → Prop) : Prop :=
  ∀ ts a rest, p.run ts = some (a, rest) → ∃ used, ts = used ++ rest ∧ r a used

/-- The reader takes from the front. -/
def Takes (p : Parse α) : Prop := Reads p fun _ _ => True

/-! ### Sequences -/

namespace Reads

/-- What a reader reads is more than it has to be if that is less. -/
lemma mono {r' : α → List PlacedToken → Prop} (h : Reads p r)
    (himp : ∀ a used, r a used → r' a used) :
    Reads p r' := by
  intro ts a rest hrun
  obtain ⟨used, hused, hr⟩ := h ts a rest hrun
  exact ⟨used, hused, himp a used hr⟩

/-- A reader that reads something takes tokens from the front. -/
lemma takes (h : Reads p r) : Takes p := h.mono fun _ _ _ => trivial

/-- A reader that does nothing takes no token. -/
lemma pure {a : α} (h : r a []) : Reads (pure a) r := by
  intro ts b rest hrun
  cases hrun
  exact ⟨[], rfl, h⟩

/-- A reader that fails reads whatever it has to. -/
lemma failure : Reads failure r := fun _ _ _ hrun => nomatch hrun

/-- One reader after another: what the second one takes comes after what the first one has taken. -/
lemma bind (hp : Reads p r)
    (hf : ∀ a used, r a used → Reads (f a) fun b more => s b (used ++ more)) :
    Reads (p >>= f) s := by
  intro ts b rest hrun
  obtain ⟨⟨a, middle⟩, hfirst, hsecond⟩ := Option.bind_eq_some_iff.mp hrun
  obtain ⟨used, rfl, hr⟩ := hp ts a middle hfirst
  obtain ⟨more, rfl, hs⟩ := hf a used hr middle b rest hsecond
  exact ⟨used ++ more, (List.append_assoc used more rest).symm, hs⟩

/-- A reader that fails at first reads whatever it has to. -/
lemma failure_bind : Reads (Alternative.failure >>= f) s := fun _ _ _ hrun => nomatch hrun

/-- A reader with which something is made of what another one gives. -/
lemma map {g : α → β} (hp : Reads p r) (hg : ∀ a used, r a used → s (g a) used) :
    Reads (p >>= fun a => Pure.pure (g a)) s :=
  hp.bind fun a used hr => pure (by rw [List.append_nil]; exact hg a used hr)

/-- What is made of the outcome does not change which tokens are read. -/
lemma fmap {g : α → β} (hp : Reads p r) (hg : ∀ a used, r a used → s (g a) used) :
    Reads (g <$> p) s := by
  rw [map_eq_pure_bind]
  exact hp.map hg

end Reads

namespace Takes

/-- A reader that does nothing takes no token. -/
lemma pure (a : α) : Takes (pure a) := Reads.pure trivial

/-- A reader that fails takes no token. -/
lemma failure : Takes (failure : Parse α) := Reads.failure

/-- A reader that fails at first takes no token. -/
lemma failure_bind : Takes (Alternative.failure >>= f) := Reads.failure_bind

/-- Two readers in turn take tokens if each of them does. -/
lemma bind (hp : Takes p) (hf : ∀ a, Takes (f a)) : Takes (p >>= f) :=
  Reads.bind hp fun a _ _ => hf a

/-- What is made of the outcome does not change that tokens are taken. -/
lemma fmap {g : α → β} (hp : Takes p) : Takes (g <$> p) := Reads.fmap hp fun _ _ _ => trivial

end Takes

/-! ### Looking ahead -/

/-- A reader may go by all of the tokens. -/
lemma reads_get_bind {f : List PlacedToken → Parse β} (h : ∀ ts, Reads (f ts) s) :
    Reads (get >>= f) s :=
  fun ts b rest hrun => h ts ts b rest hrun

/-- A look at the next token takes nothing. -/
lemma reads_peek_bind {f : Option Token → Parse β} (h : ∀ t?, Reads (f t?) s) :
    Reads (peek? >>= f) s :=
  fun ts b rest hrun => h _ ts b rest hrun

/-- The question whether a token comes next takes nothing. -/
lemma reads_sees_bind {f : Bool → Parse β} {t : Token} (h : ∀ b, Reads (f b) s) :
    Reads (sees t >>= f) s :=
  fun ts b rest hrun => h _ ts b rest hrun

/-- The line that is looked up before anything is taken is that of the first token taken. -/
lemma reads_line_bind {f : Nat → Parse β}
    (h : ∀ n, Reads (f n) fun b used => (∀ t ∈ used.head?, t.line = n) → s b used) :
    Reads (line >>= f) s := by
  intro ts b rest hrun
  obtain ⟨used, rfl, hs⟩ := h _ ts b rest hrun
  refine ⟨used, rfl, hs ?_⟩
  intro t ht
  obtain ⟨more, rfl⟩ := List.head?_eq_some_iff.mp ht
  rfl

/-! ### Single tokens -/

/-- The tokens are the single one `t`, on any line. -/
def IsToken (t : Token) (used : List PlacedToken) : Prop :=
  ∃ line, used = [{ token := t, line := line }]

/-- The next token is read. -/
lemma reads_next : Reads next IsToken := by
  intro ts t rest hrun
  cases ts with
  | nil => cases hrun
  | cons first more =>
    cases hrun
    exact ⟨[first], rfl, first.line, rfl⟩

/-- A token that is expected is read. -/
lemma reads_expect (t : Token) : Reads (expect t) fun _ used => IsToken t used := by
  refine reads_next.bind fun t' used hused => ?_
  split
  · next heq =>
    refine .pure ?_
    rw [List.append_nil, ← heq]
    exact hused
  · exact .failure

/-- A name is read as the token that it is. -/
lemma reads_identifier : Reads identifier fun name used => IsToken (.name name) used := by
  refine reads_next.bind fun t used hused => ?_
  split
  · refine .pure ?_
    rw [List.append_nil]
    exact hused
  · exact .failure

/-- A token that may come next is read if it does. -/
lemma reads_accept (t : Token) :
    Reads (accept t) fun accepted used => if accepted then IsToken t used else used = [] := by
  refine reads_peek_bind fun t? => ?_
  split
  · refine (reads_expect t).map fun _ used hused => ?_
    exact hused
  · exact .pure rfl

/-- Where a token decides how to go on: either it has been taken, or nothing has. -/
lemma reads_accept_bind {f : Bool → Parse β} {t : Token}
    (htaken : ∀ used, IsToken t used → Reads (f true) fun b more => s b (used ++ more))
    (hleft : Reads (f false) s) :
    Reads (accept t >>= f) s := by
  refine (reads_accept t).bind fun accepted used hused => ?_
  cases accepted with
  | true => exact htaken used hused
  | false =>
    obtain rfl : used = [] := hused
    exact hleft

/-- What starts with a token is read if the token comes next. -/
lemma reads_whenSees (start : Token) (hp : Reads p r) :
    Reads (whenSees start p) fun a? used => a?.elim (used = []) (r · used) := by
  refine reads_sees_bind fun seen => ?_
  split
  · exact hp.map fun a used hr => hr
  · exact .pure rfl

/-! ### Repetition -/

/-- Items and the tokens taken for them, one item after the other. -/
inductive Each (r : α → List PlacedToken → Prop) : List α → List PlacedToken → Prop
  | nil : Each r [] []
  | cons {a : α} {as : List α} {used more : List PlacedToken} (first : r a used)
      (rest : Each r as more) :
      Each r (a :: as) (used ++ more)

/-- Items are read up to the closing token, and that token as well. -/
lemma reads_itemsUpTo {item : Parse α} (close : Token) (hitem : Reads item r) (n : Nat) :
    Reads (itemsUpTo close item n) fun as used => ∃ items closing, Each r as items ∧
      IsToken close closing ∧
      used = items ++ closing := by
  induction n with
  | zero => exact .failure
  | succ n ih =>
    refine reads_accept_bind (fun closing hclosing => ?_) ?_
    · exact .pure ⟨[], closing, .nil, hclosing, by rw [List.append_nil, List.nil_append]⟩
    · refine hitem.bind fun a first hfirst => ih.map ?_
      rintro as _ ⟨items, closing, hitems, hclosing, rfl⟩
      exact ⟨first ++ items, closing, .cons hfirst hitems, hclosing, (List.append_assoc _ _ _).symm⟩

/-- Items are read up to the closing punctuator, and that as well. -/
lemma reads_itemsUntil {item : Parse α} (close : Char) (hitem : Reads item r) :
    Reads (itemsUntil close item) fun as used => ∃ items closing, Each r as items ∧
      IsToken (.punctuator close) closing ∧ used = items ++ closing :=
  reads_get_bind fun ts => reads_itemsUpTo _ hitem ts.length

/-- At least one item is read, and the brackets around the items. -/
lemma reads_enclosed {item : Parse α} (opening close : Char) (hitem : Reads item r) :
    Reads (enclosed opening close item) fun as used => as ≠ [] ∧ ∃ first items last,
      IsToken (.punctuator opening) first ∧ Each r as items ∧ IsToken (.punctuator close) last ∧
        used = first ++ (items ++ last) := by
  refine (reads_expect _).bind fun _ first hfirst => (reads_itemsUntil close hitem).bind ?_
  rintro as _ ⟨items, last, hitems, hlast, rfl⟩
  split
  · exact .failure
  · next hne =>
    refine .pure ⟨hne, first, items, last, hfirst, hitems, hlast, ?_⟩
    rw [List.append_nil]

/-- A reader of items in brackets, if there are any, takes tokens. -/
lemma takes_enclosedIfAny {item : Parse α} (opening close : Char) (hitem : Takes item) :
    Takes (enclosedIfAny opening close item) :=
  (reads_whenSees _ (reads_enclosed opening close hitem)).takes.bind fun _ => .pure _

/-- Items that start with a token are read as long as it comes next. -/
lemma reads_prefixedUpTo {item : Parse α} (start : Token) (hitem : Reads item r) (n : Nat) :
    Reads (prefixedUpTo start item n) (Each r) := by
  induction n with
  | zero => exact .failure
  | succ n ih =>
    refine reads_sees_bind fun seen => ?_
    split
    · exact hitem.bind fun a first hfirst => ih.map fun as more hmore => .cons hfirst hmore
    · exact .pure .nil

/-- Items that start with a punctuator are read as long as it comes next. -/
lemma reads_whileSees {item : Parse α} (start : Char) (hitem : Reads item r) :
    Reads (whileSees start item) (Each r) :=
  reads_get_bind fun ts => reads_prefixedUpTo _ hitem (ts.length + 1)

/-- A reader of separated items takes tokens, whatever the bound for their number is. -/
lemma takes_separatedUpTo {item : Parse α} (separator : Char) (hitem : Takes item) (n : Nat) :
    Takes (separatedUpTo separator item n) := by
  induction n with
  | zero => exact .failure
  | succ n ih =>
    refine hitem.bind fun a => (reads_accept _).takes.bind fun accepted => ?_
    split
    · exact ih.bind fun as => .pure _
    · exact .pure _

/-- A reader of separated items takes tokens. -/
lemma takes_separated {item : Parse α} (separator : Char) (hitem : Takes item) :
    Takes (separated separator item) :=
  (reads_accept _).takes.bind fun _ => reads_get_bind fun ts =>
    takes_separatedUpTo separator hitem ts.length

end Parse

end GraphqlClient
