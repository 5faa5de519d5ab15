import GraphqlClient.Proofs.Text.Percent
import GraphqlClient.Proofs.Url.Cutting
import GraphqlClient.Url.Credentials
import Mathlib

/-!
# Who is asking

Between the slashes and the server, an address may say who is asking.  Whatever stands there, the
rest of the text is read as if nothing did (`Url.Frame.Holds.parse_eq`), and wherever somebody is
named, this is the place (`Url.Frame.exists_of_parse`).  Where somebody is named, there is a server
to be asked, so that the name can be taken out again (`Url.sound_of_parse`).
-/

namespace GraphqlClient

/-! ### Names of hosts -/

namespace Host

/-- A host that is made of pieces is no name. -/
lemma ne_of_ofPieces? {pieces : List UInt16} {host : Host} (h : ofPieces? pieces = some host)
    (name : String) :
    host ≠ .name name := by
  unfold ofPieces? at h
  split at h
  · obtain rfl := Option.some.inj h
    exact nofun
  · cases h

/-- An IPv6 address is no name. -/
lemma ne_of_ipv6? {text : List Char} {host : Host} (h : ipv6? text = some host) (name : String) :
    host ≠ .name name := by
  unfold ipv6? at h
  split at h
  · obtain ⟨pieces, -, hpieces⟩ := Option.bind_eq_some_iff.mp h
    exact ne_of_ofPieces? hpieces name
  · obtain ⟨before, -, h⟩ := Option.bind_eq_some_iff.mp h
    obtain ⟨after, -, h⟩ := Option.bind_eq_some_iff.mp h
    dsimp only at h
    split at h
    · cases h
    · exact ne_of_ofPieces? h name

/-- A host in brackets is no name. -/
lemma ne_of_bracketed? {text : List Char} {host : Host} (h : bracketed? text = some (.ok host))
    (name : String) :
    host ≠ .name name := by
  unfold bracketed? at h
  split at h
  · next inner =>
    have hread := Option.some.inj h
    split at hread
    · cases hpieces : ipv6? inner.dropLast with
      | none =>
        rw [hpieces] at hread
        cases hread
      | some found =>
        rw [hpieces] at hread
        obtain rfl := Except.ok.inj hread
        exact ne_of_ipv6? hpieces name
    · cases hread
  · cases h

/-- A host with characters in its name is not empty. -/
lemma name_ne_empty {characters : List Char} (h : characters ≠ []) :
    Host.name (String.ofList characters) ≠ .name "" := by
  intro hname
  have htext := congrArg String.toList (Host.name.inj hname)
  rw [String.toList_ofList] at htext
  exact h htext

/-- A domain that is read is not empty. -/
lemma ne_of_parseDomain {text : List Char} {host : Host} (h : parseDomain text = .ok host) :
    host ≠ .name "" := by
  unfold parseDomain at h
  split at h
  · cases h
  · cases h
  · next domain hne _ =>
    split at h
    · cases haddress : ipv4? domain with
      | none =>
        rw [haddress] at h
        cases h
      | some address =>
        rw [haddress] at h
        obtain rfl := Except.ok.inj h
        exact nofun
    · obtain rfl := Except.ok.inj h
      exact name_ne_empty hne

/-- The name of a host is not empty if its text is not. -/
lemma ne_of_parseName {text : List Char} {host : Host} (h : parseName text = .ok host)
    (htext : text ≠ []) :
    host ≠ .name "" := by
  unfold parseName at h
  split at h
  · cases h
  · obtain rfl := Except.ok.inj h
    exact name_ne_empty (Percent.encode_ne_nil htext)

/-- Only an empty text writes the host without a name. -/
lemma ne_of_parse {special : Bool} {text : List Char} {host : Host}
    (h : Host.parse special text = .ok host) (htext : text ≠ []) : host ≠ .name "" := by
  unfold Host.parse at h
  split at h
  · next read hbracketed =>
    subst h
    exact ne_of_bracketed? hbracketed ""
  · split at h
    · exact ne_of_parseDomain h
    · exact ne_of_parseName h htext

end Host

namespace Url

/-! ### Slashes -/

section

variable {scheme : String} {rest : List Char}

/-- Whether slashes are those that a scheme has before the server. -/
def Slashed (scheme : String) (slashes : List Char) : Prop :=
  if isSpecial scheme then ∀ c ∈ slashes, isSlash true c = true else slashes = ['/', '/']

/-- Slashes are slashes in any special address. -/
lemma Slashed.all {slashes : List Char} (h : Slashed scheme slashes) :
    ∀ c ∈ slashes, isSlash true c = true := by
  unfold Slashed at h
  split at h
  · exact h
  · subst h
    simp [isSlash]

/-- What follows them is read as a server. -/
lemma parseScheme_of_slashed {slashes : List Char} {query? fragment? : Option (List Char)}
    (hscheme : scheme ≠ "file") (hslashes : Slashed scheme slashes)
    (hserver : ∀ c ∈ rest.head?, isSlash (isSpecial scheme) c = false) :
    parseScheme none scheme ⟨slashes ++ rest, query?, fragment?⟩ =
      (parseServer scheme rest).map (·.withCut query? fragment?) := by
  unfold Slashed at hslashes
  unfold parseScheme
  rw [if_neg hscheme]
  split at hslashes
  · next hspecial =>
    rw [if_pos hspecial]
    rw [hspecial] at hserver
    have htake : leadingSlashes true (slashes ++ rest) = slashes.length := by
      unfold leadingSlashes
      rw [List.takeWhile_append_of_pos hslashes]
      cases rest with
      | nil => simp
      | cons c rest => rw [List.takeWhile_cons_of_neg (by simp [hserver c rfl]), List.append_nil]
    dsimp only
    rw [htake, List.drop_left]
    cases parseServer scheme rest with
    | error e => rfl
    | ok url => rfl
  · next hspecial =>
    rw [if_neg hspecial]
    subst hslashes
    change (parseServer scheme rest >>= fun url => pure (url.withCut query? fragment?)) = _
    cases parseServer scheme rest with
    | error e => rfl
    | ok url => rfl

end

/-! ### Servers with credentials -/

/-- The address with the user and the password that a userinfo tells. -/
def withUserinfo (url : Url) (userinfo? : Option (List Char)) : Url :=
  let (username, password?) := cut (· = ':') (userinfo?.getD [])
  { url with
    username := escaped isUserEscaped username
    password := escaped isUserEscaped (password?.getD []) }

/-- If a user or a password is given, there is a server that has a name. -/
def Sound (url : Url) : Prop := url.hasCredentials = true → url.takesCredentials = true

section

variable {scheme : String} {text : List Char} {url base : Url} {cut : Cut}

/-- What is read before a path: perhaps a userinfo, and a host, which is not empty if there is a
userinfo. -/
lemma exists_of_parseAuthority (h : parseAuthority base text = .ok url) :
    ∃ userinfo? server host port?, cutLast (· = '@') text = (userinfo?, server) ∧
      (userinfo?.isSome → (cutHost false server).1 ≠ []) ∧
      Host.parse (isSpecial base.scheme) (cutHost false server).1 = .ok host ∧
      url = ({ base with host? := some host, port? } : Url).withUserinfo userinfo? := by
  unfold parseAuthority at h
  rcases hcut : cutLast (· = '@') text with ⟨userinfo?, server⟩
  rw [hcut] at h
  dsimp only at h
  split at h
  · cases h
  · next hguard =>
    obtain ⟨host, hhost, h⟩ := bind_eq_ok_iff.mp h
    obtain ⟨port?, -, rfl⟩ := bind_pure_eq_ok_iff.mp h
    refine ⟨userinfo?, server, host, port?, rfl, fun hsome hempty => ?_, hhost, rfl⟩
    rw [hsome, hempty] at hguard
    simp at hguard

/-- An address that is read from its authority is sound. -/
lemma sound_of_parseAuthority (hscheme : scheme ≠ "file")
    (h : parseAuthority (ofScheme scheme) text = .ok url) :
    url.Sound := by
  intro hcredentials
  obtain ⟨userinfo?, server, host, port?, -, hserver, hhost, rfl⟩ := exists_of_parseAuthority h
  cases userinfo? with
  | none => cases hcredentials
  | some userinfo =>
    have hname : host ≠ .name "" := Host.ne_of_parse hhost (hserver rfl)
    simp [takesCredentials, withUserinfo, ofScheme, hscheme, hname]

/-- An address that is read from its server is sound. -/
lemma sound_of_parseServer (hscheme : scheme ≠ "file") (h : parseServer scheme text = .ok url) :
    url.Sound := by
  unfold parseServer at h
  obtain ⟨server, hserver, rfl⟩ := bind_pure_eq_ok_iff.mp h
  have hsound := sound_of_parseAuthority hscheme hserver
  exact hsound

/-- The address of a file names no user. -/
lemma hasCredentials_of_parseFileServer (h : parseFileServer text = .ok url) :
    url.hasCredentials = false := by
  unfold parseFileServer at h
  dsimp only at h
  split at h
  · cases h
    rfl
  · split at h
    · cases h
      rfl
    · obtain ⟨host, -, rfl⟩ := bind_pure_eq_ok_iff.mp h
      rfl

/-- Nobody is named where a file is. -/
lemma hasCredentials_of_parseFile (h : parseFile none cut = .ok url) :
    url.hasCredentials = false := by
  unfold parseFile at h
  dsimp only at h
  split at h
  · obtain ⟨server, hserver, h⟩ := bind_eq_ok_iff.mp h
    have hnone := hasCredentials_of_parseFileServer hserver
    cases h
    -- The address that is read may get another query only.
    split
    · exact hnone
    · exact hnone
  · split at h
    · cases h
      split
      · rfl
      · rfl
    · split at h
      · cases h
        split
        · rfl
        · rfl
      · cases h
        split
        · rfl
        · rfl

/-- If somebody is named by what follows a scheme, slashes and a server with a userinfo do. -/
lemma exists_of_parseScheme (h : parseScheme none scheme cut = .ok url)
    (hcredentials : url.hasCredentials = true) :
    scheme ≠ "file" ∧ ∃ slashes more read, cut.hierarchy = slashes ++ more ∧
      Slashed scheme slashes ∧
      parseServer scheme more = .ok read ∧ url = read.withCut cut.query? cut.fragment? := by
  unfold parseScheme at h
  split at h
  · rw [hasCredentials_of_parseFile h] at hcredentials
    cases hcredentials
  · next hscheme =>
    refine ⟨hscheme, ?_⟩
    split at h
    · next hspecial =>
      -- Any number of slashes will do here, of either kind.
      obtain ⟨read, hread, rfl⟩ := bind_pure_eq_ok_iff.mp h
      refine ⟨cut.hierarchy.takeWhile (isSlash true), _, read, ?_, ?_, hread, rfl⟩
      · rw [leadingSlashes, drop_length_takeWhile, List.takeWhile_append_dropWhile]
      · rw [Slashed, if_pos hspecial]
        exact fun c hc => List.mem_takeWhile_imp hc
    · next hspecial =>
      dsimp only at h
      split at h
      · next more hmore =>
        obtain ⟨read, hread, rfl⟩ := bind_pure_eq_ok_iff.mp h
        refine ⟨['/', '/'], more, read, hmore, ?_, hread, rfl⟩
        rw [Slashed, if_neg hspecial]
      · cases h
        cases hcredentials
      · cases h
        cases hcredentials

/-- Whoever is named can be taken out. -/
theorem sound_of_parse {text : String} (h : parse text = .ok url) : url.Sound := by
  intro hcredentials
  obtain ⟨scheme, rest, -, hread⟩ := exists_scheme?_of_parse h
  obtain ⟨hfile, slashes, more, read, -, -, hserver, rfl⟩ :=
    exists_of_parseScheme hread hcredentials
  have hsound := sound_of_parseServer hfile hserver
  exact hsound hcredentials

/-- An address that names no user is the same without credentials. -/
lemma withoutCredentials_of_not_hasCredentials (h : url.hasCredentials = false) :
    url.withoutCredentials = url := by
  simp only [hasCredentials, Bool.not_eq_false', Bool.and_eq_true, String.isEmpty_iff] at h
  obtain ⟨husername, hpassword⟩ := h
  cases url
  subst husername hpassword
  rfl

/-- User and password can be cleared where both can be changed. -/
lemma clear_of_takesCredentials (h : url.takesCredentials = true) :
    url.clearUsername.clearPassword = url.withoutCredentials := by
  have hkept : url.clearUsername.takesCredentials = true := by
    unfold clearUsername
    rw [if_pos h]
    exact h
  unfold clearPassword
  rw [if_pos hkept]
  unfold clearUsername
  rw [if_pos h]
  rfl

end

/-! ### The text around a userinfo -/

/-- Whether a character is the first one after the server: it starts the path, the query or the
fragment. -/
def endsServer (special : Bool) (c : Char) : Bool := isSlash special c || c = '?' || c = '#'

/-- The text of an address around the place where it says who is asking. -/
structure Frame where
  /-- The scheme as it is written. -/
  name : List Char
  scheme : String
  slashes : List Char
  server : List Char
  /-- Path, query and fragment. -/
  tail : List Char
  named : ∀ rest, scheme? (name ++ ':' :: rest) = some (scheme, rest)
  /-- Files are not asked for. -/
  not_file : scheme ≠ "file"
  slashed : Slashed scheme slashes
  server_ne_nil : server ≠ []
  server_inside : ∀ c ∈ server, c ≠ '@' ∧ endsServer (isSpecial scheme) c = false
  tail_starts : ∀ c ∈ tail.head?, endsServer (isSpecial scheme) c = true

namespace Frame

/-- The server, and who is asking it. -/
def authority (frame : Frame) : Option (List Char) → List Char
  | none => frame.server
  | some userinfo => userinfo ++ '@' :: frame.server

def around (frame : Frame) (userinfo? : Option (List Char)) : List Char :=
  frame.name ++ ':' :: (frame.slashes ++ (frame.authority userinfo? ++ frame.tail))

/-- A text holds a userinfo in a frame, where tabs, line ends, and spaces around it do not count. -/
structure Holds (frame : Frame) (userinfo? : Option (List Char)) (text : String) : Prop where
  text_eq : clean text.toList = frame.around userinfo?
  inside : ∀ userinfo ∈ userinfo?, ∀ c ∈ userinfo, endsServer (isSpecial frame.scheme) c = false

/-- The address that a frame writes without a userinfo. -/
def read (frame : Frame) : Except UrlFault Url :=
  let cut := Cut.ofText frame.tail
  (parseAuthority (ofScheme frame.scheme) frame.server).map fun url =>
    { url with path := rootedPath frame.scheme cut.hierarchy }.withCut cut.query? cut.fragment?

end Frame

section

variable {special : Bool} {c : Char} {frame : Frame} {userinfo? : Option (List Char)}
    {text : String}

/-- What does not end a server is no slash. -/
lemma isSlash_of_not_endsServer (h : endsServer special c = false) : isSlash special c = false := by
  unfold endsServer at h
  simp only [Bool.or_eq_false_iff] at h
  exact h.1.1

/-- An address with a server has some text for it. -/
lemma Frame.authority_ne_nil (frame : Frame) (userinfo? : Option (List Char)) :
    frame.authority userinfo? ≠ [] := by
  cases userinfo? with
  | none => exact frame.server_ne_nil
  | some userinfo => simp [authority]

/-- Nothing in the authority of an address ends it. -/
lemma Frame.Holds.authority_inside (h : frame.Holds userinfo? text) :
    ∀ c ∈ frame.authority userinfo?, endsServer (isSpecial frame.scheme) c = false := by
  intro c hc
  cases userinfo? with
  | none => exact (frame.server_inside c hc).2
  | some userinfo =>
    rcases List.mem_append.mp hc with hinfo | hrest
    · exact h.inside userinfo rfl c hinfo
    · rcases List.mem_cons.mp hrest with rfl | hserver
      · simp [endsServer, isSlash]
      · exact (frame.server_inside c hserver).2

/-- A server is found between slashes and a path. -/
lemma parseServer_append {scheme : String} {authority path : List Char}
    (hinside : ∀ c ∈ authority, isSlash (isSpecial scheme) c = false)
    (hpath : ∀ c ∈ path.head?, isSlash (isSpecial scheme) c = true) :
    parseServer scheme (authority ++ path) =
      (parseAuthority (ofScheme scheme) authority).map fun url =>
        { url with path := rootedPath scheme path } := by
  have htake : (authority ++ path).takeWhile (!isSlash (isSpecial scheme) ·) = authority := by
    rw [List.takeWhile_append_of_pos fun c hc => by rw [hinside c hc]; rfl]
    cases path with
    | nil => rw [List.takeWhile_nil, List.append_nil]
    | cons c path =>
      rw [List.takeWhile_cons_of_neg (by simp [hpath c rfl]), List.append_nil]
  unfold parseServer
  dsimp only
  rw [htake, List.drop_left]
  cases parseAuthority (ofScheme scheme) authority with
  | error e => rfl
  | ok url => rfl

/-- A text that is not empty has a host before its first colon, or a port after it. -/
lemma isSome_of_cutHost {text : List Char} (h : text ≠ [])
    (hhost : (cutHost false text).1.isEmpty = true) :
    (cutHost false text).2.isSome = true := by
  obtain ⟨c, rest, rfl⟩ := List.exists_cons_of_ne_nil h
  by_cases hc : c = ':'
  · subst hc
    rfl
  · simp [cutHost, hc] at hhost

/-- Whoever asks it, the server is the same. -/
lemma Frame.parseAuthority_authority (frame : Frame) (url : Url) (userinfo? : Option (List Char)) :
    parseAuthority url (frame.authority userinfo?) =
      (parseAuthority url frame.server).map (·.withUserinfo userinfo?) := by
  have hserver : ∀ c ∈ frame.server, decide (c = '@') = false := fun c hc =>
    decide_eq_false (frame.server_inside c hc).1
  have hcut : cutLast (· = '@') (frame.authority userinfo?) = (userinfo?, frame.server) := by
    cases userinfo? with
    | none => exact cutLast_of_forall hserver
    | some userinfo => exact cutLast_append_cons (by simp) hserver
  have hcut' : cutLast (· = '@') frame.server = (none, frame.server) := cutLast_of_forall hserver
  -- The server is not empty, so that a missing host is an error anyway.
  have hguard : ∀ asked : Bool, ((cutHost false frame.server).1.isEmpty &&
      (isSpecial url.scheme || asked || (cutHost false frame.server).2.isSome)) =
        (cutHost false frame.server).1.isEmpty := by
    intro asked
    cases hhost : (cutHost false frame.server).1.isEmpty with
    | false => rfl
    | true => simp [isSome_of_cutHost frame.server_ne_nil hhost]
  unfold parseAuthority
  rw [hcut, hcut']
  dsimp only
  rw [hguard, hguard]
  cases (cutHost false frame.server).1.isEmpty with
  | true => rfl
  | false =>
    cases Host.parse (isSpecial url.scheme) (cutHost false frame.server).1 with
    | error e => rfl
    | ok host =>
      cases parsePort url.scheme ((cutHost false frame.server).2.getD []) with
      | error e => rfl
      | ok port? => rfl

/-- Whatever a userinfo says, the address is the one that the frame writes. -/
theorem Frame.Holds.parse_eq (h : frame.Holds userinfo? text) :
    parse text = frame.read.map (·.withUserinfo userinfo?) := by
  let cut := Cut.ofText frame.tail
  -- The userinfo has no character that ends the part before the path, so that cutting the text does
  -- not depend on it.
  have hwhole : ∀ c ∈ frame.slashes ++ frame.authority userinfo?, c ≠ '?' ∧ c ≠ '#' := by
    intro c hc
    rcases List.mem_append.mp hc with hslash | hauthority
    · have hall := frame.slashed.all c hslash
      constructor <;> rintro rfl <;> simp [isSlash] at hall
    · have hinside := h.authority_inside c hauthority
      simp only [endsServer, Bool.or_eq_false_iff, decide_eq_false_iff_not] at hinside
      exact ⟨hinside.1.2, hinside.2⟩
  have hhierarchy : Cut.ofText (frame.slashes ++ (frame.authority userinfo? ++ frame.tail)) =
      ⟨frame.slashes ++ (frame.authority userinfo? ++ cut.hierarchy),
        cut.query?, cut.fragment?⟩ := by
    rw [← List.append_assoc, Cut.ofText_append hwhole, List.append_assoc]
  have hauthority : ∀ c ∈ frame.authority userinfo?, isSlash (isSpecial frame.scheme) c = false :=
    fun c hc => isSlash_of_not_endsServer (h.authority_inside c hc)
  have hpath : ∀ c ∈ cut.hierarchy.head?, isSlash (isSpecial frame.scheme) c = true := by
    intro c hc
    rw [Cut.head?_hierarchy, Option.mem_def, Option.filter_eq_some_iff] at hc
    obtain ⟨htail, hpath⟩ := hc
    have hstarts := frame.tail_starts c htail
    simp only [endsServer, Bool.or_eq_true, decide_eq_true_eq] at hstarts
    simp only [Bool.and_eq_true, decide_eq_true_eq] at hpath
    tauto
  have hhead : ∀ c ∈ (frame.authority userinfo? ++ cut.hierarchy).head?,
      isSlash (isSpecial frame.scheme) c = false := by
    intro c hc
    cases hauth : frame.authority userinfo? with
    | nil => exact absurd hauth (frame.authority_ne_nil userinfo?)
    | cons first rest =>
      rw [hauth] at hc hauthority
      obtain rfl : first = c := Option.some.inj hc
      exact hauthority first List.mem_cons_self
  have hscheme : scheme? (clean text.toList) = _ :=
    (congrArg scheme? h.text_eq).trans (frame.named _)
  rw [parse_of_scheme? hscheme, hhierarchy,
    parseScheme_of_slashed frame.not_file frame.slashed hhead, parseServer_append hauthority hpath,
    frame.parseAuthority_authority, Frame.read]
  cases parseAuthority (ofScheme frame.scheme) frame.server with
  | error e => rfl
  | ok url => rfl

end

/-! ### Finding the userinfo -/

/-- If somebody is named before a server, the text up to the path is a userinfo and a server. -/
lemma exists_of_parseServer {scheme : String} {text : List Char} {url : Url}
    (h : parseServer scheme text = .ok url) (hcredentials : url.hasCredentials = true) :
    ∃ userinfo server, text.takeWhile (!isSlash (isSpecial scheme) ·) = userinfo ++ '@' :: server ∧
      server ≠ [] ∧ '@' ∉ server := by
  unfold parseServer at h
  obtain ⟨read, hread, rfl⟩ := bind_pure_eq_ok_iff.mp h
  obtain ⟨userinfo?, server, host, port?, hcut, hserver, -, rfl⟩ := exists_of_parseAuthority hread
  cases userinfo? with
  | none => cases hcredentials
  | some userinfo =>
    obtain ⟨d, hsplit, hd, hat⟩ := exists_of_cutLast hcut
    obtain rfl : d = '@' := of_decide_eq_true hd
    refine ⟨userinfo, server, hsplit, ?_, fun hmem => absurd (hat '@' hmem) (by decide)⟩
    rintro rfl
    exact hserver rfl rfl

/-- Wherever somebody is named, it is in a frame. -/
theorem Frame.exists_of_parse {text : String} {url : Url} (h : parse text = .ok url)
    (hcredentials : url.hasCredentials = true) :
    ∃ (frame : Frame) (userinfo : List Char), frame.Holds (some userinfo) text := by
  obtain ⟨scheme, rest, hscheme, hread⟩ := exists_scheme?_of_parse h
  obtain ⟨name, htext, hnamed⟩ := exists_of_scheme? hscheme
  obtain ⟨hfile, slashes, more, read, hhierarchy, hslashed, hmade, rfl⟩ :=
    exists_of_parseScheme hread hcredentials
  obtain ⟨userinfo, server, hauthority, hserver, hat⟩ := exists_of_parseServer hmade hcredentials
  -- The userinfo ends at the last at sign before the path, query or fragment.
  let path := more.dropWhile (!isSlash (isSpecial scheme) ·)
  let cut := rest.dropWhile fun c => c ≠ '?' && c ≠ '#'
  have hmore : more = userinfo ++ '@' :: server ++ path := by
    rw [← hauthority, List.takeWhile_append_dropWhile]
  have hrest : rest = slashes ++ (userinfo ++ '@' :: server ++ path) ++ cut := by
    rw [← hmore, ← hhierarchy, Cut.hierarchy_ofText, List.takeWhile_append_dropWhile]
  have hinside : ∀ c ∈ userinfo ++ '@' :: server, endsServer (isSpecial scheme) c = false := by
    intro c hc
    have hslash : isSlash (isSpecial scheme) c = false := by
      rw [← hauthority] at hc
      simpa using List.mem_takeWhile_imp hc
    have hwhole : c ∈ (Cut.ofText rest).hierarchy := by
      rw [hhierarchy, hmore]
      exact List.mem_append_right _ (List.mem_append_left _ hc)
    rw [Cut.hierarchy_ofText] at hwhole
    have hself := List.mem_takeWhile_imp hwhole
    simp only [Bool.and_eq_true, decide_eq_true_eq] at hself
    simp [endsServer, hslash, hself]
  have hstarts : ∀ c ∈ (path ++ cut).head?, endsServer (isSpecial scheme) c = true := by
    intro c hc
    rw [List.head?_append] at hc
    rcases Option.or_eq_some_iff.mp hc with hpath | ⟨-, hcut⟩
    · have hself := of_mem_head?_dropWhile hpath
      simp only [Bool.not_eq_false'] at hself
      simp [endsServer, hself]
    · have hself := of_mem_head?_dropWhile hcut
      simp only [Bool.and_eq_false_iff, decide_eq_false_iff_not, not_not] at hself
      simp only [endsServer, Bool.or_eq_true, decide_eq_true_eq, or_assoc]
      exact .inr hself
  refine ⟨{
    name, scheme, slashes, server
    tail := path ++ cut
    named := hnamed
    not_file := hfile
    slashed := hslashed
    server_ne_nil := hserver
    server_inside := fun c hc => ⟨ne_of_mem_of_not_mem hc hat, hinside c (by simp [hc])⟩
    tail_starts := hstarts }, userinfo, ?_, ?_⟩
  · rw [htext, hrest]
    simp [around, authority]
  · intro userinfo' huserinfo c hc
    obtain rfl := Option.some.inj huserinfo
    exact hinside c (List.mem_append_left _ hc)

end Url

end GraphqlClient
