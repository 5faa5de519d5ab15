import GraphqlClient.Proofs.Text.Base64
import GraphqlClient.Proofs.Transport.Lifecycle
import Mathlib

/-!
# Basic authorization

A user and a password are written into the address of an endpoint, in which not every character can
stand as it is, and sent in a header field, in which no other character than those of Base64 stands.
On the way from the one to the other nothing is lost.  Main statement:
`Transport.ofConfig_authorizes`.
-/

namespace GraphqlClient

/-! ### Credentials in an address -/

namespace Url

/-- What stands for nothing but itself in front of a server. -/
def isUserRaw (c : Char) : Bool := !(isUserEscaped c || c = '%')

/-- A text says who the user is and what the password is.  An empty password may be left out with
its colon. -/
inductive Names (user password : List Char) : List Char → Prop
  | both {username password'} (spellsUser : Percent.Spells isUserRaw username (Utf8.encode user))
      (spellsPassword : Percent.Spells isUserRaw password' (Utf8.encode password)) :
      Names user password (username ++ ':' :: password')
  | user {username} (spellsUser : Percent.Spells isUserRaw username (Utf8.encode user))
      (empty : password = []) :
      Names user password username

variable {user password info text : List Char} {bytes : Bytes} {c : Char} {url : Url}

/-- One way to name them is to escape every character that is not raw. -/
lemma names_encode (user password : List Char) :
    Names user password (Percent.encode (!isUserRaw ·) user ++ ':' :: Percent.encode (!isUserRaw ·)
      password) := by
  have hspells : ∀ text, Percent.Spells isUserRaw (Percent.encode (!isUserRaw ·) text)
      (Utf8.encode text) := by
    intro text
    have hwritten := Percent.spells_encode (!isUserRaw ·) text
    simp only [Bool.not_not] at hwritten
    exact hwritten
  exact .both (hspells user) (hspells password)

/-- What spells the name of a user needs no further escapes. -/
lemma isUserEscaped_of_spells (h : Percent.Spells isUserRaw text bytes) (hc : c ∈ text) :
    isUserEscaped c = false := by
  rcases h.mem hc with hraw | hdigit
  · simp only [isUserRaw, Bool.not_eq_true', Bool.or_eq_false_iff] at hraw
    exact hraw.1
  · have hall : ('%' :: Percent.digits).all (!isUserEscaped ·) = true := by decide +kernel
    have hself := List.all_eq_true.mp hall c hdigit
    simpa using hself

/-- A colon stands in no text that spells the name of a user. -/
lemma colon_not_mem_of_spells (h : Percent.Spells isUserRaw text bytes) :
    ∀ c ∈ text, decide (c = ':') = false := by
  intro c hc
  have hself := isUserEscaped_of_spells h hc
  refine decide_eq_false ?_
  rintro rfl
  exact absurd hself (by decide)

/-- What ends a server does not stand raw before it. -/
lemma endsServer_of_not_isUserEscaped (special : Bool) (h : isUserEscaped c = false) :
    endsServer special c = false := by
  cases hends : endsServer special c with
  | false => rfl
  | true =>
    have hmem : c ∈ ['/', '\\', '?', '#'] := by
      simp only [endsServer, isSlash, Bool.or_eq_true, Bool.and_eq_true, decide_eq_true_eq] at hends
      simp only [List.mem_cons]
      tauto
    have hall : ['/', '\\', '?', '#'].all isUserEscaped = true := by decide +kernel
    rw [List.all_eq_true.mp hall c hmem] at h
    cases h

/-- What names a user does not end the server of an address. -/
lemma Names.inside (h : Names user password info) (special : Bool) :
    ∀ c ∈ info, endsServer special c = false := by
  have hspelled : ∀ {text bytes}, Percent.Spells isUserRaw text bytes →
      ∀ c ∈ text, endsServer special c = false :=
    fun hspells c hc => endsServer_of_not_isUserEscaped special (isUserEscaped_of_spells hspells hc)
  intro c hc
  cases h with
  | both spellsUser spellsPassword =>
    rcases List.mem_append.mp hc with huser | hrest
    · exact hspelled spellsUser c huser
    · rcases List.mem_cons.mp hrest with rfl | hpassword
      · simp [endsServer, isSlash]
      · exact hspelled spellsPassword c hpassword
  | user spellsUser => exact hspelled spellsUser c hc

/-- What is spelled is kept as it is spelled. -/
lemma escaped_of_spells (h : Percent.Spells isUserRaw text bytes) :
    escaped isUserEscaped text = String.ofList text := by
  rw [escaped, Percent.encode_eq_self fun c hc => isUserEscaped_of_spells h hc]

/-- The name of a user is read from what spells it. -/
lemma decodeLossy_of_spells (h : Percent.Spells isUserRaw text (Utf8.encode user)) :
    Utf8.decodeLossy (unescaped (escaped isUserEscaped text)) = user := by
  have hpercent : ∀ c, isUserRaw c = true → c ≠ '%' := by
    rintro c hraw rfl
    exact absurd hraw (by decide)
  rw [escaped_of_spells h, unescaped, bytesOf, String.toList_ofList,
    Percent.decode_of_spells hpercent h, Utf8.decodeLossy, Utf8.characters_encode]
  simp

/-- What spells the name of a user is not empty if the name is not. -/
lemma isEmpty_of_spells (h : Percent.Spells isUserRaw text (Utf8.encode user)) (huser : user ≠ []) :
    (escaped isUserEscaped text).isEmpty = false := by
  have htext := h.ne_nil (mt Utf8.encode_eq_nil_iff.mp huser)
  rw [escaped_of_spells h, ← Bool.not_eq_true, String.isEmpty_iff]
  intro hempty
  exact htext (String.ofList_eq_empty_iff.mp hempty)

/-- An address that names a user has both names spelled in it. -/
lemma Names.withUserinfo_eq (h : Names user password info) (url : Url) :
    ∃ username password', Percent.Spells isUserRaw username (Utf8.encode user) ∧
      Percent.Spells isUserRaw password' (Utf8.encode password) ∧
      url.withUserinfo (some info) =
        { url with
          username := escaped isUserEscaped username
          password := escaped isUserEscaped password' } := by
  unfold withUserinfo
  cases h with
  | @both username password' spellsUser spellsPassword =>
    refine ⟨username, password', spellsUser, spellsPassword, ?_⟩
    rw [Option.getD_some, cut_append (colon_not_mem_of_spells spellsUser), cut_cons (by simp),
      List.append_nil]
    rfl
  | @user username spellsUser empty =>
    subst empty
    refine ⟨info, [], spellsUser, .nil, ?_⟩
    rw [Option.getD_some, cut_of_forall (colon_not_mem_of_spells spellsUser)]
    rfl

/-- Whoever is named is who asks. -/
lemma Names.lossyAuthorization?_eq (h : Names user password info)
    (hsome : user ≠ [] ∨ password ≠ []) :
    (url.withUserinfo (some info)).lossyAuthorization? =
      some (basicAuthorization user password) := by
  obtain ⟨username, password', hspellsUser, hspellsPassword, hurl⟩ := h.withUserinfo_eq url
  have hcredentials : (url.withUserinfo (some info)).hasCredentials = true := by
    rw [hurl, hasCredentials]
    rcases hsome with huser | hpassword
    · rw [isEmpty_of_spells hspellsUser huser]
      rfl
    · rw [isEmpty_of_spells hspellsPassword hpassword, Bool.and_false]
      rfl
  rw [lossyAuthorization?, if_pos hcredentials, hurl, decodeLossy_of_spells hspellsUser,
    decodeLossy_of_spells hspellsPassword]

end Url

/-! ### Credentials in a header field -/

/-- Letters, spaces and equals signs can stand in a header field. -/
lemma headerValue?_basicAuthorization (user password : List Char) :
    headerValue? (basicAuthorization user password) =
      some (bytesOf (basicAuthorization user password)) := by
  have hlegal : ("Basic ".toList ++ '=' :: Base64.alphabet).all
      (fun c => c.toNat < 128 && isValueByte (octet c)) = true := by decide +kernel
  have hmem : ∀ c ∈ (basicAuthorization user password).toList, c ∈ "Basic ".toList ++
      '=' :: Base64.alphabet := by
    intro c hc
    rw [basicAuthorization, String.toList_append] at hc
    rcases List.mem_append.mp hc with hbasic | hletter
    · exact List.mem_append_left _ hbasic
    · rw [String.toList_ofList] at hletter
      exact List.mem_append_right _ (Base64.mem_of_mem_encode hletter)
  have hbytes : (bytesOf (basicAuthorization user password)).all isValueByte = true := by
    rw [bytesOf, Utf8.encode, List.all_flatMap, List.all_eq_true]
    intro c hc
    have hself := List.all_eq_true.mp hlegal c (hmem c hc)
    simp only [Bool.and_eq_true, decide_eq_true_eq] at hself
    rw [Utf8.utf8EncodeChar_of_ascii hself.1, List.all_cons, hself.2]
    rfl
  unfold headerValue?
  dsimp only
  rw [if_pos hbytes]

namespace Transport

/-- Credentials can always be sent. -/
lemma authorization_eq (url : Url) :
    authorization url = .ok (url.lossyAuthorization?.map bytesOf) := by
  unfold authorization Url.lossyAuthorization?
  cases url.hasCredentials with
  | false => rfl
  | true =>
    rw [if_pos rfl]
    dsimp only
    rw [headerValue?_basicAuthorization]
    rfl

/-- From any address a transport is made. -/
lemma ofConfig_of_parse {endpoint : String} {url : Url} (h : Url.parse endpoint = .ok url)
    (config : Config) :
    ofConfig endpoint config = .ok
      { endpoint := url.withoutCredentials, authorization? := url.lossyAuthorization?.map bytesOf,
        config, hooks := .default, client? := none, tries := 0 } :=
  ofConfig_eq_ok_iff.mpr ⟨url, _, h, authorization_eq url, rfl⟩

/-- If a user and a password are written into an address, whoever was named there before, a
transport is made that authorizes with both of them, and each can be told from what is sent. -/
theorem ofConfig_authorizes {frame : Url.Frame} {other endpoint : String} {url : Url}
    {info? : Option (List Char)} {user password info : List Char} (config : Config)
    (hother : frame.Holds info? other) (hparse : Url.parse other = .ok url)
    (hsome : user ≠ [] ∨ password ≠ []) (hnames : Url.Names user password info)
    (hendpoint : Url.clean endpoint.toList = frame.around (some info)) :
    ∃ t letters, ofConfig endpoint config = .ok t ∧
      t.authorization? = some (bytesOf ("Basic " ++ String.ofList letters)) ∧
      ∃ bytes, Base64.decode? letters = some bytes ∧ bytes = Utf8.encode (user ++ ':' :: password) ∧
        (':' ∉ user → (Utf8.decode? bytes).map (Url.cut (· = ':')) =
          some (user, some password)) := by
  have hholds : frame.Holds (some info) endpoint := {
    text_eq := hendpoint
    inside := by
      intro userinfo huserinfo
      obtain rfl := Option.some.inj huserinfo
      exact hnames.inside _ }
  -- Whether an address can be read does not depend on who is named in it.
  obtain ⟨base, hbase⟩ : ∃ base, frame.read = .ok base := by
    rw [hother.parse_eq] at hparse
    obtain ⟨base, hbase, -⟩ := map_eq_ok_iff.mp hparse
    exact ⟨base, hbase⟩
  have hnamed : Url.parse endpoint = .ok (base.withUserinfo (some info)) := by
    rw [hholds.parse_eq, hbase]
    rfl
  refine ⟨_, _, ofConfig_of_parse hnamed config, ?_, _, Base64.decode?_encode _, rfl,
    fun hcolon => ?_⟩
  · dsimp only
    rw [hnames.lossyAuthorization?_eq hsome]
    rfl
  have huser : ∀ c ∈ user, decide (c = ':') = false :=
    fun c hc => decide_eq_false (ne_of_mem_of_not_mem hc hcolon)
  rw [Utf8.decode?_eq_some_iff.mpr rfl, Option.map_some, Url.cut_append huser,
    Url.cut_cons (by simp), List.append_nil]

/-! ### A user with a percent sign and a password with a colon -/

/-- The address of a server, in which a user may be named. -/
def serverFrame : Url.Frame where
  name := "HTTP".toList
  scheme := "http"
  slashes := "//".toList
  server := "a:81".toList
  tail := "?q".toList
  named := fun _ => rfl
  not_file := by decide
  slashed := by simp [Url.Slashed, Url.isSlash]
  server_ne_nil := by decide
  server_inside := by simp [Url.endsServer, Url.isSlash]
  tail_starts := by simp [Url.endsServer]

/-- What cannot stand raw is escaped, and what is sent can be taken apart. -/
theorem ofConfig_authorizes_escaped :
    ∃ t letters, ofConfig "HTTP://100%25%C3%A9:p%3A@a:81?q" Config.default = .ok t ∧
      t.authorization? = some (bytesOf ("Basic " ++ String.ofList letters)) ∧
      (Base64.decode? letters).bind (fun bytes => (Utf8.decode? bytes).map (Url.cut (· = ':'))) =
        some ("100%é".toList, some "p:".toList) := by
  have hother : serverFrame.Holds none "HTTP://a:81?q" := ⟨by decide, nofun⟩
  obtain ⟨url, hparse⟩ : ∃ url, Url.parse "HTTP://a:81?q" = .ok url :=
    isOk_iff.mp (by decide +kernel)
  have hendpoint : Url.clean "HTTP://100%25%C3%A9:p%3A@a:81?q".toList = serverFrame.around
      (some (Percent.encode (!Url.isUserRaw ·) "100%é".toList ++
        ':' :: Percent.encode (!Url.isUserRaw ·) "p:".toList)) := by decide +kernel
  obtain ⟨t, letters, hmade, hauthorization, bytes, hdecode, -, hsplit⟩ :=
    ofConfig_authorizes Config.default hother hparse (.inl (by decide))
      (Url.names_encode _ _) hendpoint
  refine ⟨t, letters, hmade, hauthorization, ?_⟩
  rw [hdecode, Option.bind_some, hsplit (by decide)]

end Transport

end GraphqlClient
