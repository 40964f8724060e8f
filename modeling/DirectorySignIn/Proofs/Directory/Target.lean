import DirectorySignIn.Directory.Target
import DirectorySignIn.Proofs.SignIn.Bracketing
import DirectorySignIn.Proofs.Url.Endpoint

/-!
# The endpoint of a target

The URL of a provider's directory is read from a text that the host name of the configuration is
pasted into.  It names the host and the port of the configuration and nothing else, unless the host
name holds a character that is read as something else than a part of a host.

Main results:

- `parse_rawUrl`: without such a character, the text is read as a scheme, a host and a port.
- `urlOf_names_iff`: the URLs that come out of a host name without such a character are those that
  name the configured endpoint, and any other is refused as no URL.
- `urlOf_slash`: a host name with a slash is read as a host and a path.
-/

namespace DirectorySignIn

/-! ## Characters that are read as something else -/

namespace Target

/-- The characters that are read as something else than a part of a host: they end the host or the
port, they end user info, or they are dropped. -/
def misread : List Char := ['/', '\\', '?', '#', '@', '\t', '\n', '\r']

/-- Whether a text holds such a character. -/
def isMisread (cs : List Char) : Bool :=
  cs.any misread.contains

@[simp]
theorem isMisread_append (cs cs' : List Char) :
    isMisread (cs ++ cs') = (isMisread cs || isMisread cs') :=
  List.any_append

@[simp]
theorem isMisread_cons (c : Char) (cs : List Char) :
    isMisread (c :: cs) = (misread.contains c || isMisread cs) :=
  List.any_cons

/-- A text of a class of characters that has none of these does not hold them. -/
theorem isMisread_eq_false {p : Char → Bool} (free : misread.any p = false) {cs : List Char}
    (h : cs.all p = true) : isMisread cs = false := by
  refine List.any_eq_false.mpr fun c hc mem => ?_
  exact List.any_eq_false.mp free c (List.contains_iff_mem.mp mem) (List.all_eq_true.mp h c hc)

/-- A class of such characters only does not occur in a text without them. -/
theorem any_eq_false_of_isMisread {p : Char → Bool}
    (only : ∀ c, p c = true → misread.contains c = true) {cs : List Char}
    (h : isMisread cs = false) : cs.any p = false :=
  List.any_eq_false.mpr fun c hc hp => List.any_eq_false.mp h c hc (only c hp)

/-- Characters that are not misread do not end a port. -/
theorem any_endsPort {cs : List Char} (h : isMisread cs = false) :
    cs.any Authority.endsPort = false := by
  refine any_eq_false_of_isMisread (fun c ends => ?_) h
  simp only [Authority.endsPort, Bool.or_eq_true, beq_iff_eq] at ends
  rcases ends with ((rfl | rfl) | rfl) | rfl <;> rfl

/-- Characters that are not misread are not dropped from the inside of an address. -/
theorem any_isDroppedInside {cs : List Char} (h : isMisread cs = false) :
    cs.any Url.isDroppedInside = false := by
  refine any_eq_false_of_isMisread (fun c dropped => ?_) h
  simp only [Url.isDroppedInside, Bool.or_eq_true, beq_iff_eq] at dropped
  rcases dropped with (rfl | rfl) | rfl <;> rfl

/-- A host name that denotes a host holds no such character. -/
theorem isMisread_of_denotes {cs : List Char} {host : Host} (h : Host.Denotes cs host) :
    isMisread cs = false := by
  have of_address {cs : List Char} {address : Ipv6} (h : Ipv6.IsAddress cs address) :
      isMisread cs = false := isMisread_eq_false (by decide) h.chars.2
  cases h with
  | bare h => exact of_address h
  | bracketed h =>
    rw [isMisread_cons, isMisread_append, of_address h]
    rfl
  | name _ h =>
    have allowed : cs.all (!Host.isForbidden ·) = true := by
      rw [List.all_eq_not_any_not]
      simpa using h
    exact isMisread_eq_false (by decide) allowed

/-! ## The text of a URL -/

/-- A host with a colon is put into brackets, unless it starts with one. -/
theorem toList_bracket (host : String) :
    (bracket host).toList =
      if ':' ∈ host.toList ∧ host.toList.head? ≠ some '[' then '[' :: (host.toList ++ [']'])
      else host.toList := by
  unfold bracket
  split <;> simp

/-- A host name denotes the host that it is written as in a URL. -/
theorem denotes_iff {name : String} {host : Host} :
    Host.Denotes name.toList host ↔
      name ≠ "" ∧ Host.IsWritten (bracket name).toList host := by
  have empty_iff : name = "" ↔ name.toList = [] := by rw [← String.toList_inj]; rfl
  rw [ne_eq, empty_iff, toList_bracket]
  generalize name.toList = cs
  constructor
  · intro h
    cases h with
    | bare h =>
      obtain ⟨colon, chars⟩ := h.chars
      have no_bracket : cs.head? ≠ some '[' := by
        intro opens
        have mem : '[' ∈ cs := List.mem_of_head? opens
        cases List.all_eq_true.mp chars _ mem
      rw [if_pos ⟨colon, no_bracket⟩]
      exact ⟨List.ne_nil_of_mem colon, .address h⟩
    | bracketed h =>
      rw [if_neg (by simp)]
      exact ⟨by simp, .address h⟩
    | name ne_nil h =>
      have no_colon : ':' ∉ cs := fun mem => absurd (List.any_eq_false.mp h _ mem) (by decide)
      rw [if_neg (by simp [no_colon])]
      exact ⟨ne_nil, .name h⟩
  · rintro ⟨ne_nil, written⟩
    split at written
    · generalize hw : '[' :: (cs ++ [']']) = whole at written
      cases written with
      | address h =>
        obtain rfl : cs = _ := by simpa using hw
        exact .bare h
      | name h =>
        subst hw
        simp [Host.isForbidden] at h
    · cases written with
      | address h => exact .bracketed h
      | name h => exact .name ne_nil h

/-! ## Reading the text of a URL -/

/-- Nothing is dropped from a text that starts with a character that is kept. -/
theorem dropWhile_isDroppedAround {cs : List Char}
    (h : ∀ c ∈ cs.head?, Url.isDroppedAround c = false) :
    cs.dropWhile Url.isDroppedAround = cs := by
  cases cs with
  | nil => rfl
  | cons c rest => rw [List.dropWhile_cons_of_neg (by simp [h c rfl])]

/-- A text of which nothing is dropped is read as it is. -/
theorem strip_eq_self {cs : List Char} (first : ∀ c ∈ cs.head?, Url.isDroppedAround c = false)
    (last : ∀ c ∈ cs.getLast?, Url.isDroppedAround c = false)
    (inside : cs.any Url.isDroppedInside = false) : Url.strip cs = cs := by
  have ends : cs.reverse.dropWhile Url.isDroppedAround = cs.reverse :=
    dropWhile_isDroppedAround (List.head?_reverse ▸ last)
  have kept : cs.filter (!Url.isDroppedInside ·) = cs :=
    List.filter_eq_self.mpr fun c hc => by simpa using List.any_eq_false.mp inside c hc
  rw [Url.strip, dropWhile_isDroppedAround first, ends, List.reverse_reverse, kept]

/-- The scheme of a protocol is split off at the colon behind it. -/
theorem splitScheme_scheme (protocol : Protocol) (rest : List Char) :
    Url.splitScheme (protocol.scheme.toList ++ ':' :: rest) = .ok (protocol.scheme, rest) := by
  cases protocol <;> rfl

/-- No scheme of a protocol is a special one. -/
theorem ofScheme_scheme (protocol : Protocol) : SchemeKind.ofScheme protocol.scheme = .other := by
  cases protocol <;> decide

/-- The host and the port in the text of a URL. -/
def rawEndpoint (config : ProviderConfig) : List Char :=
  (bracket (Text.trim config.hostname)).toList ++ ':' :: config.port.text.toList

/-- An address is written as the scheme, a colon, two slashes and the endpoint. -/
theorem toList_rawUrl (config : ProviderConfig) :
    (rawUrl config).toList =
      config.protocol.scheme.toList ++ ':' :: '/' :: '/' :: rawEndpoint config := by
  simp [rawUrl, rawEndpoint]

section

variable {config : ProviderConfig}
  (clean : isMisread (Text.trim config.hostname).toList = false)

include clean

/-- A host that is not misread is not misread in brackets. -/
theorem isMisread_bracket : isMisread (bracket (Text.trim config.hostname)).toList = false := by
  rw [toList_bracket]
  split
  · rw [isMisread_cons, isMisread_append, clean]
    rfl
  · exact clean

/-- If the host is not misread, neither is the endpoint with its port. -/
theorem isMisread_rawEndpoint : isMisread (rawEndpoint config) = false := by
  have digits : isMisread config.port.text.toList = false :=
    isMisread_eq_false (by decide) config.port.all_isDigit_text
  rw [rawEndpoint, isMisread_append, isMisread_cons, isMisread_bracket clean, digits]
  rfl

/-- If the host is not misread, nothing is stripped from the address. -/
theorem strip_rawUrl : Url.strip (rawUrl config).toList = (rawUrl config).toList := by
  rw [toList_rawUrl]
  refine strip_eq_self ?_ ?_ ?_
  · cases config.protocol <;> rintro _ ⟨⟩ <;> rfl
  · intro c last
    have digit : c.isDigit = true := by
      rw [rawEndpoint, ← List.cons_append, ← List.cons_append, ← List.cons_append,
        List.getLast?_append_of_ne_nil _ (by simp), List.getLast?_append_cons,
        List.getLast?_cons_of_ne_nil config.port.text_ne_nil] at last
      exact List.all_eq_true.mp config.port.all_isDigit_text c (List.mem_of_getLast? last)
    have low : 48 ≤ c.toNat := (Char.isDigit_iff_toNat.mp digit).1
    simp only [Url.isDroppedAround, decide_eq_false_iff_not]
    omega
  · rw [List.any_append, List.any_cons, List.any_cons, List.any_cons,
      any_isDroppedInside (isMisread_rawEndpoint clean)]
    cases config.protocol <;> rfl

/-- Without a misread character the text is read as a scheme, a host and a port. -/
theorem parse_rawUrl :
    Url.parse (rawUrl config) =
      (Authority.parseEndpoint .other "" none (rawEndpoint config)).map fun (authority, rest) =>
        Url.parseRest .other config.protocol.scheme (some authority) (Url.parsePath .other)
          rest := by
  have no_userinfo : '@' ∉ rawEndpoint config := fun mem =>
    List.any_eq_false.mp (isMisread_rawEndpoint clean) _ mem (by decide)
  have no_end : (rawEndpoint config).any SchemeKind.other.endsAuthority = false :=
    List.any_eq_false.mpr fun c hc ends =>
      List.any_eq_false.mp (any_endsPort (isMisread_rawEndpoint clean)) c hc
        (Authority.endsPort_of_endsAuthority ends)
  rw [Url.parse, strip_rawUrl clean, toList_rawUrl, splitScheme_scheme]
  simp only [bind, Except.bind, ofScheme_scheme, Url.parseOther,
    Authority.parse_eq_parseEndpoint no_end no_userinfo]
  cases Authority.parseEndpoint .other "" none (rawEndpoint config) <;> rfl

end

/-! ## The configured endpoint -/

/-- A URL names the endpoint of a configuration, and nothing else. -/
structure Names (config : ProviderConfig) (url : Url) : Prop where
  scheme : url.scheme = config.protocol.scheme
  host : ∃ host, Host.Denotes (Text.trim config.hostname).toList host ∧
    url.authority = some ⟨"", none, some host, some config.port.number⟩
  path : url.path = ""
  query : url.query = none
  fragment : url.fragment = none

/-- Behind an authority with nothing after it there is no path, query or fragment. -/
theorem parseRest_nil (scheme : String) (authority : Authority) :
    Url.parseRest .other scheme (some authority) (Url.parsePath .other) [] =
      ⟨scheme, some authority, "", none, none⟩ :=
  rfl

/-- A URL is read from a host name without misread characters exactly if it names the endpoint. -/
theorem parse_rawUrl_eq_ok_iff {config : ProviderConfig} {url : Url}
    (clean : isMisread (Text.trim config.hostname).toList = false)
    (ne_empty : Text.trim config.hostname ≠ "") :
    Url.parse (rawUrl config) = .ok url ↔ Names config url := by
  have value := config.port.ofDigitChars_text
  have text_ne_nil : (bracket (Text.trim config.hostname)).toList ≠ [] := by
    rw [toList_bracket]
    split
    · simp
    · rwa [ne_eq, ← String.toList_inj] at ne_empty
  have endpoint {authority : Authority} {rest : List Char} :
      Authority.parseEndpoint .other "" none (rawEndpoint config) = .ok (authority, rest) ↔ _ :=
    Authority.parseEndpoint_eq_ok_iff (any_endsPort (isMisread_bracket clean)) text_ne_nil
      config.port.all_isDigit_text config.port.text_ne_nil
      (by rw [value]; exact config.port.le_max)
  rw [value] at endpoint
  rw [parse_rawUrl clean]
  constructor
  · intro h
    cases read : Authority.parseEndpoint .other "" none (rawEndpoint config) with
    | error e => rw [read] at h; cases h
    | ok parts =>
      obtain ⟨authority, rest⟩ := parts
      obtain ⟨host, written, rfl, rfl⟩ := endpoint.mp read
      rw [read] at h
      cases h
      exact ⟨rfl, ⟨host, denotes_iff.mpr ⟨ne_empty, written⟩, rfl⟩, rfl, rfl, rfl⟩
  · intro ⟨scheme, ⟨host, denotes, authority⟩, path, query, fragment⟩
    obtain ⟨-, written⟩ := denotes_iff.mp denotes
    have read := endpoint.mpr ⟨host, written, rfl, rfl⟩
    rw [read]
    refine congrArg Except.ok ((parseRest_nil _ _).trans ?_)
    cases url
    subst scheme authority path query fragment
    rfl

/-- The only error is the one for a text that is no URL. -/
theorem exists_of_urlOf_eq_error {config : ProviderConfig} {error : DirectoryError}
    (h : urlOf config = .error error) : ∃ text, error = .invalidUrl text := by
  unfold urlOf at h
  split at h
  · cases h
    exact ⟨_, rfl⟩
  · split at h
    · cases h
    · cases h
      exact ⟨_, rfl⟩

/-- A host name without misread characters makes exactly the URLs that name the endpoint. -/
theorem urlOf_eq_ok_iff {config : ProviderConfig} {url : Url}
    (clean : isMisread (Text.trim config.hostname).toList = false) :
    urlOf config = .ok url ↔ Names config url := by
  unfold urlOf
  split
  · rename_i empty
    refine iff_of_false (by simp) fun names => ?_
    obtain ⟨host, denotes, -⟩ := names.host
    exact (denotes_iff.mp denotes).1 empty
  · rename_i ne_empty
    rw [← parse_rawUrl_eq_ok_iff clean ne_empty]
    cases Url.parse (rawUrl config) <;> simp

/-- The URL of a directory names the configured endpoint and nothing else, unless the host name
holds a character that is read as something else; and every endpoint that can be named is.  A host
name without such a character that names nothing is refused.  A target has this URL. -/
theorem urlOf_names_iff (config : ProviderConfig) :
    (∀ url, urlOf config = .ok url →
      (Names config url ↔ isMisread (Text.trim config.hostname).toList = false)) ∧
    (∀ url, Names config url → urlOf config = .ok url) ∧
    ((∀ url, ¬Names config url) → isMisread (Text.trim config.hostname).toList = false →
      ∃ text, urlOf config = .error (.invalidUrl text)) ∧
    ∀ settings target, ofConfig config settings = .ok target → urlOf config = .ok target.url := by
  have clean_of_names {url : Url} (names : Names config url) :
      isMisread (Text.trim config.hostname).toList = false := by
    obtain ⟨host, denotes, -⟩ := names.host
    exact isMisread_of_denotes denotes
  refine ⟨fun url accepted => ⟨clean_of_names, fun clean => (urlOf_eq_ok_iff clean).mp accepted⟩,
    fun url names => (urlOf_eq_ok_iff (clean_of_names names)).mpr names, ?_, ?_⟩
  · intro nameless clean
    cases h : urlOf config with
    | ok url => exact absurd ((urlOf_eq_ok_iff clean).mp h) (nameless url)
    | error error =>
      obtain ⟨text, rfl⟩ := exists_of_urlOf_eq_error h
      exact ⟨text, rfl⟩
  · intro settings target h
    unfold ofConfig at h
    cases hu : urlOf config with
    | error error => rw [hu] at h; cases h
    | ok url => rw [hu] at h; cases h; rfl

/-- An address with blanks around it is put in brackets. -/
theorem urlOf_names_iff_address :
    let config := { ProviderConfig.sample with hostname := " ::1 " }
    let url : Url := ⟨"ldaps", some ⟨"", none, some (.ipv6 ⟨[0, 0, 0, 0, 0, 0, 0, 1]⟩), some 636⟩,
      "", none, none⟩
    urlOf config = .ok url ∧ isMisread (Text.trim config.hostname).toList = false ∧
      Names config url := by
  intro config url
  have accepted : urlOf config = .ok url := by decide +kernel
  have clean : isMisread (Text.trim config.hostname).toList = false := by decide +kernel
  exact ⟨accepted, clean, ((urlOf_names_iff config).1 url accepted).mpr clean⟩

/-- A host name with a slash is read as a host and a path, so that the port is lost. -/
theorem urlOf_slash :
    let config : ProviderConfig :=
      { ProviderConfig.sample with
        protocol := .plain, hostname := "localhost/x", port := ⟨389, by decide, by decide⟩ }
    let url : Url := ⟨"ldap", some ⟨"", none, some (.name "localhost"), none⟩, "/x:389", none, none⟩
    urlOf config = .ok url ∧ ¬Names config url := by
  intro config url
  have accepted : urlOf config = .ok url := by decide +kernel
  refine ⟨accepted, fun names => ?_⟩
  obtain ⟨host, -, authority⟩ := names.host
  cases authority

end Target

end DirectorySignIn
