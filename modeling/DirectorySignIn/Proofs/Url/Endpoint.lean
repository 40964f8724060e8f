import DirectorySignIn.Proofs.Url.Address
import DirectorySignIn.Url.Authority
import Mathlib.Data.List.Basic
import Mathlib.Data.List.TakeDrop
import Mathlib.Data.List.TakeWhile

/-!
# Hosts and ports in a URL

How a host and a port are written in a URL of a scheme that is none of the web's, and that reading
them finds just that, as long as what is read holds no character that ends an authority.

Main results:

- `Host.parsePlain_eq_ok_iff`: a text is read as a host exactly if the host is written so.
- `Authority.parseEndpoint_eq_ok_iff`: a text, a colon and digits are read as the host that is
  written so and the port.
-/

namespace DirectorySignIn

/-! ## Hosts -/

namespace Host

/-- A host is written as an address in brackets, or as a name without the forbidden characters. -/
inductive IsWritten : List Char → Host → Prop
  | address {cs : List Char} {address : Ipv6} (h : Ipv6.IsAddress cs address) :
      IsWritten ('[' :: (cs ++ [']'])) (.ipv6 address)
  | name {cs : List Char} (h : cs.any isForbidden = false) :
      IsWritten cs (.name (.ofList (Text.percentEncode Text.isControlOrForeign cs)))

theorem getLast?_brackets (cs : List Char) : ('[' :: (cs ++ [']'])).getLast? = some ']' := by
  rw [← List.cons_append, List.getLast?_concat]

/-- A text that starts and ends with brackets is one between brackets. -/
theorem exists_brackets {cs : List Char} (opens : cs.head? = some '[')
    (closes : cs.getLast? = some ']') : ∃ inner, cs = '[' :: (inner ++ [']']) := by
  obtain ⟨before, rfl⟩ := List.getLast?_eq_some_iff.mp closes
  cases before with
  | nil => cases opens
  | cons c inner =>
    cases opens
    exact ⟨inner, rfl⟩

/-- A host without forbidden characters does not start with a bracket. -/
theorem head?_ne_bracket {cs : List Char} (h : cs.any isForbidden = false) :
    cs.head? ≠ some '[' := by
  cases cs with
  | nil => simp
  | cons c rest =>
    rintro ⟨⟩
    simp [isForbidden] at h

/-- A text is read as a host exactly if the host is written so. -/
theorem parsePlain_eq_ok_iff {cs : List Char} {host : Host} :
    parsePlain cs = .ok host ↔ IsWritten cs host := by
  constructor
  · intro h
    unfold parsePlain at h
    split at h
    · rename_i opens
      unfold parseBracketed at h
      split at h
      · rename_i closes
        obtain ⟨inner, rfl⟩ := exists_brackets opens closes
        rw [List.drop_succ_cons, List.drop_zero, List.dropLast_concat] at h
        cases read : Ipv6.parse inner with
        | error e => rw [read] at h; cases h
        | ok address =>
          rw [read] at h
          cases h
          exact .address (Ipv6.parse_eq_ok_iff.mp read)
      · cases h
    · split at h
      · cases h
      · rename_i plain
        cases h
        exact .name (by simpa using plain)
  · intro h
    cases h with
    | address h =>
      have read := Ipv6.parse_eq_ok_iff.mpr h
      simp [parsePlain, parseBracketed, getLast?_brackets, read, Except.map]
    | name h => simp [parsePlain, head?_ne_bracket h, h]

/-! ## Host names -/

/-- The host that a host name denotes: an address with or without brackets, or a name. -/
inductive Denotes : List Char → Host → Prop
  | bare {cs : List Char} {address : Ipv6} (h : Ipv6.IsAddress cs address) :
      Denotes cs (.ipv6 address)
  | bracketed {cs : List Char} {address : Ipv6} (h : Ipv6.IsAddress cs address) :
      Denotes ('[' :: (cs ++ [']'])) (.ipv6 address)
  | name {cs : List Char} (ne_nil : cs ≠ []) (h : cs.any isForbidden = false) :
      Denotes cs (.name (.ofList (Text.percentEncode Text.isControlOrForeign cs)))

end Host

/-! ## Splitting -/

namespace Authority

/-- The host and what is split off from it are the whole. -/
theorem splitHost_append_eq (kind : SchemeKind) (inBrackets : Bool) (cs : List Char) :
    (splitHost kind inBrackets cs).1 ++ (splitHost kind inBrackets cs).2 = cs := by
  induction cs generalizing inBrackets with
  | nil => rfl
  | cons c rest ih =>
    rw [splitHost]
    split
    · rfl
    · exact congrArg (c :: ·) (ih _)

/-- What follows the host starts with a colon or with a character that ends the authority. -/
theorem splitHost_rest (kind : SchemeKind) (inBrackets : Bool) (cs : List Char) :
    ∀ c ∈ (splitHost kind inBrackets cs).2.head?, c = ':' ∨ kind.endsAuthority c = true := by
  induction cs generalizing inBrackets with
  | nil => simp [splitHost]
  | cons c rest ih =>
    rw [splitHost]
    split
    · rename_i ends
      rintro _ ⟨⟩
      simp only [Bool.or_eq_true, Bool.and_eq_true, beq_iff_eq] at ends
      exact ends.imp_left And.left
    · exact ih _

/-- Characters that neither separate nor stand for brackets belong to the host. -/
theorem splitHost_append {kind : SchemeKind} {inBrackets : Bool} {cs : List Char}
    (h : ∀ c ∈ cs, (c = ':' → inBrackets = true) ∧ c ≠ '[' ∧ c ≠ ']' ∧ kind.endsAuthority c = false)
    (rest : List Char) :
    splitHost kind inBrackets (cs ++ rest) =
      (cs ++ (splitHost kind inBrackets rest).1, (splitHost kind inBrackets rest).2) := by
  induction cs with
  | nil => rfl
  | cons c cs ih =>
    obtain ⟨colon, opens, closes, ends⟩ := h c (by simp)
    have inside : ¬((c == ':' && !inBrackets) || kind.endsAuthority c) = true := by
      cases inBrackets <;> simp_all
    rw [List.cons_append, splitHost, if_neg inside]
    simp [opens, closes, ih fun d hd => h d (by simp [hd])]

/-- The host ends at the first colon that stands in no brackets. -/
theorem splitHost_of_isWritten {cs : List Char} {host : Host} (h : Host.IsWritten cs host)
    (rest : List Char) : splitHost .other false (cs ++ ':' :: rest) = (cs, ':' :: rest) := by
  cases h with
  | @address inner address h =>
    have digits : ∀ c ∈ inner, (c = ':' → true = true) ∧ c ≠ '[' ∧ c ≠ ']' ∧
        SchemeKind.other.endsAuthority c = false := by
      intro c hc
      have char := List.all_eq_true.mp h.chars.2 c hc
      have differs {d : Char} (hd : Ipv6.isAddressChar d = false) : c ≠ d :=
        Ipv6.ne_of_isAddressChar char hd
      refine ⟨fun _ => rfl, differs rfl, differs rfl, ?_⟩
      simp [SchemeKind.endsAuthority, SchemeKind.isSlash, SchemeKind.takesBackslash,
        differs (d := '/') rfl, differs (d := '?') rfl, differs (d := '#') rfl]
    have closed := splitHost_append digits (']' :: ':' :: rest)
    have starts : ('[' :: (inner ++ [']'])) ++ ':' :: rest =
        '[' :: (inner ++ ']' :: ':' :: rest) := by simp
    rw [starts, splitHost]
    simp [closed, splitHost, SchemeKind.endsAuthority, SchemeKind.isSlash]
  | name h =>
    have plain : ∀ c ∈ cs, (c = ':' → false = true) ∧ c ≠ '[' ∧ c ≠ ']' ∧
        SchemeKind.other.endsAuthority c = false := by
      intro c hc
      have allowed := List.any_eq_false.mp h c hc
      simp only [Host.isForbidden, List.contains_eq_mem, List.mem_cons, List.not_mem_nil,
        decide_eq_true_eq, not_or] at allowed
      simp [SchemeKind.endsAuthority, SchemeKind.isSlash, SchemeKind.takesBackslash, allowed]
    rw [splitHost_append plain]
    simp [splitHost]

/-! ## Host and port -/

/-- The last colon of a text splits it in one way only. -/
theorem append_colon_inj {before before' after after' : List Char} (h : ':' ∉ after)
    (h' : ':' ∉ after') (same : before ++ ':' :: after = before' ++ ':' :: after') :
    before = before' ∧ after = after' := by
  rcases List.append_eq_append_iff.mp same with ⟨middle, rfl, tail⟩ | ⟨middle, rfl, tail⟩
  · cases middle with
    | nil => exact ⟨by simp, (List.cons.inj tail).2⟩
    | cons c middle =>
      obtain ⟨-, rfl⟩ := List.cons.inj tail
      simp at h
  · cases middle with
    | nil => exact ⟨by simp, (List.cons.inj tail).2.symm⟩
    | cons c middle =>
      obtain ⟨-, rfl⟩ := List.cons.inj tail
      simp at h'

/-- Whether a character ends a port. -/
def endsPort (c : Char) : Bool :=
  c == '/' || c == '\\' || c == '?' || c == '#'

/-- Whatever ends an authority ends its port. -/
theorem endsPort_of_endsAuthority {c : Char} (h : SchemeKind.other.endsAuthority c = true) :
    endsPort c = true := by
  simp only [SchemeKind.endsAuthority, SchemeKind.isSlash, SchemeKind.takesBackslash,
    bne_self_eq_false, Bool.and_false, Bool.or_false, Bool.or_eq_true, beq_iff_eq] at h
  rcases h with (rfl | rfl) | rfl <;> rfl

/-- No digit ends a port. -/
theorem any_endsPort_of_isDigit {digits : List Char} (h : digits.all Char.isDigit = true) :
    digits.any endsPort = false := by
  refine List.any_eq_false.mpr fun c hc ends => ?_
  have digit := List.all_eq_true.mp h c hc
  simp only [endsPort, Bool.or_eq_true, beq_iff_eq] at ends
  rcases ends with ((rfl | rfl) | rfl) | rfl <;> exact absurd digit (by decide)

/-- There is no colon among digits. -/
theorem colon_notMem_of_isDigit {digits : List Char} (h : digits.all Char.isDigit = true) :
    ':' ∉ digits := fun mem => absurd (List.all_eq_true.mp h _ mem) (by decide)

/-- Digits of a number of 16 bits are read as a port. -/
theorem parsePort_digits {digits : List Char} (isDigit : digits.all Char.isDigit = true)
    (ne_nil : digits ≠ []) (le_max : Nat.ofDigitChars 10 digits 0 ≤ 65535) :
    parsePort .other digits = .ok (some (Nat.ofDigitChars 10 digits 0), []) := by
  have all : digits.takeWhile Char.isDigit = digits :=
    List.takeWhile_eq_self_iff.mpr (List.all_eq_true.mp isDigit)
  have nothing : digits.dropWhile Char.isDigit = [] :=
    List.dropWhile_eq_nil_iff.mpr (List.all_eq_true.mp isDigit)
  have in_range : ¬65535 < Nat.ofDigitChars 10 digits 0 := by omega
  simp [parsePort, all, nothing, in_range, ne_nil]

/-- Without a character that ends a port there are digits only. -/
theorem all_isDigit_of_parsePort {kind : SchemeKind} {cs rest : List Char} {port : Option Nat}
    (clean : cs.any endsPort = false) (h : parsePort kind cs = .ok (port, rest)) :
    cs.all Char.isDigit = true := by
  simp only [parsePort] at h
  split at h
  · cases h
  · rename_i ends
    simp only [not_or, Bool.not_eq_true', Bool.not_eq_false] at ends
    rw [List.all_eq_true, ← List.dropWhile_eq_nil_iff]
    cases left : cs.dropWhile Char.isDigit with
    | nil => rfl
    | cons c tail =>
      have mem : c ∈ cs := (List.dropWhile_suffix _).subset (left ▸ List.mem_cons_self ..)
      have stops : endsPort c = true := by
        have := ends.2
        rw [left] at this
        simpa [endsPort] using this
      exact absurd stops (List.any_eq_false.mp clean c mem)

/-- A host is read from nothing as none, and else from exactly the written hosts. -/
theorem parseHost_eq_ok_iff {cs : List Char} {host : Option Host} :
    parseHost .other cs = .ok host ↔
      (cs = [] ∧ host = none) ∨
        (cs ≠ [] ∧ ∃ written, Host.IsWritten cs written ∧ host = some written) := by
  cases cs with
  | nil => simp [parseHost, eq_comm]
  | cons c rest =>
    simp only [parseHost, List.isEmpty_cons, Bool.false_eq_true, if_false, reduceCtorEq, false_and,
      false_or, ne_eq, not_false_eq_true, true_and, ← Host.parsePlain_eq_ok_iff]
    cases Host.parsePlain (c :: rest) <;> simp [Except.map, eq_comm]

/-- What is read in front of a colon and behind it. -/
theorem exists_of_parseEndpoint {cs before after rest : List Char} {authority : Authority}
    (split : splitHost .other false cs = (before, ':' :: after))
    (h : parseEndpoint .other "" none cs = .ok (authority, rest)) :
    ∃ host port, Host.IsWritten before host ∧ parsePort .other after = .ok (port, rest) ∧
      authority = ⟨"", none, some host, port⟩ := by
  rw [parseEndpoint, split] at h
  simp only [bind, Except.bind] at h
  split at h
  · cases h
  · rename_i host read
    rcases parseHost_eq_ok_iff.mp read with ⟨-, rfl⟩ | ⟨-, written, isWritten, rfl⟩
    · cases h
    · rw [Option.isNone_some, if_neg Bool.false_ne_true] at h
      split at h
      · cases h
      · rename_i result port
        cases h
        exact ⟨written, _, isWritten, port, rfl⟩

/-- A host does not end with a colon and a digit. -/
theorem not_isWritten_of_digits {text digits : List Char} {host : Host}
    (isDigit : digits.all Char.isDigit = true) (ne_nil : digits ≠ []) :
    ¬Host.IsWritten (text ++ ':' :: digits) host := by
  intro written
  generalize hw : text ++ ':' :: digits = whole at written
  cases written with
  | address h =>
    have last := congrArg List.getLast? hw
    rw [Host.getLast?_brackets, List.getLast?_append_cons,
      List.getLast?_cons_of_ne_nil ne_nil] at last
    have mem : ']' ∈ digits := List.mem_of_getLast? last
    exact absurd (List.all_eq_true.mp isDigit _ mem) (by decide)
  | name h =>
    subst hw
    simp [Host.isForbidden] at h

/-- There is a colon behind the host, for the last one cannot belong to it. -/
theorem exists_colon {text digits before tail rest : List Char} {authority : Authority}
    (clean : (text ++ ':' :: digits).any endsPort = false)
    (isDigit : digits.all Char.isDigit = true) (ne_nil : digits ≠ [])
    (split : splitHost .other false (text ++ ':' :: digits) = (before, tail))
    (h : parseEndpoint .other "" none (text ++ ':' :: digits) = .ok (authority, rest)) :
    ∃ after, tail = ':' :: after := by
  have whole := splitHost_append_eq .other false (text ++ ':' :: digits)
  have starts := splitHost_rest .other false (text ++ ':' :: digits)
  rw [split] at whole starts
  dsimp only at whole starts
  cases tail with
  | nil =>
    rw [List.append_nil] at whole
    rw [parseEndpoint, split, whole] at h
    simp only [bind, Except.bind] at h
    split at h
    · cases h
    · rename_i host read
      rcases parseHost_eq_ok_iff.mp read with ⟨empty, -⟩ | ⟨-, _, written, -⟩
      · simp at empty
      · exact absurd written (not_isWritten_of_digits isDigit ne_nil)
  | cons c after =>
    have mem : c ∈ text ++ ':' :: digits := whole ▸ by simp
    rcases starts c rfl with rfl | ends
    · exact ⟨after, rfl⟩
    · exact absurd (endsPort_of_endsAuthority ends) (List.any_eq_false.mp clean c mem)

/-- A text, a colon and digits are read as the host that is written so and the port. -/
theorem parseEndpoint_eq_ok_iff {text digits rest : List Char} {authority : Authority}
    (clean : text.any endsPort = false) (ne_nil : text ≠ [])
    (isDigit : digits.all Char.isDigit = true) (digits_ne_nil : digits ≠ [])
    (le_max : Nat.ofDigitChars 10 digits 0 ≤ 65535) :
    parseEndpoint .other "" none (text ++ ':' :: digits) = .ok (authority, rest) ↔
      ∃ host, Host.IsWritten text host ∧
        authority = ⟨"", none, some host, some (Nat.ofDigitChars 10 digits 0)⟩ ∧ rest = [] := by
  constructor
  · intro h
    have all_clean : (text ++ ':' :: digits).any endsPort = false := by
      rw [List.any_append, List.any_cons, clean, any_endsPort_of_isDigit isDigit]
      rfl
    cases split : splitHost .other false (text ++ ':' :: digits) with
    | mk before tail =>
      obtain ⟨after, rfl⟩ := exists_colon all_clean isDigit digits_ne_nil split h
      obtain ⟨host, port, written, read, rfl⟩ := exists_of_parseEndpoint split h
      have whole : before ++ ':' :: after = text ++ ':' :: digits := by
        simpa [split] using splitHost_append_eq .other false (text ++ ':' :: digits)
      have after_clean : after.any endsPort = false :=
        List.any_eq_false.mpr fun c hc =>
          List.any_eq_false.mp all_clean c (whole ▸ by simp [hc])
      have after_digits := all_isDigit_of_parsePort after_clean read
      obtain ⟨rfl, rfl⟩ := append_colon_inj (colon_notMem_of_isDigit after_digits)
        (colon_notMem_of_isDigit isDigit) whole
      rw [parsePort_digits isDigit digits_ne_nil le_max] at read
      cases read
      exact ⟨host, written, rfl, rfl⟩
  · rintro ⟨host, written, rfl, rfl⟩
    have host_read : parseHost .other text = .ok (some host) :=
      parseHost_eq_ok_iff.mpr (.inr ⟨ne_nil, host, written, rfl⟩)
    have port_read := parsePort_digits isDigit digits_ne_nil le_max
    simp [parseEndpoint, splitHost_of_isWritten written, host_read, port_read, bind, Except.bind,
      pure, Except.pure]

/-- Without user info an authority is its host and port. -/
theorem parse_eq_parseEndpoint {cs : List Char}
    (clean : cs.any SchemeKind.other.endsAuthority = false) (no_userinfo : '@' ∉ cs) :
    parse .other cs = parseEndpoint .other "" none cs := by
  have region : cs.takeWhile (!SchemeKind.other.endsAuthority ·) = cs :=
    List.takeWhile_eq_self_iff.mpr fun c hc => by simpa using List.any_eq_false.mp clean c hc
  have unsplit : Punycode.splitLast? '@' cs = none := by
    have nothing : cs.reverse.dropWhile (· != '@') = [] :=
      List.dropWhile_eq_nil_iff.mpr fun c hc => by
        have : c ≠ '@' := fun e => no_userinfo (e ▸ List.mem_reverse.mp hc)
        simpa using this
    simp [Punycode.splitLast?, List.span_eq_takeWhile_dropWhile, nothing]
  simp [parse, splitCredentials, region, unsplit]

end Authority

end DirectorySignIn
