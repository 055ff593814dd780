import Mathlib.Data.List.Basic
import RegistryBridge.Proofs.Url.WellFormed
/-!
# Addresses are read back from their texts

The parts of a well-formed address stand in its text one behind the other, and what ends a part stands
in no other place of it. So whoever reads the text finds the parts that it was put together from: the
service that it leads to, and all the rest as well. Only the host is read from its own text, like any
host.

## Main definitions

* `Url.service?`: the scheme, the host and the port that a text leads to.

## Main results

* `Url.WellFormed.service?_text`: the text of an address leads to the service of the address.
-/

namespace RegistryBridge.Url

open Percent (Clear)

variable {url : Url} {host : Host} {scheme : String} {front rest site cs : List Char}

/-- **The service that a text leads to**: the scheme, the host as it stands there, and the port. Free
text leads to none. -/
def service? (text : String) : Option (String × String × Option Nat) :=
  match scheme? text.toList with
  | some (scheme, '/' :: '/' :: rest) =>
    let authority := (cutAt (endsAuthority (isSpecial scheme)) rest).1
    let (host, port) := hostOf false (userOf authority).2.2
    match portOf scheme (port.drop 1) with
    | .ok port => some (scheme, String.ofList host, port)
    | .error _ => none
  | _ => none

/-! ## Reading part by part -/

/-- What is cut at the first character of some kind. -/
theorem cutAt_append {ends : Char → Bool} (free : ∀ c ∈ front, ends c = false)
    (next : ∀ c ∈ rest.head?, ends c = true) : cutAt ends (front ++ rest) = (front, rest) := by
  have stops : rest.takeWhile (fun c => !ends c) = [] := by
    cases rest with
    | nil => rfl
    | cons c rest => simp [next c rfl]
  have taken : (front ++ rest).takeWhile (fun c => !ends c) = front := by
    rw [List.takeWhile_append_of_pos (by simpa using free), stops, List.append_nil]
  rw [cutAt, taken, List.drop_left]

/-- What has no such character is cut nowhere. -/
theorem cutAt_of_forall {ends : Char → Bool} (free : ∀ c ∈ cs, ends c = false) :
    cutAt ends cs = (cs, []) := by
  have cut : cutAt ends (cs ++ []) = (cs, []) := cutAt_append free nofun
  rwa [List.append_nil] at cut

/-- **The scheme is read back.** -/
theorem scheme?_append (schemed : Schemed scheme) (rest : List Char) :
    scheme? (scheme.toList ++ ':' :: rest) = some (scheme, rest) := by
  obtain ⟨c, others, spelled, letter⟩ := schemed.letter
  have taken : (scheme.toList ++ ':' :: rest).takeWhile inScheme = c :: others := by
    rw [List.takeWhile_append_of_pos schemed.inScheme, List.takeWhile_cons, if_neg (by decide),
      List.append_nil, spelled]
  have behind : (scheme.toList ++ ':' :: rest).drop (c :: others).length = ':' :: rest := by
    rw [← spelled, List.drop_left]
  have lower : String.ofList ((c :: others).map Char.toLower) = scheme := by
    rw [← spelled, List.map_congr_left schemed.lower, List.map_id'', String.ofList_toList]
    exact fun _ => rfl
  unfold scheme?
  rw [taken]
  dsimp only
  rw [behind]
  simp only [letter, if_true, lower]

/-- A site without a user. -/
theorem userOf_of_not_mem (free : '@' ∉ site) : userOf site = ("", "", site) := by
  have all : site.reverse.takeWhile (· ≠ '@') = site.reverse := by
    rw [List.takeWhile_eq_self_iff]
    intro c mem
    simp only [decide_eq_true_eq]
    rintro rfl
    exact free (List.mem_reverse.mp mem)
  simp only [userOf, all, List.reverse_reverse, Nat.sub_self, Nat.zero_sub, List.take_zero]
  rfl

/-- **The user is read back**, up to the last sign before the site. -/
theorem userOf_append (info : List Char) (free : '@' ∉ site) :
    userOf (info ++ '@' :: site) =
      (String.ofList (Percent.encode Percent.userInfo (cutAt (· = ':') info).1),
        String.ofList (Percent.encode Percent.userInfo ((cutAt (· = ':') info).2.drop 1)), site) := by
  -- Read from the back, the site ends at the sign, since it has none itself.
  have last : (info ++ '@' :: site).reverse.takeWhile (· ≠ '@') = site.reverse := by
    rw [List.reverse_append, List.reverse_cons, List.append_assoc, List.takeWhile_append_of_pos]
    · simp
    · intro c mem
      simp only [decide_eq_true_eq]
      rintro rfl
      exact free (List.mem_reverse.mp mem)
  have before : (info ++ '@' :: site).take ((info ++ '@' :: site).length - site.length - 1) = info := by
    have length : (info ++ '@' :: site).length - site.length - 1 = info.length := by
      simp only [List.length_append, List.length_cons]
      omega
    rw [length, List.take_left]
  simp only [userOf, last, List.reverse_reverse, before]

/-- Inside and outside of brackets a host goes on up to the next bracket or colon. -/
theorem hostOf_append {inBrackets : Bool}
    (free : ∀ c ∈ front, c ≠ '[' ∧ c ≠ ']' ∧ (inBrackets = false → c ≠ ':')) :
    hostOf inBrackets (front ++ rest) =
      (front ++ (hostOf inBrackets rest).1, (hostOf inBrackets rest).2) := by
  induction front with
  | nil => rfl
  | cons c front ih =>
    obtain ⟨opens, closes, colon⟩ := free c (List.mem_cons_self ..)
    have later := ih fun c mem => free c (List.mem_cons_of_mem _ mem)
    have goes : ¬ (c = ':' ∧ ¬ inBrackets = true) := fun ⟨same, outside⟩ =>
      colon (by simpa using outside) same
    rw [List.cons_append, hostOf, if_neg goes, if_neg opens, if_neg closes, later]
    rfl

/-- A host ends with the text or at a colon. -/
theorem hostOf_of_head? (next : ∀ c ∈ rest.head?, c = ':') : hostOf false rest = ([], rest) := by
  cases rest with
  | nil => rfl
  | cons c rest =>
    obtain rfl := next c rfl
    rfl

/-- **The host is read back**, whatever port follows. -/
theorem hostOf_text (spelled : host.Spelled) (next : ∀ c ∈ rest.head?, c = ':') :
    hostOf false (host.text.toList ++ rest) = (host.text.toList, rest) := by
  have named : ∀ c, Host.inName c = true → c ≠ '[' ∧ c ≠ ']' ∧ c ≠ ':' := by
    rintro c plain
    refine ⟨?_, ?_, ?_⟩ <;> rintro rfl <;> revert plain <;> decide
  cases spelled with
  | name filled plain =>
    rw [hostOf_append, hostOf_of_head? next, List.append_nil]
    intro c mem
    have := named c (plain c mem)
    exact ⟨this.1, this.2.1, fun _ => this.2.2⟩
  | ipv4 value =>
    rw [hostOf_append, hostOf_of_head? next, List.append_nil]
    intro c mem
    have := named c (Host.inName_ipv4 mem)
    exact ⟨this.1, this.2.1, fun _ => this.2.2⟩
  | ipv6 pieces =>
    -- The colons of the groups stand in brackets.
    have groups : ∀ c ∈ (Host.ipv6Text pieces).toList,
        c ≠ '[' ∧ c ≠ ']' ∧ (true = false → c ≠ ':') := by
      intro c mem
      refine ⟨?_, ?_, nofun⟩
      all_goals
        rintro rfl
        rcases Host.inName_ipv6Text mem with plain | colon
        · revert plain
          decide
        · revert colon
          decide
    have closed : hostOf true (']' :: rest) = ([']'], rest) := by
      simp [hostOf, hostOf_of_head? next]
    have opened : hostOf false ('[' :: ((Host.ipv6Text pieces).toList ++ ']' :: rest)) =
        ('[' :: ((Host.ipv6Text pieces).toList ++ [']']), rest) := by
      rw [hostOf, if_neg (by decide), if_pos rfl, hostOf_append groups, closed]
    simpa [Host.toList_ipv6] using opened

/-- The port as it stands behind the host. -/
def portChars : Option Nat → List Char
  | some port => ':' :: (toString port).toList
  | none => []

theorem head?_portChars (port : Option Nat) : ∀ c ∈ (portChars port).head?, c = ':' := by
  cases port with
  | none => nofun
  | some port =>
    rintro _ ⟨⟩
    rfl

theorem number_toDigits (n : Nat) : Host.number 10 (Nat.toDigits 10 n) = n := by
  have digits : ∀ c ∈ Nat.toDigits 10 n, ∀ m, 10 * m + (Percent.value? c).getD 0 =
      10 * m + (c.toNat - '0'.toNat) := by
    intro c mem m
    have digit := Nat.isDigit_of_mem_toDigits (by decide) (by decide) mem
    simp only [Char.isDigit, Bool.and_eq_true, decide_eq_true_eq] at digit
    have range : '0' ≤ c ∧ c ≤ '9' := digit
    rw [Percent.value?, if_pos range]
    rfl
  rw [Host.number, List.foldl_ext _ _ _ fun m c mem => digits c mem m,
    ← Nat.ofDigitChars_eq_foldl, Nat.ofDigitChars_toDigits (by decide) (by decide)]

/-- **The port is read back.** -/
theorem portOf_portChars {port : Option Nat}
    (proper : ∀ n, port = some n → n ≤ 65535 ∧ defaultPort? scheme ≠ some n) :
    portOf scheme ((portChars port).drop 1) = .ok port := by
  cases port with
  | none => rfl
  | some n =>
    obtain ⟨small, told⟩ := proper n rfl
    have digits : (portChars (some n)).drop 1 = Nat.toDigits 10 n := by
      rw [portChars, List.drop_one, List.tail_cons, Nat.toString_eq_ofList_toDigits,
        String.toList_ofList]
    have all : (Nat.toDigits 10 n).all Char.isDigit = true :=
      List.all_eq_true.mpr fun c mem => Nat.isDigit_of_mem_toDigits (by decide) (by decide) mem
    rw [digits, portOf]
    · rw [number_toDigits, if_neg (by simp [all]; omega), if_neg told]
    · exact Nat.toDigits_ne_nil

/-! ## The text part by part -/

/-- Path, query and fragment as they stand behind the port. -/
def restChars (url : Url) (segments : List String) : List Char :=
  (segments.flatMap fun s => '/' :: s.toList) ++
    ((marked "?" url.query).toList ++ (marked "#" url.fragment).toList)

theorem toList_join_segments (segments : List String) :
    (String.join (segments.map ("/" ++ ·))).toList = segments.flatMap fun s => '/' :: s.toList := by
  induction segments with
  | nil => rfl
  | cons s rest ih => simp [ih]

/-- **The text part by part.** -/
theorem toList_text {segments : List String} (named : url.host = some host)
    (path : url.path = .segments segments) :
    url.text.toList = url.scheme.toList ++ ':' :: '/' :: '/' ::
      (url.userText.toList ++ (host.text.toList ++ portChars url.port) ++
        restChars url segments) := by
  have port : (authority host url.port).toList = host.text.toList ++ portChars url.port := by
    cases url.port with
    | none => simp [authority, portChars]
    | some n => simp [authority, portChars]
  simp only [text, behindScheme, Url.site, named, path, pathText, String.toList_append, port,
    toList_join_segments, restChars]
  simp

/-! ## What stands before the path -/

/-- What user, host and port are written with, and the signs between them. -/
def inAuthority (c : Char) : Bool :=
  !Percent.userInfo c || Host.inText c || c = '@'

theorem endsAuthority_eq_false (special : Bool) {c : Char} (h : inAuthority c = true) :
    endsAuthority special c = false := by
  rw [Bool.eq_false_iff]
  intro ends
  have sign : c = '/' ∨ c = '?' ∨ c = '#' ∨ c = '\\' := by
    simp only [endsAuthority, Bool.or_eq_true, Bool.and_eq_true, decide_eq_true_eq] at ends
    tauto
  rcases sign with rfl | rfl | rfl | rfl <;> revert h <;> decide

theorem inAuthority_portChars (port : Option Nat) : ∀ c ∈ portChars port, inAuthority c = true := by
  cases port with
  | none => nofun
  | some n =>
    intro c mem
    rcases List.mem_cons.mp mem with rfl | digit
    · decide
    · rw [Nat.toString_eq_ofList_toDigits, String.toList_ofList] at digit
      simp [inAuthority, Host.inText, Host.inName_of_mem_toDigits (by decide) (by decide) digit]

/-- The site of a host and a port names no user. -/
theorem at_not_mem_site (spelled : host.Spelled) (port : Option Nat) :
    '@' ∉ host.text.toList ++ portChars port := by
  intro mem
  rcases List.mem_append.mp mem with named | behind
  · exact absurd (spelled.inText _ named) (by decide)
  · cases port with
    | none => cases behind
    | some n =>
      rcases List.mem_cons.mp behind with colon | digit
      · exact absurd colon (by decide)
      · rw [Nat.toString_eq_ofList_toDigits, String.toList_ofList] at digit
        exact absurd (Host.inName_of_mem_toDigits (by decide) (by decide) digit) (by decide)

namespace WellFormed

/-- **The user is read back** from the text. -/
theorem userOf_text (h : url.WellFormed) (free : '@' ∉ site) :
    userOf (url.userText.toList ++ site) = (url.user, url.password, site) := by
  have colon : ∀ c ∈ url.user.toList, decide (c = ':') = false := by
    intro c mem
    rw [decide_eq_false_iff_not]
    rintro rfl
    exact absurd (h.user _ mem) (by decide)
  have shown : ∀ part : String, Clear Percent.userInfo part →
      String.ofList (Percent.encode Percent.userInfo part.toList) = part := by
    intro part clear
    rw [Percent.encode_of_clear clear, String.ofList_toList]
  unfold userText
  split
  · rename_i nobody
    rw [nobody.1, nobody.2]
    exact userOf_of_not_mem free
  · split
    · rename_i secret
      have cut : cutAt (· = ':') url.user.toList = (url.user.toList, []) := cutAt_of_forall colon
      have text : (url.user ++ "@").toList ++ site = url.user.toList ++ '@' :: site := by simp
      rw [text, userOf_append _ free, cut, shown _ h.user, secret]
      rfl
    · have cut : cutAt (· = ':') (url.user.toList ++ ':' :: url.password.toList) =
          (url.user.toList, ':' :: url.password.toList) :=
        cutAt_append colon (by simp)
      have text : (url.user ++ ":" ++ url.password ++ "@").toList ++ site =
          (url.user.toList ++ ':' :: url.password.toList) ++ '@' :: site := by
        simp
      rw [text, userOf_append _ free, cut, shown _ h.user, List.drop_one, List.tail_cons,
        shown _ h.password]

theorem inAuthority_userText (h : url.WellFormed) : ∀ c ∈ url.userText.toList, inAuthority c = true := by
  have user : ∀ c ∈ url.user.toList, inAuthority c = true := fun c mem => by
    simp [inAuthority, h.user c mem]
  have password : ∀ c ∈ url.password.toList, inAuthority c = true := fun c mem => by
    simp [inAuthority, h.password c mem]
  unfold userText
  split
  · simp
  · split
    · intro c mem
      rw [String.toList_append] at mem
      rcases List.mem_append.mp mem with mem | sign
      · exact user c mem
      · obtain rfl : c = '@' := by simpa using sign
        decide
    · intro c mem
      simp only [String.toList_append, List.mem_append] at mem
      rcases mem with ((mem | colon) | mem) | sign
      · exact user c mem
      · obtain rfl : c = ':' := by simpa using colon
        decide
      · exact password c mem
      · obtain rfl : c = '@' := by simpa using sign
        decide

/-- What stands before the path does not end there. -/
theorem inAuthority_text (h : url.WellFormed) (named : url.host = some host) :
    ∀ c ∈ url.userText.toList ++ (host.text.toList ++ portChars url.port), inAuthority c = true := by
  obtain ⟨_, same, spelled⟩ := h.host
  obtain rfl := Option.some.inj (named.symm.trans same)
  intro c mem
  rcases List.mem_append.mp mem with mem | mem
  · exact h.inAuthority_userText c mem
  · rcases List.mem_append.mp mem with mem | mem
    · simp [inAuthority, spelled.inText c mem]
    · exact inAuthority_portChars url.port c mem

end WellFormed

/-- The path begins with what ends the part before it; so does whatever follows where there is none. -/
theorem endsAuthority_restChars (special : Bool) (url : Url) (segments : List String) :
    ∀ c ∈ (restChars url segments).head?, endsAuthority special c = true := by
  unfold restChars
  cases segments with
  | cons s rest =>
    rintro _ ⟨⟩
    rfl
  | nil =>
    cases url.query with
    | some query =>
      intro c mem
      obtain rfl : c = '?' := by simpa [marked, eq_comm] using mem
      rfl
    | none =>
      cases url.fragment with
      | some fragment =>
        intro c mem
        obtain rfl : c = '#' := by simpa [marked, eq_comm] using mem
        rfl
      | none => simp [marked]

/-- What stands before the path is cut off there. -/
theorem WellFormed.cutAt_text (h : url.WellFormed) (named : url.host = some host)
    (segments : List String) (special : Bool) :
    cutAt (endsAuthority special)
        (url.userText.toList ++ (host.text.toList ++ portChars url.port) ++ restChars url segments) =
      (url.userText.toList ++ (host.text.toList ++ portChars url.port), restChars url segments) :=
  cutAt_append (fun c mem => endsAuthority_eq_false special (h.inAuthority_text named c mem))
    (endsAuthority_restChars special url segments)

/-- **The text of an address leads to the service of the address.** -/
theorem WellFormed.service?_text (h : url.WellFormed) (named : url.host = some host) :
    service? url.text = some (url.scheme, host.text, url.port) := by
  obtain ⟨_, same, spelled⟩ := h.host
  obtain rfl := Option.some.inj (named.symm.trans same)
  obtain ⟨segments, path, -, -⟩ := h.path
  -- Each part is cut off where the next one begins.
  unfold service?
  rw [toList_text named path, scheme?_append h.scheme]
  simp only [h.cutAt_text named, h.userOf_text (at_not_mem_site spelled url.port),
    hostOf_text spelled (head?_portChars url.port), portOf_portChars h.port, String.ofList_toList]

end RegistryBridge.Url
