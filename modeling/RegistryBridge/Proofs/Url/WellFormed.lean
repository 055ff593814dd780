import Mathlib.Data.List.TakeWhile
import RegistryBridge.Proofs.Url.Host
import RegistryBridge.Url.Parser
/-!
# Well-formed addresses

An address that has been read has only such characters in each of its parts as may stand there, and
so has the same service under the path of any segments: whatever a segment holds, it is encoded before
it becomes part of the path.

## Main definitions

* `Url.WellFormed`: an address with a host, each part of which is spelled as it should be.
* `Url.Schemed`, `Url.IsSegment`: the same for a scheme and for a segment of a path.

## Main results

* `Url.wellFormed_of_parse`: addresses that are read are well formed, if they have a host.
* `Url.WellFormed.withPath`: they stay so under any path.
-/

namespace RegistryBridge.Url

open Percent (Clear)

variable {url : Url} {host : Host} {scheme : String} {cs : List Char} {c : Char}

/-! ## Schemes -/

/-- **The spelling of a scheme**: a letter, and then letters, digits and three signs, with none in upper
case. -/
structure Schemed (scheme : String) : Prop where
  letter : ∃ c rest, scheme.toList = c :: rest ∧ c.isAlpha = true
  inScheme : ∀ c ∈ scheme.toList, Url.inScheme c = true
  lower : ∀ c ∈ scheme.toList, c.toLower = c

theorem toNat_lt_of_inScheme (h : inScheme c = true) : c.toNat < 0x80 := by
  have upper (h : c.isUpper = true) : c.toNat ≤ 'Z'.toNat :=
    UInt32.le_iff_toNat_le.mp (of_decide_eq_true h).2
  have lower (h : c.isLower = true) : c.toNat ≤ 'z'.toNat :=
    UInt32.le_iff_toNat_le.mp (of_decide_eq_true (Bool.and_eq_true_iff.mp h).2)
  have digit (h : c.isDigit = true) : c.toNat ≤ '9'.toNat :=
    UInt32.le_iff_toNat_le.mp (of_decide_eq_true (Bool.and_eq_true_iff.mp h).2)
  simp only [inScheme, Bool.or_eq_true, decide_eq_true_eq] at h
  rcases h with ((alnum | rfl) | rfl) | rfl
  · rcases Bool.or_eq_true_iff.mp alnum with letter | number
    · rcases Bool.or_eq_true_iff.mp letter with letter | letter
      · exact Nat.lt_of_le_of_lt (upper letter) (by decide)
      · exact Nat.lt_of_le_of_lt (lower letter) (by decide)
    · exact Nat.lt_of_le_of_lt (digit number) (by decide)
  all_goals decide

/-- What may stand in a scheme, in lower case. -/
theorem toLower_of_inScheme (h : inScheme c = true) :
    inScheme c.toLower = true ∧ c.toLower.toLower = c.toLower ∧
      c.toLower.isAlpha = c.isAlpha := by
  have all : ∀ n < 0x80, inScheme (Char.ofNat n) = true →
      inScheme (Char.ofNat n).toLower = true ∧
        (Char.ofNat n).toLower.toLower = (Char.ofNat n).toLower ∧
        (Char.ofNat n).toLower.isAlpha = (Char.ofNat n).isAlpha := by
    decide +kernel
  have here := all c.toNat (toNat_lt_of_inScheme h)
  rw [Char.ofNat_toNat] at here
  exact here h

theorem schemed_of_scheme? {rest : List Char} (h : scheme? cs = some (scheme, rest)) :
    Schemed scheme := by
  have raw : ∀ c ∈ cs.takeWhile inScheme, inScheme c = true := fun c mem =>
    List.mem_takeWhile_imp mem
  unfold scheme? at h
  generalize cs.takeWhile inScheme = front at h raw
  dsimp only at h
  split at h
  · rename_i c others _ _
    split at h
    · rename_i letter
      obtain ⟨rfl, -⟩ := Prod.mk.inj (Option.some.inj h)
      refine ⟨⟨c.toLower, others.map Char.toLower, by simp, ?_⟩, fun c mem => ?_, fun c mem => ?_⟩
      · rw [(toLower_of_inScheme (raw c (List.mem_cons_self ..))).2.2, letter]
      · rw [String.toList_ofList] at mem
        obtain ⟨source, inside, rfl⟩ := List.mem_map.mp mem
        exact (toLower_of_inScheme (raw source inside)).1
      · rw [String.toList_ofList] at mem
        obtain ⟨source, inside, rfl⟩ := List.mem_map.mp mem
        exact (toLower_of_inScheme (raw source inside)).2.1
    · cases h
  · cases h

/-! ## Segments -/

/-- **A segment of a path**: its characters are encoded where they have to be, it has nothing that
divides a path, and it stands for no directory. -/
structure IsSegment (special : Bool) (s : String) : Prop where
  clear : Clear Percent.path s
  slash : '/' ∉ s.toList
  solidus : special = true → '\\' ∉ s.toList
  dot : isDot s = false
  dots : isDots s = false

theorem isSegment_empty (special : Bool) : IsSegment special "" where
  clear := Percent.clear_empty _
  slash := by simp
  solidus := by simp
  dot := rfl
  dots := rfl

/-- What is left of segments when they are freed of their dots. -/
theorem mem_undotted {done rest : List String} {s : String} (h : s ∈ undotted done rest) :
    s ∈ done ∨ s = "" ∨ (s ∈ rest ∧ isDot s = false ∧ isDots s = false) := by
  -- Two dots only take away of what is done already.
  fun_induction undotted done rest with
  | case1 done => exact .inl h
  | case2 done last up =>
    rcases List.mem_append.mp h with before | new
    · exact .inl ((List.dropLast_sublist _).subset before)
    · exact .inr (.inl (List.mem_singleton.mp new))
  | case3 done last up here =>
    rcases List.mem_append.mp h with before | new
    · exact .inl before
    · exact .inr (.inl (List.mem_singleton.mp new))
  | case4 done last up here =>
    rcases List.mem_append.mp h with before | new
    · exact .inl before
    · obtain rfl := List.mem_singleton.mp new
      exact .inr (.inr ⟨List.mem_singleton_self _, by simpa using here, by simpa using up⟩)
  | case5 done first rest more up ih =>
    refine (ih h).imp (fun before => (List.dropLast_sublist _).subset before) (Or.imp_right ?_)
    exact fun later => ⟨List.mem_cons_of_mem _ later.1, later.2⟩
  | case6 done first rest more up here ih =>
    refine (ih h).imp_right (Or.imp_right ?_)
    exact fun later => ⟨List.mem_cons_of_mem _ later.1, later.2⟩
  | case7 done first rest more up here ih =>
    rcases ih h with before | empty | ⟨mem, plain⟩
    · rcases List.mem_append.mp before with before | new
      · exact .inl before
      · obtain rfl := List.mem_singleton.mp new
        exact .inr (.inr ⟨List.mem_cons_self .., by simpa using here, by simpa using up⟩)
    · exact .inr (.inl empty)
    · exact .inr (.inr ⟨List.mem_cons_of_mem _ mem, plain⟩)

theorem undotted_ne_nil {done rest : List String} (h : rest ≠ []) : undotted done rest ≠ [] := by
  fun_induction undotted done rest <;> simp_all

/-- **What is encoded is a segment**, unless it stands for a directory, if what is not encoded may stand
there. -/
theorem isSegment_encode {special : Bool} {set : Char → Bool}
    (covers : ∀ c ∈ cs, set c = false →
      Percent.path c = false ∧ c ≠ '/' ∧ (special = true → c ≠ '\\'))
    (dot : isDot (String.ofList (Percent.encode set cs)) = false)
    (dots : isDots (String.ofList (Percent.encode set cs)) = false) :
    IsSegment special (String.ofList (Percent.encode set cs)) := by
  have signs : ∀ c ∈ Percent.signs, Percent.path c = false ∧ c ≠ '/' ∧ c ≠ '\\' :=
    Percent.forall_mem_of_all (by decide)
  have stands : ∀ c ∈ (String.ofList (Percent.encode set cs)).toList,
      Percent.path c = false ∧ c ≠ '/' ∧ (special = true → c ≠ '\\') := by
    intro c mem
    rw [String.toList_ofList] at mem
    rcases Percent.mem_encode mem with ⟨own, kept⟩ | sign
    · exact covers c own kept
    · exact ⟨(signs c sign).1, (signs c sign).2.1, fun _ => (signs c sign).2.2⟩
  exact ⟨fun c mem => (stands c mem).1, fun mem => (stands _ mem).2.1 rfl,
    fun web mem => (stands _ mem).2.2 web rfl, dot, dots⟩

theorem solidus_not_mem_slashed (cs : List Char) : '\\' ∉ slashed true cs := by
  intro mem
  obtain ⟨source, -, same⟩ := List.mem_map.mp mem
  split at same <;> simp_all

/-- What stands between the slashes of a path is a segment, unless it stands for a directory. -/
theorem isSegment_of_mem_encodedPieces {special : Bool} {s : String}
    (free : special = true → '\\' ∉ cs) (h : s ∈ encodedPieces cs) (dot : isDot s = false)
    (dots : isDots s = false) : IsSegment special s := by
  obtain ⟨piece, mem, rfl⟩ := List.mem_map.mp h
  refine isSegment_encode (fun c inside kept => ⟨kept, ?_, ?_⟩) dot dots
  · rintro rfl
    exact Text.not_mem_of_mem_pieces mem inside
  · rintro web rfl
    exact free web (Text.mem_of_mem_pieces mem inside)

theorem isSegment_of_mem_undotted {special : Bool} {s : String} (free : special = true → '\\' ∉ cs)
    (h : s ∈ undotted [] (encodedPieces cs)) : IsSegment special s := by
  rcases mem_undotted h with old | rfl | ⟨mem, dot, dots⟩
  · cases old
  · exact isSegment_empty special
  · exact isSegment_of_mem_encodedPieces free mem dot dots

theorem encodedPieces_ne_nil (cs : List Char) : encodedPieces cs ≠ [] := by
  simp [encodedPieces, Text.pieces_ne_nil]

/-- **The path of a service** that is read has segments only. -/
theorem isSegment_of_mem_pathOf {special : Bool} {s : String} (h : s ∈ pathOf special cs) :
    IsSegment special s := by
  unfold pathOf at h
  split at h
  · obtain rfl : s = "" := by
      split at h
      · exact List.mem_singleton.mp h
      · cases h
    exact isSegment_empty special
  · refine isSegment_of_mem_undotted (fun web => ?_) h
    rw [web]
    exact solidus_not_mem_slashed _

theorem pathOf_ne_nil (cs : List Char) : pathOf true cs ≠ [] := by
  unfold pathOf
  split
  · simp
  · exact undotted_ne_nil (encodedPieces_ne_nil _)

/-- **What is made a segment** is one, unless it stands for a directory. -/
theorem isSegment_segment (scheme s : String) (dot : isDot (segment scheme s) = false)
    (dots : isDots (segment scheme s) = false) : IsSegment (isSpecial scheme) (segment scheme s) := by
  have slash : Percent.segment '/' = true := by decide
  have solidus : Percent.specialSegment '\\' = true := by decide
  refine isSegment_encode (fun c _ kept => ?_) dot dots
  cases special : isSpecial scheme with
  | true =>
    rw [special, if_pos rfl] at kept
    have plain := Percent.segment_eq_false_of_specialSegment kept
    refine ⟨Percent.path_eq_false_of_segment plain, ?_, fun _ => ?_⟩
    · rintro rfl
      cases slash.symm.trans plain
    · rintro rfl
      cases solidus.symm.trans kept
  | false =>
    rw [special, if_neg (by simp)] at kept
    refine ⟨Percent.path_eq_false_of_segment kept, ?_, nofun⟩
    rintro rfl
    cases slash.symm.trans kept

theorem isSegment_of_mem_addSegment {done : List String} {part s : String}
    (before : ∀ s ∈ done, IsSegment (isSpecial scheme) s) (h : s ∈ addSegment scheme done part) :
    IsSegment (isSpecial scheme) s := by
  unfold addSegment at h
  split at h
  · exact before s h
  · rcases mem_undotted h with old | rfl | ⟨mem, dot, dots⟩
    · split at old
      · cases old
      · exact before s old
    · exact isSegment_empty _
    · obtain rfl := List.mem_singleton.mp mem
      exact isSegment_segment scheme part dot dots

theorem addSegment_ne_nil {done : List String} (part : String) (h : done ≠ []) :
    addSegment scheme done part ≠ [] := by
  unfold addSegment
  split
  · exact h
  · exact undotted_ne_nil (List.cons_ne_nil _ _)

/-! ## Addresses -/

/-- The characters that a query is encoded by. -/
def querySet (scheme : String) : Char → Bool :=
  if isSpecial scheme then Percent.specialQuery else Percent.query

/-- **A well-formed address** has a host, and each of its parts is spelled as it should be. The port is
a port, and is not told where it goes without saying. -/
structure WellFormed (url : Url) : Prop where
  scheme : Schemed url.scheme
  user : Clear Percent.userInfo url.user
  password : Clear Percent.userInfo url.password
  host : ∃ host, url.host = some host ∧ host.Spelled
  port : ∀ port, url.port = some port → port ≤ 65535 ∧ defaultPort? url.scheme ≠ some port
  path : ∃ segments, url.path = .segments segments ∧
    (isSpecial url.scheme = true → segments ≠ []) ∧
    ∀ s ∈ segments, IsSegment (isSpecial url.scheme) s
  query : ∀ query, url.query = some query → Clear (querySet url.scheme) query
  fragment : ∀ fragment, url.fragment = some fragment → Clear Percent.fragment fragment

/-- **The same service under another path** is as well formed, whatever stands in the segments. -/
theorem WellFormed.withPath (h : url.WellFormed) (segments : List String) :
    (url.withPath segments).WellFormed := by
  -- Segment by segment the path keeps what is asked of it, and does not become empty.
  have path : ∀ segments start : List String,
      (isSpecial url.scheme = true → start ≠ []) ∧
          (∀ s ∈ start, IsSegment (isSpecial url.scheme) s) →
        (isSpecial url.scheme = true → segments.foldl (addSegment url.scheme) start ≠ []) ∧
          ∀ s ∈ segments.foldl (addSegment url.scheme) start,
            IsSegment (isSpecial url.scheme) s := by
    intro segments
    induction segments with
    | nil => exact fun start before => before
    | cons part rest ih =>
      rintro start ⟨filled, before⟩
      refine ih _ ⟨fun special => addSegment_ne_nil part (filled special), fun s mem => ?_⟩
      exact isSegment_of_mem_addSegment before mem
  refine { h with path := ⟨_, rfl, path segments _ ⟨fun special => ?_, fun s mem => ?_⟩⟩ }
  · simp [special]
  · split at mem
    · cases mem
    · obtain rfl := List.mem_singleton.mp mem
      exact isSegment_empty _

/-- Nor does it matter who calls, and what is looked for behind. -/
theorem WellFormed.bare (h : url.WellFormed) :
    { url with user := "", password := "", fragment := none }.WellFormed :=
  { h with
    user := Percent.clear_empty _
    password := Percent.clear_empty _
    fragment := nofun }

/-! ## Addresses that are read -/

theorem spelled_of_hostNamed {special needed : Bool}
    (h : hostNamed special needed cs = .ok (some host)) : host.Spelled := by
  unfold hostNamed at h
  split at h
  · cases h
  · split at h
    · cases read : Host.parse cs with
      | error e => simp [read, Except.map] at h
      | ok found =>
        rw [read] at h
        obtain rfl := Option.some.inj (Except.ok.inj h)
        exact Host.spelled_of_parse read
    · exact Host.spelled_of_parseFree h

theorem port_of_portOf {port : Option Nat} (h : portOf scheme cs = .ok port) :
    ∀ n, port = some n → n ≤ 65535 ∧ defaultPort? scheme ≠ some n := by
  rintro n rfl
  unfold portOf at h
  split at h
  · cases h
  · dsimp only at h
    split at h
    · cases h
    · rename_i proper
      split at h
      · cases h
      · rename_i told
        obtain rfl := Option.some.inj (Except.ok.inj h)
        exact ⟨by omega, told⟩

theorem clear_userOf (authority : List Char) :
    Clear Percent.userInfo (userOf authority).1 ∧ Clear Percent.userInfo (userOf authority).2.1 :=
  have signs : ∀ c ∈ Percent.signs, Percent.userInfo c = false :=
    Percent.forall_mem_of_all (by decide)
  ⟨Percent.clear_encode (fun _ => id) signs _, Percent.clear_encode (fun _ => id) signs _⟩

theorem WellFormed.withTail (h : url.WellFormed) (query fragment : Option (List Char)) :
    (url.withTail query fragment).WellFormed := by
  have signs : ∀ c ∈ Percent.signs, querySet url.scheme c = false := by
    unfold querySet
    split <;> exact Percent.forall_mem_of_all (by decide)
  refine { h with query := ?_, fragment := ?_ }
  · rintro _ shown
    obtain ⟨cs, -, rfl⟩ := Option.map_eq_some_iff.mp shown
    exact Percent.clear_encode (fun _ => id) signs cs
  · rintro _ shown
    obtain ⟨cs, -, rfl⟩ := Option.map_eq_some_iff.mp shown
    exact Percent.clear_encode (fun _ => id) (Percent.forall_mem_of_all (by decide)) cs

theorem wellFormed_of_withAuthority (schemed : Schemed scheme)
    (h : withAuthority scheme cs = .ok url) (named : url.host = some host) : url.WellFormed := by
  unfold withAuthority at h
  dsimp only at h
  split at h
  · cases h
  · rename_i found read
    split at h
    · cases h
    · rename_i port readPort
      obtain rfl := Except.ok.inj h
      obtain rfl : found = some host := named
      have info := clear_userOf (cutAt (endsAuthority (isSpecial scheme)) cs).1
      refine WellFormed.withTail ?_ _ _
      exact
        { scheme := schemed
          user := info.1
          password := info.2
          host := ⟨host, rfl, spelled_of_hostNamed read⟩
          port := port_of_portOf readPort
          path := ⟨_, rfl, fun special => special ▸ pathOf_ne_nil _, fun _ => isSegment_of_mem_pathOf⟩
          query := nofun
          fragment := nofun }

/-- The host of a file is read as that of a service is. -/
theorem spelled_of_fileSite {rest : List Char} (h : fileSite cs = .ok (some host, rest)) :
    host.Spelled := by
  unfold fileSite at h
  split at h
  · dsimp only at h
    split at h
    · cases h
    · split at h
      · cases h
      · split at h
        · cases h
        · rename_i found read
          split at h
          · cases h
          · obtain rfl := Option.some.inj (Prod.mk.inj (Except.ok.inj h)).1
            exact Host.spelled_of_parse read
  · cases h

theorem mem_of_mem_fileSite {rest : List Char} {found : Option Host}
    (h : fileSite cs = .ok (found, rest)) (mem : c ∈ rest) : c ∈ cs := by
  unfold fileSite at h
  split at h
  · rename_i behind
    dsimp only at h
    have part : c ∈ rest → c ∈ '/' :: behind := by
      split at h
      · obtain rfl := (Prod.mk.inj (Except.ok.inj h)).2
        exact fun mem => List.mem_cons_of_mem _ (List.mem_of_mem_drop mem)
      · split at h
        · obtain rfl := (Prod.mk.inj (Except.ok.inj h)).2
          exact id
        · split at h
          · cases h
          · obtain rfl := (Prod.mk.inj (Except.ok.inj h)).2
            exact fun mem => List.mem_cons_of_mem _ (List.mem_of_mem_drop mem)
    exact List.mem_cons_of_mem _ (part mem)
  · obtain rfl := (Prod.mk.inj (Except.ok.inj h)).2
    exact mem

theorem isSegment_of_mem_filePath {s : String} (free : '\\' ∉ cs)
    (h : s ∈ filePath (encodedPieces cs)) : IsSegment true s := by
  unfold filePath at h
  dsimp only at h
  split at h
  · obtain rfl := List.mem_singleton.mp h
    exact isSegment_empty true
  · exact isSegment_of_mem_undotted (fun _ => free) ((List.dropWhile_sublist _).subset h)

theorem filePath_ne_nil (pieces : List String) : filePath pieces ≠ [] := by
  unfold filePath
  dsimp only
  split
  · simp
  · rename_i filled
    exact fun empty => filled (List.isEmpty_iff.mpr empty)

theorem wellFormed_of_ofFile (schemed : Schemed "file") (h : ofFile cs = .ok url)
    (named : url.host = some host) : url.WellFormed := by
  unfold ofFile at h
  dsimp only at h
  split at h
  · cases h
  · rename_i found rest read
    obtain rfl := Except.ok.inj h
    have spelled : ∀ hidden : Bool, (if hidden then none else found) = some host → host.Spelled := by
      rintro (_ | _) shown
      · obtain rfl : found = some host := shown
        exact spelled_of_fileSite read
      · cases shown
    -- The reverse solidus divides the paths of files, so that none is left of it.
    have free : '\\' ∉ rest.drop (if rest.head? = some '/' then 1 else 0) := fun mem =>
      solidus_not_mem_slashed _ (mem_of_mem_fileSite read (List.mem_of_mem_drop mem))
    refine WellFormed.withTail ?_ _ _
    exact
      { scheme := schemed
        user := Percent.clear_empty _
        password := Percent.clear_empty _
        host := ⟨host, named, spelled _ named⟩
        port := nofun
        path := ⟨_, rfl, fun _ => filePath_ne_nil _, fun _ => isSegment_of_mem_filePath free⟩
        query := nofun
        fragment := nofun }

/-- **Addresses that are read are well formed**, if they have a host. -/
theorem wellFormed_of_parse {s : String} (h : parse s = .ok url) (named : url.host = some host) :
    url.WellFormed := by
  unfold parse at h
  split at h
  · cases h
  · rename_i scheme rest read
    have schemed := schemed_of_scheme? read
    split at h
    · rename_i file
      subst file
      exact wellFormed_of_ofFile schemed h named
    · split at h
      · exact wellFormed_of_withAuthority schemed h named
      · split at h
        · exact wellFormed_of_withAuthority schemed h named
        · -- Free text stands where no host is.
          obtain rfl := Except.ok.inj h
          cases named

end RegistryBridge.Url
