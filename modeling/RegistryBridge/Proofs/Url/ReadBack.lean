import RegistryBridge.Proofs.Url.Text
/-!
# Addresses of services are read back whole

Reading the text of a well-formed address gives the address again, part for part. The one part that is
read anew is the host: its text is taken as any host's text would be, and what comes of that comes of
the whole. Addresses of files are read in a way of their own and left aside.

## Main results

* `Url.cleaned_of_graphic`: nothing is dropped of a text that has graphic characters only.
* `Url.pathOf_segments`, `Url.WellFormed.partsOf_restChars`: the path, the query and the fragment are
  read back.
* `Url.WellFormed.parse_text`: what is read of the text of an address.
-/

namespace RegistryBridge.Url

open Percent (Clear)

variable {url : Url} {host : Host} {segments : List String} {c : Char}

/-! ## Nothing is dropped -/

theorem isGraphic_of_inScheme (h : inScheme c = true) : Percent.isGraphic c = true := by
  have all : ∀ n < 0x80, inScheme (Char.ofNat n) = true → Percent.isGraphic (Char.ofNat n) = true := by
    decide +kernel
  have here := all c.toNat (toNat_lt_of_inScheme h)
  rw [Char.ofNat_toNat] at here
  exact here h

theorem isGraphic_of_inAuthority (h : inAuthority c = true) : Percent.isGraphic c = true := by
  simp only [inAuthority, Bool.or_eq_true, Bool.not_eq_true', decide_eq_true_eq] at h
  rcases h with (info | host) | rfl
  · exact Percent.isGraphic_of_fragment
      (Percent.fragment_eq_false_of_path (Percent.path_eq_false_of_userInfo info))
  · exact Host.isGraphic_of_inText host
  · decide

theorem query_eq_false_of_querySet {scheme : String} (h : querySet scheme c = false) :
    Percent.query c = false := by
  unfold querySet at h
  split at h
  · exact Percent.query_eq_false_of_specialQuery h
  · exact h

theorem isGraphic_marked {mark : String} {part : Option String}
    (sign : ∀ c ∈ mark.toList, Percent.isGraphic c = true)
    (text : ∀ text, part = some text → ∀ c ∈ text.toList, Percent.isGraphic c = true) :
    ∀ c ∈ (marked mark part).toList, Percent.isGraphic c = true := by
  cases part with
  | none => simp [marked]
  | some shown =>
    intro c mem
    rw [marked, String.toList_append] at mem
    exact (List.mem_append.mp mem).elim (sign c) (text shown rfl c)

namespace WellFormed

theorem isGraphic_restChars (h : url.WellFormed) (path : url.path = .segments segments) :
    ∀ c ∈ restChars url segments, Percent.isGraphic c = true := by
  obtain ⟨_, same, -, proper⟩ := h.path
  obtain rfl := UrlPath.segments.inj (path.symm.trans same)
  intro c mem
  rcases List.mem_append.mp mem with inside | behind
  · obtain ⟨s, there, inside⟩ := List.mem_flatMap.mp inside
    rcases List.mem_cons.mp inside with rfl | inside
    · decide
    · exact Percent.isGraphic_of_fragment
        (Percent.fragment_eq_false_of_path ((proper s there).clear c inside))
  · rcases List.mem_append.mp behind with query | fragment
    · refine isGraphic_marked (Percent.forall_mem_of_all (by decide)) (fun text shown c mem => ?_) c
        query
      exact Percent.isGraphic_of_query (query_eq_false_of_querySet (h.query text shown c mem))
    · refine isGraphic_marked (Percent.forall_mem_of_all (by decide)) (fun text shown c mem => ?_) c
        fragment
      exact Percent.isGraphic_of_fragment (h.fragment text shown c mem)

/-- **What the text of an address is written with.** -/
theorem isGraphic_text (h : url.WellFormed) : ∀ c ∈ url.text.toList, Percent.isGraphic c = true := by
  obtain ⟨host, named, -⟩ := h.host
  obtain ⟨segments, path, -⟩ := h.path
  have slashes : ∀ c ∈ [':', '/', '/'], Percent.isGraphic c = true :=
    Percent.forall_mem_of_all (by decide)
  intro c mem
  have parts : url.text.toList = url.scheme.toList ++ ([':', '/', '/'] ++
      (url.userText.toList ++ (host.text.toList ++ portChars url.port) ++
        restChars url segments)) := toList_text named path
  rw [parts] at mem
  rcases List.mem_append.mp mem with scheme | mem
  · exact isGraphic_of_inScheme (h.scheme.inScheme c scheme)
  · rcases List.mem_append.mp mem with sign | mem
    · exact slashes c sign
    · rcases List.mem_append.mp mem with authority | rest
      · exact isGraphic_of_inAuthority (h.inAuthority_text named c authority)
      · exact h.isGraphic_restChars path c rest

end WellFormed

/-- **Nothing of a text is dropped** that has graphic characters only. -/
theorem cleaned_of_graphic {s : String} (h : ∀ c ∈ s.toList, Percent.isGraphic c = true) :
    cleaned s = s.toList := by
  have dark : ∀ c ∈ s.toList, ¬ c.toNat ≤ 0x20 := by
    intro c mem
    have := h c mem
    simp only [Percent.isGraphic, Bool.and_eq_true, decide_eq_true_eq] at this
    omega
  have front : ∀ cs : List Char, (∀ c ∈ cs, ¬ c.toNat ≤ 0x20) →
      cs.dropWhile (fun c => decide (c.toNat ≤ 0x20)) = cs := by
    intro cs all
    cases cs with
    | nil => rfl
    | cons c rest => simp [all c (List.mem_cons_self ..)]
  have kept : s.toList.filter (fun c => c ≠ '\t' ∧ c ≠ '\n' ∧ c ≠ '\r') = s.toList := by
    rw [List.filter_eq_self]
    intro c mem
    simp only [decide_eq_true_eq]
    refine ⟨?_, ?_, ?_⟩ <;> rintro rfl <;> exact dark _ mem (by decide)
  have back : ∀ c ∈ s.toList.reverse, ¬ c.toNat ≤ 0x20 := fun c mem =>
    dark c (List.mem_reverse.mp mem)
  unfold cleaned
  dsimp only
  rw [front _ dark, front _ back, List.reverse_reverse, kept]

/-! ## The path and what follows it -/

/-- Where nothing divides a path but slashes, it is read as it stands. -/
theorem slashed_of_free {special : Bool} {cs : List Char} (free : special = true → '\\' ∉ cs) :
    slashed special cs = cs := by
  have same : ∀ c ∈ cs, (if special && c = '\\' then '/' else c) = c := by
    intro c mem
    rw [if_neg]
    simp only [Bool.and_eq_true, decide_eq_true_eq]
    rintro ⟨web, rfl⟩
    exact free web mem
  rw [slashed, List.map_congr_left same, List.map_id'']
  exact fun _ => rfl

/-- Segments are kept that stand for no directory. -/
theorem undotted_of_segments {special : Bool} {done rest : List String}
    (proper : ∀ s ∈ rest, IsSegment special s) : undotted done rest = done ++ rest := by
  fun_induction undotted done rest with
  | case1 done => simp
  | case2 done last up => simp [(proper last (List.mem_cons_self ..)).dots] at up
  | case3 done last up here => simp [(proper last (List.mem_cons_self ..)).dot] at here
  | case4 => rfl
  | case5 done first rest more up ih => simp [(proper first (List.mem_cons_self ..)).dots] at up
  | case6 done first rest more up here ih =>
    simp [(proper first (List.mem_cons_self ..)).dot] at here
  | case7 done first rest more up here ih =>
    rw [ih fun s mem => proper s (List.mem_cons_of_mem _ mem), List.append_assoc, List.singleton_append]

/-- **The segments of a path are read back.** -/
theorem pathOf_segments {special : Bool} (filled : special = true → segments ≠ [])
    (proper : ∀ s ∈ segments, IsSegment special s) :
    pathOf special (segments.flatMap fun s => '/' :: s.toList) = segments := by
  cases segments with
  | nil =>
    cases special with
    | true => exact absurd rfl (filled rfl)
    | false => rfl
  | cons s rest =>
    have free : special = true → '\\' ∉ s.toList ++ rest.flatMap fun s => '/' :: s.toList := by
      intro web mem
      rcases List.mem_append.mp mem with here | later
      · exact (proper s (List.mem_cons_self ..)).solidus web here
      · obtain ⟨other, there, inside⟩ := List.mem_flatMap.mp later
        rcases List.mem_cons.mp inside with sign | inside
        · cases sign
        · exact (proper other (List.mem_cons_of_mem _ there)).solidus web inside
    have split : Text.pieces '/' (s.toList ++ rest.flatMap fun s => '/' :: s.toList) =
        (s :: rest).map String.toList :=
      Text.pieces_flatMap_cons (fun s mem => (proper s (List.mem_cons_of_mem _ mem)).slash)
        (proper s (List.mem_cons_self ..)).slash
    have shown : encodedPieces (s.toList ++ rest.flatMap fun s => '/' :: s.toList) = s :: rest := by
      rw [encodedPieces, split, List.map_map, List.map_congr_left (g := id), List.map_id]
      intro s mem
      simp only [Function.comp_apply, id]
      rw [Percent.encode_of_clear (proper s mem).clear, String.ofList_toList]
    -- The first slash begins the path, the others divide it.
    have slash : endsAuthority special '/' = true := rfl
    rw [List.flatMap_cons, List.cons_append, pathOf, if_pos slash, slashed_of_free free, shown,
      undotted_of_segments proper, List.nil_append]

/-- A part that begins with a sign, behind text without it, is cut off there. -/
theorem cutAt_marked {mark : Char} {front : List Char} (part : Option String) (free : mark ∉ front) :
    cutAt (fun c => decide (c = mark)) (front ++ (marked (String.singleton mark) part).toList) =
      (front, (marked (String.singleton mark) part).toList) := by
  refine cutAt_append (fun c mem => ?_) ?_
  · rw [decide_eq_false_iff_not]
    rintro rfl
    exact free mem
  · cases part with
    | none => simp [marked]
    | some text => simp [marked]

/-- Behind its sign a part is read back. -/
theorem drop_marked (mark : Char) (part : Option String) :
    (if (marked (String.singleton mark) part).toList.isEmpty then none
      else some ((marked (String.singleton mark) part).toList.drop 1)) = part.map String.toList := by
  cases part with
  | none => rfl
  | some text => simp [marked]

namespace WellFormed

/-- **Path, query and fragment are read back.** -/
theorem partsOf_restChars (h : url.WellFormed) (path : url.path = .segments segments) :
    partsOf (restChars url segments) =
      (segments.flatMap (fun s => '/' :: s.toList), url.query.map String.toList,
        url.fragment.map String.toList) := by
  obtain ⟨_, same, -, proper⟩ := h.path
  obtain rfl := UrlPath.segments.inj (path.symm.trans same)
  have outside : ∀ sign : Char, Percent.path sign = true → sign ≠ '/' →
      sign ∉ segments.flatMap fun s => '/' :: s.toList := by
    intro sign encoded other mem
    obtain ⟨s, there, inside⟩ := List.mem_flatMap.mp mem
    rcases List.mem_cons.mp inside with rfl | inside
    · exact other rfl
    · cases encoded.symm.trans ((proper s there).clear sign inside)
  -- Neither the path nor the query has the sign that begins the fragment.
  have hash : '#' ∉ (segments.flatMap fun s => '/' :: s.toList) ++ (marked "?" url.query).toList := by
    intro mem
    rcases List.mem_append.mp mem with path | query
    · exact outside '#' (by decide) (by decide) path
    · cases shown : url.query with
      | none => simp [shown, marked] at query
      | some text =>
        rw [shown, marked, String.toList_append] at query
        rcases List.mem_append.mp query with sign | inside
        · exact absurd sign (by decide)
        · exact absurd (query_eq_false_of_querySet (h.query text shown '#' inside)) (by decide)
  have front := cutAt_marked url.fragment hash
  have back := cutAt_marked url.query (outside '?' (by decide) (by decide))
  have fragment := drop_marked '#' url.fragment
  have query := drop_marked '?' url.query
  rw [List.append_assoc] at front
  unfold partsOf restChars
  rw [show "?" = String.singleton '?' from rfl, show "#" = String.singleton '#' from rfl] at *
  rw [front]
  dsimp only
  rw [back]
  dsimp only
  rw [fragment, query]

/-- **What follows host and port is read back**, whatever the host. -/
theorem withRest_restChars (h : url.WellFormed) (path : url.path = .segments segments)
    (host : Option Host) :
    withRest
        { scheme := url.scheme, user := url.user, password := url.password, host, port := url.port }
        (restChars url segments) = { url with host } := by
  have parts := h.partsOf_restChars path
  obtain ⟨_, same, filled, proper⟩ := h.path
  obtain rfl := UrlPath.segments.inj (path.symm.trans same)
  have shown : ∀ (set : Char → Bool) (part : Option String),
      (∀ text, part = some text → Clear set text) →
        (part.map String.toList).map (fun cs => String.ofList (Percent.encode set cs)) = part := by
    intro set part clear
    cases part with
    | none => rfl
    | some text => simp [Percent.encode_of_clear (clear text rfl)]
  have query := shown (querySet url.scheme) url.query h.query
  have fragment := shown Percent.fragment url.fragment h.fragment
  unfold querySet at query
  unfold withRest
  rw [parts]
  dsimp only
  rw [pathOf_segments filled proper]
  unfold Url.withTail
  dsimp only
  rw [query, fragment, ← path]

/-- **User, host and port are read back** with all that follows them; the host is read from its text. -/
theorem withAuthority_text (h : url.WellFormed) (named : url.host = some host)
    (path : url.path = .segments segments) :
    withAuthority url.scheme
        (url.userText.toList ++ (host.text.toList ++ portChars url.port) ++ restChars url segments) =
      (hostNamed (isSpecial url.scheme) true host.text.toList).map fun host => { url with host } := by
  obtain ⟨_, same, spelled⟩ := h.host
  obtain rfl := Option.some.inj (named.symm.trans same)
  have filled : host.text.toList.isEmpty = false := by
    simpa using spelled.text_ne_empty
  have needed : ∀ special needed, hostNamed special needed host.text.toList =
      hostNamed special true host.text.toList := by
    intro special needed
    simp [hostNamed, filled]
  have port : cutAt (fun c => decide (c = '\\')) (portChars url.port) = (portChars url.port, []) := by
    refine cutAt_of_forall fun c mem => ?_
    rw [decide_eq_false_iff_not]
    rintro rfl
    exact absurd (inAuthority_portChars url.port _ mem) (by decide)
  unfold withAuthority
  dsimp only
  rw [h.cutAt_text named]
  dsimp only
  rw [h.userOf_text (at_not_mem_site spelled url.port)]
  dsimp only
  rw [hostOf_text spelled (head?_portChars url.port)]
  dsimp only
  rw [port, needed, portOf_portChars h.port]
  cases hostNamed (isSpecial url.scheme) true host.text.toList with
  | error e => rfl
  | ok read =>
    dsimp only
    rw [List.nil_append, h.withRest_restChars path read]
    rfl

/-- **What is read of the text of an address** of a service is the address, but for the host, which is
read from its own text. -/
theorem parse_text (h : url.WellFormed) (named : url.host = some host) (service : url.scheme ≠ "file") :
    parse url.text =
      (hostNamed (isSpecial url.scheme) true host.text.toList).map fun host => { url with host } := by
  obtain ⟨_, same, spelled⟩ := h.host
  obtain rfl := Option.some.inj (named.symm.trans same)
  obtain ⟨segments, path, -, -⟩ := h.path
  have read := h.withAuthority_text named path
  have inside := h.inAuthority_text named
  unfold parse
  rw [cleaned_of_graphic h.isGraphic_text, toList_text named path, scheme?_append h.scheme]
  dsimp only
  rw [if_neg service]
  -- No slash is left before the user or the host.
  have front : ∀ cs : List Char, (∀ c ∈ cs, inAuthority c = true) → cs ≠ [] → ∀ rest,
      ('/' :: '/' :: (cs ++ rest)).dropWhile (fun c => c = '/' || c = '\\') = cs ++ rest := by
    intro cs plain filled rest
    obtain ⟨c, more, rfl⟩ := List.exists_cons_of_ne_nil filled
    have ends := endsAuthority_eq_false true (plain c (List.mem_cons_self ..))
    simp only [endsAuthority, Bool.or_eq_false_iff, Bool.true_and] at ends
    simp [ends.1.1.1, ends.2]
  have filled : url.userText.toList ++ (host.text.toList ++ portChars url.port) ≠ [] := by
    simp [spelled.text_ne_empty]
  split
  · rw [front _ inside filled]
    exact read
  · exact read

end WellFormed

end RegistryBridge.Url
