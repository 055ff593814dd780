import RegistryBridge.Proofs.Text.Encoding
import RegistryBridge.Proofs.Url.Text
/-!
# Segments of a path are read back

What one segment encodes has the percent sign in it, so whatever is made a segment is found again when
the segment is decoded. A path of segments is the text of each behind a slash, and no segment has one, so
the path tells all of them.

## Main definitions

* `Percent.text?`: the text that percent-encoded text stands for.
* `Url.Kept`: a text that is kept whole as a segment.

## Main results

* `Percent.text?_encode`: encoded text is read back.
* `Url.path_withPath`, `Url.text?_splitAt_withPath`: so is every segment of a path.
-/

namespace RegistryBridge

namespace Percent

variable {set : Char → Bool}

/-- **The text that percent-encoded text stands for**, if its bytes are one. -/
def text? (s : String) : Option String :=
  String.fromUTF8? ⟨(decode s.toList).toArray⟩

theorem value?_digit : ∀ n < 16, value? (digit n) = some n := by
  decide

/-- **A byte is read back** of its sign and two digits. -/
theorem decode_byte (b : UInt8) (rest : List Char) : decode (byte b ++ rest) = b :: decode rest := by
  have small : b.toNat < 256 := b.toNat_lt
  have high : value? (digit (b.toNat / 16)) = some (b.toNat / 16) := value?_digit _ (by omega)
  have low : value? (digit (b.toNat % 16)) = some (b.toNat % 16) := value?_digit _ (by omega)
  have both : byteOf? (digit (b.toNat / 16)) (digit (b.toNat % 16)) = some b := by
    have whole : 16 * (b.toNat / 16) + b.toNat % 16 = b.toNat := by omega
    rw [byteOf?, high, low]
    show some (UInt8.ofNat (16 * (b.toNat / 16) + b.toNat % 16)) = some b
    rw [whole, UInt8.ofNat_toNat]
  rw [byte, List.cons_append, List.cons_append, List.cons_append, List.nil_append, decode, both]

theorem decode_bytes (bs : List UInt8) (rest : List Char) :
    decode (bs.flatMap byte ++ rest) = bs ++ decode rest := by
  induction bs with
  | nil => rfl
  | cons b bs ih => rw [List.flatMap_cons, List.append_assoc, decode_byte, ih, List.cons_append]

/-- Any other character than the sign stands for itself. -/
theorem decode_cons_of_ne {c : Char} (plain : c ≠ '%') (rest : List Char) :
    decode (c :: rest) = String.utf8EncodeChar c ++ decode rest := by
  rw [decode]
  exact fun a b more same => absurd same plain

/-- **Encoded text is decoded** to its own bytes, if the sign is encoded. -/
theorem decode_encode (sign : set '%' = true) (cs : List Char) :
    decode (encode set cs) = cs.flatMap String.utf8EncodeChar := by
  induction cs with
  | nil => rfl
  | cons c rest ih =>
    rw [encode, List.flatMap_cons, ← encode, List.flatMap_cons, ← ih]
    split
    · rw [decode_bytes]
    · rename_i kept
      have plain : c ≠ '%' := by
        rintro rfl
        exact kept sign
      exact decode_cons_of_ne plain _

theorem text?_encode (sign : set '%' = true) (cs : List Char) :
    text? (String.ofList (encode set cs)) = some (String.ofList cs) := by
  rw [text?, String.toList_ofList, decode_encode sign, Text.fromUTF8?_eq_some_iff]
  exact ByteArray.ext (by simp [List.utf8Encode])

end Percent

namespace Url

variable {s : String}

/-- **A text that is kept whole as a segment**: it stands for no directory, and there are no characters
in it that are dropped. -/
structure Kept (s : String) : Prop where
  dot : s ≠ "."
  dots : s ≠ ".."
  breaks : ∀ c ∈ s.toList, c ≠ '\t' ∧ c ≠ '\n' ∧ c ≠ '\r'

-- What is decided goes through the characters of the text, and not through all that there are.
instance (s : String) : Decidable (Kept s) :=
  decidable_of_iff
    (s ≠ "." ∧ s ≠ ".." ∧ s.toList.all fun c => c ≠ '\t' ∧ c ≠ '\n' ∧ c ≠ '\r')
    ⟨fun ⟨dot, dots, all⟩ =>
      ⟨dot, dots, fun c mem => of_decide_eq_true (List.all_eq_true.mp all c mem)⟩,
    fun h => ⟨h.dot, h.dots, List.all_eq_true.mpr fun c mem => decide_eq_true (h.breaks c mem)⟩⟩

/-- **A segment is read back.** -/
theorem text?_segment (scheme : String) (kept : Kept s) :
    Percent.text? (segment scheme s) = some s := by
  have whole : s.toList.filter (fun c => c ≠ '\t' ∧ c ≠ '\n' ∧ c ≠ '\r') = s.toList :=
    List.filter_eq_self.mpr fun c mem => decide_eq_true (kept.breaks c mem)
  have sign :
      (if isSpecial scheme then Percent.specialSegment else Percent.segment) '%' = true := by
    cases isSpecial scheme <;> rfl
  rw [segment, whole, Percent.text?_encode sign, String.ofList_toList]

/-- What stands for this directory is read as a full stop. -/
theorem isDot_segment (scheme : String) (kept : Kept s) :
    isDot (segment scheme s) = false := by
  have read : ∀ dot ∈ [".", "%2e", "%2E"], Percent.text? dot = some "." := by decide +kernel
  rw [isDot, List.contains_eq_mem, decide_eq_false_iff_not]
  intro mem
  exact kept.dot (Option.some.inj ((text?_segment scheme kept).symm.trans (read _ mem)))

/-- What stands for the directory above is read as two. -/
theorem isDots_segment (scheme : String) (kept : Kept s) :
    isDots (segment scheme s) = false := by
  have read : ∀ dots ∈ ["..", "%2e%2e", "%2e%2E", "%2E%2e", "%2E%2E", "%2e.", "%2E.", ".%2e",
      ".%2E"], Percent.text? dots = some ".." := by decide +kernel
  rw [isDots, List.contains_eq_mem, decide_eq_false_iff_not]
  intro mem
  exact kept.dots (Option.some.inj ((text?_segment scheme kept).symm.trans (read _ mem)))

/-- **One more segment** stands behind the others, or in the place of a single empty one. -/
theorem addSegment_of_kept (scheme : String) (kept : Kept s) (done : List String) :
    addSegment scheme done s = (if done = [""] then [] else done) ++ [segment scheme s] := by
  unfold addSegment
  rw [if_neg (not_or.mpr ⟨kept.dot, kept.dots⟩), undotted, isDots_segment scheme kept,
    isDot_segment scheme kept]
  rfl

/-- **Several segments** stand behind the others in their order. -/
theorem foldl_addSegment (scheme : String) {done segments : List String} (begun : done ≠ [""])
    (filled : done ≠ []) (kept : ∀ s ∈ segments, Kept s) :
    segments.foldl (addSegment scheme) done = done ++ segments.map (segment scheme) := by
  induction segments generalizing done with
  | nil => simp
  | cons s rest ih =>
    have here := addSegment_of_kept scheme (kept s (List.mem_cons_self ..)) done
    rw [if_neg begun] at here
    have longer : done ++ [segment scheme s] ≠ [""] := by
      intro single
      obtain ⟨first, others, rfl⟩ := List.exists_cons_of_ne_nil filled
      simp at single
    rw [List.foldl_cons, here, ih longer (by simp) fun s mem => kept s (List.mem_cons_of_mem _ mem)]
    simp

theorem text?_empty : Percent.text? "" = some "" := by
  decide +kernel

/-- **The path of some segments** has them and nothing else, unless the first one is empty. -/
theorem path_withPath (url : Url) {first : String} {rest : List String} (something : first ≠ "")
    (kept : ∀ s ∈ first :: rest, Kept s) :
    (url.withPath (first :: rest)).path =
      .segments ((first :: rest).map (segment url.scheme)) := by
  have own := kept first (List.mem_cons_self ..)
  -- The first segment takes the place of the empty one, if there is any.
  have begun : ∀ start ∈ [[], [""]],
      addSegment url.scheme start first = [segment url.scheme first] := by
    intro start mem
    rw [addSegment_of_kept _ own]
    rcases List.mem_cons.mp mem with rfl | single
    · rfl
    · rw [if_pos (List.mem_singleton.mp single)]
      rfl
  have filled : [segment url.scheme first] ≠ [""] := by
    intro empty
    have read := text?_segment url.scheme own
    rw [(List.cons.inj empty).1, text?_empty] at read
    exact something (Option.some.inj read).symm
  have behind := foldl_addSegment url.scheme filled (List.cons_ne_nil _ _)
    fun s mem => kept s (List.mem_cons_of_mem _ mem)
  unfold withPath
  simp only [List.foldl_cons]
  rw [begun _ (by split <;> simp), behind]
  rfl

/-- **A path tells its segments**: between the slashes stand nothing, for the first one, and then the
segments, each of which is read back. -/
theorem text?_splitAt_withPath (url : Url) {first : String} {rest : List String}
    (something : first ≠ "") (kept : ∀ s ∈ first :: rest, Kept s) :
    (Text.splitAt '/' (pathText (url.withPath (first :: rest)).path)).map Percent.text? =
      ("" :: first :: rest).map some := by
  have free : ∀ s ∈ (first :: rest).map (segment url.scheme), '/' ∉ s.toList := by
    intro s mem
    obtain ⟨own, inside, rfl⟩ := List.mem_map.mp mem
    have own := kept own inside
    exact (isSegment_segment _ _ (isDot_segment _ own) (isDots_segment _ own)).slash
  have divided : Text.splitAt '/' (pathText (url.withPath (first :: rest)).path) =
      "" :: (first :: rest).map (segment url.scheme) := by
    rw [path_withPath url something kept, pathText, Text.splitAt, toList_join_segments]
    rw [← List.nil_append (List.flatMap _ _), Text.pieces_flatMap_cons free (List.not_mem_nil)]
    simp
  have each : ((first :: rest).map (segment url.scheme)).map Percent.text? =
      (first :: rest).map some := by
    rw [List.map_map]
    refine List.map_congr_left fun s mem => ?_
    rw [Function.comp_apply, text?_segment url.scheme (kept s mem)]
  generalize first :: rest = segments at divided each ⊢
  rw [divided, List.map_cons, text?_empty, each, List.map_cons]

end Url

end RegistryBridge
