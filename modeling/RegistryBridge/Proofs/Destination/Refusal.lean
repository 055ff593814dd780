import RegistryBridge.Pass.BuildPass
import RegistryBridge.Proofs.Destination.Reading
/-!
# What is told about a text that is no destination

A text is refused for the number of its pieces, or because one of the right number of pieces is
empty. Both are told in the same words and with the number of pieces, so the second kind of refusal
names a number that is what it should be.

## Main definitions

* `Destination.Gap`, `Destination.GapWithin`: one colon, or one slash and one colon, but a part is
  missing.
* `DestinationError.Counts`: an error whose number of pieces is indeed another one than is expected.

## Main results

* `Destination.ofOutput_eq_error_iff`, `Destination.parse_eq_error_iff`: what is refused, and with
  which error.
* `Destination.counts_ofOutput_iff`, `Destination.counts_parse_iff`: when the number is wrong.
* `Destination.refusal_counts_iff`: the same, up to the failure that a pass reports.
-/

namespace RegistryBridge

/-- **An error that tells of a real discrepancy**: it has not found the number of pieces that it
expects. -/
def DestinationError.Counts (e : DestinationError) : Prop :=
  e.actual ≠ e.expected

instance (e : DestinationError) : Decidable e.Counts :=
  inferInstanceAs (Decidable (e.actual ≠ e.expected))

namespace Destination

variable {ns nameTag value : String} {d : Destination} {e : DestinationError}

/-- **A part is missing**: the name and the tag are divided by the only colon, but one of them is
empty, or the namespace is. -/
def Gap (ns nameTag : String) : Prop :=
  ∃ name tag : String, nameTag = name ++ ":" ++ tag ∧ ':' ∉ name.toList ∧ ':' ∉ tag.toList ∧
    (ns = "" ∨ name = "" ∨ tag = "")

/-- The same of a whole text, whose only slash divides the namespace from the rest. -/
def GapWithin (value : String) : Prop :=
  ∃ ns nameTag : String, value = ns ++ "/" ++ nameTag ∧ '/' ∉ ns.toList ∧ '/' ∉ nameTag.toList ∧
    Gap ns nameTag

/-! ## What is refused -/

/-- **What is refused as a name and tag**: all but one colon, and a missing part. Either is told with
the number of pieces. -/
theorem ofOutput_eq_error_iff :
    ofOutput ns nameTag = .error e ↔
      e = .nameTag nameTag (nameTag.toList.count ':' + 1) ∧
        (nameTag.toList.count ':' ≠ 1 ∨ Gap ns nameTag) := by
  constructor
  · intro refused
    refine ⟨eq_of_ofOutput_eq_error refused, ?_⟩
    unfold ofOutput at refused
    split at refused
    · rename_i name tag split
      obtain ⟨whole, hname, htag⟩ := Text.splitAt_eq_pair_iff.mp split
      split at refused
      · rename_i empty
        have written : nameTag = name ++ ":" ++ tag :=
          String.toList_injective (by simp [whole])
        exact .inr ⟨name, tag, written, hname, htag, empty⟩
      · cases refused
    · rename_i other
      refine .inl fun one => ?_
      have two : (Text.splitAt ':' nameTag).length = 2 := by rw [Text.length_splitAt, one]
      obtain ⟨name, tag, split⟩ := List.length_eq_two.mp two
      exact other name tag split
  · rintro ⟨rfl, many | ⟨name, tag, rfl, hname, htag, empty⟩⟩
    · cases read : ofOutput ns nameTag with
      | error e => rw [eq_of_ofOutput_eq_error read]
      | ok d =>
        -- What is read has one colon only.
        obtain ⟨-, rfl, named⟩ := ofOutput_eq_ok_iff.mp read
        refine absurd ?_ many
        rw [toList_nameTag, List.count_append, List.count_cons_self,
          List.count_eq_zero.mpr named.colon.1, List.count_eq_zero.mpr named.colon.2]
    · have split : Text.splitAt ':' (name ++ ":" ++ tag) = [name, tag] :=
        Text.splitAt_eq_pair_iff.mpr ⟨by simp, hname, htag⟩
      have two : (name ++ ":" ++ tag).toList.count ':' + 1 = 2 := by
        rw [← Text.length_splitAt, split]
        rfl
      rw [two]
      simp only [ofOutput, split, if_pos empty]

/-- **What is refused as a whole**: all but one slash, and else what is refused behind the slash. -/
theorem parse_eq_error_iff :
    parse value = .error e ↔
      (value.toList.count '/' ≠ 1 ∧ e = .components value (value.toList.count '/' + 1)) ∨
        ∃ ns nameTag : String, value = ns ++ "/" ++ nameTag ∧ '/' ∉ ns.toList ∧
          '/' ∉ nameTag.toList ∧ ofOutput ns nameTag = .error e := by
  unfold parse
  rw [← Nat.succ_ne_succ_iff, Nat.succ_eq_add_one, ← Text.length_splitAt]
  split
  · rename_i ns nameTag split
    obtain ⟨whole, hns, hnameTag⟩ := Text.splitAt_eq_pair_iff.mp split
    have written : value = ns ++ "/" ++ nameTag := String.toList_injective (by simp [whole])
    rw [split]
    constructor
    · exact fun refused => .inr ⟨ns, nameTag, written, hns, hnameTag, refused⟩
    · rintro (⟨several, -⟩ | ⟨ns', nameTag', rfl, hns', hnameTag', refused⟩)
      · exact absurd rfl several
      · -- There is one way only to divide the text at its slash.
        have split' : Text.splitAt '/' (ns' ++ "/" ++ nameTag') = [ns', nameTag'] :=
          Text.splitAt_eq_pair_iff.mpr ⟨by simp, hns', hnameTag'⟩
        obtain ⟨rfl, rest⟩ := List.cons.inj (split'.symm.trans split)
        obtain rfl := (List.cons.inj rest).1
        exact refused
  · rename_i other
    constructor
    · intro refused
      refine .inl ⟨fun two => ?_, (Except.error.inj refused).symm⟩
      obtain ⟨ns, nameTag, split⟩ := List.length_eq_two.mp two
      exact other ns nameTag split
    · rintro (⟨-, rfl⟩ | ⟨ns, nameTag, rfl, hns, hnameTag, -⟩)
      · rfl
      · refine absurd (Text.splitAt_eq_pair_iff.mpr ⟨?_, hns, hnameTag⟩) (other ns nameTag)
        simp

/-! ## What is told -/

/-- A missing part leaves the number of pieces as it should be. -/
theorem Gap.count_eq_one (gap : Gap ns nameTag) : nameTag.toList.count ':' = 1 := by
  obtain ⟨name, tag, rfl, hname, htag, -⟩ := gap
  simp [List.count_eq_zero.mpr hname, List.count_eq_zero.mpr htag]

/-- **A name and tag are refused with a number that is wrong** unless a part is missing. -/
theorem counts_ofOutput_iff (refused : ofOutput ns nameTag = .error e) :
    e.Counts ↔ ¬ Gap ns nameTag := by
  obtain ⟨rfl, many | gap⟩ := ofOutput_eq_error_iff.mp refused
  · constructor
    · exact fun _ gap => many gap.count_eq_one
    · intro _ two
      exact many (Nat.succ.inj two)
  · refine iff_of_false (fun counts => counts ?_) (fun none => none gap)
    exact congrArg (· + 1) gap.count_eq_one

/-- **A whole text is refused with a number that is wrong** unless a part is missing. -/
theorem counts_parse_iff (refused : parse value = .error e) : e.Counts ↔ ¬ GapWithin value := by
  rcases parse_eq_error_iff.mp refused with
    ⟨several, rfl⟩ | ⟨ns, nameTag, rfl, hns, hnameTag, behind⟩
  · refine iff_of_true (fun two => several (Nat.succ.inj two)) ?_
    rintro ⟨ns, nameTag, rfl, hns, hnameTag, -⟩
    refine several ?_
    simp [List.count_eq_zero.mpr hns, List.count_eq_zero.mpr hnameTag]
  · rw [counts_ofOutput_iff behind, not_iff_not]
    constructor
    · exact fun gap => ⟨ns, nameTag, rfl, hns, hnameTag, gap⟩
    · rintro ⟨ns', nameTag', same, hns', hnameTag', gap⟩
      have sides : ns.toList ++ '/' :: nameTag.toList = ns'.toList ++ '/' :: nameTag'.toList := by
        simpa using congrArg String.toList same
      obtain ⟨left, right⟩ := (Text.append_first_inj hns hns').mp sides
      rw [String.toList_injective left, String.toList_injective right]
      exact gap

end Destination

namespace BuildPass

open Destination (GapWithin)

variable {b : Build} {raw : String} {e : DestinationError}

/-- **A pass over a build whose destination is refused** fails at once, and reports so. -/
theorem pass_of_refused (phase : BuildPhase.of b = .ready)
    (aim : b.metadata.note? Marks.destination = some raw)
    (refused : Destination.parse raw = .error e) :
    pass b = .ask (.publish (Event.ofFailure (destinationFailure b raw e)))
      fun (_ : Unit) => .done (.error (destinationFailure b raw e)) := by
  unfold pass step
  rw [phase]
  dsimp only
  rw [aim]
  dsimp only
  rw [refused]
  rfl

theorem expected_destinationFailure (b : Build) (raw : String) (e : DestinationError) :
    (destinationFailure b raw e).detail? "Expected Size" = some (toString e.expected) := by
  rfl

theorem actual_destinationFailure (b : Build) (raw : String) (e : DestinationError) :
    (destinationFailure b raw e).detail? "Actual Size" = some (toString e.actual) := by
  rfl

/-- Sizes that are written alike are the same. -/
theorem eq_of_size {size size' : Nat} (same : toString size = toString size') : size = size' := by
  have digits : Nat.toDigits 10 size = Nat.toDigits 10 size' := by
    simpa using congrArg String.toList same
  rw [← Nat.ofDigitChars_toDigits (b := 10) (n := size) (by decide) (by decide), digits,
    Nat.ofDigitChars_toDigits (by decide) (by decide)]

end BuildPass

namespace Destination

/-- **Whether a refusal tells of a real discrepancy.** What is refused, as a name and tag or as a
whole, is told to have another number of pieces than it should exactly where no part is missing. The
two sizes that a pass over a build reports are those of the error, so they differ exactly then. Where
a part is missing, of a text with the right number of pieces, that number is told as if it were
wrong. -/
theorem refusal_counts_iff (ns nameTag value : String) (e : DestinationError) :
    (ofOutput ns nameTag = .error e → (e.Counts ↔ ¬ Gap ns nameTag)) ∧
      (Gap ns nameTag → ofOutput ns nameTag = .error (.nameTag nameTag 2)) ∧
      (parse value = .error e →
        (e.Counts ↔ ¬ GapWithin value) ∧
          ∀ b : Build, BuildPhase.of b = .ready →
            b.metadata.note? Marks.destination = some value →
              ∃ f : Failure, BuildPass.pass b = .ask (.publish (Event.ofFailure f))
                  (fun (_ : Unit) => .done (.error f)) ∧
                f.kind = .processing ∧ f.message = e.message ∧
                f.detail? "Expected Size" = some (toString e.expected) ∧
                f.detail? "Actual Size" = some (toString e.actual) ∧
                (f.detail? "Actual Size" ≠ f.detail? "Expected Size" ↔ ¬ GapWithin value)) := by
  refine ⟨counts_ofOutput_iff, fun gap => ?_, fun refused => ?_⟩
  · exact ofOutput_eq_error_iff.mpr ⟨by rw [gap.count_eq_one], .inr gap⟩
  · refine ⟨counts_parse_iff refused, fun b phase aim => ?_⟩
    refine ⟨BuildPass.destinationFailure b value e, BuildPass.pass_of_refused phase aim refused,
      rfl, rfl, BuildPass.expected_destinationFailure b value e,
      BuildPass.actual_destinationFailure b value e, ?_⟩
    rw [← counts_parse_iff refused, BuildPass.expected_destinationFailure,
      BuildPass.actual_destinationFailure]
    refine not_congr ⟨fun same => ?_, fun same => ?_⟩
    · exact BuildPass.eq_of_size (Option.some.inj same)
    · exact congrArg (fun size => some (toString size)) same

/-- A build that is complete, with some text for its destination. -/
def completeBuild (destination : String) : Build where
  metadata :=
    { name := some "app-1"
      ns := some "shop"
      annotations := some [(Marks.destination, destination), (Marks.managed, Marks.on)] }
  spec :=
    { output :=
        { target := some { kind := "DockerImage", name := "quay.example/acme_shop/cart:latest" } } }
  status := some ⟨some "Complete"⟩

/-- A tag too many, and a namespace that is missing together with its slash. -/
theorem extra_tag_counts :
    ¬ Gap "shop" "cart:latest:old" ∧ ofOutput "" "cart:latest" = .error (.nameTag "cart:latest" 2) ∧
      ¬ GapWithin "cart:latest" ∧
      ∃ f : Failure, BuildPass.pass (completeBuild "cart:latest") =
          .ask (.publish (Event.ofFailure f)) (fun (_ : Unit) => .done (.error f)) ∧
        f.detail? "Expected Size" = some "2" ∧ f.detail? "Actual Size" = some "1" := by
  have several : ofOutput "shop" "cart:latest:old" = .error (.nameTag "cart:latest:old" 3) := rfl
  have homeless : parse "cart:latest" = .error (.components "cart:latest" 1) := rfl
  have gap : Gap "" "cart:latest" := ⟨"cart", "latest", rfl, by decide, by decide, .inl rfl⟩
  have counts : (DestinationError.nameTag "cart:latest:old" 3).Counts := by decide
  have counts' : (DestinationError.components "cart:latest" 1).Counts := by decide
  obtain ⟨named, -, -⟩ := refusal_counts_iff "shop" "cart:latest:old" "" _
  obtain ⟨-, missing, whole⟩ := refusal_counts_iff "" "cart:latest" "cart:latest" _
  obtain ⟨real, reported⟩ := whole homeless
  obtain ⟨f, pass, -, -, expected, actual, -⟩ := reported (completeBuild "cart:latest") rfl rfl
  exact ⟨(named several).mp counts, missing gap, real.mp counts', f, pass, expected, actual⟩

/-- **A name that is missing is told as a number of pieces**, which is the one that is expected. -/
theorem missing_name_counted :
    parse "shop/:latest" = .error (.nameTag ":latest" 2) ∧
      ¬ (DestinationError.nameTag ":latest" 2).Counts ∧
      ofOutput "" "cart:latest" = .error (.nameTag "cart:latest" 2) ∧
      ∃ f : Failure, BuildPass.pass (completeBuild "shop/:latest") =
          .ask (.publish (Event.ofFailure f)) (fun (_ : Unit) => .done (.error f)) ∧
        f.message = "Unexpected number of ImageStream Name Components" ∧
        f.detail? "Expected Size" = some "2" ∧ f.detail? "Actual Size" = some "2" :=
  ⟨rfl, fun counts => counts rfl, rfl, _, rfl, rfl, rfl, rfl⟩

end Destination

end RegistryBridge
