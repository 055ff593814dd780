import RegistryBridge.Credentials
import RegistryBridge.Proofs.Text.Encoding
import RegistryBridge.Proofs.Text.Trimming
/-!
# The token that a secret holds

Whoever stores a token may leave white space around it, a line break most of all. The token is what
is left without it. Where nothing is left, or there is no text in the first place, the error tells
which entry was looked at and what is wrong with it, and nothing of what it holds.

## Main definitions

* `Credentials.stored?`: the bytes in the entry that is asked for.
* `Credentials.Flaw`: what can be wrong with them, and the error that tells it.

## Main results

* `Credentials.token_eq_ok_iff`, `Credentials.token_eq_error_iff`: what is read, and which error
  there is, and when.
* `Credentials.token_lawful`
-/

namespace RegistryBridge.Credentials

open Text (Blank Longest isWhiteSpace trim)

variable {secret : Secret} {entry : SecretKey} {text token : String} {e : OperationError}

/-- The bytes in the entry that is asked for. -/
def stored? (secret : Secret) (entry : SecretKey) : Option ByteArray :=
  (secret.data.getD []).get? entry.entry

/-- **What can be wrong with an entry**: it is not there, it is no text, or it is white space. -/
inductive Flaw where
  | missing
  | garbled
  | blank
  deriving DecidableEq, Repr

/-- **The error that tells a flaw**, of which it needs to know the name of the entry only. -/
def Flaw.error (flaw : Flaw) (entry : String) : OperationError :=
  .configuration (match flaw with
    | missing => "Credential Secret does not contain key '" ++ entry ++ "'"
    | garbled => "Credential Secret key '" ++ entry ++ "' is not valid UTF-8"
    | blank => "Credential Secret key '" ++ entry ++ "' is empty")

/-- The flaw is in what is stored. -/
def Flaw.In (stored : Option ByteArray) : Flaw → Prop
  | missing => stored = none
  | garbled => ∃ bytes, stored = some bytes ∧ ¬ ∃ text : String, bytes = text.toUTF8
  | blank => ∃ text : String, stored = some text.toUTF8 ∧ Blank text.toList

theorem about_missing (key : String) :
    about "does not contain key" key "" = Flaw.missing.error key := by
  simp [about, Flaw.error, String.append_assoc]

theorem about_garbled (key : String) :
    about "key" key " is not valid UTF-8" = Flaw.garbled.error key := by
  simp [about, Flaw.error, String.append_assoc]

theorem about_blank (key : String) : about "key" key " is empty" = Flaw.blank.error key := by
  simp [about, Flaw.error, String.append_assoc]

/-- The entry that is asked for, unless it is not named. -/
theorem entry_eq (entry : SecretKey) :
    entry.entry = if entry.key.getD "" = "" then "token" else entry.key.getD "" := by
  unfold SecretKey.entry
  cases entry.key with
  | none => rfl
  | some key => rfl

/-- What is stored has a flaw, or is a text with something in it. -/
theorem flawed_or_text (stored : Option ByteArray) :
    (∃ flaw : Flaw, flaw.In stored) ∨
      ∃ text : String, stored = some text.toUTF8 ∧ ¬ Blank text.toList := by
  cases stored with
  | none => exact .inl ⟨.missing, rfl⟩
  | some bytes =>
    by_cases encoded : ∃ text : String, bytes = text.toUTF8
    · obtain ⟨text, rfl⟩ := encoded
      by_cases blank : Blank text.toList
      · exact .inl ⟨.blank, text, rfl, blank⟩
      · exact .inr ⟨text, rfl, blank⟩
    · exact .inl ⟨.garbled, bytes, rfl, encoded⟩

/-! ## What is read -/

/-- **A flaw is told** by its error. -/
theorem token_of_flaw {flaw : Flaw} (h : flaw.In (stored? secret entry)) :
    Credentials.token secret entry = .error (flaw.error entry.entry) := by
  unfold Credentials.token
  cases flaw with
  | missing =>
    rw [Flaw.In, stored?] at h
    simp only [h, about_missing]
  | garbled =>
    obtain ⟨bytes, held, garbled⟩ := h
    rw [stored?] at held
    simp only [held, Text.fromUTF8?_eq_none_iff.mpr garbled, about_garbled]
  | blank =>
    obtain ⟨text, held, blank⟩ := h
    rw [stored?] at held
    simp only [held, Text.fromUTF8?_toUTF8, if_pos (Text.trim_eq_empty_iff.mpr blank), about_blank]

/-- **Of a text with something in it** is read what is left without white space at its ends. -/
theorem token_of_text (held : stored? secret entry = some text.toUTF8)
    (something : ¬ Blank text.toList) : Credentials.token secret entry = .ok (trim text) := by
  unfold Credentials.token
  rw [stored?] at held
  simp only [held, Text.fromUTF8?_toUTF8, if_neg (mt Text.trim_eq_empty_iff.mp something)]

theorem token_eq_ok_iff :
    Credentials.token secret entry = .ok token ↔
      ∃ text : String, stored? secret entry = some text.toUTF8 ∧ ¬ Blank text.toList ∧
        token = trim text := by
  constructor
  · intro read
    rcases flawed_or_text (stored? secret entry) with ⟨flaw, found⟩ | ⟨text, held, something⟩
    · rw [token_of_flaw found] at read
      cases read
    · rw [token_of_text held something] at read
      exact ⟨text, held, something, (Except.ok.inj read).symm⟩
  · rintro ⟨text, held, something, rfl⟩
    exact token_of_text held something

theorem token_eq_error_iff :
    Credentials.token secret entry = .error e ↔
      ∃ flaw : Flaw, flaw.In (stored? secret entry) ∧ e = flaw.error entry.entry := by
  constructor
  · intro failed
    rcases flawed_or_text (stored? secret entry) with ⟨flaw, found⟩ | ⟨text, held, something⟩
    · rw [token_of_flaw found] at failed
      exact ⟨flaw, found, (Except.error.inj failed).symm⟩
    · rw [token_of_text held something] at failed
      cases failed
  · rintro ⟨flaw, found, rfl⟩
    exact token_of_flaw found

/-- The same is read of any text of which the same is left. -/
theorem token_of_trim_eq {other : Secret} {stored : String}
    (held : stored? other entry = some stored.toUTF8) (same : trim stored = trim text)
    (something : ¬ Blank text.toList) : Credentials.token other entry = .ok (trim text) := by
  have left : ¬ Blank stored.toList := by
    rwa [← Text.trim_eq_empty_iff, same, Text.trim_eq_empty_iff]
  rw [← same]
  exact token_of_text held left

/-- There is something in a text of which one character is no white space. -/
theorem not_blank_iff : ¬ Blank text.toList ↔ ∃ c ∈ text.toList, isWhiteSpace c = false := by
  simp [Blank]

/-- **What token a secret holds.** The entry is the one that is named, or that for tokens where none
is. A token is read exactly if the entry is there and is a text of which some character is no white
space. It is the longest part of the text without white space at its ends. Any white space in front of
the text or behind it makes no difference, and a token that is stored itself is read as it is. In every
other case there is a configuration error, and what it says is a matter of the entry's name and of what
is wrong. -/
theorem token_lawful (secret : Secret) (entry : SecretKey) :
    (entry.entry = if entry.key.getD "" = "" then "token" else entry.key.getD "") ∧
      ((∃ token, Credentials.token secret entry = .ok token) ↔
        ∃ text : String, stored? secret entry = some text.toUTF8 ∧
          ∃ c ∈ text.toList, isWhiteSpace c = false) ∧
      (∀ token, Credentials.token secret entry = .ok token →
        ∃ text : String, stored? secret entry = some text.toUTF8 ∧ Longest text token ∧
          (∀ front back : String, Blank front.toList → Blank back.toList → ∀ other,
            stored? other entry = some (front ++ text ++ back).toUTF8 →
              Credentials.token other entry = .ok token) ∧
          ∀ other, stored? other entry = some token.toUTF8 →
            Credentials.token other entry = .ok token) ∧
      ∀ e, Credentials.token secret entry = .error e ↔
        ∃ flaw : Flaw, flaw.In (stored? secret entry) ∧ e = flaw.error entry.entry := by
  refine ⟨entry_eq entry, ?_, fun token read => ?_, fun e => token_eq_error_iff⟩
  · simp only [token_eq_ok_iff, ← not_blank_iff]
    constructor
    · rintro ⟨_, text, held, something, -⟩
      exact ⟨text, held, something⟩
    · rintro ⟨text, held, something⟩
      exact ⟨_, text, held, something, rfl⟩
  · obtain ⟨text, held, something, rfl⟩ := token_eq_ok_iff.mp read
    refine ⟨text, held, Text.longest_trim text, fun front back blank blank' other padded => ?_,
      fun other kept => ?_⟩
    · exact token_of_trim_eq padded (Text.trim_padded blank blank' text) something
    · exact token_of_trim_eq kept (Text.trim_trim text) something

/-- A secret with some text for its token. -/
def holding (text : String) : Secret where
  metadata := { name := some "quay" }
  data := some [("token", text.toUTF8)]

/-- An entry that is not named. -/
def unnamed : SecretKey where
  name := "quay"
  ns := "shop"
  key := some ""

theorem stored?_holding (text : String) : stored? (holding text) unnamed = some text.toUTF8 :=
  rfl

/-- A token with a blank in it, and white space of several kinds around it. -/
theorem token_lawful_spaced :
    Credentials.token (holding "\u2003pass word\n") unnamed = .ok "pass word" ∧
      Longest "\u2003pass word\n" "pass word" ∧
      Credentials.token (holding ("\t" ++ "\u2003pass word\n" ++ "\u00a0")) unnamed =
        .ok "pass word" ∧
      Credentials.token (holding "pass word") unnamed = .ok "pass word" ∧
      Credentials.token (holding " \n") unnamed =
        .error (.configuration "Credential Secret key 'token' is empty") := by
  have read : Credentials.token (holding "\u2003pass word\n") unnamed = .ok "pass word" := by
    decide +kernel
  obtain ⟨text, held, longest, padded, kept⟩ := (token_lawful _ _).2.2.1 _ read
  obtain rfl : "\u2003pass word\n" = text :=
    String.toByteArray_inj.mp (Option.some.inj ((stored?_holding _).symm.trans held))
  refine ⟨read, longest, ?_, kept _ (stored?_holding _), ?_⟩
  · exact padded "\t" "\u00a0" (by decide) (by decide) _ (stored?_holding _)
  · exact ((token_lawful _ _).2.2.2 _).mpr ⟨.blank, ⟨_, stored?_holding _, by decide⟩, rfl⟩

end RegistryBridge.Credentials
