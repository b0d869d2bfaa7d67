import Showcase.Proofs.Action
import Showcase.Proofs.ConfigForm

namespace Showcase

namespace FileContent

def text? : FileContent → Option String
  | bytes content => String.fromUTF8? content
  | missing | unreadable _ => none

/-- Why a file that is there gives no text. -/
def reason? : FileContent → Option String
  | missing => none
  | unreadable reason => some reason
  | bytes content => if (String.fromUTF8? content).isNone then some notUTF8 else none

theorem exists_reason {file : FileContent} (hthere : file ≠ .missing) (h : file.text? = none) :
    ∃ reason, file.reason? = some reason := by
  cases file with
  | missing => exact absurd rfl hthere
  | unreadable reason => exact ⟨reason, rfl⟩
  | bytes content => exact ⟨notUTF8, if_pos (Option.isNone_iff_eq_none.2 h)⟩

theorem text?_toUTF8 (text : String) : (bytes text.toUTF8).text? = some text := by
  rw [text?]
  simp only [String.fromUTF8?, String.toUTF8_eq_toByteArray]
  exact dif_pos text.isValidUTF8

end FileContent

namespace Config

variable {wording : Wording} {path : String} {file : FileContent} {text : String}

theorem ofText_of_decode {d : Document} {c : Config}
    (hd : Document.ofText Document.maxLevels text = (d, true)) (hc : decode .text d = .ok c) :
    ofText text = .ok c := by
  rw [ofText, Decoder.ofText_eq_ok_iff, hd]
  exact ⟨rfl, hc⟩

theorem read_ok {c : Config} (h : file.text? = some text) (hc : ofText text = .ok c) :
    read wording path file = .ok (some c) := by
  cases file with
  | missing | unreadable => cases h
  | bytes content =>
    rw [FileContent.text?] at h
    simp only [read, h, hc]

theorem read_malformed {e : ReadError} (h : file.text? = some text) (he : ofText text = .error e) :
    read wording path file = .error (.malformed path ⟨e, wording text e⟩) := by
  cases file with
  | missing | unreadable => cases h
  | bytes content =>
    rw [FileContent.text?] at h
    simp only [read, h, he]

theorem read_no_text {reason : String} (h : file.reason? = some reason) :
    read wording path file = .error (.unreadable path reason) := by
  cases file with
  | missing => cases h
  | unreadable _ =>
    obtain rfl := Option.some.inj h
    rfl
  | bytes content =>
    rw [FileContent.reason?, Option.ite_none_right_eq_some, Option.isNone_iff_eq_none] at h
    obtain ⟨hnone, hreason⟩ := h
    obtain rfl := Option.some.inj hreason
    rw [read, hnone]

/-- What reading the file gives, the configuration in use after loading it, and what is logged. -/
structure LoadsTo (wording : Wording) (path : String) (file : FileContent)
    (result : Except ConfigError (Option Config)) (c : Config) (events : List LogEvent) : Prop where
  read : read wording path file = result
  load : ∀ {σ : Type} (s : Session σ),
    (load wording path file).perform s = (c, { s with log := s.log ++ events })

theorem loadsTo_ok {c : Option Config} (h : read wording path file = .ok c) :
    LoadsTo wording path file (.ok c) (c.getD ⟨none, .empty, .empty, .empty⟩) [] where
  read := h
  load s := by
    rw [load, h, Action.perform_pure, List.append_nil]

/-- The file cannot be used: it is logged once and leaves the empty configuration. -/
def FailsWith (wording : Wording) (path : String) (file : FileContent) (e : ConfigError) : Prop :=
  LoadsTo wording path file (.error e) ⟨none, .empty, .empty, .empty⟩ [.configFailed e]

theorem failsWith_of_read {e : ConfigError} (h : read wording path file = .error e) :
    FailsWith wording path file e where
  read := h
  load s := by
    rw [load, h]
    rfl

/-- The file cannot be used because its text does not give a configuration. -/
def IsMalformed (wording : Wording) (path : String) (file : FileContent) (text : String) : Prop :=
  ∃ e, ofText text = .error e ∧
    FailsWith wording path file (.malformed path ⟨e, wording text e⟩)

theorem isMalformed_of_not_succeeds (h : file.text? = some text) (hbad : ¬ Succeeds (ofText text)) :
    IsMalformed wording path file text := by
  obtain ⟨e, he⟩ := not_succeeds_iff.1 hbad
  exact ⟨e, he, failsWith_of_read (read_malformed h he)⟩

/-- A file counts as a whole or not at all, and only a file that is there and of no use is logged. -/
theorem loads_whole_or_nothing (wording : Wording) (path : String) (file : FileContent) :
    (∀ text c, file.text? = some text → ofText text = .ok c →
      LoadsTo wording path file (.ok (some c)) c []) ∧
    (file = .missing →
      LoadsTo wording path file (.ok none) ⟨none, .empty, .empty, .empty⟩ []) ∧
    (file ≠ .missing → file.text? = none → ∃ reason, file.reason? = some reason ∧
      FailsWith wording path file (.unreadable path reason)) ∧
    (∀ text, file.text? = some text → ¬ Succeeds (ofText text) →
      IsMalformed wording path file text) ∧
    (∀ e, (LogEvent.configFailed e).level = .warn) ∧
    ∀ text, file.text? = some text →
      (Succeeds (ofText text) ↔ (Document.ofText Document.maxLevels text).2 = true ∧
        Fits (Document.ofText Document.maxLevels text).1) ∧
      ∀ entries name form v, entries? (Document.ofText Document.maxLevels text).1 = some entries →
        (some name, v) ∈ entries → (name, form) ∈ fields → form.Misfit v →
        IsMalformed wording path file text := by
  refine ⟨fun text c h hc ↦ loadsTo_ok (read_ok h hc), ?_, fun hthere h ↦ ?_,
    fun text h hbad ↦ isMalformed_of_not_succeeds h hbad, fun _ ↦ rfl,
    fun text h ↦ ⟨succeeds_ofText, ?_⟩⟩
  · intro hmissing
    subst hmissing
    have hread : read wording path .missing = .ok none := rfl
    exact loadsTo_ok hread
  · obtain ⟨reason, hreason⟩ := FileContent.exists_reason hthere h
    exact ⟨reason, hreason, failsWith_of_read (read_no_text hreason)⟩
  · intro entries name form v hentries hv hform hmisfit
    have hbad : ¬ Succeeds (ofText text) := fun hgood ↦
      not_fits_of_misfit hentries hv hform hmisfit (succeeds_ofText.1 hgood).2
    exact isMalformed_of_not_succeeds h hbad

section LocaleFile

def localeText : String := "\x7b\"plugins\": \x7b\"locale\": \"en\"\x7d\x7d"

/-- The choices of a size are a list. -/
def listedText : String :=
  "\x7b\"plugins\": \x7b\"locale\": \"en\"\x7d, \"enums\": \x7b\"Button\": \x7b\"size\": [\"sm\"]\x7d\x7d\x7d"

/-- The reader stops before the list. -/
def listedWords : Wording := fun _ _ ↦
  "invalid type: sequence, expected a map at line 1 column 59"

def localeConfig : Config := { plugins := .ofList [("locale", .string "en")] }

theorem listed_choices_spoil_locale :
    LoadsTo listedWords "docent.json" (.bytes localeText.toUTF8) (.ok (some localeConfig))
      localeConfig [] ∧
    LoadsTo listedWords "docent.json" .missing (.ok none) ⟨none, .empty, .empty, .empty⟩ [] ∧
    FailsWith listedWords "docent.json" (.bytes ⟨#[0xff]⟩)
      (.unreadable "docent.json" FileContent.notUTF8) ∧
    IsMalformed listedWords "docent.json" (.bytes listedText.toUTF8) listedText := by
  have hread : Document.ofText Document.maxLevels localeText =
      (.object [(some "plugins", .object [(some "locale", .string "en")])], true) := by cbv
  have hlocale : ofText localeText = .ok localeConfig := ofText_of_decode hread rfl
  have hlisted : entries? (Document.ofText Document.maxLevels listedText).1 =
      some [(some "plugins", .object [(some "locale", .string "en")]),
        (some "enums", .object [(some "Button",
          .object [(some "size", .array [.string "sm"])])])] := by cbv
  -- The list stands two levels below the entry of the field.
  have hmisfit : (Form.map (.map (.map .value))).Misfit
      (.object [(some "Button", .object [(some "size", .array [.string "sm"])])]) :=
    .entry (List.mem_singleton_self _) (.entry (List.mem_singleton_self _) (.kind (by simp)))
  obtain ⟨hgood, -⟩ := loads_whole_or_nothing listedWords "docent.json" (.bytes localeText.toUTF8)
  obtain ⟨-, hmissing, -⟩ := loads_whole_or_nothing listedWords "docent.json" .missing
  obtain ⟨-, -, hunreadable, -⟩ :=
    loads_whole_or_nothing listedWords "docent.json" (.bytes ⟨#[0xff]⟩)
  obtain ⟨-, -, -, -, -, hspoilt⟩ :=
    loads_whole_or_nothing listedWords "docent.json" (.bytes listedText.toUTF8)
  refine ⟨hgood _ _ (FileContent.text?_toUTF8 _) hlocale, hmissing rfl, ?_, ?_⟩
  · obtain ⟨reason, hreason, hfails⟩ := hunreadable (by simp) (by decide)
    obtain rfl : FileContent.notUTF8 = reason := Option.some.inj hreason
    exact hfails
  · exact (hspoilt _ (FileContent.text?_toUTF8 _)).2 _ "enums" (.map (.map (.map .value))) _ hlisted
      (by simp) (by simp [fields]) hmisfit

end LocaleFile

end Config

end Showcase
