import RegexExplainer.CommandLine.Execute
import RegexExplainer.Proofs.Text.Decode

/- The content of a run: its bytes may be broken, but what is valid in them is kept, and a file is
read as a pipe is. -/
namespace RegexExplainer

namespace Text

/-- Broken bytes harm no valid text on either side of them. -/
theorem decode_between (s t : Text) (bytes : List UInt8) :
    decode (encode s ++ bytes ++ encode t) = s ++ decode bytes ++ t :=
  readAs_iff.mp (((readAs_iff.mpr rfl).encode_append s).append_encode t)

end Text

namespace Config

variable {c : Config} {w : Surroundings} {path : Text} {bytes : List UInt8}

theorem content_of_piped (h : c.file = none) : c.content w = .ok (Text.decode w.input) := by
  rw [content, h]

theorem content_of_file (h : c.file = some path) (hread : w.readFile path = some bytes) :
    c.content w = .ok (Text.decode bytes) := by
  rw [content, h]
  simp only [hread]

/-- The same run with these bytes piped in and no file named. -/
def piped (c : Config) (w : Surroundings) (bytes : List UInt8) : Except Text Text :=
  { c with file := none }.content { w with input := bytes }

theorem piped_eq (c : Config) (w : Surroundings) (bytes : List UInt8) :
    c.piped w bytes = .ok (Text.decode bytes) :=
  content_of_piped rfl

/-- Content never fails to be read. Of the text that is read, valid text around any bytes is kept,
the text is read as itself again, and each maximal invalid part of the bytes is one replacement;
a file that holds the bytes gives the text that they give when piped in. -/
theorem content_keeps_valid_text (c : Config) (w : Surroundings) (bytes : List UInt8) :
    ∃ content : Text, c.piped w bytes = .ok content ∧
      (∀ s t : Text, c.piped w (Text.encode s ++ bytes ++ Text.encode t) =
        .ok (s ++ content ++ t)) ∧
      (∀ s : Text, c.piped w (Text.encode s) = .ok s) ∧
      c.piped w (Text.encode content) = .ok content ∧
      (∀ u : Text, Text.ReadAs bytes u ↔ u = content) ∧
      ∀ path, c.file = some path → w.readFile path = some bytes →
        c.content w = c.piped w bytes := by
  refine ⟨Text.decode bytes, piped_eq c w bytes, ?_, ?_, ?_, ?_, ?_⟩
  · intro s t
    rw [piped_eq, Text.decode_between]
  · intro s
    rw [piped_eq, Text.decode_encode]
  · rw [piped_eq, Text.decode_encode]
  · intro u
    rw [Text.readAs_iff, eq_comm]
  · intro path hfile hread
    rw [content_of_file hfile hread, piped_eq]

end Config

def Config.ofNotes : Config := ⟨[], some "notes".toList, .auto, false⟩

/-- The only file breaks off within a character. -/
def Surroundings.brokenOff : Surroundings := ⟨[], fun _ => some [0xE2, 0x82], [], false⟩

theorem Config.content_of_brokenOff :
    Config.ofNotes.file = some "notes".toList ∧
      Surroundings.brokenOff.readFile "notes".toList = some [0xE2, 0x82] ∧
      Config.ofNotes.content .brokenOff = .ok [Text.replacement] ∧
      Config.ofNotes.piped .brokenOff (Text.encode ['é'] ++ [0xE2, 0x82] ++ Text.encode ['€']) =
        .ok ['é', Text.replacement, '€'] := by
  obtain ⟨content, hpiped, haround, -, -, -, hfile⟩ :=
    Config.content_keeps_valid_text .ofNotes .brokenOff [0xE2, 0x82]
  obtain rfl : [Text.replacement] = content := by
    rw [Config.piped_eq] at hpiped
    exact Except.ok.inj hpiped
  exact ⟨rfl, rfl, (hfile "notes".toList rfl rfl).trans hpiped, haround ['é'] ['€']⟩

end RegexExplainer
