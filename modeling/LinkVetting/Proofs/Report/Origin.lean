import LinkVetting.Proofs.Report.Channels
import LinkVetting.Proofs.Text.Encoding

/-!
# Where candidates come from

Texts may be given as arguments or on the lines of the input.  As long as each of
them fits on a line, both ways make the same candidates but for the name of their
origin, and that name is shown in the records alone.
-/

namespace LinkVetting

open Audit (Rejection Source)

/-- A text that is the whole of a line: no line feed is in it, and no carriage
return at its end would belong to the end of the line. -/
def IsLine (text : String) : Prop :=
  '\n' ∉ text.toList ∧ text.toList.getLast? ≠ some '\r'

instance (text : String) : Decidable (IsLine text) :=
  inferInstanceAs (Decidable (_ ∧ _))

section

variable {text : String}

theorem IsLine.lineFeed_notMem (fits : IsLine text) :
    0x0A ∉ Text.Utf8.encode text.toList :=
  fun member => fits.1 (Text.Utf8.lineFeed_mem_of_encode member)

theorem IsLine.dropReturn_encode (fits : IsLine text) :
    Text.dropReturn 0x0D (Text.Utf8.encode text.toList) = Text.Utf8.encode text.toList :=
  Text.dropReturn_of_getLast? fun last => fits.2 (Text.Utf8.getLast?_of_encode last)

end

namespace Candidate

/-- An input holds texts one per line.  A line ends with a line feed, maybe after a
carriage return; the end of the last line may be missing. -/
inductive HoldsLines : List UInt8 → List String → Prop where
  | nil : HoldsLines [] []
  | last {text : String} : text ≠ "" → HoldsLines (Text.Utf8.encode text.toList) [text]
  | cons {text : String} {ending later : List UInt8} {texts : List String} :
      ending ∈ [[0x0A], [0x0D, 0x0A]] → HoldsLines later texts →
        HoldsLines (Text.Utf8.encode text.toList ++ ending ++ later) (text :: texts)

/-- Texts as candidates from an origin, numbered from one. -/
def ofTexts (origin : String) (texts : List String) : List Candidate :=
  (texts.zipIdx 1).map fun (text, place) => { source := s!"{origin}:{place}", value := text }

section

variable {α : Type} {make : Nat → α → Candidate} {place : Nat} {values : List α}

theorem numbered_eq :
    numbered make place values =
      (values.zipIdx place).map fun (value, place) => make place value := by
  induction values generalizing place with
  | nil => rfl
  | cons value later induction =>
      rw [numbered, induction, List.zipIdx_cons, List.map_cons]

end

section

variable {texts : List String}

theorem ofArguments_eq : ofArguments texts = ofTexts "argv" texts := by
  rw [ofArguments, numbered_eq, ofTexts]
  rfl

theorem ofLine_encode {place : Nat} {text : String} :
    ofLine place (Text.Utf8.encode text.toList) =
      { source := s!"stdin:{place}", value := text } := by
  simp only [ofLine, Text.Utf8.decode?_encode, String.ofList_toList]

theorem lines_of_holdsLines {input : List UInt8} (holds : HoldsLines input texts)
    (fit : ∀ text ∈ texts, IsLine text) :
    Text.lines 0x0A 0x0D input = texts.map fun text => Text.Utf8.encode text.toList := by
  induction holds with
  | nil => rfl
  | @last text nonempty =>
      have free := (fit text (by simp)).lineFeed_notMem
      exact Text.lines_of_notMem free (Text.Utf8.encode_ne_nil (by simpa using nonempty))
  | @cons text ending later texts ends _ induction =>
      have fits := fit text List.mem_cons_self
      have others := induction fun other member => fit other (List.mem_cons_of_mem text member)
      have free := fits.lineFeed_notMem
      rw [List.map_cons, ← others, List.append_assoc]
      simp only [List.mem_cons, List.not_mem_nil, or_false] at ends
      rcases ends with rfl | rfl
      · rw [List.singleton_append, Text.lines_append_cons free, fits.dropReturn_encode]
      · -- a line that ends with both holds the carriage return until it is dropped
        rw [List.cons_append, List.singleton_append, List.append_cons,
          Text.lines_append_cons (by simpa using free), Text.dropReturn_concat]

theorem ofBytes_of_holdsLines {input : List UInt8} (holds : HoldsLines input texts)
    (fit : ∀ text ∈ texts, IsLine text) : ofBytes input = ofTexts "stdin" texts := by
  rw [ofBytes, lines_of_holdsLines holds fit, numbered_eq, List.zipIdx_map, List.map_map,
    ofTexts]
  refine List.map_congr_left ?_
  rintro ⟨text, place⟩ _
  exact ofLine_encode

end

end Candidate

/-- The rejected ones among some texts with their places, each with the first rule
that fails on it. -/
def RuleSet.numberedRejections (set : RuleSet) (texts : List String) :
    List (Nat × Rejection) :=
  (texts.zipIdx 1).filterMap fun (text, place) =>
    (set.rules.find? fun rule => !rule.passes text).map fun rule =>
      (place, { candidate := text, rule := rule.name })

namespace Report

variable {set : RuleSet} {origin other : String} {texts : List String}

/-- What is shown of a report does not tell where its candidates come from. -/
theorem text_ofTexts {json : Bool} :
    (ofCandidates set (Candidate.ofTexts origin texts)).text json =
      (ofCandidates set (Candidate.ofTexts other texts)).text json := by
  -- a line is made from the text of its candidate alone
  simp only [text, ofCandidates, Candidate.ofTexts, List.map_map, List.flatMap_map]
  rfl

theorem checked_ofTexts :
    (ofCandidates set (Candidate.ofTexts origin texts)).checked = texts.length := by
  rw [checked_ofCandidates, Candidate.ofTexts, List.length_map, List.length_zipIdx]

theorem records_ofTexts :
    (ofCandidates set (Candidate.ofTexts origin texts)).records =
      (set.numberedRejections texts).map fun (place, rejection) =>
        ({ component := "link-guard", input := some s!"{origin}:{place}" }, rejection) := by
  rw [records_ofCandidates, RuleSet.rejections, Candidate.ofTexts, List.filterMap_map,
    RuleSet.numberedRejections, List.map_filterMap, List.map_filterMap]
  congr
  funext numbered
  obtain ⟨text, place⟩ := numbered
  simp only [Function.comp, RuleSet.rejectingRule?, if_true, Option.map_map]
  rfl

theorem rejected_ofTexts :
    (ofCandidates set (Candidate.ofTexts origin texts)).rejected =
      (set.numberedRejections texts).length := by
  rw [rejected_eq, records_ofTexts, List.length_map]

end Report

end LinkVetting
