import RuleSheet.CommandLine.Convert
import RuleSheet.Proofs.Regression.Canonical
import RuleSheet.Proofs.Regression.Update

/-!
# What a conversion leaves in a file

Code reaches a file in two ways.  The command that converts a sheet writes it with a line feed at
the end, and a regression case gives it in canonical form.  The file that the command leaves has
this same canonical form, so a case that passes says something about what is delivered.

## Main results

* `RuleSheet.Regression.canonical_fileText` — the line feed at the end of a file does not count.
* `RuleSheet.CommandLine.convert_eq_ok_iff` — everything that the command does.
* `RuleSheet.CommandLine.convert_delivers_case` — the file that the command leaves has the code of a
  case with the same options and the same sheet.
-/

set_option autoImplicit false

namespace RuleSheet

open Text

/-! ### Complete lines -/

namespace Regression

/-- A carriage return at the end of a line is white space. -/
lemma trimEnd_dropReturn (t : Text) : trimEnd (dropReturn t) = trimEnd t := by
  unfold dropReturn
  split
  next hlast =>
    obtain ⟨front, rfl⟩ := List.getLast?_eq_some_iff.mp hlast
    rw [List.dropLast_concat]
    exact (List.rdropWhile_concat_pos isBlank front '\r' (by decide)).symm
  next => rfl

/-- With white space at their ends taken away, the lines among pieces are the pieces, up to an empty
one at the end. -/
lemma map_trimEnd_linesOfPieces {pieces : List Text} (hne : pieces ≠ []) :
    pieces.map trimEnd = (linesOfPieces pieces).map trimEnd ∨
      pieces.map trimEnd = (linesOfPieces pieces).map trimEnd ++ [[]] := by
  induction pieces with
  | nil => exact absurd rfl hne
  | cons piece pieces ih =>
    cases pieces with
    | nil =>
      rw [linesOfPieces]
      split
      next hempty => exact .inr (by rw [hempty]; rfl)
      next => exact .inl rfl
    | cons next pieces =>
      have hlines : (linesOfPieces (piece :: next :: pieces)).map trimEnd =
          trimEnd piece :: (linesOfPieces (next :: pieces)).map trimEnd := by
        rw [linesOfPieces, List.map_cons, trimEnd_dropReturn]
        simp
      rw [hlines, List.map_cons]
      rcases ih (by simp) with heq | heq
      · exact .inl (by rw [heq])
      · exact .inr (by rw [heq]; rfl)

/-- **A line feed at the end does not count.** -/
lemma canonical_concat_newline (t : Text) : canonical (t ++ ['\n']) = canonical t := by
  have hmarks : dropByteOrderMarks (t ++ ['\n']) = dropByteOrderMarks t ++ ['\n'] := by
    rw [dropByteOrderMarks, trimStartBy, List.dropWhile_append]
    split
    next hall => simp [dropByteOrderMarks, trimStartBy, List.isEmpty_iff.mp hall]
    next => rfl
  have hlines : (lines (dropByteOrderMarks t ++ ['\n'])).map trimEnd =
      ((dropByteOrderMarks t).splitOn '\n').map trimEnd := by
    rw [lines_concat_newline, List.map_map]
    exact List.map_congr_left fun line _ => trimEnd_dropReturn line
  have hbody :
      trimEndBy (· = '\n') (join ['\n'] ((lines (dropByteOrderMarks t ++ ['\n'])).map trimEnd)) =
        trimEndBy (· = '\n') (join ['\n'] ((lines (dropByteOrderMarks t)).map trimEnd)) := by
    rw [hlines]
    rcases map_trimEnd_linesOfPieces (List.splitOn_ne_nil '\n' (dropByteOrderMarks t)) with
      heq | heq
    · rw [heq, lines]
    · rw [heq, trimEndBy_join_concat_nil, lines]
  rw [canonical, hmarks, hbody, canonical]

/-- **Code in a file has the canonical form of the code.** -/
lemma canonical_fileText (code : Text) :
    canonical (CommandLine.fileText code) = canonical code := by
  unfold CommandLine.fileText
  split
  next hempty => rw [hempty]
  next => exact canonical_concat_newline code

end Regression

/-! ### Writing code -/

/-- Whether a file can be written does not depend on its content. -/
lemma FileTree.isOk_writeContent (tree : FileTree) (path : Text) (content content' : Content) :
    (tree.writeContent path content).isOk = (tree.writeContent path content').isOk := by
  unfold writeContent
  split
  · rfl
  · cases tree.locate path with
    | error failure => rfl
    | ok place =>
      dsimp only [bind, Except.bind]
      split <;> rfl

namespace CommandLine

open FileTree Regression

variable {tree tree' : FileTree} {path code : Text}

/-- What was written can be read. -/
lemma read_of_writeCode (h : writeCode tree path code = .ok tree') :
    tree'.read path = .ok (fileText code) := by
  obtain ⟨made, -, hwrite⟩ := Except.bind_eq_ok_iff.mp h
  exact (read_eq_ok_iff tree' path _).mpr (contentAt_of_writeContent hwrite)

/-- Whether code can be written does not depend on the code. -/
lemma isOk_writeCode (tree : FileTree) (path code code' : Text) :
    (writeCode tree path code).isOk = (writeCode tree path code').isOk := by
  unfold writeCode
  cases tree.makeFolders ((Path.parent? path).getD []) with
  | error failure => rfl
  | ok made => exact made.isOk_writeContent path _ _

/-! ### The command -/

/-- **Everything that the command does**: it reads the sheet, makes a converter with the options in
effect, and writes the code. -/
lemma convert_eq_ok_iff {console : Console} {stdin : Option Content} {s : Settings}
    {r : ConvertRequest} {shown : Text} {after : FileTree} :
    convert console tree stdin s r = .ok (shown, after) ↔
      ∃ content converter, readSheet tree stdin (s.override r).inputFile = .ok content ∧
        Converter.new tree (s.override r).options = .ok converter ∧
        writeOutput tree (s.override r).outputFile
          (converter.run tree (Line.ofSheet content)).1.render = .ok after ∧
        shown = convertMessages console (s.override r).outputFile r.report
          (converter.run tree (Line.ofSheet content)).1 := by
  unfold convert
  simp only [Except.bind_eq_ok_iff, Except.mapError_eq_ok_iff]
  constructor
  · rintro ⟨content, hcontent, converter, hnew, made, hwrite, heq⟩
    obtain ⟨rfl, rfl⟩ := Prod.mk.inj (Except.ok.inj heq)
    exact ⟨content, converter, hcontent, hnew, hwrite, rfl⟩
  · rintro ⟨content, converter, hcontent, hnew, hwrite, rfl⟩
    exact ⟨content, hcontent, converter, hnew, after, hwrite, rfl⟩

/-- **The file that the command leaves has the code of a case.**  Let a request have an output file,
and a case have the options in effect and a sheet with the same content.  Then what the command
writes to the file has the code of the case as its canonical form, in every format of the console;
and the command succeeds exactly if the case can be converted and the file can be written. -/
theorem convert_delivers_case (console : Console) {stdin : Option Content} {s : Settings}
    {r : ConvertRequest} {case : Case} {out content : Text}
    (hout : (s.override r).outputFile = some out)
    (hoptions : case.description.options = (s.override r).options)
    (hsheet : readSheet tree stdin (s.override r).inputFile = .ok content)
    (hcase : tree.read case.inputPath = .ok content) :
    (∀ shown after, convert console tree stdin s r = .ok (shown, after) →
      ∃ written, after.read out = .ok written ∧ convertCase tree case = .ok (canonical written)) ∧
    ((convert console tree stdin s r).isOk = true ↔
      (convertCase tree case).isOk = true ∧ (writeCode tree out []).isOk = true) := by
  -- the command and the case make the same converter, and it runs on the same lines
  have hdelivered : ∀ converter, Converter.new tree (s.override r).options = .ok converter →
      convertCase tree case =
        .ok (canonical (converter.run tree (Line.ofSheet content)).1.render) := by
    intro converter hnew
    exact convertCase_eq_ok_iff.mpr ⟨content, converter, hcase, hoptions ▸ hnew, rfl⟩
  refine ⟨fun shown after h => ?_, ?_⟩
  · obtain ⟨content', converter, hcontent, hnew, hwrite, -⟩ := convert_eq_ok_iff.mp h
    obtain rfl : content' = content := Except.ok.inj (hcontent.symm.trans hsheet)
    rw [hout] at hwrite
    refine ⟨_, read_of_writeCode (Except.mapError_eq_ok_iff.mp hwrite), ?_⟩
    rw [canonical_fileText]
    exact hdelivered converter hnew
  · rw [Except.isOk_iff, Except.isOk_iff]
    constructor
    · rintro ⟨⟨shown, after⟩, h⟩
      obtain ⟨content', converter, hcontent, hnew, hwrite, -⟩ := convert_eq_ok_iff.mp h
      rw [hout] at hwrite
      refine ⟨⟨_, hdelivered converter hnew⟩, ?_⟩
      rw [isOk_writeCode tree out [] _, Except.mapError_eq_ok_iff.mp hwrite]
      rfl
    · rintro ⟨⟨text, htext⟩, hwritable⟩
      obtain ⟨_, converter, -, hnew, -⟩ := convertCase_eq_ok_iff.mp htext
      rw [isOk_writeCode tree out [] (converter.run tree (Line.ofSheet content)).1.render,
        Except.isOk_iff] at hwritable
      obtain ⟨after, hafter⟩ := hwritable
      refine ⟨⟨_, after⟩,
        convert_eq_ok_iff.mpr ⟨content, converter, hsheet, hoptions ▸ hnew, ?_, rfl⟩⟩
      rw [hout]
      exact Except.mapError_eq_ok_iff.mpr hafter

/-- A sheet with a carriage return and an empty line. -/
def deskSheet : Text := "項目「D\\区分」＝３。 \r\n\n"

/-- The sheet, and a case with the same sheet. -/
def deskFiles : FileTree := ⟨.ofList
  [("rules.txt", .file (.text deskSheet)), ("cases/a/input.txt", .file (.text deskSheet))]⟩

/-- The case. -/
def deskCase : Case := { name := "a", folder := "cases/a", description := { description := "d" } }

/-- A request for the sheet, with an output file in a folder that is not there yet. -/
def deskRequest : ConvertRequest := { input := some "rules.txt", out := some "code/Rules.java" }

/-- For a machine that reads the console, the sheet is converted to the code of the case. -/
theorem convert_delivers_case_desk :
    (Settings.override {} deskRequest).outputFile = some ("code/Rules.java" : Text) ∧
      deskCase.description.options = (Settings.override {} deskRequest).options ∧
      readSheet deskFiles none (Settings.override {} deskRequest).inputFile = .ok deskSheet ∧
      deskFiles.read deskCase.inputPath = .ok deskSheet ∧
      convertCase deskFiles deskCase = .ok "this.D区分 = 3;\n" ∧
      ∃ shown after written,
        convert { format := .json } deskFiles none {} deskRequest = .ok (shown, after) ∧
        after.read "code/Rules.java" = .ok written ∧ canonical written = "this.D区分 = 3;\n" := by
  have hsheet : readSheet deskFiles none (Settings.override {} deskRequest).inputFile =
      .ok deskSheet := by decide +kernel
  have hread : deskFiles.read deskCase.inputPath = .ok deskSheet := by decide +kernel
  have hcode : convertCase deskFiles deskCase = .ok "this.D区分 = 3;\n" := by decide +kernel
  obtain ⟨hdelivers, hsucceeds⟩ :=
    convert_delivers_case { format := .json } rfl rfl hsheet hread
  obtain ⟨⟨shown, after⟩, hrun⟩ :=
    Except.isOk_iff.mp (hsucceeds.mpr ⟨by rw [hcode]; rfl, by decide +kernel⟩)
  obtain ⟨written, hwritten, hcase⟩ := hdelivers shown after hrun
  exact ⟨rfl, rfl, hsheet, hread, hcode, shown, after, written, hrun, hwritten,
    (Except.ok.inj (hcode.symm.trans hcase)).symm⟩

end CommandLine

end RuleSheet
