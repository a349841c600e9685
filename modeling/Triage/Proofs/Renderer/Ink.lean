import Triage.Proofs.Renderer.Answers

namespace Triage

/-! ## Codes for colours -/

/-- The second text is the first one with codes for colours and bold type in it. -/
inductive Tinted : Chars → Chars → Prop
  | nil : Tinted [] []
  | char (char : Char) {plain painted : Chars} (rest : Tinted plain painted) :
      Tinted (char :: plain) (char :: painted)
  | code {parameters plain painted : Chars}
      (numeric : ∀ char ∈ parameters, char.isDigit = true ∨ char = ';')
      (rest : Tinted plain painted) :
      Tinted plain ('\x1b' :: '[' :: (parameters ++ 'm' :: painted))

namespace Tinted

variable {plain painted more rest : Chars}

theorem refl (chars : Chars) : Tinted chars chars := by
  induction chars with
  | nil => exact .nil
  | cons char rest induction => exact .char char induction

theorem append (first : Tinted plain painted) (second : Tinted more rest) :
    Tinted (plain ++ more) (painted ++ rest) := by
  induction first with
  | nil => exact second
  | char char _ induction => exact .char char induction
  | code numeric _ induction =>
      rw [List.cons_append, List.cons_append, List.append_assoc, List.cons_append]
      exact .code numeric induction

end Tinted

/-- A text behind a code. -/
def coded (parameters text : String) : String :=
  "\x1b[" ++ parameters ++ "m" ++ text

/-- A text, and what is written of it in colour. -/
def Tints (plain painted : String) : Prop :=
  Tinted plain.toList painted.toList

namespace Tints

variable {plain painted more rest : String}

theorem refl (text : String) : Tints text text :=
  Tinted.refl _

theorem append (first : Tints plain painted) (second : Tints more rest) :
    Tints (plain ++ more) (painted ++ rest) := by
  rw [Tints, String.toList_append, String.toList_append]
  exact Tinted.append first second

theorem code {parameters : String}
    (numeric : parameters.toList.all (fun char => char.isDigit || char == ';') = true)
    (rest : Tints plain painted) : Tints plain (coded parameters painted) := by
  have opens : "\x1b[".toList = ['\x1b', '['] := rfl
  have ends : "m".toList = ['m'] := rfl
  rw [Tints, coded, String.toList_append, String.toList_append, String.toList_append, opens, ends,
    List.append_assoc]
  exact .code (by simpa using numeric) rest

end Tints

theorem Text.isBlankText_append (first second : String) :
    isBlankText (first ++ second) = (isBlankText first && isBlankText second) := by
  rw [isBlankText, String.toList_append, List.all_append]
  rfl

theorem Text.trimEnd_append {front back : String} (filled : isBlankText back = false) :
    trimEnd (front ++ back) = front ++ trimEnd back := by
  have kept : ∃ char ∈ back.toList, isBlank char = false := by
    simpa [isBlankText] using filled
  rw [trimEnd, String.toList_append, Chars.trimEnd, Chars.dropEndWhile_append kept,
    String.ofList_append, String.ofList_toList]
  rfl

namespace Terminal

/-- A label in colour is the label. -/
theorem tints_paint (terminal : Terminal) (color : Color) (label : String) :
    Tints label (terminal.paint color label) := by
  have plain : Tints label (label ++ coded "0" "") := by
    have behind : Tints "" (coded "0" "") := .code (by decide) (.refl "")
    simpa using (Tints.refl label).append behind
  have bold : Tints label (coded "1" (label ++ coded "0" "")) := .code (by decide) plain
  rw [paint]
  cases terminal.ink with
  | none => exact .refl label
  | bold =>
      have same : coded "" (coded "1" (label ++ coded "0" "")) =
          "\x1b[m\x1b[1m" ++ label ++ "\x1b[0m" := String.toList_inj.mp (by simp [coded])
      exact same ▸ .code (by decide) bold
  | color =>
      have numeric : ("38;5;" ++ color.code).toList.all
          (fun char => char.isDigit || char == ';') = true := by cases color <;> decide
      have same : coded ("38;5;" ++ color.code) (coded "1" (label ++ coded "0" "")) =
          "\x1b[38;5;" ++ color.code ++ "m\x1b[1m" ++ label ++ "\x1b[0m" :=
        String.toList_inj.mp (by simp [coded])
      exact same ▸ .code numeric bold

/-! ## Two terminals that differ in colour -/

/-- The same is to be read on both, and the first one is without colour. -/
structure Alike (plain painted : Terminal) : Prop extends plain.Typed painted where
  colorless : plain.ink = .none
  width : painted.width = plain.width
  visible : painted.progressVisible = plain.progressVisible
  screen : Tints plain.screen painted.screen

variable {plain painted : Terminal} {text other : String}

theorem paint_colorless (colorless : plain.ink = .none) (color : Color) (label : String) :
    plain.paint color label = label := by
  rw [paint, colorless]

namespace Alike

theorem paint (alike : Alike plain painted) (color : Color) (label : String) :
    Tints (plain.paint color label) (painted.paint color label) :=
  (paint_colorless alike.colorless color label).symm ▸ painted.tints_paint color label

theorem write (alike : Alike plain painted) (tints : Tints text other) :
    Alike (plain.write text) (painted.write other) := by
  unfold Terminal.write
  rw [alike.broken]
  split
  · exact alike
  · exact ⟨⟨alike.input, rfl⟩, alike.colorless, alike.width, alike.visible,
      alike.screen.append tints⟩

theorem flag (alike : Alike plain painted) (visible : Bool) :
    Alike { plain with progressVisible := visible } { painted with progressVisible := visible } :=
  ⟨⟨alike.input, alike.broken⟩, alike.colorless, alike.width, rfl, alike.screen⟩

theorem clearProgress (alike : Alike plain painted) :
    Alike plain.clearProgress painted.clearProgress := by
  unfold Terminal.clearProgress
  rw [alike.visible]
  split
  · exact (alike.write (.refl clearLine)).flag false
  · exact alike

theorem emit (alike : Alike plain painted) (tints : Tints text other) :
    Alike (plain.emit text) (painted.emit other) :=
  alike.clearProgress.write (tints.append (.refl "\n"))

theorem showProgress (alike : Alike plain painted) (message : String) :
    Alike (plain.showProgress message) (painted.showProgress message) := by
  unfold Terminal.showProgress
  rw [alike.width, alike.broken]
  exact (alike.clearProgress.write (.refl _)).flag _

theorem statusLabel (alike : Alike plain painted) (status : Status) :
    Tints (plain.statusLabel status) (painted.statusLabel status) := by
  cases status <;> exact alike.paint _ _

theorem outcomeText (alike : Alike plain painted) (status : Status) (resource : Option Resource)
    (reason : String) (remediation : Option String) :
    Tints (plain.outcomeText status resource reason remediation)
      (painted.outcomeText status resource reason remediation) := by
  have wraps (text : String) : painted.wrapDetail text = plain.wrapDetail text := by
    rw [wrapDetail, wrapDetail, alike.width]
  unfold Terminal.outcomeText
  simp only [wraps]
  refine ((Tints.append (.refl _) (alike.statusLabel status)).append (.refl _)).append ?_
  cases remediation.filter (!Text.isBlankText ·) with
  | none => exact .refl _
  | some remediation =>
      exact ((Tints.append (.refl _) (alike.paint _ _)).append (.refl _)).append (.refl _)

theorem summaryText (alike : Alike plain painted) (runbook : String) (totals : Totals) :
    Tints (plain.summaryText runbook totals) (painted.summaryText runbook totals) := by
  -- The counts stand behind the label, and not all of them is white space.
  have counts : ∃ rest, Text.isBlankText rest = false ∧
      ∀ terminal : Terminal, terminal.summaryText runbook totals =
        Text.trimEnd ("\n" ++ terminal.paint .white "Runbook finished:" ++ " " ++ runbook ++ "\n" ++
          rest) := by
    refine ⟨_, ?_, fun _ => rfl⟩
    have ok : Text.isBlankText (Text.padRight 10 Status.ok.name) = false := by decide
    simp [Status.all, String.join_cons, Text.isBlankText_append, ok]
  rcases counts with ⟨rest, filled, shape⟩
  rw [shape, shape, Text.trimEnd_append filled, Text.trimEnd_append filled]
  exact ((((Tints.refl _).append (alike.paint _ _)).append (.refl _)).append (.refl _)).append
    (.refl _) |>.append (.refl _)

theorem notify (alike : Alike plain painted) (notice : Notice) :
    Alike (plain.notify notice) (painted.notify notice) := by
  cases notice with
  | started index executionId name kind =>
      unfold Terminal.notify
      dsimp only
      split
      · exact alike.showProgress _
      · exact alike.emit (.append (.refl _) (alike.paint _ _))
  | progress message => exact alike.showProgress message
  | outcome status resource reason remediation =>
      exact alike.emit (alike.outcomeText status resource reason remediation)
  | info message =>
      exact alike.emit (((Tints.append (.refl _) (alike.paint _ _)).append (.refl _)).append
        (.refl _))
  | summary runbook totals => exact alike.emit (alike.summaryText runbook totals)

theorem questionText (alike : Alike plain painted) (request : PromptRequest) :
    Tints (plain.questionText request) (painted.questionText request) := by
  unfold Terminal.questionText
  rw [alike.width]
  refine Tints.append (.refl _) ?_
  induction request.options with
  | nil => exact .refl _
  | cons option options induction =>
      simp only [List.map_cons, String.join_cons]
      exact ((((Tints.append (.refl _) (alike.paint _ _)).append (.refl _)).append (.refl _)).append
        (.refl _)).append induction

theorem receive (alike : Alike plain painted) (request : PromptRequest) :
    (painted.receive request).1 = (plain.receive request).1 ∧
      Alike (plain.receive request).2 (painted.receive request).2 := by
  have read : painted.readAnswer.1 = plain.readAnswer.1 ∧
      Alike plain.readAnswer.2 painted.readAnswer.2 := by
    unfold readAnswer
    rw [alike.input]
    split
    · exact ⟨rfl, alike⟩
    · exact ⟨rfl, ⟨rfl, alike.broken⟩, alike.colorless, alike.width, alike.visible, alike.screen⟩
  revert read
  unfold Terminal.receive
  rcases plain.readAnswer with ⟨answer, later⟩
  rcases painted.readAnswer with ⟨same, laterToo⟩
  rintro ⟨rfl, stays⟩
  cases same with
  | none => exact ⟨rfl, stays.emit (.refl "")⟩
  | some answer =>
      dsimp only
      split
      · exact ⟨rfl, stays⟩
      · exact ⟨rfl, stays.emit (.refl _)⟩

theorem askFor (alike : Alike plain painted) (request : PromptRequest) (attempts : Nat) :
    (Terminal.askFor request attempts painted).1 = (Terminal.askFor request attempts plain).1 ∧
      Alike (Terminal.askFor request attempts plain).2
        (Terminal.askFor request attempts painted).2 := by
  induction attempts generalizing plain painted with
  | zero => exact ⟨rfl, alike⟩
  | succ attempts induction =>
      have invited : Alike (plain.invite request) (painted.invite request) :=
        alike.clearProgress.write (.refl _)
      have received := invited.receive request
      revert received
      unfold Terminal.askFor
      rcases (plain.invite request).receive request with ⟨answer, later⟩
      rcases (painted.invite request).receive request with ⟨same, laterToo⟩
      rintro ⟨rfl, stays⟩
      cases same with
      | some response => exact ⟨rfl, stays⟩
      | none => exact induction stays

theorem ask (alike : Alike plain painted) (request : PromptRequest) :
    (painted.ask request).1 = (plain.ask request).1 ∧
      Alike (plain.ask request).2 (painted.ask request).2 := by
  unfold Terminal.ask
  rw [alike.broken]
  split
  · exact ⟨rfl, alike⟩
  · exact (alike.clearProgress.write (alike.questionText request)).askFor request _

theorem perform (alike : Alike plain painted) (acts : List Act) :
    (Terminal.perform acts painted).1 = (Terminal.perform acts plain).1 ∧
      Alike (Terminal.perform acts plain).2 (Terminal.perform acts painted).2 := by
  induction acts generalizing plain painted with
  | nil => exact ⟨rfl, alike⟩
  | cons act acts induction =>
      cases act with
      | notify notice => exact induction (alike.notify notice)
      | ask request =>
          rcases alike.ask request with ⟨same, stays⟩
          rcases induction stays with ⟨others, last⟩
          exact ⟨congrArg₂ List.cons same others, last⟩

end Alike

end Terminal

end Triage
