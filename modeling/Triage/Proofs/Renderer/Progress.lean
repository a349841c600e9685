import Mathlib.Data.List.Chain
import Triage.Proofs.Number.Decimal
import Triage.Proofs.Renderer.Ink
import Triage.Proofs.Text.Conservation
import Triage.Proofs.Text.Truncate

namespace Triage

/-! ## Texts without carriage returns -/

namespace Text

def NoReturn (text : String) : Prop :=
  '\r' ∉ text.toList

instance : DecidablePred NoReturn :=
  fun text => inferInstanceAs (Decidable ('\r' ∉ text.toList))

variable {first second indent text : String}

@[simp] theorem noReturn_append :
    NoReturn (first ++ second) ↔ NoReturn first ∧ NoReturn second := by
  simp [NoReturn]

theorem noReturn_wrap (width : Nat) (indents : NoReturn indent) (plain : NoReturn text) :
    NoReturn (wrap width indent text) := by
  intro member
  rcases mem_wrap member with feed | inIndent | inText
  · cases feed
  · exact indents inIndent
  · exact plain inText

theorem noReturn_truncate (width : Nat) (plain : NoReturn text) :
    NoReturn (truncate width text) := by
  intro member
  rcases mem_truncate member with ellipsis | inText
  · cases ellipsis
  · exact plain inText

theorem noReturn_trimEnd (plain : NoReturn text) : NoReturn (trimEnd text) := by
  intro member
  rw [trimEnd, String.toList_ofList] at member
  exact plain ((Chars.isPrefix_dropEndWhile _ _).subset member)

theorem noReturn_padRight (width : Nat) (plain : NoReturn text) :
    NoReturn (padRight width text) := by
  refine noReturn_append.mpr ⟨plain, fun member => ?_⟩
  rw [String.toList_ofList] at member
  cases List.eq_of_mem_replicate member

theorem noReturn_nat (number : Nat) : NoReturn (toString number) := by
  intro member
  have digits : (toString number).toList = Nat.toDigits 10 number := by simp
  have isDigit := Decimal.areDigits_toDigits number '\r' (digits ▸ member)
  cases isDigit

theorem noReturn_join {pieces : List String} (plain : ∀ piece ∈ pieces, NoReturn piece) :
    NoReturn (String.join pieces) := by
  intro member
  rw [String.toList_join] at member
  rcases List.mem_flatMap.mp member with ⟨piece, isPiece, inPiece⟩
  exact plain piece isPiece inPiece

end Text

namespace Terminal

open Text (NoReturn noReturn_append)

theorem noReturn_paint (terminal : Terminal) (color : Color) {label : String}
    (plain : NoReturn label) : NoReturn (terminal.paint color label) := by
  have code : NoReturn color.code := by cases color <;> decide
  rw [paint]
  cases terminal.ink with
  | none => exact plain
  | bold => simpa using ⟨⟨by decide, plain⟩, by decide⟩
  | color => simpa using ⟨⟨⟨⟨by decide, code⟩, by decide⟩, plain⟩, by decide⟩

theorem noReturn_keysText {request : PromptRequest}
    (plain : ∀ key ∈ request.options.keys, NoReturn key) : NoReturn (keysText request) := by
  intro member
  rw [keysText, Text.join, String.toList_ofList] at member
  rcases Chars.mem_join member with slash | ⟨piece, isPiece, inPiece⟩
  · exact absurd slash (by decide)
  · rcases List.mem_map.mp isPiece with ⟨key, isKey, rfl⟩
    exact plain key isKey inPiece

theorem noReturn_wrapDetail (terminal : Terminal) {text : String} (plain : NoReturn text) :
    NoReturn (terminal.wrapDetail text) :=
  Text.noReturn_wrap _ (by decide) plain

theorem noReturn_outcomeText (terminal : Terminal) (status : Status) {resource : Option Resource}
    {reason : String} {remediation : Option String}
    (subject : ∀ found ∈ resource, NoReturn found.shortPath) (reasoned : NoReturn reason)
    (remedied : ∀ remedy ∈ remediation, NoReturn remedy) :
    NoReturn (terminal.outcomeText status resource reason remediation) := by
  have name : NoReturn ((resource.map (·.shortPath)).getD "-") := by
    cases resource with
    | none => decide
    | some found => exact subject found rfl
  have label : NoReturn (terminal.statusLabel status) := by
    cases status <;> exact terminal.noReturn_paint _ (by decide)
  simp only [outcomeText, noReturn_append]
  refine ⟨⟨⟨⟨⟨by decide, Text.noReturn_padRight 60 name⟩, by decide⟩, label⟩, ?_⟩, ?_⟩
  · split
    · decide
    · exact noReturn_append.mpr ⟨by decide, terminal.noReturn_wrapDetail reasoned⟩
  · cases filtered : remediation.filter (!Text.isBlankText ·) with
    | none =>
        show NoReturn ""
        decide
    | some remedy =>
        have plain := remedied remedy (Option.filter_eq_some_iff.mp filtered).1
        have mark : NoReturn (terminal.paint .yellow "[REMEDIATION]") :=
          terminal.noReturn_paint _ (by decide)
        simp only [noReturn_append]
        exact ⟨⟨⟨⟨by decide, by decide⟩, mark⟩, by decide⟩, terminal.noReturn_wrapDetail plain⟩

theorem noReturn_summaryText (terminal : Terminal) {runbook : String} (totals : Totals)
    (plain : NoReturn runbook) : NoReturn (terminal.summaryText runbook totals) := by
  have label : NoReturn (terminal.paint .white "Runbook finished:") :=
    terminal.noReturn_paint _ (by decide)
  have counts : NoReturn (String.join (Status.all.map fun status =>
      "  " ++ Text.padRight 10 status.name ++ " " ++ toString (totals.count status) ++ "\n")) := by
    refine Text.noReturn_join fun piece isPiece => ?_
    rcases List.mem_map.mp isPiece with ⟨status, -, rfl⟩
    have name : NoReturn (Text.padRight 10 status.name) := by cases status <;> decide
    have number := Text.noReturn_nat (totals.count status)
    simp only [noReturn_append]
    exact ⟨⟨⟨⟨by decide, name⟩, by decide⟩, number⟩, by decide⟩
  refine Text.noReturn_trimEnd ?_
  simp only [noReturn_append]
  exact ⟨⟨⟨⟨⟨by decide, label⟩, by decide⟩, plain⟩, by decide⟩, counts⟩

theorem noReturn_questionText (terminal : Terminal) {request : PromptRequest}
    (message : NoReturn request.message)
    (options : ∀ option ∈ request.options, NoReturn option.1 ∧ NoReturn option.2) :
    NoReturn (terminal.questionText request) := by
  simp only [questionText, noReturn_append]
  refine ⟨⟨⟨by decide, Text.noReturn_wrap _ (by decide) message⟩, by decide⟩,
    Text.noReturn_join fun piece isPiece => ?_⟩
  rcases List.mem_map.mp isPiece with ⟨option, isOption, rfl⟩
  have plain := options option isOption
  simp only [noReturn_append]
  exact ⟨⟨⟨⟨by decide, terminal.noReturn_paint _ plain.1⟩, by decide⟩, plain.2⟩, by decide⟩

end Terminal

/-! ## Lines -/

/-- The text ends a line. -/
def Text.EndsLine (text : String) : Prop :=
  ∃ body, text = body ++ "\n"

theorem Text.EndsLine.behind {text : String} (ends : EndsLine text) (front : String) :
    EndsLine (front ++ text) := by
  rcases ends with ⟨body, rfl⟩
  exact ⟨front ++ body, (String.append_assoc ..).symm⟩

theorem Text.EndsLine.join {front : String} {pieces : List String} (ends : EndsLine front)
    (each : ∀ piece ∈ pieces, EndsLine piece) : EndsLine (front ++ String.join pieces) := by
  induction pieces generalizing front with
  | nil => simpa using ends
  | cons piece pieces induction =>
      rw [String.join_cons, ← String.append_assoc]
      exact induction ((each piece List.mem_cons_self).behind front) fun other isOther =>
        each other (List.mem_cons_of_mem _ isOther)

/-! ## What is shown -/

/-- What is shown as progress. -/
def Notice.progress? : Notice → Option String
  | .progress message => some message
  | .started index _ name kind =>
      if kind = .gateway ∨ kind = .composite then some s!"[{index}] {name}" else none
  | _ => none

/-- The texts that are given with the notice. -/
def Notice.texts : Notice → List String
  | .started _ _ name _ => [name]
  | .progress message => [message]
  | .outcome _ resource reason remediation =>
      reason :: (resource.map (·.shortPath)).toList ++ remediation.toList
  | .info message => [message]
  | .summary runbook _ => [runbook]

def Act.texts : Act → List String
  | .notify notice => notice.texts
  | .ask request =>
      request.message :: request.options.flatMap fun (key, description) => [key, description]

namespace Terminal

open Text (NoReturn noReturn_append EndsLine)

/-- A new line begins behind the text. -/
def LineBegins (shown : String) : Prop :=
  shown = "" ∨ EndsLine shown ∨ ∃ front, shown = front ++ clearLine

theorem endsLine_questionText (terminal : Terminal) (request : PromptRequest) :
    EndsLine (terminal.questionText request) := by
  refine Text.EndsLine.join ⟨_, rfl⟩ fun piece isPiece => ?_
  rcases List.mem_map.mp isPiece with ⟨option, -, rfl⟩
  exact ⟨_, rfl⟩

/-! ## What one act leaves on the screen -/

/-- A piece of what is on the screen. -/
inductive Stroke where
  | progress (text : String)
  | clear
  /-- Whole lines. -/
  | lines (text : String)
  /-- A question with its invitation, behind which an answer was typed in. -/
  | answered (text : String)
deriving DecidableEq

namespace Stroke

def text : Stroke → String
  | .progress text | .lines text | .answered text => text
  | .clear => clearLine

def isProgress : Stroke → Bool
  | .progress _ => true
  | _ => false

def joined (strokes : List Stroke) : String :=
  String.join (strokes.map text)

theorem joined_concat (strokes : List Stroke) (stroke : Stroke) :
    joined (strokes ++ [stroke]) = joined strokes ++ stroke.text := by
  rw [joined, joined, List.map_append, String.join_append]
  simp

end Stroke

def invitation (request : PromptRequest) : String :=
  "Choose an option [" ++ keysText request ++ "]: "

/-- What is written for an act, with the answer if it is a question. -/
inductive Leaves (width : Nat) : Act → Option PromptResponse → Stroke → Prop
  | progress {notice : Notice} {message : String} (shows : notice.progress? = some message) :
      Leaves width (.notify notice) none (.progress (Text.truncate width message))
  | lines {notice : Notice} {text : String} (other : notice.progress? = none)
      (ends : EndsLine text) : Leaves width (.notify notice) none (.lines text)
  | unanswered {request : PromptRequest} {text : String} (ends : EndsLine text) :
      Leaves width (.ask request) (some .noAnswer) (.lines text)
  | answered {request : PromptRequest} {response : PromptResponse} {front : String}
      (answers : response ≠ .noAnswer) :
      Leaves width (.ask request) (some response) (.answered (front ++ invitation request))

/-- What is written for one act after the other. -/
inductive Draws (width : Nat) : List Act → List PromptResponse → List Stroke → Prop
  | nothing : Draws width [] [] []
  | act {act : Act} {acts : List Act} {response? : Option PromptResponse}
      {responses : List PromptResponse} {stroke : Stroke} {strokes : List Stroke}
      (leaves : Leaves width act response? stroke) (later : Draws width acts responses strokes) :
      Draws width (act :: acts) (response?.toList ++ responses) (stroke :: strokes)

/-- No answer that may still be read has a carriage return in it. -/
def Typable (terminal : Terminal) : Prop :=
  ∀ line, some line ∈ terminal.input → NoReturn (Text.trim line)

/-- What is on the screen, piece by piece: progress is cleared away before anything else is
written, and nothing else ever is. -/
structure Drawn (width : Nat) (terminal : Terminal) (strokes : List Stroke) : Prop where
  works : terminal.broken = false
  width : terminal.width = width
  typable : terminal.Typable
  visible : terminal.progressVisible = strokes.getLast?.any Stroke.isProgress
  screen : terminal.screen = Stroke.joined strokes
  first : strokes.head? ≠ some .clear
  chain : strokes.IsChain fun before after => after = .clear ↔ before.isProgress = true
  plain : ∀ stroke ∈ strokes, stroke ≠ .clear → NoReturn stroke.text

variable {width : Nat} {terminal later : Terminal} {strokes : List Stroke} {stroke : Stroke}

/-- One more piece is written. -/
theorem Drawn.append (drawn : Drawn width terminal strokes)
    (fits : stroke = .clear ↔ terminal.progressVisible = true)
    (works : later.broken = false) (sameWidth : later.width = terminal.width)
    (input : later.input <:+ terminal.input)
    (visible : later.progressVisible = stroke.isProgress)
    (screen : later.screen = terminal.screen ++ stroke.text)
    (plain : stroke ≠ .clear → NoReturn stroke.text) :
    Drawn width later (strokes ++ [stroke]) where
  works := works
  width := sameWidth.trans drawn.width
  typable line member := drawn.typable line (input.subset member)
  visible := by simpa using visible
  screen := by rw [screen, drawn.screen, Stroke.joined_concat]
  first := by
    cases strokes with
    | nil =>
        intro isFirst
        have visible := fits.mp (Option.some.inj isFirst)
        rw [drawn.visible] at visible
        cases visible
    | cons first rest => exact drawn.first
  chain := by
    refine drawn.chain.append (.singleton _) fun before isBefore after isAfter => ?_
    obtain rfl : stroke = after := Option.some.inj isAfter
    have last : strokes.getLast? = some before := isBefore
    rw [fits, drawn.visible, last]
    rfl
  plain other member := by
    rcases List.mem_append.mp member with earlier | last
    · exact drawn.plain other earlier
    · rw [List.mem_singleton.mp last]
      exact plain

/-- The text is written, where no progress is shown, and lines may have been read. -/
structure Adds (terminal later : Terminal) (text : String) : Prop where
  broken : later.broken = false
  hidden : later.progressVisible = false
  width : later.width = terminal.width
  input : later.input <:+ terminal.input
  screen : later.screen = terminal.screen ++ text

variable {text more : String} {last : Terminal} {request : PromptRequest}

theorem Adds.trans (adds : Adds terminal later text) (again : Adds later last more) :
    Adds terminal last (text ++ more) where
  broken := again.broken
  hidden := again.hidden
  width := again.width.trans adds.width
  input := again.input.trans adds.input
  screen := by rw [again.screen, adds.screen, String.append_assoc]

theorem Adds.typable (adds : Adds terminal later text) (typable : terminal.Typable) :
    later.Typable :=
  fun line member => typable line (adds.input.subset member)

theorem write_eq (works : terminal.broken = false) (text : String) :
    terminal.write text = { terminal with screen := terminal.screen ++ text } := by
  rw [write, if_neg (by simp [works])]

section

variable (works : terminal.broken = false) (hidden : terminal.progressVisible = false)
include works hidden

theorem adds_write (text : String) : Adds terminal (terminal.write text) text := by
  rw [write_eq works]
  exact ⟨works, hidden, rfl, List.suffix_rfl, rfl⟩

theorem adds_cleared (text : String) : Adds terminal (terminal.clearProgress.write text) text := by
  rw [clearProgress, if_neg (by simp [hidden])]
  exact adds_write works hidden text

end

/-- Progress is cleared away if it is there. -/
theorem Drawn.clearProgress (drawn : Drawn width terminal strokes) :
    ∃ cleared, (∀ other ∈ cleared, other = .clear) ∧
      Drawn width terminal.clearProgress (strokes ++ cleared) ∧
      terminal.clearProgress.progressVisible = false := by
  unfold Terminal.clearProgress
  by_cases visible : terminal.progressVisible = true
  · rw [if_pos visible, write_eq drawn.works]
    exact ⟨[.clear], by simp, drawn.append (iff_of_true rfl visible) drawn.works rfl
      List.suffix_rfl rfl rfl (absurd rfl), rfl⟩
  · rw [if_neg visible]
    exact ⟨[], by simp, by simpa using drawn, by simpa using visible⟩

/-- Behind these pieces the act left one more, and the progress in front of it is cleared away. -/
def Continues (width : Nat) (strokes : List Stroke) (act : Act) (response? : Option PromptResponse)
    (next : Terminal) : Prop :=
  ∃ cleared stroke, (∀ other ∈ cleared, other = .clear) ∧
    Drawn width next (strokes ++ cleared ++ [stroke]) ∧ Leaves width act response? stroke

theorem Leaves.ne_clear {act : Act} {response? : Option PromptResponse}
    (leaves : Leaves width act response? stroke) : stroke ≠ .clear := by
  cases leaves <;> simp

theorem Drawn.showProgress (drawn : Drawn width terminal strokes) {notice : Notice}
    {message : String} (shows : notice.progress? = some message) (plain : NoReturn message) :
    Continues width strokes (.notify notice) none (terminal.showProgress message) := by
  rcases drawn.clearProgress with ⟨cleared, allClear, ready, hidden⟩
  have shown : terminal.showProgress message = { terminal.clearProgress with
      screen := terminal.clearProgress.screen ++ Text.truncate width message
      progressVisible := true } := by
    simp [Terminal.showProgress, write_eq ready.works, drawn.works, drawn.width]
  refine ⟨cleared, _, allClear, ?_, .progress shows⟩
  rw [shown]
  exact ready.append (iff_of_false (by simp) (by simp [hidden])) ready.works rfl List.suffix_rfl rfl
    rfl fun _ => Text.noReturn_truncate width plain

/-- Whole lines, or a question, are written. -/
theorem Drawn.continues (drawn : Drawn width terminal strokes) {act : Act}
    {response? : Option PromptResponse} {next : Terminal}
    (leaves : Leaves width act response? stroke) (still : stroke.isProgress = false)
    (adds : terminal.clearProgress.broken = false →
      terminal.clearProgress.progressVisible = false → Adds terminal.clearProgress next stroke.text)
    (plain : NoReturn stroke.text) : Continues width strokes act response? next := by
  rcases drawn.clearProgress with ⟨cleared, allClear, ready, hidden⟩
  have added := adds ready.works hidden
  have fits : stroke = .clear ↔ terminal.clearProgress.progressVisible = true :=
    iff_of_false leaves.ne_clear (by simp [hidden])
  exact ⟨cleared, stroke, allClear, ready.append fits added.broken added.width added.input
    (added.hidden.trans still.symm) added.screen fun _ => plain, leaves⟩

theorem Drawn.emit (drawn : Drawn width terminal strokes) {notice : Notice}
    (other : notice.progress? = none) (plain : NoReturn text) :
    Continues width strokes (.notify notice) none (terminal.emit text) :=
  drawn.continues (.lines other ⟨text, rfl⟩) rfl (fun works hidden => adds_write works hidden _)
    (noReturn_append.mpr ⟨plain, by decide⟩)

theorem Drawn.notify (drawn : Drawn width terminal strokes) (notice : Notice)
    (plain : ∀ text ∈ notice.texts, NoReturn text) :
    Continues width strokes (.notify notice) none (terminal.notify notice) := by
  cases notice with
  | started index executionId name kind =>
      have clean : NoReturn name := plain name (List.mem_singleton.mpr rfl)
      by_cases grouping : kind = .gateway ∨ kind = .composite
      · rw [Terminal.notify, if_pos grouping]
        refine drawn.showProgress (if_pos grouping) ?_
        simp only [noReturn_append]
        exact ⟨⟨⟨by decide, Text.noReturn_nat index⟩, by decide⟩, clean⟩
      · rw [Terminal.notify, if_neg grouping]
        refine drawn.emit (if_neg grouping) ?_
        simp only [noReturn_append]
        exact ⟨⟨⟨by decide, Text.noReturn_nat index⟩, by decide⟩, terminal.noReturn_paint _ clean⟩
  | progress message => exact drawn.showProgress rfl (plain message (List.mem_singleton.mpr rfl))
  | outcome status resource reason remediation =>
      refine drawn.emit rfl (terminal.noReturn_outcomeText status ?_ ?_ ?_)
      · exact fun found isFound => plain _ (by simp_all [Notice.texts])
      · exact plain reason (by simp [Notice.texts])
      · exact fun remedy isRemedy => plain _ (by simp_all [Notice.texts])
  | info message =>
      have clean : NoReturn message := plain message (List.mem_singleton.mpr rfl)
      have label : NoReturn (terminal.paint .blue "[INFO]") :=
        terminal.noReturn_paint _ (by decide)
      refine drawn.emit rfl ?_
      simp only [noReturn_append]
      exact ⟨⟨⟨by decide, label⟩, by decide⟩, clean⟩
  | summary runbook totals =>
      exact drawn.emit rfl (terminal.noReturn_summaryText totals
        (plain runbook (List.mem_singleton.mpr rfl)))

/-! ## Questions -/

theorem adds_readAnswer (works : terminal.broken = false)
    (hidden : terminal.progressVisible = false) : Adds terminal terminal.readAnswer.2 "" := by
  unfold readAnswer
  split
  · exact ⟨works, hidden, rfl, List.suffix_rfl, by simp⟩
  · next line rest input => exact ⟨works, hidden, rfl, input ▸ List.suffix_cons line rest, by simp⟩

theorem resolve?_ne_noAnswer {answer : String} {response : PromptResponse}
    (resolves : request.resolve? answer = some response) : response ≠ .noAnswer := by
  rcases Option.map_eq_some_iff.mp resolves with ⟨key, -, rfl⟩
  unfold PromptRequest.meaning?
  split <;> split_ifs <;> simp

theorem noReturn_readAnswer (typable : terminal.Typable) {answer : String}
    (isAnswer : terminal.readAnswer.1 = some answer) : NoReturn answer := by
  unfold readAnswer at isAnswer
  split at isAnswer
  · cases isAnswer
  · next line rest input =>
    rcases Option.map_eq_some_iff.mp (Option.filter_eq_some_iff.mp isAnswer).1 with
      ⟨read, rfl, rfl⟩
    exact typable read (input ▸ List.mem_cons_self)

theorem noReturn_invitation (keys : NoReturn (keysText request)) :
    NoReturn (invitation request) := by
  have opens : NoReturn ("Choose an option [" ++ keysText request) :=
    noReturn_append.mpr ⟨by decide, keys⟩
  exact noReturn_append.mpr ⟨opens, by decide⟩

/-- What is written behind an invitation: nothing if there is an answer, and the rest of the line
otherwise. -/
theorem adds_receive (works : terminal.broken = false) (hidden : terminal.progressVisible = false)
    (typable : terminal.Typable) (keys : NoReturn (keysText request)) :
    ∃ text, Adds terminal (terminal.receive request).2 text ∧ NoReturn text ∧
      ((∃ response, (terminal.receive request).1 = some response ∧ response ≠ .noAnswer) ∧
          text = "" ∨
        (terminal.receive request).1.getD .noAnswer = .noAnswer ∧ EndsLine text) := by
  have read := adds_readAnswer works hidden
  have clean := @noReturn_readAnswer terminal typable
  revert read clean
  unfold receive
  rcases terminal.readAnswer with ⟨answer, later⟩
  intro read clean
  have emits (lines : String) (plain : NoReturn lines) :
      Adds terminal (later.emit lines) (lines ++ "\n") ∧ NoReturn (lines ++ "\n") := by
    have written := read.trans (adds_cleared read.broken read.hidden (lines ++ "\n"))
    rw [String.empty_append] at written
    exact ⟨written, noReturn_append.mpr ⟨plain, by decide⟩⟩
  cases answer with
  | none =>
      rcases emits "" (by decide) with ⟨adds, plain⟩
      exact ⟨_, adds, plain, .inr ⟨rfl, "", rfl⟩⟩
  | some answer =>
      dsimp only
      cases resolves : request.resolve? answer with
      | some response =>
          exact ⟨"", read, by decide, .inl ⟨⟨response, rfl, resolve?_ne_noAnswer resolves⟩, rfl⟩⟩
      | none =>
          have refusal :
              NoReturn ("'" ++ answer ++ "' is not one of [" ++ keysText request ++ "].") := by
            simp only [noReturn_append]
            exact ⟨⟨⟨⟨by decide, clean rfl⟩, by decide⟩, keys⟩, by decide⟩
          rcases emits _ refusal with ⟨adds, plain⟩
          exact ⟨_, adds, plain, .inr ⟨rfl, _, rfl⟩⟩

/-- A question that was answered ends with an invitation, and another one with a line end. -/
def Concludes (request : PromptRequest) (response : PromptResponse) (text : String) : Prop :=
  response = .noAnswer ∧ EndsLine text ∨
    response ≠ .noAnswer ∧ ∃ front, text = front ++ invitation request

theorem adds_askFor (attempts : Nat) {front : String} (ends : EndsLine front)
    (works : terminal.broken = false) (hidden : terminal.progressVisible = false)
    (typable : terminal.Typable) (keys : NoReturn (keysText request)) :
    ∃ text, Adds terminal (askFor request attempts terminal).2 text ∧ NoReturn text ∧
      Concludes request (askFor request attempts terminal).1 (front ++ text) := by
  induction attempts generalizing terminal front with
  | zero =>
      exact ⟨"", ⟨works, hidden, rfl, List.suffix_rfl, by simp [askFor]⟩, by decide,
        .inl ⟨rfl, by simpa using ends⟩⟩
  | succ attempts induction =>
      have invites : Adds terminal (terminal.invite request) (invitation request) := by
        rw [invite]
        exact adds_cleared works hidden _
      have inviting : NoReturn (invitation request) := noReturn_invitation keys
      have received := adds_receive invites.broken invites.hidden (invites.typable typable) keys
      revert received
      unfold askFor
      rcases (terminal.invite request).receive request with ⟨answer, later⟩
      rintro ⟨text, adds, plain, decides⟩
      have both := invites.trans adds
      have clean : NoReturn (invitation request ++ text) := noReturn_append.mpr ⟨inviting, plain⟩
      rcases decides with ⟨⟨response, rfl, answers⟩, rfl⟩ | ⟨silent, ends⟩
      · exact ⟨_, both, clean, .inr ⟨answers, front, by simp⟩⟩
      · have ended : EndsLine (front ++ (invitation request ++ text)) := (ends.behind _).behind _
        cases answer with
        | some response =>
            obtain rfl : response = .noAnswer := silent
            exact ⟨_, both, clean, .inl ⟨rfl, ended⟩⟩
        | none =>
            rcases induction ended both.broken both.hidden (both.typable typable) with
              ⟨more, addsMore, plainMore, concludes⟩
            have whole : front ++ (invitation request ++ text ++ more) =
                front ++ (invitation request ++ text) ++ more := String.append_assoc.symm
            have cleaner := noReturn_append.mpr ⟨clean, plainMore⟩
            exact ⟨_, both.trans addsMore, cleaner, whole ▸ concludes⟩

theorem Drawn.ask (drawn : Drawn width terminal strokes) (request : PromptRequest)
    (plain : ∀ text ∈ (Act.ask request).texts, NoReturn text) :
    Continues width strokes (.ask request) (some (terminal.ask request).1)
      (terminal.ask request).2 := by
  rcases drawn.clearProgress with ⟨cleared, -, ready, hidden⟩
  have options : ∀ option ∈ request.options, NoReturn option.1 ∧ NoReturn option.2 := by
    intro option isOption
    have texts : ∀ text ∈ [option.1, option.2], NoReturn text := fun text isText =>
      plain text (List.mem_cons_of_mem _ (List.mem_flatMap.mpr ⟨option, isOption, isText⟩))
    simpa using texts
  have keys : NoReturn (keysText request) := noReturn_keysText fun key isKey => by
    rcases List.mem_map.mp isKey with ⟨option, isOption, rfl⟩
    exact (options option isOption).1
  have question : NoReturn (terminal.questionText request) :=
    terminal.noReturn_questionText (plain _ List.mem_cons_self) options
  have poses : Adds terminal.clearProgress (terminal.pose request)
      (terminal.questionText request) := adds_write ready.works hidden _
  rcases adds_askFor greatestAttempts (terminal.endsLine_questionText request) poses.broken
    poses.hidden (poses.typable ready.typable) keys with ⟨text, adds, clean, concludes⟩
  have whole := poses.trans adds
  have wholePlain := noReturn_append.mpr ⟨question, clean⟩
  have asked : terminal.ask request = askFor request greatestAttempts (terminal.pose request) :=
    if_neg (by simp [drawn.works])
  rw [asked]
  rcases concludes with ⟨silent, ends⟩ | ⟨answers, front, isFront⟩
  · rw [silent]
    exact drawn.continues (.unanswered ends) rfl (fun _ _ => whole) wholePlain
  · rw [isFront] at whole wholePlain
    exact drawn.continues (.answered answers) rfl (fun _ _ => whole) wholePlain

/-- A run of acts. -/
theorem Drawn.perform (drawn : Drawn width terminal strokes) (acts : List Act)
    (plain : ∀ act ∈ acts, ∀ text ∈ act.texts, NoReturn text) :
    ∃ more, Drawn width (Terminal.perform acts terminal).2 (strokes ++ more) ∧
      Draws width acts (Terminal.perform acts terminal).1 (more.filter (· ≠ .clear)) := by
  induction acts generalizing terminal strokes with
  | nil => exact ⟨[], by simpa [Terminal.perform] using drawn, .nothing⟩
  | cons act acts induction =>
      have first := plain act List.mem_cons_self
      have others := fun other isOther => plain other (List.mem_cons_of_mem act isOther)
      -- Apart from what is cleared away before it, an act leaves one piece.
      have joins {next : Terminal} {response? : Option PromptResponse}
          (continues : Continues width strokes act response? next) :
          ∃ more, Drawn width (Terminal.perform acts next).2 (strokes ++ more) ∧
            Draws width (act :: acts) (response?.toList ++ (Terminal.perform acts next).1)
              (more.filter (· ≠ .clear)) := by
        rcases continues with ⟨cleared, stroke, allClear, shown, leaves⟩
        rcases induction shown others with ⟨more, last, draws⟩
        have none_ : cleared.filter (· ≠ .clear) = [] :=
          List.filter_eq_nil_iff.mpr fun other member => by simp [allClear other member]
        refine ⟨cleared ++ stroke :: more, by simpa using last, ?_⟩
        rw [List.filter_append, none_, List.nil_append,
          List.filter_cons_of_pos (by simpa using leaves.ne_clear)]
        exact .act leaves draws
      cases act with
      | notify notice => exact joins (drawn.notify notice first)
      | ask request => exact joins (drawn.ask request first)

theorem Draws.endsLine {acts : List Act} {responses : List PromptResponse}
    (draws : Draws width acts responses strokes) (member : .lines text ∈ strokes) :
    EndsLine text := by
  induction draws with
  | nothing => cases member
  | act leaves _ induction =>
      rcases List.mem_cons.mp member with rfl | later
      · cases leaves with
        | lines _ ends => exact ends
        | unanswered ends => exact ends
      · exact induction later

/-- Every act leaves one piece on the screen; progress, and nothing else, is cleared away before
the next piece. Progress begins a line, or stands behind the invitation of a question whose answer
was typed in there. Colour adds nothing but its codes. -/
theorem progress_apart (ink : Ink) (width : Nat) (input : List (Option String)) (acts : List Act)
    (plain : ∀ act ∈ acts, ∀ text ∈ act.texts, NoReturn text)
    (typed : ∀ line, some line ∈ input → NoReturn (Text.trim line)) :
    let shown := perform acts (opened ink width input)
    let colorless := perform acts (opened .none width input)
    (∃ strokes : List Stroke,
      shown.2.screen = Stroke.joined strokes ∧
      Draws width acts shown.1 (strokes.filter (· ≠ .clear)) ∧
      strokes.head? ≠ some .clear ∧
      strokes.IsChain (fun before after => after = .clear ↔ before.isProgress = true) ∧
      (∀ stroke ∈ strokes, stroke ≠ .clear → NoReturn stroke.text) ∧
      ∀ before text after, strokes = before ++ .progress text :: after →
        LineBegins (Stroke.joined before) ∨
          ∃ question, before.getLast? = some (.answered question)) ∧
    shown.1 = colorless.1 ∧ Tints colorless.2.screen shown.2.screen := by
  intro shown colorless
  have start : Drawn width (opened ink width input) [] :=
    ⟨rfl, rfl, typed, rfl, rfl, by simp, .nil, by simp⟩
  have alike : Alike (opened .none width input) (opened ink width input) :=
    ⟨⟨rfl, rfl⟩, rfl, rfl, rfl, .refl ""⟩
  rcases start.perform acts plain with ⟨strokes, drawn, draws⟩
  rw [List.nil_append] at drawn
  rcases alike.perform acts with ⟨same, after⟩
  refine ⟨⟨strokes, drawn.screen, draws, drawn.first, drawn.chain, drawn.plain, ?_⟩, same,
    after.screen⟩
  intro before text after whole
  rcases List.eq_nil_or_concat before with rfl | ⟨front, last, rfl⟩
  · exact .inl (.inl rfl)
  rw [List.concat_eq_append] at whole ⊢
  have follows : Stroke.progress text = .clear ↔ last.isProgress = true := by
    have chain := drawn.chain
    rw [whole, List.append_assoc, List.singleton_append] at chain
    exact (List.isChain_append_cons_cons.mp chain).2.1
  rw [Stroke.joined_concat]
  cases last with
  | progress other => exact absurd (follows.mpr rfl) (by simp)
  | clear => exact .inl (.inr (.inr ⟨_, rfl⟩))
  | lines other =>
      have member : .lines other ∈ strokes.filter (· ≠ .clear) := by simp [whole]
      exact .inl (.inr (.inl ((draws.endsLine member).behind _)))
  | answered question => exact .inr ⟨question, by simp⟩

end Terminal

namespace Sample

open Terminal

/-- A question, and then the work goes on. -/
def acts : List Act :=
  [.ask (.humanTask "Fix it"), .notify (.progress "working"), .notify (.info "done")]

/-- The question with its invitation. -/
def question : String :=
  "\nFix it\n  [r] Retest current step\n  [c] Continue\n  [s] Stop this runbook\n" ++
    "Choose an option [r/c/s]: "

/-- Nobody answers. -/
def silence : List (Option String) :=
  []

end Sample

namespace Terminal

open Sample

open Text (NoReturn)

/-- Without an answer the invitation ends its line, and progress is cleared away in colour. -/
theorem progress_apart_unanswered :
    ∃ strokes : List Stroke,
      (perform acts (opened .color 80 silence)).2.screen = Stroke.joined strokes ∧
      Draws 80 acts [.noAnswer] (strokes.filter (· ≠ .clear)) ∧
      ∀ stroke ∈ strokes, stroke ≠ .clear → NoReturn stroke.text := by
  have plain : ∀ act ∈ acts, ∀ text ∈ act.texts, NoReturn text := by decide
  have typed : ∀ line, some line ∈ silence → NoReturn (Text.trim line) := by simp [silence]
  rcases progress_apart .color 80 silence acts plain typed with
    ⟨⟨strokes, screen, draws, -, -, clean, -⟩, -⟩
  have answers : (perform acts (opened .color 80 silence)).1 = [.noAnswer] := by decide
  exact ⟨strokes, screen, answers ▸ draws, clean⟩

/-- Behind an invitation that was answered there is no line end on the screen: progress stands on
the same line, and is cleared away together with it. -/
theorem progress_behind_invitation :
    (∀ act ∈ acts, ∀ text ∈ act.texts, '\r' ∉ text.toList ∧ '\x1b' ∉ text.toList) ∧
    (perform acts (opened .none 80 [some "c\n"])).1 = [.continue] ∧
    (perform acts (opened .none 80 [some "c\n"])).2.screen =
      question ++ "working" ++ clearLine ++ "     [INFO] done\n" ∧
    ¬ LineBegins question := by
  refine ⟨by decide, by decide, by decide, ?_⟩
  have last : question.toList.getLast? = some ' ' := by decide
  rintro (empty | ⟨body, isBody⟩ | ⟨front, isFront⟩)
  · rw [empty] at last
    cases last
  · rw [isBody] at last
    simp at last
  · rw [isFront] at last
    simp [clearLine] at last

end Terminal

end Triage
