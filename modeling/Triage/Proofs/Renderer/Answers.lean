import Triage.Proofs.Text.Chars
import Triage.Renderer.Terminal

namespace Triage

/-! ## What decides on the answers -/

namespace Terminal

variable {first second : Terminal}

/-- The same is typed in, and the screens work both or none. -/
structure Typed (first second : Terminal) : Prop where
  input : second.input = first.input
  broken : second.broken = first.broken

theorem typed_write (text : String) (terminal : Terminal) :
    terminal.Typed (terminal.write text) := by
  unfold write
  split <;> exact ⟨rfl, rfl⟩

namespace Typed

variable {third : Terminal}

theorem trans (typed : first.Typed second) (again : second.Typed third) : first.Typed third :=
  ⟨again.input.trans typed.input, again.broken.trans typed.broken⟩

theorem symm (typed : first.Typed second) : second.Typed first :=
  ⟨typed.input.symm, typed.broken.symm⟩

end Typed

theorem typed_clearProgress (terminal : Terminal) : terminal.Typed terminal.clearProgress := by
  unfold clearProgress
  split
  · exact ⟨(typed_write _ terminal).input, (typed_write _ terminal).broken⟩
  · exact ⟨rfl, rfl⟩

theorem typed_emit (lines : String) (terminal : Terminal) : terminal.Typed (terminal.emit lines) :=
  (typed_clearProgress terminal).trans (typed_write _ _)

theorem typed_showProgress (message : String) (terminal : Terminal) :
    terminal.Typed (terminal.showProgress message) := by
  have cleared := typed_clearProgress terminal
  have written := typed_write (Text.truncate terminal.width message) terminal.clearProgress
  exact ⟨written.input.trans cleared.input, written.broken.trans cleared.broken⟩

theorem typed_notify (notice : Notice) (terminal : Terminal) :
    terminal.Typed (terminal.notify notice) := by
  unfold notify
  split
  · split
    · exact typed_showProgress _ _
    · exact typed_emit _ _
  · exact typed_showProgress _ _
  all_goals exact typed_emit _ _

theorem typed_writeLog (line : LogLine) (terminal : Terminal) :
    terminal.Typed (terminal.writeLog line) := by
  unfold writeLog
  split <;> exact ⟨rfl, rfl⟩

theorem typed_invite (request : PromptRequest) (terminal : Terminal) :
    terminal.Typed (terminal.invite request) :=
  (typed_clearProgress terminal).trans (typed_write _ _)

theorem typed_pose (request : PromptRequest) (terminal : Terminal) :
    terminal.Typed (terminal.pose request) :=
  (typed_clearProgress terminal).trans (typed_write _ _)

theorem readAnswer_typed (typed : first.Typed second) :
    second.readAnswer.1 = first.readAnswer.1 ∧
      first.readAnswer.2.Typed second.readAnswer.2 := by
  unfold readAnswer
  rw [typed.input]
  split
  · exact ⟨rfl, typed⟩
  · exact ⟨rfl, ⟨rfl, typed.broken⟩⟩

/-- What has been typed in decides on the answer. -/
theorem receive_typed (request : PromptRequest) (typed : first.Typed second) :
    (second.receive request).1 = (first.receive request).1 ∧
      (first.receive request).2.Typed (second.receive request).2 := by
  have read := readAnswer_typed typed
  unfold receive
  revert read
  rcases first.readAnswer with ⟨answer, later⟩
  rcases second.readAnswer with ⟨same, laterToo⟩
  intro read
  obtain rfl : same = answer := read.1
  have stays : later.Typed laterToo := read.2
  have emits (line more : String) : (later.emit line).Typed (laterToo.emit more) :=
    ((typed_emit line later).symm.trans stays).trans (typed_emit more laterToo)
  cases same with
  | none => exact ⟨rfl, emits _ _⟩
  | some answer =>
      cases resolved : request.resolve? answer with
      | some response =>
          simp only [resolved]
          exact ⟨trivial, stays⟩
      | none =>
          simp only [resolved]
          exact ⟨trivial, emits _ _⟩

theorem askFor_typed (request : PromptRequest) (attempts : Nat) (typed : first.Typed second) :
    (askFor request attempts second).1 = (askFor request attempts first).1 ∧
      (askFor request attempts first).2.Typed (askFor request attempts second).2 := by
  induction attempts generalizing first second with
  | zero => exact ⟨rfl, typed⟩
  | succ attempts induction =>
      have invited :=
        ((typed_invite request first).symm.trans typed).trans (typed_invite request second)
      have received := receive_typed request invited
      unfold askFor
      revert received
      rcases (first.invite request).receive request with ⟨answer, later⟩
      rcases (second.invite request).receive request with ⟨same, laterToo⟩
      intro received
      obtain rfl : same = answer := received.1
      have stays : later.Typed laterToo := received.2
      cases same with
      | some response => exact ⟨rfl, stays⟩
      | none => exact induction stays

theorem ask_typed (request : PromptRequest) (typed : first.Typed second) :
    (second.ask request).1 = (first.ask request).1 ∧
      (first.ask request).2.Typed (second.ask request).2 := by
  unfold ask
  rw [typed.broken]
  split
  · exact ⟨rfl, typed⟩
  · exact askFor_typed request _
      (((typed_pose request first).symm.trans typed).trans (typed_pose request second))

end Terminal

/-! ## Lines of an input

An input of bytes is cut at line ends, and so is a text. -/

namespace Terminal

/-- The lines of a text, each with its end. -/
def textLines (text : String) : List String :=
  (Chars.rawLines text.toList).map String.ofList

/-- A line end is a byte that no other character has in it. -/
theorem eq_newline_of_mem {char : Char} (member : 10 ∈ String.utf8EncodeChar char) :
    char = '\n' := by
  have same (value : Nat) (equal : (10 : UInt8) = UInt8.ofNat value) : value % 256 = 10 := by
    have numbers := congrArg UInt8.toNat equal
    simpa using numbers.symm
  rw [String.utf8EncodeChar] at member
  have code : char.val.toNat = 10 := by
    -- All bytes of a longer encoding are above those of ASCII.
    split_ifs at member <;> simp only [List.mem_cons, List.not_mem_nil, or_false] at member
    · have value := same _ member
      omega
    · rcases member with equal | equal <;> have value := same _ equal <;> omega
    · rcases member with equal | equal | equal <;> have value := same _ equal <;> omega
    · rcases member with equal | equal | equal | equal <;> have value := same _ equal <;> omega
  exact Char.ext (UInt32.toNat_inj.mp code)

/-- Bytes without a line end stay together with what follows. -/
theorem rawLines_append (bytes rest : List UInt8) (filled : bytes ≠ []) (inner : 10 ∉ bytes) :
    linesOf.rawLines (bytes ++ rest) =
      match linesOf.rawLines rest with
      | [] => [bytes]
      | line :: more => (bytes ++ line) :: more := by
  induction bytes with
  | nil => exact absurd rfl filled
  | cons byte bytes induction =>
      have ordinary : (byte == 10) = false :=
        beq_false_of_ne fun equal => inner (equal ▸ List.mem_cons_self)
      rw [List.cons_append, linesOf.rawLines, ordinary, if_neg Bool.false_ne_true]
      by_cases single : bytes = []
      · rw [single]
        rfl
      · rw [induction single (mt (List.mem_cons_of_mem byte) inner)]
        cases linesOf.rawLines rest <;> rfl

theorem rawLines_utf8 (chars : Chars) :
    linesOf.rawLines (chars.flatMap String.utf8EncodeChar) =
      chars.rawLines.map fun line => line.flatMap String.utf8EncodeChar := by
  induction chars with
  | nil => rfl
  | cons char rest induction =>
      rw [List.flatMap_cons, Chars.rawLines]
      by_cases ends : char = '\n'
      · subst ends
        have byte : String.utf8EncodeChar '\n' = [10] := by decide
        rw [if_pos (beq_self_eq_true '\n'), List.map_cons, ← induction, byte]
        rfl
      · have filled : String.utf8EncodeChar char ≠ [] := by
          intro empty
          have size := String.length_utf8EncodeChar char
          rw [empty] at size
          exact absurd size.symm char.utf8Size_pos.ne'
        rw [rawLines_append _ _ filled (mt eq_newline_of_mem ends), induction,
          if_neg (by simpa using ends)]
        cases Chars.rawLines rest with
        | nil => simp
        | cons line more => simp

/-- What is typed in as text is read as text. -/
theorem linesOf_toUTF8 (text : String) :
    linesOf text.toUTF8.data.toList = (textLines text).map some := by
  have bytes : text.toUTF8.data.toList = text.toList.flatMap String.utf8EncodeChar := by
    rw [String.toUTF8_eq_toByteArray, ← String.utf8Encode_toList, List.utf8Encode,
      List.toList_data_toByteArray]
  have isRead (line : Chars) :
      String.fromUTF8? ⟨(line.flatMap String.utf8EncodeChar).toArray⟩ =
        some (String.ofList line) := by
    have encoded : (⟨(line.flatMap String.utf8EncodeChar).toArray⟩ : ByteArray) =
        line.utf8Encode := ByteArray.ext List.data_toByteArray.symm
    rw [encoded, String.fromUTF8?, dif_pos ⟨line, rfl⟩]
    rfl
  rw [linesOf, bytes, rawLines_utf8, textLines, List.map_map, List.map_map]
  exact List.map_congr_left fun line _ => isRead line

end Terminal

/-! ## Lines that answer a question -/

/-- The line says something that is not among the options. -/
def PromptRequest.Refuses (request : PromptRequest) (line : String) : Prop :=
  Text.isBlankText line = false ∧ request.resolve? line = none

/-- The white space around an answer does not matter. -/
theorem PromptRequest.resolve?_trim (request : PromptRequest) (line : String) :
    request.resolve? (Text.trim line) = request.resolve? line := by
  have same : Text.fold (Text.trim line) = Text.fold line := by
    rw [Text.fold, Text.fold, Text.trim, Text.trim, String.toList_ofList, Chars.trim_trim]
  rw [resolve?, same, resolve?]

theorem Text.trim_eq_empty_iff {line : String} : Text.trim line = "" ↔ isBlankText line = true := by
  rw [Text.trim, isBlankText, List.all_eq_true, ← Chars.trim_eq_nil_iff, String.ofList_eq_empty_iff]

namespace Terminal

/-- How the lines that are read for a question make its answer, when so many attempts are left and
these lines are still behind them. A blank line is no answer, whatever the options are. -/
inductive Reads (request : PromptRequest) (attempts : Nat) :
    List String → List String → PromptResponse → Prop
  | answered {refused rest : List String} {line : String} {response : PromptResponse}
      (few : refused.length < attempts) (refuses : ∀ other ∈ refused, request.Refuses other)
      (filled : Text.isBlankText line = false) (resolves : request.resolve? line = some response) :
      Reads request attempts (refused ++ [line]) rest response
  | blank {refused rest : List String} {line : String}
      (few : refused.length < attempts) (refuses : ∀ other ∈ refused, request.Refuses other)
      (blank : Text.isBlankText line = true) :
      Reads request attempts (refused ++ [line]) rest .noAnswer
  | ended {refused : List String}
      (few : refused.length < attempts) (refuses : ∀ other ∈ refused, request.Refuses other) :
      Reads request attempts refused [] .noAnswer
  | exhausted {refused rest : List String}
      (all : refused.length = attempts) (refuses : ∀ other ∈ refused, request.Refuses other) :
      Reads request attempts refused rest .noAnswer

variable {request : PromptRequest} {attempts : Nat} {block rest : List String} {line : String}
  {response : PromptResponse} {terminal : Terminal}

theorem Reads.length_le (reads : Reads request attempts block rest response) :
    block.length ≤ attempts := by
  cases reads with
  | answered few => simpa using Nat.succ_le_of_lt few
  | blank few => simpa using Nat.succ_le_of_lt few
  | ended few => exact few.le
  | exhausted all => exact all.le

/-- A refused line costs an attempt. -/
theorem Reads.again (refuses : request.Refuses line)
    (reads : Reads request attempts block rest response) :
    Reads request (attempts + 1) (line :: block) rest response := by
  have all {refused : List String} (others : ∀ other ∈ refused, request.Refuses other) :
      ∀ other ∈ line :: refused, request.Refuses other :=
    List.forall_mem_cons.mpr ⟨refuses, others⟩
  cases reads with
  | answered few others filled resolves =>
      rw [← List.cons_append]
      exact .answered (Nat.succ_lt_succ few) (all others) filled resolves
  | blank few others blank =>
      rw [← List.cons_append]
      exact .blank (Nat.succ_lt_succ few) (all others) blank
  | ended few others => exact .ended (Nat.succ_lt_succ few) (all others)
  | exhausted count others => exact .exhausted (congrArg Nat.succ count) (all others)

/-- The screen works, and these lines are there to be read. -/
structure Awaits (terminal : Terminal) (lines : List String) : Prop where
  works : terminal.broken = false
  input : terminal.input = lines.map some

theorem Typed.awaits {later : Terminal} {lines : List String} (typed : terminal.Typed later)
    (awaits : terminal.Awaits lines) : later.Awaits lines :=
  ⟨typed.broken.trans awaits.works, typed.input.trans awaits.input⟩

theorem readAnswer_text (awaits : terminal.Awaits (line :: rest)) :
    terminal.readAnswer.2.Awaits rest ∧
    terminal.readAnswer.1 =
      if Text.isBlankText line then none else some (Text.trim line) := by
  rw [readAnswer, awaits.input]
  refine ⟨⟨awaits.works, rfl⟩, ?_⟩
  by_cases blank : Text.isBlankText line = true
  · simp [blank, Text.trim_eq_empty_iff.mpr blank]
  · have filled : Text.trim line ≠ "" := mt Text.trim_eq_empty_iff.mp blank
    simp [blank, filled]

/-- What one attempt reads: one line, unless the input is over. -/
theorem receive_text (request : PromptRequest) {lines : List String}
    (awaits : terminal.Awaits lines) :
    (terminal.receive request).2.Awaits lines.tail ∧
    (terminal.receive request).1 =
      match lines with
      | [] => some .noAnswer
      | line :: _ => if Text.isBlankText line then some .noAnswer else request.resolve? line := by
  cases lines with
  | nil =>
      have ended : terminal.readAnswer = (none, terminal) := by
        rw [readAnswer, awaits.input]
        rfl
      rw [receive, ended]
      exact ⟨(typed_emit _ _).awaits awaits, rfl⟩
  | cons line rest =>
      have read := readAnswer_text awaits
      revert read
      rw [receive]
      rcases terminal.readAnswer with ⟨answer, later⟩
      rintro ⟨left, rfl⟩
      by_cases blank : Text.isBlankText line = true
      · simp only [if_pos blank]
        exact ⟨(typed_emit _ _).awaits left, trivial⟩
      · simp only [if_neg blank, request.resolve?_trim]
        cases request.resolve? line with
        | some response => exact ⟨left, rfl⟩
        | none => exact ⟨(typed_emit _ _).awaits left, rfl⟩

theorem askFor_reads (request : PromptRequest) (attempts : Nat) {lines : List String}
    (awaits : terminal.Awaits lines) :
    ∃ block rest, lines = block ++ rest ∧ (askFor request attempts terminal).2.Awaits rest ∧
      Reads request attempts block rest (askFor request attempts terminal).1 := by
  induction attempts generalizing terminal lines with
  | zero => exact ⟨[], lines, rfl, awaits, .exhausted rfl (by simp)⟩
  | succ attempts induction =>
      have invited : (terminal.invite request).Awaits lines :=
        (typed_invite request terminal).awaits awaits
      have received := receive_text request invited
      revert received
      rw [askFor]
      rcases (terminal.invite request).receive request with ⟨answer, later⟩
      rintro ⟨left, isAnswer⟩
      cases lines with
      | nil =>
          subst isAnswer
          exact ⟨[], [], rfl, left, .ended (Nat.succ_pos _) (by simp)⟩
      | cons line rest =>
          by_cases blank : Text.isBlankText line = true
          · rw [show answer = some .noAnswer from isAnswer.trans (if_pos blank)]
            have reads : Reads request (attempts + 1) ([] ++ [line]) rest .noAnswer :=
              .blank (Nat.succ_pos _) (by simp) blank
            exact ⟨[line], rest, rfl, left, reads⟩
          · have resolves : answer = request.resolve? line := isAnswer.trans (if_neg blank)
            have filled : Text.isBlankText line = false := Bool.eq_false_iff.mpr blank
            cases answer with
            | some response =>
                have reads : Reads request (attempts + 1) ([] ++ [line]) rest response :=
                  .answered (Nat.succ_pos _) (by simp) filled resolves.symm
                exact ⟨[line], rest, rfl, left, reads⟩
            | none =>
                rcases induction left with ⟨block, behind, whole, awaits, reads⟩
                exact ⟨line :: block, behind, congrArg (line :: ·) whole, awaits,
                  reads.again ⟨filled, resolves.symm⟩⟩

theorem ask_reads (request : PromptRequest) {lines : List String}
    (awaits : terminal.Awaits lines) :
    ∃ block rest, lines = block ++ rest ∧ (terminal.ask request).2.Awaits rest ∧
      Reads request greatestAttempts block rest (terminal.ask request).1 := by
  rw [ask, if_neg (by simp [awaits.works])]
  exact askFor_reads request _ ((typed_pose request terminal).awaits awaits)

end Terminal

/-! ## Questions one after the other -/

/-- What a person is shown or asked. -/
inductive Act where
  | notify (notice : Notice)
  | ask (request : PromptRequest)

def Act.request? : Act → Option PromptRequest
  | .notify _ => none
  | .ask request => some request

namespace Terminal

/-- The responses, and the terminal at the end. -/
def perform : List Act → Terminal → List PromptResponse × Terminal
  | [], terminal => ([], terminal)
  | .notify notice :: rest, terminal => perform rest (terminal.notify notice)
  | .ask request :: rest, terminal =>
      let (response, terminal) := terminal.ask request
      let (responses, terminal) := perform rest terminal
      (response :: responses, terminal)

/-- Each question is answered from a block of lines that begins where the block of the question
before it ends. -/
inductive Converses : List PromptRequest → List (List String) → List PromptResponse →
    List String → Prop
  | nothing (rest : List String) : Converses [] [] [] rest
  | asked {request : PromptRequest} {requests : List PromptRequest} {block : List String}
      {blocks : List (List String)} {response : PromptResponse} {responses : List PromptResponse}
      {rest : List String}
      (reads : Reads request greatestAttempts block (blocks.flatten ++ rest) response)
      (later : Converses requests blocks responses rest) :
      Converses (request :: requests) (block :: blocks) (response :: responses) rest

variable {requests : List PromptRequest} {blocks : List (List String)}
  {responses : List PromptResponse} {rest : List String} {terminal : Terminal}

theorem Converses.each_le (converses : Converses requests blocks responses rest) :
    ∀ block ∈ blocks, block.length ≤ greatestAttempts := by
  induction converses with
  | nothing => simp
  | asked reads _ induction => exact List.forall_mem_cons.mpr ⟨reads.length_le, induction⟩

theorem Converses.length_le (converses : Converses requests blocks responses rest) :
    blocks.flatten.length ≤ greatestAttempts * requests.length := by
  induction converses with
  | nothing => simp
  | asked reads _ induction =>
      have one := reads.length_le
      rw [List.flatten_cons, List.length_append, List.length_cons, Nat.mul_succ]
      omega

theorem perform_converses (acts : List Act) {lines : List String}
    (awaits : terminal.Awaits lines) :
    ∃ blocks rest, lines = blocks.flatten ++ rest ∧ (perform acts terminal).2.Awaits rest ∧
      Converses (acts.filterMap Act.request?) blocks (perform acts terminal).1 rest := by
  induction acts generalizing terminal lines with
  | nil => exact ⟨[], lines, rfl, awaits, .nothing lines⟩
  | cons act acts induction =>
      cases act with
      | notify notice => exact induction ((typed_notify notice terminal).awaits awaits)
      | ask request =>
          rcases ask_reads request awaits with ⟨block, behind, rfl, left, reads⟩
          rcases induction left with ⟨blocks, rest, rfl, last, converses⟩
          exact ⟨block :: blocks, rest, by simp, last, .asked reads converses⟩

/-- Every question is answered from at most three lines of the input, which follow those of the
question before it, whatever is shown in between; the other lines are left. -/
theorem answers_from_blocks (ink : Ink) (width : Nat) (text : String) (acts : List Act) :
    let start := opened ink width (linesOf text.toUTF8.data.toList)
    let requests := acts.filterMap Act.request?
    ∃ blocks rest,
      textLines text = blocks.flatten ++ rest ∧
      (perform acts start).2.input = rest.map some ∧
      Converses requests blocks (perform acts start).1 rest ∧
      (∀ block ∈ blocks, block.length ≤ 3) ∧
      blocks.flatten.length ≤ 3 * requests.length := by
  intro start requests
  have awaits : start.Awaits (textLines text) := ⟨rfl, linesOf_toUTF8 text⟩
  rcases perform_converses acts awaits with ⟨blocks, rest, whole, left, converses⟩
  exact ⟨blocks, rest, whole, left.input, converses, converses.each_le, converses.length_le⟩

end Terminal

end Triage
