import Triage.Config
import Triage.Proofs.Files.Disk
import Triage.Proofs.Files.Path
import Triage.Proofs.Job
import Triage.Proofs.Value.Json
import Triage.Renderer.EventLog

namespace Triage

namespace Config

open Json

variable {α : Type} {name : String} {decode : Node → Option α} {node : Node} {config : Config}

/-! ## What a file tells -/

def interface? (node : Node) : Option Interface :=
  node.choice?.bind Interface.ofName?

/-- The value of a field, if the tree tells of it. -/
def value? (name : String) (decode : Node → Option α) (node : Node) : Option α :=
  (node.field? fields name).bind decode

/-- If the tree tells of the field, it does so with a value of its kind. -/
def fits (name : String) (decode : Node → Option α) (node : Node) : Bool :=
  (node.field? fields name).all fun held => (decode held).isSome

/-- The tree can be read as settings. -/
def isSettings (node : Node) : Bool :=
  node.isRecord fields && fits "auto" Node.bool? node && fits "report_dir" directory? node &&
    fits "interface" interface? node && fits "color" Node.bool? node &&
    fits "wrap_width" (Node.nat? (twoPow 64)) node &&
    fits "max_retests" (Node.nat? (twoPow 32)) node

theorem withDefault?_eq {slot : Slot} (same : slot.node? = node.field? fields name) (default : α) :
    slot.withDefault? default decode =
      if fits name decode node then some ((value? name decode node).getD default) else none := by
  rw [Slot.withDefault?_eq, same, fits, value?]
  cases node.field? fields name with
  | none => rfl
  | some held => cases isValue : decode held <;> simp [isValue]

theorem guarded_bind {β : Type} (holds : Bool) (value : α) (next : α → Option β) :
    (if holds then some value else none).bind next = if holds then next value else none := by
  cases holds <;> rfl

/-- Reading a tree, field by field. -/
theorem ofNode?_eq (node : Node) :
    ofNode? node = if isSettings node then some {
        auto := (value? "auto" Node.bool? node).getD standard.auto
        reportDirectory := (value? "report_dir" directory? node).getD standard.reportDirectory
        interface := (value? "interface" interface? node).getD standard.interface
        color := (value? "color" Node.bool? node).getD standard.color
        width := (value? "wrap_width" (Node.nat? (twoPow 64)) node).getD standard.width
        retests := (value? "max_retests" (Node.nat? (twoPow 32)) node).getD standard.retests }
      else none := by
  cases isRecord : node.isRecord fields with
  | false => simp [ofNode?, isSettings, slots?_eq_none isRecord, isRecord]
  | true =>
      rcases slots?_eq_some (by decide) isRecord with ⟨slots, areSlots, areNodes⟩
      -- There are as many slots as fields; no other length is possible.
      rcases slots with _ | ⟨auto, _ | ⟨directory, _ | ⟨interface, _ | ⟨color, _ | ⟨width,
        _ | ⟨retests, _ | ⟨other, more⟩⟩⟩⟩⟩⟩⟩ <;>
        simp only [fields, List.map_cons, List.map_nil, List.cons.injEq, reduceCtorEq, and_false,
          and_true] at areNodes
      rcases areNodes with ⟨isAuto, isDirectory, isInterface, isColor, isWidth, isRetests⟩
      have isChoice : (fun node => node.choice?.bind Interface.ofName?) = interface? := rfl
      simp only [ofNode?, areSlots, Option.bind_eq_bind, Option.bind_some, withDefault?_eq isAuto,
        withDefault?_eq isDirectory, withDefault?_eq isInterface, withDefault?_eq isColor,
        withDefault?_eq isWidth, withDefault?_eq isRetests, isChoice, Option.pure_def]
      simp only [guarded_bind, isSettings, isRecord, Bool.true_and, Bool.and_eq_true, ite_and]

/-- The tree of a file, if the file is there and makes sense. -/
def filed? (content : Option String) : Option Node :=
  (content.bind fun text => Node.read? text.toList).filter isSettings

/-- The value of a field, if the file tells of it. -/
def told? (name : String) (decode : Node → Option α) (content : Option String) : Option α :=
  (filed? content).bind (value? name decode)

/-- What comes of reading a file. -/
def held : Option String → Except FileError String
  | some text => .ok text
  | none => .error .notFound

/-- Each setting is what is said for the session, else what the file tells, else the standard;
whoever named the directory may have used a tilde. -/
def layered (home : String) (content : Option String) (overrides : Overrides) : Config where
  auto := (overrides.auto.or (told? "auto" Node.bool? content)).getD standard.auto
  reportDirectory :=
    (((overrides.reportDirectory.map some).or (told? "report_dir" directory? content)).getD
      standard.reportDirectory).map (Path.expandTilde home)
  interface := (overrides.interface.or (told? "interface" interface? content)).getD
    standard.interface
  color := (overrides.color.or (told? "color" Node.bool? content)).getD standard.color
  width := (told? "wrap_width" (Node.nat? (twoPow 64)) content).getD standard.width
  retests := (told? "max_retests" (Node.nat? (twoPow 32)) content).getD standard.retests

/-- Nothing is said for the session. -/
def Overrides.silent : Overrides :=
  ⟨none, none, none, none⟩

theorem ofText_eq (home text : String) :
    ofText home text = layered home (some text) .silent := by
  unfold ofText read? layered told? filed?
  rw [Option.bind_some]
  cases Node.read? text.toList with
  | none => rfl
  | some node =>
      rw [Option.bind_some, ofNode?_eq, Option.filter_some]
      cases isSettings node <;> rfl

theorem ofFile_held (home : String) (content : Option String) :
    ofFile home (held content) = .ok (layered home content .silent) := by
  cases content with
  | none => rfl
  | some text => exact congrArg Except.ok (ofText_eq home text)

theorem override_layered (home : String) (content : Option String) (overrides : Overrides) :
    (layered home content .silent).override home overrides = layered home content overrides := by
  rcases overrides with ⟨auto, directory, interface, color⟩
  cases auto <;> cases directory <;> cases interface <;> cases color <;> rfl

/-! ## Reading back -/

/-- The numbers fit the words that hold them. -/
structure WellFormed (config : Config) : Prop where
  width : config.width < 2 ^ 64
  retests : config.retests < 2 ^ 32

theorem ofNode?_toNode (wellFormed : config.WellFormed) : ofNode? config.toNode = some config := by
  have slots : config.toNode.slots? fields = some [.present (.bool config.auto),
      .present (.ofOption .string config.reportDirectory),
      .present (.string config.interface.name), .present (.bool config.color),
      .present (.ofNat config.width), .present (.ofNat config.retests)] := rfl
  have isDirectory : directory? (.ofOption .string config.reportDirectory) =
      some config.reportDirectory := by
    cases config.reportDirectory <;> rfl
  have isInterface : Interface.ofName? config.interface.name = some config.interface := by
    cases config.interface <;> rfl
  have isWidth : (Node.ofNat config.width).nat? (twoPow 64) = some config.width :=
    nat?_ofNat wellFormed.width (Nat.le_refl _)
  have isRetests : (Node.ofNat config.retests).nat? (twoPow 32) = some config.retests :=
    nat?_ofNat wellFormed.retests (by decide)
  rw [ofNode?, slots]
  simp [Slot.withDefault?, Node.bool?, Node.choice?, isDirectory, isInterface, isWidth, isRetests]

theorem plain_toNode (config : Config) : config.toNode.Plain := by
  refine .object ?_
  simp only [List.forall_mem_cons]
  exact ⟨.bool _, plain_ofOption .string _, .string _, .bool _, .number config.width,
    .number config.retests, nofun⟩

theorem read?_text (wellFormed : config.WellFormed) : read? config.text = some config := by
  rw [read?, text, String.toList_ofList, read?_pretty (plain_toNode config), Option.bind_some,
    ofNode?_toNode wellFormed]

theorem lt_of_nat? {bound value : Nat} (found : node.nat? bound = some value) : value < bound := by
  unfold Node.nat? at found
  split at found
  · split at found
    · next number _ =>
      rw [Option.ite_none_right_eq_some] at found
      rcases found with ⟨fits, same⟩
      cases same
      exact fits.2
    · cases found
  · cases found

theorem told?_lt {bound value : Nat} {content : Option String}
    (found : told? name (Node.nat? bound) content = some value) : value < bound := by
  rcases Option.bind_eq_some_iff.mp found with ⟨node, -, isValue⟩
  rcases Option.bind_eq_some_iff.mp isValue with ⟨field, -, isNumber⟩
  exact lt_of_nat? isNumber

theorem getD_told?_lt {bound default : Nat} (small : default < bound) (name : String)
    (content : Option String) : (told? name (Node.nat? bound) content).getD default < bound := by
  cases found : told? name (Node.nat? bound) content with
  | none => exact small
  | some value => exact told?_lt found

theorem wellFormed_layered (home : String) (content : Option String) (overrides : Overrides) :
    (layered home content overrides).WellFormed where
  width := @getD_told?_lt (twoPow 64) standard.width (by decide) "wrap_width" content
  retests := @getD_told?_lt (twoPow 32) standard.retests (by decide) "max_retests" content

/-- A directory that was expanded once is expanded for good. -/
theorem expand_layered {home : String} (anchored : Path.Anchored home.toList)
    (content : Option String) (overrides : Overrides) :
    (layered home content overrides).expand home = layered home content overrides := by
  have again : Path.expandTilde home ∘ Path.expandTilde home = Path.expandTilde home :=
    funext (Path.expandTilde_expandTilde anchored)
  simp only [expand, layered, Option.map_map, again]

theorem ofText_layered {home : String} (anchored : Path.Anchored home.toList)
    (content : Option String) (overrides : Overrides) :
    ofText home (layered home content overrides).text = layered home content overrides := by
  rw [ofText, read?_text (wellFormed_layered home content overrides), Option.getD_some,
    expand_layered anchored]

/-! ## Loading and saving -/

section Surroundings

variable {ρ : Type} [Renderer ρ]

theorem exec_load (home path : String) (surroundings : Surroundings ρ) :
    surroundings.exec (load home path) =
      (ofFile home (surroundings.disk.read path), surroundings) := by
  rw [load, Surroundings.exec_bind, Surroundings.exec_effect]
  rfl

/-- A file is written exactly where the path leads to something that is no directory. -/
theorem exec_writeFile (path text : String) (surroundings : Surroundings ρ) :
    ∃ saved later, surroundings.exec (Job.writeFile path text) = (saved, later) ∧
      (saved = .ok () ↔ ∃ place, surroundings.disk.locate path = .ok place ∧
        ¬surroundings.disk.IsDirectory place) ∧
      (saved = .ok () → later.disk.read path = .ok text) := by
  cases written : surroundings.disk.write path text with
  | error error =>
      refine ⟨.error error, surroundings, Surroundings.handle_writeFile_error written, ?_, nofun⟩
      refine ⟨nofun, fun ⟨place, located, free⟩ => ?_⟩
      have puts : surroundings.disk.write path text = .ok (surroundings.disk.putFile place text) :=
        Disk.write_eq_ok.mpr ⟨place, located, free, rfl⟩
      rw [written] at puts
      cases puts
  | ok disk =>
      refine ⟨.ok (), { surroundings with disk := disk },
        Surroundings.handle_writeFile_ok written, ?_, fun _ => Disk.read_write written⟩
      rcases Disk.write_eq_ok.mp written with ⟨place, located, free, -⟩
      exact ⟨fun _ => ⟨place, located, free⟩, fun _ => rfl⟩

/-- Settings are saved exactly where a file can be put, and then their text is there. -/
theorem exec_save (config : Config) (path : String) (surroundings : Surroundings ρ) :
    ∃ saved later, surroundings.exec (config.save path) = (saved, later) ∧
      (saved = .ok () ↔ surroundings.disk.Takes path) ∧
      (saved = .ok () → later.disk.read path = .ok config.text) := by
  unfold save Disk.Takes
  cases Path.parent? path with
  | none =>
      rcases exec_writeFile path config.text surroundings with ⟨saved, later, runs, takes, holds⟩
      exact ⟨saved, later, runs, by simpa using takes, holds⟩
  | some directory =>
      cases makes : surroundings.disk.makeDirectory directory with
      | error error =>
          have fails : surroundings.exec (Job.createDirectory directory) =
              (.error error, surroundings) := Surroundings.handle_createDirectory_error makes
          refine ⟨.error error, surroundings, ?_, by simp [makes], nofun⟩
          rw [Surroundings.exec_bind, fails]
          rfl
      | ok made =>
          have succeeds : surroundings.exec (Job.createDirectory directory) =
              (.ok (), { surroundings with disk := made }) :=
            Surroundings.handle_createDirectory_ok makes
          rcases exec_writeFile path config.text { surroundings with disk := made } with
            ⟨saved, later, runs, takes, holds⟩
          refine ⟨saved, later, ?_, by simpa [makes] using takes, holds⟩
          rw [Surroundings.exec_bind, succeeds]
          exact runs

end Surroundings

/-- Settings are what is said for the session, else what the file tells, else the standard. They
are saved wherever a file can be put, and are read back from there as they were; so a directory
that was expanded is not expanded again. -/
theorem layered_reads_back (home : String) :
    (∀ (ρ : Type) [Renderer ρ] (surroundings : Surroundings ρ) (path : String)
      (content : Option String) (overrides : Overrides),
      surroundings.disk.read path = held content →
      ∃ config, surroundings.exec (load home path) = (.ok config, surroundings) ∧
        config.override home overrides = layered home content overrides) ∧
    (Path.Anchored home.toList →
      (∀ path, Path.expandTilde home (Path.expandTilde home path) = Path.expandTilde home path) ∧
      ∀ (ρ : Type) [Renderer ρ] (surroundings : Surroundings ρ) (content : Option String)
        (overrides : Overrides) (target : String),
        ∃ saved later,
          surroundings.exec ((layered home content overrides).save target) = (saved, later) ∧
          (saved = .ok () ↔ surroundings.disk.Takes target) ∧
          (saved = .ok () →
            later.exec (load home target) = (.ok (layered home content overrides), later))) := by
  refine ⟨fun ρ _ surroundings path content overrides isHeld => ?_, fun anchored => ⟨?_, ?_⟩⟩
  · refine ⟨layered home content .silent, ?_, override_layered home content overrides⟩
    rw [exec_load, isHeld, ofFile_held]
  · exact Path.expandTilde_expandTilde anchored
  · intro ρ _ surroundings content overrides target
    rcases exec_save (layered home content overrides) target surroundings with
      ⟨saved, later, saves, takes, holds⟩
    refine ⟨saved, later, saves, takes, fun succeeds => ?_⟩
    rw [exec_load, holds succeeds, ofFile, ofText_layered anchored]

end Config

namespace Sample

/-- A directory with a tilde and blanks around it, a width and an unknown field. -/
def settingsText : String :=
  "\x7b\"report_dir\": \" ~/reports \", \"wrap_width\": 72, \"theme\": [1]\x7d"

def desk : Surroundings EventLog :=
  .opened (.withAnswers []) (fun _ => "x") (fun _ => ⟨0, 0⟩)
    ⟨[(["settings.json"], settingsText)], [], []⟩

/-- What the file comes to where somebody asked for no color. -/
def colorless : Config :=
  ⟨false, some "/home/person/reports", .terminal, false, 72, 3⟩

end Sample

namespace Config

open Sample in
/-- Settings are loaded, changed, saved in a new directory and loaded again. -/
theorem layered_reads_back_tilde :
    desk.disk.read "settings.json" = held (some settingsText) ∧
      Path.Anchored "/home/person".toList ∧
      ∃ config later, desk.exec (load "/home/person" "settings.json") = (.ok config, desk) ∧
        config.override "/home/person" ⟨none, none, none, some false⟩ = colorless ∧
        desk.exec (colorless.save "kept/settings.json") = (.ok (), later) ∧
        later.exec (load "/home/person" "kept/settings.json") = (.ok colorless, later) := by
  have isRead : desk.disk.read "settings.json" = held (some settingsText) := rfl
  have anchored : Path.Anchored "/home/person".toList := ⟨by decide, by decide⟩
  have same : layered "/home/person" (some settingsText) ⟨none, none, none, some false⟩ =
      colorless := by
    decide
  have takes : desk.disk.Takes "kept/settings.json" :=
    ⟨⟨[(["settings.json"], settingsText)], [["kept"]], []⟩, ["kept", "settings.json"], rfl, rfl,
      nofun⟩
  rcases layered_reads_back "/home/person" with ⟨loads, keeps⟩
  rcases loads EventLog desk "settings.json" (some settingsText) ⟨none, none, none, some false⟩
    isRead with ⟨config, isLoaded, changed⟩
  rcases (keeps anchored).2 EventLog desk (some settingsText) ⟨none, none, none, some false⟩
    "kept/settings.json" with ⟨saved, later, saves, succeeds, again⟩
  obtain rfl := succeeds.mpr takes
  rw [same] at changed saves
  refine ⟨isRead, anchored, config, later, isLoaded, changed, saves, ?_⟩
  exact same ▸ again rfl

end Config

end Triage
