import Triage.Files.Disk
import Triage.Proofs.Entries

namespace Triage

namespace Disk

variable {disk other made later : Disk} {place : Place} {path text : String}

/-! ## Directories -/

def IsDirectory (disk : Disk) (place : Place) : Prop :=
  disk.entry? place = some .directory

/-- Where a segment of a path leads. -/
def enter (place : Place) (segment : String) : Place :=
  if segment == ".." then place.dropLast else place ++ [segment]

theorem follow_cons (segment : String) (rest : List String) :
    disk.follow place (segment :: rest) =
      match disk.entry? place with
      | none => .error .notFound
      | some (.file _) => .error .notDirectory
      | some .directory => disk.follow (enter place segment) rest := by
  simp only [follow, enter]
  rcases disk.entry? place with _ | text | _
  · rfl
  · rfl
  · exact (apply_ite (disk.follow · rest) _ _ _).symm

theorem makeFrom_cons (segment : String) (rest : List String) :
    disk.makeFrom place (segment :: rest) =
      match disk.entry? (enter place segment) with
      | some .directory => disk.makeFrom (enter place segment) rest
      | some (.file _) => .error (if rest.isEmpty then .exists else .notDirectory)
      | none =>
          makeFrom { disk with directories := disk.directories ++ [enter place segment] }
            (enter place segment) rest := rfl

/-- The same places are directories. What files there are does not matter. -/
structure Agrees (disk other : Disk) : Prop where
  here : other.here = disk.here
  directories : ∀ place, other.IsDirectory place ↔ disk.IsDirectory place

namespace Agrees

theorem refl : disk.Agrees disk :=
  ⟨rfl, fun _ => .rfl⟩

theorem symm (agrees : disk.Agrees other) : other.Agrees disk :=
  ⟨agrees.here.symm, fun place => (agrees.directories place).symm⟩

theorem trans (first : disk.Agrees other) (second : other.Agrees later) : disk.Agrees later :=
  ⟨second.here.trans first.here, fun place =>
    (second.directories place).trans (first.directories place)⟩

end Agrees

/-! ## Writing files -/

/-- Whether a path leads to a place depends on the directories only. -/
theorem follow_agrees (agrees : disk.Agrees other) {names : List String} {found : Place}
    (follows : disk.follow place names = .ok found) : other.follow place names = .ok found := by
  induction names generalizing place with
  | nil => exact follows
  | cons segment rest induction =>
      rw [follow_cons] at follows ⊢
      cases isDirectory : disk.entry? place with
      | none =>
          rw [isDirectory] at follows
          cases follows
      | some entry =>
          cases entry with
          | file held =>
              rw [isDirectory] at follows
              cases follows
          | directory =>
              rw [isDirectory] at follows
              have also : other.entry? place = some .directory :=
                (agrees.directories place).mpr isDirectory
              rw [also]
              exact induction follows

theorem locate_agrees (agrees : disk.Agrees other) {found : Place}
    (located : disk.locate path = .ok found) : other.locate path = .ok found := by
  have start : other.startOf path = disk.startOf path := by
    simp only [startOf, agrees.here]
  unfold locate at located ⊢
  split at located
  · cases located
  · next named =>
    rw [if_neg named, start]
    exact follow_agrees agrees located

theorem lookup_filter (written : Place) (files : List (Place × String)) :
    (files.filter (·.1 != written)).lookup place =
      if place = written then none else files.lookup place := by
  induction files with
  | nil => simp
  | cons file rest induction =>
      rcases file with ⟨name, held⟩
      by_cases replaced : name = written
      · have skipped : ((name, held) :: rest).filter (·.1 != written) =
            rest.filter (·.1 != written) := by simp [replaced]
        rw [skipped, induction, lookup_cons, replaced]
        split <;> rfl
      · have kept : ((name, held) :: rest).filter (·.1 != written) =
            (name, held) :: rest.filter (·.1 != written) := by simp [replaced]
        rw [kept, lookup_cons, lookup_cons, induction]
        by_cases found : place = name
        · rw [if_pos found, if_pos found, if_neg (found.symm ▸ replaced)]
        · rw [if_neg found, if_neg found]

/-- A file takes the place of the one that was there. -/
theorem entry?_putFile {written : Place} :
    entry? (disk.putFile written text) place =
      if place = written then some (.file text) else disk.entry? place := by
  have held : (disk.putFile written text).files.lookup place =
      if place = written then some text else disk.files.lookup place := by
    simp only [putFile, List.lookup_append, lookup_filter, lookup_cons]
    by_cases same : place = written <;> simp [same]
  unfold entry?
  rw [held]
  by_cases same : place = written
  · rw [if_pos same, if_pos same]
  · rw [if_neg same, if_neg same]
    rfl

theorem agrees_putFile (free : ¬disk.IsDirectory place) :
    disk.Agrees (disk.putFile place text) := by
  refine ⟨rfl, fun other => ?_⟩
  unfold IsDirectory
  rw [entry?_putFile]
  by_cases same : other = place
  · subst same
    have missing : ¬disk.entry? other = some .directory := free
    simp [missing]
  · rw [if_neg same]

theorem write_eq_ok : disk.write path text = .ok later ↔
    ∃ place, disk.locate path = .ok place ∧ ¬disk.IsDirectory place ∧
      later = disk.putFile place text := by
  unfold write IsDirectory
  cases disk.locate path with
  | error error => simp
  | ok place =>
      cases entry : disk.entry? place with
      | none => simp [eq_comm, entry]
      | some kind => cases kind <;> simp [eq_comm, entry]

theorem agrees_write (written : disk.write path text = .ok later) : disk.Agrees later := by
  rcases write_eq_ok.mp written with ⟨place, -, free, rfl⟩
  exact agrees_putFile free

/-- What was written is there to be read. -/
theorem read_write (written : disk.write path text = .ok later) : later.read path = .ok text := by
  have agrees := agrees_write written
  rcases write_eq_ok.mp written with ⟨place, located, -, rfl⟩
  rw [read, locate_agrees agrees located]
  simp [entry?_putFile]

/-- Where the same places are directories, the same texts can be written. -/
theorem write_agrees (agrees : disk.Agrees other) (written : disk.write path text = .ok later) :
    ∃ also, other.write path text = .ok also ∧ later.Agrees also := by
  rcases write_eq_ok.mp written with ⟨place, located, free, rfl⟩
  have alsoFree : ¬other.IsDirectory place := fun isDirectory =>
    free ((agrees.directories place).mp isDirectory)
  refine ⟨other.putFile place text,
    write_eq_ok.mpr ⟨place, locate_agrees agrees located, alsoFree, rfl⟩, ?_⟩
  exact (agrees_putFile free).symm.trans (agrees.trans (agrees_putFile alsoFree))

/-! ## Making directories -/

/-- Everything on the way is a directory. -/
def Leads (disk : Disk) : Place → List String → Prop
  | _, [] => True
  | place, segment :: rest =>
      disk.IsDirectory (enter place segment) ∧ disk.Leads (enter place segment) rest

theorem makeFrom_leads {names : List String} (leads : disk.Leads place names) :
    disk.makeFrom place names = .ok disk := by
  induction names generalizing place with
  | nil => rfl
  | cons segment rest induction =>
      have isDirectory : disk.entry? (enter place segment) = some .directory := leads.1
      rw [makeFrom_cons, isDirectory]
      exact induction leads.2

theorem Leads.agrees {names : List String} (leads : disk.Leads place names)
    (agrees : disk.Agrees other) : other.Leads place names := by
  induction names generalizing place with
  | nil => trivial
  | cons segment rest induction =>
      exact ⟨(agrees.directories _).mpr leads.1, induction leads.2⟩

theorem isDirectory_added (isDirectory : disk.IsDirectory place) (added : Place) :
    IsDirectory { disk with directories := disk.directories ++ [added] } place := by
  unfold IsDirectory entry? at isDirectory ⊢
  cases held : disk.files.lookup place with
  | some text => simp [held] at isDirectory
  | none =>
      simp only [held] at isDirectory ⊢
      split at isDirectory
      · next listed =>
        rw [if_pos]
        simp only [Bool.or_eq_true, List.contains_eq_mem, decide_eq_true_eq] at listed ⊢
        exact listed.imp id fun member => List.mem_append_left _ member
      · cases isDirectory

theorem isDirectory_self (missing : disk.entry? place = none) :
    IsDirectory { disk with directories := disk.directories ++ [place] } place := by
  have held : disk.files.lookup place = none := by
    unfold entry? at missing
    split at missing
    · cases missing
    · assumption
  simp [IsDirectory, entry?, held]

/-- Directories stay, and those that were missing are there. -/
theorem makeFrom_eq_ok {names : List String} (makes : disk.makeFrom place names = .ok made) :
    made.here = disk.here ∧ (∀ other, disk.IsDirectory other → made.IsDirectory other) ∧
      made.Leads place names := by
  induction names generalizing disk place with
  | nil =>
      cases makes
      exact ⟨rfl, fun _ isDirectory => isDirectory, trivial⟩
  | cons segment rest induction =>
      rw [makeFrom_cons] at makes
      cases entry : disk.entry? (enter place segment) with
      | none =>
          rw [entry] at makes
          rcases induction makes with ⟨here, keeps, leads⟩
          exact ⟨here, fun other isDirectory => keeps other (isDirectory_added isDirectory _),
            keeps _ (isDirectory_self entry), leads⟩
      | some kind =>
          rw [entry] at makes
          cases kind with
          | file text => cases makes
          | directory =>
              rcases induction makes with ⟨here, keeps, leads⟩
              exact ⟨here, keeps, keeps _ entry, leads⟩

/-- A directory that was made once need not be made again, whatever is written. -/
theorem makeDirectory_again (makes : disk.makeDirectory path = .ok made)
    (agrees : made.Agrees other) : other.makeDirectory path = .ok other := by
  rcases makeFrom_eq_ok makes with ⟨here, -, leads⟩
  have start : other.startOf path = disk.startOf path := by
    simp only [startOf, agrees.here, here]
  unfold makeDirectory
  rw [start]
  exact makeFrom_leads (leads.agrees agrees)

/-- A file can be put there: its directory can be made, and then the path leads to something
that is no directory. -/
def Takes (disk : Disk) (path : String) : Prop :=
  ∃ made place, (Path.parent? path).elim (.ok disk) disk.makeDirectory = .ok made ∧
    made.locate path = .ok place ∧ ¬made.IsDirectory place

/-! ## The directory of the reports -/

/-- The directory of the reports was made; files may have been written since. -/
def Made (directory : Option String) (initial disk : Disk) : Prop :=
  ∃ path made, directory = some path ∧ initial.makeDirectory path = .ok made ∧ made.Agrees disk

namespace Made

variable {directory : Option String} {initial : Disk}

theorem agrees (first : Made directory initial disk) (second : Made directory initial other) :
    disk.Agrees other := by
  rcases first with ⟨path, made, chosen, makes, agrees⟩
  rcases second with ⟨also, again, same, alsoMakes, alsoAgrees⟩
  rw [chosen] at same
  cases same
  rw [makes] at alsoMakes
  cases alsoMakes
  exact agrees.symm.trans alsoAgrees

theorem written (isMade : Made directory initial disk)
    (writes : disk.write path text = .ok later) : Made directory initial later := by
  rcases isMade with ⟨chosen, made, same, makes, agrees⟩
  exact ⟨chosen, made, same, makes, agrees.trans (agrees_write writes)⟩

theorem makeDirectory (isMade : Made directory initial disk) (chosen : directory = some path) :
    disk.makeDirectory path = .ok disk := by
  rcases isMade with ⟨also, made, same, makes, agrees⟩
  rw [chosen] at same
  cases same
  exact makeDirectory_again makes agrees

end Made

/-- A disk on which at most reports were filed. -/
def Used (directory : Option String) (initial disk : Disk) : Prop :=
  disk = initial ∨ Made directory initial disk

/-- The directory can be made where it could be made at first, and only there. -/
theorem Used.makeDirectory {directory : Option String} {initial : Disk}
    (used : Used directory initial disk) (chosen : directory = some path) :
    (∃ later first, disk.makeDirectory path = .ok later ∧ initial.makeDirectory path = .ok first ∧
      Made directory initial later ∧ Made directory initial first) ∨
    ∃ error, disk.makeDirectory path = .error error ∧
      initial.makeDirectory path = .error error := by
  cases first : initial.makeDirectory path with
  | error error =>
      rcases used with rfl | isMade
      · exact .inr ⟨error, first, rfl⟩
      · rcases isMade with ⟨also, made, same, makes, -⟩
        rw [chosen] at same
        cases same
        rw [first] at makes
        cases makes
  | ok made =>
      have isMade : Made directory initial made := ⟨path, made, chosen, first, .refl⟩
      rcases used with rfl | used
      · exact .inl ⟨made, made, first, rfl, isMade, isMade⟩
      · exact .inl ⟨disk, made, used.makeDirectory chosen, rfl, used, isMade⟩

end Disk

end Triage
