import Mathlib.Algebra.Ring.Parity
import Triage.Proofs.Text.Chars
import Triage.Resource

namespace Triage

namespace Resource

/-! ## Names and their spellings -/

/-- A part of a path: it holds something, and no slash. -/
structure Segment where
  text : String
  filled : text ≠ ""
  whole : '/' ∉ text.toList

def Segment.chars (segment : Segment) : Chars :=
  segment.text.toList

/-- A project, or what is in it: collections, each with the id of one of its members. -/
structure Name where
  project : Segment
  below : List (Segment × Segment)

namespace Name

def collection : Segment :=
  ⟨"projects", by decide, by decide⟩

def pairs (name : Name) : List (Segment × Segment) :=
  (collection, name.project) :: name.below

def segments (name : Name) : List Segment :=
  name.pairs.flatMap fun (collection, id) => [collection, id]

/-- Collections and ids, with slashes between them. -/
def path (name : Name) : String :=
  Text.join "/" (name.segments.map Segment.text)

/-- The ids alone. -/
def shortPath (name : Name) : String :=
  Text.join "/" (name.pairs.map (·.2.text))

/-- The path of the name, with any number of empty segments anywhere behind the first one. -/
def Spells (name : Name) (path : String) : Prop :=
  ∃ rest : List String, rest.filter (· ≠ "") = name.segments.tail.map Segment.text ∧
    path = Text.join "/" (collection.text :: rest)

theorem spells_path (name : Name) : name.Spells name.path := by
  refine ⟨name.segments.tail.map Segment.text, ?_, rfl⟩
  refine List.filter_eq_self.mpr fun text member => ?_
  rcases List.mem_map.mp member with ⟨segment, -, rfl⟩
  simpa using segment.filled

end Name

/-- The address of a service, in front of a name. -/
structure Host where
  text : String
  ends : text = "" ∨ text.toList.getLast? = some '/'
  noProject : ¬"projects/".toList <:+: text.toList

/-! ## Shortening -/

/-- Empty segments do not count. -/
def segmentsOf (path : Chars) : List Chars :=
  (Chars.split '/' path).filter (!·.isEmpty)

theorem segmentsOf_join {pieces : List Chars} (nonempty : pieces ≠ [])
    (whole : ∀ piece ∈ pieces, '/' ∉ piece) :
    segmentsOf (Chars.join ['/'] pieces) = pieces.filter (!·.isEmpty) := by
  rw [segmentsOf, Chars.split_join nonempty whole]

theorem alternate_pairs {α : Type} (pairs : List (α × α)) :
    alternate (pairs.flatMap fun (collection, id) => [collection, id]) = pairs.map (·.2) := by
  induction pairs with
  | nil => rfl
  | cons pair rest induction => simpa [alternate] using induction

theorem length_pairs {α : Type} (pairs : List (α × α)) :
    (pairs.flatMap fun (collection, id) => [collection, id]).length = 2 * pairs.length := by
  simp [List.length_flatMap, Nat.mul_comm]

theorem shorten_of_odd {path inside : Chars} (isInside : dropService path = inside)
    (odd : Odd (segmentsOf inside).length) : shorten path = inside := by
  have remainder : (segmentsOf inside).length % 2 = 1 := Nat.odd_iff.mp odd
  rw [segmentsOf] at remainder
  simp [shorten, isInside, remainder]

theorem shorten_of_pairs {path : Chars} {pairs : List (Chars × Chars)} (some_ : pairs ≠ [])
    (isInside : segmentsOf (dropService path) =
      pairs.flatMap fun (collection, id) => [collection, id]) :
    shorten path = Chars.join ['/'] (pairs.map (·.2)) := by
  rcases List.exists_cons_of_ne_nil some_ with ⟨pair, rest, rfl⟩
  have even := length_pairs (pair :: rest)
  rw [segmentsOf] at isInside
  rw [← isInside] at even
  have remainder : ((Chars.split '/' (dropService path)).filter (!·.isEmpty)).length % 2 = 0 := by
    omega
  have filled : ((Chars.split '/' (dropService path)).filter (!·.isEmpty)).isEmpty = false := by
    rw [isInside]
    rfl
  simp only [shorten, remainder, filled, Bool.false_or]
  rw [if_neg (by decide), isInside, alternate_pairs]

/-! ## What stands in front of a path -/

variable {path service : Chars}

theorem dropService_unserved (unserved : ¬['/', '/'] <+: path) : dropService path = path := by
  unfold dropService
  split
  · next rest => exact absurd ⟨rest, rfl⟩ unserved
  · rfl

theorem dropService_served (whole : '/' ∉ service) (path : Chars) :
    dropService ('/' :: '/' :: (service ++ '/' :: path)) = path := by
  rw [dropService, Chars.cut?_append_cons whole]

/-- The name of the first collection ends with its only slash, so that it cannot begin in front
of a slash and end behind it. -/
theorem findFrom?_host (host : Host) {path : Chars} (names : "projects/".toList <+: path) :
    Chars.findFrom? "projects/".toList (host.text.toList ++ path) = some path := by
  refine Chars.findFrom?_append names fun later isSuffix filled begins => ?_
  have slash : later.getLast? = some '/' := by
    rcases host.ends with empty | ends
    · rw [empty] at isSuffix
      exact absurd (List.suffix_nil.mp isSuffix) filled
    · rcases isSuffix with ⟨front, whole⟩
      rw [← whole, List.getLast?_append_of_ne_nil _ filled] at ends
      exact ends
  rcases List.prefix_or_prefix_of_prefix begins (List.prefix_append later path) with
    inside | ⟨rest, whole⟩
  · exact host.noProject (inside.isInfix.trans isSuffix.isInfix)
  rcases List.eq_nil_or_concat rest with rfl | ⟨more, last, rfl⟩
  · rw [List.append_nil] at whole
    exact host.noProject (whole ▸ isSuffix.isInfix)
  · have slashes : '/' ∉ "projects/".toList.dropLast := by decide
    rw [← whole, List.concat_eq_append, ← List.append_assoc, List.dropLast_concat] at slashes
    exact slashes (List.mem_append_left _ (List.mem_of_getLast? slash))

/-! ## Names in front of which a service may stand -/

variable {name : Name} {text : String}

/-- A path as it is found at a service, if one is given. -/
def served (service? : Option String) (path : String) : String :=
  match service? with
  | none => path
  | some service => "//" ++ service ++ "/" ++ path

theorem dropService_of_served {service : String} (whole : '/' ∉ service.toList) (path : String) :
    dropService (served (some service) path).toList = path.toList := by
  have parts : (served (some service) path).toList =
      '/' :: '/' :: (service.toList ++ '/' :: path.toList) := by
    simp [served]
  rw [parts, dropService_served whole]

theorem dropService_of_alone (whole : '/' ∉ text.toList) :
    dropService ("//" ++ text).toList = text.toList := by
  rw [String.toList_append]
  show dropService ('/' :: '/' :: text.toList) = text.toList
  rw [dropService, Chars.cut?_eq_none whole]

theorem ofPath_eq {short : Chars} (shortens : shorten text.toList = short) :
    ofPath text = ⟨text, String.ofList short⟩ := by
  rw [ofPath, shortens]

/-- The empty segments that a spelling may have are left out. -/
theorem Name.Spells.segmentsOf (spells : name.Spells text) :
    segmentsOf text.toList = name.segments.map Segment.chars := by
  rcases spells with ⟨rest, filled, rfl⟩
  have whole : ∀ piece ∈ (collection.text :: rest).map String.toList, '/' ∉ piece := by
    intro piece member
    rcases List.mem_map.mp member with ⟨part, isPart, rfl⟩
    rcases List.mem_cons.mp isPart with rfl | later
    · exact collection.whole
    by_cases empty : part = ""
    · rw [empty]
      exact List.not_mem_nil
    · have isSegment : part ∈ rest.filter (· ≠ "") :=
        List.mem_filter.mpr ⟨later, decide_eq_true empty⟩
      rw [filled] at isSegment
      rcases List.mem_map.mp isSegment with ⟨segment, -, rfl⟩
      exact segment.whole
  have kept : (rest.map String.toList).filter (!·.isEmpty) =
      (rest.filter (· ≠ "")).map String.toList := by
    rw [List.filter_map]
    congr 1
    refine List.filter_congr fun part _ => ?_
    by_cases empty : part = ""
    · simp [empty]
    · have filled : part.toList ≠ [] := mt String.toList_eq_nil_iff.mp empty
      simp [empty, filled]
  have slash : "/".toList = ['/'] := rfl
  rw [Text.join, String.toList_ofList, slash, segmentsOf_join (by simp) whole, List.map_cons,
    List.filter_cons_of_pos (by decide), kept, filled, List.map_map]
  rfl

/-- A spelling starts with its first collection, and not with a slash. -/
theorem Name.Spells.unserved (spells : name.Spells text) : ¬['/', '/'] <+: text.toList := by
  rcases spells with ⟨rest, -, rfl⟩
  rintro ⟨more, slashes⟩
  cases rest with
  | nil => cases slashes
  | cons second rest =>
      rw [Text.join, String.toList_ofList, List.map_cons, List.map_cons,
        Chars.join_cons_cons] at slashes
      cases slashes

theorem dropService_spelled {service? : Option String} (spells : name.Spells text)
    (whole : ∀ service ∈ service?, '/' ∉ service.toList) :
    dropService (served service? text).toList = text.toList := by
  cases service? with
  | none => exact dropService_unserved spells.unserved
  | some service => exact dropService_of_served (whole service rfl) text

theorem ofPath_spelled {service? : Option String} (spells : name.Spells text)
    (whole : ∀ service ∈ service?, '/' ∉ service.toList) :
    ofPath (served service? text) = ⟨served service? text, name.shortPath⟩ := by
  let pairs : List (Chars × Chars) := name.pairs.map fun (collection, id) =>
    (collection.chars, id.chars)
  have isInside : segmentsOf (dropService (served service? text).toList) =
      pairs.flatMap fun (collection, id) => [collection, id] := by
    rw [dropService_spelled spells whole, spells.segmentsOf, Name.segments, List.map_flatMap,
      List.flatMap_map]
    rfl
  have ids : pairs.map (·.2) = (name.pairs.map (·.2.text)).map String.toList := by
    rw [List.map_map, List.map_map]
    rfl
  have nonempty : pairs ≠ [] := List.cons_ne_nil _ _
  rw [ofPath_eq (shorten_of_pairs nonempty isInside), ids]
  rfl

theorem ofPath_odd {inside : String} (isInside : dropService text.toList = inside.toList)
    (odd : Odd (segmentsOf inside.toList).length) : ofPath text = ⟨text, inside⟩ := by
  rw [ofPath_eq (shorten_of_odd isInside odd), String.ofList_toList]

theorem ofObject?_linked {object : Value} (host : Host)
    (links : object.textField? "selfLink" = some (host.text ++ name.path)) :
    ofObject? object = some (ofPath name.path) := by
  have names : "projects/".toList <+: name.path.toList := by
    refine ⟨Chars.join ['/'] ((name.segments.tail.map Segment.text).map String.toList), ?_⟩
    simp only [Name.path, Text.join, String.toList_ofList]
    rfl
  have found := findFrom?_host host names
  rw [← String.toList_append] at found
  simp only [ofObject?, links, bind, Option.bind, found, Option.getD_some, String.ofList_toList]
  rfl

/-- The link of an object to itself gives its name, wherever the object is found. All spellings
of a name are shortened to its ids, at a service or not, and of a path that does not pair
collections with ids only the service is left out. -/
theorem names_shortened (name : Name) :
    (∀ (host : Host) (object : Value),
      object.textField? "selfLink" = some (host.text ++ name.path) →
        ofObject? object = some ⟨name.path, name.shortPath⟩) ∧
    (∀ (path : String) (service? : Option String), name.Spells path →
      (∀ service ∈ service?, '/' ∉ service.toList) →
        ofPath (served service? path) = ⟨served service? path, name.shortPath⟩) ∧
    ∀ path : String, Odd (segmentsOf path.toList).length →
      (¬"//".toList <+: path.toList → ofPath path = ⟨path, path⟩) ∧
        (∀ service : String, '/' ∉ service.toList →
          ofPath (served (some service) path) = ⟨served (some service) path, path⟩) ∧
        ('/' ∉ path.toList → ofPath ("//" ++ path) = ⟨"//" ++ path, path⟩) := by
  refine ⟨fun host object links => ?_, fun path service? => ofPath_spelled, fun path odd =>
    ⟨fun unserved => ofPath_odd (dropService_unserved unserved) odd, fun service whole =>
      ofPath_odd (dropService_of_served whole path) odd, fun whole =>
      ofPath_odd (dropService_of_alone whole) odd⟩⟩
  have unserved : ∀ service ∈ (none : Option String), '/' ∉ service.toList := by simp
  rw [ofObject?_linked host links]
  exact congrArg some (ofPath_spelled name.spells_path unserved)

end Resource

namespace Sample

open Resource

def vm : Name where
  project := ⟨"demo", by decide, by decide⟩
  below :=
    [(⟨"zones", by decide, by decide⟩, ⟨"z1", by decide, by decide⟩),
      (⟨"instances", by decide, by decide⟩, ⟨"vm-1", by decide, by decide⟩)]

def computeApi : Host where
  text := "https://projects.example/v1/"
  ends := .inr (by decide)
  noProject := by decide +kernel

end Sample

open Sample in
/-- A host that looks like a project, a service in front of empty segments, and a path without a
last id. -/
theorem Resource.names_shortened_vm :
    (Value.object [("selfLink", .string
      "https://projects.example/v1/projects/demo/zones/z1/instances/vm-1")]).textField? "selfLink" =
      some (computeApi.text ++ vm.path) ∧
    ofObject? (.object [("selfLink", .string
      "https://projects.example/v1/projects/demo/zones/z1/instances/vm-1")]) =
        some ⟨"projects/demo/zones/z1/instances/vm-1", "demo/z1/vm-1"⟩ ∧
    vm.Spells "projects//demo/zones/z1///instances/vm-1/" ∧
    ofPath "//compute/projects//demo/zones/z1///instances/vm-1/" =
      ⟨"//compute/projects//demo/zones/z1///instances/vm-1/", "demo/z1/vm-1"⟩ ∧
    Odd (segmentsOf "projects/demo//zones/".toList).length ∧
    ofPath "//compute/projects/demo//zones/" =
      ⟨"//compute/projects/demo//zones/", "projects/demo//zones/"⟩ := by
  rcases names_shortened vm with ⟨linked, spelled, odd⟩
  have path : vm.path = "projects/demo/zones/z1/instances/vm-1" := by decide
  have shortPath : vm.shortPath = "demo/z1/vm-1" := by decide
  have links : (Value.object [("selfLink", .string
      "https://projects.example/v1/projects/demo/zones/z1/instances/vm-1")]).textField? "selfLink" =
      some (computeApi.text ++ vm.path) := by
    rw [path]
    decide
  have spells : vm.Spells "projects//demo/zones/z1///instances/vm-1/" :=
    ⟨["", "demo", "zones", "z1", "", "", "instances", "vm-1", ""], by decide, by decide⟩
  have unpaired : Odd (segmentsOf "projects/demo//zones/".toList).length := ⟨1, by decide⟩
  have found := linked computeApi _ links
  have shortened := spelled _ (some "compute") spells (by simp)
  have whole := (odd _ unpaired).2.1 "compute" (by decide)
  have spelledAt : served (some "compute") "projects//demo/zones/z1///instances/vm-1/" =
      "//compute/projects//demo/zones/z1///instances/vm-1/" := by decide
  have unpairedAt : served (some "compute") "projects/demo//zones/" =
      "//compute/projects/demo//zones/" := by decide
  rw [path, shortPath] at found
  rw [shortPath, spelledAt] at shortened
  rw [unpairedAt] at whole
  exact ⟨links, found, spells, shortened, unpaired, whole⟩

end Triage
