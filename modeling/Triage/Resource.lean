import Triage.Value.Basic

namespace Triage

/-! Resources are named by a path of collections and ids, and shown by the ids. -/

structure Resource where
  fullPath : String
  shortPath : String
deriving DecidableEq, Repr, Inhabited

namespace Resource

/-- Every second element, from the second on. -/
def alternate {α : Type} : List α → List α
  | _ :: second :: rest => second :: alternate rest
  | _ => []

/-- The path without a leading `//service/`. -/
def dropService (path : Chars) : Chars :=
  match path with
  | '/' :: '/' :: rest =>
      match Chars.cut? '/' rest with
      | some (_, inside) => inside
      | none => rest
  | _ => path

/-- The ids of a path of pairs; any other path stays whole. -/
def shorten (path : Chars) : Chars :=
  let inside := dropService path
  let segments := (Chars.split '/' inside).filter (!·.isEmpty)
  if segments.isEmpty || segments.length % 2 == 1 then inside
  else Chars.join ['/'] (alternate segments)

def ofPath (path : String) : Resource :=
  ⟨path, String.ofList (shorten path.toList)⟩

example : ofPath "//s/projects/demo/zones/z1" = ⟨"//s/projects/demo/zones/z1", "demo/z1"⟩ := by
  decide

def ofProject (project : String) : Resource :=
  ⟨"projects/" ++ project, project⟩

/-- The resource that an object links to as itself. Everything before the
project is the address of a service. -/
def ofObject? (object : Value) : Option Resource := do
  let link ← object.textField? "selfLink"
  let path := (Chars.findFrom? "projects/".toList link.toList).getD link.toList
  return ofPath (String.ofList path)

end Resource

end Triage
