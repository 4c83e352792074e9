import TrackerHub.Category
import TrackerHub.Named

/-! # Category maps

A tracker numbers its categories in its own way. A category map lists, in the order of
declaration, the category that stands for each local id.
-/
namespace TrackerHub

/-- Local ids with the categories they stand for, in the order of declaration. -/
structure CategoryMap where
  entries : Named Category := []
  deriving Repr, DecidableEq, Inhabited

namespace CategoryMap

/-- The map of declarations in which a repeated local id keeps its first place and takes its last
category. -/
def ofDeclarations (declared : List (String × Category)) : CategoryMap :=
  ⟨Named.ofList declared⟩

def get? (m : CategoryMap) (localId : String) : Option Category :=
  m.entries.find? localId

/-- The categories that are mapped to, each once, in the order of their first declaration. -/
def categories (m : CategoryMap) : List Category :=
  m.entries.foldl (fun acc e => if acc.any fun c => c.id == e.2.id then acc else acc ++ [e.2]) []

def localIds (m : CategoryMap) (p : Category → Bool) : List String :=
  (m.entries.filter fun e => p e.2).map (·.1)

/-- The local ids for a category: those mapped to it, else those mapped to one of its children,
else those mapped to its umbrella category. -/
def resolve (m : CategoryMap) (c : Category) : List String :=
  let exactly := m.localIds fun d => d.id == c.id
  if !exactly.isEmpty then exactly
  else
    let children := m.localIds fun d => d.parent.id == c.id
    if !children.isEmpty then children
    else m.localIds fun d => d.id == c.parent.id

def resolveAll (m : CategoryMap) (cs : List Category) : List String := cs.flatMap m.resolve

def reverse (m : CategoryMap) (ids : List Int) : List String :=
  m.resolveAll (Category.withIds ids)

end CategoryMap

end TrackerHub
