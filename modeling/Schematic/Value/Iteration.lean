import Schematic.Schema.Field

namespace Schematic

def Value.iterated? (v : Value) : Option (List Value) :=
  match v with
  | .text t => some (t.map fun c => .text [c])
  | .bytes bs => some (bs.map fun b => .int b.toNat)
  | .list items | .tuple items | .set items | .frozenset items => some items
  | .cyclicList i => some [.cyclicList i]
  | .dict entries => some (entries.map (·.1))
  | .cyclicDict _ => some [.text "self"]
  | .node d => some d.fieldItems
  | _ => none

/-- What is raised where the items of a value are wanted that has none. -/
def Raised.notIterable (v : Value) : Raised := .mk "TypeError" [.text ("'" ++ v.typeName ++ "' object is not iterable")]

end Schematic
