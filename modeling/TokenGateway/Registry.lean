import TokenGateway.Method

namespace TokenGateway

structure Registry where
  entries : List (Selector × Method)

namespace Registry

def empty : Registry := ⟨[]⟩

def insert (r : Registry) (selector : Selector) (method : Method) : Registry :=
  ⟨r.entries.filter (·.1 != selector) ++ [(selector, method)]⟩

def lookup (r : Registry) (selector : Selector) : Option Method :=
  (r.entries.find? (·.1 == selector)).map (·.2)

def size (r : Registry) : Nat :=
  r.entries.length

def isEmpty (r : Registry) : Bool :=
  r.entries.isEmpty

def standard : Registry :=
  Method.all.foldl (fun r m => r.insert m.selector m) empty

end Registry

end TokenGateway
