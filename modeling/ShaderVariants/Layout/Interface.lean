import ShaderVariants.Description
import ShaderVariants.Layout.Resource

/-!
Interfaces: what a shader is given, in a constant buffer, in resources and in named constants.
An interface is built up one item at a time; an item that is refused leaves it as it was. The
structures that its fields and its resources name are its dependencies, in order of first use.
-/

namespace ShaderVariants

/-- A constant that is known when the shader is compiled. -/
structure NamedConstant where
  type : ValueType
  name : String
  value : String
  deriving DecidableEq, Repr

structure Interface where
  name : String
  layout : Layout
  bindings : List Binding
  constants : List NamedConstant
  dependencies : List String
  deriving DecidableEq, Repr

namespace Interface

def blank (name : String) (register : Nat) : Interface :=
  ⟨name, .blank name register, [], [], []⟩

def depend (i : Interface) (types : TypeScope) (type : String) : Interface :=
  if types.isStructure type && !i.dependencies.contains type then
    { i with dependencies := i.dependencies ++ [type] }
  else i

def addField (i : Interface) (types : TypeScope) (type name : String) :
    Except Fault Interface := do
  let layout ← i.layout.add types type name
  pure ({ i with layout }.depend types type)

def addResource (i : Interface) (types : TypeScope) (type : String)
    (elementType : Option String) (register : Nat) (name : String) : Except Fault Interface := do
  let binding ← Binding.make type elementType register name
  let i' := { i with bindings := i.bindings ++ [binding] }
  match elementType with
  | none => pure i'
  | some element => do
      let _ ← types.lookup element
      pure (i'.depend types element)

def addConstant (i : Interface) (types : TypeScope) (type name value : String) :
    Except Fault Interface := do
  let type ← types.lookup type
  pure { i with constants := i.constants ++ [⟨type, name, value⟩] }

/-- Fills up the constant buffer. -/
def finish (i : Interface) : Except Fault Interface := do
  let layout ← i.layout.padChecked
  pure { i with layout }

def bindingsOf (i : Interface) (kind : ResourceKind) : List Binding :=
  i.bindings.filter (·.type.kind == kind)

def ofDescription (types : TypeScope) (d : Description.Interface) : Except Fault Interface := do
  let i := blank d.name d.buffer.register
  let i ← d.buffer.members.foldlM (fun i v => i.addField types v.type v.name) i
  let i ← d.resources.foldlM
    (fun i r => i.addResource types r.type r.elementType r.register r.name) i
  let i ← d.constants.foldlM (fun i c => i.addConstant types c.type c.name c.literal) i
  i.finish

end Interface

def SharedStructure.ofDescription (types : TypeScope) (d : Description.Structure) :
    Except Fault SharedStructure := do
  let layout ← d.members.foldlM (fun (l : Layout) v => l.add types v.type v.name)
    (Layout.blank d.name 0)
  let layout ← layout.padChecked
  pure ⟨d.name, layout⟩

end ShaderVariants
