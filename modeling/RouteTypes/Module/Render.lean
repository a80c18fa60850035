import RouteTypes.Module.Basic
import RouteTypes.TypeTree.Render

/-!
# The Text of a Module

How modules are written: a line that keeps a style checker away, the imports, and
the declarations.

## Main definitions

* `Import.render`, `NamedType.render`: One import and one declaration.
* `TypesModule.render`, `MethodsModule.render`: A whole module.
-/

namespace RouteTypes

/-- The text of an import. -/
def Import.render (i : Import) : String :=
  "import " ++ (if i.typeOnly then "type " else "") ++ "\x7b " ++ joinWith ", " i.items ++
    " \x7d from '" ++ i.source ++ "'\n"

/-- The head of a module: the first line, and the imports with an empty line after
    them. -/
def moduleHead (imports : List Import) : String :=
  "/* eslint-disable */\n" ++ String.join (imports.map (·.render)) ++
    (if imports.isEmpty then "" else "\n")

/-- The text of a declaration at a depth. -/
def NamedType.render (depth : Nat) (t : NamedType) : String :=
  let indent := indentation depth
  docComment t.description indent ++ indent ++ "export type " ++ t.name ++ " = " ++
    t.value.render depth ++ "\n"

/-- The text of the module with the shared declarations. Its namespace starts at the
    margin whatever the depth of the declarations in it. -/
def TypesModule.render (depth : Nat) (m : TypesModule) : String :=
  moduleHead m.imports ++ "export namespace " ++ m.space ++ " \x7b\n" ++
    joinWith "\n" (m.types.map (·.render (depth + 1))) ++ "\x7d\n"

/-- The text of the module of a path. -/
def MethodsModule.render (depth : Nat) (m : MethodsModule) : String :=
  moduleHead m.imports ++ "export type Methods = " ++ renderObject depth m.methods ++ "\n"

end RouteTypes
