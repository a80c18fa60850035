import RouteTypes.Module.Render
import RouteTypes.Typing.Document

/-!
# Compilation

From a document to the texts of its modules.

## Main definitions

* `Compilation`: The texts of all modules.
* `Api.compilation`: The texts for a typed document.
* `Document.compile`: The texts for a document.
-/

namespace RouteTypes

/-- The module of a path and where it belongs. -/
structure PathFile where
  segments : List String
  methods : String
  deriving DecidableEq, Repr

/-- The texts of all modules of a document. -/
structure Compilation where
  baseUrl : String
  types : Option String
  files : List PathFile
  deriving DecidableEq, Repr

/-- The texts for a typed document. -/
def Api.compilation (api : Api) : Compilation where
  baseUrl := api.baseUrl
  types := api.typesModule.map (·.render 0)
  files := api.paths.map fun path =>
    { segments := path.segments, methods := (api.methodsModule path).render 0 }

/-- The texts for a typed document, with a report of how many there are. -/
def Api.render (api : Api) : Typing Compilation := do
  let compilation := api.compilation
  Logged.report (.modulesRendered compilation.files.length compilation.types.isSome)
  pure compilation

/-- The texts for a document. -/
def Document.compile (document : Document) (options : Options) : Typing Compilation := do
  let api ← document.toApi options
  api.render

end RouteTypes
