import RouteTypes.Document.Basic

/-!
# Compilation Errors

What stops a compilation.

Only faults that would leave the output naming something it does not declare are
errors: a reference that leads nowhere, and two components that would declare the
same type. A schema that describes no type is no error; it is dropped where it
stands.

## Main definitions

* `ReferenceFault`: Why the text of a reference cannot be used.
* `CompileError`: What stops a compilation.
* `CompileError.message`: The error in words.
-/

namespace RouteTypes

/-- Why the text of a reference cannot be used where it stands. -/
inductive ReferenceFault where
  /-- It does not point into the components of the document. -/
  | notLocal
  /-- It has too few, too many or other parts. -/
  | malformed
  /-- It names a registry that does not exist. -/
  | unknownRegistry (name : String)
  /-- It names no key. -/
  | emptyKey
  /-- It points into another registry than the one expected. -/
  | wrongRegistry (expected : Registry)
  /-- It narrows to a property where a whole definition is needed. -/
  | narrowed
  deriving DecidableEq, Repr

/-- The fault in words. -/
def ReferenceFault.message : ReferenceFault → String
  | notLocal => "only '#/components/...' references are supported"
  | malformed => "expected '#/components/<registry>/<name>[/properties/<name>]'"
  | unknownRegistry name => "unknown registry '" ++ name ++ "'"
  | emptyKey => "empty component name"
  | wrongRegistry expected => "expected a reference into components." ++ expected.key
  | narrowed => "property references cannot be dereferenced"

/-- What stops a compilation. -/
inductive CompileError where
  /-- A reference names a key that its registry does not hold. -/
  | missingReference (registry : Registry) (key reference : String)
  /-- A reference cannot be used where it stands. -/
  | invalidReference (reference : String) (fault : ReferenceFault)
  /-- References lead from one to the next and never to a definition. -/
  | referenceCycle (reference : String)
  /-- Two components would declare the same type. -/
  | nameCollision (name : String) (firstRegistry : Registry) (first : String)
      (secondRegistry : Registry) (second : String)
  deriving DecidableEq, Repr

/-- The error in words. References are quoted as the document writes them, keys
    without the escapes of the reference. -/
def CompileError.message : CompileError → String
  | missingReference registry key reference =>
    "unresolved reference '" ++ reference ++ "': components." ++ registry.key ++
      " has no entry '" ++ key ++ "'"
  | invalidReference reference fault =>
    "invalid reference '" ++ reference ++ "': " ++ fault.message
  | referenceCycle reference => "reference cycle while resolving '" ++ reference ++ "'"
  | nameCollision name firstRegistry first secondRegistry second =>
    "components." ++ firstRegistry.key ++ "." ++ first ++ " and components." ++
      secondRegistry.key ++ "." ++ second ++ " both compile to the type name '" ++ name ++ "'"

end RouteTypes
