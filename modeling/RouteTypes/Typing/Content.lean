import RouteTypes.Typing.Schema

/-!
# The Type of a Body

Which of several media types is typed.

A body may be described for several media types, and one of them gives its type.
For any body that is the first `application/…` entry, or the first of all when
there is none. A request body that is a form is an exception: when it has a schema
for one of the two form encodings, that entry counts, and the encoding is written
down besides.

## Main definitions

* `Content.chosen`: The entry that gives a body its type.
* `typeMedia`, `typeContent`: The type of an entry and of a body.
* `Content.form`: The form encoding of a request body.
-/

namespace RouteTypes

/-- The entry of a body that is typed: the first for an application, or the first
    of all. -/
def Content.chosen (content : Content) : Option MediaType :=
  match content.entries.find? fun e => e.1.startsWith "application/" with
  | some (_, media) => some media
  | none => content.entries.head?.map Prod.snd

/-- The type of an optional schema. -/
def typeOptional (setting : Setting) (direction : Direction) :
    Option (Slot Schema) → Typing (Option TypeNode)
  | some slot => typeSlot setting direction slot
  | none => pure none

/-- The type of one media type entry. -/
def typeMedia (setting : Setting) (direction : Direction) (media : Option MediaType) :
    Typing (Option TypeNode) :=
  typeOptional setting direction (media.bind (·.schema))

/-- The type of a body. -/
def typeContent (setting : Setting) (direction : Direction) (content : Content) :
    Typing (Option TypeNode) :=
  typeMedia setting direction content.chosen

/-- The entry for a media type, if it has a schema. -/
def Content.withSchema (content : Content) (mediaType : String) : Option MediaType :=
  (content.get? mediaType).filter (·.schema.isSome)

/-- The form encoding of a request body, with the entry that describes it.
    Multipart forms come before URL-encoded ones. -/
def Content.form (content : Content) : Option (BodyFormat × MediaType) :=
  match content.withSchema "multipart/form-data" with
  | some media => some (.formData, media)
  | none =>
    (content.withSchema "application/x-www-form-urlencoded").map fun media =>
      (.urlEncoded, media)

end RouteTypes
