import RouteTypes.Route.Segment
import Mathlib.Data.List.Basic

/-!
# Parts of a Template

Which parts of a URL template become directories.

Every part between slashes that is not empty should name a directory, and the file of the
template follows them. What happens instead is decided at the two ends of the template.
The slash at its end may be dropped or not: it only adds an empty part, and empty parts
name nothing (`routeParts_eq`). The first part is left out whatever it is. For a template
that starts with a slash it is empty and nothing is lost. A template that starts with
anything else loses the directory of its first part, and only that
(`namedParts_eq`).

## Main definitions

* `namedParts`: All parts of a template that are not empty.
* `leadingPart`: What stands before the first slash of a template.
* `partSegments`: The directories of some parts, and the file in the last one.

## Theorems

* `routeParts_eq`: The parts that are used, without a look at the final slash.
* `namedParts_eq`: They are all parts but the leading one.
* `routeSegments_namedParts_iff`: When every part becomes a directory.
-/

namespace RouteTypes

/-- All parts of a template that are not empty, wherever they stand. -/
def namedParts (template : String) : List (List Char) :=
  (template.toList.splitOn '/').filter (!·.isEmpty)

/-- What stands before the first slash of a template: nothing when it starts with one. -/
def leadingPart (template : String) : List Char :=
  template.toList.takeWhile (· ≠ '/')

/-- A directory for each of some parts, in order, and the file in the last one. -/
def partSegments (declared : PathParameters) (parts : List (List Char)) : List String :=
  parts.map (fun part => String.ofList (Segment.ofPart declared part)) ++ [Segment.leaf]

theorem partSegments_length (declared : PathParameters) (parts : List (List Char)) :
    (partSegments declared parts).length = parts.length + 1 := by
  simp only [partSegments, List.length_append, List.length_map, List.length_singleton]

section Slashes

/-- A slash at the end of a text adds an empty part. -/
theorem splitOn_append_slash (text : List Char) :
    (text ++ ['/']).splitOn '/' = text.splitOn '/' ++ [[]] := by
  rw [List.splitOn_append_cons_self, List.splitOn_nil]

/-- The first part of a text ends before its first slash. -/
theorem splitOn_eq_cons (text : List Char) :
    text.splitOn '/' = text.takeWhile (· ≠ '/') :: (text.splitOn '/').tail := by
  induction text with
  | nil => rfl
  | cons c text ih =>
      rw [List.splitOn_cons_eq_if_modifyHead]
      by_cases hc : c = '/'
      · subst hc
        rfl
      · -- The character belongs to the first part of what follows it.
        have htake : (c :: text).takeWhile (· ≠ '/') = c :: text.takeWhile (· ≠ '/') :=
          List.takeWhile_cons_of_pos (decide_eq_true hc)
        rw [if_neg (by simpa using hc), ih, htake]
        rfl

/-- Whether the slash at the end of a text is dropped makes no difference to its parts
    after the first, but for empty ones. -/
theorem filter_tail_dropFinalSlash (text : List Char) :
    ((dropFinalSlash text).splitOn '/').tail.filter (!·.isEmpty)
      = (text.splitOn '/').tail.filter (!·.isEmpty) := by
  unfold dropFinalSlash
  by_cases hlast : text.getLast? = some '/'
  · rw [if_pos hlast]
    have htext : text.dropLast ++ ['/'] = text := List.dropLast_append_getLast? _ hlast
    have hsplit : text.splitOn '/' = text.dropLast.splitOn '/' ++ [[]] := by
      rw [← splitOn_append_slash, htext]
    -- There is a first part on both sides, so the empty one is not it.
    have htail : (text.splitOn '/').tail = (text.dropLast.splitOn '/').tail ++ [[]] := by
      rw [hsplit, List.tail_append_of_ne_nil (List.splitOn_ne_nil _ _)]
    rw [htail, List.filter_append]
    simp
  · rw [if_neg hlast]

end Slashes

section Templates

variable (template : String) (declared : PathParameters)

theorem routeSegments_eq : routeSegments template declared
    = partSegments declared (routeParts template) := rfl

theorem routeParts_eq :
    routeParts template = (template.toList.splitOn '/').tail.filter (!·.isEmpty) := by
  unfold routeParts
  rw [List.drop_one, filter_tail_dropFinalSlash]

/-- The parts that are not empty are the leading one, if it is not, and those that are
    used. -/
theorem namedParts_eq :
    namedParts template
      = (if leadingPart template = [] then [] else [leadingPart template])
        ++ routeParts template := by
  rw [routeParts_eq]
  unfold namedParts leadingPart
  rw [splitOn_eq_cons, List.tail_cons]
  -- The leading part is the head of the split, and it is filtered like the others.
  by_cases hleading : template.toList.takeWhile (· ≠ '/') = []
  · rw [if_pos hleading, hleading]
    rfl
  · have hkept : (!(template.toList.takeWhile (· ≠ '/')).isEmpty) = true := by
      simpa using hleading
    rw [if_neg hleading, List.filter_cons, if_pos hkept]
    rfl

/-- A slash at the end of a template makes no difference to the parts that are used. -/
theorem routeParts_append_slash : routeParts (template ++ "/") = routeParts template := by
  have hchars : (template ++ "/").toList = template.toList ++ ['/'] := String.toList_append
  rw [routeParts_eq, routeParts_eq, hchars, splitOn_append_slash,
    List.tail_append_of_ne_nil (List.splitOn_ne_nil _ _), List.filter_append]
  simp

/-- A template has a directory for each part that is not empty, and a file, exactly when
    nothing stands before its first slash. Otherwise only the leading part has none. A slash
    at the end of a template never counts. -/
theorem routeSegments_namedParts_iff :
    (routeSegments template declared = partSegments declared (namedParts template) ↔
        leadingPart template = []) ∧
      (leadingPart template ≠ [] →
        namedParts template = leadingPart template :: (namedParts template).tail ∧
          routeSegments template declared
            = partSegments declared (namedParts template).tail) ∧
      ((routeSegments template declared).length
        = (namedParts template).length + if leadingPart template = [] then 1 else 0) ∧
      routeSegments (template ++ "/") declared = routeSegments template declared := by
  have hparts := namedParts_eq template
  -- The parts are the same with another slash at the end, so the segments are.
  have hslash : routeSegments (template ++ "/") declared = routeSegments template declared := by
    rw [routeSegments_eq, routeSegments_eq, routeParts_append_slash]
  by_cases hleading : leadingPart template = []
  · rw [if_pos hleading, List.nil_append] at hparts
    rw [if_pos hleading, hparts]
    exact ⟨iff_of_true rfl hleading, fun hne => absurd hleading hne,
      partSegments_length declared _, hslash⟩
  · rw [if_neg hleading, List.singleton_append] at hparts
    have hlength : (routeSegments template declared).length = (routeParts template).length + 1 :=
      partSegments_length declared _
    rw [if_neg hleading, hparts]
    refine ⟨iff_of_false (fun heq => ?_) hleading, fun _ => ⟨rfl, rfl⟩, hlength, hslash⟩
    -- One directory is missing, so the lists are not even of the same length.
    have hcount := congrArg List.length heq
    rw [hlength, partSegments_length, List.length_cons] at hcount
    omega

end Templates

/-- A template without a slash in front loses the directory of its first part. -/
theorem leadingPart_lost :
    routeSegments "pets/{id}" [("id", some .integer)] = ["_id@number", "index"] ∧
      partSegments [("id", some .integer)] (namedParts "pets/{id}")
        = ["pets", "_id@number", "index"] := by
  decide

end RouteTypes
