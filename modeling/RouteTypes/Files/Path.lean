/-!
# Paths

Paths as they are written, with `/` between their parts.

A path is kept as its text. Nothing is normalised: joining appends, and the parent
of a path is a beginning of its text. Only when the last part is looked for, empty
parts and parts `.` do not count, except for a `.` at the very start.

## Main definitions

* `Path.join`: A path seen from another one.
* `Path.parent?`: The directory that holds a path.
* `Path.ancestors`: A path and all directories that hold it.
* `Path.isPossible`: Whether a file can have a path.
-/

namespace RouteTypes

namespace Path

/-- Whether a path starts at the root. -/
def isAbsolute (path : List Char) : Bool :=
  path.head? = some '/'

/-- A path seen from a directory. An absolute path stays as it is. -/
def joinChars (directory path : List Char) : List Char :=
  if isAbsolute path then path
  else if directory.isEmpty || directory.getLast? = some '/' then directory ++ path
  else directory ++ '/' :: path

/-- A path seen from a directory. -/
def join (directory path : String) : String :=
  String.ofList (joinChars directory.toList path.toList)

/-- The start of a path that is no part of it like others: the root, or a first part
    `.`. -/
def start : List Char → List Char
  | '/' :: _ => ['/']
  | ['.'] => ['.']
  | '.' :: '/' :: _ => ['.']
  | _ => []

/-- Drops what does not count at the end of a path. The path is given backwards. -/
def dropUncounted : List Char → List Char
  | '/' :: rest => dropUncounted rest
  | ['.'] => []
  | '.' :: '/' :: rest => dropUncounted rest
  | rest => rest

/-- The directory that holds a path. The root and the empty path have none. -/
def parentChars? (path : List Char) : Option (List Char) :=
  let start := start path
  match dropUncounted (path.drop start.length).reverse with
  | [] => if start = ['.'] then some [] else none
  | body => some (start ++ (dropUncounted ((body.dropWhile (· ≠ '/')).drop 1)).reverse)

/-- The directory that holds a path. -/
def parent? (path : String) : Option String :=
  (parentChars? path.toList).map String.ofList

/-- Whether a file can have a path. -/
def isPossible (path : String) : Bool :=
  !path.toList.contains '\x00'

theorem length_start_le (path : List Char) : (start path).length ≤ path.length := by
  unfold start
  split <;> simp

theorem length_dropUncounted_le (path : List Char) :
    (dropUncounted path).length ≤ path.length := by
  fun_induction dropUncounted path <;> simp_all <;> omega

/-- The directory that holds a path is written with fewer characters. -/
theorem length_lt_of_parentChars? {path parent : List Char}
    (h : parentChars? path = some parent) : parent.length < path.length := by
  unfold parentChars? at h
  dsimp only at h
  have hstart := length_start_le path
  have hbody := length_dropUncounted_le (path.drop (start path).length).reverse
  simp only [List.length_reverse, List.length_drop] at hbody
  split at h
  · split at h
    · next hdot =>
      obtain rfl := Option.some.inj h
      rw [hdot] at hstart
      exact hstart
    · exact absurd h (by simp)
  · next body hne =>
    obtain rfl := Option.some.inj h
    have hdrop := length_dropUncounted_le
      (((dropUncounted (path.drop (start path).length).reverse).dropWhile (· ≠ '/')).drop 1)
    have hwhile := (List.dropWhile_sublist (l := dropUncounted
      (path.drop (start path).length).reverse) fun c => decide (c ≠ '/')).length_le
    have hpos : 0 < (dropUncounted (path.drop (start path).length).reverse).length :=
      List.length_pos_iff.mpr fun hnil => hne hnil
    simp only [List.length_append, List.length_reverse, List.length_drop] at hdrop ⊢
    omega

/-- A path and all directories that hold it, the nearest first, up to where the path
    starts. -/
def ancestorsChars (path : List Char) : List (List Char) :=
  if path.isEmpty then []
  else path :: match _h : parentChars? path with
    | none => []
    | some parent => ancestorsChars parent
termination_by path.length
decreasing_by exact length_lt_of_parentChars? _h

/-- A path and all directories that hold it, the nearest first. -/
def ancestors (path : String) : List String :=
  (ancestorsChars path.toList).map String.ofList

end Path

end RouteTypes
