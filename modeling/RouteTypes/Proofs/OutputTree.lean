import RouteTypes.Proofs.OutputPaths

/-!
# The Output Tree

Every file of a compilation lies below the output directory.

A path is the text of the directory and of what follows it, and a file system reads the
second part component by component. A component could lead out of the tree in three
ways: by being empty, by naming the directory itself or the one above, or by holding a
slash and thus being several components. None of this is left in a segment, although
templates may hold all of it. Unsafe characters are replaced, so there is no slash; and
a part of dots only loses its dots, so some character is not a dot in the end
(`Segment.exists_ne_dot`). The name of a parameter stands behind a `_` in any case.

## Main definitions

* `Path.IsPlain`: A character that has no meaning in a path.
* `Path.IsNormal`: A component that names an entry of the directory it is seen from.
* `Path.below`: The path of some components seen from a directory.
* `Compilation.components`: The components of all files of a compilation.

## Theorems

* `Segment.exists_ne_dot`: A segment is not made of dots.
* `routeSegments_isNormal`: The segments of a template are normal components.
* `PathFile.path_eq`: The path of a file as a path of components.
* `plan_stays_below`: Every file lies below the output directory.
-/

namespace RouteTypes

namespace Path

/-- A letter, a digit or a sign that has no meaning in a path. -/
def IsPlain (c : Char) : Prop :=
  'A' ≤ c ∧ c ≤ 'Z' ∨ 'a' ≤ c ∧ c ≤ 'z' ∨ '0' ≤ c ∧ c ≤ '9' ∨
    c ∈ ['_', '-', '.', '@', '$', '~']

/-- The component names an entry of the directory that it is seen from, and never that
    directory or the one above. -/
structure IsNormal (component : String) : Prop where
  ne_empty : component ≠ ""
  ne_here : component ≠ "."
  ne_above : component ≠ ".."
  plain : ∀ c ∈ component.toList, IsPlain c

/-- The path of some components seen from a directory. -/
def below (directory : String) (components : List String) : String :=
  String.ofList (rooted directory.toList ++ ['/'].intercalate (components.map (·.toList)))

/-- A safe character has no meaning in a path. -/
theorem isPlain_of_isSafe {c : Char} (h : Segment.isSafe c = true) : IsPlain c := by
  unfold Segment.isSafe at h
  rcases (Bool.or_eq_true _ _).mp h with h | h
  · -- A letter or a digit lies between the first and the last of its kind.
    have hbetween : ∀ {x y : Char}, (decide (c.val ≥ x.val) && decide (c.val ≤ y.val)) = true →
        x ≤ c ∧ c ≤ y := by
      intro x y hxy
      rw [Bool.and_eq_true, decide_eq_true_eq, decide_eq_true_eq] at hxy
      exact hxy
    rcases (Bool.or_eq_true _ _).mp h with h | h
    · rcases (Bool.or_eq_true _ _).mp h with h | h
      · exact Or.inl (of_decide_eq_true h)
      · exact Or.inr (Or.inl (hbetween h))
    · exact Or.inr (Or.inr (Or.inl (hbetween h)))
  · exact Or.inr (Or.inr (Or.inr (List.contains_iff_mem.mp h)))

/-- A safe text is normal when it has something other than dots. -/
theorem isNormal_of_isSafe {s : String} (hsafe : ∀ c ∈ s.toList, Segment.isSafe c = true)
    (hdot : ∃ c ∈ s.toList, c ≠ '.') : IsNormal s := by
  rcases hdot with ⟨c, hc, hne⟩
  -- The texts that are not normal consist of dots, if of anything.
  have hother : ∀ t : String, t.toList.all (· = '.') = true → s ≠ t := by
    rintro t ht rfl
    have heq := List.all_eq_true.mp ht c hc
    rw [decide_eq_true_eq] at heq
    exact hne heq
  exact {
    ne_empty := hother "" (by decide)
    ne_here := hother "." (by decide)
    ne_above := hother ".." (by decide)
    plain := fun d hd => isPlain_of_isSafe (hsafe d hd) }

-- The same as a test, for texts that are given.
theorem isNormal_of_tests {s : String} (hsafe : s.toList.all Segment.isSafe = true)
    (hdot : s.toList.any (· ≠ '.') = true) : IsNormal s := by
  refine isNormal_of_isSafe (List.all_eq_true.mp hsafe) ?_
  rcases List.any_eq_true.mp hdot with ⟨c, hc, hne⟩
  exact ⟨c, hc, of_decide_eq_true hne⟩

theorem IsNormal.not_mem_slash {s : String} (h : IsNormal s) : '/' ∉ s.toList := by
  intro hs
  have hplain := h.plain '/' hs
  unfold IsPlain at hplain
  exact absurd hplain (by decide)

end Path

namespace Segment

/-- Cleaning makes no dots. -/
theorem clean_ne_dot {c : Char} (h : c ≠ '.') : clean c ≠ '.' := by
  unfold clean
  by_cases hs : isSafe c = true
  · rw [if_pos hs]
    exact h
  · rw [if_neg hs]
    decide

/-- What is left of a part is not made of dots: they are replaced if there is nothing
    else, and no other character becomes one. -/
theorem exists_ne_dot {part : List Char} (h : part ≠ []) : ∃ c ∈ sanitize part, c ≠ '.' := by
  unfold sanitize
  by_cases hdots : part.all (· = '.') = true
  · rw [if_pos hdots]
    rcases List.exists_mem_of_ne_nil part h with ⟨c, hc⟩
    exact ⟨'_', List.mem_map.mpr ⟨c, hc, rfl⟩, by decide⟩
  · rw [if_neg hdots]
    simp only [List.all_eq_true, decide_eq_true_eq, not_forall] at hdots
    rcases hdots with ⟨c, hc, hne⟩
    exact ⟨clean c, List.mem_map.mpr ⟨c, hc, rfl⟩, clean_ne_dot hne⟩

/-- The characters of a segment are safe, those around the name of a parameter among them. -/
theorem ofPart_isSafe (declared : PathParameters) (part : List Char) :
    ∀ c ∈ ofPart declared part, isSafe c = true := by
  have hwords : ∀ word ∈ ["number", "boolean", "string"],
      word.toList.all isSafe = true := by decide
  intro c hc
  unfold ofPart at hc
  cases hname : parameterName? part with
  | none =>
      rw [hname] at hc
      exact isSafe_of_mem_sanitize hc
  | some name =>
      rw [hname] at hc
      -- The mark, the name, the sign before the kind, the word for the kind.
      simp only [List.cons_append, List.mem_cons, List.mem_append] at hc
      rcases hc with rfl | hc | rfl | hc
      · decide
      · exact isSafe_of_mem_sanitize hc
      · decide
      · exact List.all_eq_true.mp (hwords _ (kindWord_mem _)) c hc

/-- A segment does not consist of dots. That of a parameter starts with the mark. -/
theorem ofPart_exists_ne_dot (declared : PathParameters) {part : List Char} (h : part ≠ []) :
    ∃ c ∈ ofPart declared part, c ≠ '.' := by
  unfold ofPart
  cases parameterName? part with
  | none => exact exists_ne_dot h
  | some name => exact ⟨'_', List.mem_cons_self, by decide⟩

end Segment

/-- The segments of a template are normal components, whatever the template is. -/
theorem routeSegments_isNormal (template : String) (declared : PathParameters) :
    ∀ s ∈ routeSegments template declared, Path.IsNormal s := by
  intro s hs
  rcases List.mem_append.mp hs with hs | hs
  · rcases List.mem_map.mp hs with ⟨part, hpart, rfl⟩
    have hne := routeParts_ne_nil hpart
    refine Path.isNormal_of_isSafe ?_ ?_
    · rw [String.toList_ofList]
      exact Segment.ofPart_isSafe declared part
    · rw [String.toList_ofList]
      exact Segment.ofPart_exists_ne_dot declared hne
  -- The file itself is called by a fixed word.
  · rw [List.mem_singleton.mp hs]
    exact Path.isNormal_of_tests (by decide) (by decide)

/-- The name of the file of a module. -/
def moduleFile : String :=
  Segment.leaf ++ moduleExtension

theorem moduleFile_isNormal : Path.IsNormal moduleFile :=
  Path.isNormal_of_tests (by decide) (by decide)

/-- The components of the path of a file: its segments, the last one with the
    extension. -/
def PathFile.components (file : PathFile) : List String :=
  file.segments.dropLast ++ [moduleFile]

/-- The components of all files of a compilation, in the order of the plan. -/
def Compilation.components (c : Compilation) : List (List String) :=
  (c.types.map fun _ => [typesDirectory, moduleFile]).toList ++ c.files.map (·.components)

/-- What is put behind joined parts belongs to the last of them. -/
theorem intercalate_append_last (separator last ending : List Char) (parts : List (List Char)) :
    separator.intercalate (parts ++ [last]) ++ ending
      = separator.intercalate (parts ++ [last ++ ending]) := by
  induction parts with
  | nil => simp only [List.nil_append, List.intercalate_singleton]
  | cons part parts ih =>
      -- Behind every part there is another one, the last if no other.
      have hne : ∀ l : List Char, parts ++ [l] ≠ [] := fun l => by simp
      rw [List.cons_append, List.cons_append,
        List.intercalate_cons_of_ne_nil (hne last),
        List.intercalate_cons_of_ne_nil (hne (last ++ ending)), ← ih]
      simp only [List.append_assoc]

/-- The path of a file is that of its components: the extension belongs to the last
    one. -/
theorem PathFile.path_eq {file : PathFile} {directories : List String}
    (hsegments : file.segments = directories ++ [Segment.leaf])
    (hproper : ∀ s ∈ file.segments, Segment.IsProper s.toList) (directory : String) :
    file.path directory = Path.below directory file.components := by
  have hne : file.segments ≠ [] := by
    rw [hsegments]
    simp
  have hcomponents : file.components = directories ++ [moduleFile] := by
    rw [PathFile.components, hsegments, List.dropLast_concat]
  rw [← String.toList_inj, PathFile.path, Path.below, String.toList_append,
    Path.join_segments directory hne hproper, String.toList_ofList, hcomponents, hsegments,
    List.append_assoc, List.map_append, List.map_append, List.map_singleton,
    List.map_singleton, intercalate_append_last, moduleFile, String.toList_append]

section Plans

variable {document : Document} {options : Options} {c : Compilation}

/-- The segments of a file are those of a template. -/
theorem compile_segments (h : (document.compile options).Yields c) :
    ∀ file ∈ c.files, ∃ r : Route, file.segments = r.segments := by
  rcases compile_yields_iff.mp h with ⟨api, hapi, rfl⟩
  have hroutes : api.compilation.files.map (·.segments)
      = (document.routes options).map (·.segments) :=
    List.map_map.trans (typePaths_segments (toApi_yields hapi).2.2.1)
  intro file hfile
  have hmem : file.segments ∈ api.compilation.files.map (·.segments) :=
    List.mem_map_of_mem hfile
  rw [hroutes] at hmem
  rcases List.mem_map.mp hmem with ⟨r, _, hr⟩
  exact ⟨r, hr.symm⟩

/-- The paths of a plan are those of the components, below the output directory. -/
theorem plan_paths_eq (h : (document.compile options).Yields c) (directory : String) :
    (c.plan directory).map (·.path) = c.components.map (Path.below directory) := by
  -- The shared declarations have segments too, so their path is found in the same way.
  have htypes : typesPath directory = Path.below directory [typesDirectory, moduleFile] := by
    rw [typesPath_eq directory ""]
    have hsegments : [typesDirectory, Segment.leaf] = [typesDirectory] ++ [Segment.leaf] := rfl
    exact PathFile.path_eq hsegments typesSegments_proper.2 directory
  have hfile : ∀ file ∈ c.files, file.path directory = Path.below directory file.components := by
    intro file hfile
    rcases compile_segments h file hfile with ⟨r, hr⟩
    exact PathFile.path_eq hr (hr ▸ routeSegments_isProper r.template r.declared) directory
  have hfiles : c.files.map (fun file => file.path directory)
      = c.files.map (fun file => Path.below directory file.components) :=
    List.map_congr_left hfile
  unfold Compilation.plan Compilation.components
  rw [List.map_append, List.map_append, List.map_map, List.map_map]
  refine congrArg₂ (· ++ ·) ?_ hfiles
  cases c.types with
  | none => rfl
  | some text => exact congrArg (fun path => [path]) htypes

/-- All components of the files of a compilation are normal. -/
theorem compile_components_isNormal (h : (document.compile options).Yields c) :
    ∀ components ∈ c.components, ∀ s ∈ components, Path.IsNormal s := by
  intro components hmem s hs
  -- The module of types has a place of its own, all others stand where templates say.
  rcases List.mem_append.mp hmem with hmem | hmem
  · rw [Option.mem_toList] at hmem
    rcases Option.map_eq_some_iff.mp hmem with ⟨_, _, rfl⟩
    rcases List.mem_cons.mp hs with rfl | hs
    · exact Path.isNormal_of_tests (by decide) (by decide)
    · rw [List.mem_singleton.mp hs]
      exact moduleFile_isNormal
  · rcases List.mem_map.mp hmem with ⟨file, hfile, rfl⟩
    rcases compile_segments h file hfile with ⟨r, hr⟩
    rcases List.mem_append.mp hs with hs | hs
    · rw [hr] at hs
      exact routeSegments_isNormal r.template r.declared s
        ((List.dropLast_sublist _).subset hs)
    · rw [List.mem_singleton.mp hs]
      exact moduleFile_isNormal

end Plans

/-- Every file of a compilation lies below the output directory. Its path is that of the
    directory followed by normal components, the segments of the file with an extension,
    and reading the path between its slashes gives these components back. -/
theorem plan_stays_below {document : Document} {options : Options} {c : Compilation}
    (h : (document.compile options).Yields c) (directory : String) :
    (c.plan directory).map (·.path) = c.components.map (Path.below directory) ∧
      (∀ file ∈ c.files, ∃ directories, file.segments = directories ++ ["index"] ∧
        file.components = directories ++ ["index.ts"]) ∧
      ∀ components ∈ c.components, components.getLast? = some "index.ts" ∧
        (∀ s ∈ components, Path.IsNormal s) ∧
        (['/'].intercalate (components.map (·.toList))).splitOn '/'
          = components.map (·.toList) := by
  refine ⟨plan_paths_eq h directory, fun file hfile => ?_, fun components hmem => ?_⟩
  · rcases compile_segments h file hfile with ⟨r, hr⟩
    refine ⟨_, hr, ?_⟩
    rw [PathFile.components, hr, Route.segments, routeSegments, List.dropLast_concat]
    rfl
  · have hnormal := compile_components_isNormal h components hmem
    have hlast : components.getLast? = some "index.ts" := by
      -- Both kinds of files are called alike.
      rcases List.mem_append.mp hmem with hmem | hmem
      · rw [Option.mem_toList] at hmem
        rcases Option.map_eq_some_iff.mp hmem with ⟨_, _, rfl⟩
        rfl
      · rcases List.mem_map.mp hmem with ⟨file, _, rfl⟩
        exact List.getLast?_concat
    -- No component holds a slash, so all slashes there stand between components.
    refine ⟨hlast, hnormal, List.splitOn_intercalate '/' (fun part hpart => ?_) fun hnil => ?_⟩
    · rcases List.mem_map.mp hpart with ⟨s, hs, rfl⟩
      exact (hnormal s hs).not_mem_slash
    · rw [List.map_eq_nil_iff.mp hnil] at hlast
      exact absurd hlast (by simp)

/-- Templates that would lead out of the output directory, or stay where they are. -/
def dottedPaths : OrderedMap String PathItem where
  entries := [("/../../etc/{..}", answeredItem), ("/./v1.2\\..", answeredItem)]

theorem plan_stays_below_dotted :
    ∃ c, ((pathsDocument dottedPaths).compile {}).Yields c ∧
      c.components = [["@types", "index.ts"],
        ["__", "__", "etc", "___@string", "index.ts"], ["_", "v1.2_..", "index.ts"]] ∧
      (c.plan "out").map (·.path) = c.components.map (Path.below "out") ∧
      ∀ components ∈ c.components, ∀ s ∈ components, Path.IsNormal s := by
  have h : ((pathsDocument dottedPaths).compile {}).Yields _ :=
    compile_yields_iff.mpr ⟨_, rfl, rfl⟩
  rcases plan_stays_below h "out" with ⟨hpaths, _, hcomponents⟩
  exact ⟨_, h, by decide, hpaths, fun components hmem => (hcomponents components hmem).2.1⟩

end RouteTypes
