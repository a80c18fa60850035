import RouteTypes.Files.Plan
import RouteTypes.Proofs.DocumentTrees

/-!
# Output Paths

When two modules of a compilation are written to one file.

A path below an output directory is read back without loss: its segments are not empty
and hold no slash, so joining them is undone by splitting at slashes. Two modules are
thus written to one file exactly when their segments are the same, and what is lost is
lost on the way from a template to its segments. There characters become `_`, empty
parts vanish, and a part that is a parameter may come out like one that is not
(`Segment.Same`). The file of the shared declarations has the segments of one template
only, the one whose single part is called like their directory.

## Main definitions

* `Segment.IsProper`: A segment that is not empty and has no slash.
* `Path.rooted`: A directory as the paths below it start.
* `Segment.Blurred`: Two characters that a segment does not tell apart.
* `Segment.Same`: Two parts of templates that become one segment.
* `Route`, `Route.SameDirectory`: A template with its parameters, and a directory shared.
* `Document.routes`: The templates of a document that get a file.

## Theorems

* `Path.join_segments`: The text of a path with several segments.
* `PathFile.path_inj`: Paths with the same text have the same segments.
* `Segment.ofPart_eq_iff`: Which parts become one segment.
* `Route.segments_eq_iff`: Which templates share a directory.
* `plan_paths_nodup_iff`: When all files of a compilation have their own paths.
-/

namespace RouteTypes

namespace Segment

/-- A segment that is not empty and has no slash. -/
def IsProper (segment : List Char) : Prop :=
  segment ≠ [] ∧ '/' ∉ segment

/-- What a character becomes in a segment. -/
def clean (c : Char) : Char :=
  if isSafe c then c else '_'

theorem isSafe_clean (c : Char) : isSafe (clean c) = true := by
  unfold clean
  by_cases h : isSafe c = true
  · rw [if_pos h]
    exact h
  · rw [if_neg h]
    decide

theorem sanitize_length (part : List Char) : (sanitize part).length = part.length := by
  unfold sanitize
  split <;> exact List.length_map _

/-- The characters of a segment are safe. -/
theorem isSafe_of_mem_sanitize {part : List Char} {c : Char} (h : c ∈ sanitize part) :
    isSafe c = true := by
  unfold sanitize at h
  split at h
  · rcases List.mem_map.mp h with ⟨_, _, rfl⟩
    decide
  · rcases List.mem_map.mp h with ⟨d, _, rfl⟩
    exact isSafe_clean d

/-- The word for a kind is one of three. -/
theorem kindWord_mem (kind : Option Kind) : kindWord kind ∈ ["number", "boolean", "string"] := by
  unfold kindWord
  split <;> decide

/-- The words for kinds are plain: they hold no character that separates anything. -/
theorem not_mem_kindWord (kind : Option Kind) :
    '@' ∉ (kindWord kind).toList ∧ '/' ∉ (kindWord kind).toList := by
  have hwords : ∀ word ∈ ["number", "boolean", "string"],
      '@' ∉ word.toList ∧ '/' ∉ word.toList := by decide
  exact hwords _ (kindWord_mem kind)

/-- The segment of a part that is not empty is proper. -/
theorem ofPart_isProper (declared : PathParameters) {part : List Char} (h : part ≠ []) :
    IsProper (ofPart declared part) := by
  have hslash : ∀ p, '/' ∉ sanitize p := fun p hp =>
    absurd (isSafe_of_mem_sanitize hp) (by decide)
  unfold ofPart
  split
  · -- Characters are replaced one by one, so nothing is left only of nothing.
    refine ⟨fun hnil => h ?_, hslash part⟩
    rw [← List.length_eq_zero_iff, ← sanitize_length, hnil, List.length_nil]
  · next name _ =>
      refine ⟨List.cons_ne_nil _ _, ?_⟩
      simp only [List.cons_append, List.mem_cons, List.mem_append, not_or]
      exact ⟨by decide, hslash name, by decide, (not_mem_kindWord _).2⟩

end Segment

theorem routeParts_ne_nil {template : String} {part : List Char}
    (h : part ∈ routeParts template) : part ≠ [] := by
  rintro rfl
  exact absurd (List.mem_filter.mp h).2 (by decide)

theorem leaf_isProper : Segment.IsProper Segment.leaf.toList := by
  unfold Segment.IsProper
  decide

/-- The segments of a template are proper. -/
theorem routeSegments_isProper (template : String) (declared : PathParameters) :
    ∀ s ∈ routeSegments template declared, Segment.IsProper s.toList := by
  intro s hs
  rcases List.mem_append.mp hs with hs | hs
  · rcases List.mem_map.mp hs with ⟨part, hpart, rfl⟩
    rw [String.toList_ofList]
    exact Segment.ofPart_isProper declared (routeParts_ne_nil hpart)
  · rw [List.mem_singleton.mp hs]
    exact leaf_isProper

namespace Path

/-- A directory as the paths below it start: with a slash at its end, unless it is the
    directory at hand. -/
def rooted (directory : List Char) : List Char :=
  if directory.isEmpty || directory.getLast? = some '/' then directory else directory ++ ['/']

/-- A proper segment is put behind the directory. -/
theorem joinChars_of_isProper (directory : List Char) {segment : List Char}
    (h : Segment.IsProper segment) : joinChars directory segment = rooted directory ++ segment := by
  -- A segment with a slash in front would start a path of its own.
  have habsolute : ¬ (isAbsolute segment = true) := by
    unfold isAbsolute
    rw [decide_eq_true_eq]
    exact fun hc => h.2 (List.mem_of_head? hc)
  unfold joinChars rooted
  rw [if_neg habsolute]
  split
  · rfl
  · rw [List.append_assoc, List.singleton_append]

/-- Below a path that ends in a segment the next segment follows a slash. -/
theorem rooted_append (beginning : List Char) {segment : List Char}
    (h : Segment.IsProper segment) :
    rooted (beginning ++ segment) = beginning ++ segment ++ ['/'] := by
  unfold rooted
  rw [if_neg]
  rw [Bool.or_eq_true, not_or, decide_eq_true_eq, List.isEmpty_iff]
  refine ⟨fun hnil => h.1 (List.append_eq_nil_iff.mp hnil).2, fun hlast => ?_⟩
  rw [List.getLast?_append_of_ne_nil _ h.1] at hlast
  exact h.2 (List.mem_of_getLast? hlast)

/-- Segments that follow one another are joined by slashes. -/
theorem foldl_join_append (beginning segment : List Char) (h : Segment.IsProper segment)
    (rest : List String) (hrest : ∀ s ∈ rest, Segment.IsProper s.toList) :
    (rest.foldl join (String.ofList (beginning ++ segment))).toList
      = beginning ++ ['/'].intercalate (segment :: rest.map (·.toList)) := by
  induction rest generalizing beginning segment with
  | nil => rw [List.foldl_nil, String.toList_ofList, List.map_nil, List.intercalate_singleton]
  | cons s rest ih =>
      have hs := hrest s List.mem_cons_self
      -- The path so far ends in `segment`, so the next one follows a slash.
      rw [List.foldl_cons, join, String.toList_ofList, joinChars_of_isProper _ hs,
        rooted_append beginning h, ih _ _ hs fun s' hs' => hrest s' (List.mem_cons_of_mem s hs'),
        List.map_cons, List.intercalate_cons_cons, List.append_assoc, List.append_assoc,
        List.append_assoc]

/-- The text of a path with several segments: the directory, then the segments with
    slashes between them. -/
theorem join_segments (directory : String) {segments : List String} (hne : segments ≠ [])
    (h : ∀ s ∈ segments, Segment.IsProper s.toList) :
    (segments.foldl join directory).toList
      = rooted directory.toList ++ ['/'].intercalate (segments.map (·.toList)) := by
  cases segments with
  | nil => exact absurd rfl hne
  | cons s rest =>
      have hs := h s List.mem_cons_self
      rw [List.foldl_cons, join, joinChars_of_isProper _ hs, List.map_cons]
      exact foldl_join_append _ _ hs rest fun s' hs' => h s' (List.mem_cons_of_mem s hs')

end Path

/-- Segments that a path can be made of and read back. -/
def ProperSegments (segments : List String) : Prop :=
  segments ≠ [] ∧ ∀ s ∈ segments, Segment.IsProper s.toList

/-- Paths below one directory that have the same text have the same segments. -/
theorem PathFile.path_inj {file file' : PathFile} (h : ProperSegments file.segments)
    (h' : ProperSegments file'.segments) (directory : String) :
    file.path directory = file'.path directory ↔ file.segments = file'.segments := by
  constructor
  · intro heq
    have hchars := congrArg String.toList heq
    unfold PathFile.path at hchars
    rw [String.toList_append, String.toList_append, List.append_cancel_right_eq,
      Path.join_segments directory h.1 h.2, Path.join_segments directory h'.1 h'.2,
      List.append_cancel_left_eq] at hchars
    -- Splitting at slashes undoes the joining, because no segment holds one.
    have hsplit := congrArg (List.splitOn '/') hchars
    rw [List.splitOn_intercalate, List.splitOn_intercalate] at hsplit
    · exact List.map_injective_iff.mpr (fun a b hab => String.toList_inj.mp hab) hsplit
    · intro l hl
      rcases List.mem_map.mp hl with ⟨s, hs, rfl⟩
      exact (h'.2 s hs).2
    · exact fun hc => h'.1 (List.map_eq_nil_iff.mp hc)
    · intro l hl
      rcases List.mem_map.mp hl with ⟨s, hs, rfl⟩
      exact (h.2 s hs).2
    · exact fun hc => h.1 (List.map_eq_nil_iff.mp hc)
  -- The text is made from the segments alone.
  · intro heq
    unfold PathFile.path
    rw [heq]

/-- The path of the shared declarations, as a path with segments. -/
theorem typesPath_eq (directory methods : String) :
    typesPath directory
      = PathFile.path { segments := [typesDirectory, Segment.leaf], methods } directory := by
  -- The last segment comes with the extension, which changes nothing about slashes.
  have hfile : Segment.IsProper (Segment.leaf ++ moduleExtension).toList := by
    unfold Segment.IsProper
    decide
  rw [← String.toList_inj]
  unfold typesPath PathFile.path
  rw [List.foldl_cons, List.foldl_cons, List.foldl_nil, String.toList_append]
  unfold Path.join
  rw [String.toList_ofList, String.toList_ofList, String.toList_ofList,
    Path.joinChars_of_isProper _ hfile, Path.joinChars_of_isProper _ leaf_isProper,
    List.append_assoc, String.toList_append]

theorem typesSegments_proper : ProperSegments [typesDirectory, Segment.leaf] := by
  unfold ProperSegments Segment.IsProper
  decide

namespace Segment

/-- Two characters that a segment does not tell apart: the same one, or two that are
    unsafe or `_`. -/
def Blurred (c c' : Char) : Prop :=
  c = c' ∨ (c = '_' ∨ isSafe c = false) ∧ (c' = '_' ∨ isSafe c' = false)

theorem clean_eq_underscore_iff (c : Char) : clean c = '_' ↔ c = '_' ∨ isSafe c = false := by
  unfold clean
  by_cases h : isSafe c = true
  · rw [if_pos h]
    exact ⟨Or.inl, fun hc => hc.resolve_right (by rw [h]; decide)⟩
  · rw [if_neg h]
    exact iff_of_true rfl (Or.inr (Bool.eq_false_iff.mpr h))

theorem clean_eq_of_ne {c : Char} (h : clean c ≠ '_') : clean c = c := by
  unfold clean at h ⊢
  by_cases hs : isSafe c = true
  · rw [if_pos hs]
  · rw [if_neg hs] at h
    exact absurd rfl h

/-- Characters are cleaned to the same one when they are blurred. -/
theorem clean_eq_iff (c c' : Char) : clean c = clean c' ↔ Blurred c c' := by
  constructor
  · intro heq
    -- Either both became the mark for lost characters, or none was lost.
    by_cases h : clean c = '_'
    · have h' : clean c' = '_' := heq ▸ h
      exact Or.inr ⟨(clean_eq_underscore_iff c).mp h, (clean_eq_underscore_iff c').mp h'⟩
    · left
      rw [← clean_eq_of_ne h, heq]
      exact clean_eq_of_ne (heq ▸ h)
  · rintro (rfl | ⟨h, h'⟩)
    · rfl
    · rw [(clean_eq_underscore_iff c).mpr h, (clean_eq_underscore_iff c').mpr h']

/-- A part without the dots that would name another directory. -/
def dotless (part : List Char) : List Char :=
  if part.all (· = '.') then part.map fun _ => '_' else part

/-- A part is sanitized without its dots, then character by character. -/
theorem sanitize_eq (part : List Char) : sanitize part = (dotless part).map clean := by
  unfold sanitize dotless
  split
  · rw [List.map_map]
    exact List.map_congr_left fun _ _ => rfl
  · rfl

/-- The segment of a part before any character is lost. -/
def written (declared : PathParameters) (part : List Char) : List Char :=
  match parameterName? part with
  | none => dotless part
  | some name =>
    '_' :: dotless name ++ '@' :: (kindWord (declaredKind declared (String.ofList name))).toList

theorem map_clean_kindWord (kind : Option Kind) :
    (kindWord kind).toList.map clean = (kindWord kind).toList := by
  have hwords : ∀ word ∈ ["number", "boolean", "string"],
      word.toList.map clean = word.toList := by decide
  exact hwords _ (kindWord_mem kind)

/-- A segment is cleaned character by character. -/
theorem ofPart_eq (declared : PathParameters) (part : List Char) :
    ofPart declared part = (written declared part).map clean := by
  unfold ofPart written
  cases parameterName? part with
  | none => exact sanitize_eq part
  | some name =>
      dsimp only
      rw [sanitize_eq, List.map_append, List.map_cons, List.map_cons, map_clean_kindWord]
      rfl

/-- Two parts of templates that become one segment. -/
def Same (declared declared' : PathParameters) (part part' : List Char) : Prop :=
  List.Forall₂ Blurred (written declared part) (written declared' part')

/-- Texts are cleaned to the same one when they are blurred character by character. -/
theorem map_clean_eq_iff (cs cs' : List Char) :
    cs.map clean = cs'.map clean ↔ List.Forall₂ Blurred cs cs' := by
  rw [← List.forall₂_eq_eq_eq, List.forall₂_map_left_iff, List.forall₂_map_right_iff]
  simp only [clean_eq_iff]

/-- Parts become one segment when they are the same but for characters that are lost. -/
theorem ofPart_eq_iff (declared declared' : PathParameters) (part part' : List Char) :
    ofPart declared part = ofPart declared' part' ↔ Same declared declared' part part' := by
  rw [ofPart_eq, ofPart_eq]
  exact map_clean_eq_iff _ _

/-- Only one part becomes a segment that starts with `@` and is safe otherwise. -/
theorem ofPart_eq_typesDirectory_iff (declared : PathParameters) (part : List Char) :
    ofPart declared part = typesDirectory.toList ↔ part = typesDirectory.toList := by
  constructor
  · intro heq
    unfold ofPart at heq
    split at heq
    · rw [sanitize_eq] at heq
      -- No character of the name is `_`, so none was lost.
      have hkept : ∀ c ∈ dotless part, clean c = c := by
        intro c hc
        refine clean_eq_of_ne fun hunderscore => ?_
        have hmem : clean c ∈ typesDirectory.toList := heq ▸ List.mem_map_of_mem hc
        rw [hunderscore] at hmem
        exact absurd hmem (by decide)
      rw [List.map_congr_left hkept, List.map_id'] at heq
      unfold dotless at heq
      split at heq
      · -- A part of dots only starts with `_` or is empty.
        cases part with
        | nil => exact absurd heq (by decide)
        | cons c rest =>
            rw [List.map_cons] at heq
            exact absurd (List.cons.inj heq).1 (by decide)
      · exact heq
    · -- The segment of a parameter starts with `_`.
      exact absurd (List.cons.inj heq).1 (by decide)
  · rintro rfl
    rfl

end Segment

/-- A template with the parameters that are declared for it. -/
structure Route where
  template : String
  declared : PathParameters

namespace Route

/-- The segments of the file of a template. -/
def segments (r : Route) : List String :=
  routeSegments r.template r.declared

/-- Two templates have as many parts, and each becomes the same segment as its
    counterpart. -/
def SameDirectory (r r' : Route) : Prop :=
  List.Forall₂ (Segment.Same r.declared r'.declared) (routeParts r.template)
    (routeParts r'.template)

theorem segments_proper (r : Route) : ProperSegments r.segments :=
  ⟨fun hnil => List.cons_ne_nil _ _ (List.append_eq_nil_iff.mp hnil).2,
    routeSegments_isProper r.template r.declared⟩

/-- Two templates have the same segments when they share a directory. -/
theorem segments_eq_iff (r r' : Route) : r.segments = r'.segments ↔ r.SameDirectory r' := by
  unfold segments routeSegments SameDirectory
  rw [List.append_cancel_right_eq, ← List.forall₂_eq_eq_eq, List.forall₂_map_left_iff,
    List.forall₂_map_right_iff]
  simp only [String.ofList_inj, Segment.ofPart_eq_iff]

/-- One template has the segments of the shared declarations. -/
theorem segments_eq_types_iff (r : Route) :
    r.segments = [typesDirectory, Segment.leaf] ↔
      routeParts r.template = [typesDirectory.toList] := by
  have hsplit : [typesDirectory, Segment.leaf] = [typesDirectory] ++ [Segment.leaf] := rfl
  unfold segments routeSegments
  rw [hsplit, List.append_cancel_right_eq, List.map_eq_singleton_iff]
  constructor
  · rintro ⟨part, hparts, hpart⟩
    rw [hparts]
    have hchars := congrArg String.toList hpart
    rw [String.toList_ofList, Segment.ofPart_eq_typesDirectory_iff] at hchars
    rw [hchars]
  · intro hparts
    refine ⟨_, hparts, ?_⟩
    rw [(Segment.ofPart_eq_typesDirectory_iff r.declared _).mpr rfl, String.ofList_toList]

end Route

/-- A path item as a template with its parameters, if an operation of it remains. -/
def Setting.route (setting : Setting) (e : String × PathItem) : Option Route :=
  (typePath setting e.1 e.2).value?.join.bind fun _ =>
    (pathParameters setting e.2).value?.map fun declared => { template := e.1, declared }

/-- The templates of a document that get a file. -/
def Document.routes (document : Document) (options : Options) : List Route :=
  document.paths.entries.filterMap (document.setting options).route

/-- A path item without operations gets no file. -/
theorem route_of_none {setting : Setting} {e : String × PathItem}
    (h : (typePath setting e.1 e.2).Yields none) : setting.route e = none := by
  rw [Setting.route, h.value?]
  rfl

/-- A path item that is typed gets a file with its own segments. -/
theorem route_of_some {setting : Setting} {e : String × PathItem} {p : TypedPath}
    (h : (typePath setting e.1 e.2).Yields (some p)) :
    ∃ r, setting.route e = some r ∧ r.template = e.1 ∧ p.segments = r.segments := by
  rcases typePath_yields h with ⟨declared, hdeclared, _, hsegments, _⟩
  refine ⟨{ template := e.1, declared }, ?_, rfl, hsegments⟩
  rw [Setting.route, h.value?, hdeclared.value?]
  rfl

/-- The paths of a document have the segments of its templates that get a file. -/
theorem typePaths_segments {setting : Setting} {paths : OrderedMap String PathItem}
    {ps : List TypedPath} (h : (typePaths setting paths).Yields ps) :
    ps.map (·.segments) = (paths.entries.filterMap setting.route).map (·.segments) := by
  simp only [typePaths, Logged.yields_bind, Logged.yields_pure, Logged.yields_mapM] at h
  rcases h with ⟨results, hresults, rfl⟩
  -- Along the entries, each with what it is typed into.
  generalize paths.entries = entries at hresults
  induction hresults with
  | nil => rfl
  | @cons e result entries results hpath _ ih =>
      cases result with
      | none =>
          rw [List.filterMap_cons_none (route_of_none hpath)]
          exact ih
      | some p =>
          rcases route_of_some hpath with ⟨r, hr, _, hsegments⟩
          rw [List.filterMap_cons_some hr]
          exact congrArg₂ List.cons hsegments ih

/-- A compilation is the text of a typed document. -/
theorem compile_yields_iff {document : Document} {options : Options} {c : Compilation} :
    (document.compile options).Yields c ↔
      ∃ api, (document.toApi options).Yields api ∧ api.compilation = c := by
  simp only [Document.compile, Api.render, Logged.yields_bind, Logged.yields_report,
    Logged.yields_pure, true_and, exists_const]

section Plans

variable {files : List PathFile} {routes : List Route}

/-- Files whose segments are those of some templates have segments that can be read
    back. -/
theorem segments_proper_of_routes
    (hroutes : files.map (·.segments) = routes.map (·.segments)) :
    ∀ file ∈ files, ProperSegments file.segments := by
  intro file hfile
  have hmem : file.segments ∈ routes.map (·.segments) := hroutes ▸ List.mem_map_of_mem hfile
  rcases List.mem_map.mp hmem with ⟨r, _, hr⟩
  rw [← hr]
  exact r.segments_proper

/-- The files of templates have their own paths when no two templates share a
    directory. -/
theorem files_nodup_iff (hroutes : files.map (·.segments) = routes.map (·.segments))
    (directory : String) :
    (files.map (·.path directory)).Nodup ↔
      routes.Pairwise fun r r' => ¬ r.SameDirectory r' := by
  have hproper := segments_proper_of_routes hroutes
  calc (files.map (·.path directory)).Nodup
      -- Paths are compared by their segments, and those by the templates.
      ↔ files.Pairwise fun f f' => f.path directory ≠ f'.path directory := by
        rw [List.Nodup, List.pairwise_map]
    _ ↔ files.Pairwise fun f f' => f.segments ≠ f'.segments :=
        List.Pairwise.iff_of_mem fun hf hf' =>
          not_congr (PathFile.path_inj (hproper _ hf) (hproper _ hf') directory)
    _ ↔ (files.map (·.segments)).Nodup := by rw [List.Nodup, List.pairwise_map]
    _ ↔ (routes.map (·.segments)).Nodup := by rw [hroutes]
    _ ↔ routes.Pairwise fun r r' => r.segments ≠ r'.segments := by
        rw [List.Nodup, List.pairwise_map]
    _ ↔ routes.Pairwise fun r r' => ¬ r.SameDirectory r' := by
        simp only [ne_eq, Route.segments_eq_iff]

/-- The shared declarations have a path of their own when no template is called like
    their directory. -/
theorem typesPath_not_mem_iff (hroutes : files.map (·.segments) = routes.map (·.segments))
    (directory : String) :
    typesPath directory ∉ files.map (·.path directory) ↔
      ∀ r ∈ routes, routeParts r.template ≠ [typesDirectory.toList] := by
  have hproper := segments_proper_of_routes hroutes
  -- The place of the shared declarations is a path like the others, so it is compared like them.
  have hsegments : typesPath directory ∈ files.map (·.path directory) ↔
      [typesDirectory, Segment.leaf] ∈ files.map (·.segments) := by
    simp only [List.mem_map, typesPath_eq directory ""]
    refine exists_congr fun file => and_congr_right fun hfile => ?_
    exact PathFile.path_inj (hproper file hfile) typesSegments_proper directory
  rw [hsegments, hroutes, List.mem_map, not_exists]
  refine forall_congr' fun r => ?_
  rw [not_and, Route.segments_eq_types_iff]

end Plans

/-- The files of a compilation all have their own paths exactly when no two templates
    that get a file share a directory and, if there are shared declarations, no template
    takes their place. -/
theorem plan_paths_nodup_iff {document : Document} {options : Options} {c : Compilation}
    (h : (document.compile options).Yields c) (directory : String) :
    ((c.plan directory).map (·.path)).Nodup ↔
      ((document.routes options).Pairwise fun r r' => ¬ r.SameDirectory r') ∧
        (c.types.isSome = true →
          ∀ r ∈ document.routes options, routeParts r.template ≠ [typesDirectory.toList]) := by
  rcases compile_yields_iff.mp h with ⟨api, hapi, rfl⟩
  have hroutes : api.compilation.files.map (·.segments)
      = (document.routes options).map (·.segments) :=
    List.map_map.trans (typePaths_segments (toApi_yields hapi).2.2.1)
  rw [← files_nodup_iff hroutes directory, ← typesPath_not_mem_iff hroutes directory]
  unfold Compilation.plan
  rw [List.map_append, List.map_map]
  -- The shared declarations come first in the plan, if there are any.
  cases api.compilation.types with
  | none =>
      rw [Option.map_none, Option.toList_none, List.map_nil, List.nil_append]
      exact (and_iff_left (fun hc => absurd hc (by decide))).symm
  | some text =>
      rw [Option.map_some, Option.toList_some, List.map_singleton, List.singleton_append,
        List.nodup_cons, and_comm]
      exact and_congr_right fun _ => ⟨fun hr _ => hr, fun hr => hr rfl⟩

/-- A path item with one operation. -/
def answeredItem : PathItem where
  operations :=
    { entries := [(.get, { responses := { entries := [("200", .inline {})] } })] }

/-- An operation with a successful response. -/
def answeredOperation : Operation where
  responses := { entries := [("200", .inline {})] }

/-- A document with some paths and one schema. -/
def pathsDocument (paths : OrderedMap String PathItem) : Document where
  paths := paths
  components :=
    { schemas := { entries := [("Pet", .inline { type := some (.single "string") })] } }

/-- Two templates with directories of their own. -/
def separatePaths : OrderedMap String PathItem where
  entries := [("/pets", answeredItem), ("/pets/{id}", answeredItem)]

theorem plan_paths_nodup_separate :
    ∃ c, ((pathsDocument separatePaths).compile {}).Yields c ∧ c.types.isSome = true ∧
      ((c.plan "out").map (·.path)).Nodup := by
  have h : ((pathsDocument separatePaths).compile {}).Yields _ :=
    compile_yields_iff.mpr ⟨_, rfl, rfl⟩
  refine ⟨_, h, rfl, (plan_paths_nodup_iff h "out").mpr ⟨?_, fun _ => ?_⟩⟩
  · simp only [← Route.segments_eq_iff]
    decide
  · decide

/-- Two templates that differ in an unsafe character, and one that is called like the
    directory of the shared declarations. -/
def clashingPaths : OrderedMap String PathItem where
  entries := [("/a b", answeredItem), ("/a:b", answeredItem), ("/@types", answeredItem)]

/-- Four files are written to two paths. -/
theorem clashing_paths_lost :
    ∃ c, ((pathsDocument clashingPaths).compile {}).Yields c ∧
      (c.plan "out").map (·.path) = ["out/@types/index.ts", "out/a_b/index.ts",
        "out/a_b/index.ts", "out/@types/index.ts"] ∧
      ¬ ((c.plan "out").map (·.path)).Nodup := by
  have h : ((pathsDocument clashingPaths).compile {}).Yields _ :=
    compile_yields_iff.mpr ⟨_, rfl, rfl⟩
  refine ⟨_, h, ?_, ?_⟩
  · decide
  · decide

end RouteTypes
