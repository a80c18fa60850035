import RouteTypes.Proofs.AliasJumps
import RouteTypes.Proofs.DiskFiles
import RouteTypes.Proofs.ObjectKeys

/-!
# The Members of a Path Item

A path item keeps the methods in the order of the document.

Its mapping is read entry by entry, and any key may be given again. What the entries leave
behind can be said without going through them: a method stands where its key was given
first, and it has the operation that was given last. The list of parameters that was given
last is shared. An entry under any other key leaves nothing (`PathItem.ReadFrom`).

This is what one more entry preserves (`PathItem.ReadFrom.add`), and so it holds of every
mapping. It also settles which changes to a mapping change nothing: all those that leave the
entries under methods as they are, and those under `parameters` (`PathEntry.SameFields`).

A value is read in the same way wherever it stands, as long as the aliases that are followed
are not too many for the text. So each entry is read for itself (`Decoding.MembersRead`), and
the aliases of all of them are added up.

## Main definitions

* `PathEntry`: An entry that was read.
* `PathEntry.lastUnder`: The last entry under a key.
* `PathItem.ReadFrom`: The path item that entries leave behind.
* `PathEntry.SameFields`: The entries that count are the same.
* `Decoding.ValueReads`, `Decoding.MembersRead`, `Decoding.ItemReads`: The entries that a
  value, the members of a mapping and a node are read as.

## Theorems

* `OrderedMap.eq_of_get?`: A map is known from its keys and what is found under them.
* `PathItem.ReadFrom.add`: What one more entry preserves.
* `PathItem.ReadFrom.eq`: Entries leave one path item behind.
* `PathEntry.sameFields_insert`, `PathEntry.sameFields_swap`: Changes that change nothing.
* `Decoding.pathItem_eq_ok_iff`: When a mapping is a path item, and which one.
* `pathItem_inOrder`: The path item of a mapping.
-/

namespace RouteTypes

namespace OrderedMap

variable {κ α : Type} [DecidableEq κ]

theorem find?_eq_none_of_not_mem {es : List (κ × α)} {k : κ} (h : k ∉ es.map Prod.fst) :
    find? k es = none := by
  cases hfind : find? k es with
  | none => rfl
  | some v => exact absurd (List.mem_map.mpr ⟨_, mem_of_find?_eq_some hfind, rfl⟩) h

/-- Entries are determined by their keys and by what is found under these. -/
theorem eq_of_find? {es es' : List (κ × α)} (hd : (es.map Prod.fst).Nodup)
    (hkeys : es.map Prod.fst = es'.map Prod.fst) (hfind : ∀ k, find? k es = find? k es') :
    es = es' := by
  induction es generalizing es' with
  | nil => exact (List.map_eq_nil_iff.mp hkeys.symm).symm
  | cons e es ih =>
      rcases List.map_eq_cons_iff.mp hkeys.symm with ⟨e', rest, rfl, hkey, hrest⟩
      rw [List.map_cons, List.nodup_cons] at hd
      have hvalue := hfind e.1
      rw [find?, find?, if_pos rfl, if_pos hkey, Option.some.injEq] at hvalue
      rw [show e = e' from Prod.ext hkey.symm hvalue]
      refine congrArg (e' :: ·) (ih hd.2 hrest.symm fun k => ?_)
      by_cases hk : e.1 = k
      · -- The key in front does not occur again, in either of the two.
        have hnot : k ∉ es.map Prod.fst := hk ▸ hd.1
        rw [find?_eq_none_of_not_mem hnot, find?_eq_none_of_not_mem (by rwa [hrest])]
      · have hbehind := hfind k
        rwa [find?, find?, if_neg hk, if_neg (by rwa [hkey])] at hbehind

/-- Two maps with the same keys in the same order, and the same values under them, are the
    same. -/
theorem eq_of_get? {m m' : OrderedMap κ α} (hkeys : m.keys = m'.keys)
    (hget : ∀ k, m.get? k = m'.get? k) : m = m' := by
  rcases m with ⟨es, hd⟩
  rcases m' with ⟨es', hd'⟩
  obtain rfl := eq_of_find? hd hkeys hget
  rfl

end OrderedMap

/-- The first occurrences in a list with one more element. -/
theorem eraseDups_concat {α : Type} [DecidableEq α] (as : List α) (a : α) :
    (as ++ [a]).eraseDups = if a ∈ as then as.eraseDups else as.eraseDups ++ [a] := by
  rw [List.eraseDups_append, List.cons_removeAll, List.nil_removeAll]
  by_cases ha : a ∈ as
  · rw [if_pos ha, if_neg (by simpa using ha)]
    exact List.append_nil _
  · rw [if_neg ha, if_pos (by simpa using ha)]
    rfl

namespace Method

/-- A method is found by its key. -/
theorem ofKey?_eq_some_iff {key : String} {method : Method} :
    ofKey? key = some method ↔ key = method.key := by
  constructor
  · intro h
    have hkey := List.find?_some h
    rw [decide_eq_true_eq] at hkey
    exact hkey.symm
  · rintro rfl
    cases method <;> rfl

theorem ofKey?_eq_none_iff {key : String} :
    ofKey? key = none ↔ ∀ method : Method, key ≠ method.key := by
  rw [Option.eq_none_iff_forall_ne_some]
  exact forall_congr' fun method => not_congr ofKey?_eq_some_iff

theorem key_ne_parameters (method : Method) : method.key ≠ "parameters" := by
  cases method <;> decide

end Method

/-- An entry of a path item that was read, with what its value stands for. -/
structure PathEntry where
  key : String
  content : PathMember

namespace PathEntry

/-- The method that the entry is under. -/
def method? (entry : PathEntry) : Option Method :=
  Method.ofKey? entry.key

/-- The entry is under a method. -/
def isMethod (entry : PathEntry) : Bool :=
  entry.method?.isSome

/-- The entry gives the shared parameters. -/
def isParameters (entry : PathEntry) : Bool :=
  entry.key = "parameters"

/-- The operation that the entry gives. -/
def operation? (entry : PathEntry) : Option Operation :=
  match entry.content with
  | .operation _ operation => some operation
  | _ => none

/-- The shared parameters that the entry gives. -/
def shared? (entry : PathEntry) : Option (List (Slot Parameter)) :=
  match entry.content with
  | .parameters shared => some shared
  | _ => none

/-- The last entry under a key. -/
def lastUnder (key : String) (entries : List PathEntry) : Option PathEntry :=
  (entries.filter (·.key = key)).getLast?

/-- The entries under methods are the same in both lists, in the same order, and so are the
    entries under `parameters`. Nothing is said of other entries, or of where the parameters
    stand among the methods. -/
structure SameFields (entries entries' : List PathEntry) : Prop where
  methods : entries.filter isMethod = entries'.filter isMethod
  parameters : entries.filter isParameters = entries'.filter isParameters

end PathEntry

/-- The path item is what the entries leave behind. -/
structure PathItem.ReadFrom (entries : List PathEntry) (item : PathItem) : Prop where
  /-- The methods are those that occur, in the order of their first occurrences. -/
  methods : item.operations.keys = (entries.filterMap (·.method?)).eraseDups
  /-- Each has the operation of its last occurrence. -/
  operations : ∀ method : Method, item.operations.get? method =
    (PathEntry.lastUnder method.key entries).bind (·.operation?)
  /-- The parameters given last are shared. -/
  parameters : item.parameters =
    ((PathEntry.lastUnder "parameters" entries).bind (·.shared?)).getD []

namespace Decoding

/-- A value under a key is read as this entry, and a number of aliases is followed. -/
inductive ValueReads (reading : Reading) (room : Nat) (node : Node) : PathEntry → Nat → Prop
  | parameters {shared : List (Slot Parameter)} {jumps : Nat}
      (h : Finds reading (Decoding.parameters room node) shared jumps) :
      ValueReads reading room node ⟨"parameters", .parameters shared⟩ jumps
  | operation {method : Method} {operation : Operation} {jumps : Nat}
      (h : Finds reading (Decoding.operation room node) operation jumps) :
      ValueReads reading room node ⟨method.key, .operation method operation⟩ jumps
  | other {key : String} (hparameters : key ≠ "parameters")
      (hmethods : ∀ method : Method, key ≠ method.key) (h : node.skipFault? = none) :
      ValueReads reading room node ⟨key, .other⟩ 0

/-- The members of a mapping are read as these entries, and a number of aliases is followed.
    Each member is read for itself. -/
inductive MembersRead (reading : Reading) (room : Nat) :
    List (Node × Node) → List PathEntry → Nat → Prop
  | nil : MembersRead reading room [] [] 0
  | cons {key value : Node} {members : List (Node × Node)} {entry : PathEntry}
      {entries : List PathEntry} {k l n : Nat} (hkey : Finds reading (text key) entry.key k)
      (hvalue : ValueReads reading room value entry l)
      (hrest : MembersRead reading room members entries n) :
      MembersRead reading room ((key, value) :: members) (entry :: entries) (k + (l + n))

/-- A node stands for a mapping that is read as these entries. It may be an alias itself. -/
inductive ItemReads (reading : Reading) (room : Nat) (node : Node) : List PathEntry → Nat → Prop
  | mapping {marked : Bool} {members : List (Node × Node)} {entries : List PathEntry} {k n : Nat}
      (htarget : Finds reading (target node) (.mapping marked members .closed) k)
      (hmembers : MembersRead reading room members entries n) :
      ItemReads reading room node entries (k + n)

end Decoding

namespace PathEntry

/-- The last of some entries counts under its key, and leaves the others as they are. -/
theorem lastUnder_concat (key : String) (entries : List PathEntry) (entry : PathEntry) :
    lastUnder key (entries ++ [entry]) =
      if entry.key = key then some entry else lastUnder key entries := by
  unfold lastUnder
  rw [List.filter_append]
  by_cases hkey : entry.key = key
  · rw [if_pos hkey, List.filter_cons_of_pos (by exact decide_eq_true hkey), List.filter_nil,
      List.getLast?_concat]
  · rw [if_neg hkey, List.filter_cons_of_neg (by exact fun h => hkey (of_decide_eq_true h)),
      List.filter_nil, List.append_nil]

theorem methods_concat (entries : List PathEntry) (entry : PathEntry) :
    (entries ++ [entry]).filterMap (·.method?) =
      entries.filterMap (·.method?) ++ entry.method?.toList := by
  rw [List.filterMap_append]
  cases hmethod : entry.method? with
  | none => rw [List.filterMap_cons_none hmethod, List.filterMap_nil, Option.toList_none]
  | some method => rw [List.filterMap_cons_some hmethod, List.filterMap_nil, Option.toList_some]

/-- Entries that are under no method do not count for the methods. -/
theorem methods_filter (entries : List PathEntry) :
    (entries.filter isMethod).filterMap (·.method?) = entries.filterMap (·.method?) := by
  rw [List.filterMap_filter]
  refine List.filterMap_congr fun entry _ => ?_
  unfold isMethod
  cases entry.method? with
  | none => rfl
  | some method => rfl

/-- The last entry under a key is found among the entries that pass a test, if all entries
    under the key do. -/
theorem lastUnder_filter {p : PathEntry → Bool} {key : String}
    (hp : ∀ entry : PathEntry, entry.key = key → p entry = true) (entries : List PathEntry) :
    lastUnder key (entries.filter p) = lastUnder key entries := by
  unfold lastUnder
  rw [List.filter_filter]
  refine congrArg List.getLast? (List.filter_congr fun entry _ => ?_)
  by_cases hkey : entry.key = key
  · rw [hp entry hkey, Bool.and_true]
  · rw [decide_eq_false hkey, Bool.false_and]

theorem SameFields.trans {entries₁ entries₂ entries₃ : List PathEntry}
    (h : SameFields entries₁ entries₂) (h' : SameFields entries₂ entries₃) :
    SameFields entries₁ entries₃ where
  methods := h.methods.trans h'.methods
  parameters := h.parameters.trans h'.parameters

section Changes

variable (before after : List PathEntry) {entry entry' : PathEntry}

theorem isMethod_eq_true_iff :
    entry.isMethod = true ↔ ∃ method : Method, entry.key = method.key := by
  unfold isMethod method?
  rw [Option.isSome_iff_exists]
  exact exists_congr fun method => Method.ofKey?_eq_some_iff

theorem isParameters_eq_true_iff : entry.isParameters = true ↔ entry.key = "parameters" :=
  decide_eq_true_iff

/-- An entry under any other key may be there or not. -/
theorem sameFields_insert (hmethods : ∀ method : Method, entry.key ≠ method.key)
    (hparameters : entry.key ≠ "parameters") :
    SameFields (before ++ after) (before ++ entry :: after) where
  methods := by
    have hnone : ¬entry.isMethod = true := by
      rw [isMethod_eq_true_iff]
      exact not_exists.mpr hmethods
    rw [List.filter_append, List.filter_append, List.filter_cons_of_neg hnone]
  parameters := by
    have hother : ¬entry.isParameters = true := by
      rw [isParameters_eq_true_iff]
      exact hparameters
    rw [List.filter_append, List.filter_append, List.filter_cons_of_neg hother]

/-- The parameters may stand before or after an entry under a method. -/
theorem sameFields_swap {method : Method} (hkey : entry.key = "parameters")
    (hkey' : entry'.key = method.key) :
    SameFields (before ++ entry :: entry' :: after) (before ++ entry' :: entry :: after) where
  methods := by
    have hnone : ¬entry.isMethod = true := by
      rw [isMethod_eq_true_iff, hkey]
      exact fun ⟨other, hother⟩ => other.key_ne_parameters hother.symm
    have hmethod : entry'.isMethod = true := isMethod_eq_true_iff.mpr ⟨method, hkey'⟩
    rw [List.filter_append, List.filter_append, List.filter_cons_of_neg hnone,
      List.filter_cons_of_pos hmethod, List.filter_cons_of_pos hmethod,
      List.filter_cons_of_neg hnone]
  parameters := by
    have hhere : entry.isParameters = true := isParameters_eq_true_iff.mpr hkey
    have hother : ¬entry'.isParameters = true := by
      rw [isParameters_eq_true_iff, hkey']
      exact method.key_ne_parameters
    rw [List.filter_append, List.filter_append, List.filter_cons_of_pos hhere,
      List.filter_cons_of_neg hother, List.filter_cons_of_neg hother,
      List.filter_cons_of_pos hhere]

end Changes

end PathEntry

namespace PathItem

open PathEntry

variable {entries entries' : List PathEntry} {item item' : PathItem}

theorem readFrom_nil : ReadFrom [] {} where
  methods := rfl
  operations _ := rfl
  parameters := rfl

/-- One more entry of a mapping is one more occurrence. -/
theorem ReadFrom.add (h : item.ReadFrom entries) {reading : Reading} {room jumps : Nat}
    {node : Node} {entry : PathEntry} (hentry : Decoding.ValueReads reading room node entry jumps) :
    (item.add entry.content).ReadFrom (entries ++ [entry]) := by
  cases hentry with
  | parameters _ =>
      -- The entry is under no method, and it is the last one with parameters.
      refine ⟨?_, fun method => ?_, ?_⟩
      · rw [methods_concat]
        exact h.methods.trans (congrArg List.eraseDups (List.append_nil _).symm)
      · rw [lastUnder_concat, if_neg fun hkey => method.key_ne_parameters hkey.symm]
        exact h.operations method
      · rw [lastUnder_concat, if_pos rfl]
        rfl
  | @operation method operation _ _ =>
      -- The operation is put under its method, whether there was one or not.
      refine ⟨?_, fun other => ?_, ?_⟩
      · have hmethod : (⟨method.key, .operation method operation⟩ : PathEntry).method? =
            some method := Method.ofKey?_eq_some_iff.mpr rfl
        rw [methods_concat, hmethod, Option.toList_some, eraseDups_concat]
        refine (OrderedMap.keys_insert _ _ _).trans ?_
        -- The method has its place already, or it comes behind all others.
        simp only [h.methods, List.mem_eraseDups]
      · rw [lastUnder_concat]
        refine (OrderedMap.get?_insert _ _ _ _).trans ?_
        by_cases hother : method = other
        · rw [if_pos hother, if_pos (congrArg Method.key hother)]
          rfl
        · rw [if_neg hother, if_neg fun hkey => hother (Method.key_injective hkey)]
          exact h.operations other
      · rw [lastUnder_concat, if_neg method.key_ne_parameters]
        exact h.parameters
  | @other key hparameters hmethods _ =>
      -- The entry is under no key that is looked for.
      refine ⟨?_, fun method => ?_, ?_⟩
      · have hnone : (⟨key, .other⟩ : PathEntry).method? = none :=
          Method.ofKey?_eq_none_iff.mpr hmethods
        rw [methods_concat, hnone, Option.toList_none, List.append_nil]
        exact h.methods
      · rw [lastUnder_concat, if_neg (hmethods method)]
        exact h.operations method
      · rw [lastUnder_concat, if_neg hparameters]
        exact h.parameters

/-- The members of a mapping are added one after the other. -/
theorem ReadFrom.foldl {reading : Reading} {room jumps : Nat} {members : List (Node × Node)}
    (hread : Decoding.MembersRead reading room members entries' jumps)
    (h : item.ReadFrom entries) :
    ((entries'.map (·.content)).foldl PathItem.add item).ReadFrom (entries ++ entries') := by
  -- The entries before are kept general: they decide whether a method has its place.
  induction hread generalizing entries item with
  | nil =>
      rw [List.append_nil]
      exact h
  | @cons key value members entry rest k l n _ hvalue _ ih =>
      have hrest := ih (h.add hvalue)
      rw [List.append_assoc] at hrest
      exact hrest

/-- The members of a mapping leave behind what they are read as. -/
theorem readFrom_ofMembers {reading : Reading} {room jumps : Nat} {members : List (Node × Node)}
    (hread : Decoding.MembersRead reading room members entries jumps) :
    (ofMembers (entries.map (·.content))).ReadFrom entries :=
  readFrom_nil.foldl hread

/-- Entries leave one path item behind, and only those that count make a difference. -/
theorem ReadFrom.eq (h : item.ReadFrom entries) (h' : item'.ReadFrom entries')
    (hsame : SameFields entries entries') : item = item' := by
  have hoperations : item.operations = item'.operations := by
    refine OrderedMap.eq_of_get? ?_ fun method => ?_
    -- The methods and their last operations can be read off the entries that count.
    · rw [h.methods, h'.methods, ← methods_filter entries, hsame.methods, methods_filter entries']
    · have hmethod : ∀ e : PathEntry, e.key = method.key → e.isMethod = true :=
        fun e hkey => isMethod_eq_true_iff.mpr ⟨method, hkey⟩
      rw [h.operations, h'.operations, ← lastUnder_filter hmethod entries, hsame.methods,
        lastUnder_filter hmethod]
  have hparameters : item.parameters = item'.parameters := by
    have hshared : ∀ e : PathEntry, e.key = "parameters" → e.isParameters = true :=
      fun e hkey => isParameters_eq_true_iff.mpr hkey
    rw [h.parameters, h'.parameters, ← lastUnder_filter hshared entries, hsame.parameters,
      lastUnder_filter hshared]
  cases item
  cases item'
  exact congr (congrArg PathItem.mk hparameters) hoperations

end PathItem

namespace Decoding

section Members

variable {reading : Reading} {room : Nat}

theorem pathMember_method (room : Nat) (method : Method) (node : Node) :
    pathMember room method.key node = PathMember.operation method <$> operation room node := by
  unfold pathMember
  rw [if_neg method.key_ne_parameters, Method.ofKey?_eq_some_iff.mpr rfl]

/-- Under any other key nothing is decoded, but the value must be one that can be skipped. -/
theorem pathMember_other (room : Nat) {key : String} (hparameters : key ≠ "parameters")
    (hmethods : ∀ method : Method, key ≠ method.key) (node : Node) :
    pathMember room key node = (fun _ => PathMember.other) <$> skip node := by
  unfold pathMember
  rw [if_neg hparameters, Method.ofKey?_eq_none_iff.mpr hmethods]
  rfl

/-- The value of a member is decoded by its key. -/
theorem finds_pathMember_iff {key : String} {node : Node} {content : PathMember} {jumps : Nat} :
    Finds reading (pathMember room key node) content jumps ↔
      ValueReads reading room node ⟨key, content⟩ jumps := by
  constructor
  · intro h
    -- The key is looked at as the decoder does, which asks for the parameters first.
    by_cases hkey : key = "parameters"
    · subst hkey
      rcases (finds_map_iff (metered_parameters room node)).mp h with ⟨shared, hshared, rfl⟩
      exact .parameters hshared
    by_cases hmethod : ∃ method : Method, key = method.key
    · rcases hmethod with ⟨method, rfl⟩
      rw [pathMember_method, finds_map_iff (metered_operation room node)] at h
      rcases h with ⟨operation, hoperation, rfl⟩
      exact .operation hoperation
    · have hmethods := not_exists.mp hmethod
      rw [pathMember_other room hkey hmethods, finds_map_iff (metered_skip node)] at h
      rcases h with ⟨u, hskip, rfl⟩
      obtain ⟨hnone, rfl⟩ := finds_skip_iff.mp hskip
      exact .other hkey hmethods hnone
  · intro h
    -- The key is known only once it is known how the value was read.
    generalize hentry : (⟨key, content⟩ : PathEntry) = entry at h
    cases h with
    | parameters h =>
        obtain ⟨rfl, rfl⟩ := PathEntry.mk.inj hentry
        exact (finds_map_iff (metered_parameters room node)).mpr ⟨_, h, rfl⟩
    | operation h =>
        obtain ⟨rfl, rfl⟩ := PathEntry.mk.inj hentry
        rw [pathMember_method, finds_map_iff (metered_operation room node)]
        exact ⟨_, h, rfl⟩
    | other hparameters hmethods h =>
        obtain ⟨rfl, rfl⟩ := PathEntry.mk.inj hentry
        rw [pathMember_other room hparameters hmethods, finds_map_iff (metered_skip node)]
        exact ⟨(), finds_skip_iff.mpr ⟨h, rfl⟩, rfl⟩

/-- The members are decoded when each of them is read, and then to what they are read as. -/
theorem finds_membersOf_iff {members : List (Node × Node)} {contents : List PathMember}
    {jumps : Nat} :
    Finds reading (membersOf (pathMember room) members) contents jumps ↔
      ∃ entries, MembersRead reading room members entries jumps ∧ jumps ≤ reading.jumps ∧
        entries.map (·.content) = contents := by
  induction members generalizing contents jumps with
  | nil =>
      refine finds_pure_iff.trans ⟨?_, ?_⟩
      · rintro ⟨rfl, rfl⟩
        exact ⟨[], .nil, Nat.zero_le _, rfl⟩
      · rintro ⟨entries, hread, -, rfl⟩
        cases hread
        exact ⟨rfl, rfl⟩
  | cons member members ih =>
      rcases member with ⟨key, value⟩
      -- A member takes three steps: its key, its value, and the members behind it.
      have hkey : Metered (within .unknown (text key)) := metered_within (metered_text key)
      have hvalue : ∀ name, Metered (within (.key name) (pathMember room name value)) :=
        fun name => metered_within (metered_pathMember room name value)
      have hothers := metered_membersOf (metered_pathMember room) members
      have hlast : ∀ (content : PathMember) (others : List PathMember),
          Metered (pure (content :: others) : Decoding (List PathMember)) :=
        fun content others => metered_pure _
      have hbehind := fun content => metered_bind hothers (hlast content)
      have hafter := fun name => metered_bind (hvalue name) hbehind
      constructor
      · intro h
        -- The aliases that are followed add up, so the bound on the whole bounds each step.
        rcases (finds_bind_iff hkey hafter).mp h with ⟨name, k, _, hname, hmember, rfl, hle⟩
        rcases (finds_bind_iff (hvalue name) hbehind).mp hmember with
          ⟨content, l, _, hcontent, hrest, rfl, -⟩
        rcases (finds_bind_iff hothers (hlast content)).mp hrest with
          ⟨others, n, _, hmembers, hend, rfl, -⟩
        obtain ⟨rfl, rfl⟩ := finds_pure_iff.mp hend
        rcases ih.mp hmembers with ⟨entries, hentries, -, rfl⟩
        exact ⟨⟨name, content⟩ :: entries,
          .cons (finds_within_iff.mp hname) (finds_pathMember_iff.mp (finds_within_iff.mp hcontent))
            hentries, hle, rfl⟩
      · rintro ⟨entries, hread, hle, rfl⟩
        cases hread with
        | @cons _ _ _ entry entries k l n hname hcontent hentries =>
            have hrest := ih.mpr ⟨entries, hentries, by omega, rfl⟩
            refine (finds_bind_iff hkey hafter).mpr ⟨entry.key, k, l + n,
              finds_within_iff.mpr hname, ?_, rfl, hle⟩
            refine (finds_bind_iff (hvalue entry.key) hbehind).mpr ⟨entry.content, l, n,
              finds_within_iff.mpr (finds_pathMember_iff.mpr hcontent), ?_, rfl, by omega⟩
            exact (finds_bind_iff hothers (hlast entry.content)).mpr ⟨_, n, 0, hrest,
              finds_pure_iff.mpr ⟨rfl, rfl⟩, rfl, by omega⟩

/-- A mapping is a path item with what its members leave behind. -/
theorem run_pathItem {node : Node} {marked : Bool} {members : List (Node × Node)}
    {count count' : Nat}
    (htarget : ((target node).run reading).run count =
      .ok (.mapping marked members .closed, count')) :
    ((pathItem (room + 1) node).run reading).run count =
      ((PathItem.ofMembers <$> membersOf (pathMember room) members).run reading).run count' := by
  unfold pathItem mapExpecting
  rw [map_bind, run_bind, htarget]
  show (((PathItem.ofMembers <$> (membersOf (pathMember room) members >>= pure) :
    Decoding PathItem)).run reading).run count' = _
  rw [bind_pure]

/-- A mapping is a path item when all its members can be read, and then it is what they leave
    behind. -/
theorem pathItem_eq_ok_iff {node : Node} {marked : Bool} {members : List (Node × Node)}
    {k count count' : Nat} {item : PathItem}
    (htarget : Finds reading (target node) (.mapping marked members .closed) k)
    (hcount : count + k ≤ reading.jumps) :
    ((pathItem (room + 1) node).run reading).run count = .ok (item, count') ↔
      ∃ entries n, MembersRead reading room members entries n ∧ count' = count + k + n ∧
        count' ≤ reading.jumps ∧ item.ReadFrom entries := by
  have hmembers := metered_membersOf (metered_pathMember room) members
  rw [run_pathItem ((metered_target node).run_eq htarget hcount)]
  constructor
  · intro h
    rcases (metered_map hmembers _).finds hcount h with ⟨n, hfinds, hn, hle⟩
    rcases (finds_map_iff hmembers).mp hfinds with ⟨contents, hcontents, rfl⟩
    rcases finds_membersOf_iff.mp hcontents with ⟨entries, hread, -, rfl⟩
    exact ⟨entries, n, hread, hn, hle, PathItem.readFrom_ofMembers hread⟩
  · rintro ⟨entries, n, hread, rfl, hle, hitem⟩
    -- The item is not given as a result of the decoder, but there is only one.
    rw [hitem.eq (PathItem.readFrom_ofMembers hread) ⟨rfl, rfl⟩]
    refine (metered_map hmembers _).run_eq ((finds_map_iff hmembers).mpr ?_) hle
    exact ⟨_, finds_membersOf_iff.mpr ⟨entries, hread, by omega, rfl⟩, rfl⟩

/-- Entries that can be read leave a path item behind. -/
theorem ItemReads.exists_pathItem {node : Node} {entries : List PathEntry} {jumps count : Nat}
    (hread : ItemReads reading room node entries jumps) (hcount : count + jumps ≤ reading.jumps) :
    ∃ item : PathItem,
      ((pathItem (room + 1) node).run reading).run count = .ok (item, count + jumps) ∧
        item.ReadFrom entries := by
  cases hread with
  | @mapping marked members _ k n htarget hmembers =>
      have hitem := PathItem.readFrom_ofMembers hmembers
      exact ⟨_, (pathItem_eq_ok_iff htarget (by omega)).mpr
        ⟨entries, n, hmembers, (Nat.add_assoc _ _ _).symm, hcount, hitem⟩, hitem⟩

end Members

end Decoding

/-- For every mapping, whatever keys it has and however often: if the key and the value of each
    entry can be read, the mapping is a path item. Its methods are those that occur, each in the
    place of its first occurrence with the operation of its last one, and it shares the
    parameters that were given last. Any other mapping, also one of another text, with the same
    entries under methods and the same entries under `parameters` is the same path item,
    whatever other entries it has and wherever its parameters stand. -/
theorem pathItem_inOrder {reading : Reading} {room : Nat} {node : Node}
    {entries : List PathEntry} {jumps count : Nat}
    (hread : Decoding.ItemReads reading room node entries jumps)
    (hcount : count + jumps ≤ reading.jumps) :
    ∃ item : PathItem,
      ((Decoding.pathItem (room + 1) node).run reading).run count = .ok (item, count + jumps) ∧
      item.ReadFrom entries ∧
      ∀ (reading' : Reading) (room' : Nat) (node' : Node) (entries' : List PathEntry)
        (jumps' count' : Nat), Decoding.ItemReads reading' room' node' entries' jumps' →
        PathEntry.SameFields entries entries' → count' + jumps' ≤ reading'.jumps →
        ((Decoding.pathItem (room' + 1) node').run reading').run count' =
          .ok (item, count' + jumps') := by
  rcases hread.exists_pathItem hcount with ⟨item, hrun, hitem⟩
  refine ⟨item, hrun, hitem, ?_⟩
  intro reading' room' node' entries' jumps' count' hread' hsame hcount'
  rcases hread'.exists_pathItem hcount' with ⟨item', hrun', hitem'⟩
  rw [hitem.eq hitem' hsame]
  exact hrun'

/-- The node of a text without escapes. -/
def wordNode (text : String) : Node :=
  Json.scalar (.ok (.string text))

/-- The node of an operation with an id only. -/
def operationNode (id : String) : Node :=
  .mapping false [(wordNode "operationId", wordNode id)] .closed

/-- The entry of such an operation. -/
def operationEntry (method : Method) (id : String) : PathEntry :=
  ⟨method.key, .operation method { operationId := some id }⟩

/-- A path item that gives `post` twice, the second time as an alias. -/
def repeatedNode : Node :=
  .mapping false [(wordNode "post", operationNode "first"),
    (wordNode "parameters", .sequence false [] none), (wordNode "get", operationNode "second"),
    (wordNode "post", .alias 0)] .closed

/-- The same with a summary, and with the parameters behind `get`. -/
def rearrangedNode : Node :=
  .mapping false [(wordNode "post", operationNode "first"),
    (wordNode "get", operationNode "second"), (wordNode "summary", wordNode "Pets"),
    (wordNode "parameters", .sequence false [] none), (wordNode "post", .alias 0)] .closed

/-- A text of these two path items, with an operation that the alias stands for. -/
def repeatedReading : Reading where
  root := .mapping false
    [(wordNode "/pets", repeatedNode), (wordNode "/cats", rearrangedNode)] .closed
  rest := none
  anchors _ := some (operationNode "third")
  depth := 3
  jumps := 2

def repeatedEntries : List PathEntry :=
  [operationEntry .post "first", ⟨"parameters", .parameters []⟩, operationEntry .get "second",
    operationEntry .post "third"]

def rearrangedEntries : List PathEntry :=
  [operationEntry .post "first", operationEntry .get "second", ⟨"summary", .other⟩,
    ⟨"parameters", .parameters []⟩, operationEntry .post "third"]

theorem pathItem_inOrder_repeated :
    ∃ item : PathItem,
      ((Decoding.pathItem 2 repeatedNode).run repeatedReading).run 0 = .ok (item, 1) ∧
      item.operations.keys = [.post, .get] ∧
      (item.operations.get? .post).map (·.operationId) = some (some "third") ∧
      ((Decoding.pathItem 2 rearrangedNode).run repeatedReading).run 1 = .ok (item, 2) := by
  have hsummary : ∀ method : Method, "summary" ≠ method.key :=
    Method.ofKey?_eq_none_iff.mp rfl
  have hread : Decoding.ItemReads repeatedReading 1 repeatedNode repeatedEntries _ :=
    .mapping rfl (.cons rfl (.operation rfl) (.cons rfl (.parameters rfl)
      (.cons rfl (.operation rfl) (.cons rfl (.operation rfl) .nil))))
  have hread' : Decoding.ItemReads repeatedReading 1 rearrangedNode rearrangedEntries _ :=
    .mapping rfl (.cons rfl (.operation rfl) (.cons rfl (.operation rfl)
      (.cons rfl (.other (by decide) hsummary rfl) (.cons rfl (.parameters rfl)
        (.cons rfl (.operation rfl) .nil)))))
  have hsame : PathEntry.SameFields repeatedEntries rearrangedEntries :=
    (PathEntry.sameFields_swap [_] [_] rfl (rfl : _ = Method.key .get)).trans
      (PathEntry.sameFields_insert [_, _] [_, _] hsummary (by decide))
  have hcount : 0 + 1 ≤ repeatedReading.jumps := by decide
  rcases pathItem_inOrder hread hcount with ⟨item, hrun, hitem, hsettled⟩
  exact ⟨item, hrun, hitem.methods.trans (by decide),
    (congrArg (Option.map (·.operationId)) (hitem.operations .post)).trans rfl,
    hsettled _ _ _ _ _ 1 hread' hsame (by decide)⟩

end RouteTypes
