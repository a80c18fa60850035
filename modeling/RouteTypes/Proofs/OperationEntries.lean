import RouteTypes.Proofs.ObjectKeys
import RouteTypes.Proofs.RequestBodies
import RouteTypes.Proofs.Retention

/-!
# The Entries of an Operation

What every operation of a typed document looks like, whatever its document has been.

An operation is described by one of its responses, the first in the order of the document
whose code is one of success. That code is a number in decimal, and the number is the
status (`Operation.success?_eq_some_iff`). The response itself may stand elsewhere, at the
end of a chain of references, and the body and the headers are those of the response that
is found there.

Parameters come before these entries and the request after them, and neither has an entry
with one of their names. So looking for such a name among all entries is looking for it
among those of the response (`find?_responseEntries`), although any of the other entries
may be missing. Whether an entry is required follows from its form alone, and the forms of
entries are listed in `Setting.IsEntry`.

## Main definitions

* `IsSuccessStatus`: The numbers of the codes of success.
* `Operation.AnswersWith`: The first response for a code of success, with its status.
* `Slot.LeadsTo`: The response in a slot, references followed.
* `TypedOperation.Describes`: The entries for a status and a response.
* `Property.KeepsFlags`: What the name of an entry says about it.
* `TypedOperation.Canonical`: All that holds for the entries of an operation.

## Theorems

* `successStatus_eq_some_iff`: The number that a code is read as.
* `Operation.success?_eq_some_iff`: An operation answers as it should.
* `Setting.IsEntry.keepsFlags`: Entries are required as their names say.
* `typeOperation_canonical`: An operation that is typed is canonical.
* `toApi_canonical`: So are all operations of a typed document.
-/

namespace RouteTypes

section Statuses

/-- The numbers of the codes of success. -/
def IsSuccessStatus (status : Nat) : Prop :=
  (200 ≤ status ∧ status ≤ 209) ∨ (300 ≤ status ∧ status ≤ 309)

theorem exists_digitChar {digit : Char} (h : digit.isDigit = true) :
    ∃ n, n < 10 ∧ digit = n.digitChar := by
  have hbounds : 48 ≤ digit.toNat ∧ digit.toNat ≤ 57 := Char.isDigit_iff_toNat.mp h
  refine ⟨digit.toNat - 48, by omega, ?_⟩
  rw [← Char.toNat_inj, Nat.toNat_digitChar_of_lt_ten (by omega)]
  omega

/-- A code of success is a number in decimal, and is read as that number. -/
theorem IsSuccessCode.exists_status {code : String} (h : IsSuccessCode code) :
    ∃ status, IsSuccessStatus status ∧ code = status.repr ∧
      successStatus code = some status := by
  -- There are ten codes of either kind.
  have htwenty : ∀ n < 10, "20".push n.digitChar = (200 + n).repr ∧
      successStatus ("20".push n.digitChar) = some (200 + n) := by decide
  have hthirty : ∀ n < 10, "30".push n.digitChar = (300 + n).repr ∧
      successStatus ("30".push n.digitChar) = some (300 + n) := by decide
  rcases h with ⟨digit, hdigit, rfl | rfl⟩
  · rcases exists_digitChar hdigit with ⟨n, hn, rfl⟩
    exact ⟨200 + n, Or.inl ⟨by omega, by omega⟩, htwenty n hn⟩
  · rcases exists_digitChar hdigit with ⟨n, hn, rfl⟩
    exact ⟨300 + n, Or.inr ⟨by omega, by omega⟩, hthirty n hn⟩

theorem eq_of_repr_eq {n m : Nat} (h : n.repr = m.repr) : n = m := by
  rw [Nat.repr_eq_ofList_toDigits, Nat.repr_eq_ofList_toDigits, String.ofList_inj] at h
  rw [← Nat.ofDigitChars_ten_toDigits (n := n), h, Nat.ofDigitChars_ten_toDigits]

/-- Only codes of success are read, and each as the number it stands for. -/
theorem successStatus_eq_some_iff {code : String} {status : Nat} :
    successStatus code = some status ↔ IsSuccessCode code ∧ code = status.repr := by
  constructor
  · intro h
    -- A number that was read is that of a code of success, so it is the number that this code
    -- stands for.
    have hcode : IsSuccessCode code := by
      rw [← successStatus_isSome_iff, h]
      rfl
    rcases hcode.exists_status with ⟨number, _, hrepr, hnumber⟩
    have hsame : number = status := Option.some.inj (hnumber.symm.trans h)
    exact ⟨hcode, hsame ▸ hrepr⟩
  · rintro ⟨hcode, hrepr⟩
    rcases hcode.exists_status with ⟨number, _, hrepr', hnumber⟩
    have hsame : number = status := eq_of_repr_eq (hrepr'.symm.trans hrepr)
    exact hsame ▸ hnumber

/-- The operation answers with a status and the response in a slot: the first of its codes
    that is one of success is the status in decimal, and the slot stands there. -/
def Operation.AnswersWith (o : Operation) (status : Nat) (slot : Slot Response) : Prop :=
  ∃ before after, o.responses.entries = before ++ (status.repr, slot) :: after ∧
    IsSuccessCode status.repr ∧ ∀ e ∈ before, ¬ IsSuccessCode e.1

/-- What is found is the first code of success with its slot. -/
theorem Operation.success?_eq_some_iff {o : Operation} {status : Nat} {slot : Slot Response} :
    o.success? = some (status, slot) ↔ o.AnswersWith status slot := by
  unfold success? AnswersWith
  rw [List.findSome?_eq_some_iff]
  -- An entry is skipped when its code is none of success.
  have hskipped : ∀ e : String × Slot Response,
      (successStatus e.1).map (fun status => (status, e.2)) = none ↔ ¬ IsSuccessCode e.1 := by
    intro e
    rw [← successStatus_isSome_iff, Option.map_eq_none_iff, Option.not_isSome_iff_eq_none]
  simp only [hskipped, Option.map_eq_some_iff, Prod.mk.injEq, successStatus_eq_some_iff]
  constructor
  · rintro ⟨before, ⟨code, _⟩, after, hentries, ⟨_, ⟨hcode, rfl⟩, rfl, rfl⟩, hbefore⟩
    exact ⟨before, after, hentries, hcode, hbefore⟩
  · rintro ⟨before, after, hentries, hcode, hbefore⟩
    exact ⟨before, _, after, hentries, ⟨status, ⟨hcode, rfl⟩, rfl, rfl⟩, hbefore⟩

/-- The status that an operation answers with is one of success. -/
theorem Operation.AnswersWith.isSuccessStatus {o : Operation} {status : Nat}
    {slot : Slot Response} (h : o.AnswersWith status slot) : IsSuccessStatus status := by
  rcases h with ⟨_, _, _, hcode, _⟩
  rcases hcode.exists_status with ⟨number, hnumber, hrepr, _⟩
  exact eq_of_repr_eq hrepr ▸ hnumber

end Statuses

section Responses

variable {setting : Setting}

/-- The response stands in the slot itself, or at the end of the chain of references that
    starts there. -/
inductive Slot.LeadsTo (c : Components) : Slot Response → Response → Prop where
  | inline (response : Response) : LeadsTo c (.inline response) response
  | reference {pointer : String} {keys : List String} {response : Response}
      (h : Trail .responses c.responses pointer keys response) :
      LeadsTo c (.reference pointer) response

/-- Looking a response up finds the one that its slot leads to. -/
theorem Slot.leadsTo_of_stands {c : Components} {slot : Slot Response} {response : Response}
    (h : slot.Stands c.response response) : slot.LeadsTo c response := by
  cases slot with
  | reference pointer =>
      rcases follow_eq_ok_iff.mp h with ⟨keys, htrail⟩
      exact .reference htrail
  | inline inner =>
      have hsame : inner = response := h
      exact hsame ▸ .inline inner

/-- The entry for a status. -/
def statusEntry (status : Nat) : Property :=
  .field "status" true none { shape := .status status }

/-- The entry for the body of a response with its type. -/
def responseBodyEntry (response : Response) (value : Option TypeNode) : Option Property :=
  value.map fun v => Property.field "resBody" true response.description v

/-- The entry for the headers of a response that have a type. -/
def responseHeadersEntry (headers : List Property) : Option Property :=
  if headers = [] then none
  else some (.field "resHeaders" true none { shape := .object headers })

/-- The entries of the operation say what the status is and describe the response. -/
structure TypedOperation.Describes (setting : Setting) (status : Nat) (response : Response)
    (o : TypedOperation) : Prop where
  status : o.entry? "status" = some (statusEntry status)
  body : ∃ value, (typeContent setting .response response.content).Yields value ∧
    o.entry? "resBody" = responseBodyEntry response value
  headers : ∃ headers, (responseHeaders setting response).Yields headers ∧
    o.entry? "resHeaders" = responseHeadersEntry headers

/-- The steps of the entries for a response. -/
theorem responseEntries_yields {status : Nat} {slot : Slot Response} {qs : List Property}
    (h : (responseEntries setting status slot).Yields qs) :
    ∃ response value headers, slot.LeadsTo setting.components response ∧
      (typeContent setting .response response.content).Yields value ∧
      (responseHeaders setting response).Yields headers ∧
      qs = statusEntry status :: (responseBodyEntry response value).toList ++
        (responseHeadersEntry headers).toList := by
  simp only [responseEntries, Logged.yields_bind, Logged.yields_pure] at h
  rcases h with ⟨response, hresponse, value, hvalue, headers, hheaders, rfl⟩
  have hslot := Slot.leadsTo_of_stands (resolveResponse_yields.mp hresponse)
  refine ⟨response, value, headers, hslot, hvalue, hheaders, ?_⟩
  -- The test for headers and the question if there are any say the same of each form.
  cases headers <;> rfl

/-- Names that no parameter or request has are looked up among the entries for the
    response. -/
theorem find?_responseEntries {name : String} (hname : name ∈ ["status", "resBody", "resHeaders"])
    (declared : List DeclaredParameter) (response : List Property)
    {slot : Option (Slot RequestBody)} {request : List Property}
    (hrequest : (optionalRequestEntries setting slot).Yields request) :
    (parameterEntries declared ++ response ++ request).find? (·.name = .field name)
      = response.find? (·.name = .field name) := by
  have hbefore : ∀ name ∈ ["status", "resBody", "resHeaders"], PropertyName.field name ∉
      [PropertyName.field "reqHeaders", .field "query"] := by decide
  have hbehind : ∀ name ∈ ["status", "resBody", "resHeaders"], PropertyName.field name ∉
      [PropertyName.field "reqFormat", .field "reqBody"] := by decide
  -- The names of all three groups are different, so the other two hold nothing.
  have hparameters : (parameterEntries declared).find? (·.name = .field name) = none :=
    find?_name_eq_none (parameterEntries_names declared) (hbefore name hname)
  have hrequests : request.find? (·.name = .field name) = none :=
    find?_name_eq_none (optionalRequestEntries_names hrequest) (hbehind name hname)
  rw [List.find?_append, List.find?_append, hparameters, hrequests, Option.none_or,
    Option.or_none]

end Responses

section Entries

variable {setting : Setting}

/-- What the name of an entry says about it: headers never have to be given, what is sent
    back is always there, and so is the encoding of a form. The headers that are sent back
    are one object, and not an empty one. -/
structure Property.KeepsFlags (q : Property) : Prop where
  optional : q.name = .field "reqHeaders" → q.required = false
  always : ∀ name ∈ ["status", "resBody", "resHeaders", "reqFormat"],
    q.name = .field name → q.required = true
  headers : q.name = .field "resHeaders" →
    ∃ fields, fields ≠ [] ∧ q.values = [{ shape := .object fields }]

/-- An entry of any form does what its name says. -/
theorem Setting.IsEntry.keepsFlags {q : Property} (h : setting.IsEntry q) : q.KeepsFlags := by
  cases h with
  | @merged name required wrappers fields hname _ _ _ hoptional =>
      refine {
        optional := fun hheaders => hoptional (PropertyName.field.inj hheaders)
        always := fun other hother hsame => ?_
        headers := fun hheaders => ?_ }
      · obtain rfl := PropertyName.field.inj hsame
        -- Neither of the names for parameters is among those that are always there.
        rcases hname with rfl | rfl <;> exact absurd hother (by decide)
      · obtain rfl := PropertyName.field.inj hheaders
        exact absurd hname (by decide)
  | status | responseBody | format =>
      exact {
        optional := fun hname => absurd (PropertyName.field.inj hname) (by decide)
        always := fun _ _ _ => rfl
        headers := fun hname => absurd (PropertyName.field.inj hname) (by decide) }
  | @responseHeaders fields _ hne =>
      exact {
        optional := fun hname => absurd (PropertyName.field.inj hname) (by decide)
        always := fun _ _ _ => rfl
        headers := fun _ => ⟨fields, hne, rfl⟩ }
  | requestBody =>
      refine {
        optional := fun hname => absurd (PropertyName.field.inj hname) (by decide)
        always := fun name hname hsame => ?_
        headers := fun hname => absurd (PropertyName.field.inj hname) (by decide) }
      obtain rfl := PropertyName.field.inj hsame
      -- The body may be left out, and its name is not among those either.
      exact absurd hname (by decide)

/-- All that holds for the entries of an operation: their names and their order, the status
    and the response they describe, and what their names say about them. -/
structure TypedOperation.Canonical (setting : Setting) (operation : Operation)
    (o : TypedOperation) : Prop where
  order : (o.entries.map (·.name)).Sublist entryOrder
  nodup : (o.entries.map (·.name)).Nodup
  statusOnce : (o.entries.map (·.name)).count (.field "status") = 1
  answer : ∃ status slot response, operation.AnswersWith status slot ∧ IsSuccessStatus status ∧
    slot.LeadsTo setting.components response ∧ o.Describes setting status response
  flags : ∀ q ∈ o.entries, q.KeepsFlags

/-- The entries of an operation describe the response it answers with. -/
theorem describes_of_steps {declared : List DeclaredParameter} {status : Nat}
    {slot : Slot Response} {response request : List Property}
    {body : Option (Slot RequestBody)}
    (hresponse : (responseEntries setting status slot).Yields response)
    (hrequest : (optionalRequestEntries setting body).Yields request) {o : TypedOperation}
    (ho : o.entries = parameterEntries declared ++ response ++ request) :
    ∃ found, slot.LeadsTo setting.components found ∧ o.Describes setting status found := by
  rcases responseEntries_yields hresponse with
    ⟨found, value, headers, hslot, hvalue, hheaders, hentries⟩
  have hentry : ∀ name ∈ ["status", "resBody", "resHeaders"],
      o.entry? name = response.find? (·.name = .field name) := by
    intro name hname
    rw [TypedOperation.entry?, ho]
    exact find?_responseEntries hname declared response hrequest
  rw [hentries] at hentry
  refine ⟨found, hslot, {
    status := (hentry _ (by decide)).trans rfl
    body := ⟨value, hvalue, (hentry _ (by decide)).trans ?_⟩
    headers := ⟨headers, hheaders, (hentry _ (by decide)).trans ?_⟩ }⟩
  -- The status comes first, so what is left to look through are two entries that may be missing.
  · cases value <;> cases headers <;> rfl
  · cases value <;> cases headers <;> rfl

/-- An operation that is typed is canonical. -/
theorem typeOperation_canonical {item : PathItem} {method : Method} {operation : Operation}
    {o : TypedOperation} (h : (typeOperation setting item method operation).Yields (some o)) :
    o.Canonical setting operation := by
  have hnodup := typeOperation_names h
  rcases typeOperation_yields h with
    ⟨declared, status, slot, response, request, _, hsuccess, hresponse, hrequest, ho⟩
  have hanswers := Operation.success?_eq_some_iff.mp hsuccess
  rcases describes_of_steps hresponse hrequest (congrArg TypedOperation.entries ho) with
    ⟨found, hslot, hdescribes⟩
  -- The entry for the status is there, and its name is there only once.
  have hmem : statusEntry status ∈ o.entries := List.mem_of_find?_eq_some hdescribes.status
  have hname : PropertyName.field "status" ∈ o.entries.map (·.name) := List.mem_map_of_mem hmem
  exact {
    order := typeOperation_order h
    nodup := hnodup
    statusOnce := List.count_eq_one_of_mem hnodup hname
    answer := ⟨status, slot, found, hanswers, hanswers.isSuccessStatus, hslot, hdescribes⟩
    flags := fun q hq => (typeOperation_isEntry h q hq).keepsFlags }

end Entries

/-- Every operation of a typed document comes from one of the document, with its method
    and path, and is canonical. -/
theorem toApi_canonical {document : Document} {options : Options} {api : Api}
    (h : (document.toApi options).Yields api) :
    ∀ p ∈ api.paths, ∀ o ∈ p.operations, ∃ item operation,
      (p.template, item) ∈ document.paths.entries ∧
        (o.method, operation) ∈ item.operations.entries ∧
          o.Canonical (document.setting options) operation := by
  intro p hp o ho
  rcases typePaths_yields (toApi_yields h).2.2.1 p hp with ⟨⟨template, item⟩, hitem, hpath⟩
  rcases typePath_yields hpath with ⟨_, _, htemplate, _, _, hoperations⟩
  rcases hoperations o ho with ⟨⟨method, operation⟩, hoperation, _, htyped⟩
  rw [htemplate, typeOperation_method htyped]
  exact ⟨item, operation, hitem, hoperation, typeOperation_canonical htyped⟩

/-- A document with an operation that answers with a response of the components. Its first
    code is no code of success, and one more follows that is. -/
def createdDocument : Document where
  paths :=
    { entries := [("/pets", { operations := { entries := [(.post, {
        parameters := [.inline {
          name := "Trace", location := .header,
          schema := some (.inline { type := some (.single "string") }) }]
        responses := { entries := [
          ("404", .inline {}), ("201", .reference "#/components/responses/Created"),
          ("200", .inline {})] } })] } })] }
  components :=
    { responses := { entries := [("Created", .inline {
        content := { entries := [("application/json",
          { schema := some (.inline { type := some (.single "string") }) })] }
        headers := { entries := [("Location",
          .inline { schema := some (.inline { type := some (.single "string") }) })] } })] } }

theorem toApi_canonical_created :
    ∃ api, (createdDocument.toApi {}).Yields api ∧
      api.paths.map (·.operations.map (·.entries.map (·.name))) =
        [[[.field "reqHeaders", .field "status", .field "resBody", .field "resHeaders"]]] ∧
      ∀ p ∈ api.paths, ∀ o ∈ p.operations, ∃ item operation,
        (p.template, item) ∈ createdDocument.paths.entries ∧
          (o.method, operation) ∈ item.operations.entries ∧
            o.Canonical (createdDocument.setting {}) operation := by
  -- Evaluating the whole document once gives its result, to which the theorem is applied.
  have hnames : (createdDocument.toApi {}).value?.map (fun api =>
      api.paths.map (·.operations.map (·.entries.map (·.name)))) =
        some [[[.field "reqHeaders", .field "status", .field "resBody",
          .field "resHeaders"]]] := by decide +kernel
  rcases Option.map_eq_some_iff.mp hnames with ⟨api, hvalue, hnames⟩
  have h := Logged.yields_of_value? hvalue
  exact ⟨api, h, hnames, toApi_canonical h⟩

end RouteTypes
