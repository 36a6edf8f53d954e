import Bazaar.Proofs.Platform
import Bazaar.Proofs.Query.Percent
import Bazaar.Proofs.Text
import Bazaar.Query.Request
import Std.Data.String.ToInt

/-!
# Requests through their parameters

The parameters of a request are read piece by piece: ampersands part them, the first equals sign
parts name and value, and both are percent-encoded UTF-8.  What is read is what the request says, so
nothing in a text can pass for a parameter, and requests with equal parameters ask the same.  There
are parameters unless the page or the page size has more digits than the platform writes.
-/

namespace Bazaar.Request

/-! ## Reading parameters -/

/-- Reads a percent-encoded text, if its bytes are UTF-8. -/
def readText (w : List Char) : Option String :=
  (Text.decodeUtf8 (Percent.bytes w)).toOption.map String.ofList

/-- Reads a name and a value with an equals sign between them. -/
def readParameter (w : List Char) : Option (String × String) := do
  let (name, value) ← Text.cutAt? '=' w
  return (← readText name, ← readText value)

/-- Reads parameters with ampersands between them. -/
def readParameters (s : String) : Option (List (String × String)) :=
  (Text.splitAt '&' s.toList).mapM readParameter

theorem readText_encodeChars (s : String) : readText (Percent.encodeChars s.toList) = some s := by
  rw [readText, Percent.bytes_encodeChars, Text.decodeUtf8_utf8]
  exact congrArg some String.ofList_toList

theorem not_mem_encodeChars {mark : Char} (reserved : Percent.isUnreserved mark = false)
    (notPercent : mark ≠ '%') (cs : List Char) : mark ∉ Percent.encodeChars cs := by
  intro member
  rcases Percent.mem_encodeChars member with unreserved | isPercent
  · rw [reserved] at unreserved
    cases unreserved
  · exact notPercent isPercent

theorem readParameter_parameterChars (p : String × String) :
    readParameter (parameterChars p) = some p := by
  have absent : '=' ∉ Percent.encodeChars p.1.toList := not_mem_encodeChars rfl (by decide) _
  rw [readParameter, parameterChars, Text.cutAt?_append absent]
  simp [readText_encodeChars]

theorem amp_not_mem_parameterChars (p : String × String) : '&' ∉ parameterChars p := by
  have absent (s : String) : '&' ∉ Percent.encodeChars s.toList :=
    not_mem_encodeChars rfl (by decide) _
  simp [parameterChars, absent]

/-- Parameters are read back as they were, in order. -/
theorem readParameters_encodeParameters {ps : List (String × String)} (some_parameter : ps ≠ []) :
    readParameters (encodeParameters ps) = some ps := by
  have pieces : Text.splitAt '&' (Text.joinWith ['&'] (ps.map parameterChars)) =
      ps.map parameterChars := by
    refine Text.splitAt_joinWith (by simpa using some_parameter) fun piece member => ?_
    obtain ⟨p, -, rfl⟩ := List.mem_map.mp member
    exact amp_not_mem_parameterChars p
  have readEach : readParameter ∘ parameterChars = pure := by
    funext p
    exact readParameter_parameterChars p
  rw [readParameters, encodeParameters, String.toList_ofList, pieces, List.mapM_map, readEach,
    List.mapM_pure, List.map_id']
  rfl

/-- The characters of encoded parameters. -/
theorem mem_encodeParameters {ps : List (String × String)} {c : Char}
    (member : c ∈ (encodeParameters ps).toList) :
    Percent.isUnreserved c = true ∨ c = '%' ∨ c = '=' ∨ c = '&' := by
  rw [encodeParameters, String.toList_ofList] at member
  rcases Text.mem_joinWith member with ⟨piece, among, own⟩ | separator
  · obtain ⟨p, -, rfl⟩ := List.mem_map.mp among
    rcases List.mem_append.mp own with name | behind
    · exact (Percent.mem_encodeChars name).imp_right .inl
    · rcases List.mem_cons.mp behind with isMark | value
      · exact .inr (.inr (.inl isMark))
      · exact (Percent.mem_encodeChars value).imp_right .inl
  · exact .inr (.inr (.inr (List.mem_singleton.mp separator)))

theorem isUnreserved_iff {c : Char} :
    Percent.isUnreserved c = true ↔
      c.isAlphanum = true ∨ c = '_' ∨ c = '.' ∨ c = '-' ∨ c = '~' := by
  simp [Percent.isUnreserved, or_assoc]

/-! ## Requests -/

/-- What may be left out is the same in both cases, if it is there at all. -/
theorem ite_none_inj {α : Type} {p q : Prop} [Decidable p] [Decidable q] {a b : α} :
    (if p then none else some a) = (if q then none else some b) ↔ (p ↔ q) ∧ (¬p → a = b) := by
  by_cases first : p <;> by_cases second : q <;> simp [first, second]

/-- What a request says, its numbers written out. -/
def saying (r : Request) : List (String × String) :=
  [("query", r.term), ("page", toString r.page), ("hitsPerPage", toString r.hitsPerPage)] ++
    (if r.filters = "" then [] else [("filters", r.filters)]) ++
    (if r.attributes = [] then []
      else [("attributesToRetrieve", ",".intercalate r.attributes)])

section

variable (r : Request)

theorem lookup_query : r.saying.lookup "query" = some r.term := by
  simp [saying]

theorem lookup_page : r.saying.lookup "page" = some (toString r.page) := by
  simp [saying, List.lookup_cons]

theorem lookup_hitsPerPage :
    r.saying.lookup "hitsPerPage" = some (toString r.hitsPerPage) := by
  simp [saying, List.lookup_cons]

theorem lookup_filters :
    r.saying.lookup "filters" = if r.filters = "" then none else some r.filters := by
  by_cases noFilter : r.filters = "" <;> by_cases noAttribute : r.attributes = [] <;>
    simp [saying, List.lookup_cons, noFilter, noAttribute]

theorem lookup_attributes :
    r.saying.lookup "attributesToRetrieve" =
      if r.attributes = [] then none else some (",".intercalate r.attributes) := by
  by_cases noFilter : r.filters = "" <;> by_cases noAttribute : r.attributes = [] <;>
    simp [saying, List.lookup_cons, noFilter, noAttribute]

end

/-- Whether two requests say the same. -/
def Agree (r s : Request) : Prop :=
  r.term = s.term ∧ r.page = s.page ∧ r.hitsPerPage = s.hitsPerPage ∧
    r.filters = s.filters ∧ (r.attributes = [] ↔ s.attributes = []) ∧
    ",".intercalate r.attributes = ",".intercalate s.attributes

theorem agree_iff {r s : Request} : r.Agree s ↔ r.saying = s.saying := by
  constructor
  · rintro ⟨term, page, hitsPerPage, filters, none, attributes⟩
    simp [saying, term, page, hitsPerPage, filters, none, attributes]
  · intro same
    have looked (name : String) := congrArg (List.lookup name) same
    have query := looked "query"
    have page := looked "page"
    have hitsPerPage := looked "hitsPerPage"
    have filters := looked "filters"
    have attributes := looked "attributesToRetrieve"
    rw [lookup_query, lookup_query] at query
    rw [lookup_page, lookup_page] at page
    rw [lookup_hitsPerPage, lookup_hitsPerPage] at hitsPerPage
    rw [lookup_filters, lookup_filters, ite_none_inj] at filters
    rw [lookup_attributes, lookup_attributes, ite_none_inj] at attributes
    refine ⟨Option.some_inj.mp query, Int.repr_inj.mp (Option.some_inj.mp page),
      Int.repr_inj.mp (Option.some_inj.mp hitsPerPage), ?_, attributes.1, ?_⟩
    · by_cases noFilter : r.filters = ""
      · rw [noFilter, filters.1.mp noFilter]
      · exact filters.2 noFilter
    · by_cases noAttribute : r.attributes = []
      · rw [noAttribute, attributes.1.mp noAttribute]
      · exact attributes.2 noAttribute

theorem readParameters_saying (r : Request) :
    readParameters (encodeParameters r.saying) = some r.saying :=
  readParameters_encodeParameters (by simp [saying])

theorem encodeParameters_saying_inj {r s : Request} :
    encodeParameters r.saying = encodeParameters s.saying ↔ r.Agree s := by
  rw [agree_iff]
  refine ⟨fun same => ?_, fun same => by rw [same]⟩
  have read := readParameters_saying r
  rw [same, readParameters_saying s] at read
  exact (Option.some_inj.mp read).symm

section Written

variable [Platform] {r s : Request} {blob : String}

/-- Whether the platform writes the numbers of a request. -/
def Writable (r : Request) : Prop :=
  Platform.Allows (Platform.digitCount r.page) ∧ Platform.Allows (Platform.digitCount r.hitsPerPage)

theorem params_eq_ok_iff : r.params = .ok blob ↔ r.Writable ∧ blob = encodeParameters r.saying := by
  have written : r.Writable → r.parameters = .ok r.saying := by
    rintro ⟨page, hitsPerPage⟩
    rw [parameters, Platform.write_eq_ok_iff.mpr ⟨page, rfl⟩,
      Platform.write_eq_ok_iff.mpr ⟨hitsPerPage, rfl⟩]
    simp [bind, Except.bind, pure, Except.pure, saying, String.isEmpty_iff]
  constructor
  · intro isOk
    obtain ⟨ps, read, rfl⟩ := exists_of_map_eq_ok isOk
    obtain ⟨page, pageRead, rest⟩ := exists_of_bind_eq_ok read
    obtain ⟨hitsPerPage, sizeRead, -⟩ := exists_of_bind_eq_ok rest
    have writable : r.Writable :=
      ⟨(Platform.write_eq_ok_iff.mp pageRead).1, (Platform.write_eq_ok_iff.mp sizeRead).1⟩
    rw [written writable] at read
    cases read
    exact ⟨writable, rfl⟩
  · rintro ⟨writable, rfl⟩
    rw [params, written writable]
    rfl

theorem reads_params_iff : Reads r.params ↔ r.Writable :=
  ⟨fun ⟨_, isOk⟩ => (params_eq_ok_iff.mp isOk).1,
    fun writable => ⟨_, params_eq_ok_iff.mpr ⟨writable, rfl⟩⟩⟩

/-- All that is raised in place of parameters is that a number is too long to be written. -/
theorem params_eq_error {fault : NumberFault} (fails : r.params = .error fault) :
    ∃ limit, Platform.digitLimit = some limit ∧ fault = .writing limit.val := by
  have failed {n : Int} {other : NumberFault} (unwritten : Platform.write n = .error other) :
      ∃ limit, Platform.digitLimit = some limit ∧ other = .writing limit.val := by
    rw [Platform.write_eq, Platform.checkWriting] at unwritten
    cases checked : Platform.check (Platform.digitCount n) .writing with
    | ok _ =>
        rw [checked] at unwritten
        cases unwritten
    | error first =>
        obtain ⟨limit, given, -, rfl⟩ := (Platform.check_eq_error_iff _).mp checked
        rw [checked] at unwritten
        cases unwritten
        exact ⟨limit, given, rfl⟩
  rw [params, parameters] at fails
  cases page : Platform.write r.page with
  | error first =>
      rw [page] at fails
      cases fails
      exact failed page
  | ok pageText =>
      cases hitsPerPage : Platform.write r.hitsPerPage with
      | error second =>
          rw [page, hitsPerPage] at fails
          cases fails
          exact failed hitsPerPage
      | ok sizeText =>
          rw [page, hitsPerPage] at fails
          cases fails

/-- The parameters of a request are read as its term, page and page size, its filter unless that is
empty, and its attributes unless there are none.  They are plain ASCII, and requests have equal
parameters if and only if they agree in all of these.  Every request has parameters whose page and
page size the platform writes, which is every request where it sets no limit; the others are refused
for that reason. -/
theorem readParameters_params (r : Request) :
    ((∃ blob, r.params = .ok blob) ↔
      Platform.Allows (Platform.digitCount r.page) ∧
        Platform.Allows (Platform.digitCount r.hitsPerPage)) ∧
    (Platform.digitLimit = none → ∃ blob, r.params = .ok blob) ∧
    (∀ fault, r.params = .error fault →
      ∃ limit, Platform.digitLimit = some limit ∧ fault = .writing limit.val) ∧
    ∀ blob, r.params = .ok blob →
      readParameters blob = some
        ([("query", r.term), ("page", toString r.page),
          ("hitsPerPage", toString r.hitsPerPage)] ++
          (if r.filters = "" then [] else [("filters", r.filters)]) ++
          (if r.attributes = [] then []
            else [("attributesToRetrieve", ",".intercalate r.attributes)])) ∧
      (∀ c ∈ blob.toList,
        c.isAlphanum = true ∨ c ∈ ['_', '.', '-', '~', '%', '=', '&']) ∧
      ∀ s : Request, s.params = .ok blob ↔
        r.term = s.term ∧ r.page = s.page ∧ r.hitsPerPage = s.hitsPerPage ∧
          r.filters = s.filters ∧ (r.attributes = [] ↔ s.attributes = []) ∧
          ",".intercalate r.attributes = ",".intercalate s.attributes := by
  refine ⟨reads_params_iff, fun unlimited => ?_, fun fault => params_eq_error, ?_⟩
  · exact reads_params_iff.mpr ⟨Platform.allows_of_unlimited unlimited _,
      Platform.allows_of_unlimited unlimited _⟩
  intro blob isOk
  obtain ⟨writable, rfl⟩ := params_eq_ok_iff.mp isOk
  refine ⟨readParameters_saying r, ?_, fun s => ?_⟩
  · intro c member
    have plain := mem_encodeParameters member
    rw [isUnreserved_iff] at plain
    simp only [List.mem_cons, List.not_mem_nil, or_false]
    simpa only [or_assoc] using plain
  · rw [params_eq_ok_iff, encodeParameters_saying_inj]
    refine and_iff_right_of_imp fun agree => ?_
    have same := agree
    exact ⟨same.2.1 ▸ writable.1, same.2.2.1 ▸ writable.2⟩

end Written

end Bazaar.Request
