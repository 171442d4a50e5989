import CollectMind.Library.Segments
import CollectMind.Query.Routes

set_option autoImplicit false

/- The metrics middleware of app.py: the label it gives a request by the text of its path, and
whether the latency of the request is observed. -/
namespace CollectMind.Query

open Python Ratelimit

/-- The test of `_normalize_route` on one segment. `_ID_SEGMENT` is the pattern of `_SAFE_ID`, so
`isdigit` is asked of ASCII characters only. -/
def looksLikeId (segment : List Char) : Bool :=
  safeId (String.ofList segment) && segment.any fun char => char.isDigit || "_-.".toList.contains char

def collapse (segment : List Char) : List Char :=
  if looksLikeId segment then ":id".toList else segment

/-- `_normalize_route`; a method is a token of ASCII characters. -/
def normalizeRoute (method path : String) : String :=
  let segments := (path.toList.splitOn '/').filter fun segment => !segment.isEmpty
  let out := segments.map collapse
  let template := if out.isEmpty then "/" else "/" ++ String.ofList (['/'].intercalate out)
  method.toUpper ++ " " ++ template

def queryRoutePrefixes : List String :=
  ["GET /api/v1/policies", "GET /api/v1/vehicle-groups", "GET /api/v1/findings/:id/outcome",
    "GET /api/v1/audit", "GET /api/v1/erasure-requests"]

/-- `_is_query_route`. -/
def isQueryRoute (route : String) : Bool := queryRoutePrefixes.any (startsWith route)

inductive Metric where
  | httpRequestTotal (route statusClass : String)
  | queryRequestLatencySeconds (route statusClass : String)
  deriving DecidableEq, Repr

/-- The metrics that `_MetricsMiddleware.dispatch` updates for an answered request. -/
def metricsDispatch (method path : String) (statusCode : Nat) : List Metric :=
  let route := normalizeRoute method path
  let statusClass := toString (statusCode / 100) ++ "xx"
  .httpRequestTotal route statusClass ::
    if isQueryRoute route then [.queryRequestLatencySeconds route statusClass] else []

/-- The routes of query/api.py whose templates are listed in `_QUERY_ROUTE_PREFIXES`. -/
def queryRoutes : List (String → Route) :=
  [.getPolicy, .listPolicyVersions, .activePolicyForGroup, .outcomeForFinding,
    .auditForCorrelation, .erasureRequestStatus]

section Labels

theorem safeId_chars {value : String} (safe : safeId value = true) :
    value.toList ≠ [] ∧ ∀ char ∈ value.toList,
      (char.isAlphanum || char == '_' || char == '-' || char == '.') = true ∨ char = '\n' := by
  simp only [safeId, Bool.and_eq_true, decide_eq_true_eq, List.all_eq_true] at safe
  obtain ⟨⟨long, _⟩, plain⟩ := safe
  split at plain
  · rename_i newline
    rw [if_pos newline] at long
    have whole : value.toList = value.toList.dropLast ++ ['\n'] :=
      (List.dropLast_append_getLast? _ newline).symm
    refine ⟨by intro none; simp [none] at long, ?_⟩
    rw [whole]
    refine List.forall_mem_append.mpr ⟨fun char member => Or.inl (plain char member), ?_⟩
    exact List.forall_mem_singleton.mpr (Or.inr rfl)
  · rename_i line
    rw [if_neg line] at long
    exact ⟨by intro none; simp [none] at long, fun char member => Or.inl (plain char member)⟩

theorem safeId_plain {value : String} (safe : safeId value = true) :
    '/' ∉ value.toList ∧ ':' ∉ value.toList := by
  have chars := (safeId_chars safe).2
  constructor <;>
    · intro member
      have bad := chars _ member
      revert bad
      decide

/-- The label of a path that puts a slash before each of its segments. -/
theorem normalizeRoute_segments {path : String} {segments : List (List Char)}
    (split : path.toList = segments.flatMap ('/' :: ·)) (some : segments ≠ [])
    (plain : ∀ segment ∈ segments, segment ≠ [] ∧ '/' ∉ segment) :
    normalizeRoute "GET" path =
      "GET " ++ String.ofList ((segments.map collapse).flatMap ('/' :: ·)) := by
  have cut : (path.toList.splitOn '/').filter (fun segment => !segment.isEmpty) = segments := by
    rw [split, Segments.splitOn_flatMap '/' fun segment member => (plain segment member).2]
    rw [List.filter_cons_of_neg (by simp), List.filter_eq_self]
    intro segment member
    simpa using (plain segment member).1
  obtain ⟨first, rest, shape⟩ := List.exists_cons_of_ne_nil some
  have filled : ((segments.map collapse).isEmpty = true) = False := by simp [some]
  simp only [normalizeRoute, cut, filled, if_false]
  rw [shape, List.map_cons, Segments.intercalate_cons, List.flatMap_cons, ← String.toList_inj]
  have upper : "GET".toUpper = "GET" := by decide +kernel
  simp [upper]

/-- What stands around the parameter of a query route, after `/api/v1`. -/
theorem queryRoutes_segments {build : String → Route} (member : build ∈ queryRoutes) :
    ∃ before after : List (List Char),
      (∀ segment ∈ before ++ after, segment ≠ [] ∧ '/' ∉ segment) ∧
      ∀ id, (build id).path.toList =
        (["api".toList, "v1".toList] ++ before ++ [id.toList] ++ after).flatMap ('/' :: ·) := by
  have around : ∀ before after : List (List Char),
      (build "").template.1.toList =
        (["api".toList, "v1".toList] ++ before).flatMap ('/' :: ·) ++ ['/'] →
      (build "").template.2.toList = after.flatMap ('/' :: ·) →
      ∀ id, (build id).template = (build "").template → (build id).parameter = some id →
        (build id).path.toList =
          (["api".toList, "v1".toList] ++ before ++ [id.toList] ++ after).flatMap ('/' :: ·) := by
    intro before after front back id same parameter
    rw [Route.path, same, parameter, Option.getD_some, String.toList_append, String.toList_append,
      front, back]
    simp
  simp only [queryRoutes, List.mem_cons, List.not_mem_nil, or_false] at member
  rcases member with rfl | rfl | rfl | rfl | rfl | rfl
  · exact ⟨["policies".toList], [], by decide +kernel,
      fun id => around _ _ (by decide +kernel) rfl id rfl rfl⟩
  · exact ⟨["policies".toList], ["versions".toList], by decide +kernel,
      fun id => around _ _ (by decide +kernel) (by decide +kernel) id rfl rfl⟩
  · exact ⟨["vehicle-groups".toList], ["active-policy".toList], by decide +kernel,
      fun id => around _ _ (by decide +kernel) (by decide +kernel) id rfl rfl⟩
  · exact ⟨["findings".toList], ["outcome".toList], by decide +kernel,
      fun id => around _ _ (by decide +kernel) (by decide +kernel) id rfl rfl⟩
  · exact ⟨["audit".toList], [], by decide +kernel,
      fun id => around _ _ (by decide +kernel) rfl id rfl rfl⟩
  · exact ⟨["erasure-requests".toList], [], by decide +kernel,
      fun id => around _ _ (by decide +kernel) rfl id rfl rfl⟩

/-- The version segment has a digit, so every label begins with `/api/:id`. -/
theorem queryRoutes_label {build : String → Route} (member : build ∈ queryRoutes) :
    ∃ front back : List Char, ∀ id, safeId id = true →
      normalizeRoute "GET" (build id).path =
        "GET /api/:id" ++ String.ofList (front ++ (collapse id.toList ++ back)) := by
  obtain ⟨before, after, plain, path⟩ := queryRoutes_segments member
  refine ⟨(before.map collapse).flatMap ('/' :: ·) ++ ['/'],
    (after.map collapse).flatMap ('/' :: ·), ?_⟩
  intro id safe
  have version : collapse ['a', 'p', 'i'] = ['a', 'p', 'i'] ∧
      collapse ['v', '1'] = [':', 'i', 'd'] := by decide +kernel
  rw [normalizeRoute_segments (path id) (by simp)]
  · rw [← String.toList_inj]
    simp [version.1, version.2]
  · rw [List.forall_mem_append] at plain
    have mine := And.intro (safeId_chars safe).1 (safeId_plain safe).1
    intro segment listed
    simp only [List.mem_append, List.mem_singleton] at listed
    rcases listed with ((fixed | early) | rfl) | late
    · revert segment
      decide
    · exact plain.1 segment early
    · exact mine
    · exact plain.2 segment late

theorem collapse_eq_iff {first second : String} (firstSafe : safeId first = true)
    (secondSafe : safeId second = true) :
    collapse first.toList = collapse second.toList ↔
      (looksLikeId first.toList = true ∧ looksLikeId second.toList = true) ∨ first = second := by
  have colon : ':' ∈ ":id".toList := by decide
  have firstPlain := (safeId_plain firstSafe).2
  have secondPlain := (safeId_plain secondSafe).2
  unfold collapse
  by_cases firstId : looksLikeId first.toList = true <;>
    by_cases secondId : looksLikeId second.toList = true
  · simp [firstId, secondId]
  · rw [if_pos firstId, if_neg secondId]
    apply iff_of_false
    · intro same
      exact secondPlain (same ▸ colon)
    · rintro (both | same)
      · exact secondId both.2
      · exact secondId (same ▸ firstId)
  · rw [if_neg firstId, if_pos secondId]
    apply iff_of_false
    · intro same
      exact firstPlain (same ▸ colon)
    · rintro (both | same)
      · exact firstId both.1
      · exact firstId (same ▸ secondId)
  · simp [firstId, secondId, String.toList_inj]

/-- No query request is measured, whatever its parameter; and two requests to one route have one
label only if both parameters have a digit or a delimiter, or they are the same. -/
theorem query_never_observed (build : String → Route) (id other : String)
    (member : build ∈ queryRoutes) (safe : safeId id = true) (otherSafe : safeId other = true) :
    isQueryRoute (normalizeRoute "GET" (build id).path) = false ∧
      (∀ statusCode route statusClass, Metric.queryRequestLatencySeconds route statusClass ∉
        metricsDispatch "GET" (build id).path statusCode) ∧
      (normalizeRoute "GET" (build id).path = normalizeRoute "GET" (build other).path ↔
        (looksLikeId id.toList = true ∧ looksLikeId other.toList = true) ∨ id = other) := by
  obtain ⟨front, back, label⟩ := queryRoutes_label member
  have apart : ∀ start ∈ queryRoutePrefixes, diverge "GET /api/:id" start = true := by decide +kernel
  have unknown : isQueryRoute (normalizeRoute "GET" (build id).path) = false := by
    rw [label id safe]
    exact any_startsWith_diverge apart _
  refine ⟨unknown, ?_, ?_⟩
  · intro statusCode route statusClass
    simp [metricsDispatch, unknown]
  · rw [label id safe, label other otherSafe, ← collapse_eq_iff safe otherSafe,
      String.append_right_inj, String.ofList_inj, List.append_cancel_left_eq,
      List.append_cancel_right_eq]

/-- Two outcome queries share a label, and neither is observed. -/
theorem query_never_observed_outcome :
    isQueryRoute (normalizeRoute "GET" (Route.outcomeForFinding "finding-1").path) = false ∧
      normalizeRoute "GET" (Route.outcomeForFinding "finding-1").path =
        normalizeRoute "GET" (Route.outcomeForFinding "finding-2").path := by
  have never := query_never_observed Route.outcomeForFinding "finding-1" "finding-2"
    (by simp [queryRoutes]) (by decide) (by decide)
  exact ⟨never.1, never.2.2.mpr (Or.inl (by decide))⟩

/-- The label of a policy query has lost its version and is not observed; a policy named by
letters alone has a label to itself. -/
theorem query_unmeasured_policy :
    (Route.getPolicy "policy-1").safe = true ∧ (Route.getPolicy "brakes").safe = true ∧
      normalizeRoute "GET" (Route.getPolicy "policy-1").path = "GET /api/:id/policies/:id" ∧
      metricsDispatch "GET" (Route.getPolicy "policy-1").path 200 =
        [.httpRequestTotal "GET /api/:id/policies/:id" "2xx"] ∧
      normalizeRoute "GET" (Route.getPolicy "brakes").path = "GET /api/:id/policies/brakes" := by
  decide +kernel

end Labels

end CollectMind.Query
