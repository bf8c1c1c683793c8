import OnlineJudge.Gateway.Router

/-!
# What the gateway hands to the backend

`M.handle` of `router.lua` up to `upstream.call`, as far as it concerns the parameters of the path:
`apply_bindings` writes them into the request, and `codec.encode` (`protobuf_codec.lua`) checks each
against the type of its field.  What becomes of the other members of the request is a parameter,
`Received.others`.

nginx has decoded the path already, and `find_route` decodes its parameters again.

## Main definitions

* `validateScalar`: what the codec makes of a text that a binding has written.
* `handle`: a refusal, or the call of the backend.
* `DecodedOnce`: each parameter of a call is a raw segment, decoded once.

## Main results

* `parameters_decoded_once_iff`: the parameters of a call are decoded once if and only if the second
  decoding finds nothing in them.
-/

namespace OnlineJudge.Gateway

open Option List

/-! ## The codec -/

/-- The types of the fields that parameters of paths are bound to. -/
inductive FieldType
  | string
  | uint32
  | uint64

/-- The value of a field, as it is encoded. -/
inductive Value
  | string (value : Bytes)
  | number (value : Int)
  deriving DecidableEq

/-- `validate_scalar` of a text that a binding has written; an error is what follows the path.
`tonumber` gives a double, which is rounded from `2 ^ 53` on, out of the range of 32 bits, and
infinite from the bound on. -/
def validateScalar : FieldType → Bytes → Except String Value
  | .string, value => .ok (.string value)
  | .uint64, value =>
    let limits := integerLimits .uint64
    if decimalInRange value limits.1 limits.2 then .ok (.string (35 :: value))
    else .error " is out of range"
  | .uint32, value =>
    let limits := integerLimits .uint32
    if !isDecimal value || (denoted value).natAbs ≥ 2 ^ 1024 - 2 ^ 970 then
      .error " must be a number"
    else if denoted value < denoted limits.1 ∨ denoted value > denoted limits.2 then
      .error " is out of range"
    else .ok (.number (denoted value))

/-! ## The hand-over -/

/-- `errors.send`. -/
structure Refusal where
  status : Nat
  code : String
  detail : Bytes := []
  deriving DecidableEq

/-- A request with what `M.handle` reads of it beyond the policy. -/
structure Received extends GatewayRequest where
  /-- The answer of `read_json`: of the body, what `tostring` shows under a dotted name, if there
  is something; `none` where a member on the way is not a table. -/
  body : Except Refusal (Bytes → Option (Option Bytes)) := .ok fun _ => some none
  /-- The names of `ngx.req.get_uri_args`; `none` where there are more than a hundred. -/
  query : Option (List Bytes) := some []
  /-- The answers of `set_path` for the query, and of the codec for the members that are not bound
  to the path. -/
  others : Except Refusal Unit := .ok ()

/-- `set_path` for the bindings of the path: the texts under their destinations. -/
def bindPath (route : Route) (parameters : List (Bytes × Bytes))
    (body : Bytes → Option (Option Bytes)) : Except Refusal (List (Bytes × Bytes)) :=
  route.pathBindings.mapM fun (source, destination) =>
    let value := (parameters.lookup source).getD []
    if body destination = some none ∨ body destination = some (some value) then
      .ok (destination, value)
    else .error ⟨400, "CONFLICTING_PATH_BINDING", []⟩

def checkQuery (route : Route) : Option (List Bytes) → Except Refusal Unit
  | none => .error ⟨400, "TOO_MANY_QUERY_ARGUMENTS", []⟩
  | some names =>
    if names.any fun name => (route.queryBindings.lookup name).isNone then
      .error ⟨400, "UNKNOWN_QUERY_ARGUMENT", []⟩
    else .ok ()

/-- `codec.encode`, for the members that are bound to the path; `fields` are the types of the fields
of the request by their dotted names, according to `pb.fields`. -/
def encode (fields : Bytes → FieldType) (fromPath : List (Bytes × Bytes)) :
    Except Refusal (List (Bytes × Value)) :=
  fromPath.mapM fun (destination, value) =>
    match validateScalar (fields destination) value with
    | .ok checked => .ok (destination, checked)
    | .error message =>
      .error ⟨400, "INVALID_JSON_REQUEST", text "$." ++ destination ++ text message⟩

/-- The call of the backend: the texts that the path has written into the request, and what the
codec has made of them. -/
structure Call where
  route : Route
  fromPath : List (Bytes × Bytes)
  message : List (Bytes × Value)
  deriving DecidableEq

/-- `M.handle` up to `upstream.call`; `none` for the local handler. -/
def handle (schema : Bytes → Bytes → FieldType) (table : RouteTable) (received : Received)
    (uri : Bytes) : Except Refusal (Option Call) :=
  match findRoute table received.method uri with
  | none => .error ⟨404, "ROUTE_NOT_FOUND", []⟩
  | some (route, parameters) =>
    match validate received.toGatewayRequest with
    | .error (status, code) => .error ⟨status, code, []⟩
    | .ok () =>
      if route.method.isNone then .ok none
      else do
        let fromPath ← bindPath route parameters (← received.body)
        checkQuery route received.query
        received.others
        return some { route, fromPath, message := ← encode (schema route.requestType) fromPath }

/-- The text that is handed over for a parameter. -/
def Call.parameter (call : Call) (name : Bytes) : Option Bytes :=
  (call.route.pathBindings.lookup name).bind (call.fromPath.lookup ·)

theorem ok_of_bind {ε α β : Type} {first : Except ε α} {next : α → Except ε β} {b : β}
    (whole : first >>= next = .ok b) : ∃ a, first = .ok a ∧ next a = .ok b := by
  cases first with
  | error => cases whole
  | ok a => exact ⟨a, rfl, whole⟩

variable {schema : Bytes → Bytes → FieldType} {table : RouteTable} {received : Received}
    {uri : Bytes} {call : Call}

/-- A call holds the parameter that `find_route` has given. -/
theorem parameter_of_handle (handed : handle schema table received uri = .ok (some call)) :
    ∃ parameters, findRoute table received.method uri = some (call.route, parameters) ∧
      validate received.toGatewayRequest = .ok () ∧
      ∀ name encoded, call.route.pathBindings.map Prod.fst = [name] →
        parameters = [(name, encoded)] → call.parameter name = some encoded := by
  unfold handle at handed
  split at handed
  · cases handed
  rename_i route parameters found
  split at handed
  · cases handed
  rename_i valid
  split at handed
  · cases handed
  obtain ⟨body, -, handed⟩ := ok_of_bind handed
  obtain ⟨fromPath, bound, handed⟩ := ok_of_bind handed
  obtain ⟨-, -, handed⟩ := ok_of_bind handed
  obtain ⟨-, -, handed⟩ := ok_of_bind handed
  obtain ⟨message, -, handed⟩ := ok_of_bind handed
  cases handed
  refine ⟨parameters, found, valid, ?_⟩
  rintro name encoded names rfl
  obtain ⟨⟨_, destination⟩, only, rfl⟩ := map_eq_singleton_iff.mp names
  dsimp only at only
  rw [bindPath, only, mapM_cons] at bound
  obtain ⟨written, set, bound⟩ := ok_of_bind bound
  cases bound
  dsimp only at set
  split at set <;> cases set
  simp [Call.parameter, only]

/-! ## Double decoding -/

/-- The backend gets the raw segments, each decoded once, and there is neither a slash nor a
backslash in them. -/
def DecodedOnce (call : Call) (raws : List Bytes) : Prop :=
  ∀ raw ∈ parameterSegments (routeSegments call.route.path) raws, ∃ once,
    percentDecode raw.2 = some once ∧ 47 ∉ once ∧ 92 ∉ once ∧ call.parameter raw.1 = some once

theorem clean_of_validate {raws : List Bytes} {raw : Bytes}
    (nginx : NginxUri received.requestUri uri raws)
    (valid : validate received.toGatewayRequest = .ok ()) (mem : raw ∈ raws) :
    47 ∉ decodeSegment raw ∧ 92 ∉ decodeSegment raw := by
  have inside := nginx.inside mem
  have decodes := nginx.decodes raw mem
  have absent {value : UInt8} (special : value = 47 ∨ value = 92) : NotEncoded value raw :=
    fun high low pair found => not_infix_of_validate valid
      (mem_cons_of_mem _ (encoding_mem pair special)) (found.trans inside)
  have noBackslash : 92 ∉ raw := by
    intro found
    obtain ⟨before, after, rfl⟩ := append_of_mem found
    have here : [92] <:+: before ++ 92 :: after := ⟨before, after, by simp⟩
    exact not_infix_of_validate valid mem_cons_self (here.trans inside)
  exact ⟨not_mem_percentDecode decodes (nginx.slashFree raw mem) (absent (.inl rfl)),
    not_mem_percentDecode decodes noBackslash (absent (.inr rfl))⟩

/-- **Path parameters.**  Of a request that is handed over the parameters are decoded once if and
only if the second decoding finds nothing in them. -/
theorem parameters_decoded_once_iff (schema : Bytes → Bytes → FieldType) (table : RouteTable)
    (received : Received) (uri : Bytes) (raws : List Bytes) (call : Call)
    (nginx : NginxUri received.requestUri uri raws)
    (handed : handle schema table received uri = .ok (some call)) :
    DecodedOnce call raws ↔ ∀ raw ∈ parameterSegments (routeSegments call.route.path) raws,
      isPlain (decodeSegment raw.2) = true := by
  obtain ⟨parameters, found, valid, handedOver⟩ := parameter_of_handle handed
  have clean {raw : Bytes} (mem : raw ∈ raws) := clean_of_validate nginx valid mem
  have plain : ∀ value ∈ raws.map decodeSegment, 47 ∉ value := by
    intro value mem
    obtain ⟨raw, rawMem, rfl⟩ := mem_map.mp mem
    exact (clean rawMem).1
  rw [nginx.joined] at found
  obtain ⟨given, names⟩ := parameters_of_findRoute plain found
  rw [parameterSegments_map, List.map_map] at given names
  refine forall₂_congr fun raw mem => ?_
  have rawMem := mem_of_mem_parameterSegments mem
  -- There is one parameter, which has been decoded twice.
  have only : parameterSegments (routeSegments call.route.path) raws = [raw] := by
    have short := call.route.single
    rw [← length_map Prod.fst, ← names, length_map] at short
    obtain ⟨first, same⟩ := length_eq_one_iff.mp (le_antisymm short (length_pos_of_mem mem))
    rw [same, mem_singleton] at mem
    rw [same, mem]
  rw [only] at given names
  have twice := handedOver raw.1 _ names.symm given
  rw [nginx.decodes raw.2 rawMem, twice, ← unescapeUri_eq_self_iff]
  constructor
  · rintro ⟨once, decoded, -, -, same⟩
    cases decoded
    exact Option.some.inj same
  · intro same
    exact ⟨_, rfl, (clean rawMem).1, (clean rawMem).2, by rw [same]⟩

/-! ## Requests for questions -/

def questionRoute : Route where
  verb := text "GET"
  path := text "/api/questions/:question_id"
  method := some (text "GetQuestion")
  requestType := text "oj.biz.QuestionIdRequest"
  pathBindings := [(text "question_id", text "question_id")]
  isPath := by decide +kernel
  bound := by decide +kernel
  single := by decide

def sampleTable : RouteTable := ⟨[questionRoute], by decide +kernel⟩

def sampleSchema (_ _ : Bytes) : FieldType := .string

def getRequest (requestUri : String) : Received where
  method := text "GET"
  requestUri := text requestUri

def questionSegments (raw : String) : List Bytes := [text "api", text "questions", text raw]

/-- The call that asks the backend for a question. -/
def questionCall (id : Bytes) : Call :=
  ⟨questionRoute, [(text "question_id", id)], [(text "question_id", .string id)]⟩

theorem parameters_decoded_once_of_hyphen :
    handle sampleSchema sampleTable (getRequest "/api/questions/two%2Dsum")
        (text "/api/questions/two-sum") = .ok (some (questionCall (text "two-sum"))) ∧
      DecodedOnce (questionCall (text "two-sum")) (questionSegments "two%2Dsum") := by
  have nginx : NginxUri (text "/api/questions/two%2Dsum") (text "/api/questions/two-sum")
      (questionSegments "two%2Dsum") :=
    ⟨⟨_, by decide +kernel, .refl _⟩, by decide +kernel, by decide +kernel, by decide +kernel⟩
  have handed : handle sampleSchema sampleTable (getRequest "/api/questions/two%2Dsum")
      (text "/api/questions/two-sum") = .ok (some (questionCall (text "two-sum"))) := by
    decide +kernel
  exact ⟨handed, (parameters_decoded_once_iff sampleSchema sampleTable _ _ _ _ nginx handed).mpr
    (by decide +kernel)⟩

/-- A percent sign that is encoded itself: the backend is asked for the question `/`. -/
theorem parameter_of_double_encoding :
    NginxUri (text "/api/questions/%252f") (text "/api/questions/%2f") (questionSegments "%252f") ∧
    handle sampleSchema sampleTable (getRequest "/api/questions/%252f")
      (text "/api/questions/%2f") = .ok (some (questionCall [47])) ∧
    ¬ DecodedOnce (questionCall [47]) (questionSegments "%252f") := by
  refine ⟨⟨⟨_, by decide +kernel, .refl _⟩, by decide +kernel, by decide +kernel,
    by decide +kernel⟩, by decide +kernel, fun once => ?_⟩
  have raw : (text "question_id", text "%252f") ∈
      parameterSegments (routeSegments questionRoute.path) (questionSegments "%252f") := by
    decide +kernel
  obtain ⟨decoded, -, slashFree, -, handedOver⟩ := once _ raw
  have slash : (questionCall [47]).parameter (text "question_id") = some [47] := by decide +kernel
  rw [slash] at handedOver
  cases handedOver
  exact slashFree (mem_singleton_self 47)

end OnlineJudge.Gateway
