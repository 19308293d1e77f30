import Ucf.Adapter.Codec

/-! What one peer sends, the other reads, as far as it nests no deeper than the decoder allows. -/

namespace Ucf.Adapter

/-- The message nests no deeper than the decoder reads. -/
def WithinNesting (dumped : Json) : Prop := dumped.height ≤ maxJsonNesting + 1

theorem get?_canonical {dumped : Json} {fields : List (String × Json)}
    (hdump : dumped = .obj fields) (hnodup : (fields.map Prod.fst).Nodup) (name : String) :
    dumped.canonical.get? name = (dumped.get? name).map Json.canonical := by
  rw [hdump, Json.canonical_obj]
  have hnodup' : ((sortedBy Prod.fst (fields.map fun field =>
      (field.1, field.2.canonical))).map Prod.fst).Nodup := by
    rw [((sortedBy_perm _ _).map _).nodup_iff, List.map_map]
    exact hnodup
  ext value
  constructor
  · intro h
    obtain ⟨field, hfield, heq⟩ := List.mem_map.mp (mem_sortedBy.mp (Json.mem_of_get?_obj h))
    cases heq
    rw [Json.get?_obj_of_mem hnodup hfield]
    rfl
  · intro h
    obtain ⟨value', hvalue', rfl⟩ := Option.map_eq_some_iff.mp h
    exact Json.get?_obj_of_mem hnodup' (mem_sortedBy.mpr
      (List.mem_map.mpr ⟨_, Json.mem_of_get?_obj hvalue', rfl⟩))

theorem fieldsAre_canonical (fields : List (String × Json)) (expected : List String) :
    fieldsAre (Json.obj fields).canonical expected = fieldsAre (.obj fields) expected := by
  rw [Json.canonical_obj, Bool.eq_iff_iff]
  simp only [fieldsAre, Bool.and_eq_true, List.all_eq_true, mem_sortedBy, List.mem_map,
    decide_eq_true_eq]
  constructor
  · rintro ⟨hfields, hnames⟩
    refine ⟨fun field hfield => hfields (field.1, field.2.canonical) ⟨field, hfield, rfl⟩,
      fun name hname => ?_⟩
    obtain ⟨_, ⟨field, hfield, rfl⟩, heq⟩ := hnames name hname
    exact ⟨field, hfield, heq⟩
  · rintro ⟨hfields, hnames⟩
    refine ⟨?_, fun name hname => ?_⟩
    · rintro _ ⟨field, hfield, rfl⟩
      exact hfields field hfield
    · obtain ⟨field, hfield, heq⟩ := hnames name hname
      exact ⟨_, ⟨field, hfield, rfl⟩, heq⟩

/-! ### The shape of a frame -/

theorem encodeFrame_eq_ok {dumped : Json} {frame : List UInt8} :
    encodeFrame dumped = .ok frame ↔
      asciiEncode dumped.canonicalLine = some frame ∧ frame.length ≤ maxFrameBytes := by
  simp only [encodeFrame, bind_eq_ok, orRaise_eq_ok, require_eq_ok, pure_eq_ok, Except.ok.injEq]
  constructor
  · rintro ⟨a, ha, _, hlength, rfl⟩
    exact ⟨ha, hlength⟩
  · rintro ⟨ha, hlength⟩
    exact ⟨frame, ha, (), hlength, rfl⟩

/-- A frame is a text without line feeds and a line feed. -/
theorem frame_eq {dumped : Json} (hexact : dumped.Exact) {frame : List UInt8}
    (h : encodeFrame dumped = .ok frame) :
    ∃ text, frame = text ++ [lf] ∧ lf ∉ text ∧ text ≠ [] ∧ frame.length ≤ maxFrameBytes ∧
      utf8Decode text = some dumped.canonical.write := by
  obtain ⟨hencode, hlength⟩ := encodeFrame_eq_ok.mp h
  have hprintable := Json.printable_write hexact.canonical
  have hascii : dumped.canonical.write.all isAscii = true :=
    List.all_eq_true.mpr fun c hc => (hprintable c hc).isAscii
  obtain ⟨c, cs, hcs, -⟩ := Json.write_eq_cons hexact.canonical
  have hframe : frame = dumped.canonical.write.map asciiByte ++ [lf] := by
    unfold asciiEncode at hencode
    rw [Json.canonicalLine, List.all_append, hascii] at hencode
    rw [if_pos (by decide), Option.some.injEq, List.map_append] at hencode
    exact hencode.symm
  refine ⟨_, hframe, ?_, by simp [hcs], hlength, ?_⟩
  · rw [List.mem_map]
    rintro ⟨d, hd, heq⟩
    have := (asciiByte_eq_newline (hprintable d hd).isAscii).mp heq
    exact Json.not_printable_newline (this ▸ hprintable d hd)
  · exact utf8Decode_asciiEncode (by rw [asciiEncode, if_pos hascii])

/-- The frame of an object is decoded as that object, when it does not nest too deep. -/
theorem decodeFrameObject_encodeFrame {fields : List (String × Json)}
    (hexact : (Json.obj fields).Exact) {frame : List UInt8}
    (h : encodeFrame (.obj fields) = .ok frame) {decoded : Json} :
    decodeFrameObject frame = .ok decoded ↔
      WithinNesting (.obj fields) ∧ decoded = (Json.obj fields).canonical := by
  obtain ⟨text, rfl, hlf, hne, hlength, htext⟩ := frame_eq hexact h
  obtain ⟨sorted, hsorted⟩ : ∃ sorted, (Json.obj fields).canonical = .obj sorted :=
    ⟨_, Json.canonical_obj fields⟩
  have hloads : Json.loads (Json.obj fields).canonical.write = .ok (.obj sorted) := by
    have := @Json.loads_write_append _ hexact.canonical [] nofun rfl
    rw [List.append_nil] at this
    rw [this, hsorted]
  have hhead : (Json.obj fields).canonical.write.head? ≠ some (Char.ofNat 0xfeff) := by
    rw [Json.canonical_obj, Json.write]
    exact fun h => absurd (Option.some.inj h) (by decide)
  have hdecode := decodeStrictJsonObject_of_loads hhead hloads (hsorted ▸ hexact.canonical)
    (k := decoded)
  rw [← hsorted, Json.height_canonical] at hdecode
  have hmap : ∀ x : Except PyError Json, x.mapError decodeError = .ok decoded ↔ x = .ok decoded := by
    intro x
    cases x <;> simp [Except.mapError]
  simp only [decodeFrameObject, require, List.getLast?_append_cons, List.getLast?_singleton,
    List.dropLast_concat, if_pos hlength, if_pos hlf, if_true, ok_bind, htext, orRaise_some,
    WithinNesting]
  rw [if_pos, ok_bind, hmap, hdecode]
  simp [hne]

/-! ### Requests -/

theorem dump_request (request : Request) : modelDump request = .obj [("jsonrpc", .str "2.0"),
    ("id", .str request.id.val), ("method", .str request.method.value),
    ("params", modelDump request.params)] := rfl

theorem dump_cancel (notification : CancelNotification) : modelDump notification =
    .obj [("jsonrpc", .str "2.0"), ("method", .str Method.cancel.value),
      ("params", modelDump notification.params)] := rfl

theorem find?_method (method : Method) :
    (Method.all.find? fun m => m.value = method.value) = some method := by
  cases method <;> decide

theorem isObject_dump_params (params : RequestParams) :
    isObject (some (modelDump params).canonical) = true := by
  obtain ⟨fields, hfields⟩ : ∃ fields, modelDump params = .obj fields := by
    cases params <;> exact ⟨_, rfl⟩
  rw [hfields, Json.canonical_obj]
  rfl

theorem method_ne_cancel (request : Request) : request.method ≠ .cancel := by
  intro h
  have hmatch := request.requireMethodParamsMatch
  rw [h] at hmatch
  cases hmatch

theorem recoverRequestId_eq {decoded : Json} {id : RequestId}
    (h : decoded.get? "id" = some (.str id.val)) : recoverRequestId decoded = some id := by
  rw [recoverRequestId, h]
  exact dif_pos id.property

/-- A message decoded from its own canonical form. -/
theorem modelValidate_canonical {α : Type} [Model α] (a : α) :
    modelValidate (modelDump a).canonical = .ok a :=
  modelValidate_eq_ok.mpr (Json.same_canonical _)

theorem decodeRequestFrame_request {request : Request} {frame : List UInt8}
    (h : encodeFrame (modelDump request) = .ok frame) :
    decodeRequestFrame frame = .ok (.request request) ↔ WithinNesting (modelDump request) := by
  have hexact := exact_modelDump request
  rw [dump_request] at h hexact
  have hframe := fun decoded => @decodeFrameObject_encodeFrame _ hexact frame h decoded
  rw [← dump_request] at hframe
  have hget : ∀ name, (modelDump request).canonical.get? name =
      ((modelDump request).get? name).map Json.canonical := fun name =>
    get?_canonical (dump_request request) (by simp) name
  have hmethod : (modelDump request).canonical.get? "method" = some (.str request.method.value) := by
    rw [hget]
    rfl
  have hid : (modelDump request).canonical.get? "id" = some (.str request.id.val) := by
    rw [hget]
    rfl
  have hjsonrpc : (modelDump request).canonical.get? "jsonrpc" = some (.str "2.0") := by
    rw [hget]
    rfl
  have hparams : isObject ((modelDump request).canonical.get? "params") = true := by
    rw [hget]
    exact isObject_dump_params request.params
  have hfields : fieldsAre (modelDump request).canonical ["jsonrpc", "id", "method", "params"] =
      true := by
    rw [dump_request, fieldsAre_canonical]
    rfl
  constructor
  · intro hdecode
    rw [decodeRequestFrame, bind_eq_ok] at hdecode
    obtain ⟨decoded, hdecoded, -⟩ := hdecode
    exact ((hframe decoded).mp hdecoded).1
  · intro hwithin
    rw [decodeRequestFrame, (hframe _).mpr ⟨hwithin, rfl⟩, ok_bind]
    simp only [hmethod, find?_method, orRaise_some, ok_bind, hid, reduceCtorEq, if_false, hfields,
      hjsonrpc, hparams, require, and_self, if_true, recoverRequestId_eq hid, method_ne_cancel, ne_eq,
      not_false_eq_true, modelValidate_canonical, Except.mapError, pure_eq_ok]

theorem decodeRequestFrame_cancel {notification : CancelNotification} {frame : List UInt8}
    (h : encodeFrame (modelDump notification) = .ok frame) :
    decodeRequestFrame frame = .ok (.cancel notification) ↔
      WithinNesting (modelDump notification) := by
  have hexact := exact_modelDump notification
  rw [dump_cancel] at h hexact
  have hframe := fun decoded => @decodeFrameObject_encodeFrame _ hexact frame h decoded
  rw [← dump_cancel] at hframe
  have hget : ∀ name, (modelDump notification).canonical.get? name =
      ((modelDump notification).get? name).map Json.canonical := fun name =>
    get?_canonical (dump_cancel notification) (by simp) name
  have hmethod : (modelDump notification).canonical.get? "method" =
      some (.str Method.cancel.value) := by
    rw [hget]
    rfl
  have hid : (modelDump notification).canonical.get? "id" = none := by
    rw [hget]
    rfl
  have hjsonrpc : (modelDump notification).canonical.get? "jsonrpc" = some (.str "2.0") := by
    rw [hget]
    rfl
  have hparams : isObject ((modelDump notification).canonical.get? "params") = true := by
    rw [hget]
    show isObject (some (modelDump notification.params).canonical) = true
    rw [show modelDump notification.params = .obj [("kind", .str "cancel_request"),
      ("request_id", .str notification.params.requestId.val)] from rfl, Json.canonical_obj]
    rfl
  have hfields : fieldsAre (modelDump notification).canonical ["jsonrpc", "method", "params"] =
      true := by
    rw [dump_cancel, fieldsAre_canonical]
    rfl
  constructor
  · intro hdecode
    rw [decodeRequestFrame, bind_eq_ok] at hdecode
    obtain ⟨decoded, hdecoded, -⟩ := hdecode
    exact ((hframe decoded).mp hdecoded).1
  · intro hwithin
    rw [decodeRequestFrame, (hframe _).mpr ⟨hwithin, rfl⟩, ok_bind]
    simp only [hmethod, find?_method, orRaise_some, ok_bind, hid, hfields, hjsonrpc, hparams, require,
      and_self, if_true, modelValidate_canonical, Except.mapError, pure_eq_ok]

/-! ### Responses -/

theorem dump_success (response : SuccessResponse) : modelDump response =
    .obj [("jsonrpc", .str "2.0"), ("id", .str response.id.val),
      ("result", modelDump response.result)] := rfl

/-- The id of a response, as it is written. -/
def dumpId : Option RequestId → Json
  | some id => .str id.val
  | none => .null

theorem dump_failure (response : ErrorResponse) : modelDump response =
    .obj [("jsonrpc", .str "2.0"), ("id", dumpId response.id),
      ("error", modelDump response.error)] := by
  obtain ⟨id, error, h⟩ := response
  cases id <;> rfl

theorem decodeResponseFrame_success {response : SuccessResponse} {frame : List UInt8}
    (h : encodeFrame (modelDump response) = .ok frame) :
    decodeResponseFrame frame = .ok (.success response) ↔ WithinNesting (modelDump response) := by
  have hexact := exact_modelDump response
  rw [dump_success] at h hexact
  have hframe := fun decoded => @decodeFrameObject_encodeFrame _ hexact frame h decoded
  rw [← dump_success] at hframe
  have hget : ∀ name, (modelDump response).canonical.get? name =
      ((modelDump response).get? name).map Json.canonical := fun name =>
    get?_canonical (dump_success response) (by simp) name
  have hresult : (modelDump response).canonical.get? "result" ≠ none := by
    rw [hget]
    exact nofun
  have herror : (modelDump response).canonical.get? "error" = none := by
    rw [hget]
    rfl
  have hid : (modelDump response).canonical.get? "id" = some (.str response.id.val) := by
    rw [hget]
    rfl
  have hjsonrpc : (modelDump response).canonical.get? "jsonrpc" = some (.str "2.0") := by
    rw [hget]
    rfl
  have hfields : fieldsAre (modelDump response).canonical ["jsonrpc", "id", "result"] = true := by
    rw [dump_success, fieldsAre_canonical]
    rfl
  constructor
  · intro hdecode
    rw [decodeResponseFrame, bind_eq_ok] at hdecode
    obtain ⟨decoded, hdecoded, -⟩ := hdecode
    exact ((hframe decoded).mp hdecoded).1
  · intro hwithin
    rw [decodeResponseFrame, (hframe _).mpr ⟨hwithin, rfl⟩, ok_bind]
    simp [hresult, herror, hfields, hjsonrpc, require, recoverRequestId_eq hid,
      modelValidate_canonical, Except.mapError]

theorem decodeResponseFrame_failure {response : ErrorResponse} {frame : List UInt8}
    (hcode : response.error.code = jsonRpcErrorCode response.error.data.ucfCode)
    (h : encodeFrame (modelDump response) = .ok frame) :
    decodeResponseFrame frame = .ok (.failure response) ↔ WithinNesting (modelDump response) := by
  have hexact := exact_modelDump response
  rw [dump_failure] at h hexact
  have hframe := fun decoded => @decodeFrameObject_encodeFrame _ hexact frame h decoded
  rw [← dump_failure] at hframe
  have hget : ∀ name, (modelDump response).canonical.get? name =
      ((modelDump response).get? name).map Json.canonical := fun name =>
    get?_canonical (dump_failure response) (by simp) name
  have hresult : (modelDump response).canonical.get? "result" = none := by
    rw [hget, dump_failure]
    rfl
  have herror : (modelDump response).canonical.get? "error" ≠ none := by
    rw [hget, dump_failure]
    exact nofun
  have hid : (modelDump response).canonical.get? "id" = some (dumpId response.id) := by
    rw [hget, dump_failure]
    cases response.id <;> rfl
  have hnotMissing : ¬((modelDump response).canonical.get? "id" ≠ some .null ∧
      recoverRequestId (modelDump response).canonical = none) := by
    rw [hid]
    cases hresponse : response.id with
    | none => simp [dumpId]
    | some id =>
      have hget' : (modelDump response).canonical.get? "id" = some (.str id.val) := by
        rw [hid, hresponse]
        rfl
      rw [recoverRequestId_eq hget']
      simp
  have hjsonrpc : (modelDump response).canonical.get? "jsonrpc" = some (.str "2.0") := by
    rw [hget, dump_failure]
    rfl
  have hfields : fieldsAre (modelDump response).canonical ["jsonrpc", "id", "error"] = true := by
    rw [dump_failure, fieldsAre_canonical]
    rfl
  constructor
  · intro hdecode
    rw [decodeResponseFrame, bind_eq_ok] at hdecode
    obtain ⟨decoded, hdecoded, -⟩ := hdecode
    exact ((hframe decoded).mp hdecoded).1
  · intro hwithin
    rw [decodeResponseFrame, (hframe _).mpr ⟨hwithin, rfl⟩, ok_bind]
    simp [hresult, herror, hfields, hjsonrpc, require, hnotMissing, modelValidate_canonical,
      Except.mapError, hcode]

/-! ### Both directions -/

/-- The numeric code of an error response is that of its symbolic code. -/
def ServerMessage.CodeAgrees : ServerMessage → Prop
  | .success _ => True
  | .failure response => response.error.code = jsonRpcErrorCode response.error.data.ucfCode

theorem ClientMessage.exact_dump (message : ClientMessage) : message.dump.Exact := by
  cases message <;> exact exact_modelDump _

theorem ServerMessage.exact_dump (message : ServerMessage) : message.dump.Exact := by
  cases message <;> exact exact_modelDump _

/-- One line feed, at the end, and no more bytes than a frame may have. -/
def IsFrame (frame : List UInt8) : Prop :=
  frame.count lf = 1 ∧ frame.getLast? = some lf ∧ frame.length ≤ maxFrameBytes

theorem isFrame_encodeFrame {dumped : Json} (hexact : dumped.Exact) {frame : List UInt8}
    (h : encodeFrame dumped = .ok frame) : IsFrame frame := by
  obtain ⟨text, rfl, hlf, -, hlength, -⟩ := frame_eq hexact h
  refine ⟨?_, List.getLast?_concat, hlength⟩
  rw [List.count_append, List.count_eq_zero.mpr hlf]
  rfl

/-- A message has a frame when its line is not too long. -/
theorem exists_frame {dumped : Json} (hexact : dumped.Exact)
    (hlength : dumped.canonicalLine.length ≤ maxFrameBytes) :
    ∃ frame, encodeFrame dumped = .ok frame := by
  have hascii : dumped.canonicalLine.all isAscii = true := by
    rw [Json.canonicalLine, List.all_append, Bool.and_eq_true, List.all_eq_true]
    exact ⟨fun c hc => (Json.printable_write hexact.canonical c hc).isAscii, by decide⟩
  refine ⟨dumped.canonicalLine.map asciiByte, encodeFrame_eq_ok.mpr ⟨?_, ?_⟩⟩
  · rw [asciiEncode, if_pos hascii]
  · rwa [List.length_map]

/-- A message is read from its frame as itself exactly when it nests no deeper than the decoder
reads; and every frame is one line of at most the greatest length. -/
theorem frame_round_trip (frame : List UInt8) :
    (∀ message : ClientMessage, encodeFrame message.dump = .ok frame → IsFrame frame ∧
      (decodeRequestFrame frame = .ok message ↔ WithinNesting message.dump)) ∧
    ∀ message : ServerMessage, message.CodeAgrees →
      encodeFrame message.dump = .ok frame → IsFrame frame ∧
        (decodeResponseFrame frame = .ok message ↔ WithinNesting message.dump) := by
  refine ⟨fun message h => ⟨isFrame_encodeFrame message.exact_dump h, ?_⟩,
    fun message hcode h => ⟨isFrame_encodeFrame message.exact_dump h, ?_⟩⟩
  · cases message with
    | request request => exact decodeRequestFrame_request h
    | cancel notification => exact decodeRequestFrame_cancel h
  · cases message with
    | success response => exact decodeResponseFrame_success h
    | failure response => exact decodeResponseFrame_failure hcode h

/-! ### A message that is sent and not read -/

/-- `null` inside `n` lists. -/
def nestedLists : Nat → IRValue
  | 0 => .scalar (.null ⟨⟩)
  | n + 1 => .list [nestedLists n]

theorem validateValue_nestedLists (n : Nat) (location : String) :
    validateValue location (nestedLists n) = .ok () := by
  induction n generalizing location with
  | zero => rfl
  | succ n ih =>
    rw [nestedLists, validateValue, validateItems, ih, ok_bind]
    rfl

theorem requestId_valid : stringConstraints 1 (some 64) matchRequestId "a" = none := by decide +kernel

theorem exampleUri_valid : uriConstraints "urn:example" = none := by decide +kernel

/-- An inventory request with `null` inside `n` lists. -/
def nestedRequest (n : Nat) : Request where
  id := ⟨"a", requestId_valid⟩
  method := .inventory
  params := .operationParams ⟨.inventoryRequest, .adapter ⟨⟨"urn:example", exampleUri_valid⟩,
    ⟨"1.0.0", Sample.version_valid⟩, nestedLists n⟩, by decide, validateValue_nestedLists n "$"⟩
  requireMethodParamsMatch := rfl

theorem dump_nestedLists (n : Nat) : (nestedLists (n + 1)).dump =
    .obj [("kind", .str "list"), ("items", .arr [(nestedLists n).dump])] := rfl

theorem height_nestedLists (n : Nat) : (nestedLists n).dump.height = 2 * n + 2 := by
  induction n with
  | zero => rfl
  | succ n ih =>
    simp only [dump_nestedLists, Json.height, Json.heightFields, Json.heightItems, ih]
    omega

theorem canonical_nestedLists (n : Nat) : (nestedLists (n + 1)).dump.canonical =
    .obj [("items", .arr [(nestedLists n).dump.canonical]), ("kind", .str "list")] := by
  rw [dump_nestedLists, Json.canonical_obj]
  simp only [List.map_cons, List.map_nil, Json.canonical_arr, Json.canonical_str]
  rw [sortedBy_eq_of_perm (List.Perm.swap _ _ _) (by simp)]
  exact congrArg Json.obj (SortedKeys.sortedBy_eq (List.pairwise_pair.mpr
    (show "items" < "kind" by decide +kernel)))

theorem length_nestedLists (n : Nat) :
    (nestedLists n).dump.canonical.write.length = 26 * n + 15 := by
  induction n with
  | zero => decide +kernel
  | succ n ih =>
    have hitems : (Json.writeString "items").length = 7 := by decide +kernel
    have hkind : (Json.writeString "kind").length = 6 := by decide +kernel
    have hlist : (Json.writeString "list").length = 6 := by decide +kernel
    rw [canonical_nestedLists]
    simp only [Json.write, Json.writeFields, Json.writeItems, List.length_append, List.length_cons,
      List.length_nil, ih, hitems, hkind, hlist]
    omega

theorem dump_nestedRequest (n : Nat) : modelDump (nestedRequest n) =
    .obj [("jsonrpc", .str "2.0"), ("id", .str "a"), ("method", .str "ucf.inventory"),
      ("params", .obj [("kind", .str "inventory_request"),
        ("payload", .obj [("kind", .str "adapter_payload"), ("schema_uri", .str "urn:example"),
          ("schema_version", .str "1.0.0"), ("value", (nestedLists n).dump)])])] := rfl

theorem height_nestedRequest (n : Nat) : (modelDump (nestedRequest n)).height = 2 * n + 5 := by
  simp only [dump_nestedRequest, Json.height, Json.heightFields, height_nestedLists]
  omega

theorem canonical_nestedRequest (n : Nat) : (modelDump (nestedRequest n)).canonical =
    .obj [("id", .str "a"), ("jsonrpc", .str "2.0"), ("method", .str "ucf.inventory"),
      ("params", .obj [("kind", .str "inventory_request"),
        ("payload", .obj [("kind", .str "adapter_payload"), ("schema_uri", .str "urn:example"),
          ("schema_version", .str "1.0.0"), ("value", (nestedLists n).dump.canonical)])])] := by
  have hsorted : ∀ {fields : List (String × Json)}, (fields.map Prod.fst).Pairwise (· < ·) →
      sortedBy Prod.fst fields = fields := fun h => SortedKeys.sortedBy_eq (List.pairwise_map.mp h)
  simp only [dump_nestedRequest, Json.canonical_obj, List.map_cons, List.map_nil,
    Json.canonical_str]
  rw [sortedBy_eq_of_perm (List.Perm.swap _ _ _) (by simp), hsorted, hsorted, hsorted]
  all_goals
    simp only [List.map_cons, List.map_nil]
    decide +kernel

theorem length_nestedRequest (n : Nat) :
    (modelDump (nestedRequest n)).canonicalLine.length ≤ 26 * n + 400 := by
  have hstrings : ∀ s ∈ ["id", "a", "jsonrpc", "2.0", "method", "ucf.inventory", "params", "kind",
      "inventory_request", "payload", "adapter_payload", "schema_uri", "urn:example",
      "schema_version", "1.0.0", "value"], (Json.writeString s).length ≤ 19 := by
    decide +kernel
  simp only [List.forall_mem_cons] at hstrings
  rw [Json.canonicalLine, canonical_nestedRequest]
  simp only [Json.write, Json.writeFields, List.length_append, List.length_cons, List.length_nil,
    length_nestedLists]
  omega

theorem exists_frame_nestedRequest {n : Nat} (h : n ≤ 1000) :
    ∃ frame, encodeFrame (ClientMessage.request (nestedRequest n)).dump = .ok frame :=
  exists_frame (exact_modelDump _) (by
    have hlength : (modelDump (nestedRequest n)).canonicalLine.length ≤ 26 * n + 400 :=
      length_nestedRequest n
    show (modelDump (nestedRequest n)).canonicalLine.length ≤ 1048576
    omega)

/-- Sixty-three lists can be sent and not be read. -/
theorem nestedRequest_not_read : ¬∀ (message : ClientMessage) frame,
    encodeFrame message.dump = .ok frame → decodeRequestFrame frame = .ok message := by
  intro h
  obtain ⟨frame, hframe⟩ := exists_frame_nestedRequest (n := 63) (by decide)
  have hheight : (modelDump (nestedRequest 63)).height ≤ 129 :=
    (decodeRequestFrame_request hframe).mp (h _ frame hframe)
  rw [height_nestedRequest] at hheight
  exact absurd hheight (by decide)

def shutdownResponse : ServerMessage :=
  .success ⟨⟨"a", requestId_valid⟩, .shutdownResult ⟨⟩⟩

/-- Sixty-two lists are read, and so is the response to a shutdown. -/
theorem nestedRequest_read :
    (∃ frame, encodeFrame (ClientMessage.request (nestedRequest 62)).dump = .ok frame ∧
      decodeRequestFrame frame = .ok (.request (nestedRequest 62))) ∧
    ∃ frame, encodeFrame shutdownResponse.dump = .ok frame ∧
      decodeResponseFrame frame = .ok shutdownResponse := by
  obtain ⟨frame, hframe⟩ := exists_frame_nestedRequest (n := 62) (by decide)
  obtain ⟨frame', hframe'⟩ := exists_frame shutdownResponse.exact_dump (by decide +kernel)
  refine ⟨⟨frame, hframe, (((frame_round_trip frame).1 _ hframe).2).mpr ?_⟩,
    frame', hframe', (((frame_round_trip frame').2 shutdownResponse trivial hframe').2).mpr ?_⟩
  · show (modelDump (nestedRequest 62)).height ≤ 129
    rw [height_nestedRequest]
  · show shutdownResponse.dump.height ≤ 129
    decide

end Ucf.Adapter
