import P2pSdk.Foundation.JsonText
import P2pSdk.Napi.Bridge
import P2pSdk.Transport.Udp

namespace P2pSdk

open Foundation

/-!
# Calls of the IDS (`client_napi.rs`, `napi_bridge.rs`)

The app registers and queries over HTTP and gets the body of a good response.
For any other outcome it gets a text with the member `error`, in which the
error is put between quotes as it is.  The bridge reads the text as JSON again
and passes on a text that is no JSON as a string.
-/

/-- `HttpTransport`. -/
structure HttpTransport where
  post : String -> List (String × String) -> Bytes -> Except IoError (UInt16 × String)
  get : String -> List (String × String) -> Except IoError (UInt16 × String)

/-- What the app gets for a response, or for a call that failed. -/
def idsReply (response : Except IoError (UInt16 × String)) : String :=
  match response with
  | .ok (status, resp) =>
      if 200 ≤ status.toNat ∧ status.toNat < 300 then resp
      else "\x7b\"error\":\"HTTP " ++ toString status.toNat ++ "\"\x7d"
  | .error e => "\x7b\"error\":\"" ++ e.display ++ "\"\x7d"

def idsRegisterUrl (idsUrl : String) : String := idsUrl ++ "/api/ids"

def idsHeaders : List (String × String) := [("Content-Type", "application/json")]

/-- The members of the registration, in the order of their keys. -/
def idsRegistration (appId userId odid pushToken : String) : List (String × String) :=
  [("appId", appId), ("odid", odid), ("token", pushToken), ("type", "app"), ("userId", userId)]

/-- `register_ids`. -/
def registerIds (http : HttpTransport) (idsUrl appId userId odid pushToken : String) : String :=
  idsReply (http.post (idsRegisterUrl idsUrl) idsHeaders
    (asBytes (printRecord (idsRegistration appId userId odid pushToken))))

def idsQueryUrl (idsUrl appId userId : String) : String := idsUrl ++ "/api/ids/" ++ appId ++ "/" ++ userId

/-- `query_ids`. -/
def queryIds (http : HttpTransport) (idsUrl appId userId : String) : String :=
  idsReply (http.get (idsQueryUrl idsUrl appId userId) [])

section Bridge

variable (env : NapiEnv) (readFloat : List Char -> Option FiniteDouble)

/-- `return_json_object`. -/
def returnJsonObject (jsonStr : String) : env.Value :=
  match readJson readFloat jsonStr with
  | some value => jsonToNapi env value
  | none => returnString env jsonStr

/-- The reply is JSON, and the app gets an object with this error. -/
structure ReportsError (reply error : String) : Prop where
  json : (readJson readFloat reply).isSome
  object : exists properties, env.tree (returnJsonObject env readFloat reply) = .object properties ∧
    ("error", DataTree.string error) ∈ properties

end Bridge

section Replies

variable {env : NapiEnv} (documented : env.Documented) {readFloat : List Char -> Option FiniteDouble}

/-! ## The text with the error -/

theorem idsReply_error (e : IoError) : idsReply (.error e) = spliceRecord "error" e.display := by
  apply String.toList_inj.mp
  rw [idsReply, spliceRecord, String.toList_ofList, String.toList_append, String.toList_append]
  rfl

include documented

theorem jsonToNapi_string {value : Json} {text : String}
    (isString : env.tree (jsonToNapi env value) = .string text) : value = .string text := by
  cases value with
  | null => cases (tree_returnInt32 documented 0).symm.trans isString
  | bool value => cases (documented.boolean value).symm.trans isString
  | number number =>
      rw [jsonToNapi] at isString
      cases signed : number.asI64 with
      | some i =>
          rw [signed] at isString
          cases (tree_returnInt32 documented _).symm.trans isString
      | none =>
          rw [signed] at isString
          cases (tree_returnInt32 documented 0).symm.trans isString
  | string own =>
      cases (tree_returnString documented own).symm.trans isString
      rfl
  | array items =>
      rcases tree_setItems_length documented items 0 [] _ .array documented.newArray (by decide)
        with ⟨final, isFinal, _⟩
      cases isFinal.symm.trans isString
  | object members =>
      rcases tree_setMembers_cases documented members [] _ .object documented.newObject
        List.Pairwise.nil with ⟨final, isFinal, _⟩
      cases isFinal.symm.trans isString

/-- A text that stands for itself is reported, with nothing else. -/
theorem returnJsonObject_verbatim {error : String} (verbatim : Verbatim error.toList) :
    env.tree (returnJsonObject env readFloat (spliceRecord "error" error)) =
      .object [("error", .string error)] := by
  have isName : NamesProperty "error" := by decide
  have stored := tree_setMembers documented [("error", .string error)] [] _ .object documented.newObject
    (List.pairwise_singleton _ _) (List.pairwise_singleton _ _) (List.forall_mem_singleton.mpr isName)
  rw [returnJsonObject, readJson_splice_verbatim "error" verbatim]
  refine stored.trans ?_
  rw [List.nil_append, List.map_singleton, jsonToNapi, tree_returnString documented]

theorem reportsError_iff (error : String) :
    ReportsError env readFloat (spliceRecord "error" error) error <-> Verbatim error.toList := by
  constructor
  · rintro ⟨isJson, properties, isObject, member⟩
    by_contra other
    rcases Option.isSome_iff_exists.mp isJson with ⟨value, read⟩
    rcases readJson_splice_other other read with ⟨members, rfl, noMember⟩
    rw [returnJsonObject, read] at isObject
    rcases tree_setMembers_cases documented members [] _ .object documented.newObject
      List.Pairwise.nil with ⟨final, isFinal, _, cases⟩
    cases isFinal.symm.trans isObject
    rcases cases _ member with impossible | ⟨entry, found, _, isProperty⟩
    · cases impossible
    · exact noMember entry found (jsonToNapi_string documented (Prod.mk.inj isProperty).2.symm)
  · intro verbatim
    refine ⟨?_, _, returnJsonObject_verbatim documented verbatim, List.mem_singleton.mpr rfl⟩
    rw [readJson_splice_verbatim "error" verbatim]
    rfl

end Replies

/-! ## What the app learns -/

/-- **Failed calls.**  A registration or a query that fails is reported to the
app as an object with the error exactly if the text of the error has no quote,
no backslash and no control character; the object then has nothing else. -/
theorem ids_failure_reported_iff (env : NapiEnv) (documented : env.Documented)
    (readFloat : List Char -> Option FiniteDouble) (http : HttpTransport)
    (idsUrl appId userId odid pushToken : String) (e : IoError) :
    (http.post (idsRegisterUrl idsUrl) idsHeaders
        (asBytes (printRecord (idsRegistration appId userId odid pushToken))) = .error e ->
      (ReportsError env readFloat (registerIds http idsUrl appId userId odid pushToken) e.display <->
        Verbatim e.display.toList)) ∧
    (http.get (idsQueryUrl idsUrl appId userId) [] = .error e ->
      (ReportsError env readFloat (queryIds http idsUrl appId userId) e.display <->
        Verbatim e.display.toList)) ∧
    (Verbatim e.display.toList ->
      env.tree (returnJsonObject env readFloat (idsReply (.error e))) =
        .object [("error", .string e.display)]) := by
  refine ⟨?_, ?_, ?_⟩
  · intro failed
    rw [registerIds, failed, idsReply_error]
    exact reportsError_iff documented e.display
  · intro failed
    rw [queryIds, failed, idsReply_error]
    exact reportsError_iff documented e.display
  · intro verbatim
    rw [idsReply_error]
    exact returnJsonObject_verbatim documented verbatim

/-- A refused connection is reported by both calls. -/
theorem refused_calls_reported :
    let refused := IoError.other "HTTP request failed: connection refused"
    let http : HttpTransport := ⟨fun _ _ _ => .error refused, fun _ _ => .error refused⟩
    ReportsError treeEnv (fun _ => none) (registerIds http "http://ids" "app" "user" "odid" "token")
      refused.display ∧
    ReportsError treeEnv (fun _ => none) (queryIds http "http://ids" "app" "user") refused.display ∧
    treeEnv.tree (returnJsonObject treeEnv (fun _ => none) (idsReply (.error refused))) =
      .object [("error", .string refused.display)] := by
  intro refused http
  have verbatim : Verbatim refused.display.toList := by decide
  rcases ids_failure_reported_iff treeEnv treeEnv_documented (fun _ => none) http "http://ids" "app" "user"
    "odid" "token" refused with ⟨register, query, object⟩
  exact ⟨(register rfl).mpr verbatim, (query rfl).mpr verbatim, object verbatim⟩

/-- The URL of a query may keep a backslash, and the error tells the URL. -/
def backslashError : IoError :=
  .other "HTTP GET failed: error sending request for url (http://ids/api/ids/app/u?\\x)"

/-- A query that fails with this error returns a text that is no JSON. -/
theorem backslash_error_lost :
    ¬ forall (env : NapiEnv), env.Documented -> forall (readFloat : List Char -> Option FiniteDouble)
      (http : HttpTransport) (idsUrl appId userId : String) (e : IoError),
        http.get (idsQueryUrl idsUrl appId userId) [] = .error e ->
          ReportsError env readFloat (queryIds http idsUrl appId userId) e.display := by
  intro claim
  have reports := claim treeEnv treeEnv_documented (fun _ => none)
    ⟨fun _ _ _ => .error backslashError, fun _ _ => .error backslashError⟩
    "http://ids" "app" "u?\\x" backslashError rfl
  have lost : (readJson (fun _ => none) (idsReply (.error backslashError))).isNone = true := by
    decide +kernel
  have isNone := Option.isNone_iff_eq_none.mp lost
  have isJson := reports.json
  rw [queryIds, isNone] at isJson
  cases isJson

/-! ## Other texts of the calls -/

section Others

variable {env : NapiEnv} (documented : env.Documented) {readFloat : List Char -> Option FiniteDouble}

theorem verbatim_status (status : Nat) : Verbatim ("HTTP " ++ toString status).toList := by
  rw [String.toList_append]
  intro char member
  rcases List.mem_append.mp member with label | digit
  · have plain : Verbatim "HTTP ".toList := by decide
    exact plain char label
  · rw [Nat.toString_eq_ofList_toDigits, String.toList_ofList] at digit
    have isDigit := Nat.isDigit_of_mem_toDigits (by decide) (by decide) digit
    refine ⟨?_, ?_, ?_⟩
    · rintro rfl
      exact absurd isDigit (by decide)
    · rintro rfl
      exact absurd isDigit (by decide)
    · rw [Char.isDigit, Bool.and_eq_true, decide_eq_true_eq] at isDigit
      exact Nat.le_trans (by decide) isDigit.1

include documented in
/-- A response that is no success is always reported. -/
theorem ids_status_reported (status : UInt16) (resp : String)
    (failed : ¬ (200 ≤ status.toNat ∧ status.toNat < 300)) :
    ReportsError env readFloat (idsReply (.ok (status, resp))) ("HTTP " ++ toString status.toNat) := by
  have isText : idsReply (.ok (status, resp)) =
      spliceRecord "error" ("HTTP " ++ toString status.toNat) := by
    apply String.toList_inj.mp
    rw [idsReply, if_neg failed, spliceRecord, String.toList_ofList, String.toList_append,
      String.toList_append, String.toList_append]
    rfl
  rw [isText]
  exact (reportsError_iff documented _).mpr (verbatim_status status.toNat)

include documented in
/-- What the app sees of a body that is JSON. -/
theorem returnJsonObject_tree_iff {jsonStr : String} {value : Json}
    (read : readJson readFloat jsonStr = some value) :
    env.tree (returnJsonObject env readFloat jsonStr) = value.tree <->
      forall node, Json.Within node value -> Kept node := by
  rw [returnJsonObject, read]
  exact tree_iff_kept documented (ordered_of_readJson read)

/-- The body of a registration is printed, so that it is read back whatever the
strings contain. -/
theorem readJson_idsRegistration (appId userId odid pushToken : String) :
    readJson readFloat (printRecord (idsRegistration appId userId odid pushToken)) =
      some (.object (recordMembers (idsRegistration appId userId odid pushToken))) := by
  rw [readJson_printRecord, mapOf_of_ordered]
  show ["appId", "odid", "token", "type", "userId"].Pairwise (· < ·)
  decide

end Others

end P2pSdk
