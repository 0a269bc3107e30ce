import P2pSdk.Foundation.Properties

namespace P2pSdk

open Foundation

/-!
# JSON for the app (`napi_bridge.rs`)

The bridge builds JavaScript values from a JSON value: one for each node, with
the items of an array stored under 32-bit indices and the members of an object
under names that end with their first NUL.  Every number becomes a 32-bit
integer.  What the app sees is the tree of the value exactly when no node of it
is changed on the way.

The engine is not part of the repository.  Its calls are parameters, with what
is documented of them: a call to set an element or a property is the assignment
of the language.
-/

/-! ## The engine -/

/-- The text that a pointer to NUL-terminated characters stands for. -/
def cString (chars : String) : String := String.ofList (chars.toList.takeWhile (· ≠ '\x00'))

/-- The calls of the engine that the bridge makes.  A call that changes an
object or an array gives it as it is afterwards. -/
structure NapiEnv where
  Value : Type
  createInt32 : Int32 -> Value
  createStringUtf8 : String -> Value
  getBoolean : Bool -> Value
  createArray : Value
  createObject : Value
  setElement : Value -> UInt32 -> Value -> Value
  setNamedProperty : Value -> String -> Value -> Value
  /-- What the app sees of a value: undefined and null are one leaf, and the own
  properties of an object stand in the order in which they are listed. -/
  tree : Value -> DataTree

namespace NapiEnv

variable (env : NapiEnv)

/-- A value that these calls alone have made, so that its objects are ordinary. -/
inductive Made : env.Value -> Prop
  | int32 (value : Int32) : Made (env.createInt32 value)
  | string (text : String) : Made (env.createStringUtf8 text)
  | boolean (value : Bool) : Made (env.getBoolean value)
  | array : Made env.createArray
  | object : Made env.createObject
  | element {array value : env.Value} (index : UInt32) (made : Made array) (ofValue : Made value) :
      Made (env.setElement array index value)
  | property {object value : env.Value} (chars : String) (made : Made object) (ofValue : Made value) :
      Made (env.setNamedProperty object chars value)

/-- What is documented of the calls. -/
structure Documented : Prop where
  int32 : forall value, env.tree (env.createInt32 value) = .number value.toInt
  string : forall text, env.tree (env.createStringUtf8 text) = .string text
  boolean : forall value, env.tree (env.getBoolean value) = .bool value
  newArray : env.tree env.createArray = .array []
  newObject : env.tree env.createObject = .object []
  element : forall {array value : env.Value} {elements : List DataTree} (index : UInt32),
    env.Made array -> env.Made value -> env.tree array = .array elements ->
      env.tree (env.setElement array index value) =
        .array (assignElement elements index (env.tree value))
  property : forall {object value : env.Value} {properties : List (String × DataTree)} (chars : String),
    env.Made object -> env.Made value -> env.tree object = .object properties ->
      env.tree (env.setNamedProperty object chars value) =
        .object (assignProperty properties (cString chars) (env.tree value))

end NapiEnv

/-- An engine whose values are their own trees. -/
def treeEnv : NapiEnv where
  Value := DataTree
  createInt32 value := .number value.toInt
  createStringUtf8 := .string
  getBoolean := .bool
  createArray := .array []
  createObject := .object []
  setElement
    | .array elements, index, value => .array (assignElement elements index value)
    | other, _, _ => other
  setNamedProperty
    | .object properties, chars, value => .object (assignProperty properties (cString chars) value)
    | other, _, _ => other
  tree := id

theorem treeEnv_documented : treeEnv.Documented where
  int32 _ := rfl
  string _ := rfl
  boolean _ := rfl
  newArray := rfl
  newObject := rfl
  element := by
    intro array value elements index _ _ isArray
    cases isArray
    rfl
  property := by
    intro object value properties chars _ _ isObject
    cases isObject
    rfl

/-! ## The conversion -/

section Conversion

variable (env : NapiEnv)

def returnInt32 (value : Int32) : env.Value := env.createInt32 value

def returnString (text : String) : env.Value := env.createStringUtf8 text

mutual

/-- `json_to_napi`. -/
def jsonToNapi : Json -> env.Value
  | .null => returnInt32 env 0
  | .bool value => env.getBoolean value
  | .number number =>
      match number.asI64 with
      | some i => returnInt32 env i.toInt32
      | none => returnInt32 env 0
  | .string text => returnString env text
  | .array arr => setItems 0 env.createArray arr
  | .object map => setMembers env.createObject map

/-- The loop over the items of an array, from the one at `i` on. -/
def setItems (i : Nat) (array : env.Value) : List Json -> env.Value
  | [] => array
  | item :: arr => setItems (i + 1) (env.setElement array (UInt32.ofNat i) (jsonToNapi item)) arr

/-- The loop over the members of an object. -/
def setMembers (object : env.Value) : List (String × Json) -> env.Value
  | [] => object
  | (key, value) :: map =>
      setMembers (env.setNamedProperty object (key ++ "\x00") (jsonToNapi value)) map

end

end Conversion

/-! ## Names -/

theorem cString_free (chars : String) : '\x00' ∉ (cString chars).toList := by
  intro contrary
  rw [cString, String.toList_ofList] at contrary
  have notNul := List.all_eq_true.mp List.all_takeWhile '\x00' contrary
  exact of_decide_eq_true notNul rfl

/-- A key without NUL is passed as it is. -/
theorem cString_terminated {key : String} (free : '\x00' ∉ key.toList) : cString (key ++ "\x00") = key := by
  have nul : "\x00".toList = ['\x00'] := rfl
  rw [cString, String.toList_append, nul, List.takeWhile_append_of_pos, List.takeWhile_cons_of_neg,
    List.append_nil, String.ofList_toList]
  · decide
  · intro char member
    refine decide_eq_true ?_
    rintro rfl
    exact free member

/-! ## What is kept -/

/-- The integers of 32 bits, and the zeros among the doubles. -/
def FitsInt32 : JsonNumber -> Prop
  | .posInt value => value.toNat < 2 ^ 31
  | .negInt value _ => -2 ^ 31 ≤ value.toInt
  | .float value => value.value = 0

instance (number : JsonNumber) : Decidable (FitsInt32 number) :=
  match number with
  | .posInt value => inferInstanceAs (Decidable (value.toNat < 2 ^ 31))
  | .negInt value _ => inferInstanceAs (Decidable (-2 ^ 31 ≤ value.toInt))
  | .float value => inferInstanceAs (Decidable (value.value = 0))

/-- A key that names a property of an object. -/
def NamesProperty (key : String) : Prop := '\x00' ∉ key.toList ∧ key ≠ "__proto__"

instance (key : String) : Decidable (NamesProperty key) :=
  inferInstanceAs (Decidable ('\x00' ∉ key.toList ∧ key ≠ "__proto__"))

/-- A node that the bridge passes on, whatever becomes of the values in it. -/
def Kept : Json -> Prop
  | .null => False
  | .bool _ => True
  | .number number => FitsInt32 number
  | .string _ => True
  | .array items => items.length < 2 ^ 32
  | .object members =>
      (forall entry, entry ∈ members -> NamesProperty entry.1) ∧ Listed (members.map Prod.fst)

theorem int32_eq_iff (value : Int64) :
    (value.toInt32.toInt : Rat) = value.toInt <-> -2 ^ 31 ≤ value.toInt ∧ value.toInt < 2 ^ 31 := by
  rw [Int64.toInt_toInt32, Rat.intCast_inj, Int.bmod_def]
  omega

section Engine

variable {env : NapiEnv}

/-! ## Made values -/

theorem made_setItems {items : List Json}
    (made : forall item, item ∈ items -> env.Made (jsonToNapi env item)) :
    forall (i : Nat) (array : env.Value), env.Made array -> env.Made (setItems env i array items) := by
  induction items with
  | nil => exact fun i array ofArray => ofArray
  | cons item items rest =>
      rcases List.forall_mem_cons.mp made with ⟨ofItem, others⟩
      exact fun i array ofArray => rest others (i + 1) _ (.element _ ofArray ofItem)

theorem made_setMembers {members : List (String × Json)}
    (made : forall entry, entry ∈ members -> env.Made (jsonToNapi env entry.2)) :
    forall object : env.Value, env.Made object -> env.Made (setMembers env object members) := by
  induction members with
  | nil => exact fun object ofObject => ofObject
  | cons entry members rest =>
      rcases List.forall_mem_cons.mp made with ⟨ofEntry, others⟩
      exact fun object ofObject => rest others _ (.property _ ofObject ofEntry)

/-- The bridge makes values by the calls of the engine alone. -/
theorem made_jsonToNapi (json : Json) : env.Made (jsonToNapi env json) := by
  induction json with
  | null => exact .int32 _
  | bool value => exact .boolean _
  | number number =>
      rw [jsonToNapi]
      cases number.asI64 with
      | some i => exact .int32 _
      | none => exact .int32 _
  | string text => exact .string _
  | array items made => exact made_setItems made 0 _ .array
  | object members made => exact made_setMembers made _ .object

variable (documented : env.Documented)

include documented

/-! ## Leaves -/

theorem tree_returnInt32 (value : Int32) : env.tree (returnInt32 env value) = .number value.toInt :=
  documented.int32 value

theorem tree_returnString (text : String) : env.tree (returnString env text) = .string text :=
  documented.string text

theorem tree_number_iff (number : JsonNumber) :
    env.tree (jsonToNapi env (.number number)) = (Json.number number).tree <-> FitsInt32 number := by
  have isTree : (Json.number number).tree = .number number.value := rfl
  cases signed : number.asI64 with
  | some i =>
      have converted : env.tree (jsonToNapi env (.number number)) = .number i.toInt32.toInt := by
        rw [jsonToNapi, signed]
        exact tree_returnInt32 documented _
      rw [converted, isTree, DataTree.number.injEq, JsonNumber.value_of_asI64 signed, int32_eq_iff]
      cases number with
      | posInt value =>
          rw [JsonNumber.asI64_posInt signed, FitsInt32]
          omega
      | negInt value negative =>
          cases signed
          have below : i.toInt < 0 := Int64.lt_iff_toInt_lt.mp negative
          rw [FitsInt32]
          omega
      | float value => cases signed
  | none =>
      have converted : env.tree (jsonToNapi env (.number number)) = .number 0 := by
        rw [jsonToNapi, signed]
        exact tree_returnInt32 documented 0
      rw [converted, isTree, DataTree.number.injEq, eq_comm]
      cases number with
      | posInt value =>
          have large : ¬ value.toNat < 2 ^ 63 := by
            intro small
            cases (if_pos small).symm.trans signed
          rw [JsonNumber.value, Nat.cast_eq_zero, FitsInt32]
          omega
      | negInt value negative => cases signed
      | float value => rfl

/-! ## Arrays -/

/-- Where the indices do not run out, the loop stores every item. -/
theorem tree_setItems (items : List Json) : forall (elements : List DataTree) (array : env.Value),
    env.Made array -> env.tree array = .array elements -> elements.length + items.length < 2 ^ 32 ->
      env.tree (setItems env elements.length array items) =
        .array (elements ++ items.map fun item => env.tree (jsonToNapi env item)) := by
  induction items with
  | nil =>
      intro elements array made isArray room
      exact isArray.trans (congrArg DataTree.array (List.append_nil elements).symm)
  | cons item items rest =>
      intro elements array made isArray room
      rw [List.length_cons] at room
      have stored := documented.element (UInt32.ofNat elements.length) made (made_jsonToNapi item) isArray
      rw [assignElement_end (by omega)] at stored
      have size : (elements ++ [env.tree (jsonToNapi env item)]).length = elements.length + 1 :=
        List.length_append
      have later := rest _ _ (.element _ made (made_jsonToNapi item)) stored (by omega)
      rw [size, List.append_assoc] at later
      exact later

/-- No array has 2^32 elements. -/
theorem tree_setItems_length (items : List Json) : forall (i : Nat) (elements : List DataTree)
    (array : env.Value), env.Made array -> env.tree array = .array elements ->
      elements.length < 2 ^ 32 ->
        exists final, env.tree (setItems env i array items) = .array final ∧ final.length < 2 ^ 32 := by
  induction items with
  | nil => exact fun i elements array made isArray room => ⟨elements, isArray, room⟩
  | cons item items rest =>
      intro i elements array made isArray room
      exact rest (i + 1) _ _ (.element _ made (made_jsonToNapi item))
        (documented.element (UInt32.ofNat i) made (made_jsonToNapi item) isArray)
        (assignElement_length _ _ room)

theorem tree_array_iff (items : List Json) :
    env.tree (jsonToNapi env (.array items)) = (Json.array items).tree <->
      Kept (.array items) ∧
        forall item, item ∈ items -> env.tree (jsonToNapi env item) = item.tree := by
  have isTree : (Json.array items).tree = .array (items.map Json.tree) := by
    rw [Json.tree, Json.itemTrees_eq]
  rw [isTree, jsonToNapi]
  by_cases kept : items.length < 2 ^ 32
  · have stored := tree_setItems documented items [] _ .array documented.newArray
      (by rw [List.length_nil, Nat.zero_add]; exact kept)
    have isKept : Kept (.array items) := kept
    rw [List.length_nil] at stored
    rw [stored, DataTree.array.injEq, List.nil_append, List.map_inj_left, and_iff_right isKept]
  · refine iff_of_false ?_ fun both => kept both.1
    intro same
    rcases tree_setItems_length documented items 0 [] _ .array documented.newArray
      (by decide) with ⟨final, isFinal, room⟩
    cases isFinal.symm.trans same
    rw [List.length_map] at room
    exact kept room

/-! ## Objects -/

/-- Where the keys are different, name properties and are in the order of the
list, the loop stores every member behind those before it. -/
theorem tree_setMembers (members : List (String × Json)) : forall (properties : List (String × DataTree))
    (object : env.Value), env.Made object -> env.tree object = .object properties ->
      (properties.map Prod.fst ++ members.map Prod.fst).Nodup ->
      Listed (properties.map Prod.fst ++ members.map Prod.fst) ->
      (forall entry, entry ∈ members -> NamesProperty entry.1) ->
        env.tree (setMembers env object members) =
          .object (properties ++ members.map fun entry => (entry.1, env.tree (jsonToNapi env entry.2))) := by
  induction members with
  | nil =>
      intro properties object made isObject different listed names
      exact isObject.trans (congrArg DataTree.object (List.append_nil properties).symm)
  | cons entry members rest =>
      intro properties object made isObject different listed names
      rcases List.forall_mem_cons.mp names with ⟨⟨free, noProto⟩, others⟩
      have new : entry.1 ∉ properties.map Prod.fst := by
        intro old
        exact (List.nodup_append.mp different).2.2 _ old _ List.mem_cons_self rfl
      have last : forall property, property ∈ properties -> place property.1 ≤ place entry.1 := by
        intro property member
        exact (List.pairwise_append.mp listed).2.2 _ (List.mem_map_of_mem member) _ List.mem_cons_self
      have stored := documented.property (entry.1 ++ "\x00") made (made_jsonToNapi entry.2) isObject
      rw [cString_terminated free, assignProperty_last _ noProto new last] at stored
      have later := rest _ _ (.property _ made (made_jsonToNapi entry.2)) stored
        (by rw [List.map_append, List.append_assoc]; exact different)
        (by rw [List.map_append, List.append_assoc]; exact listed) others
      rw [List.append_assoc] at later
      exact later

/-- The properties of an object are in the order of the list, and each has a
value of the map under the key as the engine reads it. -/
theorem tree_setMembers_cases (members : List (String × Json)) :
    forall (properties : List (String × DataTree)) (object : env.Value), env.Made object ->
      env.tree object = .object properties -> Listed (properties.map Prod.fst) ->
        exists final, env.tree (setMembers env object members) = .object final ∧
          Listed (final.map Prod.fst) ∧
          forall property, property ∈ final -> property ∈ properties ∨
            exists entry, entry ∈ members ∧ NamesProperty property.1 ∧
              property = (cString (entry.1 ++ "\x00"), env.tree (jsonToNapi env entry.2)) := by
  induction members with
  | nil =>
      intro properties object made isObject listed
      exact ⟨properties, isObject, listed, fun property member => Or.inl member⟩
  | cons entry members rest =>
      intro properties object made isObject listed
      have stored := documented.property (entry.1 ++ "\x00") made (made_jsonToNapi entry.2) isObject
      rcases rest _ _ (.property _ made (made_jsonToNapi entry.2)) stored
        (listed_assignProperty _ _ listed) with ⟨final, isFinal, inOrder, cases⟩
      refine ⟨final, isFinal, inOrder, ?_⟩
      intro property member
      rcases cases property member with before | ⟨later, found, isProperty⟩
      · rcases mem_assignProperty before with ⟨noProto, rfl⟩ | old
        · exact Or.inr ⟨entry, List.mem_cons_self, ⟨cString_free _, noProto⟩, rfl⟩
        · exact Or.inl old
      · exact Or.inr ⟨later, List.mem_cons_of_mem _ found, isProperty⟩

theorem tree_object_iff {members : List (String × Json)} (different : (members.map Prod.fst).Nodup) :
    env.tree (jsonToNapi env (.object members)) = (Json.object members).tree <->
      Kept (.object members) ∧
        forall entry, entry ∈ members -> env.tree (jsonToNapi env entry.2) = entry.2.tree := by
  have isTree : (Json.object members).tree =
      .object (members.map fun entry => (entry.1, entry.2.tree)) := by
    rw [Json.tree, Json.memberTrees_eq]
  rw [isTree, jsonToNapi]
  by_cases kept : Kept (.object members)
  · have stored := tree_setMembers documented members [] _ .object documented.newObject
      different kept.2 kept.1
    rw [stored, DataTree.object.injEq, List.nil_append, List.map_inj_left, and_iff_right kept]
    refine forall₂_congr fun entry _ => ?_
    rw [Prod.mk.injEq, and_iff_right rfl]
  · refine iff_of_false ?_ fun both => kept both.1
    intro same
    rcases tree_setMembers_cases documented members [] _ .object documented.newObject
      List.Pairwise.nil with ⟨final, isFinal, inOrder, cases⟩
    cases isFinal.symm.trans same
    have names : (members.map fun entry => (entry.1, entry.2.tree)).map Prod.fst =
        members.map Prod.fst := by
      rw [List.map_map]
      rfl
    rw [names] at inOrder
    refine kept ⟨fun entry member => ?_, inOrder⟩
    rcases cases _ (List.mem_map_of_mem member) with impossible | ⟨other, _, isName, _⟩
    · cases impossible
    · exact isName

/-- The app sees the tree of a value exactly when every node in it is kept. -/
theorem tree_iff_kept {json : Json} (ordered : json.Ordered) :
    env.tree (jsonToNapi env json) = json.tree <-> forall node, Json.Within node json -> Kept node := by
  induction json with
  | null =>
      refine iff_of_false ?_ fun all => all _ (.itself _)
      intro same
      cases (tree_returnInt32 documented 0).symm.trans same
  | bool value =>
      refine iff_of_true (documented.boolean value) ?_
      rintro node ⟨⟩
      trivial
  | number number =>
      rw [tree_number_iff documented]
      constructor
      · rintro fits node ⟨⟩
        exact fits
      · exact fun all => all _ (.itself _)
  | string text =>
      refine iff_of_true (tree_returnString documented text) ?_
      rintro node ⟨⟩
      trivial
  | array items rest =>
      rw [tree_array_iff documented, Json.forall_within_array]
      exact and_congr_right fun _ => forall₂_congr fun item member =>
        rest item member (Json.ordered_array_iff.mp ordered item member)
  | object members rest =>
      rcases Json.ordered_object_iff.mp ordered with ⟨inOrder, values⟩
      rw [tree_object_iff documented (inOrder.imp ne_of_lt), Json.forall_within_object]
      exact and_congr_right fun _ => forall₂_congr fun entry member =>
        rest entry member (values entry member)

end Engine

/-- **JSON for the app.**  The app sees the tree of a JSON value exactly when
the value contains no null, no number other than a 32-bit integer or a zero,
no key with a NUL and no key `__proto__`, no object with a key that is an array
index behind a key that is a larger one or none, and no array of 2^32 items or
more. -/
theorem tree_jsonToNapi_iff (env : NapiEnv) (documented : env.Documented) (value : JsonValue) :
    env.tree (jsonToNapi env value.json) = value.json.tree <->
      forall node, Json.Within node value.json -> Kept node :=
  tree_iff_kept documented value.ordered

/-- A response of a registry. -/
def registered : JsonValue where
  json := .object [("devices", .array [.string "d1", .number (.posInt 7)]), ("ok", .bool true)]
  ordered := by
    simp only [Json.ordered_object_iff, Json.ordered_array_iff, List.forall_mem_cons]
    exact ⟨by decide, ⟨nofun, nofun, nofun⟩, nofun, nofun⟩

/-- A map with one key or more, whose values are small numbers. -/
def numbered (keys : List String) (inOrder : keys.Pairwise (· < ·)) : JsonValue where
  json := .object (keys.map fun key => (key, .number (.posInt 1)))
  ordered := by
    rw [Json.ordered_object_iff, List.map_map]
    refine ⟨inOrder.map _ fun _ _ before => before, ?_⟩
    intro entry member
    rcases List.mem_map.mp member with ⟨key, _, rfl⟩
    exact fun members within => by cases within

/-- The response is passed on.  Keys that are array indices change their order,
and a prototype is no property. -/
theorem registered_passed_on :
    treeEnv.tree (jsonToNapi treeEnv registered.json) = registered.json.tree ∧
    treeEnv.tree (jsonToNapi treeEnv (numbered ["10", "9"] (by decide)).json) ≠
      (numbered ["10", "9"] (by decide)).json.tree ∧
    treeEnv.tree (jsonToNapi treeEnv (numbered ["__proto__"] (by decide)).json) ≠
      (numbered ["__proto__"] (by decide)).json.tree := by
  refine ⟨?_, ?_, ?_⟩
  · refine (tree_jsonToNapi_iff treeEnv treeEnv_documented registered).mpr ?_
    refine Json.forall_within_object.mpr ⟨⟨by decide, by decide⟩, ?_⟩
    refine List.forall_mem_cons.mpr ⟨Json.forall_within_array.mpr ⟨by show 2 < 2 ^ 32; decide, ?_⟩, ?_⟩
    · refine List.forall_mem_cons.mpr ⟨?_, List.forall_mem_singleton.mpr ?_⟩
      · rintro node ⟨⟩
        trivial
      · rintro node ⟨⟩
        show FitsInt32 (.posInt 7)
        decide
    · refine List.forall_mem_singleton.mpr ?_
      rintro node ⟨⟩
      trivial
  · intro same
    have kept := (tree_jsonToNapi_iff treeEnv treeEnv_documented _).mp same _ (.itself _)
    exact absurd kept.2 (by decide)
  · intro same
    have kept := (tree_jsonToNapi_iff treeEnv treeEnv_documented _).mp same _ (.itself _)
    exact (kept.1 _ List.mem_cons_self).2 rfl

/-- A number of milliseconds does not fit into 32 bits. -/
theorem milliseconds_changed :
    ¬ forall (env : NapiEnv), env.Documented -> forall value : JsonValue,
      env.tree (jsonToNapi env value.json) = value.json.tree := by
  intro claim
  have same := claim treeEnv treeEnv_documented
    ⟨.number (.posInt 1700000000000), fun members within => by cases within⟩
  have fits := (tree_number_iff treeEnv_documented (.posInt 1700000000000)).mp same
  exact absurd fits (by decide)

end P2pSdk
