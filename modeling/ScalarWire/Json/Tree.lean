import ScalarWire.Json.Token

/-!
# JSON trees

A JSON document as a tree. Members of an object keep their order and may repeat a key; numbers
are not told apart, because no document read here has a use for one.
-/

namespace ScalarWire

inductive Json where
  | null
  | boolean (b : Bool)
  | number
  | text (t : Json.Content)
  | array (elements : List Json)
  | object (members : List (Json.Content × Json))

namespace Json

mutual

/-- Reads a value at the start of the tokens, in at most so many steps. -/
def readValue? : Nat → List Token → Option (Json × List Token)
  | steps + 1, token :: rest =>
    match token, rest with
    | .null, rest => some (.null, rest)
    | .boolean b, rest => some (.boolean b, rest)
    | .number, rest => some (.number, rest)
    | .text t, rest => some (.text t, rest)
    | .openArray, .closeArray :: rest => some (.array [], rest)
    | .openArray, rest => (readElements? steps rest).map fun (es, rest) => (.array es, rest)
    | .openObject, .closeObject :: rest => some (.object [], rest)
    | .openObject, rest => (readMembers? steps rest).map fun (ms, rest) => (.object ms, rest)
    | _, _ => none
  | _, _ => none

/-- Reads one element or more up to the end of an array. -/
def readElements? : Nat → List Token → Option (List Json × List Token)
  | steps + 1, tokens =>
    match readValue? steps tokens with
    | some (e, .comma :: rest) => (readElements? steps rest).map fun (es, rest) => (e :: es, rest)
    | some (e, .closeArray :: rest) => some ([e], rest)
    | _ => none
  | 0, _ => none

/-- Reads one member or more up to the end of an object. -/
def readMembers? : Nat → List Token → Option (List (Content × Json) × List Token)
  | steps + 1, .text key :: .colon :: tokens =>
    match readValue? steps tokens with
    | some (v, .comma :: rest) =>
      (readMembers? steps rest).map fun (ms, rest) => ((key, v) :: ms, rest)
    | some (v, .closeObject :: rest) => some ([(key, v)], rest)
    | _ => none
  | _, _ => none

end

/-- Reads a document that makes up the whole text. Two steps go by for each token at most. -/
def ofText? (s : List Char) : Option Json :=
  (tokens? s).bind fun tokens =>
    match readValue? (2 * tokens.length + 1) tokens with
    | some (j, []) => some j
    | _ => none

def string? : Json → Option String
  | text t => t.string?
  | _ => none

/-- A string, or nothing for null. -/
def optionalString? : Json → Option (Option String)
  | null => some none
  | j => j.string?.map some

/-- The members of an object under keys that have a text. -/
def members? : Json → Option (List (String × Json))
  | object members => members.mapM fun (key, value) => key.string?.map (·, value)
  | _ => none

/-- The values of a record's fields, in the order of their names: from an object in which no
field is repeated and other members are passed over, or from an array that gives the fields in
order and may stop early. -/
def fields? (names : List String) : Json → Option (List (Option Json))
  | array elements =>
    if elements.length ≤ names.length then
      some (elements.map some ++ List.replicate (names.length - elements.length) none)
    else none
  | j => do
    let members ← j.members?
    if names.any fun name => 1 < members.countP (·.1 == name) then none
    else return names.map fun name => List.lookup name members

end Json

end ScalarWire
