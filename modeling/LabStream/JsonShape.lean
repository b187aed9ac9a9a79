import LabStream.JsonToken

namespace LabStream

inductive JsonShape where
  | anything
  | skipped
  | string
  | integer (low high : Int)
  | oneOf (allowed : String → Bool)
  | optional (shape : JsonShape)
  | list (shape : JsonShape)
  | table (shape : JsonShape)
  | record (fields : List (String × Bool × JsonShape))

namespace JsonShape

open JsonToken

def depthLimit : Nat := 127

/-- The fault of a token that does not fit: its own, if it has one. -/
def misfit : List JsonToken → JsonFault
  | [] => .unfinished
  | brokenText fault :: _ => fault
  | broken fault :: _ => fault
  | _ => .malformed

def expect (c : Char) : List JsonToken → Except JsonFault (List JsonToken)
  | [] => .error .unfinished
  | mark m :: rest => if m = c then .ok rest else .error .malformed
  | _ => .error .malformed

def readName (loose : Bool) : List JsonToken → Except JsonFault (Option String × List JsonToken)
  | [] => .error .unfinished
  | text name :: rest => do return (some name, ← expect ':' rest)
  | strayText :: rest => if loose then do return (none, ← expect ':' rest) else .error .malformed
  | brokenText fault :: _ => .error fault
  | _ => .error .malformed

def complete (wanted : List (String × Bool × JsonShape)) (found : List (String × Json)) : Bool :=
  wanted.all fun (name, required, _) => !required || found.any (·.1 == name)

mutual
/-- Reads one value. Every call takes a token or looks inside an optional shape, which `fuel`
counts; `depth` counts the brackets that may still open. -/
def read (fuel depth : Nat) (shape : JsonShape) (tokens : List JsonToken) :
    Except JsonFault (Json × List JsonToken) :=
  match fuel with
  | 0 => .error .malformed
  | fuel + 1 =>
    match shape, tokens with
    | optional _, null :: rest => .ok (.null, rest)
    | optional inner, _ => read fuel depth inner tokens
    | anything, null :: rest => .ok (.null, rest)
    | anything, .bool b :: rest => .ok (.bool b, rest)
    | anything, whole n :: rest => .ok (.whole n, rest)
    | anything, real s :: rest => .ok (.real s, rest)
    | anything, text s :: rest => .ok (.text s, rest)
    | anything, mark '[' :: rest =>
      match depth with
      | 0 => .error .malformed
      | depth + 1 => readItems fuel depth anything true [] rest
    | anything, mark '{' :: rest =>
      match depth with
      | 0 => .error .malformed
      | depth + 1 => readTable fuel depth anything true [] rest
    | skipped, null :: rest => .ok (.null, rest)
    | skipped, .bool _ :: rest => .ok (.null, rest)
    | skipped, whole _ :: rest => .ok (.null, rest)
    | skipped, real _ :: rest => .ok (.null, rest)
    | skipped, text _ :: rest => .ok (.null, rest)
    | skipped, strayText :: rest => .ok (.null, rest)
    | skipped, mark '[' :: rest => readItems fuel depth skipped true [] rest
    | skipped, mark '{' :: rest => readTable fuel depth skipped true [] rest
    | string, text s :: rest => .ok (.text s, rest)
    | integer low high, whole n :: rest =>
      if low ≤ n ∧ n ≤ high then .ok (.whole n, rest) else .error .malformed
    | oneOf allowed, text s :: rest =>
      if allowed s then .ok (.text s, rest) else .error .malformed
    | oneOf allowed, mark '{' :: rest => do
      let (name, rest) ← readName false rest
      match name with
      | some s =>
        if !allowed s then .error .malformed
        else match rest with
          | null :: rest => return (.text s, ← expect '}' rest)
          | _ => .error (misfit rest)
      | none => .error .malformed
    | oneOf _, brokenText fault :: _ => .error fault
    | oneOf _, [] => .error .unfinished
    | oneOf _, _ => .error .malformed
    | list inner, mark '[' :: rest =>
      match depth with
      | 0 => .error .malformed
      | depth + 1 => readItems fuel depth inner true [] rest
    | table inner, mark '{' :: rest =>
      match depth with
      | 0 => .error .malformed
      | depth + 1 => readTable fuel depth inner true [] rest
    | record wanted, mark '{' :: rest =>
      match depth with
      | 0 => .error .malformed
      | depth + 1 => readFields fuel depth wanted true [] rest
    | record wanted, mark '[' :: rest =>
      match depth with
      | 0 => .error .malformed
      | depth + 1 => readRow fuel depth wanted true [] rest
    | _, _ => .error (misfit tokens)

/-- Reads the items of a list up to its closing bracket; `found` holds them in reverse. -/
def readItems (fuel depth : Nat) (inner : JsonShape) (first : Bool) (found : List Json)
    (tokens : List JsonToken) : Except JsonFault (Json × List JsonToken) :=
  match fuel with
  | 0 => .error .malformed
  | fuel + 1 =>
    match tokens with
    | mark ']' :: rest => .ok (.list found.reverse, rest)
    | _ => do
      let tokens ← if first then pure tokens else expect ',' tokens
      let (value, rest) ← read fuel depth inner tokens
      readItems fuel depth inner false (value :: found) rest

def readTable (fuel depth : Nat) (inner : JsonShape) (first : Bool) (found : List (String × Json))
    (tokens : List JsonToken) : Except JsonFault (Json × List JsonToken) :=
  match fuel with
  | 0 => .error .malformed
  | fuel + 1 =>
    match tokens with
    | mark '}' :: rest => .ok (.record found.reverse, rest)
    | _ => do
      let tokens ← if first then pure tokens else expect ',' tokens
      let loose := match inner with
        | skipped => true
        | _ => false
      let (name, rest) ← readName loose tokens
      let (value, rest) ← read fuel depth inner rest
      readTable fuel depth inner false ((name.getD "", value) :: found) rest

/-- Reads the fields of a record with known names: none twice, unknown ones skipped. -/
def readFields (fuel depth : Nat) (wanted : List (String × Bool × JsonShape)) (first : Bool)
    (found : List (String × Json)) (tokens : List JsonToken) : Except JsonFault (Json × List JsonToken) :=
  match fuel with
  | 0 => .error .malformed
  | fuel + 1 =>
    match tokens with
    | mark '}' :: rest =>
      if complete wanted found then .ok (.record found.reverse, rest) else .error .malformed
    | _ => do
      let tokens ← if first then pure tokens else expect ',' tokens
      let (name, rest) ← readName false tokens
      let name := name.getD ""
      match wanted.find? (·.1 == name) with
      | none =>
        let (_, rest) ← read fuel depth skipped rest
        readFields fuel depth wanted false found rest
      | some (_, _, inner) =>
        if found.any (·.1 == name) then .error .malformed
        else
          let (value, rest) ← read fuel depth inner rest
          readFields fuel depth wanted false ((name, value) :: found) rest

/-- Reads a record written as the list of its fields in order. -/
def readRow (fuel depth : Nat) (wanted : List (String × Bool × JsonShape)) (first : Bool)
    (found : List (String × Json)) (tokens : List JsonToken) : Except JsonFault (Json × List JsonToken) :=
  match fuel with
  | 0 => .error .malformed
  | fuel + 1 =>
    match wanted with
    | [] => do return (.record found.reverse, ← expect ']' tokens)
    | (name, _, inner) :: more =>
      match tokens with
      | mark ']' :: _ => .error .malformed
      | _ => do
        let tokens ← if first then pure tokens else expect ',' tokens
        let (value, rest) ← read fuel depth inner tokens
        readRow fuel depth more false ((name, value) :: found) rest
end

/-- Reads a text that holds one value of the shape and nothing else. -/
def parse (shape : JsonShape) (text : String) : Except JsonFault Json := do
  let tokens := scan text
  let (value, rest) ← read (2 * tokens.length + 2) depthLimit shape tokens
  match rest with
  | [] => return value
  | _ => .error .malformed

end JsonShape

def Json.parse (text : String) : Except JsonFault Json := JsonShape.anything.parse text

/-- Whether a value that is already there has the shape; a record keeps its known fields. -/
def Json.conform (shape : JsonShape) (value : Json) : Option Json :=
  (shape.parse value.render).toOption

end LabStream
