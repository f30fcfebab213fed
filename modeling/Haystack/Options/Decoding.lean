import Haystack.Options.DecodeError

/-!
# Reading options

Options are read from a JSON object whose members are fields, each at most once and in any order, or
from a list of up to three values, which are the fields in their order. A field that is `null` or left
out is absent.

The reader goes through the tokens from the left and reports the first problem that it meets. So a
member with an unknown name, or with the name of a field that was there before, is refused as soon as
its name is read, whatever follows, and a list or an object in the place of a number is refused as soon
as it begins.
-/

namespace Haystack.Options

open Json (Token)

/-- Refuses a token in whose place something else belongs. -/
def mismatch {β : Type} (t : Token) (expected : Expected) : Except DecodeError β :=
  match Found.ofToken? t with
  | some found => .error (.rejected (.wrongType found expected))
  | none => .error .malformed

/-- Reads a bound. -/
def index? (t : Token) : Except DecodeError (Option Int64) :=
  match Found.ofToken? t with
  | some .null => .ok none
  | some (.integer i) =>
    if i ≤ Int64.maxValue.toInt then .ok (some (Int64.ofInt i))
    else .error (.rejected (.indexOutOfRange i))
  | _ => mismatch t .index

/-- Reads a tolerance. -/
def number? (t : Token) : Except DecodeError (Option Double) :=
  match Found.ofToken? t with
  | some .null => .ok none
  | some (.integer i) => .ok (some (Json.Number.integer i).toDouble)
  | some (.float x) => .ok (some x)
  | _ => mismatch t .tolerance

/-- The options with a field as a token says. -/
def set (o : Options) (f : Field) (t : Token) : Except DecodeError Options :=
  match f with
  | .start => (index? t).map fun i => { o with start? := i }
  | .stop => (index? t).map fun i => { o with stop? := i }
  | .tolerance => (number? t).map fun x => { o with tolerance? := x }

/-- Reads the members of an object up to its end, when the fields `seen` were there already. -/
def members (seen : List Field) (o : Options) :
    List Token → Except DecodeError (Options × List Token)
  | .string name :: rest =>
    -- the name is judged before anything after it is looked at
    match Field.ofName? name with
    | none => .error (.rejected (.unknownField name))
    | some f =>
      if f ∈ seen then .error (.rejected (.duplicateField f))
      else
        match rest with
        | .colon :: t :: rest =>
          match o.set f t with
          | .error e => .error e
          | .ok o =>
            match rest with
            | .comma :: rest => members (f :: seen) o rest
            | .endObject :: rest => .ok (o, rest)
            | _ => .error .malformed
        | _ => .error .malformed
  | _ => .error .malformed

/-- Reads the items of a list up to its end, into the given fields. -/
def items (o : Options) : List Field → List Token → Except DecodeError (Options × List Token)
  | f :: fields, t :: rest =>
    match o.set f t with
    | .error e => .error e
    | .ok o =>
      match rest with
      | .comma :: rest => items o fields rest
      | .endList :: rest => .ok (o, rest)
      | _ => .error .malformed
  | _, _ => .error .malformed

/-- Reads an object or a list, and gives what is left. -/
def value : List Token → Except DecodeError (Options × List Token)
  | .beginObject :: .endObject :: rest => .ok (empty, rest)
  | .beginObject :: rest => members [] empty rest
  | .beginList :: .endList :: rest => .ok (empty, rest)
  | .beginList :: rest => items empty Field.all rest
  | t :: _ => mismatch t .options
  | [] => .error .malformed

/-- Reads tokens to their end. -/
def ofTokens (ts : List Token) : Except DecodeError Options :=
  match value ts with
  | .error e => .error e
  | .ok (o, []) => .ok o
  | .ok (_, _ :: _) => .error .malformed

/-- **Reads options from their written form.** -/
def decode (text : String) : Except DecodeError Options :=
  ofTokens (Token.ofText text.toList)

end Haystack.Options
