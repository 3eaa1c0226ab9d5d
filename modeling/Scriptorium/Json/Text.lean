import Scriptorium.Json.Token

/-! JSON text: the value that a text holds, and a value written without blanks. Both work through
nested values with the arrays and objects around the present place on a stack, so that values may
be nested to any depth. -/

namespace Scriptorium.Json

/-- An array or an object that is open around the present place, with what it holds so far in
reverse. -/
inductive Frame where
  | array (before : List Value)
  /-- The value of `key` comes next. -/
  | object (before : List (List Char × Value)) (key : List Char)

/-- What the present place is. -/
inductive Place where
  /-- A value comes next, or the end of the array that has just been opened. -/
  | value (first : Bool)
  /-- A key comes next, or the end of the object if it has just been opened. -/
  | key (first : Bool) (before : List (List Char × Value))
  | colon (before : List (List Char × Value)) (key : List Char)
  /-- A value has come to its end. -/
  | ended (v : Value)

/-- Takes in a token: the frames and the place after it, if it may stand here. -/
private def advance : List Frame × Place → Token → Option (List Frame × Place)
  | (stack, .value _), .scalar v => some (stack, .ended v)
  | (stack, .value _), .openArray => some (.array [] :: stack, .value true)
  | (stack, .value _), .openObject => some (stack, .key true [])
  | (.array [] :: stack, .value true), .closeArray => some (stack, .ended (.array []))
  | (stack, .key true []), .closeObject => some (stack, .ended (.object []))
  | (stack, .key _ before), .scalar (.string key) => some (stack, .colon before key)
  | (stack, .colon before key), .colon => some (.object before key :: stack, .value false)
  | (.array before :: stack, .ended v), .comma => some (.array (v :: before) :: stack, .value false)
  | (.array before :: stack, .ended v), .closeArray =>
    some (stack, .ended (.array (v :: before).reverse))
  | (.object before key :: stack, .ended v), .comma => some (stack, .key false ((key, v) :: before))
  | (.object before key :: stack, .ended v), .closeObject =>
    some (stack, .ended (.object ((key, v) :: before).reverse))
  | _, _ => none

/-- The value that a text holds, if it holds one and nothing else. -/
def parse? (s : String) : Option Value := do
  match ← (← tokens? s).foldlM advance ([], .value false) with
  | ([], .ended v) => some v
  | _ => none

def Number.render (n : Number) : List Char :=
  (if n.negative then ['-'] else []) ++ n.whole ++
    (match n.fraction with
      | none => []
      | some ds => '.' :: ds) ++
    match n.exponent with
    | none => []
    | some (sign, ds) => 'e' :: sign.toList ++ ds

mutual

/-- Writes a value without blanks, in reverse after what was written before. -/
private def Value.renderAfter (written : List Char) : Value → List Char
  | .null => "null".toList.reverseAux written
  | .bool b => (toString b).toList.reverseAux written
  | .number n => n.render.reverseAux written
  | .string raw => '"' :: raw.reverseAux ('"' :: written)
  | .array items => ']' :: renderItems ('[' :: written) items
  | .object members => '\x7d' :: renderMembers ('\x7b' :: written) members

private def renderItems (written : List Char) : List Value → List Char
  | [] => written
  | [v] => v.renderAfter written
  | v :: vs => renderItems (',' :: v.renderAfter written) vs

private def renderMembers (written : List Char) : List (List Char × Value) → List Char
  | [] => written
  | [(k, v)] => v.renderAfter (':' :: '"' :: k.reverseAux ('"' :: written))
  | (k, v) :: ms =>
    renderMembers (',' :: v.renderAfter (':' :: '"' :: k.reverseAux ('"' :: written))) ms

end

def Value.text (v : Value) : String := String.ofList (v.renderAfter []).reverse

end Scriptorium.Json
