import LinkVetting.Json.Fault

/-!
# Choices in JSON values

A choice stands in a value as its name, or as an object whose only member has that name and the
value `null`.
-/

namespace LinkVetting.Json

def found : Json → Found
  | .null => .null
  | .bool value => .bool value
  | .number value => .number value
  | .string text => .string text.toList
  | .array _ => .sequence
  | .object _ => .map

def namedChoice {α : Type} (choices : List (String × α)) (name : String) : Except String α :=
  match choices.lookup name with
  | some choice => .ok choice
  | none => .error (Misfit.unknownVariant name.toList (choices.map (·.1))).message

/-- The choice that a value stands for, or the wording of why it stands for none. -/
def choice {α : Type} (choices : List (String × α)) : Json → Except String α
  | .string name => namedChoice choices name
  | .object [(name, value)] =>
    match namedChoice choices name, value with
    | .ok choice, .null => .ok choice
    | .ok _, other => .error (Misfit.wrongType other.found "unit").message
    | .error message, _ => .error message
  | .object _ => .error "invalid value: map, expected map with a single key"
  | other => .error (Misfit.wrongType other.found "string or map").message

end LinkVetting.Json
