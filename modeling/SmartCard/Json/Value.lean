import SmartCard.Json.Token

/-!
# JSON values

A value is built from its tokens by one pass with a stack of the arrays and objects still open,
so the depth of nesting costs no recursion. The members of an object stay in the order of the
text, repeated names included: which of them are accepted is for the reader of the value to say.
-/

set_option autoImplicit false
set_option relaxedAutoImplicit false

namespace SmartCard.Json

inductive Value where
  | null
  | boolean (value : Bool)
  | number (value : Number)
  | text (value : Option String)
  | array (items : List Value)
  | object (members : List (Option String × Value))

/-- An array or object still open, its contents newest first. An object remembers the name whose
value is being read. -/
inductive Frame where
  | array (items : List Value)
  | object (members : List (Option String × Value)) (name : Option String)

/-- What may come next. -/
inductive Expectation where
  | value
  | firstItem
  | separator
  | firstName
  | name
  | colon (name : Option String)
  | nothing (value : Value)

/-- The open containers, innermost first, and what may come next. Before the name of a member is
known its object is held as the frame with no name. -/
structure Build where
  frames : List Frame := []
  expected : Expectation := .value

/-- Puts a finished value where it belongs. -/
def Build.put (frames : List Frame) (value : Value) : Build :=
  match frames with
  | [] => ⟨[], .nothing value⟩
  | .array items :: outer => ⟨.array (value :: items) :: outer, .separator⟩
  | .object members name :: outer => ⟨.object ((name, value) :: members) none :: outer, .separator⟩

/-- Reads a token where a value has to stand. -/
def Build.value? (frames : List Frame) : Token → Option Build
  | .null => some (put frames .null)
  | .boolean value => some (put frames (.boolean value))
  | .number value => some (put frames (.number value))
  | .text value => some (put frames (.text value))
  | .arrayOpen => some ⟨.array [] :: frames, .firstItem⟩
  | .objectOpen => some ⟨.object [] none :: frames, .firstName⟩
  | _ => none

/-- Closes the innermost container. -/
def Build.close? (frames : List Frame) (token : Token) : Option Build :=
  match token, frames with
  | .arrayClose, .array items :: outer => some (put outer (.array items.reverse))
  | .objectClose, .object members _ :: outer => some (put outer (.object members.reverse))
  | _, _ => none

/-- Reads one token. -/
def Build.step? (build : Build) (token : Token) : Option Build :=
  match build.expected with
  | .value => value? build.frames token
  | .firstItem =>
    if token = .arrayClose then close? build.frames token else value? build.frames token
  | .separator =>
    match token, build.frames with
    | .comma, .array _ :: _ => some { build with expected := .value }
    | .comma, .object _ _ :: _ => some { build with expected := .name }
    | _, _ => close? build.frames token
  | .firstName =>
    match token with
    | .text name => some { build with expected := .colon name }
    | _ => close? build.frames token
  | .name =>
    match token with
    | .text name => some { build with expected := .colon name }
    | _ => none
  | .colon name =>
    match token, build.frames with
    | .colon, .object members _ :: outer => some ⟨.object members name :: outer, .value⟩
    | _, _ => none
  | .nothing _ => none

/-- The value of a list of tokens that make up exactly one. -/
def Value.ofTokens? (tokens : List Token) : Option Value := do
  let build ← tokens.foldlM Build.step? {}
  match build.expected with
  | .nothing value => some value
  | _ => none

/-- The value written in a text, with nothing but blanks around it. -/
def Value.parse? (text : String) : Option Value := do
  Value.ofTokens? (← tokens? text)

end SmartCard.Json
