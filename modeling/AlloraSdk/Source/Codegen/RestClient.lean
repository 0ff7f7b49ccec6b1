import Mathlib.Data.String.Basic
import Mathlib.Data.List.Sort
import Mathlib.Data.Nat.Notation

/-!
# The generator of the REST clients

Source: scripts/analyze_protos.py, `_decode_http_rule`;
scripts/generate_rest_client_from_protos.py, `_prepare_method_data` and
`_camel_to_snake`; scripts/templates/rest_client.py.jinja, with the height of
scripts/templates/grpc_client.py.jinja.

The generator works on text, which is a list of characters here. The message
classes and the HTTP session are not part of the repository: which field an
attribute is, what other names stand for in a generated method, and what the
session sends for a header that is an integer are parameters.
-/

namespace AlloraSdk.Source.Codegen

abbrev Text := List Char

/-- `\w`. -/
def isWord (c : Char) : Bool := c.isAlphanum || c = '_'

inductive HttpVerb where
  | get | put | post | delete | patch | custom | unknown
  deriving DecidableEq, Repr

/-- The pattern of a `google.api.http` rule. -/
inductive HttpPattern where
  | get (path : Text)
  | put (path : Text)
  | post (path : Text)
  | delete (path : Text)
  | patch (path : Text)
  | custom (kind path : Text)

namespace HttpPattern

def verb : HttpPattern → HttpVerb
  | .get _ => .get
  | .put _ => .put
  | .post _ => .post
  | .delete _ => .delete
  | .patch _ => .patch
  | .custom _ _ => .custom

def path : HttpPattern → Text
  | .get path | .put path | .post path | .delete path | .patch path | .custom _ path => path

end HttpPattern

structure HttpBinding where
  verb : HttpVerb
  path : Text
  pathParams : List Text

/-- `re.findall(r'\{(\w+)\}', path)`, with the word since the last brace. -/
def findParams : Option Text → Text → List Text
  | _, [] => []
  | none, c :: rest => findParams (if c = '{' then some [] else none) rest
  | some word, c :: rest =>
    if isWord c then findParams (some (word ++ [c])) rest
    else if c = '}' ∧ word ≠ [] then word :: findParams none rest
    else findParams (if c = '{' then some [] else none) rest

/-- `one_binding`: an empty pattern is unknown. -/
def oneBinding (pattern : HttpPattern) : HttpBinding :=
  let known : Bool := match pattern with
    | .custom kind path => kind ≠ [] || path ≠ []
    | pattern => pattern.path ≠ []
  ⟨if known then pattern.verb else .unknown, pattern.path, findParams none pattern.path⟩

/-! ## `_camel_to_snake` -/

/-- `re.sub('(.)([A-Z][a-z]+)', r'\1_\2', text)`; first, whether the lower-case
letters of a match go on. -/
def splitCapitalized : Bool → Text → Text
  | _, [] => []
  | run, c :: rest =>
    if run && c.isLower then c :: splitCapitalized true rest
    else match rest with
      | upper :: lower :: more =>
        if upper.isUpper && lower.isLower && c ≠ '\n' then c :: '_' :: upper :: lower :: splitCapitalized true more
        else c :: splitCapitalized false (upper :: lower :: more)
      | [last] => c :: splitCapitalized false [last]
      | [] => [c]

/-- `re.sub('([a-z0-9])([A-Z])', r'\1_\2', text)`. -/
def splitLowerUpper : Text → Text
  | [] => []
  | [c] => [c]
  | c :: upper :: rest =>
    if (c.isLower || c.isDigit) && upper.isUpper then c :: '_' :: splitLowerUpper (upper :: rest)
    else c :: splitLowerUpper (upper :: rest)

def camelToSnake (text : Text) : Text := (splitLowerUpper (splitCapitalized false text)).map Char.toLower

/-! ## `_prepare_method_data` -/

/-- `text.replace(old, new)`; first, how many characters belong to the last match. -/
def replaceAll (old new : Text) : ℕ → Text → Text
  | _, [] => []
  | skip + 1, _ :: rest => replaceAll old new skip rest
  | 0, c :: rest =>
    if old.isPrefixOf (c :: rest) then new ++ replaceAll old new (old.length - 1) rest
    else c :: replaceAll old new 0 rest

def inBraces (text : Text) : Text := '{' :: (text ++ ['}'])

/-- `message.<field>`. -/
def messageField (param : Text) : Text := "message.".toList ++ camelToSnake param

def urlPath (binding : HttpBinding) : Text :=
  binding.pathParams.foldl (fun path param => replaceAll (inBraces param) (inBraces (messageField param)) 0 path)
    binding.path

def queryParams (fields : List Text) (binding : HttpBinding) : List Text :=
  (fields.dedup.filter fun field => !binding.pathParams.contains field).insertionSort (· ≤ ·)

/-! ## The generated method -/

inductive Piece where
  | char (c : Char)
  | expression (names : List Text)
  deriving DecidableEq, Repr

/-- An expression of names with dots; anything else that the generator makes is a
syntax error. -/
def parseExpression (text : Text) : Option (List Text) :=
  let names := text.splitOn '.'
  if names.all fun name => !name.isEmpty && name.all isWord then some names else none

/-- The pieces of an f-string, with the expression since the last brace; nothing
where it is a syntax error. -/
def parseFString : Option Text → Text → Option (List Piece)
  | none, [] => some []
  | some _, [] => none
  | none, c :: rest =>
    if c = '{' then parseFString (some []) rest
    else if c = '}' then none
    else (parseFString none rest).map (.char c :: ·)
  | some text, c :: rest =>
    if c = '}' then do
      let names ← parseExpression text
      let pieces ← parseFString none rest
      pure (.expression names :: pieces)
    else parseFString (some (text ++ [c])) rest

/-- The request type, and the scope of its methods. -/
structure RequestType where
  /-- The names in the proto file. -/
  fields : List Text
  distinct : fields.Nodup
  /-- The field that a chain of attributes of a message leads to. -/
  fieldAt : List Text → Option (List Text)
  depth : ∀ names path, fieldAt names = some path → path.length = names.length
  declared : ∀ name field, fieldAt [name] = some [field] → field ∈ fields
  /-- `str` of the default of a field. -/
  unset : Text → Text
  /-- What other names with dots stand for, as text. -/
  scope : List Text → Option Text
  /-- What the session sends for a header that is an integer, if it takes it. -/
  intHeader : ℤ → Option Text

structure RequestMessage (type : RequestType) where
  /-- `bool(message)`: whether a field differs from its default. -/
  truthy : Bool
  /-- `str` of the field at a path of names. -/
  text : List Text → Text
  falsy : truthy = false → ∀ field, text [field] = type.unset field

structure RestCall where
  verb : HttpVerb
  path : Text
  /-- The session leaves out a parameter that is None. -/
  params : List (Text × Option Text)
  /-- `x-cosmos-block-height`. -/
  height : Option Text
  deriving DecidableEq

section Method

variable (type : RequestType) (message : RequestMessage type)

def evaluate (names : List Text) : Option Text :=
  if names.head? = some "message".toList then (type.fieldAt names.tail).map message.text else type.scope names

def evaluatePieces : List Piece → Option Text
  | [] => some []
  | .char c :: rest => (evaluatePieces rest).map (c :: ·)
  | .expression names :: rest => do
    let text ← evaluate type message names
    let more ← evaluatePieces rest
    pure (text ++ more)

/-- `"name": message.name if message else None`. -/
def queryParam (name : Text) : Option (Text × Option Text) :=
  if message.truthy then (evaluate type message ["message".toList, name]).map fun text => (name, some text)
  else some (name, none)

/-- `{"x-cosmos-block-height": height} if height else None`. -/
def restHeight : Option ℤ → Option (Option Text)
  | some height => if height = 0 then some none else (type.intHeader height).map some
  | none => some none

/-- A generated method; nothing where it raises, or its module does not compile. -/
def restMethod (pattern : HttpPattern) (height : Option ℤ) : Option RestCall := do
  let binding := oneBinding pattern
  let pieces ← parseFString none (urlPath binding)
  let params ← (queryParams type.fields binding).mapM (queryParam type message)
  let path ← evaluatePieces type message pieces
  let header ← restHeight type height
  pure ⟨.get, path, params, header⟩

end Method

/-- The gRPC wrapper's metadata: `{"x-cosmos-block-height": str(height)}` unless it is None. -/
def grpcHeight (height : Option ℤ) : Option Text := height.map fun height => (toString height).toList

end AlloraSdk.Source.Codegen
