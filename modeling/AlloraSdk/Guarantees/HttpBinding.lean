import Mathlib.Data.List.Count
import Mathlib.Data.List.Dedup
import AlloraSdk.Source.Codegen.PathTemplate

/-!
# The HTTP binding of a generated REST method

A generated method makes the request of its `google.api.http` rule, for every
message, exactly where the rule is a GET, each variable is one name that betterproto
gives the spelling of `_camel_to_snake`, each other field keeps its name, and the
height is not zero (`binding_preserved_iff`). Nothing in the template reads the verb
that the rule was decoded to, and the height is tested for truth where the gRPC
template compares it with None.
-/

namespace AlloraSdk.Guarantees

open Source.Codegen

/-! ## Where a path comes from -/

section Origins

/-- Text that no message changes, or a field. -/
inductive Origin where
  | fixed (text : Text)
  | field (path : List Text)

namespace Origin

def value (values : List Text → Text) : Origin → Text
  | .fixed text => text
  | .field path => values path

def isField : Origin → Bool
  | .fixed _ => false
  | .field _ => true

/-- Where a variable was written, anything may stand. -/
def StandsFor (x y : Origin) : Prop := x = y ∨ ∃ path, y = .field path

end Origin

def written (values : List Text → Text) (origins : List Origin) : Text := origins.flatMap (Origin.value values)

theorem written_cons (values : List Text → Text) (origin : Origin) (origins : List Origin) :
    written values (origin :: origins) = origin.value values ++ written values origins := List.flatMap_cons

variable {xs ys : List Origin}

/-- One character for each field. -/
theorem written_length (xs : List Origin) :
    (written (fun _ => ['a']) xs).length = (written (fun _ => []) xs).length + xs.countP Origin.isField := by
  induction xs with
  | nil => rfl
  | cons x xs ih =>
    rw [written_cons, written_cons, List.length_append, List.length_append, ih, List.countP_cons]
    cases x with
    | fixed text => simp [Origin.value, Origin.isField]; omega
    | field path => simp [Origin.value, Origin.isField]; omega

theorem fields_le (shape : List.Forall₂ Origin.StandsFor xs ys) :
    xs.countP Origin.isField ≤ ys.countP Origin.isField := by
  induction shape with
  | nil => exact le_rfl
  | @cons x y xs ys here rest ih =>
    rw [List.countP_cons, List.countP_cons]
    rcases here with rfl | ⟨p, rfl⟩
    · omega
    · cases x with
      | fixed text =>
        simp only [Origin.isField, Bool.false_eq_true, if_false, if_true]
        omega
      | field q =>
        simp only [Origin.isField, if_true]
        omega

/-- With as many fields, each one stands against a field. -/
theorem fields_aligned (shape : List.Forall₂ Origin.StandsFor xs ys)
    (count : xs.countP Origin.isField = ys.countP Origin.isField) :
    List.Forall₂ (fun x y => x = y ∨ ∃ q p, x = Origin.field q ∧ y = Origin.field p) xs ys := by
  induction shape with
  | nil => exact .nil
  | @cons x y xs ys here rest ih =>
    have least := fields_le rest
    rw [List.countP_cons, List.countP_cons] at count
    rcases here with rfl | ⟨p, rfl⟩
    · exact .cons (.inl rfl) (ih (by omega))
    · cases x with
      | fixed text =>
        simp only [Origin.isField, Bool.false_eq_true, if_false, if_true] at count
        omega
      | field q =>
        simp only [Origin.isField, if_true] at count
        exact .cons (.inr ⟨q, p, rfl, rfl⟩) (ih (by omega))

theorem eq_of_aligned
    (shape : List.Forall₂ (fun x y => x = y ∨ ∃ q p, x = Origin.field q ∧ y = Origin.field p) xs ys)
    (same : ∀ values, written values xs = written values ys) : xs = ys := by
  induction shape with
  | nil => rfl
  | @cons x y xs ys here rest ih =>
    have equal : x = y := by
      rcases here with rfl | ⟨q, p, rfl, rfl⟩
      · rfl
      · have whole := same fun path => if path = p then ['a'] else ['b']
        rw [written_cons, written_cons] at whole
        have first := (List.append_inj whole (by simp only [Origin.value]; split <;> split <;> rfl)).1
        simp only [Origin.value, if_pos] at first
        by_cases hit : q = p
        · rw [hit]
        · rw [if_neg hit] at first
          exact absurd first (by decide)
    subst equal
    refine congrArg _ (ih fun values => ?_)
    have whole := same values
    rw [written_cons, written_cons] at whole
    exact List.append_cancel_left whole

/-- The texts for every message tell where a path comes from. -/
theorem origins_determined (shape : List.Forall₂ Origin.StandsFor xs ys)
    (same : ∀ values, written values xs = written values ys) : xs = ys := by
  refine eq_of_aligned (fields_aligned shape ?_) same
  have long := congrArg List.length (same fun _ => ['a'])
  have short := congrArg List.length (same fun _ => [])
  rw [written_length, written_length] at long
  omega

end Origins

theorem mapM_eq_some {α β : Type} {f : α → Option β} {xs : List α} {ys : List β} :
    xs.mapM f = some ys ↔ List.Forall₂ (fun x y => f x = some y) xs ys := by
  induction xs generalizing ys with
  | nil => simp [eq_comm]
  | cons x xs ih =>
    rw [List.mapM_cons]
    cases here : f x with
    | none => cases ys <;> simp [here]
    | some y =>
      cases rest : xs.mapM f with
      | none => cases ys <;> simp [← ih, rest]
      | some more => cases ys <;> simp [← ih, rest, here]

/-! ## The path of the request -/

section Path

variable {type : RequestType} {message : RequestMessage type} {parts : List PathPart} {part : PathPart}

def resolveNames (type : RequestType) (names : List Text) : Option Origin :=
  if names.head? = some "message".toList then (type.fieldAt names.tail).map .field else (type.scope names).map .fixed

def resolvePart (type : RequestType) : PathPart → Option Origin
  | .literal c => some (.fixed [c])
  | .field path none => resolveNames type path
  | .field _ (some _) => none

def ownOrigin : PathPart → Origin
  | .literal c => .fixed [c]
  | .field path _ => .field path

theorem evaluate_eq (names : List Text) :
    evaluate type message names = (resolveNames type names).map (Origin.value message.text) := by
  unfold evaluate resolveNames
  split
  · rw [Option.map_map]
    rfl
  · cases type.scope names <;> rfl

def pieceValue (type : RequestType) (message : RequestMessage type) : Piece → Option Text
  | .char c => some [c]
  | .expression names => evaluate type message names

theorem evaluatePieces_cons (piece : Piece) (pieces : List Piece) :
    evaluatePieces type message (piece :: pieces) =
      (pieceValue type message piece).bind fun text => (evaluatePieces type message pieces).map (text ++ ·) := by
  cases piece with
  | char c => rfl
  | expression names =>
    simp only [evaluatePieces, pieceValue, bind, pure]
    cases evaluate type message names with
    | none => rfl
    | some text => cases evaluatePieces type message pieces <;> rfl

theorem piece_origin (part : PathPart) :
    (pieceOf part).bind (pieceValue type message) = (resolvePart type part).map (Origin.value message.text) := by
  cases part with
  | literal c => rfl
  | field path pattern =>
    cases pattern with
    | none => exact evaluate_eq path
    | some segments => rfl

theorem evaluated_path (formed : ∀ part ∈ parts, part.WellFormed) :
    (parseFString none (renderParts parts)).bind (evaluatePieces type message) =
      (parts.mapM (resolvePart type)).map (written message.text) := by
  induction parts with
  | nil => rfl
  | cons part parts ih =>
    have rest := ih fun part member => formed part (.tail _ member)
    have here : (pieceOf part).bind (pieceValue type message) =
      (resolvePart type part).map (Origin.value message.text) := piece_origin part
    have whole : renderParts (part :: parts) = part.render ++ renderParts parts := List.flatMap_cons
    rw [whole, parseFString_part (formed part (.head _)), List.mapM_cons]
    cases resolved : resolvePart type part with
    | none =>
      rw [resolved] at here
      cases made : pieceOf part with
      | none => rfl
      | some piece =>
        rw [made] at here
        have failed : pieceValue type message piece = none := here
        cases parseFString none (renderParts parts) with
        | none => rfl
        | some pieces => exact (evaluatePieces_cons piece pieces).trans (by rw [failed]; rfl)
    | some origin =>
      rw [resolved] at here
      cases made : pieceOf part with
      | none =>
        rw [made] at here
        cases here
      | some piece =>
        rw [made] at here
        have value : pieceValue type message piece = some (origin.value message.text) := here
        cases parsed : parseFString none (renderParts parts) with
        | none =>
          rw [parsed] at rest
          have none_left : parts.mapM (resolvePart type) = none := Option.map_eq_none_iff.mp rest.symm
          rw [none_left]
          rfl
        | some pieces =>
          rw [parsed] at rest
          have more : evaluatePieces type message pieces =
            (parts.mapM (resolvePart type)).map (written message.text) := rest
          refine (evaluatePieces_cons piece pieces).trans ?_
          rw [value, more]
          cases parts.mapM (resolvePart type) <;> rfl

/-- A variable is one name, which the snake case does not take from its field. -/
def KeepsField (type : RequestType) : PathPart → Prop
  | .literal _ => True
  | .field path pattern => ∃ name, path = [name] ∧ pattern = none ∧ type.fieldAt [camelToSnake name] = some [name]

theorem resolvePart_own (formed : part.WellFormed) :
    resolvePart type (preparePart part) = some (ownOrigin part) ↔ KeepsField type part := by
  cases part with
  | literal c => exact ⟨fun _ => trivial, fun _ => rfl⟩
  | field path pattern =>
    constructor
    · intro resolved
      rcases variableBody_cases formed with ⟨name, rfl, rfl, -⟩ | ⟨compound, -⟩
      · refine ⟨name, rfl, rfl, ?_⟩
        have found : (type.fieldAt [camelToSnake name]).map Origin.field = some (Origin.field [name]) := resolved
        obtain ⟨path, at_name, same⟩ := Option.map_eq_some_iff.mp found
        rw [at_name, Origin.field.inj same]
      · exfalso
        rw [preparePart, compound] at resolved
        cases pattern with
        | some segments => cases resolved
        | none =>
          change resolveNames type path = some (.field path) at resolved
          unfold resolveNames at resolved
          split at resolved
          · obtain ⟨inner, at_path, same⟩ := Option.map_eq_some_iff.mp resolved
            have short := type.depth _ _ at_path
            rw [Origin.field.inj same, List.length_tail] at short
            have long : path.length ≠ 0 := mt List.length_eq_zero_iff.mp formed.1
            omega
          · obtain ⟨text, -, same⟩ := Option.map_eq_some_iff.mp resolved
            cases same
    · rintro ⟨name, rfl, rfl, found⟩
      change (type.fieldAt [camelToSnake name]).map Origin.field = some (.field [name])
      rw [found]
      rfl

end Path

/-! ## The parameters of the request -/

section Query

variable {type : RequestType} {message : RequestMessage type} {fields names : List Text} {binding : HttpBinding}

theorem mem_queryParams {field : Text} :
    field ∈ queryParams fields binding ↔ field ∈ fields ∧ field ∉ binding.pathParams := by
  unfold queryParams
  rw [List.mem_insertionSort, List.mem_filter, List.mem_dedup, Bool.not_eq_true', List.contains_eq_mem,
    decide_eq_false_iff_not]

theorem queryParams_nodup : (queryParams fields binding).Nodup := by
  unfold queryParams
  exact (List.perm_insertionSort _ _).nodup_iff.mpr ((List.nodup_dedup fields).filter _)

theorem queryParam_truthy (truthy : message.truthy = true) (name : Text) :
    queryParam type message name = (type.fieldAt [name]).map fun path => (name, some (message.text path)) := by
  unfold queryParam
  rw [if_pos truthy, evaluate, List.head?_cons, if_pos rfl, List.tail_cons, Option.map_map]
  rfl

theorem asked_of_mem {params : List (Text × Option Text)} {name : Text}
    (asked : List.Forall₂ (fun name param => queryParam type message name = some param) names params)
    (member : name ∈ names) : ∃ param ∈ params, queryParam type message name = some param := by
  induction asked with
  | nil => cases member
  | cons here rest ih =>
    rcases List.mem_cons.mp member with rfl | later
    · exact ⟨_, .head _, here⟩
    · obtain ⟨param, among, answer⟩ := ih later
      exact ⟨param, .tail _ among, answer⟩

/-- The parameters, where each field keeps its name. -/
theorem params_kept (kept : ∀ name ∈ names, type.fieldAt [name] = some [name]) :
    names.mapM (queryParam type message) =
      some (names.map fun name => (name, if message.truthy then some (message.text [name]) else none)) := by
  rw [mapM_eq_some, List.forall₂_map_right_iff, List.forall₂_same]
  intro name member
  cases truthy : message.truthy with
  | false =>
    unfold queryParam
    rw [truthy]
    rfl
  | true =>
    rw [queryParam_truthy truthy, kept name member]
    rfl

end Query

/-! ## The request -/

/-- A rule whose path is a template. -/
structure HttpRoute where
  pattern : HttpPattern
  template : PathTemplate
  path : pattern.path = renderParts template.parts

/-- The template with the text of each variable in its place. -/
def substitute (values : List Text → Text) (template : PathTemplate) : Text :=
  template.parts.flatMap fun
    | .literal c => [c]
    | .field path _ => values path

namespace HttpRoute

def fieldPaths (route : HttpRoute) : List (List Text) :=
  route.template.parts.filterMap fun
    | .literal _ => none
    | .field path _ => some path

end HttpRoute

section Request

variable (route : HttpRoute) (type : RequestType) (message : RequestMessage type) (height : Option ℤ)

/-- The request of the rule. A field is a variable of the path or a parameter, which is
left out only where the field has its default. -/
structure PreservesBinding (call : RestCall) : Prop where
  verb : call.verb = route.pattern.verb
  path : call.path = substitute message.text route.template
  once : ∀ field ∈ type.fields, route.fieldPaths.count [field] + (call.params.map Prod.fst).count field = 1
  carried : ∀ param ∈ call.params, param.2 = some (message.text [param.1]) ∨
    param.2 = none ∧ message.text [param.1] = type.unset param.1
  height : call.height = grpcHeight height

/-- When the generated method makes it. -/
structure FaithfulBinding : Prop where
  verb : route.pattern.verb = .get
  simple : ∀ part ∈ route.template.parts, KeepsField type part
  distinct : route.fieldPaths.Nodup
  /-- The other fields have their own names in Python. -/
  query : ∀ field ∈ type.fields, [field] ∉ route.fieldPaths → type.fieldAt [field] = some [field]
  /-- The height is not zero, and the session takes it as an integer. -/
  height : height = none ∨ ∃ h ≠ 0, height = some h ∧ type.intHeader h = some (toString h).toList

variable {route type message height} {call : RestCall}

theorem substitute_eq (values : List Text → Text) :
    substitute values route.template = written values (route.template.parts.map ownOrigin) := by
  unfold substitute written
  rw [List.flatMap_map]
  refine List.flatMap_congr fun part _ => ?_
  cases part <;> rfl

theorem route_pathParams : (oneBinding route.pattern).pathParams = route.template.parts.filterMap simpleName := by
  have found : (oneBinding route.pattern).pathParams = findParams none route.pattern.path := rfl
  rw [found, route.path, findParams_renderParts route.template.formed]

theorem route_urlPath : urlPath (oneBinding route.pattern) = renderParts (route.template.parts.map preparePart) :=
  urlPath_of route.template.formed route.path route_pathParams

theorem route_path (route : HttpRoute) (message : RequestMessage type) :
    (parseFString none (urlPath (oneBinding route.pattern))).bind (evaluatePieces type message) =
      ((route.template.parts.map preparePart).mapM (resolvePart type)).map (written message.text) := by
  rw [route_urlPath]
  refine evaluated_path fun part member => ?_
  obtain ⟨original, among, rfl⟩ := List.mem_map.mp member
  exact preparePart_formed (route.template.formed original among)

/-- What a call of the generated method is made of. -/
theorem restMethod_iff : restMethod type message route.pattern height = some call ↔
    ∃ origins params header, (route.template.parts.map preparePart).mapM (resolvePart type) = some origins ∧
      (queryParams type.fields (oneBinding route.pattern)).mapM (queryParam type message) = some params ∧
      restHeight type height = some header ∧ call = ⟨.get, written message.text origins, params, header⟩ := by
  have path := route_path route message
  constructor
  · intro made
    simp only [restMethod, Option.bind_eq_bind, Option.bind_eq_some_iff, pure] at made
    obtain ⟨pieces, parsed, params, asked, text, evaluated, header, sent, built⟩ := made
    rw [parsed] at path
    obtain ⟨origins, resolved, same⟩ := Option.map_eq_some_iff.mp (path.symm.trans evaluated)
    exact ⟨origins, params, header, resolved, asked, sent, by rw [same]; exact (Option.some.inj built).symm⟩
  · rintro ⟨origins, params, header, resolved, asked, sent, rfl⟩
    rw [resolved] at path
    obtain ⟨pieces, parsed, evaluated⟩ := Option.bind_eq_some_iff.mp path
    simp only [restMethod, Option.bind_eq_bind, Option.bind_eq_some_iff, pure]
    exact ⟨pieces, parsed, params, asked, _, evaluated, header, sent, rfl⟩

/-- A message with a field that is set, and these texts. -/
def filled (type : RequestType) (values : List Text → Text) : RequestMessage type := ⟨true, values, nofun⟩

theorem resolved_shape {parts : List PathPart} {origins : List Origin}
    (resolved : List.Forall₂ (fun part origin => resolvePart type (preparePart part) = some origin) parts origins) :
    List.Forall₂ Origin.StandsFor origins (parts.map ownOrigin) := by
  induction resolved with
  | nil => exact .nil
  | @cons part origin parts origins here rest ih =>
    refine .cons ?_ ih
    cases part with
    | literal c =>
      have same : some (Origin.fixed [c]) = some origin := here
      exact .inl (Option.some.inj same).symm
    | field path pattern => exact .inr ⟨path, rfl⟩

/-- A path that is right for every message comes from the variables themselves. -/
theorem path_own (every : ∀ values, ∃ call, restMethod type (filled type values) route.pattern height = some call ∧
    call.path = substitute values route.template) :
    ∀ part ∈ route.template.parts, resolvePart type (preparePart part) = some (ownOrigin part) := by
  obtain ⟨_, made, -⟩ := every fun _ => []
  obtain ⟨origins, -, -, resolved, -⟩ := restMethod_iff.mp made
  have same : ∀ values, written values origins = written values (route.template.parts.map ownOrigin) := by
    intro values
    obtain ⟨call, made', right⟩ := every values
    obtain ⟨origins', _, _, resolved', -, -, rfl⟩ := restMethod_iff.mp made'
    obtain rfl : origins = origins' := Option.some.inj (resolved.symm.trans resolved')
    exact right.trans (substitute_eq values)
  have aligned := mapM_eq_some.mp resolved
  rw [List.forall₂_map_left_iff] at aligned
  rw [origins_determined (resolved_shape aligned) same, List.forall₂_map_right_iff, List.forall₂_same] at aligned
  exact aligned

/-- A template of single names has its parameters as its variables. -/
theorem fieldPaths_simple (simple : ∀ part ∈ route.template.parts, KeepsField type part) :
    route.fieldPaths = (oneBinding route.pattern).pathParams.map ([·]) := by
  rw [route_pathParams, List.map_filterMap]
  refine List.filterMap_congr fun part member => ?_
  cases part with
  | literal c => rfl
  | field path pattern =>
    obtain ⟨name, rfl, rfl, -⟩ := simple _ member
    rfl

theorem singleton_injective : Function.Injective fun name : Text => [name] := fun _ _ same => (List.cons.inj same).1

/-- Each field is found once, in the path or among the parameters. -/
theorem field_once {params : List Text} {field : Text} (declared : field ∈ type.fields) (distinct : params.Nodup)
    (found : (oneBinding route.pattern).pathParams = params) :
    (params.map ([·])).count [field] + (queryParams type.fields (oneBinding route.pattern)).count field = 1 := by
  rw [List.count_map_of_injective params _ singleton_injective]
  by_cases inPath : field ∈ params
  · have absent : field ∉ queryParams type.fields (oneBinding route.pattern) := fun member =>
      (mem_queryParams.mp member).2 (found ▸ inPath)
    rw [List.count_eq_one_of_mem distinct inPath, List.count_eq_zero.mpr absent]
  · have present : field ∈ queryParams type.fields (oneBinding route.pattern) :=
      mem_queryParams.mpr ⟨declared, found ▸ inPath⟩
    rw [List.count_eq_one_of_mem queryParams_nodup present, List.count_eq_zero.mpr inPath]

theorem restHeight_iff : restHeight type height = some (grpcHeight height) ↔
    height = none ∨ ∃ h ≠ 0, height = some h ∧ type.intHeader h = some (toString h).toList := by
  cases height with
  | none => exact ⟨fun _ => .inl rfl, fun _ => rfl⟩
  | some h =>
    by_cases zero : h = 0
    · subst zero
      refine ⟨fun same => ?_, fun either => ?_⟩
      · have dropped : (none : Option Text) = grpcHeight (some 0) := Option.some.inj same
        cases dropped
      · rcases either with absent | ⟨other, nonzero, same, -⟩
        · cases absent
        · exact absurd (Option.some.inj same).symm nonzero
    · simp only [restHeight, if_neg zero, grpcHeight, Option.map_some]
      constructor
      · intro same
        obtain ⟨text, sent, shown⟩ := Option.map_eq_some_iff.mp same
        exact .inr ⟨h, zero, rfl, by rw [sent, shown]⟩
      · rintro (absent | ⟨other, -, same, sent⟩)
        · cases absent
        · rw [← Option.some.inj same] at sent
          rw [sent, Option.map_some]

/-- A variable that occurs once more would carry its field once more. -/
theorem fieldPaths_nodup (simple : ∀ part ∈ route.template.parts, KeepsField type part)
    (most : ∀ field ∈ type.fields, route.fieldPaths.count [field] ≤ 1) : route.fieldPaths.Nodup := by
  have variables_eq := fieldPaths_simple simple
  rw [variables_eq] at most ⊢
  refine List.Nodup.map singleton_injective (List.nodup_iff_count_le_one.mpr fun name => ?_)
  by_cases inPath : name ∈ (oneBinding route.pattern).pathParams
  · rw [route_pathParams] at inPath
    obtain ⟨part, member, named⟩ := List.mem_filterMap.mp inPath
    have keeps := simple part member
    rw [simpleName_some named] at keeps
    obtain ⟨_, same, -, found⟩ := keeps
    rw [← (List.cons.inj same).1] at found
    have once := most name (type.declared _ _ found)
    rwa [List.count_map_of_injective _ _ singleton_injective] at once
  · rw [List.count_eq_zero.mpr inPath]
    exact Nat.zero_le 1

/-- A parameter that carries its field for every message reads the field of its name. -/
theorem query_kept {field : Text} (inQuery : field ∈ queryParams type.fields (oneBinding route.pattern))
    (every : ∀ values, ∃ call, restMethod type (filled type values) route.pattern height = some call ∧
      ∀ param ∈ call.params, param.2 = some (values [param.1]) ∨
        param.2 = none ∧ values [param.1] = type.unset param.1) :
    type.fieldAt [field] = some [field] := by
  obtain ⟨call, made, carries⟩ := every fun path => if path = [field] then ['a'] else ['b']
  obtain ⟨_, params, _, -, asked, -, rfl⟩ := restMethod_iff.mp made
  obtain ⟨param, among, answer⟩ := asked_of_mem (mapM_eq_some.mp asked) inQuery
  rw [queryParam_truthy rfl] at answer
  obtain ⟨path, found, rfl⟩ := Option.map_eq_some_iff.mp answer
  rcases carries _ among with carried | ⟨absent, -⟩
  · have told := Option.some.inj carried
    simp only [filled, if_pos] at told
    by_cases same : path = [field]
    · rwa [same] at found
    · rw [if_neg same] at told
      exact absurd told (by decide)
  · cases absent

/-- A method that makes the request of its rule for every message is faithful. -/
theorem faithful_of_preserved
    (every : ∀ message, ∃ call, restMethod type message route.pattern height = some call ∧
      PreservesBinding route type message height call) : FaithfulBinding route type height := by
  have paths : ∀ part ∈ route.template.parts, resolvePart type (preparePart part) = some (ownOrigin part) :=
    path_own fun values => by
      obtain ⟨call, made, keeps⟩ := every (filled type values)
      exact ⟨call, made, keeps.path⟩
  have simple : ∀ part ∈ route.template.parts, KeepsField type part := fun part member =>
    (resolvePart_own (route.template.formed part member)).mp (paths part member)
  obtain ⟨call, made, keeps⟩ := every (filled type fun _ => [])
  obtain ⟨origins, params, header, -, asked, sent, rfl⟩ := restMethod_iff.mp made
  refine ⟨keeps.verb.symm, simple, ?_, ?_, ?_⟩
  · refine fieldPaths_nodup simple fun field declared => ?_
    have once := keeps.once field declared
    omega
  · intro field declared outside
    have inQuery : field ∈ queryParams type.fields (oneBinding route.pattern) := by
      refine mem_queryParams.mpr ⟨declared, fun inPath => outside ?_⟩
      rw [fieldPaths_simple simple]
      exact List.mem_map_of_mem inPath
    have carries : ∀ values, ∃ call, restMethod type (filled type values) route.pattern height = some call ∧
        ∀ param ∈ call.params, param.2 = some (values [param.1]) ∨
          param.2 = none ∧ values [param.1] = type.unset param.1 := by
      intro values
      obtain ⟨call, made, keeps⟩ := every (filled type values)
      exact ⟨call, made, keeps.carried⟩
    exact query_kept inQuery carries
  · have same : header = grpcHeight height := keeps.height
    exact restHeight_iff.mp (same ▸ sent)

/-- A faithful method makes the request of its rule. -/
theorem preserved_of_faithful (faithful : FaithfulBinding route type height) (message : RequestMessage type) :
    ∃ call, restMethod type message route.pattern height = some call ∧
      PreservesBinding route type message height call := by
  have variables_eq := fieldPaths_simple faithful.simple
  have resolved : (route.template.parts.map preparePart).mapM (resolvePart type) =
      some (route.template.parts.map ownOrigin) := by
    rw [mapM_eq_some, List.forall₂_map_left_iff, List.forall₂_map_right_iff, List.forall₂_same]
    exact fun part member =>
      (resolvePart_own (route.template.formed part member)).mpr (faithful.simple part member)
  have kept : ∀ name ∈ queryParams type.fields (oneBinding route.pattern), type.fieldAt [name] = some [name] := by
    intro name member
    obtain ⟨declared, outside⟩ := mem_queryParams.mp member
    refine faithful.query name declared fun inPath => outside ?_
    rw [variables_eq] at inPath
    obtain ⟨other, among, same⟩ := List.mem_map.mp inPath
    rwa [← (List.cons.inj same).1]
  refine ⟨_, restMethod_iff.mpr ⟨_, _, _, resolved, params_kept kept, restHeight_iff.mpr faithful.height, rfl⟩, ?_⟩
  refine ⟨faithful.verb.symm, (substitute_eq message.text).symm, ?_, ?_, rfl⟩
  · intro field declared
    have distinct := faithful.distinct
    rw [variables_eq] at distinct ⊢
    have names : ((queryParams type.fields (oneBinding route.pattern)).map fun name =>
        (name, if message.truthy then some (message.text [name]) else none)).map Prod.fst =
        queryParams type.fields (oneBinding route.pattern) := by
      rw [List.map_map]
      exact List.map_id _
    rw [names]
    exact field_once declared (distinct.of_map _) rfl
  · intro param member
    obtain ⟨name, -, rfl⟩ := List.mem_map.mp member
    cases truthy : message.truthy with
    | true => exact .inl rfl
    | false => exact .inr ⟨rfl, message.falsy truthy name⟩

/-- A generated method makes the request of its rule for every message exactly when
its binding is faithful. -/
theorem binding_preserved_iff (route : HttpRoute) (type : RequestType) (height : Option ℤ) :
    (∀ message, ∃ call, restMethod type message route.pattern height = some call ∧
      PreservesBinding route type message height call) ↔ FaithfulBinding route type height :=
  ⟨faithful_of_preserved, preserved_of_faithful⟩

end Request

/-! ## A stakes query -/

section StakesQuery

/-- A message whose fields keep their names, in a session that takes integers. -/
def flatType (fields : List Text) (distinct : fields.Nodup) : RequestType where
  fields := fields
  distinct := distinct
  fieldAt
    | [name] => if fields.contains name then some [name] else none
    | _ => none
  depth names path found := by
    split at found
    · split at found
      · rw [← Option.some.inj found]
      · cases found
    · cases found
  declared name field found := by
    change (if fields.contains name then some [name] else none) = some [field] at found
    split at found
    · rename_i declared
      rw [← (List.cons.inj (Option.some.inj found)).1]
      exact List.contains_iff_mem.mp declared
    · cases found
  unset _ := []
  scope _ := none
  intHeader height := some (toString height).toList

def stakesType : RequestType := flatType ["topic_id".toList] (List.nodup_singleton _)

/-- `/reputers_stakes/` and a variable. -/
def stakesTemplate (path : List Text) (pattern : Option Text)
    (formed : (PathPart.field path pattern).WellFormed) : PathTemplate where
  parts := "/reputers_stakes/".toList.map .literal ++ [.field path pattern]
  formed part member := by
    rcases List.mem_append.mp member with literal | last
    · have all : ∀ part ∈ "/reputers_stakes/".toList.map PathPart.literal, part.WellFormed := by decide
      exact all part literal
    · rw [List.mem_singleton.mp last]
      exact formed

def topicSeven : RequestMessage stakesType := filled stakesType fun _ => ['7']

theorem topic_formed : (PathPart.field ["topic_id".toList] none).WellFormed := by decide

def stakesPath : Text := "/reputers_stakes/{topic_id}".toList

/-- The path of the rule, for the verb that the generator reads. -/
def stakesRoute (verb : Text → HttpPattern) (kept : (verb stakesPath).path = stakesPath) : HttpRoute where
  pattern := verb stakesPath
  template := stakesTemplate ["topic_id".toList] none topic_formed
  path := kept.trans (by decide)

/-- At the latest height the query is what its rule says. -/
example : FaithfulBinding (stakesRoute .get rfl) stakesType none where
  verb := rfl
  simple part member := by
    rcases List.mem_append.mp member with literal | last
    · obtain ⟨c, -, rfl⟩ := List.mem_map.mp literal
      trivial
    · rw [List.mem_singleton.mp last]
      have kept : stakesType.fieldAt [camelToSnake "topic_id".toList] = some ["topic_id".toList] := by decide +kernel
      exact ⟨_, rfl, rfl, kept⟩
  distinct := by decide +kernel
  query field declared outside := by
    have only : field = "topic_id".toList := List.mem_singleton.mp declared
    rw [only] at outside
    have inPath : ["topic_id".toList] ∈ (stakesRoute .get rfl).fieldPaths := by decide +kernel
    exact absurd inPath outside
  height := .inl rfl

/-- Height zero is left out, though the gRPC wrapper sends it; a POST becomes a GET; and a
method with a variable of a nested field, or with a wildcard, does not run. -/
theorem binding_lost :
    restMethod stakesType topicSeven (.get stakesPath) (some 0) =
        some ⟨.get, "/reputers_stakes/7".toList, [], none⟩ ∧
      (¬ ∃ call, restMethod stakesType topicSeven (stakesRoute .get rfl).pattern (some 0) = some call ∧
        PreservesBinding (stakesRoute .get rfl) stakesType topicSeven (some 0) call) ∧
      (¬ ∃ call, restMethod stakesType topicSeven (stakesRoute .post rfl).pattern none = some call ∧
        PreservesBinding (stakesRoute .post rfl) stakesType topicSeven none call) ∧
      restMethod stakesType topicSeven (.get "/reputers_stakes/{topic.id}".toList) none = none ∧
      restMethod stakesType topicSeven (.get "/reputers_stakes/{topic_id=**}".toList) none = none := by
  have zero : restMethod stakesType topicSeven (.get stakesPath) (some 0) =
      some ⟨.get, "/reputers_stakes/7".toList, [], none⟩ := by decide +kernel
  have post : restMethod stakesType topicSeven (.post stakesPath) none =
      some ⟨.get, "/reputers_stakes/7".toList, [], none⟩ := by decide +kernel
  refine ⟨zero, ?_, ?_, by decide +kernel, by decide +kernel⟩
  · rintro ⟨call, made, keeps⟩
    obtain rfl := Option.some.inj (zero.symm.trans made)
    have same : none = grpcHeight (some 0) := keeps.height
    cases same
  · rintro ⟨call, made, keeps⟩
    obtain rfl := Option.some.inj (post.symm.trans made)
    have same : HttpVerb.get = HttpVerb.post := keeps.verb
    cases same

end StakesQuery

end AlloraSdk.Guarantees
