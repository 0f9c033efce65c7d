import WorldQuery.Query.MetaDepth
import WorldQuery.Query.Overlap
import WorldQuery.Query.ScalarLiteral

/-!
# Validation

A document is executed only if it makes sense for the schema: names are known and used once,
fragments are used, end and fit where they are spread, leaves have no selections and objects have
some, arguments are known, given where required and of the right type, and variables are declared,
used, and allowed where they stand. `findings` goes through a document in the order of its text and
lists every breach of a rule, and the sets of selections whose fields have to be compared; `review`
compares them. A document is `valid` if there is no breach and the comparisons came to an end.
-/

namespace WorldQuery.Query

inductive Rule where
  /-- Only operations and fragments can be executed. -/
  | executable
  | distinctOperations
  /-- An operation without a name stands alone. -/
  | loneOperation
  | knownType
  /-- Fragments and groups are on objects or unions. -/
  | compositeType
  /-- Variables are scalars or enumerations. -/
  | inputType
  /-- A leaf has no selections, any other field has some. -/
  | selections
  | knownField
  | distinctFragments
  | knownFragment
  | usedFragment
  /-- A fragment can apply where it stands. -/
  | applicableFragment
  /-- No fragment leads to itself. -/
  | endlessFragment
  | distinctVariables
  | declaredVariable
  | usedVariable
  | variablePosition
  | knownDirective
  | directivePosition
  | distinctDirectives
  | knownArgument
  | distinctArguments
  | requiredArgument
  /-- A literal fits its type. -/
  | fittingLiteral
  | distinctMembers
  /-- Fields that answer to one name can be merged. -/
  | mergeable
  | metaDepth
  deriving DecidableEq, Repr

/-- A breach of a rule, unless it holds. -/
def demand (holds : Bool) (rule : Rule) : List Rule := if holds then [] else [rule]

/-- The names that occur more than once. -/
def repeated (names : List String) : List String :=
  names.eraseDups.filter fun name => 1 < names.count name

/-- The number of names that have occurred before. -/
def repeats (names : List String) : Nat := names.length - names.eraseDups.length

/-- Two composite types have an object type in common. -/
def overlap (a b : TypeDef) : Bool :=
  a.name == b.name || (Schema.possible a).any (Schema.possible b).contains

def directiveDef? (name : String) : Option DirectiveDef :=
  DirectiveDef.all.find? (·.name == name)

mutual

/-- Members that have occurred before in their object, at any depth of a literal. -/
def memberBreaches : Literal → List Rule
  | .list items => itemMemberBreaches items
  | .object fields =>
    List.replicate (repeats (fields.map (·.1))) .distinctMembers ++ fieldMemberBreaches fields
  | _ => []

def itemMemberBreaches : List Literal → List Rule
  | [] => []
  | l :: rest => memberBreaches l ++ itemMemberBreaches rest

def fieldMemberBreaches : List (String × Literal) → List Rule
  | [] => []
  | (_, l) :: rest => memberBreaches l ++ fieldMemberBreaches rest

end

/-- A literal without parts fits a leaf type. -/
def leafFits (s : Schema) (name : String) (l : Literal) : Bool :=
  match Scalar.ofName? name with
  | some kind => (l.asScalar kind).isOk
  | none =>
    match s.lookup name, l with
    | some (.enum _ _ values), .enum word => values.any (·.1 == word)
    | _, _ => false

mutual

/-- Literals that do not fit a type; variables are checked elsewhere. -/
def literalBreaches (s : Schema) (type : TypeExpr) : Literal → List Rule
  | .variable _ => []
  | .null => demand (!type.isNonNull) .fittingLiteral
  | .list items =>
    match type.nullable with
    | .list item => itemBreaches s item items
    | t => demand (leafFits s t.base (.list items)) .fittingLiteral
  | l => demand (leafFits s type.base l) .fittingLiteral

def itemBreaches (s : Schema) (type : TypeExpr) : List Literal → List Rule
  | [] => []
  | l :: rest => literalBreaches s type l ++ itemBreaches s type rest

end

/-- Breaches in arguments: repeated names, unknown names and literals that do not fit. Without
definitions names and types are not looked at. -/
def argumentBreaches (s : Schema) (defs? : Option (List ArgDef)) (arguments : List Argument) :
    List Rule :=
  (repeated (arguments.map (·.name))).map (fun _ => .distinctArguments) ++
    arguments.flatMap fun a =>
      memberBreaches a.value ++
        match defs? with
        | none => []
        | some defs =>
          match defs.find? (·.name == a.name) with
          | some d => literalBreaches s d.type a.value
          | none => [.knownArgument]

def missingArguments (defs : List ArgDef) (arguments : List Argument) : List Rule :=
  defs.flatMap fun d =>
    demand (!d.isRequired || arguments.any (·.name == d.name)) .requiredArgument

def directiveBreaches (s : Schema) (location : String) (d : Directive) : List Rule :=
  match directiveDef? d.name with
  | none => .knownDirective :: argumentBreaches s none d.arguments
  | some x =>
    demand (x.locations.contains location) .directivePosition ++
      argumentBreaches s (some x.args) d.arguments ++ missingArguments x.args d.arguments

def directivesBreaches (s : Schema) (location : String) (ds : List Directive) : List Rule :=
  let known := (ds.map (·.name)).filter fun name => (directiveDef? name).isSome
  List.replicate (repeats known) .distinctDirectives ++ ds.flatMap (directiveBreaches s location)

def fieldBreaches (s : Schema) (doc : Document) (parent : Option TypeDef)
    (def? : Option FieldDef) (name : String) (selections : List Selection) : List Rule :=
  demand (parent.isNone || def?.isSome) .knownField ++
    (match def?.bind fun f => s.lookup f.type.base with
    | some t => demand (t.isLeaf == selections.isEmpty) .selections
    | none => []) ++
    demand (!MetaDepth.exceeds doc name selections) .metaDepth

/-- Whether a fragment for a type can apply in another. -/
def applicable (parent inner : Option TypeDef) : Bool :=
  match parent, inner with
  | some p, some t => overlap p t
  | _, _ => true

/-- A type that a fragment is on: known, and an object or union. -/
def conditionBreaches (s : Schema) (name : String) : List Rule :=
  match s.lookup name with
  | none => [.knownType]
  | some t => demand t.isComposite .compositeType

def siteBreaches (s : Schema) (doc : Document) : Site → List Rule
  | .set _ _ _ => []
  | .field parent def? name arguments directives selections =>
    fieldBreaches s doc parent def? name selections ++
      argumentBreaches s (def?.map (·.args)) arguments ++ directivesBreaches s "FIELD" directives
  | .left def? arguments => missingArguments ((def?.map (·.args)).getD []) arguments
  | .spread parent fragment directives =>
    (match doc.fragment? fragment with
    | none => [.knownFragment]
    | some f => demand (applicable parent (compositeType s f.type)) .applicableFragment) ++
      directivesBreaches s "FRAGMENT_SPREAD" directives
  | .group parent type? directives =>
    (match type? with
    | none => []
    | some name =>
      conditionBreaches s name ++
        demand (applicable parent (compositeType s name)) .applicableFragment) ++
      directivesBreaches s "INLINE_FRAGMENT" directives

/-- A variable where it stands, with the type expected there if that is known, and whether there is
a default value in its place. -/
structure Usage where
  name : String
  type? : Option TypeExpr
  hasDefault : Bool

mutual

def usages (type? : Option TypeExpr) (hasDefault : Bool) : Literal → List Usage
  | .variable name => [⟨name, type?, hasDefault⟩]
  | .list items =>
    usagesOfItems (type?.map fun t => match t.nullable with
      | .list item => item
      | other => other) items
  | .object fields => usagesOfFields fields
  | _ => []

def usagesOfItems (type? : Option TypeExpr) : List Literal → List Usage
  | [] => []
  | l :: rest => usages type? false l ++ usagesOfItems type? rest

def usagesOfFields : List (String × Literal) → List Usage
  | [] => []
  | (_, l) :: rest => usages none false l ++ usagesOfFields rest

end

def argumentUsages (defs : List ArgDef) (arguments : List Argument) : List Usage :=
  arguments.flatMap fun a =>
    match defs.find? (·.name == a.name) with
    | some d => usages (some d.type) d.default?.isSome a.value
    | none => usages none false a.value

def directiveUsages (ds : List Directive) : List Usage :=
  ds.flatMap fun d =>
    argumentUsages (((directiveDef? d.name).map (·.args)).getD []) d.arguments

def siteUsages (site : Site) : List Usage :=
  (match site with
    | .field _ def? _ arguments _ _ => argumentUsages ((def?.map (·.args)).getD []) arguments
    | _ => []) ++ directiveUsages site.directives

def Operation.usages (s : Schema) (doc : Document) (op : Operation) : List Usage :=
  directiveUsages op.directives ++ (op.sites s []).flatMap siteUsages ++
    (op.fragments doc).flatMap fun f =>
      directiveUsages f.directives ++ (f.sites s []).flatMap siteUsages

/-- A type is at least as strict as another. -/
def subtype : TypeExpr → TypeExpr → Bool
  | .nonNull a, .nonNull b => subtype a b
  | _, .nonNull _ => false
  | .nonNull a, b => subtype a b
  | .list a, .list b => subtype a b
  | .named a, .named b => a == b
  | _, _ => false

/-- Whether a default value is there and is not null. -/
def hasDefault (v : VariableDef) : Bool :=
  match v.default? with
  | none => false
  | some .null => false
  | some _ => true

/-- A variable may stand where a type is expected. A default value, of the variable or of its place,
makes up for a type that may be null. -/
def usageAllowed (v : VariableDef) (expected : TypeExpr) (placeHasDefault : Bool) : Bool :=
  match expected with
  | .nonNull inner =>
    if v.type.isNonNull then subtype v.type expected
    else (hasDefault v || placeHasDefault) && subtype v.type inner
  | _ => subtype v.type expected

def VariableDef.isTyped (s : Schema) (v : VariableDef) : Bool := (s.lookup v.type.base).isSome

def variableBreaches (s : Schema) (v : VariableDef) : List Rule :=
  (match s.lookup v.type.base with
    | none => [.knownType]
    | some t => demand t.isLeaf .inputType) ++
    (match v.default? with
    | none => []
    | some l => memberBreaches l ++ if v.isTyped s then literalBreaches s v.type l else []) ++
    directivesBreaches s "VARIABLE_DEFINITION" v.directives

/-- Breaches in the use of variables: each is declared, used, and allowed where it stands. -/
def usageBreaches (s : Schema) (doc : Document) (op : Operation) : List Rule :=
  let used := op.usages s doc
  let declared? (name : String) : Option VariableDef :=
    op.declared.reverse.find? (·.name == name)
  used.flatMap (fun u =>
    match declared? u.name, u.type? with
    | none, _ => [.declaredVariable]
    | some v, some type =>
      demand (!v.isTyped s || usageAllowed v type u.hasDefault) .variablePosition
    | some _, none => []) ++
    op.declared.flatMap fun v => demand (used.any (·.name == v.name)) .usedVariable

def OperationKind.location : OperationKind → String
  | .query => "QUERY"
  | .mutation => "MUTATION"
  | .subscription => "SUBSCRIPTION"

/-- What is found on the way through a document. -/
inductive Finding where
  | breach (rule : Rule)
  /-- A set of selections whose fields have to be compared. -/
  | comparison (place : Place) (parent : Option TypeDef) (selections : List Selection)

def siteFindings (s : Schema) (doc : Document) (all : List Site) : List Finding :=
  all.flatMap fun
    | .set place parent selections => [.comparison place parent selections]
    | site => (siteBreaches s doc site).map .breach

/-- What is found in an operation, after some definitions. -/
def operationFindings (s : Schema) (doc earlier : Document) (op : Operation) : List Finding :=
  let before :=
    (match op.name? with
      | some name => demand (earlier.operations.all (·.name? != some name)) .distinctOperations
      | none => demand (doc.operations.length ≤ 1) .loneOperation) ++
      (repeated (op.declared.map (·.name))).map (fun _ => .distinctVariables) ++
      op.declared.flatMap (variableBreaches s) ++
      directivesBreaches s op.kind.location op.directives
  before.map .breach ++ siteFindings s doc (op.sites s [earlier.length]) ++
    (usageBreaches s doc op).map .breach

/-- The number of spreads that lead from a fragment back to one of those that are open, and the
fragments that were visited. The first argument bounds the number of open fragments. -/
def returns (doc : Document) : Nat → List String → List String → String → Nat × List String
  | 0, _, visited, _ => (0, visited)
  | room + 1, opened, visited, name =>
    if visited.contains name then (0, visited)
    else
      let opened := name :: opened
      (doc.spreadsIn name).foldl
        (fun (count, visited) spread =>
          if opened.contains spread then (count + 1, visited)
          else if (doc.fragment? spread).isSome then
            let (more, visited) := returns doc room opened visited spread
            (count + more, visited)
          else (count, visited))
        (0, name :: visited)

/-- The fragments that were visited by the time some definitions have been passed. -/
def visitedIn (doc : Document) (earlier : Document) : List String :=
  earlier.fragments.foldl
    (fun visited f => (returns doc (doc.fragments.length + 1) [] visited f.name).2) []

/-- What is found in a fragment, after some definitions. -/
def fragmentFindings (s : Schema) (doc earlier : Document) (f : Fragment) : List Finding :=
  let cycles := (returns doc (doc.fragments.length + 1) [] (visitedIn doc earlier) f.name).1
  let before :=
    demand (earlier.fragments.all (·.name != f.name)) .distinctFragments ++
      List.replicate cycles .endlessFragment ++ conditionBreaches s f.type ++
      directivesBreaches s "FRAGMENT_DEFINITION" f.directives
  before.map .breach ++ siteFindings s doc (f.sites s [earlier.length])

def definitionFindings (s : Schema) (doc earlier : Document) : Document → List Finding
  | [] => []
  | d :: rest =>
    (match d with
    | .operation op => operationFindings s doc earlier op
    | .fragment f => fragmentFindings s doc earlier f
    | .typeSystem => []) ++ definitionFindings s doc (earlier ++ [d]) rest

/-- The definitions that cannot be executed. -/
def executableBreaches (doc : Document) : List Rule :=
  doc.flatMap fun
    | .typeSystem => [.executable]
    | _ => []

/-- The fragments that no operation uses. -/
def unusedBreaches (doc : Document) : List Rule :=
  let used := doc.operations.flatMap fun op => reachable doc op.selections
  doc.fragments.flatMap fun f => demand (used.contains f.name) .usedFragment

def findings (s : Schema) (doc : Document) : List Finding :=
  (executableBreaches doc).map .breach ++ definitionFindings s doc [] doc ++
    (unusedBreaches doc).map .breach

/-- The breaches in a document, and whether too many pairs of fields had to be compared. Then the
breaches after that are missing. -/
structure Review where
  breaches : List Rule
  exhausted : Bool

/-- Compares the fields in what was found. -/
def reviewFrom (x : Scene) (p : Progress) : List Finding → Review
  | [] => ⟨[], false⟩
  | .breach rule :: rest =>
    let review := reviewFrom x p rest
    { review with breaches := rule :: review.breaches }
  | .comparison place parent selections :: rest =>
    match (conflictsIn x place parent selections).run p with
    | none => ⟨[], true⟩
    | some (n, p) =>
      let review := reviewFrom x p rest
      { review with breaches := List.replicate n .mergeable ++ review.breaches }

def review (s : Schema) (doc : Document) : Review :=
  reviewFrom ⟨s, doc⟩ Comparison.start (findings s doc)

def Review.isClean (r : Review) : Bool := r.breaches.isEmpty && !r.exhausted

/-- The most breaches that are reported. -/
def breachLimit : Nat := 100

/-- Whether a review was given up: too many pairs of fields, or too many breaches. -/
def Review.isAborted (r : Review) : Bool := r.exhausted || breachLimit < r.breaches.length

/-- Whether a document can be executed against a schema. -/
def valid (s : Schema) (doc : Document) : Bool := (review s doc).isClean

end WorldQuery.Query
