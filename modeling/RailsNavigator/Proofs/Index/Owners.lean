import RailsNavigator.Proofs.Index.Scopes
import RailsNavigator.Syntax.Context

/-!
# Owners and qualified names

The name under which a method is recorded and the name that the context of a node makes up are
computed in two ways. The collector qualifies the path of each class and module by the scope around
it, and a path that begins at the top level starts afresh. The context joins the paths of all that
encloses the node. The two agree exactly if no path but the outermost begins at the top level.
-/

namespace RailsNavigator

/-- The path of a class or module as it is written. -/
def Node.namespacePath? : Node → Option String
  | .classDecl _ path _ _ | .moduleDecl _ path _ => some path
  | _ => none

/-- Whether a node opens the singleton of what is around it. -/
def Node.opensSingleton : Node → Bool
  | .generic info _ => info.kind == Collector.singletonKind
  | _ => false

/-- Whether a path begins at the top level. -/
def isAbsolute (path : String) : Bool :=
  match path.toList with
  | ':' :: ':' :: _ => true
  | _ => false

/-- What follows the colons with which a path begins at the top level; else the whole path. -/
def fromTopLevel (path : String) : String :=
  if isAbsolute path then String.ofList (path.toList.drop 2) else path

/-- Whether a path is written as the grammar has it: two colons or none, and then no colon. -/
def isConstantPath (path : String) : Bool :=
  (fromTopLevel path).toList.head? != some ':'

/-- A path without leading colons. -/
def barePath (path : String) : String :=
  String.ofList (path.toList.dropWhile (· == ':'))

theorem scopeName?_eq (node : Node) :
    node.scopeName? = node.namespacePath?.bind fun path =>
      if path.isEmpty then none else some (barePath path) := by
  cases node <;> rfl

theorem isAbsolute_iff {path : String} :
    isAbsolute path = true ↔ ∃ rest, path.toList = ':' :: ':' :: rest := by
  unfold isAbsolute
  split
  · rename_i rest characters
    simp [characters]
  · rename_i different
    simpa using different

/-- A scope qualifies a path unless it begins at the top level. -/
theorem qualifiedIn_eq (scope : Option String) (path : String) :
    qualifiedIn scope path
      = if isAbsolute path then fromTopLevel path
        else scope.elim path fun name => name ++ "::" ++ path := by
  unfold qualifiedIn
  split
  · rename_i rest characters
    have absolute := isAbsolute_iff.mpr ⟨rest, characters⟩
    rw [if_pos absolute, fromTopLevel, if_pos absolute, characters]
    rfl
  · rename_i different
    have relative : ¬isAbsolute path = true := fun absolute => by
      rcases isAbsolute_iff.mp absolute with ⟨rest, characters⟩
      exact different rest characters
    rw [if_neg relative]
    cases scope with
    | none => rfl
    | some name => rfl

theorem dropWhile_eq_self_of_head? {characters : List Char} (head : characters.head? ≠ some ':') :
    characters.dropWhile (· == ':') = characters := by
  cases characters with
  | nil => rfl
  | cons first rest =>
      have different : ¬(first == ':') = true := by simpa using head
      exact List.dropWhile_cons_of_neg different

/-- A constant path has no leading colons but those with which it begins at the top level. -/
theorem barePath_eq {path : String} (constant : isConstantPath path = true) :
    barePath path = fromTopLevel path := by
  have head : (fromTopLevel path).toList.head? ≠ some ':' := by
    simpa [isConstantPath] using constant
  have bare := dropWhile_eq_self_of_head? head
  rw [barePath]
  by_cases absolute : isAbsolute path = true
  · rcases isAbsolute_iff.mp absolute with ⟨rest, characters⟩
    rw [fromTopLevel, if_pos absolute, characters] at bare ⊢
    simpa using congrArg String.ofList bare
  · rw [fromTopLevel, if_neg absolute] at bare ⊢
    rw [bare, String.ofList_toList]

/-- The full name of what is declared under some paths inside a scope, outermost first. -/
def qualifiedUnder (name : String) (paths : List String) : String :=
  paths.foldl (fun name path => qualifiedIn (some name) path) name

theorem foldl_qualifiedIn (name : String) (paths : List String) :
    paths.foldl (fun scope path => some (qualifiedIn scope path)) (some name)
      = some (qualifiedUnder name paths) := by
  induction paths generalizing name with
  | nil => rfl
  | cons path rest hypothesis => exact hypothesis (qualifiedIn (some name) path)

/-- Paths that do not begin at the top level are joined. -/
theorem qualifiedUnder_eq_intercalate {paths : List String}
    (relative : ∀ path ∈ paths, isAbsolute path = false) (name : String) :
    qualifiedUnder name paths = "::".intercalate (name :: paths) := by
  induction paths generalizing name with
  | nil => simp [qualifiedUnder]
  | cons path rest hypothesis =>
      have qualified : qualifiedIn (some name) path = name ++ "::" ++ path := by
        rw [qualifiedIn_eq, relative path (by simp)]
        rfl
      have further := hypothesis (fun other member => relative other (by simp [member]))
        (name ++ "::" ++ path)
      rw [qualifiedUnder, List.foldl_cons, qualified]
      exact further.trans (by simp)

/-- A path that begins at the top level loses the names around it. -/
theorem length_qualifiedUnder_lt {paths : List String} {name outer : String}
    (constant : ∀ path ∈ paths, isConstantPath path = true)
    (shorter : name.length < outer.length ∨
      name.length ≤ outer.length ∧ ∃ path ∈ paths, isAbsolute path = true) :
    (qualifiedUnder name paths).length
      < ("::".intercalate (outer :: paths.map barePath)).length := by
  induction paths generalizing name outer with
  | nil => simpa [qualifiedUnder] using shorter
  | cons path rest hypothesis =>
      have constantRest := fun other member => constant other (List.mem_cons_of_mem path member)
      have bare := barePath_eq (constant path (by simp))
      have joined : "::".intercalate (outer :: (path :: rest).map barePath)
          = "::".intercalate ((outer ++ "::" ++ barePath path) :: rest.map barePath) := by simp
      rw [joined, qualifiedUnder, List.foldl_cons]
      apply hypothesis constantRest
      rw [qualifiedIn_eq, bare]
      by_cases absolute : isAbsolute path = true
      · rw [if_pos absolute]
        left
        simp only [String.length_append]
        have separator : "::".length = 2 := rfl
        omega
      · rw [if_neg absolute, fromTopLevel, if_neg absolute]
        simp only [Option.elim_some, String.length_append]
        rcases shorter with less | ⟨notMore, other, otherMem, otherAbsolute⟩
        · left
          omega
        · right
          refine ⟨by omega, other, ?_, otherAbsolute⟩
          rcases List.mem_cons.mp otherMem with rfl | inRest
          · exact absurd otherAbsolute absolute
          · exact inRest

/-- The name that the collector makes up of constant paths is that of the context exactly if no path
but the outermost begins at the top level. -/
theorem qualifiedUnder_eq_iff {outermost : String} {inner : List String}
    (constant : ∀ path ∈ outermost :: inner, isConstantPath path = true) :
    qualifiedUnder (qualifiedIn none outermost) inner
        = "::".intercalate ((outermost :: inner).map barePath)
      ↔ ∀ path ∈ inner, isAbsolute path = false := by
  have constantInner := fun path member => constant path (List.mem_cons_of_mem outermost member)
  have outer : qualifiedIn none outermost = barePath outermost := by
    rw [qualifiedIn_eq, barePath_eq (constant outermost (by simp))]
    split
    · rfl
    · rename_i relative
      rw [fromTopLevel, if_neg relative]
      rfl
  rw [outer, List.map_cons]
  constructor
  · intro equal path pathMem
    by_contra absolute
    have shorter := length_qualifiedUnder_lt constantInner
      (.inr ⟨Nat.le_refl (barePath outermost).length, path, pathMem, by simpa using absolute⟩)
    rw [equal] at shorter
    exact Nat.lt_irrefl _ shorter
  · intro relative
    have bare : inner.map barePath = inner := by
      conv_rhs => rw [← List.map_id inner]
      apply List.map_congr_left
      intro path pathMem
      rw [barePath_eq (constantInner path pathMem), fromTopLevel, relative path pathMem]
      rfl
    rw [bare, qualifiedUnder_eq_intercalate relative]

namespace Program

/-- The paths of the classes and modules around a node, outermost first. -/
def enclosingPaths (program : Program) (node : Node) : List String :=
  (program.ancestors node).reverse.filterMap Node.namespacePath?

/-- The innermost class or module around a node. -/
def innermost? (program : Program) (node : Node) : Option Node :=
  (program.ancestors node).find? fun upper => upper.namespacePath?.isSome

theorem exists_innermost?_of_enclosingPaths {program : Program} {node : Node} {outermost : String}
    {inner : List String} (enclosed : program.enclosingPaths node = outermost :: inner) :
    ∃ namespaceNode, program.innermost? node = some namespaceNode := by
  have isPath : outermost ∈ program.enclosingPaths node := by simp [enclosed]
  rcases List.mem_filterMap.mp isPath with ⟨upper, upperMem, path⟩
  rw [← Option.isSome_iff_exists, innermost?, List.find?_isSome]
  exact ⟨upper, List.mem_reverse.mp upperMem, by simp [path]⟩

/-- The nesting of a node is made of the paths around it. -/
theorem nesting_eq_map (program : Program) (node : Node)
    (written : ∀ path ∈ program.enclosingPaths node, path.isEmpty = false) :
    (program.context node).nesting = (program.enclosingPaths node).map barePath := by
  unfold enclosingPaths at written ⊢
  simp only [context]
  generalize (program.ancestors node).reverse = nodes at written ⊢
  induction nodes with
  | nil => rfl
  | cons upper rest hypothesis =>
      cases path : upper.namespacePath? with
      | none =>
          have noName : upper.scopeName? = none := by rw [scopeName?_eq, path]; rfl
          rw [List.filterMap_cons_none path] at written ⊢
          rw [List.filterMap_cons_none noName]
          exact hypothesis written
      | some text =>
          rw [List.filterMap_cons_some path] at written ⊢
          have name : upper.scopeName? = some (barePath text) := by
            rw [scopeName?_eq, path, Option.bind_some, written text (by simp)]
            rfl
          rw [List.filterMap_cons_some name, List.map_cons,
            hypothesis fun other member => written other (by simp [member])]

/-- Without singletons, nodes open the scopes of their paths. -/
theorem head?_foldl_openScopes {nodes : List Node}
    (plain : ∀ upper ∈ nodes, upper.opensSingleton = false) (names : List String) :
    (nodes.foldl (fun names upper => upper.openScopes names) names).head?
      = (nodes.filterMap Node.namespacePath?).foldl
          (fun scope path => some (qualifiedIn scope path)) names.head? := by
  induction nodes generalizing names with
  | nil => rfl
  | cons upper rest hypothesis =>
      rw [List.foldl_cons, hypothesis fun other member => plain other (by simp [member])]
      have first := plain upper (by simp)
      cases upper with
      | classDecl info path superclass body => rfl
      | moduleDecl info path body => rfl
      | generic info children =>
          have notSingleton : info.kind ≠ Collector.singletonKind := by
            simpa [Node.opensSingleton] using first
          simp only [Node.openScopes, if_neg notSingleton]
          rfl
      | _ => rfl

/-- Without singletons, the owner of what is defined at a node has the full name of its paths. -/
theorem head?_scopesAround {program : Program} {node : Node} {outermost : String}
    {inner : List String} (plain : ∀ upper ∈ program.ancestors node, upper.opensSingleton = false)
    (enclosed : program.enclosingPaths node = outermost :: inner) :
    (program.scopesAround node).head?
      = some (qualifiedUnder (qualifiedIn none outermost) inner) := by
  have plainReverse : ∀ upper ∈ (program.ancestors node).reverse, upper.opensSingleton = false :=
    fun upper upperMem => plain upper (List.mem_reverse.mp upperMem)
  rw [scopesAround, head?_foldl_openScopes plainReverse, ← enclosingPaths, enclosed]
  exact foldl_qualifiedIn (qualifiedIn none outermost) inner

/-- The nesting of a node is that of the innermost class or module around it, with this added. -/
theorem WellLinked.nesting_eq_of_innermost? {program : Program} (wellLinked : program.WellLinked)
    {node namespaceNode : Node} (reachable : program.Reachable node)
    (innermost : program.innermost? node = some namespaceNode) :
    (program.context node).nesting
      = (namespaceNode :: program.ancestors namespaceNode).reverse.filterMap Node.scopeName? := by
  rcases List.find?_eq_some_iff_append.mp innermost with ⟨-, lower, rest, split, below⟩
  have restEq := wellLinked.ancestors_of_append reachable split
  have noNames : lower.reverse.filterMap Node.scopeName? = [] := by
    rw [List.filterMap_eq_nil_iff]
    intro upper upperMem
    have noPath := below upper (List.mem_reverse.mp upperMem)
    rw [scopeName?_eq]
    cases path : upper.namespacePath? with
    | none => rfl
    | some text => simp [path] at noPath
  simp only [context, split, ← restEq, List.reverse_append, List.filterMap_append, noNames,
    List.append_nil]

end Program

namespace Collector

/-- A visit of a node on the walk through a tree records a method. -/
def Records (uri : String) (root node : Node) (entry : MethodEntry) : Prop :=
  ∃ before after, Events.Visit.walk root = before ++ .enter node :: after ∧
    ((before.foldl (step uri) {}).step uri (.enter node)).methods
      = (before.foldl (step uri) {}).methods ++ [entry]

theorem methods_declare (collector : Collector) (add : NamespaceEntry → NamespaceEntry) :
    (collector.declare add).methods = collector.methods := by
  unfold declare
  split
  · rfl
  · rfl

theorem methods_subset_readCall (uri : String) (collector : Collector) (method : String)
    (arguments : List Node) :
    collector.methods ⊆ (collector.readCall uri method arguments).methods := by
  unfold readCall
  split
  · rw [methods_declare]
    exact List.Subset.refl _
  · rw [methods_declare]
    exact List.Subset.refl _
  · exact List.subset_append_left _ _

/-- A visit takes no recorded method away. -/
theorem methods_subset_step (uri : String) (collector : Collector) (visit : Events.Visit) :
    collector.methods ⊆ (collector.step uri visit).methods := by
  unfold step
  split
  · exact List.Subset.refl _
  · exact List.Subset.refl _
  · exact List.Subset.refl _
  · exact List.Subset.refl _
  · split <;> exact List.Subset.refl _
  · split <;> exact List.Subset.refl _
  · split
    · exact List.Subset.refl _
    · exact List.subset_append_left _ _
  · exact methods_subset_readCall uri collector _ _
  · exact List.Subset.refl _

theorem methods_subset_foldl_step (uri : String) (collector : Collector)
    (visits : List Events.Visit) :
    collector.methods ⊆ (visits.foldl (step uri) collector).methods := by
  induction visits generalizing collector with
  | nil => exact List.Subset.refl _
  | cons visit rest hypothesis =>
      exact List.Subset.trans (methods_subset_step uri collector visit) (hypothesis _)

/-- What a visit records is among the entries of the document. -/
theorem Records.mem_collect {uri : String} {root node : Node} {entry : MethodEntry}
    (records : Records uri root node entry) : entry ∈ (collect uri root).methods := by
  rcases records with ⟨before, after, split, added⟩
  rw [collect_eq_foldl_walk, split, List.foldl_append, List.foldl_cons]
  apply methods_subset_foldl_step
  rw [added]
  simp

/-- Entering a method that has a name records it under the owner of the place. -/
theorem methods_enter_methodDef (uri : String) (collector : Collector) (info : Info) {name : String}
    {receiver : Option Node} (parameters body : Option Node) (named : name.isEmpty = false)
    (notSelf : receiver.any Node.isSelf = false) :
    (collector.step uri (.enter (.methodDef info name receiver parameters body))).methods
      = collector.methods ++ [⟨name, collector.owner, uri, info.span⟩] := by
  simp [step, named, notSelf, addMethod]

end Collector

/-- A method without a receiver `self` that is enclosed by classes and modules, but by no singleton,
is recorded under one owner, however often it is visited. If all paths are constant paths, this is
the name that the context of the method makes up exactly if no path but the outermost begins at the
top level. The name is that of every node with the same innermost class or module. -/
theorem Program.recorded_under_qualified_name_iff {text : String} {tree : Concrete}
    {program : Program} (distinct : tree.DistinctIds)
    (succeeds : Program.convert text tree = .ok program) {node : Node}
    (reachable : program.Reachable node) {info : Info} {name : String}
    {receiver parameters body : Option Node}
    (isMethod : node = .methodDef info name receiver parameters body)
    (named : name.isEmpty = false) (notSelf : receiver.any Node.isSelf = false)
    (plain : ∀ upper ∈ program.ancestors node, upper.opensSingleton = false)
    {outermost : String} {inner : List String}
    (enclosed : program.enclosingPaths node = outermost :: inner)
    (written : ∀ path ∈ outermost :: inner, path.isEmpty = false) (uri : String) :
    ∃ owner,
      (∀ entry, Collector.Records uri program.root node entry
        ↔ entry = ⟨name, owner, uri, info.span⟩) ∧
      ⟨name, owner, uri, info.span⟩ ∈ (Collector.collect uri program.root).methods ∧
      ((∀ path ∈ outermost :: inner, isConstantPath path = true) →
        (owner = (program.context node).fullyQualifiedName
          ↔ ∀ path ∈ inner, isAbsolute path = false)) ∧
      ∀ other, program.Reachable other → program.innermost? other = program.innermost? node →
        (program.context other).fullyQualifiedName
          = (program.context node).fullyQualifiedName := by
  have wellLinked := wellLinked_of_convert distinct succeeds
  have added : ∀ before after,
      Events.Visit.walk program.root = before ++ .enter node :: after →
      ((before.foldl (Collector.step uri) {}).step uri (.enter node)).methods
        = (before.foldl (Collector.step uri) {}).methods
          ++ [⟨name, qualifiedUnder (qualifiedIn none outermost) inner, uri, info.span⟩] := by
    intro before after split
    have owner : (before.foldl (Collector.step uri) {}).owner
        = qualifiedUnder (qualifiedIn none outermost) inner := by
      rw [Collector.owner_eq, wellLinked.scopeNames_before_enter uri split,
        head?_scopesAround plain enclosed]
      rfl
    rw [isMethod, Collector.methods_enter_methodDef uri _ info parameters body named notSelf,
      owner]
  rcases List.append_of_mem (Events.Visit.enter_mem_walk reachable) with ⟨before, after, split⟩
  refine ⟨qualifiedUnder (qualifiedIn none outermost) inner, ?_, ?_, ?_, ?_⟩
  · intro entry
    constructor
    · rintro ⟨before, after, split, records⟩
      rw [added before after split, List.append_cancel_left_eq, List.cons.injEq] at records
      exact records.1.symm
    · rintro rfl
      exact ⟨before, after, split, added before after split⟩
  · exact Collector.Records.mem_collect ⟨before, after, split, added before after split⟩
  · intro constant
    rw [Context.fullyQualifiedName, nesting_eq_map program node (enclosed ▸ written), enclosed]
    exact qualifiedUnder_eq_iff constant
  · intro other otherReachable sameInnermost
    rcases exists_innermost?_of_enclosingPaths enclosed with ⟨namespaceNode, innermost⟩
    rw [Context.fullyQualifiedName, Context.fullyQualifiedName,
      wellLinked.nesting_eq_of_innermost? reachable innermost,
      wellLinked.nesting_eq_of_innermost? otherReachable (sameInnermost.trans innermost)]

/-- A method in a class that begins at the top level although it is written in another class, as in
`class A;class ::B;def m;end;end;end`. -/
def nestedAtTopLevel : Concrete :=
  .node ⟨0, "program", true, false, none, 0, 35, ⟨0, 0⟩, ⟨0, 35⟩⟩
    [.node ⟨1, "class", true, false, none, 0, 35, ⟨0, 0⟩, ⟨0, 35⟩⟩
      [.node ⟨2, "constant", true, false, some "name", 6, 7, ⟨0, 6⟩, ⟨0, 7⟩⟩ [],
        .node ⟨3, "class", true, false, none, 8, 31, ⟨0, 8⟩, ⟨0, 31⟩⟩
          [.node ⟨4, "scope_resolution", true, false, some "name", 14, 17, ⟨0, 14⟩, ⟨0, 17⟩⟩ [],
            .node ⟨5, "method", true, false, none, 18, 27, ⟨0, 18⟩, ⟨0, 27⟩⟩
              [.node ⟨6, "identifier", true, false, some "name", 22, 23, ⟨0, 22⟩, ⟨0, 23⟩⟩ []]]]]

/-- Such a method is not recorded under the name that its context makes up. -/
theorem Program.not_recorded_under_qualified_name :
    ∃ (program : Program) (node : Node) (owner : String),
      nestedAtTopLevel.DistinctIds ∧
      Program.convert "class A;class ::B;def m;end;end;end" nestedAtTopLevel = .ok program ∧
      program.Reachable node ∧ program.enclosingPaths node = ["A", "::B"] ∧
      Collector.Records "file:///a.rb" program.root node
        ⟨"m", owner, "file:///a.rb", node.span⟩ ∧
      owner ≠ (program.context node).fullyQualifiedName := by
  have distinct : nestedAtTopLevel.DistinctIds := by
    unfold Concrete.DistinctIds
    decide
  have located : ((Program.convert "class A;class ::B;def m;end;end;end"
      nestedAtTopLevel).toOption.bind fun program => (program.nodeAt? 0 20).map fun node =>
        (node, (program.ancestorsUpTo 7 node).map fun upper =>
          (upper.namespacePath?, upper.opensSingleton)))
      = some (.methodDef ⟨.converted 5, "method", ⟨0, 18, 0, 27⟩⟩ "m" none none none,
          [(none, false), (some "::B", false), (none, false), (some "A", false), (none, false),
            (none, false)]) := by cbv
  cases succeeds : Program.convert "class A;class ::B;def m;end;end;end" nestedAtTopLevel with
  | error error => simp [succeeds, Except.toOption] at located
  | ok program =>
      simp only [succeeds, Except.toOption, Option.bind_some] at located
      rcases Option.map_eq_some_iff.mp located with ⟨node, found, facts⟩
      rw [Prod.mk.injEq] at facts
      rcases facts with ⟨isMethod, climbed⟩
      have reachable := reachable_of_nodeAt? found
      have short : (program.ancestorsUpTo 7 node).length < 7 := by
        rw [← List.length_map, climbed]
        decide
      have above := (wellLinked_of_convert distinct succeeds).ancestors_eq_of_length_lt reachable
        short
      rw [← above] at climbed
      have enclosed : program.enclosingPaths node = ["A", "::B"] := by
        have paths := congrArg (List.filterMap Prod.fst ∘ List.reverse) climbed
        simpa [enclosingPaths, ← List.map_reverse, List.filterMap_map, Function.comp_def]
          using paths
      have plain : ∀ upper ∈ program.ancestors node, upper.opensSingleton = false := by
        have singletons := congrArg (List.all · fun entry => !entry.2) climbed
        simpa [List.all_map, Function.comp_def] using singletons
      rcases recorded_under_qualified_name_iff distinct succeeds reachable isMethod rfl rfl
        plain enclosed (by decide) "file:///a.rb" with ⟨owner, records, -, iff, -⟩
      have recorded := (records _).mpr rfl
      refine ⟨program, node, owner, distinct, rfl, reachable, enclosed, ?_, ?_⟩
      · rw [isMethod] at recorded ⊢
        exact recorded
      · intro equal
        have relative := (iff (by decide)).mp equal "::B" (by simp)
        exact absurd relative (by decide)

end RailsNavigator
