import RailsNavigator.Proofs.Index.Owners
import RailsNavigator.Proofs.Index.Rearrangement

/-!
# Classes that find themselves

The superclass of a class is looked up from the innermost scope around its declaration outwards, in
an index that holds the class already. So where a scope and the superclass as it is written make up
the name of the class, and no scope further inside knows the superclass, the class is found to be its
own superclass. This is the case whenever a nested class inherits from one of the same name outside.
The search for ancestors passes over a name that it has met, and so the chain ends there.
-/

namespace RailsNavigator

namespace Index

variable {index : Index} {name reference upper : String} {entry : NamespaceEntry}

/-- The lookup of a superclass from the scopes of a declaration meets a name, and nothing before. -/
def FindsItself (index : Index) (entry : NamespaceEntry) (reference name : String) : Prop :=
  isAbsolute reference = false ∧
    ∃ outer scope inner, entry.lexicalScopes = outer ++ scope :: inner ∧
      scope ++ "::" ++ reference = name ∧
      ∀ nearer ∈ inner, index.namespaces.contains (nearer ++ "::" ++ reference) = false

theorem contains_of_mem_entriesOf (declared : entry ∈ index.entriesOf name) :
    index.namespaces.contains name = true := by
  by_contra unknown
  rw [Std.ExtTreeMap.contains_eq_isSome_getElem?, Option.not_isSome_iff_eq_none] at unknown
  rw [entriesOf, Std.ExtTreeMap.getD_eq_getD_getElem?, unknown] at declared
  cases declared

theorem resolveConstant_of_isAbsolute (absolute : isAbsolute reference = true)
    (scopes : List String) : index.resolveConstant reference scopes = fromTopLevel reference := by
  rcases isAbsolute_iff.mp absolute with ⟨rest, characters⟩
  simp [resolveConstant, fromTopLevel, absolute, characters]

theorem resolveConstant_of_not_isAbsolute (relative : isAbsolute reference = false)
    (scopes : List String) :
    index.resolveConstant reference scopes
      = ((scopes.reverse.map fun scope => scope ++ "::" ++ reference).find?
          index.namespaces.contains).getD reference := by
  unfold resolveConstant
  split
  · rename_i rest characters
    rw [isAbsolute_iff.mpr ⟨rest, characters⟩] at relative
    cases relative
  · rfl

/-- The innermost of the scopes that know a constant is the last of them. -/
theorem find?_reverse_eq_some_iff (index : Index) (reference name : String)
    (scopes : List String) :
    (scopes.reverse.map fun scope => scope ++ "::" ++ reference).find? index.namespaces.contains
        = some name ↔
      index.namespaces.contains name = true ∧
        ∃ outer scope inner, scopes = outer ++ scope :: inner ∧ scope ++ "::" ++ reference = name ∧
          ∀ nearer ∈ inner, index.namespaces.contains (nearer ++ "::" ++ reference) = false := by
  rw [List.find?_map, Option.map_eq_some_iff]
  constructor
  · rintro ⟨scope, found, rfl⟩
    rcases List.find?_eq_some_iff_append.mp found with ⟨known, front, back, split, unknown⟩
    refine ⟨known, back.reverse, scope, front.reverse, ?_, rfl, ?_⟩
    · simpa using congrArg List.reverse split
    · intro nearer nearerMem
      simpa using unknown nearer (List.mem_reverse.mp nearerMem)
  · rintro ⟨known, outer, scope, inner, rfl, rfl, unknown⟩
    refine ⟨scope, List.find?_eq_some_iff_append.mpr ⟨known, inner.reverse, outer.reverse, ?_, ?_⟩,
      rfl⟩
    · simp
    · intro nearer nearerMem
      simpa using unknown nearer (List.mem_reverse.mp nearerMem)

theorem resolveConstant_eq_self_iff (declared : entry ∈ index.entriesOf name)
    (elsewhere : fromTopLevel reference ≠ name) :
    index.resolveConstant reference entry.lexicalScopes = name
      ↔ index.FindsItself entry reference name := by
  have known := contains_of_mem_entriesOf declared
  cases absolute : isAbsolute reference with
  | true => simp [resolveConstant_of_isAbsolute absolute, elsewhere, FindsItself, absolute]
  | false =>
      have outside : reference ≠ name := by simpa [fromTopLevel, absolute] using elsewhere
      have found_iff := index.find?_reverse_eq_some_iff reference name entry.lexicalScopes
      rw [resolveConstant_of_not_isAbsolute absolute, FindsItself]
      constructor
      · intro resolved
        refine ⟨absolute, (found_iff.mp ?_).2⟩
        rcases Option.getD_eq_iff.mp resolved with found | ⟨-, same⟩
        · exact found
        · exact absurd same outside
      · rintro ⟨-, found⟩
        rw [found_iff.mpr ⟨known, found⟩]
        rfl

/-- The superclass that counts is one. -/
theorem Inherits.unique {first second : String} (inheritsFirst : index.Inherits name first)
    (inheritsSecond : index.Inherits name second) : first = second := by
  rw [← superclass?_eq_some_iff] at inheritsFirst inheritsSecond
  exact Option.some.inj (inheritsFirst.symm.trans inheritsSecond)

theorem mem_ancestors_of_leads {other : String} (leads : index.Leads name other)
    (upperMem : upper ∈ index.ancestors other) : upper ∈ index.ancestors name := by
  rw [mem_ancestors_iff] at upperMem ⊢
  exact .head leads upperMem

/-- A class that is its own superclass has no ancestors but through what it prepends and includes. -/
theorem mem_ancestors_iff_of_inherits_self (inherits : index.Inherits name name) :
    upper ∈ index.ancestors name ↔
      upper = name ∨ ∃ first, (index.Prepends name first ∨ index.Includes name first) ∧
        upper ∈ index.ancestors first := by
  constructor
  · intro upperMem
    have path := mem_ancestors_iff.mp upperMem
    -- The path may go around at the class any number of times before it leaves it.
    induction path using Relation.ReflTransGen.head_induction_on with
    | refl => exact .inl rfl
    | @head start next leads further hypothesis =>
        rcases leads with prepends | includes | inheritsNext
        · exact .inr ⟨next, .inl prepends, mem_ancestors_iff.mpr further⟩
        · exact .inr ⟨next, .inr includes, mem_ancestors_iff.mpr further⟩
        · cases inherits.unique inheritsNext
          exact hypothesis inherits upperMem
  · rintro (rfl | ⟨first, mixes, upperMem⟩)
    · exact mem_ancestors_iff.mpr .refl
    · apply mem_ancestors_of_leads _ upperMem
      exact mixes.imp_right .inl

/-- A class whose superclass is not written as the class itself is found to be its own superclass
exactly if its declaration finds itself, as it does where the innermost scope and the superclass make
up its name. If the declaration is the first with a superclass, then in this case the chain of
superclasses ends at the class, and else it goes on with the ancestors of another class. -/
theorem superclass_eq_self_iff_findsItself (declared : entry ∈ index.entriesOf name)
    (inherited : entry.inherited? = some reference) (elsewhere : fromTopLevel reference ≠ name) :
    (index.resolveConstant reference entry.lexicalScopes = name
      ↔ index.FindsItself entry reference name) ∧
    (∀ outer scope, entry.lexicalScopes = outer ++ [scope] → scope ++ "::" ++ reference = name →
      isAbsolute reference = false → index.FindsItself entry reference name) ∧
    ∀ earlier later, index.entriesOf name = earlier ++ entry :: later →
      (∀ previous ∈ earlier, previous.inherited? = none) →
      (index.FindsItself entry reference name → ∀ upper, upper ∈ index.ancestors name ↔
        upper = name ∨ ∃ first, (index.Prepends name first ∨ index.Includes name first) ∧
          upper ∈ index.ancestors first) ∧
      (¬index.FindsItself entry reference name →
        index.resolveConstant reference entry.lexicalScopes ≠ name ∧
        ∀ upper ∈ index.ancestors (index.resolveConstant reference entry.lexicalScopes),
          upper ∈ index.ancestors name) := by
  have self_iff := resolveConstant_eq_self_iff declared elsewhere
  refine ⟨self_iff, ?_, ?_⟩
  · intro outer scope scopes isName relative
    exact ⟨relative, outer, scope, [], scopes, isName, by simp⟩
  · intro earlier later split none
    have inherits : index.Inherits name (index.resolveConstant reference entry.lexicalScopes) :=
      ⟨earlier, entry, later, reference, split, none, inherited, rfl⟩
    constructor
    · intro itself upper
      rw [self_iff.mpr itself] at inherits
      exact mem_ancestors_iff_of_inherits_self inherits
    · intro another
      refine ⟨fun same => another (self_iff.mp same), fun upper upperMem => ?_⟩
      exact mem_ancestors_of_leads (.inr (.inr inherits)) upperMem

end Index

namespace Operation

/-- The program `class Foo;def hello;end;end;module M;class Foo < Foo;end;end`. -/
def sameNames : Program :=
  let info : Info := ⟨.program, "", ⟨0, 0, 0, 0⟩⟩
  let outside : Node :=
    .classDecl info "Foo" none (some (.statements info [.methodDef info "hello" none none none]))
  let inside : Node := .classDecl info "Foo" (some "Foo") none
  ⟨.program info (.statements info
    [outside, .moduleDecl info "M" (some (.statements info [inside]))]), {}⟩

/-- The declaration of the nested class. -/
def nested : NamespaceEntry := ⟨"M::Foo", "file:///a.rb", ["M"], some "Foo", [], []⟩

theorem collect_sameNames :
    Collector.collect "file:///a.rb" sameNames.root
      = ⟨[⟨"hello", "Foo", "file:///a.rb", ⟨0, 0, 0, 0⟩⟩],
          [⟨"Foo", "file:///a.rb", [], none, [], []⟩, ⟨"M", "file:///a.rb", [], none, [], []⟩,
            nested], []⟩ := by
  rw [Collector.collect_eq_foldl_walk]
  cbv

theorem run_sameNames :
    run {} (.indexTree (fun _ => false) "file:///a.rb" sameNames)
      = Index.ofEntries [⟨"hello", "Foo", "file:///a.rb", ⟨0, 0, 0, 0⟩⟩]
          [⟨"Foo", "file:///a.rb", [], none, [], []⟩, ⟨"M", "file:///a.rb", [], none, [], []⟩,
            nested] := by
  have puts : (indexTree (fun _ => false) "file:///a.rb" sameNames).puts?
      = some ("file:///a.rb", sameNames) := by
    rw [puts?, collect_sameNames, if_pos]
    simp only [Collector.IsInRange, List.forall_mem_singleton]
    exact ⟨rfl, trivial⟩
  have onTree : ∀ operation ∈ [Operation.indexTree (fun _ => false) "file:///a.rb" sameNames],
      operation.isOnTree := by
    simp [isOnTree]
  have ofTrees := foldl_run_eq_ofDocuments_liveTrees onTree
  rw [Index.ofDocuments_eq_ofEntries] at ofTrees
  simpa [liveTrees, puts, collected, collect_sameNames] using ofTrees

/-- The nested class inherits from the one outside, but it finds itself, and no method of the one
outside is found from it. -/
theorem superclass_eq_self_iff_findsItself_sameNames :
    nested ∈ (run {} (.indexTree (fun _ => false) "file:///a.rb" sameNames)).entriesOf "M::Foo" ∧
    nested.inherited? = some "Foo" ∧ fromTopLevel "Foo" ≠ "M::Foo" ∧
    ∃ index, run {} (.indexTree (fun _ => false) "file:///a.rb" sameNames) = index ∧
      index.FindsItself nested "Foo" "M::Foo" ∧
      index.resolveConstant "Foo" nested.lexicalScopes = "M::Foo" ∧
      (∀ upper, upper ∈ index.ancestors "M::Foo" ↔ upper = "M::Foo" ∨
        ∃ first, (index.Prepends "M::Foo" first ∨ index.Includes "M::Foo" first) ∧
          upper ∈ index.ancestors first) ∧
      index.ancestors "M::Foo" = ["M::Foo"] ∧
      index.resolveMethod? "hello" "M::Foo" = none ∧
      (index.resolveMethod? "hello" "Foo").isSome = true := by
  rw [run_sameNames]
  have entries : (Index.ofEntries [⟨"hello", "Foo", "file:///a.rb", ⟨0, 0, 0, 0⟩⟩]
      [⟨"Foo", "file:///a.rb", [], none, [], []⟩, ⟨"M", "file:///a.rb", [], none, [], []⟩,
        nested]).entriesOf "M::Foo" = [nested] := by
    decide +kernel
  have elsewhere : fromTopLevel "Foo" ≠ "M::Foo" := by decide +kernel
  have inherited : nested.inherited? = some "Foo" := by decide
  have declared := entries ▸ List.mem_singleton_self nested
  rcases Index.superclass_eq_self_iff_findsItself declared inherited elsewhere with
    ⟨self_iff, innermost, chain⟩
  have itself := innermost [] "M" rfl (by decide) (by decide +kernel)
  refine ⟨declared, inherited, elsewhere, _, rfl, itself, self_iff.mpr itself,
    (chain [] [] entries (by simp)).1 itself, ?_, ?_, ?_⟩
  · decide +kernel
  · decide +kernel
  · decide +kernel

end Operation

end RailsNavigator
