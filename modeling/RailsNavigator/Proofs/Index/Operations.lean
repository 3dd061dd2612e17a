import RailsNavigator.Index.Documents
import RailsNavigator.Proofs.Index.History

/-!
# Operations on the index and what they change

An operation reads documents, may pass over some of them, and may fail halfway. `Outcome` says what
becomes of one document without mention of the index, and `Operation.changes` which changes an
operation makes. Every operation is shown to make exactly these changes and no other, so that the
index after any sequence of operations is the one made from the documents that are live then.
-/

namespace RailsNavigator

namespace Indexing
variable {α β : Type}

/-- What an operation gives. -/
def result (operation : Indexing α) (index : Index) : Except Failure α :=
  (operation.run.run index).value.1

/-- The index that an operation leaves behind. -/
def after (operation : Indexing α) (index : Index) : Index :=
  (operation.run.run index).value.2

@[simp]
theorem result_pure (value : α) (index : Index) :
    result (pure value : Indexing α) index = .ok value := rfl

@[simp]
theorem after_pure (value : α) (index : Index) : after (pure value : Indexing α) index = index :=
  rfl

@[simp]
theorem result_throw (failure : Failure) (index : Index) :
    result (throw failure : Indexing α) index = .error failure := rfl

@[simp]
theorem after_throw (failure : Failure) (index : Index) :
    after (throw failure : Indexing α) index = index := rfl

@[simp]
theorem after_notice_bind (reported : Log.Notice) (next : Unit → Indexing α) (index : Index) :
    after (notice reported >>= next) index = after (next ()) index := rfl

@[simp]
theorem result_notice_bind (reported : Log.Notice) (next : Unit → Indexing α) (index : Index) :
    result (notice reported >>= next) index = result (next ()) index := rfl

@[simp]
theorem after_modify_bind (change : Index → Index) (next : Unit → Indexing α) (index : Index) :
    after (modify change >>= next) index = after (next ()) (change index) := rfl

@[simp]
theorem result_modify_bind (change : Index → Index) (next : Unit → Indexing α) (index : Index) :
    result (modify change >>= next) index = result (next ()) (change index) := rfl

@[simp]
theorem after_traced_bind (traced : Traced α) (next : α → Indexing β) (index : Index) :
    after (ExceptT.lift (StateT.lift traced) >>= next) index = after (next traced.value) index :=
  rfl

@[simp]
theorem result_traced_bind (traced : Traced α) (next : α → Indexing β) (index : Index) :
    result (ExceptT.lift (StateT.lift traced) >>= next) index = result (next traced.value) index :=
  rfl

theorem after_bind (operation : Indexing α) (next : α → Indexing β) (index : Index) :
    after (operation >>= next) index
      = match result operation index with
        | .error _ => after operation index
        | .ok value => after (next value) (after operation index) := by
  change (ExceptT.bindCont next (operation index).value.1 (operation index).value.2).value.2 = _
  simp only [result, after]
  change _ = match (operation index).value.1 with
    | .error _ => (operation index).value.2
    | .ok value => (next value (operation index).value.2).value.2
  cases (operation index).value.1 <;> rfl

theorem result_bind (operation : Indexing α) (next : α → Indexing β) (index : Index) :
    result (operation >>= next) index
      = match result operation index with
        | .error failure => .error failure
        | .ok value => result (next value) (after operation index) := by
  change (ExceptT.bindCont next (operation index).value.1 (operation index).value.2).value.1 = _
  simp only [result, after]
  change _ = match (operation index).value.1 with
    | .error failure => Except.error failure
    | .ok value => (next value (operation index).value.2).value.1
  cases (operation index).value.1 <;> rfl
end Indexing

/-- All positions of the methods are ones that editors accept. -/
def Collector.IsInRange (entries : Collector) : Prop :=
  ∀ entry ∈ entries.methods, entry.range.positionError? = none

instance (entries : Collector) : Decidable entries.IsInRange :=
  inferInstanceAs (Decidable (∀ entry ∈ entries.methods, entry.range.positionError? = none))

theorem Collector.isInRange_iff (entries : Collector) :
    entries.IsInRange
      ↔ ∀ error ∈ entries.methods.map fun entry => entry.range.positionError?, error = none := by
  rw [List.forall_mem_map]
  rfl

theorem Collector.not_isInRange_iff (entries : Collector) :
    ¬entries.IsInRange ↔ entries.methods.any fun entry => entry.range.positionError?.isSome := by
  simp [IsInRange, Option.isSome_iff_ne_none]

/-- A change puts in the entries of a tree, all in range, for a document that is not skipped. -/
def Change.PutsTree (skip : String → Bool) (change : Change) : Prop :=
  ∃ (uri : String) (program : Program),
    change = .replaced uri (Collector.collect uri program.root) ∧
    (Collector.collect uri program.root).IsInRange ∧ skip uri = false

theorem Change.PutsTree.isOwn {skip : String → Bool} {change : Change}
    (puts : change.PutsTree skip) : change.IsOwn := by
  rcases puts with ⟨uri, program, rfl, -, -⟩
  exact Collector.isOf_collect uri program.root

/-- What becomes of a document that is to be put into the index. -/
inductive Outcome where
  | replaced (uri : String) (entries : Collector)
  /-- It is skipped or cannot be read. -/
  | unchanged
  /-- The operation ends here. -/
  | failed

namespace Outcome

/-- The changes that an outcome stands for. -/
def changes : Outcome → List Change
  | replaced uri entries => [.replaced uri entries]
  | unchanged | failed => []

/-- Whether the operation ends. -/
def isFailed : Outcome → Bool
  | failed => true
  | _ => false

/-- The changes that outcomes stand for, up to the first at which the operation ends. -/
def changesOfEach (outcomes : List Outcome) : List Change :=
  (outcomes.takeWhile fun outcome => !outcome.isFailed).flatMap changes

/-- The outcome of putting in a tree. Positions out of range are noticed before anything else. -/
def ofTree (skip : String → Bool) (uri : String) (program : Program) : Outcome :=
  let entries := Collector.collect uri program.root
  if entries.methods.any fun entry => entry.range.positionError?.isSome then failed
  else if skip uri then unchanged
  else replaced uri entries

/-- The outcome of putting in a text. -/
def ofText (grammar : Grammar) (skip : String → Bool) (uri text : String) : Outcome :=
  match (grammar.parse text).value with
  | .error _ => failed
  | .ok program => ofTree skip uri program

/-- The outcome of putting in what was read from a file. -/
def ofRead (grammar : Grammar) (skip : String → Bool) (path : String) (uri : Option String)
    (read : Except FileError String) : Outcome :=
  match read with
  | .error .nulInPath => failed
  | .error _ => unchanged
  | .ok text =>
      match uri.filter fun uri => !uri.isEmpty with
      | some uri => ofText grammar skip uri text
      | none =>
          match Uri.ofPath path with
          | .error _ => failed
          | .ok uri => ofText grammar skip uri text

/-- The outcome of putting in a file of the workspace, under the URI of its path. -/
def ofFile (grammar : Grammar) (files : FileTree) (skip : String → Bool) (path : String) :
    Outcome :=
  ofRead grammar skip path none (files.readText path)

/-- What the operation answers: whether it replaced the document. -/
def answer? : Outcome → Option Bool
  | replaced .. => some true
  | unchanged => some false
  | failed => none

/-- An operation has an outcome if it makes its changes and answers accordingly, whatever the index
was before. -/
structure Describes (outcome : Outcome) (operation : Indexing Bool) : Prop where
  after_eq : ∀ index, operation.after index = outcome.changes.foldl Index.apply index
  result_eq : ∀ index, (operation.result index).toOption = outcome.answer?

namespace Describes

variable {outcome : Outcome} {operation : Indexing Bool} {index : Index}

theorem eq_failed_of_error (described : Describes outcome operation) {failure : Failure}
    (result : operation.result index = .error failure) : outcome = failed := by
  have answered := described.result_eq index
  rw [result] at answered
  cases outcome with
  | failed => rfl
  | _ => cases answered

theorem isFailed_of_ok (described : Describes outcome operation) {replaced : Bool}
    (result : operation.result index = .ok replaced) : outcome.isFailed = false := by
  have answered := described.result_eq index
  rw [result] at answered
  cases outcome with
  | failed => cases answered
  | _ => rfl

end Describes

theorem describes_failed (failure : Failure) : Describes failed (throw failure) :=
  ⟨fun _ => rfl, fun _ => rfl⟩

theorem describes_unchanged (reported : Log.Notice) :
    Describes unchanged (Indexing.notice reported >>= fun _ => pure false) :=
  ⟨fun _ => rfl, fun _ => rfl⟩

theorem describes_indexTree (skip : String → Bool) (uri : String) (program : Program) :
    Describes (ofTree skip uri program) (Indexing.indexTree skip uri program) := by
  unfold ofTree Indexing.indexTree
  generalize Collector.collect uri program.root = entries
  dsimp only
  cases beyond : entries.methods.findSome? fun entry => entry.range.positionError? with
  | some error =>
      have anyBeyond : (entries.methods.any fun entry => entry.range.positionError?.isSome) := by
        rcases List.exists_of_findSome?_eq_some beyond with ⟨entry, member, isSome⟩
        exact List.any_eq_true.mpr ⟨entry, member, by simp [isSome]⟩
      rw [if_pos anyBeyond]
      exact describes_failed _
  | none =>
      have noneBeyond : ¬(entries.methods.any fun entry => entry.range.positionError?.isSome) := by
        simpa [List.findSome?_eq_none_iff] using beyond
      rw [if_neg noneBeyond]
      by_cases skipped : skip uri = true
      · rw [if_pos skipped]
        simp only [skipped, if_true]
        exact describes_unchanged _
      · rw [if_neg skipped]
        simp only [skipped]
        exact ⟨fun _ => rfl, fun _ => rfl⟩

theorem describes_indexText (grammar : Grammar) (skip : String → Bool) (uri text : String) :
    Describes (ofText grammar skip uri text) (Indexing.indexText grammar skip uri text) := by
  unfold ofText Indexing.indexText
  cases parsed : (grammar.parse text).value with
  | error error =>
      refine ⟨fun index => ?_, fun index => ?_⟩
      · rw [Indexing.after_traced_bind, parsed]
        rfl
      · rw [Indexing.result_traced_bind, parsed]
        rfl
  | ok program =>
      have tree := describes_indexTree skip uri program
      refine ⟨fun index => ?_, fun index => ?_⟩
      · rw [Indexing.after_traced_bind, parsed]
        exact tree.after_eq index
      · rw [Indexing.result_traced_bind, parsed]
        exact tree.result_eq index

theorem describes_indexRead (grammar : Grammar) (skip : String → Bool) (path : String)
    (uri : Option String) (read : Except FileError String) :
    Describes (ofRead grammar skip path uri read)
      (Indexing.indexRead grammar skip path uri read) := by
  unfold ofRead Indexing.indexRead
  cases read with
  | error error =>
      cases error with
      | nulInPath => exact describes_failed _
      | _ => exact describes_unchanged _
  | ok text =>
      dsimp only
      cases uri.filter fun uri => !uri.isEmpty with
      | some uri => exact describes_indexText grammar skip uri text
      | none =>
          dsimp only
          cases Uri.ofPath path with
          | error error => exact describes_failed _
          | ok uri => exact describes_indexText grammar skip uri text

theorem describes_indexFile (grammar : Grammar) (files : FileTree) (skip : String → Bool)
    (path : String) :
    Describes (ofFile grammar files skip path)
      (Indexing.indexFile grammar files skip path none) :=
  describes_indexRead grammar skip path none (files.readText path)

/-- Files are put in one after another until the operation ends. -/
theorem after_indexEach (grammar : Grammar) (files : FileTree) (skip : String → Bool) (count : Nat)
    (found : List String) (index : Index) :
    (Indexing.indexEach grammar files skip count found).after index
      = (changesOfEach (found.map (ofFile grammar files skip))).foldl Index.apply index := by
  induction found generalizing count index with
  | nil => rfl
  | cons path rest hypothesis =>
      have described := describes_indexFile grammar files skip path
      rw [Indexing.indexEach, Indexing.after_bind, List.map_cons, described.after_eq]
      cases result : (Indexing.indexFile grammar files skip path none).result index with
      | error failure =>
          have failed := described.eq_failed_of_error result
          simp [failed, changesOfEach, isFailed, changes]
      | ok replaced =>
          have goesOn := described.isFailed_of_ok result
          simp [hypothesis, changesOfEach, goesOn]

theorem putsTree_of_mem_ofTree {skip : String → Bool} {uri : String} {program : Program}
    {change : Change} (member : change ∈ (ofTree skip uri program).changes) :
    change.PutsTree skip := by
  unfold ofTree at member
  dsimp only at member
  split at member
  case isTrue => simp [changes] at member
  case isFalse inRange =>
      split at member
      case isTrue => simp [changes] at member
      case isFalse notSkipped =>
          refine ⟨uri, program, List.mem_singleton.mp member, ?_, Bool.eq_false_iff.mpr notSkipped⟩
          exact Decidable.not_not.mp (mt (Collector.not_isInRange_iff _).mp inRange)

theorem putsTree_of_mem_ofText {grammar : Grammar} {skip : String → Bool} {uri text : String}
    {change : Change} (member : change ∈ (ofText grammar skip uri text).changes) :
    change.PutsTree skip := by
  unfold ofText at member
  split at member
  · simp [changes] at member
  · exact putsTree_of_mem_ofTree member

theorem putsTree_of_mem_ofRead {grammar : Grammar} {skip : String → Bool} {path : String}
    {uri : Option String} {read : Except FileError String} {change : Change}
    (member : change ∈ (ofRead grammar skip path uri read).changes) : change.PutsTree skip := by
  unfold ofRead at member
  split at member
  · simp [changes] at member
  · simp [changes] at member
  · split at member
    · exact putsTree_of_mem_ofText member
    · split at member
      · simp [changes] at member
      · exact putsTree_of_mem_ofText member

end Outcome

/-- An operation on the index, with what it sees of grammar and files. -/
inductive Operation where
  | indexTree (skip : String → Bool) (uri : String) (program : Program)
  | indexText (grammar : Grammar) (skip : String → Bool) (uri text : String)
  | indexFile (grammar : Grammar) (files : FileTree) (skip : String → Bool) (path : String)
      (uri : Option String)
  | indexWorkspace (grammar : Grammar) (files : FileTree) (exclude : List String)
      (skip : String → Bool) (root : String)
  | remove (uri : String)

namespace Operation

/-- The index after an operation. -/
def run (index : Index) : Operation → Index
  | indexTree skip uri program => (Indexing.indexTree skip uri program).after index
  | indexText grammar skip uri text => (Indexing.indexText grammar skip uri text).after index
  | indexFile grammar files skip path uri =>
      (Indexing.indexFile grammar files skip path uri).after index
  | indexWorkspace grammar files exclude skip root =>
      (Indexing.indexWorkspace grammar files exclude skip root).after index
  | remove uri => index.remove uri

/-- The changes that an operation makes, in order. -/
def changes : Operation → List Change
  | indexTree skip uri program => (Outcome.ofTree skip uri program).changes
  | indexText grammar skip uri text => (Outcome.ofText grammar skip uri text).changes
  | indexFile grammar files skip path uri =>
      (Outcome.ofRead grammar skip path uri (files.readText path)).changes
  | indexWorkspace grammar files exclude skip root =>
      match files.filesBelow exclude root with
      | .error _ => []
      | .ok found =>
          Outcome.changesOfEach
            ((found.filter Indexing.isRubyFile).map (Outcome.ofFile grammar files skip))
  | remove uri => [.removed uri]

/-- An operation makes its changes and no other. -/
theorem run_eq_foldl_changes (operation : Operation) (index : Index) :
    operation.run index = operation.changes.foldl Index.apply index := by
  cases operation with
  | indexTree skip uri program =>
      exact (Outcome.describes_indexTree skip uri program).after_eq index
  | indexText grammar skip uri text =>
      exact (Outcome.describes_indexText grammar skip uri text).after_eq index
  | indexFile grammar files skip path uri =>
      exact (Outcome.describes_indexRead grammar skip path uri (files.readText path)).after_eq index
  | indexWorkspace grammar files exclude skip root =>
      simp only [run, changes, Indexing.indexWorkspace]
      cases files.filesBelow exclude root with
      | error error => rfl
      | ok found =>
          dsimp only
          rw [Indexing.after_bind, Outcome.after_indexEach]
          split <;> rfl
  | remove uri => rfl

/-- The documents that an operation leaves as they are. -/
def skip : Operation → String → Bool
  | indexTree skip _ _ | indexText _ skip _ _ | indexFile _ _ skip _ _
  | indexWorkspace _ _ _ skip _ => skip
  | remove _ => fun _ => false

/-- An operation that does not take out a document puts in trees. -/
theorem putsTree_of_mem_changes {operation : Operation} {change : Change}
    (member : change ∈ operation.changes) :
    change.PutsTree operation.skip ∨ ∃ uri, operation = remove uri ∧ change = .removed uri := by
  cases operation with
  | indexTree skip uri program => exact Or.inl (Outcome.putsTree_of_mem_ofTree member)
  | indexText grammar skip uri text => exact Or.inl (Outcome.putsTree_of_mem_ofText member)
  | indexFile grammar files skip path uri => exact Or.inl (Outcome.putsTree_of_mem_ofRead member)
  | indexWorkspace grammar files exclude skip root =>
      left
      rw [changes] at member
      split at member
      · simp at member
      · rcases List.mem_flatMap.mp member with ⟨outcome, taken, ofOutcome⟩
        rcases List.mem_map.mp ((List.takeWhile_sublist _).subset taken) with ⟨path, -, rfl⟩
        exact Outcome.putsTree_of_mem_ofRead ofOutcome
  | remove uri => exact Or.inr ⟨uri, rfl, List.mem_singleton.mp member⟩

/-- A document is replaced by entries of its own. -/
theorem isOwn_of_mem_changes {operation : Operation} {change : Change}
    (member : change ∈ operation.changes) : change.IsOwn := by
  rcases putsTree_of_mem_changes member with puts | ⟨uri, -, rfl⟩
  · exact puts.isOwn
  · trivial

/-- Operations make their changes one after another. -/
theorem foldl_run_eq_foldl_apply (operations : List Operation) (index : Index) :
    operations.foldl run index = (operations.flatMap changes).foldl Index.apply index := by
  induction operations generalizing index with
  | nil => rfl
  | cons operation rest hypothesis =>
      rw [List.foldl_cons, hypothesis, run_eq_foldl_changes, List.flatMap_cons, List.foldl_append]

/-- After any operations the index is the one into which the live documents are put, each once, in
the order of their last replacements. Nothing empty is left in it, and the notes for each document
name exactly what the index stores of it. -/
theorem index_eq_ofDocuments_live (operations : List Operation) :
    operations.foldl run {} = Index.ofDocuments (Change.live (operations.flatMap changes)) ∧
      (operations.foldl run {}).Consistent := by
  have own : ∀ change ∈ operations.flatMap changes, change.IsOwn := by
    intro change member
    rcases List.mem_flatMap.mp member with ⟨operation, -, ofOperation⟩
    exact isOwn_of_mem_changes ofOperation
  have sum : operations.foldl run {}
      = Index.ofDocuments (Change.live (operations.flatMap changes)) := by
    rw [foldl_run_eq_foldl_apply, Change.foldl_apply_eq_ofDocuments _ own]
  refine ⟨sum, ?_⟩
  rw [sum, Index.ofDocuments_eq_ofEntries]
  exact Index.consistent_ofEntries _ _

end Operation

end RailsNavigator
