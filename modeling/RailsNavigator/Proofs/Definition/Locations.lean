import RailsNavigator.Definition.Answer
import RailsNavigator.Proofs.Definition.Queries

/-!
# One question for each request

A request for definitions puts at most one question, to the index or to the runner. Which one it is
depends on the settings, the document and the position only. Before the question there are only
notices, and what follows reads the reply.
-/

namespace RailsNavigator.Definition

/-- What is replied to a query. -/
def Query.Reply : Query → Type
  | .method .. => Option (List MethodEntry)
  | .association .. | .route .. => Option Place
  | .action .. => Option (List Place)

/-- Puts a query to the index or to the runner. -/
def ask (index : Index) : (query : Query) → Runner.Conversation query.Reply
  | .method name owner => (pure (index.resolveMethod? name owner) : Runner.Conversation _)
  | .association model name => Runner.Conversation.associationTarget model name
  | .route helper => Runner.Conversation.routeLocation helper
  | .action controller action => Runner.Conversation.actionTargets controller action

/-- The locations in the reply to a query. -/
def read : (query : Query) → query.Reply → Traced (List Location)
  | .method name owner, none | .method name owner, some [] => do
      Traced.notice (.noDefinition name owner)
      return []
  | .method .., some entries => return entries.map fun entry => ⟨entry.uri, entry.range⟩
  | .association _ name, none | .association _ name, some [] => do
      Traced.notice (.noAssociation name)
      return []
  | .association .., some place => locationOf place
  | .route _, none | .route _, some [] => return []
  | .route _, some place => locationOf place
  | .action .., none => return []
  | .action .., some places => locationsOf places

/-- Puts a query, if there is one, and reads the reply. -/
def askOnce (index : Index) : Option Query → Runner.Conversation (List Location)
  | none => return []
  | some query => do
      let reply ← ask index query
      StateT.lift (read query reply)

/-- A query is answered by putting it once and reading the reply. -/
theorem answer_eq_askOnce (index : Index) (query : Query) :
    answer index query = askOnce index (some query) := by
  cases query with
  | method name owner =>
      simp only [answer, methodLocations, askOnce, ask]
      rcases index.resolveMethod? name owner with _ | _ | ⟨entry, rest⟩
      · rfl
      · rfl
      · rfl
  | association model name =>
      simp only [answer, askOnce, ask]
      congr 1
      funext reply
      rcases reply with _ | _ | ⟨field, rest⟩
      · rfl
      · rfl
      · rfl
  | route helper =>
      simp only [answer, askOnce, ask]
      congr 1
      funext reply
      rcases reply with _ | _ | ⟨field, rest⟩
      · rfl
      · rfl
      · rfl
  | action controller action =>
      simp only [answer, askOnce, ask]
      congr 1
      funext reply
      cases reply with
      | none => rfl
      | some places => rfl

theorem head?_eq_some_iff_mem {asked : List Query} (single : asked.length ≤ 1) {query : Query} :
    asked.head? = some query ↔ query ∈ asked := by
  cases asked with
  | nil => simp
  | cons first rest =>
      have noMore : rest = [] := List.length_eq_zero_iff.mp (by simpa using single)
      subst noMore
      simp [eq_comm]

/-- With one query at most, resolving a node reports notices and puts the query. -/
theorem resolve_eq_askOnce {settings : Settings} {document : Document} {context : Context}
    {node : Node} {notices : List Log.Notice} (index : Index)
    (single : (queries settings document context node).value.length ≤ 1)
    (reports : (queries settings document context node).effects = notices.map .notice) :
    resolve settings index document context node = (do
      forM notices Runner.Conversation.notice
      askOnce index (queries settings document context node).value.head?) := by
  have parts : queries settings document context node
      = ⟨(queries settings document context node).value, notices.map .notice⟩ := by
    rw [← reports]
  unfold resolve
  rw [parts, Runner.Conversation.lift_eq_forM, bind_assoc]
  congr 1
  funext
  rw [pure_bind]
  cases asked : (queries settings document context node).value with
  | nil => rfl
  | cons query rest =>
      have noMore : rest = [] := by
        rw [asked] at single
        exact List.length_eq_zero_iff.mp (by simpa using single)
      subst noMore
      simp [answer_eq_askOnce]

/-- A symbol that is a condition of a callback, as in `class A;before_save if: :n;end`. -/
def conditionInClass : Concrete :=
  .node ⟨0, "program", true, false, none, 0, 30, ⟨0, 0⟩, ⟨0, 30⟩⟩
    [.node ⟨1, "class", true, false, none, 0, 30, ⟨0, 0⟩, ⟨0, 30⟩⟩
      [.node ⟨2, "constant", true, false, some "name", 6, 7, ⟨0, 6⟩, ⟨0, 7⟩⟩ [],
        .node ⟨3, "call", true, false, none, 8, 26, ⟨0, 8⟩, ⟨0, 26⟩⟩
          [.node ⟨4, "identifier", true, false, some "method", 8, 19, ⟨0, 8⟩, ⟨0, 19⟩⟩ [],
            .node ⟨5, "argument_list", true, false, some "arguments", 20, 26, ⟨0, 20⟩, ⟨0, 26⟩⟩
              [.node ⟨6, "pair", true, false, none, 20, 26, ⟨0, 20⟩, ⟨0, 26⟩⟩
                [.node ⟨7, "hash_key_symbol", true, false, some "key", 20, 22, ⟨0, 20⟩, ⟨0, 22⟩⟩ [],
                  .node ⟨8, "simple_symbol", true, false, some "value", 24, 26, ⟨0, 24⟩, ⟨0, 26⟩⟩
                    []]]]]]

end RailsNavigator.Definition
