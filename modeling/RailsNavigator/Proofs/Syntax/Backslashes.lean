import Mathlib.Algebra.Order.BigOperators.Group.List
import Mathlib.Algebra.Order.Group.Nat
import Mathlib.Algebra.Ring.Parity
import RailsNavigator.Syntax.Build

/-!
# Backslashes in single quotes

Content in single quotes is read in two passes: doubled backslashes first, then escaped quotes. The
second pass reads what the first has written, so a backslash that an escape stood for can be taken
for the beginning of another escape. This file compares the two passes with a single one, in which
each escape is read once.

A text falls into runs of backslashes with a character behind each, and a run of any length is read
at a time. The passes agree on all runs but those of even length in front of a quote. A literal that
ends at the first quote that is not escaped has no such run.
-/

namespace RailsNavigator

namespace Literal

/-- The text of content in single quotes with each escape read once, from left to right. -/
def unescapeOnce : List Char → List Char
  | '\\' :: '\\' :: rest => '\\' :: unescapeOnce rest
  | '\\' :: '\'' :: rest => '\'' :: unescapeOnce rest
  | character :: rest => character :: unescapeOnce rest
  | [] => []

/-- The number of backslashes at the end of a text. -/
def backslashesAtEnd (text : List Char) : Nat :=
  (text.reverse.takeWhile (· == '\\')).length

/-- Each quote in a text stands behind an allowed number of backslashes. -/
def EachQuote (allowed : Nat → Prop) (text : List Char) : Prop :=
  ∀ place < text.length, text[place]? = some '\'' → allowed (backslashesAtEnd (text.take place))

instance (allowed : Nat → Prop) [DecidablePred allowed] (text : List Char) :
    Decidable (EachQuote allowed text) :=
  inferInstanceAs (Decidable (∀ place < text.length, _ → _))

/-- Induction over the runs of backslashes in a text: it ends with one, or goes on behind it with
another character. -/
@[elab_as_elim]
theorem runInduction {motive : List Char → Prop}
    (ending : ∀ count, motive (List.replicate count '\\'))
    (run : ∀ count character rest, character ≠ '\\' → motive rest →
      motive (List.replicate count '\\' ++ character :: rest))
    (text : List Char) : motive text := by
  -- The run that is begun is kept apart, since the motive is known for whole runs only.
  suffices ∀ count, motive (List.replicate count '\\' ++ text) from this 0
  induction text with
  | nil => simpa using ending
  | cons character rest hypothesis =>
      intro count
      by_cases isBackslash : character = '\\'
      · subst isBackslash
        simpa [List.replicate_succ'] using hypothesis (count + 1)
      · exact run count character rest isBackslash (hypothesis 0)

theorem dropBackslash_cons {character : Char} (other : character ≠ '\\') (before : Char)
    (rest : List Char) :
    dropBackslash before (character :: rest) = character :: dropBackslash before rest := by
  cases rest with
  | nil => rfl
  | cons second rest => simp [dropBackslash, other]

theorem unescapeOnce_cons {character : Char} (other : character ≠ '\\') (rest : List Char) :
    unescapeOnce (character :: rest) = character :: unescapeOnce rest := by
  rw [unescapeOnce] <;> simp [other]

theorem dropBackslash_backslash {before : Char} {tail : List Char}
    (other : tail.head? ≠ some before) :
    dropBackslash before ('\\' :: tail) = '\\' :: dropBackslash before tail := by
  cases tail with
  | nil => rfl
  | cons second rest =>
      have differs : second ≠ before := by simpa using other
      simp [dropBackslash, differs]

/-- Of a run half is left when doubled backslashes are read, the odd one included. -/
theorem dropBackslash_backslash_run {tail : List Char} (other : tail.head? ≠ some '\\')
    (count : Nat) :
    dropBackslash '\\' (List.replicate count '\\' ++ tail)
      = List.replicate ((count + 1) / 2) '\\' ++ dropBackslash '\\' tail := by
  induction count using Nat.twoStepInduction with
  | zero => rfl
  | one => exact dropBackslash_backslash other
  | more count hypothesis _ =>
      have half : (count + 2 + 1) / 2 = (count + 1) / 2 + 1 := by omega
      simp [List.replicate_succ, dropBackslash, half, hypothesis]

theorem dropBackslash_quote_run {tail : List Char} (other : tail.head? ≠ some '\'')
    (count : Nat) :
    dropBackslash '\'' (List.replicate count '\\' ++ tail)
      = List.replicate count '\\' ++ dropBackslash '\'' tail := by
  induction count with
  | zero => rfl
  | succ count hypothesis =>
      have behind : (List.replicate count '\\' ++ tail).head? ≠ some '\'' := by
        cases count with
        | zero => simpa using other
        | succ count => simp [List.replicate_succ]
      rw [List.replicate_succ, List.cons_append, dropBackslash_backslash behind, hypothesis,
        List.cons_append]

/-- A run in front of a quote loses a backslash when escaped quotes are read. -/
theorem dropBackslash_quote_run_quote (count : Nat) (rest : List Char) :
    dropBackslash '\'' (List.replicate count '\\' ++ '\'' :: rest)
      = List.replicate (count - 1) '\\' ++ '\'' :: dropBackslash '\'' rest := by
  cases count with
  | zero => exact dropBackslash_cons (by decide) _ _
  | succ count =>
      -- Seen from the rest of the run, the next character is a backslash and not the quote.
      have split : List.replicate (count + 1) '\\' ++ '\'' :: rest
          = List.replicate count '\\' ++ '\\' :: '\'' :: rest := by
        simp [List.replicate_succ']
      rw [split, dropBackslash_quote_run (by simp)]
      rfl

theorem unescapeSingle_replicate (count : Nat) :
    unescapeSingle (List.replicate count '\\') = List.replicate ((count + 1) / 2) '\\' := by
  have first := @dropBackslash_backslash_run [] (by simp) count
  have second := @dropBackslash_quote_run [] (by simp) ((count + 1) / 2)
  simp only [dropBackslash, List.append_nil] at first second
  rw [unescapeSingle, first, second]

/-- The second pass takes a backslash in front of a quote that the first has left there, whether it
escaped the quote or was escaped itself. -/
theorem unescapeSingle_run {character : Char} (other : character ≠ '\\') (count : Nat)
    (rest : List Char) :
    unescapeSingle (List.replicate count '\\' ++ character :: rest)
      = List.replicate (if character = '\'' then (count + 1) / 2 - 1 else (count + 1) / 2) '\\'
          ++ character :: unescapeSingle rest := by
  unfold unescapeSingle
  rw [dropBackslash_backslash_run (by simpa using other), dropBackslash_cons other]
  split
  · subst character
    exact dropBackslash_quote_run_quote _ _
  · rename_i notQuote
    rw [dropBackslash_quote_run (by simpa using notQuote), dropBackslash_cons other]

/-- An escape is read once, whatever follows it. -/
theorem unescapeOnce_escape (character : Char) (further : List Char) :
    unescapeOnce ('\\' :: character :: further)
      = unescapeSingleEscape ['\\', character] ++ unescapeOnce further := by
  by_cases isBackslash : character = '\\'
  · subst isBackslash
    rfl
  by_cases isQuote : character = '\''
  · subst isQuote
    rfl
  have kept : unescapeOnce ('\\' :: character :: further)
      = '\\' :: unescapeOnce (character :: further) := by
    rw [unescapeOnce] <;> simp [isBackslash, isQuote]
  rw [kept, unescapeOnce_cons isBackslash]
  simp [unescapeSingleEscape, isBackslash, isQuote]

theorem unescapeOnce_lone_escape (character : Char) :
    unescapeOnce ['\\', character] = unescapeSingleEscape ['\\', character] :=
  (unescapeOnce_escape character []).trans (List.append_nil _)

theorem unescapeOnce_pairs (pairs : Nat) (further : List Char) :
    unescapeOnce (List.replicate (2 * pairs) '\\' ++ further)
      = List.replicate pairs '\\' ++ unescapeOnce further := by
  induction pairs with
  | zero => rfl
  | succ pairs hypothesis =>
      rw [Nat.mul_add, List.replicate_succ, List.replicate_succ, List.replicate_succ]
      simp only [List.cons_append, unescapeOnce, hypothesis]

theorem unescapeOnce_replicate (count : Nat) :
    unescapeOnce (List.replicate count '\\') = List.replicate ((count + 1) / 2) '\\' := by
  rcases Nat.even_or_odd' count with ⟨pairs, rfl | rfl⟩
  · have half : (2 * pairs + 1) / 2 = pairs := by omega
    simpa [half, unescapeOnce] using unescapeOnce_pairs pairs []
  · have half : (2 * pairs + 1 + 1) / 2 = pairs + 1 := by omega
    simpa [half, unescapeOnce, List.replicate_succ'] using unescapeOnce_pairs pairs ['\\']

/-- In one pass the pairs of a run are read first, and what is left of it escapes a quote. -/
theorem unescapeOnce_run {character : Char} (other : character ≠ '\\') (count : Nat)
    (rest : List Char) :
    unescapeOnce (List.replicate count '\\' ++ character :: rest)
      = List.replicate (if character = '\'' then count / 2 else (count + 1) / 2) '\\'
          ++ character :: unescapeOnce rest := by
  rcases Nat.even_or_odd' count with ⟨pairs, rfl | rfl⟩
  · have half : 2 * pairs / 2 = pairs ∧ (2 * pairs + 1) / 2 = pairs := by omega
    rw [unescapeOnce_pairs, unescapeOnce_cons other, half.1, half.2, ite_self]
  · have half : (2 * pairs + 1) / 2 = pairs ∧ (2 * pairs + 1 + 1) / 2 = pairs + 1 := by omega
    rw [half.1, half.2, List.replicate_succ', List.append_assoc, unescapeOnce_pairs,
      List.singleton_append, unescapeOnce_escape]
    split
    · subst character
      rfl
    · rename_i notQuote
      simp [unescapeSingleEscape, other, notQuote, List.replicate_succ']

theorem backslashesAtEnd_replicate (count : Nat) :
    backslashesAtEnd (List.replicate count '\\') = count := by
  simp [backslashesAtEnd]

theorem backslashesAtEnd_append_cons {character : Char} (other : character ≠ '\\')
    (front rest : List Char) :
    backslashesAtEnd (front ++ character :: rest) = backslashesAtEnd rest := by
  unfold backslashesAtEnd
  rw [List.reverse_append, List.reverse_cons, List.append_assoc, List.takeWhile_append]
  split
  · rename_i allBackslashes
    simp [other, allBackslashes]
  · rfl

theorem EachQuote.mono {allowed weaker : Nat → Prop} {text : List Char}
    (quotes : EachQuote allowed text) (implies : ∀ count, allowed count → weaker count) :
    EachQuote weaker text :=
  fun place inside isQuote => implies _ (quotes place inside isQuote)

theorem eachQuote_replicate (allowed : Nat → Prop) (count : Nat) :
    EachQuote allowed (List.replicate count '\\') := by
  intro place inside isQuote
  rw [List.length_replicate] at inside
  simp [inside] at isQuote

theorem backslashesAtEnd_take_run {character : Char} (other : character ≠ '\\')
    (count place : Nat) (rest : List Char) :
    backslashesAtEnd ((List.replicate count '\\' ++ character :: rest).take (count + (place + 1)))
      = backslashesAtEnd (rest.take place) := by
  rw [List.take_append, List.take_of_length_le (by simp), List.length_replicate,
    Nat.add_sub_cancel_left, List.take_succ_cons, backslashesAtEnd_append_cons other]

/-- The quotes in a text are the character behind its first run, if it is one, and those after. -/
theorem eachQuote_run (allowed : Nat → Prop) {character : Char} (other : character ≠ '\\')
    (count : Nat) (rest : List Char) :
    EachQuote allowed (List.replicate count '\\' ++ character :: rest)
      ↔ (character = '\'' → allowed count) ∧ EachQuote allowed rest := by
  have atRun : backslashesAtEnd ((List.replicate count '\\' ++ character :: rest).take count)
      = count := by
    rw [List.take_left' (by simp), backslashesAtEnd_replicate]
  constructor
  · intro quotes
    refine ⟨?_, ?_⟩
    · rintro rfl
      have first := quotes count (by simp) (by simp)
      rwa [atRun] at first
    · intro place inside isQuote
      have later := quotes (count + (place + 1)) (by simp; omega)
        (by simpa [List.getElem?_append_right] using isQuote)
      rwa [backslashesAtEnd_take_run other] at later
  · rintro ⟨first, later⟩ place inside isQuote
    rcases Nat.lt_trichotomy place count with before | rfl | behind
    · simp [List.getElem?_append_left, before] at isQuote
    · rw [atRun]
      exact first (by simpa using isQuote)
    · obtain ⟨further, rfl⟩ : ∃ further, place = count + (further + 1) :=
        ⟨place - count - 1, by omega⟩
      rw [backslashesAtEnd_take_run other]
      refine later further (by simp at inside; omega) ?_
      simpa [List.getElem?_append_right] using isQuote

/-- A text that begins with a run says how long the run is. -/
theorem run_inj {character : Char} (other : character ≠ '\\') {count further : Nat}
    {rest tail : List Char} :
    List.replicate count '\\' ++ character :: rest
        = List.replicate further '\\' ++ character :: tail
      ↔ count = further ∧ rest = tail := by
  induction count generalizing further with
  | zero =>
      cases further with
      | zero => simp
      | succ further => simp [List.replicate_succ, other]
  | succ count hypothesis =>
      cases further with
      | zero => simp [List.replicate_succ, other.symm]
      | succ further => simp [List.replicate_succ, hypothesis]

/-- The two passes read a text as one does unless a quote in it stands behind an even number of
backslashes, not counting quotes behind none. -/
theorem unescapeSingle_eq_iff (text : List Char) :
    unescapeSingle text = unescapeOnce text
      ↔ EachQuote (fun count => ¬(count ≠ 0 ∧ Even count)) text := by
  induction text using runInduction with
  | ending count =>
      rw [unescapeSingle_replicate, unescapeOnce_replicate]
      exact iff_of_true rfl (eachQuote_replicate _ count)
  | run count character rest other hypothesis =>
      rw [unescapeSingle_run other, unescapeOnce_run other, run_inj other, eachQuote_run _ other,
        hypothesis, Nat.even_iff]
      apply and_congr_left'
      split
      · rename_i isQuote
        simp only [isQuote, forall_const]
        omega
      · rename_i notQuote
        simp [notQuote]

/-- Where they differ, two passes leave less than one. -/
theorem length_unescapeSingle_le (text : List Char) :
    (unescapeSingle text).length ≤ (unescapeOnce text).length := by
  induction text using runInduction with
  | ending count => rw [unescapeSingle_replicate, unescapeOnce_replicate]
  | run count character rest other hypothesis =>
      rw [unescapeSingle_run other, unescapeOnce_run other]
      simp only [List.length_append, List.length_replicate, List.length_cons]
      split <;> omega

/-- A text can be cut between escapes. -/
theorem unescapeOnce_append {text : List Char} (whole : Even (backslashesAtEnd text))
    (further : List Char) :
    unescapeOnce (text ++ further) = unescapeOnce text ++ unescapeOnce further := by
  induction text using runInduction with
  | ending count =>
      rw [backslashesAtEnd_replicate] at whole
      rcases whole.two_dvd with ⟨pairs, rfl⟩
      have half : (2 * pairs + 1) / 2 = pairs := by omega
      rw [unescapeOnce_pairs, unescapeOnce_replicate, half]
  | run count character rest other hypothesis =>
      rw [backslashesAtEnd_append_cons other] at whole
      rw [List.append_assoc, List.cons_append, unescapeOnce_run other, unescapeOnce_run other,
        hypothesis whole, List.append_assoc, List.cons_append]

end Literal

/-- If no piece of the first join is longer than its counterpart in the second, the joins are the
same only if all pieces are. -/
theorem flatMap_eq_flatMap_iff {α β : Type} {first second : α → List β} {items : List α}
    (shorter : ∀ item ∈ items, (first item).length ≤ (second item).length) :
    items.flatMap first = items.flatMap second ↔ ∀ item ∈ items, first item = second item := by
  induction items with
  | nil => simp
  | cons item rest hypothesis =>
      have here := shorter item List.mem_cons_self
      have later : ∀ item ∈ rest, (first item).length ≤ (second item).length :=
        fun item member => shorter item (List.mem_cons_of_mem _ member)
      have total : (rest.flatMap first).length ≤ (rest.flatMap second).length := by
        rw [List.length_flatMap, List.length_flatMap]
        exact List.sum_le_sum later
      rw [List.forall_mem_cons, ← hypothesis later, List.flatMap_cons, List.flatMap_cons]
      constructor
      · intro same
        have lengths := congrArg List.length same
        rw [List.length_append, List.length_append] at lengths
        exact List.append_inj same (by omega)
      · rintro ⟨sameHere, sameLater⟩
        rw [sameHere, sameLater]

namespace Build

/-- The text of a part of a literal in single quotes. -/
def singleText (source : Source) (part : Concrete) : List Char :=
  if part.kind = "escape_sequence" then Literal.unescapeSingleEscape (source.textOf part)
  else Literal.unescapeSingle (source.textOf part)

theorem partText_true (source : Source) (part : Concrete) :
    partText source true part = .ok (singleText source part) := by
  unfold partText singleText
  by_cases isEscape : part.kind = "escape_sequence" <;> simp [isEscape]

theorem partsText?_true {source : Source} {parts : List Concrete}
    (plain : ∀ part ∈ parts, part.kind ≠ "interpolation") :
    partsText? source true parts = .ok (some (parts.flatMap (singleText source))) := by
  induction parts with
  | nil => rfl
  | cons part rest hypothesis =>
      rw [List.forall_mem_cons] at plain
      rw [partsText?, hypothesis plain.2, partText_true]
      simp [plain.1, bind, Except.bind, pure, Except.pure]

/-- A part of a literal in single quotes: content, or a backslash with the character behind it. -/
structure IsSinglePart (source : Source) (part : Concrete) : Prop where
  not_interpolation : part.kind ≠ "interpolation"
  of_escape : part.kind = "escape_sequence" →
    ∃ character, source.textOf part = ['\\', character]

theorem isSinglePart_of_content {source : Source} {part : Concrete}
    (isContent : part.kind = "string_content") : IsSinglePart source part where
  not_interpolation := by simp [isContent]
  of_escape := by simp [isContent]

/-- A literal between quotes as a lexer cuts it that reads a backslash together with the character
behind it: quotes in its content are escaped, and no escape goes from one part into the next. -/
structure IsQuoted (source : Source) (literal : Concrete) (body : List Char) : Prop where
  text_eq : source.textOf literal = '\'' :: (body ++ ['\''])
  parts_eq : literal.namedChildren.flatMap source.textOf = body
  isPart : ∀ part ∈ literal.namedChildren, IsSinglePart source part
  quotes : ∀ part ∈ literal.namedChildren, part.kind ≠ "escape_sequence" →
    Literal.EachQuote Odd (source.textOf part)
  ends : ∀ part ∈ literal.namedChildren.dropLast, part.kind ≠ "escape_sequence" →
    Even (Literal.backslashesAtEnd (source.textOf part))

variable {source : Source} {part literal : Concrete}

theorem singleText_eq_iff (isPart : IsSinglePart source part) :
    singleText source part = Literal.unescapeOnce (source.textOf part)
      ↔ (part.kind ≠ "escape_sequence" →
          Literal.EachQuote (fun count => ¬(count ≠ 0 ∧ Even count)) (source.textOf part)) := by
  unfold singleText
  split
  · rename_i isEscape
    rcases isPart.of_escape isEscape with ⟨character, isText⟩
    simp [isEscape, isText, Literal.unescapeOnce_lone_escape]
  · rename_i isContent
    rw [Literal.unescapeSingle_eq_iff]
    simp [isContent]

theorem length_singleText_le (isPart : IsSinglePart source part) :
    (singleText source part).length ≤ (Literal.unescapeOnce (source.textOf part)).length := by
  by_cases isEscape : part.kind = "escape_sequence"
  · rw [(singleText_eq_iff isPart).mpr (fun isContent => absurd isEscape isContent)]
  · rw [singleText, if_neg isEscape]
    exact Literal.length_unescapeSingle_le _

theorem content?_of_isSingleQuoted (single : Literal.isSingleQuoted (source.textOf literal) = true)
    (isPart : ∀ part ∈ literal.namedChildren, IsSinglePart source part) :
    content? source literal
      = .ok (some (String.ofList (literal.namedChildren.flatMap (singleText source)))) := by
  rw [content?, single, partsText?_true fun part member => (isPart part member).not_interpolation]
  rfl

/-- A literal has the text that one pass makes of its parts exactly if each content is read as in
one pass: what is lost in one part cannot be made up for in another. -/
theorem content?_eq_iff (single : Literal.isSingleQuoted (source.textOf literal) = true)
    (isPart : ∀ part ∈ literal.namedChildren, IsSinglePart source part) :
    content? source literal
        = .ok (some (String.ofList (literal.namedChildren.flatMap fun part =>
            Literal.unescapeOnce (source.textOf part))))
      ↔ ∀ part ∈ literal.namedChildren, part.kind ≠ "escape_sequence" →
          Literal.EachQuote (fun count => ¬(count ≠ 0 ∧ Even count)) (source.textOf part) := by
  rw [content?_of_isSingleQuoted single isPart, Except.ok.injEq, Option.some.injEq,
    String.ofList_inj,
    flatMap_eq_flatMap_iff fun part member => length_singleText_le (isPart part member)]
  exact forall₂_congr fun part member => singleText_eq_iff (isPart part member)

/-- Parts with no escape across their borders are read one by one as they are read together. -/
theorem unescapeOnce_flatMap {parts : List Concrete}
    (isPart : ∀ part ∈ parts, IsSinglePart source part)
    (ends : ∀ part ∈ parts.dropLast, part.kind ≠ "escape_sequence" →
      Even (Literal.backslashesAtEnd (source.textOf part))) :
    Literal.unescapeOnce (parts.flatMap source.textOf)
      = parts.flatMap fun part => Literal.unescapeOnce (source.textOf part) := by
  induction parts with
  | nil => rfl
  | cons part rest hypothesis =>
      cases rest with
      -- The last part may end as it likes.
      | nil => simp
      | cons next rest =>
          rw [List.forall_mem_cons] at isPart
          rw [List.dropLast_cons_cons, List.forall_mem_cons] at ends
          have apart : ∀ read : Concrete → List Char, (part :: next :: rest).flatMap read
              = read part ++ (next :: rest).flatMap read := fun _ => List.flatMap_cons
          rw [apart, apart, ← hypothesis isPart.2 ends.2]
          by_cases isEscape : part.kind = "escape_sequence"
          · rcases isPart.1.of_escape isEscape with ⟨character, isText⟩
            rw [isText, List.cons_append, List.singleton_append, Literal.unescapeOnce_escape,
              Literal.unescapeOnce_lone_escape]
          · exact Literal.unescapeOnce_append (ends.1 isEscape) _

/-- An odd number is neither zero nor even, so the text between quotes is read as in one pass. -/
theorem content?_of_isQuoted {body : List Char} (quoted : IsQuoted source literal body) :
    content? source literal = .ok (some (String.ofList (Literal.unescapeOnce body))) := by
  have single : Literal.isSingleQuoted (source.textOf literal) = true := by
    rw [quoted.text_eq]
    rfl
  rw [← quoted.parts_eq, unescapeOnce_flatMap quoted.isPart quoted.ends,
    content?_eq_iff single quoted.isPart]
  intro part member isContent
  refine (quoted.quotes part member isContent).mono ?_
  rintro count odd ⟨-, even⟩
  exact Nat.not_even_iff_odd.mpr odd even

theorem build_of_isQuoted {body : List Char} (quoted : IsQuoted source literal body)
    (isString : literal.kind = "string") (converted : Converted) (expression : Bool) :
    build source converted expression literal
      = .ok (.string (info source literal) (String.ofList (Literal.unescapeOnce body))) := by
  have construct : Construct.ofKind literal.kind = .string := by
    rw [isString]
    rfl
  have plain : isInterpolated literal = false := by
    simpa [isInterpolated] using fun part member => (quoted.isPart part member).not_interpolation
  simp only [build, construct, plain, content?_of_isQuoted quoted]
  rfl

/-- Content in single quotes is read in two passes as in one exactly if no quote in it stands behind
an even number of backslashes other than zero, and a literal in single quotes exactly if this is so
for each of its contents. Between quotes it always is: the literal, and the node of a string, have
the text that one pass makes of what stands between the quotes. -/
theorem singleQuotes_read_once_iff :
    (∀ text : List Char,
      Literal.unescapeSingle text = Literal.unescapeOnce text
        ↔ Literal.EachQuote (fun count => ¬(count ≠ 0 ∧ Even count)) text) ∧
    (∀ (source : Source) (literal : Concrete),
      Literal.isSingleQuoted (source.textOf literal) = true →
      (∀ part ∈ literal.namedChildren, IsSinglePart source part) →
      (content? source literal
          = .ok (some (String.ofList (literal.namedChildren.flatMap fun part =>
              Literal.unescapeOnce (source.textOf part))))
        ↔ ∀ part ∈ literal.namedChildren, part.kind ≠ "escape_sequence" →
            Literal.EachQuote (fun count => ¬(count ≠ 0 ∧ Even count)) (source.textOf part))) ∧
    ∀ (source : Source) (literal : Concrete) (body : List Char), IsQuoted source literal body →
      content? source literal = .ok (some (String.ofList (Literal.unescapeOnce body))) ∧
      (literal.kind = "string" → ∀ converted expression,
        build source converted expression literal
          = .ok (.string (info source literal) (String.ofList (Literal.unescapeOnce body)))) :=
  ⟨Literal.unescapeSingle_eq_iff, fun _ _ => content?_eq_iff,
    fun _ _ _ quoted => ⟨content?_of_isQuoted quoted, build_of_isQuoted quoted⟩⟩

/-- The literals `'it\'s\\\'x\\'` and `%q(a\\'b)`. -/
def quotesSource : Source := Source.ofText "'it\\'s\\\\\\'x\\\\'\n%q(a\\\\'b)\n"

def quotedLiteral : Concrete :=
  .node ⟨1, "string", true, false, none, 0, 14, ⟨0, 0⟩, ⟨0, 14⟩⟩
    [.node ⟨2, "\"", false, false, none, 0, 1, ⟨0, 0⟩, ⟨0, 1⟩⟩ [],
      .node ⟨3, "string_content", true, false, none, 1, 13, ⟨0, 1⟩, ⟨0, 13⟩⟩ [],
      .node ⟨4, "\"", false, false, none, 13, 14, ⟨0, 13⟩, ⟨0, 14⟩⟩ []]

def percentLiteral : Concrete :=
  .node ⟨5, "string", true, false, none, 15, 24, ⟨1, 0⟩, ⟨1, 9⟩⟩
    [.node ⟨6, "\"", false, false, none, 15, 18, ⟨1, 0⟩, ⟨1, 3⟩⟩ [],
      .node ⟨7, "string_content", true, false, none, 18, 23, ⟨1, 3⟩, ⟨1, 8⟩⟩ [],
      .node ⟨8, "\"", false, false, none, 23, 24, ⟨1, 8⟩, ⟨1, 9⟩⟩ []]

/-- Between quotes runs of one and three backslashes are read well, and so is one of two at the end.
Between brackets a quote stands behind two, and the backslash that they stand for is lost. -/
theorem singleQuotes_read_once_iff_literals :
    IsQuoted quotesSource quotedLiteral "it\\'s\\\\\\'x\\\\".toList ∧
    content? quotesSource quotedLiteral = .ok (some "it's\\'x\\") ∧
    build quotesSource (fun _ => none) false quotedLiteral
      = .ok (.string ⟨.converted 1, "string", ⟨0, 0, 0, 14⟩⟩ "it's\\'x\\") ∧
    Literal.isSingleQuoted (quotesSource.textOf percentLiteral) = true ∧
    content? quotesSource percentLiteral = .ok (some "a'b") ∧
    content? quotesSource percentLiteral
      ≠ .ok (some (String.ofList (percentLiteral.namedChildren.flatMap fun part =>
          Literal.unescapeOnce (quotesSource.textOf part)))) := by
  have quoted : IsQuoted quotesSource quotedLiteral "it\\'s\\\\\\'x\\\\".toList := {
    text_eq := by decide +kernel
    parts_eq := by decide +kernel
    isPart := by
      have contents : ∀ part ∈ quotedLiteral.namedChildren, part.kind = "string_content" := by
        decide
      exact fun part member => isSinglePart_of_content (contents part member)
    quotes := by decide +kernel
    ends := by decide +kernel }
  have contents : ∀ part ∈ percentLiteral.namedChildren, part.kind = "string_content" := by
    decide
  have single : Literal.isSingleQuoted (quotesSource.textOf percentLiteral) = true := by
    decide +kernel
  rcases singleQuotes_read_once_iff with ⟨-, percent, betweenQuotes⟩
  rcases betweenQuotes _ _ _ quoted with ⟨text, node⟩
  refine ⟨quoted, text, node rfl _ _, single, rfl, fun sameAsOnce => ?_⟩
  have quotes := (percent _ _ single
    fun part member => isSinglePart_of_content (contents part member)).mp sameAsOnce
  revert quotes
  decide +kernel

end Build

end RailsNavigator
