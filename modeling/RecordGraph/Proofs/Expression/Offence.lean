import RecordGraph.Proofs.Expression.Grammar
import RecordGraph.Proofs.Expression.Scanning
import Mathlib.Data.List.Infix

/-!
Contract: where the reading of a text that is no expression stops.

Owns: `Leaves`, `OffendsAt`, and that a refused text is refused at the place that offends.
Does not own: the wording of refusals.

Whatever the reader has read can be continued: every state accepts some rest. A state refuses a
token only if no rest that begins with it is accepted. So the reader stops neither before the first
token that no continuation has nor after it.
-/

namespace RecordGraph

open RecordGraph.Text

/-! ## What a state accepts -/

namespace Phrase

/-- Whether tokens are an expression. -/
def IsExpression (kinds : List TokenKind) : Prop :=
  ∃ paths, Denotes .expression kinds paths

end Phrase

open Phrase

/-- Whether a state accepts tokens as the rest of an expression. -/
def ParseState.Accepts (state : ParseState) (kinds : List TokenKind) : Prop :=
  ∃ paths, state.Demands kinds paths

/-- Open groups can be closed. -/
theorem closes_closings (groups : List (List String)) :
    Closes groups (groups.map fun _ => .closing) [] := by
  induction groups with
  | nil => exact closes_nil_iff.2 ⟨rfl, rfl⟩
  | cons path outer inductionHypothesis =>
      rw [List.map_cons, closes_closing]
      exact inductionHypothesis

/-- Every state can be left towards the end of an expression. -/
theorem ParseState.exists_accepts (state : ParseState) : ∃ kinds, state.Accepts kinds := by
  have item : ∀ path groups, ItemCloses path groups
      (.name "a" :: groups.map fun _ => .closing) [path ++ ["a"]] := by
    intro path groups
    exact itemCloses_name.2 ⟨[], rfl, Or.inl (closes_closings groups)⟩
  cases state with
  | item path groups => exact ⟨_, _, item path groups⟩
  | first path groups => exact ⟨_, _, item path groups⟩
  | named path groups => exact ⟨_, _, Or.inl (closes_closings groups)⟩
  | grouped groups => exact ⟨_, _, closes_closings groups⟩

/-! ## One token -/

section Step

variable {state next : ParseState} {token : Token} {denoted : List (List String)}
  {failure : ParseFailure} {kinds : List TokenKind}

theorem accepts_cons_iff (stepped : state.step token = .ok (next, denoted)) :
    state.Accepts (token.kind :: kinds) ↔ next.Accepts kinds := by
  unfold ParseState.Accepts
  simp only [← step_advances, stepped, advances_ok]
  constructor
  · rintro ⟨_, others, _, demands⟩
    exact ⟨others, demands⟩
  · rintro ⟨others, demands⟩
    exact ⟨denoted ++ others, others, rfl, demands⟩

/-- A token is refused only if nothing that begins with it is accepted. -/
theorem not_accepts_of_refused (refused : state.step token = .error failure) :
    ¬ state.Accepts (token.kind :: kinds) := by
  rintro ⟨paths, demands⟩
  rw [← step_advances, refused] at demands
  exact not_advances_error demands

theorem position_of_beginItem {path : List String} {groups : List (List String)}
    (refused : beginItem path groups token = .error failure) :
    failure.position = some token.position := by
  unfold beginItem at refused
  split at refused <;> cases refused
  rfl

theorem position_of_followItem {groups : List (List String)}
    (refused : followItem groups token = .error failure) :
    failure.position = some token.position := by
  unfold followItem at refused
  split at refused <;> cases refused <;> rfl

/-- A token is refused at its own place. -/
theorem position_of_refused (refused : state.step token = .error failure) :
    failure.position = some token.position := by
  cases state with
  | item path groups => exact position_of_beginItem refused
  | first path groups =>
      rw [ParseState.step] at refused
      split at refused
      · cases refused
        rfl
      · exact position_of_beginItem refused
  | named path groups =>
      rw [ParseState.step] at refused
      split at refused
      · cases refused
      · exact position_of_followItem refused
  | grouped groups => exact position_of_followItem refused

end Step

/-! ## All tokens -/

/-- Whether tokens leave a language of token kinds at a place, or without one at their end: what comes
before can be continued in the language, and with what stands there it cannot. -/
inductive Leaves (language : List TokenKind → Prop) : List Token → Option Nat → Prop where
  | token {before after : List Token} {token : Token} {more : List TokenKind} :
      language (before.map (·.kind) ++ more) →
        (∀ rest, ¬ language (before.map (·.kind) ++ token.kind :: rest)) →
          Leaves language (before ++ token :: after) (some token.position)
  | ending {tokens : List Token} {more : List TokenKind} :
      language (tokens.map (·.kind) ++ more) → ¬ language (tokens.map (·.kind)) →
        Leaves language tokens none

/-- A reading that fails has stopped where the tokens leave what the state accepts. -/
theorem leaves_of_parseTokens {tokens : List Token} : ∀ {state : ParseState}
    {failure : ParseFailure}, parseTokens state tokens = .error failure →
      Leaves state.Accepts tokens failure.position := by
  induction tokens with
  | nil =>
      intro state failure failed
      obtain ⟨more, viable⟩ := state.exists_accepts
      rw [parseTokens] at failed
      split at failed
      · cases failed
      · rename_i reason lacks
        cases failed
        refine .ending viable ?_
        rintro ⟨paths, demands⟩
        cases lacks.symm.trans (lack?_eq_none_iff.2 demands).1
  | cons token rest inductionHypothesis =>
      intro state failure failed
      rw [parseTokens] at failed
      split at failed
      · rename_i refusal refused
        cases failed
        obtain ⟨more, viable⟩ := state.exists_accepts
        rw [position_of_refused refused]
        exact @Leaves.token _ [] rest token more viable fun _ => not_accepts_of_refused refused
      · rename_i next denoted stepped
        have leaves := inductionHypothesis (Result.map_eq_error.1 failed)
        generalize failure.position = place at leaves
        cases leaves with
        | @token before after other more viable refused =>
            refine @Leaves.token _ (token :: before) after other more ?_ fun others => ?_
            · exact (accepts_cons_iff stepped).2 viable
            · exact fun accepts => refused others ((accepts_cons_iff stepped).1 accepts)
        | ending viable refused =>
            refine .ending ((accepts_cons_iff stepped).2 viable) ?_
            exact fun accepts => refused ((accepts_cons_iff stepped).1 accepts)

/-! ## Places -/

namespace Leaves

variable {language : List TokenKind → Prop} {tokens before longer : List Token} {token : Token}
  {more : List TokenKind} {place other : Option Nat}

/-- What can be continued does not begin with what cannot. -/
theorem not_begins (refused : ∀ rest, ¬ language (before.map (·.kind) ++ token.kind :: rest))
    (viable : language (longer.map (·.kind) ++ more)) : ¬ before ++ [token] <+: longer := by
  rintro ⟨rest, rfl⟩
  refine refused (rest.map (·.kind) ++ more) ?_
  simpa using viable

/-- Tokens leave a language at one place. -/
theorem unique (leaves : Leaves language tokens place) (again : Leaves language tokens other) :
    place = other := by
  cases leaves with
  | @token before after first more viable refused =>
      have isPrefix : before ++ [first] <+: before ++ first :: after := ⟨after, by simp⟩
      generalize isSplit : before ++ first :: after = tokens at again isPrefix
      cases again with
      | @token before' after' first' more' viable' refused' =>
          have isPrefix' : before' ++ [first'] <+: before' ++ first' :: after' := ⟨after', by simp⟩
          have known : before' <+: before' ++ first' :: after' := List.prefix_append ..
          have isKnown : before <+: before' ++ first' :: after' := ⟨first :: after, isSplit⟩
          rcases Nat.lt_trichotomy before.length before'.length with shorter | same | longer
          · refine absurd (List.prefix_of_prefix_length_le isPrefix known ?_)
              (not_begins refused viable')
            rw [List.length_append]
            exact shorter
          · rw [(List.cons.inj (List.append_inj isSplit same).2).1]
          · refine absurd (List.prefix_of_prefix_length_le isPrefix' isKnown ?_)
              (not_begins refused' viable)
            rw [List.length_append]
            exact longer
      | ending viable' => exact absurd isPrefix (not_begins refused viable')
  | ending viable refused =>
      cases again with
      | @token before after first more viable' refused' =>
          have isPrefix : before ++ [first] <+: before ++ first :: after := ⟨after, by simp⟩
          exact absurd isPrefix (not_begins refused' viable)
      | ending => rfl

/-- What leaves a language is not in it. -/
theorem not_mem (leaves : Leaves language tokens place) : ¬ language (tokens.map (·.kind)) := by
  cases leaves with
  | @token before after first more viable refused =>
      rw [List.map_append, List.map_cons]
      exact refused _
  | ending viable refused => exact refused

end Leaves

/-- The reader begins in a state that accepts every expression of at least one token. -/
theorem accepts_start_iff {kinds : List TokenKind} :
    (ParseState.item [] []).Accepts kinds ↔ kinds ≠ [] ∧ IsExpression kinds := by
  have demands : ∀ paths, (ParseState.item [] []).Demands kinds paths ↔
      Denotes .items kinds paths := fun paths => itemCloses_outermost
  simp only [ParseState.Accepts, demands]
  constructor
  · rintro ⟨paths, items⟩
    exact ⟨items_ne_nil items, paths, .listed items⟩
  · rintro ⟨nonempty, paths, denotes⟩
    cases denotes with
    | nothing => exact absurd rfl nonempty
    | listed items => exact ⟨paths, items⟩

/-- A reading of a whole text that fails has stopped where no expression goes on. -/
theorem leaves_of_paths {lexed : Lexed} {failure : ParseFailure}
    (failed : lexed.paths = .error failure) :
    Leaves IsExpression lexed.tokens failure.position := by
  unfold Lexed.paths at failed
  generalize lexed.tokens = tokens at failed ⊢
  split at failed
  · cases failed
  · rename_i tokens nonempty
    have leaves := leaves_of_parseTokens failed
    generalize failure.position = place at leaves ⊢
    cases leaves with
    | token viable refused =>
        refine .token (accepts_start_iff.1 viable).2 fun rest isExpression => refused rest ?_
        exact accepts_start_iff.2 ⟨by simp, isExpression⟩
    | ending viable refused =>
        refine .ending (accepts_start_iff.1 viable).2 fun isExpression => refused ?_
        exact accepts_start_iff.2 ⟨by simpa using nonempty, isExpression⟩

/-- Where a text offends: at the first character that is neither a blank nor the beginning of a token
or, if there is none, where its tokens cannot be continued to an expression any more. -/
inductive OffendsAt (expression : String) : Nat → Prop where
  | character {tokens : List Token} {c : Char} {rest : List Char} :
      Scanned 0 expression.toList tokens (c :: rest) → StartsNothing c →
        OffendsAt expression (expression.length - (c :: rest).length)
  | tokens {tokens : List Token} {place : Option Nat} :
      Scanned 0 expression.toList tokens [] → Leaves IsExpression tokens place →
        OffendsAt expression (place.getD expression.length)

namespace OffendsAt

variable {expression : String} {tokens : List Token} {position : Nat}

theorem iff_of_stuck {c : Char} {rest : List Char}
    (scanned : Scanned 0 expression.toList tokens (c :: rest)) (nothing : StartsNothing c) :
    OffendsAt expression position ↔ position = expression.length - (c :: rest).length := by
  constructor
  · intro offends
    have isLexed := scanned.lexFrom_eq_error nothing
    cases offends with
    | character again nothingElse =>
        have isSame := isLexed.symm.trans (again.lexFrom_eq_error nothingElse)
        have samePlace := (Prod.mk.inj (Except.error.inj isSame)).1
        rw [Nat.zero_add, String.length_toList] at samePlace
        exact samePlace.symm
    | tokens whole => cases isLexed.symm.trans whole.lexFrom_eq_ok
  · rintro rfl
    exact .character scanned nothing

theorem iff_of_scanned (scanned : Scanned 0 expression.toList tokens []) :
    OffendsAt expression position ↔
      ∃ place, Leaves IsExpression tokens place ∧ position = place.getD expression.length := by
  constructor
  · intro offends
    have isLexed := scanned.lexFrom_eq_ok
    cases offends with
    | character stuck nothing => cases isLexed.symm.trans (stuck.lexFrom_eq_error nothing)
    | tokens again leaves =>
        cases isLexed.symm.trans again.lexFrom_eq_ok
        exact ⟨_, leaves, rfl⟩
  · rintro ⟨place, leaves, rfl⟩
    exact .tokens scanned leaves

theorem le_length (offends : OffendsAt expression position) : position ≤ expression.length := by
  cases offends with
  | character => exact Nat.sub_le _ _
  | tokens scanned leaves =>
      cases leaves with
      | @token before after token more viable refused =>
          have bound := scanned.position_lt token (by simp)
          rw [String.length_toList, List.length_nil] at bound
          rw [Option.getD_some]
          omega
      | ending => exact Nat.le_refl _

end OffendsAt

namespace RelationTree

variable {F : Type}

/-- A text is read and does not offend, or it is refused with a syntax error at its one offence. -/
theorem read_or_offends (expression : String) :
    ((∃ tree : RelationTree F, parse expression = .ok tree) ∧
        ∀ position, ¬ OffendsAt expression position) ∨
      ∃ position reason, (parse expression : Result (RelationTree F)) =
          .error (.syntaxError expression position reason) ∧
        ∀ other, OffendsAt expression other ↔ other = position := by
  obtain ⟨tokens, rest, scanned, ends⟩ := exists_scanned 0 expression.toList
  rcases ends with rfl | ⟨c, others, rfl, nothing⟩
  · have isLexed : Lexed.read expression = .ok ⟨tokens, expression.length⟩ := by
      rw [Lexed.read, scanned.lexFrom_eq_ok, String.length_toList]
    cases outcome : Lexed.paths ⟨tokens, expression.length⟩ with
    | ok paths =>
        have isExpression : IsExpression (tokens.map (·.kind)) :=
          ⟨paths, Lexed.paths_eq_ok_iff.1 outcome⟩
        refine Or.inl ⟨⟨ofPaths paths, ?_⟩, fun position offends => ?_⟩
        · exact parse_eq_ok_iff.2 ⟨paths, ⟨_, isLexed, Lexed.paths_eq_ok_iff.1 outcome⟩, rfl⟩
        · obtain ⟨place, leaves, _⟩ := (OffendsAt.iff_of_scanned scanned).1 offends
          exact leaves.not_mem isExpression
    | error failure =>
        have leaves : Leaves IsExpression tokens failure.position := leaves_of_paths outcome
        have isRefused : (parse expression : Result (RelationTree F)) =
            .error (failure.toError expression expression.length) := by
          rw [parse]
          refine Result.bind_eq_error.2 (Or.inr ⟨_, isLexed, ?_⟩)
          rw [outcome]
          rfl
        obtain ⟨reason, isError⟩ : ∃ reason, failure.toError expression expression.length =
            .syntaxError expression (failure.position.getD expression.length) reason := by
          unfold ParseFailure.toError
          cases failure.position <;> exact ⟨_, rfl⟩
        refine Or.inr ⟨failure.position.getD expression.length, reason, ?_, fun other => ?_⟩
        · rw [isRefused, isError]
        · rw [OffendsAt.iff_of_scanned scanned]
          constructor
          · rintro ⟨place, again, rfl⟩
            rw [again.unique leaves]
          · rintro rfl
            exact ⟨_, leaves, rfl⟩
  · have isRefused := scanned.lexFrom_eq_error nothing
    rw [Nat.zero_add, String.length_toList] at isRefused
    refine Or.inr ⟨expression.length - (c :: others).length,
      "unexpected character " ++ quote (String.singleton c), ?_, fun other => ?_⟩
    · rw [parse, Lexed.read, isRefused]
      rfl
    · exact OffendsAt.iff_of_stuck scanned nothing

/-- A refusal is a syntax error at the place where the text offends, which lies in the text or at its
end. -/
theorem refuses_at_offence (expression : String) :
    (∀ error, (parse expression : Result (RelationTree F)) = .error error →
      ∃ position reason, error = .syntaxError expression position reason ∧
        position ≤ expression.length) ∧
    ∀ position, (∃ reason, (parse expression : Result (RelationTree F)) =
      .error (.syntaxError expression position reason)) ↔ OffendsAt expression position := by
  rcases read_or_offends (F := F) expression with
    ⟨⟨tree, isRead⟩, inoffensive⟩ | ⟨position, reason, isRefused, offends⟩
  · refine ⟨fun error refused => ?_, fun position => ?_⟩
    · cases isRead.symm.trans refused
    · refine iff_of_false ?_ (inoffensive position)
      rintro ⟨reason, refused⟩
      cases isRead.symm.trans refused
  · refine ⟨fun error refused => ?_, fun other => ?_⟩
    · cases isRefused.symm.trans refused
      exact ⟨position, reason, rfl, ((offends position).2 rfl).le_length⟩
    · rw [offends]
      constructor
      · rintro ⟨_, refused⟩
        cases isRefused.symm.trans refused
        rfl
      · rintro rfl
        exact ⟨reason, isRefused⟩

/-- A group is refused at its closing bracket if it ends after a comma: a group can go on after the
comma, but not with the bracket. -/
theorem dangling_comma_refused :
    (parse "a.[b, ]" : Result (RelationTree Unit)) =
        .error (.syntaxError "a.[b, ]" 6 "expected a relation name") ∧
      OffendsAt "a.[b, ]" 6 ∧ 6 ≤ "a.[b, ]".length := by
  have refused : (parse "a.[b, ]" : Result (RelationTree Unit)) =
      .error (.syntaxError "a.[b, ]" 6 "expected a relation name") := by decide +kernel
  obtain ⟨within, places⟩ := refuses_at_offence (F := Unit) "a.[b, ]"
  obtain ⟨position, reason, same, bound⟩ := within _ refused
  cases same
  exact ⟨refused, (places 6).1 ⟨_, refused⟩, bound⟩

end RelationTree

end RecordGraph
