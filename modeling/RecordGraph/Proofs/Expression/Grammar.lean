import RecordGraph.Expression.Parse
import RecordGraph.Proofs.Result
import Mathlib.Data.List.Basic

/-!
Contract: the grammar of expressions, and that the reader of tokens agrees with it.

Owns: `Phrase.Denotes`, `Expresses`, and what the state of the reader still demands.
Does not own: lexing, and the tree of the denoted paths.

The reader keeps the open groups on a stack and never looks ahead. What it will accept in a state
is therefore said of the whole stack: the rest of the innermost group, its closing bracket, and
then what may follow the group.
-/

namespace RecordGraph

/-! ## Phrases -/

/-- The phrases of the grammar. -/
inductive Phrase where
  | expression
  | items
  | item
deriving DecidableEq, Repr

/-- Whether tokens make up a phrase, and the paths that it denotes. -/
inductive Phrase.Denotes : Phrase → List TokenKind → List (List String) → Prop where
  | nothing : Denotes .expression [] []
  | listed {tokens : List TokenKind} {paths : List (List String)} :
      Denotes .items tokens paths → Denotes .expression tokens paths
  | last {tokens : List TokenKind} {paths : List (List String)} :
      Denotes .item tokens paths → Denotes .items tokens paths
  | more {first rest : List TokenKind} {paths others : List (List String)} :
      Denotes .item first paths → Denotes .items rest others →
        Denotes .items (first ++ .comma :: rest) (paths ++ others)
  | group {tokens : List TokenKind} {paths : List (List String)} :
      Denotes .items tokens paths → Denotes .item (.opening :: (tokens ++ [.closing])) paths
  | name (name : String) : Denotes .item [.name name] [[name]]
  | chained (name : String) {tokens : List TokenKind} {paths : List (List String)} :
      Denotes .item tokens paths →
        Denotes .item (.name name :: .point :: tokens) ([name] :: paths.map (name :: ·))

/-- Whether a text is a well-formed expression, and the paths that it denotes. -/
def Expresses (expression : String) (paths : List (List String)) : Prop :=
  ∃ lexed, Lexed.read expression = .ok lexed ∧
    Phrase.Denotes .expression (lexed.tokens.map (·.kind)) paths

namespace Phrase

variable {tokens : List TokenKind} {paths : List (List String)}

/-- Whether tokens continue a list after an item. -/
def Continues (tokens : List TokenKind) (paths : List (List String)) : Prop :=
  (tokens = [] ∧ paths = []) ∨ ∃ rest, tokens = .comma :: rest ∧ Denotes .items rest paths

/-- Items are an item and what continues the list. -/
theorem denotes_items_iff :
    Denotes .items tokens paths ↔ ∃ own more here there, tokens = own ++ more ∧
      paths = here ++ there ∧ Denotes .item own here ∧ Continues more there := by
  constructor
  · intro denotes
    cases denotes with
    | last item =>
        exact ⟨tokens, [], paths, [], (List.append_nil _).symm, (List.append_nil _).symm, item,
          Or.inl ⟨rfl, rfl⟩⟩
    | more item items => exact ⟨_, _, _, _, rfl, rfl, item, Or.inr ⟨_, rfl, items⟩⟩
  · rintro ⟨own, more, here, there, rfl, rfl, item, ⟨rfl, rfl⟩ | ⟨rest, rfl, items⟩⟩
    · rw [List.append_nil, List.append_nil]
      exact .last item
    · exact .more item items

theorem item_ne_nil (item : Denotes .item tokens paths) : tokens ≠ [] := by
  cases item <;> exact List.cons_ne_nil _ _

theorem items_ne_nil (items : Denotes .items tokens paths) : tokens ≠ [] := by
  cases items with
  | last item => exact item_ne_nil item
  | more => exact List.append_ne_nil_of_right_ne_nil _ (List.cons_ne_nil _ _)

/-- Denoted paths have names. -/
theorem Denotes.path_ne_nil {phrase : Phrase} (denotes : phrase.Denotes tokens paths) :
    ∀ path ∈ paths, path ≠ [] := by
  induction denotes with
  | nothing => exact fun _ member => absurd member List.not_mem_nil
  | listed _ inductionHypothesis => exact inductionHypothesis
  | last _ inductionHypothesis => exact inductionHypothesis
  | more _ _ itemHypothesis itemsHypothesis =>
      exact List.forall_mem_append.2 ⟨itemHypothesis, itemsHypothesis⟩
  | group _ inductionHypothesis => exact inductionHypothesis
  | name name => exact List.forall_mem_singleton.2 (List.cons_ne_nil _ _)
  | chained name =>
      rw [List.forall_mem_cons, List.forall_mem_map]
      exact ⟨List.cons_ne_nil _ _, fun _ _ => List.cons_ne_nil _ _⟩

/-- Every name of a denoted path is that of a token. -/
theorem Denotes.name_mem {phrase : Phrase} (denotes : phrase.Denotes tokens paths) :
    ∀ path ∈ paths, ∀ name ∈ path, TokenKind.name name ∈ tokens := by
  induction denotes with
  | nothing => exact fun _ member => absurd member List.not_mem_nil
  | listed _ inductionHypothesis => exact inductionHypothesis
  | last _ inductionHypothesis => exact inductionHypothesis
  | more _ _ itemHypothesis itemsHypothesis =>
      intro path isPath name isName
      rw [List.mem_append, List.mem_cons]
      rcases List.mem_append.1 isPath with isPath | isPath
      · exact Or.inl (itemHypothesis path isPath name isName)
      · exact Or.inr (Or.inr (itemsHypothesis path isPath name isName))
  | group _ inductionHypothesis =>
      intro path isPath name isName
      exact List.mem_cons_of_mem _
        (List.mem_append_left _ (inductionHypothesis path isPath name isName))
  | name first =>
      intro path isPath name isName
      cases List.mem_singleton.1 isPath
      cases List.mem_singleton.1 isName
      exact List.mem_singleton.2 rfl
  | chained first _ inductionHypothesis =>
      intro path isPath name isName
      rcases List.mem_cons.1 isPath with rfl | isPath
      · cases List.mem_singleton.1 isName
        exact List.mem_cons_self ..
      · obtain ⟨below, isBelow, rfl⟩ := List.mem_map.1 isPath
        rcases List.mem_cons.1 isName with rfl | isName
        · exact List.mem_cons_self ..
        · exact List.mem_cons_of_mem _
            (List.mem_cons_of_mem _ (inductionHypothesis below isBelow name isName))

end Phrase

/-! ## Demands of the reader -/

open Phrase

variable {path : List String} {groups : List (List String)} {kind : TokenKind}
  {kinds : List TokenKind} {paths : List (List String)}

/-- What may follow a complete item: more of the innermost group and what follows that group. -/
def Closes : (groups : List (List String)) → List TokenKind → List (List String) → Prop
  | [], kinds, paths => Continues kinds paths
  | path :: outer, kinds, paths => ∃ more rest here there, kinds = more ++ .closing :: rest ∧
      paths = here.map (path ++ ·) ++ there ∧ Continues more here ∧ Closes outer rest there

/-- An item below a path, and what may follow it. -/
def ItemCloses (path : List String) (groups : List (List String)) (kinds : List TokenKind)
    (paths : List (List String)) : Prop :=
  ∃ own rest here there, kinds = own ++ rest ∧ paths = here.map (path ++ ·) ++ there ∧
    Denotes .item own here ∧ Closes groups rest there

/-- What a state of the reader still demands. -/
def ParseState.Demands : ParseState → List TokenKind → List (List String) → Prop
  | .item path groups, kinds, paths | .first path groups, kinds, paths =>
      ItemCloses path groups kinds paths
  | .named path groups, kinds, paths =>
      Closes groups kinds paths ∨ ∃ rest, kinds = .point :: rest ∧ ItemCloses path groups rest paths
  | .grouped groups, kinds, paths => Closes groups kinds paths

theorem itemCloses_nil : ¬ ItemCloses path groups [] paths := by
  rintro ⟨own, rest, here, there, isAppend, _, item, _⟩
  exact item_ne_nil item (List.append_eq_nil_iff.1 isAppend.symm).1

theorem closes_nil_iff : Closes groups [] paths ↔ groups = [] ∧ paths = [] := by
  cases groups with
  | nil => simp [Closes, Continues]
  | cons path outer => simp [Closes]

/-- Items in the outermost list. -/
theorem itemCloses_outermost : ItemCloses [] [] kinds paths ↔ Denotes .items kinds paths := by
  rw [denotes_items_iff]
  simp only [ItemCloses, Closes, List.nil_append, List.map_id_fun', id_eq]

/-- Items in a group are read up to its end. -/
theorem itemCloses_group : ItemCloses path (path :: groups) kinds paths ↔
    ∃ own rest here there, kinds = own ++ .closing :: rest ∧
      paths = here.map (path ++ ·) ++ there ∧ Denotes .items own here ∧
      Closes groups rest there := by
  constructor
  · rintro ⟨own, _, here, _, rfl, rfl, item, more, rest, others, there, rfl, rfl, continues, closes⟩
    refine ⟨own ++ more, rest, here ++ others, there, (List.append_assoc ..).symm, ?_,
      denotes_items_iff.2 ⟨own, more, here, others, rfl, rfl, item, continues⟩, closes⟩
    rw [List.map_append, List.append_assoc]
  · rintro ⟨_, rest, _, there, rfl, rfl, items, closes⟩
    obtain ⟨own, more, here, others, rfl, rfl, item, continues⟩ := denotes_items_iff.1 items
    refine ⟨own, more ++ .closing :: rest, here, others.map (path ++ ·) ++ there,
      List.append_assoc .., ?_, item, more, rest, others, there, rfl, rfl, continues, closes⟩
    rw [List.map_append, List.append_assoc]

/-! ### One token -/

theorem itemCloses_name {name : String} : ItemCloses path groups (.name name :: kinds) paths ↔
    ∃ others, paths = (path ++ [name]) :: others ∧
      (ParseState.named (path ++ [name]) groups).Demands kinds others := by
  constructor
  · rintro ⟨own, rest, here, there, isAppend, rfl, item, closes⟩
    cases item with
    | group => cases isAppend
    | name =>
        cases isAppend
        exact ⟨there, rfl, Or.inl closes⟩
    | chained name item =>
        cases isAppend
        refine ⟨_, rfl, Or.inr ⟨_, rfl, _, _, _, there, rfl, ?_, item, closes⟩⟩
        rw [List.map_map, ← List.map_eq_map_iff.2 fun _ _ => List.append_cons ..]
        rfl
  · rintro ⟨others, rfl, closes | ⟨rest, rfl, own, rest', here, there, rfl, rfl, item, closes⟩⟩
    · exact ⟨[.name name], kinds, [[name]], others, rfl, rfl, .name name, closes⟩
    · refine ⟨_, rest', _, there, rfl, ?_, .chained name item, closes⟩
      simp

theorem itemCloses_opening : ItemCloses path groups (.opening :: kinds) paths ↔
    (ParseState.first path (path :: groups)).Demands kinds paths := by
  change _ ↔ ItemCloses path (path :: groups) kinds paths
  rw [itemCloses_group]
  constructor
  · rintro ⟨own, rest, here, there, isAppend, rfl, item, closes⟩
    cases item with
    | group items =>
        rw [List.cons_append, List.cons.injEq, List.append_assoc] at isAppend
        exact ⟨_, rest, here, there, isAppend.2, rfl, items, closes⟩
    | name => cases isAppend
    | chained => cases isAppend
  · rintro ⟨own, rest, here, there, rfl, rfl, items, closes⟩
    exact ⟨_, rest, here, there, by simp, rfl, .group items, closes⟩

/-- Nothing but a name and an opening bracket begins an item. -/
theorem itemCloses_other (noName : ∀ name, kind ≠ .name name) (notOpening : kind ≠ .opening) :
    ¬ ItemCloses path groups (kind :: kinds) paths := by
  rintro ⟨own, rest, here, there, isAppend, _, item, _⟩
  cases item with
  | group =>
      cases isAppend
      exact notOpening rfl
  | name name =>
      cases isAppend
      exact noName name rfl
  | chained name =>
      cases isAppend
      exact noName name rfl

theorem closes_comma : Closes groups (.comma :: kinds) paths ↔
    ItemCloses (groups.headD []) groups kinds paths := by
  cases groups with
  | nil =>
      rw [List.headD_nil, itemCloses_outermost]
      simp [Closes, Continues]
  | cons path outer =>
      rw [List.headD_cons, itemCloses_group]
      constructor
      · rintro ⟨more, rest, here, there, isAppend, rfl, ⟨rfl, rfl⟩ | ⟨own, rfl, items⟩, closes⟩
        · cases isAppend
        · rw [List.cons_append, List.cons.injEq] at isAppend
          exact ⟨own, rest, here, there, isAppend.2, rfl, items, closes⟩
      · rintro ⟨own, rest, here, there, rfl, rfl, items, closes⟩
        exact ⟨.comma :: own, rest, here, there, rfl, rfl, Or.inr ⟨own, rfl, items⟩, closes⟩

theorem closes_closing : Closes (path :: groups) (.closing :: kinds) paths ↔
    Closes groups kinds paths := by
  constructor
  · rintro ⟨more, rest, here, there, isAppend, rfl, ⟨rfl, rfl⟩ | ⟨own, rfl, _⟩, closes⟩
    · rw [List.nil_append, List.cons.injEq] at isAppend
      rw [isAppend.2]
      exact closes
    · cases isAppend
  · intro closes
    exact ⟨[], kinds, [], paths, rfl, rfl, Or.inl ⟨rfl, rfl⟩, closes⟩

/-- Nothing but a comma and the end of a group follows an item. -/
theorem closes_other (notComma : kind ≠ .comma) (notClosing : groups = [] ∨ kind ≠ .closing) :
    ¬ Closes groups (kind :: kinds) paths := by
  cases groups with
  | nil =>
      rintro (⟨isNil, _⟩ | ⟨rest, isCons, _⟩)
      · cases isNil
      · cases isCons
        exact notComma rfl
  | cons path outer =>
      rintro ⟨more, rest, here, there, isAppend, _, ⟨rfl, _⟩ | ⟨own, rfl, _⟩, _⟩
      · cases isAppend
        exact notClosing.elim (List.cons_ne_nil _ _) fun differs => differs rfl
      · cases isAppend
        exact notComma rfl

/-- Whether the outcome of a token is a state that accepts what is left. -/
def Advances (outcome : Except ParseFailure (ParseState × List (List String)))
    (kinds : List TokenKind) (paths : List (List String)) : Prop :=
  ∃ next denoted others, outcome = .ok (next, denoted) ∧ paths = denoted ++ others ∧
    next.Demands kinds others

theorem advances_ok {next : ParseState} {denoted : List (List String)} :
    Advances (.ok (next, denoted)) kinds paths ↔
      ∃ others, paths = denoted ++ others ∧ next.Demands kinds others := by
  constructor
  · rintro ⟨_, _, others, ⟨⟩, isAppend, demands⟩
    exact ⟨others, isAppend, demands⟩
  · rintro ⟨others, isAppend, demands⟩
    exact ⟨next, denoted, others, rfl, isAppend, demands⟩

theorem advances_quietly {next : ParseState} :
    Advances (.ok (next, [])) kinds paths ↔ next.Demands kinds paths := by
  rw [advances_ok]
  simp

theorem not_advances_error {failure : ParseFailure} : ¬ Advances (.error failure) kinds paths := by
  rintro ⟨_, _, _, ⟨⟩, _⟩

theorem beginItem_advances (token : Token) :
    Advances (beginItem path groups token) kinds paths ↔
      ItemCloses path groups (token.kind :: kinds) paths := by
  unfold beginItem
  cases token.kind with
  | name name =>
      rw [itemCloses_name]
      exact advances_ok
  | opening =>
      rw [itemCloses_opening]
      exact advances_quietly
  | point =>
      exact iff_of_false not_advances_error (itemCloses_other (by simp) (by simp))
  | comma =>
      exact iff_of_false not_advances_error (itemCloses_other (by simp) (by simp))
  | closing =>
      exact iff_of_false not_advances_error (itemCloses_other (by simp) (by simp))

theorem followItem_advances (token : Token) :
    Advances (followItem groups token) kinds paths ↔ Closes groups (token.kind :: kinds) paths := by
  unfold followItem
  cases token.kind with
  | comma =>
      rw [closes_comma]
      cases groups <;> exact advances_quietly
  | closing =>
      cases groups with
      | nil => exact iff_of_false not_advances_error (closes_other (by simp) (Or.inl rfl))
      | cons path outer =>
          rw [closes_closing]
          exact advances_quietly
  | name name =>
      refine iff_of_false ?_ (closes_other (by simp) (Or.inr (by simp)))
      cases groups <;> exact not_advances_error
  | point =>
      refine iff_of_false ?_ (closes_other (by simp) (Or.inr (by simp)))
      cases groups <;> exact not_advances_error
  | opening =>
      refine iff_of_false ?_ (closes_other (by simp) (Or.inr (by simp)))
      cases groups <;> exact not_advances_error

/-- A token takes the reader from what it demands to what it demands next. -/
theorem step_advances (state : ParseState) (token : Token) :
    Advances (state.step token) kinds paths ↔ state.Demands (token.kind :: kinds) paths := by
  cases state with
  | item path groups => exact beginItem_advances token
  | first path groups =>
      rw [ParseState.step]
      split
      · rename_i isClosing
        refine iff_of_false not_advances_error ?_
        rw [isClosing]
        exact itemCloses_other (by simp) (by simp)
      · exact beginItem_advances token
  | named path groups =>
      rw [ParseState.step, ParseState.Demands]
      split
      · rename_i isPoint
        have notClosed : ¬ Closes groups (.point :: kinds) paths :=
          closes_other (by simp) (Or.inr (by simp))
        rw [advances_quietly, isPoint]
        simp [notClosed, ParseState.Demands]
      · rename_i notPoint
        rw [followItem_advances]
        simp [notPoint]
  | grouped groups => exact followItem_advances token

theorem lack?_eq_none_iff {state : ParseState} :
    state.lack? = none ∧ paths = [] ↔ state.Demands [] paths := by
  cases state with
  | item path groups => exact iff_of_false (by simp [ParseState.lack?]) itemCloses_nil
  | first path groups => exact iff_of_false (by simp [ParseState.lack?]) itemCloses_nil
  | named path groups =>
      rw [ParseState.Demands, closes_nil_iff]
      cases groups <;> simp [ParseState.lack?]
  | grouped groups =>
      rw [ParseState.Demands, closes_nil_iff]
      cases groups <;> simp [ParseState.lack?]

/-- The reader succeeds exactly on what its state demands. -/
theorem parseTokens_eq_ok_iff {tokens : List Token} : ∀ {state : ParseState} {paths},
    parseTokens state tokens = .ok paths ↔ state.Demands (tokens.map (·.kind)) paths := by
  induction tokens with
  | nil =>
      intro state paths
      rw [List.map_nil, ← lack?_eq_none_iff, parseTokens]
      cases state.lack? <;> simp [eq_comm]
  | cons token rest inductionHypothesis =>
      intro state paths
      rw [List.map_cons, ← step_advances, parseTokens]
      cases stepped : state.step token with
      | error failure => exact iff_of_false (by simp) not_advances_error
      | ok outcome =>
          rcases outcome with ⟨next, denoted⟩
          rw [advances_ok]
          simp only [← inductionHypothesis]
          constructor
          · intro isOk
            obtain ⟨others, isRest, rfl⟩ := Result.map_eq_ok.1 isOk
            exact ⟨others, rfl, isRest⟩
          · rintro ⟨others, rfl, isRest⟩
            exact Result.map_eq_ok.2 ⟨others, isRest, rfl⟩

/-- Tokens are read exactly if they make up an expression. -/
theorem Lexed.paths_eq_ok_iff {lexed : Lexed} :
    lexed.paths = .ok paths ↔ Phrase.Denotes .expression (lexed.tokens.map (·.kind)) paths := by
  unfold Lexed.paths
  cases lexed.tokens with
  | nil =>
      constructor
      · rintro ⟨⟩
        exact .nothing
      · intro denotes
        cases denotes with
        | nothing => rfl
        | listed items => exact absurd rfl (items_ne_nil items)
  | cons token rest =>
      refine parseTokens_eq_ok_iff.trans ?_
      rw [ParseState.Demands, itemCloses_outermost]
      constructor
      · exact .listed
      · rintro (_ | items)
        exact items

/-- Well-formed expressions denote one list of paths. -/
theorem Expresses.unique {expression : String} {paths others : List (List String)}
    (expresses : Expresses expression paths) (again : Expresses expression others) :
    paths = others := by
  obtain ⟨lexed, isLexed, denotes⟩ := expresses
  obtain ⟨_, isSame, denotesOthers⟩ := again
  cases isLexed.symm.trans isSame
  exact Except.ok.inj
    ((Lexed.paths_eq_ok_iff.2 denotes).symm.trans (Lexed.paths_eq_ok_iff.2 denotesOthers))

/-- An expression is parsed exactly if it is well formed, to the tree of its paths. -/
theorem RelationTree.parse_eq_ok_iff {F : Type} {expression : String} {tree : RelationTree F} :
    parse expression = .ok tree ↔ ∃ paths, Expresses expression paths ∧ tree = ofPaths paths := by
  unfold parse Expresses
  simp only [Result.bind_eq_ok, ← Lexed.paths_eq_ok_iff]
  constructor
  · rintro ⟨lexed, isLexed, parsed⟩
    cases isPaths : lexed.paths with
    | ok paths =>
        rw [isPaths] at parsed
        exact ⟨paths, ⟨lexed, isLexed, isPaths⟩, (Result.pure_eq_ok.1 parsed).symm⟩
    | error failure =>
        rw [isPaths] at parsed
        exact absurd parsed Result.throw_ne_ok
  · rintro ⟨paths, ⟨lexed, isLexed, isPaths⟩, rfl⟩
    refine ⟨lexed, isLexed, ?_⟩
    rw [isPaths]
    rfl

end RecordGraph
