import KeyMenu.Tree.Grammar

/-!
# Properties of all rules of the grammar

The rules of the grammar are put together from a few rules for tokens in a few ways. A property that
the token rules have and that each of these ways keeps (`Rule.Closed`) belongs to every rule of the
grammar (`Rule.Closed.file`). Shell lines are left open, so that a property may come from elsewhere
for them.
-/

namespace KeyMenu.Rule

/-- The rules for tokens have the property, and it goes over to what is put together from rules that
have it. -/
structure Closed (Q : {α : Type} → Rule α → Prop) : Prop where
  skip (gap : Gap) : Q (skip gap)
  here : Q here
  rest : Q rest
  expect {α : Type} (what : Text) : Q (expect what : Rule α)
  mark (gap : Gap) (token : Char) : Q (mark gap token)
  keyword (word : Text) : Q (keyword word)
  symbol (what : Text) : Q (symbol what)
  string : Q string
  key : Q key
  referenceHere : Q referenceHere
  pure {α : Type} (a : α) : Q (Pure.pure a : Rule α)
  failure {α : Type} : Q (failure : Rule α)
  bind {α β : Type} {r : Rule α} {f : α → Rule β} : Q r → (∀ a, Q (f a)) → Q (r >>= f)
  orElse {α : Type} {r s : Rule α} : Q r → Q s → Q (r <|> s)
  commit {α : Type} {r : Rule α} : Q r → Q (commit r)
  many {α : Type} {r : Rule α} : Q r → Q (many r)

namespace Closed

variable {Q : {α : Type} → Rule α → Prop} {α : Type} (hQ : Closed Q)
include hQ

theorem optional {r : Rule α} (hr : Q r) : Q (optional r) :=
  hQ.orElse (hQ.bind hr fun a => hQ.pure (some a)) (hQ.pure none)

theorem oneOrMore {r : Rule α} (hr : Q r) : Q (oneOrMore r) :=
  hQ.bind hr fun _ => hQ.bind (hQ.many hr) fun _ => hQ.pure _

/-- What a construct contains, once the construct has been read. -/
theorem map {β : Type} {r : Rule α} (hr : Q r) (f : α → β) :
    Q (do return f (← r) : Rule β) :=
  hQ.bind hr fun _ => hQ.pure _

/-! ### Expressions and commands -/

theorem piece : Q piece :=
  hQ.orElse (hQ.bind hQ.string fun _ => hQ.pure _) (hQ.bind (hQ.skip _) fun _ => hQ.referenceHere)

theorem expressionFrom (head : Tree.Piece) : Q (expressionFrom head) := by
  have hnext : Q (do Rule.mark .sameLine '+'; Rule.commit Rule.piece : Rule Tree.Piece) :=
    hQ.bind (hQ.mark _ _) fun _ => hQ.commit hQ.piece
  exact hQ.bind (hQ.many hnext) fun _ => hQ.pure _

theorem expression : Q expression := hQ.bind hQ.piece fun _ => hQ.expressionFrom _

theorem quickCommand : Q quickCommand := by
  have hmark (gap : Gap) (token : Char) := hQ.optional (hQ.mark gap token)
  refine hQ.bind (hQ.optional hQ.string) fun name => ?_
  split
  · refine hQ.bind (hmark _ _) fun named => ?_
    split
    · exact hQ.commit (hQ.bind (hmark _ _) fun _ => hQ.map hQ.expression _)
    · exact hQ.map (hQ.expressionFrom _) _
  · refine hQ.bind (hmark _ _) fun toggle => ?_
    split
    · exact hQ.commit (hQ.map hQ.expression _)
    · exact hQ.map hQ.expression _

theorem commaList {item : Rule α} (h : Q item) : Q (commaList item) := by
  have hnext : Q (do Rule.mark .anyLine ','; Rule.commit item : Rule α) :=
    hQ.bind (hQ.mark _ _) fun _ => hQ.commit h
  exact hQ.commit (hQ.bind h fun _ => hQ.map (hQ.many hnext) _)

theorem variableDefinition : Q variableDefinition := by
  have hdefault : Q (do Rule.mark .anyLine '='; Rule.commit Rule.string : Rule (Text × Position)) :=
    hQ.bind (hQ.mark _ _) fun _ => hQ.commit hQ.string
  exact hQ.bind (hQ.symbol _) fun _ => hQ.map (hQ.optional hdefault) _

theorem listClause {item : Rule α} (h : Q item) (word : Text) (f : List α → Tree.Clause) :
    Q (do Rule.keyword word; return f (← Rule.commaList item) : Rule Tree.Clause) :=
  hQ.bind (hQ.keyword word) fun _ => hQ.map (hQ.commaList h) _

theorem snippet : Q snippet := by
  refine hQ.bind (hQ.skip _) fun _ => hQ.bind hQ.here fun _ => ?_
  refine hQ.bind (hQ.keyword _) fun _ => hQ.commit ?_
  refine hQ.bind (hQ.symbol _) fun _ => hQ.bind (hQ.mark _ _) fun _ => ?_
  exact hQ.map hQ.expression _

theorem echoSetting : Q echoSetting := by
  refine hQ.bind (hQ.skip _) fun _ => hQ.bind hQ.here fun _ => ?_
  refine hQ.bind (hQ.keyword _) fun _ => hQ.commit (hQ.orElse ?_ ?_)
  · exact hQ.bind (hQ.keyword _) fun _ => hQ.pure _
  · exact hQ.bind (hQ.keyword _) fun _ => hQ.pure _

theorem finish : Q finish := by
  refine hQ.bind (hQ.skip _) fun _ => hQ.bind hQ.rest fun text => ?_
  split
  · exact hQ.pure _
  · exact hQ.commit (hQ.expect _)

/-! ### Constructs with shell lines -/

section

variable (hshell : Q shellLine)
include hshell

theorem clause : Q clause :=
  hQ.orElse (hQ.listClause (hQ.symbol _) _ _)
    (hQ.orElse (hQ.listClause hQ.variableDefinition _ _) (hQ.map hshell _))

theorem commandBlock : Q commandBlock := by
  refine hQ.bind (hQ.skip _) fun _ => hQ.bind hQ.here fun _ => ?_
  refine hQ.bind (hQ.keyword _) fun _ => hQ.bind (hQ.mark _ _) fun _ => hQ.commit ?_
  refine hQ.bind (hQ.many (hQ.clause hshell)) fun _ => hQ.bind hQ.quickCommand fun _ => ?_
  exact hQ.bind (hQ.mark _ _) fun _ => hQ.pure _

theorem entryValue : Q entryValue :=
  hQ.commit (hQ.orElse (hQ.map (hQ.commandBlock hshell) _)
    (hQ.orElse (hQ.map hQ.quickCommand _) (hQ.map (hQ.symbol _) _)))

theorem entry : Q entry := hQ.bind hQ.key fun _ => hQ.map (hQ.entryValue hshell) _

theorem menu : Q menu := by
  refine hQ.bind (hQ.skip _) fun _ => hQ.bind hQ.here fun _ => ?_
  refine hQ.bind (hQ.keyword _) fun _ => hQ.commit ?_
  refine hQ.bind (hQ.optional hQ.string) fun _ => hQ.bind (hQ.symbol _) fun _ => ?_
  refine hQ.bind (hQ.mark _ _) fun _ => hQ.bind (hQ.oneOrMore (hQ.entry hshell)) fun _ => ?_
  exact hQ.bind (hQ.mark _ _) fun _ => hQ.pure _

theorem setting : Q setting := hQ.orElse (hQ.map hshell _) hQ.echoSetting

theorem item : Q item := hQ.orElse (hQ.map (hQ.menu hshell) _) (hQ.map hQ.snippet _)

/-- **A closed property that shell lines have belongs to the rule for whole files.** -/
theorem file : Q file := by
  refine hQ.bind (hQ.many (hQ.setting hshell)) fun _ => ?_
  refine hQ.bind (hQ.many (hQ.item hshell)) fun _ => ?_
  refine hQ.bind (hQ.skip _) fun _ => hQ.bind hQ.rest fun text => ?_
  split
  · exact hQ.commit hQ.failure
  · exact hQ.pure _

end

end Closed

end KeyMenu.Rule
