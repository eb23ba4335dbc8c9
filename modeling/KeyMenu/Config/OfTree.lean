import KeyMenu.Config.Conflict
import KeyMenu.Config.Fault
import KeyMenu.Tree.Grammar

/-!
# From trees to configurations

`Config.assemble` takes a tree to a configuration item by item; of several items of one name it
keeps the first. `Config.faults` lists everything that is wrong with the tree, in the order in
which a reader would meet it, and `Config.ofTree` accepts a tree without faults.

* `Config.ofTree`, `Config.ofText`.
-/

namespace KeyMenu

/-- The first item of each name. -/
def keepFirst {α : Type} (name : α → Text) : List α → List α
  | [] => []
  | x :: rest => x :: (keepFirst name rest).filter (name · ≠ name x)

/-- Where all names differ, nothing is dropped. -/
theorem keepFirst_eq_self {α : Type} {name : α → Text} {items : List α}
    (h : (items.map name).Nodup) : keepFirst name items = items := by
  induction items with
  | nil => rfl
  | cons x rest ih =>
      rw [List.map_cons, List.nodup_cons] at h
      rw [keepFirst, ih h.2, List.filter_eq_self.2]
      intro y hy
      simp only [ne_eq, decide_eq_true_eq]
      exact fun he => h.1 (List.mem_map.2 ⟨y, hy, he⟩)

/-! ### From nodes to parts -/

/-- A piece without its position. -/
def Part.ofTree : Tree.Piece → Part
  | .literal value _ => .literal value
  | .reference name _ => .reference name

/-- An expression without positions. -/
def Expr.ofTree (e : Tree.Expression) : Expr := e.pieces.map Part.ofTree

/-- The word that makes a command lead back to its menu. -/
def repeatWord : Text := "repeat".toList

/-- The word that lets a command fail. -/
def ignoreResultWord : Text := "ignore_result".toList

/-- What the clauses of a block say. The last shell clause counts. -/
def Options.ofTree (b : Tree.CommandBlock) : Options :=
  let words := b.settings.flatten.map (·.name)
  { repeats := words.contains repeatWord
    ignoresResult := words.contains ignoreResultWord
    vars := (keepFirst (·.name) b.vars.flatten).map fun v => ⟨v.name, v.default⟩
    shell := b.shells.getLast?.map (·.shell) }

/-- A command with the given options. -/
def Command.ofTree (q : Tree.QuickCommand) (options : Option Options) : Command :=
  ⟨Expr.ofTree q.expr, q.name, q.togglesEcho, options⟩

/-- What a key leads to. -/
def Entry.ofTree : Tree.EntryValue → Entry
  | .menu name => .submenu name.name
  | .quick q => .command (Command.ofTree q none)
  | .block b => .command (Command.ofTree b.command (some (Options.ofTree b)))

/-- A menu with the first entry of each key. -/
def Menu.ofTree (m : Tree.Menu) : Menu :=
  ⟨m.name, m.title, (keepFirst (·.key) m.entries).map fun e => (e.key, Entry.ofTree e.value)⟩

namespace Tree.File

/-- The snippets of a file, in order. -/
def snippets (f : File) : List Snippet :=
  f.items.filterMap fun
    | .snippet s => some s
    | _ => none

/-- The menus of a file, in order. -/
def menus (f : File) : List Menu :=
  f.items.filterMap fun
    | .menu m => some m
    | _ => none

/-- The shell settings of a file, in order. -/
def shells (f : File) : List Shell :=
  f.settings.filterMap fun
    | .shell line => some line.shell
    | _ => none

/-- The echo settings of a file, in order. -/
def echoes (f : File) : List Bool :=
  f.settings.filterMap fun
    | .echo on _ => some on
    | _ => none

end Tree.File

/-- The last setting of each kind counts; commands are echoed unless the file says otherwise. -/
def Settings.ofTree (f : Tree.File) : Settings :=
  ⟨f.shells.getLast?, f.echoes.getLast?.getD true⟩

/-- The configuration that a tree describes. -/
def Config.assemble (f : Tree.File) : Config :=
  { settings := Settings.ofTree f
    snippets := (keepFirst (·.name) f.snippets).map fun s => (s.name, Expr.ofTree s.expr)
    menus := (keepFirst (·.name) f.menus).map Menu.ofTree }

/-! ### Faults -/

/-- Settings given again; the flags say which have been given. -/
def settingFaults (shellGiven echoGiven : Bool) : List Tree.Setting → List Fault
  | [] => []
  | .shell line :: rest =>
      (if shellGiven then [.shellSetAgain line.pos] else []) ++ settingFaults true echoGiven rest
  | .echo _ pos :: rest =>
      (if echoGiven then [.echoSetAgain pos] else []) ++ settingFaults shellGiven true rest

/-- Variables declared again; `seen` holds the names so far. -/
def variableFaults (seen : List Text) : List Tree.Variable → List Fault
  | [] => []
  | v :: rest =>
      if v.name ∈ seen then .variableAgain v.pos v.name :: variableFaults seen rest
      else variableFaults (v.name :: seen) rest

/-- What is wrong with the block of an entry. -/
def blockFaults (menu key : Text) (b : Tree.CommandBlock) : List Fault :=
  let again (clause : ClauseKind) (count : Nat) : List Fault :=
    if 1 < count then [.clauseAgain b.pos menu key clause] else []
  again .set b.settings.length ++ again .vars b.vars.length ++ again .shell b.shells.length ++
    (b.settings.flatten.filter fun s => s.name ≠ repeatWord ∧ s.name ≠ ignoreResultWord).map
      (fun s => .unknownSetting s.pos s.name) ++
    variableFaults [] b.vars.flatten

/-- What is wrong with the entries of a menu; `seen` holds the keys so far. -/
def entryFaults (menu : Text) (seen : List Text) : List Tree.Entry → List Fault
  | [] => []
  | e :: rest =>
      if e.key ∈ seen then .duplicateKey e.pos menu e.key :: entryFaults menu seen rest
      else
        (match e.value with
          | .block b => blockFaults menu e.key b
          | _ => []) ++
          entryFaults menu (e.key :: seen) rest

/-- What is wrong with the items, each on its own; the lists hold the names so far. -/
def itemFaults (snippets menus : List Text) : List Tree.Item → List Fault
  | [] => []
  | .snippet s :: rest =>
      if s.name ∈ snippets then .duplicateSnippet s.pos s.name :: itemFaults snippets menus rest
      else itemFaults (s.name :: snippets) menus rest
  | .menu m :: rest =>
      if m.name ∈ menus then .duplicateMenu m.pos m.name :: itemFaults snippets menus rest
      else entryFaults m.name [] m.entries ++ itemFaults snippets (m.name :: menus) rest

/-- Keys of a menu that hide others. -/
def hiddenKeyFaults (m : Menu) : List Fault :=
  (keyConflicts m.keys).map fun (short, longer) => .hiddenKey m.name short longer

/-- Names that an entry of a menu uses and the configuration does not have. -/
def referenceFaults (c : Config) (menu key : Text) : Entry → List Fault
  | .submenu name => if (c.menu? name).isSome then [] else [.undefinedMenu menu key name]
  | .command command =>
      (command.expr.references.filter fun name => (c.snippets.get? name).isNone).map
        (.undefinedSnippet menu key ·)

namespace Config

/-- What is wrong with a configuration as a whole. -/
def graphFaults (c : Config) : List Fault :=
  (if (c.menu? rootName).isSome then [] else [.missingRoot]) ++
    (c.menus.flatMap fun m =>
      hiddenKeyFaults m ++
        m.entries.flatMap fun (key, entry) => referenceFaults c m.name key entry) ++
    c.snippets.faults.map .snippets

/-- Everything that is wrong with a tree. -/
def faults (f : Tree.File) : List Fault :=
  settingFaults false false f.settings ++ itemFaults [] [] f.items ++ graphFaults (assemble f)

/-- The configuration of a tree without faults. -/
def ofTree (f : Tree.File) : Except (List Fault) Config :=
  match faults f with
  | [] => .ok (assemble f)
  | found => .error found

end Config

/-- Why a text is no configuration. -/
inductive ConfigError
  | parse (error : ParseError)
  | model (faults : List Fault)
  deriving DecidableEq

/-- Reads a configuration. -/
def Config.ofText (text : Text) : Except ConfigError Config :=
  match Tree.File.parse text with
  | .error error => .error (.parse error)
  | .ok tree =>
      match Config.ofTree tree with
      | .error faults => .error (.model faults)
      | .ok config => .ok config

end KeyMenu
