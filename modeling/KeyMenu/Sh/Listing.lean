import KeyMenu.Sh.Command
import KeyMenu.Sh.Quoting

/-!
# Command texts of commands

The text of a command that has been read (`Command.listed`), as a shell shows its functions. Reading
the text gives the command again; blanks, line ends and the choice of quotes are the shell's own.
-/

namespace KeyMenu.Sh

/-- What is done to a parameter, as it stands behind its name. -/
def Change.listed : Change → Text
  | .plain => []
  | .length => []
  | .orElse forEmpty word => (if forEmpty then ":-" else "-").toList ++ word
  | .orAssign forEmpty word => (if forEmpty then ":=" else "=").toList ++ word
  | .orRefuse forEmpty => (if forEmpty then ":?" else "?").toList
  | .instead forEmpty word => (if forEmpty then ":+" else "+").toList ++ word
  | .without atEnd longest pattern =>
      let sign := if atEnd then '%' else '#'
      (if longest then [sign, sign] else [sign]) ++ pattern
  | .slice start count => ':' :: start ++ (count.elim [] (':' :: ·))
  | .exchange everywhere pattern replacement =>
      (if everywhere then "//" else "/").toList ++ pattern ++ '/' :: replacement
  | .cased toCapitals everywhere pattern =>
      let sign := if toCapitals then '^' else ','
      (if everywhere then [sign, sign] else [sign]) ++ pattern
  | .transformed letter => ['@', letter]
  | .namesLike isOne => if isOne then ['*'] else ['@']
  | .senseless => ['%', '?', '%']

/-- A parameter with its dollar sign. -/
def Parameter.listed (p : Parameter) : Text :=
  match p.change with
  | .length => "$\x7b#".toList ++ p.name ++ ['\x7d']
  | .namesLike isOne => "$\x7b!".toList ++ p.name ++ (if isOne then "*\x7d" else "@\x7d").toList
  | change =>
      if change = .plain && !p.isIndirect && (isName p.name || p.name.length = 1) then '$' :: p.name
      else "$\x7b".toList ++ (if p.isIndirect then ['!'] else []) ++ p.name ++ change.listed ++
        ['\x7d']

namespace Word

/-- A piece that is not plain. -/
def pieceListed : Piece → Text
  | .literal _ t => t
  | .parameter _ p => p.listed
  | .output _ script => "$(".toList ++ script ++ [')']
  | .feed isRead script => (if isRead then "<(" else ">(").toList ++ script ++ [')']
  | .elements list => '(' :: list ++ [')']
  | .calculation _ expression => "$((".toList ++ expression ++ "))".toList

/-- A piece is quoted. -/
def isQuotedPiece : Piece → Bool
  | .literal isQuoted _ => isQuoted
  | .parameter isQuoted _ => isQuoted
  | .output isQuoted _ => isQuoted
  | .calculation isQuoted _ => isQuoted
  | _ => false

/-- A piece as it stands between double quotes. -/
def pieceInside : Piece → Text
  | .literal _ t => t.flatMap fun c => if "$\x60\"\\".toList.contains c then ['\\', c] else [c]
  | p => pieceListed p

/-- The text of a word. -/
def listed (w : Word) : Text :=
  (w.splitBy fun a b => isQuotedPiece a == isQuotedPiece b).flatMap fun group =>
    if group.head?.any isQuotedPiece then
      match group with
      | [.literal true [c]] => if c = '\n' then "\"\n\"".toList else ['\\', c]
      | group => '"' :: group.flatMap pieceInside ++ ['"']
    else group.flatMap pieceListed

end Word

/-- A redirection. -/
def Redirect.listed (r : Redirect) : Text :=
  let standard := match r.direction with
    | .input | .copyIn | .document | .line | .both => 0
    | _ => 1
  let stream := match r.stream with
    | .number n => if n = standard then [] else Text.ofNat n
    | .named name => '\x7b' :: name ++ ['\x7d']
  let sign : String := match r.direction with
    | .input => "< "
    | .output => "> "
    | .overwrite => ">| "
    | .append => ">> "
    | .both => "<> "
    | .copyIn => "<&"
    | .copyOut => ">&"
    | .document => "<<< "
    | .line => "<<< "
    | .everything appends => if appends then "&>> " else "&> "
  stream ++ sign.toList ++ r.target.listed

/-- A simple command. -/
def Simple.listed (s : Simple) : Text :=
  Text.joinWith [' '] (s.words.map Word.listed ++ s.redirects.map Redirect.listed)

/-- A condition between double brackets. -/
def Judgement.listed : Judgement → Text
  | .words ws => Text.joinWith [' '] (ws.map Word.listed)
  | .negated inner => "! ".toList ++ inner.listed
  | .both left right => left.listed ++ " && ".toList ++ right.listed
  | .either left right => "( ".toList ++ left.listed ++ " || ".toList ++ right.listed ++ " )".toList

namespace Command

/-- A line end and blanks for a depth. -/
def lineAt (depth : Nat) : Text := '\n' :: List.replicate (4 * depth) ' '

/-- The command has text that a sign has to end. -/
def endsPlainly : Command → Bool
  | .background _ => false
  | .sequence _ second => second.isNothing || second.endsPlainly
  | _ => true

/-- The name and the words of a loop. -/
def loopListed (name : Text) (words : Option (List Word)) : Text :=
  match words with
  | some words => name ++ " in ".toList ++ Text.joinWith [' '] (words.map Word.listed)
  | none => name ++ " in \"$@\"".toList

/-- The text of a command whose lines begin at a depth, with enough fuel for its depth. -/
def listedAt : Nat → Nat → Command → Text
  | 0, _, _ => []
  | fuel + 1, depth, c =>
      let inner (c : Command) : Text := lineAt (depth + 1) ++ listedAt fuel (depth + 1) c
      let here (c : Command) : Text := listedAt fuel depth c
      let closed (c : Command) : Text := inner c ++ (if c.endsPlainly then [';'] else [])
      match c with
      | .nothing => []
      | .simple s => s.listed
      | .pipe left right => here left ++ " | ".toList ++ here right
      | .both left right => here left ++ " && ".toList ++ here right
      | .either left .nothing => here left ++ " || :".toList
      | .either left right => here left ++ " || ".toList ++ here right
      | .negated inner => "! ".toList ++ here inner
      | .sequence (.either (.calculation _ start) .nothing)
          (.loop false (.calculation _ condition) body (.calculation _ step)) =>
          "for ((".toList ++ start ++ "; ".toList ++ condition ++ "; ".toList ++ step ++
            "))".toList ++
            lineAt depth ++ "do".toList ++ closed body ++ lineAt depth ++ "done".toList
      | .sequence first .nothing => here first
      | .sequence first second =>
          here first ++ (if first.endsPlainly then [';'] else []) ++ lineAt depth ++ here second
      | .background inner => here inner ++ " &".toList
      | .subshell inner => "( ".toList ++ here inner ++ " )".toList
      | .choice condition yes no =>
          "if ".toList ++ here condition ++ "; then".toList ++ closed yes ++ lineAt depth ++
            (if no.isNothing then [] else "else".toList ++ closed no ++ lineAt depth) ++ "fi".toList
      | .loop isUntil condition body _ =>
          (if isUntil then "until " else "while ").toList ++ here condition ++ "; do".toList ++
            closed body ++ lineAt depth ++ "done".toList
      | .each name words body => "for ".toList ++ loopListed name words ++ [';'] ++ lineAt depth ++
          "do".toList ++ closed body ++ lineAt depth ++ "done".toList
      | .select name words body => "select ".toList ++ loopListed name words ++ [';'] ++
          lineAt depth ++ "do".toList ++ closed body ++ lineAt depth ++ "done".toList
      | .partner name inner => "coproc ".toList ++ name ++ ' ' :: here inner
      | .cases subject branches =>
          "case ".toList ++ subject.listed ++ " in ".toList ++
            (branches.flatMap fun (patterns, body, ending) =>
              lineAt (depth + 1) ++ Text.joinWith " | ".toList (patterns.map Word.listed) ++
                ")".toList ++ lineAt (depth + 2) ++ listedAt fuel (depth + 2) body ++
                lineAt (depth + 1) ++ (match ending with
                  | .done => ";;"
                  | .next => ";&"
                  | .others => ";;&").toList) ++ lineAt depth ++ "esac".toList
      | .define name body => "function ".toList ++ name ++ " () ".toList ++ lineAt depth ++
          "\x7b ".toList ++ inner body ++ lineAt depth ++ "\x7d".toList
      | .redirected inner redirects =>
          "\x7b ".toList ++ closed inner ++ lineAt depth ++ "\x7d ".toList ++
            Text.joinWith [' '] (redirects.map Redirect.listed)
      | .calculation _ expression => "((".toList ++ expression ++ "))".toList
      | .judgement _ j => "[[ ".toList ++ j.listed ++ " ]]".toList
/-- The text of a command. -/
def listed (c : Command) : Text := listedAt 200 0 c

/-- The body of a function as one of the shells shows it. -/
def bodyListed (body : Command) : Text :=
  "\x7b \n    ".toList ++ listedAt 200 1 body ++ "\n\x7d".toList

/-- A function as one of the shells shows it. -/
def functionListed (name : Text) (body : Command) : Text :=
  name ++ " () \n".toList ++ body.bodyListed ++ ['\n']

/-- The first words of a command, as a shell tells what it is about to do. -/
def summary : Command → Text
  | .each name words _ => "for ".toList ++ loopListed name words
  | .select name words _ => "select ".toList ++ loopListed name words
  | .cases subject _ => "case ".toList ++ subject.listed ++ " in".toList
  | c => c.listed

end Command

end KeyMenu.Sh
